import HookGate.Toml.Value

/-! # Numbers, times and words of TOML

A scalar without quotes is read from the whole run of characters that scalars are made of. -/
namespace HookGate.Toml.Scalar

private def isDigitOf (base : Nat) (c : Char) : Bool :=
  let v := if c.isDigit then c.toNat - 48 else if 'a' ≤ c ∧ c ≤ 'f' then c.toNat - 87
    else if 'A' ≤ c ∧ c ≤ 'F' then c.toNat - 55 else 16
  v < base

private def digitValue (c : Char) : Nat :=
  if c.isDigit then c.toNat - 48 else if 'a' ≤ c ∧ c ≤ 'f' then c.toNat - 87 else c.toNat - 55

/-- Digits, where single underscores may stand between two of them; the underscores are left out. -/
private def digits? (base : Nat) : List Char → Option (List Char)
  | [] => none
  | [c] => if isDigitOf base c then some [c] else none
  | c :: '_' :: r => if isDigitOf base c then (digits? base r).map (c :: ·) else none
  | c :: r => if isDigitOf base c then (digits? base r).map (c :: ·) else none

private def valueOf (base : Nat) (ds : List Char) : Nat := ds.foldl (fun n d => n * base + digitValue d) 0

/-- Decimal digits without a zero in front of others. -/
private def whole? (cs : List Char) : Option (List Char) := do
  let ds ← digits? 10 cs
  if ds.length = 1 ∨ ds.head? ≠ some '0' then return ds else none

private def splitSign : List Char → Bool × List Char
  | '-' :: r => (true, r)
  | '+' :: r => (false, r)
  | r => (false, r)

private def integer? (cs : List Char) : Option (Except Error Value) :=
  let fit (n : Int) : Except Error Value :=
    if -0x8000000000000000 ≤ n ∧ n < 0x8000000000000000 then .ok (.integer n) else .error .numberTooLarge
  let based (base : Nat) (r : List Char) := (digits? base r).map fun ds => fit (valueOf base ds)
  match cs with
  | '0' :: 'x' :: r => based 16 r
  | '0' :: 'o' :: r => based 8 r
  | '0' :: 'b' :: r => based 2 r
  | _ =>
    let (negative, r) := splitSign cs
    (whole? r).map fun ds => let n : Int := valueOf 10 ds; fit (if negative then -n else n)

/-- Whether a decimal with these digits and this power of ten is rounded to a double-precision infinity. -/
private def overflows (digits : Nat) (power : Int) : Bool :=
  if digits = 0 then false
  else
    let size : Int := (Nat.toDigits 10 digits).length + power
    if size < 309 then false
    else if 310 ≤ size then true
    else
      let limit := Nat.pow 2 1024 - Nat.pow 2 970
      match power with
      | .ofNat k => limit ≤ digits * Nat.pow 10 k
      | .negSucc k => limit * Nat.pow 10 (k + 1) ≤ digits

private def float? (cs : List Char) : Option (Except Error Value) := do
  let (negative, r) := splitSign cs
  if r = ['i', 'n', 'f'] ∨ r = ['n', 'a', 'n'] then return .ok .float
  let isMark (c : Char) : Bool := c = '.' || c = 'e' || c = 'E'
  let w ← whole? (r.takeWhile fun c => !isMark c)
  let r := r.dropWhile fun c => !isMark c
  let isExp (c : Char) : Bool := c = 'e' || c = 'E'
  let (f, r) ← match r with
    | '.' :: r => do pure (← digits? 10 (r.takeWhile fun c => !isExp c), r.dropWhile fun c => !isExp c)
    | r => pure ([], r)
  let e ← match r with
    | [] => if f = [] then none else some 0
    | _ :: r =>
      let (down, r) := splitSign r
      (digits? 10 r).map fun ds => let n : Int := valueOf 10 ds; if down then -n else n
  return if !negative ∧ overflows (valueOf 10 (w ++ f)) (e - f.length) then .error .numberTooLarge else .ok .float

/-- A number of exactly `n` digits, and the rest. -/
private def fixed? (n : Nat) (cs : List Char) : Option (Nat × List Char) :=
  let ds := cs.take n
  if ds.length = n ∧ ds.all Char.isDigit then some (valueOf 10 ds, cs.drop n) else none

private def expect? (c : Char) : List Char → Option (List Char)
  | x :: r => if x = c then some r else none
  | [] => none

private def daysOf (year month : Nat) : Nat :=
  if month = 2 then (if year % 4 = 0 ∧ (year % 100 ≠ 0 ∨ year % 400 = 0) then 29 else 28)
  else if [4, 6, 9, 11].contains month then 30 else 31

private def date? (cs : List Char) : Option (List Char) := do
  let (year, r) ← fixed? 4 cs
  let (month, r) ← fixed? 2 (← expect? '-' r)
  let (day, r) ← fixed? 2 (← expect? '-' r)
  if 1 ≤ month ∧ month ≤ 12 ∧ 1 ≤ day ∧ day ≤ daysOf year month then some r else none

private def clock? (cs : List Char) : Option (List Char) := do
  let (hour, r) ← fixed? 2 cs
  let (minute, r) ← fixed? 2 (← expect? ':' r)
  let (second, r) ← fixed? 2 (← expect? ':' r)
  if 24 ≤ hour ∨ 60 ≤ minute ∨ 61 ≤ second then none
  match r with
  | '.' :: r => if (r.head?.map Char.isDigit).getD false then some (r.dropWhile Char.isDigit) else none
  | r => some r

private def zone? : List Char → Option (List Char)
  | 'Z' :: r | 'z' :: r => some r
  | c :: r =>
    if c = '+' ∨ c = '-' then do
      let (hour, r) ← fixed? 2 r
      let (minute, r) ← fixed? 2 (← expect? ':' r)
      if 24 ≤ hour ∨ 60 ≤ minute then none else some r
    else some (c :: r)
  | [] => some []

/-- A date, a time, or both with or without a zone. -/
private def time? (cs : List Char) : Option Value := do
  let rest ← match date? cs with
    | some [] => some []
    | some (c :: r) => if c = 'T' ∨ c = 't' ∨ c = ' ' then (clock? r).bind zone? else none
    | none => clock? cs
  if rest = [] then some .time else none

/-- The value of a run of characters. -/
def ofChars? (cs : List Char) : Except Error Value :=
  if cs = ['t', 'r', 'u', 'e'] then .ok (.boolean true)
  else if cs = ['f', 'a', 'l', 's', 'e'] then .ok (.boolean false)
  else match time? cs with
    | some v => .ok v
    | none => ((integer? cs).or (float? cs)).getD (.error .badSyntax)

/-- A character that scalars without quotes are made of. -/
def isPart (c : Char) : Bool := c.isAlphanum || ['+', '-', '_', '.', ':'].contains c

/-- The run at the front of a text; a blank between a date and a time belongs to it. -/
def split (cs : List Char) : List Char × List Char :=
  let run := cs.takeWhile isPart
  let rest := cs.dropWhile isPart
  match date? run, rest with
  | some [], ' ' :: c :: r =>
    if c.isDigit then (run ++ ' ' :: (c :: r).takeWhile isPart, (c :: r).dropWhile isPart) else (run, rest)
  | _, _ => (run, rest)

end HookGate.Toml.Scalar
