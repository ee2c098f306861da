import HookGate.Text.Basic

/-! # Floating-point numbers of any format

A format says how many binary digits a number has and how far its exponents go. Fractions are rounded to the nearest
number of a format, a half to the even neighbour; texts are read the way numbers are written in programs. -/
namespace HookGate.Number

structure FloatFormat where
  /-- How many binary digits a number has. -/
  digits : Nat
  /-- The least exponent of a last digit. -/
  least : Int
  /-- All numbers are less than two to this power. -/
  limit : Int
deriving Repr, DecidableEq

namespace FloatFormat

/-- The format of 64 bits. -/
def double : FloatFormat := ⟨53, -1074, 1024⟩

/-- The format of 80 bits. -/
def extended : FloatFormat := ⟨64, -16445, 16384⟩

end FloatFormat

/-- A number of a format, without its sign. -/
inductive Magnitude
  /-- The number `mantissa · 2^exponent`. -/
  | finite (mantissa : Nat) (exponent : Int)
  | infinite
  | notNumber
deriving Repr, DecidableEq

structure Floating where
  isNegative : Bool
  magnitude : Magnitude
deriving Repr, DecidableEq

namespace Floating

def zero : Floating := ⟨false, .finite 0 0⟩

def ofNat (n : Nat) : Floating := ⟨false, .finite n 0⟩

end Floating

/-- The quotient, rounded to the nearest number, a half to the even one. -/
def roundDiv (num den : Nat) : Nat :=
  let q := num / den
  let twice := 2 * (num % den)
  if twice < den then q else if den < twice then q + 1 else q + q % 2

/-- `n · base^e` as a fraction. -/
def powered (n base : Nat) (e : Int) : Nat × Nat :=
  match e with
  | .ofNat k => (n * Nat.pow base k, 1)
  | .negSucc k => (n, Nat.pow base (k + 1))

/-- The exponent `e` with `2^e ≤ num / den < 2^(e + 1)`. -/
private def binaryExponent (num den : Nat) : Int :=
  let e : Int := (Nat.log2 num : Int) - Nat.log2 den
  let (p, q) := powered 1 2 e
  if num * q < p * den then e - 1 else e

namespace FloatFormat

/-- The nearest number to a fraction, and whether the fraction lies out of the range of full precision. -/
def nearest (f : FloatFormat) (num den : Nat) : Magnitude × Bool :=
  if num = 0 then (.finite 0 0, false)
  else
    let e := max f.least (binaryExponent num den - (f.digits - 1))
    let (p, q) := powered 1 2 (-e)
    let m := roundDiv (num * p) (den * q)
    let exact := m * (den * q) = num * p
    let (a, b) := powered m 2 e
    if b * (powered 1 2 f.limit).1 ≤ a then (.infinite, true)
    else if m = Nat.pow 2 f.digits then (.finite (Nat.pow 2 (f.digits - 1)) (e + 1), false)
    else (.finite m e, m < Nat.pow 2 (f.digits - 1) && !exact)

end FloatFormat

/-! ## Reading -/

private def digitValue (c : Char) : Nat :=
  if c.isDigit then c.toNat - 0x30 else c.toLower.toNat - 0x61 + 10

private def numeral (base : Nat) (cs : List Char) : Nat := cs.foldl (fun n c => n * base + digitValue c) 0

private def isHex (c : Char) : Bool := c.isDigit || ('a' ≤ c.toLower && c.toLower ≤ 'f')

/-- An exponent behind one of two letters, and what follows it. -/
private def exponentOf (lower upper : Char) (cs : List Char) : Int × List Char :=
  match cs with
  | c :: r =>
    if c = lower ∨ c = upper then
      let (negative, ds) := match r with
        | '-' :: ds => (true, ds)
        | '+' :: ds => (false, ds)
        | ds => (false, ds)
      let digits := ds.takeWhile Char.isDigit
      let n : Int := numeral 10 digits
      if digits = [] then (0, cs) else (if negative then -n else n, ds.drop digits.length)
    else (0, cs)
  | [] => (0, [])

/-- The digits of a number with a point, how many stand behind the point, and what follows. -/
private def pointed (isDigit : Char → Bool) (cs : List Char) : List Char × Nat × List Char :=
  let whole := cs.takeWhile isDigit
  match cs.drop whole.length with
  | '.' :: r =>
    let fraction := r.takeWhile isDigit
    if whole = [] ∧ fraction = [] then ([], 0, cs) else (whole ++ fraction, fraction.length, r.drop fraction.length)
  | rest => (whole, 0, rest)

/-- The number at the front of a text, whether it lies out of range, and what follows it. -/
private def unsigned? (f : FloatFormat) (cs : List Char) : Option (Magnitude × Bool × List Char) :=
  let lower := cs.map Char.toLower
  let far : Int := 40000
  let settle (base : Nat) (digits : List Char) (power : Int) (unit : Nat) : Magnitude × Bool :=
    let n := numeral base digits
    let size : Int := digits.length
    if n = 0 then (.finite 0 0, false)
    else if far < power then (.infinite, true)
    else if power + size * 4 < -far then (.finite 0 0, true)
    else
      let (num, den) := powered n unit power
      f.nearest num den
  let decimal : Option (Magnitude × Bool × List Char) :=
    match pointed Char.isDigit cs with
    | ([], _, _) => none
    | (digits, places, rest) =>
      let (e, rest) := exponentOf 'e' 'E' rest
      let (m, out) := settle 10 digits (e - places) 10
      some (m, out, rest)
  if "infinity".toList.isPrefixOf lower then some (.infinite, false, cs.drop 8)
  else if "inf".toList.isPrefixOf lower then some (.infinite, false, cs.drop 3)
  else if "nan".toList.isPrefixOf lower then
    let rest := cs.drop 3
    match rest with
    | '(' :: r =>
      let name := r.takeWhile fun c => c.isAlphanum || c == '_'
      some (.notNumber, false, if (r.drop name.length).head? = some ')' then r.drop (name.length + 1) else rest)
    | _ => some (.notNumber, false, rest)
  else match cs with
    | '0' :: x :: r =>
      if x = 'x' ∨ x = 'X' then
        match pointed isHex r with
        | ([], _, _) => decimal
        | (digits, places, rest) =>
          let (e, rest) := exponentOf 'p' 'P' rest
          let (m, out) := settle 16 digits (e - 4 * places) 2
          some (m, out, rest)
      else decimal
    | _ => decimal

/-- The number at the front of a text, behind blanks and a sign, whether it lies out of range, and what follows it. -/
def FloatFormat.read? (f : FloatFormat) (cs : List Char) : Option (Floating × Bool × List Char) :=
  let (negative, cs) := match cs.dropWhile fun c => c == ' ' || ('\t' ≤ c && c ≤ '\r') with
    | '-' :: r => (true, r)
    | '+' :: r => (false, r)
    | r => (false, r)
  (unsigned? f cs).map fun (m, out, rest) => (⟨negative, m⟩, out, rest)

/-! ## Writing -/

/-- Digits with a point before the last `places` of them. -/
private def withPoint (places : Nat) (keepsPoint : Bool) (n : Nat) : List Char :=
  let digits := Nat.toDigits 10 n
  let digits := List.replicate (places + 1 - digits.length) '0' ++ digits
  let whole := digits.take (digits.length - places)
  if places = 0 then (if keepsPoint then whole ++ ['.'] else whole) else whole ++ '.' :: digits.drop whole.length

/-- A fraction with so many places behind the point. -/
def fixed (places : Nat) (keepsPoint : Bool) (num den : Nat) : List Char :=
  withPoint places keepsPoint (roundDiv (num * Nat.pow 10 places) den)

/-- The exponent `e` with `10^e ≤ num / den < 10^(e + 1)`. -/
private def decimalExponent (num den : Nat) : Int :=
  let e : Int := ((Nat.toDigits 10 num).length : Int) - (Nat.toDigits 10 den).length
  let (p, q) := powered 1 10 e
  if num * q < p * den then e - 1 else e

/-- The digits of a fraction, one before the point and so many behind it, as one number, and its exponent. -/
private def scientificDigits (places : Nat) (num den : Nat) : Nat × Int :=
  if num = 0 then (0, 0)
  else
    let e := decimalExponent num den
    let (p, q) := powered 1 10 (places - e)
    let n := roundDiv (num * p) (den * q)
    if n = Nat.pow 10 (places + 1) then (Nat.pow 10 places, e + 1) else (n, e)

private def signOf (e : Int) : Char := if e < 0 then '-' else '+'

private def exponentText (e : Int) : List Char :=
  let digits := Nat.toDigits 10 e.natAbs
  'e' :: signOf e :: List.replicate (2 - digits.length) '0' ++ digits

/-- A fraction with one digit before the point, and an exponent. -/
def scientific (places : Nat) (keepsPoint : Bool) (num den : Nat) : List Char :=
  let (n, e) := scientificDigits places num den
  withPoint places keepsPoint n ++ exponentText e

/-- Without zeros at the end of the places behind the point, and without the point if nothing is left behind it. -/
private def withoutZeros (cs : List Char) : List Char :=
  if cs.contains '.' then
    match cs.reverse.dropWhile (· == '0') with
    | '.' :: r => r.reverse
    | r => r.reverse
  else cs

/-- A fraction with so many digits at most, in the form that suits its size; `keepsZeros` keeps all of them. -/
def general (precision : Nat) (keepsZeros : Bool) (num den : Nat) : List Char :=
  let p := max precision 1
  let (n, e) := scientificDigits (p - 1) num den
  let trim (cs : List Char) : List Char := if keepsZeros then cs else withoutZeros cs
  if -4 ≤ e ∧ e < p then trim (fixed (p - 1 - e).toNat keepsZeros num den)
  else trim (withPoint (p - 1) keepsZeros n) ++ exponentText e

/-- A number in hexadecimal digits, `lead` binary digits of it before the point, and a binary exponent. -/
def hexadecimal (f : FloatFormat) (lead : Nat) (places : Option Nat) (keepsPoint : Bool) (mantissa : Nat)
    (exponent : Int) : List Char :=
  let behind := (f.digits - lead + 3) / 4
  let (m, e) : Nat × Int :=
    if mantissa = 0 then (0, 0)
    else
      let size := Nat.log2 mantissa + 1
      -- full numbers fill the digits, smaller ones keep the least exponent
      let shift := min (f.digits - size) (exponent - f.least).toNat
      let wide := mantissa * Nat.pow 2 shift * Nat.pow 2 (4 * behind + lead - f.digits)
      (wide, exponent - shift + f.digits - lead)
  let n := match places with
    | some p => if p < behind then roundDiv m (Nat.pow 16 (behind - p)) else m * Nat.pow 16 (p - behind)
    | none => m
  let count := places.getD behind
  let digits := Nat.toDigits 16 n
  let digits := List.replicate (count + 1 - digits.length) '0' ++ digits
  let whole := digits.take (digits.length - count)
  let fraction := digits.drop whole.length
  let fraction := if places.isNone then (fraction.reverse.dropWhile (· == '0')).reverse else fraction
  '0' :: 'x' :: whole ++ (if fraction = [] then (if keepsPoint then ['.'] else []) else '.' :: fraction) ++
    'p' :: signOf e :: Nat.toDigits 10 e.natAbs

end HookGate.Number
