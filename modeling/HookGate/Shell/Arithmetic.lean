import HookGate.Text.Basic

/-! # Arithmetic in shell scripts

Expressions over whole numbers of 64 bits, with variables by name. An expression is cut into tokens, and these are
read by the strength with which operators bind; operands that do not count are read, but neither looked up nor set. -/
namespace HookGate.Shell.Arithmetic

inductive Token
  | number (n : Int)
  | name (s : String)
  | symbol (s : String)
  /-- A character that can stand nowhere. -/
  | bad
deriving Repr, DecidableEq

inductive Fault
  | divisionByZero
  | notOperand
  | notClosed
  | notChosen
  /-- More stands behind an expression. -/
  | notEnded
  /-- A variable that holds no number. -/
  | badNumber (text : String)
deriving Repr, DecidableEq

def Fault.message (expression : String) : Fault → String
  | divisionByZero => inExpression "division by zero"
  | notOperand => inExpression "expecting primary"
  | notClosed => inExpression "expecting ')'"
  | notChosen => inExpression "expecting ':'"
  | notEnded => inExpression "expecting EOF"
  | badNumber text => "Illegal number: " ++ text
where
  inExpression (what : String) : String := "arithmetic expression: " ++ what ++ ": \"" ++ expression ++ "\""

/-- Brings a number into the range of 64 bits. -/
def wrap (n : Int) : Int := n.bmod 0x10000000000000000

/-! ## Numbers -/

private def digitValue (c : Char) : Nat :=
  if c.isDigit then c.toNat - 0x30 else c.toLower.toNat - 0x61 + 10

private def valueOf (base : Nat) (cs : List Char) : Nat := cs.foldl (fun n c => n * base + digitValue c) 0

private def isHex (c : Char) : Bool := c.isDigit || ('a' ≤ c.toLower && c.toLower ≤ 'f')

private def isBinary (c : Char) : Bool := c == '0' || c == '1'

/-- The number that is written at the front, octal after a zero, hexadecimal after `0x` and binary after `0b`, and what
stands behind. -/
def leadingNumber? (cs : List Char) : Option (Nat × List Char) :=
  let read (base : Nat) (isDigit : Char → Bool) (cs : List Char) : Nat × List Char :=
    let digits := cs.takeWhile isDigit
    (valueOf base digits, cs.drop digits.length)
  match cs with
  | '0' :: x :: d :: r =>
    if (x = 'x' ∨ x = 'X') ∧ isHex d then some (read 16 isHex (d :: r))
    else if (x = 'b' ∨ x = 'B') ∧ isBinary d then some (read 2 isBinary (d :: r))
    else some (read 8 (fun c => '0' ≤ c && c ≤ '7') cs)
  | '0' :: _ => some (read 8 (fun c => '0' ≤ c && c ≤ '7') cs)
  | c :: _ => if c.isDigit then some (read 10 Char.isDigit cs) else none
  | [] => none

private def isSpace (c : Char) : Bool := c == ' ' || ('\t' ≤ c && c ≤ '\r')

/-- A number with its sign and blanks in front, and what stands behind; no number at all counts as zero. -/
def signedNumber (cs : List Char) : Bool × Int × List Char :=
  let (negative, ds) := match cs.dropWhile isSpace with
    | '-' :: ds => (true, ds)
    | '+' :: ds => (false, ds)
    | ds => (false, ds)
  match leadingNumber? ds with
  | some (n, rest) => (true, if negative then -n else n, rest)
  | none => (false, 0, cs)

/-- The value of a variable: the number that it holds, and zero if it holds nothing. -/
def held (text : String) : Except Fault Int :=
  let (_, n, rest) := signedNumber text.toList
  if rest.all isSpace ∧ -0x8000000000000000 ≤ n ∧ n < 0x8000000000000000 then .ok n else .error (.badNumber text)

/-! ## Tokens -/

private def symbols : List String :=
  ["<<=", ">>=", "||", "&&", "==", "!=", "<=", ">=", "<<", ">>", "+=", "-=", "*=", "/=", "%=", "&=", "|=", "^=", "+",
    "-", "*", "/", "%", "(", ")", "<", ">", "&", "|", "^", "!", "~", "?", ":", "="]

/-- The tokens of an expression, up to a character that can stand nowhere. -/
def tokens : Nat → List Char → List Token
  | 0, _ => []
  | _, [] => []
  | n + 1, c :: r =>
    if [' ', '\t', '\n'].contains c then tokens n r
    else if c.isAlpha || c == '_' then
      let word := (c :: r).takeWhile fun d => d.isAlphanum || d == '_'
      .name (String.ofList word) :: tokens n ((c :: r).drop word.length)
    else match leadingNumber? (c :: r) with
      | some (v, rest) => .number (min v 0x7FFFFFFFFFFFFFFF) :: tokens n rest
      | none => match symbols.find? fun s => s.toList.isPrefixOf (c :: r) with
        | some s => .symbol s :: tokens n ((c :: r).drop s.length)
        | none => [.bad]

/-! ## Values -/

/-- What is left of an expression, and the variables that it set, the last one first. -/
private structure Progress where
  left : List Token
  sets : List (String × Int) := []

private abbrev Eval := StateT Progress (Except Fault)

private def next? : Eval (Option Token) := do return (← get).left.head?

private def advance : Eval Unit := modify fun s => { s with left := s.left.drop 1 }

/-- How strong a binary operator binds; the strongest have the smallest number. -/
private def strength? : String → Option Nat
  | "*" | "/" | "%" => some 0
  | "+" | "-" => some 1
  | "<<" | ">>" => some 2
  | "<" | ">" | "<=" | ">=" => some 3
  | "==" | "!=" => some 4
  | "&" => some 5
  | "^" => some 6
  | "|" => some 7
  | _ => none

private def truth (b : Bool) : Int := if b then 1 else 0

/-- A bitwise operation on numbers of 64 bits. -/
private def bits (f : UInt64 → UInt64 → UInt64) (a b : Int) : Int :=
  wrap (f (UInt64.ofInt a) (UInt64.ofInt b)).toNat

private def apply (op : String) (a b : Int) : Except Fault Int :=
  match op with
  | "|" => .ok (bits (· ||| ·) a b)
  | "^" => .ok (bits (· ^^^ ·) a b)
  | "&" => .ok (bits (· &&& ·) a b)
  | "==" => .ok (truth (a = b))
  | "!=" => .ok (truth (a ≠ b))
  | "<" => .ok (truth (a < b))
  | ">" => .ok (truth (a > b))
  | "<=" => .ok (truth (a ≤ b))
  | ">=" => .ok (truth (a ≥ b))
  | "<<" => .ok (wrap (a * Nat.pow 2 (b % 64).toNat))
  | ">>" => .ok (a.fdiv (Nat.pow 2 (b % 64).toNat))
  | "+" => .ok (wrap (a + b))
  | "-" => .ok (wrap (a - b))
  | "*" => .ok (wrap (a * b))
  | "/" => if b = 0 then .error .divisionByZero else .ok (wrap (a.tdiv b))
  | "%" => if b = 0 then .error .divisionByZero else .ok (wrap (a.tmod b))
  | _ => .ok b

/-- The operator of an assignment, without the equals sign. -/
private def assignment? (op : String) : Option String :=
  if op.toList.getLast? = some '=' && !(["==", "!=", "<=", ">="].contains op) then some (String.ofList op.toList.dropLast)
  else none

/-- Where the texts of variables come from. -/
private abbrev Lookup := String → String

private def look (value : Lookup) (name : String) : Eval Int := do
  match (← get).sets.lookup name with
  | some v => return v
  | none => held (value name)

mutual

/-- An assignment, or an expression of operators; `idle` if its value does not count. -/
private def full (value : Lookup) : Nat → Bool → Eval Int
  | 0, _ => throw .notOperand
  | n + 1, idle => do
    match (← get).left with
    | .name x :: .symbol op :: _ =>
      match assignment? op with
      | some front =>
        advance
        advance
        let right ← full value n idle
        if idle then return right
        let v ← if front = "" then pure right else apply front (← look value x) right
        modify fun s => { s with sets := (x, v) :: s.sets }
        return v
      | none => choice value n idle
    | _ => choice value n idle

private def choice (value : Lookup) : Nat → Bool → Eval Int
  | 0, _ => throw .notOperand
  | n + 1, idle => do
    let a ← either value n idle
    if (← next?) ≠ some (.symbol "?") then return a
    advance
    let b ← full value n (idle || a = 0)
    if (← next?) ≠ some (.symbol ":") then throw .notChosen
    advance
    let c ← choice value n (idle || a ≠ 0)
    return if a ≠ 0 then b else c

private def either (value : Lookup) : Nat → Bool → Eval Int
  | 0, _ => throw .notOperand
  | n + 1, idle => do
    let a ← both value n idle
    if (← next?) ≠ some (.symbol "||") then return a
    advance
    let b ← either value n (idle || a ≠ 0)
    return truth (a ≠ 0 || b ≠ 0)

private def both (value : Lookup) : Nat → Bool → Eval Int
  | 0, _ => throw .notOperand
  | n + 1, idle => do
    let a ← operators value n idle 8 (← unary value n idle)
    if (← next?) ≠ some (.symbol "&&") then return a
    advance
    let b ← both value n (idle || a = 0)
    return truth (a ≠ 0 && b ≠ 0)

/-- Goes on from a left operand while operators that bind stronger than `weakest` follow. -/
private def operators (value : Lookup) : Nat → Bool → Nat → Int → Eval Int
  | 0, _, _, _ => throw .notOperand
  | n + 1, idle, weakest, left => do
    match ← next? with
    | some (.symbol op) =>
      match strength? op with
      | none => return left
      | some k =>
        if weakest ≤ k then return left
        else
          advance
          let right ← operators value n idle k (← unary value n idle)
          operators value n idle weakest (← if idle then pure right else apply op left right)
    | _ => return left

private def unary (value : Lookup) : Nat → Bool → Eval Int
  | 0, _ => throw .notOperand
  | n + 1, idle => do
    match ← next? with
    | some (.number v) =>
      advance
      return v
    | some (.name x) =>
      advance
      if idle then return 0 else look value x
    | some (.symbol "(") =>
      advance
      let v ← full value n idle
      if (← next?) ≠ some (.symbol ")") then throw .notClosed
      advance
      return v
    | some (.symbol "-") =>
      advance
      return wrap (-(← unary value n idle))
    | some (.symbol "+") =>
      advance
      unary value n idle
    | some (.symbol "!") =>
      advance
      return truth ((← unary value n idle) = 0)
    | some (.symbol "~") =>
      advance
      return -(← unary value n idle) - 1
    | _ => throw .notOperand

end

/-- The value of an expression, and the variables that it sets. -/
def evaluate (value : String → String) (expression : String) : Except Fault (Int × List (String × Int)) := do
  let cs := expression.toList
  let ts := tokens (cs.length + 1) cs
  let (v, p) ← (full value (16 * ts.length + 32) false).run { left := ts }
  if p.left.isEmpty then return (v, p.sets.reverse) else throw .notEnded

end HookGate.Shell.Arithmetic
