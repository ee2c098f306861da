/-! # Shortest decimals

A positive binary fraction `m · 2^q` stands for all reals that round to it. `shortestDecimal` gives the fewest
digits of a decimal among these reals, and of several such decimals the nearest. -/
namespace HookGate.Number

/-- The real `mantissa · 2^exponent`. -/
structure Binary where
  mantissa : Nat
  exponent : Int
deriving Repr, DecidableEq

/-- The real `digits · 10^exponent`. -/
structure Decimal where
  digits : Nat
  exponent : Int
deriving Repr, DecidableEq

/-- `n · base^e` as a fraction. -/
private def scaled (n base : Nat) (e : Int) : Nat × Nat :=
  match e with
  | .ofNat k => (n * Nat.pow base k, 1)
  | .negSucc k => (n, Nat.pow base (k + 1))

/-- Whether the first fraction is less than the second. -/
private def fractionLt (a b : Nat × Nat) : Bool := a.1 * b.2 < b.1 * a.2

private def fractionLe (a b : Nat × Nat) : Bool := a.1 * b.2 ≤ b.1 * a.2

/-- The least exponent `e`, from a first guess upwards, for which `10^e` exceeds the fraction. -/
private def exponentAbove (f : Nat × Nat) : Nat → Int → Int
  | 0, e => e
  | fuel + 1, e => if fractionLt f (scaled 1 10 e) then e else exponentAbove f fuel (e + 1)

/-- The largest whole number of grid steps `10^s` that does not exceed the fraction. -/
private def gridFloor (f : Nat × Nat) (s : Int) : Nat :=
  let step := scaled 1 10 s
  f.1 * step.2 / (f.2 * step.1)

/-- A double-precision value as an interval in quarters of its last place. -/
private structure Rounding where
  low : Nat × Nat
  value : Nat × Nat
  high : Nat × Nat
  closed : Bool

private def Rounding.holds (r : Rounding) (f : Nat × Nat) : Bool :=
  if r.closed then fractionLe r.low f && fractionLe f r.high else fractionLt r.low f && fractionLt f r.high

private def Rounding.ofBinary (b : Binary) : Rounding :=
  let quarter (n : Nat) := scaled n 2 (b.exponent - 2)
  { low := quarter (4 * b.mantissa - if b.mantissa = 0x10000000000000 ∧ b.exponent ≠ -1074 then 1 else 2)
    value := quarter (4 * b.mantissa)
    high := quarter (4 * b.mantissa + 2)
    closed := b.mantissa % 2 = 0 }

/-- The better of the two grid neighbours of the value that lie in its interval, if one does. -/
private def Rounding.onGrid? (r : Rounding) (s : Int) : Option Nat :=
  let n := gridFloor r.value s
  let below := scaled n 10 s
  let above := scaled (n + 1) 10 s
  match n ≠ 0 && r.holds below, r.holds above with
  | true, true =>
    -- twice the value against the sum of the neighbours
    let twice := (2 * r.value.1, r.value.2)
    let sum := scaled (2 * n + 1) 10 s
    if fractionLt twice sum then some n
    else if fractionLt sum twice then some (n + 1)
    else some (if n % 2 = 0 then n else n + 1)
  | true, false => some n
  | false, true => some (n + 1)
  | false, false => none

/-- The decimal on the coarsest grid that has one, from grid `10^s` down to finer ones. -/
private def Rounding.search (r : Rounding) : Nat → Int → Decimal
  | 0, s => ⟨gridFloor r.value s, s⟩
  | fuel + 1, s => match r.onGrid? s with
    | some n => ⟨n, s⟩
    | none => r.search fuel (s - 1)

/-- Moves the zeros at the end of the digits into the exponent. -/
private def dropZeros : Nat → Decimal → Decimal
  | 0, d => d
  | fuel + 1, d => if d.digits ≠ 0 ∧ d.digits % 10 = 0 then dropZeros fuel ⟨d.digits / 10, d.exponent + 1⟩ else d

/-- The shortest decimal that rounds to a positive binary fraction of double precision. -/
def shortestDecimal (b : Binary) : Decimal :=
  let r := Rounding.ofBinary b
  let guess : Int := (b.exponent + (Nat.log2 b.mantissa : Int)) * 30103 / 100000 - 1
  let top := exponentAbove r.value 5 guess
  dropZeros 20 (r.search 17 (top - 1))

end HookGate.Number
