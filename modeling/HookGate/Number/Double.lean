import HookGate.Number.Shortest
import HookGate.Text.Basic

/-! # Double-precision numbers

A number in the binary format of 64 bits: a sign, eleven bits of exponent, and fifty-two bits of the fraction. -/
namespace HookGate.Number

structure Double where
  bits : UInt64
deriving Repr, DecidableEq

namespace Double

def isNegative (d : Double) : Bool := d.bits >>> 63 = 1

/-- The size of the number without its sign. -/
def magnitude (d : Double) : Binary :=
  let e := (d.bits >>> 52).toNat % 2048
  let f := d.bits.toNat % 0x10000000000000
  if e = 0 then ⟨f, -1074⟩ else ⟨f + 0x10000000000000, (e : Int) - 1075⟩

private def zeros (n : Nat) : String := String.ofList (List.replicate n '0')

/-- Digits with the point behind the first `n`, which are not all of them. -/
private def pointed (digits : List Char) (n : Nat) : String :=
  String.ofList (digits.take n) ++ "." ++ String.ofList (digits.drop n)

/-- A decimal in positions where its first digit stands at most four places behind and its last at most sixteen places
before the point, and otherwise with one digit before the point and an exponent that bears its sign. -/
def positional (d : Decimal) : String :=
  let digits := Nat.toDigits 10 d.digits
  let point : Int := d.exponent + digits.length
  if 0 ≤ d.exponent ∧ point ≤ 16 then String.ofList digits ++ zeros d.exponent.toNat ++ ".0"
  else if 0 < point ∧ point ≤ 16 then pointed digits point.toNat
  else if -5 < point ∧ point ≤ 0 then "0." ++ zeros (-point).toNat ++ String.ofList digits
  else
    (if digits.length = 1 then String.ofList digits else pointed digits 1) ++ (if 0 < point then "e+" else "e") ++
      Text.ofInt (point - 1)

/-- The fewest digits that read back as the number. -/
def toText (d : Double) : String :=
  (if d.isNegative then "-" else "") ++
    (if d.magnitude.mantissa = 0 then "0.0" else positional (shortestDecimal d.magnitude))

end Double

end HookGate.Number
