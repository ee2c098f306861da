import HookGate.Number.Floating

/-! # Formatted values

How a conversion lays out a text or a number: its sign, its digits, and what fills up its width. -/
namespace HookGate.Shell

open Number

/-- How a conversion is laid out. -/
structure Layout where
  left : Bool := false
  plus : Bool := false
  space : Bool := false
  zero : Bool := false
  alternate : Bool := false
  width : Nat := 0
  precision : Option Nat := none
deriving Repr, DecidableEq

namespace Layout

def flag (l : Layout) : Char → Option Layout
  | '-' => some { l with left := true }
  | '+' => some { l with plus := true }
  | ' ' => some { l with space := true }
  | '0' => some { l with zero := true }
  | '#' => some { l with alternate := true }
  | _ => none

/-- A width that is given as a number; a negative one is counted from the left. -/
def ofWidth (l : Layout) (n : Int) : Layout := { l with width := n.natAbs, left := l.left || n < 0 }

/-- A precision that is given as a number; a negative one is none. -/
def ofPrecision (l : Layout) (n : Int) : Layout := { l with precision := if n < 0 then none else some n.toNat }

def pad (l : Layout) (s : List Char) : List Char :=
  let blanks := List.replicate (l.width - s.length) ' '
  if l.left then s ++ blanks else blanks ++ s

def text (l : Layout) (s : List Char) : List Char :=
  l.pad (match l.precision with
    | some p => s.take p
    | none => s)

/-- A sign and a body, with zeros between them to fill the width where that is asked for. -/
private def signedBody (l : Layout) (zeros : Bool) (sign body : List Char) : List Char :=
  if zeros && !l.left then sign ++ List.replicate (l.width - sign.length - body.length) '0' ++ body
  else l.pad (sign ++ body)

private def signOf (l : Layout) (negative : Bool) : List Char :=
  if negative then ['-'] else if l.plus then ['+'] else if l.space then [' '] else []

/-- Digits, with zeros in front up to the precision; zero has no digits where none are asked for. -/
private def digitsOf (l : Layout) (base n : Nat) : List Char :=
  if n = 0 ∧ l.precision = some 0 then []
  else
    let digits := Nat.toDigits base n
    List.replicate (l.precision.getD 1 - digits.length) '0' ++ digits

def signed (l : Layout) (n : Int) : List Char :=
  l.signedBody (l.zero && l.precision.isNone) (l.signOf (n < 0)) (l.digitsOf 10 n.natAbs)

/-- A number of 64 bits without a sign, in octal, decimal or hexadecimal digits by the letter. -/
def unsigned (l : Layout) (letter : Char) (n : Nat) : List Char :=
  let zeros := l.zero && l.precision.isNone
  match letter with
  | 'o' =>
    let digits := l.digitsOf 8 n
    l.signedBody zeros [] (if l.alternate && digits.head? ≠ some '0' then '0' :: digits else digits)
  | 'x' => l.signedBody zeros (if l.alternate && n ≠ 0 then ['0', 'x'] else []) (l.digitsOf 16 n)
  | 'X' => (l.signedBody zeros (if l.alternate && n ≠ 0 then ['0', 'x'] else []) (l.digitsOf 16 n)).map Char.toUpper
  | _ => l.signedBody zeros [] (l.digitsOf 10 n)

/-- A number with a point, by the letter of the conversion; a capital letter makes all letters capitals. -/
def floating (l : Layout) (f : FloatFormat) (letter : Char) (x : Floating) : List Char :=
  let sign := l.signOf x.isNegative
  let places := l.precision.getD 6
  let all := match x.magnitude with
    | .infinite => l.signedBody false sign ['i', 'n', 'f']
    | .notNumber => l.signedBody false sign ['n', 'a', 'n']
    | .finite m e =>
      let (num, den) := powered m 2 e
      match letter.toLower with
      | 'f' => l.signedBody l.zero sign (fixed places l.alternate num den)
      | 'e' => l.signedBody l.zero sign (scientific places l.alternate num den)
      | 'g' => l.signedBody l.zero sign (general places l.alternate num den)
      | _ =>
        let text := hexadecimal f (if f.digits % 4 = 0 then 4 else 1) l.precision l.alternate m e
        l.signedBody l.zero (sign ++ text.take 2) (text.drop 2)
  if letter.isUpper then all.map Char.toUpper else all

/-- The letters of conversions for numbers with a point. -/
def floatLetters : List Char := ['a', 'A', 'e', 'E', 'f', 'F', 'g', 'G']

end Layout

end HookGate.Shell
