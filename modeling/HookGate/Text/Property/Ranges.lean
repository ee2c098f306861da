/-! # Ranges of code points

A set of code points is written as a text of hexadecimal ranges in increasing order, such as `41-5a 61-7a aa`. -/
namespace HookGate.Text

/-- Code points from the first to the second number of some pair. -/
abbrev Ranges := List (Nat × Nat)

namespace Ranges

/-- Whether a code point is in one of the ranges. -/
def contains (rs : Ranges) (n : Nat) : Bool := rs.any fun r => r.1 ≤ n && n ≤ r.2

/-- Puts together ranges that overlap or touch, the first one given apart; they stand in the order of their first
numbers. -/
private def joined (r : Nat × Nat) : Ranges → Ranges
  | [] => [r]
  | s :: rs => if s.1 ≤ r.2 + 1 then joined (r.1, max r.2 s.2) rs else r :: joined s rs

/-- The same code points as ranges in increasing order, with gaps between them. -/
def normal (rs : Ranges) : Ranges :=
  match rs.mergeSort fun r s => r.1 ≤ s.1 with
  | [] => []
  | r :: rs => joined r rs

/-- The code points from `low` on that are in none of the ranges, which are normal. -/
def gaps (low : Nat) : Ranges → Ranges
  | [] => if low ≤ 0x10FFFF then [(low, 0x10FFFF)] else []
  | (a, b) :: rs => (if low < a then [(low, a - 1)] else []) ++ gaps (b + 1) rs

/-- The code points that are in none of the ranges. -/
def compl (rs : Ranges) : Ranges := gaps 0 rs.normal

/-- The value of a lower-case hexadecimal digit, and 0 for any other character. -/
private def digit (c : Char) : Nat :=
  if '0' ≤ c ∧ c ≤ '9' then c.toNat - 48 else if 'a' ≤ c ∧ c ≤ 'f' then c.toNat - 87 else 0

/-- Reads the ranges behind an unfinished one, which starts at `low?` and has the digits of `n` so far. -/
private def read (low? : Option Nat) (n : Nat) : List Char → Ranges
  | [] => [(low?.getD n, n)]
  | '-' :: cs => read (some n) 0 cs
  | ' ' :: cs => (low?.getD n, n) :: read none 0 cs
  | c :: cs => read low? (16 * n + digit c) cs

/-- The ranges that a text writes down. -/
def ofText (s : String) : Ranges :=
  match s.toList with
  | [] => []
  | cs => read none 0 cs

/-- The ranges that several lines write down. -/
def ofLines (ls : List String) : Ranges := ls.flatMap ofText

end Ranges

end HookGate.Text

/-! ## Named sets of characters

An entry of a property table: the names of a set, in lower case without blanks, hyphens and underscores, and the
text of its ranges. -/
namespace HookGate.Text

structure PropertyEntry where
  names : List String
  spans : List String

namespace PropertyEntry

/-- The ranges of the entry that bears a name. -/
def find? (table : List PropertyEntry) (name : String) : Option Ranges :=
  (table.find? fun e => e.names.contains name).map fun e => Ranges.ofLines e.spans

end PropertyEntry

end HookGate.Text
