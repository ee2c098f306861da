import HookGate.Text.Case.Ring
import HookGate.Text.Property.Word

/-! # Sets of characters

A set is written as an expression over ranges; membership is read off the expression. -/
namespace HookGate

inductive CharSet
  | ranges (rs : Text.Ranges)
  /-- The characters of words in all scripts; they are many. -/
  | word
  | union (a b : CharSet)
  | inter (a b : CharSet)
  | diff (a b : CharSet)
  | symmDiff (a b : CharSet)
  | compl (a : CharSet)
  /-- The characters that differ from a member at most by case. -/
  | folded (a : CharSet)
  /-- The characters that differ from a member at most by the case of an ASCII letter. -/
  | foldedAscii (a : CharSet)
deriving Repr, DecidableEq, Hashable

namespace CharSet

/-- The other case of an ASCII letter; any other character stays. -/
def otherCase (c : Char) : Char := if c.isUpper then c.toLower else c.toUpper

def contains : CharSet → Char → Bool
  | ranges rs, c => rs.contains c.toNat
  | word, c => Text.isWordChar c
  | union a b, c => a.contains c || b.contains c
  | inter a b, c => a.contains c && b.contains c
  | diff a b, c => a.contains c && !b.contains c
  | symmDiff a b, c => a.contains c != b.contains c
  | compl a, c => !a.contains c
  | folded a, c => (Text.ring c).any a.contains
  | foldedAscii a, c => a.contains c || a.contains (otherCase c)

def empty : CharSet := ranges []

def single (c : Char) : CharSet := ranges [(c.toNat, c.toNat)]

def span (a b : Char) : CharSet := ranges [(a.toNat, b.toNat)]

/-- Every character. -/
def any : CharSet := ranges [(0, 0x10FFFF)]

def ofChars (cs : List Char) : CharSet := ranges (cs.map fun c => (c.toNat, c.toNat))

/-- White space of all scripts. -/
def space : CharSet :=
  ranges [(0x9, 0xD), (0x20, 0x20), (0x85, 0x85), (0xA0, 0xA0), (0x1680, 0x1680), (0x2000, 0x200A),
    (0x2028, 0x2029), (0x202F, 0x202F), (0x205F, 0x205F), (0x3000, 0x3000)]

def digit : CharSet := ranges Text.digitRanges

/-- The ASCII letters, digits and the underscore. -/
def asciiWord : CharSet := ranges [(0x30, 0x39), (0x41, 0x5A), (0x5F, 0x5F), (0x61, 0x7A)]

end CharSet

end HookGate
