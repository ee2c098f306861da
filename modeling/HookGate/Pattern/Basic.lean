import HookGate.Pattern.CharSet

/-! # Patterns

A pattern describes pieces of text and where they may stand. What counts is whether and where it matches, so a group
means what its pattern means. -/
namespace HookGate

/-- The sides of a word that an assertion looks at. -/
inductive WordEdge
  | boundary
  | inside
  | start
  | stop
  | startHalf
  | stopHalf
deriving Repr, DecidableEq

/-- A condition on the characters before and behind a place in a text. -/
inductive Look
  | textStart
  | textEnd
  | lineStart
  | lineEnd
  /-- The start of a line where carriage returns end lines as well. -/
  | anyLineStart
  | anyLineEnd
  /-- An edge of a word of ASCII characters, or of characters of all scripts. -/
  | word (edge : WordEdge) (ascii : Bool)
deriving Repr, DecidableEq

namespace Look

/-- Whether there is a character, and one of words. -/
def inWord (ascii : Bool) (c? : Option Char) : Bool :=
  c?.any fun c => if ascii then CharSet.asciiWord.contains c else Text.isWordChar c

/-- Whether the condition holds between two neighbours, none at the ends of the text. -/
def holds (l : Look) (prev next : Option Char) : Bool :=
  match l with
  | textStart => prev.isNone
  | textEnd => next.isNone
  | lineStart => prev.isNone || prev = some '\n'
  | lineEnd => next.isNone || next = some '\n'
  | anyLineStart => prev.isNone || prev = some '\n' || (prev = some '\r' && next ≠ some '\n')
  | anyLineEnd => next.isNone || next = some '\r' || (next = some '\n' && prev ≠ some '\r')
  | word edge ascii =>
    let before := inWord ascii prev
    let behind := inWord ascii next
    match edge with
    | .boundary => before != behind
    | .inside => before == behind
    | .start => !before && behind
    | .stop => before && !behind
    | .startHalf => !before
    | .stopHalf => !behind

end Look

/-- Of two ways to match, `alt` prefers its first pattern, and a greedy repetition another round. -/
inductive Pattern
  | empty
  | set (s : CharSet)
  | look (l : Look)
  | seq (a b : Pattern)
  | alt (a b : Pattern)
  | repeat (a : Pattern) (min : Nat) (max : Option Nat) (greedy : Bool)
  /-- A part in parentheses, `kept` if a match would give it back. -/
  | group (kept : Bool) (a : Pattern)
deriving Repr, DecidableEq, Inhabited

namespace Pattern

/-- One pattern after the other, where an empty first one is left out. -/
def followedBy : Pattern → Pattern → Pattern
  | empty, b => b
  | a, b => seq a b

/-- The patterns one after the other. -/
def concat : List Pattern → Pattern
  | [] => empty
  | [p] => p
  | p :: ps => seq p (concat ps)

/-- Any of the patterns, earlier ones preferred; none of no patterns. -/
def alternatives : List Pattern → Pattern
  | [] => set CharSet.empty
  | [p] => p
  | p :: ps => alt p (alternatives ps)

/-- A part set apart from what stands around it: alternatives in it do not join those outside. -/
def apart : Pattern → Pattern
  | alt a b => group false (alt a b)
  | p => p

def star (p : Pattern) : Pattern := .repeat p 0 none true

def plus (p : Pattern) : Pattern := .repeat p 1 none true

def opt (p : Pattern) : Pattern := .repeat p 0 (some 1) true

def atLeast (n : Nat) (p : Pattern) : Pattern := .repeat p n none true

def exactly (n : Nat) (p : Pattern) : Pattern := .repeat p n (some n) true

/-- The characters of a text, each as it is. -/
def literal (s : String) : Pattern := concat (s.toList.map fun c => set (.single c))

/-- The characters of a text in any case. -/
def caseless (s : String) : Pattern := concat (s.toList.map fun c => set (.folded (.single c)))

end Pattern

end HookGate
