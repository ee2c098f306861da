import HookGate.Shell.LinePattern.Reader
import HookGate.Shell.OrderedPattern.Reader

/-! # Finding patterns in lines

A finder tells whether a line is one of those searched for, and where its matches are. Matches may have to be words, with
no letter, digit or underscore beside them, or whole lines. -/
namespace HookGate.Shell.Tool.Grep

/-- What a match has to be. -/
inductive Extent
  | part
  | word
  | line
deriving Repr, DecidableEq

/-- How lines are searched. -/
structure Finder where
  occurs : Array Char → Bool
  /-- The first match that starts at a place or behind it, with its end. -/
  next? : Array Char → Nat → Option (Nat × Nat)

namespace Finder

/-- The first of the places from `start` on, so many of them, at which a match is found. -/
private def firstFrom (found? : Nat → Option Nat) : Nat → Nat → Option (Nat × Nat)
  | 0, _ => none
  | n + 1, start =>
    match found? start with
    | some stop => some (start, stop)
    | none => firstFrom found? n (start + 1)

/-- Where the longest match of some patterns ends that starts at a place. -/
private def longest? (patterns : List LinePattern) (l : LinePattern.Line) (start : Nat) : Option Nat :=
  (patterns.filterMap fun p => p.longest? l start).max?

/-- Where the longest match ends that starts at a place and is a word, not longer than the part of the line that is
searched; of matches that were made shorter, the empty one does not count. -/
private def longestWord? (patterns : List LinePattern) (l : LinePattern.Line) (start : Nat) : Nat → Option Nat
  | 0 => none
  | n + 1 => do
    let stop ← longest? patterns l start
    if !({ l with stop := l.chars.size } : LinePattern.Line).hasWordAt stop then
      if l.stop < l.chars.size ∧ stop = start then none else some stop
    else if stop ≤ start + 1 then none
    else longestWord? patterns { l with stop := stop - 1 } start n

/-- Searches lines for patterns of which the longest matches count. -/
def ofPatterns (patterns : List LinePattern) (ignoresCase : Bool) (extent : Extent) : Finder :=
  let line (chars : Array Char) : LinePattern.Line := ⟨chars, chars.size, ignoresCase⟩
  let wordAt? (l : LinePattern.Line) (start : Nat) : Option Nat :=
    if l.hasWordBefore start then none else longestWord? patterns l start (l.chars.size + 1)
  { occurs := fun chars =>
      let l := line chars
      match extent with
      | .part => patterns.any (·.occurs l)
      | .line => longest? patterns l 0 = some chars.size
      | .word =>
        if patterns.all (·.references = []) then patterns.any (·.occursAsWord l)
        else (firstFrom (wordAt? l) (chars.size + 1) 0).isSome
    next? := fun chars start =>
      let l := line chars
      firstFrom (if extent = .word then wordAt? l else longest? patterns l) (chars.size + 1 - start) start }

/-- The text of a pattern with an order of preference, with conditions around it where its matches have to be words. -/
def orderedText (extent : Extent) (text : List Char) : List Char :=
  if extent = .word then "(?<!\\w)(?:".toList ++ text ++ ")(?!\\w)".toList else text

/-- Searches lines for a pattern of which the first match in its order counts. -/
def ofOrdered (p : OrderedPattern) (extent : Extent) : Finder :=
  let p := if extent = .line then .seq (.look .textStart) (.seq p (.look .textEnd)) else p
  let next? (chars : Array Char) (start : Nat) : Option (Nat × Nat) :=
    (List.range (chars.size + 1 - start)).findSome? fun i => p.matchAt? chars start (start + i)
  { occurs := fun chars => (next? chars 0).isSome, next? }

end Finder

end HookGate.Shell.Tool.Grep
