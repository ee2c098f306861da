import HookGate.Pattern.Basic

/-! # Finding and replacing

A pattern at a place in a text has heads, in order of preference: it may be done, or take one character of a set and
go on with another pattern. The preferred match is found by following all heads at once, the preferred ones first. -/
namespace HookGate.Pattern

/-- What a pattern may do next. -/
inductive Head
  | done
  | take (s : CharSet) (next : Pattern)
deriving Repr, DecidableEq

/-- The heads of a repetition, given those of the pattern that is repeated. A round that takes nothing counts as long
as rounds are owed, and is dropped after that. -/
def repeatHeads (hs : List Head) (a : Pattern) (greedy : Bool) : Nat → Option Nat → List Head
  | 0, max =>
    if max = some 0 then [.done]
    else
      let more := hs.filterMap fun
        | .done => none
        | .take s k => some (.take s (followedBy k (.repeat a 0 (max.map (· - 1)) greedy)))
      if greedy then more ++ [.done] else .done :: more
  | min + 1, max =>
    let max' := max.map (· - 1)
    hs.flatMap fun
      | .done => repeatHeads hs a greedy min max'
      | .take s k => [.take s (followedBy k (.repeat a min max' greedy))]

/-- The heads of a pattern between two neighbouring characters. -/
def heads (prev next : Option Char) : Pattern → List Head
  | empty => [.done]
  | set s => [.take s empty]
  | look l => if l.holds prev next then [.done] else []
  | seq a b =>
    (heads prev next a).flatMap fun
      | .done => heads prev next b
      | .take s k => [.take s (followedBy k b)]
  | alt a b => heads prev next a ++ heads prev next b
  | .repeat a min max greedy => repeatHeads (heads prev next a) a greedy min max
  | group _ a => heads prev next a

/-- The patterns left after a character was taken, each once, the preferred ones first. -/
def advance (c : Char) (hs : List Head) : List Pattern :=
  (hs.filterMap fun
    | .done => none
    | .take s k => if s.contains c then some k else none).eraseDups

/-- The length of the preferred match of the threads; `n` characters are taken, and `best` was found before. -/
def lengthFrom (threads : List Pattern) (n : Nat) (best : Option Nat) (prev : Option Char) :
    List Char → Option Nat
  | [] => if (threads.flatMap (heads prev none)).contains .done then some n else best
  | c :: cs =>
    let hs := threads.flatMap (heads prev (some c))
    let best := if hs.contains .done then some n else best
    match advance c (hs.takeWhile (· ≠ .done)) with
    | [] => best
    | threads => lengthFrom threads (n + 1) best (some c) cs

/-- The length of the preferred match at the front of a text, behind the character `prev`. -/
def matchLength? (p : Pattern) (prev : Option Char) (text : List Char) : Option Nat :=
  lengthFrom [p] 0 none prev text

/-- Replaces matches; `skip` characters belong to the match before. -/
def substituteFrom (p : Pattern) (new : List Char) : Nat → Option Char → List Char → List Char
  | _, _, [] => []
  | skip + 1, _, c :: cs => substituteFrom p new skip (some c) cs
  | 0, prev, c :: cs =>
    match p.matchLength? prev (c :: cs) with
    | some (n + 1) => new ++ substituteFrom p new n (some c) cs
    | _ => c :: substituteFrom p new 0 (some c) cs

/-- Replaces the matches, found from left to right and none overlapping. A match of nothing is left alone. -/
def substitute (p : Pattern) (new text : List Char) : List Char := substituteFrom p new 0 none text

end HookGate.Pattern
