import HookGate.Pattern.CharSet

/-! # Patterns with an order of preference

Of all ways to match at a place, the first in the order of preference counts: alternatives from left to right, and more
or fewer repetitions first. What stands around a match can be looked at, and what a group stood for can be asked for
again. A match is followed to its end by what is to be done after each part of it. -/
namespace HookGate.Shell

/-- A condition on a place. -/
inductive OrderedPattern.Place
  | textStart
  | textEnd
  | lineStart
  | lineEnd
  | searchStart
  | wordEdge
  | noWordEdge
deriving Repr, DecidableEq

/-- How often something is repeated if it can be repeated more or less often. -/
inductive OrderedPattern.Greed
  | more
  | less
  /-- As often as possible, and never less often afterwards. -/
  | most
deriving Repr, DecidableEq

inductive OrderedPattern
  | empty
  | never
  | one (set : CharSet)
  | look (p : OrderedPattern.Place)
  | seq (a b : OrderedPattern)
  | alt (a b : OrderedPattern)
  /-- Without `max` there is no bound. -/
  | repeat (a : OrderedPattern) (min : Nat) (max : Option Nat) (greed : OrderedPattern.Greed)
  | group (n : Nat) (a : OrderedPattern)
  /-- The first way to match counts, and no other is tried. -/
  | firstOf (a : OrderedPattern)
  /-- What follows, or what comes before, is matched or not; nothing is taken. -/
  | around (isBehind isNegated : Bool) (a : OrderedPattern)
  /-- What a group stood for, once more. -/
  | again (n : Nat) (ignoresCase : Bool)
  /-- The pattern of a group, or for zero the whole one. -/
  | call (n : Nat)
  /-- What depends on whether a group stands for something. -/
  | given (n : Nat) (a b : OrderedPattern)
  /-- The match starts here. -/
  | restart
deriving Repr, DecidableEq

namespace OrderedPattern

def size : OrderedPattern → Nat
  | seq a b | alt a b | given _ a b => a.size + b.size + 1
  | .repeat a _ _ _ | group _ a | firstOf a | around _ _ a => a.size + 1
  | _ => 1

/-- How many characters a pattern takes, if that is the same for all matches. -/
def width? : OrderedPattern → Option Nat
  | empty | never | look _ | around _ _ _ | restart => some 0
  | one _ => some 1
  | seq a b => do return (← a.width?) + (← b.width?)
  | alt a b | given _ a b => do
    let n ← a.width?
    if (← b.width?) = n then return n else none
  | .repeat a min max _ => do if max = some min then return (← a.width?) * min else none
  | group _ a | firstOf a => a.width?
  | again _ _ | call _ => none

/-- The pattern of a group. -/
def group? (n : Nat) : OrderedPattern → Option OrderedPattern
  | seq a b | alt a b | given _ a b => a.group? n <|> b.group? n
  | .repeat a _ _ _ | firstOf a | around _ _ a => a.group? n
  | group k a => if k = n then some (group k a) else a.group? n
  | _ => none

/-- What is searched: a text, and the place where the search starts. -/
structure Subject where
  chars : Array Char
  origin : Nat

namespace Subject

def hasWordAt (s : Subject) (place : Nat) : Bool := (s.chars[place]?).any fun c => c.isAlphanum || c == '_'

def hasWordBefore (s : Subject) (place : Nat) : Bool := 0 < place && s.hasWordAt (place - 1)

end Subject

def Place.holds (s : Subject) (place : Nat) : Place → Bool
  | textStart => place = 0
  | textEnd => place = s.chars.size
  | lineStart => place = 0 || (s.chars[place - 1]? = some '\n' && place < s.chars.size)
  | lineEnd => place = s.chars.size || s.chars[place]? = some '\n'
  | searchStart => place = s.origin
  | wordEdge => s.hasWordBefore place != s.hasWordAt place
  | noWordEdge => s.hasWordBefore place == s.hasWordAt place

/-- How far a match got, where it starts, and what its groups stand for. -/
structure Way where
  place : Nat
  start : Nat
  held : List (Nat × Nat × Nat) := []
deriving Repr, DecidableEq

/-- The place behind the same characters as those from `start` to `stop`. -/
private def behind? (s : Subject) (ignoresCase : Bool) (start stop place : Nat) : Option Nat :=
  let alike (c d : Char) : Bool := c == d || (ignoresCase && c.toLower == d.toLower)
  let isThere := (List.range (stop - start)).all fun i =>
    match s.chars[start + i]?, s.chars[place + i]? with
    | some c, some d => alike c d
    | _, _ => false
  if isThere then some (place + (stop - start)) else none

/-- The first way to match a pattern such that what follows it goes well too. Steps are counted down. -/
def run (s : Subject) (whole : OrderedPattern) : Nat → OrderedPattern → Way → (Way → Option Way) → Option Way
  | 0, _, _, _ => none
  | n + 1, p, w, next =>
    match p with
    | empty => next w
    | never => none
    | one set => if (s.chars[w.place]?).any set.contains then next { w with place := w.place + 1 } else none
    | look p => if p.holds s w.place then next w else none
    | seq a b => run s whole n a w fun w => run s whole n b w next
    | alt a b => run s whole n a w next <|> run s whole n b w next
    | .repeat a (min + 1) max greed =>
      run s whole n a w fun w' => run s whole n (.repeat a min (max.map (· - 1)) greed) w' next
    | .repeat a 0 max .most => (run s whole n (.repeat a 0 max .more) w some).bind next
    | .repeat a 0 max greed =>
      if max = some 0 then next w
      else
        let once (_ : Unit) : Option Way := run s whole n a w fun w' =>
          if w'.place = w.place then next w' else run s whole n (.repeat a 0 (max.map (· - 1)) greed) w' next
        if greed = .less then next w <|> once () else once () <|> next w
    | group k a =>
      run s whole n a w fun w' => next { w' with held := (k, w.place, w'.place) :: w'.held.filter (·.1 ≠ k) }
    | firstOf a => (run s whole n a w some).bind next
    | around isBehind isNegated a =>
      let found : Option Way :=
        if isBehind then
          (List.range (w.place + 1)).reverse.findSome? fun place =>
            run s whole n a { w with place } fun w' => if w'.place = w.place then some w' else none
        else run s whole n a w some
      match found, isNegated with
      | some w', false => next { w with held := w'.held }
      | none, true => next w
      | _, _ => none
    | again k ignoresCase => do
      let (start, stop) ← w.held.lookup k
      next { w with place := ← behind? s ignoresCase start stop w.place }
    | call k => do
      let body ← if k = 0 then some whole else whole.group? k
      run s whole n body w fun w' => next { w' with held := w.held }
    | given k a b => run s whole n (if (w.held.lookup k).isSome then a else b) w next
    | restart => next { w with start := w.place }

/-- The match that a place is the start of, with its end. -/
def matchAt? (p : OrderedPattern) (chars : Array Char) (searchStart place : Nat) : Option (Nat × Nat) :=
  (run ⟨chars, searchStart⟩ p (4 * (p.size + 2) * (chars.size + 2)) p { place, start := place } some).map
    fun w => (w.start, w.place)

end OrderedPattern

end HookGate.Shell
