import HookGate.Pattern.Basic
import Std.Data.HashMap

/-! # Occurrence

A pattern occurs in a text if it matches somewhere in it. A machine with numbered states follows all ways to match at
once: at each place of the text a state is visited at most once, however many ways lead to it. -/
namespace HookGate.Pattern

/-- What a state does: a match is found, a character of a numbered set is taken, a condition is checked, or two
states are both followed. -/
inductive Step
  | done
  | take (set next : Nat)
  | check (l : Look) (next : Nat)
  | fork (a b : Nat)
deriving Repr, DecidableEq, Inhabited

/-- How many sets stand in a pattern. -/
def setCount : Pattern → Nat
  | empty => 0
  | set _ => 1
  | look _ => 0
  | seq a b => a.setCount + b.setCount
  | alt a b => a.setCount + b.setCount
  | .repeat a _ _ _ => a.setCount
  | group _ a => a.setCount

/-- The sets of a pattern from left to right, in front of others. -/
def setsBefore (more : List CharSet) : Pattern → List CharSet
  | empty => more
  | set s => s :: more
  | look _ => more
  | seq a b => a.setsBefore (b.setsBefore more)
  | alt a b => a.setsBefore (b.setsBefore more)
  | .repeat a _ _ _ => a.setsBefore more
  | group _ a => a.setsBefore more

/-- Steps that add states to a machine. -/
abbrev Assembly := StateM (Array Step)

namespace Assembly

/-- Adds a state and gives its number. -/
def add (s : Step) : Assembly Nat := fun steps => (steps.size, steps.push s)

/-- The entry of several copies of a part, the last of which leads to `next`. -/
def copies (part : Nat → Assembly Nat) : Nat → Nat → Assembly Nat
  | 0, next => pure next
  | n + 1, next => do copies part n (← part next)

/-- The entry of several copies of a part in front of the entry `rest`; before each of them all can be left for
`next`. -/
def optional (part : Nat → Assembly Nat) (next : Nat) : Nat → Nat → Assembly Nat
  | 0, rest => pure rest
  | n + 1, rest => do
    let e ← part rest
    optional part next n (← add (.fork e next))

/-- A part that may be gone through again and again before `next`: the place where that is decided, and the entry of
the part. -/
def loop (part : Nat → Assembly Nat) (next : Nat) : Assembly (Nat × Nat) := do
  let i ← add .done
  let e ← part i
  modify fun steps => steps.set! i (.fork e next)
  return (i, e)

/-- Adds the states of a pattern, the sets of which are numbered from `base` on; the entry is given back. -/
def entry : Pattern → (base next : Nat) → Assembly Nat
  | empty, _, next => pure next
  | set _, base, next => add (.take base next)
  | look l, _, next => add (.check l next)
  | seq a b, base, next => do entry a base (← entry b (base + a.setCount) next)
  | alt a b, base, next => do
    let x ← entry a base next
    let y ← entry b (base + a.setCount) next
    add (.fork x y)
  | .repeat a min none _, base, next => do
    let (i, e) ← loop (entry a base) next
    match min with
    | 0 => pure i
    | min + 1 => copies (entry a base) min e
  | .repeat a min (some max) _, base, next => do
    copies (entry a base) min (← optional (entry a base) next (max - min) next)
  | group _ a, base, next => entry a base next

end Assembly

structure Machine where
  steps : Array Step
  start : Nat
  sets : Array CharSet

namespace Machine

/-- Different sets among some, and for each of the some the number of its equal among the different ones. -/
def different : List CharSet → Std.HashMap CharSet Nat → Array CharSet → Array Nat → Array CharSet × Array Nat
  | [], _, sets, numbers => (sets, numbers)
  | s :: rest, known, sets, numbers =>
    match known[s]? with
    | some n => different rest known sets (numbers.push n)
    | none => different rest (known.insert s sets.size) (sets.push s) (numbers.push sets.size)

def ofPattern (p : Pattern) : Machine :=
  let (start, steps) := (do Assembly.entry p 0 (← Assembly.add .done)).run #[]
  let (sets, numbers) := different (p.setsBefore []) {} #[] #[]
  let renumbered : Step → Step
    | .take s n => .take (numbers.getD s s) n
    | s => s
  { steps := steps.map renumbered, start, sets }

/-- The states from which a character is taken, as set and next state. -/
abbrev Takes := List (Nat × Nat)

/-- Visits states between two neighbouring characters. A state that was seen at the place is passed over; nothing is
left to visit once a match is found. -/
def visit (m : Machine) (prev next : Option Char) (place : Nat) :
    Nat → List Nat → Array Nat → Takes → Option (Array Nat × Takes)
  | 0, _, seen, takes => some (seen, takes)
  | _ + 1, [], seen, takes => some (seen, takes)
  | fuel + 1, i :: todo, seen, takes =>
    if h : i < m.steps.size then
      if seen.getD i 0 = place then m.visit prev next place fuel todo seen takes
      else
        let seen := seen.set! i place
        match m.steps[i] with
        | .done => none
        | .take s n => m.visit prev next place fuel todo seen ((s, n) :: takes)
        | .check l n => m.visit prev next place fuel (if l.holds prev next then n :: todo else todo) seen takes
        | .fork a b => m.visit prev next place fuel (a :: b :: todo) seen takes
    else m.visit prev next place fuel todo seen takes

/-- The states behind a character; `known` tells which sets hold it, as far as that was asked. -/
def advance (m : Machine) (c : Char) : Takes → Array (Option Bool) → List Nat → List Nat
  | [], _, states => states
  | (s, n) :: takes, known, states =>
    match known.getD s none with
    | some holds => m.advance c takes known (if holds then n :: states else states)
    | none =>
      let holds := (m.sets[s]?).any (·.contains c)
      m.advance c takes (known.set! s (some holds)) (if holds then n :: states else states)

/-- Whether a match is found from one of the states, or from the start of the machine at some later place. Places are
counted from 1. -/
def runs (m : Machine) (place : Nat) (prev : Option Char) (states : List Nat) (seen : Array Nat) : List Char → Bool
  | [] => (m.visit prev none place (states.length + 2 * m.steps.size + 2) (m.start :: states) seen []).isNone
  | c :: cs =>
    match m.visit prev (some c) place (states.length + 2 * m.steps.size + 2) (m.start :: states) seen [] with
    | none => true
    | some (seen, takes) =>
      m.runs (place + 1) (some c) (m.advance c takes (Array.replicate m.sets.size none) []) seen cs

def occurs (m : Machine) (text : List Char) : Bool := m.runs 1 none [] (Array.replicate m.steps.size 0) text

end Machine

/-- Whether the pattern matches somewhere in a text. -/
def occurs (p : Pattern) (text : List Char) : Bool := (Machine.ofPattern p).occurs text

def occursIn (p : Pattern) (text : String) : Bool := p.occurs text.toList

end HookGate.Pattern
