import HookGate.Shell.Glob

/-! # Patterns for lines

The patterns with which lines are searched for. Of all texts that a pattern stands for at a place, the longest one
counts. What a group stood for can be asked for again, so a way to match is a place together with what the groups that
are referred to have held. -/
namespace HookGate.Shell

/-- One of the things that brackets list. -/
inductive LinePattern.Member
  | range (first last : Char)
  | kind (name : String)
deriving Repr, DecidableEq

/-- A condition on a place. -/
inductive LinePattern.Place
  | lineStart
  | lineEnd
  /-- The end of what is searched, be it that of the line or not. -/
  | partEnd
  | wordStart
  | wordEnd
  | wordEdge
  | noWordEdge
deriving Repr, DecidableEq

inductive LinePattern
  | empty
  | any
  | char (c : Char)
  | oneOf (negated : Bool) (members : List LinePattern.Member)
  | look (p : LinePattern.Place)
  | seq (a b : LinePattern)
  | alt (a b : LinePattern)
  /-- Without `max` there is no bound. -/
  | repeat (a : LinePattern) (min : Nat) (max : Option Nat)
  | group (n : Nat) (a : LinePattern)
  /-- What a group stood for, once more. -/
  | again (n : Nat)
deriving Repr, DecidableEq

namespace LinePattern

/-- The groups that are asked for again. -/
def references : LinePattern → List Nat
  | again n => [n]
  | seq a b | alt a b => a.references ++ b.references
  | .repeat a _ _ | group _ a => a.references
  | _ => []

/-- The pattern of a text that stands for itself. -/
def ofText (cs : List Char) : LinePattern := cs.foldr (fun c p => if p = empty then char c else seq (char c) p) empty

/-! ## Lines -/

/-- A line, of which the part before `stop` is searched. -/
structure Line where
  chars : Array Char
  stop : Nat
  ignoresCase : Bool := false

namespace Line

def ofChars (cs : List Char) (ignoresCase : Bool) : Line :=
  let chars := cs.toArray
  ⟨chars, chars.size, ignoresCase⟩

def get? (l : Line) (place : Nat) : Option Char := if place < l.stop then l.chars[place]? else none

def hasWordAt (l : Line) (place : Nat) : Bool := (l.get? place).any fun c => c.isAlphanum || c == '_'

def hasWordBefore (l : Line) (place : Nat) : Bool := 0 < place && l.hasWordAt (place - 1)

/-- Whether two characters are the same, as far as case counts. -/
def alike (l : Line) (c d : Char) : Bool := c == d || (l.ignoresCase && c.toLower == d.toLower)

/-- Whether a test accepts a character, or one that is alike. -/
def accepts (l : Line) (test : Char → Bool) (c : Char) : Bool :=
  test c || (l.ignoresCase && (test c.toLower || test c.toUpper))

end Line

def Member.accepts : Member → Char → Bool
  | range a b, c => a ≤ c && c ≤ b
  | kind name, c => ((characterKinds.lookup name).map fun k => k c).getD false

def Place.holds (l : Line) (place : Nat) : Place → Bool
  | lineStart => place = 0
  | lineEnd => place = l.chars.size
  | partEnd => place = l.stop
  | wordStart => l.hasWordAt place && !l.hasWordBefore place
  | wordEnd => l.hasWordBefore place && !l.hasWordAt place
  | wordEdge => l.hasWordBefore place != l.hasWordAt place
  | noWordEdge => l.hasWordBefore place == l.hasWordAt place

/-! ## Ways to match -/

/-- How far a match got, and where the groups that are asked for again were last found. -/
structure Way where
  place : Nat
  held : List (Nat × Nat × Nat) := []
deriving Repr, DecidableEq

namespace Way

/-- The ways in `a` and in `b`; in both of them places go down. -/
def merge : List Way → List Way → List Way
  | [], ws => ws
  | vs, [] => vs
  | v :: vs, w :: ws =>
    if w.place < v.place then v :: merge vs (w :: ws)
    else if v.place < w.place then w :: merge (v :: vs) ws
    else if v = w then v :: merge vs ws
    else if (w :: ws).contains v then merge vs (w :: ws)
    else v :: merge vs (w :: ws)
termination_by vs ws => vs.length + ws.length

/-- The ways of the first list that are not in the second; in both of them places go down. -/
def without : List Way → List Way → List Way
  | [], _ => []
  | vs, [] => vs
  | v :: vs, w :: ws =>
    if w.place < v.place then v :: without vs (w :: ws)
    else if v.place < w.place then without (v :: vs) ws
    else if (w :: ws).contains v then without vs (w :: ws)
    else v :: without vs (w :: ws)
termination_by vs ws => vs.length + ws.length

end Way

/-- Takes a step so many times. -/
private def times (step : List Way → List Way) : Nat → List Way → List Way
  | 0, ws => ws
  | n + 1, ws => if ws.isEmpty then [] else times step n (step ws)

/-- The ways that at most so many steps reach, where `seen` are known and `new` are those found last. -/
private def closure (step : List Way → List Way) : Nat → (seen new : List Way) → List Way
  | 0, seen, _ => seen
  | n + 1, seen, new =>
    let new := Way.without (step new) seen
    if new.isEmpty then seen else closure step n (Way.merge seen new) new

/-- Goes over a character that passes a test. -/
private def take (l : Line) (test : Char → Bool) (ws : List Way) : List Way :=
  ws.filterMap fun w => if (l.get? w.place).any (l.accepts test) then some { w with place := w.place + 1 } else none

/-- Goes over what a group held. -/
private def repeated (l : Line) (n : Nat) (w : Way) : Option Way := do
  let (start, stop) ← w.held.lookup n
  let isThere := (List.range (stop - start)).all fun i =>
    match l.get? (start + i), l.get? (w.place + i) with
    | some c, some d => l.alike c d
    | _, _ => false
  if isThere then some { w with place := w.place + (stop - start) } else none

/-- The ways that go on from some with a pattern. In all lists of ways places go down; `kept` are the groups that are
asked for again. -/
def ends (l : Line) (kept : List Nat) : LinePattern → List Way → List Way
  | empty, ws => ws
  | any, ws => take l (fun _ => true) ws
  | char c, ws => take l (· == c) ws
  | oneOf negated members, ws =>
    ws.filterMap fun w =>
      if (l.get? w.place).any fun c => l.accepts (fun c => members.any (·.accepts c)) c != negated then
        some { w with place := w.place + 1 }
      else none
  | look p, ws => ws.filter fun w => p.holds l w.place
  | seq a b, ws => ends l kept b (ends l kept a ws)
  | alt a b, ws => Way.merge (ends l kept a ws) (ends l kept b ws)
  | .repeat a min max, ws =>
    let start := times (ends l kept a) min ws
    let bound := match max with
      | some n => n - min
      | none => (l.stop + 2) * (kept.length + 2)
    closure (ends l kept a) bound start start
  | group n a, ws =>
    if kept.contains n then
      ws.foldr (fun w others =>
        Way.merge ((ends l kept a [w]).map fun e =>
          { e with held := (n, w.place, e.place) :: e.held.filter (·.1 ≠ n) }) others) []
    else ends l kept a ws
  | again n, ws => ws.foldr (fun w others => Way.merge (repeated l n w).toList others) []

/-- Whether a pattern matches a word somewhere in a line. -/
def occursAsWord (p : LinePattern) (l : Line) : Bool :=
  let starts := (List.range (l.stop + 1)).reverse.filter fun place => !l.hasWordBefore place
  (ends l p.references p (starts.map fun place => { place })).any fun w => !l.hasWordAt w.place

/-- Whether a pattern matches somewhere in a line. -/
def occurs (p : LinePattern) (l : Line) : Bool :=
  !(ends l p.references p ((List.range (l.stop + 1)).reverse.map fun place => { place })).isEmpty

/-- Where the longest match that starts at a place ends. -/
def longest? (p : LinePattern) (l : Line) (start : Nat) : Option Nat :=
  (ends l p.references p [{ place := start }]).head?.map Way.place

end LinePattern

end HookGate.Shell
