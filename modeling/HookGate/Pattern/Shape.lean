import HookGate.Pattern.Basic
import HookGate.Text.Case.Closure

/-! # Simplified patterns

The form of a pattern for which machines are built: neighbouring characters are joined to literals, single characters
and sets among alternatives to one set, and what all alternatives begin with stands in front of them. A shape matches
what its pattern matches. -/
namespace HookGate

/-- The members of a set as normal ranges. -/
def CharSet.toRanges : CharSet → Text.Ranges
  | ranges rs => rs.normal
  | word => Text.wordRanges
  | union a b => (a.toRanges ++ b.toRanges).normal
  | inter a b => (a.toRanges.compl ++ b.toRanges.compl).compl
  | diff a b => (a.toRanges.compl ++ b.toRanges).compl
  | symmDiff a b =>
    let ra := a.toRanges
    let rb := b.toRanges
    ((ra.compl ++ rb).compl ++ (rb.compl ++ ra).compl).normal
  | compl a => a.toRanges.compl
  | folded a => a.toRanges.folded
  | foldedAscii a => a.toRanges.extend Text.asciiCases

namespace Pattern

/-- A row has at least two parts and none of them is a row or empty, and no two literals in it are neighbours. -/
inductive Shape
  | empty
  /-- One character after the other, and at least one. -/
  | literal (cs : List Char)
  /-- One character of normal ranges, which are not just a single character. -/
  | set (rs : Text.Ranges)
  | look (l : Look)
  | repeat (a : Shape) (min : Nat) (max : Option Nat) (greedy : Bool)
  | group (a : Shape)
  | row (ps : List Shape)
  | choice (ps : List Shape)
deriving Inhabited

namespace Shape

mutual

/-- Whether two shapes can stand for each other. Groups cannot: each of them is given back by itself. -/
def same : Shape → Shape → Bool
  | empty, empty => true
  | literal cs, literal ds => cs = ds
  | set rs, set ss => rs = ss
  | look l, look k => l = k
  | .repeat a min max greedy, .repeat b min' max' greedy' =>
    min = min' && max = max' && greedy = greedy' && same a b
  | row ps, row qs => sameAll ps qs
  | choice ps, choice qs => sameAll ps qs
  | _, _ => false

def sameAll : List Shape → List Shape → Bool
  | [], [] => true
  | p :: ps, q :: qs => same p q && sameAll ps qs
  | _, _ => false

end

/-! ## Lengths of matches -/

mutual

/-- The length of the shortest match in characters; a set without members has none. -/
def minLength? : Shape → Option Nat
  | empty => some 0
  | literal cs => some cs.length
  | set rs => if rs = [] then none else some 1
  | look _ => some 0
  | .repeat a min _ _ => (minLength? a).map (· * min)
  | group a => minLength? a
  | row ps => minSum? ps
  | choice ps => minOf? ps

def minSum? : List Shape → Option Nat
  | [] => some 0
  | p :: ps => do return (← minLength? p) + (← minSum? ps)

/-- The least length, if each of the shapes has one. -/
def minOf? : List Shape → Option Nat
  | [] => none
  | [p] => minLength? p
  | p :: ps => do return Nat.min (← minLength? p) (← minOf? ps)

end

mutual

/-- Whether all matches are without characters. -/
def takesNothing : Shape → Bool
  | empty => true
  | literal _ => false
  | set _ => false
  | look _ => true
  | .repeat a _ max _ => max.isSome && takesNothing a
  | group a => takesNothing a
  | row ps => takeNothing ps
  | choice ps => takeNothing ps

def takeNothing : List Shape → Bool
  | [] => true
  | p :: ps => takesNothing p && takeNothing ps

end

/-- Whether every match takes some character. -/
def takesSomething (p : Shape) : Bool := p.minLength?.any (0 < ·)

/-! ## Matches at the ends of the text -/

mutual

/-- Whether a match can only stand at the start of the text, or at its end. -/
def isBound (atEnd : Bool) : Shape → Bool
  | look l => l = (if atEnd then .textEnd else .textStart)
  | .repeat a min _ _ => min ≠ 0 && isBound atEnd a
  | group a => isBound atEnd a
  | row ps => if atEnd then lastIsBound ps else firstIsBound ps
  | choice ps => allAreBound atEnd ps
  | _ => false

/-- Whether a part that no character stands before is bound to the start. -/
def firstIsBound : List Shape → Bool
  | [] => false
  | p :: ps => isBound false p || (takesNothing p && firstIsBound ps)

/-- Whether a part that no character stands behind is bound to the end. -/
def lastIsBound : List Shape → Bool
  | [] => false
  | p :: ps => lastIsBound ps || (takeNothing ps && isBound true p)

def allAreBound (atEnd : Bool) : List Shape → Bool
  | [] => true
  | p :: ps => isBound atEnd p && allAreBound atEnd ps

end

/-! ## Building shapes -/

/-- The shape of one character of normal ranges. -/
def ofRanges (rs : Text.Ranges) : Shape :=
  match rs with
  | [(a, b)] => if a = b then literal [Char.ofNat a] else set rs
  | _ => set rs

/-- The parts of a row. -/
def parts : Shape → List Shape
  | empty => []
  | row ps => ps
  | p => [p]

def ofParts : List Shape → Shape
  | [] => empty
  | [p] => p
  | ps => row ps

/-- Two rows of parts, one behind the other, with the literals at the seam joined. -/
def joined : List Shape → List Shape → List Shape
  | [literal cs], literal ds :: qs => literal (cs ++ ds) :: qs
  | [], qs => qs
  | p :: ps, qs => p :: joined ps qs

def followedBy (p q : Shape) : Shape := ofParts (joined p.parts q.parts)

/-- The single characters of the shapes, if all of them are such. -/
def singles? : List Shape → Option Text.Ranges
  | [] => some []
  | literal [c] :: ps => (singles? ps).map ((c.toNat, c.toNat) :: ·)
  | _ => none

/-- The members of the shapes, if all of them are sets. -/
def members? : List Shape → Option Text.Ranges
  | [] => some []
  | set rs :: ps => (members? ps).map (rs ++ ·)
  | _ => none

/-- How many parts two rows have in common at their beginning. -/
def commonParts : List Shape → List Shape → Nat
  | p :: ps, q :: qs => if same p q then commonParts ps qs + 1 else 0
  | _, _ => 0

/-- How many of the parts all of the shapes begin with, which must be rows. -/
def sharedParts (ps : List Shape) : List Shape → Nat
  | [] => ps.length
  | row qs :: rest => Nat.min (commonParts ps qs) (sharedParts ps rest)
  | _ => 0

/-- The alternatives of a choice. -/
def alternatives : Shape → List Shape
  | choice ps => ps
  | p => [p]

/-- Any of several shapes; `depth` is how often a beginning may be taken out. -/
def choiceOf : Nat → List Shape → Shape
  | depth, ps =>
    match ps.flatMap alternatives with
    | [] => set []
    | [p] => p
    | p :: ps =>
      match (singles? (p :: ps)).or (members? (p :: ps)) with
      | some rs => ofRanges rs.normal
      | none =>
        match depth, p with
        | depth + 1, row first =>
          match sharedParts first ps with
          | 0 => choice (p :: ps)
          | n =>
            (ofParts (first.take n)).followedBy
              (choiceOf depth ((p :: ps).map fun q => ofParts (q.parts.drop n)))
        | _, _ => choice (p :: ps)

/-- A repetition; more than one round of a shape that takes nothing is no more than one. -/
def repeated (a : Shape) (min : Nat) (max : Option Nat) (greedy : Bool) : Shape :=
  let (min, max) := if a.takesNothing then (Nat.min min 1, some ((max.getD 1).min 1)) else (min, max)
  match min, max with
  | 0, some 0 => empty
  | 1, some 1 => a
  | _, _ => .repeat a min max greedy

/-- Any of several shapes: each time a beginning is taken out, the rows get shorter. -/
def anyOf (ps : List Shape) : Shape :=
  choiceOf ((ps.flatMap alternatives).foldl (fun n p => Nat.max n p.parts.length) 0) ps

end Shape

mutual

/-- The simplified form of a pattern. -/
def shape : Pattern → Shape
  | empty => .empty
  | set s => .ofRanges s.toRanges
  | look l => .look l
  | seq a b => a.shape.followedBy b.shape
  | alt a b => .anyOf (a.shape :: b.shapes)
  | .repeat a min max greedy => .repeated a.shape min max greedy
  | group kept a => if kept then .group a.shape else a.shape

/-- The shapes of the alternatives that a pattern is made of. -/
def shapes : Pattern → List Shape
  | alt a b => a.shape :: b.shapes
  | empty => [.empty]
  | set s => [.ofRanges s.toRanges]
  | look l => [.look l]
  | seq a b => [a.shape.followedBy b.shape]
  | .repeat a min max greedy => [.repeated a.shape min max greedy]
  | group kept a => [if kept then .group a.shape else a.shape]

end

end Pattern

end HookGate
