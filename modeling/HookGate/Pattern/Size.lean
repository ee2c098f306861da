import HookGate.Pattern.Shape
import HookGate.Text.Utf8Ranges

/-! # The size of patterns

A pattern is run as a machine over bytes, once for reading forward and once for reading backward. The states of a
machine are numbered in the order in which they are made, and its size is the memory that they take, with repetitions
written out. Patterns with too large a machine are refused. -/
namespace HookGate.Pattern

/-- The bytes that a state takes. -/
def stateSize : Nat := 32

/-- The bytes that a range of bytes takes in a state that has several. -/
def rangeSize : Nat := 8

/-- The bytes that a way to go on takes in a state that has several. -/
def wayOutSize : Nat := 4

/-- The most bytes that a machine may take. -/
def maxSize : Nat := 10 * 1024 * 1024

/-- What is made of a machine so far. -/
structure Extent where
  states : Nat := 0
  bytes : Nat := 0
deriving Repr, DecidableEq

/-- Steps that make a machine, and give up when it gets too large. -/
abbrev Making := StateT Extent Option

namespace Making

/-- Makes a state with some bytes beside the common ones, and gives its number. -/
def state (more : Nat) : Making Nat := fun e =>
  let bytes := e.bytes + stateSize + more
  if maxSize < bytes then none else some (e.states, ⟨e.states + 1, bytes⟩)

/-- Adds ways to go on to states that are there. -/
def waysOut (count : Nat) : Making Unit := fun e =>
  let bytes := e.bytes + wayOutSize * count
  if maxSize < bytes then none else some ((), ⟨e.states, bytes⟩)

/-- Makes the same part several times. -/
def times : Nat → Making Unit → Making Unit
  | 0, _ => pure ()
  | n + 1, part => do
    part
    times n part

/-! ## Sets read forward

The rows of a set share states at their ends: a state is looked for among those made for the set before, which are
kept in a table with one place for each remainder of a mixed number. A state that came later drives out another one
at its place. -/

/-- Mixes a number into another one. -/
def mix (h : UInt64) (n : Nat) : UInt64 := (h ^^^ UInt64.ofNat n) * 1099511628211

def mixStart : UInt64 := 14695981039346656037

/-- A range of bytes and the number of the state behind it. -/
structure Way where
  range : Nat × Nat
  next : Nat
deriving DecidableEq, Inhabited

/-- The places for states, each with the ways out of a state and its number. -/
abbrev Known := Array (Option (List Way × Nat))

def knownPlaces : Nat := 10000

/-- A state that is not yet made: ways out that are settled, in reverse, and the range of the way under way. -/
structure Draft where
  settled : List Way := []
  last? : Option (Nat × Nat) := none

/-- The ways out of a draft whose last way leads to a state. -/
def Draft.ways (d : Draft) (next : Nat) : List Way :=
  ((d.last?.map fun r => Way.mk r next).toList ++ d.settled).reverse

/-- The state with some ways out, made unless it is known. -/
def shared (known : Known) (ways : List Way) : Making (Known × Nat) := do
  let h := ways.foldl (fun h w => mix (mix (mix h w.range.1) w.range.2) w.next) mixStart
  let place := h.toNat % knownPlaces
  match (known[place]?).join with
  | some (known', n) =>
    if known' = ways then return (known, n)
    else
      let n ← state (rangeSize * ways.length)
      return (known.set! place (some (ways, n)), n)
  | none =>
    let n ← state (rangeSize * ways.length)
    return (known.set! place (some (ways, n)), n)

/-- Makes the states of the drafts, the last one first, which leads to the state `goal`. -/
def settle (known : Known) (goal : Nat) : List Draft → Making (Known × Nat)
  | [] => return (known, goal)
  | d :: ds => do
    let (known, next) ← settle known goal ds
    shared known (d.ways next)

/-- Adds a row to the drafts, which stand for the row before: those that differ from it are made. -/
def addRow (known : Known) (goal : Nat) : List Draft → Text.ByteRow → Making (Known × List Draft)
  | d :: ds, r :: row =>
    if d.last? = some r ∧ row ≠ [] then do
      let (known, ds) ← addRow known goal ds row
      return (known, d :: ds)
    else do
      let (known, next) ← settle known goal ds
      let d : Draft := { settled := (d.ways next).reverse, last? := some r }
      return (known, d :: row.map fun r => { last? := some r })
  | ds, _ => return (known, ds)

def addRows (goal : Nat) : Known → List Draft → List Text.ByteRow → Making (Known × List Draft)
  | known, ds, [] => return (known, ds)
  | known, ds, row :: rows => do
    let (known, ds) ← addRow known goal ds row
    addRows goal known ds rows

def forwardSet (rows : List Text.ByteRow) : Making Unit := do
  let goal ← state 0
  let (known, ds) ← addRows goal (Array.replicate knownPlaces none) [{}] rows
  let _ ← settle known goal ds

/-! ## Sets read backward

Each row has a way of its own into the machine; rows that begin alike share the states for that. -/

/-- The places for states, each with the state behind it, its range and its number. -/
abbrev KnownEnds := Array (Option (Way × Nat))

def knownEndPlaces : Nat := 1000

def backwardRow (known : KnownEnds) (next : Nat) : Text.ByteRow → Making KnownEnds
  | [] => return known
  | r :: row => do
    let way : Way := ⟨r, next⟩
    let place := (mix (mix (mix mixStart next) r.1) r.2).toNat % knownEndPlaces
    match (known[place]?).join with
    | some (way', n) =>
      if way' = way then backwardRow known n row
      else
        let n ← state 0
        backwardRow (known.set! place (some (way, n))) n row
    | none =>
      let n ← state 0
      backwardRow (known.set! place (some (way, n))) n row

def backwardRows (goal : Nat) : KnownEnds → List Text.ByteRow → Making Unit
  | _, [] => pure ()
  | known, row :: rows => do
    let known ← backwardRow known goal row
    waysOut 1
    backwardRows goal known rows

def backwardSet (rows : List Text.ByteRow) : Making Unit := do
  let _ ← state 0
  let goal ← state 0
  backwardRows goal (Array.replicate knownEndPlaces none) rows

/-! ## Literals -/

/-- Literals by their first bytes. A literal that ends at a node closes the bytes before it: they are not joined by
later ones. -/
inductive Trie
  | node (closed : List (List (UInt8 × Trie))) (open' : List (UInt8 × Trie))

namespace Trie

def leaf : Trie := node [] []

/-- Whether no byte follows. -/
def isLeaf : Trie → Bool
  | node closed os => closed.all List.isEmpty && os.isEmpty

mutual

/-- The trie with one literal more. -/
def insert : List UInt8 → Trie → Trie
  | [], node closed os =>
    if (node closed os).isLeaf && !closed.isEmpty then node closed os else node (closed ++ [os]) []
  | b :: bs, node closed os => node closed (insertIn b bs os)

def insertIn (b : UInt8) (bs : List UInt8) : List (UInt8 × Trie) → List (UInt8 × Trie)
  | [] => [(b, insert bs leaf)]
  | (c, t) :: ts =>
    if b < c then (b, insert bs leaf) :: (c, t) :: ts
    else if b = c then (c, insert bs t) :: ts
    else (c, t) :: insertIn b bs ts

end

mutual

/-- Makes the states of a node: one for each list of bytes, and one that leads to them. -/
def make : Trie → Making Unit
  | node closed os => do
    makeLists closed
    makeAll os
    if !os.isEmpty then
      let _ ← state (if os.length = 1 then 0 else rangeSize * os.length)
    let lists := (closed.filter fun l => !l.isEmpty).length + if os.isEmpty then 0 else 1
    let _ ← state (wayOutSize * (lists + closed.length))

def makeLists : List (List (UInt8 × Trie)) → Making Unit
  | [] => pure ()
  | l :: ls => do
    makeAll l
    if !l.isEmpty then
      let _ ← state (if l.length = 1 then 0 else rangeSize * l.length)
    makeLists ls

def makeAll : List (UInt8 × Trie) → Making Unit
  | [] => pure ()
  | (_, t) :: ts => do
    if !t.isLeaf then make t
    makeAll ts

end

end Trie

/-- Makes a choice of literals. -/
def literals (backward : Bool) (css : List (List Char)) : Making Unit := do
  let _ ← state 0
  let bytes (cs : List Char) : List UInt8 := cs.flatMap String.utf8EncodeChar
  let order (bs : List UInt8) : List UInt8 := if backward then bs.reverse else bs
  (css.foldl (fun t cs => t.insert (order (bytes cs))) Trie.leaf).make

/-- The literals of the shapes, if all of them are such. -/
def literals? : List Shape → Option (List (List Char))
  | [] => some []
  | .literal cs :: ps => (literals? ps).map (cs :: ·)
  | _ => none

/-! ## Shapes -/

mutual

/-- Makes the part of a machine for a shape. What leads on from it is counted here. -/
def shape (backward : Bool) : Shape → Making Unit
  | .empty => do let _ ← state 0
  | .literal cs => times (cs.foldl (fun n c => n + c.utf8Size) 0) (do let _ ← state 0)
  | .set rs =>
    if rs.all fun r => r.2 < 0x80 then do
      let _ ← state 0
      let _ ← state (rangeSize * rs.length)
    else if backward then backwardSet rs.toByteRows
    else forwardSet rs.toByteRows
  | .look _ => do let _ ← state 0
  | .repeat a min max _ => rounds a.takesSomething (shape backward a) min max
  | .group a => do
    if !backward then let _ ← state 0
    shape backward a
    if !backward then let _ ← state 0
  | .row ps => if backward then rowBackward ps else rowForward ps
  | .choice ps =>
    match literals? ps with
    | some css => literals backward css
    | none => choice backward 0 ps

def rowForward : List Shape → Making Unit
  | [] => pure ()
  | p :: ps => do
    shape false p
    rowForward ps

def rowBackward : List Shape → Making Unit
  | [] => pure ()
  | p :: ps => do
    rowBackward ps
    shape true p

/-- Makes alternatives; the states around them are made behind the second one. -/
def choice (backward : Bool) (made : Nat) : List Shape → Making Unit
  | [] => pure ()
  | p :: ps => do
    shape backward p
    if made = 1 then
      let _ ← state 0
      let _ ← state 0
    waysOut 1
    choice backward (made + 1) ps

/-- Makes a repetition of a part. -/
def rounds (nonempty : Bool) (part : Making Unit) : Nat → Option Nat → Making Unit
  | 0, some 1 => do
    let _ ← state (2 * wayOutSize)
    part
    let _ ← state 0
  | 0, none => do
    if nonempty then
      let _ ← state (2 * wayOutSize)
      part
    else
      part
      let _ ← state (2 * wayOutSize)
      let _ ← state (2 * wayOutSize)
      let _ ← state 0
  | min, none => do
    times min part
    let _ ← state (2 * wayOutSize)
  | min, some max => do
    if min = 0 then let _ ← state 0
    times min part
    if min < max then
      let _ ← state 0
      times (max - min) do
        let _ ← state (2 * wayOutSize)
        part

end

/-- Makes the machine for a shape. In front stands a loop over the text before a match, unless the shape is bound to
the end from which the text is read; a state for the end stands behind. Reading forward keeps where the match begins
and ends. -/
def machine (backward : Bool) (p : Shape) : Making Unit := do
  if p.isBound backward then
    let _ ← state 0
  else
    let _ ← state (2 * wayOutSize)
    let _ ← state 0
    let _ ← state rangeSize
  shape backward (.group p)
  let _ ← state 0

end Making

/-- Whether a machine for the pattern gets too large. -/
def isTooLarge (p : Pattern) : Bool :=
  let s := p.shape
  ((Making.machine false s).run {}).isNone || ((Making.machine true s).run {}).isNone

end HookGate.Pattern
