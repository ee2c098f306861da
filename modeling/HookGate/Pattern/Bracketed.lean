import HookGate.Pattern.Escape

/-! # Classes in brackets

Sets of characters written in brackets: items, ranges, named sets, sets within sets, and operations on sets. -/
namespace HookGate.Pattern.Reader

/-- The character at an end of a range, or alone in a class. -/
def classChar (c : Char) (byte : Bool) : Reader Char := do
  if (← get).flags.unicode ∨ c.toNat < 0x80 then return c
  else if byte then fail .mayBreakCharacters
  else fail .notUnicode

def classAtom : Reader Atom := do
  match ← peek with
  | some '\\' => escape
  | some c =>
    bump
    return .literal c false
  | none => fail .classUnclosed

def rangeEnd : Atom → Reader Char
  | .literal c byte => classChar c byte
  | _ => fail .classRangeOfSets

/-- Reads a character, a set, or a range of characters. -/
def classRange : Reader CharSet := do
  let first ← classAtom
  skipSpace
  match ← peek with
  | none => fail .classUnclosed
  | some c =>
    let behind ← peekBehind
    if c ≠ '-' ∨ behind = some ']' ∨ behind = some '-' then
      match first with
      | .literal c byte => return .single (← classChar c byte)
      | .set s => return s
      | .look _ => fail .classEscape
    else
      let _ ← next .classUnclosed
      let last ← classAtom
      let a ← rangeEnd first
      let b ← rangeEnd last
      if a.toNat ≤ b.toNat then return .span a b else fail .classRangeBackward

/-- The sets of ASCII characters that have a name. -/
private def asciiClass? (name : String) : Option CharSet :=
  match name with
  | "alnum" => some (.ranges [(0x30, 0x39), (0x41, 0x5A), (0x61, 0x7A)])
  | "alpha" => some (.ranges [(0x41, 0x5A), (0x61, 0x7A)])
  | "ascii" => some (.ranges [(0, 0x7F)])
  | "blank" => some (.ofChars ['\t', ' '])
  | "cntrl" => some (.ranges [(0, 0x1F), (0x7F, 0x7F)])
  | "digit" => some (.span '0' '9')
  | "graph" => some (.span '!' '~')
  | "lower" => some (.span 'a' 'z')
  | "print" => some (.span ' ' '~')
  | "punct" => some (.ranges [(0x21, 0x2F), (0x3A, 0x40), (0x5B, 0x60), (0x7B, 0x7E)])
  | "space" => some (.ofChars ['\t', '\n', '\x0b', '\x0c', '\r', ' '])
  | "upper" => some (.span 'A' 'Z')
  | "word" => some .asciiWord
  | "xdigit" => some (.ranges [(0x30, 0x39), (0x41, 0x46), (0x61, 0x66)])
  | _ => none

/-- The named class at the front of a text, with whether it is negated, and what follows it. -/
def namedClass? (cs : List Char) : Option (CharSet × Bool × List Char) := do
  let r ← Text.rest? ['[', ':'] cs
  let (negated, r) := match r with
    | '^' :: r' => (true, r')
    | _ => (false, r)
  let s ← asciiClass? (String.ofList (r.takeWhile (· ≠ ':')))
  let rest ← Text.rest? [':', ']'] (r.dropWhile (· ≠ ':'))
  return (s, negated, rest)

/-- An operation on sets. -/
inductive SetOp
  | inter
  | diff
  | symmDiff

private def SetOp.apply : SetOp → CharSet → CharSet → CharSet
  | inter, a, b => .inter a b
  | diff, a, b => .diff a b
  | symmDiff, a, b => .symmDiff a b

private def setOp? : List Char → Option SetOp
  | '&' :: '&' :: _ => some .inter
  | '-' :: '-' :: _ => some .diff
  | '~' :: '~' :: _ => some .symmDiff
  | _ => none

/-- A set with how deep its parts nest. -/
structure Nested where
  set : CharSet
  depth : Nat

private def unionOf : List CharSet → CharSet
  | [] => .empty
  | [s] => s
  | s :: ss => .union s (unionOf ss)

/-- The union of items that were read, the last one first. -/
private def Nested.ofItems (items : List Nested) : Nested :=
  let depth := items.foldl (fun d i => max d i.depth) 0
  ⟨unionOf (items.reverse.map Nested.set), if items.length ≤ 1 then depth else depth + 1⟩

/-- Puts an operation between the sets before it and those behind it. -/
private def Nested.combine (fs : Flags) : Option (SetOp × Nested) → Nested → Nested
  | none, b => b
  | some (op, a), b => ⟨op.apply (foldBy fs a.set) (foldBy fs b.set), max a.depth b.depth + 1⟩

/-- Reads the hyphens that stand for themselves at the start of a class. -/
def leadingHyphens : Nat → List Nested → Reader (List Nested)
  | 0, items => return items
  | fuel + 1, items => do
    if (← peek) = some '-' then
      let _ ← next .classUnclosed
      leadingHyphens fuel (⟨.single '-', 0⟩ :: items)
    else return items

mutual

/-- Reads a class at its opening bracket. -/
def bracketed : Nat → Reader Nested
  | 0 => fail .classUnclosed
  | fuel + 1 => do
    let c ← next .classUnclosed
    let negated := c = '^'
    if negated then
      let _ ← next .classUnclosed
    let items ← leadingHyphens ((← get).rest.length + 1) []
    let items ←
      if items.isEmpty ∧ (← peek) = some ']' then do
        let _ ← next .classUnclosed
        pure [⟨.single ']', 0⟩]
      else pure items
    let body ← classItems fuel none items
    return ⟨← foldAndNegate negated body.set, body.depth + 1⟩

/-- Reads the items of a class up to its closing bracket. -/
def classItems : Nat → Option (SetOp × Nested) → List Nested → Reader Nested
  | 0, _, _ => fail .classUnclosed
  | fuel + 1, pending, items => do
    skipSpace
    let rest := (← get).rest
    match rest with
    | [] => fail .classUnclosed
    | '[' :: _ =>
      match namedClass? rest with
      | some (s, negated, rest') =>
        modify fun c => { c with rest := rest' }
        let s ← foldAndNegate negated s
        classItems fuel pending (⟨s, 0⟩ :: items)
      | none =>
        let inner ← bracketed fuel
        classItems fuel pending (inner :: items)
    | ']' :: rest' =>
      modify fun c => { c with rest := rest' }
      return Nested.combine (← get).flags pending (Nested.ofItems items)
    | _ =>
      match setOp? rest with
      | some op =>
        modify fun c => { c with rest := c.rest.drop 2 }
        let left := Nested.combine (← get).flags pending (Nested.ofItems items)
        classItems fuel (some (op, left)) []
      | none =>
        let s ← classRange
        classItems fuel pending (⟨s, 0⟩ :: items)

end

end HookGate.Pattern.Reader
