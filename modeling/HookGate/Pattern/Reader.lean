import HookGate.Pattern.Bracketed
import HookGate.Pattern.Size

/-! # Reading patterns

The written form of patterns: literals, classes with set operations, groups, flags, alternatives and repetitions.
Look-around and references back to groups are refused, and so is whatever could match a part of a character. -/
namespace HookGate.Pattern

/-- A part of a pattern, with how deep its parts nest and whether it may be repeated. -/
structure Piece where
  pattern : Pattern
  depth : Nat := 0
  repeatable : Bool := true

namespace Reader

/-- Reads flags up to a colon or a closing parenthesis, which is left in place. -/
def flagItems : Nat → List Char → Bool → Bool → Flags → Reader (Flags × Bool)
  | 0, _, _, _, _ => fail .endInFlags
  | fuel + 1, seen, off, dangling, fs => do
    match ← peek with
    | none => fail .endInFlags
    | some c =>
      if c = ':' ∨ c = ')' then
        if dangling then fail .danglingMinus else return (fs, seen.isEmpty)
      else if seen.contains c then fail .repeatedFlag
      else if c = '-' then
        bump
        flagItems fuel (c :: seen) true true fs
      else match fs.set? c !off with
        | none => fail .unknownFlag
        | some fs =>
          bump
          flagItems fuel (c :: seen) off false fs

private def isNameChar (first : Bool) (c : Char) : Bool :=
  let alphabetic := ((Text.PropertyEntry.ofName? ['a', 'l', 'p', 'h', 'a']).getD []).contains c.toNat
  let numeric := ((Text.PropertyEntry.category? "n").getD []).contains c.toNat
  c = '_' || alphabetic || (!first && (numeric || c = '.' || c = '[' || c = ']'))

/-- Reads the name of a group and the sign behind it. -/
def groupName : Reader Unit := do
  let rest := (← get).rest
  let name := rest.takeWhile (· ≠ '>')
  match name with
  | [] => fail .groupName
  | c :: cs =>
    if !isNameChar true c ∨ cs.any (fun c => !isNameChar false c) ∨ name.length = rest.length then fail .groupName
    else
      let n := String.ofList name
      if (← get).names.contains n then fail .repeatedGroupName
      modify fun c => { c with rest := rest.drop (name.length + 1), names := n :: c.names }

/-- Reads a decimal number with blanks around it and, where space is ignored, among its digits. -/
def count : Reader (Option Nat) := do
  modify fun c => { c with rest := c.rest.dropWhile Text.isBlank }
  let rec digits (fuel : Nat) (n? : Option Nat) : Reader (Option Nat) := do
    match fuel with
    | 0 => return n?
    | fuel + 1 =>
      match ← peek with
      | some c =>
        if c.isDigit then
          let _ ← next?
          digits fuel (some (n?.getD 0 * 10 + (c.toNat - 48)))
        else return n?
      | none => return n?
  let n? ← digits ((← get).rest.length + 1) none
  modify fun c => { c with rest := c.rest.dropWhile Text.isBlank }
  skipSpace
  if n?.any (0x100000000 ≤ ·) then fail .countTooLarge else return n?

def needCount : Reader Nat := do
  match ← count with
  | some n => return n
  | none => fail .countMissing

/-- Whether the pattern takes no characters. -/
private def takesNothing : Pattern → Bool
  | .empty => true
  | .set _ => false
  | .look _ => true
  | .seq a b => takesNothing a && takesNothing b
  | .alt a b => takesNothing a && takesNothing b
  | .repeat a _ max _ => max = some 0 || takesNothing a
  | .group _ a => takesNothing a

/-- A repetition; more than one round of a pattern that takes nothing is no more than one. -/
def repeated (a : Pattern) (min : Nat) (max : Option Nat) (greedy : Bool) : Pattern :=
  let (min, max) := if takesNothing a then (Nat.min min 1, some ((max.getD 1).min 1)) else (min, max)
  match min, max with
  | 0, some 0 => .empty
  | 1, some 1 => a
  | _, _ => .repeat a min max greedy

/-- Puts a repetition on the last of the pieces, which are reversed. The mark behind it tells which rounds are
preferred. -/
def repeatLast (pieces : List Piece) (min : Nat) (max : Option Nat) : Reader (List Piece) := do
  let few := (← peek) = some '?'
  if few then bump
  match pieces with
  | p :: ps =>
    let greedy := few = (← get).flags.swapGreed
    return { pattern := repeated p.pattern min max greedy, depth := p.depth + 1 } :: ps
  | [] => fail .nothingToRepeat

def requireRepeatable : List Piece → Reader Unit
  | p :: _ => if p.repeatable then return () else fail .nothingToRepeat
  | [] => fail .nothingToRepeat

/-- Reads the counts of a repetition at the opening brace. -/
def countedRepeat (pieces : List Piece) : Reader (List Piece) := do
  requireRepeatable pieces
  let _ ← next .countUnclosed
  let low ← count
  let (min, max) ←
    match ← peek with
    | none => fail .countUnclosed
    | some ',' => do
      if (← next .countUnclosed) = '\x7d' then
        match low with
        | some n => pure (n, none)
        | none => fail .countMissing
      else
        let high ← needCount
        match low with
        | some n => pure (n, some high)
        | none => fail .countMissing
    | some _ =>
      match low with
      | some n => pure (n, some n)
      | none => fail .countMissing
  if (← peek) ≠ some '\x7d' then fail .countUnclosed
  let _ ← next?
  let pieces ← repeatLast pieces min max
  if max.any (· < min) then fail .countsBackward else return pieces

/-- The piece of several pieces in a row, which are reversed. -/
def Piece.ofRow (pieces : List Piece) : Piece :=
  let depth := pieces.foldl (fun d p => max d p.depth) 0
  { pattern := Pattern.concat ((pieces.reverse.filter Piece.repeatable).map Piece.pattern)
    depth := if pieces.length ≤ 1 then depth else depth + 1 }

/-- The piece of alternatives, which are reversed. -/
def Piece.ofAlternatives (pieces : List Piece) : Piece :=
  let depth := pieces.foldl (fun d p => max d p.depth) 0
  { pattern := Pattern.alternatives (pieces.reverse.map Piece.pattern)
    depth := if pieces.length ≤ 1 then depth else depth + 1 }

def dot : Reader Pattern := do
  let fs := (← get).flags
  if !fs.unicode then fail .mayBreakCharacters
  else if fs.dotAll then return .set .any
  else if fs.returns then return .set (.compl (.ofChars ['\n', '\r']))
  else return .set (.compl (.single '\n'))

def lineLook (atStart : Bool) : Reader Pattern := do
  let fs := (← get).flags
  return .look <| match fs.multiLine, fs.returns, atStart with
    | false, _, true => .textStart
    | false, _, false => .textEnd
    | true, false, true => .lineStart
    | true, false, false => .lineEnd
    | true, true, true => .anyLineStart
    | true, true, false => .anyLineEnd

/-- Reads one character, or what stands for one, outside of classes. -/
def primitive (c : Char) : Reader Piece := do
  match c with
  | '\\' => match ← escape with
    | .literal c byte => return { pattern := ← literalPattern c byte }
    | .set s => return { pattern := .set s }
    | .look l => return { pattern := .look l }
  | '.' => bump; return { pattern := ← dot }
  | '^' => bump; return { pattern := ← lineLook true }
  | '$' => bump; return { pattern := ← lineLook false }
  | c => bump; return { pattern := ← literalPattern c false }

private def lookAroundMarks : List (List Char) := [['?', '='], ['?', '!'], ['?', '<', '='], ['?', '<', '!']]

mutual

/-- Reads alternatives up to the end of the group or of the text; `row` and `seen` are reversed. -/
def alternativesWith : Nat → List Piece → List Piece → Reader Piece
  | 0, _, _ => fail .nestedTooDeep
  | fuel + 1, seen, row => do
    skipSpace
    match ← peek with
    | none => return Piece.ofAlternatives (Piece.ofRow row :: seen)
    | some ')' => return Piece.ofAlternatives (Piece.ofRow row :: seen)
    | some '|' =>
      bump
      alternativesWith fuel (Piece.ofRow row :: seen) []
    | some '(' =>
      let p ← group fuel
      alternativesWith fuel seen (p :: row)
    | some '[' =>
      let n ← bracketed fuel
      alternativesWith fuel seen ({ pattern := .set n.set, depth := n.depth } :: row)
    | some '?' =>
      requireRepeatable row
      bump
      alternativesWith fuel seen (← repeatLast row 0 (some 1))
    | some '*' =>
      requireRepeatable row
      bump
      alternativesWith fuel seen (← repeatLast row 0 none)
    | some '+' =>
      requireRepeatable row
      bump
      alternativesWith fuel seen (← repeatLast row 1 none)
    | some '\x7b' => alternativesWith fuel seen (← countedRepeat row)
    | some c =>
      let p ← primitive c
      alternativesWith fuel seen (p :: row)

/-- Reads a group at its opening parenthesis, or the setting of flags. -/
def group : Nat → Reader Piece
  | 0 => fail .nestedTooDeep
  | fuel + 1 => do
    bump
    skipSpace
    let outer := (← get).flags
    let rest := (← get).rest
    if lookAroundMarks.any (·.isPrefixOf rest) then fail .lookAround
    if ← skipText? ['?', 'P', '<'] then
      groupName
      groupBody fuel true outer
    else if ← skipText? ['?', '<'] then
      groupName
      groupBody fuel true outer
    else if ← skipText? ['?'] then
      if (← peek).isNone then fail .groupUnclosed
      let (fs, unset) ← flagItems ((← get).rest.length + 1) [] false false outer
      let last ← peek
      bump
      if last = some ')' then
        if unset then fail .nothingToRepeat
        modify fun c => { c with flags := fs }
        return { pattern := .empty, repeatable := false }
      else
        modify fun c => { c with flags := fs }
        groupBody fuel false outer
    else groupBody fuel true outer

/-- Reads what stands in parentheses and the closing one, and puts the flags back. -/
def groupBody : Nat → Bool → Flags → Reader Piece
  | 0, _, _ => fail .nestedTooDeep
  | fuel + 1, isGroup, outer => do
    let p ← alternativesWith fuel [] []
    if (← peek) ≠ some ')' then fail .groupUnclosed
    bump
    modify fun c => { c with flags := outer }
    let pattern := if isGroup then .group true p.pattern else p.pattern.apart
    return { pattern, depth := p.depth + 1 }

end

/-- How deep the parts of a pattern may nest. -/
def maxDepth : Nat := 250

end Reader

/-- The pattern that a text writes down. -/
def parse? (ignoreCase : Bool) (text : String) : Except Error Pattern := do
  let cs := text.toList
  let start : Cursor := { rest := cs, flags := { ignoreCase } }
  let (p, c) ← Reader.alternativesWith (3 * cs.length + 3) [] [] start
  if c.rest ≠ [] then throw .groupUnopened
  else if Reader.maxDepth < p.depth then throw .nestedTooDeep
  else if p.pattern.isTooLarge then throw .tooLarge
  else return p.pattern

end HookGate.Pattern
