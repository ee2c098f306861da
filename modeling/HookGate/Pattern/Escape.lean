import HookGate.Pattern.Basic
import HookGate.Pattern.Cursor
import HookGate.Text.Property.Lookup

/-! # Characters of patterns and what a backslash makes of them

A backslash takes the meaning from a character, or stands in front of a code point, of a set or of an assertion. -/
namespace HookGate.Pattern.Reader

/-- What a backslash and the characters behind it stand for. -/
inductive Atom
  /-- A character, and whether it was written as the value of one byte. -/
  | literal (c : Char) (byte : Bool)
  | set (s : CharSet)
  | look (l : Look)

private def isMeta (c : Char) : Bool :=
  ['\\', '.', '+', '*', '?', '(', ')', '|', '[', ']', '\x7b', '\x7d', '^', '$', '#', '&', '-', '~'].contains c

/-- Characters that a backslash leaves as they are. -/
private def isEscapable (c : Char) : Bool :=
  isMeta c || (c.toNat < 0x80 && !c.isAlphanum && c ≠ '<' && c ≠ '>')

private def hexDigit? (c : Char) : Option Nat :=
  if '0' ≤ c ∧ c ≤ '9' then some (c.toNat - 48)
  else if 'a' ≤ c ∧ c ≤ 'f' then some (c.toNat - 87)
  else if 'A' ≤ c ∧ c ≤ 'F' then some (c.toNat - 55)
  else none

def charOf (n : Nat) : Reader Char :=
  if n < 0xD800 ∨ (0xE000 ≤ n ∧ n < 0x110000) then return Char.ofNat n else fail .badCodePoint

/-- Reads the digits of a code point before a closing brace; at the brace or the digit before. -/
def hexBraced : Nat → Nat → Nat → Reader Char
  | 0, _, _ => fail .endInEscape
  | fuel + 1, count, n => do
    let c ← next .endInEscape
    if c = '\x7d' then
      let _ ← next?
      if count = 0 then fail .badHexDigit else charOf n
    else match hexDigit? c with
      | some d => hexBraced fuel (count + 1) (16 * n + d)
      | none => fail .badHexDigit

/-- Reads `count` more digits; the next character is one of them. -/
def hexFixed : Nat → Nat → Reader Char
  | 0, n => charOf n
  | count + 1, n => do
    match ← peek with
    | none => fail .endInEscape
    | some c => match hexDigit? c with
      | none => fail .badHexDigit
      | some d =>
        let _ ← next?
        hexFixed count (16 * n + d)

/-- Reads a code point at the letter that says how many digits it has. -/
def hexAtom (letter : Char) : Reader Atom := do
  let c ← next .endInEscape
  if c = '\x7b' then
    return .literal (← hexBraced ((← get).rest.length + 1) 0 0) false
  else
    let digits := if letter = 'x' then 2 else if letter = 'u' then 4 else 8
    return .literal (← hexFixed digits 0) (letter = 'x')

def negateIf (negated : Bool) (s : CharSet) : CharSet := if negated then .compl s else s

/-- Closes a set under the case of letters if the flags ask for it. -/
def foldBy (fs : Flags) (s : CharSet) : CharSet :=
  if fs.ignoreCase then (if fs.unicode then .folded s else .foldedAscii s) else s

/-- Closes a set under case and negates it; without Unicode a negated set would hold parts of characters. -/
def foldAndNegate (negated : Bool) (s : CharSet) : Reader CharSet := do
  let fs := (← get).flags
  if negated ∧ !fs.unicode then fail .mayBreakCharacters
  else return negateIf negated (foldBy fs s)

/-- Reads up to a closing brace. -/
def braced : Nat → List Char → Reader (List Char)
  | 0, _ => fail .endInEscape
  | fuel + 1, seen => do
    let c ← next .endInEscape
    if c = '\x7d' then return seen.reverse else braced fuel (c :: seen)

/-- The set of a property name, which may have a value behind a sign, and whether the sign is a negated one. -/
private def propertySet? (name : List Char) : Option (Bool × Text.Ranges) :=
  let splitAt (sep : List Char) : Option (List Char × List Char) :=
    (List.range (name.length + 1)).findSome? fun i =>
      (Text.rest? sep (name.drop i)).map fun r => (name.take i, r)
  match splitAt ['!', '='] with
  | some (n, v) => (Text.PropertyEntry.ofValue? n v).map (true, ·)
  | none =>
    match (splitAt [':']).or (splitAt ['=']) with
    | some (n, v) => (Text.PropertyEntry.ofValue? n v).map (false, ·)
    | none => (Text.PropertyEntry.ofName? name).map (false, ·)

/-- Reads the set of a property at its letter. -/
def propertyAtom (negated : Bool) : Reader Atom := do
  let c ← next .endInEscape
  let name ←
    if c = '\x7b' then do
      let name ← braced ((← get).rest.length + 1) []
      bump
      pure name
    else if c = '\\' then fail .unknownProperty
    else do
      let _ ← next?
      pure [c]
  if !(← get).flags.unicode then fail .notUnicode
  else match propertySet? name with
    | none => fail .unknownProperty
    | some (otherwise, rs) => return .set (← foldAndNegate (negated != otherwise) (.ranges rs))

/-- The set of a class letter in lower case. -/
def shorthand (fs : Flags) (letter : Char) : CharSet :=
  if fs.unicode then
    match letter with
    | 'd' => .digit
    | 's' => .space
    | _ => .word
  else
    match letter with
    | 'd' => .span '0' '9'
    | 's' => .ofChars ['\t', '\n', '\x0b', '\x0c', '\r', ' ']
    | _ => .asciiWord

/-- Reads the name of a word edge in braces, if a name stands there and not a count. -/
def namedEdge? : Reader (Option WordEdge) := do
  let start ← get
  let isNameChar (c : Char) : Bool := c.isAlpha || c = '-'
  let c ← next .endInEscape
  if !isNameChar c then
    modify fun _ => start
    return none
  let rec name (fuel : Nat) (seen : List Char) : Reader (List Char) := do
    match fuel with
    | 0 => return seen.reverse
    | fuel + 1 =>
      match ← peek with
      | some c =>
        if isNameChar c then
          let _ ← next?
          name fuel (c :: seen)
        else return seen.reverse
      | none => return seen.reverse
  let n ← name ((← get).rest.length + 1) []
  if (← peek) ≠ some '\x7d' then fail .unknownWordEdge
  bump
  match String.ofList n with
  | "start" => return some .start
  | "end" => return some .stop
  | "start-half" => return some .startHalf
  | "end-half" => return some .stopHalf
  | _ => fail .unknownWordEdge

/-- Reads what stands behind a backslash, at the backslash. -/
def escape : Reader Atom := do
  bump
  match ← peek with
  | none => fail .endInEscape
  | some c =>
    let fs := (← get).flags
    if c.isDigit then fail .backReference
    else if c = 'x' ∨ c = 'u' ∨ c = 'U' then hexAtom c
    else if c = 'p' ∨ c = 'P' then propertyAtom (c = 'P')
    else
      bump
      if ['d', 's', 'w'].contains c then return .set (shorthand fs c)
      else if ['D', 'S', 'W'].contains c then
        if fs.unicode then return .set (.compl (shorthand fs c.toLower)) else fail .mayBreakCharacters
      else if isEscapable c then return .literal c false
      else
        let edge (e : WordEdge) : Atom := .look (.word e (!fs.unicode))
        match c with
        | 'a' => return .literal '\x07' false
        | 'f' => return .literal '\x0c' false
        | 't' => return .literal '\t' false
        | 'n' => return .literal '\n' false
        | 'r' => return .literal '\r' false
        | 'v' => return .literal '\x0b' false
        | 'A' => return .look .textStart
        | 'z' => return .look .textEnd
        | 'b' =>
          if (← peek) = some '\x7b' then
            match ← namedEdge? with
            | some e => return edge e
            | none => return edge .boundary
          else return edge .boundary
        | 'B' => return edge .inside
        | '<' => return edge .start
        | '>' => return edge .stop
        | _ => fail .unknownEscape

/-- A character outside of classes. -/
def literalPattern (c : Char) (byte : Bool) : Reader Pattern := do
  let fs := (← get).flags
  if !fs.unicode ∧ byte ∧ 0x80 ≤ c.toNat then fail .mayBreakCharacters
  else if fs.ignoreCase ∧ !fs.unicode ∧ 0x80 ≤ c.toNat then return .set (.single c)
  else return .set (foldBy fs (.single c))

end HookGate.Pattern.Reader
