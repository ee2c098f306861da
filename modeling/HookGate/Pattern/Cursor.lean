import HookGate.Text.Basic

/-! # The place where a pattern is read

A reader of patterns goes through the text with the flags in force, and passes over space where the flags ask for it. -/

/-! ## Flags of patterns

Flags hold from where they are set to the end of the group around them. -/
namespace HookGate.Pattern

structure Flags where
  /-- Letters match in any case. -/
  ignoreCase : Bool
  /-- `^` and `$` also match at the ends of lines. -/
  multiLine : Bool := false
  /-- `.` also matches line ends. -/
  dotAll : Bool := false
  /-- Repetitions prefer few rounds, and many where marked by `?`. -/
  swapGreed : Bool := false
  /-- Classes and case go beyond ASCII. -/
  unicode : Bool := true
  /-- Carriage returns end lines as well. -/
  returns : Bool := false
  /-- Blanks and comments in the pattern stand for nothing. -/
  ignoreSpace : Bool := false
deriving Repr, DecidableEq

namespace Flags

/-- The flags with the one of a letter changed, if there is one. -/
def set? (fs : Flags) (letter : Char) (value : Bool) : Option Flags :=
  match letter with
  | 'i' => some { fs with ignoreCase := value }
  | 'm' => some { fs with multiLine := value }
  | 's' => some { fs with dotAll := value }
  | 'U' => some { fs with swapGreed := value }
  | 'u' => some { fs with unicode := value }
  | 'R' => some { fs with returns := value }
  | 'x' => some { fs with ignoreSpace := value }
  | _ => none

end Flags

end HookGate.Pattern

/-! ## What can be wrong with a pattern

The causes for which a text is no pattern. All are told to a reader of warnings in the same words. -/
namespace HookGate.Pattern

inductive Error
  | classUnclosed
  | classRangeBackward
  | classRangeOfSets
  | classEscape
  | endInEscape
  | badHexDigit
  | badCodePoint
  | unknownEscape
  | backReference
  | endInFlags
  | unknownFlag
  | repeatedFlag
  | danglingMinus
  | groupUnclosed
  | groupUnopened
  | lookAround
  | groupName
  | repeatedGroupName
  | nothingToRepeat
  | countUnclosed
  | countMissing
  | countTooLarge
  | countsBackward
  | unknownWordEdge
  | unknownProperty
  | notUnicode
  | mayBreakCharacters
  | nestedTooDeep
  | tooLarge
deriving Repr, DecidableEq

/-- The words for a text that is no pattern. -/
def Error.message (_ : Error) : String := "<regex error>"

end HookGate.Pattern

/-! ## Cursors -/

namespace HookGate.Pattern

/-- Where reading stands: what is left of the text, the flags in force, and the names of groups seen so far. -/
structure Cursor where
  rest : List Char
  flags : Flags
  names : List String := []

abbrev Reader := StateT Cursor (Except Error)

namespace Reader

/-- Refuses the pattern. -/
def fail {α : Type} (e : Error) : Reader α := fun _ => .error e

/-- The next character, which is left in place. -/
def peek : Reader (Option Char) := return (← get).rest.head?

/-- Passes over a character. -/
def bump : Reader Unit := modify fun c => { c with rest := c.rest.drop 1 }

/-- Passes over blanks and comments; in a comment, up to the end of the line. -/
def dropSpace : Bool → List Char → List Char
  | _, [] => []
  | true, c :: r => dropSpace (c ≠ '\n') r
  | false, c :: r => if Text.isBlank c then dropSpace false r else if c = '#' then dropSpace true r else c :: r

/-- Passes over blanks and comments where they stand for nothing. -/
def skipSpace : Reader Unit :=
  modify fun c => if c.flags.ignoreSpace then { c with rest := dropSpace false c.rest } else c

/-- Passes over a character and the space behind it, and gives the next character. -/
def next? : Reader (Option Char) := do
  bump
  skipSpace
  peek

/-- Passes over a character and the space behind it; the text must not end there. -/
def next (e : Error) : Reader Char := do
  match ← next? with
  | some c => return c
  | none => fail e

/-- Passes over a text that stands in front. -/
def skipText? (s : List Char) : Reader Bool := do
  match Text.rest? s (← get).rest with
  | some r =>
    modify fun c => { c with rest := r }
    return true
  | none => return false

/-- The character behind the next one and behind the space there. -/
def peekBehind : Reader (Option Char) := do
  let c ← get
  let r := c.rest.drop 1
  if c.flags.ignoreSpace then
    match r.dropWhile Text.isBlank with
    | '#' :: r' => return (r'.dropWhile Text.isBlank).head?
    | r' => return r'.head?
  else return r.head?

end Reader

end HookGate.Pattern
