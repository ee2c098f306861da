import HookGate.Shell.LinePattern.Basic

/-! # Brackets in patterns for lines

A closing bracket in front and a hyphen at an end stand for themselves; colons, points and equals signs behind an inner
bracket enclose names. -/
namespace HookGate.Shell.LinePattern

/-- Why a text is no pattern. -/
inductive Fault
  | noPattern
  | badCharacter
  | badKind
  | trailingBackslash
  | badReference
  | openBracket
  | openParenthesis
  | lonelyParenthesis
  | openBrace
  | badCount
  | badRange
  | tooBig
  /-- The name of a kind without brackets around it. -/
  | kindOutside
deriving Repr, DecidableEq

def Fault.message : Fault → String
  | noPattern => "Invalid regular expression"
  | badCharacter => "Invalid collation character"
  | badKind => "Invalid character class name"
  | trailingBackslash => "Trailing backslash"
  | badReference => "Invalid back reference"
  | openBracket => "Unmatched [, [^, [:, [., or [="
  | openParenthesis => "Unmatched ( or \\("
  | lonelyParenthesis => "Unmatched ) or \\)"
  | openBrace => "Unmatched \\\x7b"
  | badCount => "Invalid content of \\\x7b\\\x7d"
  | badRange => "Invalid range end"
  | tooBig => "Regular expression too big"
  | kindOutside => "character class syntax is [[:space:]], not [:space:]"

namespace Bracket

/-- What stands first between brackets. -/
private inductive Sign
  | char (c : Char)
  | kind (name : String)
  /-- A character that stands between points, or between equals signs. -/
  | named (c : Char) (isClass : Bool)

/-- The name up to the delimiter and the bracket behind it. -/
private def name? (delimiter : Char) : Nat → List Char → Option (List Char × List Char)
  | 0, _ => none
  | _, [] => none
  | n + 1, c :: r =>
    if c = delimiter ∧ r.head? = some ']' then some ([], r.drop 1)
    else (name? delimiter n r).map fun (name, rest) => (c :: name, rest)

/-- Names are shorter than this. -/
private def longestName : Nat := 32

private def sign : List Char → Except Fault (Sign × List Char)
  | [] => .error .openBracket
  | '[' :: d :: r =>
    if d = ':' ∨ d = '.' ∨ d = '=' then
      match name? d longestName r with
      | none => .error .openBracket
      | some (name, rest) =>
        if d = ':' then .ok (.kind (String.ofList name), rest)
        else match name with
          | [c] => .ok (.named c (d = '='), rest)
          | _ => .error .badCharacter
    else .ok (.char '[', d :: r)
  | c :: r => .ok (.char c, r)

/-- Brackets that were read. -/
structure Content where
  members : List Member
  /-- Whether only characters were listed, each for itself. -/
  isPlain : Bool
deriving Repr, DecidableEq

/-- A range, whose ends are compared without regard to case if that does not count. -/
private def range (ignoresCase : Bool) (a b : Char) : Except Fault Member :=
  let key (c : Char) : Char := if ignoresCase then c.toUpper else c
  if key b < key a then .error .badRange else .ok (.range a b)

/-- The members up to the closing bracket, behind those that were read, and what follows the bracket; `isFirst` tells
whether none was read. -/
private def members (ignoresCase : Bool) :
    Nat → (isFirst : Bool) → Content → List Char → Except Fault (Content × List Char)
  | 0, _, _, _ => .error .openBracket
  | _, _, _, [] => .error .openBracket
  | n + 1, isFirst, read, cs => do
    let more (m : Member) (isPlain : Bool) (rest : List Char) : Except Fault (Content × List Char) :=
      members ignoresCase n false ⟨read.members ++ [m], read.isPlain && isPlain⟩ rest
    if cs.head? = some ']' ∧ !isFirst then return (read, cs.drop 1)
    let (first, rest) ← sign cs
    let single (c : Char) (isPlain : Bool) : Except Fault (Content × List Char) :=
      match rest with
      | [] => .error .openBracket
      | '-' :: after =>
        match after with
        | [] => .error .openBracket
        | ']' :: _ => more (.range c c) isPlain rest
        | _ => do
          match ← sign after with
          | (.char d, rest) | (.named d false, rest) => more (← range ignoresCase c d) false rest
          | _ => throw .badRange
      | _ => more (.range c c) isPlain rest
    match first with
    | .kind name =>
      if (characterKinds.lookup name).isSome then more (.kind name) false rest
      else if rest = [] then throw .openBracket
      else throw .badKind
    | .named c true => more (.range c c) false rest
    | .named c false => single c false
    | .char c =>
      if c = '-' ∧ !isFirst ∧ rest.head? ≠ some ']' then throw .badRange else single c true

/-- Whether brackets hold a name between colons, so that other brackets are missing around them. -/
private def isKindOutside (content : Content) : Bool :=
  let colon : Member := .range ':' ':'
  content.isPlain && content.members.head? = some colon && content.members.getLast? = some colon &&
    content.members.any (· ≠ colon)

/-- The pattern of what stands behind an opening bracket, what follows the closing one, and whether it is the name of a
kind without brackets around it. -/
def read (ignoresCase : Bool) (cs : List Char) : Except Fault (LinePattern × Bool × List Char) := do
  let negated := cs.head? = some '^'
  let cs := if negated then cs.drop 1 else cs
  if cs = [] then throw .noPattern
  let (content, rest) ← members ignoresCase (cs.length + 1) true ⟨[], true⟩ cs
  return (.oneOf negated content.members, isKindOutside content, rest)

end Bracket

end HookGate.Shell.LinePattern
