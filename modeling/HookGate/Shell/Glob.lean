import HookGate.Text.Basic

/-! # Wildcards

Patterns for names and for the branches of a choice: `*` stands for any text, `?` for a character, and brackets for
one of the characters in them. -/
namespace HookGate.Shell

/-- The kinds of characters that have a name between brackets and colons; only characters below 128 are of any kind. -/
def characterKinds : List (String × (Char → Bool)) :=
  [("alnum", Char.isAlphanum), ("alpha", Char.isAlpha), ("digit", Char.isDigit), ("lower", Char.isLower),
   ("upper", Char.isUpper), ("blank", fun c => c == ' ' || c == '\t'),
   ("space", fun c => c == ' ' || ('\t' ≤ c && c ≤ '\r')), ("cntrl", fun c => c < ' ' || c == '\x7f'),
   ("print", fun c => ' ' ≤ c && c < '\x7f'), ("graph", fun c => ' ' < c && c < '\x7f'),
   ("punct", fun c => ' ' < c && c < '\x7f' && !c.isAlphanum),
   ("xdigit", fun c => c.isDigit || ('a' ≤ c && c ≤ 'f') || ('A' ≤ c && c ≤ 'F'))]

namespace Glob

/-- What stands between brackets. -/
inductive Member
  | range (first last : Char)
  | kind (name : String)
deriving Repr, DecidableEq

/-- The place of a byte in the order of ranges: bytes from 128 on come before the others. -/
private def rank (c : Char) : Int := if c.toNat < 128 then c.toNat else c.toNat - 256

def Member.accepts (m : Member) (c : Char) : Bool :=
  match m with
  | range a b => rank a ≤ rank c && rank c ≤ rank b
  | kind name => ((characterKinds.lookup name).map fun k => k c).getD false

end Glob

inductive Glob
  | char (c : Char)
  | one
  | many
  | oneOf (negated : Bool) (members : List Glob.Member)
deriving Repr, DecidableEq

namespace Glob

/-- Whether a pattern that stands for one character accepts it. -/
def accepts (g : Glob) (c : Char) : Bool :=
  match g with
  | char d => c == d
  | one => true
  | many => false
  | oneOf negated members => members.any (·.accepts c) != negated

/-- The kind that is named between colons at the front, and what follows its bracket. -/
private def kind? (cs : List (Char × Bool)) : Option (String × List (Char × Bool)) :=
  characterKinds.findSome? fun k =>
    let text := ':' :: k.1.toList ++ [':', ']']
    if cs.take text.length = text.map fun c => (c, false) then some (k.1, cs.drop text.length) else none

/-- A character with its quoting, where a backslash that came out of an expansion quotes what follows it. -/
private def unit : List (Char × Bool) → Option (Char × Bool × List (Char × Bool))
  | [] => none
  | ('\\', false) :: (c, _) :: r => some (c, true, r)
  | (c, quoted) :: r => some (c, quoted, r)

/-- The members up to the closing bracket, and what follows it. A closing bracket in front is one of the members. -/
private def bracket : Nat → Bool → List Member → List (Char × Bool) → Option (List Member × List (Char × Bool))
  | 0, _, _, _ => none
  | n + 1, first, acc, cs =>
    match unit cs with
    | none => none
    | some (c, quoted, r) =>
      if c = ']' ∧ !quoted ∧ !first then some (acc.reverse, r)
      else match if c = '[' ∧ !quoted then kind? r else none with
        | some (name, r) => bracket n false (.kind name :: acc) r
        | none =>
          match r with
          | ('-', false) :: r' =>
            match unit r' with
            | some (d, q, r'') =>
              if d = ']' ∧ !q then bracket n false (.range c c :: acc) r else bracket n false (.range c d :: acc) r''
            | none => none
          | r => bracket n false (.range c c :: acc) r

/-- The pattern of a text in which some characters are quoted. -/
def ofChars : Nat → List (Char × Bool) → List Glob
  | 0, _ => []
  | n + 1, cs =>
    match unit cs with
    | none => []
    | some (c, true, r) => char c :: ofChars n r
    | some ('*', false, r) => many :: ofChars n r
    | some ('?', false, r) => one :: ofChars n r
    | some ('[', false, r) =>
      let negated := r.head? = some ('!', false)
      match bracket (r.length + 1) true [] (if negated then r.drop 1 else r) with
      | some (members, rest) => oneOf negated members :: ofChars n rest
      | none => char '[' :: ofChars n r
    | some (c, false, r) => char c :: ofChars n r

/-- Whether the patterns, one after the other, make up a text. -/
def matchesAll : List Glob → List Char → Bool
  | [], cs => cs.isEmpty
  | many :: gs, [] => matchesAll gs []
  | many :: gs, c :: cs => matchesAll gs (c :: cs) || matchesAll (many :: gs) cs
  | _ :: _, [] => false
  | g :: gs, c :: cs => g.accepts c && matchesAll gs cs
termination_by gs cs => gs.length + cs.length

/-- Whether any part of a text can be matched only by itself. -/
def isPlain (gs : List Glob) : Bool := gs.all fun
  | char _ => true
  | _ => false

end Glob

end HookGate.Shell
