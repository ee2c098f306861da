import HookGate.Text.Basic

/-! # Paths as texts

Paths are put together without looking at any file, and nothing is normalised. -/
namespace HookGate.Path

def isAbsolute (p : String) : Bool := p.toList.head? = some '/'

/-- A path below another one; an absolute path stands for itself. -/
def join (base p : String) : String :=
  if isAbsolute p then p
  else match base.toList.getLast? with
    | none | some '/' => base ++ p
    | some _ => base ++ "/" ++ p

/-- The path with `~/` in front replaced by the home directory, if there is one. -/
def expandHome (home : Option String) (p : String) : String :=
  match home, Text.afterStart? "~/" p with
  | some h, some rest => join h rest
  | _, _ => p

/-- The parts of a path between slashes, without those that stay in place. -/
def components (p : String) : List (List Char) :=
  (Text.pieces (· == '/') p.toList).filter fun c => c ≠ [] ∧ c ≠ ['.']

/-- The pieces of a path up to the last one that is a step of its own. -/
private def dropStill : List (List Char) → List (List Char)
  | [] => []
  | first :: rest => first :: (rest.reverse.dropWhile fun c => c = [] ∨ c = ['.']).reverse

/-- The path without its last step, if it has one. -/
def parent? (p : String) : Option String :=
  match dropStill (Text.pieces (· == '/') p.toList) with
  | [] | [[]] => none
  | [_] => some ""
  | steps =>
    match dropStill steps.dropLast with
    | [[]] => some "/"
    | above => some (Text.joinWith "/" (above.map String.ofList))

end HookGate.Path
