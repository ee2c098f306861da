import HookGate.Shell.Glob
import HookGate.Shell.State

/-! # Fields

What becomes of a word after its expansion: it is split where separators came out of an expansion, and fields with
wildcards become the paths that they match. -/
namespace HookGate.Shell

open Sandbox

/-- A character of an expanded word, with what may still happen to it. -/
inductive Glyph
  /-- Stands in the script without quotes. -/
  | plain (c : Char)
  /-- Keeps its meaning and its field. -/
  | quoted (c : Char)
  /-- Came out of an expansion without quotes. -/
  | value (c : Char)
  /-- A quote: there is a field even if no character is in it. -/
  | mark
  /-- The start of an expansion without quotes. -/
  | border
  /-- Stands between two arguments; a firm one keeps them apart even if they are empty. -/
  | next (firm : Bool)
deriving Repr, DecidableEq

namespace Glyph

def quote (s : String) : List Glyph := mark :: s.toList.map quoted

/-- What came out of an expansion. -/
def ofValue (isQuoted : Bool) (s : String) : List Glyph :=
  if isQuoted then s.toList.map quoted else border :: s.toList.map value

def char? : Glyph → Option Char
  | plain c | quoted c | value c => some c
  | mark | border => none
  | next _ => some ' '

/-- The characters, as one text. -/
def text (gs : List Glyph) : String := String.ofList (gs.filterMap char?)

/-- The characters, with whether they stand for themselves in a pattern. -/
def pattern (gs : List Glyph) : List (Char × Bool) := gs.filterMap fun
  | plain c | value c => some (c, false)
  | quoted c => some (c, true)
  | next _ => some (' ', true)
  | mark | border => none

def glob (gs : List Glyph) : List Glob :=
  let p := pattern gs
  Glob.ofChars (p.length + 1) p

/-- Without what a pattern matches at the front. -/
def trimStart (longest : Bool) (p : List Glob) (gs : List Glyph) : List Glyph :=
  let gs := gs.filter fun g => g.char?.isSome
  let cs := gs.filterMap char?
  let cuts := (List.range (cs.length + 1)).filter fun k => Glob.matchesAll p (cs.take k)
  match if longest then cuts.getLast? else cuts.head? with
  | some k => gs.drop k
  | none => gs

/-- Without what a pattern matches at the end. -/
def trimEnd (longest : Bool) (p : List Glob) (gs : List Glyph) : List Glyph :=
  let gs := gs.filter fun g => g.char?.isSome
  let cs := gs.filterMap char?
  let cuts := (List.range (cs.length + 1)).filter fun k => Glob.matchesAll p (cs.drop k)
  match if longest then cuts.head? else cuts.getLast? with
  | some k => gs.take k
  | none => gs

end Glyph

/-! ## Splitting -/

/-- The fields that were split off so far, the last one first, with their glyphs reversed. -/
private structure Splitting where
  done : List (List Glyph) := []
  current : List Glyph := []
  /-- Whether a blank has just ended a field, so that more separators may belong to its end. -/
  isSpaced : Bool := false
  /-- How many fields there may still be; the last one holds all that is left. -/
  most : Option Nat
  /-- The last field without the separators at its end. -/
  cut : Option (List Glyph) := none

namespace Splitting

private def isBlank (c : Char) : Bool := c == ' ' || c == '\t' || c == '\n'

/-- Goes on with a glyph of an expansion, which may be a separator and a blank one. -/
private def split (s : Splitting) (g : Glyph) (separates blank : Bool) : Splitting :=
  if s.most = some 0 then
    if blank then { s with cut := s.cut <|> some s.current, current := g :: s.current }
    else { s with
      cut := if separates && s.isSpaced then s.cut else none
      isSpaced := false, current := g :: s.current }
  else if s.isSpaced then
    if blank then s
    else { s with isSpaced := false, current := if separates then [] else [g] }
  else if separates then
    if s.current = [] && blank then s
    else if s.most = some 1 then
      { s with most := some 0, cut := some s.current, current := g :: s.current, isSpaced := blank }
    else { s with
      done := s.current :: s.done, current := [], most := s.most.map (· - 1), isSpaced := blank }
  else { s with current := g :: s.current }

private def step (separators : List Char) (s : Splitting) (g : Glyph) : Splitting :=
  match g with
  | .plain _ | .quoted _ | .mark => { s with isSpaced := false, current := g :: s.current }
  | .border => { s with isSpaced := false }
  | .next true => { s with done := s.current :: s.done, current := [], isSpaced := false }
  | .next false => s.split g true true
  | .value c =>
    let separates := separators.contains c
    s.split g separates (separates && isBlank c)

end Splitting

/-- The fields of a word, so many at most. -/
def Glyph.split (separators : List Char) (most : Option Nat) (gs : List Glyph) : List (List Glyph) :=
  let s := gs.foldl (Splitting.step separators) { most }
  let last := s.cut.getD s.current
  ((if last = [] then s.done else last :: s.done).map List.reverse).reverse

/-! ## Paths -/

/-- The steps of a pattern between slashes. -/
private def patternSteps : List (Char × Bool) → List (List (Char × Bool))
  | [] => [[]]
  | c :: r =>
    match c.1 == '/', patternSteps r with
    | true, ps => [] :: ps
    | false, p :: ps => (c :: p) :: ps
    | false, [] => [[c]]

/-- The paths that match the steps of a pattern below those found so far. -/
private def follow (fs : FileSystem) (cwd : Location) (found : List String) : List (List (Char × Bool)) → List String
  | [] => found
  | step :: steps =>
    let gs := Glob.ofChars (step.length + 1) step
    let more (base : String) : List String :=
      if Glob.isPlain gs then
        let path := base ++ String.ofList (gs.filterMap fun | .char c => some c | _ => none)
        if steps.isEmpty then (if fs.isThere cwd (Run.pathOf path) then [path] else []) else [path ++ "/"]
      else
        let place := if base = "" then Except.ok cwd else fs.locate true cwd (Run.pathOf base)
        match place with
        | .error _ => []
        | .ok l =>
          let dotted := gs.head? = some (.char '.')
          let names := (if dotted then [".", ".."] else []) ++ (fs.children l).map Prod.fst
          names.filterMap fun name =>
            let octets := Run.ofPath name
            let hidden := name.toList.head? = some '.' && !dotted
            if hidden || !Glob.matchesAll gs octets.toList then none
            else some (if steps.isEmpty then base ++ octets else base ++ octets ++ "/")
    follow fs cwd (found.flatMap more) steps

/-- The paths that a field stands for: those that match it, or itself if there are none. -/
def pathsOf (fs : FileSystem) (cwd : Location) (field : List Glyph) : List String :=
  let own := Glyph.text field
  if Glob.isPlain (Glyph.glob field) then [own]
  else match follow fs cwd [""] (patternSteps (Glyph.pattern field)) with
    | [] => [own]
    | paths => paths.mergeSort fun a b => a ≤ b

end HookGate.Shell
