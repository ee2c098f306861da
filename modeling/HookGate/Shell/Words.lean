/-! # Words of a command line

A list of words is written as one line that a shell splits into the same words again. A word is cut into chunks, each
the longest that one style of quoting can hold; where several styles hold the same chunk, none is preferred to single
quotes, and these to double quotes. -/
namespace HookGate.Shell

inductive Quoting
  | bare
  | single
  | double
deriving Repr, DecidableEq

/-- Which styles can hold a chunk. -/
structure Fits where
  bare : Bool
  single : Bool
  double : Bool
deriving Repr, DecidableEq

namespace Fits

/-- The styles that can hold a character. -/
def ofChar (c : Char) : Fits where
  bare := c.isAlphanum || ['+', '-', '.', '/', ':', '@', ']', '_'].contains c
  single := !(['\'', '\\', '^'].contains c)
  double := !(['$', '!', '^', Char.ofNat 0x60].contains c)

/-- The styles for the first character of a chunk, where a circumflex may stand in single quotes. -/
def ofFirst (c : Char) : Fits := if c = '^' then ⟨false, true, false⟩ else ofChar c

def and (a b : Fits) : Fits := ⟨a.bare && b.bare, a.single && b.single, a.double && b.double⟩

/-- The preferred style, if there is one. -/
def best? (f : Fits) : Option Quoting :=
  if f.bare then some .bare else if f.single then some .single else if f.double then some .double else none

end Fits

/-- Cuts what is left of a word: `chunk`, which is reversed, is under way, and `fits` can hold it in the style `q`. -/
def chunksFrom (fits : Fits) (q : Quoting) (chunk : List Char) : List Char → List (Quoting × List Char)
  | [] => [(q, chunk.reverse)]
  | c :: cs =>
    let longer := fits.and (Fits.ofChar c)
    match longer.best? with
    | some q' => chunksFrom longer q' (c :: chunk) cs
    | none =>
      let fresh := Fits.ofFirst c
      (q, chunk.reverse) :: chunksFrom fresh (fresh.best?.getD .single) [c] cs

/-- The chunks of a word with the style of each. -/
def chunks : List Char → List (Quoting × List Char)
  | [] => []
  | c :: cs =>
    let first := Fits.ofFirst c
    chunksFrom first (first.best?.getD .single) [c] cs

/-- A chunk in its style. In double quotes a backslash stands before quotes and backslashes. -/
def writeChunk : Quoting × List Char → List Char
  | (.bare, cs) => cs
  | (.single, cs) => '\'' :: cs ++ ['\'']
  | (.double, cs) => '"' :: cs.flatMap (fun c => if c = '"' ∨ c = '\\' then ['\\', c] else [c]) ++ ['"']

/-- A word as it stands in a line. -/
def writeWord (w : List Char) : List Char := if w = [] then ['\'', '\''] else (chunks w).flatMap writeChunk

/-- The words as one line, unless there is a character in them that no line can hold. -/
def joinWords? (words : List String) : Option String :=
  if words.any fun w => w.toList.contains '\x00' then none
  else some (" ".intercalate (words.map fun w => String.ofList (writeWord w.toList)))

end HookGate.Shell
