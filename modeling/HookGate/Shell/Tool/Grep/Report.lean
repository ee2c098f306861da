import HookGate.Shell.Tool.Grep.Manner

/-! # What is told of a file

The lines of a file are gone through in order. Lines around those that are found are shown if the options ask for them,
with a separator where lines between were left out. -/
namespace HookGate.Shell.Tool.Grep

/-- A line without its end. -/
structure Line where
  number : Nat
  /-- Where it starts in the file, and where the next line does. -/
  start : Nat
  stop : Nat
  text : List Char

/-- The lines of a text, of which `number` come before; an end may be missing behind the last one. -/
private def linesFrom (isEnd : Char → Bool) : (number start place : Nat) → List Char → List Char → List Line
  | number, start, place, done, [] => if done = [] then [] else [⟨number + 1, start, place, done.reverse⟩]
  | number, start, place, done, c :: cs =>
    if isEnd c then ⟨number + 1, start, place + 1, done.reverse⟩ :: 
      linesFrom isEnd (number + 1) (place + 1) (place + 1) [] cs
    else linesFrom isEnd number start (place + 1) (c :: done) cs

def linesOf (isEnd : Char → Bool) (cs : List Char) : List Line := linesFrom isEnd 0 0 0 [] cs

/-- How the lines of a file are shown. -/
structure View where
  manner : Manner
  finder : Finder
  name : Text.Octets
  hasName : Bool
  /-- How wide numbers are at least. -/
  width : Nat
  /-- Whether only the fact that lines are found counts. -/
  isHidden : Bool

namespace View

/-- A text in the colour of a code. -/
def paint (v : View) (code text : Text.Octets) : Text.Octets :=
  if v.manner.paints then "\x1b[" ++ code ++ "m\x1b[K" ++ text ++ "\x1b[m\x1b[K" else text

def separator (v : View) (s : Text.Octets) : Text.Octets := v.paint "36" s

/-- The name of the file with what separates it from the rest. -/
def nameBefore (v : View) (sep : Text.Octets) : Text.Octets :=
  v.paint "35" v.name ++ (if v.manner.zeroNames then "\x00" else v.separator sep)

/-- What stands in front of a text that is not empty or may be. -/
private def head (v : View) (sep : Text.Octets) (number offset : Nat) (isEmpty : Bool) : Text.Octets :=
  let wide (n : Nat) : Text.Octets :=
    let digits := Text.ofNat n
    v.paint "32" (String.ofList (List.replicate (v.width - digits.length) ' ') ++ digits) ++ v.separator sep
  let front := (if v.hasName then v.nameBefore sep else "") ++ (if v.manner.numbers then wide number else "") ++
    (if v.manner.offsets then wide offset else "")
  front ++ (if v.manner.tab ∧ front ≠ "" ∧ ¬isEmpty then "\t" else "")

/-- The matches in a line from a place on, except for empty ones. -/
private def matchesFrom (v : View) (chars : Array Char) : Nat → Nat → List (Nat × Nat)
  | 0, _ => []
  | n + 1, place =>
    match v.finder.next? chars place with
    | none => []
    | some (a, b) => if b ≤ a then matchesFrom v chars n (a + 1) else (a, b) :: matchesFrom v chars n b

private def slice (chars : Array Char) (a b : Nat) : Text.Octets := String.ofList (chars.extract a b).toList

/-- The text from a place on, with matches in colour. -/
private def coloured (v : View) (chars : Array Char) : Nat → List (Nat × Nat) → Text.Octets
  | place, [] => slice chars place chars.size
  | place, (a, b) :: rest =>
    slice chars place a ++ v.paint "01;31" (slice chars a b) ++ coloured v chars b rest

/-- A line as it is shown, as one of those found or as one beside them. -/
def line (v : View) (isFound : Bool) (l : Line) : Text.Octets :=
  let m := v.manner
  let ending := if m.zeroLines then "\x00" else "\n"
  let chars := l.text.toArray
  let found : List (Nat × Nat) :=
    if (m.onlyMatches || m.paints) && (isFound != m.inverts) then v.matchesFrom chars (chars.size + 2) 0 else []
  if m.onlyMatches then
    String.join (found.map fun (a, b) =>
      v.head (if m.inverts then "-" else ":") l.number (l.start + a) false ++ v.paint "01;31" (slice chars a b) ++ ending)
  else
    v.head (if isFound then ":" else "-") l.number l.start (l.text = []) ++ v.coloured chars 0 found ++ ending

end View

/-- What was told so far of a file. -/
structure Report where
  /-- The pieces of the output, the last one first. -/
  output : List Text.Octets := []
  /-- How many lines were found. -/
  found : Nat := 0
  /-- Where the last line that was found ends. -/
  place : Nat := 0
  /-- Whether lines were found in this file or another one. -/
  isUsed : Bool
  /-- Whether a line of this file was shown. -/
  isShown : Bool := false
  /-- The last lines that were not shown, from the last one, and how many lines were not. -/
  passed : List Line := []
  gap : Nat := 0
  /-- How many more lines are shown because they follow one that was found. -/
  pending : Nat := 0

namespace Report

/-- Shows the line that comes next as one beside those found, or passes over it. -/
private def beside (v : View) (before : Nat) (r : Report) (l : Line) : Report :=
  match r.pending with
  | n + 1 => { r with output := v.line false l :: r.output, pending := n, isShown := true, gap := 0, passed := [] }
  | 0 => { r with passed := (l :: r.passed).take before, gap := r.gap + 1 }

/-- Shows the line that comes next as one that was found. -/
private def foundLine (v : View) (before : Nat) (after : Option Nat) (hasContext : Bool) (r : Report) (l : Line) : Report :=
  let r := { r with found := r.found + 1, place := l.stop }
  if v.isHidden then { r with isUsed := true }
  else
    let isNext := r.isShown && r.gap ≤ before
    let between := match v.manner.separator with
      | some s => if hasContext && r.isUsed && !isNext then [v.separator s ++ "\n"] else []
      | none => []
    let front := r.passed.map (v.line false)
    { r with
      output := v.line true l :: front ++ between ++ r.output
      isUsed := true
      isShown := true
      passed := []
      gap := 0
      pending := after.getD 0 }

/-- Goes through lines until so many more are found; what is left to be found is told as well. -/
private def through (v : View) (before : Nat) (after : Option Nat) (hasContext : Bool) :
    (left : Option Nat) → Report → List Line → Report × Bool
  | left, r, [] => (r, left = some 0)
  | some 0, r, l :: ls =>
    if r.pending = 0 then (r, true) else through v before after hasContext (some 0) (r.beside v before l) ls
  | left, r, l :: ls =>
    if v.finder.occurs l.text.toArray != v.manner.inverts then
      through v before after hasContext (left.map (· - 1)) (r.foundLine v before after hasContext l) ls
    else through v before after hasContext left (r.beside v before l) ls

/-- What is told of some lines, and whether as many were found as may be. -/
def ofLines (v : View) (isUsed : Bool) (stopsAtFirst : Bool) (lines : List Line) : Report × Bool :=
  let m := v.manner
  let before := m.before <|> m.around
  let after := m.after <|> m.around
  let left := if stopsAtFirst then some 1 else m.most
  through v (before.getD 0) after (before.isSome || after.isSome) left { isUsed } lines

end Report

end HookGate.Shell.Tool.Grep
