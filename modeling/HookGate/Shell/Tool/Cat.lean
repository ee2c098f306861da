import HookGate.Shell.Tool.Options
import HookGate.Shell.Quoting

/-! # The program `cat`

Files are written one after the other, with lines numbered and characters shown as the options ask. -/
namespace HookGate.Shell.Tool.Cat

open Run

structure Manner where
  numbers : Bool := false
  /-- Whether empty lines get no numbers. -/
  skipsEmpty : Bool := false
  /-- Whether of several empty lines only the first one is kept. -/
  squeezes : Bool := false
  showsEnds : Bool := false
  showsTabs : Bool := false
  /-- Whether characters that cannot be seen are shown. -/
  showsHidden : Bool := false
deriving Repr, DecidableEq

def table : OptionTable where
  letters := ['b', 'e', 'n', 's', 't', 'u', 'v', 'A', 'E', 'T'].map fun c => (c, .none)
  words := [("number-nonblank", .none, "b"), ("number", .none, "n"), ("squeeze-blank", .none, "s"),
    ("show-nonprinting", .none, "v"), ("show-ends", .none, "E"), ("show-tabs", .none, "T"), ("show-all", .none, "A"),
    ("help", .none, "help"), ("version", .none, "version")]

def Manner.adding (m : Manner) : String → Manner
  | "b" => { m with numbers := true, skipsEmpty := true }
  | "n" => { m with numbers := true }
  | "s" => { m with squeezes := true }
  | "v" => { m with showsHidden := true }
  | "E" => { m with showsEnds := true }
  | "T" => { m with showsTabs := true }
  | "e" => { m with showsHidden := true, showsEnds := true }
  | "t" => { m with showsHidden := true, showsTabs := true }
  | "A" => { m with showsHidden := true, showsEnds := true, showsTabs := true }
  | _ => m

/-- Where in the text the program is. -/
structure Place where
  /-- How many lines in a row were empty: `none` within a line, and 2 stands for all that are more. -/
  emptyLines : Option Nat := some 0
  /-- The number of the last line that got one. -/
  line : Nat := 0
  /-- Whether a carriage return waits for what follows it. -/
  hasReturn : Bool := false
deriving Repr, DecidableEq

private def lineFront (n : Nat) : List Char :=
  let digits := Nat.toDigits 10 n
  List.replicate (6 - digits.length) ' ' ++ digits ++ ['\t']

/-- A character that is no line end. -/
private def shown (m : Manner) (c : Char) : List Char :=
  let control (n : Nat) : List Char := ['^', Char.ofNat (if n = 127 then 63 else n + 64)]
  let low (n : Nat) : List Char := if n < 32 ∨ n = 127 then control n else [Char.ofNat n]
  if c = '\t' then (if m.showsTabs then control 9 else [c])
  else if !m.showsHidden then [c]
  else if c.toNat < 128 then low c.toNat
  else 'M' :: '-' :: low (c.toNat - 128)

/-- What is written for a character. -/
def step (m : Manner) (p : Place) (c : Char) : List Char × Place :=
  if c = '\n' then
    let empties := match p.emptyLines with
      | none => 0
      | some n => min (n + 1) 2
    if m.squeezes && empties = 2 then ([], { p with emptyLines := some 2 })
    else
      let isNumbered := empties > 0 && m.numbers && !m.skipsEmpty
      let line := if isNumbered then p.line + 1 else p.line
      let front := if isNumbered then lineFront line else []
      let ending := if m.showsEnds then (if p.hasReturn then ['^', 'M'] else []) ++ ['$'] else []
      (front ++ ending ++ ['\n'], ⟨some empties, line, false⟩)
  else
    let isNumbered := p.emptyLines.isSome && m.numbers
    let line := if isNumbered then p.line + 1 else p.line
    let front := (if p.hasReturn then ['\r'] else []) ++ (if isNumbered then lineFront line else [])
    let waits := c = '\r' && m.showsEnds && !m.showsHidden
    (front ++ (if waits then [] else shown m c), ⟨none, line, waits⟩)

/-- What is written for a text, the pieces in reverse order, and the place behind it. -/
private def run (m : Manner) : List Char → List (List Char) → Place → List (List Char) × Place
  | [], done, p => (done, p)
  | c :: cs, done, p =>
    let (text, p) := step m p c
    run m cs (text :: done) p

/-- Whether a stream is a file whose end the input has not reached, so that it would be copied to itself. -/
private def copiesItself (input : Text.Octets) (rest : List Char) : Run Bool := do
  match ← stream? 1 with
  | some (_, .file out _ _) =>
    let s ← get
    let identity? ← if input = "-" then do
        match ← stream? 0 with
        | some (_, .file i _ _) => pure (some i)
        | _ => pure none
      else match s.machine.files.find? s.cwd (pathOf input) with
        | some (.file i _ _) => pure (some i)
        | _ => pure none
    return identity? = some out && !rest.isEmpty
  | _ => return false

end Cat

open Run

def cat (name : String) (args : List Text.Octets) : Run Nat := do
  let (given, operands) := Cat.table.read args
  let mut m : Cat.Manner := {}
  for g in given do
    match g with
    | .option key _ => m := m.adding key
    | .fault s =>
      blame name s
      return ← hint name
  if (← stream? 1).isNone then
    blame name "standard output: Bad file descriptor"
    return 1
  let isPlain := m = {}
  let mut place : Cat.Place := {}
  let mut status := 0
  for file in if operands.isEmpty then ["-"] else operands do
    let here ← if file = "-" then readable 0 |>.map fun r => r.mapError SystemError.os else contentsOf file
    match here with
    | .error e =>
      blame name (Quoting.beforeColon file ++ ": " ++ reason e)
      status := 1
    | .ok cs =>
      if ← Cat.copiesItself file cs then
        blame name (Quoting.beforeColon file ++ ": input file is output file")
        status := 1
      else
        if file = "-" then setReadable 0 []
        let (done, after) := if isPlain then ([cs], place) else Cat.run m cs [] place
        place := after
        if (← output name (String.ofList done.reverse.flatten) 1) = 1 then return 1
  if place.hasReturn then status := max status (← output name "\r" 1)
  if (operands.isEmpty || operands.contains "-") && (← stream? 0).isNone then
    blame name "closing standard input: Bad file descriptor"
    status := 1
  return status

end HookGate.Shell.Tool
