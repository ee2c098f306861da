import HookGate.Sandbox.FileSystem
import HookGate.Shell.Syntax

/-! # The state of a shell

A shell keeps variables, arguments and descriptors of its own. Files, streams and the clock belong to the machine, which
all shells of a run share; time passes only where a program sleeps. -/
namespace HookGate.Shell

open Sandbox

/-- What may be done through a descriptor. -/
structure Access where
  reads : Bool := false
  writes : Bool := false
  /-- Whether all that is written goes to the end. -/
  appends : Bool := false
deriving Repr, DecidableEq

/-- A text that was written to a pipe, with the time and the process that wrote it. -/
structure Writing where
  time : Nat
  process : Nat
  text : Text.Octets

/-- What a descriptor stands for. -/
inductive Stream
  /-- What is left to be read. -/
  | source (rest : List Char)
  /-- A place in a file. -/
  | file (identity place : Nat) (access : Access)
  | device (d : Device) (access : Access)
  /-- A directory that was opened as if it were a file. -/
  | directory
  /-- What was written, in pieces from the last. -/
  | pipe (pieces : List Writing)

/-- A process that holds a stream open until some time. -/
structure Holder where
  process : Nat
  stream : Nat
  ending : Nat
deriving Repr, DecidableEq

structure Machine where
  files : FileSystem
  streams : List Stream := []
  /-- The time in milliseconds. -/
  clock : Nat := 0
  /-- When the run is over, whether or not its programs are. -/
  deadline : Nat
  /-- Until when processes in the background hold streams open. -/
  holders : List Holder := []
  /-- The signals that were sent to processes which did not notice them yet. -/
  signals : List (Nat × Nat) := []
  /-- How many commands may still run. -/
  budget : Nat := 200000
  /-- The number of the last process that was started. -/
  lastProcess : Nat := 1000

/-- A variable; marks may be set before it has a value. -/
structure Variable where
  value : Option Text.Octets
  exported : Bool := false
  readOnly : Bool := false

/-- How a process ended. -/
inductive Ended
  | normally (status : Nat)
  | killed (signal : Nat)
deriving Repr, DecidableEq

namespace Ended

/-- The status that a shell knows a process by. -/
def status : Ended → Nat
  | normally n => n
  | killed n => 128 + n

end Ended

/-- A process in the background. -/
structure Job where
  /-- The place in the table of jobs. -/
  number : Nat
  process : Nat
  ended : Ended
  /-- When it ends. -/
  ending : Nat
  /-- Whether the process is all that there is of the job, so that nothing is left of it when it is killed. -/
  isAlone : Bool := false
  /-- Whether the shell has noticed its end. -/
  isNoticed : Bool := false
  /-- Whether its end was waited for. -/
  isKnown : Bool := false
deriving Repr, DecidableEq

structure ShellState where
  machine : Machine
  name : Text.Octets
  arguments : List Text.Octets := []
  vars : List (String × Variable) := []
  functions : List (String × Command) := []
  /-- The texts of aliases, in the order in which they came up. -/
  aliases : List (String × String) := []
  /-- In a call of a function, what its local variables and options were outside. -/
  locals : Option (List (String × Option Variable) × Option (List String)) := none
  /-- The streams of descriptors. -/
  descriptors : List (Nat × Nat) := []
  cwd : Location := []
  /-- The way to the directory as it was gone. -/
  directory : Text.Octets := "/"
  status : Nat := 0
  line : Nat := 1
  /-- The command of the shell itself that runs. -/
  command : Option Text.Octets := none
  /-- The number of the process that the shell started as. -/
  process : Nat
  /-- The number of the process that runs now. -/
  current : Nat
  /-- The processes in the background, the last one first. -/
  jobs : List Job := []
  lastJob : Option Nat := none
  /-- The names of the options that are on. -/
  options : List String := []
  /-- The commands to run when a signal comes, by its number; 0 stands for the end of the shell. -/
  traps : List (Nat × Text.Octets) := []
  /-- The signals that came and whose commands did not run yet. -/
  pending : List Nat := []
  /-- The status of the last script that a word of the command ran. -/
  captured : Nat := 0
  /-- The status before the command of a trap, while one runs. -/
  beforeTrap : Option Nat := none
  /-- Whether a line that tells of a command is being made. -/
  tells : Bool := false
  /-- Whether something could not be written by the command that runs. -/
  isRefused : Bool := false
  /-- How many loops are under way. -/
  loops : Nat := 0
  /-- How many calls of functions and shells are under way. -/
  depth : Nat := 0
  /-- Which argument `getopts` looks at next, counted from one. -/
  optionIndex : Nat := 1
  /-- How much of the argument before it is read, if that is under way. -/
  optionOffset : Option Nat := none
  /-- The programs that were found, by name. -/
  found : List (Text.Octets × Text.Octets) := []
  /-- The permissions that new files do not get. -/
  mask : Nat := 0o022

/-- Why a shell does not go on with the next command. -/
inductive Stop
  | exit (status : Nat)
  /-- An error, which ends the shell unless the command that made it is one that may fail. -/
  | failed (status : Nat)
  /-- A process was killed by a signal. -/
  | killed (process signal : Nat)
  | leave (loops : Nat)
  | repeat (loops : Nat)
  | return (status : Nat)
  /-- The time is over. -/
  | late

abbrev Run := ExceptT Stop (StateM ShellState)

namespace Run

/-- Runs to a stop or to an end. -/
def attempt {α : Type} (r : Run α) : Run (Except Stop α) := fun s =>
  let (result, s) := r s
  (.ok result, s)

def changeMachine (f : Machine → Machine) : Run Unit := modify fun s => { s with machine := f s.machine }

/-- Counts a command; a run that never ends is late. -/
def count : Run Unit := do
  let budget := (← get).machine.budget
  if budget = 0 then
    changeMachine fun m => { m with clock := m.deadline }
    throw .late
  changeMachine fun m => { m with budget := m.budget - 1 }

/-- Lets time pass. -/
def wait (milliseconds : Nat) : Run Unit := do
  let m := (← get).machine
  if m.deadline ≤ m.clock + milliseconds then
    changeMachine fun m => { m with clock := m.deadline }
    throw .late
  changeMachine fun m => { m with clock := m.clock + milliseconds }

/-- The number of a new process. -/
def newProcess : Run Nat := do
  changeMachine fun m => { m with lastProcess := m.lastProcess + 1 }
  return (← get).machine.lastProcess

def setStatus (status : Nat) : Run Unit := modify fun s => { s with status }

def isOn (option : String) : Run Bool := do return (← get).options.contains option

/-! ## Paths -/

/-- A text as a path: bytes that are not UTF-8 lead nowhere. -/
def pathOf (text : Text.Octets) : String := Text.decodeLossy (Text.ofOctets text)

/-- The text of a path. -/
def ofPath (path : String) : Text.Octets := Text.toOctets (Text.encode path)

/-- A location as an absolute path. -/
def ofLocation (l : Location) : Text.Octets := ofPath ("/" ++ Text.joinWith "/" l)

/-- The way that a path leads from a directory, where steps back undo steps of the way. -/
def wayTo (directory path : Text.Octets) : Text.Octets :=
  let steps (p : Text.Octets) : List (List Char) := Text.pieces (· == '/') p.toList
  let start := if Text.startsWith path "/" then [] else steps directory
  let gone := (start ++ steps path).foldl (fun (way : List (List Char)) step =>
    if step = [] ∨ step = ['.'] then way else if step = ['.', '.'] then way.dropLast else way ++ [step]) []
  let twice (p : Text.Octets) : Bool := Text.startsWith p "//" && !Text.startsWith p "///"
  let root := if twice (if Text.startsWith path "/" then path else directory) then "//" else "/"
  root ++ Text.joinWith "/" (gone.map String.ofList)

/-! ## Streams -/

def openStream (stream : Stream) : Run Nat := do
  let n := (← get).machine.streams.length
  changeMachine fun m => { m with streams := m.streams ++ [stream] }
  return n

def stream? (descriptor : Nat) : Run (Option (Nat × Stream)) := do
  let s ← get
  return do
    let n ← s.descriptors.lookup descriptor
    return (n, ← s.machine.streams[n]?)

def setStream (n : Nat) (stream : Stream) : Run Unit :=
  changeMachine fun m => { m with streams := m.streams.set n stream }

/-- Writes to a descriptor, and tells whether that was possible. -/
def write (descriptor : Nat) (text : Text.Octets) : Run (Except OsError Unit) := do
  let bad : OsError := ⟨9, "Bad file descriptor"⟩
  match ← stream? descriptor with
  | some (n, .pipe pieces) =>
    let s ← get
    setStream n (.pipe (⟨s.machine.clock, s.current, text⟩ :: pieces))
    return .ok ()
  | some (n, .file identity place access) =>
    if !access.writes then return if text.isEmpty then .ok () else .error bad
    let files := (← get).machine.files
    let place := if access.appends then (files.contentOf identity).length else place
    changeMachine fun m => { m with files := m.files.writeAt identity place (Text.ofOctets text) }
    setStream n (.file identity (place + text.length) access)
    return .ok ()
  | some (_, .device .full access) =>
    return if text.isEmpty then .ok () else .error (if access.writes then .noSpace else bad)
  | some (_, .device _ access) => return if access.writes || text.isEmpty then .ok () else .error bad
  | some (_, .source _) | some (_, .directory) | none => return if text.isEmpty then .ok () else .error bad

/-- Writes to the output, and remembers it if that is not possible. -/
def print (text : Text.Octets) : Run Unit := do
  if let .error _ ← write 1 text then modify fun s => { s with isRefused := true }

/-- Waits until the time is over. -/
def waitForever : Run Unit := do wait (← get).machine.deadline

/-- What is left to be read from a descriptor. -/
def readable (descriptor : Nat) : Run (Except OsError (List Char)) := do
  let bad : Except OsError (List Char) := .error ⟨9, "Bad file descriptor"⟩
  match ← stream? descriptor with
  | some (_, .source rest) => return .ok rest
  | some (_, .file identity place access) =>
    if !access.reads then return bad
    return .ok (Text.toOctets (((← get).machine.files.contentOf identity).drop place)).toList
  | some (_, .device d access) =>
    if access.reads && (d = .zero || d = .full) then waitForever
    return if access.reads then .ok [] else bad
  | some (_, .directory) => return .error .isDirectory
  | some (_, .pipe _) => return .ok []
  | none => return bad

/-- Goes on with `rest` as what is left to be read. -/
def setReadable (descriptor : Nat) (rest : List Char) : Run Unit := do
  match ← stream? descriptor with
  | some (n, .source _) => setStream n (.source rest)
  | some (n, .file identity _ access) =>
    let size := ((← get).machine.files.contentOf identity).length
    setStream n (.file identity (size - rest.length) access)
  | _ => return ()

/-- What there is to read at a path, from its start if it is a file. -/
def contentsOf (path : Text.Octets) : Run (Except SystemError (List Char)) := do
  let s ← get
  match s.machine.files.find s.cwd (pathOf path) with
  | .ok (_, .device (.descriptor d)) =>
    match ← stream? d with
    | some (_, .file identity _ _) =>
      return .ok (Text.toOctets ((← get).machine.files.contentOf identity)).toList
    | some _ =>
      let rest ← readable d
      setReadable d []
      return rest.mapError .os
    | none => return .error (.os .noEntry)
  | .ok (_, .device .zero) | .ok (_, .device .full) =>
    waitForever
    return .ok []
  | _ => return (s.machine.files.readBytes s.cwd (pathOf path)).map fun bytes => (Text.toOctets bytes).toList

/-- What was written to a stream, in the order of time. -/
def textOf : Stream → Text.Octets
  | .pipe pieces => String.join ((pieces.reverse.mergeSort fun a b => a.time ≤ b.time).map Writing.text)
  | _ => ""

def written (n : Nat) : Run Text.Octets := do return (((← get).machine.streams[n]?).map textOf).getD ""

/-- Until when processes in the background hold a stream open. -/
def heldUntil (m : Machine) (stream : Nat) : Nat :=
  m.holders.foldl (fun t h => if h.stream = stream then max t h.ending else t) 0

/-- Takes away what a process wrote after now. -/
def forgetLater (process : Nat) : Run Unit := changeMachine fun m =>
  { m with streams := m.streams.map fun
      | .pipe pieces => .pipe (pieces.filter fun w => w.process ≠ process || w.time ≤ m.clock)
      | stream => stream }

/-! ## Complaints -/

def complain (text : String) : Run Unit := do
  let _ ← write 2 (text ++ "\n")

/-- What stands before a complaint of the shell: the place in the script, and the command that runs. -/
def complaintFront : Run String := do
  let s ← get
  return s.name ++ ": " ++ Text.ofNat s.line ++ ": " ++ (s.command.map (· ++ ": ")).getD ""

/-- A complaint of the shell itself. -/
def complainAt (text : String) : Run Unit := do complain ((← complaintFront) ++ text)

/-- Fails with a complaint. -/
def failShell {α : Type} (text : String) : Run α := do
  complainAt text
  setStatus 2
  throw (.failed 2)

/-! ## Variables -/

def valueOf? (name : String) : Run (Option Text.Octets) := do
  return (← get).vars.lookup name |>.bind (·.value)

/-- Puts a variable back to what it was. -/
def restoreVariable (name : String) (was : Option Variable) : Run Unit := modify fun s =>
  { s with vars := (was.map fun v => (name, v)).toList ++ s.vars.filter (·.1 ≠ name) }

/-- Gives a value to a variable, or takes it away; a mark that the variable has stays. -/
def assignVariable (name : String) (value : Option Text.Octets) (exported : Bool) : Run Unit := do
  if !isName name then failShell (name ++ ": bad variable name")
  let was := (← get).vars.lookup name
  if was.any (·.readOnly) then failShell (name ++ ": is read only")
  if name = "OPTIND" then
    let text := value.getD "1"
    if text.toList = [] || !(text.toList.all Char.isDigit) then failShell ("Illegal number: " ++ text)
    modify fun s => { s with optionIndex := max 1 (text.toNat?.getD 1), optionOffset := none }
  let exports ← isOn "allexport"
  let exported := exported || exports || was.any (·.exported)
  restoreVariable name (if value.isNone && !exported then none else some { value, exported })
  if name = "PATH" then modify fun s => { s with found := [] }

def setVariable (name : String) (value : Text.Octets) : Run Unit := assignVariable name (some value) false

def unsetVariable (name : String) : Run Unit := do
  assignVariable name none false
  modify fun s => { s with vars := s.vars.filter (·.1 ≠ name) }

/-- Marks a variable, whether or not it has a value. -/
def markVariable (mark : Variable → Variable) (name : String) : Run Unit := do
  if !isName name then failShell (name ++ ": bad variable name")
  restoreVariable name (some (mark (((← get).vars.lookup name).getD { value := none })))

/-- The separators of fields. -/
def separators : Run (List Char) := do return ((← valueOf? "IFS").getD " \t\n").toList

/-- What a shell gives to variables at its start. -/
def initialVariables (vars : List (String × Variable)) : List (String × Variable) :=
  let own (name value : String) : String × Variable :=
    (name, { value := some value, exported := (vars.lookup name).any (·.exported) })
  let given (name value : String) : List (String × Variable) :=
    if (vars.lookup name).isSome then [] else [(name, { value := some value })]
  let fixed := [own "IFS" " \t\n", own "OPTIND" "1", own "PPID" "1"]
  fixed ++ given "PS1" "$ " ++ given "PS2" "> " ++ given "PS4" "+ " ++
    given "PATH" "/usr/local/sbin:/usr/local/bin:/usr/sbin:/usr/bin:/sbin:/bin" ++
    vars.filter fun v => fixed.all fun f => f.1 ≠ v.1

end Run

end HookGate.Shell
