import HookGate.Shell.Arguments
import HookGate.Shell.Quoting

/-! # Signals

Signals that a shell sends or gets, and the commands that it keeps for them. -/
namespace HookGate.Shell.Signal

open Run

/-- The names of signals from 1 on; some have none but their number. -/
def names : List String :=
  ["HUP", "INT", "QUIT", "ILL", "TRAP", "ABRT", "BUS", "FPE", "KILL", "USR1", "SEGV", "USR2", "PIPE", "ALRM", "TERM",
    "16", "CHLD", "CONT", "STOP", "TSTP", "TTIN", "TTOU", "URG", "XCPU", "XFSZ", "VTALRM", "PROF", "WINCH", "IO", "PWR",
    "SYS", "32", "33", "RTMIN"] ++
    ((List.range 15).map fun n => "RTMIN+" ++ Text.ofNat (n + 1)) ++
    ((List.range 14).map fun n => "RTMAX-" ++ Text.ofNat (14 - n)) ++ ["RTMAX"]

/-- The name of a signal; 0 stands for the end of the shell. -/
def nameOf (n : Nat) : String := ("EXIT" :: names)[n]?.getD (Text.ofNat n)

/-- The number that a text writes, if a signal has it. -/
def ofNumber? (text : Text.Octets) : Option Nat :=
  if text.toList ≠ [] ∧ text.toList.all Char.isDigit then (text.toNat?).filter (· < 65) else none

/-- The number of a signal, which is given as it is or by its name. -/
def ofName? (name : Text.Octets) : Option Nat :=
  let capitals := String.ofList (name.toList.map Char.toUpper)
  ofNumber? name <|> (names.findIdx? (· = capitals)).map (· + 1)

/-- What a shell calls the end of a process that a signal killed. -/
def endText (signal : Nat) : String :=
  ([(1, "Hangup"), (2, "Interrupt"), (3, "Quit"), (4, "Illegal instruction"), (5, "Trace/breakpoint trap"),
    (6, "Aborted"), (7, "Bus error"), (8, "Floating point exception"), (9, "Killed"), (10, "User defined signal 1"),
    (11, "Segmentation fault"), (12, "User defined signal 2"), (13, "Broken pipe"), (14, "Alarm clock"),
    (15, "Terminated"), (16, "Stack fault"), (24, "CPU time limit exceeded"), (25, "File size limit exceeded"),
    (26, "Virtual timer expired"), (27, "Profiling timer expired"), (29, "I/O possible"), (30, "Power failure"),
    (31, "Bad system call")].lookup signal).getD
    (if 34 ≤ signal then "Real-time signal " ++ Text.ofNat (signal - 34) else "Unknown signal " ++ Text.ofNat signal)

/-- Tells of a process that a signal killed; some signals are not told of. -/
def report (e : Ended) : Run Unit := do
  if let .killed signal := e then
    if signal ≠ 2 ∧ signal ≠ 13 then complain (endText signal)

/-- Whether a process does not notice a signal that it made no arrangements for. -/
def isHarmless (n : Nat) : Bool := [0, 17, 18, 23, 28].contains n

/-- What a signal does to the process that runs: nothing, what a trap says, or its worst. -/
def receive (n : Nat) : Run Unit := do
  let s ← get
  match if n = 0 ∨ n = 9 ∨ n = 19 then none else s.traps.lookup n with
  | some "" => return ()
  | some _ => modify fun s => { s with pending := n :: s.pending }
  | none =>
    if isHarmless n then return ()
    else if [19, 20, 21, 22].contains n then waitForever
    else throw (.killed s.current n)

/-- Takes up the signals that other processes sent. -/
def takeUp : Run Unit := do
  let s ← get
  let (own, others) := s.machine.signals.partition fun x => x.1 = s.current
  if !own.isEmpty then
    changeMachine fun m => { m with signals := others }
    for (_, n) in own.reverse do receive n

/-- The number of a signal or of the end of the shell, given as it is or by its name. -/
private def ofTrapName? (name : Text.Octets) : Option Nat :=
  if String.ofList (name.toList.map Char.toUpper) = "EXIT" then some 0 else ofName? name

/-- Shows the traps, or sets them for some signals. -/
def trap (args : List Text.Octets) : Run Nat := do
  match ← Arguments.plain args with
  | [] =>
    for n in List.range 65 do
      if let some command := (← get).traps.lookup n then
        print ("trap -- " ++ Quoting.value command ++ " " ++ nameOf n ++ "\n")
    return 0
  | first :: rest =>
    let isReset := rest.isEmpty || (ofNumber? first).isSome
    for name in if isReset then first :: rest else rest do
      match ofTrapName? name with
      | none =>
        complain ("trap: " ++ name ++ ": bad trap")
        return 1
      | some n => modify fun s =>
          let others := s.traps.filter (·.1 ≠ n)
          { s with traps := if isReset || first = "-" then others else (n, first) :: others }
    return 0

end HookGate.Shell.Signal
