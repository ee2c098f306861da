import HookGate.Shell.Signal

/-! # Jobs

The processes that a shell runs in the background. -/
namespace HookGate.Shell.Job

open Run

/-- Whether a job has come to its end at a time. -/
def isOver (j : Job) (clock : Nat) : Bool := j.ending ≤ clock

private def change (number : Nat) (f : Job → Job) : Run Unit := modify fun s =>
  { s with jobs := s.jobs.map fun j => if j.number = number then f j else j }

/-- Notices the jobs that are over. -/
def notice : Run Unit := modify fun s =>
  { s with jobs := s.jobs.map fun j => if j.isOver s.machine.clock then { j with isNoticed := true } else j }

/-- The first place in the table that is free, or becomes so since its job is over and was waited for. -/
def freePlace : Run Nat := do
  let s ← get
  let isTaken (n : Nat) : Bool := s.jobs.any fun j => j.number = n && !(j.isKnown && j.isOver s.machine.clock)
  let n := ((List.range (s.jobs.length + 1)).find? fun n => !isTaken (n + 1)).getD s.jobs.length + 1
  set { s with jobs := s.jobs.filter fun j => j.number ≠ n }
  return n

/-- Adds a job, which is the current one from now on. -/
def add (process : Nat) (ended : Ended) (ending : Nat) (isAlone : Bool) : Run Unit := do
  let number ← freePlace
  modify fun s => { s with jobs := { number, process, ended, ending, isAlone } :: s.jobs, lastJob := some process }

/-- The job that a text with a percent sign stands for. -/
private def find (name? : Option Text.Octets) : Run Job := do
  let s ← get
  let name := name?.getD "(null)"
  let orFail (j? : Option Job) (why : String) : Run Job := match j? with
    | some j => return j
    | none => failShell why
  match name?.map String.toList with
  | none | some ['%'] | some ['%', '%'] | some ['%', '+'] => orFail s.jobs.head? "No current job"
  | some ['%', '-'] => orFail s.jobs[1]? "No previous job"
  | some ('%' :: cs) =>
    orFail (s.jobs.find? fun j => cs.all Char.isDigit && (String.ofList cs).toNat? = some j.number)
      ("No such job: " ++ name)
  | some _ => failShell ("No such job: " ++ name)

/-! ## Waiting -/

/-- Waits for the end of a job, and gives its status. -/
private def waitFor (j : Job) : Run Nat := do
  let clock := (← get).machine.clock
  if clock < j.ending then Run.wait (j.ending - clock)
  if !j.isNoticed then Signal.report j.ended
  change j.number fun j => { j with isNoticed := true, isKnown := true }
  return j.ended.status

def wait (args : List Text.Octets) : Run Nat := do
  match ← Arguments.plain args with
  | [] =>
    let s ← get
    let last := s.jobs.foldl (fun t j => max t j.ending) 0
    if s.machine.clock < last then Run.wait (last - s.machine.clock)
    modify fun s => { s with jobs := s.jobs.map fun j => { j with isNoticed := true, isKnown := true } }
    return 0
  | targets =>
    let mut status := 127
    for t in targets do
      if Text.startsWith t "%" then status ← waitFor (← find (some t))
      else
        let process ← Arguments.number t
        if let some j := (← get).jobs.find? fun j => j.process = process then status ← waitFor j
    return status

/-! ## Showing -/

private def stateText (j : Job) (clock : Nat) : String :=
  if !j.isOver clock then "Running"
  else match j.ended with
    | .normally 0 => "Done"
    | .normally n => "Done(" ++ Text.ofNat n ++ ")"
    | .killed n => Signal.endText n

/-- Shows a job; one that is over is forgotten then. -/
private def display (withProcess onlyProcess : Bool) (j : Job) : Run Unit := do
  let s ← get
  let place := s.jobs.findIdx fun i => i.number = j.number
  if onlyProcess then print (Text.ofNat j.process ++ "\n")
  else
    let mark := if place = 0 then "+" else if place = 1 then "-" else " "
    let front := "[" ++ Text.ofNat j.number ++ "] " ++ mark ++ " " ++
      (if withProcess then Text.ofNat j.process ++ " " else "") ++ stateText j s.machine.clock
    print (front ++ String.ofList (List.replicate (max 1 (33 - front.length)) ' ') ++ "\n")
  if j.isOver s.machine.clock then modify fun s => { s with jobs := s.jobs.filter fun i => i.number ≠ j.number }

def list (args : List Text.Octets) : Run Nat := do
  let (options, targets) ← Arguments.read [('l', false), ('p', false)] args
  let has (c : Char) : Bool := options.any fun o => o.1 = c
  notice
  let jobs ← if targets.isEmpty then pure (← get).jobs else targets.mapM fun t => find (some t)
  for j in jobs do display (has 'l') (has 'p') j
  return 0

/-- Jobs cannot be moved, since no terminal controls them. -/
def move (args : List Text.Octets) : Run Nat := do
  let targets ← Arguments.plain args
  let _ ← find targets.head?
  failShell ("job " ++ targets.head?.getD "(null)" ++ " not created under job control")

/-! ## Signals for jobs -/

/-- What kind of signal is sent, and to whom. -/
private structure Sending where
  signal : Option Nat := none
  lists : Bool := false
  targets : List Text.Octets

private def sending (args : List Text.Octets) : Run Sending := do
  match args with
  | [] => return { targets := [] }
  | a :: rest =>
    let own := match a.toList with
      | '-' :: cs => (Signal.ofName? (String.ofList cs))
      | _ => none
    match own with
    | some n => return { signal := some n, targets := rest }
    | none =>
      let (options, targets) ← Arguments.read [('l', false), ('s', true)] args
      let mut s : Sending := { targets }
      for (c, value) in options do
        if c = 'l' then s := { s with lists := true }
        else match Signal.ofName? value with
          | some n => s := { s with signal := some n }
          | none => failShell ("invalid signal number or name: " ++ value)
      return s

/-- Sends a signal to a process, and tells whether there is one. -/
private def send (process signal : Nat) : Run Bool := do
  let s ← get
  if process = s.current ∨ process = 0 then
    Signal.receive signal
    return true
  else if process = s.process then
    changeMachine fun m => { m with signals := (process, signal) :: m.signals }
    return true
  else match s.jobs.find? fun j => j.process = process with
    | some j =>
      if j.isNoticed then return false
      if !(Signal.isHarmless signal || j.isOver s.machine.clock) then
        forgetLater process
        if j.isAlone then changeMachine fun m => { m with holders := m.holders.filter fun h => h.process ≠ process }
        change j.number fun j => { j with ended := .killed signal, ending := s.machine.clock }
      return true
    | none => return false

def kill (args : List Text.Octets) : Run Nat := do
  let usage : Run Nat :=
    failShell "Usage: kill [-s sigspec | -signum | -sigspec] [pid | job]... or\nkill -l [exitstatus]"
  if args.isEmpty then return ← usage
  let s ← sending args
  if s.lists then
    if s.signal.isSome && !s.targets.isEmpty then return ← usage
    match s.targets with
    | [] => print (String.join (("0" :: Signal.names).map (· ++ "\n")))
    | status :: _ =>
      let n ← Arguments.number status
      let signal := if n > 128 then n - 128 else n
      if signal = 0 ∨ 65 ≤ signal then failShell ("invalid signal number or exit status: " ++ status)
      print (Signal.nameOf signal ++ "\n")
    return 0
  if s.targets.isEmpty then return ← usage
  let mut status := 0
  for t in s.targets do
    let sent ←
      if Text.startsWith t "%" then do
        let _ ← find (some t)
        pure false
      else if Text.startsWith t "-" then do
        let _ ← Arguments.number (String.ofList (t.toList.drop 1))
        pure false
      else do send (← Arguments.number t) (s.signal.getD 15)
    if !sent then
      complainAt "No such process\n"
      status := 1
  return status

end HookGate.Shell.Job
