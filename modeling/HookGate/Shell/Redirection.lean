import HookGate.Shell.State

/-! # Redirections

What the descriptors of a command stand for while it runs. -/
namespace HookGate.Shell.Redirection

open Sandbox Run

/-- Lets a descriptor stand for a stream. -/
def connect (descriptor stream : Nat) : Run Unit := modify fun s =>
  { s with descriptors := (descriptor, stream) :: s.descriptors.filter fun d => d.1 ≠ descriptor }

def close (descriptor : Nat) : Run Unit := modify fun s =>
  { s with descriptors := s.descriptors.filter fun d => d.1 ≠ descriptor }

/-- Complains of a file that cannot be opened. -/
private def refuse {α : Type} (makes : Bool) (target : Text.Octets) (e : SystemError) : Run α := do
  let isMissing := e = .os .noEntry || e = .os .notDirectory
  let why := if isMissing then (if makes then "Directory nonexistent" else "No such file") else match e with
    | .os e => e.text
    | e => e.message
  failShell ("cannot " ++ (if makes then "create " else "open ") ++ target ++ ": " ++ why)

/-- The stream of a file that is to be read. -/
def openInput (target : Text.Octets) : Run Nat := do
  let s ← get
  let reading : Access := { reads := true }
  match s.machine.files.find s.cwd (pathOf target) with
  | .error e => refuse false target e
  | .ok (_, node) =>
    match node with
    | .directory => openStream .directory
    | .file identity _ _ => openStream (.file identity 0 reading)
    | .device (.descriptor d) =>
      match ← stream? d with
      | some (_, .file identity _ _) => openStream (.file identity 0 reading)
      | some (n, _) => return n
      | none => refuse false target (.os .noEntry)
    | .device .terminal => refuse false target (.os .noDevice)
    | .device d => openStream (.device d reading)
    | .link _ | .tool _ => openStream (.source [])

/-- The stream of a file that is to be written; it is made if it is not there. -/
private def openOutput (target : Text.Octets) (access : Access) (empties keeps : Bool) : Run Nat := do
  let s ← get
  let path := pathOf target
  let isThere := s.machine.files.isThere s.cwd path
  match s.machine.files.openSink s.cwd path with
  | .error e => refuse true target e
  | .ok (sink, files) =>
    match sink with
    | .file identity =>
      if keeps && isThere then refuse true target (.os .alreadyThere)
      changeMachine fun m => { m with files := if empties then files.truncate sink else files }
      openStream (.file identity 0 access)
    | .device (.descriptor d) =>
      match ← stream? d with
      | some (_, .file identity _ _) =>
        if empties then changeMachine fun m => { m with files := files.truncate (.file identity) }
        openStream (.file identity 0 access)
      | some (n, _) => return n
      | none => refuse true target (.os .noEntry)
    | .device d => openStream (.device d access)

/-- Makes a descriptor another name for one that is open, or closes it. -/
private def duplicate (descriptor : Nat) (target : Text.Octets) : Run Unit := do
  match target.toList with
  | ['-'] => close descriptor
  | [c] =>
    if !c.isDigit then failShell "Syntax error: Bad fd number"
    let source := c.toNat - 0x30
    match (← get).descriptors.lookup source with
    | some stream => connect descriptor stream
    | none => if source ≠ descriptor then failShell (target ++ ": Bad file descriptor")
  | _ => failShell "Syntax error: Bad fd number"

/-- Does what a redirection says; its target is expanded. -/
def apply (descriptor : Nat) (kind : RedirectKind) (target : Text.Octets) : Run Unit := do
  let writing : Access := { writes := true }
  match kind with
  | .input => connect descriptor (← openInput target)
  | .output => connect descriptor (← openOutput target writing true (← isOn "noclobber"))
  | .clobber => connect descriptor (← openOutput target writing true false)
  | .append => connect descriptor (← openOutput target { writing with appends := true } false false)
  | .both => connect descriptor (← openOutput target { writing with reads := true } false false)
  | .here => connect descriptor (← openStream (.source target.toList))
  | .duplicate => duplicate descriptor target

end HookGate.Shell.Redirection
