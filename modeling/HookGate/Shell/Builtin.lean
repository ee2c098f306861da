import HookGate.Shell.Directory
import HookGate.Shell.Input
import HookGate.Shell.Job
import HookGate.Shell.Lookup
import HookGate.Shell.Printf

/-! # Commands of the shell itself

What a shell does without starting a program, apart from what runs other commands. -/
namespace HookGate.Shell.Builtin

open Run

/-- Prints its arguments, in which escapes stand for characters. -/
private def echo (args : List Text.Octets) : Run Nat := do
  let (isOpen, words) := if args.head? = some "-n" then (true, args.drop 1) else (false, args)
  print (text isOpen words)
  return 0
where
  text (isOpen : Bool) : List Text.Octets → Text.Octets
    | [] => if isOpen then "" else "\n"
    | a :: rest =>
      let (cs, ended) := Escape.ofArgument a.toList
      if ended then String.ofList cs
      else String.ofList cs ++ (if rest.isEmpty then (if isOpen then "" else "\n") else " " ++ text isOpen rest)

/-- Complaints come before all that is printed. -/
private def printf (args : List Text.Octets) : Run Nat := do
  match ← Arguments.plain args with
  | [] => failShell "usage: printf format [arg ...]"
  | format :: rest =>
    let printed := Printf.print .shell format rest
    for piece in printed.pieces do
      if let .complaint s := piece then complainAt s
    if let some s := printed.failure? then complainAt s
    print (String.ofList (printed.pieces.flatMap fun | .text cs => cs | .complaint _ => []))
    if printed.failure?.isSome then
      setStatus 2
      throw (.failed 2)
    return if printed.isFaulty then 1 else 0

private def test (args : List Text.Octets) : Run Nat := do
  let s ← get
  match Condition.holds s.machine.files s.cwd args with
  | .ok b => return if b then 0 else 1
  | .error e => failShell e.message

private def exit (args : List Text.Octets) : Run Nat := do
  match args with
  | a :: _ => throw (.exit (← Arguments.number a))
  | [] =>
    let s ← get
    throw (.exit (s.beforeTrap.getD s.status))

private def returnFrom (args : List Text.Octets) : Run Nat := do
  match args with
  | a :: _ => throw (.return (← Arguments.number a))
  | [] => throw (.return (← get).status)

/-- How many loops a command leaves or goes on with; outside of all loops it does nothing. -/
private def leave (stop : Nat → Stop) (args : List Text.Octets) : Run Nat := do
  let n ← match args.head? with
    | some a =>
      let n ← Arguments.number a
      if n = 0 then failShell ("Illegal number: " ++ a)
      pure n
    | none => pure 1
  let n := min n (← get).loops
  if n > 0 then throw (stop n)
  return 0

private def shift (args : List Text.Octets) : Run Nat := do
  let n ← match args.head? with
    | some a => Arguments.number a
    | none => pure 1
  let s ← get
  if s.arguments.length < n then failShell "can't shift that many"
  ShellOption.setArguments (s.arguments.drop n)
  return 0

/-- There are no limits. -/
private def limits (args : List Text.Octets) : Run Nat := do
  let letters := ['H', 'S', 'a', 't', 'f', 'd', 's', 'c', 'm', 'l', 'p', 'n', 'v', 'w', 'r']
  let (_, operands) ← Arguments.read (letters.map fun c => (c, false)) args
  match operands with
  | [] => print "unlimited\n"
  | [a] => if a ≠ "unlimited" && !(a.toList.all Char.isDigit) then failShell "bad number"
  | _ => failShell "too many arguments"
  return 0

/-- The command of a name, unless it runs other commands or is no command of the shell itself. -/
def ofName? (name : Text.Octets) (args : List Text.Octets) : Option (Run Nat) :=
  match name with
  | ":" | "true" => some (return 0)
  | "false" => some (return 1)
  | "echo" => some (echo args)
  | "printf" => some (printf args)
  | "test" => some (test args)
  | "[" => some (if args.getLast? = some "]" then test args.dropLast else failShell "missing ]")
  | "exit" => some (exit args)
  | "return" => some (returnFrom args)
  | "break" => some (leave .leave args)
  | "continue" => some (leave .repeat args)
  | "shift" => some (shift args)
  | "cd" | "chdir" => some (Directory.change args)
  | "pwd" => some (Directory.display args)
  | "umask" => some (Directory.mask args)
  | "read" => some (Input.read args)
  | "getopts" => some (Input.options args)
  | "export" => some (Variables.exportAll args)
  | "readonly" => some (Variables.keepAll args)
  | "local" => some (Variables.makeLocal args)
  | "unset" => some (Variables.unset args)
  | "set" => some (Variables.setAll args)
  | "alias" => some (Alias.define args)
  | "unalias" => some (Alias.remove args)
  | "trap" => some (Signal.trap args)
  | "kill" => some (Job.kill args)
  | "wait" => some (Job.wait args)
  | "jobs" => some (Job.list args)
  | "fg" | "bg" => some (Job.move args)
  | "hash" => some (Lookup.hash args)
  | "type" => some (Lookup.types args)
  | "command" => some (Lookup.commands args)
  | "ulimit" => some (limits args)
  | "times" => some (do
      print "0m0.000000s 0m0.000000s\n0m0.000000s 0m0.000000s\n"
      return 0)
  | _ => none

end HookGate.Shell.Builtin
