import HookGate.Shell.Option
import HookGate.Shell.Token

/-! # Finding commands

Where the command of a name is found: among the words of the language, the aliases, the functions and the commands of
the shell itself, or in one of the directories for programs. -/
namespace HookGate.Shell.Lookup

open Sandbox Run

/-- The commands that a shell has itself and that may fail. -/
def regularCommands : List String :=
  ["alias", "bg", "cd", "chdir", "command", "echo", "false", "fg", "getopts", "hash", "jobs", "kill", "printf", "pwd",
    "read", "test", "[", "true", "type", "ulimit", "umask", "unalias", "wait"]

/-- What a name stands for where a command is run. -/
inductive Meaning
  | function (body : Command)
  /-- A command of the shell itself. -/
  | own
  | program

def meaningOf (withFunctions : Bool) (name : Text.Octets) : Run Meaning := do
  let s ← get
  match if withFunctions then s.functions.lookup name else none with
  | some body => return .function body
  | none => return if specialCommands.contains name || regularCommands.contains name then .own else .program

/-! ## Programs -/

/-- The directories in which programs are looked for. -/
def searchPath : Run Text.Octets := do return (← valueOf? "PATH").getD ""

/-- The directories that hold the programs of every machine. -/
def usualPath : Text.Octets := "/usr/local/sbin:/usr/local/bin:/usr/sbin:/usr/bin:/sbin:/bin"

/-- The paths at which a program may be. -/
def candidates (path name : Text.Octets) : List Text.Octets :=
  if name.toList.contains '/' then [name]
  else (Text.pieces (· == ':') path.toList).map fun d =>
    if d = [] then name else String.ofList d ++ "/" ++ name

def isExecutable : Node → Bool
  | .file _ _ executable => executable
  | .tool _ => true
  | _ => false

/-- The first path at which there is a program, or why there is none. -/
def find (path name : Text.Octets) : Run (Except String Text.Octets) := do
  let s ← get
  let mut why := "not found"
  for place in candidates path name do
    match s.machine.files.find s.cwd (pathOf place) with
    | .ok (_, node) => if isExecutable node then return .ok place else why := "Permission denied"
    | .error (.os e) => if e ≠ .noEntry && e ≠ .notDirectory then why := e.text
    | .error _ => pure ()
  return .error why

/-- Remembers where the program of a name was found. -/
def remember (name place : Text.Octets) : Run Unit := modify fun s =>
  { s with found := if (s.found.lookup name).isSome then s.found else s.found ++ [(name, place)] }

/-- Finds a program as before, or anew. -/
def findAgain (path name : Text.Octets) : Run (Except String Text.Octets) := do
  match (← get).found.lookup name with
  | some place => return .ok place
  | none =>
    let found ← find path name
    if let .ok place := found then
      if !(name.toList.contains '/') && path = (← searchPath) then remember name place
    return found

/-- The place of a name in the table of programs. -/
private def bucket (name : String) : Nat :=
  let codes := name.toList.map Char.toNat
  (16 * codes.head?.getD 0 + codes.foldl (· + ·) 0) % 32768 % 31

/-- Shows the programs that were found, forgets them, or finds some. -/
def hash (args : List Text.Octets) : Run Nat := do
  let (options, names) ← Arguments.read [('r', false)] args
  if !options.isEmpty then
    modify fun s => { s with found := [] }
    return 0
  if names.isEmpty then
    for (_, place) in (← get).found.mergeSort fun a b => bucket a.1 ≤ bucket b.1 do print (place ++ "\n")
  let mut status := 0
  for name in names do
    modify fun s => { s with found := s.found.filter fun f => f.1 ≠ name }
    if (← meaningOf true name) matches .program then
      match ← findAgain (← searchPath) name with
      | .ok _ => pure ()
      | .error why =>
        complainAt (name ++ ": " ++ why)
        status := 1
  return status

/-! ## Telling what a command is -/

/-- Tells what a name stands for, in words or as something that could be run. -/
def describe (path? : Option Text.Octets) (inWords : Bool) (name : Text.Octets) : Run Nat := do
  let s ← get
  let tell (words : String) (own : String) : Run Nat := do
    print ((if inWords then name ++ words else own) ++ "\n")
    return 0
  if Token.reservedWords.contains name then tell " is a shell keyword" name
  else match s.aliases.find? fun a => a.1 = name with
  | some a => tell (" is an alias for " ++ a.2) ("alias " ++ Alias.text a)
  | none =>
    let path ← match path? with
      | some p => pure p
      | none => searchPath
    match ← meaningOf true name, s.found.lookup name with
    | .function _, _ => tell " is a shell function" name
    | .own, _ =>
      tell (if specialCommands.contains name then " is a special shell builtin" else " is a shell builtin") name
    | .program, some place => tell (" is a tracked alias for " ++ place) place
    | .program, none =>
      let place? ←
        if name.toList.contains '/' then
          pure (if s.machine.files.isThere s.cwd (pathOf name) then some name else none)
        else do pure (← find path name).toOption
      match place? with
      | some place => tell (" is " ++ place) place
      | none =>
        if inWords then print (name ++ ": not found\n")
        return 127

def types (args : List Text.Octets) : Run Nat := do
  let mut status := 0
  for name in args do status := max status (← describe none true name)
  return status

/-- What `command` does where it runs none. -/
def commands (args : List Text.Octets) : Run Nat := do
  let (options, names) ← Arguments.read [('p', false), ('v', false), ('V', false)] args
  let has (c : Char) : Bool := options.any fun o => o.1 = c
  match names.head? with
  | some name =>
    if has 'v' || has 'V' then describe (if has 'p' then some usualPath else none) (has 'V') name else return 0
  | none => return 0

end HookGate.Shell.Lookup
