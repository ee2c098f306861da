import HookGate.Shell.Arguments
import HookGate.Shell.Expansion
import HookGate.Shell.Quoting

/-! # Options and variables of a shell

What `set` does, and how variables are shown and marked. -/
namespace HookGate.Shell

open Run

namespace ShellOption

/-- The names of all options, in the order in which they are listed. -/
def names : List String := optionLetters.map Prod.fst ++ ["nolog", "debug"]

/-- Turns an option on or off; there is no terminal from which jobs could be controlled. -/
private def turn (on : Bool) (name : String) : Run Unit := do
  modify fun s =>
    let others := s.options.filter fun o => o ≠ name
    { s with options := if on then name :: others else others }
  if on && name = "monitor" then
    complainAt "can't access tty; job control turned off"
    modify fun s => { s with options := s.options.filter fun o => o ≠ name }

def setLetter (on : Bool) (letter : Char) : Run Unit := do
  match optionLetters.find? fun o => o.2 = letter with
  | some (name, _) =>
    turn on name
    if on && letter = 'V' then turn false "emacs"
    if on && letter = 'E' then turn false "vi"
  | none => failShell ("Illegal option -" ++ String.ofList [letter])

/-- Sets an option by its name, or shows all of them. -/
def setName (on : Bool) (name? : Option Text.Octets) : Run Unit := do
  match name? with
  | some name =>
    if names.contains name then turn on name else failShell ("Illegal option -o " ++ name)
  | none =>
    let s ← get
    if on then print "Current option settings\n"
    for name in names do
      let isSet := s.options.contains name
      if on then
        print (name ++ String.ofList (List.replicate (16 - name.length) ' ') ++ (if isSet then "on\n" else "off\n"))
      else print ((if isSet then "set -o " else "set +o ") ++ name ++ "\n")

/-- Sets the options of one argument; what follows it may be the name of an option, and is given back without it. -/
private def setWord (on : Bool) (rest : List Text.Octets) : List Char → Run (List Text.Octets)
  | [] => return rest
  | 'o' :: cs => do
    setName on rest.head?
    setWord on (rest.drop 1) cs
  | c :: cs => do
    setLetter on c
    setWord on rest cs

/-- New arguments for the shell. -/
def setArguments (arguments : List Text.Octets) : Run Unit := modify fun s =>
  { s with arguments, optionIndex := 1, optionOffset := none }

/-- Sets options, and gives the arguments behind them; `ended` tells if something said that no options follow. -/
private def setAll : Nat → List Text.Octets → Run (List Text.Octets × Bool)
  | 0, args => return (args, false)
  | _, [] => return ([], false)
  | n + 1, a :: rest => do
    match a.toList with
    | ['-'] =>
      turn false "xtrace"
      turn false "verbose"
      return (rest, false)
    | ['-', '-'] => return (rest, true)
    | '-' :: cs => setAll n (← setWord true rest cs)
    | '+' :: cs => setAll n (← setWord false rest cs)
    | _ => return (a :: rest, false)

end ShellOption

namespace Variables

/-- Shows the variables of a kind in the order of their names, each as something that could be read again. -/
def display (front : String) (kind : Variable → Bool) : Run Unit := do
  let vars := ((← get).vars.filter fun v => kind v.2).mergeSort fun a b => a.1 ≤ b.1
  for (name, v) in vars do
    let value := (v.value.map fun x => "=" ++ Quoting.value x).getD ""
    print (front ++ name ++ value ++ "\n")

/-- A name and the value behind its equals sign, if there is one. -/
private def named (a : Text.Octets) : String × Option Text.Octets :=
  let name := a.toList.takeWhile (· ≠ '=')
  (String.ofList name, if name.length < a.length then some (String.ofList (a.toList.drop (name.length + 1))) else none)

/-- Marks variables, some of which get values, or shows those that have the mark. -/
private def mark (command : String) (has : Variable → Bool) (set : Variable → Variable) (args : List Text.Octets) :
    Run Nat := do
  let (options, names) ← Arguments.read [('p', false)] args
  if names.isEmpty || !options.isEmpty then display (command ++ " ") has
  else
    for a in names do
      let (name, value?) := named a
      if let some value := value? then setVariable name value
      markVariable set name
  return 0

def exportAll (args : List Text.Octets) : Run Nat := mark "export" (·.exported) (fun v => { v with exported := true }) args

def keepAll (args : List Text.Octets) : Run Nat :=
  mark "readonly" (·.readOnly) (fun v => { v with readOnly := true }) args

/-- Remembers a variable, so that it gets back what it held when the function ends. -/
def remember (name : String) : Run Unit := modify fun s =>
  { s with locals := s.locals.map fun (vars, options) =>
    (if vars.any fun v => v.1 = name then vars else (name, s.vars.lookup name) :: vars, options) }

def makeLocal (args : List Text.Octets) : Run Nat := do
  if (← get).locals.isNone then failShell "not in a function"
  for a in args do
    if a = "-" then modify fun s =>
      { s with locals := s.locals.map fun (vars, options) => (vars, some (options.getD s.options)) }
    else
      let (name, value?) := named a
      remember name
      match value? with
      | some value => setVariable name value
      | none => if ((← get).vars.lookup name).isNone then markVariable id name
  return 0

def unset (args : List Text.Octets) : Run Nat := do
  let (options, names) ← Arguments.read [('v', false), ('f', false)] args
  for name in names do
    if (options.getLast?.map Prod.fst) = some 'f' then
      modify fun s => { s with functions := s.functions.filter fun f => f.1 ≠ name }
    else unsetVariable name
  return 0

/-- Sets options and arguments, or shows all variables. -/
def setAll (args : List Text.Octets) : Run Nat := do
  if args.isEmpty then display "" fun v => v.value.isSome
  else
    let (rest, ended) ← ShellOption.setAll (args.length + 1) args
    if ended || !rest.isEmpty then ShellOption.setArguments rest
  return 0

end Variables

/-! ## Aliases -/

namespace Alias

/-- The place of a name in the table of aliases. -/
private def bucket (name : String) : Nat :=
  let codes := name.toList.map Char.toNat
  (16 * codes.head?.getD 0 + codes.foldl (· + ·) 0) % 39

def text (a : String × String) : String := a.1 ++ "=" ++ Quoting.value a.2

private def displayAll : Run Unit := do
  let aliases := (← get).aliases.mergeSort fun a b => bucket a.1 ≤ bucket b.1
  for a in aliases do print (text a ++ "\n")

/-- Where the equals sign of a definition may stand: not at its start. -/
private def define? (a : String) : Option (String × String) :=
  match a.toList with
  | [] => none
  | c :: cs =>
    let name := cs.takeWhile (· ≠ '=')
    if name.length < cs.length then some (String.ofList (c :: name), String.ofList (cs.drop (name.length + 1))) else none

/-- Defines aliases, or shows them. -/
def define (args : List Text.Octets) : Run Nat := do
  if args.isEmpty then displayAll
  let mut status := 0
  for a in args do
    match define? a with
    | some (name, value) => modify fun s =>
        { s with aliases := if s.aliases.any fun b => b.1 = name
            then s.aliases.map fun b => if b.1 = name then (name, value) else b
            else s.aliases ++ [(name, value)] }
    | none => match (← get).aliases.find? fun b => b.1 = a with
      | some b => print (text b ++ "\n")
      | none =>
        complain ("alias: " ++ a ++ " not found")
        status := 1
  return status

def remove (args : List Text.Octets) : Run Nat := do
  let (options, names) ← Arguments.read [('a', false)] args
  if !options.isEmpty then
    modify fun s => { s with aliases := [] }
    return 0
  let mut status := 0
  for name in names do
    if ((← get).aliases.lookup name).isSome then
      modify fun s => { s with aliases := s.aliases.filter fun a => a.1 ≠ name }
    else
      complain ("unalias: " ++ name ++ " not found")
      status := 1
  return status

end Alias

end HookGate.Shell
