import HookGate.Hook.Run

/-! # Arguments

Options stand before or after the mode. The first argument that is no option names the mode; what is not known is
passed over. -/
namespace HookGate

structure Arguments where
  help : Bool := false
  version : Bool := false
  mode : Option Mode := none
  dryRun : Bool := false
  rawText : Bool := false
  configPath : Option String := none
  rulesPath : Option String := none
deriving Repr, DecidableEq

namespace Arguments

/-- An option that is followed by its value. -/
inductive Valued
  | config
  | rules
deriving Repr, DecidableEq

namespace Valued

def ofName? : String → Option Valued
  | "-c" | "--config" => some config
  | "-r" | "--rules" => some rules
  | _ => none

/-- The option and the value of an argument such as `--config=…`; the front may stand there more than once. -/
def ofJoined? (arg : String) : Option (Valued × String) :=
  let rest (start : String) : String := String.ofList (Text.dropStarts start.toList arg.toList)
  if Text.startsWith arg "--config=" then some (config, rest "--config=")
  else if Text.startsWith arg "--rules=" then some (rules, rest "--rules=")
  else none

end Valued

def setValue (a : Arguments) (value : String) : Valued → Arguments
  | .config => { a with configPath := some value }
  | .rules => { a with rulesPath := some value }

/-- Takes the mode from the first argument that is no option; a mode that is not known asks for help. -/
def setMode (a : Arguments) (name : String) : Arguments :=
  if Text.startsWith name "-" ∨ a.mode.isSome then a
  else match Mode.ofName? name with
    | some mode => { a with mode := some mode }
    | none => { a with help := true }

/-- Takes an argument that stands for itself. -/
def take (a : Arguments) (arg : String) : Arguments :=
  match arg with
  | "-h" | "--help" => { a with help := true }
  | "-v" | "--version" => { a with version := true }
  | "-d" | "--dry-run" => { a with dryRun := true }
  | "--text" => { a with rawText := true }
  | arg => match Valued.ofJoined? arg with
    | some (option, value) => a.setValue value option
    | none => a.setMode arg

/-- Takes the arguments from left to right; an option that needs a value and has none is passed over. -/
def takeAll (a : Arguments) : List String → Arguments
  | [] => a
  | [arg] => if (Valued.ofName? arg).isSome then a else a.take arg
  | arg :: value :: rest =>
    match Valued.ofName? arg with
    | some option => takeAll (a.setValue value option) rest
    | none => takeAll (a.take arg) (value :: rest)

def ofList (args : List String) : Arguments := takeAll {} args

/-- The run of a hook that is asked for, unless help or the version is. -/
def invocation? (a : Arguments) : Option Invocation :=
  if a.version ∨ a.help then none
  else a.mode.map fun mode => { mode, dryRun := a.dryRun, rawText := a.rawText, rulesPath := a.rulesPath }

end Arguments

end HookGate
