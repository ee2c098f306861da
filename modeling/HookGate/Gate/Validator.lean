import HookGate.Settings.Environment
import HookGate.Shell.Words
import HookGate.System.Host

/-! # Validators

A guarded command is shown to a validator. The one that is configured is a program; a command passes if the program
ends well, and also if there is no such program. -/
namespace HookGate

/-- Why the validator program gave no approval. -/
inductive ValidatorError
  | missing (what : String)
  | timedOut (seconds : Nat)
  | rejected (status : Option Nat) (why : String)
  | notRun (why : String)
deriving Repr, DecidableEq

namespace ValidatorError

def message : ValidatorError → String
  | missing what => "validator not available: " ++ what
  | timedOut seconds => "validation timed out (>" ++ Text.ofNat seconds ++ "s)"
  | rejected _ why => why
  | notRun why => "validation failed to run: " ++ why

/-- Whether a command passes in spite of the error. -/
def isHarmless : ValidatorError → Bool
  | missing _ => true
  | _ => false

def ofLaunch : LaunchError → ValidatorError
  | .missing program => missing program
  | .timedOut seconds => timedOut seconds
  | e => notRun e.message

end ValidatorError

/-- What a validator says of a command, and why. -/
structure Verdict where
  passed : Bool
  detail : String := ""
deriving Repr, DecidableEq

namespace Verdict

def approval : Verdict := { passed := true }

def objection (detail : String) : Verdict := { passed := false, detail }

def ofResult : Except ValidatorError Unit → Verdict
  | .ok () => approval
  | .error e => if e.isHarmless then approval else objection e.message

end Verdict

/-- Something that judges a command, given the path of a scan configuration if there is one. -/
structure Validator (m : Type → Type) where
  judge : String → Option String → m Verdict
  /-- A command line with which a user can ask again. -/
  invocation? : String → Option String → m (Option String)

/-- A program that validates commands, with its script in the place where the environment has it. -/
structure ValidatorProgram where
  program : String
  script : Option String
  extraArguments : List String
  limitSecs : Nat
deriving Repr, DecidableEq

namespace ValidatorProgram

variable {m : Type → Type} [Monad m]

def ofSettings (s : ValidatorSettings) (e : Environment) : ValidatorProgram where
  program := s.program
  script := s.script.map e.resolve
  extraArguments := s.args
  limitSecs := s.timeoutSecs

/-- The arguments of the program; `config` is the path of a configuration that exists. -/
def arguments (v : ValidatorProgram) (command : String) (config : Option String) : List String :=
  v.script.toList ++ ["--command", command] ++ v.extraArguments ++
    (match config with
      | some path => ["--config-path", path]
      | none => [])

/-- The path of a configuration, if there is anything. -/
def present? (host : Host m) : Option String → m (Option String)
  | none => return none
  | some path => do return if ← host.isThere path then some path else none

/-- What a program that came to its end says. -/
def resultOf (f : Finished) : Except ValidatorError Unit :=
  if f.success then return ()
  else
    let stderr := Text.trim f.stderr
    throw (.rejected f.status (if stderr.isEmpty then
      match f.status with
      | some status => "validator exited with status " ++ Text.ofNat status
      | none => "validator was terminated by a signal"
      else stderr))

/-- The script, if one is configured that is not there. -/
def missingScript? (host : Host m) (v : ValidatorProgram) : m (Option String) :=
  match v.script with
  | none => return none
  | some script => do return if ← host.isThere script then none else some script

def run (host : Host m) (v : ValidatorProgram) (command : String) (config : Option String) :
    m (Except ValidatorError Unit) := do
  match ← missingScript? host v with
  | some script => return .error (.missing script)
  | none =>
    let arguments := v.arguments command (← present? host config)
    match ← host.launch { program := v.program, arguments, limitSecs := v.limitSecs } with
    | .ok f => return resultOf f
    | .error e => return .error (.ofLaunch e)

def describe? (host : Host m) (v : ValidatorProgram) (command : String) (config : Option String) :
    m (Option String) := do
  return Shell.joinWords? (v.program :: v.arguments command (← present? host config))

def validator (host : Host m) (v : ValidatorProgram) : Validator m where
  judge command config := do return .ofResult (← v.run host command config)
  invocation? := v.describe? host

end ValidatorProgram

end HookGate
