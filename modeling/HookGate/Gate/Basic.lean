import HookGate.Gate.Message
import HookGate.Gate.Validator
import HookGate.Hook.Decision
import HookGate.Hook.Input
import HookGate.Pattern.Machine
import HookGate.Settings.Environment
import HookGate.System.Host

/-! # The gate

A command that is guarded passes if the validator approves of it. All others pass unseen, and with the escape hatch
open every command does. -/

/-! ## Guarded commands

A command is guarded if it speaks of running a container and of the scanner, in any order and any case. -/
namespace HookGate.Gate

open Pattern

def containerRun : Pattern :=
  concat [caseless "docker", plus (.set (.folded .space)), caseless "run"]

def scanner : Pattern := caseless "semgrep"

def isGuarded (command : String) : Bool := containerRun.occursIn command && scanner.occursIn command

end HookGate.Gate

/-! ## The scan configuration

The configuration file of a scan is looked for in the workspaces, one after the other. -/
namespace HookGate.Gate

variable {m : Type → Type} [Monad m]

/-- The path of the first file of a name in or below a directory. -/
def findBelow? (host : Host m) (fileName directory : String) : m (Option String) := do
  match ← host.listing? directory with
  | none => return none
  | some listing => return (listing.findFile? fileName).map fun names => names.foldl Path.join directory

/-- The first file of a name in the first of the candidates that has one. -/
def findConfig? (host : Host m) (e : Environment) (fileName : String) : List String → m (Option String)
  | [] => return none
  | candidate :: rest => do
    match ← findBelow? host fileName (e.resolve candidate) with
    | some path => return some path
    | none => findConfig? host e fileName rest

end HookGate.Gate

/-! ## Deciding on a command -/

namespace HookGate

/-- Where a command ends up. -/
inductive GateState
  | idle
  | allowed
  | valid
  | invalid (detail : String) (config : Option String)
deriving Repr, DecidableEq

structure CommandGate (m : Type → Type) where
  settings : GateSettings
  environment : Environment
  validator : Validator m

namespace CommandGate

variable {m : Type → Type} [Monad m]

/-- The rule under which the gate blocks. -/
def ruleId : String := "semgrep-validation"

/-- The gate with the validator program of its settings. -/
def ofSettings (host : Host m) (s : GateSettings) (e : Environment) : CommandGate m where
  settings := s
  environment := e
  validator := (ValidatorProgram.ofSettings s.validator e).validator host

def evaluate (host : Host m) (g : CommandGate m) (command : String) : m GateState := do
  if !Gate.isGuarded command then return .idle
  else if g.environment.skipValidation then return .allowed
  else
    let config ← Gate.findConfig? host g.environment g.settings.configFileName g.settings.workspaceDirs
    let verdict ← g.validator.judge command config
    return if verdict.passed then .valid else .invalid verdict.detail config

/-- The block for what the validator objected to. -/
def block (g : CommandGate m) (detail : String) (recheck : Option String) : Decision :=
  .block
    { ruleId
      reason := Text.trim detail
      message := Gate.BlockMessage.render
        { detail, skipVariable := g.settings.skipVariable, docsPath := g.settings.docsPath, recheck } }

def checkCommand (host : Host m) (g : CommandGate m) (command : String) : m Decision := do
  match ← g.evaluate host command with
  | .idle => return .allow "not a semgrep docker command"
  | .allowed => return .allow ("validation skipped via " ++ g.settings.skipVariable)
  | .valid => return .allow "semgrep command validated"
  | .invalid detail config => return g.block detail (← g.validator.invocation? command config)

def check (host : Host m) (g : CommandGate m) (i : HookInput) : m Decision :=
  match i.bashCommand? with
  | none => return .allow "not a Bash tool call"
  | some command =>
    if Text.isBlankText command then return .allow "empty command" else g.checkCommand host command

end CommandGate

end HookGate
