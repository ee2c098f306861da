import HookGate.Hook.Decision
import HookGate.RuleOutput.Report
import HookGate.Settings.Environment
import HookGate.System.Host

/-! # Processing rule output

An agent's text that holds rule output is staged in a file for the parser, which makes the files of the rules. The
staged file goes away afterwards. -/
namespace HookGate.RuleOutput

structure Processor where
  settings : PostprocessSettings
  environment : Environment
deriving Repr, DecidableEq

namespace Processor

variable {m : Type → Type} [Monad m]

def stagedName : String := "temp_agent_output.txt"

/-- Where the text is staged. -/
def stagingPath (p : Processor) : String :=
  Path.join (Path.join p.environment.projectDir p.settings.workspaceDir) stagedName

/-- What the end of the parser means. -/
def outcomeOf : Except LaunchError Finished → Outcome
  | .ok f =>
    if f.success then { success := true, filesCreated := files f.stdout, testResult := testResult? f.stdout }
    else .failure ("parser failed: " ++ Text.trim f.stderr)
  | .error (.timedOut _) => .failure "parser timed out"
  | .error e => .failure ("execution error: " ++ e.message)

/-- The launch of the parser on a staged file. -/
def parserLaunch (p : Processor) (staged : String) : Launch where
  program := p.settings.parserProgram
  arguments := (p.settings.parserScript.map p.environment.resolve).toList ++ ["--input", staged, "--verbose"]
  directory := some p.environment.projectDir
  vars := if p.settings.autoTest then [("SEMGREP_AUTO_TEST", "true")] else []
  limitSecs := p.settings.timeoutSecs

/-- The parser's script, if one is configured that is not there. -/
def missingScript? (host : Host m) (p : Processor) : m (Option String) :=
  match p.settings.parserScript.map p.environment.resolve with
  | none => return none
  | some script => do return if ← host.isThere script then none else some script

def runParser (host : Host m) (p : Processor) (staged : String) : m Outcome := do
  match ← missingScript? host p with
  | some script => return .failure ("parser script not found: " ++ script)
  | none => return outcomeOf (← host.launch (p.parserLaunch staged))

/-- Writes the text where the parser finds it. -/
def stage (host : Host m) (staged text : String) : m (Except String Unit) := do
  if let some above := Path.parent? staged then
    if let .error e ← host.makeDirectories above then
      return .error ("could not create " ++ above ++ ": " ++ e.message)
  match ← host.writeText staged text with
  | .ok () => return .ok ()
  | .error e => return .error ("could not stage agent output: " ++ e.message)

/-- Removes the staged file, if it is still there. -/
def unstage (host : Host m) (staged : String) : m Unit := do
  if ← host.isThere staged then
    let _ ← host.removeFile staged

def process (host : Host m) (p : Processor) (text : String) : m Outcome := do
  if !isIn text then return .failure "no valid SEMGREP_RULE_OUTPUT block found"
  else match ← stage host p.stagingPath text with
    | .error why => return .failure why
    | .ok () =>
      let outcome ← p.runParser host p.stagingPath
      unstage host p.stagingPath
      return outcome

/-- The report on a text that holds rule output; all others pass in silence. -/
def check (host : Host m) (p : Processor) (text : String) : m Decision := do
  if !isIn text then return .allow "no structured rule output"
  else return .advise [] (← p.process host text).render

end Processor

end HookGate.RuleOutput
