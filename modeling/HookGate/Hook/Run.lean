import HookGate.Activation.Engine
import HookGate.Audit.Entry
import HookGate.Gate.Basic
import HookGate.Rules.Load
import HookGate.RuleOutput.Processor

/-! # Running a hook

One event from the text on standard input to the output. Whatever goes wrong ends in silence, in a warning or in a
block, and each run leaves one entry in the audit log. -/
namespace HookGate

/-- What is asked for. -/
structure Invocation where
  mode : Mode
  /-- Warns where it would block. -/
  dryRun : Bool := false
  /-- The input is an agent's text, not an event. -/
  rawText : Bool := false
  rulesPath : Option String := none
deriving Repr, DecidableEq

/-- What a run hands to its host, and what it records. -/
structure RunResult where
  output : Output
  entry : AuditEntry
deriving Repr, DecidableEq

namespace Invocation

variable {m : Type → Type} [Monad m]

/-- Silence for an input that could not be used. -/
def skip (inv : Invocation) (reason : String) : RunResult := ⟨.neutral, .skipped inv.mode reason⟩

/-- Decides on an event, with the warnings of the rules that were used. -/
def decide (host : Host m) (s : Settings) (e : Environment) (inv : Invocation) (i : HookInput) :
    m (Decision × List RuleWarning) :=
  match inv.mode with
  | .activate => do
    let rules ← RuleSet.load host (s.rulesPath e inv.rulesPath)
    let engine : ActivationEngine := ⟨rules, { minPriority := s.activation.minPriority, actionLine := s.activation.actionLine }⟩
    return (engine.activate i.promptText, rules.warnings)
  | .guard => do return (← (CommandGate.ofSettings host s.gate e).check host i, [])
  | .postprocess => do
    return (← (RuleOutput.Processor.mk s.postprocess e).check host (i.responseText?.getD ""), [])

/-- The result for a text that an agent wrote. -/
def runText (host : Host m) (s : Settings) (e : Environment) (inv : Invocation) (text : String) : m RunResult := do
  if e.disabled then
    return ⟨.neutral, .ofText inv.mode text (.allow "disabled") true⟩
  else
    let outcome ← (RuleOutput.Processor.mk s.postprocess e).process host text
    let decision : Decision := .advise [] outcome.render
    return ⟨.ofDecision decision, .ofText inv.mode text decision false⟩

/-- The result for an event. -/
def runInput (host : Host m) (s : Settings) (e : Environment) (inv : Invocation) (i : HookInput) : m RunResult := do
  if e.disabled then
    return ⟨.neutral, .ofInput inv.mode i (.allow "disabled") true⟩
  else
    let (decision, warnings) ← inv.decide host s e i
    let decision := if inv.dryRun then decision.softened else decision
    return ⟨.ofDecision decision,
      (AuditEntry.ofInput inv.mode i decision false).withWarnings (warnings.map RuleWarning.message)⟩

/-- The result for what stands on standard input. -/
def result (host : Host m) (s : Settings) (e : Environment) (inv : Invocation) (stdin : String) : m RunResult :=
  if inv.mode = .postprocess ∧ inv.rawText then inv.runText host s e stdin
  else if Text.isBlankText stdin then return inv.skip "empty input"
  else match HookInput.ofJson? stdin with
    | .error err => return inv.skip ("malformed input: " ++ err.message)
    | .ok i => inv.runInput host s e i

/-- Runs the hook and records the run. The second part tells what kept the entry out of the log. -/
def run (host : Host m) (s : Settings) (e : Environment) (log : AuditLog m) (inv : Invocation) (stdin : String) :
    m (Output × Except SystemError Unit) := do
  let r ← inv.result host s e stdin
  return (r.output, ← log.record host r.entry)

end Invocation

end HookGate
