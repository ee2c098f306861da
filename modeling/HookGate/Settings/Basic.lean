import HookGate.Activation.Report
import HookGate.Rules.Priority

/-! # Settings

What a user can change, section by section, with the values that hold where nothing is given. -/
namespace HookGate

structure GeneralSettings where
  auditLog : Bool := true
  auditPath : Option String := some "~/.claude/skill-gate/audit.jsonl"
deriving Repr, DecidableEq

structure ActivationSettings where
  /-- Where the rules are, if not in the project. -/
  rulesFile : Option String := none
  minPriority : Priority := .low
  actionLine : String := ({} : ReportOptions).actionLine
deriving Repr, DecidableEq

structure ValidatorSettings where
  program : String := "python3"
  script : Option String :=
    some "$CLAUDE_PROJECT_DIR/.claude/skills/semgrep-execution/scripts/validate_command.py"
  args : List String := ["--strict"]
  timeoutSecs : Nat := 10
deriving Repr, DecidableEq

structure GateSettings where
  /-- The variable that lets commands pass unseen. -/
  skipVariable : String := "SKIP_SEMGREP_VALIDATION"
  /-- Where a scan configuration may be, in order of preference. -/
  workspaceDirs : List String := ["workspace", "../workspace"]
  configFileName : String := "config.json"
  docsPath : String := ".claude/skills/semgrep-execution/SKILL.md"
  validator : ValidatorSettings := {}
deriving Repr, DecidableEq

structure PostprocessSettings where
  parserProgram : String := "python3"
  parserScript : Option String := some "$CLAUDE_PROJECT_DIR/scripts/parse_semgrep_agent_output.py"
  workspaceDir : String := "workspace"
  timeoutSecs : Nat := 600
  /-- Whether the parser runs the tests of the rules that it writes. -/
  autoTest : Bool := true
deriving Repr, DecidableEq

structure Settings where
  general : GeneralSettings := {}
  activation : ActivationSettings := {}
  gate : GateSettings := {}
  postprocess : PostprocessSettings := {}
deriving Repr, DecidableEq

end HookGate
