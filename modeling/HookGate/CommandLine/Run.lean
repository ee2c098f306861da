import HookGate.CommandLine.Arguments
import HookGate.Settings.Load
import HookGate.Text.Basic

/-! # The program

From arguments, variables and standard input to what is written and the exit code. -/

/-! ## Help

What the program says about itself. -/
namespace HookGate.CommandLine

def versionText : String := "claude-skill-gate 0.1.0\n"

def helpText : String := Text.joinWith "\n"
  ["claude-skill-gate - Skill activation and command validation hooks",
   "",
   "USAGE:",
   "    claude-skill-gate <MODE> [OPTIONS]",
   "",
   "MODES:",
   "    activate                Match the prompt against skill rules (UserPromptSubmit)",
   "    guard                   Validate semgrep docker commands (PreToolUse)",
   "    postprocess             Process rule-engineer agent output (PostToolUse)",
   "",
   "OPTIONS:",
   "    -h, --help              Print this help message",
   "    -v, --version           Print version information",
   "    -c, --config PATH       Path to config file",
   "    -r, --rules PATH        Path to skill rules file (activate)",
   "    -d, --dry-run           Report blocks without blocking",
   "        --text              Read raw agent text instead of hook JSON (postprocess)",
   "",
   "ENVIRONMENT:",
   "    CLAUDE_PROJECT_DIR          Project root (default: current directory)",
   "    SKILL_GATE_RULES            Skill rules file override",
   "    SKILL_GATE_DISABLED=1       Disable all checks (still logs)",
   "    SKIP_SEMGREP_VALIDATION=1   Skip semgrep command validation",
   "",
   "USAGE AS HOOK:",
   "    Configure in .claude/settings.json:",
   "    \x7b",
   "      \"hooks\": \x7b",
   "        \"UserPromptSubmit\": [\x7b \"hooks\": [\x7b",
   "          \"type\": \"command\",",
   "          \"command\": \"claude-skill-gate activate\"",
   "        \x7d] \x7d],",
   "        \"PreToolUse\": [\x7b \"matcher\": \"Bash\", \"hooks\": [\x7b",
   "          \"type\": \"command\",",
   "          \"command\": \"claude-skill-gate guard\"",
   "        \x7d] \x7d]",
   "      \x7d",
   "    \x7d",
   "",
   ""]

end HookGate.CommandLine

/-! ## Running -/

namespace HookGate

/-- What the process writes, text by text, and its exit code. -/
structure ProcessOutput where
  stdout : String := ""
  stderr : String := ""
  exitCode : Nat := 0
deriving Repr, DecidableEq

namespace CommandLine

variable {m : Type → Type} [Monad m]

/-- A text on a line of its own. -/
def lineOf (text : String) : String := text ++ "\n"

/-- What the process writes for a run: warnings stand before the output. -/
def processOutput (warnings : List SettingsWarning) (output : Output) (logged : Except SystemError Unit) :
    ProcessOutput where
  stdout := (output.stdout.map lineOf).getD ""
  stderr := String.join (warnings.map fun w => lineOf w.message) ++
    (match logged with
      | .ok () => ""
      | .error e => lineOf ("Warning: Failed to write audit log: " ++ e.message)) ++
    (output.stderr.map lineOf).getD ""
  exitCode := output.exitCode

/-- Runs a hook with the settings and the log that the arguments and the variables lead to. -/
def runHook (host : Host m) (vs : Variables) (cwd : String) (a : Arguments) (inv : Invocation) (stdin : String) :
    m ProcessOutput := do
  let home := vs.nonempty? "HOME"
  let (settings, warnings) ← Settings.load host home a.configPath
  let log ← AuditLog.open? host (settings.auditPath? home)
  let (output, logged) ← inv.run host settings (.capture settings vs cwd) log stdin
  return processOutput warnings output logged

def run (host : Host m) (vs : Variables) (cwd : String) (args : List String) (stdin : String) : m ProcessOutput :=
  let a := Arguments.ofList args
  match a.invocation? with
  | some inv => runHook host vs cwd a inv stdin
  | none => return { stdout := if a.version then versionText else helpText }

end CommandLine

end HookGate
