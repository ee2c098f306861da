import HookGate.Text.Basic

/-! # The message of a block

Why the command was stopped, how to make one that passes, and how to get around the gate. -/
namespace HookGate.Gate

def heavyLine : String := "━━━━━━━━━━━━━━━━━━━━━━━━━━━━━━━━━━━━━━━━━━━━━━━━━━━━━━━━━━━━━━━━━━━━━━"

/-- The commands that make a command which passes. -/
def remediationSteps : List String :=
  ["  # Step 1: resolve paths",
   "  RULES_PATH=$(python scripts/resolve_paths.py --type rules)",
   "  PROJECT_PATH=$(python scripts/resolve_paths.py --type project)",
   "",
   "  # Step 2: generate the standard command",
   "  DOCKER_CMD=$(python scripts/generate_command.py \\",
   "    --project-path \"$PROJECT_PATH\" \\",
   "    --rules-path \"$RULES_PATH\" \\",
   "    --severity WARNING)",
   "",
   "  # Step 3: run it (passes validation)",
   "  eval \"$DOCKER_CMD\""]

structure BlockMessage where
  /-- Why the command is blocked. -/
  detail : String
  skipVariable : String
  docsPath : String
  /-- A command line that checks a command by hand. -/
  recheck : Option String := none
deriving Repr, DecidableEq

namespace BlockMessage

def lines (m : BlockMessage) : List String :=
  ["", heavyLine, "SEMGREP EXECUTION BLOCKED", heavyLine, "",
   "This Semgrep Docker command does not meet the execution requirements and was blocked.", "",
   Text.trimEnd m.detail, "", heavyLine, "Generate the command with the standard scripts instead", heavyLine, ""] ++
  remediationSteps ++ [""] ++
  (match m.recheck with
    | some line => ["Re-check a command by hand:", "  " ++ line, ""]
    | none => []) ++
  ["Documentation: " ++ m.docsPath, "",
   "To skip validation temporarily: export " ++ m.skipVariable ++ "=1", ""]

def render (m : BlockMessage) : String := Text.joinWith "\n" m.lines

end BlockMessage

end HookGate.Gate
