import HookGate.Settings.Basic
import HookGate.Settings.Path

/-! # The environment of a run

What is taken from the process environment once and handed down. -/
namespace HookGate

structure Environment where
  /-- The working directory, from which relative paths count. -/
  cwd : String
  projectDir : String
  rulesOverride : Option String := none
  /-- All checks are off; runs are still recorded. -/
  disabled : Bool := false
  /-- Guarded commands pass unseen. -/
  skipValidation : Bool := false
  home : Option String := none
deriving Repr, DecidableEq

/-- Whether a variable is set to anything but nothing. -/
def isTruthy (value : Option String) : Bool := value.any fun v => !v.isEmpty

/-- The values of variables, where they are set. -/
abbrev Variables := List (String × String)

namespace Variables

def get? (vs : Variables) (name : String) : Option String := vs.lookup name

/-- The value of a variable that is set to anything but nothing. -/
def nonempty? (vs : Variables) (name : String) : Option String := (vs.get? name).filter fun v => !v.isEmpty

end Variables

namespace Environment

/-- The environment of a directory that is the project and the working directory at once. -/
def ofDir (dir : String) : Environment := { cwd := dir, projectDir := dir }

/-- The environment that variables and a working directory describe. -/
def capture (s : Settings) (vs : Variables) (cwd : String) : Environment :=
  { cwd
    projectDir := (vs.nonempty? "CLAUDE_PROJECT_DIR").getD cwd
    rulesOverride := vs.nonempty? "SKILL_GATE_RULES"
    disabled := (vs.get? "SKILL_GATE_DISABLED").isSome
    skipValidation := isTruthy (vs.get? s.gate.skipVariable)
    home := vs.nonempty? "HOME" }

/-- A path with the project directory put in for its variable. -/
def substitute (e : Environment) (p : String) : String :=
  let project := e.projectDir.toList
  let braced := Text.replaceAll "$\x7bCLAUDE_PROJECT_DIR\x7d".toList project p.toList
  String.ofList (Text.replaceAll "$CLAUDE_PROJECT_DIR".toList project braced)

/-- The place that a configured path stands for. -/
def resolve (e : Environment) (p : String) : String :=
  Path.join e.cwd (Path.expandHome e.home (e.substitute p))

end Environment

namespace Settings

/-- Where runs are recorded, if they are. -/
def auditPath? (s : Settings) (home : Option String) : Option String :=
  if s.general.auditLog then s.general.auditPath.map (Path.expandHome home) else none

/-- Where the rules are: the command line decides before the environment, and that before the settings. -/
def rulesPath (s : Settings) (e : Environment) (given : Option String) : String :=
  match given.or e.rulesOverride, s.activation.rulesFile with
  | some p, _ => p
  | none, some p => e.resolve p
  | none, none => Path.join e.projectDir ".claude/skills/skill-rules.json"

end Settings

end HookGate
