import HookGate.Audit.Redaction
import HookGate.Hook.Decision
import HookGate.Hook.Input
import HookGate.Json.Writer
import HookGate.Settings.Path
import HookGate.System.Host

/-! # Audit entries

One line for each run of a hook: what it was about, what was decided and why. -/
namespace HookGate

/-- The event that a hook answers. -/
inductive Mode
  | activate
  | guard
  | postprocess
deriving Repr, DecidableEq

namespace Mode

def name : Mode → String
  | activate => "activate"
  | guard => "guard"
  | postprocess => "postprocess"

def ofName? : String → Option Mode
  | "activate" | "skill-activation" => some activate
  | "guard" | "semgrep-guard" => some guard
  | "postprocess" | "post-process" => some postprocess
  | _ => none

end Mode

inductive AuditLevel
  | allowed
  | advised
  | blocked
  | warn
  | disabled
  | skipped
  | error
deriving Repr, DecidableEq

namespace AuditLevel

def name : AuditLevel → String
  | allowed => "ALLOWED"
  | advised => "ADVISED"
  | blocked => "BLOCKED"
  | warn => "WARN"
  | disabled => "DISABLED"
  | skipped => "SKIPPED"
  | error => "ERROR"

def ofDecision : Decision → AuditLevel
  | .allow _ => allowed
  | .advise _ _ => advised
  | .block _ => blocked
  | .warn _ => warn

end AuditLevel

/-- An entry without the time at which it is written. -/
structure AuditEntry where
  mode : Mode
  level : AuditLevel
  ruleId : Option String := none
  inputSummary : String := ""
  reason : String
  matched : List String := []
  warnings : List String := []
  sessionId : Option String := none
deriving Repr, DecidableEq

namespace AuditEntry

/-- How many characters of a reason are kept. -/
def reasonLength : Nat := 500

def ofSummary (mode : Mode) (summary : String) (sessionId : Option String) (d : Decision) (disabled : Bool) :
    AuditEntry :=
  { mode
    level := if disabled then .disabled else .ofDecision d
    ruleId := d.ruleId?
    inputSummary := Redaction.redact summary
    reason := Text.truncate (Redaction.redact (if disabled then "SKILL_GATE_DISABLED" else d.reason)) reasonLength
    matched := d.matched
    sessionId }

/-- The entry for a decision on an input; with checks disabled, the decision did not count. -/
def ofInput (mode : Mode) (i : HookInput) (d : Decision) (disabled : Bool) : AuditEntry :=
  ofSummary mode i.summary i.sessionId d disabled

/-- The entry for a decision on a plain text. -/
def ofText (mode : Mode) (text : String) (d : Decision) (disabled : Bool) : AuditEntry :=
  ofSummary mode ("Text: " ++ Text.truncate (Text.trim text) HookInput.summaryLength) none d disabled

/-- The entry for an input on which nothing was decided. -/
def skipped (mode : Mode) (reason : String) : AuditEntry := { mode, level := .skipped, reason }

/-- The entry with warnings; an action that passed in spite of warnings counts as an error. -/
def withWarnings (e : AuditEntry) (warnings : List String) : AuditEntry :=
  { e with
    level := if warnings ≠ [] ∧ e.level = .allowed then .error else e.level
    warnings := e.warnings ++ warnings }

/-- The members of an entry, written as JSON: absent texts and empty lists are left out. -/
def members (timestamp : String) (e : AuditEntry) : List (String × String) :=
  let text (name : String) (s : String) := [(name, Json.writeString s)]
  let text? (name : String) (s : Option String) := (s.map (text name)).getD []
  let texts (name : String) (ss : List String) :=
    if ss = [] then [] else [(name, Json.writeList (ss.map Json.writeString))]
  text "timestamp" timestamp ++ text "mode" e.mode.name ++ text "level" e.level.name ++ text? "rule_id" e.ruleId ++
    text "input_summary" e.inputSummary ++ text "reason" e.reason ++ texts "matched" e.matched ++
    texts "warnings" e.warnings ++ text? "session_id" e.sessionId

/-- The line of an entry, without its end. -/
def line (timestamp : String) (e : AuditEntry) : String := Json.writeObject (e.members timestamp)

end AuditEntry

end HookGate

/-! ## The audit log

One line for each entry, with the time in front. A log that cannot be opened takes entries in silence. -/
namespace HookGate

structure AuditLog (m : Type → Type) where
  writer? : Option (LogWriter m) := none

namespace AuditLog

variable {m : Type → Type} [Monad m]

/-- Opens the log at a path; directories that are missing are made. -/
def open? (host : Host m) : Option String → m (AuditLog m)
  | none => return {}
  | some path => do
    if let some above := Path.parent? path then
      let _ ← host.makeDirectories above
    return ⟨← host.openLog? path⟩

def isOpen (log : AuditLog m) : Bool := log.writer?.isSome

/-- Adds an entry. -/
def record (host : Host m) (log : AuditLog m) (e : AuditEntry) : m (Except SystemError Unit) :=
  match log.writer? with
  | none => return .ok ()
  | some write => do write (e.line (← host.timestamp))

end AuditLog

end HookGate
