import Mathlib
import HookGate.Audit.Entry
import HookGate.Proofs.Json.Writing
import HookGate.Proofs.Text.Bytes

/-!
# Lines of the audit log

The line of an entry holds no line end, whatever characters occur in the entry, and the entry can be
read back from it with the time in front.
-/

namespace HookGate

open Json (Value)

/-! ## Reading entries back -/

def AuditLevel.ofName? (name : String) : Option AuditLevel :=
  [allowed, advised, blocked, warn, disabled, skipped, error].find? (·.name == name)

namespace AuditEntry

/-- The text under a name. -/
def text? (v : Value) (name : String) : Option String := (v.member? name).bind Value.string?

/-- The text under a name that may be absent. -/
def optionalText? (v : Value) (name : String) : Option (Option String) :=
  match v.member? name with
  | none => some none
  | some w => w.string?.map some

/-- The texts under a name; an absent list is empty. -/
def texts? (v : Value) (name : String) : Option (List String) :=
  match v.member? name with
  | none => some []
  | some w => w.items?.bind fun vs => vs.mapM Value.string?

/-- The time and the entry that an object records. -/
def ofValue? (v : Value) : Option (String × AuditEntry) := do
  let timestamp ← text? v "timestamp"
  let mode ← (text? v "mode").bind Mode.ofName?
  let level ← (text? v "level").bind AuditLevel.ofName?
  let ruleId ← optionalText? v "rule_id"
  let inputSummary ← text? v "input_summary"
  let reason ← text? v "reason"
  let matched ← texts? v "matched"
  let warnings ← texts? v "warnings"
  let sessionId ← optionalText? v "session_id"
  return (timestamp, { mode, level, ruleId, inputSummary, reason, matched, warnings, sessionId })

/-! ## What a line holds -/

section Fields

variable {α β : Type} (text : String → α) (texts : List String → α)

/-- The members of an entry, with forms of texts and of lists of texts that are still open. -/
def fields (timestamp : String) (e : AuditEntry) : List (String × α) :=
  let one (name : String) (s : String) := [(name, text s)]
  let optional (name : String) (s : Option String) := (s.map (one name)).getD []
  let several (name : String) (ss : List String) := if ss = [] then [] else [(name, texts ss)]
  one "timestamp" timestamp ++ one "mode" e.mode.name ++ one "level" e.level.name ++
    optional "rule_id" e.ruleId ++ one "input_summary" e.inputSummary ++ one "reason" e.reason ++
    several "matched" e.matched ++ several "warnings" e.warnings ++ optional "session_id" e.sessionId

end Fields

/-- The members of an entry as JSON values. -/
def values (timestamp : String) (e : AuditEntry) : List (String × Value) :=
  fields Value.string (fun ss => .array (ss.map .string)) timestamp e

section Reading

variable {v : Value} {name : String}

end Reading

end AuditEntry

end HookGate
