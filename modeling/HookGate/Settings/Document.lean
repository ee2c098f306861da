import HookGate.Settings.Basic
import HookGate.Toml.Reader

/-! # Settings from TOML

A field that is not given keeps its default, and keys that are not known are passed over. A section may also be a list
that gives its fields in order, and a time stands for a section that gives nothing. -/
namespace HookGate

open Toml (Value Error)

/-- How a field of a record is read: its key, and what its value does to the record. -/
structure Field (σ : Type) where
  key : String
  read : σ → Value → Except Error σ

namespace Field

/-- A field of a kind of value. -/
def of {σ α : Type} (decode : Value → Except Error α) (key : String) (put : σ → α → σ) : Field σ :=
  ⟨key, fun s v => (decode v).map (put s)⟩

/-- Reads the fields that are given, each on its own. -/
def decodeRecord {σ : Type} (fields : List (Field σ)) (s : σ) : Value → Except Error σ
  | .table ms => fields.foldlM (fun s f => match ms.lookup f.key with
    | some v => f.read s v
    | none => return s) s
  | .array vs => (fields.zip vs).foldlM (fun s fv => fv.1.read s fv.2) s
  | .time => return s
  | _ => throw (.wrongType "a table")

def text : Value → Except Error String
  | .string s => return s
  | _ => throw (.wrongType "a string")

def flag : Value → Except Error Bool
  | .boolean b => return b
  | _ => throw (.wrongType "a boolean")

def seconds : Value → Except Error Nat
  | .integer (.ofNat n) => return n
  | _ => throw (.wrongType "a number of seconds")

def texts : Value → Except Error (List String)
  | .array vs => vs.mapM text
  | _ => throw (.wrongType "a list of strings")

/-- A priority is its name, which may also be the only key of a table with nothing behind it. -/
def priority (v : Value) : Except Error Priority :=
  let named (s : String) : Except Error Priority := match Priority.ofName? s with
    | some p => return p
    | none => throw (.wrongType "a priority")
  match v with
  | .string s => named s
  | .table [(s, .table [])] => named s
  | .table [(s, .array [])] => named s
  | _ => throw (.wrongType "a priority")

def general : List (Field GeneralSettings) :=
  [of flag "audit_log" fun s b => { s with auditLog := b },
   of text "audit_path" fun s t => { s with auditPath := some t }]

def activation : List (Field ActivationSettings) :=
  [of text "rules_file" fun s t => { s with rulesFile := some t },
   of priority "min_priority" fun s p => { s with minPriority := p },
   of text "action_line" fun s t => { s with actionLine := t }]

def validator : List (Field ValidatorSettings) :=
  [of text "program" fun s t => { s with program := t },
   of text "script" fun s t => { s with script := some t },
   of texts "args" fun s ts => { s with args := ts },
   of seconds "timeout_secs" fun s n => { s with timeoutSecs := n }]

def gate : List (Field GateSettings) :=
  [of text "skip_env_var" fun s t => { s with skipVariable := t },
   of texts "workspace_dirs" fun s ts => { s with workspaceDirs := ts },
   of text "config_file_name" fun s t => { s with configFileName := t },
   of text "docs_path" fun s t => { s with docsPath := t },
   of (decodeRecord validator {}) "validator" fun s v => { s with validator := v }]

def postprocess : List (Field PostprocessSettings) :=
  [of text "parser_program" fun s t => { s with parserProgram := t },
   of text "parser_script" fun s t => { s with parserScript := some t },
   of text "workspace_dir" fun s t => { s with workspaceDir := t },
   of seconds "timeout_secs" fun s n => { s with timeoutSecs := n },
   of flag "auto_test" fun s b => { s with autoTest := b }]

def settings : List (Field Settings) :=
  [of (decodeRecord general {}) "general" fun s v => { s with general := v },
   of (decodeRecord activation {}) "activation" fun s v => { s with activation := v },
   of (decodeRecord gate {}) "gate" fun s v => { s with gate := v },
   of (decodeRecord postprocess {}) "postprocess" fun s v => { s with postprocess := v }]

end Field

namespace Settings

def ofToml? (text : String) : Except Error Settings := do
  Field.decodeRecord Field.settings {} (.table (← Toml.ofText? text))

/-- The settings that are written out for a user to start from: all defaults. -/
def defaultToml : String := Text.joinWith "\n"
  ["",
   "[general]",
   "audit_log = true",
   "audit_path = \"~/.claude/skill-gate/audit.jsonl\"",
   "",
   "[activation]",
   "min_priority = \"low\"",
   "action_line = \"ACTION: Use Skill tool BEFORE responding\"",
   "",
   "[gate]",
   "skip_env_var = \"SKIP_SEMGREP_VALIDATION\"",
   "workspace_dirs = [\"workspace\", \"../workspace\"]",
   "config_file_name = \"config.json\"",
   "docs_path = \".claude/skills/semgrep-execution/SKILL.md\"",
   "",
   "[gate.validator]",
   "program = \"python3\"",
   "script = \"$CLAUDE_PROJECT_DIR/.claude/skills/semgrep-execution/scripts/validate_command.py\"",
   "args = [\"--strict\"]",
   "timeout_secs = 10",
   "",
   "[postprocess]",
   "parser_program = \"python3\"",
   "parser_script = \"$CLAUDE_PROJECT_DIR/scripts/parse_semgrep_agent_output.py\"",
   "workspace_dir = \"workspace\"",
   "timeout_secs = 600",
   "auto_test = true",
   ""]

end Settings

end HookGate
