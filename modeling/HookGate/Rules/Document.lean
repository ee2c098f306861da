import HookGate.Json.Reader
import HookGate.Rules.RuleSet

/-! # Rule documents

A JSON object whose member `skills` maps names of rules to their definitions. Members that are not known are passed
over. The order of names is the order in which they first stand in the text; the last definition of a name counts. -/
namespace HookGate

/-- The definitions by name, in order. -/
structure RuleDocument where
  entries : List (String × Json.Value) := []
deriving Repr

namespace RuleDocument

/-- Gives a name its definition, in the place of an earlier one if there is one. -/
def put (name : String) (v : Json.Value) : List (String × Json.Value) → List (String × Json.Value)
  | [] => [(name, v)]
  | (n, w) :: es => if n = name then (n, v) :: es else (n, w) :: put name v es

open Json (Reader)

def entriesWanted : String := "a map of rule name to rule definition"

/-- Reads the definition of a name. -/
def readEntry (depth : Nat) (es : List (String × Json.Value)) (name : String) :
    Reader (List (String × Json.Value)) := do
  Reader.colon
  return put name (← Reader.value depth) es

/-- Reads the definitions; `null` holds none. -/
def readEntries (depth : Nat) : Reader (List (String × Json.Value)) := do
  match ← Reader.peekToken with
  | none => Reader.fail .endInValue
  | some c =>
    match ← Reader.scalar? c with
    | some .null => return []
    | some v => Reader.fail (.wrongType (.ofValue v) entriesWanted)
    | none =>
      if c = '[' then
        let _ ← Reader.enter depth
        Reader.fail (.wrongType .sequence entriesWanted)
      else if c = '\x7b' then
        let depth ← Reader.enter depth
        Reader.advance
        let entries ← Reader.foldMembers (readEntry depth) []
        Reader.objectEnd
        return entries
      else Reader.fail .expectedValue

/-- Reads a member of the document; `none` stands for a document whose member `skills` is still to come. -/
def readMember (depth : Nat) (seen : Option RuleDocument) (name : String) : Reader (Option RuleDocument) := do
  if name = "skills" then
    if seen.isSome then Reader.fail (.duplicateField name)
    Reader.colon
    return some ⟨← readEntries depth⟩
  else
    Reader.colon
    Reader.skipValue
    return seen

def recordReader (depth : Nat) : Reader.RecordReader (Option RuleDocument) where
  name := "RuleFile"
  start := none
  step := readMember depth
  fields := [fun _ => do return some ⟨← readEntries depth⟩]

def ofText? (text : String) : Except Json.Error RuleDocument :=
  (Reader.run (Reader.record recordReader Reader.maxDepth) text).map fun d => d.getD {}

end RuleDocument

/-- What a document says about a rule, before its patterns are read. -/
structure RuleDefinition where
  priority : Priority := .medium
  keywords : List String := []
  intents : List String := []
  exclusions : List String := []
  commands : List String := []
deriving Repr, DecidableEq

namespace RuleDefinition

open Json (Value)

/-- Decodes a record: the members of an object in the order of their names, or the items of a list that gives the
fields in order. -/
def decodeRecord {σ : Type} (name : String) (fields : List String) (step : σ → String → Value → Except Json.Error σ)
    (start : σ) : Value → Except Json.Error σ
  | .object ms => ms.foldlM (fun s m => step s m.1 m.2) start
  | .array vs => do
    let s ← (fields.zip vs).foldlM (fun s f => step s f.1 f.2) start
    if fields.length < vs.length then throw (.wrongLength vs.length "fewer elements in array") else return s
  | v => throw (.wrongType (.ofValue v) ("struct " ++ name))

def decodeString : Value → Except Json.Error String
  | .string s => return s
  | v => throw (.wrongType (.ofValue v) "a string")

def decodeStrings : Value → Except Json.Error (List String)
  | .array vs => vs.mapM decodeString
  | v => throw (.wrongType (.ofValue v) "a sequence")

/-- A priority that cannot be read is the middle one. -/
def decodePriority (v : Value) : Priority := (v.string?.bind Priority.parse?).getD .medium

def triggerStep (d : RuleDefinition) (name : String) (v : Value) : Except Json.Error RuleDefinition :=
  match name with
  | "keywords" => return { d with keywords := ← decodeStrings v }
  | "intentPatterns" => return { d with intents := ← decodeStrings v }
  | "excludePatterns" => return { d with exclusions := ← decodeStrings v }
  | _ => return d

def skipStep (d : RuleDefinition) (name : String) (v : Value) : Except Json.Error RuleDefinition :=
  match name with
  | "commands" => return { d with commands := ← decodeStrings v }
  | _ => return d

def step (d : RuleDefinition) (name : String) (v : Value) : Except Json.Error RuleDefinition :=
  match name with
  | "priority" => return { d with priority := decodePriority v }
  | "promptTriggers" =>
    decodeRecord "PromptTriggers" ["keywords", "intentPatterns", "excludePatterns"] triggerStep d v
  | "skipConditions" => decodeRecord "SkipConditions" ["commands"] skipStep d v
  | _ => return d

def ofValue? (v : Value) : Except Json.Error RuleDefinition :=
  decodeRecord "RuleDefinition" ["priority", "promptTriggers", "skipConditions"] step {} v

/-- Reads patterns; those that cannot be read become warnings. -/
def compilePatterns (rule : String) : List String → List CompiledPattern × List RuleWarning
  | [] => ([], [])
  | s :: ss =>
    let (ps, ws) := compilePatterns rule ss
    match CompiledPattern.ofSource? s with
    | .ok p => (p :: ps, ws)
    | .error e => (ps, .badPattern rule s e :: ws)

/-- The rule of a definition, with a warning for each pattern that was left out. -/
def compile (name : String) (d : RuleDefinition) : Rule × List RuleWarning :=
  let (intents, w₁) := compilePatterns name d.intents
  let (exclusions, w₂) := compilePatterns name d.exclusions
  ({ name
     priority := d.priority
     keywords := d.keywords.filterMap KeywordPhrase.ofText?
     intents
     exclusions
     skipStarts := (d.commands.filter fun c => !Text.isBlankText c).map Text.lower }, w₁ ++ w₂)

end RuleDefinition

namespace RuleSet

/-- The rules of the definitions; one that has not the shape of a rule becomes a warning. -/
def ofEntries : List (String × Json.Value) → RuleSet
  | [] => {}
  | (name, v) :: es =>
    let rest := ofEntries es
    match RuleDefinition.ofValue? v with
    | .ok d =>
      let (rule, warnings) := d.compile name
      ⟨rule :: rest.rules, warnings ++ rest.warnings⟩
    | .error e => ⟨rest.rules, .badShape name e :: rest.warnings⟩

def ofDocument (d : RuleDocument) : RuleSet := ofEntries d.entries

/-- The rules of a JSON text. -/
def ofJson? (text : String) : Except Json.Error RuleSet := (RuleDocument.ofText? text).map ofDocument

/-- The rules of the text of a rule file; a blank file holds none. -/
def ofFileText? (text : String) : Except Json.Error RuleSet :=
  if Text.isBlankText text then return empty else ofJson? text

end RuleSet

end HookGate
