import HookGate.Json.Reader

/-! # Hook input

The JSON object that the host sends: a prompt, a tool call, or the response of a tool. Members that are not known are
passed over, and each of the others may stand once. -/
namespace HookGate

/-- What a tool is called with. -/
inductive ToolInput
  | bash (command : String) (description : Option String)
  | task (prompt : String) (subagentType : Option String)
  | unknown (raw : Json.Value)
deriving Repr

/-- A value with a string command is a shell command, one with a string prompt a task. -/
def ToolInput.ofValue (v : Json.Value) : ToolInput :=
  let text (name : String) : Option String := (v.member? name).bind Json.Value.string?
  match text "command", text "prompt" with
  | some command, _ => .bash command (text "description")
  | none, some prompt => .task prompt (text "subagent_type")
  | none, none => .unknown v

structure HookInput where
  prompt : Option String := none
  toolName : Option String := none
  toolInput : Option ToolInput := none
  toolResponse : Option Json.Value := none
  sessionId : Option String := none
deriving Repr

namespace HookInput

open Json (Reader Value)

/-- The input as far as it is read, and the names of the members that it had. -/
structure Draft where
  seen : List String := []
  input : HookInput := {}

def Draft.readField (depth : Nat) (d : Draft) (name : String) : Reader Draft := do
  let input ← match name with
    | "prompt" => do pure { d.input with prompt := ← Reader.optional Reader.string }
    | "tool_name" => do pure { d.input with toolName := ← Reader.optional Reader.string }
    | "tool_input" => do
      pure { d.input with toolInput := (← Reader.optional (Reader.value depth)).map ToolInput.ofValue }
    | "tool_response" => do pure { d.input with toolResponse := ← Reader.optional (Reader.value depth) }
    | _ => do pure { d.input with sessionId := ← Reader.optional Reader.string }
  return ⟨name :: d.seen, input⟩

/-- The members that are read, in the order in which a list gives them. -/
def fields : List String := ["prompt", "tool_name", "tool_input", "tool_response", "session_id"]

def Draft.readMember (depth : Nat) (d : Draft) (name : String) : Reader Draft := do
  if fields.contains name then
    if d.seen.contains name then Reader.fail (.duplicateField name)
    Reader.colon
    d.readField depth name
  else
    Reader.colon
    Reader.skipValue
    return d

def draftReader (depth : Nat) : Reader.RecordReader Draft where
  name := "HookInput"
  start := {}
  step := Draft.readMember depth
  fields := fields.map fun name d => d.readField depth name

def ofJson? (text : String) : Except Json.Error HookInput :=
  (Reader.run (Reader.record draftReader Reader.maxDepth) text).map Draft.input

def promptText (i : HookInput) : String := i.prompt.getD ""

def toolNameText (i : HookInput) : String := i.toolName.getD ""

/-- The command of a call of the shell tool. -/
def bashCommand? (i : HookInput) : Option String :=
  match i.toolNameText == "Bash", i.toolInput with
  | true, some (.bash command _) => some command
  | _, _ => none

/-- The text of a block: the block itself, or its member `text`. -/
def blockText? : Value → Option String
  | .string s => some s
  | v => (v.member? "text").bind Value.string?

/-- The texts of a response that is a list of blocks, or has one as its member `content`. -/
def blockTexts (response : Value) : List String :=
  (((response.member? "content").getD response).items?.getD []).filterMap blockText?

/-- The text of a tool response: the response itself, the texts of its blocks on lines of their own, or its member
`text` or `output`. -/
def responseText? (i : HookInput) : Option String := do
  let response ← i.toolResponse
  match response with
  | .string s => return s
  | _ =>
    match blockTexts response with
    | [] => ((response.member? "text").bind Value.string?).or ((response.member? "output").bind Value.string?)
    | texts => return Text.joinWith "\n" texts

/-- How many characters of a text a summary keeps. -/
def summaryLength : Nat := 100

/-- One line on what the input is about. -/
def summary (i : HookInput) : String :=
  match i.prompt, i.toolInput with
  | some prompt, _ => "Prompt: " ++ Text.truncate prompt summaryLength
  | none, some (.bash command _) => "Bash: " ++ Text.truncate command summaryLength
  | none, some (.task _ subagentType) => "Task: " ++ subagentType.getD "general-purpose"
  | none, _ => "Unknown tool: " ++ i.toolNameText

end HookInput

end HookGate
