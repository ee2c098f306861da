import Mathlib
import HookGate.Proofs.Hook.Blocking
import HookGate.Proofs.Hook.Disabled
import HookGate.Proofs.Json.Documents
import HookGate.Proofs.RuleOutput.Handover

/-!
# How an agent's text arrives

A text may arrive as it is, or in the response of a tool: as a string, as the member `text` or
`output` of an object, or in a list of one block. What a run shows, and what it hands to the parser,
depends on the text and not on the way in which it arrived.
-/

namespace HookGate

namespace HookInput

open Json (Value RecordText Writes writeList writeObject writeString)
open Json.Reader (given?)

/-! ## Responses that hold one text -/

/-- The text itself, or an object with the text as its member `text`. -/
def IsBlock (text : String) (v : Value) : Prop :=
  v = .string text ∨ v.member? "text" = some (.string text)

/-- Its member `content`, if it has one, is no list of blocks. -/
def Blockless (v : Value) : Prop := ∀ bs, v.member? "content" ≠ some (.array bs)

inductive Carries (text : String) : Value → Prop
  | string : Carries text (.string text)
  | text {v : Value} (hcontent : Blockless v) (h : v.member? "text" = some (.string text)) :
      Carries text v
  | output {v : Value} (hcontent : Blockless v)
      (htext : ∀ s, v.member? "text" ≠ some (.string s))
      (h : v.member? "output" = some (.string text)) : Carries text v
  | content {v b : Value} (h : v.member? "content" = some (.array [b])) (hb : IsBlock text b) :
      Carries text v
  | list {b : Value} (hb : IsBlock text b) : Carries text (.array [b])

variable {text : String}

theorem exists_object_of_member? {v w : Value} {name : String} (h : v.member? name = some w) :
    ∃ ms, v = .object ms := by
  cases v with
  | object ms => exact ⟨ms, rfl⟩
  | null | bool | number | string | array => contradiction

theorem IsBlock.blockText? {b : Value} (h : IsBlock text b) : blockText? b = some text := by
  rcases h with rfl | h
  · rfl
  · obtain ⟨ms, rfl⟩ := exists_object_of_member? h
    simp [HookInput.blockText?, h, Value.string?]

theorem blockTexts_object {ms : List (String × Value)} (h : Blockless (.object ms)) :
    blockTexts (.object ms) = [] := by
  cases hcontent : (Value.object ms).member? "content" with
  | none => simp [blockTexts, hcontent, Value.items?]
  | some v =>
    cases v with
    | array bs => exact absurd hcontent (h bs)
    | null | bool | number | string | object => simp [blockTexts, hcontent, Value.items?]

theorem responseText?_of_carries {i : HookInput} {v : Value} (hi : i.toolResponse = some v)
    (h : Carries text v) : i.responseText? = some text := by
  cases h with
  | string => simp [responseText?, hi]
  | text hcontent h =>
    obtain ⟨ms, rfl⟩ := exists_object_of_member? h
    simp [responseText?, hi, blockTexts_object hcontent, h, Value.string?]
  | output hcontent htext h =>
    obtain ⟨ms, rfl⟩ := exists_object_of_member? h
    have hnone : ((Value.object ms).member? "text").bind Value.string? = none := by
      cases hmember : (Value.object ms).member? "text" with
      | none => rfl
      | some v =>
        cases v with
        | string s => exact absurd hmember (htext s)
        | null | bool | number | array | object => rfl
    simp [responseText?, hi, blockTexts_object hcontent, hnone, h, Value.string?]
  | content h hb =>
    obtain ⟨ms, rfl⟩ := exists_object_of_member? h
    simp [responseText?, hi, blockTexts, h, Value.items?, hb.blockText?, Text.joinWith]
  | list hb =>
    simp [responseText?, hi, blockTexts, Value.member?, Value.items?, hb.blockText?, Text.joinWith]

/-! ## Documents with a response -/

/-- Standard input is an event with this tool response, whatever else it holds. -/
def Responds (stdin : String) (v : Value) : Prop :=
  ∃ ms, RecordText fields (FieldForm fieldDepth) stdin ms ∧ ("tool_response", v) ∈ ms

theorem toolResponse_set (i : HookInput) (m : String × Value) :
    (i.set m).toolResponse = if m.1 = "tool_response" then given? m.2 else i.toolResponse := by
  obtain ⟨name, v⟩ := m
  unfold set
  split <;> simp_all

theorem Carries.given? {v : Value} (h : Carries text v) : given? v = some v := by
  cases h with
  | string | list => rfl
  | text _ h | output _ _ h | content h =>
    obtain ⟨ms, rfl⟩ := exists_object_of_member? h
    rfl

theorem exists_toolResponse_of_responds {stdin : String} {v : Value} (h : Responds stdin v) :
    ∃ i, ofJson? stdin = .ok i ∧ i.toolResponse = given? v := by
  obtain ⟨ms, hms, hmem⟩ := h
  obtain ⟨rest, hrecord, -⟩ := id hms
  exact ⟨ms.foldl set {}, ofJson?_eq_ok.mpr ⟨ms, hms, rfl⟩,
    get_foldl_set toolResponse_set (hrecord.nodup (by decide)) hmem {}⟩

theorem ofJson?_of_responds {stdin : String} {v : Value} (hdoc : Responds stdin v)
    (h : Carries text v) : ∃ i, ofJson? stdin = .ok i ∧ i.responseText? = some text := by
  obtain ⟨i, hread, hresponse⟩ := exists_toolResponse_of_responds hdoc
  exact ⟨i, hread, responseText?_of_carries (hresponse.trans h.given?) h⟩

/-- The object of an event that has nothing but a response. -/
def document (form : String) : String := writeObject [("tool_response", form)]

theorem responds_document {form : String} {v : Value} (h : Writes fieldDepth form v) :
    Responds (document form) v := by
  have hmember : Json.WritesMember fieldDepth ("tool_response", form) ("tool_response", v) := ⟨rfl, h⟩
  obtain ⟨cs, hcs, hwritten⟩ := Json.writtenMembers_writeObject (.cons hmember .nil) []
  have hdocument : (document form).toList = '\x7b' :: cs := by
    rw [← hcs]
    simp [document]
  refine ⟨[("tool_response", v)], ⟨[], ?_, List.forall_mem_nil _⟩, List.mem_singleton_self _⟩
  rw [hdocument]
  have hvalue : "tool_response" ∉ textFields := by decide
  refine .object (Json.Reader.next_cons rfl) (hwritten.members (by simp [fields]) ?_) (List.nodup_singleton _)
  exact List.forall_mem_singleton.mpr fun hv => (fieldForm_value hvalue).mpr hv

end HookInput

/-- The same log, in a world that has something beside it. -/
def AuditLog.beside {W : Type} (L : Type) (log : AuditLog (StateM W)) : AuditLog (StateM (W × L)) :=
  ⟨log.writer?.map fun write line => aside (write line)⟩

theorem AuditLog.record_watched {W : Type} (host : Host (StateM W)) (log : AuditLog (StateM W))
    (entry : AuditEntry) :
    (log.beside _).record host.watched entry = aside (log.record host entry) := by
  obtain ⟨writer⟩ := log
  cases writer with
  | none => rfl
  | some write => exact (aside_bind host.timestamp fun time => write (entry.line time)).symm

namespace Invocation

open RuleOutput (Processor Outcome isIn)
open Sandbox (FileSystem Location Programs)

variable {text : String}

/-- A run of the post-processor that is given a text, raw or in the response of a tool. -/
inductive Delivers (text : String) : Invocation → String → Prop
  | raw {inv : Invocation} (hmode : inv.mode = .postprocess) (hraw : inv.rawText = true) :
      Delivers text inv text
  | response {inv : Invocation} {stdin : String} {v : Json.Value} (hmode : inv.mode = .postprocess)
      (hraw : inv.rawText = false) (hdoc : HookInput.Responds stdin v)
      (h : HookInput.Carries text v) : Delivers text inv stdin

theorem decide_of_responseText? {m : Type → Type} [Monad m] [LawfulMonad m] (host : Host m)
    (s : Settings) (e : Environment) {inv : Invocation} {i : HookInput}
    (hmode : inv.mode = .postprocess) (htext : i.responseText? = some text) (hin : isIn text) :
    inv.decide host s e i = (fun outcome : Outcome => (.advise [] outcome.render, [])) <$>
      (Processor.mk s.postprocess e).process host text := by
  rw [decide, hmode]
  simp [htext, Processor.check, hin]

/-- Whatever way a text with rule output takes, the run comes down to processing it. Only the entry
for the log still tells how the text arrived. -/
theorem Delivers.result_eq {inv : Invocation} {stdin : String} (h : inv.Delivers text stdin)
    (hin : isIn text) :
    ∃ entryOf : Option Outcome → AuditEntry, ∀ {m : Type → Type} [Monad m] [LawfulMonad m]
      (host : Host m) (s : Settings) (e : Environment), inv.result host s e stdin =
        if e.disabled then pure ⟨.neutral, entryOf none⟩
        else (fun outcome => ⟨{ stdout := some outcome.render }, entryOf (some outcome)⟩) <$>
          (Processor.mk s.postprocess e).process host text := by
  cases h with
  | raw hmode hraw =>
    let decisionOf : Option Outcome → Decision
      | none => .allow "disabled"
      | some outcome => .advise [] outcome.render
    refine ⟨fun o => .ofText inv.mode text (decisionOf o) o.isNone, fun host s e => ?_⟩
    rw [result_of_text host s e ⟨hmode, hraw⟩, runText, map_eq_pure_bind]
    rfl
  | response hmode hraw hdoc h =>
    obtain ⟨i, hread, htext⟩ := HookInput.ofJson?_of_responds hdoc h
    let entryOf : Option Outcome → AuditEntry
      | none => .ofInput inv.mode i (.allow "disabled") true
      | some outcome => (AuditEntry.ofInput inv.mode i (.advise [] outcome.render) false).withWarnings []
    refine ⟨entryOf, fun host s e => ?_⟩
    have hevents : inv.ReadsEvents := fun htext => by simp [hraw] at htext
    rw [result_of_ofJson? host s e hevents hread, runInput, decide_of_responseText? host s e hmode htext hin]
    have hsoft (outcome : Outcome) : (if inv.dryRun then (Decision.advise [] outcome.render).softened
        else .advise [] outcome.render) = .advise [] outcome.render := ite_self _
    cases e.disabled with
    | true => rfl
    | false =>
      rw [if_neg Bool.false_ne_true, if_neg Bool.false_ne_true, bind_map_left, map_eq_pure_bind]
      refine bind_congr fun outcome => ?_
      simp only [hsoft]
      rfl

section

variable {W : Type} (s : Settings) (e : Environment)

/-- What is started in a run on a text, however the text arrives. -/
def startsOf (host : Host (StateM W)) (text : String) (w : W) : List (Start W) :=
  if e.disabled then [] else (Processor.mk s.postprocess e).starts host text w

theorem Delivers.run_watched {inv : Invocation} {stdin : String} (h : inv.Delivers text stdin)
    (hin : isIn text) (host : Host (StateM W)) (log : AuditLog (StateM W)) (w : W) :
    runIn (inv.run host.watched s e (log.beside _) stdin) (w, []) =
      let r := runIn (inv.run host s e log stdin) w
      (r.1, (r.2, startsOf s e host text w)) := by
  obtain ⟨entryOf, hresult⟩ := h.result_eq hin
  simp only [run, hresult, startsOf]
  cases e.disabled with
  | true => simp [AuditLog.record_watched, runIn_aside]
  | false => simp [AuditLog.record_watched, runIn_aside, Processor.process_watched]

theorem Delivers.started {inv : Invocation} {stdin : String} (h : inv.Delivers text stdin)
    (hin : isIn text) (host : Host (StateM W)) (log : AuditLog (StateM W)) (w : W) :
    (runIn (inv.run host.watched s e (log.beside _) stdin) (w, [])).2.2 = startsOf s e host text w := by
  rw [h.run_watched s e hin]

theorem Delivers.output_run {inv inv' : Invocation} {stdin stdin' : String}
    (h : inv.Delivers text stdin) (h' : inv'.Delivers text stdin') (hin : isIn text)
    (host : Host (StateM W)) (log log' : AuditLog (StateM W)) (w : W) :
    (runIn (inv.run host s e log stdin) w).1.1 =
      (runIn (inv'.run host s e log' stdin') w).1.1 := by
  obtain ⟨entryOf, hresult⟩ := h.result_eq hin
  obtain ⟨entryOf', hresult'⟩ := h'.result_eq hin
  rw [Invocation.output_run, Invocation.output_run, hresult, hresult']
  cases e.disabled <;> rfl

end

end Invocation

end HookGate
