import Mathlib
import HookGate.Proofs.Hook.Delivery
import HookGate.Proofs.Text.Words

/-!
# Responses made of blocks

The text of a response that is a list of blocks has the text of each block on a line of its own. A
marker holds no line feed, so it lies within one line: the post-processor finds in the whole exactly
the markers that one of the texts holds.
-/

namespace HookGate

namespace HookInput

open Json (Value Writes writeList writeString)

/-- The response is a list of these blocks, or has one as its member `content`. -/
def HasBlocks (blocks : List Value) (v : Value) : Prop :=
  v = .array blocks ∨ v.member? "content" = some (.array blocks)

/-- The texts of blocks in their order. A block that has no text is passed over. -/
inductive Texts : List Value → List String → Prop
  | nil : Texts [] []
  | text {b : Value} {t : String} {blocks : List Value} {texts : List String} (hb : IsBlock t b)
      (h : Texts blocks texts) : Texts (b :: blocks) (t :: texts)
  | other {b : Value} {blocks : List Value} {texts : List String} (hb : ∀ t, ¬ IsBlock t b)
      (h : Texts blocks texts) : Texts (b :: blocks) texts

theorem isBlock_iff {t : String} {b : Value} : IsBlock t b ↔ blockText? b = some t := by
  constructor
  · exact IsBlock.blockText?
  · intro h
    cases b with
    | string s => exact .inl (congrArg Value.string (Option.some.inj h))
    | null | bool | number | array => contradiction
    | object ms =>
      obtain ⟨w, hw, hstring⟩ := Option.bind_eq_some_iff.mp h
      cases w with
      | string s => exact .inr (hw.trans (congrArg (some ∘ Value.string) (Option.some.inj hstring)))
      | null | bool | number | array | object => contradiction

theorem texts_iff {blocks : List Value} {texts : List String} :
    Texts blocks texts ↔ blocks.filterMap blockText? = texts := by
  constructor
  · intro h
    induction h with
    | nil => rfl
    | text hb _ ih => rw [List.filterMap_cons_some hb.blockText?, ih]
    | other hb _ ih =>
      have hnone := Option.eq_none_iff_forall_ne_some.mpr fun t => mt isBlock_iff.mpr (hb t)
      rw [List.filterMap_cons_none hnone, ih]
  · rintro rfl
    induction blocks with
    | nil => exact .nil
    | cons b blocks ih =>
      cases hb : blockText? b with
      | none =>
        rw [List.filterMap_cons_none hb]
        exact .other (fun t ht => by simp [ht.blockText?] at hb) ih
      | some t =>
        rw [List.filterMap_cons_some hb]
        exact .text (isBlock_iff.mpr hb) ih

theorem Texts.ne_nil {blocks : List Value} {texts : List String} (h : Texts blocks texts) {b : Value}
    {t : String} (hmem : b ∈ blocks) (hb : IsBlock t b) : texts ≠ [] := by
  have ht : t ∈ texts := texts_iff.mp h ▸ List.mem_filterMap.mpr ⟨b, hmem, hb.blockText?⟩
  exact List.ne_nil_of_mem ht

theorem HasBlocks.given? {blocks : List Value} {v : Value} (h : HasBlocks blocks v) :
    Json.Reader.given? v = some v := by
  rcases h with rfl | h
  · rfl
  · obtain ⟨ms, rfl⟩ := exists_object_of_member? h
    rfl

theorem responseText?_of_texts {i : HookInput} {v : Value} (hi : i.toolResponse = some v)
    {blocks : List Value} (hblocks : HasBlocks blocks v) {texts : List String}
    (htexts : Texts blocks texts) (hne : texts ≠ []) :
    i.responseText? = some (Text.joinWith "\n" texts) := by
  obtain ⟨t, texts, rfl⟩ := List.exists_cons_of_ne_nil hne
  have hof := texts_iff.mp htexts
  rcases hblocks with rfl | h
  · simp [responseText?, hi, blockTexts, Value.member?, Value.items?, hof]
  · obtain ⟨ms, rfl⟩ := exists_object_of_member? h
    simp [responseText?, hi, blockTexts, h, Value.items?, hof]

end HookInput

namespace RuleOutput

section

variable {marker : String} (texts : List String)

/-- Texts on lines of their own hold no marker but those that one of them holds. -/
theorem infix_joinWith_iff (hmarker : marker ∈ [startMarker, endMarker]) :
    marker.toList <:+: (Text.joinWith "\n" texts).toList ↔ ∃ t ∈ texts, marker.toList <:+: t.toList := by
  have hshape : marker ≠ "" ∧ '\n' ∉ marker.toList := by
    revert marker
    decide
  simpa only [Text.contains_iff] using Text.contains_joinWith hshape.1 hshape.2 texts

theorem isIn_joinWith_iff :
    isIn (Text.joinWith "\n" texts) = true ↔
      (∃ t ∈ texts, startMarker.toList <:+: t.toList) ∧ ∃ t ∈ texts, endMarker.toList <:+: t.toList := by
  have hstart : startMarker ∈ [startMarker, endMarker] := List.mem_cons_self
  have hend : endMarker ∈ [startMarker, endMarker] := List.mem_cons_of_mem _ List.mem_cons_self
  rw [isIn, Bool.and_eq_true, Text.contains_iff, Text.contains_iff, infix_joinWith_iff texts hstart,
    infix_joinWith_iff texts hend]

end

end RuleOutput

namespace Invocation

open RuleOutput (Processor isIn startMarker endMarker)

variable {W : Type}

/-- The post-processor reports on a text that holds rule output, and is silent on every other. -/
theorem output_run_of_responseText? (host : Host (StateM W)) (s : Settings) {e : Environment}
    (log : AuditLog (StateM W)) {inv : Invocation} {stdin : String} {i : HookInput} {text : String}
    (w : W) (hmode : inv.mode = .postprocess) (hraw : inv.rawText = false) (he : e.disabled = false)
    (hread : HookInput.ofJson? stdin = .ok i) (htext : i.responseText? = some text) :
    (runIn (inv.run host s e log stdin) w).1.1 =
      if isIn text then
        { stdout := some (runIn ((Processor.mk s.postprocess e).process host text) w).1.render }
      else .neutral := by
  have hevents : inv.ReadsEvents := fun htext => by simp [hraw] at htext
  have hdecide : inv.decide host s e i =
      (·, []) <$> (Processor.mk s.postprocess e).check host text := by
    rw [decide, hmode]
    simp [htext]
  rw [output_run, result_of_ofJson? host s e hevents hread, output_runInput host s e inv i w he, hdecide,
    Processor.check]
  cases hin : isIn text with
  | true => simp [Decision.softened, Output.ofDecision]
  | false => simp [Decision.softened, Output.ofDecision]

/-- A response that is a list of blocks, or has one as its `content`, has a text as soon as one block
has: the texts of the blocks in their order, with line feeds between them. Each marker is in it exactly
if it is in one of the texts, so it holds rule output if some text holds the start marker and some text
the end marker. Then the post-processor reports, and otherwise it is silent. -/
theorem run_of_blocks {stdin : String} {v : Json.Value} {blocks : List Json.Value}
    (hdoc : HookInput.Responds stdin v) (hblocks : HookInput.HasBlocks blocks v)
    (hsome : ∃ b ∈ blocks, ∃ t, HookInput.IsBlock t b) :
    ∃ texts i, (∀ ts, HookInput.Texts blocks ts ↔ ts = texts) ∧
      HookInput.ofJson? stdin = .ok i ∧
      let text := "\n".intercalate texts
      i.responseText? = some text ∧
      (∀ marker ∈ [startMarker, endMarker],
        marker.toList <:+: text.toList ↔ ∃ t ∈ texts, marker.toList <:+: t.toList) ∧
      (isIn text = true ↔
        (∃ t ∈ texts, startMarker.toList <:+: t.toList) ∧
          ∃ t ∈ texts, endMarker.toList <:+: t.toList) ∧
      ∀ {W : Type} (host : Host (StateM W)) (s : Settings) (e : Environment)
        (log : AuditLog (StateM W)) (inv : Invocation) (w : W),
        inv.mode = .postprocess → inv.rawText = false → e.disabled = false →
          (runIn (inv.run host s e log stdin) w).1.1 =
            if isIn text then
              { stdout := some (runIn ((Processor.mk s.postprocess e).process host text) w).1.render }
            else .neutral := by
  obtain ⟨b, hmem, t, hb⟩ := hsome
  obtain ⟨i, hread, hresponse⟩ := HookInput.exists_toolResponse_of_responds hdoc
  have htexts : HookInput.Texts blocks (blocks.filterMap HookInput.blockText?) := HookInput.texts_iff.mpr rfl
  have htext := HookInput.responseText?_of_texts (hresponse.trans hblocks.given?) hblocks htexts
    (htexts.ne_nil hmem hb)
  refine ⟨blocks.filterMap HookInput.blockText?, i, fun ts => ?_, hread, htext, ?_, ?_, ?_⟩
  · rw [HookInput.texts_iff, eq_comm]
  · intro marker hmarker
    exact RuleOutput.infix_joinWith_iff _ hmarker
  · exact RuleOutput.isIn_joinWith_iff _
  · intro W host s e log inv w hmode hraw he
    exact output_run_of_responseText? host s log w hmode hraw he hread htext

/-- The two markers arrive in blocks of their own, with a block between them that has no text. -/
theorem run_of_blocks_apart :
    let apart := Json.Value.ofMembers [("text", .string endMarker)]
    let blocks := [.string startMarker, .null, apart]
    let stdin := HookInput.document (Json.writeList
      [Json.writeString startMarker, "null", Json.writeObject [("text", Json.writeString endMarker)]])
    HookInput.Responds stdin (.array blocks) ∧ HookInput.HasBlocks blocks (.array blocks) ∧
      (∃ b ∈ blocks, ∃ t, HookInput.IsBlock t b) ∧
      ∃ i, HookInput.ofJson? stdin = .ok i ∧
        i.responseText? = some (startMarker ++ "\n" ++ endMarker) ∧
        isIn (startMarker ++ "\n" ++ endMarker) = true := by
  intro apart blocks stdin
  have hnull (n : Nat) : Json.Writes n "null" .null := fun rest =>
    .scalar (Json.Reader.next_cons rfl) (.word .null)
  have hapart : Json.Writes 126 (Json.writeObject [("text", Json.writeString endMarker)]) apart :=
    Json.writes_writeObject (by decide) (.cons ⟨rfl, Json.writes_writeString _ _⟩ .nil)
  have hdoc : HookInput.Responds stdin (.array blocks) :=
    HookInput.responds_document (Json.writes_writeList (by decide)
      (.cons (Json.writes_writeString _ _) (.cons (hnull _) (.cons hapart .nil))))
  have hblock : HookInput.IsBlock endMarker apart := .inr (Json.member?_ofMembers _ _)
  have hsome : ∃ b ∈ blocks, ∃ t, HookInput.IsBlock t b := ⟨_, List.mem_cons_self, startMarker, .inl rfl⟩
  obtain ⟨texts, i, htexts, hread, htext, -, hin, -⟩ := run_of_blocks hdoc (.inl rfl) hsome
  have hthese : HookInput.Texts blocks [startMarker, endMarker] :=
    .text (.inl rfl) (.other (by simp [HookInput.IsBlock, Json.Value.member?]) (.text hblock .nil))
  obtain rfl := (htexts _).mp hthese
  have hboth := hin.mpr ⟨⟨_, List.mem_cons_self, List.infix_rfl⟩,
    _, List.mem_cons_of_mem _ List.mem_cons_self, List.infix_rfl⟩
  exact ⟨hdoc, .inl rfl, hsome, i, hread, htext, hboth⟩

end Invocation

end HookGate
