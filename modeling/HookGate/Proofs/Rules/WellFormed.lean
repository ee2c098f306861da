import HookGate.Proofs.Activation.Literal
import HookGate.Proofs.Rules.File
import HookGate.Proofs.Text.Blanks

/-!
# No loaded rule says nothing

A phrase without words would match every prompt, and an empty skip start would exempt every prompt.
Neither is ever loaded, whatever a document says. A rule that is left without phrases and intents is
loaded, but never recorded.
-/

namespace HookGate

open Text

/-- The phrase has words, and each of them is a text without blanks. -/
structure KeywordPhrase.WellFormed (k : KeywordPhrase) : Prop where
  tokens_ne_nil : k.tokens ≠ []
  token : ∀ t ∈ k.tokens, t ≠ "" ∧ ∀ c ∈ t.toList, isBlank c = false

namespace KeywordPhrase

theorem wellFormed_of_ofText? {text : String} {k : KeywordPhrase} (h : ofText? text = some k) :
    k.WellFormed := by
  rw [ofText?] at h
  split at h
  · contradiction
  · next hne =>
    obtain rfl := Option.some.inj h
    refine ⟨hne, fun t ht => ?_⟩
    obtain ⟨word, hword, rfl⟩ := List.mem_map.mp ht
    obtain ⟨hnonempty, hsolid⟩ := of_mem_words hword
    exact lower_word hnonempty hsolid

theorem ofText?_of_blank {text : String} (h : isBlankText text = true) : ofText? text = none := by
  rw [ofText?, words_of_blank h]
  rfl

end KeywordPhrase

/-- Each phrase of the rule is well formed, and no skip start is blank. -/
structure Rule.WellFormed (r : Rule) : Prop where
  phrase : ∀ k ∈ r.keywords, k.WellFormed
  skipStart : ∀ s ∈ r.skipStarts, ∃ c ∈ s.toList, isBlank c = false

/-- What makes a rule match by its keywords is a phrase with words, all of which stand in the prompt. -/
theorem Rule.WellFormed.exists_phrase {r : Rule} (h : r.WellFormed) {p : Prompt}
    (hmatch : r.matchesKeywords p = true) :
    ∃ k ∈ r.keywords, k.tokens ≠ [] ∧ ∀ t ∈ k.tokens, t ≠ "" ∧ t.toList <:+: p.folded.toList := by
  obtain ⟨k, hk, hfound⟩ := (r.matchesKeywords_iff p).mp hmatch
  have hphrase := h.phrase k hk
  exact ⟨k, hk, hphrase.tokens_ne_nil, fun t ht => ⟨(hphrase.token t ht).1, hfound t ht⟩⟩

namespace RuleDefinition

variable (name : String) (d : RuleDefinition)

theorem wellFormed_compile : (d.compile name).1.WellFormed where
  phrase k hk := by
    obtain ⟨text, -, htext⟩ := List.mem_filterMap.mp hk
    exact KeywordPhrase.wellFormed_of_ofText? htext
  skipStart s hs := by
    obtain ⟨command, hcommand, rfl⟩ := List.mem_map.mp hs
    have hsolid : isBlankText command = false := by simpa using (List.mem_filter.mp hcommand).2
    obtain ⟨c, hmem, hc⟩ := isBlankText_eq_false.mp hsolid
    rw [lower, String.toList_ofList]
    exact exists_mem_lowerChars hmem hc

/-- Of the commands of a definition only those that are not blank exempt a prompt. -/
theorem exempts_compile_iff (p : Prompt) :
    (d.compile name).1.exempts p = true ↔
      (∃ x ∈ (d.compile name).1.exclusions, x.occursIn p.raw = true) ∨
        ∃ command ∈ d.commands, isBlankText command = false ∧
          (lower command).toList <+: p.folded.toList := by
  rw [Rule.exempts_iff, Rule.Exempt]
  refine or_congr_right ?_
  simp [compile, and_assoc]

variable {name d}

theorem not_hasCriteria_compile (hkeywords : ∀ k ∈ d.keywords, isBlankText k = true)
    (hintents : ∀ source ∈ d.intents, ∀ x, CompiledPattern.ofSource? source ≠ .ok x) :
    (d.compile name).1.hasCriteria = false := by
  have hnoKeyword : d.keywords.filterMap KeywordPhrase.ofText? = [] := by
    rw [List.filterMap_eq_nil_iff]
    intro k hk
    exact KeywordPhrase.ofText?_of_blank (hkeywords k hk)
  have hnoIntent : patternsOf d.intents = [] := by
    rw [patternsOf, List.filterMap_eq_nil_iff]
    intro source hsource
    cases hread : CompiledPattern.ofSource? source with
    | error => rfl
    | ok x => exact absurd hread (hintents source hsource x)
  rw [compile_eq, Rule.hasCriteria, rule, hnoKeyword, hnoIntent]
  rfl

end RuleDefinition

namespace RuleSet

/-- The rules of a text come from the definitions in it, and those of a blank file from none. -/
theorem rules_of_text {text : String} {set : RuleSet}
    (h : ofJson? text = .ok set ∨ ofFileText? text = .ok set) :
    set = empty ∨ ∃ doc, RuleDocument.ofText? text = .ok doc ∧ set = ofDocument doc := by
  have hjson (h : ofJson? text = .ok set) :
      ∃ doc, RuleDocument.ofText? text = .ok doc ∧ set = ofDocument doc := by
    obtain ⟨doc, hdoc, hset⟩ := Json.Reader.map_eq_ok.mp h
    exact ⟨doc, hdoc, hset.symm⟩
  rcases h with h | h
  · exact .inr (hjson h)
  · cases hblank : isBlankText text with
    | true =>
      rw [ofFileText?_of_blank hblank] at h
      exact .inl (Except.ok.inj h).symm
    | false =>
      rw [ofFileText?_of_not_blank hblank] at h
      exact .inr (hjson h)

/-- A document gives each name one definition. -/
theorem value_unique {text : String} {doc : RuleDocument} (hdoc : RuleDocument.ofText? text = .ok doc)
    {name : String} {v v' : Json.Value} (h : (name, v) ∈ doc.entries) (h' : (name, v') ∈ doc.entries) :
    v = v' := by
  obtain ⟨es, -, rfl⟩ := RuleDocument.ofText?_eq_ok.mp hdoc
  have hsame := List.inj_on_of_nodup_map (RuleDocument.nodup_keep es) h h' rfl
  exact (Prod.mk.inj hsame).2

/-- Loaded rules are well formed: a phrase that makes one match has words, a command that exempts a
prompt is not blank, and a rule is never recorded if its keywords are blank and its intents cannot be
read. -/
theorem loaded_wellFormed {text : String} {set : RuleSet}
    (hset : ofJson? text = .ok set ∨ ofFileText? text = .ok set) :
    (∀ r ∈ set.rules, r.WellFormed) ∧
    (∀ r ∈ set.rules, ∀ p, r.matchesKeywords p = true →
      ∃ k ∈ r.keywords, k.tokens ≠ [] ∧ ∀ t ∈ k.tokens, t ≠ "" ∧ t.toList <:+: p.folded.toList) ∧
    (∀ r ∈ set.rules, ∃ doc v d, RuleDocument.ofText? text = .ok doc ∧ (r.name, v) ∈ doc.entries ∧
      RuleDefinition.ofValue? v = .ok d ∧ ∀ p, r.exempts p = true ↔
        (∃ x ∈ r.exclusions, x.occursIn p.raw = true) ∨
          ∃ command ∈ d.commands, isBlankText command = false ∧
            (lower command).toList <+: p.folded.toList) ∧
    ∀ doc name v d, RuleDocument.ofText? text = .ok doc → (name, v) ∈ doc.entries →
      RuleDefinition.ofValue? v = .ok d → (∀ k ∈ d.keywords, isBlankText k = true) →
      (∀ source ∈ d.intents, ∀ x, CompiledPattern.ofSource? source ≠ .ok x) →
      ∀ p, name ∉ (evaluate set.rules p).names := by
  rcases rules_of_text hset with rfl | ⟨doc, hdoc, rfl⟩
  · simp [empty, evaluate, Matches.names]
  have hfrom (r : Rule) (hr : r ∈ (ofDocument doc).rules) := exists_definition_of_mem hr
  have hformed (r : Rule) (hr : r ∈ (ofDocument doc).rules) : r.WellFormed := by
    obtain ⟨v, d, -, -, heq⟩ := hfrom r hr
    rw [heq]
    exact d.wellFormed_compile r.name
  refine ⟨hformed, fun r hr p => (hformed r hr).exists_phrase, fun r hr => ?_, ?_⟩
  · obtain ⟨v, d, hentry, hd, heq⟩ := hfrom r hr
    refine ⟨doc, v, d, hdoc, hentry, hd, fun p => ?_⟩
    rw [heq]
    exact d.exempts_compile_iff r.name p
  · intro doc' name v d hdoc' hentry hd hkeywords hintents
    obtain rfl := Except.ok.inj (hdoc.symm.trans hdoc')
    apply not_mem_names_evaluate
    rintro r hr rfl
    obtain ⟨v', d', hentry', hd', heq⟩ := hfrom r hr
    obtain rfl := value_unique hdoc hentry hentry'
    obtain rfl := Except.ok.inj (hd.symm.trans hd')
    rw [heq]
    exact RuleDefinition.not_hasCriteria_compile hkeywords hintents

/-- A rule whose only keyword is two blanks and whose only intent is an open group. -/
theorem loaded_wellFormed_mute :
    let text := "\x7b\"skills\":\x7b\"mute\":[null,[[\"  \"],[\"(\"]],[[\" \",\"/Help\"]]]\x7d\x7d"
    let d : RuleDefinition := { keywords := ["  "], intents := ["("], commands := [" ", "/Help"] }
    ∃ set, ofJson? text = .ok set ∧ set.rules = [(d.compile "mute").1] ∧
      (d.compile "mute").1.skipStarts = ["/help"] ∧ (d.compile "mute").1.WellFormed ∧
      ∀ p, "mute" ∉ (evaluate set.rules p).names := by
  intro text d
  let v : Json.Value := .array [.null, .array [.array [.string "  "], .array [.string "("]],
    .array [.array [.string " ", .string "/Help"]]]
  have hdoc : RuleDocument.ofText? text = .ok ⟨[("mute", v)]⟩ := by cbv
  have hv : RuleDefinition.ofValue? v = .ok d := by cbv
  have hrules : (ofDocument ⟨[("mute", v)]⟩).rules = [(d.compile "mute").1] := by
    simp [ofDocument, ofEntries, hv]
  have hset : ofJson? text = .ok (ofDocument ⟨[("mute", v)]⟩) := by
    rw [ofJson?, hdoc]
    rfl
  obtain ⟨hformed, -, -, hmute⟩ := loaded_wellFormed (.inl hset)
  have hmem : (d.compile "mute").1 ∈ (ofDocument ⟨[("mute", v)]⟩).rules := by
    rw [hrules]
    exact List.mem_singleton_self _
  have hrefused : (CompiledPattern.ofSource? "(").toOption = none := by decide +kernel
  have hintents : ∀ source ∈ d.intents, ∀ x, CompiledPattern.ofSource? source ≠ .ok x := by
    intro source hsource x hread
    obtain rfl := List.mem_singleton.mp hsource
    simp [hread, Except.toOption] at hrefused
  refine ⟨_, hset, hrules, by decide +kernel, hformed _ hmem, ?_⟩
  exact hmute _ _ v d hdoc (List.mem_singleton_self _) hv (by decide +kernel) hintents

end RuleSet

end HookGate
