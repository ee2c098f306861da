import Mathlib
import HookGate.Proofs.Activation.Evaluation
import HookGate.Proofs.Text.LowerCase
import HookGate.Rules.Document

/-!
# Keywords and commands as they are written

The words of a keyword are put in lower case by themselves and a prompt is as a whole. A word that
stands in the prompt as it is written is found if its sigmas have the same form in both. The same
goes for a command in front of the prompt.
-/

namespace HookGate

open Text

/-! ## Definitions of loaded rules -/

namespace RuleSet

theorem exists_definition_of_mem {es : List (String × Json.Value)} {rule : Rule}
    (h : rule ∈ (ofEntries es).rules) :
    ∃ v d, (rule.name, v) ∈ es ∧ RuleDefinition.ofValue? v = .ok d ∧
      rule = (d.compile rule.name).1 := by
  induction es with
  | nil => simp [ofEntries] at h
  | cons e es ih =>
    obtain ⟨name, v⟩ := e
    cases hv : RuleDefinition.ofValue? v with
    | error err =>
      obtain ⟨v', d, hmem, hd⟩ := ih (by simpa [ofEntries, hv] using h)
      exact ⟨v', d, List.mem_cons_of_mem _ hmem, hd⟩
    | ok d =>
      simp only [ofEntries, hv, List.mem_cons] at h
      rcases h with rfl | h
      · exact ⟨v, d, List.mem_cons_self, hv, rfl⟩
      · obtain ⟨v', d', hmem, hd'⟩ := ih h
        exact ⟨v', d', List.mem_cons_of_mem _ hmem, hd'⟩

end RuleSet

namespace Prompt

theorem toList_raw_ofInput (input : String) : (ofInput input).raw.toList = trimChars input.toList :=
  String.toList_ofList

theorem toList_folded_ofInput (input : String) :
    (ofInput input).folded.toList = lowerChars (trimChars input.toList) := by
  rw [← toList_raw_ofInput]
  exact String.toList_ofList

end Prompt

/-! ## Words -/

/-- A word is found in a prompt where its sigmas have the form that they have in the word alone. -/
theorem contains_folded_of_agrees {word input : String} {before after : List Char}
    (heq : (trim input).toList = before ++ word.toList ++ after)
    (h : Agrees before word.toList after) :
    contains (Prompt.ofInput input).folded (lower word) = true := by
  rw [trim, String.toList_ofList] at heq
  rw [contains_iff, Prompt.toList_folded_ofInput, heq, lower, String.toList_ofList]
  exact h.infix_lowerChars

/-- A word is found wherever it stands exactly if it is steady. -/
theorem contains_folded_iff_steady {word : String} (hne : word.toList ≠ [])
    (hblank : ∀ c ∈ word.toList, isBlank c = false) :
    (∀ input : String, word.toList <:+: input.toList →
      contains (Prompt.ofInput input).folded (lower word) = true) ↔ Steady word.toList := by
  constructor
  · intro h
    by_contra hsteady
    obtain ⟨before, after, haround, hlost⟩ := exists_lost hsteady
    let cs := before ++ word.toList ++ after
    have hcs : ∀ c ∈ cs, isBlank c = false := by
      intro c hc
      simp only [cs, List.mem_append] at hc
      rcases hc with (hc | hc) | hc
      · exact haround c (List.mem_append_left _ hc)
      · exact hblank c hc
      · exact haround c (List.mem_append_right _ hc)
    have htrim : trimChars cs = cs :=
      trimChars_eq_self (fun c hc => hcs c (List.mem_of_mem_head? hc))
        (fun c hc => hcs c (List.mem_of_mem_getLast? hc))
    have hfound := h (String.ofList cs) (by rw [String.toList_ofList]; exact ⟨before, after, rfl⟩)
    rw [contains_iff, Prompt.toList_folded_ofInput, String.toList_ofList, htrim, lower,
      String.toList_ofList] at hfound
    exact hlost hfound
  · rintro hsteady input ⟨before, after, heq⟩
    have htrim : (trim input).toList = dropBlanks before ++ word.toList ++ dropBlanksEnd after := by
      rw [trim, String.toList_ofList, ← heq]
      exact trimChars_append before after hne (fun c hc => hblank c (List.mem_of_mem_head? hc))
        (fun c hc => hblank c (List.mem_of_mem_getLast? hc))
    exact contains_folded_of_agrees htrim (hsteady.agrees _ _)

/-! ## Commands -/

theorem startsWith_folded_iff {command input : String} {after : List Char}
    (heq : (trim input).toList = command.toList ++ after) :
    startsWith (Prompt.ofInput input).folded (lower command) = true ↔
      Agrees [] command.toList after := by
  rw [trim, String.toList_ofList] at heq
  rw [startsWith_iff, Prompt.toList_folded_ofInput, heq, lower, String.toList_ofList,
    prefix_lowerChars_iff]

/-- A command is found in front of every prompt that it stands in front of exactly if nothing behind
it can change its sigmas. -/
theorem startsWith_folded_iff_steadyInFront {command : String} (hne : command.toList ≠ [])
    (hhead : ∀ c ∈ command.toList.head?, isBlank c = false) :
    (∀ input : String, command.toList <+: (trim input).toList →
      startsWith (Prompt.ofInput input).folded (lower command) = true) ↔
        SteadyInFront command.toList := by
  constructor
  · intro h
    by_contra hsteady
    obtain ⟨x, -, hblank, hcased, -⟩ := exists_letter none
    obtain ⟨input, htrim⟩ : ∃ input : String, (trim input).toList = command.toList ++ [x] := by
      refine ⟨String.ofList (command.toList ++ [x]), ?_⟩
      rw [trim, String.toList_ofList, String.toList_ofList]
      apply trimChars_eq_self
      · rwa [List.head?_append_of_ne_nil _ hne]
      · simpa using hblank
    have hfound := h input ⟨[x], htrim.symm⟩
    exact not_agrees_of_not_steadyInFront hsteady hcased ((startsWith_folded_iff htrim).mp hfound)
  · rintro hsteady input ⟨after, heq⟩
    exact (startsWith_folded_iff heq.symm).mpr (hsteady.agrees after)

/-! ## Rules -/

namespace RuleDefinition

variable {d : RuleDefinition} {name input : String}

theorem matchesKeywords_compile {phrase : String} (hphrase : phrase ∈ d.keywords)
    (hne : words phrase ≠ [])
    (h : ∀ word ∈ words phrase,
      contains (Prompt.ofInput input).folded (lower word) = true) :
    (d.compile name).1.matchesKeywords (Prompt.ofInput input) = true := by
  have hread : KeywordPhrase.ofText? phrase = some ⟨(words phrase).map lower⟩ := by
    cases hwords : words phrase with
    | nil => exact absurd hwords hne
    | cons word rest => simp [KeywordPhrase.ofText?, hwords]
  have hmem : ⟨(words phrase).map lower⟩ ∈ (d.compile name).1.keywords :=
    List.mem_filterMap.mpr ⟨phrase, hphrase, hread⟩
  rw [Rule.matchesKeywords, List.any_eq_true]
  refine ⟨_, hmem, ?_⟩
  simpa [KeywordPhrase.isSatisfiedBy] using h

theorem exempts_compile {command : String} (hcommand : command ∈ d.commands)
    (hblank : isBlankText command = false)
    (h : startsWith (Prompt.ofInput input).folded (lower command) = true) :
    (d.compile name).1.exempts (Prompt.ofInput input) = true := by
  have hmem : lower command ∈ (d.compile name).1.skipStarts :=
    List.mem_map_of_mem (List.mem_filter.mpr ⟨hcommand, by simp [hblank]⟩)
  rw [Rule.exempts, Bool.or_eq_true, List.any_eq_true, List.any_eq_true]
  exact .inr ⟨_, hmem, h⟩

end RuleDefinition

/-- A keyword matches a prompt that each of its words stands in with the same sigmas, and a command
exempts a prompt that it stands in front of with the same sigmas. A word, or a command, is found in
every prompt that it stands in exactly if nothing around it can change a sigma, and so where it has
no capital sigma. -/
theorem literal_recognised {text : String} {set : RuleSet} (hset : RuleSet.ofJson? text = .ok set)
    {rule : Rule} (hrule : rule ∈ set.rules) :
    ∃ doc v d, RuleDocument.ofText? text = .ok doc ∧ (rule.name, v) ∈ doc.entries ∧
      RuleDefinition.ofValue? v = .ok d ∧ rule = (d.compile rule.name).1 ∧
      (∀ phrase ∈ d.keywords, ∀ input : String, words phrase ≠ [] →
        (∀ word ∈ words phrase, ∃ before after,
          (trim input).toList = before ++ word.toList ++ after ∧
            Agrees before word.toList after) →
        rule.matchesKeywords (Prompt.ofInput input) = true) ∧
      (∀ phrase ∈ d.keywords, ∀ word ∈ words phrase,
        (∀ input : String, word.toList <:+: input.toList →
          contains (Prompt.ofInput input).folded (lower word) = true) ↔ Steady word.toList) ∧
      (∀ command ∈ d.commands, ∀ input : String, isBlankText command = false →
        (∃ after, (trim input).toList = command.toList ++ after ∧
          Agrees [] command.toList after) →
        rule.exempts (Prompt.ofInput input) = true) ∧
      (∀ command ∈ d.commands, isBlankText command = false →
        (∀ c ∈ command.toList.head?, isBlank c = false) →
        ((∀ input : String, command.toList <+: (trim input).toList →
          startsWith (Prompt.ofInput input).folded (lower command) = true) ↔
            SteadyInFront command.toList)) ∧
      (∀ cs, 'Σ' ∉ cs → Steady cs ∧ SteadyInFront cs) := by
  obtain ⟨doc, hdoc, rfl⟩ : ∃ doc, RuleDocument.ofText? text = .ok doc ∧
      RuleSet.ofDocument doc = set := by
    cases hdoc : RuleDocument.ofText? text with
    | error err => simp [RuleSet.ofJson?, hdoc, Except.map] at hset
    | ok doc => exact ⟨doc, rfl, by simpa [RuleSet.ofJson?, hdoc, Except.map] using hset⟩
  obtain ⟨v, d, hentry, hd, heq⟩ := RuleSet.exists_definition_of_mem hrule
  refine ⟨doc, v, d, hdoc, hentry, hd, heq, ?_, ?_, ?_, ?_, ?_⟩
  · intro phrase hphrase input hne h
    rw [heq]
    refine RuleDefinition.matchesKeywords_compile hphrase hne fun word hword => ?_
    obtain ⟨before, after, hinput, hagrees⟩ := h word hword
    exact contains_folded_of_agrees hinput hagrees
  · intro phrase _ word hword
    obtain ⟨hnonempty, hblank⟩ := of_mem_words hword
    exact contains_folded_iff_steady hnonempty hblank
  · rintro command hcommand input hblank ⟨after, hinput, hagrees⟩
    rw [heq]
    exact RuleDefinition.exempts_compile hcommand hblank ((startsWith_folded_iff hinput).mpr hagrees)
  · intro command _ hblank hhead
    exact startsWith_folded_iff_steadyInFront (toList_ne_nil_of_not_blank hblank) hhead
  · intro cs hcs
    exact ⟨steady_of_not_mem hcs, (steady_of_not_mem hcs).steadyInFront⟩

/-- A word that ends in a sigma is found between blanks. It is not steady: a letter may follow. -/
theorem literal_recognised_sigma :
    let text := "\x7b\"skills\":\x7b\"word\":\x7b\"promptTriggers\":\x7b\"keywords\":[\"LOGOΣ\"]" ++
      "\x7d\x7d\x7d\x7d"
    let rule : Rule := { name := "word", keywords := [⟨["logoς"]⟩] }
    RuleSet.ofJson? text = .ok { rules := [rule] } ∧
      rule.matchesKeywords (Prompt.ofInput "the LOGOΣ of it") = true ∧
      ¬ Steady "LOGOΣ".toList := by
  intro text rule
  let v : Json.Value := .object
    [("promptTriggers", .object [("keywords", .array [.string "LOGOΣ"])])]
  have hdoc : RuleDocument.ofText? text = .ok ⟨[("word", v)]⟩ := by cbv
  have hv : RuleDefinition.ofValue? v = .ok { keywords := ["LOGOΣ"] } := by cbv
  have hrules : RuleSet.ofDocument ⟨[("word", v)]⟩ = { rules := [rule] } := by decide +kernel
  have hset : RuleSet.ofJson? text = .ok { rules := [rule] } := by
    rw [RuleSet.ofJson?, hdoc, ← hrules]
    rfl
  obtain ⟨doc, v', d, hdoc', hmem, hd, -, hfound, hsteady, -⟩ :=
    literal_recognised hset (List.mem_singleton_self rule)
  obtain rfl := Except.ok.inj (hdoc.symm.trans hdoc')
  obtain rfl : v' = v := (Prod.mk.inj (List.mem_singleton.mp hmem)).2
  obtain rfl := Except.ok.inj (hv.symm.trans hd)
  have hwords : words "LOGOΣ" = ["LOGOΣ"] := by decide +kernel
  refine ⟨hset, hfound "LOGOΣ" (by simp) "the LOGOΣ of it" (by simp [hwords])
    fun word hword => ?_, fun h => ?_⟩
  · obtain rfl : word = "LOGOΣ" := by simpa [hwords] using hword
    exact ⟨"the ".toList, " of it".toList, by decide +kernel,
      (agrees_iff _ _ _).mpr (by decide +kernel)⟩
  · have hfollowed : contains (Prompt.ofInput "LOGOΣA").folded (lower "LOGOΣ") = false := by
      decide +kernel
    have := (hsteady "LOGOΣ" (by simp) "LOGOΣ" (by simp [hwords])).mpr h "LOGOΣA"
      ⟨[], ['A'], by decide +kernel⟩
    rw [hfollowed] at this
    contradiction

/-- The same word before a letter is not found, and as a command it does not exempt the prompt. -/
theorem literal_lost_before_letter :
    let doc : RuleDocument := ⟨[("word", .object
      [("promptTriggers", .object [("keywords", .array [.string "LOGOΣ"])]),
       ("skipConditions", .object [("commands", .array [.string "LOGOΣ"])])])]⟩
    let rule : Rule := { name := "word", keywords := [⟨["logoς"]⟩], skipStarts := ["logoς"] }
    let p := Prompt.ofInput "LOGOΣA"
    RuleSet.ofDocument doc = { rules := [rule] } ∧ "LOGOΣ".toList <+: p.raw.toList ∧
      rule.matchesKeywords p = false ∧ rule.exempts p = false := by
  intro doc rule p
  refine ⟨?_, ?_, ?_, ?_⟩ <;> decide +kernel

end HookGate
