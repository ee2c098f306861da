import Mathlib
import HookGate.Activation.Engine
import HookGate.Proofs.Activation.Recording
import HookGate.Proofs.Text.Words

/-!
# Which rules a prompt records

The rules that fire on a prompt are recorded in their order, the first of each name only. Whether a
rule fires is a matter between the rule and the prompt.
-/

namespace HookGate

namespace Rule

variable (r : Rule) (p : Prompt)

/-- An exclusion stands in the prompt as it came, or a skip start in front of the folded one. -/
def Exempt : Prop :=
  (∃ x ∈ r.exclusions, x.occursIn p.raw = true) ∨
    ∃ s ∈ r.skipStarts, s.toList <+: p.folded.toList

/-- Every token of some phrase stands in the folded prompt, or an intent in the one that came. -/
def Satisfied : Prop :=
  (∃ k ∈ r.keywords, ∀ t ∈ k.tokens, t.toList <:+: p.folded.toList) ∨
    ∃ x ∈ r.intents, x.occursIn p.raw = true

def Fires : Prop := ¬ r.Exempt p ∧ r.Satisfied p

theorem exempts_iff : r.exempts p = true ↔ r.Exempt p := by
  simp [exempts, Exempt, Text.startsWith_iff]

theorem isSatisfiedBy_iff (k : KeywordPhrase) (folded : String) :
    k.isSatisfiedBy folded = true ↔ ∀ t ∈ k.tokens, t.toList <:+: folded.toList := by
  simp [KeywordPhrase.isSatisfiedBy, Text.contains_iff]

theorem matchesKeywords_iff :
    r.matchesKeywords p = true ↔ ∃ k ∈ r.keywords, ∀ t ∈ k.tokens, t.toList <:+: p.folded.toList := by
  simp [matchesKeywords, isSatisfiedBy_iff]

theorem isSome_criterion?_iff : (r.criterion? p).isSome = true ↔ r.Satisfied p := by
  rw [Satisfied, ← matchesKeywords_iff]
  cases hk : r.matchesKeywords p <;> cases hi : r.matchesIntent p <;>
    simp_all [criterion?, matchesIntent]

instance : Decidable (r.Fires p) :=
  decidable_of_iff (r.exempts p = false ∧ (r.criterion? p).isSome = true) <| by
    rw [Fires, ← exempts_iff, ← isSome_criterion?_iff, Bool.not_eq_true]

variable {r p}

theorem not_satisfied_of_no_criteria (h : r.hasCriteria = false) : ¬ r.Satisfied p := by
  simp_all [hasCriteria, Satisfied]

/-! ## The first rule of each name -/

/-- The rules whose name no earlier one bears. -/
def firsts : List Rule → List Rule
  | [] => []
  | r :: rs => r :: (firsts rs).filter fun q => q.name ≠ r.name

theorem nodup_names_firsts (rs : List Rule) : ((firsts rs).map name).Nodup := by
  induction rs with
  | nil => exact .nil
  | cons r rs ih =>
    rw [firsts, List.map_cons, List.nodup_cons]
    exact ⟨by simp, ih.sublist (List.filter_sublist.map name)⟩

theorem mem_names_firsts (rs : List Rule) (n : String) :
    n ∈ (firsts rs).map name ↔ n ∈ rs.map name := by
  induction rs with
  | nil => rfl
  | cons r rs ih =>
    by_cases h : n = r.name
    · simp [firsts, h]
    · simp only [firsts, List.map_cons, List.mem_cons, h, false_or, ← ih, List.mem_map,
        List.mem_filter, decide_eq_true_eq]
      constructor
      · rintro ⟨q, ⟨hq, -⟩, rfl⟩
        exact ⟨q, hq, rfl⟩
      · rintro ⟨q, hq, rfl⟩
        exact ⟨q, ⟨hq, h⟩, rfl⟩

theorem firsts_eq_self {rs : List Rule} (h : (rs.map name).Nodup) : firsts rs = rs := by
  induction rs with
  | nil => rfl
  | cons r rs ih =>
    obtain ⟨hr, hrs⟩ := List.nodup_cons.mp h
    rw [firsts, ih hrs, List.filter_eq_self.mpr]
    intro q hq
    exact decide_eq_true fun heq => hr (heq ▸ List.mem_map_of_mem hq)

theorem filter_name_eq {rs : List Rule} (h : (rs.map name).Nodup) {r : Rule} (hr : r ∈ rs) :
    (rs.filter fun q => q.name = r.name) = [r] := by
  induction rs with
  | nil => contradiction
  | cons q rs ih =>
    obtain ⟨hq, hrs⟩ := List.nodup_cons.mp h
    rcases List.mem_cons.mp hr with rfl | hr
    · rw [List.filter_cons_of_pos (by simp), List.filter_eq_nil_iff.mpr]
      intro x hx heq
      exact hq (of_decide_eq_true heq ▸ List.mem_map_of_mem hx)
    · have hne : q.name ≠ r.name := fun heq => hq (heq ▸ List.mem_map_of_mem hr)
      rw [List.filter_cons_of_neg (by simpa using hne), ih hrs hr]

/-- What is recorded of a rule. -/
def entry (r : Rule) : String × Priority := (r.name, r.priority)

end Rule

/-! ## Recording what fires -/

namespace Matches

variable {p : Prompt}

theorem consider_eq (m : Matches) (r : Rule) :
    m.consider p r =
      if r.Fires p ∧ r.name ∉ m.names then ⟨m.entries ++ [r.entry]⟩ else m := by
  have hname := contains_iff m r.name
  have hexempt := r.exempts_iff p
  have hsatisfied := r.isSome_criterion?_iff p
  cases hc : m.contains r.name <;> cases he : r.exempts p <;>
    cases hs : (r.criterion? p).isSome <;>
    simp_all [consider, record, recordIfNew, Rule.Fires, Rule.entry]

/-- Considering rules one by one adds the first of each name that fires, where the name is new. -/
theorem entries_foldl_consider (m : Matches) (rules : List Rule) :
    (rules.foldl (consider p) m).entries =
      m.entries ++ ((Rule.firsts (rules.filter fun r => r.Fires p)).filter fun r =>
        r.name ∉ m.names).map Rule.entry := by
  induction rules generalizing m with
  | nil => simp [Rule.firsts]
  | cons r rules ih =>
    rw [List.foldl_cons, ih, consider_eq]
    -- A rule that fires takes its name out of what follows, whether it is recorded now or was before.
    by_cases hf : r.Fires p
    · rw [List.filter_cons_of_pos (by simpa using hf), Rule.firsts]
      by_cases hn : r.name ∈ m.names
      · rw [if_neg (by simp [hn]), List.filter_cons_of_neg (by simp [hn]), List.filter_filter]
        congr 3
        funext q
        by_cases hq : q.name = r.name <;> simp [hq, hn]
      · rw [if_pos ⟨hf, hn⟩, List.filter_cons_of_pos (by simp [hn]), List.filter_filter,
          List.map_cons, List.append_assoc, List.singleton_append]
        have hnames : (⟨m.entries ++ [r.entry]⟩ : Matches).names = m.names ++ [r.name] := by
          simp [names, Rule.entry]
        congr 4
        funext q
        by_cases hq : q.name = r.name <;> simp [hnames, hq]
    · rw [if_neg (fun h => hf h.1), List.filter_cons_of_neg (by simpa using hf)]

end Matches

theorem entries_evaluate (rules : List Rule) (p : Prompt) :
    (evaluate rules p).entries =
      (Rule.firsts (rules.filter fun r => r.Fires p)).map Rule.entry := by
  rw [evaluate, Matches.entries_foldl_consider]
  simp [Matches.names]

theorem names_evaluate (rules : List Rule) (p : Prompt) :
    (evaluate rules p).names = (Rule.firsts (rules.filter fun r => r.Fires p)).map Rule.name := by
  rw [Matches.names, entries_evaluate, List.map_map]
  rfl

/-- A name is not recorded if no rule that bears it has criteria. -/
theorem not_mem_names_evaluate {rules : List Rule} {name : String}
    (h : ∀ r ∈ rules, r.name = name → r.hasCriteria = false) (p : Prompt) :
    name ∉ (evaluate rules p).names := by
  rw [names_evaluate, Rule.mem_names_firsts, List.mem_map]
  rintro ⟨r, hr, hname⟩
  obtain ⟨hmem, hfires⟩ := List.mem_filter.mp hr
  have hsatisfied := (of_decide_eq_true hfires).2
  exact Rule.not_satisfied_of_no_criteria (h r hmem hname) hsatisfied

/-- A rule that does not fire might as well not be there. -/
theorem evaluate_without {r : Rule} {p : Prompt} (before after : List Rule) (h : ¬ r.Fires p) :
    evaluate (before ++ r :: after) p = evaluate (before ++ after) p := by
  have hentries : (evaluate (before ++ r :: after) p).entries =
      (evaluate (before ++ after) p).entries := by
    simp [entries_evaluate, h]
  exact congrArg Matches.mk hentries

/-- Among rules of different names, what is recorded under a name is up to its rule alone. -/
theorem recorded_of_nodup {rules : List Rule} {p : Prompt} (h : (rules.map Rule.name).Nodup)
    {r : Rule} (hr : r ∈ rules) :
    (evaluate rules p).entries.filter (fun e => e.1 = r.name) = (evaluate [r] p).entries := by
  have hfired : ((rules.filter fun q => q.Fires p).map Rule.name).Nodup :=
    h.sublist (List.filter_sublist.map _)
  have halone : (([r].filter fun q => q.Fires p).map Rule.name).Nodup :=
    (List.nodup_singleton r.name).sublist (List.filter_sublist.map _)
  rw [entries_evaluate, entries_evaluate, Rule.firsts_eq_self hfired, Rule.firsts_eq_self halone,
    ← Rule.filter_name_eq h hr, List.filter_map, List.filter_filter, List.filter_filter]
  exact congrArg _ (List.filter_congr fun q _ => Bool.and_comm _ _)

/-- Evaluation records the first rule of each name among those that fire, with its own priority.
Names are recorded once; a rule that is exempt or has no criteria contributes nothing; and what is
recorded of a rule whose name is its own does not depend on the other rules. -/
theorem evaluate_firing (rules : List Rule) (p : Prompt) :
    (evaluate rules p).entries =
      (Rule.firsts (rules.filter fun r => r.Fires p)).map Rule.entry ∧
    (evaluate rules p).names.Nodup ∧
    (∀ n, n ∈ (evaluate rules p).names ↔ ∃ r ∈ rules, r.name = n ∧ r.Fires p) ∧
    (∀ before r after, rules = before ++ r :: after → r.Exempt p ∨ r.hasCriteria = false →
      evaluate rules p = evaluate (before ++ after) p) ∧
    ((rules.map Rule.name).Nodup → ∀ r ∈ rules,
      (evaluate rules p).entries.filter (fun e => e.1 = r.name) = (evaluate [r] p).entries) := by
  refine ⟨entries_evaluate rules p, ?_, fun n => ?_, ?_, fun h r hr => recorded_of_nodup h hr⟩
  · rw [names_evaluate]
    exact Rule.nodup_names_firsts _
  · rw [names_evaluate, Rule.mem_names_firsts]
    simp only [List.mem_map, List.mem_filter, decide_eq_true_eq]
    exact exists_congr fun r => ⟨fun h => ⟨h.1.1, h.2, h.1.2⟩, fun h => ⟨⟨h.1, h.2.2⟩, h.2.1⟩⟩
  · rintro before r after rfl (h | h)
    · exact evaluate_without before after fun hf => hf.1 h
    · exact evaluate_without before after fun hf => Rule.not_satisfied_of_no_criteria h hf.2

end HookGate
