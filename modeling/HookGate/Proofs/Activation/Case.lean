import HookGate.Activation.Engine
import HookGate.Proofs.Activation.Literal
import HookGate.Proofs.Pattern.Reading
import HookGate.Proofs.Rules.Loading

/-!
# Prompts in any case

Two prompts that differ by the case of ASCII letters have the same lower-case form, also where other
scripts stand between the letters. Where patterns cannot tell them apart either, they record the same
rules and get the same answer.
-/

namespace HookGate

open Text

/-- A rule whose patterns cannot tell apart texts that differ by the case of ASCII letters only. -/
def Rule.IgnoresCase (r : Rule) : Prop := ∀ p ∈ r.intents ++ r.exclusions, p.pattern.IgnoresCase

/-- Rules are compiled to ignore case, unless flags in one of their patterns take that back. -/
theorem RuleDefinition.ignoresCase_compile (name : String) {d : RuleDefinition}
    (h : ∀ source ∈ d.intents ++ d.exclusions, ¬ Pattern.MindsCase source.toList) :
    (d.compile name).1.IgnoresCase := by
  rw [compile_eq]
  intro p hp
  have hp : p ∈ patternsOf (d.intents ++ d.exclusions) := by
    rw [patternsOf, List.filterMap_append]
    exact hp
  obtain ⟨source, hsource, hread⟩ := List.mem_filterMap.mp hp
  cases hcompiled : CompiledPattern.ofSource? source with
  | error e =>
    rw [hcompiled] at hread
    contradiction
  | ok q =>
    rw [hcompiled] at hread
    obtain rfl : q = p := Option.some.inj hread
    exact CompiledPattern.ignoresCase_of_ofSource? hcompiled (h source hsource)

section

variable {x y : String}

theorem Prompt.variants_raw (h : CaseVariants x.toList y.toList) :
    CaseVariants (ofInput x).raw.toList (ofInput y).raw.toList := by
  rw [toList_raw_ofInput, toList_raw_ofInput]
  exact h.trimChars

theorem Prompt.folded_eq (h : CaseVariants x.toList y.toList) : (ofInput x).folded = (ofInput y).folded := by
  rw [← String.toList_inj, toList_folded_ofInput, toList_folded_ofInput, h.trimChars.lowerChars_eq]

theorem Prompt.isEmpty_eq (h : CaseVariants x.toList y.toList) :
    (ofInput x).isEmpty = (ofInput y).isEmpty := by
  have hraw := variants_raw h
  rw [Bool.eq_iff_iff, isEmpty, isEmpty, String.isEmpty_iff, String.isEmpty_iff,
    ← String.toList_eq_nil_iff, ← String.toList_eq_nil_iff, ← List.map_eq_nil_iff (f := Char.toLower),
    hraw, List.map_eq_nil_iff]

variable {r : Rule}

theorem Rule.any_occursIn_eq {ps : List CompiledPattern} (hps : ∀ p ∈ ps, p.pattern.IgnoresCase)
    (h : CaseVariants x.toList y.toList) :
    (ps.any fun p => p.occursIn (Prompt.ofInput x).raw) =
      ps.any fun p => p.occursIn (Prompt.ofInput y).raw := by
  rw [Bool.eq_iff_iff, List.any_eq_true, List.any_eq_true]
  apply exists_congr
  intro p
  apply and_congr_right
  intro hp
  have hone : p.occursIn (Prompt.ofInput x).raw = p.occursIn (Prompt.ofInput y).raw :=
    hps p hp _ _ (Prompt.variants_raw h)
  rw [hone]

theorem Rule.exempts_eq (hr : r.IgnoresCase) (h : CaseVariants x.toList y.toList) :
    r.exempts (.ofInput x) = r.exempts (.ofInput y) := by
  rw [exempts, exempts, Prompt.folded_eq h,
    any_occursIn_eq (fun p hp => hr p (List.mem_append_right _ hp)) h]

theorem Rule.criterion?_eq (hr : r.IgnoresCase) (h : CaseVariants x.toList y.toList) :
    r.criterion? (.ofInput x) = r.criterion? (.ofInput y) := by
  have hintent : r.matchesIntent (.ofInput x) = r.matchesIntent (.ofInput y) :=
    any_occursIn_eq (fun p hp => hr p (List.mem_append_left _ hp)) h
  rw [criterion?, criterion?, hintent, matchesKeywords, matchesKeywords, Prompt.folded_eq h]

theorem evaluate_eq {rules : List Rule} (hrules : ∀ r ∈ rules, r.IgnoresCase)
    (h : CaseVariants x.toList y.toList) : evaluate rules (.ofInput x) = evaluate rules (.ofInput y) := by
  apply List.foldl_ext
  intro m r hr
  rw [Matches.consider, Matches.consider, Rule.exempts_eq (hrules r hr) h,
    Rule.criterion?_eq (hrules r hr) h]

end

/-- Where no pattern tells the cases of ASCII letters apart, two prompts that differ in nothing else
record the same rules and get the same answer. -/
theorem activation_ignores_case (e : ActivationEngine) (hrules : ∀ r ∈ e.rules.rules, r.IgnoresCase)
    (x y : String) (h : CaseVariants x.toList y.toList) :
    e.evaluate x = e.evaluate y ∧ e.activate x = e.activate y := by
  have hevaluate := evaluate_eq hrules h
  refine ⟨hevaluate, ?_⟩
  rw [ActivationEngine.activate, ActivationEngine.activate]
  simp only [Prompt.isEmpty_eq h, hevaluate]

/-- The final form of a sigma behind ASCII letters does not hang on their case. -/
theorem activation_ignores_case_beside_sigma :
    let d : RuleDefinition := { keywords := ["scanς"], intents := ["run\\s+semgrep"] }
    let e : ActivationEngine := { rules := { rules := [(d.compile "scan").1] } }
    let x := "SCANΣ"
    let y := "scanΣ"
    CaseVariants x.toList y.toList ∧ x ≠ y ∧ e.evaluate x = ⟨[("scan", .medium)]⟩ ∧
      e.evaluate x = e.evaluate y ∧ e.activate x = e.activate y := by
  intro d e x y
  have hrule : (d.compile "scan").1.IgnoresCase := by
    apply d.ignoresCase_compile
    intro source hsource
    obtain rfl : source = "run\\s+semgrep" := by simpa [d] using hsource
    exact Pattern.not_mindsCase_of_not_mem (by decide)
  have hrules : ∀ r ∈ e.rules.rules, r.IgnoresCase := by
    intro r hr
    obtain rfl : r = (d.compile "scan").1 := List.mem_singleton.mp hr
    exact hrule
  have hxy : CaseVariants x.toList y.toList := by decide +kernel
  exact ⟨hxy, by decide +kernel, by decide +kernel, activation_ignores_case e hrules x y hxy⟩

end HookGate
