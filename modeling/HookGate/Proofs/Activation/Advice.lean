import Mathlib
import HookGate.Activation.Engine

/-!
# When advice is given

A report has a group exactly if a recorded rule is as severe as the threshold. The groups are
found tier by tier and the rules were recorded one by one, so the two have to be brought together.
Without a group the engine stays silent, whichever of its checks ends the activation.
-/

namespace HookGate

namespace Priority

theorem mem_all (p : Priority) : p ∈ all := by cases p <;> simp [all]

theorem includes_iff (p threshold : Priority) :
    p.includes threshold = true ↔ p.rank ≤ threshold.rank := by
  simp [includes]

end Priority

namespace Matches

variable (m : Matches)

/-- Some recorded rule is at least as severe as the threshold. -/
def Reaches (threshold : Priority) : Prop := ∃ x ∈ m.entries, x.2.rank ≤ threshold.rank

theorem namesWith_ne_nil_iff (p : Priority) :
    m.namesWith p ≠ [] ↔ ∃ x ∈ m.entries, x.2 = p := by
  simp [namesWith]

theorem not_reaches_of_isEmpty {threshold : Priority} (h : m.isEmpty = true) :
    ¬ m.Reaches threshold := by
  simp_all [isEmpty, Reaches]

end Matches

namespace Report

theorem groups_ne_nil_iff (m : Matches) (threshold : Priority) :
    groups m threshold ≠ [] ↔ m.Reaches threshold := by
  rw [groups, ne_eq, List.filter_eq_nil_iff]
  constructor
  · intro h
    push Not at h
    obtain ⟨group, hgroup, hnames⟩ := h
    obtain ⟨p, hp, rfl⟩ := List.mem_map.mp hgroup
    have hwithin := (p.includes_iff threshold).mp (List.mem_filter.mp hp).2
    obtain ⟨x, hx, rfl⟩ := (m.namesWith_ne_nil_iff p).mp (of_decide_eq_true hnames)
    exact ⟨x, hx, hwithin⟩
  · rintro ⟨x, hx, hrank⟩ h
    have htier : x.2 ∈ Priority.all.filter fun p => p.includes threshold :=
      List.mem_filter.mpr ⟨x.2.mem_all, (x.2.includes_iff threshold).mpr hrank⟩
    have hnames := (m.namesWith_ne_nil_iff x.2).mpr ⟨x, hx, rfl⟩
    exact h (x.2, m.namesWith x.2) (List.mem_map.mpr ⟨x.2, htier, rfl⟩) (decide_eq_true hnames)

theorem render?_eq_none_iff (m : Matches) (o : ReportOptions) :
    render? m o = none ↔ ¬ m.Reaches o.minPriority := by
  rw [← groups_ne_nil_iff, not_not, render?]
  cases groups m o.minPriority <;> simp

end Report

namespace ActivationEngine

variable (e : ActivationEngine) (input : String)

/-- Something is asked, and a rule that is severe enough is recorded on it. -/
structure Advises : Prop where
  asked : Text.trim input ≠ ""
  reaches : (e.evaluate input).Reaches e.options.minPriority

variable {e input}

theorem isEmpty_ofInput : (Prompt.ofInput input).isEmpty = true ↔ Text.trim input = "" :=
  String.isEmpty_iff

theorem activate_of_advises (h : e.Advises input) :
    ∃ report, Report.render? (e.evaluate input) e.options = some report ∧
      e.activate input = .advise (e.evaluate input).names report := by
  have hasked : (Prompt.ofInput input).isEmpty = false := by
    rw [Bool.eq_false_iff, ne_eq, isEmpty_ofInput]
    exact h.asked
  have hmatched : (e.evaluate input).isEmpty = false :=
    Bool.eq_false_iff.mpr fun hnone => Matches.not_reaches_of_isEmpty _ hnone h.reaches
  have hrules : e.rules.rules.isEmpty = false := by
    rw [List.isEmpty_eq_false_iff]
    rintro hnone
    simp [ActivationEngine.evaluate, HookGate.evaluate, hnone, Matches.isEmpty] at hmatched
  cases hreport : Report.render? (e.evaluate input) e.options with
  | none => exact absurd h.reaches ((Report.render?_eq_none_iff _ _).mp hreport)
  | some report =>
    refine ⟨report, rfl, ?_⟩
    unfold ActivationEngine.evaluate at hmatched hreport
    simp [activate, hasked, hrules, hmatched, hreport, ActivationEngine.evaluate]

theorem activate_of_not_advises (h : ¬ e.Advises input) :
    ∃ reason, e.activate input = .allow reason := by
  by_cases hasked : Text.trim input = ""
  · exact ⟨"empty prompt", if_pos (isEmpty_ofInput.mpr hasked)⟩
  have hreport : Report.render? (e.evaluate input) e.options = none :=
    (Report.render?_eq_none_iff _ _).mpr fun hreaches => h ⟨hasked, hreaches⟩
  unfold ActivationEngine.evaluate at hreport
  simp only [activate, hreport]
  repeat' split
  all_goals exact ⟨_, rfl⟩

theorem isAdvise_activate_iff : (e.activate input).isAdvise = true ↔ e.Advises input := by
  by_cases h : e.Advises input
  · obtain ⟨report, -, hdecision⟩ := activate_of_advises h
    simp [hdecision, Decision.isAdvise, h]
  · obtain ⟨reason, hdecision⟩ := activate_of_not_advises h
    simp [hdecision, Decision.isAdvise, h]

/-- An engine advises exactly if it is asked something and a recorded rule reaches the threshold. It
then names all rules that were recorded, and shows the report on them. Otherwise it allows, in
silence and with exit code 0. -/
theorem activate_advice (e : ActivationEngine) (input : String) :
    let m := e.evaluate input
    let decision := e.activate input
    (decision.isAdvise = true ↔ Text.trim input ≠ "" ∧
      ∃ x ∈ m.entries, x.2.rank ≤ e.options.minPriority.rank) ∧
    (decision.isAdvise = true →
      ∃ report, Report.render? m e.options = some report ∧ decision = .advise m.names report) ∧
    (decision.isAdvise = false → (∃ reason, decision = .allow reason) ∧
      Output.ofDecision decision = { stdout := none, stderr := none, exitCode := 0 }) := by
  intro m decision
  have hiff : decision.isAdvise = true ↔ e.Advises input := isAdvise_activate_iff
  refine ⟨?_, fun hadvise => activate_of_advises (hiff.mp hadvise), fun hnot => ?_⟩
  · rw [hiff]
    exact ⟨fun h => ⟨h.asked, h.reaches⟩, fun ⟨hasked, hreaches⟩ => ⟨hasked, hreaches⟩⟩
  · obtain ⟨reason, hdecision⟩ : ∃ reason, decision = .allow reason :=
      activate_of_not_advises (hiff.not.mp (by simp [hnot]))
    exact ⟨⟨reason, hdecision⟩, by rw [hdecision, Output.ofDecision, Output.neutral]⟩

end ActivationEngine

end HookGate
