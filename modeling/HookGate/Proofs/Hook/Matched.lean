import Mathlib
import HookGate.Proofs.Activation.Advice
import HookGate.Proofs.Hook.Course
import HookGate.Proofs.System.World

/-!
# What the log tells of an activation

An entry names the rules that were recorded where advice was given. Where the threshold keeps the
engine silent the entry names none of them.
-/

namespace HookGate

@[simp] theorem Decision.matched_softened (d : Decision) : d.softened.matched = d.matched := by
  cases d <;> rfl

namespace ActivationEngine

variable {e : ActivationEngine} {input : String}

theorem matched_of_advises (h : e.Advises input) :
    (e.activate input).matched = (e.evaluate input).names := by
  obtain ⟨report, -, hdecision⟩ := activate_of_advises h
  rw [hdecision, Decision.matched]

theorem matched_of_not_advises (h : ¬ e.Advises input) : (e.activate input).matched = [] := by
  obtain ⟨reason, hdecision⟩ := activate_of_not_advises h
  rw [hdecision]
  rfl

end ActivationEngine

namespace Invocation

variable {W : Type} (host : Host (StateM W)) (s : Settings) (e : Environment) (inv : Invocation)

/-- An event is read, and hooks are to advise on it. -/
structure Activates (stdin : String) (i : HookInput) : Prop where
  activates : inv.mode = .activate
  enabled : e.disabled = false
  given : Text.isBlankText stdin = false
  read : HookInput.ofJson? stdin = .ok i

/-- The engine with the rules that a run loads. -/
def engine (w : W) : ActivationEngine where
  rules := (runIn (RuleSet.load host (s.rulesPath e inv.rulesPath)) w).1
  options := { minPriority := s.activation.minPriority, actionLine := s.activation.actionLine }

theorem matched_runInput (i : HookInput) (w : W) (hmode : inv.mode = .activate)
    (henabled : e.disabled = false) :
    (runIn (inv.runInput host s e i) w).1.entry.matched =
      ((inv.engine host s e w).activate i.promptText).matched := by
  cases hdry : inv.dryRun <;>
    simp [runInput, decide, hmode, henabled, hdry, AuditEntry.ofInput, AuditEntry.ofSummary,
      AuditEntry.withWarnings, engine]

theorem result_of_activates {stdin : String} {i : HookInput} (h : inv.Activates e stdin i) :
    inv.result host s e stdin = inv.runInput host s e i :=
  result_of_event host s e (fun hraw => by simp [h.activates] at hraw) h.given h.read

theorem matched_result {stdin : String} {i : HookInput} (h : inv.Activates e stdin i) (w : W) :
    (runIn (inv.result host s e stdin) w).1.entry.matched =
      ((inv.engine host s e w).activate i.promptText).matched := by
  rw [result_of_activates host s e inv h, matched_runInput host s e inv i w h.activates h.enabled]

/-- The entry of an activation on a prompt names all rules that were recorded if one of them reaches
the threshold. If none does it names no rule, and so hides those that were recorded. -/
theorem run_matched {stdin : String} {i : HookInput} (h : inv.Activates e stdin i)
    (hprompt : Text.trim i.promptText ≠ "") (log : AuditLog (StateM W)) (w : W) :
    let recorded := (inv.engine host s e w).evaluate i.promptText
    let r := runIn (inv.result host s e stdin) w
    (runIn (inv.run host s e log stdin) w).1.2 = (runIn (log.record host r.1.entry) r.2).1 ∧
    (recorded.Reaches s.activation.minPriority → r.1.entry.matched = recorded.names) ∧
    (¬ recorded.Reaches s.activation.minPriority → r.1.entry.matched = []) ∧
    (r.1.entry.matched = recorded.names ↔
      recorded.names = [] ∨ recorded.Reaches s.activation.minPriority) := by
  intro recorded r
  have hreached (hreaches : recorded.Reaches s.activation.minPriority) :
      r.1.entry.matched = recorded.names := by
    rw [matched_result host s e inv h w, ActivationEngine.matched_of_advises ⟨hprompt, hreaches⟩]
  have hunreached (hnot : ¬ recorded.Reaches s.activation.minPriority) :
      r.1.entry.matched = [] := by
    rw [matched_result host s e inv h w, ActivationEngine.matched_of_not_advises fun ha => hnot ha.reaches]
  refine ⟨by simp [run, r], hreached, hunreached, fun heq => ?_, ?_⟩
  · by_cases hreaches : recorded.Reaches s.activation.minPriority
    · exact .inr hreaches
    · exact .inl (heq ▸ hunreached hreaches)
  · rintro (hnone | hreaches)
    · have hnot : ¬ recorded.Reaches s.activation.minPriority := by
        rintro ⟨x, hx, -⟩
        rw [Matches.names, List.map_eq_nil_iff] at hnone
        simp [hnone] at hx
      rw [hunreached hnot, hnone]
    · exact hreached hreaches

/-- A rule below the threshold is recorded, and the entry does not name it. -/
theorem run_matched_below :
    let rules := "\x7b\"skills\":\x7b\"code-review\":\x7b\"priority\":\"low\"," ++
      "\"promptTriggers\":\x7b\"keywords\":[\"review\"]\x7d\x7d\x7d\x7d"
    let stdin := "\x7b\"prompt\":\"review this\"\x7d"
    let s : Settings := { activation := { minPriority := .high } }
    let e := Environment.ofDir "/project"
    let inv : Invocation := { mode := .activate }
    let i : HookInput := { prompt := some "review this" }
    let recorded := (inv.engine (Host.holding rules) s e ()).evaluate i.promptText
    inv.Activates e stdin i ∧ Text.trim i.promptText ≠ "" ∧ recorded.names = ["code-review"] ∧
      (runIn (inv.result (Host.holding rules) s e stdin) ()).1.entry.matched = [] := by
  intro rules stdin s e inv i recorded
  have hactivates : inv.Activates e stdin i :=
    { activates := rfl
      enabled := rfl
      given := by decide +kernel
      read := by cbv }
  have hprompt : Text.trim i.promptText ≠ "" := by decide +kernel
  have hrecorded : recorded = ⟨[("code-review", .low)]⟩ := by decide +kernel
  have hbelow : ¬ recorded.Reaches .high := by simp [hrecorded, Matches.Reaches, Priority.rank]
  refine ⟨hactivates, hprompt, by rw [hrecorded]; rfl, ?_⟩
  exact (run_matched (Host.holding rules) s e inv hactivates hprompt {} ()).2.2.1 hbelow

end Invocation

end HookGate
