import Mathlib
import HookGate.Proofs.Hook.Course
import HookGate.Proofs.System.World

/-!
# What stops an action

A run ends with exit code 2 exactly where nothing is switched off and the validator objects to a
guarded command that it was shown. Every other run lets the action pass. The outside world is a
state of any type: the host's answers depend on it and may change it.
-/

namespace HookGate

variable {W : Type}

/-- What came of showing a command to the validator, with the world in which that ended. -/
structure Consultation (W : Type) where
  config : Option String
  verdict : Verdict
  world : W

namespace CommandGate

variable (host : Host (StateM W)) (g : CommandGate (StateM W))

/-- Looks for the configuration, and shows it to the validator together with the command. -/
def consult (command : String) (w : W) : Consultation W :=
  let found := runIn (Gate.findConfig? host g.environment g.settings.configFileName
    g.settings.workspaceDirs) w
  let judged := runIn (g.validator.judge command found.1) found.2
  { config := found.1, verdict := judged.1, world := judged.2 }

/-- The message on the objection to a command, with the way to ask the validator again. -/
def messageOf (command : String) (w : W) : Gate.BlockMessage :=
  let c := g.consult host command w
  { detail := c.verdict.detail
    skipVariable := g.settings.skipVariable
    docsPath := g.settings.docsPath
    recheck := (runIn (g.validator.invocation? command c.config) c.world).1 }

/-- The block for the objection to a command. -/
def blockOf (command : String) (w : W) : Decision :=
  .block
    { ruleId
      reason := Text.trim (g.consult host command w).verdict.detail
      message := (g.messageOf host command w).render }

theorem output_blockOf (command : String) (w : W) :
    Output.ofDecision (g.blockOf host command w) =
      { stderr := some (g.messageOf host command w).render, exitCode := 2 } := by
  simp only [blockOf, Output.ofDecision]

/-- Whether the gate stops a command. -/
structure Stops (command : String) (w : W) : Prop where
  guarded : Gate.isGuarded command = true
  validating : g.environment.skipValidation = false
  objected : (g.consult host command w).verdict.passed = false

theorem runIn_evaluate (command : String) (w : W) :
    runIn (g.evaluate host command) w =
      if Gate.isGuarded command = false then (.idle, w)
      else if g.environment.skipValidation = true then (.allowed, w)
      else
        let c := g.consult host command w
        (if c.verdict.passed then .valid else .invalid c.verdict.detail c.config, c.world) := by
  cases hg : Gate.isGuarded command with
  | false => simp [evaluate, hg]
  | true =>
    cases hs : g.environment.skipValidation with
    | true => simp [evaluate, hg, hs]
    | false =>
      simp only [evaluate, hg, hs, Bool.not_true, Bool.true_eq_false, Bool.false_eq_true, if_false,
        runIn_bind, runIn_pure]
      rfl

theorem checkCommand_of_stops {command : String} {w : W} (h : g.Stops host command w) :
    (runIn (g.checkCommand host command) w).1 = g.blockOf host command w := by
  simp [checkCommand, runIn_evaluate, h.guarded, h.validating, h.objected, blockOf,
    messageOf, block]

theorem isAllow_checkCommand {command : String} {w : W} (h : ¬ g.Stops host command w) :
    (runIn (g.checkCommand host command) w).1.isAllow = true := by
  cases hg : Gate.isGuarded command with
  | false => simp [checkCommand, runIn_evaluate, hg, Decision.isAllow]
  | true =>
    cases hs : g.environment.skipValidation with
    | true => simp [checkCommand, runIn_evaluate, hg, hs, Decision.isAllow]
    | false =>
      cases hv : (g.consult host command w).verdict.passed with
      | false => exact absurd ⟨hg, hs, hv⟩ h
      | true => simp [checkCommand, runIn_evaluate, hg, hs, hv, Decision.isAllow]

theorem check_of_stops {i : HookInput} {command : String} {w : W}
    (hi : i.bashCommand? = some command) (hblank : Text.isBlankText command = false)
    (h : g.Stops host command w) :
    (runIn (g.check host i) w).1 = g.blockOf host command w := by
  simp only [check, hi, hblank, Bool.false_eq_true, if_false]
  exact checkCommand_of_stops host g h

theorem isAllow_check {i : HookInput} {w : W}
    (h : ∀ command, i.bashCommand? = some command → Text.isBlankText command = false →
      ¬ g.Stops host command w) :
    (runIn (g.check host i) w).1.isAllow = true := by
  cases hi : i.bashCommand? with
  | none => simp [check, hi, Decision.isAllow]
  | some command =>
    cases hblank : Text.isBlankText command with
    | true => simp [check, hi, hblank, Decision.isAllow]
    | false =>
      simp only [check, hi, hblank, Bool.false_eq_true, if_false]
      exact isAllow_checkCommand host g (h command hi hblank)

end CommandGate

/-! ## Decisions that let an action pass -/

theorem Decision.isBlock_of_isAllow {d : Decision} (h : d.isAllow = true) :
    d.isBlock = false := by
  cases d <;> simp_all [Decision.isAllow, Decision.isBlock]

@[simp] theorem Decision.isBlock_softened (d : Decision) : d.softened.isBlock = false := by
  cases d <;> rfl

theorem Output.exitCode_ofDecision (d : Decision) :
    (Output.ofDecision d).exitCode = if d.isBlock then 2 else 0 := by
  cases d <;> rfl

theorem ActivationEngine.isBlock_activate (e : ActivationEngine) (input : String) :
    (e.activate input).isBlock = false := by
  simp only [ActivationEngine.activate]
  repeat' split
  all_goals rfl

theorem RuleOutput.Processor.isBlock_check (host : Host (StateM W)) (p : RuleOutput.Processor)
    (text : String) (w : W) : (runIn (p.check host text) w).1.isBlock = false := by
  cases h : RuleOutput.isIn text <;>
    simp [RuleOutput.Processor.check, h, Decision.isBlock]

namespace Invocation

variable (host : Host (StateM W)) (s : Settings) (e : Environment) (inv : Invocation)

/-- The gate that a run puts up. -/
def gate : CommandGate (StateM W) := CommandGate.ofSettings host s.gate e

/-- Everything that has to hold for a run to stop a command that it reads. -/
structure Stops (stdin command : String) (w : W) : Prop where
  guards : inv.mode = .guard
  enforced : inv.dryRun = false
  enabled : e.disabled = false
  given : Text.isBlankText stdin = false
  read : ∃ i, HookInput.ofJson? stdin = .ok i ∧ i.bashCommand? = some command
  nonblank : Text.isBlankText command = false
  guarded : Gate.isGuarded command = true
  validating : e.skipValidation = false
  objected : ((gate host s e).consult host command w).verdict.passed = false

theorem isBlock_decide (i : HookInput) (w : W) (h : inv.mode ≠ .guard) :
    (runIn (inv.decide host s e i) w).1.1.isBlock = false := by
  cases hm : inv.mode with
  | guard => exact absurd hm h
  | activate => simp [decide, hm, ActivationEngine.isBlock_activate]
  | postprocess => simp [decide, hm, RuleOutput.Processor.isBlock_check]

theorem decide_guard (i : HookInput) (w : W) (h : inv.mode = .guard) :
    (runIn (inv.decide host s e i) w).1.1 =
      (runIn ((gate host s e).check host i) w).1 := by
  simp [decide, h, gate]

theorem output_run (log : AuditLog (StateM W)) (stdin : String) (w : W) :
    (runIn (inv.run host s e log stdin) w).1.1 = (runIn (inv.result host s e stdin) w).1.output := by
  simp [run]

theorem Stops.gate_stops {stdin command : String} {w : W}
    (h : Stops host s e inv stdin command w) : (gate host s e).Stops host command w :=
  ⟨h.guarded, h.validating, h.objected⟩

theorem output_runInput (i : HookInput) (w : W) (h : e.disabled = false) :
    (runIn (inv.runInput host s e i) w).1.output =
      .ofDecision (if inv.dryRun then (runIn (inv.decide host s e i) w).1.1.softened
        else (runIn (inv.decide host s e i) w).1.1) := by
  simp [runInput, h]

theorem output_result_of_stops {stdin command : String} {w : W}
    (h : Stops host s e inv stdin command w) :
    (runIn (inv.result host s e stdin) w).1.output =
      .ofDecision ((gate host s e).blockOf host command w) := by
  obtain ⟨i, hread, hi⟩ := h.read
  have hevents : inv.ReadsEvents := fun hraw => by simp [h.guards] at hraw
  rw [result_of_event host s e hevents h.given hread, output_runInput host s e inv i w h.enabled, h.enforced,
    decide_guard host s e inv i w h.guards]
  rw [CommandGate.check_of_stops host _ hi h.nonblank (h.gate_stops)]
  rfl

/-- An event on which the gate stops nothing passes in every mode. -/
theorem exitCode_runInput {i : HookInput} {w : W}
    (h : inv.mode = .guard → inv.dryRun = false → e.disabled = false →
      ∀ command, i.bashCommand? = some command → Text.isBlankText command = false →
        ¬ (gate host s e).Stops host command w) :
    (runIn (inv.runInput host s e i) w).1.output.exitCode = 0 := by
  cases he : e.disabled with
  | true => simp [runInput, he, Output.neutral]
  | false =>
    rw [output_runInput host s e inv i w he, Output.exitCode_ofDecision]
    cases hd : inv.dryRun with
    | true => simp
    | false =>
      have hblock : (runIn (inv.decide host s e i) w).1.1.isBlock = false := by
        by_cases hm : inv.mode = .guard
        · rw [decide_guard host s e inv i w hm]
          exact Decision.isBlock_of_isAllow (CommandGate.isAllow_check host _ (h hm hd he))
        · exact isBlock_decide host s e inv i w hm
      simp [hblock]

theorem exitCode_runText (text : String) (w : W) :
    (runIn (inv.runText host s e text) w).1.output.exitCode = 0 := by
  cases he : e.disabled <;> simp [runText, he, Output.neutral, Output.ofDecision]

theorem exitCode_result_of_not_stops {stdin : String} {w : W}
    (h : ∀ command, ¬ Stops host s e inv stdin command w) :
    (runIn (inv.result host s e stdin) w).1.output.exitCode = 0 := by
  cases inv.course stdin with
  | text hraw =>
    rw [result_of_text host s e hraw]
    exact exitCode_runText host s e inv stdin w
  | unread hevents hunread =>
    rw [result_of_unread host s e hevents hunread]
    rfl
  | @event i hevents hgiven hread =>
    rw [result_of_event host s e hevents hgiven hread]
    apply exitCode_runInput
    intro hm hd he command hi hblank hstops
    exact h command ⟨hm, hd, he, hgiven, ⟨i, hread, hi⟩, hblank, hstops.guarded,
      hstops.validating, hstops.objected⟩

/-- A run ends with exit code 2 exactly where it stops a command: standard output is then absent
and standard error holds the message of the block. Every other run ends with exit code 0, among
them all runs that do not guard. -/
theorem run_exitCode (log : AuditLog (StateM W)) (stdin : String) (w : W) :
    let out := (runIn (inv.run host s e log stdin) w).1.1
    (out.exitCode = 2 ↔ ∃ command, Stops host s e inv stdin command w) ∧
    (∀ command, Stops host s e inv stdin command w →
      out.stdout = none ∧
      out.stderr = some ((gate host s e).messageOf host command w).render) ∧
    ((∀ command, ¬ Stops host s e inv stdin command w) → out.exitCode = 0) ∧
    (inv.mode ≠ .guard → out.exitCode = 0) := by
  intro out
  have hout : out = (runIn (inv.result host s e stdin) w).1.output :=
    output_run host s e inv log stdin w
  have hpass (h : ∀ command, ¬ Stops host s e inv stdin command w) : out.exitCode = 0 := by
    rw [hout]
    exact exitCode_result_of_not_stops host s e inv h
  have hstop {command : String} (h : Stops host s e inv stdin command w) :
      out = { stderr := some ((gate host s e).messageOf host command w).render, exitCode := 2 } := by
    rw [hout, output_result_of_stops host s e inv h, CommandGate.output_blockOf]
  refine ⟨⟨fun h => ?_, fun ⟨command, h⟩ => ?_⟩, fun command h => ?_, hpass,
    fun hm => hpass fun command h => hm h.guards⟩
  · by_contra hno
    rw [hpass (not_exists.mp hno)] at h
    contradiction
  · rw [hstop h]
  · rw [hstop h]
    exact ⟨rfl, rfl⟩

end Invocation

end HookGate
