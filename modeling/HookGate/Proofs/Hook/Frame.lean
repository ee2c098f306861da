import Mathlib
import HookGate.Proofs.Hook.Course
import HookGate.Proofs.System.World

/-!
# What runs leave as it was

Up to the moment at which its entry is recorded, a run asks the host, starts programs and stages an
agent's text. If each of these leaves something as it was, the run does.
-/

namespace HookGate

variable {W : Type} {R : W → W → Prop} [Persists R] {host : Host (StateM W)}

theorem RuleSet.leaves_load (h : host.AsksOnly R) (path : String) :
    Leaves R (RuleSet.load host path) := by
  have hload : Leaves R (RuleSet.load? host path) := by
    refine (h.isFile path).bind fun there => ?_
    cases there with
    | false => exact leaves_pure _
    | true =>
      refine (h.readText path).bind fun found => ?_
      cases found <;> exact leaves_pure _
  refine hload.bind fun found => ?_
  cases found <;> exact leaves_pure _

theorem Gate.leaves_findConfig? (h : host.AsksOnly R) (e : Environment) (fileName : String)
    (candidates : List String) : Leaves R (Gate.findConfig? host e fileName candidates) := by
  induction candidates with
  | nil => exact leaves_pure _
  | cons candidate candidates ih =>
    have hbelow : Leaves R (Gate.findBelow? host fileName (e.resolve candidate)) := by
      refine (h.listing _).bind fun found => ?_
      cases found <;> exact leaves_pure _
    refine hbelow.bind fun found => ?_
    cases found with
    | none => exact ih
    | some path => exact leaves_pure _

namespace ValidatorProgram

theorem leaves_present? (h : host.AsksOnly R) (config : Option String) :
    Leaves R (present? host config) := by
  cases config with
  | none => exact leaves_pure _
  | some path => exact (h.isThere path).andReturn _

theorem leaves_run (h : host.AsksOnly R) (hlaunch : ∀ l, Leaves R (host.launch l))
    (v : ValidatorProgram) (command : String) (config : Option String) :
    Leaves R (v.run host command config) := by
  have hmissing : Leaves R (missingScript? host v) := by
    unfold missingScript?
    cases v.script with
    | none => exact leaves_pure _
    | some script => exact (h.isThere script).andReturn _
  refine hmissing.bind fun missing => ?_
  cases missing with
  | some script => exact leaves_pure _
  | none =>
    refine (leaves_present? h config).bind fun there => (hlaunch _).bind fun ended => ?_
    cases ended <;> exact leaves_pure _

end ValidatorProgram

theorem CommandGate.leaves_check (h : host.AsksOnly R) (hlaunch : ∀ l, Leaves R (host.launch l))
    (s : GateSettings) (e : Environment) (i : HookInput) :
    Leaves R ((CommandGate.ofSettings host s e).check host i) := by
  have hevaluate (command : String) :
      Leaves R ((CommandGate.ofSettings host s e).evaluate host command) := by
    unfold evaluate
    split
    · exact leaves_pure _
    · split
      · exact leaves_pure _
      · exact (Gate.leaves_findConfig? h _ _ _).bind fun config =>
          ((ValidatorProgram.leaves_run h hlaunch _ command config).andReturn _).andReturn _
  have hcheck (command : String) :
      Leaves R ((CommandGate.ofSettings host s e).checkCommand host command) := by
    refine (hevaluate command).bind fun state => ?_
    cases state with
    | idle | allowed | valid => exact leaves_pure _
    | invalid detail config =>
      exact ((ValidatorProgram.leaves_present? h config).andReturn _).andReturn _
  unfold check
  cases i.bashCommand? with
  | none => exact leaves_pure _
  | some command =>
    cases hblank : Text.isBlankText command <;> simp only [hblank]
    · exact hcheck command
    · exact leaves_pure _

namespace RuleOutput.Processor

variable {p : Processor}

theorem leaves_runParser (h : host.AsksOnly R) (hlaunch : ∀ l, Leaves R (host.launch l))
    (staged : String) : Leaves R (p.runParser host staged) := by
  have hmissing : Leaves R (missingScript? host p) := by
    unfold missingScript?
    cases p.settings.parserScript.map p.environment.resolve with
    | none => exact leaves_pure _
    | some script => exact (h.isThere script).andReturn _
  refine hmissing.bind fun missing => ?_
  cases missing with
  | some script => exact leaves_pure _
  | none => exact (hlaunch _).andReturn _

theorem leaves_stage {staged : String} (h : host.SparedAt R staged) (text : String) :
    Leaves R (stage host staged text) := by
  unfold stage
  cases habove : Path.parent? staged with
  | none =>
    refine (h.writeText text).bind fun written => ?_
    cases written <;> exact leaves_pure _
  | some above =>
    refine (h.makeDirectories above habove).bind fun made => ?_
    cases made with
    | error e => exact leaves_pure _
    | ok =>
      refine (h.writeText text).bind fun written => ?_
      cases written <;> exact leaves_pure _

theorem leaves_process (h : host.AsksOnly R) (hlaunch : ∀ l, Leaves R (host.launch l))
    {text : String} (hstage : isIn text → host.SparedAt R p.stagingPath) :
    Leaves R (p.process host text) := by
  unfold process
  cases hin : isIn text with
  | false => exact leaves_pure _
  | true =>
    have hspared := hstage hin
    refine (leaves_stage hspared text).bind fun staged => ?_
    cases staged with
    | error why => exact leaves_pure _
    | ok =>
      have hunstage : Leaves R (unstage host p.stagingPath) := by
        refine (h.isThere _).bind fun there => ?_
        cases there with
        | false => exact leaves_pure _
        | true => exact hspared.removeFile.andReturn _
      exact (leaves_runParser h hlaunch _).bind fun outcome => hunstage.andReturn _

theorem leaves_check (h : host.AsksOnly R) (hlaunch : ∀ l, Leaves R (host.launch l))
    {text : String} (hstage : isIn text → host.SparedAt R p.stagingPath) :
    Leaves R (p.check host text) := by
  unfold check
  split
  · exact leaves_pure _
  · exact (leaves_process h hlaunch hstage).andReturn _

end RuleOutput.Processor

namespace Invocation

/-- An agent's text in the input, which stands there as it is or in the response of a tool. -/
def AgentText (inv : Invocation) (stdin text : String) : Prop :=
  if inv.rawText then text = stdin
  else ∃ i, HookInput.ofJson? stdin = .ok i ∧ text = i.responseText?.getD ""

variable (host) in
/-- If this run stages an agent's text, it does so at a path that is spared. -/
def SparesAll (R : W → W → Prop) (s : Settings) (e : Environment) (inv : Invocation)
    (stdin : String) : Prop :=
  inv.mode = .postprocess → e.disabled = false →
    ∀ text, inv.AgentText stdin text → RuleOutput.isIn text →
      host.SparedAt R (RuleOutput.Processor.mk s.postprocess e).stagingPath

/-- A run leaves things as they were if all that it does does. -/
theorem leaves_result (h : host.AsksOnly R) (hlaunch : ∀ l, Leaves R (host.launch l))
    {s : Settings} {e : Environment} {inv : Invocation} {stdin : String}
    (hstage : inv.SparesAll host R s e stdin) : Leaves R (inv.result host s e stdin) := by
  have hinput (i : HookInput)
      (hi : inv.mode = .postprocess → inv.AgentText stdin (i.responseText?.getD "")) :
      Leaves R (inv.runInput host s e i) := by
    unfold runInput
    cases henabled : e.disabled with
    | true => exact leaves_pure _
    | false =>
      have hdecide : Leaves R (inv.decide host s e i) := by
        unfold decide
        cases hmode : inv.mode with
        | activate => exact (RuleSet.leaves_load h _).andReturn _
        | guard => exact (CommandGate.leaves_check h hlaunch _ _ i).andReturn _
        | postprocess =>
          exact (RuleOutput.Processor.leaves_check h hlaunch
            (hstage hmode henabled _ (hi hmode))).andReturn _
      exact hdecide.andReturn _
  cases inv.course stdin with
  | text hraw =>
    rw [result_of_text host s e hraw, runText]
    cases henabled : e.disabled with
    | true => exact leaves_pure _
    | false =>
      have htext : inv.AgentText stdin stdin := by rw [AgentText, if_pos hraw.2]
      exact (RuleOutput.Processor.leaves_process h hlaunch
        (hstage hraw.1 henabled _ htext)).andReturn _
  | unread hevents hunread =>
    rw [result_of_unread host s e hevents hunread]
    exact leaves_pure _
  | @event i hevents hgiven hread =>
    rw [result_of_event host s e hevents hgiven hread]
    -- A response is staged only in a run that reads events, so it is the agent's text of the input.
    refine hinput i fun hmode => ?_
    have hraw : ¬ inv.rawText := fun hraw => hevents ⟨hmode, hraw⟩
    rw [AgentText, if_neg hraw]
    exact ⟨i, hread, rfl⟩

end Invocation

end HookGate
