import Mathlib
import HookGate.Proofs.Hook.Frame

/-!
# Levels and outputs

The level of an entry and the output of its run come about apart from each other: one from the
decision, with its warnings or in place of it, the other from the decision alone. They always tell
the same story, and each run tells it once.
-/

namespace HookGate

variable {W : Type}

namespace AuditLevel

/-- The levels of runs that let everything pass without a word. -/
def IsQuiet (l : AuditLevel) : Prop := l = allowed ∨ l = error ∨ l = disabled ∨ l = skipped

/-- What the host sees is what the level says. -/
structure Shows (l : AuditLevel) (out : Output) : Prop where
  blocked : l = blocked ↔ out.exitCode = 2
  warn : l = warn ↔ out.exitCode = 0 ∧ out.stderr.isSome = true
  advised : l = advised ↔ out.stdout.isSome = true
  quiet : l.IsQuiet ↔ out.isSilent = true ∧ out.exitCode = 0

theorem shows_ofDecision (d : Decision) : (ofDecision d).Shows (.ofDecision d) := by
  cases d <;>
    constructor <;> simp [ofDecision, Output.ofDecision, Output.neutral, Output.isSilent, IsQuiet]

theorem IsQuiet.shows_neutral {l : AuditLevel} (h : l.IsQuiet) : l.Shows .neutral := by
  rcases h with rfl | rfl | rfl | rfl <;>
    constructor <;> simp [Output.neutral, Output.isSilent, IsQuiet]

/-- Levels that are both quiet show in the same outputs. -/
theorem Shows.of_isQuiet {l l' : AuditLevel} {out : Output} (h : l.Shows out) (hl : l.IsQuiet)
    (hl' : l'.IsQuiet) : l'.Shows out := by
  have hsilent := h.quiet.mp hl
  have hout : out = .neutral := by
    obtain ⟨stdout, stderr, exitCode⟩ := out
    simp_all [Output.isSilent, Output.neutral]
  exact hout ▸ hl'.shows_neutral

end AuditLevel

/-- Warnings change no level but that of an action that passes. -/
theorem AuditEntry.shows_withWarnings {entry : AuditEntry} {out : Output}
    (h : entry.level.Shows out) (warnings : List String) :
    (entry.withWarnings warnings).level.Shows out := by
  simp only [withWarnings]
  split
  · next hraise => exact h.of_isQuiet (.inl hraise.2) (.inr (.inl rfl))
  · exact h

/-- The entry of a decision that counts, beside the output of that decision. -/
theorem AuditEntry.shows_ofSummary (mode : Mode) (summary : String) (sessionId : Option String)
    (d : Decision) : (ofSummary mode summary sessionId d false).level.Shows (.ofDecision d) :=
  AuditLevel.shows_ofDecision d

/-- A log that is kept beside the world, line by line. -/
def AuditLog.kept : AuditLog (StateM (W × List String)) where
  writer? := some fun line p => (.ok (), (p.1, p.2 ++ [line]))

namespace Invocation

section

variable (host : Host (StateM W)) (s : Settings) (e : Environment) (inv : Invocation)

theorem shows_runText (text : String) (w : W) :
    let r := (runIn (inv.runText host s e text) w).1
    r.entry.level.Shows r.output := by
  cases he : e.disabled with
  | true =>
    simp only [runText, he, if_true, runIn_pure]
    exact AuditLevel.IsQuiet.shows_neutral (.inr (.inr (.inl rfl)))
  | false =>
    simp only [runText, he, Bool.false_eq_true, if_false, runIn_bind, runIn_pure]
    exact AuditEntry.shows_ofSummary ..

theorem shows_runInput (i : HookInput) (w : W) :
    let r := (runIn (inv.runInput host s e i) w).1
    r.entry.level.Shows r.output := by
  cases he : e.disabled with
  | true =>
    simp only [runInput, he, if_true, runIn_pure]
    exact AuditLevel.IsQuiet.shows_neutral (.inr (.inr (.inl rfl)))
  | false =>
    simp only [runInput, he, Bool.false_eq_true, if_false, runIn_bind, runIn_pure]
    exact AuditEntry.shows_withWarnings (AuditEntry.shows_ofSummary ..) _

theorem shows_result (stdin : String) (w : W) :
    let r := (runIn (inv.result host s e stdin) w).1
    r.entry.level.Shows r.output := by
  have hskip (reason : String) : (inv.skip reason).entry.level.Shows (inv.skip reason).output :=
    AuditLevel.IsQuiet.shows_neutral (.inr (.inr (.inr rfl)))
  cases inv.course stdin with
  | text hraw =>
    rw [result_of_text host s e hraw]
    exact shows_runText host s e inv stdin w
  | unread hevents hunread =>
    rw [result_of_unread host s e hevents hunread]
    exact hskip _
  | event hevents hgiven hread =>
    rw [result_of_event host s e hevents hgiven hread]
    exact shows_runInput host s e inv _ w

end

/-- Each run hands one entry to its log, after all else is done, and its level shows in the output.
So a log beside the world, which nothing in the world can reach, is longer by the line of that entry
and by no other. -/
theorem run_level (host : Host (StateM W)) (s : Settings) (e : Environment) (inv : Invocation)
    (stdin : String) (w : W) :
    let r := runIn (inv.result host s e stdin) w
    r.1.entry.level.Shows r.1.output ∧
    (∀ log : AuditLog (StateM W),
      let recorded := runIn (log.record host r.1.entry) r.2
      runIn (inv.run host s e log stdin) w = ((r.1.output, recorded.1), recorded.2)) ∧
    ∀ lines : List String, ∃ entry timestamp,
      let ran := runIn (inv.run (host.beside (List String)) s e .kept stdin) (w, lines)
      ran.2.2 = lines ++ [AuditEntry.line timestamp entry] ∧ entry.level.Shows ran.1.1 := by
  intro r
  refine ⟨shows_result host s e inv stdin w, fun log => rfl, fun lines => ?_⟩
  let host' := host.beside (List String)
  let r' := runIn (inv.result host' s e stdin) (w, lines)
  -- A host cannot reach what stands beside its world, so the log is as it was when the entry comes.
  have huntouched : r'.2.2 = lines :=
    leaves_result host.asksOnly_beside host.leaves_launch_beside
      (fun _ _ _ _ _ => host.sparedAt_beside _) (w, lines)
  refine ⟨r'.1.entry, (runIn host'.timestamp r'.2).1, ?_, shows_result host' s e inv stdin _⟩
  have htimestamp : (runIn host'.timestamp r'.2).2.2 = lines :=
    (host.asksOnly_beside.timestamp r'.2).trans huntouched
  have hran : (runIn (inv.run host' s e .kept stdin) (w, lines)).2.2 =
      (runIn host'.timestamp r'.2).2.2 ++
        [AuditEntry.line (runIn host'.timestamp r'.2).1 r'.1.entry] := rfl
  rw [hran, htimestamp]

end Invocation

end HookGate
