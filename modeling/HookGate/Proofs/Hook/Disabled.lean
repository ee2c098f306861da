import HookGate.Proofs.Hook.Sequence
import HookGate.Proofs.Hook.Shape

/-!
# Hooks that are switched off

With hooks switched off a run comes down to one line in the log, whatever its mode and its options
are. The line tells whether there was anything that could have been checked. Since the host may be
any host in any monad, a run that uses nothing of it but the clock does nothing else.
-/

namespace HookGate

namespace Invocation

/-- The level of a run that checks nothing: there is a text to check, or an event, or neither. -/
structure DisabledLevel (inv : Invocation) (stdin : String) (l : AuditLevel) : Prop where
  disabled : l = .disabled ↔ ¬ inv.ReadsEvents ∨ ∃ i, HookInput.ofJson? stdin = .ok i
  skipped : l = .skipped ↔ inv.ReadsEvents ∧
    (Text.isBlankText stdin = true ∨ ∃ err, HookInput.ofJson? stdin = .error err)

theorem Unread.not_read {stdin reason : String} (h : Unread stdin reason) :
    (∀ i, HookInput.ofJson? stdin ≠ .ok i) ∧
      (Text.isBlankText stdin = true ∨ ∃ err, HookInput.ofJson? stdin = .error err) := by
  cases h with
  | blank hblank =>
    refine ⟨fun i hread => ?_, .inl hblank⟩
    rw [HookInput.not_isBlankText hread] at hblank
    contradiction
  | @malformed err _ hread => exact ⟨fun i => by simp [hread], .inr ⟨err, hread⟩⟩

variable (inv : Invocation) (stdin : String)

/-- What a run gives if it does nothing at all. -/
theorem result_of_disabled :
    ∃ entry : AuditEntry, entry.mode = inv.mode ∧ inv.DisabledLevel stdin entry.level ∧
      ∀ {m : Type → Type} [Monad m] (host : Host m) (s : Settings) (e : Environment),
        e.disabled = true → inv.result host s e stdin = pure ⟨.neutral, entry⟩ := by
  cases inv.course stdin with
  | text hraw =>
    have hevents : ¬ inv.ReadsEvents := not_not.mpr hraw
    refine ⟨.ofText inv.mode stdin (.allow "disabled") true, rfl, ⟨?_, ?_⟩, fun host s e h => ?_⟩
    · simp [AuditEntry.ofText, AuditEntry.ofSummary, hevents]
    · simp [AuditEntry.ofText, AuditEntry.ofSummary, hevents]
    · rw [result_of_text host s e hraw, runText, h]
      rfl
  | @unread reason hevents hunread =>
    obtain ⟨hread, hwhy⟩ := hunread.not_read
    refine ⟨.skipped inv.mode reason, rfl, ⟨?_, ?_⟩, fun host s e h => ?_⟩
    · simp [AuditEntry.skipped, hevents, hread]
    · simp [AuditEntry.skipped, hevents, hwhy]
    · rw [result_of_unread host s e hevents hunread]
      rfl
  | @event i hevents hgiven hread =>
    refine ⟨.ofInput inv.mode i (.allow "disabled") true, rfl, ⟨?_, ?_⟩, fun host s e h => ?_⟩
    · simp [AuditEntry.ofInput, AuditEntry.ofSummary, hread]
    · simp [AuditEntry.ofInput, AuditEntry.ofSummary, hread, hgiven]
    · rw [result_of_event host s e hevents hgiven hread, runInput, h]
      rfl

/-- With hooks switched off, a run shows nothing and lets everything pass. All that it does is to
ask for the time and to write one line: an entry that depends on what is asked for and on the input,
but not on the settings, the environment or the host. A log that is not open takes no line. -/
theorem run_disabled :
    ∃ entry : AuditEntry, entry.mode = inv.mode ∧ inv.DisabledLevel stdin entry.level ∧
      ∀ {m : Type → Type} [Monad m] [LawfulMonad m] (host : Host m) (s : Settings)
        (e : Environment), e.disabled = true →
        (∀ write : LogWriter m, inv.run host s e ⟨some write⟩ stdin = do
          let time ← host.timestamp
          let recorded ← write (entry.line time)
          return (.neutral, recorded)) ∧
        inv.run host s e ⟨none⟩ stdin = pure (.neutral, .ok ()) := by
  obtain ⟨entry, hmode, hlevel, hresult⟩ := result_of_disabled inv stdin
  refine ⟨entry, hmode, hlevel, fun host s e h => ⟨fun write => ?_, ?_⟩⟩
  · simp only [run, hresult host s e h, pure_bind, AuditLog.record, bind_assoc]
  · simp only [run, hresult host s e h, pure_bind, AuditLog.record]

/-- A log at the path where texts are staged keeps its line. -/
theorem run_disabled_staging :
    let host := Host.withFile "/p/workspace/temp_agent_output.txt"
    let e := { Environment.ofDir "/p" with disabled := true }
    let ran := runIn (stagingCall.invocation.run host {} e ⟨some appendLine⟩ stagingCall.stdin)
      (some [])
    ran.1.1 = .neutral ∧ ∃ entry : AuditEntry, entry.level = .disabled ∧
      ran.2 = some (Text.encode (entry.line "2026-01-01T00:00:00Z" ++ "\n")) := by
  intro host e ran
  obtain ⟨entry, -, hlevel, hrun⟩ := run_disabled stagingCall.invocation stagingCall.stdin
  have hran : ran = _ := congrArg (fun x => runIn x (some [])) ((hrun host {} e rfl).1 appendLine)
  have htext : ¬ stagingCall.invocation.ReadsEvents := fun hevents => hevents ⟨rfl, rfl⟩
  rw [hran]
  exact ⟨rfl, entry, hlevel.disabled.mpr (.inl htext), rfl⟩

end Invocation

end HookGate
