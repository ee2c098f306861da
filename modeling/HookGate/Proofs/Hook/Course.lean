import HookGate.Hook.Run

/-!
# The course of a run

Standard input is an agent's text, or it is read as an event, or it is passed over and the entry of
the run gives the reason. Which of these it is depends on what was asked for and on the input alone,
and so on no host, no settings and no environment.
-/

namespace HookGate

namespace Invocation

/-- Events are what all hooks read but the one that is given an agent's text as it is. -/
def ReadsEvents (inv : Invocation) : Prop := ¬ (inv.mode = .postprocess ∧ inv.rawText = true)

/-- The reasons for which an input is passed over where events are read. -/
inductive Unread (stdin : String) : String → Prop
  | blank (h : Text.isBlankText stdin = true) : Unread stdin "empty input"
  | malformed {err : Json.Error} (hgiven : Text.isBlankText stdin = false)
      (hread : HookInput.ofJson? stdin = .error err) :
      Unread stdin ("malformed input: " ++ err.message)

/-- What a run makes of its standard input. -/
inductive Course (inv : Invocation) (stdin : String) : Prop
  | text (hraw : inv.mode = .postprocess ∧ inv.rawText = true)
  | unread {reason : String} (hevents : inv.ReadsEvents) (h : Unread stdin reason)
  | event {i : HookInput} (hevents : inv.ReadsEvents) (hgiven : Text.isBlankText stdin = false)
      (hread : HookInput.ofJson? stdin = .ok i)

theorem course (inv : Invocation) (stdin : String) : inv.Course stdin := by
  by_cases hraw : inv.mode = .postprocess ∧ inv.rawText = true
  · exact .text hraw
  cases hgiven : Text.isBlankText stdin with
  | true => exact .unread hraw (.blank hgiven)
  | false =>
    cases hread : HookInput.ofJson? stdin with
    | error err => exact .unread hraw (.malformed hgiven hread)
    | ok i => exact .event hraw hgiven hread

variable {m : Type → Type} [Monad m] (host : Host m) (s : Settings) (e : Environment)
  {inv : Invocation} {stdin : String}

theorem result_of_text (hraw : inv.mode = .postprocess ∧ inv.rawText = true) :
    inv.result host s e stdin = inv.runText host s e stdin :=
  if_pos hraw

theorem result_of_unread {reason : String} (hevents : inv.ReadsEvents) (h : Unread stdin reason) :
    inv.result host s e stdin = pure (inv.skip reason) := by
  rw [result, if_neg hevents]
  cases h with
  | blank h => rw [if_pos h]
  | malformed hgiven hread => rw [hgiven, hread, if_neg Bool.false_ne_true]

theorem result_of_event {i : HookInput} (hevents : inv.ReadsEvents)
    (hgiven : Text.isBlankText stdin = false) (hread : HookInput.ofJson? stdin = .ok i) :
    inv.result host s e stdin = inv.runInput host s e i := by
  rw [result, if_neg hevents, hgiven, hread, if_neg Bool.false_ne_true]

end Invocation

end HookGate
