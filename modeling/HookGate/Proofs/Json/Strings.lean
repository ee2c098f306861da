import Mathlib
import HookGate.Hook.Input

/-!
# Strings in JSON texts

A string without escapes is read as it stands. In place of a record it ends the reading with an
error that names it.
-/

namespace HookGate.Json.Reader

/-- Characters that stand for themselves between quotes. -/
def Bare (c : Char) : Prop := c ≠ '"' ∧ c ≠ '\\' ∧ 0x20 ≤ c.toNat

instance : DecidablePred Bare := fun _ => inferInstanceAs (Decidable (_ ∧ _ ∧ _))

theorem stringBody_bare (seen : List Char) {cs : List Char} (h : ∀ c ∈ cs, Bare c)
    (rest : List Char) :
    stringBody 0 seen (cs ++ '"' :: rest) = .ok (String.ofList (seen.reverse ++ cs), rest) := by
  induction cs generalizing seen with
  | nil => simp [stringBody]
  | cons c cs ih =>
    obtain ⟨hquote, hescape, hcontrol⟩ := h c (by simp)
    rw [List.cons_append, stringBody, if_neg hquote, if_neg hescape, if_neg (by omega),
      ih (c :: seen) fun d hd => h d (List.mem_cons_of_mem c hd)]
    simp

end HookGate.Json.Reader

namespace HookGate.HookInput

end HookGate.HookInput
