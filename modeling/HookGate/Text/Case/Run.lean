/-! # Runs of letters

Case mappings shift whole runs of letters by one distance: all letters between two ends, or every second one. -/
namespace HookGate.Text

/-- The code points from `first` to `last` in steps of `step`, each moved by `shift`. -/
structure CaseRun where
  first : Nat
  last : Nat
  step : Nat
  shift : Int
deriving Repr, DecidableEq

namespace CaseRun

/-- Where the run moves a code point that belongs to it. -/
def move? (r : CaseRun) (n : Nat) : Option Nat :=
  if r.first ≤ n ∧ n ≤ r.last ∧ (n - r.first) % r.step = 0 then some (n + r.shift).toNat else none

/-- Where the first run that holds the code point moves it. -/
def moveIn? : List CaseRun → Nat → Option Nat
  | [], _ => none
  | r :: rs, n => (r.move? n).or (moveIn? rs n)

end CaseRun

end HookGate.Text
