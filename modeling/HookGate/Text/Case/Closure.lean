import HookGate.Text.Case.Ring
import HookGate.Text.Property.Ranges

/-! # Closing ranges under case

The letters that differ from those of a range at most by case, found run by run. -/
namespace HookGate.Text

/-- How the ASCII letters lead around their rings. -/
def asciiRing : List CaseRun :=
  [⟨0x41, 0x5a, 1, 32⟩, ⟨0x61, 0x6a, 1, -32⟩, ⟨0x6b, 0x6b, 1, 0x20bf⟩, ⟨0x6c, 0x72, 1, -32⟩, ⟨0x73, 0x73, 1, 0x10c⟩,
   ⟨0x74, 0x7a, 1, -32⟩]

/-- Where the ASCII letters have their other case. -/
def asciiCases : List CaseRun := [⟨0x41, 0x5a, 1, 32⟩, ⟨0x61, 0x7a, 1, -32⟩]

namespace CaseRun

/-- Where the run moves the letters from `a` to `b` that belong to it. -/
def image (r : CaseRun) (a b : Nat) : Ranges :=
  let lo := max a r.first
  let hi := min b r.last
  if hi < lo then []
  else if r.step = 1 then [((lo + r.shift).toNat, (hi + r.shift).toNat)]
  else (List.range (hi + 1 - lo)).filterMap fun i => (r.move? (lo + i)).map fun m => (m, m)

end CaseRun

namespace Ranges

/-- The code points with those that the runs lead to from them. -/
def extend (runs : List CaseRun) (rs : Ranges) : Ranges :=
  normal (rs ++ rs.flatMap fun (a, b) => runs.flatMap fun r => r.image a b)

/-- The code points with the whole rings of their letters. -/
def folded (rs : Ranges) : Ranges :=
  let step := extend (asciiRing ++ ringUp ++ ringDown)
  step (step (step rs))

end Ranges

end HookGate.Text
