import HookGate.Pattern.Reader
import HookGate.Pattern.Machine

/-! # Patterns with their written form -/
namespace HookGate

structure CompiledPattern where
  source : String
  pattern : Pattern
deriving Repr, DecidableEq

namespace CompiledPattern

/-- The pattern that a text writes down; its letters match in any case unless a flag says otherwise. -/
def ofSource? (source : String) : Except Pattern.Error CompiledPattern :=
  (Pattern.parse? true source).map fun p => ⟨source, p⟩

def occursIn (p : CompiledPattern) (text : String) : Bool := p.pattern.occursIn text

end CompiledPattern

end HookGate
