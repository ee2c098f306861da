import HookGate.Text.Case.Lower

/-! # Priorities

The four tiers of a rule, from the most to the least severe. -/
namespace HookGate

inductive Priority
  | critical
  | high
  | medium
  | low
deriving Repr, DecidableEq, Inhabited

namespace Priority

/-- The tiers in the order of reports, the most severe one first. -/
def all : List Priority := [.critical, .high, .medium, .low]

/-- How many tiers are more severe. -/
def rank : Priority → Nat
  | .critical => 0
  | .high => 1
  | .medium => 2
  | .low => 3

/-- Whether a tier is at least as severe as a threshold. -/
def includes (p threshold : Priority) : Bool := p.rank ≤ threshold.rank

def name : Priority → String
  | .critical => "critical"
  | .high => "high"
  | .medium => "medium"
  | .low => "low"

/-- The tier of exactly this name. -/
def ofName? (s : String) : Option Priority := all.find? fun p => p.name == s

/-- The tier of this name, whatever its case and the blanks around it. -/
def parse? (s : String) : Option Priority := ofName? (Text.lower (Text.trim s))

end Priority

end HookGate
