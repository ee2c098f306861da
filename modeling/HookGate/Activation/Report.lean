import HookGate.Rules.Priority
import HookGate.Text.Basic

/-! # Activation reports

The matched rules grouped by priority, the most severe group first, between heavy lines. -/

/-! ## Matched rules

The names that were recorded, each once and in the order of recording, with their priorities. -/
namespace HookGate

structure Matches where
  entries : List (String × Priority) := []
deriving Repr, DecidableEq

namespace Matches

def contains (m : Matches) (name : String) : Bool := m.entries.any fun e => e.1 == name

/-- Adds a name that is not there yet, and tells whether it was added. -/
def recordIfNew (m : Matches) (name : String) (p : Priority) : Bool × Matches :=
  if m.contains name then (false, m) else (true, ⟨m.entries ++ [(name, p)]⟩)

/-- Adds a name that is not there yet. -/
def record (m : Matches) (name : String) (p : Priority) : Matches := (m.recordIfNew name p).2

def priorityOf? (m : Matches) (name : String) : Option Priority := m.entries.lookup name

def isEmpty (m : Matches) : Bool := m.entries.isEmpty

def size (m : Matches) : Nat := m.entries.length

def names (m : Matches) : List String := m.entries.map Prod.fst

/-- The names that were recorded with a priority. -/
def namesWith (m : Matches) (p : Priority) : List String := (m.entries.filter fun e => e.2 = p).map Prod.fst

end Matches

end HookGate

/-! ## Reports -/

namespace HookGate

structure ReportOptions where
  /-- Groups below this priority are left out. -/
  minPriority : Priority := .low
  /-- What the reader is told to do. -/
  actionLine : String := "ACTION: Use Skill tool BEFORE responding"
deriving Repr, DecidableEq

namespace Report

def heavyLine : String := "━━━━━━━━━━━━━━━━━━━━━━━━━━━━━━━━━━━━━━━"

/-- The heading of a group. -/
def label : Priority → String
  | .critical => "CRITICAL SKILLS (REQUIRED):"
  | .high => "RECOMMENDED SKILLS:"
  | .medium => "SUGGESTED SKILLS:"
  | .low => "OPTIONAL SKILLS:"

/-- The groups within the threshold that have a name. -/
def groups (m : Matches) (threshold : Priority) : List (Priority × List String) :=
  ((Priority.all.filter fun p => p.includes threshold).map fun p => (p, m.namesWith p)).filter fun g => g.2 ≠ []

/-- The lines of a group, with a blank one behind. -/
def groupLines (g : Priority × List String) : List String :=
  label g.1 :: g.2.map ("  → " ++ ·) ++ [""]

/-- The report, if a group is to be shown. -/
def render? (m : Matches) (o : ReportOptions) : Option String :=
  match groups m o.minPriority with
  | [] => none
  | gs => some (Text.joinWith "\n"
      ([heavyLine, "SKILL ACTIVATION CHECK", heavyLine, ""] ++ gs.flatMap groupLines ++ [o.actionLine, heavyLine]))

/-- The report of all groups, empty if there are none. -/
def render (m : Matches) : String := (render? m {}).getD ""

end Report

end HookGate
