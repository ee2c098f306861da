import HookGate.Rules.Load
import HookGate.Proofs.Rules.Loading
import HookGate.Proofs.System.World

/-!
# Rules from files

A rule file may not be there, not be readable, hold nothing, hold something else, or hold a rule
document. In each case it is fixed which rules there are and what is warned of.
-/

namespace HookGate.RuleSet

open RuleDocument (Gives)

theorem exists_gives_of_ofJson? {text : String} {set : RuleSet} (h : ofJson? text = .ok set) :
    ∃ es, Gives text es ∧ LoadedFrom es set := by
  obtain ⟨d, hd, rfl⟩ := Json.Reader.map_eq_ok.mp h
  obtain ⟨es, hes, rfl⟩ := RuleDocument.ofText?_eq_ok.mp hd
  exact ⟨es, hes, loadedFrom_ofDocument (RuleDocument.ordered_of_gives hes)⟩

theorem ofFileText?_of_blank {text : String} (h : Text.isBlankText text = true) :
    ofFileText? text = .ok empty := by
  rw [ofFileText?, if_pos h]
  rfl

theorem ofFileText?_of_not_blank {text : String} (h : Text.isBlankText text = false) :
    ofFileText? text = ofJson? text := by
  simp [ofFileText?, h]

end HookGate.RuleSet
