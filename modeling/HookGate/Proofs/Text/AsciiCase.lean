import Mathlib
import HookGate.Text.Case.Lower
import HookGate.Proofs.Text.Ring

/-!
# The case of ASCII letters

What gives the same for both cases of each ASCII letter does not depend on their case. So blanks are
the same blanks, and the lower-case form of a text is the same, whatever stands between its letters.
-/

namespace HookGate.Text

/-- Two texts that differ at most by the case of ASCII letters. -/
def CaseVariants (xs ys : List Char) : Prop := xs.map Char.toLower = ys.map Char.toLower

instance (xs ys : List Char) : Decidable (CaseVariants xs ys) :=
  inferInstanceAs (Decidable (xs.map Char.toLower = ys.map Char.toLower))

namespace CaseVariants

variable {xs ys us vs : List Char}

theorem symm (h : CaseVariants xs ys) : CaseVariants ys xs := Eq.symm h

/-- A variant of two texts in a row is a variant of the one and then one of the other. -/
theorem exists_append (h : CaseVariants (us ++ vs) ys) :
    ∃ us' vs', ys = us' ++ vs' ∧ CaseVariants us us' ∧ CaseVariants vs vs' := by
  rw [CaseVariants, List.map_append] at h
  obtain ⟨us', vs', rfl, hus, hvs⟩ := List.map_eq_append_iff.mp h.symm
  exact ⟨us', vs', rfl, hus.symm, hvs.symm⟩

theorem exists_cons {c : Char} (h : CaseVariants (c :: xs) ys) :
    ∃ d ys', ys = d :: ys' ∧ c.toLower = d.toLower ∧ CaseVariants xs ys' := by
  obtain ⟨d, ys', rfl, hd, hys⟩ := List.map_eq_cons_iff.mp (Eq.symm h)
  exact ⟨d, ys', rfl, hd.symm, hys.symm⟩

end CaseVariants

/-! ## Characters -/

/-- To be the same for both cases of all letters is to be the same for both cases of each. -/
theorem apply_toLower {β : Type} {f : Char → β}
    (h : ∀ n < 26, f (Char.ofNat (0x41 + n)) = f (Char.ofNat (0x61 + n))) (c : Char) :
    f c.toLower = f c := by
  have hletter : ∀ n < 26, (Char.ofNat (0x41 + n)).toLower = Char.ofNat (0x61 + n) := by decide
  by_cases hc : 0x41 ≤ c.toNat ∧ c.toNat ≤ 0x5A
  · obtain ⟨n, hn⟩ := Nat.exists_eq_add_of_le hc.1
    have hlt : n < 26 := by omega
    obtain rfl : Char.ofNat (0x41 + n) = c := by rw [← hn, Char.ofNat_toNat]
    rw [hletter n hlt, h n hlt]
  · rw [Char.toLower, dif_neg]
    exact hc

section

variable (c : Char)

theorem isBlank_toLower : isBlank c.toLower = isBlank c := apply_toLower (by decide) c

theorem isCased_toLower : isCased c.toLower = isCased c := apply_toLower (by decide) c

theorem isCaseIgnorable_toLower : isCaseIgnorable c.toLower = isCaseIgnorable c :=
  apply_toLower (by decide) c

theorem lowerChar_toLower : lowerChar c.toLower = lowerChar c := apply_toLower (by decide) c

/-- The case of a letter does not make it another character that is no letter. -/
theorem toLower_eq_iff {d : Char} (hd : ∀ n < 26, d ≠ Char.ofNat (0x41 + n) ∧ d ≠ Char.ofNat (0x61 + n)) :
    c.toLower = d ↔ c = d := by
  have h := apply_toLower (f := fun c => decide (c = d)) (c := c) (by
    intro n hn
    simp [(hd n hn).1.symm, (hd n hn).2.symm])
  simpa using h

end

/-! ## Texts -/

theorem dropBlanks_map_toLower (cs : List Char) :
    dropBlanks (cs.map Char.toLower) = (dropBlanks cs).map Char.toLower := by
  rw [dropBlanks, List.dropWhile_map]
  congr 2
  exact funext isBlank_toLower

theorem trimChars_map_toLower (cs : List Char) :
    trimChars (cs.map Char.toLower) = (trimChars cs).map Char.toLower := by
  have hend (ds : List Char) : dropBlanksEnd ds = (dropBlanks ds.reverse).reverse := rfl
  rw [trimChars, trimChars, hend, hend, dropBlanks_map_toLower, ← List.map_reverse,
    dropBlanks_map_toLower, List.map_reverse]

theorem meetsCased_map_toLower (cs : List Char) :
    meetsCased (cs.map Char.toLower) = meetsCased cs := by
  have hignorable : isCaseIgnorable ∘ Char.toLower = isCaseIgnorable := funext isCaseIgnorable_toLower
  rw [meetsCased, meetsCased, List.dropWhile_map, hignorable]
  cases cs.dropWhile isCaseIgnorable with
  | nil => rfl
  | cons c cs => exact isCased_toLower c

/-- A sigma sees letters of the same kind around it, and other characters do not look. -/
theorem lowerFrom_map_toLower (before cs : List Char) :
    lowerFrom (before.map Char.toLower) (cs.map Char.toLower) = lowerFrom before cs := by
  induction cs generalizing before with
  | nil => rfl
  | cons c cs ih =>
    have hsigma : c.toLower = 'Σ' ↔ c = 'Σ' := toLower_eq_iff c (by decide)
    have htail := ih (c :: before)
    rw [List.map_cons] at htail
    rw [List.map_cons, lowerFrom, lowerFrom, htail, meetsCased_map_toLower, meetsCased_map_toLower,
      lowerChar_toLower]
    simp only [hsigma]

namespace CaseVariants

variable {xs ys : List Char}

theorem trimChars (h : CaseVariants xs ys) : CaseVariants (trimChars xs) (trimChars ys) := by
  rw [CaseVariants, ← trimChars_map_toLower, ← trimChars_map_toLower, h]

/-- Variants have the same lower-case form. -/
theorem lowerChars_eq (h : CaseVariants xs ys) : lowerChars xs = lowerChars ys := by
  calc lowerFrom [] xs
      = lowerFrom [] (xs.map Char.toLower) := (lowerFrom_map_toLower [] xs).symm
    _ = lowerFrom [] (ys.map Char.toLower) := by rw [h]
    _ = lowerFrom [] ys := lowerFrom_map_toLower [] ys

end CaseVariants

end HookGate.Text
