import Mathlib
import HookGate.Proofs.Json.Spelling
import HookGate.Proofs.Json.Numerals

/-!
# Values that are passed over

A value of which only the form counts is passed over exactly where one stands, at any depth.
-/

namespace HookGate.Json.Reader

variable {cs rest : List Char}

theorem skipWith_congr (fuel : Nat) {cs' : List Char}
    (hsame : cs.dropWhile isSpace = cs'.dropWhile isSpace) : skipWith fuel cs = skipWith fuel cs' := by
  cases fuel with
  | zero => rfl
  | succ fuel => rw [skipWith, peekToken_bind, peekToken_bind, hsame]

theorem skipItems_next {c : Char} {r : List Char} (hnext : Next c cs r) (hc : c ≠ ']') (fuel : Nat)
    (first : Bool) :
    skipItems (fuel + 1) first cs =
      (do separator first c .expectedListEnd; skipWith fuel; skipItems fuel false) (c :: r) := by
  rw [skipItems, peekToken_bind, hnext]
  simp

theorem skipMembers_next {c : Char} {r : List Char} (hnext : Next c cs r) (hc : c ≠ '\x7d')
    (fuel : Nat) (first : Bool) :
    skipMembers (fuel + 1) first cs =
      (do separator first c .expectedObjectEnd; openName; skipStringRest; colon; skipWith fuel
          skipMembers fuel false) (c :: r) := by
  rw [skipMembers, peekToken_bind, hnext]
  simp

/-! ## What is passed over has the form of a value -/

mutual

theorem passed_of_skipWith : ∀ {fuel : Nat} {cs rest : List Char},
    skipWith fuel cs = .ok ((), rest) → Passed cs rest
  | 0, _, _, h => nomatch h
  | fuel + 1, cs, rest, h => by
    rw [skipWith, peekToken_bind] at h
    cases hcs : cs.dropWhile isSpace with
    | nil => simp [hcs] at h
    | cons c r =>
      simp only [hcs, List.head?_cons] at h
      split at h
      · next hc =>
        subst hc
        obtain rfl := ident_eq_ok.mp h
        exact .scalar hcs (.word .null)
      split at h
      · next hc =>
        subst hc
        obtain rfl := ident_eq_ok.mp h
        exact .scalar hcs (.word .yes)
      split at h
      · next hc =>
        subst hc
        obtain rfl := ident_eq_ok.mp h
        exact .scalar hcs (.word .no)
      split at h
      · next hc =>
        subst hc
        exact .scalar hcs (.negative (skipNumber_eq_ok.mp h))
      split at h
      · next hc => exact .scalar hcs (.positive hc (skipNumber_eq_ok.mp h))
      split at h
      · next hc =>
        subst hc
        exact .scalar hcs (.string (skipStringRest_eq_ok.mp h))
      split at h
      · next hc =>
        subst hc
        exact .array hcs (passedItems_of_skipItems h)
      split at h
      · next hc =>
        subst hc
        exact .object hcs (passedMembers_of_skipMembers h)
      · exact absurd h fail_ne_ok

theorem passedItems_of_skipItems : ∀ {fuel : Nat} {first : Bool} {cs rest : List Char},
    skipItems fuel first cs = .ok ((), rest) → PassedItems first cs rest
  | 0, _, _, _, h => nomatch h
  | fuel + 1, first, cs, rest, h => by
    cases hcs : cs.dropWhile isSpace with
    | nil => simp [skipItems, hcs] at h
    | cons c r =>
      by_cases hend : c = ']'
      · subst hend
        obtain rfl : r = rest := by simpa [skipItems, hcs, advance] using h
        exact .nil hcs
      · rw [skipItems_next hcs hend] at h
        obtain ⟨_, mid, hseparator, h⟩ := bind_eq_ok.mp h
        -- What the separator leaves may differ in blanks from what the grammar has there.
        obtain ⟨cs₁, hfirst, hsame⟩ := separated_of_separator hcs hseparator
        obtain ⟨_, cs₂, hvalue, h⟩ := bind_eq_ok.mp h
        exact .cons hfirst ((passed_of_skipWith hvalue).congr hsame) (passedItems_of_skipItems h)

theorem passedMembers_of_skipMembers : ∀ {fuel : Nat} {first : Bool} {cs rest : List Char},
    skipMembers fuel first cs = .ok ((), rest) → PassedMembers first cs rest
  | 0, _, _, _, h => nomatch h
  | fuel + 1, first, cs, rest, h => by
    cases hcs : cs.dropWhile isSpace with
    | nil => simp [skipMembers, hcs] at h
    | cons c r =>
      by_cases hend : c = '\x7d'
      · subst hend
        obtain rfl : r = rest := by simpa [skipMembers, hcs, advance] using h
        exact .nil hcs
      · rw [skipMembers_next hcs hend] at h
        obtain ⟨_, mid, hseparator, h⟩ := bind_eq_ok.mp h
        obtain ⟨cs₁, hfirst, hsame⟩ := separated_of_separator hcs hseparator
        obtain ⟨_, cs₂, hquote, h⟩ := bind_eq_ok.mp h
        obtain ⟨_, cs₃, hname, h⟩ := bind_eq_ok.mp h
        obtain ⟨_, cs₄, hcolon, h⟩ := bind_eq_ok.mp h
        obtain ⟨_, cs₅, hvalue, h⟩ := bind_eq_ok.mp h
        exact .cons hfirst ((openName_eq_ok.mp hquote).congr hsame) (skipStringRest_eq_ok.mp hname)
          (colon_eq_ok.mp hcolon) (passed_of_skipWith hvalue) (passedMembers_of_skipMembers h)

end

/-! ## What has the form of a value is passed over -/

theorem skipWith_of_looseScalar {c : Char} (hnext : Next c cs rest) {rest' : List Char}
    (h : LooseScalar c rest rest') (fuel : Nat) : skipWith (fuel + 1) cs = .ok ((), rest') := by
  rw [skipWith, peekToken_bind, hnext]
  cases h with
  | word h => cases h <;> rfl
  | string h => exact skipStringRest_eq_ok.mpr h
  | positive hc h =>
    obtain ⟨hn, ht, hf, hminus⟩ := ne_of_isDigit hc
    dsimp only [List.head?_cons]
    rw [if_neg hn, if_neg ht, if_neg hf, if_neg hminus, if_pos hc]
    exact skipNumber_eq_ok.mpr h
  | negative h => exact skipNumber_eq_ok.mpr h

mutual

theorem skipWith_of_passed {cs rest : List Char} : Passed cs rest → ∀ {fuel : Nat},
    2 * cs.length + 1 ≤ fuel → skipWith fuel cs = .ok ((), rest)
  | .scalar hnext h, fuel, hfuel => by
    obtain ⟨fuel, rfl⟩ := Nat.exists_eq_add_one.mpr (show 0 < fuel by omega)
    exact skipWith_of_looseScalar hnext h fuel
  | .array hnext h, fuel, hfuel => by
    have hlen := hnext.length_lt
    obtain ⟨fuel, rfl⟩ := Nat.exists_eq_add_one.mpr (show 0 < fuel by omega)
    rw [skipWith, peekToken_bind, hnext]
    exact skipItems_of_passedItems h (show _ ≤ fuel by omega)
  | .object hnext h, fuel, hfuel => by
    have hlen := hnext.length_lt
    obtain ⟨fuel, rfl⟩ := Nat.exists_eq_add_one.mpr (show 0 < fuel by omega)
    rw [skipWith, peekToken_bind, hnext]
    exact skipMembers_of_passedMembers h (show _ ≤ fuel by omega)

theorem skipItems_of_passedItems {first : Bool} {cs rest : List Char} :
    PassedItems first cs rest → ∀ {fuel : Nat}, 2 * cs.length + 2 ≤ fuel →
      skipItems fuel first cs = .ok ((), rest)
  | .nil hnext, fuel, hfuel => by
    obtain ⟨fuel, rfl⟩ := Nat.exists_eq_add_one.mpr (show 0 < fuel by omega)
    rw [skipItems, peekToken_bind, hnext]
    rfl
  | .cons hfirst h hrest, fuel, hfuel => by
    have hlen := hfirst.length_le
    have hlen' := h.length_lt
    obtain ⟨fuel, rfl⟩ := Nat.exists_eq_add_one.mpr (show 0 < fuel by omega)
    obtain ⟨c, r, hnext, hc⟩ := hfirst.next (by decide) h.next
    obtain ⟨mid, hseparator, hsame⟩ := separator_of_separated hnext hfirst .expectedListEnd
    have hvalue := (skipWith_congr fuel hsame).trans (skipWith_of_passed h (by omega))
    rw [skipItems_next hnext hc]
    refine bind_eq_ok.mpr ⟨(), mid, hseparator, ?_⟩
    refine bind_eq_ok.mpr ⟨(), _, hvalue, ?_⟩
    exact skipItems_of_passedItems hrest (by omega)

theorem skipMembers_of_passedMembers {first : Bool} {cs rest : List Char} :
    PassedMembers first cs rest → ∀ {fuel : Nat}, 2 * cs.length + 2 ≤ fuel →
      skipMembers fuel first cs = .ok ((), rest)
  | .nil hnext, fuel, hfuel => by
    obtain ⟨fuel, rfl⟩ := Nat.exists_eq_add_one.mpr (show 0 < fuel by omega)
    rw [skipMembers, peekToken_bind, hnext]
    rfl
  | .cons hfirst hquote hname hcolon h hrest, fuel, hfuel => by
    have hlen := hfirst.length_le
    have hlen' := (hcolon.length_lt.trans hname.length_lt).trans hquote.length_lt
    have hlen'' := h.length_lt
    obtain ⟨fuel, rfl⟩ := Nat.exists_eq_add_one.mpr (show 0 < fuel by omega)
    obtain ⟨c, r, hnext, hc⟩ := hfirst.next (d := '\x7d') (by decide) ⟨_, _, hquote, by decide⟩
    obtain ⟨mid, hseparator, hsame⟩ := separator_of_separated hnext hfirst .expectedObjectEnd
    rw [skipMembers_next hnext hc]
    refine bind_eq_ok.mpr ⟨(), mid, hseparator, ?_⟩
    refine bind_eq_ok.mpr ⟨(), _, openName_eq_ok.mpr (hquote.congr hsame.symm), ?_⟩
    refine bind_eq_ok.mpr ⟨(), _, skipStringRest_eq_ok.mpr hname, ?_⟩
    refine bind_eq_ok.mpr ⟨(), _, colon_eq_ok.mpr hcolon, ?_⟩
    refine bind_eq_ok.mpr ⟨(), _, skipWith_of_passed h (show _ ≤ fuel by omega), ?_⟩
    exact skipMembers_of_passedMembers hrest (by omega)

end

theorem skipValue_eq_ok : skipValue cs = .ok ((), rest) ↔ Passed cs rest :=
  ⟨passed_of_skipWith, fun h => skipWith_of_passed h (by rw [fuelFor]; omega)⟩

end HookGate.Json.Reader
