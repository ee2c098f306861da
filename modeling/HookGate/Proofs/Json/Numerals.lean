import Mathlib
import HookGate.Proofs.Json.Reading

/-!
# The form of numbers

A number is read or passed over only where a numeral stands, and then as far as the numeral goes.
-/

namespace HookGate.Json.Reader

variable {cs rest : List Char}

theorem digits_iff_head :
    Digits cs rest ↔ (cs.head?.map isDigit).getD false = true ∧ cs.dropWhile isDigit = rest := by
  cases cs with
  | nil => simp [Digits]
  | cons c cs => cases hc : isDigit c <;> simp [Digits, hc]

/-- A digit begins no word and is no sign. -/
theorem ne_of_isDigit {c : Char} (hc : isDigit c = true) :
    c ≠ 'n' ∧ c ≠ 't' ∧ c ≠ 'f' ∧ c ≠ '-' := by
  refine ⟨?_, ?_, ?_, ?_⟩ <;> rintro rfl <;> contradiction

theorem digits_cons {c : Char} (hc : isDigit c = true) :
    Digits (c :: cs) (cs.dropWhile isDigit) := by
  rw [digits_iff_head]
  simp [hc]

theorem takeDigits_rest (significand added dropped : Nat) (cs : List Char) :
    (takeDigits significand added dropped cs).2.2.2 = cs.dropWhile isDigit := by
  induction cs generalizing significand added dropped with
  | nil => rfl
  | cons c cs ih =>
    rw [takeDigits]
    cases hc : digit? c with
    | none => simp [isDigit, hc]
    | some d =>
      have hdigit : isDigit c = true := by simp [isDigit, hc]
      rw [List.dropWhile_cons_of_pos hdigit]
      dsimp only
      split <;> exact ih ..

/-- Every digit is counted, whether it is added to the significand or not. -/
theorem takeDigits_count (significand added dropped : Nat) (cs : List Char) :
    (takeDigits significand added dropped cs).2.1 + (takeDigits significand added dropped cs).2.2.1 =
      added + dropped + (cs.takeWhile isDigit).length := by
  induction cs generalizing significand added dropped with
  | nil => rfl
  | cons c cs ih =>
    rw [takeDigits]
    cases hc : digit? c with
    | none => simp [isDigit, hc]
    | some d =>
      have hdigit : isDigit c = true := by simp [isDigit, hc]
      rw [List.takeWhile_cons_of_pos hdigit, List.length_cons]
      dsimp only
      split
      · next hfits =>
        rw [ih]
        omega
      · rw [ih]
        omega

/-! ## Exponents -/

theorem exponent_cons {c : Char} (hc : IsExponentMark c) :
    Exponent (c :: cs) rest ↔ Digits (exponentSign cs).2 rest := by
  constructor
  · intro h
    cases h with
    | none h => exact absurd hc (h c rfl)
    | bare _ h =>
      have hbare : exponentSign cs = (true, cs) := by
        rw [exponentSign.eq_def]
        have hhead := (digits_iff_head.mp h).1
        split <;> first | rfl | contradiction
      rwa [hbare]
    | signed _ hsign h => rcases hsign with rfl | rfl <;> exact h
  · intro h
    rw [exponentSign.eq_def] at h
    split at h
    · exact .signed hc (.inl rfl) h
    · exact .signed hc (.inr rfl) h
    · exact .bare hc h

theorem exponent_none (he : ∀ r, cs = 'e' :: r → False) (hE : ∀ r, cs = 'E' :: r → False) :
    Exponent cs cs := by
  refine .none fun c hc hmark => ?_
  obtain ⟨r, rfl⟩ := List.head?_eq_some_iff.mp hc
  obtain rfl | rfl := hmark
  · exact he r rfl
  · exact hE r rfl

theorem rest_of_assemble {positive : Bool} {significand : Nat} {e : Int} {n : Number}
    (h : (do return (← assemble positive significand e, cs)) = Except.ok (n, rest)) : rest = cs := by
  cases hn : assemble positive significand e with
  | error e => rw [hn] at h; cases h
  | ok found => rw [hn] at h; cases h; rfl

theorem digits_of_exponentDigits {positive up : Bool} {significand : Nat} {start : Int} {n : Number}
    (h : exponentDigits positive significand start up cs = .ok (n, rest)) : Digits cs rest := by
  cases cs with
  | nil => cases h
  | cons c cs =>
    cases hc : isDigit c with
    | false => simp [exponentDigits, hc] at h
    | true =>
      have hrest : rest = (c :: cs).dropWhile isDigit := by
        simp only [exponentDigits, hc, if_true] at h
        split at h
        · exact rest_of_assemble h
        · split at h
          · cases h
          · cases h
            rfl
      exact digits_iff_head.mpr ⟨by simp [hc], hrest.symm⟩

theorem exponent_of_exponent {positive : Bool} {significand : Nat} {start : Int} {n : Number}
    {c : Char} (hc : IsExponentMark c)
    (h : exponent positive significand start cs = .ok (n, rest)) : Exponent (c :: cs) rest :=
  (exponent_cons hc).mpr (digits_of_exponentDigits h)

/-! ## Behind the whole part -/

/-- A fraction and an exponent, each of which may be missing. -/
def Tail (cs rest : List Char) : Prop := ∃ mid, Fraction cs mid ∧ Exponent mid rest

theorem tail_of_numberRest {positive : Bool} {significand dropped : Nat} {n : Number}
    (h : numberRest positive significand dropped cs = .ok (n, rest)) : Tail cs rest := by
  rw [numberRest.eq_def] at h
  split at h
  · next r =>
    have hend := takeDigits_rest significand 0 0 r
    have hcount := takeDigits_count significand 0 0 r
    generalize takeDigits significand 0 0 r = taken at h hend hcount
    obtain ⟨significand', added, ignored, mid⟩ := taken
    dsimp only at h hend hcount
    split at h
    · cases h
    · next hsome =>
      -- The reader asks whether a digit was counted, not whether one stands there.
      have hdigits : Digits r mid := by
        refine ⟨fun hnil => hsome ?_, hend.symm⟩
        rw [hnil, List.length_nil] at hcount
        omega
      refine ⟨mid, .some hdigits, ?_⟩
      split at h
      · exact exponent_of_exponent (.inl rfl) h
      · exact exponent_of_exponent (.inr rfl) h
      · next he hE =>
        obtain rfl := rest_of_assemble h
        exact exponent_none he hE
  · next r => exact ⟨_, .none (by simp), exponent_of_exponent (.inl rfl) h⟩
  · next r => exact ⟨_, .none (by simp), exponent_of_exponent (.inr rfl) h⟩
  · next hdot he hE =>
    have hrest : rest = cs := by
      split at h
      · exact rest_of_assemble h
      · split at h
        · cases h; rfl
        · split at h
          · cases h; rfl
          · cases h; rfl
    subst hrest
    refine ⟨_, .none fun hhead => ?_, exponent_none he hE⟩
    obtain ⟨r, rfl⟩ := List.head?_eq_some_iff.mp hhead
    exact hdot r rfl

theorem numeral_of_number {positive : Bool} {n : Number}
    (h : number positive cs = .ok (n, rest)) : Numeral cs rest := by
  rw [number.eq_def] at h
  split at h
  · cases h
  · next r =>
    split at h
    · cases h
    · next hzero =>
      obtain ⟨mid, hmid, hrest⟩ := tail_of_numberRest h
      refine ⟨r, mid, .zero fun c hc => ?_, hmid, hrest⟩
      obtain ⟨r', rfl⟩ := List.head?_eq_some_iff.mp hc
      simpa using hzero
  · next c r hzero =>
    split at h
    · next hc =>
      have hend := takeDigits_rest 0 0 0 (c :: r)
      generalize takeDigits 0 0 0 (c :: r) = taken at h hend
      obtain ⟨significand, added, dropped, behind⟩ := taken
      dsimp only at h hend
      obtain ⟨mid, hmid, hrest⟩ := tail_of_numberRest h
      refine ⟨behind, mid, .digits (fun hc => hzero hc) ?_, hmid, hrest⟩
      exact digits_iff_head.mpr ⟨by simp [hc], hend.symm⟩
    · cases h

/-! ## Numbers that are passed over -/

theorem skipDigits_eq_ok : skipDigits cs = .ok ((), rest) ↔ Digits cs rest := by
  rw [skipDigits, digits_iff_head]
  split
  · next h => simp [h]
  · next h => simp [h]

theorem skipExponent_eq_ok : skipExponent cs = .ok ((), rest) ↔ Exponent cs rest := by
  rw [skipExponent.eq_def]
  split
  · next r => rw [skipDigits_eq_ok, exponent_cons (.inl rfl)]
  · next r => rw [skipDigits_eq_ok, exponent_cons (.inr rfl)]
  · next he hE =>
    constructor
    · intro h
      cases h
      exact exponent_none he hE
    · intro h
      cases h with
      | none => rfl
      | bare hc | signed hc =>
        obtain rfl | rfl := hc
        · exact (he _ rfl).elim
        · exact (hE _ rfl).elim

theorem skipNumberRest_eq_ok : skipNumberRest cs = .ok ((), rest) ↔ Tail cs rest := by
  rw [skipNumberRest.eq_def]
  split
  · next r =>
    have hread : (do skipDigits; skipExponent : Reader Unit) r = .ok ((), rest) ↔
        ∃ mid, Digits r mid ∧ Exponent mid rest := by
      rw [bind_eq_ok]
      simp only [← skipDigits_eq_ok, ← skipExponent_eq_ok]
      exact ⟨fun ⟨_, mid, h⟩ => ⟨mid, h⟩, fun ⟨mid, h⟩ => ⟨(), mid, h⟩⟩
    rw [hread]
    constructor
    · rintro ⟨mid, hdigits, hrest⟩
      exact ⟨mid, .some hdigits, hrest⟩
    · rintro ⟨mid, hmid, hrest⟩
      cases hmid with
      | none h => exact absurd rfl h
      | some hdigits => exact ⟨mid, hdigits, hrest⟩
  · next hdot =>
    rw [skipExponent_eq_ok]
    constructor
    · intro h
      refine ⟨cs, .none fun hhead => ?_, h⟩
      obtain ⟨r, rfl⟩ := List.head?_eq_some_iff.mp hhead
      exact hdot r rfl
    · rintro ⟨mid, hmid, hrest⟩
      cases hmid with
      | none => exact hrest
      | some => exact (hdot _ rfl).elim

theorem skipNumber_eq_ok : skipNumber cs = .ok ((), rest) ↔ Numeral cs rest := by
  rw [skipNumber.eq_def]
  split
  · next r =>
    constructor
    · intro h
      split at h
      · cases h
      · next hzero =>
        obtain ⟨mid, hmid, hrest⟩ := skipNumberRest_eq_ok.mp h
        refine ⟨r, mid, .zero fun c hc => ?_, hmid, hrest⟩
        obtain ⟨r', rfl⟩ := List.head?_eq_some_iff.mp hc
        simpa using hzero
    · rintro ⟨whole, mid, hwhole, hmid, hrest⟩
      cases hwhole with
      | zero hzero =>
        have hnot : (r.head?.map isDigit).getD false = false := by
          cases r with
          | nil => rfl
          | cons d r' => exact hzero d rfl
        rw [hnot]
        exact skipNumberRest_eq_ok.mpr ⟨mid, hmid, hrest⟩
      | digits hc => exact absurd rfl hc
  · next c r hzero =>
    have hne : c ≠ '0' := fun hc => hzero hc
    cases hc : isDigit c with
    | false =>
      simp only [Bool.false_eq_true, if_false, reduceCtorEq, false_iff]
      rintro ⟨whole, mid, hwhole, -⟩
      cases hwhole with
      | zero => exact hne rfl
      | digits _ h => simpa [hc] using (digits_iff_head.mp h).1
    | true =>
      rw [if_pos rfl, skipNumberRest_eq_ok]
      constructor
      · rintro ⟨mid, hmid, hrest⟩
        exact ⟨_, mid, .digits hne (digits_cons hc), hmid, hrest⟩
      · rintro ⟨whole, mid, hwhole, hmid, hrest⟩
        cases hwhole with
        | zero => exact absurd rfl hne
        | digits _ h =>
          obtain ⟨-, rfl⟩ := digits_iff_head.mp h
          rw [List.dropWhile_cons_of_pos hc] at hmid
          exact ⟨mid, hmid, hrest⟩
  · simp only [reduceCtorEq, false_iff]
    rintro ⟨whole, mid, hwhole, -⟩
    cases hwhole

end HookGate.Json.Reader
