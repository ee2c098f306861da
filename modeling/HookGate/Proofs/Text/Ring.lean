import Mathlib
import HookGate.Pattern.CharSet
import HookGate.Text.Basic

/-!
# Rings that reach ASCII

Beyond ASCII only the long s and the Kelvin sign differ from an ASCII letter by case alone, and
no letter differs by case from a blank. Sets of ASCII characters closed under case are thereby
known from finitely many characters.
-/

namespace HookGate.Text

/-- The characters whose rings may hold an ASCII character. -/
def NearAscii (c : Char) : Prop := c.toNat < 0x80 ∨ c.toNat = 0x17F ∨ c.toNat = 0x212A

/-- The code points beyond ASCII that no letter but the long s and the Kelvin sign leads to. -/
private def remoteGaps : List (Nat × Nat) :=
  [(0x85, 0x85), (0xA0, 0xA0), (0x17F, 0x17F), (0x1680, 0x1680), (0x2000, 0x205F),
    (0x212A, 0x212A), (0x3000, 0x3000), (0xD800, 0xDFFF)]

private def Remote (n : Nat) : Prop := 0x80 ≤ n ∧ ∀ g ∈ remoteGaps, n < g.1 ∨ g.2 < n

/-- Whether a run leads from the long s or the Kelvin sign, or to remote code points only. -/
private def leadsAway (r : CaseRun) : Bool :=
  decide (r.first = 0x17F ∧ r.last = 0x17F ∨ r.first = 0x212A ∧ r.last = 0x212A) ||
    decide (0x80 ≤ r.first + r.shift ∧ r.last + r.shift < 0x110000) &&
      remoteGaps.all fun g =>
        decide (r.last + r.shift < g.1) || decide ((g.2 : Int) < r.first + r.shift)

private theorem runs_leadAway : (ringUp ++ ringDown).all leadsAway = true := by
  decide +kernel

theorem moveIn?_run {rs : List CaseRun} {n m : Nat} (h : CaseRun.moveIn? rs n = some m) :
    ∃ r ∈ rs, r.first ≤ n ∧ n ≤ r.last ∧ m = (n + r.shift).toNat := by
  induction rs with
  | nil => simp [CaseRun.moveIn?] at h
  | cons r rs ih =>
    rw [CaseRun.moveIn?] at h
    cases hr : r.move? n with
    | some k =>
      rw [hr] at h
      obtain rfl : k = m := by simpa using h
      rw [CaseRun.move?] at hr
      split at hr
      · rename_i hin
        exact ⟨r, by simp, hin.1, hin.2.1, by simpa [eq_comm] using hr⟩
      · simp at hr
    | none =>
      rw [hr] at h
      obtain ⟨r', hr', hin⟩ := ih (by simpa using h)
      exact ⟨r', List.mem_cons_of_mem r hr', hin⟩

private theorem moveIn?_or_run {up down : List CaseRun} {n m : Nat}
    (h : (CaseRun.moveIn? up n).or (CaseRun.moveIn? down n) = some m) :
    ∃ r ∈ up ++ down, r.first ≤ n ∧ n ≤ r.last ∧ m = (n + r.shift).toNat := by
  rcases Option.or_eq_some_iff.mp h with hup | ⟨-, hdown⟩
  · obtain ⟨r, hr, hin⟩ := moveIn?_run hup
    exact ⟨r, List.mem_append_left _ hr, hin⟩
  · obtain ⟨r, hr, hin⟩ := moveIn?_run hdown
    exact ⟨r, List.mem_append_right _ hr, hin⟩

private theorem remote_of_move {n m : Nat} (hs : n ≠ 0x17F) (hk : n ≠ 0x212A)
    (h : (CaseRun.moveIn? ringUp n).or (CaseRun.moveIn? ringDown n) = some m) :
    Remote m ∧ m < 0x110000 := by
  obtain ⟨r, hr, hlo, hhi, rfl⟩ := moveIn?_or_run h
  have haway := List.all_eq_true.mp runs_leadAway r hr
  simp only [leadsAway, Bool.or_eq_true, Bool.and_eq_true, decide_eq_true_eq,
    List.all_eq_true] at haway
  rcases haway with (h | h) | ⟨hin, hgap⟩
  · omega
  · omega
  · refine ⟨⟨by omega, fun g hg => ?_⟩, by omega⟩
    have := hgap g hg
    omega

private theorem remote_nextInRing {c : Char} (h : ¬ NearAscii c) :
    nextInRing c = c ∨ Remote (nextInRing c).toNat := by
  simp only [NearAscii, not_or] at h
  rw [nextInRing, if_neg h.1]
  cases hm : (CaseRun.moveIn? ringUp c.toNat).or (CaseRun.moveIn? ringDown c.toNat) with
  | none => exact Or.inl rfl
  | some m =>
    obtain ⟨hm, htop⟩ := remote_of_move h.2.1 h.2.2 hm
    have hvalid : m.isValidChar := by
      have := hm.2 (0xD800, 0xDFFF) (by simp [remoteGaps])
      simp only [Nat.isValidChar] at this ⊢
      omega
    refine Or.inr ?_
    rwa [show (Char.ofNat m).toNat = m by rw [Char.ofNat, dif_pos hvalid]; rfl]

private theorem not_nearAscii_of_remote {c : Char} (h : Remote c.toNat) : ¬ NearAscii c := by
  have hlow := h.1
  have hs := h.2 (0x17F, 0x17F) (by simp [remoteGaps])
  have hk := h.2 (0x212A, 0x212A) (by simp [remoteGaps])
  simp only at hs hk
  simp only [NearAscii]
  omega

/-- The other characters of a ring that stays clear of ASCII stay clear of the blanks, too. -/
private theorem remote_of_mem_ring {c d : Char} (h : ¬ NearAscii c) (hd : d ∈ ring c) :
    d = c ∨ Remote d.toNat := by
  have hstep (x : Char) (hx : x = c ∨ Remote x.toNat) :
      nextInRing x = c ∨ Remote (nextInRing x).toNat := by
    have hnear : ¬ NearAscii x := by
      rcases hx with rfl | hx
      · exact h
      · exact not_nearAscii_of_remote hx
    rcases remote_nextInRing hnear with heq | hr
    · rwa [heq]
    · exact Or.inr hr
  have h₁ := hstep c (Or.inl rfl)
  have h₂ := hstep _ h₁
  have h₃ := hstep _ h₂
  simp only [ring] at hd
  split at hd
  · simp only [List.mem_cons, List.not_mem_nil, or_false] at hd
    exact Or.inl hd
  · split at hd
    · simp only [List.mem_cons, List.not_mem_nil, or_false] at hd
      rcases hd with rfl | rfl
      exacts [Or.inl rfl, h₁]
    · split at hd <;> simp only [List.mem_cons, List.not_mem_nil, or_false] at hd
      · rcases hd with rfl | rfl | rfl
        exacts [Or.inl rfl, h₁, h₂]
      · rcases hd with rfl | rfl | rfl | rfl
        exacts [Or.inl rfl, h₁, h₂, h₃]

/-- A property of the characters near ASCII is checked on these alone. -/
theorem NearAscii.rec_check {P : Char → Prop} (hascii : ∀ n < 0x80, P (Char.ofNat n))
    (hs : P 'ſ') (hk : P (Char.ofNat 0x212A)) {c : Char} (h : NearAscii c) : P c := by
  rcases h with h | h | h
  · exact Char.ofNat_toNat c ▸ hascii c.toNat h
  · have : c = 'ſ' := by rw [← Char.ofNat_toNat c, h]
    exact this ▸ hs
  · have : c = Char.ofNat 0x212A := by rw [← Char.ofNat_toNat c, h]
    exact this ▸ hk

/-- A set of ASCII characters, closed under case, holds characters near ASCII only. -/
theorem nearAscii_of_folded {s : CharSet} (hs : ∀ c, s.contains c = true → c.toNat < 0x80)
    {c : Char} (h : (CharSet.folded s).contains c = true) : NearAscii c := by
  by_contra hc
  obtain ⟨d, hd, hsd⟩ := List.any_eq_true.mp h
  have hlt := hs d hsd
  rcases remote_of_mem_ring hc hd with rfl | hr
  · exact hc (Or.inl hlt)
  · exact not_nearAscii_of_remote hr (Or.inl hlt)

/-- The lower-case ASCII letter in the ring of a character near ASCII. -/
def asciiKey (c : Char) : Char :=
  if c.toNat = 0x17F then 's' else if c.toNat = 0x212A then 'k' else c.toLower

theorem mem_single {c d : Char} : (CharSet.single c).contains d = true ↔ d = c := by
  simp only [CharSet.single, CharSet.contains, Ranges.contains, List.any_cons, List.any_nil,
    Bool.or_false, Bool.and_eq_true, decide_eq_true_eq]
  constructor
  · intro h
    exact Char.toNat_inj.mp (by omega)
  · rintro rfl
    exact ⟨le_refl _, le_refl _⟩

/-- Whether the ring of a character has one key, and holds both cases of it. -/
private def ringHasKey (c : Char) : Bool :=
  (ring c).all (fun d => asciiKey d == asciiKey c) && (ring c).contains (asciiKey c) &&
    (ring c).contains (asciiKey c).toUpper

private theorem ringHasKey_of_nearAscii {c : Char} (h : NearAscii c) : ringHasKey c = true := by
  have hascii : ∀ n < 0x80, ringHasKey (Char.ofNat n) = true := by decide +kernel
  have hs : ringHasKey 'ſ' = true := by decide
  have hk : ringHasKey (Char.ofNat 0x212A) = true := by decide
  exact NearAscii.rec_check (P := fun c => ringHasKey c = true) hascii hs hk h

private theorem eq_key_or_upper : ∀ n < 0x80, Char.ofNat n = asciiKey (Char.ofNat n) ∨
    Char.ofNat n = (asciiKey (Char.ofNat n)).toUpper := by
  decide

private theorem asciiKey_ascii : ∀ n < 0x80, (asciiKey (Char.ofNat n)).toNat < 0x80 := by
  decide

theorem asciiKey_eq_self {c : Char} (h : ¬ NearAscii c) : asciiKey c = c := by
  simp only [NearAscii, not_or] at h
  rw [asciiKey, if_neg h.2.1, if_neg h.2.2, Char.toLower, dif_neg]
  rintro ⟨-, hle⟩
  have : c.toNat ≤ 90 := hle
  omega

/-- A character is an ASCII character up to case exactly if it has the same key. -/
theorem folded_single_iff {x : Char} (hx : x.toNat < 0x80) (c : Char) :
    (CharSet.folded (.single x)).contains c = true ↔ asciiKey c = asciiKey x := by
  have hring : (CharSet.folded (.single x)).contains c = true ↔ x ∈ ring c := by
    simp [CharSet.contains.eq_def (.folded _), List.any_eq_true, mem_single]
  by_cases hc : NearAscii c
  · have hkey := ringHasKey_of_nearAscii hc
    simp only [ringHasKey, Bool.and_eq_true, List.all_eq_true, beq_iff_eq,
      List.contains_eq_mem, decide_eq_true_eq] at hkey
    obtain ⟨⟨hall, hlow⟩, hup⟩ := hkey
    rw [hring]
    constructor
    · intro h
      exact (hall x h).symm
    · intro h
      have hcase := eq_key_or_upper x.toNat hx
      rw [Char.ofNat_toNat, ← h] at hcase
      rcases hcase with hcase | hcase
      · rwa [hcase]
      · rwa [hcase]
  · constructor
    · intro h
      exact absurd (nearAscii_of_folded (fun d hd => by rwa [mem_single.mp hd]) h) hc
    · intro h
      rw [asciiKey_eq_self hc] at h
      have hlt := asciiKey_ascii x.toNat hx
      rw [Char.ofNat_toNat, ← h] at hlt
      exact absurd (Or.inl hlt) hc

/-! ## Blanks -/

theorem space_contains (c : Char) : CharSet.space.contains c = isBlank c := by
  rw [Bool.eq_iff_iff]
  simp only [CharSet.space, CharSet.contains, Ranges.contains, List.any_cons, List.any_nil,
    Bool.or_false, Bool.or_eq_true, Bool.and_eq_true, decide_eq_true_eq, isBlank, beq_iff_eq]
  omega

private theorem not_blank_of_remote {c : Char} (h : Remote c.toNat) : isBlank c = false := by
  have hgap := h.2
  simp only [remoteGaps, List.mem_cons, List.not_mem_nil, or_false, forall_eq_or_imp,
    forall_eq] at hgap
  have hlow := h.1
  rw [Bool.eq_false_iff]
  simp only [isBlank, ne_eq, Bool.or_eq_true, Bool.and_eq_true, decide_eq_true_eq, beq_iff_eq]
  omega

/-- The two characters that open a quoted value. -/
def isQuote (c : Char) : Bool := c == '\'' || c == '"'

private def blankOrQuote : CharSet := .union .space (.ofChars ['\'', '"'])

private theorem blankOrQuote_contains (c : Char) :
    blankOrQuote.contains c = (isBlank c || isQuote c) := by
  have hquote : (CharSet.ofChars ['\'', '"']).contains c = isQuote c := by
    rw [Bool.eq_iff_iff]
    simp only [CharSet.ofChars, CharSet.contains, Ranges.contains, List.map_cons, List.map_nil,
      List.any_cons, List.any_nil, Bool.or_false, Bool.or_eq_true, Bool.and_eq_true,
      decide_eq_true_eq, isQuote, beq_iff_eq]
    rw [← Char.toNat_inj, ← Char.toNat_inj]
    omega
  rw [blankOrQuote, CharSet.contains, space_contains, hquote]

/-- A set without remote characters is closed under case if it is so near ASCII. -/
private theorem folded_eq_self {s : CharSet}
    (hremote : ∀ c, Remote c.toNat → s.contains c = false)
    (hnear : ∀ c, NearAscii c → (CharSet.folded s).contains c = s.contains c) (c : Char) :
    (CharSet.folded s).contains c = s.contains c := by
  by_cases hc : NearAscii c
  · exact hnear c hc
  · rw [Bool.eq_iff_iff]
    constructor
    · intro h
      obtain ⟨d, hd, hset⟩ := List.any_eq_true.mp h
      rcases remote_of_mem_ring hc hd with rfl | hr
      · exact hset
      · rw [hremote d hr] at hset
        contradiction
    · intro h
      have hmem : c ∈ ring c := by
        simp only [ring]
        repeat' split
        all_goals simp
      exact List.any_eq_true.mpr ⟨c, hmem, h⟩

/-- Case does not matter for blanks. -/
theorem folded_space (c : Char) : (CharSet.folded .space).contains c = isBlank c := by
  rw [← space_contains]
  apply folded_eq_self
  · intro d hd
    rw [space_contains, not_blank_of_remote hd]
  · intro d hd
    exact NearAscii.rec_check
      (P := fun c => (CharSet.folded .space).contains c = CharSet.space.contains c)
      (by decide +kernel) (by decide +kernel) (by decide +kernel) hd

/-- Case does not matter for blanks and quotes. -/
theorem folded_blankOrQuote (c : Char) :
    (CharSet.folded (.union .space (.ofChars ['\'', '"']))).contains c =
      (isBlank c || isQuote c) := by
  rw [← blankOrQuote_contains]
  change (CharSet.folded blankOrQuote).contains c = _
  apply folded_eq_self
  · intro d hd
    have hlow := hd.1
    rw [blankOrQuote_contains, not_blank_of_remote hd, Bool.false_or, Bool.eq_false_iff]
    intro hquote
    simp only [isQuote, Bool.or_eq_true, beq_iff_eq] at hquote
    rcases hquote with rfl | rfl <;> simp at hlow
  · intro d hd
    exact NearAscii.rec_check
      (P := fun c => (CharSet.folded blankOrQuote).contains c = blankOrQuote.contains c)
      (by decide +kernel) (by decide +kernel) (by decide +kernel) hd

end HookGate.Text
