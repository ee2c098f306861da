import HookGate.Proofs.Text.AsciiCase
import HookGate.Proofs.Text.LowerCase
import HookGate.Proofs.Text.Ring

/-!
# Blanks in lower case

The lower-case form of a character that is not blank is at least one character, and none of these is
blank. So words stay words, and what is not blank does not become so.
-/

namespace HookGate.Text

/-! ## Characters -/

/-- The code points of blanks, from one end to the other. -/
def blankRanges : List (Nat × Nat) :=
  [(0x9, 0xD), (0x20, 0x20), (0x85, 0x85), (0xA0, 0xA0), (0x1680, 0x1680), (0x2000, 0x200A),
    (0x2028, 0x2029), (0x202F, 0x202F), (0x205F, 0x205F), (0x3000, 0x3000)]

theorem isBlank_iff (c : Char) :
    isBlank c = true ↔ ∃ r ∈ blankRanges, r.1 ≤ c.toNat ∧ c.toNat ≤ r.2 := by
  simp [isBlank, blankRanges]
  omega

theorem blankRanges_pos : ∀ r ∈ blankRanges, 0 < r.1 := by
  decide

/-- No run of capitals is moved to where a blank is. -/
theorem lowerRuns_apart : ∀ run ∈ lowerRuns, ∀ r ∈ blankRanges,
    run.last + run.shift < r.1 ∨ r.2 < run.first + run.shift := by
  decide +kernel

theorem isBlank_ofNat_of_moveIn? {m n : Nat} (h : CaseRun.moveIn? lowerRuns m = some n) :
    isBlank (Char.ofNat n) = false := by
  obtain ⟨run, hrun, hfirst, hlast, rfl⟩ := moveIn?_run h
  rw [← Bool.not_eq_true, isBlank_iff, Char.toNat_ofNat]
  rintro ⟨r, hr, hlow, hhigh⟩
  have hapart := lowerRuns_apart run hrun r hr
  have hpos := blankRanges_pos r hr
  split at hlow
  · next hvalid =>
    rw [if_pos hvalid] at hhigh
    omega
  · omega

theorem lowerChar_ne_nil (c : Char) : lowerChar c ≠ [] := by
  unfold lowerChar
  split
  · exact List.cons_ne_nil _ _
  split
  · exact List.cons_ne_nil _ _
  split <;> exact List.cons_ne_nil _ _

theorem isBlank_of_mem_lowerChar {c x : Char} (hc : isBlank c = false) (hx : x ∈ lowerChar c) :
    isBlank x = false := by
  unfold lowerChar at hx
  split at hx
  · rwa [List.mem_singleton.mp hx, isBlank_toLower]
  split at hx
  · rcases List.mem_pair.mp hx with rfl | rfl <;> decide
  split at hx
  · next n hn => rw [List.mem_singleton.mp hx, isBlank_ofNat_of_moveIn? hn]
  · rwa [List.mem_singleton.mp hx]

/-! ## Texts -/

variable {before after cs : List Char}

theorem lowerAt_ne_nil (before : List Char) (c : Char) (after : List Char) :
    lowerAt before c after ≠ [] := by
  unfold lowerAt
  split
  · split <;> exact List.cons_ne_nil _ _
  · exact lowerChar_ne_nil c

theorem isBlank_of_mem_lowerAt {c x : Char} (hc : isBlank c = false) (hx : x ∈ lowerAt before c after) :
    isBlank x = false := by
  unfold lowerAt at hx
  split at hx
  · split at hx
    all_goals
      rw [List.mem_singleton.mp hx]
      decide
  · exact isBlank_of_mem_lowerChar hc hx

/-- What is in a text in lower case comes from one of its characters, and each of them is still there. -/
theorem mem_lowerAmid_iff {x : Char} :
    x ∈ lowerAmid before cs after ↔
      ∃ u c v, cs = u ++ c :: v ∧ x ∈ lowerAt (u.reverse ++ before) c (v ++ after) := by
  induction cs generalizing before with
  | nil => simp [lowerAmid]
  | cons d cs ih =>
    rw [lowerAmid, List.mem_append, ih]
    constructor
    · rintro (hx | ⟨u, c, v, rfl, hx⟩)
      · exact ⟨[], d, cs, rfl, hx⟩
      · exact ⟨d :: u, c, v, rfl, by simpa using hx⟩
    · rintro ⟨u, c, v, heq, hx⟩
      cases u with
      | nil =>
        obtain ⟨rfl, rfl⟩ := List.cons.inj heq
        exact .inl hx
      | cons a u =>
        obtain ⟨rfl, rfl⟩ := List.cons.inj heq
        exact .inr ⟨u, c, v, rfl, by simpa using hx⟩

/-- Lower case puts no blanks into a text that has none. -/
theorem isBlank_of_mem_lowerChars (h : ∀ c ∈ cs, isBlank c = false) {x : Char} (hx : x ∈ lowerChars cs) :
    isBlank x = false := by
  rw [lowerChars_eq, mem_lowerAmid_iff] at hx
  obtain ⟨u, c, v, rfl, hx⟩ := hx
  exact isBlank_of_mem_lowerAt (h c (by simp)) hx

/-- Nor does it take away all that is not blank. -/
theorem exists_mem_lowerChars {c : Char} (hmem : c ∈ cs) (hc : isBlank c = false) :
    ∃ x ∈ lowerChars cs, isBlank x = false := by
  obtain ⟨u, v, rfl⟩ := List.append_of_mem hmem
  obtain ⟨x, hx⟩ := List.exists_mem_of_ne_nil _ (lowerAt_ne_nil u.reverse c v)
  refine ⟨x, ?_, isBlank_of_mem_lowerAt hc hx⟩
  rw [lowerChars_eq, mem_lowerAmid_iff]
  exact ⟨u, c, v, rfl, by simpa using hx⟩

/-- A word in lower case is a word. -/
theorem lower_word {word : String} (hne : word.toList ≠ []) (hword : ∀ c ∈ word.toList, isBlank c = false) :
    lower word ≠ "" ∧ ∀ c ∈ (lower word).toList, isBlank c = false := by
  obtain ⟨c, hc⟩ := List.exists_mem_of_ne_nil _ hne
  obtain ⟨x, hx, -⟩ := exists_mem_lowerChars hc (hword c hc)
  rw [lower, String.toList_ofList]
  constructor
  · intro hempty
    have hnil := congrArg String.toList hempty
    rw [String.toList_ofList] at hnil
    exact List.ne_nil_of_mem hx hnil
  · intro c hc
    exact isBlank_of_mem_lowerChars hword hc

end HookGate.Text
