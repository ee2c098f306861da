import HookGate.Proofs.Pattern.Preference

/-!
# Matches as words

The ends of a simple pattern in front of a text are the lengths of the words of the pattern
that stand there. Of these the preferred one is the longest where the pattern closes with a
greedy run.
-/

namespace HookGate.Pattern

/-! ## Ends and words -/

theorem freeHeads_repeat_set (s : CharSet) (min : Nat) (max : Option Nat) (greedy : Bool) :
    freeHeads (.repeat (set s) min max greedy) =
      repeatHeads [.take s empty] (set s) greedy min max := rfl

theorem mem_ends_repeat_cons (s : CharSet) (max : Option Nat) (greedy : Bool) (c : Char)
    (cs : List Char) (n : Nat) (hmax : max ≠ some 0) :
    n ∈ ends (c :: cs) (.repeat (set s) 0 max greedy) ↔
      n = 0 ∨ s.contains c = true ∧
        ∃ m ∈ ends cs (.repeat (set s) 0 (max.map (· - 1)) greedy), n = m + 1 := by
  rw [ends_eq_flatMap_headEnds, freeHeads_repeat_set, repeatHeads_set_zero, if_neg hmax]
  cases greedy <;> cases hs : s.contains c <;>
    simp [headEnds, hs, eq_comm, or_comm]

theorem mem_ends_repeat_set (s : CharSet) (min : Nat) (max : Option Nat) (greedy : Bool)
    (text : List Char) (n : Nat) (hmin : ∀ m ∈ max, min ≤ m) :
    n ∈ ends text (.repeat (set s) min max greedy) ↔
      n ≤ text.length ∧ (∀ c ∈ text.take n, s.contains c = true) ∧ min ≤ n ∧
        ∀ m ∈ max, n ≤ m := by
  induction text generalizing min max n with
  | nil =>
    cases min with
    | zero =>
      rw [ends_eq_flatMap_headEnds, freeHeads_repeat_set, repeatHeads_set_zero]
      split
      · simp
        omega
      · cases greedy <;> simp [headEnds] <;> omega
    | succ min =>
      rw [ends_eq_flatMap_headEnds, freeHeads_repeat_set, repeatHeads_set_succ]
      simp [headEnds]
      omega
  | cons c cs ih =>
    have hpred (k : Nat) (hk : ∀ m ∈ max, k + 1 ≤ m) : ∀ m ∈ max.map (· - 1), k ≤ m := by
      intro m hm
      obtain ⟨m', hm', rfl⟩ := Option.mem_map.mp hm
      have := hk m' hm'
      omega
    have hbound (n : Nat) (hpos : max ≠ some 0) :
        (∀ m ∈ max.map (· - 1), n ≤ m) ↔ ∀ m ∈ max, n + 1 ≤ m := by
      refine ⟨fun h m hm => ?_, hpred n⟩
      have hne : m ≠ 0 := fun hz => hpos (by rw [← hz]; exact hm)
      have := h (m - 1) (Option.mem_map.mpr ⟨m, hm, rfl⟩)
      omega
    cases min with
    | zero =>
      by_cases hmax : max = some 0
      · rw [ends_eq_flatMap_headEnds, freeHeads_repeat_set, repeatHeads_set_zero, if_pos hmax]
        subst hmax
        cases n <;> simp
      · rw [mem_ends_repeat_cons _ _ _ _ _ _ hmax]
        cases n with
        | zero => simp
        | succ n =>
          have hn := ih 0 (max.map (· - 1)) n (by simp)
          simp only [Nat.add_one_ne_zero, false_or, Nat.add_right_cancel_iff]
          simp only [exists_eq_right', hn, hbound n hmax, List.length_cons, List.take_succ_cons,
            List.mem_cons, forall_eq_or_imp, Nat.zero_le, true_and, Nat.add_le_add_iff_right]
          tauto
    | succ min =>
      have hpos : max ≠ some 0 := by
        rintro rfl
        simpa using hmin 0
      rw [ends_eq_flatMap_headEnds, freeHeads_repeat_set, repeatHeads_set_succ]
      cases n with
      | zero => cases hs : s.contains c <;> simp [headEnds, hs]
      | succ n =>
        have hn := ih min (max.map (· - 1)) n (hpred min hmin)
        cases hs : s.contains c with
        | false => simp [headEnds, hs]
        | true =>
          simp only [List.flatMap_cons, List.flatMap_nil, List.append_nil, headEnds, hs, if_true,
            List.mem_map, Nat.add_right_cancel_iff, exists_eq_right, hn, hbound n hpos,
            List.length_cons, List.take_succ_cons, List.mem_cons, forall_eq_or_imp, true_and,
            Nat.add_le_add_iff_right]

/-- A simple pattern ends behind the words that it matches, and nowhere else. -/
theorem mem_ends_iff {p : Pattern} (h : p.simple = true) (text : List Char) (n : Nat) :
    n ∈ ends text p ↔ n ≤ text.length ∧ p.Matches (text.take n) := by
  induction p generalizing text n with
  | empty =>
    cases n <;> cases text <;> simp
  | set s =>
    rw [ends_set]
    cases text with
    | nil => cases n <;> simp
    | cons c cs =>
      rcases n with _ | _ | n
      · cases hs : s.contains c <;> simp [hs]
      · cases hs : s.contains c <;> simp [hs]
      · cases hs : s.contains c <;> cases cs <;> simp [hs]
  | look l => simp [simple] at h
  | seq a b iha ihb =>
    simp only [simple, Bool.and_eq_true] at h
    rw [ends_seq, List.mem_flatMap]
    constructor
    · rintro ⟨i, hi, hn⟩
      obtain ⟨j, hj, rfl⟩ := List.mem_map.mp hn
      obtain ⟨hil, hia⟩ := (iha h.1 text i).mp hi
      obtain ⟨hjl, hjb⟩ := (ihb h.2 (text.drop i) j).mp hj
      rw [List.length_drop] at hjl
      exact ⟨by omega, _, _, hia, hjb, List.take_add⟩
    · rintro ⟨hn, u, v, hu, hv, huv⟩
      have hlen := congrArg List.length huv
      rw [List.length_take, List.length_append, Nat.min_eq_left hn] at hlen
      have htext : text = u ++ (v ++ text.drop n) := by
        rw [← List.append_assoc, ← huv, List.take_append_drop]
      refine ⟨u.length, (iha h.1 _ _).mpr ⟨by omega, ?_⟩, List.mem_map.mpr
        ⟨v.length, (ihb h.2 _ _).mpr ⟨?_, ?_⟩, hlen.symm⟩⟩
      · rw [htext, List.take_left]
        exact hu
      · rw [List.length_drop]
        omega
      · rw [htext, List.drop_left, List.take_left]
        exact hv
  | alt a b iha ihb =>
    simp only [simple, Bool.and_eq_true] at h
    rw [ends_alt, List.mem_append, iha h.1, ihb h.2, matches_alt]
    tauto
  | «repeat» a min max greedy ih =>
    cases a <;> simp [simple] at h
    rename_i s
    have hmin : ∀ m ∈ max, min ≤ m := by
      intro m hm
      rw [Option.mem_def] at hm
      subst hm
      simpa using h
    rw [mem_ends_repeat_set s min max greedy text n hmin, matches_repeat_set]
    constructor
    · rintro ⟨hn, hc, hlo, hhi⟩
      rw [List.length_take, Nat.min_eq_left hn]
      exact ⟨hn, hc, hlo, hhi⟩
    · rintro ⟨hn, hc, hlo, hhi⟩
      rw [List.length_take, Nat.min_eq_left hn] at hlo hhi
      exact ⟨hn, hc, hlo, hhi⟩
  | group kept a ih => exact ends_group kept a text ▸ ih h text n

/-- A match in front of a text is a word of the pattern. -/
theorem matches_of_matchLength? {p : Pattern} (h : p.simple = true) {prev : Option Char}
    {text : List Char} {n : Nat} (hn : p.matchLength? prev text = some n) :
    n ≤ text.length ∧ p.Matches (text.take n) := by
  rw [matchLength?_eq_head? h] at hn
  exact (mem_ends_iff h text n).mp (List.mem_of_head? hn)

/-- Nothing is found in front of a text exactly if no word stands there. -/
theorem matchLength?_eq_none_iff {p : Pattern} (h : p.simple = true) (prev : Option Char)
    (text : List Char) :
    p.matchLength? prev text = none ↔ ∀ w r, text = w ++ r → ¬ p.Matches w := by
  rw [matchLength?_eq_head? h, List.head?_eq_none_iff]
  constructor
  · rintro hnil w r rfl hw
    have hmem := (mem_ends_iff h (w ++ r) w.length).mpr ⟨by simp, by simpa using hw⟩
    rw [hnil] at hmem
    simp at hmem
  · intro hno
    apply List.eq_nil_iff_forall_not_mem.mpr
    intro n hn
    have hw := ((mem_ends_iff h text n).mp hn).2
    exact hno _ _ (List.take_append_drop n text).symm hw

/-! ## Closing runs -/

/-- Behind the preferred match stands no character of `s`. -/
def Eager (s : Char → Bool) (p : Pattern) : Prop :=
  ∀ text n, (ends text p).head? = some n → ∀ c ∈ (text.drop n).head?, s c = false

theorem eager_seq {s : Char → Bool} {a b : Pattern} (hb : Eager s b) : Eager s (seq a b) := by
  intro text n hn
  rw [ends_seq, head?_flatMap_eq_findSome?] at hn
  obtain ⟨i, -, hi⟩ := List.exists_of_findSome?_eq_some hn
  rw [List.head?_map, Option.map_eq_some_iff] at hi
  obtain ⟨j, hj, rfl⟩ := hi
  rw [← List.drop_drop]
  exact hb (text.drop i) j hj

theorem eager_concat {s : Char → Bool} {p : Pattern} (hp : Eager s p) (ps : List Pattern) :
    Eager s (concat (ps ++ [p])) := by
  induction ps with
  | nil => exact hp
  | cons q qs ih =>
    cases qs with
    | nil => exact eager_seq hp
    | cons r rs => exact eager_seq ih

theorem eager_repeat (s : CharSet) (min : Nat) :
    Eager s.contains (.repeat (set s) min none true) := by
  intro text
  induction text generalizing min with
  | nil => simp
  | cons c cs ih =>
    intro n hn
    have hzero : ∃ k, (ends cs (.repeat (set s) 0 none true)).head? = some k := by
      cases hk : (ends cs (.repeat (set s) 0 none true)).head? with
      | some k => exact ⟨k, rfl⟩
      | none =>
        have hmem := (mem_ends_repeat_set s 0 none true cs 0 (by simp)).mpr (by simp)
        rw [List.head?_eq_none_iff.mp hk] at hmem
        simp at hmem
    rw [ends_eq_flatMap_headEnds, freeHeads_repeat_set] at hn
    cases min with
    | zero =>
      rw [repeatHeads_set_zero] at hn
      cases hs : s.contains c with
      | false =>
        have : n = 0 := by simpa [headEnds, hs, eq_comm] using hn
        subst this
        simpa using hs
      | true =>
        obtain ⟨k, hk⟩ := hzero
        have : n = k + 1 := by simpa [headEnds, hs, hk, eq_comm] using hn
        subst this
        exact ih 0 k hk
    | succ min =>
      rw [repeatHeads_set_succ] at hn
      cases hs : s.contains c with
      | false => simp [headEnds, hs] at hn
      | true =>
        simp only [List.flatMap_cons, List.flatMap_nil, List.append_nil, headEnds, hs, if_true,
          List.head?_map, Option.map_eq_some_iff] at hn
        obtain ⟨k, hk, rfl⟩ := hn
        exact ih min k hk

/-- A simple pattern that does not match the empty text. -/
structure Solid (p : Pattern) : Prop where
  simple : p.simple = true
  nonempty : ¬ p.Matches []

/-- A solid pattern that ends in a greedy run over `s`: longer matches at the same place add
characters of `s` only, and the preferred match leaves none of these behind it. -/
structure ClosesWith (p : Pattern) (s : Char → Bool) : Prop extends Solid p where
  eager : Eager s p
  grows : ∀ w x, p.Matches w → p.Matches (w ++ x) → ∀ c ∈ x, s c = true

namespace ClosesWith

variable {p : Pattern} {s : Char → Bool}

theorem not_run_of_matchLength? (h : p.ClosesWith s) {prev : Option Char} {text : List Char}
    {n : Nat} (hn : p.matchLength? prev text = some n) :
    ∀ c ∈ (text.drop n).head?, s c = false := by
  rw [matchLength?_eq_head? h.simple] at hn
  exact h.eager text n hn

/-- The match is the longest word that stands in front of the text. -/
theorem length_le_of_matchLength? (h : p.ClosesWith s) {prev : Option Char} {text w : List Char}
    {n : Nat} (hn : p.matchLength? prev text = some n) (hw : p.Matches w) (hp : w <+: text) :
    w.length ≤ n := by
  obtain ⟨r, rfl⟩ := hp
  obtain ⟨-, hm⟩ := matches_of_matchLength? h.simple hn
  have hnext := h.not_run_of_matchLength? hn
  by_contra hlt
  -- a shorter match would stop inside the run of `w`
  have hsplit : (w ++ r).take n ++ w.drop n = w := by
    rw [List.take_append_of_le_length (by omega), List.take_append_drop]
  have hx := h.grows _ (w.drop n) hm (by rwa [hsplit])
  obtain ⟨c, cs, hc⟩ := List.exists_cons_of_length_pos (l := w.drop n) (by simp; omega)
  have hfalse := hnext c (by
    rw [List.drop_append_of_le_length (by omega), hc]
    simp)
  rw [hx c (by simp [hc])] at hfalse
  contradiction

/-- The match in front of a text is the word that no character of the run follows. -/
theorem matchLength?_eq_some_iff (h : p.ClosesWith s) (prev : Option Char) (w r : List Char) :
    p.matchLength? prev (w ++ r) = some w.length ↔
      p.Matches w ∧ ∀ c ∈ r.head?, s c = false := by
  constructor
  · intro hn
    have hw := (matches_of_matchLength? h.simple hn).2
    have hr := h.not_run_of_matchLength? hn
    rw [List.take_left] at hw
    rw [List.drop_left] at hr
    exact ⟨hw, hr⟩
  · rintro ⟨hw, hr⟩
    cases hn : p.matchLength? prev (w ++ r) with
    | none => exact absurd hw ((matchLength?_eq_none_iff h.simple prev _).mp hn w r rfl)
    | some n =>
      obtain ⟨hlen, hm⟩ := matches_of_matchLength? h.simple hn
      have hle := h.length_le_of_matchLength? hn hw (List.prefix_append w r)
      congr 1
      by_contra hne
      have htake : (w ++ r).take n = w ++ r.take (n - w.length) := by
        rw [List.take_append, List.take_of_length_le hle]
      rw [htake] at hm
      have hx := h.grows w _ hw hm
      cases r with
      | nil =>
        rw [List.append_nil] at hlen
        omega
      | cons c cs =>
        obtain ⟨k, hk⟩ : ∃ k, n - w.length = k + 1 := ⟨n - w.length - 1, by omega⟩
        have hfalse := hr c (by simp)
        rw [hx c (by simp [hk])] at hfalse
        contradiction

theorem exists_of_matchLength? (h : p.ClosesWith s) {prev : Option Char} {text : List Char}
    {n : Nat} (hn : p.matchLength? prev text = some n) :
    ∃ w r, text = w ++ r ∧ n = w.length ∧ p.Matches w ∧ ∀ c ∈ r.head?, s c = false := by
  obtain ⟨hle, hm⟩ := matches_of_matchLength? h.simple hn
  exact ⟨_, _, (List.take_append_drop n text).symm, (List.length_take_of_le hle).symm, hm,
    h.not_run_of_matchLength? hn⟩

/-- The match depends on nothing but the words that stand in front. -/
theorem matchLength?_congr (h : p.ClosesWith s) {prev prev' : Option Char} {a b : List Char}
    (hw : ∀ w, p.Matches w → (w <+: a ↔ w <+: b)) :
    p.matchLength? prev a = p.matchLength? prev' b := by
  have hnone {prev prev' : Option Char} {a b : List Char}
      (hw : ∀ w, p.Matches w → w <+: b → w <+: a) (ha : p.matchLength? prev a = none) :
      p.matchLength? prev' b = none := by
    rw [matchLength?_eq_none_iff h.simple] at ha ⊢
    rintro w r rfl hm
    obtain ⟨r', hr'⟩ := hw w hm ⟨r, rfl⟩
    exact ha w r' hr'.symm hm
  cases ha : p.matchLength? prev a with
  | none => exact (hnone (fun w hm => (hw w hm).mpr) ha).symm
  | some n =>
    cases hb : p.matchLength? prev' b with
    | none =>
      rw [hnone (fun w hm => (hw w hm).mp) hb] at ha
      contradiction
    | some m =>
      obtain ⟨hn, han⟩ := matches_of_matchLength? h.simple ha
      obtain ⟨hm, hbm⟩ := matches_of_matchLength? h.simple hb
      have hle := h.length_le_of_matchLength? hb han ((hw _ han).mp (List.take_prefix n a))
      have hge := h.length_le_of_matchLength? ha hbm ((hw _ hbm).mpr (List.take_prefix m b))
      rw [List.length_take_of_le hn] at hle
      rw [List.length_take_of_le hm] at hge
      rw [Nat.le_antisymm hle hge]

end ClosesWith

end HookGate.Pattern
