import Mathlib
import HookGate.Pattern.Search
import HookGate.Proofs.Text.Ring

/-!
# Words of a pattern

The words that a pattern matches, said without the search that finds them. For patterns that
look at no neighbours and repeat single characters only, the search finds a match in front of
a text exactly where a word of the pattern stands there.
-/

namespace HookGate.Pattern

/-- The words of a pattern. A condition on neighbours has none here. -/
def Matches : Pattern → List Char → Prop
  | empty, w => w = []
  | set s, w => ∃ c, s.contains c = true ∧ w = [c]
  | look _, _ => False
  | seq a b, w => ∃ u v, a.Matches u ∧ b.Matches v ∧ w = u ++ v
  | alt a b, w => a.Matches w ∨ b.Matches w
  | .repeat a min max _, w =>
      ∃ us : List (List Char), (∀ u ∈ us, a.Matches u) ∧ min ≤ us.length ∧
        (∀ m ∈ max, us.length ≤ m) ∧ w = us.flatten
  | group _ a, w => a.Matches w

/-- Patterns without conditions on neighbours, in which only single characters are repeated,
and no less often than is owed. -/
def simple : Pattern → Bool
  | empty => true
  | set _ => true
  | look _ => false
  | seq a b => a.simple && b.simple
  | alt a b => a.simple && b.simple
  | .repeat (set _) min max _ => max.all fun m => decide (min ≤ m)
  | .repeat _ _ _ _ => false
  | group _ a => a.simple

@[simp] theorem matches_empty (w : List Char) : empty.Matches w ↔ w = [] := Iff.rfl

@[simp] theorem matches_set (s : CharSet) (w : List Char) :
    (set s).Matches w ↔ ∃ c, s.contains c = true ∧ w = [c] := Iff.rfl

theorem matches_seq (a b : Pattern) (w : List Char) :
    (seq a b).Matches w ↔ ∃ u v, a.Matches u ∧ b.Matches v ∧ w = u ++ v := Iff.rfl

@[simp] theorem matches_alt (a b : Pattern) (w : List Char) :
    (alt a b).Matches w ↔ a.Matches w ∨ b.Matches w := Iff.rfl

/-- A repeated set matches the words over the set whose lengths are in bounds. -/
theorem matches_repeat_set (s : CharSet) (min : Nat) (max : Option Nat) (greedy : Bool)
    (w : List Char) :
    (Pattern.repeat (set s) min max greedy).Matches w ↔
      (∀ c ∈ w, s.contains c = true) ∧ min ≤ w.length ∧ ∀ m ∈ max, w.length ≤ m := by
  constructor
  · rintro ⟨us, hus, hmin, hmax, rfl⟩
    have hone : ∀ u ∈ us, u.length = 1 := by
      intro u hu
      obtain ⟨c, -, rfl⟩ := hus u hu
      rfl
    have hlen : us.flatten.length = us.length := by
      rw [List.length_flatten, List.map_congr_left hone]
      simp
    refine ⟨?_, by rwa [hlen], by rwa [hlen]⟩
    intro c hc
    obtain ⟨u, hu, hcu⟩ := List.mem_flatten.mp hc
    obtain ⟨d, hd, rfl⟩ := hus u hu
    rwa [List.mem_singleton.mp hcu]
  · rintro ⟨hw, hmin, hmax⟩
    refine ⟨w.map fun c => [c], ?_, by simpa using hmin, by simpa using hmax,
      (List.flatMap_singleton' w).symm⟩
    intro u hu
    obtain ⟨c, hc, rfl⟩ := List.mem_map.mp hu
    exact ⟨c, hw c hc, rfl⟩

theorem matches_followedBy (a b : Pattern) (w : List Char) :
    (followedBy a b).Matches w ↔ (seq a b).Matches w := by
  cases a with
  | empty => simp [followedBy, matches_seq]
  | _ => rfl

/-! ## Words of composed patterns -/

theorem matches_concat_nil (w : List Char) : (concat []).Matches w ↔ w = [] := Iff.rfl

theorem matches_concat_cons (p : Pattern) (ps : List Pattern) (w : List Char) :
    (concat (p :: ps)).Matches w ↔ ∃ u v, p.Matches u ∧ (concat ps).Matches v ∧ w = u ++ v := by
  cases ps with
  | nil => simp [concat]
  | cons q qs => exact matches_seq p (concat (q :: qs)) w

theorem matches_concat_append (ps qs : List Pattern) (w : List Char) :
    (concat (ps ++ qs)).Matches w ↔
      ∃ u v, (concat ps).Matches u ∧ (concat qs).Matches v ∧ w = u ++ v := by
  induction ps generalizing w with
  | nil => simp [concat]
  | cons p ps ih =>
    simp only [List.cons_append, matches_concat_cons, ih]
    constructor
    · rintro ⟨u, -, hu, ⟨x, v, hx, hv, rfl⟩, rfl⟩
      exact ⟨u ++ x, v, ⟨u, x, hu, hx, rfl⟩, hv, by rw [List.append_assoc]⟩
    · rintro ⟨-, v, ⟨u, x, hu, hx, rfl⟩, hv, rfl⟩
      exact ⟨u, x ++ v, hu, ⟨x, v, hx, hv, rfl⟩, by rw [List.append_assoc]⟩

theorem matches_alternatives (ps : List Pattern) (w : List Char) :
    (alternatives ps).Matches w ↔ ∃ p ∈ ps, p.Matches w := by
  induction ps with
  | nil => simp [alternatives, CharSet.empty, CharSet.contains, Text.Ranges.contains]
  | cons p ps ih =>
    cases ps with
    | nil => simp [alternatives]
    | cons q qs => simp [alternatives, ih]

theorem matches_literal (s : String) (w : List Char) : (literal s).Matches w ↔ w = s.toList := by
  rw [literal]
  induction s.toList generalizing w with
  | nil => simp [concat]
  | cons c cs ih =>
    simp only [List.map_cons, matches_concat_cons, matches_set, Text.mem_single, ih]
    constructor
    · rintro ⟨u, v, ⟨d, rfl, rfl⟩, rfl, rfl⟩
      rfl
    · rintro rfl
      exact ⟨[c], cs, ⟨c, rfl, rfl⟩, rfl, rfl⟩

/-- The words of an ASCII text in any case are those with its keys. -/
theorem matches_caseless {s : String} (hs : ∀ c ∈ s.toList, c.toNat < 0x80) (w : List Char) :
    (caseless s).Matches w ↔ w.map Text.asciiKey = s.toList.map Text.asciiKey := by
  rw [caseless]
  generalize s.toList = cs at hs ⊢
  induction cs generalizing w with
  | nil => simp [concat]
  | cons c cs ih =>
    have hc := hs c (by simp)
    have ih v := ih v fun d hd => hs d (List.mem_cons_of_mem c hd)
    simp only [List.map_cons, matches_concat_cons, matches_set, Text.folded_single_iff hc, ih]
    constructor
    · rintro ⟨u, v, ⟨d, hd, rfl⟩, hv, rfl⟩
      simp [hd, hv]
    · intro h
      obtain ⟨d, ds, rfl, hd, hds⟩ := List.map_eq_cons_iff.mp h
      exact ⟨[d], ds, ⟨d, hd, rfl⟩, hds, rfl⟩

/-! ## Heads of simple patterns -/

/-- The heads of a simple pattern, which are the same between all neighbours. -/
def freeHeads (p : Pattern) : List Head := heads none none p

theorem repeatHeads_set_zero (s : CharSet) (max : Option Nat) (greedy : Bool) :
    repeatHeads [.take s empty] (set s) greedy 0 max =
      if max = some 0 then [.done]
      else if greedy then
        [.take s (.repeat (set s) 0 (max.map (· - 1)) greedy), .done]
      else [.done, .take s (.repeat (set s) 0 (max.map (· - 1)) greedy)] := by
  simp [repeatHeads, followedBy]

theorem repeatHeads_set_succ (s : CharSet) (min : Nat) (max : Option Nat) (greedy : Bool) :
    repeatHeads [.take s empty] (set s) greedy (min + 1) max =
      [.take s (.repeat (set s) min (max.map (· - 1)) greedy)] := by
  simp [repeatHeads, followedBy]

theorem heads_eq_freeHeads {p : Pattern} (h : p.simple = true) (prev next : Option Char) :
    heads prev next p = freeHeads p := by
  induction p with
  | empty => rfl
  | set s => rfl
  | look l => simp [simple] at h
  | seq a b iha ihb =>
    simp only [simple, Bool.and_eq_true] at h
    simp only [freeHeads, heads] at iha ihb ⊢
    rw [iha h.1, ihb h.2]
  | alt a b iha ihb =>
    simp only [simple, Bool.and_eq_true] at h
    simp only [freeHeads, heads] at iha ihb ⊢
    rw [iha h.1, ihb h.2]
  | «repeat» a min max greedy ih =>
    cases a <;> simp [simple] at h
    rfl
  | group kept a ih => exact ih h

theorem simple_followedBy {a b : Pattern} (ha : a.simple = true) (hb : b.simple = true) :
    (followedBy a b).simple = true := by
  cases a <;> simp_all [followedBy, simple]

/-- What is left of a simple pattern is simple. -/
theorem simple_of_take_mem {p : Pattern} (h : p.simple = true) {s : CharSet} {k : Pattern}
    (hk : Head.take s k ∈ freeHeads p) : k.simple = true := by
  induction p generalizing k with
  | empty => simp [freeHeads, heads] at hk
  | set t =>
    obtain ⟨-, rfl⟩ : s = t ∧ k = empty := by simpa [freeHeads, heads] using hk
    rfl
  | look l => simp [simple] at h
  | seq a b iha ihb =>
    simp only [simple, Bool.and_eq_true] at h
    obtain ⟨x, hx, hk⟩ := List.mem_flatMap.mp hk
    cases x with
    | done => exact ihb h.2 hk
    | take t k' =>
      obtain ⟨rfl, rfl⟩ : s = t ∧ k = followedBy k' b := by simpa using hk
      exact simple_followedBy (iha h.1 hx) h.2
  | alt a b iha ihb =>
    simp only [simple, Bool.and_eq_true] at h
    rcases List.mem_append.mp hk with hk | hk
    · exact iha h.1 hk
    · exact ihb h.2 hk
  | «repeat» a min max greedy ih =>
    cases a <;> simp [simple] at h
    rename_i t
    change Head.take s k ∈ repeatHeads [.take t empty] (set t) greedy min max at hk
    cases min with
    | zero =>
      rw [repeatHeads_set_zero] at hk
      have hk' : k = .repeat (set t) 0 (max.map (· - 1)) greedy := by
        cases greedy <;> split at hk <;> simp at hk <;> exact hk.2
      subst hk'
      cases max <;> simp [simple]
    | succ min =>
      rw [repeatHeads_set_succ] at hk
      have hk' : k = .repeat (set t) min (max.map (· - 1)) greedy := by
        simp at hk
        exact hk.2
      subst hk'
      cases max with
      | none => rfl
      | some m =>
        simp [simple] at h ⊢
        omega
  | group kept a ih => exact ih h hk

end HookGate.Pattern
