import Mathlib
import HookGate.Proofs.Pattern.Words

/-!
# From place to place

What a pattern means on a text, with the conditions on neighbours: it leads from some places of the
text to others. For patterns without such conditions these are the ends of the words of the pattern.
-/

namespace HookGate.Pattern

/-- A place in a text: the character before it, and those behind it. -/
structure Place where
  prev : Option Char
  rest : List Char

namespace Place

/-- The place behind a piece of text, of which `rest` is left. -/
def behind (prev : Option Char) (w rest : List Char) : Place := ⟨w.getLast?.or prev, rest⟩

@[simp] theorem behind_nil (prev : Option Char) (rest : List Char) :
    behind prev [] rest = ⟨prev, rest⟩ := rfl

theorem behind_cons (prev : Option Char) (c : Char) (w rest : List Char) :
    behind prev (c :: w) rest = behind (some c) w rest := by
  cases w with
  | nil => rfl
  | cons d w =>
    rw [behind, behind, List.getLast?_cons_cons, List.getLast?_eq_some_getLast (List.cons_ne_nil d w)]
    rfl

theorem behind_append (prev : Option Char) (u v rest : List Char) :
    behind prev (u ++ v) rest = behind (behind prev u (v ++ rest)).prev v rest := by
  simp [behind, List.getLast?_append, Option.or_assoc]

end Place

/-- A relation as often as a number says. -/
def Rounds (R : Place → Place → Prop) : Nat → Place → Place → Prop
  | 0, x, y => y = x
  | n + 1, x, y => ∃ z, R x z ∧ Rounds R n z y

/-- A pattern leads from the places where it may begin to those where it may end. A repetition that is
owed more rounds than it may have is gone through as often as is owed. -/
def Leads : Pattern → Place → Place → Prop
  | empty, x, y => y = x
  | set s, x, y => ∃ c, s.contains c = true ∧ x.rest = c :: y.rest ∧ y.prev = some c
  | look l, x, y => l.holds x.prev x.rest.head? = true ∧ y = x
  | seq a b, x, y => ∃ z, a.Leads x z ∧ b.Leads z y
  | alt a b, x, y => a.Leads x y ∨ b.Leads x y
  | .repeat a min max _, x, y =>
      ∃ n, min ≤ n ∧ (∀ m ∈ max, n ≤ Nat.max min m) ∧ Rounds a.Leads n x y
  | group _ a, x, y => a.Leads x y

theorem leads_repeat (a : Pattern) (min : Nat) (max : Option Nat) (greedy : Bool) (x y : Place) :
    (Pattern.repeat a min max greedy).Leads x y ↔
      ∃ n, min ≤ n ∧ (∀ m ∈ max, n ≤ Nat.max min m) ∧ Rounds a.Leads n x y := Iff.rfl

/-! ## Rounds -/

theorem rounds_add (R : Place → Place → Prop) (m n : Nat) (x y : Place) :
    Rounds R (m + n) x y ↔ ∃ z, Rounds R m x z ∧ Rounds R n z y := by
  induction m generalizing x with
  | zero => simp [Rounds]
  | succ m ih =>
    rw [Nat.succ_add]
    simp only [Rounds, ih]
    constructor
    · rintro ⟨u, hu, z, hz, hy⟩
      exact ⟨z, ⟨u, hu, hz⟩, hy⟩
    · rintro ⟨z, ⟨u, hu, hz⟩, hy⟩
      exact ⟨u, hu, z, hz, hy⟩

theorem rounds_one (R : Place → Place → Prop) (x y : Place) : Rounds R 1 x y ↔ R x y := by
  simp [Rounds]

theorem rounds_succ (R : Place → Place → Prop) (n : Nat) (x y : Place) :
    Rounds R (n + 1) x y ↔ ∃ z, Rounds R n x z ∧ R z y := by
  simp only [rounds_add R n 1, rounds_one]

/-- A repetition without a bound leads on after the rounds that are owed. -/
theorem leads_repeat_none (a : Pattern) (min : Nat) (greedy : Bool) (x y : Place) :
    (Pattern.repeat a min none greedy).Leads x y ↔
      ∃ z, Rounds a.Leads min x z ∧ ∃ l, Rounds a.Leads l z y := by
  rw [leads_repeat]
  constructor
  · rintro ⟨n, hmin, -, hy⟩
    obtain ⟨l, rfl⟩ := Nat.exists_eq_add_of_le hmin
    obtain ⟨z, hz, hy⟩ := (rounds_add a.Leads min l x y).mp hy
    exact ⟨z, hz, l, hy⟩
  · rintro ⟨z, hz, l, hy⟩
    exact ⟨min + l, Nat.le_add_right min l, by simp, (rounds_add a.Leads min l x y).mpr ⟨z, hz, hy⟩⟩

/-- A repetition with a bound leads on after the rounds that are owed and some of those left. -/
theorem leads_repeat_some (a : Pattern) (min max : Nat) (greedy : Bool) (x y : Place) :
    (Pattern.repeat a min (some max) greedy).Leads x y ↔
      ∃ z, Rounds a.Leads min x z ∧ ∃ l ≤ max - min, Rounds a.Leads l z y := by
  have hmax (l : Nat) : min + l ≤ Nat.max min max ↔ l ≤ max - min := by
    have hdef : Nat.max min max = if min ≤ max then max else min := Nat.max_def
    rw [hdef]
    split <;> omega
  rw [leads_repeat]
  constructor
  · rintro ⟨n, hmin, hbound, hy⟩
    obtain ⟨l, rfl⟩ := Nat.exists_eq_add_of_le hmin
    obtain ⟨z, hz, hy⟩ := (rounds_add a.Leads min l x y).mp hy
    exact ⟨z, hz, l, (hmax l).mp (hbound max rfl), hy⟩
  · rintro ⟨z, hz, l, hl, hy⟩
    refine ⟨min + l, Nat.le_add_right min l, fun m hm => ?_,
      (rounds_add a.Leads min l x y).mpr ⟨z, hz, hy⟩⟩
    obtain rfl : max = m := by simpa using hm
    exact (hmax l).mpr hl

/-- What one round keeps, several do. -/
theorem Rounds.transport {R : Place → Place → Prop} {S : Place → Place → Prop}
    (hround : ∀ {x x' y}, S x x' → R x y → ∃ y', S y y' ∧ R x' y') {n : Nat} {x x' y : Place}
    (hx : S x x') (h : Rounds R n x y) : ∃ y', S y y' ∧ Rounds R n x' y' := by
  induction n generalizing x x' with
  | zero =>
    obtain rfl : y = x := h
    exact ⟨x', hx, rfl⟩
  | succ n ih =>
    obtain ⟨z, hz, h⟩ := h
    obtain ⟨z', hz', hlead⟩ := hround hx hz
    obtain ⟨y', hy', hrounds⟩ := ih hz' h
    exact ⟨y', hy', z', hlead, hrounds⟩

/-! ## Words -/

theorem rounds_set_iff (s : CharSet) (n : Nat) (x y : Place) :
    Rounds (set s).Leads n x y ↔
      ∃ w, (∀ c ∈ w, s.contains c = true) ∧ w.length = n ∧ x.rest = w ++ y.rest ∧
        y = .behind x.prev w y.rest := by
  induction n generalizing x with
  | zero =>
    constructor
    · intro h
      obtain rfl : y = x := h
      exact ⟨[], by simp, rfl, rfl, rfl⟩
    · rintro ⟨w, -, hlen, hrest, hy⟩
      obtain rfl := List.eq_nil_of_length_eq_zero hlen
      rw [Place.behind_nil] at hy
      rw [List.nil_append] at hrest
      rw [Rounds, hy, ← hrest]
  | succ n ih =>
    simp only [Rounds, ih]
    constructor
    · rintro ⟨z, ⟨c, hc, hx, hz⟩, w, hw, hlen, hrest, hy⟩
      refine ⟨c :: w, by simpa [hc] using hw, by simp [hlen], by rw [hx, hrest]; rfl, ?_⟩
      rw [Place.behind_cons, ← hz]
      exact hy
    · rintro ⟨w, hw, hlen, hrest, hy⟩
      obtain ⟨c, w, rfl⟩ := List.exists_cons_of_length_eq_add_one hlen
      rw [Place.behind_cons] at hy
      refine ⟨⟨some c, w ++ y.rest⟩, ⟨c, hw c (by simp), hrest, rfl⟩, w, ?_, by simpa using hlen, rfl, hy⟩
      intro d hd
      exact hw d (List.mem_cons_of_mem c hd)

/-- A simple pattern leads over its words. -/
theorem leads_iff_matches {p : Pattern} (h : p.simple = true) (x y : Place) :
    p.Leads x y ↔ ∃ w, p.Matches w ∧ x.rest = w ++ y.rest ∧ y = .behind x.prev w y.rest := by
  induction p generalizing x y with
  | empty =>
    constructor
    · intro hy
      obtain rfl : y = x := hy
      exact ⟨[], rfl, rfl, rfl⟩
    · rintro ⟨w, rfl, hrest, hy⟩
      rw [Place.behind_nil] at hy
      rw [List.nil_append] at hrest
      rw [Leads, hy, ← hrest]
  | set s =>
    simp only [Leads, matches_set]
    constructor
    · rintro ⟨c, hc, hrest, hprev⟩
      refine ⟨[c], ⟨c, hc, rfl⟩, hrest, ?_⟩
      rw [Place.behind, List.getLast?_singleton, Option.some_or, ← hprev]
    · rintro ⟨_, ⟨c, hc, rfl⟩, hrest, hy⟩
      exact ⟨c, hc, hrest, by rw [hy]; rfl⟩
  | look l => simp [simple] at h
  | seq a b iha ihb =>
    simp only [simple, Bool.and_eq_true] at h
    simp only [Leads, matches_seq, iha h.1, ihb h.2]
    constructor
    · rintro ⟨z, ⟨u, hu, hx, hz⟩, v, hv, hrest, hy⟩
      refine ⟨u ++ v, ⟨u, v, hu, hv, rfl⟩, by rw [hx, hrest, List.append_assoc], ?_⟩
      rw [Place.behind_append, ← hrest, ← hz]
      exact hy
    · rintro ⟨_, ⟨u, v, hu, hv, rfl⟩, hrest, hy⟩
      rw [Place.behind_append] at hy
      rw [List.append_assoc] at hrest
      exact ⟨.behind x.prev u (v ++ y.rest), ⟨u, hu, hrest, rfl⟩, v, hv, rfl, hy⟩
  | alt a b iha ihb =>
    simp only [simple, Bool.and_eq_true] at h
    simp only [Leads, matches_alt, iha h.1, ihb h.2, or_and_right, exists_or]
  | «repeat» a min max greedy ih =>
    cases a <;> simp only [simple, Bool.false_eq_true] at h
    next s =>
    have hmax : ∀ m ∈ max, Nat.max min m = m := by
      intro m hm
      obtain rfl := Option.mem_def.mp hm
      exact Nat.max_eq_right (by simpa using h)
    simp only [leads_repeat, rounds_set_iff, matches_repeat_set]
    constructor
    · rintro ⟨n, hmin, hbound, w, hw, rfl, hrest, hy⟩
      refine ⟨w, ⟨hw, hmin, fun m hm => ?_⟩, hrest, hy⟩
      rw [← hmax m hm]
      exact hbound m hm
    · rintro ⟨w, ⟨hw, hmin, hbound⟩, hrest, hy⟩
      refine ⟨w.length, hmin, fun m hm => ?_, w, hw, rfl, hrest, hy⟩
      rw [hmax m hm]
      exact hbound m hm
  | group kept a ih => exact ih h x y

/-- A simple pattern leads on from some place of a text exactly if one of its words stands there. -/
theorem exists_leads_iff_matches {p : Pattern} (h : p.simple = true) (text : List Char) :
    (∃ before rest y, text = before ++ rest ∧ p.Leads ⟨before.getLast?, rest⟩ y) ↔
      ∃ before w after, text = before ++ w ++ after ∧ p.Matches w := by
  simp only [leads_iff_matches h]
  constructor
  · rintro ⟨before, _, y, rfl, w, hw, rfl, -⟩
    exact ⟨before, w, y.rest, by rw [List.append_assoc], hw⟩
  · rintro ⟨before, w, after, rfl, hw⟩
    exact ⟨before, w ++ after, .behind before.getLast? w after, by rw [List.append_assoc], w, hw, rfl, rfl⟩

end HookGate.Pattern
