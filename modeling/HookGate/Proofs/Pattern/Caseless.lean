import HookGate.Pattern.Compiled
import HookGate.Proofs.Pattern.Assembly
import HookGate.Proofs.Text.AsciiCase

/-!
# Patterns that ignore case

A pattern whose sets each hold both cases of an ASCII letter or none cannot tell apart two texts that
differ by the case of such letters only: where it leads in the one, it leads in the other.
-/

namespace HookGate

open Text

/-- A set that holds both cases of an ASCII letter or none. -/
def CharSet.ignoresCase (s : CharSet) : Bool :=
  (List.range 26).all fun n => s.contains (Char.ofNat (0x41 + n)) == s.contains (Char.ofNat (0x61 + n))

namespace CharSet

variable {s : CharSet}

theorem ignoresCase_iff : s.ignoresCase = true ↔
    ∀ n < 26, s.contains (Char.ofNat (0x41 + n)) = s.contains (Char.ofNat (0x61 + n)) := by
  simp [ignoresCase]

theorem contains_toLower (h : s.ignoresCase = true) (c : Char) : s.contains c.toLower = s.contains c :=
  apply_toLower (ignoresCase_iff.mp h) c

theorem ignoresCase_compl (h : s.ignoresCase = true) : s.compl.ignoresCase = true := by
  rw [ignoresCase_iff] at h ⊢
  intro n hn
  simp [contains, h n hn]

/-- The rings of the two cases of a letter hold the same characters. -/
theorem ignoresCase_folded : s.folded.ignoresCase = true := by
  have hring : ∀ n < 26, ring (Char.ofNat (0x41 + n)) ⊆ ring (Char.ofNat (0x61 + n)) ∧
      ring (Char.ofNat (0x61 + n)) ⊆ ring (Char.ofNat (0x41 + n)) := by
    decide +kernel
  rw [ignoresCase_iff]
  intro n hn
  obtain ⟨hup, hdown⟩ := hring n hn
  rw [contains, contains, Bool.eq_iff_iff, List.any_eq_true, List.any_eq_true]
  constructor
  · rintro ⟨c, hc, hs⟩
    exact ⟨c, hup hc, hs⟩
  · rintro ⟨c, hc, hs⟩
    exact ⟨c, hdown hc, hs⟩

theorem ignoresCase_foldedAscii : s.foldedAscii.ignoresCase = true := by
  have hother : ∀ n < 26, otherCase (Char.ofNat (0x41 + n)) = Char.ofNat (0x61 + n) ∧
      otherCase (Char.ofNat (0x61 + n)) = Char.ofNat (0x41 + n) := by
    decide +kernel
  rw [ignoresCase_iff]
  intro n hn
  obtain ⟨hup, hdown⟩ := hother n hn
  rw [contains, contains, hup, hdown, Bool.or_comm]

/-- Sets that hold no ASCII letter at all. -/
theorem ignoresCase_ranges {rs : Ranges} (h : ∀ r ∈ rs, r.2 < 0x41 ∨ 0x7A < r.1) :
    (ranges rs).ignoresCase = true := by
  have hfree {n : Nat} (hlow : 0x41 ≤ n) (hhigh : n ≤ 0x7A) : rs.contains n = false := by
    rw [Ranges.contains, List.any_eq_false]
    intro r hr hn
    simp only [Bool.and_eq_true, decide_eq_true_eq] at hn
    have := h r hr
    omega
  have hletter : ∀ n < 26, (Char.ofNat (0x41 + n)).toNat = 0x41 + n ∧
      (Char.ofNat (0x61 + n)).toNat = 0x61 + n := by
    decide
  rw [ignoresCase_iff]
  intro n hn
  obtain ⟨hup, hdown⟩ := hletter n hn
  rw [contains, contains, hup, hdown, hfree (by omega) (by omega), hfree (by omega) (by omega)]

theorem ignoresCase_single {c : Char} (h : 0x80 ≤ c.toNat) : (single c).ignoresCase = true := by
  apply ignoresCase_ranges
  intro r hr
  obtain rfl := List.mem_singleton.mp hr
  right
  show 0x7A < c.toNat
  omega

theorem ignoresCase_digit : digit.ignoresCase = true := ignoresCase_ranges (by decide +kernel)

end CharSet

namespace Look

theorem inWord_map_toLower (ascii : Bool) (o : Option Char) :
    inWord ascii (o.map Char.toLower) = inWord ascii o := by
  cases o with
  | none => rfl
  | some c =>
    cases ascii with
    | true => exact CharSet.contains_toLower (s := .asciiWord) (by decide) c
    | false => exact apply_toLower (f := isWordChar) (by decide +kernel) c

/-- Conditions on neighbours speak of line ends and of words, in which case does not matter. -/
theorem holds_map_toLower (l : Look) (prev next : Option Char) :
    l.holds (prev.map Char.toLower) (next.map Char.toLower) = l.holds prev next := by
  have hend (o : Option Char) {d : Char}
      (hd : ∀ n < 26, d ≠ Char.ofNat (0x41 + n) ∧ d ≠ Char.ofNat (0x61 + n)) :
      o.map Char.toLower = some d ↔ o = some d := by
    simp only [Option.map_eq_some_iff, toLower_eq_iff _ hd, exists_eq_right]
  have hfeed (o : Option Char) := hend o (d := '\n') (by decide)
  have hreturn (o : Option Char) := hend o (d := '\r') (by decide)
  cases l <;> simp only [holds, Option.isNone_map, inWord_map_toLower, ne_eq, hfeed, hreturn]

end Look

namespace Pattern

/-- Two places in texts that differ at most by the case of ASCII letters. -/
structure Place.Variants (x y : Place) : Prop where
  prev : x.prev.map Char.toLower = y.prev.map Char.toLower
  rest : CaseVariants x.rest y.rest

/-- The sets of a pattern ignore case. -/
def setsIgnoreCase (p : Pattern) : Bool := (p.setsBefore []).all CharSet.ignoresCase

theorem setsIgnoreCase_set (s : CharSet) : (set s).setsIgnoreCase = s.ignoresCase := by
  simp [setsIgnoreCase, setsBefore]

theorem setsIgnoreCase_seq (a b : Pattern) :
    (seq a b).setsIgnoreCase = (a.setsIgnoreCase && b.setsIgnoreCase) := by
  rw [setsIgnoreCase, setsBefore, setsBefore_eq_append, List.all_append]
  rfl

theorem setsIgnoreCase_alt (a b : Pattern) :
    (alt a b).setsIgnoreCase = (a.setsIgnoreCase && b.setsIgnoreCase) :=
  setsIgnoreCase_seq a b

theorem setsIgnoreCase_concat {ps : List Pattern} (h : ∀ p ∈ ps, p.setsIgnoreCase = true) :
    (concat ps).setsIgnoreCase = true := by
  induction ps with
  | nil => rfl
  | cons p ps ih =>
    obtain ⟨hp, hps⟩ := List.forall_mem_cons.mp h
    cases ps with
    | nil => exact hp
    | cons q qs =>
      rw [concat, setsIgnoreCase_seq, hp, ih hps]
      · rfl
      · exact List.cons_ne_nil q qs

theorem setsIgnoreCase_alternatives {ps : List Pattern} (h : ∀ p ∈ ps, p.setsIgnoreCase = true) :
    (alternatives ps).setsIgnoreCase = true := by
  induction ps with
  | nil => decide
  | cons p ps ih =>
    obtain ⟨hp, hps⟩ := List.forall_mem_cons.mp h
    cases ps with
    | nil => exact hp
    | cons q qs =>
      rw [alternatives, setsIgnoreCase_alt, hp, ih hps]
      · rfl
      · exact List.cons_ne_nil q qs

theorem setsIgnoreCase_apart (p : Pattern) : p.apart.setsIgnoreCase = p.setsIgnoreCase := by
  cases p <;> rfl

/-- Where a pattern leads from a place, it leads to a variant from a variant of the place. -/
theorem Leads.exists_variant {p : Pattern} (h : p.setsIgnoreCase = true) {x x' y : Place}
    (hx : x.Variants x') (hlead : p.Leads x y) : ∃ y', y.Variants y' ∧ p.Leads x' y' := by
  induction p generalizing x x' y with
  | empty =>
    obtain rfl : y = x := hlead
    exact ⟨x', hx, rfl⟩
  | set s =>
    have hs : s.ignoresCase = true := by simpa [setsIgnoreCase, setsBefore] using h
    obtain ⟨c, hc, hrest, hprev⟩ := hlead
    obtain ⟨d, rest, hrest', hcd, hvariants⟩ := (hrest ▸ hx.rest).exists_cons
    refine ⟨⟨some d, rest⟩, ⟨?_, hvariants⟩, d, ?_, hrest', rfl⟩
    · rw [hprev, Option.map_some, Option.map_some, hcd]
    · rw [← CharSet.contains_toLower hs, ← hcd, CharSet.contains_toLower hs, hc]
  | look l =>
    obtain ⟨hholds, rfl⟩ := hlead
    refine ⟨x', hx, ?_, rfl⟩
    have hhead : y.rest.head?.map Char.toLower = x'.rest.head?.map Char.toLower := by
      rw [← List.head?_map, ← List.head?_map, hx.rest]
    rw [← l.holds_map_toLower, ← hx.prev, ← hhead, l.holds_map_toLower]
    exact hholds
  | seq a b iha ihb =>
    rw [setsIgnoreCase_seq, Bool.and_eq_true] at h
    obtain ⟨z, hz, hy⟩ := hlead
    obtain ⟨z', hzz', hz'⟩ := iha h.1 hx hz
    obtain ⟨y', hyy', hy'⟩ := ihb h.2 hzz' hy
    exact ⟨y', hyy', z', hz', hy'⟩
  | alt a b iha ihb =>
    rw [setsIgnoreCase_alt, Bool.and_eq_true] at h
    rcases hlead with ha | hb
    · obtain ⟨y', hyy', hy'⟩ := iha h.1 hx ha
      exact ⟨y', hyy', .inl hy'⟩
    · obtain ⟨y', hyy', hy'⟩ := ihb h.2 hx hb
      exact ⟨y', hyy', .inr hy'⟩
  | «repeat» a min max greedy ih =>
    obtain ⟨n, hmin, hmax, hrounds⟩ := hlead
    have hround {x x' y : Place} (hx : x.Variants x') (hlead : a.Leads x y) :
        ∃ y', y.Variants y' ∧ a.Leads x' y' := ih h hx hlead
    obtain ⟨y', hyy', hrounds'⟩ := hrounds.transport hround hx
    exact ⟨y', hyy', n, hmin, hmax, hrounds'⟩
  | group kept a ih => exact ih h hx hlead

/-- A pattern that cannot tell apart texts that differ by the case of ASCII letters only. -/
def IgnoresCase (p : Pattern) : Prop :=
  ∀ xs ys, CaseVariants xs ys → p.occurs xs = p.occurs ys

/-- A pattern ignores case if its sets do. -/
theorem ignoresCase_of_sets {p : Pattern} (h : p.setsIgnoreCase = true) : p.IgnoresCase := by
  have hone {xs ys : List Char} (hxy : CaseVariants xs ys) (hoccurs : p.occurs xs = true) :
      p.occurs ys = true := by
    rw [occurs_iff_leads] at hoccurs ⊢
    obtain ⟨before, rest, y, rfl, hlead⟩ := hoccurs
    obtain ⟨before', rest', rfl, hbefore, hrest⟩ := hxy.exists_append
    have hplace : Place.Variants ⟨before.getLast?, rest⟩ ⟨before'.getLast?, rest'⟩ := by
      refine ⟨?_, hrest⟩
      show Option.map _ _ = Option.map _ _
      rw [← List.getLast?_map, ← List.getLast?_map, hbefore]
    obtain ⟨y', -, hlead'⟩ := hlead.exists_variant h hplace
    exact ⟨before', rest', y', rfl, hlead'⟩
  intro xs ys hxy
  rw [Bool.eq_iff_iff]
  exact ⟨hone hxy, hone hxy.symm⟩

end Pattern

end HookGate
