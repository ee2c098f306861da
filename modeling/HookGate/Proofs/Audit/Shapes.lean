import HookGate.Audit.Redaction
import HookGate.Proofs.Pattern.Substitution

/-!
# Shapes of credentials

The words of credentials come in two shapes. An assignment is a name, a sign and a value behind
it. A token is a fixed head with a run of characters behind it. A shape carries the properties
that keep the parts of its words apart, so that a word can be read in one way only.
-/

namespace HookGate.Redaction

open Pattern Text

/-- Characters that stand in no name and in no token. -/
def isDelimiter (c : Char) : Bool := isBlank c || ['=', ':', '\'', '"', '.', '[', ']'].contains c

theorem isDelimiter_of_isBlank {c : Char} (h : isBlank c = true) : isDelimiter c = true := by
  simp [isDelimiter, h]

theorem isDelimiter_of_isQuote {c : Char} (h : isQuote c = true) : isDelimiter c = true := by
  simp only [isQuote, Bool.or_eq_true, beq_iff_eq] at h
  rcases h with rfl | rfl <;> rfl

theorem isBlank_of_isQuote {c : Char} (h : isQuote c = true) : isBlank c = false := by
  simp only [isQuote, Bool.or_eq_true, beq_iff_eq] at h
  rcases h with rfl | rfl <;> rfl

theorem not_blank_or_quote_of_plain {c : Char} (h : isDelimiter c = false) :
    isBlank c = false ∧ isQuote c = false := by
  refine ⟨Bool.eq_false_iff.mpr fun hb => ?_, Bool.eq_false_iff.mpr fun hq => ?_⟩
  · rw [isDelimiter_of_isBlank hb] at h
    contradiction
  · rw [isDelimiter_of_isQuote hq] at h
    contradiction

/-- Delimiters have no case. -/
theorem asciiKey_of_isDelimiter {c : Char} (h : isDelimiter c = true) : asciiKey c = c := by
  by_cases hc : NearAscii c
  · exact NearAscii.rec_check (P := fun c => isDelimiter c = true → asciiKey c = c)
      (by decide) (by decide) (by decide) hc h
  · exact asciiKey_eq_self hc

/-- The assignment of a value to a name. Names are given by their keys. -/
structure Assignment where
  names : List (List Char)
  signs : List Char
  /-- Whether a quote may open the value. -/
  quoted : Bool
  value : Char → Bool
  least : Nat
  names_plain : ∀ s ∈ names, s.any isDelimiter = false
  /-- No name stands in the marker. -/
  names_clear : ∀ s ∈ names, ∀ z ∈ marker.tails, ¬ s <+: z.map asciiKey
  signs_subset : ∀ g ∈ signs, g = '=' ∨ g = ':'
  value_not_blank : ∀ c, value c = true → isBlank c = false
  value_not_quote : quoted = true → ∀ c, value c = true → isQuote c = false
  value_of_keyIdChar : ∀ c, keyIdChar.contains c = true → value c = true
  least_pos : 0 < least
  /-- A value that may hold the marker may be anything between blanks and quotes. -/
  value_open : value '[' = true →
    least = 1 ∧ ∀ c, isBlank c = false → isQuote c = false → value c = true

namespace Assignment

variable {a : Assignment}

/-- The parts of a word: name, blanks, sign, blanks, opening quote and value. -/
structure Spells (a : Assignment) (n b : List Char) (g : Char) (d q v : List Char) : Prop where
  name : n.map asciiKey ∈ a.names
  gap : ∀ c ∈ b, isBlank c = true
  sign : g ∈ a.signs
  space : ∀ c ∈ d, isBlank c = true
  quote : ∀ c ∈ q, isQuote c = true
  quote_length : q.length ≤ 1
  unquoted : a.quoted = false → q = []
  value : ∀ c ∈ v, a.value c = true
  least_le : a.least ≤ v.length

def Word (a : Assignment) (w : List Char) : Prop :=
  ∃ n b g d q v, a.Spells n b g d q v ∧ w = n ++ (b ++ g :: (d ++ (q ++ v)))

namespace Spells

variable {n b d q v : List Char} {g : Char}

theorem name_plain (h : a.Spells n b g d q v) : ∀ c ∈ n, isDelimiter c = false := by
  intro c hc
  by_contra hdel
  rw [Bool.not_eq_false] at hdel
  have hkey := List.any_eq_false.mp (a.names_plain _ h.name) (asciiKey c) (List.mem_map_of_mem hc)
  rw [asciiKey_of_isDelimiter hdel] at hkey
  exact hkey hdel

theorem name_ne_nil (h : a.Spells n b g d q v) : n ≠ [] := by
  rintro rfl
  exact a.names_clear _ h.name [] (by simp) (List.prefix_refl _)

theorem value_ne_nil (h : a.Spells n b g d q v) : v ≠ [] := by
  rintro rfl
  have hlen := h.least_le
  have hpos := a.least_pos
  rw [List.length_nil] at hlen
  omega

theorem sign_delimiter (h : a.Spells n b g d q v) : isDelimiter g = true := by
  rcases a.signs_subset g h.sign with rfl | rfl <;> rfl

/-- Behind the name stands a delimiter. -/
theorem head_delimiter (h : a.Spells n b g d q v) (r : List Char) :
    ∀ c ∈ (b ++ g :: r).head?, isDelimiter c = true := by
  intro c hc
  cases b with
  | nil =>
    obtain rfl : g = c := by simpa using hc
    exact h.sign_delimiter
  | cons e es =>
    obtain rfl : e = c := by simpa using hc
    exact isDelimiter_of_isBlank (h.gap e (by simp))

end Spells

/-! ## Where words stand -/

private theorem split_append_cons {α : Type} {l₁ l₂ x y : List α} {c : α}
    (h : l₁ ++ l₂ = x ++ c :: y) (hc : c ∉ l₁) : ∃ x₂, x = l₁ ++ x₂ ∧ l₂ = x₂ ++ c :: y := by
  rcases List.append_eq_append_iff.mp h with ⟨m, hx, hl⟩ | ⟨m, hl, hx⟩
  · exact ⟨m, hx, hl⟩
  · cases m with
    | nil => exact ⟨[], by simpa using hl.symm, by simpa using hx.symm⟩
    | cons e es =>
      obtain ⟨rfl, rfl⟩ := List.cons_eq_cons.mp hx
      exact absurd (by simp [hl]) hc

/-- A word that goes on behind a blank with something else than a delimiter begins its value
there. -/
theorem Spells.split_behind_blank {n b d q v x y : List Char} {g c s : Char}
    (h : a.Spells n b g d q v) (heq : n ++ (b ++ g :: (d ++ (q ++ v))) = x ++ s :: c :: y)
    (hs : isBlank s = true) (hc : isDelimiter c = false) :
    q = [] ∧ x ++ [s] = n ++ (b ++ g :: d) ∧ v = c :: y := by
  have hname : s ∉ n := by
    intro hmem
    have := h.name_plain s hmem
    rw [isDelimiter_of_isBlank hs] at this
    contradiction
  have hnot {l : List Char} (hl : ∀ e ∈ l, isDelimiter e = true) : c ∉ l := by
    intro hmem
    rw [hl c hmem] at hc
    contradiction
  obtain ⟨x₁, rfl, heq₁⟩ := split_append_cons heq hname
  rw [List.append_cons x₁ s] at heq₁
  obtain ⟨x₂, hx₂, heq₂⟩ := split_append_cons heq₁
    (hnot fun e he => isDelimiter_of_isBlank (h.gap e he))
  cases x₂ with
  | nil =>
    rw [← (List.cons_eq_cons.mp heq₂).1, h.sign_delimiter] at hc
    contradiction
  | cons e x₃ =>
    obtain ⟨rfl, heq₃⟩ := List.cons_eq_cons.mp heq₂
    obtain ⟨x₄, rfl, heq₄⟩ := split_append_cons heq₃
      (hnot fun e he => isDelimiter_of_isBlank (h.space e he))
    have hempty : x₄ = [] := by
      by_contra hne
      -- the blank would stand in the quote or in the value
      have hlast := congrArg List.getLast? hx₂
      rw [List.getLast?_concat, List.append_cons, ← List.append_assoc,
        List.getLast?_append_of_ne_nil _ hne] at hlast
      have hmem : s ∈ q ++ v := by
        rw [heq₄]
        exact List.mem_append_left _ (List.mem_of_getLast? hlast.symm)
      have hopen : isBlank s = false := by
        rcases List.mem_append.mp hmem with hmem | hmem
        · exact isBlank_of_isQuote (h.quote s hmem)
        · exact a.value_not_blank s (h.value s hmem)
      rw [hs] at hopen
      contradiction
    subst hempty
    obtain ⟨x₅, hx₅, heq₅⟩ := split_append_cons heq₄
      (hnot fun e he => isDelimiter_of_isQuote (h.quote e he))
    obtain ⟨rfl, rfl⟩ := List.append_eq_nil_iff.mp hx₅.symm
    refine ⟨rfl, ?_, heq₅⟩
    rw [List.append_assoc, hx₂, List.append_nil]

/-- In front of a delimiter a word has the text up to it as its name. -/
theorem Spells.name_eq_of_prefix {n b d q v k y : List Char} {g : Char}
    (h : a.Spells n b g d q v) (hk : ∀ c ∈ k, isDelimiter c = false)
    (hy : ∀ c ∈ y.head?, isDelimiter c = true)
    (hp : n ++ (b ++ g :: (d ++ (q ++ v))) <+: k ++ y) :
    n = k ∧ b ++ g :: (d ++ (q ++ v)) <+: y := by
  obtain ⟨r, hr⟩ := hp
  rw [List.append_assoc] at hr
  rcases List.append_eq_append_iff.mp hr with ⟨m, rfl, hm⟩ | ⟨m, rfl, hm⟩
  · cases m with
    | nil => exact ⟨(List.append_nil n).symm, r, hm⟩
    | cons c cs =>
      have hdel := h.head_delimiter (d ++ (q ++ v) ++ r) c (by
        have := congrArg List.head? hm
        simpa [List.append_assoc] using this)
      rw [hk c (by simp)] at hdel
      contradiction
  · cases m with
    | nil => exact ⟨List.append_nil k, r, hm.symm⟩
    | cons c cs =>
      have hdel := hy c (by rw [hm]; rfl)
      rw [h.name_plain c (by simp)] at hdel
      contradiction

/-- A bracket stands in the value, if anywhere. -/
theorem Spells.split_bracket {n b d q v u r : List Char} {g : Char} (h : a.Spells n b g d q v)
    (heq : n ++ (b ++ g :: (d ++ (q ++ v))) = u ++ '[' :: r) :
    ∃ x, u = n ++ (b ++ g :: (d ++ (q ++ x))) ∧ v = x ++ '[' :: r := by
  have hhead : '[' ∉ n ++ (b ++ g :: (d ++ q)) := by
    intro hmem
    simp only [List.mem_append, List.mem_cons] at hmem
    rcases hmem with hmem | hmem | hmem | hmem | hmem
    · exact absurd (h.name_plain _ hmem) (by decide)
    · exact absurd (h.gap _ hmem) (by decide)
    · have hsign := h.sign
      rw [← hmem] at hsign
      exact absurd (a.signs_subset _ hsign) (by decide)
    · exact absurd (h.space _ hmem) (by decide)
    · exact absurd (h.quote _ hmem) (by decide)
  have hsplit : n ++ (b ++ g :: (d ++ q)) ++ v = u ++ '[' :: r := by
    simpa only [List.append_assoc, List.cons_append] using heq
  obtain ⟨x, rfl, hv⟩ := split_append_cons hsplit hhead
  exact ⟨x, by simp only [List.append_assoc, List.cons_append], hv⟩

/-- A word that reaches into the marker could read any plain character in its place. -/
theorem Word.open_of_bracket {u r : List Char} (h : a.Word (u ++ '[' :: r)) :
    a.value '[' = true ∧ ∀ c, isDelimiter c = false → a.Word (u ++ [c]) := by
  obtain ⟨n, b, g, d, q, v, h, heq⟩ := h
  obtain ⟨x, rfl, rfl⟩ := h.split_bracket heq.symm
  have hopen := h.value '[' (by simp)
  refine ⟨hopen, fun c hc => ?_⟩
  obtain ⟨hleast, hall⟩ := a.value_open hopen
  have hplain := not_blank_or_quote_of_plain hc
  refine ⟨n, b, g, d, q, x ++ [c], { h with value := ?_, least_le := ?_ }, by simp⟩
  · intro e he
    rcases List.mem_append.mp he with he | he
    · exact h.value e (List.mem_append_left _ he)
    · rw [List.mem_singleton.mp he]
      exact hall c hplain.1 hplain.2
  · rw [hleast, List.length_append, List.length_singleton]
    omega

/-! ## The value of an assignment -/

/-- What follows the first sign, without blanks and an opening quote. -/
def valueOf (a : Assignment) (text : List Char) : List Char :=
  (((text.dropWhile fun c => !a.signs.contains c).drop 1).dropWhile isBlank).dropWhile
    fun c => a.quoted && isQuote c

theorem Spells.valueOf_append {n b d q v : List Char} {g : Char} (h : a.Spells n b g d q v)
    (r : List Char) : a.valueOf (n ++ (b ++ g :: (d ++ (q ++ v))) ++ r) = v ++ r := by
  have hsign {c : Char} (hc : isDelimiter c = false ∨ isBlank c = true) :
      (!a.signs.contains c) = true := by
    rw [Bool.not_eq_true', ← Bool.not_eq_true, List.contains_iff_mem]
    intro hmem
    rcases a.signs_subset c hmem with rfl | rfl <;> rcases hc with hc | hc <;> cases hc
  have hname : ∀ c ∈ n, (!a.signs.contains c) = true := fun c hc => hsign (.inl (h.name_plain c hc))
  have hgap : ∀ c ∈ b, (!a.signs.contains c) = true := fun c hc => hsign (.inr (h.gap c hc))
  obtain ⟨c, cs, rfl⟩ := List.exists_cons_of_ne_nil h.value_ne_nil
  have hc := h.value c (by simp)
  have hhead : ∀ x : List Char, ((q ++ c :: cs) ++ x).dropWhile isBlank = (q ++ c :: cs) ++ x := by
    intro x
    cases q with
    | nil => exact List.dropWhile_cons_of_neg (by simp [a.value_not_blank c hc])
    | cons e es =>
      have := isBlank_of_isQuote (h.quote e (by simp))
      exact List.dropWhile_cons_of_neg (by simp [this])
  have hquote : ∀ e ∈ q, (a.quoted && isQuote e) = true := by
    intro e he
    cases hq : a.quoted with
    | true => simp [h.quote e he]
    | false => simp [h.unquoted hq] at he
  have hfirst : (a.quoted && isQuote c) = false := by
    cases hq : a.quoted with
    | true => simp [a.value_not_quote hq c hc]
    | false => rfl
  simp only [valueOf, List.append_assoc, List.cons_append]
  rw [List.dropWhile_append_of_pos hname, List.dropWhile_append_of_pos hgap,
    List.dropWhile_cons_of_neg (by simpa using h.sign), List.drop_one, List.tail_cons,
    List.dropWhile_append_of_pos h.space]
  have hhead := hhead r
  simp only [List.append_assoc, List.cons_append] at hhead
  rw [hhead, List.dropWhile_append_of_pos hquote, List.dropWhile_cons_of_neg (by simp [hfirst])]

theorem Word.valueOf_append {w : List Char} (h : a.Word w) (x : List Char) :
    a.valueOf (w ++ x) = a.valueOf w ++ x := by
  obtain ⟨n, b, g, d, q, v, h, rfl⟩ := h
  have hv := h.valueOf_append []
  rw [List.append_nil, List.append_nil] at hv
  rw [h.valueOf_append, hv]

theorem Word.mem_valueOf {w : List Char} (h : a.Word w) {c : Char} (hc : c ∈ a.valueOf w) :
    a.value c = true := by
  obtain ⟨n, b, g, d, q, v, h, rfl⟩ := h
  have hv := h.valueOf_append []
  rw [List.append_nil, List.append_nil] at hv
  rw [hv] at hc
  exact h.value c hc

/-- A pattern for the words of an assignment that reads the value greedily closes with it. -/
theorem closesWith {p : Pattern} (hsimple : p.simple = true)
    (hwords : ∀ w, p.Matches w ↔ a.Word w) (heager : Eager a.value p) :
    p.ClosesWith a.value where
  simple := hsimple
  nonempty := by
    rw [hwords]
    rintro ⟨n, b, g, d, q, v, h, hnil⟩
    simp at hnil
  eager := heager
  grows := by
    intro w x hw hwx c hc
    rw [hwords] at hw hwx
    apply hwx.mem_valueOf
    rw [hw.valueOf_append]
    exact List.mem_append_right _ hc

end Assignment

/-- A token: one of some heads of equal length, and a run of characters. -/
structure Token where
  heads : List (List Char)
  width : Nat
  run : Char → Bool
  least : Nat
  /-- Whether no more characters than necessary belong to the token. -/
  exact : Bool
  heads_width : ∀ s ∈ heads, s.length = width
  heads_plain : ∀ s ∈ heads, s.any isDelimiter = false
  /-- No head stands in the marker. -/
  heads_clear : ∀ s ∈ heads, ∀ z ∈ marker.tails, ¬ s <+: z
  run_plain : ∀ c, run c = true → isDelimiter c = false
  long : 20 ≤ width + least

namespace Token

variable {t : Token}

def Word (t : Token) (w : List Char) : Prop :=
  ∃ s ∈ t.heads, ∃ v, (∀ c ∈ v, t.run c = true) ∧ t.least ≤ v.length ∧
    (t.exact = true → v.length = t.least) ∧ w = s ++ v

/-- The characters that a longer token could have behind it. -/
def closing (t : Token) (c : Char) : Bool := !t.exact && t.run c

theorem Word.plain {w : List Char} (h : t.Word w) : ∀ c ∈ w, isDelimiter c = false := by
  obtain ⟨s, hs, v, hv, -, -, rfl⟩ := h
  intro c hc
  rcases List.mem_append.mp hc with hc | hc
  · exact Bool.not_eq_true _ ▸ List.any_eq_false.mp (t.heads_plain s hs) c hc
  · exact t.run_plain c (hv c hc)

theorem Word.long {w : List Char} (h : t.Word w) : 20 ≤ w.length := by
  obtain ⟨s, hs, v, -, hlen, -, rfl⟩ := h
  have hwidth := t.heads_width s hs
  have hlong := t.long
  rw [List.length_append]
  omega

theorem closesWith {p : Pattern} (hsimple : p.simple = true)
    (hwords : ∀ w, p.Matches w ↔ t.Word w) (heager : Eager t.closing p) :
    p.ClosesWith t.closing where
  simple := hsimple
  nonempty := by
    rw [hwords]
    intro h
    have := h.long
    simp at this
  eager := heager
  grows := by
    intro w x hw hwx c hc
    rw [hwords] at hw hwx
    obtain ⟨s, hs, v, hv, hlen, hexact, rfl⟩ := hw
    obtain ⟨s', hs', v', hv', hlen', hexact', heq⟩ := hwx
    rw [List.append_assoc] at heq
    obtain ⟨rfl, rfl⟩ := List.append_inj heq
      ((t.heads_width s hs).trans (t.heads_width s' hs').symm)
    cases hx : t.exact with
    | true =>
      have := hexact hx
      have := hexact' hx
      rw [List.length_append] at this
      obtain rfl : x = [] := List.eq_nil_of_length_eq_zero (by omega)
      simp at hc
    | false => simp [closing, hx, hv' c (List.mem_append_right v hc)]

end Token

end HookGate.Redaction
