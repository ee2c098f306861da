import HookGate.Proofs.Audit.Pieces

/-!
# Hidden parts

Which characters of a text are hidden, and by which marker. A stage of redaction adds markers for
whole pieces, each where a word of the pattern begins in the text, and leaves no word without a
hidden character.
-/

namespace HookGate.Redaction

open Pattern Text

variable {p : Pattern} {s : Char → Bool} {ps qs x y z : List Piece} {a : Nat} {w : List Char}

/-- Whether the character at a place of the source is hidden. -/
def gone : List Piece → Nat → Bool
  | [], _ => false
  | q :: ps, k => if k < q.source.length then q.isHidden else gone ps (k - q.source.length)

/-- The part `w` of the source, at the place `a`, is hidden behind one marker. -/
def HiddenAt (ps : List Piece) (a : Nat) (w : List Char) : Prop :=
  ∃ x z, ps = x ++ .hidden w :: z ∧ (source x).length = a

/-- Every character of a part at the place `a` is hidden. -/
def Covers (ps : List Piece) (a : Nat) (w : List Char) : Prop :=
  ∀ k < w.length, gone ps (a + k) = true

/-- The part `w` of the source, at the place `a`, is made of whole pieces that show a word. -/
def Intact (p : Pattern) (ps : List Piece) (a : Nat) (w : List Char) : Prop :=
  ∃ x y z, ps = x ++ (y ++ z) ∧ (source x).length = a ∧ source y = w ∧ p.Matches (shown y)

/-! ## Places -/

theorem gone_cons_of_lt {q : Piece} {k : Nat} (hk : k < q.source.length) (ps : List Piece) :
    gone (q :: ps) k = q.isHidden := by
  rw [gone, if_pos hk]

theorem gone_cons_add (q : Piece) (ps : List Piece) (k : Nat) :
    gone (q :: ps) (q.source.length + k) = gone ps k := by
  rw [gone, if_neg (by omega), Nat.add_sub_cancel_left]

theorem gone_append_right (x z : List Piece) (k : Nat) :
    gone (x ++ z) ((source x).length + k) = gone z k := by
  induction x with
  | nil => simp
  | cons q x ih =>
    rw [List.cons_append, source_cons, List.length_append, Nat.add_assoc, gone_cons_add, ih]

theorem covers_append_right (x : List Piece) (a : Nat) (w : List Char) :
    Covers (x ++ z) ((source x).length + a) w ↔ Covers z a w := by
  simp only [Covers, Nat.add_assoc, gone_append_right]

theorem HiddenAt.append_left (h : HiddenAt z a w) (x : List Piece) :
    HiddenAt (x ++ z) ((source x).length + a) w := by
  obtain ⟨u, v, rfl, rfl⟩ := h
  exact ⟨x ++ u, v, by rw [List.append_assoc], by rw [source_append, List.length_append]⟩

theorem HiddenAt.cons (h : HiddenAt ps a w) (q : Piece) :
    HiddenAt (q :: ps) (q.source.length + a) w := by
  obtain ⟨u, v, rfl, rfl⟩ := h
  exact ⟨q :: u, v, rfl, by rw [source_cons, List.length_append]⟩

theorem HiddenAt.covers (h : HiddenAt ps a w) : Covers ps a w := by
  obtain ⟨x, z, rfl, rfl⟩ := h
  intro k hk
  rw [gone_append_right, gone_cons_of_lt (by exact hk)]
  rfl

/-- A part that is hidden among a piece and more is the piece itself, or lies behind it. -/
theorem HiddenAt.cons_cases {q : Piece} (h : HiddenAt (q :: ps) a w) :
    (a = 0 ∧ q = .hidden w) ∨ ∃ b, a = q.source.length + b ∧ HiddenAt ps b w := by
  obtain ⟨x, z, heq, rfl⟩ := h
  cases x with
  | nil =>
    obtain ⟨rfl, -⟩ := List.cons_eq_cons.mp heq
    exact .inl ⟨rfl, rfl⟩
  | cons q' x =>
    obtain ⟨rfl, rfl⟩ := List.cons_eq_cons.mp heq
    exact .inr ⟨_, by rw [source_cons, List.length_append], x, z, rfl, rfl⟩

theorem not_hiddenAt_map_kept (t : List Char) : ¬ HiddenAt (t.map .kept) a w := by
  rintro ⟨x, z, heq, -⟩
  have hmem : Piece.hidden w ∈ t.map .kept := by simp [heq]
  simp at hmem

theorem exists_hiddenAt_of_gone {k : Nat} (hk : gone ps k = true) :
    ∃ a w, HiddenAt ps a w ∧ a ≤ k ∧ k < a + w.length := by
  induction ps generalizing k with
  | nil => simp [gone] at hk
  | cons q ps ih =>
    rcases Nat.lt_or_ge k q.source.length with hlt | hge
    · rw [gone_cons_of_lt hlt] at hk
      cases q with
      | kept c => contradiction
      | hidden w => exact ⟨0, w, ⟨[], ps, rfl, rfl⟩, Nat.zero_le k, by rwa [Nat.zero_add]⟩
    · obtain ⟨i, rfl⟩ := Nat.exists_eq_add_of_le hge
      rw [gone_cons_add] at hk
      obtain ⟨a, w, ha, hle, hlt⟩ := ih hk
      exact ⟨_, w, ha.cons q, by omega, by omega⟩

theorem gone_map_kept (t : List Char) (k : Nat) : gone (t.map .kept) k = false := by
  by_contra hk
  obtain ⟨a, w, ha, -⟩ := exists_hiddenAt_of_gone (Bool.not_eq_false _ ▸ hk)
  exact not_hiddenAt_map_kept t ha

/-- Two splits of pieces by the same or a greater length of the source. -/
theorem exists_append_of_source_le (hps : Sound (x ++ ps)) {u v : List Piece}
    (heq : x ++ ps = u ++ v) (hle : (source x).length ≤ (source u).length) :
    ∃ m, u = x ++ m ∧ ps = m ++ v := by
  rcases List.append_eq_append_iff.mp heq with ⟨m, rfl, rfl⟩ | ⟨m, rfl, rfl⟩
  · exact ⟨m, rfl, rfl⟩
  · cases m with
    | nil => exact ⟨[], by simp, by simp⟩
    | cons q m =>
      have hpos := List.length_pos_iff.mpr (hps.source_ne_nil (q := q) (by simp))
      simp only [source_append, source_cons, List.length_append] at hle
      omega

/-- Markers stand for parts that do not overlap. -/
theorem HiddenAt.eq_of_overlap (hps : Sound ps) {b : Nat} {v : List Char} (ha : HiddenAt ps a w)
    (hb : HiddenAt ps b v) (hle : a ≤ b) (hlt : b < a + w.length) : a = b ∧ w = v := by
  obtain ⟨x, z, rfl, rfl⟩ := ha
  obtain ⟨u, r, heq, rfl⟩ := hb
  obtain ⟨m, rfl, hm⟩ := exists_append_of_source_le hps heq hle
  cases m with
  | nil =>
    obtain ⟨hw, -⟩ := List.cons_eq_cons.mp hm
    exact ⟨by rw [List.append_nil], Piece.hidden.inj hw⟩
  | cons q m =>
    obtain ⟨rfl, -⟩ := List.cons_eq_cons.mp hm
    rw [source_append, source_cons, List.length_append, List.length_append, Piece.source] at hlt
    omega

/-! ## Characters that are kept -/

/-- A character of the source that is not hidden is a piece of its own. -/
theorem exists_split_of_kept {o : Nat} {c : Char} {t : List Char}
    (ht : (source ps).drop o = c :: t) (hkept : gone ps o = false) :
    ∃ x z, ps = x ++ .kept c :: z ∧ (source x).length = o ∧ source z = t := by
  induction ps generalizing o with
  | nil => simp at ht
  | cons q ps ih =>
    rcases Nat.lt_or_ge o q.source.length with hlt | hge
    · rw [gone_cons_of_lt hlt] at hkept
      cases q with
      | kept e =>
        obtain rfl : o = 0 := by simpa [Piece.source] using hlt
        obtain ⟨rfl, rfl⟩ := List.cons_eq_cons.mp ht
        exact ⟨[], ps, rfl, rfl, rfl⟩
      | hidden w => contradiction
    · obtain ⟨b, rfl⟩ := Nat.exists_eq_add_of_le hge
      rw [source_cons, List.drop_length_add_append] at ht
      rw [gone_cons_add] at hkept
      obtain ⟨x, z, rfl, rfl, hz⟩ := ih ht hkept
      exact ⟨q :: x, z, rfl, by rw [source_cons, List.length_append], hz⟩

/-- A part of the source of which nothing is hidden is shown piece by piece. -/
theorem exists_kept_append (hps : Sound ps) (hp : w <+: source ps)
    (hkept : ∀ k < w.length, gone ps k = false) : ∃ z, ps = w.map .kept ++ z := by
  induction ps generalizing w with
  | nil =>
    obtain rfl : w = [] := by simpa using hp
    exact ⟨[], rfl⟩
  | cons q ps ih =>
    cases w with
    | nil => exact ⟨q :: ps, rfl⟩
    | cons e w =>
      cases q with
      | kept c =>
        obtain ⟨rfl, hw⟩ : e = c ∧ w <+: source ps := List.cons_prefix_cons.mp hp
        obtain ⟨z, rfl⟩ := ih hps.tail hw fun k hk => by
          have hnext := hkept (1 + k) (by rw [List.length_cons]; omega)
          rwa [← gone_cons_add (.kept e) ps]
        exact ⟨z, rfl⟩
      | hidden v =>
        have hpos := List.length_pos_iff.mpr (hps.source_ne_nil (q := .hidden v) (by simp))
        have hfirst := hkept 0 (by simp)
        rw [gone_cons_of_lt hpos] at hfirst
        contradiction

/-- A part of the source of which nothing is hidden is intact if it is a word. -/
theorem intact_of_kept (hps : Sound ps) (hw : p.Matches w) (hne : w ≠ [])
    (hp : w <+: (source ps).drop a) (hkept : ∀ k < w.length, gone ps (a + k) = false) :
    Intact p ps a w := by
  obtain ⟨c, w, rfl⟩ := List.exists_cons_of_ne_nil hne
  obtain ⟨t, ht⟩ := hp
  obtain ⟨x, z, rfl, rfl, hz⟩ := exists_split_of_kept ht.symm (hkept 0 (by simp))
  have hword : c :: w <+: source (.kept c :: z) := ⟨t, by rw [source_cons, hz]; rfl⟩
  obtain ⟨z', hz'⟩ := exists_kept_append (sound_append.mp hps).2 hword fun k hk => by
    have := hkept k hk
    rwa [gone_append_right] at this
  refine ⟨x, (c :: w).map .kept, z', by rw [hz'], rfl, source_map_kept _, ?_⟩
  rwa [shown_map_kept]

theorem Intact.matches_of_kept {t : List Char} (h : Intact p (t.map .kept) a w) :
    p.Matches w ∧ w <+: t.drop a := by
  obtain ⟨x, y, z, heq, rfl, rfl, hy⟩ := h
  obtain ⟨t₁, t₂, rfl, rfl, h₂⟩ := List.map_eq_append_iff.mp heq
  obtain ⟨u, v, rfl, rfl, rfl⟩ := List.map_eq_append_iff.mp h₂
  rw [shown_map_kept] at hy
  rw [source_map_kept, source_map_kept, List.drop_left]
  exact ⟨hy, List.prefix_append u v⟩

/-- In an intact part no marker stands in front. -/
theorem Intact.not_gone (h : Intact p ps a w) (hm : Marked p s) (hps : Sound ps) :
    gone ps a = false := by
  obtain ⟨x, y, z, rfl, rfl, -, hy⟩ := h
  cases y with
  | nil => exact absurd hy hm.nonempty
  | cons q y =>
    have hpos := List.length_pos_iff.mpr (hps.source_ne_nil (q := q) (by simp))
    have hgone := gone_append_right x (q :: y ++ z) 0
    rw [Nat.add_zero, List.cons_append, gone_cons_of_lt hpos] at hgone
    rw [List.cons_append, hgone]
    cases q with
    | kept c => rfl
    | hidden v =>
      rw [shown_cons, Piece.shown, marker_eq, List.cons_append] at hy
      have := hm.head_plain _ _ hy
      contradiction

/-- Where a part is intact, a word stands in the source. -/
theorem Intact.exists_word (h : Intact p ps a w) (hm : Marked p s) (hps : Sound ps) :
    ∃ v, p.Matches v ∧ v <+: (source ps).drop a := by
  obtain ⟨x, y, z, rfl, rfl, -, hy⟩ := h
  rw [source_append, List.drop_left]
  refine hm.exists_word_of_shown (u := []) (sound_append.mp hps).2 hy ?_
  rw [shown_append]
  exact List.prefix_append _ _

theorem Intact.append_left (h : Intact p z a w) (x : List Piece) :
    Intact p (x ++ z) ((source x).length + a) w := by
  obtain ⟨u, y, r, rfl, rfl, hy⟩ := h
  refine ⟨x ++ u, y, r, by rw [List.append_assoc], ?_, hy⟩
  rw [source_append, List.length_append]

theorem Intact.of_append (hps : Sound (x ++ ps))
    (h : Intact p (x ++ ps) ((source x).length + a) w) : Intact p ps a w := by
  obtain ⟨u, y, z, heq, hlen, hy, hw⟩ := h
  obtain ⟨m, rfl, rfl⟩ := exists_append_of_source_le hps heq (by omega)
  rw [source_append, List.length_append, Nat.add_left_cancel_iff] at hlen
  exact ⟨m, y, z, rfl, hlen, hy, hw⟩

/-! ## What a stage hides -/

namespace Stage

/-- What is hidden stays hidden. -/
theorem gone_mono (hs : Stage p ps qs) {k : Nat} (hk : gone ps k = true) : gone qs k = true := by
  induction hs generalizing k with
  | nil => exact hk
  | keep _ _ ih =>
    rw [gone] at hk ⊢
    split
    · rwa [if_pos ‹_›] at hk
    · rw [if_neg ‹_›] at hk
      exact ih hk
  | @hit y ps qs _ _ _ ih =>
    rcases Nat.lt_or_ge k (source y).length with hlt | hge
    · exact gone_cons_of_lt hlt qs
    · obtain ⟨i, rfl⟩ := Nat.exists_eq_add_of_le hge
      rw [gone_append_right] at hk
      exact (gone_cons_add (.hidden (source y)) qs i).trans (ih hk)

theorem covers_mono (hs : Stage p ps qs) (h : Covers ps a w) : Covers qs a w :=
  fun k hk => hs.gone_mono (h k hk)

/-- The markers of a stage stand for what was intact, or were there before. -/
theorem hiddenAt_cases (hs : Stage p ps qs) (h : Marked p s) (ha : HiddenAt qs a w) :
    HiddenAt ps a w ∨ Intact p ps a w := by
  induction hs generalizing a with
  | nil => exact .inl ha
  | @keep q ps qs _ _ ih =>
    rcases ha.cons_cases with ⟨rfl, rfl⟩ | ⟨b, rfl, hb⟩
    · exact .inl ⟨[], ps, rfl, rfl⟩
    · refine (ih hb).imp (fun hb => hb.cons q) fun hi => ?_
      have := hi.append_left [q]
      rwa [source_cons, source_nil, List.append_nil] at this
  | @hit y ps qs _ hn _ ih =>
    rcases ha.cons_cases with ⟨rfl, hw⟩ | ⟨b, rfl, hb⟩
    · exact .inr ⟨[], y, ps, rfl, rfl, Piece.hidden.inj hw, h.matches_shown hn⟩
    · exact (ih hb).imp (fun hb => hb.append_left y) fun hi => hi.append_left y

/-- The first character of a word of which nothing is hidden gets hidden. -/
theorem gone_of_word (hs : Stage p ps qs) (h : Marked p s) (hps : Sound ps) (hw : p.Matches w)
    (hp : w <+: (source ps).drop a) (hkept : ∀ k < w.length, gone ps (a + k) = false) :
    gone qs a = true := by
  induction hs generalizing a with
  | nil =>
    obtain rfl : w = [] := by simpa using hp
    exact absurd hw h.nonempty
  | @keep q ps qs hn hs ih =>
    rcases Nat.lt_or_ge a q.source.length with hlt | hge
    · cases q with
      | kept c =>
        obtain rfl : a = 0 := by simpa [Piece.source] using hlt
        obtain ⟨z, hz⟩ := exists_kept_append hps hp fun k hk => by
          rw [← Nat.zero_add k]
          exact hkept k hk
        rw [hz, shown_append, shown_map_kept] at hn
        exact absurd hw ((matchLength?_eq_none_iff h.simple none _).mp hn w _ rfl)
      | hidden v => exact gone_cons_of_lt hlt qs
    · obtain ⟨b, rfl⟩ := Nat.exists_eq_add_of_le hge
      rw [source_cons, List.drop_length_add_append] at hp
      rw [gone_cons_add]
      refine ih hps.tail hp fun k hk => ?_
      rw [← gone_cons_add q ps, ← Nat.add_assoc]
      exact hkept k hk
  | @hit y ps qs hy hn hs ih =>
    rcases Nat.lt_or_ge a (source y).length with hlt | hge
    · exact gone_cons_of_lt hlt qs
    · obtain ⟨b, rfl⟩ := Nat.exists_eq_add_of_le hge
      rw [source_append, List.drop_length_add_append] at hp
      refine (gone_cons_add (.hidden (source y)) qs b).trans ?_
      refine ih (sound_append.mp hps).2 hp fun k hk => ?_
      rw [← gone_append_right y ps, ← Nat.add_assoc]
      exact hkept k hk

/-- Of every word in the source a stage hides something. -/
theorem touches (hs : Stage p ps qs) (h : Marked p s) (hps : Sound ps) (hw : p.Matches w)
    (hp : w <+: (source ps).drop a) : ∃ k < w.length, gone qs (a + k) = true := by
  by_cases hkept : ∀ k < w.length, gone ps (a + k) = false
  · refine ⟨0, List.length_pos_iff.mpr fun hnil => h.nonempty (hnil ▸ hw), ?_⟩
    exact hs.gone_of_word h hps hw hp hkept
  · push Not at hkept
    obtain ⟨k, hk, hgone⟩ := hkept
    exact ⟨k, hk, hs.gone_mono (Bool.not_eq_false _ ▸ hgone)⟩

end Stage

end HookGate.Redaction
