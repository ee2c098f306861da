import HookGate.Proofs.Audit.Credentials

/-!
# Texts in pieces

A text under redaction is a sequence of pieces: characters that are kept, and parts that stand
hidden behind a marker. A stage hides runs of whole pieces, so that at any time the pieces say
which part of the text each marker stands for.
-/

namespace HookGate.Redaction

open Pattern Text

inductive Piece
  | kept (c : Char)
  | hidden (w : List Char)
deriving Repr, DecidableEq

namespace Piece

def source : Piece → List Char
  | kept c => [c]
  | hidden w => w

def shown : Piece → List Char
  | kept c => [c]
  | hidden _ => marker

def isHidden : Piece → Bool
  | kept _ => false
  | hidden _ => true

end Piece

/-- The text that the pieces are made of. -/
def source (ps : List Piece) : List Char := ps.flatMap Piece.source

/-- The text that the pieces show. -/
def shown (ps : List Piece) : List Char := ps.flatMap Piece.shown

@[simp] theorem source_nil : source [] = [] := rfl

@[simp] theorem shown_nil : shown [] = [] := rfl

@[simp] theorem source_cons (q : Piece) (ps : List Piece) :
    source (q :: ps) = q.source ++ source ps := rfl

@[simp] theorem shown_cons (q : Piece) (ps : List Piece) :
    shown (q :: ps) = q.shown ++ shown ps := rfl

@[simp] theorem source_append (x y : List Piece) : source (x ++ y) = source x ++ source y :=
  List.flatMap_append

@[simp] theorem shown_append (x y : List Piece) : shown (x ++ y) = shown x ++ shown y :=
  List.flatMap_append

@[simp] theorem source_map_kept (t : List Char) : source (t.map .kept) = t := by
  induction t with
  | nil => rfl
  | cons c cs ih => simp [Piece.source, ih]

@[simp] theorem shown_map_kept (t : List Char) : shown (t.map .kept) = t := by
  induction t with
  | nil => rfl
  | cons c cs ih => simp [Piece.shown, ih]

theorem shown_ne_nil (q : Piece) : q.shown ≠ [] := by
  cases q with
  | kept c => simp [Piece.shown]
  | hidden w => simp only [Piece.shown]; decide

/-- The number of pieces that show the first `n` characters. -/
def reach : Nat → List Piece → Nat
  | 0, _ => 0
  | _ + 1, [] => 0
  | n + 1, q :: qs => reach (n + 1 - q.shown.length) qs + 1

theorem reach_shown (y z : List Piece) : reach (shown y).length (y ++ z) = y.length := by
  induction y with
  | nil => simp [reach]
  | cons q y ih =>
    obtain ⟨n, hn⟩ : ∃ n, q.shown.length = n + 1 :=
      Nat.exists_eq_add_one.mpr (List.length_pos_iff.mpr (shown_ne_nil q))
    have hlen : (shown (q :: y)).length = (shown y).length + n + 1 := by
      rw [shown_cons, List.length_append, hn]
      omega
    rw [hlen, List.cons_append, reach, hn, List.length_cons, Nat.add_right_cancel_iff]
    rwa [show (shown y).length + n + 1 - (n + 1) = (shown y).length by omega]

/-- Hides the pieces that show a match, from left to right. -/
def hide (p : Pattern) : List Piece → List Piece
  | [] => []
  | q :: qs =>
    match p.matchLength? none (shown (q :: qs)) with
    | some (n + 1) =>
      let k := reach (n + 1 - q.shown.length) qs
      .hidden (source (q :: qs.take k)) :: hide p (qs.drop k)
    | _ => q :: hide p qs
termination_by qs => qs.length
decreasing_by all_goals simp only [List.length_drop, List.length_cons]; omega

variable {p : Pattern} {s : Char → Bool} {ps qs x y z : List Piece}

@[simp] theorem hide_nil : hide p [] = [] := by rw [hide]

theorem hide_keep {q : Piece} (hn : p.matchLength? none (shown (q :: qs)) = none) :
    hide p (q :: qs) = q :: hide p qs := by
  rw [hide, hn]

theorem hide_hit (hy : y ≠ [])
    (hn : p.matchLength? none (shown (y ++ z)) = some (shown y).length) :
    hide p (y ++ z) = .hidden (source y) :: hide p z := by
  cases y with
  | nil => contradiction
  | cons q y =>
    obtain ⟨n, hlen⟩ : ∃ n, (shown (q :: y)).length = n + 1 := by
      refine Nat.exists_eq_add_one.mpr (List.length_pos_iff.mpr ?_)
      rw [shown_cons]
      exact fun h => shown_ne_nil q (List.append_eq_nil_iff.mp h).1
    have hreach : reach (n + 1 - q.shown.length) (y ++ z) = y.length := by
      rw [← reach_shown y z, ← hlen, shown_cons, List.length_append, Nat.add_sub_cancel_left]
    rw [List.cons_append] at hn ⊢
    rw [hide, hn, hlen]
    simp only [hreach, List.take_left, List.drop_left]

/-! ## Words and the marker -/

/-- What keeps the words of a pattern apart from markers. A word that reaches into a marker could
read any other character in its place, and reads the marker to its end. -/
structure Marked (p : Pattern) (s : Char → Bool) : Prop extends p.ClosesWith s where
  head_plain : ∀ c w, p.Matches (c :: w) → isDelimiter c = false
  marker_free : ∀ rest, Free p marker rest
  reads_other : ∀ u v c, p.Matches (u ++ '[' :: v) → isDelimiter c = false → p.Matches (u ++ [c])
  reads_on : ∀ u v, p.Matches (u ++ '[' :: v) → s '[' = true
  reads_all : s '[' = true → ∀ c, isBlank c = false → isQuote c = false → s c = true

theorem marker_plain : ∀ c ∈ marker, isBlank c = false ∧ isQuote c = false := by
  have hall : marker.all (fun c => !isBlank c && !isQuote c) = true := by decide
  intro c hc
  simpa using List.all_eq_true.mp hall c hc

theorem marker_eq : marker = '[' :: "REDACTED]".toList := by decide

/-- Every hidden part begins with a character of a name or of a token. -/
def Sound (ps : List Piece) : Prop :=
  ∀ w, .hidden w ∈ ps → ∃ c v, w = c :: v ∧ isDelimiter c = false

theorem sound_append : Sound (x ++ y) ↔ Sound x ∧ Sound y := by
  simp only [Sound, List.mem_append, or_imp, forall_and]

theorem Sound.tail {q : Piece} (h : Sound (q :: ps)) : Sound ps :=
  fun w hw => h w (List.mem_cons_of_mem q hw)

theorem Sound.source_ne_nil (h : Sound ps) {q : Piece} (hq : q ∈ ps) : q.source ≠ [] := by
  cases q with
  | kept c => simp [Piece.source]
  | hidden w =>
    obtain ⟨c, v, rfl, -⟩ := h w hq
    simp [Piece.source]

theorem sound_map_kept (t : List Char) : Sound (t.map .kept) := by
  intro w hw
  simp at hw

namespace Marked

theorem hide_hidden (h : Marked p s) (w : List Char) (qs : List Piece) :
    hide p (.hidden w :: qs) = .hidden w :: hide p qs := by
  apply hide_keep
  rw [matchLength?_eq_none_iff h.simple]
  intro v r hr hv
  cases v with
  | nil => exact h.nonempty hv
  | cons c v =>
    rw [shown_cons, Piece.shown, marker_eq, List.cons_append, List.cons_append] at hr
    obtain ⟨rfl, -⟩ := List.cons_eq_cons.mp hr
    have := h.head_plain _ _ hv
    contradiction

/-- Behind a word that stands in the source and a word that is shown no other run goes on. -/
theorem closed_shown (h : Marked p s) (hz : Sound z) (hc : ∀ c ∈ (source z).head?, s c = false) :
    ∀ c ∈ (shown z).head?, s c = false := by
  intro c hmem
  cases z with
  | nil => simp at hmem
  | cons q z =>
    cases q with
    | kept e => exact hc c hmem
    | hidden w =>
      obtain ⟨e, v, rfl, he⟩ := hz w (by simp)
      rw [shown_cons, Piece.shown, marker_eq] at hmem
      obtain rfl : '[' = c := by simpa using hmem
      obtain ⟨hb, hq⟩ := not_blank_or_quote_of_plain he
      by_contra hopen
      have := h.reads_all (Bool.not_eq_false _ ▸ hopen) e hb hq
      rw [hc e (by simp [Piece.source])] at this
      contradiction

/-- Where a word is shown, a word stands in the source. Here `u` is what was read of it before. -/
theorem exists_word_of_shown (h : Marked p s) (hps : Sound ps) {u w : List Char}
    (hw : p.Matches (u ++ w)) (hp : w <+: shown ps) :
    ∃ v, p.Matches (u ++ v) ∧ v <+: source ps := by
  induction ps generalizing u w with
  | nil =>
    obtain rfl : w = [] := by simpa using hp
    exact ⟨[], hw, List.nil_prefix⟩
  | cons q ps ih =>
    cases w with
    | nil => exact ⟨[], hw, List.nil_prefix⟩
    | cons e w =>
      cases q with
      | kept c =>
        obtain ⟨rfl, hwp⟩ : e = c ∧ w <+: shown ps := List.cons_prefix_cons.mp hp
        rw [List.append_cons] at hw
        obtain ⟨v, hv, hvp⟩ := ih hps.tail hw hwp
        exact ⟨e :: v, by rwa [List.append_cons], List.cons_prefix_cons.mpr ⟨rfl, hvp⟩⟩
      | hidden v =>
        obtain ⟨c, v, rfl, hc⟩ := hps v (by simp)
        rw [shown_cons, Piece.shown, marker_eq] at hp
        obtain ⟨rfl, -⟩ := List.cons_prefix_cons.mp hp
        exact ⟨[c], h.reads_other u w c hw hc, by simp [Piece.source]⟩

theorem matches_shown (h : Marked p s)
    (hn : p.matchLength? none (shown (y ++ z)) = some (shown y).length) : p.Matches (shown y) := by
  rw [shown_append] at hn
  exact ((h.matchLength?_eq_some_iff none _ _).mp hn).1

/-- Pieces that show a match begin where a word begins in the source. -/
theorem exists_word_of_hit (h : Marked p s) (hps : Sound (y ++ z))
    (hn : p.matchLength? none (shown (y ++ z)) = some (shown y).length) :
    ∃ v, p.Matches v ∧ v <+: source (y ++ z) := by
  refine h.exists_word_of_shown (u := []) hps (h.matches_shown hn) ?_
  rw [shown_append]
  exact List.prefix_append _ _

/-- A match ends where a piece ends. -/
theorem exists_split (h : Marked p s) {n : Nat}
    (hn : p.matchLength? none (shown ps) = some n) :
    ∃ y z, ps = y ++ z ∧ n = (shown y).length := by
  obtain ⟨w, r, hr, rfl, hw, hrun⟩ := h.exists_of_matchLength? hn
  suffices hread : ∀ u w : List Char, p.Matches (u ++ w) → shown ps = w ++ r →
      ∃ y z, ps = y ++ z ∧ w = shown y by
    obtain ⟨y, z, hyz, rfl⟩ := hread [] w hw hr
    exact ⟨y, z, hyz, rfl⟩
  clear hn hw hr w
  induction ps with
  | nil =>
    intro u w _ hr
    obtain ⟨rfl, -⟩ := List.append_eq_nil_iff.mp hr.symm
    exact ⟨[], [], rfl, rfl⟩
  | cons q ps ih =>
    intro u w hw hr
    rw [shown_cons] at hr
    rcases List.append_eq_append_iff.mp hr with ⟨m, rfl, hm⟩ | ⟨m, hq, rfl⟩
    · obtain ⟨y, z, rfl, rfl⟩ := ih (u ++ q.shown) m (by rwa [List.append_assoc]) hm
      exact ⟨q :: y, z, rfl, rfl⟩
    · cases w with
      | nil => exact ⟨[], q :: ps, rfl, rfl⟩
      | cons e w =>
        cases m with
        | nil => exact ⟨[q], ps, rfl, by simpa using hq.symm⟩
        | cons e' m =>
          cases q with
          | kept c => simp [Piece.shown] at hq
          | hidden v =>
            -- the word would stop inside a marker that it reads to the end
            have hmark := hq
            rw [Piece.shown, marker_eq, List.cons_append] at hmark
            obtain ⟨rfl, -⟩ := List.cons_eq_cons.mp hmark
            have hmem : e' ∈ marker := by
              rw [Piece.shown] at hq
              simp [hq]
            obtain ⟨hb, hquote⟩ := marker_plain e' hmem
            have := h.reads_all (h.reads_on u w hw) e' hb hquote
            rw [hrun e' (by simp)] at this
            contradiction

end Marked

/-! ## Stages -/

/-- A stage of redaction reads pieces that start no match one by one, and hides the pieces of
each match behind one marker. -/
inductive Stage (p : Pattern) : List Piece → List Piece → Prop
  | nil : Stage p [] []
  | keep {q : Piece} {ps qs : List Piece} (hn : p.matchLength? none (shown (q :: ps)) = none)
      (hs : Stage p ps qs) : Stage p (q :: ps) (q :: qs)
  | hit {y ps qs : List Piece} (hy : y ≠ [])
      (hn : p.matchLength? none (shown (y ++ ps)) = some (shown y).length)
      (hs : Stage p ps qs) : Stage p (y ++ ps) (.hidden (source y) :: qs)

theorem Marked.stage (h : Marked p s) (ps : List Piece) : Stage p ps (hide p ps) := by
  induction hlen : ps.length using Nat.strong_induction_on generalizing ps with
  | _ k ih =>
    cases ps with
    | nil =>
      rw [hide_nil]
      exact .nil
    | cons q ps =>
      cases hn : p.matchLength? none (shown (q :: ps)) with
      | none => exact hide_keep hn ▸ .keep hn (ih ps.length (by simp [← hlen]) ps rfl)
      | some n =>
        obtain ⟨y, z, hyz, rfl⟩ := h.exists_split hn
        have hy : y ≠ [] := fun hnil => h.toSolid.matchLength?_ne_zero none _ (hnil ▸ hn)
        have hpos := List.length_pos_iff.mpr hy
        rw [hyz] at hn ⊢
        rw [hide_hit hy hn]
        refine .hit hy hn (ih z.length ?_ z rfl)
        rw [← hlen, hyz, List.length_append]
        omega

namespace Stage

theorem source_eq (hs : Stage p ps qs) : source qs = source ps := by
  induction hs with
  | nil => rfl
  | keep _ _ ih => rw [source_cons, source_cons, ih]
  | hit _ _ _ ih => rw [source_cons, source_append, ih, Piece.source]

/-- A stage shows what the pattern makes of the text that was shown before. -/
theorem shown_eq (hs : Stage p ps qs) (h : Marked p s) :
    shown qs = p.substitute marker (shown ps) := by
  induction hs with
  | nil => rfl
  | @keep q ps qs hn _ ih =>
    cases q with
    | kept c =>
      have hkeep : p.substitute marker (c :: shown ps) = c :: p.substitute marker (shown ps) :=
        h.toSolid.substitute_keep hn
      rw [shown_cons, ih]
      exact hkeep.symm
    | hidden w =>
      rw [shown_cons, shown_cons, Piece.shown, ih, h.toSolid.substitute_free (h.marker_free _)]
  | hit _ hn _ ih =>
    rw [shown_append] at hn ⊢
    rw [h.toSolid.substitute_hit hn, shown_cons, ih, Piece.shown]

theorem sound (hs : Stage p ps qs) (h : Marked p s) (hps : Sound ps) : Sound qs := by
  induction hs with
  | nil => exact hps
  | @keep q ps qs _ _ ih =>
    intro w hw
    rcases List.mem_cons.mp hw with rfl | hw
    · exact hps w (by simp)
    · exact ih hps.tail w hw
  | @hit y ps qs hy hn _ ih =>
    intro w hw
    rcases List.mem_cons.mp hw with hw | hw
    · obtain rfl := Piece.hidden.inj hw
      obtain ⟨v, hv, r, hr⟩ := h.exists_word_of_hit hps hn
      cases v with
      | nil => exact absurd hv h.nonempty
      | cons c v =>
        obtain ⟨q, y, rfl⟩ := List.exists_cons_of_ne_nil hy
        obtain ⟨e, u, heu⟩ := List.exists_cons_of_ne_nil
          (hps.source_ne_nil (q := q) (by simp))
        rw [source_append, source_cons, heu] at hr
        obtain ⟨rfl, -⟩ := List.cons_eq_cons.mp hr
        exact ⟨c, u ++ source y, by rw [source_cons, heu, List.cons_append], h.head_plain c v hv⟩
    · exact ih (sound_append.mp hps).2 w hw

end Stage

/-! ## The patterns of credentials -/

private theorem prefix_of_plain {b n t rest : List Char} (hb : b <:+ marker) (hne : b ≠ [])
    (hn : ∀ c ∈ n, isDelimiter c = false) (hp : n ++ t <+: b ++ rest) : n <+: b := by
  have hend : ']' ∈ b := by
    obtain ⟨m, hm⟩ := hb
    have hlast := congrArg List.getLast? hm
    rw [List.getLast?_append_of_ne_nil _ hne] at hlast
    exact List.mem_of_getLast? (hlast.trans (by decide))
  refine (List.prefix_or_prefix_of_prefix ((List.prefix_append n t).trans hp)
    (List.prefix_append b rest)).resolve_right fun hbn => ?_
  exact absurd (hn ']' (hbn.subset hend)) (by decide)

/-- The words of the shapes do not start inside the marker, and read it to the end if they read
into it. -/
theorem Shaped.exists_marked (h : Shaped p) : ∃ s, Marked p s := by
  have hhead : ∀ c w, p.Matches (c :: w) → isDelimiter c = false := fun _ _ => h.head_plain
  cases h with
  | assignment a _ hp hwords =>
    refine ⟨a.value, { hp with
      head_plain := hhead, marker_free := ?_, reads_other := ?_, reads_on := ?_, reads_all := ?_ }⟩
    · rintro rest x b hb hne w hw hwp
      obtain ⟨n, gap, g, d, q, v, hspells, rfl⟩ := (hwords w).mp hw
      have hpre := prefix_of_plain ⟨x, hb.symm⟩ hne hspells.name_plain hwp
      exact a.names_clear _ hspells.name b ((List.mem_tails _ _).mpr ⟨x, hb.symm⟩) (hpre.map asciiKey)
    · intro u r c hw hc
      exact (hwords _).mpr (((hwords _).mp hw).open_of_bracket.2 c hc)
    · exact fun u r hw => ((hwords _).mp hw).open_of_bracket.1
    · exact fun hopen => (a.value_open hopen).2
  | token t hp hwords =>
    have hno {u r : List Char} : ¬ p.Matches (u ++ '[' :: r) := by
      intro hw
      exact absurd (((hwords _).mp hw).plain '[' (by simp)) (by decide)
    refine ⟨t.closing, { hp with
      head_plain := hhead, marker_free := ?_, reads_other := ?_, reads_on := ?_, reads_all := ?_ }⟩
    · rintro rest x b hb hne w hw hwp
      obtain ⟨n, hn, v, -, -, -, rfl⟩ := (hwords w).mp hw
      have hplain : ∀ c ∈ n, isDelimiter c = false := fun c hc =>
        ((hwords _).mp hw).plain c (List.mem_append_left _ hc)
      have hpre := prefix_of_plain ⟨x, hb.symm⟩ hne hplain hwp
      exact t.heads_clear n hn b ((List.mem_tails _ _).mpr ⟨x, hb.symm⟩) hpre
    · exact fun u r c hw => absurd hw hno
    · exact fun u r hw => absurd hw hno
    · intro hopen
      simp only [Token.closing, Bool.and_eq_true] at hopen
      exact absurd (t.run_plain '[' hopen.2) (by decide)

theorem exists_marked : ∀ p ∈ patterns, ∃ s, Marked p s :=
  fun p hp => (shaped_of_mem_patterns p hp).exists_marked

end HookGate.Redaction
