import HookGate.Proofs.Audit.Keys

/-!
# Keys that redaction leaves

Part of a key stays where the key is cut off, and where it ends in a name to which the text
behind it assigns a value. What stays of it then passes through the other patterns as it is.
-/

namespace HookGate.Redaction

open Pattern Text

variable {p : Pattern} {x y z : List Char}

/-! ## The text in front -/

private theorem eq_of_passes {rest : List Char} (hx : Passes p marker rest x z)
    (hz : ']' ∉ z) : x = z := by
  induction hx with
  | nil => rfl
  | keep _ _ ih => rw [ih fun h => hz (List.mem_cons_of_mem _ h)]
  | hit => exact absurd (List.mem_append_left _ (by decide)) hz

/-- An end without a closing bracket was there before substitution. -/
private theorem suffix_of_passes {rest e : List Char} (hx : Passes p marker rest x z)
    (he : ']' ∉ e) (hz : e <:+ z) : e <:+ x := by
  induction hx with
  | nil => exact hz
  | keep _ hs ih =>
    rcases List.suffix_cons_iff.mp hz with rfl | hz
    · rw [eq_of_passes hs fun h => he (List.mem_cons_of_mem _ h)]
    · exact (ih hz).trans (List.suffix_cons _ _)
  | @hit w cs z _ _ ih =>
    refine (ih ?_).trans (List.suffix_append w cs)
    rcases List.suffix_or_suffix_of_suffix hz (List.suffix_append marker z) with h | ⟨m, rfl⟩
    · exact h
    · obtain ⟨l, hl⟩ := hz
      rw [← List.append_assoc] at hl
      have hm := List.append_cancel_right hl
      cases m with
      | nil => exact List.suffix_refl _
      | cons c cs =>
        have hlast := congrArg List.getLast? hm
        rw [List.getLast?_append_of_ne_nil _ (by simp)] at hlast
        exact absurd (List.mem_append_left _ (List.mem_of_getLast? hlast)) he

theorem Shaped.endsInHead_of_substitute (h : Shaped p)
    (hx : EndsInHead (p.substitute marker x)) : EndsInHead x := by
  obtain ⟨a, ha, n, b, g, d, hn, hb, hg, hd, hsuffix⟩ := hx
  refine ⟨a, ha, n, b, g, d, hn, hb, hg, hd, suffix_of_passes (h.solid.passes x) ?_ hsuffix⟩
  have hname := List.any_eq_false.mp (a.names_plain _ hn)
  simp only [List.mem_append, List.mem_cons, not_or]
  refine ⟨fun hmem => ?_, fun hmem => ?_, ?_, fun hmem => ?_⟩
  · exact hname _ (List.mem_map_of_mem hmem) (by decide)
  · exact absurd (hb _ hmem) (by decide)
  · rcases a.signs_subset g hg with rfl | rfl <;> decide
  · exact absurd (hd _ hmem) (by decide)

/-- Behind a blank no match reaches on, unless it has the head of an assignment in front. -/
theorem Shaped.separated (h : Shaped p) {s : Char} (hs : isBlank s = true)
    (hhead : ¬ EndsInHead (x ++ [s])) (hy : ∀ c ∈ y.head?, isDelimiter c = false) :
    Separated p (x ++ [s]) y := by
  cases h with
  | token t _ hw => exact separated_token hw hs x y
  | assignment a ha _ hw =>
    intro u b' hub hne w hmatch hpre
    by_contra hlt
    obtain ⟨m, rfl⟩ := List.prefix_of_prefix_length_le (List.prefix_append b' y) hpre (by omega)
    obtain ⟨b₀, rfl⟩ : ∃ b₀, b' = b₀ ++ [s] := by
      have hlast := congrArg List.getLast? hub
      rw [List.getLast?_concat, List.getLast?_append_of_ne_nil _ hne] at hlast
      exact List.getLast?_eq_some_iff.mp hlast.symm
    have hmy := (List.prefix_append_right_inj _).mp hpre
    cases m with
    | nil => simp at hlt
    | cons c m =>
      obtain ⟨r, rfl⟩ := hmy
      obtain ⟨n, b, g, d, q, v, hspells, hword⟩ := (hw _).mp hmatch
      rw [List.append_assoc, List.singleton_append] at hword
      obtain ⟨-, hb₀, -⟩ := hspells.split_behind_blank hword.symm hs (hy c rfl)
      exact hhead ⟨a, ha, n, b, g, d, hspells.name, hspells.gap, hspells.sign, hspells.space,
        hb₀ ▸ hub ▸ List.suffix_append u _⟩

/-! ## What stays of the key -/

/-- The text goes on with a dot or with the marker. -/
def Stops (y : List Char) : Prop := ∃ c r, y = c :: r ∧ (c = '.' ∨ c = '[')

theorem Shaped.stops_substitute (h : Shaped p) (hy : Stops y) : Stops (p.substitute marker y) := by
  obtain ⟨c, r, rfl, hc⟩ := hy
  refine ⟨c, p.substitute marker r, h.substitute_delimiter ?_ r, hc⟩
  rcases hc with rfl | rfl <;> decide

/-- In a short text without delimiters no match starts if a dot or the marker follows. -/
theorem Shaped.free_of_stops (h : Shaped p) {k : List Char} (hk : ∀ c ∈ k, isDelimiter c = false)
    (hlen : k.length < 20) (hy : Stops y) : Free p k y := by
  obtain ⟨e, r, rfl, he⟩ := hy
  have hdel : ∀ c ∈ (e :: r).head?, isDelimiter c = true := by
    intro c hc
    obtain rfl : e = c := by simpa using hc
    rcases he with rfl | rfl <;> decide
  intro u b' hku _ w hmatch hpre
  have hplain : ∀ c ∈ b', isDelimiter c = false := fun c hc => hk c (by simp [hku, hc])
  cases h with
  | assignment a _ _ hw =>
    obtain ⟨n, b, g, d, q, v, hspells, rfl⟩ := (hw w).mp hmatch
    obtain ⟨-, hrest⟩ := hspells.name_eq_of_prefix hplain hdel hpre
    cases b with
    | nil =>
      obtain ⟨rfl, -⟩ := List.cons_prefix_cons.mp hrest
      rcases a.signs_subset _ hspells.sign with rfl | rfl <;> simp at he
    | cons c b =>
      obtain ⟨rfl, -⟩ := List.cons_prefix_cons.mp hrest
      have hblank := hspells.gap c (by simp)
      rcases he with rfl | rfl <;> simp [isBlank] at hblank
  | token t _ hw =>
    have hword := (hw w).mp hmatch
    have hlong := hword.long
    have hle : b'.length ≤ k.length := by
      rw [hku, List.length_append]
      omega
    obtain ⟨m, rfl⟩ := List.prefix_of_prefix_length_le (List.prefix_append b' _) hpre (by omega)
    cases m with
    | nil =>
      rw [List.append_nil] at hlong
      omega
    | cons c m =>
      obtain ⟨rfl, -⟩ := List.cons_prefix_cons.mp ((List.prefix_append_right_inj _).mp hpre)
      have := hword.plain c (by simp)
      rw [hdel c rfl] at this
      contradiction

/-- What stays of a key: too short for a token, and without delimiters. -/
structure Remnant (k : List Char) : Prop where
  ne_nil : k ≠ []
  plain : ∀ c ∈ k, isDelimiter c = false
  length : k.length < 20

theorem Remnant.head_plain {k : List Char} (h : Remnant k) (t : List Char) :
    ∀ c ∈ (k ++ t).head?, isDelimiter c = false := by
  intro c hc
  rw [List.head?_append_of_ne_nil _ h.ne_nil] at hc
  exact h.plain c (List.mem_of_head? hc)

/-- The pattern reads up to the end of a text that ends in a blank and not in the head of an
assignment, and leaves one that does so, too. -/
theorem Shaped.exists_substitute_append (h : Shaped p) {s : Char} (hs : isBlank s = true)
    (hhead : ¬ EndsInHead (x ++ [s])) :
    ∃ x', ¬ EndsInHead (x' ++ [s]) ∧ ∀ t, (∀ c ∈ t.head?, isDelimiter c = false) →
      p.substitute marker (x ++ s :: t) = x' ++ s :: p.substitute marker t := by
  obtain ⟨u, hu⟩ := h.exists_closesWith
  obtain ⟨x', hx'⟩ := List.getLast?_eq_some_iff.mp
    (h.getLast?_passes hs (h.solid.passes (x ++ [s])) List.getLast?_concat)
  refine ⟨x', fun hend => hhead (h.endsInHead_of_substitute (hx' ▸ hend)), fun t ht => ?_⟩
  rw [List.append_cons, hu.substitute_append (h.separated hs hhead ht), hx', List.append_assoc]
  rfl

/-- A remnant in front of a dot or of the marker passes through all patterns. -/
theorem foldl_remnant {ps : List Pattern} (hps : ∀ p ∈ ps, Shaped p) {s : Char}
    (hs : isBlank s = true) (hhead : ¬ EndsInHead (x ++ [s])) (hy : Stops y) :
    ∃ x' y', ∀ k, Remnant k →
      ps.foldl (fun t p => p.substitute marker t) (x ++ s :: (k ++ y)) = x' ++ s :: (k ++ y') := by
  induction ps generalizing x y with
  | nil => exact ⟨x, y, fun k _ => rfl⟩
  | cons p ps ih =>
    have hp := hps p (by simp)
    obtain ⟨x₁, hhead₁, hx₁⟩ := hp.exists_substitute_append hs hhead
    obtain ⟨x', y', h⟩ := ih (fun q hq => hps q (List.mem_cons_of_mem p hq)) hhead₁
      (hp.stops_substitute hy)
    refine ⟨x', y', fun k hk => ?_⟩
    rw [List.foldl_cons, hx₁ _ (hk.head_plain y),
      hp.solid.substitute_free (hp.free_of_stops hk.plain hk.length hy), h k hk]

/-! ## A key that ends in a name -/

private theorem keyNames_last : ∀ s ∈ keyNames, s.getLast? = some 'y' ∨ s.getLast? = some 'n' := by
  decide

private theorem passwordNames_length : ∀ s ∈ passwordAssignment.names, s.length ≤ 8 := by
  decide

def passwordName : List Char := "PASSWORD".toList

theorem StartsAssignment.head_delimiter (h : StartsAssignment y) :
    ∀ c ∈ y.head?, isDelimiter c = true := by
  obtain ⟨b, g, d, q, c, r, hb, hg, -, -, -, -, -, rfl⟩ := h
  intro e he
  cases b with
  | nil =>
    obtain rfl : g = e := by simpa using he
    rcases hg with rfl | rfl <;> decide
  | cons f fs =>
    obtain rfl : f = e := by simpa using he
    exact isDelimiter_of_isBlank (hb f (by simp))

theorem Shaped.substitute_delimiters (h : Shaped p) {d : List Char}
    (hd : ∀ c ∈ d, isDelimiter c = true) (t : List Char) :
    p.substitute marker (d ++ t) = d ++ p.substitute marker t := by
  induction d with
  | nil => rfl
  | cons c cs ih =>
    rw [List.cons_append, h.substitute_delimiter (hd c (by simp)),
      ih fun e he => hd e (List.mem_cons_of_mem c he), List.cons_append]

theorem Shaped.startsAssignment_substitute (h : Shaped p) (hy : StartsAssignment y) :
    StartsAssignment (p.substitute marker y) := by
  obtain ⟨b, g, d, q, c, r, hb, hg, hd, hq, hlen, hcb, hcq, rfl⟩ := hy
  obtain ⟨c', r', hr', hc'⟩ : ∃ c' r', p.substitute marker (c :: r) = c' :: r' ∧
      isBlank c' = false ∧ isQuote c' = false := by
    have hpasses : Passes p marker [] (c :: r) (p.substitute marker (c :: r)) :=
      h.solid.passes (c :: r)
    generalize p.substitute marker (c :: r) = z at hpasses
    generalize htext : c :: r = t at hpasses
    cases hpasses with
    | nil => simp at htext
    | keep =>
      obtain ⟨rfl, -⟩ := List.cons_eq_cons.mp htext
      exact ⟨c, _, rfl, hcb, hcq⟩
    | hit => exact ⟨'[', _, rfl, by decide, by decide⟩
  have hg' : isDelimiter g = true := by rcases hg with rfl | rfl <;> decide
  refine ⟨b, g, d, q, c', r', hb, hg, hd, hq, hlen, hc'.1, hc'.2, ?_⟩
  rw [h.substitute_delimiters fun e he => isDelimiter_of_isBlank (hb e he),
    h.substitute_delimiter hg', h.substitute_delimiters fun e he => isDelimiter_of_isBlank (hd e he),
    h.substitute_delimiters fun e he => isDelimiter_of_isQuote (hq e he), hr']

private theorem free_keyValue {k : List Char} (hk : ∀ c ∈ k, isDelimiter c = false)
    (hy : ∀ c ∈ y.head?, isDelimiter c = true) : Free keyValue (k ++ passwordName) y := by
  intro u b' hku hne w hmatch hpre
  have hplain : ∀ c ∈ b', isDelimiter c = false := by
    intro c hc
    rcases List.mem_append.mp (hku ▸ List.mem_append_right u hc) with hc | hc
    · exact hk c hc
    · exact Bool.not_eq_true _ ▸ List.any_eq_false.mp
        (by decide : passwordName.any isDelimiter = false) c hc
  obtain ⟨n, b, g, d, q, v, h, rfl⟩ := (matches_keyValue w).mp hmatch
  obtain ⟨rfl, -⟩ := h.name_eq_of_prefix hplain hy hpre
  -- the name would end in the last letter of the other one
  have hlast : n.getLast? = some 'D' := by
    rw [← List.getLast?_append_of_ne_nil u hne, ← hku,
      List.getLast?_append_of_ne_nil k (by decide)]
    decide
  have hkey := keyNames_last _ h.name
  rw [List.getLast?_map, hlast] at hkey
  revert hkey
  decide

private theorem free_passwordValue {k : List Char} (hk : ∀ c ∈ k, isDelimiter c = false)
    (hy : ∀ c ∈ y.head?, isDelimiter c = true) : Free passwordValue k (passwordName ++ y) := by
  intro u b' hku hne w hmatch hpre
  have hplain : ∀ c ∈ b' ++ passwordName, isDelimiter c = false := by
    intro c hc
    rcases List.mem_append.mp hc with hc | hc
    · exact hk c (hku ▸ List.mem_append_right u hc)
    · exact Bool.not_eq_true _ ▸ List.any_eq_false.mp
        (by decide : passwordName.any isDelimiter = false) c hc
  obtain ⟨n, b, g, d, q, v, h, rfl⟩ := (matches_passwordValue w).mp hmatch
  rw [← List.append_assoc b'] at hpre
  obtain ⟨rfl, -⟩ := h.name_eq_of_prefix hplain hy hpre
  have hlen := passwordNames_length _ h.name
  have hname : passwordName.length = 8 := by decide
  have hpos := List.length_pos_of_ne_nil hne
  rw [List.length_map, List.length_append, hname] at hlen
  omega

/-- The name and the value assigned to it are taken together. -/
private theorem substitute_passwordName (hy : StartsAssignment y) :
    ∃ r, passwordValue.substitute marker (passwordName ++ y) = marker ++ r := by
  obtain ⟨b, g, d, q, c, r, hb, hg, hd, hq, hlen, hcb, hcq, rfl⟩ := hy
  have hvalue : passwordAssignment.value c = true :=
    (passwordAssignment.value_open (by decide)).2 c hcb hcq
  have hword : passwordValue.Matches (passwordName ++ (b ++ g :: (d ++ (q ++
      c :: r.takeWhile passwordAssignment.value)))) := by
    rw [matches_passwordValue]
    refine ⟨passwordName, b, g, d, q, c :: r.takeWhile passwordAssignment.value,
      ⟨by decide, hb, by simpa [passwordAssignment] using hg, hd, hq, hlen,
        by simp [passwordAssignment], ?_, ?_⟩, rfl⟩
    · intro e he
      rcases List.mem_cons.mp he with rfl | he
      · exact hvalue
      · exact List.mem_takeWhile_imp he
    · simp [passwordAssignment]
  have hnext : ∀ e ∈ (r.dropWhile passwordAssignment.value).head?,
      passwordAssignment.value e = false := by
    intro e he
    have := List.head?_dropWhile_not passwordAssignment.value r
    rw [he] at this
    simpa using this
  have hmatch := (passwordValue_closesWith.matchLength?_eq_some_iff none _ _).mpr ⟨hword, hnext⟩
  refine ⟨_, Eq.trans ?_ (passwordValue_closesWith.toSolid.substitute_hit hmatch)⟩
  simp only [List.append_assoc, List.cons_append, List.takeWhile_append_dropWhile]

/-! ## Redaction -/

/-- Of a key that is cut off, what is in the text stays. -/
theorem redactChars_cut {s : Char} (hs : isBlank s = true) (hhead : ¬ EndsInHead (x ++ [s])) :
    ∃ x' y', ∀ k, Remnant k →
      redactChars (x ++ s :: (k ++ ['.', '.', '.'])) = x' ++ s :: (k ++ y') :=
  foldl_remnant shaped_of_mem_patterns hs hhead ⟨'.', ['.', '.'], rfl, .inl rfl⟩

/-- Of a key that ends in a name to which something is assigned, what is before the name stays. -/
theorem redactChars_named {s : Char} (hs : isBlank s = true) (hhead : ¬ EndsInHead (x ++ [s]))
    (hy : StartsAssignment y) :
    ∃ x' y', ∀ k, Remnant k →
      redactChars (x ++ s :: (k ++ (passwordName ++ y))) = x' ++ s :: (k ++ y') := by
  have hkey := shaped_of_mem_patterns keyValue (by simp [patterns])
  have hpassword := shaped_of_mem_patterns passwordValue (by simp [patterns])
  obtain ⟨x₁, hhead₁, h₁⟩ := hkey.exists_substitute_append hs hhead
  obtain ⟨x₂, hhead₂, h₂⟩ := hpassword.exists_substitute_append hs hhead₁
  have hy₁ := hkey.startsAssignment_substitute hy
  obtain ⟨r, hr⟩ := substitute_passwordName hy₁
  have hlater : ∀ p ∈ [accessKey, hostToken, fineToken, secretKey, scannerToken], Shaped p :=
    fun p hp => shaped_of_mem_patterns p (List.mem_cons_of_mem _ (List.mem_cons_of_mem _ hp))
  obtain ⟨x', y', h⟩ := foldl_remnant (y := marker ++ r) hlater hs hhead₂ ⟨'[', _, rfl, .inr rfl⟩
  refine ⟨x', y', fun k hk => ?_⟩
  rw [← h k hk]
  simp only [redactChars, patterns, List.foldl_cons, List.foldl_nil]
  rw [h₁ _ (hk.head_plain _), ← List.append_assoc k passwordName y,
    hkey.solid.substitute_free (free_keyValue hk.plain hy.head_delimiter), List.append_assoc k,
    h₂ _ (hk.head_plain _), hpassword.solid.substitute_free
      (free_passwordValue hk.plain hy₁.head_delimiter), hr]

end HookGate.Redaction
