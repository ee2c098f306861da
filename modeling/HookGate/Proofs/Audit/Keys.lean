import HookGate.Proofs.Audit.Credentials

/-!
# Keys between blanks

What redaction makes of a text in which one access key stands for another. Unless the text goes
on behind the key as an assignment would, each pattern either reads past the key in the same way
or takes all of it, and the pattern of access keys takes what is left.
-/

namespace HookGate.Redaction

open Pattern Text

/-- The text reads on like an assignment behind its name. -/
def StartsAssignment (y : List Char) : Prop :=
  ∃ b g d q c r, (∀ e ∈ b, isBlank e = true) ∧ (g = '=' ∨ g = ':') ∧
    (∀ e ∈ d, isBlank e = true) ∧ (∀ e ∈ q, isQuote e = true) ∧ q.length ≤ 1 ∧
    isBlank c = false ∧ isQuote c = false ∧ y = b ++ g :: (d ++ (q ++ c :: r))

/-- The text ends in a name, a sign and blanks, so that a value could follow. -/
def EndsInHead (x : List Char) : Prop :=
  ∃ a ∈ assignments, ∃ n b g d, n.map asciiKey ∈ a.names ∧ (∀ e ∈ b, isBlank e = true) ∧
    g ∈ a.signs ∧ (∀ e ∈ d, isBlank e = true) ∧ n ++ (b ++ g :: d) <:+ x

/-- Texts of a given length that are written like the number of a key. -/
structure KeyLike (n : Nat) (k : List Char) : Prop where
  length : k.length = n
  chars : ∀ c ∈ k, keyIdChar.contains c = true

theorem KeyLike.plain {n : Nat} {k : List Char} (h : KeyLike n k) :
    ∀ c ∈ k, isDelimiter c = false := fun c hc => isDelimiter_keyIdChar (h.chars c hc)

theorem keyLike_of_accessKey {k : List Char} (h : accessKey.Matches k) : KeyLike 20 k where
  length := by
    obtain ⟨s, hs, v, -, -, hexact, rfl⟩ := (matches_accessKey k).mp h
    have hwidth := accessKeyToken.heads_width s hs
    have hlen := hexact rfl
    rw [List.length_append, hwidth, hlen]
    rfl
  chars := keyIdChar_of_accessKey h

/-! ## What a stage leaves -/

variable {p : Pattern} {new rest x y z : List Char}

/-- A delimiter in front stays where it is. -/
theorem Shaped.substitute_delimiter (h : Shaped p) {c : Char} (hc : isDelimiter c = true)
    (cs : List Char) : p.substitute new (c :: cs) = c :: p.substitute new cs := by
  apply h.solid.substitute_keep
  rw [matchLength?_eq_none_iff h.solid.simple]
  intro w r hr hw
  cases w with
  | nil => exact h.solid.nonempty hw
  | cons e es =>
    obtain ⟨rfl, -⟩ := List.cons_eq_cons.mp hr
    rw [h.head_plain hw] at hc
    contradiction

theorem Solid.passes_nil (h : p.Solid) (hx : Passes p new rest x z) (hnil : x = []) : z = [] := by
  cases hx with
  | nil => rfl
  | keep => contradiction
  | hit hn hs =>
    obtain ⟨rfl, -⟩ := List.append_eq_nil_iff.mp hnil
    exact absurd hn (h.matchLength?_ne_zero none _)

/-- A blank at the end stays at the end. -/
theorem Shaped.getLast?_passes (h : Shaped p) {s : Char} (hs : isBlank s = true)
    (hx : Passes p new rest x z) (hlast : x.getLast? = some s) : z.getLast? = some s := by
  induction hx with
  | nil => exact hlast
  | @keep c cs z _ hrest ih =>
    cases cs with
    | nil =>
      rw [Solid.passes_nil h.solid hrest rfl]
      exact hlast
    | cons e es =>
      rw [List.getLast?_cons_cons] at hlast
      have hz := ih hlast
      cases z with
      | nil => simp at hz
      | cons f fs => rwa [List.getLast?_cons_cons]
  | @hit w cs z hn hrest ih =>
    cases cs with
    | nil =>
      rw [List.append_nil] at hlast
      obtain ⟨w', rfl⟩ := List.getLast?_eq_some_iff.mp hlast
      have hm := (matches_of_matchLength? h.solid.simple hn).2
      rw [List.take_left] at hm
      rw [h.last_not_blank hm] at hs
      contradiction
    | cons e es =>
      rw [List.getLast?_append_of_ne_nil _ (by simp)] at hlast
      have hz := ih hlast
      rw [List.getLast?_append_of_ne_nil _ (by rintro rfl; simp at hz), hz]

/-- Nothing in front of the first bracket that substitution leaves was put there. -/
theorem Shaped.peel (h : Shaped p) {y d r : List Char} {c : Char} (hd : '[' ∉ d)
    (hy : p.substitute marker y = d ++ c :: r) :
    ∃ c' r', y = d ++ c' :: r' ∧ (c' = c ∨ isDelimiter c' = false) := by
  have hpasses : Passes p marker [] y (d ++ c :: r) := hy ▸ h.solid.passes y
  clear hy
  induction d generalizing y with
  | nil =>
    cases hpasses with
    | @keep _ cs => exact ⟨c, cs, rfl, .inl rfl⟩
    | @hit w cs _ hn _ =>
      have hm := (matches_of_matchLength? h.solid.simple hn).2
      rw [List.take_left] at hm
      cases w with
      | nil => exact absurd hm h.solid.nonempty
      | cons e es => exact ⟨e, es ++ cs, rfl, .inr (h.head_plain hm)⟩
  | cons e d ih =>
    generalize htext : (e :: d) ++ c :: r = text at hpasses
    cases hpasses with
    | nil => simp at htext
    | @keep _ cs _ _ hs =>
      obtain ⟨rfl, rfl⟩ := List.cons_eq_cons.mp htext
      obtain ⟨c', r', rfl, hc'⟩ := ih (fun hmem => hd (List.mem_cons_of_mem _ hmem)) hs
      exact ⟨c', r', rfl, hc'⟩
    | hit _ hs =>
      have he : e = '[' := (List.cons_eq_cons.mp htext).1
      exact absurd (by simp [he]) hd

theorem Shaped.startsAssignment_of_substitute (h : Shaped p) {y : List Char}
    (hy : StartsAssignment (p.substitute marker y)) : StartsAssignment y := by
  obtain ⟨b, g, d, q, c, r, hb, hg, hd, hq, hlen, hcb, hcq, heq⟩ := hy
  have hbracket : '[' ∉ b ++ g :: (d ++ q) := by
    simp only [List.mem_append, List.mem_cons, not_or]
    refine ⟨fun hmem => ?_, ?_, fun hmem => ?_, fun hmem => ?_⟩
    · exact absurd (hb _ hmem) (by decide)
    · rcases hg with rfl | rfl <;> decide
    · exact absurd (hd _ hmem) (by decide)
    · exact absurd (hq _ hmem) (by decide)
  obtain ⟨c', r', rfl, hc'⟩ := h.peel (d := b ++ g :: (d ++ q)) (c := c) (r := r) hbracket
    (by rw [heq]; simp)
  have hopen : isBlank c' = false ∧ isQuote c' = false := by
    rcases hc' with rfl | hplain
    · exact ⟨hcb, hcq⟩
    · constructor
      · by_contra hblank
        rw [Bool.not_eq_false] at hblank
        rw [isDelimiter_of_isBlank hblank] at hplain
        contradiction
      · by_contra hquote
        rw [Bool.not_eq_false] at hquote
        rw [isDelimiter_of_isQuote hquote] at hplain
        contradiction
  exact ⟨b, g, d, q, c', r', hb, hg, hd, hq, hlen, hopen.1, hopen.2, by simp⟩

/-! ## Assignments around a key -/

section Assignment

variable {a : Assignment} (hp : p.ClosesWith a.value) (hw : ∀ w, p.Matches w ↔ a.Word w)
include hp hw

/-- Behind a blank a match ends in front of the key, or takes in all of it whatever it is. -/
theorem matchLength?_key {k k' : List Char} {s : Char} {m n : Nat} (hs : isBlank s = true)
    (hm : 0 < m) (hk : KeyLike m k) (hk' : KeyLike m k')
    (hn : p.matchLength? none (x ++ s :: (k ++ y)) = some n) :
    p.matchLength? none (x ++ s :: (k' ++ y)) = some n ∧
      (n ≤ x.length ∨ ∃ l r, y = l ++ r ∧ n = x.length + 1 + m + l.length) := by
  obtain ⟨w, r, heq, rfl, hmatch, hnext⟩ := hp.exists_of_matchLength? hn
  rw [List.append_cons] at heq
  have hlast : ∀ u, w ≠ u ++ [s] := by
    rintro u rfl
    obtain ⟨n, b, g, d, q, v, h, hword⟩ := (hw _).mp hmatch
    have hmem := congrArg List.getLast? hword
    rw [List.getLast?_concat, ← List.append_assoc, List.append_cons, ← List.append_assoc,
      ← List.append_assoc, List.getLast?_append_of_ne_nil _ h.value_ne_nil] at hmem
    have := a.value_not_blank s (h.value s (List.mem_of_getLast? hmem.symm))
    rw [hs] at this
    contradiction
  rcases List.append_eq_append_iff.mp heq with ⟨u, rfl, hku⟩ | ⟨u, hxu, rfl⟩
  · -- the word goes on behind the blank
    cases u with
    | nil => exact absurd (List.append_nil _) (hlast x)
    | cons c u =>
      obtain ⟨k₀, ks, rfl⟩ := List.exists_cons_of_length_pos (l := k) (by rw [hk.length]; exact hm)
      obtain rfl : k₀ = c := (List.cons_eq_cons.mp hku).1
      obtain ⟨n, b, g, d, q, v, h, hword⟩ := (hw _).mp hmatch
      rw [List.append_assoc, List.singleton_append] at hword
      obtain ⟨rfl, hhead, rfl⟩ := h.split_behind_blank hword.symm hs (hk.plain k₀ (by simp))
      -- the value runs over the key
      obtain ⟨l, hv, rfl⟩ : ∃ l, k₀ :: u = k₀ :: ks ++ l ∧ y = l ++ r := by
        rcases List.append_eq_append_iff.mp hku with ⟨l, hv, hy⟩ | ⟨l, hv, hr⟩
        · exact ⟨l, hv, hy⟩
        · cases l with
          | nil => exact ⟨[], by simpa using hv.symm, by simpa using hr.symm⟩
          | cons e l =>
            have hvalue := a.value_of_keyIdChar e (hk.chars e (by simp [hv]))
            rw [hnext e (by simp [hr])] at hvalue
            contradiction
      have hword' : p.Matches ((x ++ [s]) ++ (k' ++ l)) := by
        rw [hw, hhead]
        refine ⟨n, b, g, d, [], k' ++ l, ⟨h.name, h.gap, h.sign, h.space, h.quote,
          h.quote_length, h.unquoted, ?_, ?_⟩, by simp⟩
        · intro e he
          rcases List.mem_append.mp he with he | he
          · exact a.value_of_keyIdChar e (hk'.chars e he)
          · exact h.value e (hv ▸ List.mem_append_right _ he)
        · have := h.least_le
          rw [hv, List.length_append, hk.length] at this
          rwa [List.length_append, hk'.length]
      have hlen : (x ++ [s] ++ k₀ :: u).length = x.length + 1 + m + l.length := by
        rw [hv, List.length_append, List.length_append, List.length_append, hk.length]
        simp only [List.length_cons, List.length_nil]
        omega
      refine ⟨?_, .inr ⟨l, r, rfl, hlen⟩⟩
      have hlen' : (x ++ [s] ++ (k' ++ l)).length = x.length + 1 + m + l.length := by
        rw [List.length_append, List.length_append, List.length_append, hk'.length]
        simp only [List.length_cons, List.length_nil]
        omega
      rw [hlen, ← hlen', show x ++ s :: (k' ++ (l ++ r)) = x ++ [s] ++ (k' ++ l) ++ r by simp]
      exact (hp.matchLength?_eq_some_iff none _ r).mpr ⟨hword', hnext⟩
  · -- the word ends in front of it
    have hu : u ≠ [] := by
      rintro rfl
      exact hlast x (by simpa using hxu.symm)
    have hhead (t : List Char) : (u ++ t).head? = u.head? := List.head?_append_of_ne_nil u hu
    have hlen := congrArg List.length hxu
    have hpos := List.length_pos_of_ne_nil hu
    rw [List.length_append, List.length_append, List.length_singleton] at hlen
    refine ⟨?_, .inl (by omega)⟩
    rw [List.append_cons, hxu, List.append_assoc, hp.matchLength?_eq_some_iff]
    rw [hhead] at hnext ⊢
    exact ⟨hmatch, hnext⟩

/-- Either the search reads up to the key, or what it leaves does not depend on the key. -/
theorem passes_or_swallows {s : Char} {m : Nat} (hs : isBlank s = true) (hm : 0 < m)
    (x y : List Char) :
    (∃ z, ∀ k, KeyLike m k → Passes p new (k ++ y) (x ++ [s]) z) ∨
      ∃ z, ∀ k, KeyLike m k → p.substitute new (x ++ s :: (k ++ y)) = z := by
  have hsample : KeyLike m (List.replicate m 'A') :=
    ⟨List.length_replicate, fun c hc => by rw [List.eq_of_mem_replicate hc]; decide⟩
  induction hlen : x.length using Nat.strong_induction_on generalizing x with
  | _ len ih =>
    have hsolid := hp.toSolid
    cases hn : p.matchLength? none (x ++ s :: (List.replicate m 'A' ++ y)) with
    | none =>
      have hnone (k : List Char) (hk : KeyLike m k) :
          p.matchLength? none (x ++ s :: (k ++ y)) = none := by
        by_contra hsome
        obtain ⟨n, hsome⟩ := Option.ne_none_iff_exists'.mp hsome
        rw [(matchLength?_key hp hw hs hm hk hsample hsome).1] at hn
        contradiction
      cases x with
      | nil => exact .inl ⟨[s], fun k hk => .keep (hnone k hk) .nil⟩
      | cons c cs =>
        rcases ih cs.length (by simp [← hlen]) cs rfl with ⟨z, hz⟩ | ⟨z, hz⟩
        · refine .inl ⟨c :: z, fun k hk => .keep ?_ (hz k hk)⟩
          simpa using hnone k hk
        · refine .inr ⟨c :: z, fun k hk => ?_⟩
          have hkeep := hnone k hk
          rw [List.cons_append] at hkeep ⊢
          rw [hsolid.substitute_keep hkeep, hz k hk]
    | some n =>
      have hsome (k : List Char) (hk : KeyLike m k) :=
        (matchLength?_key hp hw hs hm hsample hk hn).1
      rcases (matchLength?_key hp hw hs hm hsample hsample hn).2 with hle | ⟨l, r, rfl, hn'⟩
      · have hpos : n ≠ 0 := fun hz => hsolid.matchLength?_ne_zero none _ (hz ▸ hn)
        obtain ⟨w, cs, rfl, hwn⟩ : ∃ w cs, x = w ++ cs ∧ n = w.length :=
          ⟨x.take n, x.drop n, (List.take_append_drop n x).symm,
            (List.length_take_of_le hle).symm⟩
        subst hwn
        rcases ih cs.length (by rw [← hlen, List.length_append]; omega) cs rfl with
          ⟨z, hz⟩ | ⟨z, hz⟩
        · refine .inl ⟨new ++ z, fun k hk => ?_⟩
          rw [List.append_assoc]
          refine .hit ?_ (hz k hk)
          simpa using hsome k hk
        · refine .inr ⟨new ++ z, fun k hk => ?_⟩
          have hk := hsome k hk
          rw [List.append_assoc] at hk ⊢
          rw [hsolid.substitute_hit hk, hz _ ‹_›]
      · refine .inr ⟨new ++ p.substitute new r, fun k hk => ?_⟩
        have heq : x ++ s :: (k ++ (l ++ r)) = x ++ s :: (k ++ l) ++ r := by simp
        have hlen' : n = (x ++ s :: (k ++ l)).length := by
          simp only [List.length_append, List.length_cons, hk.length]
          omega
        have hmatch := hsome k hk
        rw [heq, hlen'] at hmatch
        rw [heq, hsolid.substitute_hit hmatch]

omit hp in
/-- Behind a key that is not the name of an assignment no match starts in the key. -/
theorem free_key {m : Nat} {k : List Char} (hk : KeyLike m k)
    (hy : ∀ c ∈ y.head?, isDelimiter c = true) (hquoted : a.quoted = true)
    (hno : ¬ StartsAssignment y) : Free p k y := by
  intro u b' hku _ w hmatch hpre
  obtain ⟨n, b, g, d, q, v, h, rfl⟩ := (hw w).mp hmatch
  have hplain : ∀ c ∈ b', isDelimiter c = false := fun c hc => hk.plain c (by simp [hku, hc])
  obtain ⟨-, r, rfl⟩ := h.name_eq_of_prefix hplain hy hpre
  obtain ⟨c, cs, rfl⟩ := List.exists_cons_of_ne_nil h.value_ne_nil
  have hc := h.value c (by simp)
  exact hno ⟨b, g, d, q, c, cs ++ r, h.gap, a.signs_subset g h.sign, h.space, h.quote,
    h.quote_length, a.value_not_blank c hc, a.value_not_quote hquoted c hc, by simp⟩

/-- A stage that looks for an assignment leaves the key where it is, or nothing of it. -/
theorem stage_key (hshaped : Shaped p) (hquoted : a.quoted = true) {s : Char} {m : Nat}
    (hs : isBlank s = true) (hm : 0 < m) (hy : ∀ c ∈ y.head?, isDelimiter c = true)
    (hno : ¬ StartsAssignment y) (x : List Char) :
    (∃ x', ∀ k, KeyLike m k → p.substitute new (x ++ s :: (k ++ y)) =
      x' ++ s :: (k ++ p.substitute new y)) ∨
    ∃ z, ∀ k, KeyLike m k → p.substitute new (x ++ s :: (k ++ y)) = z := by
  have hcases : (∃ z, ∀ k, KeyLike m k → Passes p new (k ++ y) (x ++ [s]) z) ∨
      ∃ z, ∀ k, KeyLike m k → p.substitute new (x ++ s :: (k ++ y)) = z :=
    passes_or_swallows hp hw hs hm x y
  rcases hcases with ⟨z, hz⟩ | hz
  · have hsample : KeyLike m (List.replicate m 'A') :=
      ⟨List.length_replicate, fun c hc => by rw [List.eq_of_mem_replicate hc]; decide⟩
    obtain ⟨x', rfl⟩ := List.getLast?_eq_some_iff.mp
      (hshaped.getLast?_passes hs (hz _ hsample) List.getLast?_concat)
    refine .inl ⟨x', fun k hk => ?_⟩
    rw [List.append_cons, (hz k hk).substitute_append hshaped.solid,
      hshaped.solid.substitute_free (free_key hw hk hy hquoted hno)]
    simp
  · exact .inr hz

end Assignment

/-! ## One key for another -/

/-- Tokens do not reach over a blank. -/
theorem separated_token {t : Token} (hw : ∀ w, p.Matches w ↔ t.Word w) {s : Char}
    (hs : isBlank s = true) (x y : List Char) : Separated p (x ++ [s]) y := by
  intro u b hub hne w hmatch hpre
  by_contra hlt
  have hb : b <+: w := List.prefix_of_prefix_length_le (List.prefix_append b y) hpre (by omega)
  have hmem : s ∈ b := by
    have hlast := congrArg List.getLast? hub
    rw [List.getLast?_concat, List.getLast?_append_of_ne_nil _ hne] at hlast
    exact List.mem_of_getLast? hlast.symm
  have hplain := ((hw w).mp hmatch).plain s (hb.mem hmem)
  rw [isDelimiter_of_isBlank hs] at hplain
  contradiction

theorem substitute_accessKey {k : List Char} (hk : accessKey.Matches k) {s : Char}
    (hs : isBlank s = true) (x y : List Char) :
    accessKey.substitute marker (x ++ s :: (k ++ y)) =
      accessKey.substitute marker (x ++ [s]) ++ (marker ++ accessKey.substitute marker y) := by
  have hp := accessKey_closesWith
  have hmatch : accessKey.matchLength? none (k ++ y) = some k.length :=
    (hp.matchLength?_eq_some_iff none k y).mpr ⟨hk, fun _ _ => rfl⟩
  rw [List.append_cons, hp.substitute_append (separated_token matches_accessKey hs x _),
    hp.toSolid.substitute_hit hmatch]

theorem head?_substitute (h : Shaped p) (hy : ∀ c ∈ y.head?, isDelimiter c = true) :
    (p.substitute new y).head? = y.head? := by
  cases y with
  | nil => rfl
  | cons c cs => rw [h.substitute_delimiter (hy c rfl)]; rfl

/-- Redaction leaves the same of a text whichever key stands in it, unless the text goes on as an
assignment would. -/
theorem redactChars_key {s : Char} (hs : isBlank s = true)
    (hy : ∀ c ∈ y.head?, isDelimiter c = true) (hno : ¬ StartsAssignment y) (x : List Char) :
    ∃ z, ∀ k, accessKey.Matches k → redactChars (x ++ s :: (k ++ y)) = z := by
  have hkey := shaped_of_mem_patterns keyValue (by simp [patterns])
  have hpassword := shaped_of_mem_patterns passwordValue (by simp [patterns])
  suffices h : ∃ z, ∀ k, accessKey.Matches k → accessKey.substitute marker
      (passwordValue.substitute marker (keyValue.substitute marker (x ++ s :: (k ++ y)))) = z by
    obtain ⟨z, hz⟩ := h
    refine ⟨[hostToken, fineToken, secretKey, scannerToken].foldl
      (fun t p => p.substitute marker t) z, fun k hk => ?_⟩
    rw [← hz k hk]
    rfl
  rcases stage_key keyValue_closesWith matches_keyValue hkey rfl hs
    (m := 20) (by omega) hy hno x with ⟨x₁, h₁⟩ | ⟨z, hz⟩
  · have hy₁ : ∀ c ∈ (keyValue.substitute marker y).head?, isDelimiter c = true := by
      rwa [head?_substitute hkey hy]
    have hno₁ := mt hkey.startsAssignment_of_substitute hno
    rcases stage_key passwordValue_closesWith matches_passwordValue hpassword rfl
      hs (m := 20) (by omega) hy₁ hno₁ x₁ with ⟨x₂, h₂⟩ | ⟨z, hz⟩
    · refine ⟨accessKey.substitute marker (x₂ ++ [s]) ++ (marker ++ accessKey.substitute marker
        (passwordValue.substitute marker (keyValue.substitute marker y))), fun k hk => ?_⟩
      rw [h₁ k (keyLike_of_accessKey hk), h₂ k (keyLike_of_accessKey hk),
        substitute_accessKey hk hs]
    · refine ⟨accessKey.substitute marker z, fun k hk => ?_⟩
      rw [h₁ k (keyLike_of_accessKey hk), hz k (keyLike_of_accessKey hk)]
  · refine ⟨accessKey.substitute marker (passwordValue.substitute marker z), fun k hk => ?_⟩
    rw [hz k (keyLike_of_accessKey hk)]

end HookGate.Redaction
