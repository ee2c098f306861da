import HookGate.Proofs.Audit.Shapes

/-!
# The patterns of credentials

Three patterns are assignments and four are tokens. Each closes with the run of characters at
its end.
-/

namespace HookGate.Redaction

open Pattern Text

/-! ## Characters -/

theorem nearAscii_of_keyIdChar {c : Char} (h : keyIdChar.contains c = true) : NearAscii c := by
  simp only [keyIdChar, CharSet.contains, Ranges.contains, List.any_cons, List.any_nil,
    Bool.or_false, Bool.or_eq_true, Bool.and_eq_true, decide_eq_true_eq] at h
  exact .inl (by omega)

theorem isDelimiter_keyIdChar {c : Char} (h : keyIdChar.contains c = true) :
    isDelimiter c = false :=
  NearAscii.rec_check (P := fun c => keyIdChar.contains c = true → isDelimiter c = false)
    (by decide) (by decide) (by decide) (nearAscii_of_keyIdChar h) h

private theorem tokenChar_ascii {c : Char} (h : tokenChar.contains c = true) :
    c.toNat < 0x80 := by
  simp only [tokenChar, alnum, CharSet.contains, Ranges.contains, List.any_cons, List.any_nil,
    Bool.or_false, Bool.or_eq_true, Bool.and_eq_true, decide_eq_true_eq] at h
  omega

private theorem wordTokenChar_ascii {c : Char} (h : wordTokenChar.contains c = true) :
    c.toNat < 0x80 := by
  simp only [wordTokenChar, alnum, CharSet.contains, Ranges.contains, List.any_cons,
    List.any_nil, Bool.or_false, Bool.or_eq_true, Bool.and_eq_true, decide_eq_true_eq] at h
  omega

theorem isDelimiter_folded_tokenChar {c : Char}
    (h : (CharSet.folded tokenChar).contains c = true) : isDelimiter c = false :=
  NearAscii.rec_check
    (P := fun c => (CharSet.folded tokenChar).contains c = true → isDelimiter c = false)
    (by decide +kernel) (by decide) (by decide)
    (nearAscii_of_folded (fun _ => tokenChar_ascii) h) h

theorem isDelimiter_tokenChar {c : Char} (h : tokenChar.contains c = true) :
    isDelimiter c = false :=
  NearAscii.rec_check (P := fun c => tokenChar.contains c = true → isDelimiter c = false)
    (by decide) (by decide) (by decide) (.inl (tokenChar_ascii h)) h

theorem isDelimiter_wordTokenChar {c : Char} (h : wordTokenChar.contains c = true) :
    isDelimiter c = false :=
  NearAscii.rec_check (P := fun c => wordTokenChar.contains c = true → isDelimiter c = false)
    (by decide) (by decide) (by decide) (.inl (wordTokenChar_ascii h)) h

theorem folded_tokenChar_of_keyIdChar {c : Char} (h : keyIdChar.contains c = true) :
    (CharSet.folded tokenChar).contains c = true :=
  NearAscii.rec_check
    (P := fun c => keyIdChar.contains c = true → (CharSet.folded tokenChar).contains c = true)
    (by decide +kernel) (by decide) (by decide) (nearAscii_of_keyIdChar h) h

private theorem not_blank_or_quote_of_keyIdChar {c : Char} (h : keyIdChar.contains c = true) :
    isBlank c = false ∧ isQuote c = false :=
  NearAscii.rec_check
    (P := fun c => keyIdChar.contains c = true → isBlank c = false ∧ isQuote c = false)
    (by decide) (by decide) (by decide) (nearAscii_of_keyIdChar h) h

/-! ## Assignments -/

/-- The names of keys and tokens, with an underscore, a hyphen or nothing in between. -/
def keyNames : List (List Char) :=
  (["api", "secret", "access", "auth"].map String.toList).flatMap fun s =>
    [[], ['_'], ['-']].flatMap fun j => (["key", "token"].map String.toList).map fun r =>
      s ++ (j ++ r)

def keyAssignment : Assignment where
  names := keyNames
  signs := ['=', ':']
  quoted := true
  value := (CharSet.folded tokenChar).contains
  least := 16
  names_plain := by decide
  names_clear := by decide
  signs_subset := by simp
  value_not_blank := by
    intro c hc
    have := isDelimiter_folded_tokenChar hc
    simp only [isDelimiter, Bool.or_eq_false_iff] at this
    exact this.1
  value_not_quote := by
    intro _ c hc
    by_contra hq
    have := isDelimiter_of_isQuote (Bool.not_eq_false _ ▸ hq)
    rw [isDelimiter_folded_tokenChar hc] at this
    contradiction
  value_of_keyIdChar := fun _ => folded_tokenChar_of_keyIdChar
  least_pos := by decide
  value_open := by
    intro h
    have := isDelimiter_folded_tokenChar h
    contradiction

def passwordAssignment : Assignment where
  names := ["password", "passwd", "pwd"].map String.toList
  signs := ['=', ':']
  quoted := true
  value := (CharSet.compl (.folded (.union .space (.ofChars ['\'', '"'])))).contains
  least := 1
  names_plain := by decide
  names_clear := by decide
  signs_subset := by simp
  value_not_blank := by
    intro c hc
    simp only [CharSet.contains.eq_def (.compl _), folded_blankOrQuote] at hc
    simpa using (Bool.or_eq_false_iff.mp (Bool.not_eq_true' _ ▸ hc)).1
  value_not_quote := by
    intro _ c hc
    simp only [CharSet.contains.eq_def (.compl _), folded_blankOrQuote] at hc
    simpa using (Bool.or_eq_false_iff.mp (Bool.not_eq_true' _ ▸ hc)).2
  value_of_keyIdChar := by
    intro c hc
    obtain ⟨hb, hq⟩ := not_blank_or_quote_of_keyIdChar hc
    simp [CharSet.contains.eq_def (.compl _), folded_blankOrQuote, hb, hq]
  least_pos := by decide
  value_open := by
    refine fun _ => ⟨rfl, fun c hb hq => ?_⟩
    simp [CharSet.contains.eq_def (.compl _), folded_blankOrQuote, hb, hq]

def scannerAssignment : Assignment where
  names := ["semgrep_app_token".toList]
  signs := ['=']
  quoted := false
  value := (CharSet.compl .space).contains
  least := 1
  names_plain := by decide
  names_clear := by decide
  signs_subset := by simp
  value_not_blank := by
    intro c hc
    simpa [CharSet.contains.eq_def (.compl _), space_contains] using hc
  value_not_quote := by simp
  value_of_keyIdChar := by
    intro c hc
    simp [CharSet.contains.eq_def (.compl _), space_contains,
      (not_blank_or_quote_of_keyIdChar hc).1]
  least_pos := by decide
  value_open := by
    refine fun _ => ⟨rfl, fun c hb _ => ?_⟩
    simp [CharSet.contains.eq_def (.compl _), space_contains, hb]

/-! ## Words of assignments -/

theorem matches_spaces (w : List Char) : spaces.Matches w ↔ ∀ c ∈ w, isBlank c = true := by
  simp [spaces, Pattern.star, matches_repeat_set, space_contains]

private theorem contains_ofChars (cs : List Char) (c : Char) :
    (CharSet.ofChars cs).contains c = true ↔ c ∈ cs := by
  simp only [CharSet.ofChars, CharSet.contains, Ranges.contains, List.any_map, List.any_eq_true,
    Function.comp_apply, Bool.and_eq_true, decide_eq_true_eq]
  constructor
  · rintro ⟨d, hd, hle, hge⟩
    obtain rfl : d = c := Char.toNat_inj.mp (by omega)
    exact hd
  · exact fun hc => ⟨c, hc, le_refl _, le_refl _⟩

theorem matches_oneOf (s : String) (w : List Char) :
    (oneOf s).Matches w ↔ ∃ c ∈ s.toList, w = [c] := by
  simp [oneOf, contains_ofChars]

theorem matches_opt_oneOf (s : String) (w : List Char) :
    (opt (oneOf s)).Matches w ↔ (∀ c ∈ w, c ∈ s.toList) ∧ w.length ≤ 1 := by
  simp [opt, oneOf, matches_repeat_set, contains_ofChars]

/-- The words of an assigned value are spelled like those of an assignment. -/
private theorem matches_assigned {a : Assignment} {name : List Pattern} {s : CharSet}
    (hname : ∀ w, (concat name).Matches w ↔ w.map asciiKey ∈ a.names)
    (hsigns : a.signs = ['=', ':']) (hquoted : a.quoted = true) (hvalue : a.value = s.contains)
    (w : List Char) : (assigned name [atLeast a.least (.set s)]).Matches w ↔ a.Word w := by
  have hq (c : Char) : c ∈ "'\"".toList ↔ isQuote c = true := by
    simp [isQuote]
  simp only [assigned, List.append_assoc, List.cons_append, List.nil_append,
    matches_concat_append, matches_concat_cons, hname, matches_spaces, matches_oneOf, quote,
    matches_opt_oneOf, hq, atLeast, matches_repeat_set, matches_concat_nil]
  constructor
  · rintro ⟨n, -, hn, ⟨b, -, hb, ⟨-, -, ⟨g, hg, rfl⟩, ⟨d, -, hd, ⟨q, -, ⟨hqs, hlen⟩,
      ⟨v, -, ⟨hv, hleast, _⟩, rfl, rfl⟩, rfl⟩, rfl⟩, rfl⟩, rfl⟩, rfl⟩
    refine ⟨n, b, g, d, q, v, ⟨hn, hb, ?_, hd, hqs, hlen, by simp [hquoted], ?_, hleast⟩,
      by simp⟩
    · simpa [hsigns] using hg
    · simpa [hvalue] using hv
  · rintro ⟨n, b, g, d, q, v, h, rfl⟩
    refine ⟨n, _, h.name, ⟨b, _, h.gap, ⟨[g], _, ⟨g, ?_, rfl⟩, ⟨d, _, h.space, ⟨q, _,
      ⟨h.quote, h.quote_length⟩, ⟨v, [], ⟨?_, h.least_le, by simp⟩, rfl, rfl⟩, rfl⟩, rfl⟩, rfl⟩,
      rfl⟩, by simp⟩
    · simpa [hsigns] using h.sign
    · simpa [hvalue] using h.value

private theorem join_of_asciiKey {c : Char} (h : asciiKey c = '_' ∨ asciiKey c = '-') :
    c = '_' ∨ c = '-' := by
  by_cases hc : NearAscii c
  · exact NearAscii.rec_check
      (P := fun c => asciiKey c = '_' ∨ asciiKey c = '-' → c = '_' ∨ c = '-')
      (by decide) (by decide) (by decide) hc h
  · rwa [asciiKey_eq_self hc] at h

/-- The texts in any case are the words of their keys. -/
private theorem matches_anyCaseless (ss : List String)
    (hs : ∀ s ∈ ss, s.toList.map asciiKey = s.toList ∧ s.toList.all (·.toNat < 0x80) = true)
    (w : List Char) :
    (alternatives (ss.map caseless)).Matches w ↔ w.map asciiKey ∈ ss.map String.toList := by
  have hone (s : String) (h : s ∈ ss) : (caseless s).Matches w ↔ s.toList = w.map asciiKey := by
    obtain ⟨hkey, hascii⟩ := hs s h
    rw [matches_caseless (by simpa using hascii), hkey, eq_comm]
  rw [matches_alternatives, List.mem_map]
  constructor
  · rintro ⟨p, hp, hw⟩
    obtain ⟨s, h, rfl⟩ := List.mem_map.mp hp
    exact ⟨s, h, (hone s h).mp hw⟩
  · rintro ⟨s, h, hw⟩
    exact ⟨caseless s, List.mem_map_of_mem h, (hone s h).mpr hw⟩

private theorem matches_join (w : List Char) :
    (opt (oneOf "_-")).Matches w ↔ w.map asciiKey ∈ [[], ['_'], ['-']] := by
  rw [matches_opt_oneOf]
  constructor
  · rintro ⟨hw, hlen⟩
    match w with
    | [] => simp
    | [c] =>
      have hc : c = '_' ∨ c = '-' := by simpa using hw c
      rcases hc with rfl | rfl <;> decide
  · intro hw
    match w with
    | [] => simp
    | [c] =>
      have hc : asciiKey c = '_' ∨ asciiKey c = '-' := by simpa using hw
      simpa using join_of_asciiKey hc
    | _ :: _ :: _ => simp at hw

private theorem matches_keyName (w : List Char) :
    (concat [alternatives (["api", "secret", "access", "auth"].map caseless), opt (oneOf "_-"),
      alternatives (["key", "token"].map caseless)]).Matches w ↔
        w.map asciiKey ∈ keyAssignment.names := by
  have hstem := matches_anyCaseless ["api", "secret", "access", "auth"] (by decide)
  have hrole := matches_anyCaseless ["key", "token"] (by decide)
  simp only [matches_concat_cons, matches_concat_nil, hstem, matches_join, hrole]
  change _ ↔ w.map asciiKey ∈ keyNames
  constructor
  · rintro ⟨u, -, hu, ⟨j, -, hj, ⟨r, -, hr, rfl, rfl⟩, rfl⟩, rfl⟩
    simp only [List.map_append, List.append_nil]
    exact List.mem_flatMap.mpr ⟨_, hu, List.mem_flatMap.mpr ⟨_, hj, List.mem_map_of_mem hr⟩⟩
  · intro hw
    obtain ⟨s, hs, hw⟩ := List.mem_flatMap.mp hw
    obtain ⟨j, hj, hw⟩ := List.mem_flatMap.mp hw
    obtain ⟨r, hr, hw⟩ := List.mem_map.mp hw
    obtain ⟨u, v, rfl, rfl, hv⟩ := List.map_eq_append_iff.mp hw.symm
    obtain ⟨x, y, rfl, rfl, rfl⟩ := List.map_eq_append_iff.mp hv
    exact ⟨u, _, hs, ⟨x, _, hj, ⟨y, [], hr, rfl, rfl⟩, rfl⟩, by simp⟩

theorem matches_keyValue (w : List Char) : keyValue.Matches w ↔ keyAssignment.Word w :=
  matches_assigned (a := keyAssignment) matches_keyName rfl rfl rfl w

theorem matches_passwordValue (w : List Char) :
    passwordValue.Matches w ↔ passwordAssignment.Word w := by
  have hname := matches_anyCaseless ["password", "passwd", "pwd"] (by decide)
  refine matches_assigned (a := passwordAssignment) ?_ rfl rfl rfl w
  intro n
  simp only [concat, hname]
  rfl

theorem matches_scannerToken (w : List Char) :
    scannerToken.Matches w ↔ scannerAssignment.Word w := by
  have hname (n : List Char) : (caseless "SEMGREP_APP_TOKEN").Matches n ↔
      n.map asciiKey ∈ scannerAssignment.names := by
    rw [matches_caseless (by simp)]
    simp only [scannerAssignment, List.mem_singleton]
    rw [show "SEMGREP_APP_TOKEN".toList.map asciiKey = "semgrep_app_token".toList by
      decide]
  simp only [scannerToken, matches_concat_cons, matches_concat_nil, hname, matches_spaces,
    matches_literal, plus, matches_repeat_set]
  constructor
  · rintro ⟨n, -, hn, ⟨b, -, hb, ⟨-, -, rfl, ⟨d, -, hd, ⟨v, -, ⟨hv, hleast, _⟩, rfl, rfl⟩, rfl⟩,
      rfl⟩, rfl⟩, rfl⟩
    exact ⟨n, b, '=', d, [], v, ⟨hn, hb, by simp [scannerAssignment], hd, by simp, by simp,
      fun _ => rfl, hv, hleast⟩, by simp⟩
  · rintro ⟨n, b, g, d, q, v, h, rfl⟩
    obtain rfl : q = [] := h.unquoted rfl
    obtain rfl : g = '=' := List.mem_singleton.mp h.sign
    exact ⟨n, _, h.name, ⟨b, _, h.gap, ⟨['='], _, rfl, ⟨d, _, h.space, ⟨v, [],
      ⟨h.value, h.least_le, by simp⟩, rfl, rfl⟩, rfl⟩, rfl⟩, rfl⟩, by simp⟩

theorem keyValue_closesWith : keyValue.ClosesWith keyAssignment.value :=
  Assignment.closesWith (by decide) matches_keyValue (eager_concat (eager_repeat _ _) _)

theorem passwordValue_closesWith : passwordValue.ClosesWith passwordAssignment.value :=
  Assignment.closesWith (by decide) matches_passwordValue
    (eager_concat (eager_repeat _ _) _)

theorem scannerToken_closesWith : scannerToken.ClosesWith scannerAssignment.value :=
  Assignment.closesWith (by decide) matches_scannerToken
    (eager_concat (eager_repeat _ _) [_, _, _, _])

/-! ## Tokens -/

def accessKeyToken : Token where
  heads := ["AKIA".toList]
  width := 4
  run := keyIdChar.contains
  least := 16
  exact := true
  heads_width := by decide
  heads_plain := by decide
  heads_clear := by decide
  run_plain := fun _ => isDelimiter_keyIdChar
  long := by decide

def hostTokenShape : Token where
  heads := "pousr".toList.map fun c => "gh".toList ++ c :: "_".toList
  width := 4
  run := wordTokenChar.contains
  least := 36
  exact := false
  heads_width := by decide
  heads_plain := by decide
  heads_clear := by decide
  run_plain := fun _ => isDelimiter_wordTokenChar
  long := by decide

def fineTokenShape : Token where
  heads := ["github_pat_".toList]
  width := 11
  run := wordTokenChar.contains
  least := 22
  exact := false
  heads_width := by decide
  heads_plain := by decide
  heads_clear := by decide
  run_plain := fun _ => isDelimiter_wordTokenChar
  long := by decide

def secretKeyToken : Token where
  heads := ["sk-".toList]
  width := 3
  run := tokenChar.contains
  least := 20
  exact := false
  heads_width := by decide
  heads_plain := by decide
  heads_clear := by decide
  run_plain := fun _ => isDelimiter_tokenChar
  long := by decide

/-- A head and a run of characters behind it spell a token. -/
private theorem matches_headed {t : Token} {head : Pattern} {s : CharSet}
    (hhead : ∀ w, head.Matches w ↔ w ∈ t.heads) (hrun : t.run = s.contains)
    (hexact : t.exact = false) (w : List Char) :
    (Pattern.seq head (atLeast t.least (.set s))).Matches w ↔ t.Word w := by
  rw [matches_seq]
  simp only [hhead, atLeast, matches_repeat_set, Token.Word, hrun, hexact]
  constructor
  · rintro ⟨h, v, hh, ⟨hv, hleast, _⟩, rfl⟩
    exact ⟨h, hh, v, hv, hleast, by simp, rfl⟩
  · rintro ⟨h, hh, v, hv, hleast, _, rfl⟩
    exact ⟨h, v, hh, ⟨hv, hleast, by simp⟩, rfl⟩

theorem matches_accessKey (w : List Char) : accessKey.Matches w ↔ accessKeyToken.Word w := by
  rw [accessKey, matches_seq]
  simp only [matches_literal, exactly, matches_repeat_set, Token.Word, accessKeyToken,
    List.mem_singleton]
  constructor
  · rintro ⟨h, v, rfl, ⟨hv, hleast, hmost⟩, rfl⟩
    exact ⟨_, rfl, v, hv, hleast, fun _ => Nat.le_antisymm (hmost 16 rfl) hleast, rfl⟩
  · rintro ⟨h, rfl, v, hv, hleast, hexact, rfl⟩
    exact ⟨_, v, rfl, ⟨hv, hleast, fun m hm => by
      rw [← Option.mem_some.mp hm]
      exact (hexact trivial).le⟩, rfl⟩

theorem keyIdChar_of_accessKey {w : List Char} (h : accessKey.Matches w) :
    ∀ c ∈ w, keyIdChar.contains c = true := by
  obtain ⟨s, hs, v, hv, -, -, rfl⟩ := (matches_accessKey w).mp h
  obtain rfl : s = "AKIA".toList := by simpa [accessKeyToken] using hs
  have hhead : "AKIA".toList.all keyIdChar.contains = true := by decide
  intro c hc
  rcases List.mem_append.mp hc with hc | hc
  · exact List.all_eq_true.mp hhead c hc
  · exact hv c hc

theorem matches_hostToken (w : List Char) : hostToken.Matches w ↔ hostTokenShape.Word w := by
  have hhead (u : List Char) : (concat [literal "gh", oneOf "pousr", literal "_"]).Matches u ↔
      u ∈ hostTokenShape.heads := by
    simp only [matches_concat_cons, matches_concat_nil, matches_literal, matches_oneOf,
      hostTokenShape, List.mem_map]
    constructor
    · rintro ⟨-, -, rfl, ⟨-, -, ⟨c, hc, rfl⟩, ⟨-, -, rfl, rfl, rfl⟩, rfl⟩, rfl⟩
      exact ⟨c, hc, rfl⟩
    · rintro ⟨c, hc, rfl⟩
      exact ⟨_, _, rfl, ⟨[c], _, ⟨c, hc, rfl⟩, ⟨_, [], rfl, rfl, rfl⟩, rfl⟩, rfl⟩
  rw [← matches_headed hhead rfl rfl, matches_seq]
  exact matches_concat_append [literal "gh", oneOf "pousr", literal "_"] [_] w

theorem matches_fineToken (w : List Char) : fineToken.Matches w ↔ fineTokenShape.Word w :=
  matches_headed (t := fineTokenShape) (by simp [matches_literal, fineTokenShape]) rfl rfl w

theorem matches_secretKey (w : List Char) : secretKey.Matches w ↔ secretKeyToken.Word w :=
  matches_headed (t := secretKeyToken) (by simp [matches_literal, secretKeyToken]) rfl rfl w

theorem accessKey_closesWith : accessKey.ClosesWith accessKeyToken.closing :=
  Token.closesWith (by decide) matches_accessKey (fun _ _ _ _ _ => rfl)

theorem hostToken_closesWith : hostToken.ClosesWith hostTokenShape.closing :=
  Token.closesWith (by decide) matches_hostToken
    (eager_concat (eager_repeat _ _) [_, _, _])

theorem fineToken_closesWith : fineToken.ClosesWith fineTokenShape.closing :=
  Token.closesWith (by decide) matches_fineToken (eager_seq (eager_repeat _ _))

theorem secretKey_closesWith : secretKey.ClosesWith secretKeyToken.closing :=
  Token.closesWith (by decide) matches_secretKey (eager_seq (eager_repeat _ _))

/-! ## All patterns -/

def assignments : List Assignment := [keyAssignment, passwordAssignment, scannerAssignment]

/-- Patterns for an assignment or a token that close with the run at its end. -/
inductive Shaped (p : Pattern) : Prop
  | assignment (a : Assignment) (ha : a ∈ assignments) (hp : p.ClosesWith a.value)
      (hw : ∀ w, p.Matches w ↔ a.Word w)
  | token (t : Token) (hp : p.ClosesWith t.closing) (hw : ∀ w, p.Matches w ↔ t.Word w)

theorem shaped_of_mem_patterns : ∀ p ∈ patterns, Shaped p := by
  simp only [patterns, List.forall_mem_cons, List.not_mem_nil, false_implies, implies_true,
    and_true]
  exact ⟨.assignment _ (by simp [assignments]) keyValue_closesWith matches_keyValue,
    .assignment _ (by simp [assignments]) passwordValue_closesWith matches_passwordValue,
    .token _ accessKey_closesWith matches_accessKey,
    .token _ hostToken_closesWith matches_hostToken,
    .token _ fineToken_closesWith matches_fineToken,
    .token _ secretKey_closesWith matches_secretKey,
    .assignment _ (by simp [assignments]) scannerToken_closesWith matches_scannerToken⟩

namespace Shaped

variable {p : Pattern}

theorem exists_closesWith (h : Shaped p) : ∃ s, p.ClosesWith s := by
  cases h with
  | assignment a _ hp _ => exact ⟨_, hp⟩
  | token t hp _ => exact ⟨_, hp⟩

theorem solid (h : Shaped p) : p.Solid := by
  obtain ⟨s, hs⟩ := h.exists_closesWith
  exact hs.toSolid

/-- Words begin with a character of a name or of a token. -/
theorem head_plain (h : Shaped p) {c : Char} {w : List Char} (hw : p.Matches (c :: w)) :
    isDelimiter c = false := by
  cases h with
  | assignment a _ _ hwords =>
    obtain ⟨n, b, g, d, q, v, hspells, heq⟩ := (hwords _).mp hw
    cases n with
    | nil => exact absurd rfl hspells.name_ne_nil
    | cons e es =>
      obtain ⟨rfl, -⟩ := List.cons_eq_cons.mp heq
      exact hspells.name_plain c (by simp)
  | token t _ hwords => exact ((hwords _).mp hw).plain c (by simp)

/-- Words do not end in a blank. -/
theorem last_not_blank (h : Shaped p) {c : Char} {w : List Char} (hw : p.Matches (w ++ [c])) :
    isBlank c = false := by
  cases h with
  | assignment a _ _ hwords =>
    obtain ⟨n, b, g, d, q, v, hspells, heq⟩ := (hwords _).mp hw
    apply a.value_not_blank
    apply hspells.value
    have hlast := congrArg List.getLast? heq
    rw [List.getLast?_concat, ← List.append_assoc, List.append_cons, ← List.append_assoc,
      ← List.append_assoc, List.getLast?_append_of_ne_nil _ hspells.value_ne_nil] at hlast
    exact List.mem_of_getLast? hlast.symm
  | token t _ hwords =>
    have hplain := ((hwords _).mp hw).plain c (by simp)
    simp only [isDelimiter, Bool.or_eq_false_iff] at hplain
    exact hplain.1

end Shaped

theorem solid_of_mem_patterns : ∀ p ∈ patterns, p.Solid :=
  fun p hp => (shaped_of_mem_patterns p hp).solid

end HookGate.Redaction
