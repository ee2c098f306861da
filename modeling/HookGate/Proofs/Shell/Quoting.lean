import Mathlib
import HookGate.Shell.Splitting
import HookGate.Shell.Words

/-!
# Words that come back

A list of words that is written as a line is found again when the line is split, whatever characters
stand in the words. A word is quoted chunk by chunk, so the way back is laid out chunk by chunk too:
behind each, the splitter is outside of quotes, and the word under way has grown by the chunk.
-/

namespace HookGate.Shell

/-! ## Styles that hold -/

/-- The style leaves no character of the chunk with a meaning of its own. -/
def Holds : Quoting → List Char → Prop
  | .bare, chunk => ∀ c ∈ chunk, (Fits.ofChar c).bare = true
  | .single, chunk => '\'' ∉ chunk
  | .double, _ => True

/-- What the styles are said to hold, they do. -/
structure Fits.Sound (f : Fits) (chunk : List Char) : Prop where
  bare : f.bare = true → Holds .bare chunk
  single : f.single = true → Holds .single chunk

theorem Fits.Sound.holds {f : Fits} {chunk : List Char} {q : Quoting} (h : f.Sound chunk)
    (hq : f.best? = some q) : Holds q chunk := by
  rw [best?] at hq
  split at hq
  · next hbare =>
    obtain rfl := Option.some.inj hq
    exact h.bare hbare
  split at hq
  · next hsingle =>
    obtain rfl := Option.some.inj hq
    exact h.single hsingle
  split at hq
  · obtain rfl := Option.some.inj hq
    trivial
  · contradiction

theorem sound_ofFirst (c : Char) : (Fits.ofFirst c).Sound [c] := by
  by_cases hc : c = '^'
  · subst hc
    exact ⟨fun hbare => absurd hbare (by decide), fun _ => by simp [Holds]⟩
  · rw [Fits.ofFirst, if_neg hc]
    refine ⟨fun hbare => by simpa [Holds] using hbare, fun hsingle hmem => ?_⟩
    obtain rfl := List.mem_singleton.mp hmem
    exact absurd hsingle (by decide)

theorem Fits.Sound.and {f : Fits} {chunk : List Char} (h : f.Sound chunk) (c : Char) :
    (f.and (ofChar c)).Sound (c :: chunk) := by
  constructor
  · intro hboth
    obtain ⟨hf, hc⟩ := Bool.and_eq_true_iff.mp hboth
    exact List.forall_mem_cons.mpr ⟨hc, h.bare hf⟩
  · intro hboth hmem
    obtain ⟨hf, hc⟩ := Bool.and_eq_true_iff.mp hboth
    rcases List.mem_cons.mp hmem with rfl | hmem
    · exact absurd hc (by decide)
    · exact h.single hf hmem

/-- Each character can be held by a style of its own. -/
theorem exists_best?_ofFirst (c : Char) : ∃ q, (Fits.ofFirst c).best? = some q := by
  by_cases hcircumflex : c = '^'
  · subst hcircumflex
    exact ⟨.single, by decide⟩
  rw [Fits.ofFirst, if_neg hcircumflex]
  by_cases hquote : c = '\''
  · subst hquote
    exact ⟨.double, by decide⟩
  by_cases hbackslash : c = '\\'
  · subst hbackslash
    exact ⟨.double, by decide⟩
  have hsingle : (Fits.ofChar c).single = true := by
    simp [Fits.ofChar, hquote, hbackslash, hcircumflex]
  cases hbare : (Fits.ofChar c).bare with
  | true => exact ⟨.bare, by simp [Fits.best?, hbare]⟩
  | false => exact ⟨.single, by simp [Fits.best?, hbare, hsingle]⟩

/-! ## Chunks -/

/-- Chunks that hold something, each in a style that can. -/
def Chunked (ps : List (Quoting × List Char)) : Prop := ∀ p ∈ ps, p.2 ≠ [] ∧ Holds p.1 p.2

theorem holds_reverse {q : Quoting} {chunk : List Char} (h : Holds q chunk) :
    Holds q chunk.reverse := by
  cases q with
  | bare => exact fun c hc => h c (List.mem_reverse.mp hc)
  | single => exact mt List.mem_reverse.mp h
  | double => trivial

theorem chunksFrom_spec {f : Fits} {q : Quoting} {chunk : List Char} (hq : f.best? = some q)
    (hsound : f.Sound chunk) (hne : chunk ≠ []) (cs : List Char) :
    Chunked (chunksFrom f q chunk cs) ∧
      (chunksFrom f q chunk cs).flatMap Prod.snd = chunk.reverse ++ cs := by
  induction cs generalizing f q chunk with
  | nil =>
    rw [chunksFrom]
    exact ⟨List.forall_mem_singleton.mpr ⟨by simpa using hne, holds_reverse (hsound.holds hq)⟩, by simp⟩
  | cons c cs ih =>
    rw [chunksFrom]
    cases hlonger : (f.and (Fits.ofChar c)).best? with
    | some q' => simpa using ih hlonger (hsound.and c) (List.cons_ne_nil c chunk)
    | none =>
      obtain ⟨fresh, hfresh⟩ := exists_best?_ofFirst c
      obtain ⟨hrest, hjoined⟩ := ih hfresh (sound_ofFirst c) (List.cons_ne_nil c [])
      simp only [hfresh, Option.getD_some]
      have hchunk : chunk.reverse ≠ [] ∧ Holds q chunk.reverse :=
        ⟨by simpa using hne, holds_reverse (hsound.holds hq)⟩
      exact ⟨List.forall_mem_cons.mpr ⟨hchunk, hrest⟩, by simp [hjoined]⟩

/-- The chunks of a word make it up. -/
theorem chunks_spec (word : List Char) :
    Chunked (chunks word) ∧ (chunks word).flatMap Prod.snd = word := by
  cases word with
  | nil => simp [chunks, Chunked]
  | cons c cs =>
    obtain ⟨q, hq⟩ := exists_best?_ofFirst c
    have h := chunksFrom_spec hq (sound_ofFirst c) (List.cons_ne_nil c []) cs
    simpa [chunks, hq] using h

/-! ## Splitting chunk by chunk -/

theorem not_special_of_bare {c : Char} (h : (Fits.ofChar c).bare = true) :
    endsWord c = false ∧ c ≠ '#' ∧ c ≠ '\'' ∧ c ≠ '"' ∧ c ≠ '\\' := by
  have hne (d : Char) (hd : (Fits.ofChar d).bare = false) : c ≠ d := by
    rintro rfl
    simp [h] at hd
  refine ⟨?_, hne _ (by decide), hne _ (by decide), hne _ (by decide), hne _ (by decide)⟩
  simp [endsWord, hne ' ' (by decide), hne '\t' (by decide), hne '\n' (by decide)]

variable {word rest : List Char}

theorem splitFrom_between_cons (c : Char) :
    splitFrom .between word (c :: rest) =
      if endsWord c then splitFrom .between word rest
      else if c = '#' then splitFrom .comment word rest
      else splitFrom (takeBare [] c).1 (takeBare [] c).2 rest :=
  rfl

theorem splitFrom_bare_nil : splitFrom .bare word [] = some [word.reverse] := rfl

theorem splitFrom_bare_cons (c : Char) :
    splitFrom .bare word (c :: rest) =
      if endsWord c then (splitFrom .between [] rest).map (word.reverse :: ·)
      else splitFrom (takeBare word c).1 (takeBare word c).2 rest :=
  rfl

theorem splitFrom_single_cons (c : Char) :
    splitFrom .single word (c :: rest) =
      if c = '\'' then splitFrom .bare word rest else splitFrom .single (c :: word) rest :=
  rfl

theorem splitFrom_double_cons (c : Char) :
    splitFrom .double word (c :: rest) =
      if c = '"' then splitFrom .bare word rest
      else if c = '\\' then splitFrom .doubleEscaped word rest
      else splitFrom .double (c :: word) rest :=
  rfl

theorem splitFrom_doubleEscaped_cons (c : Char) :
    splitFrom .doubleEscaped word (c :: rest) =
      if isEscapable c then splitFrom .double (c :: word) rest
      else if c = '\n' then splitFrom .double word rest
      else splitFrom .double (c :: '\\' :: word) rest :=
  rfl

theorem splitFrom_bare {chunk : List Char} (h : Holds .bare chunk) :
    splitFrom .bare word (chunk ++ rest) = splitFrom .bare (chunk.reverse ++ word) rest := by
  induction chunk generalizing word with
  | nil => rfl
  | cons c chunk ih =>
    obtain ⟨hc, hchunk⟩ := List.forall_mem_cons.mp h
    obtain ⟨hends, -, hquote, hdouble, hbackslash⟩ := not_special_of_bare hc
    rw [List.cons_append, splitFrom_bare_cons, if_neg (by simp [hends]), takeBare, if_neg hquote, if_neg hdouble,
      if_neg hbackslash, ih hchunk]
    simp

theorem splitFrom_single {chunk : List Char} (h : Holds .single chunk) :
    splitFrom .single word (chunk ++ '\'' :: rest) = splitFrom .bare (chunk.reverse ++ word) rest := by
  induction chunk generalizing word with
  | nil => simp [splitFrom_single_cons]
  | cons c chunk ih =>
    obtain ⟨hc, hchunk⟩ := not_or.mp (mt List.mem_cons.mpr h)
    rw [List.cons_append, splitFrom_single_cons, if_neg (Ne.symm hc), ih hchunk]
    simp

theorem splitFrom_double (chunk : List Char) :
    splitFrom .double word (chunk.flatMap (fun c => if c = '"' ∨ c = '\\' then ['\\', c] else [c]) ++
      '"' :: rest) = splitFrom .bare (chunk.reverse ++ word) rest := by
  induction chunk generalizing word with
  | nil => simp [splitFrom_double_cons]
  | cons c chunk ih =>
    rw [List.flatMap_cons, List.append_assoc]
    split
    · next hspecial =>
      have hescapable : isEscapable c = true := by
        rcases hspecial with rfl | rfl <;> decide
      simp [splitFrom_double_cons, splitFrom_doubleEscaped_cons, hescapable, ih]
    · next hplain =>
      rw [not_or] at hplain
      simp [splitFrom_double_cons, hplain, ih]

/-- Behind a chunk the splitter is outside of quotes, and the word has grown by the chunk. -/
theorem splitFrom_writeChunk {p : Quoting × List Char} (h : Holds p.1 p.2) :
    splitFrom .bare word (writeChunk p ++ rest) = splitFrom .bare (p.2.reverse ++ word) rest := by
  obtain ⟨q, chunk⟩ := p
  cases q with
  | bare => exact splitFrom_bare h
  | single =>
    rw [← splitFrom_single h]
    simp [writeChunk, splitFrom_bare_cons, endsWord, takeBare]
  | double =>
    rw [← splitFrom_double chunk]
    simp [writeChunk, splitFrom_bare_cons, endsWord, takeBare]

theorem splitFrom_chunks {ps : List (Quoting × List Char)} (h : Chunked ps) :
    splitFrom .bare word (ps.flatMap writeChunk ++ rest) =
      splitFrom .bare ((ps.flatMap Prod.snd).reverse ++ word) rest := by
  induction ps generalizing word with
  | nil => rfl
  | cons p ps ih =>
    obtain ⟨hp, hps⟩ := List.forall_mem_cons.mp h
    rw [List.flatMap_cons, List.append_assoc, splitFrom_writeChunk hp.2, ih hps]
    simp

/-! ## Words -/

theorem splitFrom_between {c : Char} (hends : endsWord c = false) (hhash : c ≠ '#') (cs : List Char) :
    splitFrom .between word (c :: cs) = splitFrom .bare [] (c :: cs) := by
  simp [splitFrom_between_cons, splitFrom_bare_cons, hends, hhash]

/-- A word that is written begins with a character that begins a word. -/
theorem exists_head_writeWord (w : List Char) :
    ∃ c cs, writeWord w = c :: cs ∧ endsWord c = false ∧ c ≠ '#' := by
  by_cases hw : w = []
  · exact ⟨'\'', ['\''], by rw [writeWord, if_pos hw], by decide, by decide⟩
  rw [writeWord, if_neg hw]
  obtain ⟨hchunked, hjoined⟩ := chunks_spec w
  cases hps : chunks w with
  | nil => exact absurd (by rw [← hjoined, hps]; rfl) hw
  | cons p ps =>
    obtain ⟨hne, hholds⟩ := hchunked p (by simp [hps])
    obtain ⟨q, chunk⟩ := p
    cases q with
    | bare =>
      cases chunk with
      | nil => contradiction
      | cons c chunk =>
        obtain ⟨hends, hhash, -⟩ := not_special_of_bare (hholds c List.mem_cons_self)
        exact ⟨c, _, rfl, hends, hhash⟩
    | single => exact ⟨'\'', _, rfl, by decide, by decide⟩
    | double => exact ⟨'"', _, rfl, by decide, by decide⟩

theorem splitFrom_writeWord (w rest : List Char) :
    splitFrom .between [] (writeWord w ++ rest) = splitFrom .bare w.reverse rest := by
  obtain ⟨c, cs, hwritten, hends, hhash⟩ := exists_head_writeWord w
  have hbare : splitFrom .between [] (writeWord w ++ rest) =
      splitFrom .bare [] (writeWord w ++ rest) := by
    rw [hwritten]
    exact splitFrom_between hends hhash _
  rw [hbare, writeWord]
  split
  · next hw => simp [hw, splitFrom_bare_cons, splitFrom_single_cons, endsWord, takeBare]
  · obtain ⟨hchunked, hjoined⟩ := chunks_spec w
    rw [splitFrom_chunks hchunked, hjoined, List.append_nil]

theorem splitFrom_intercalate (ws : List (List Char)) :
    splitFrom .between [] ([' '].intercalate (ws.map writeWord)) = some ws := by
  induction ws with
  | nil => rfl
  | cons w ws ih =>
    cases ws with
    | nil =>
      have h := splitFrom_writeWord w []
      simpa [splitFrom_bare_nil] using h
    | cons next ws =>
      rw [List.map_cons, List.map_cons, List.intercalate_cons_cons, ← List.map_cons, List.append_assoc,
        splitFrom_writeWord, List.singleton_append, splitFrom_bare_cons, if_pos (by decide), ih]
      simp

theorem joinWords?_eq_none_iff {words : List String} :
    joinWords? words = none ↔ ∃ w ∈ words, '\x00' ∈ w.toList := by
  simp [joinWords?]

/-- The words of a line are those that it was written from. -/
theorem splitWords?_of_joinWords? {words : List String} {line : String}
    (h : joinWords? words = some line) : splitWords? line = some words := by
  rw [joinWords?] at h
  split at h
  · contradiction
  · obtain rfl := Option.some.inj h
    have hline : (" ".intercalate (words.map fun w => String.ofList (writeWord w.toList))).toList =
        [' '].intercalate ((words.map String.toList).map writeWord) := by
      simp [String.toList_intercalate, Function.comp_def]
    rw [splitWords?, hline, splitFrom_intercalate]
    simp [Function.comp_def]

end HookGate.Shell
