import Mathlib
import HookGate.Text.Basic

/-!
# Searching, trimming, words and lines

Searches as relations between lists of characters. A part that begins and ends with characters
that are not blank is not touched when the text around it is trimmed. Where ends of lines do not matter
to what is read from a line, two texts with a line feed between them are read one after the other.
-/

namespace HookGate.Text

/-! ## Searching -/

theorem occurs_iff (part cs : List Char) : occurs part cs = true ↔ part <:+: cs := by
  induction cs with
  | nil => simp [occurs]
  | cons c cs ih => rw [occurs, Bool.or_eq_true, List.isPrefixOf_iff_prefix, ih, List.infix_cons_iff]

theorem contains_iff (s part : String) : contains s part = true ↔ part.toList <:+: s.toList :=
  occurs_iff part.toList s.toList

theorem startsWith_iff (s start : String) :
    startsWith s start = true ↔ start.toList <+: s.toList :=
  List.isPrefixOf_iff_prefix

/-! ## Searching what was put together -/

section

variable {sep : Char} {part : List Char}

/-- What does not hold the separator does not reach beyond it. -/
theorem prefix_append_cons_iff (h : sep ∉ part) (before after : List Char) :
    part <+: before ++ sep :: after ↔ part <+: before := by
  constructor
  · intro hpart
    have hfront : before ++ [sep] <+: before ++ sep :: after :=
      (List.prefix_append_right_inj before).mpr (List.prefix_append [sep] after)
    have hsep : sep ∈ before ++ [sep] := List.mem_append_right before (List.mem_singleton_self sep)
    rcases List.prefix_or_prefix_of_prefix hpart hfront with hshort | hlong
    · rcases List.prefix_concat_iff.mp hshort with rfl | hbefore
      · exact absurd hsep h
      · exact hbefore
    · exact absurd (hlong.subset hsep) h
  · intro hpart
    exact hpart.trans (List.prefix_append before _)

theorem infix_append_cons_iff (hne : part ≠ []) (h : sep ∉ part) (before after : List Char) :
    part <:+: before ++ sep :: after ↔ part <:+: before ∨ part <:+: after := by
  induction before with
  | nil =>
    have hfront : ¬ part <+: sep :: after := by
      rw [← List.nil_append (sep :: after), prefix_append_cons_iff h, List.prefix_nil]
      exact hne
    rw [List.nil_append, List.infix_cons_iff, or_iff_right hfront, List.infix_nil, or_iff_right hne]
  | cons c before ih =>
    have hfront : part <+: c :: (before ++ sep :: after) ↔ part <+: c :: before :=
      prefix_append_cons_iff h (c :: before) after
    rw [List.cons_append, List.infix_cons_iff, hfront, ih, List.infix_cons_iff, or_assoc]

/-- A part without the separator is in one of the pieces, or nowhere. -/
theorem infix_intercalate_iff (hne : part ≠ []) (h : sep ∉ part) (pieces : List (List Char)) :
    part <:+: [sep].intercalate pieces ↔ ∃ piece ∈ pieces, part <:+: piece := by
  induction pieces with
  | nil => simpa using hne
  | cons piece pieces ih =>
    cases pieces with
    | nil => simp
    | cons next pieces =>
      rw [List.intercalate_cons_cons, List.append_assoc, List.singleton_append,
        infix_append_cons_iff hne h, ih, List.exists_mem_cons_iff _ piece]

end

theorem contains_joinWith {part : String} (hne : part ≠ "") (h : '\n' ∉ part.toList) (texts : List String) :
    contains (joinWith "\n" texts) part = true ↔ ∃ t ∈ texts, contains t part = true := by
  have hpart : part.toList ≠ [] := by simpa using hne
  have hsep : "\n".toList = ['\n'] := rfl
  simp only [contains_iff, joinWith, String.toList_intercalate, hsep, infix_intercalate_iff hpart h,
    List.mem_map, exists_exists_and_eq_and]

/-! ## Trimming -/

theorem toList_ne_nil_of_not_blank {s : String} (h : isBlankText s = false) : s.toList ≠ [] := by
  intro hnil
  simp [isBlankText, hnil] at h

theorem dropBlanks_append {cs : List Char} (before : List Char)
    (h : ∀ c ∈ cs.head?, isBlank c = false) :
    dropBlanks (before ++ cs) = dropBlanks before ++ cs := by
  induction before with
  | nil =>
    cases cs with
    | nil => rfl
    | cons c cs => simp [dropBlanks, h c (by simp)]
  | cons b before ih =>
    cases hb : isBlank b with
    | true => simpa [dropBlanks, hb] using ih
    | false => simp [dropBlanks, hb]

theorem dropBlanksEnd_append {cs : List Char} (after : List Char)
    (h : ∀ c ∈ cs.getLast?, isBlank c = false) :
    dropBlanksEnd (cs ++ after) = cs ++ dropBlanksEnd after := by
  have hrev : dropBlanks (after.reverse ++ cs.reverse) = dropBlanks after.reverse ++ cs.reverse :=
    dropBlanks_append after.reverse (by simpa using h)
  rw [dropBlanksEnd, List.reverse_append]
  exact (congrArg List.reverse hrev).trans (by simp [dropBlanksEnd, dropBlanks])

/-- Trimming reaches no further than to the part between characters that are not blank. -/
theorem trimChars_append {cs : List Char} (before after : List Char) (hne : cs ≠ [])
    (hhead : ∀ c ∈ cs.head?, isBlank c = false) (hlast : ∀ c ∈ cs.getLast?, isBlank c = false) :
    trimChars (before ++ cs ++ after) = dropBlanks before ++ cs ++ dropBlanksEnd after := by
  have hfront : dropBlanks (before ++ cs ++ after) = dropBlanks before ++ (cs ++ after) := by
    rw [List.append_assoc]
    apply dropBlanks_append
    rwa [List.head?_append_of_ne_nil _ hne]
  rw [trimChars, hfront, ← List.append_assoc]
  apply dropBlanksEnd_append
  rwa [List.getLast?_append_of_ne_nil _ hne]

theorem head?_dropBlanks {cs : List Char} {c : Char} (h : c ∈ (dropBlanks cs).head?) : isBlank c = false := by
  have hhead := List.head?_dropWhile_not isBlank cs
  rw [dropBlanks] at h
  rw [Option.mem_def.mp h] at hhead
  exact hhead

theorem getLast?_dropBlanksEnd {cs : List Char} {c : Char} (h : c ∈ (dropBlanksEnd cs).getLast?) :
    isBlank c = false := by
  rw [dropBlanksEnd, List.getLast?_reverse] at h
  exact head?_dropBlanks h

theorem dropBlanksEnd_prefix (cs : List Char) : dropBlanksEnd cs <+: cs := by
  have hsuffix : cs.reverse.dropWhile isBlank <:+ cs.reverse := List.dropWhile_suffix isBlank
  simpa [dropBlanksEnd] using List.reverse_prefix.mpr hsuffix

/-- What is left after trimming neither begins nor ends with a blank. -/
theorem trimChars_ends (cs : List Char) :
    (∀ c ∈ (trimChars cs).head?, isBlank c = false) ∧
      ∀ c ∈ (trimChars cs).getLast?, isBlank c = false := by
  refine ⟨fun c hc => ?_, fun c hc => getLast?_dropBlanksEnd hc⟩
  obtain ⟨rest, hrest⟩ := dropBlanksEnd_prefix (dropBlanks cs)
  have hfirst : c ∈ (dropBlanks cs).head? := by
    rw [← hrest]
    exact List.mem_head?_append_of_mem_head? hc
  exact head?_dropBlanks hfirst

/-- One more blank at the end makes no difference. -/
theorem trimChars_concat (cs : List Char) {b : Char} (hb : isBlank b = true) :
    trimChars (cs ++ [b]) = trimChars cs := by
  have hend (ds : List Char) : dropBlanksEnd (ds ++ [b]) = dropBlanksEnd ds := by
    simp [dropBlanksEnd, hb]
  have hfront : dropBlanks (cs ++ [b]) = dropBlanks cs ++ [b] ∨
      dropBlanks (cs ++ [b]) = [] ∧ dropBlanks cs = [] := by
    rw [dropBlanks, dropBlanks, List.dropWhile_append]
    by_cases hcs : (cs.dropWhile isBlank).isEmpty = true
    · rw [if_pos hcs]
      exact .inr ⟨by simp [hb], List.isEmpty_iff.mp hcs⟩
    · rw [if_neg hcs]
      exact .inl rfl
  rcases hfront with hfront | ⟨hnone, hnone'⟩
  · rw [trimChars, hfront, hend, trimChars]
  · rw [trimChars, hnone, trimChars, hnone']

theorem trimChars_eq_self {cs : List Char} (hhead : ∀ c ∈ cs.head?, isBlank c = false)
    (hlast : ∀ c ∈ cs.getLast?, isBlank c = false) : trimChars cs = cs := by
  by_cases hne : cs = []
  · rw [hne]
    rfl
  · simpa [dropBlanks, dropBlanksEnd] using trimChars_append [] [] hne hhead hlast

theorem rest?_append (start cs : List Char) : rest? start (start ++ cs) = some cs := by
  induction start with
  | nil => rfl
  | cons x start ih => simpa [rest?] using ih

theorem rest?_eq_some {start cs rest : List Char} (h : rest? start cs = some rest) : cs = start ++ rest := by
  induction start generalizing cs with
  | nil => exact Option.some.inj h
  | cons x start ih =>
    cases cs with
    | nil => contradiction
    | cons c cs =>
      rw [rest?] at h
      split at h
      · next hx => rw [hx, ih h, List.cons_append]
      · contradiction

/-- One more character behind, which is not part of the start, is one more behind the rest. -/
theorem rest?_concat {start : List Char} {x : Char} (h : x ∉ start) (cs : List Char) :
    rest? start (cs ++ [x]) = (rest? start cs).map (· ++ [x]) := by
  induction start generalizing cs with
  | nil => simp [rest?]
  | cons y start ih =>
    obtain ⟨hy, hstart⟩ := not_or.mp (mt List.mem_cons.mpr h)
    cases cs with
    | nil => simp [rest?, Ne.symm hy]
    | cons c cs =>
      rw [List.cons_append, rest?, rest?]
      split
      · exact ih hstart cs
      · rfl

theorem afterStart?_append (start s : String) : afterStart? start (start ++ s) = some s := by
  simp [afterStart?, rest?_append]

theorem afterStart?_eq_some {start s rest : String} :
    afterStart? start s = some rest ↔ s = start ++ rest := by
  constructor
  · intro h
    obtain ⟨cs, hcs, rfl⟩ := Option.map_eq_some_iff.mp h
    rw [← String.toList_inj, String.toList_append, String.toList_ofList]
    exact rest?_eq_some hcs
  · rintro rfl
    exact afterStart?_append start rest

/-- A text is what is left after trimming, with blanks on both sides. -/
theorem exists_trimChars (cs : List Char) :
    ∃ before after, cs = before ++ trimChars cs ++ after ∧ ∀ c ∈ before ++ after, isBlank c = true := by
  have hfront : cs.takeWhile isBlank ++ dropBlanks cs = cs := List.takeWhile_append_dropWhile
  have hback : trimChars cs ++ ((dropBlanks cs).reverse.takeWhile isBlank).reverse = dropBlanks cs := by
    rw [trimChars, dropBlanksEnd, ← List.reverse_append, List.takeWhile_append_dropWhile,
      List.reverse_reverse]
  refine ⟨cs.takeWhile isBlank, ((dropBlanks cs).reverse.takeWhile isBlank).reverse, ?_, ?_⟩
  · rw [List.append_assoc, hback, hfront]
  · intro c hc
    rcases List.mem_append.mp hc with hc | hc
    · exact List.mem_takeWhile_imp hc
    · exact List.mem_takeWhile_imp (List.mem_reverse.mp hc)

theorem all_isBlank_trimChars (cs : List Char) : (trimChars cs).all isBlank = cs.all isBlank := by
  obtain ⟨before, after, hcs, hblank⟩ := exists_trimChars cs
  have hbefore : before.all isBlank = true :=
    List.all_eq_true.mpr fun c hc => hblank c (List.mem_append_left after hc)
  have hafter : after.all isBlank = true :=
    List.all_eq_true.mpr fun c hc => hblank c (List.mem_append_right before hc)
  conv_rhs => rw [hcs, List.all_append, List.all_append, hbefore, hafter, Bool.true_and, Bool.and_true]

theorem isBlankText_trim (s : String) : isBlankText (trim s) = isBlankText s := by
  rw [isBlankText, trim, String.toList_ofList, all_isBlank_trimChars, isBlankText]

/-- Nothing is left of blanks, and of other texts something is left that is not blank. -/
theorem isBlankText_of_trim_ne {s : String} (h : trim s ≠ "") : isBlankText s = false := by
  rw [Bool.eq_false_iff]
  intro hblank
  apply h
  have hall : ∀ c ∈ s.toList, isBlank c = true := List.all_eq_true.mp hblank
  rw [trim, trimChars, dropBlanks, List.dropWhile_eq_nil_iff.mpr hall]
  rfl

/-- Trimmed at the end only, a text keeps the blanks in front. -/
theorem exists_dropBlanksEnd (cs : List Char) : ∃ before, dropBlanksEnd cs = before ++ trimChars cs := by
  have hfront : cs.takeWhile isBlank ++ dropBlanks cs = cs := List.takeWhile_append_dropWhile
  have htrim : trimChars cs = ((dropBlanks cs).reverse.dropWhile isBlank).reverse := rfl
  cases hleft : (dropBlanks cs).reverse.dropWhile isBlank with
  | nil => exact ⟨dropBlanksEnd cs, by rw [htrim, hleft, List.reverse_nil, List.append_nil]⟩
  | cons c ds =>
    refine ⟨cs.takeWhile isBlank, ?_⟩
    rw [dropBlanksEnd, htrim, hleft]
    conv_lhs => rw [← hfront, List.reverse_append, List.dropWhile_append, hleft]
    simp

/-! ## Pieces -/

section

variable {sep : Char}

theorem pieces_ne_nil (sep : Char → Bool) (cs : List Char) : pieces sep cs ≠ [] := by
  cases cs with
  | nil => exact List.cons_ne_nil _ _
  | cons c cs =>
    rw [pieces]
    split <;> exact List.cons_ne_nil _ _

/-- A separator ends the pieces in front of it and begins those behind it. -/
theorem pieces_append (before after : List Char) :
    pieces (· == sep) (before ++ sep :: after) =
      pieces (· == sep) before ++ pieces (· == sep) after := by
  induction before with
  | nil => simp [pieces]
  | cons c before ih =>
    rw [List.cons_append, pieces, ih, pieces]
    cases c == sep with
    | true => rfl
    | false =>
      obtain ⟨piece, others, hpieces⟩ := List.exists_cons_of_ne_nil (pieces_ne_nil (· == sep) before)
      rw [hpieces]
      rfl

theorem pieces_of_not_mem {piece : List Char} (h : sep ∉ piece) :
    pieces (· == sep) piece = [piece] := by
  induction piece with
  | nil => rfl
  | cons c piece ih =>
    obtain ⟨hc, hpiece⟩ := not_or.mp (mt List.mem_cons.mpr h)
    have hne : (c == sep) = false := by simpa using Ne.symm hc
    simp [pieces, hne, ih hpiece]

theorem pieces_append_cons {piece : List Char} (h : sep ∉ piece) (rest : List Char) :
    pieces (· == sep) (piece ++ sep :: rest) = piece :: pieces (· == sep) rest := by
  rw [pieces_append, pieces_of_not_mem h, List.singleton_append]

/-- Pieces that are put together with separators are found again. -/
theorem pieces_intercalate {ps : List (List Char)} (hne : ps ≠ []) (h : ∀ p ∈ ps, sep ∉ p) :
    pieces (· == sep) ([sep].intercalate ps) = ps := by
  induction ps with
  | nil => contradiction
  | cons p ps ih =>
    obtain ⟨hp, hps⟩ := List.forall_mem_cons.mp h
    cases ps with
    | nil => simpa using pieces_of_not_mem hp
    | cons q ps =>
      rw [List.intercalate_cons_cons, List.append_assoc, List.singleton_append,
        pieces_append_cons hp, ih (List.cons_ne_nil _ _) hps]

end

/-! ## Words -/

theorem of_mem_pieces {sep : Char → Bool} {cs piece : List Char} (h : piece ∈ pieces sep cs) :
    ∀ c ∈ piece, c ∈ cs ∧ sep c = false := by
  induction cs generalizing piece with
  | nil =>
    obtain rfl := List.mem_singleton.mp h
    simp
  | cons c cs ih =>
    have hlater {piece : List Char} (h : piece ∈ pieces sep cs) : ∀ d ∈ piece, d ∈ c :: cs ∧ sep d = false :=
      fun d hd => (ih h d hd).imp_left (List.mem_cons_of_mem c)
    cases hc : sep c with
    | true =>
      simp only [pieces, hc, List.mem_cons] at h
      rcases h with rfl | h
      · simp
      · exact hlater h
    | false =>
      obtain ⟨first, others, hpieces⟩ := List.exists_cons_of_ne_nil (pieces_ne_nil sep cs)
      rw [hpieces] at hlater
      simp only [pieces, hc, hpieces, List.mem_cons] at h
      rcases h with rfl | h
      · intro d hd
        rcases List.mem_cons.mp hd with rfl | hd
        · exact ⟨List.mem_cons_self, hc⟩
        · exact hlater List.mem_cons_self d hd
      · exact hlater (List.mem_cons_of_mem first h)

/-- A word is not empty and holds no blank. -/
theorem of_mem_words {s word : String} (h : word ∈ words s) :
    word.toList ≠ [] ∧ ∀ c ∈ word.toList, isBlank c = false := by
  obtain ⟨cs, hcs, rfl⟩ := List.mem_map.mp h
  obtain ⟨hpiece, hne⟩ := List.mem_filter.mp hcs
  rw [String.toList_ofList]
  exact ⟨by simpa using hne, fun c hc => (of_mem_pieces hpiece c hc).2⟩

theorem isBlankText_eq_false {s : String} :
    isBlankText s = false ↔ ∃ c ∈ s.toList, isBlank c = false := by
  simp [isBlankText]

theorem words_of_blank {s : String} (h : isBlankText s = true) : words s = [] := by
  rw [List.eq_nil_iff_forall_not_mem]
  intro word hword
  obtain ⟨hne, hsolid⟩ := of_mem_words hword
  obtain ⟨cs, hcs, rfl⟩ := List.mem_map.mp hword
  rw [String.toList_ofList] at hne hsolid
  obtain ⟨c, hc⟩ := List.exists_mem_of_ne_nil _ hne
  have hmem : c ∈ s.toList := (of_mem_pieces (List.mem_filter.mp hcs).1 c hc).1
  have hblank := List.all_eq_true.mp h c hmem
  rw [hsolid c hc] at hblank
  contradiction

/-! ## Lines -/

theorem dropReturn_eq (cs : List Char) : dropReturn cs = cs ∨ dropReturn cs ++ ['\r'] = cs := by
  rw [dropReturn]
  split
  · next hlast => exact .inr (List.dropLast_append_getLast? _ hlast)
  · exact .inl rfl

section

variable {β : Type} {f : List Char → Option β}

theorem filterMap_linesOfPieces (hnil : f [] = none) (hreturn : ∀ cs, f (cs ++ ['\r']) = f cs)
    (ps : List (List Char)) : (linesOfPieces ps).filterMap f = ps.filterMap f := by
  have hdrop (cs : List Char) : f (dropReturn cs) = f cs := by
    rcases dropReturn_eq cs with h | h
    · rw [h]
    · rw [← hreturn, h]
  induction ps using linesOfPieces.induct with
  | case1 => rfl
  | case2 => simp [linesOfPieces, hnil]
  | case3 p hp => rw [linesOfPieces, if_neg hp]
  | case4 p ps hps ih =>
    rw [linesOfPieces, List.filterMap_cons, hdrop, ih, List.filterMap_cons]
    exact hps

/-- An empty line gives nothing, and a carriage return at the end of a line changes nothing. -/
theorem filterMap_linesOf_append (hnil : f [] = none) (hreturn : ∀ cs, f (cs ++ ['\r']) = f cs)
    (before after : List Char) :
    (linesOf (before ++ '\n' :: after)).filterMap f =
      (linesOf before).filterMap f ++ (linesOf after).filterMap f := by
  simp only [linesOf, filterMap_linesOfPieces hnil hreturn, pieces_append, List.filterMap_append]

end

end HookGate.Text
