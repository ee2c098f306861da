import Mathlib
import HookGate.Proofs.Pattern.Caseless
import HookGate.Proofs.Text.Words

/-!
# Patterns that are read in any case

A pattern is read with letters in any case, until flags in its text take that back. Where none do, each
set that is read holds both cases of an ASCII letter or none: every reader leaves the flag as it found
it, and a set is closed under case as long as the flag is set.
-/

set_option mvcgen.warning false

namespace HookGate

open Text Std.Do

namespace Pattern

/-! ## Flags in a text -/

/-- Signs that a run of flags is made of. -/
def isFlagSign (c : Char) : Bool := ['i', 'm', 's', 'U', 'u', 'R', 'x', '-'].contains c

/-- A text begins with flags, and an `i` among them stands behind a hyphen. -/
def TakesBack (text : List Char) : Prop :=
  ∃ run after, text = run ++ 'i' :: after ∧ '-' ∈ run ∧ ∀ c ∈ run, isFlagSign c = true

/-- Behind some question mark in a text, flags take back that letters match in any case. -/
def MindsCase (text : List Char) : Prop := ∃ before after, text = before ++ '?' :: after ∧ TakesBack after

theorem TakesBack.minds {rest : List Char} (h : TakesBack rest) : MindsCase ('?' :: rest) :=
  ⟨[], rest, rfl, h⟩

theorem MindsCase.of_suffix {rest text : List Char} (hsuffix : rest <:+ text) (h : MindsCase rest) :
    MindsCase text := by
  obtain ⟨front, rfl⟩ := hsuffix
  obtain ⟨before, after, rfl, htake⟩ := h
  exact ⟨front ++ before, after, by simp, htake⟩

theorem not_mindsCase_of_not_mem {text : List Char} (h : '?' ∉ text) : ¬ MindsCase text := by
  rintro ⟨before, after, rfl, -⟩
  exact h (by simp)

/-- Letters match in any case, and no flag that is still to come takes that back. -/
structure Cursor.IgnoresCase (c : Cursor) : Prop where
  now : c.flags.ignoreCase = true
  later : ¬ MindsCase c.rest

namespace Cursor.IgnoresCase

variable {c : Cursor}

theorem skip {rest : List Char} (h : c.IgnoresCase) (hrest : rest <:+ c.rest) :
    Cursor.IgnoresCase { c with rest } :=
  ⟨h.now, fun hminds => h.later (hminds.of_suffix hrest)⟩

theorem setFlags {fs : Flags} (h : c.IgnoresCase) (hfs : fs.ignoreCase = true) :
    Cursor.IgnoresCase { c with flags := fs } :=
  ⟨hfs, h.later⟩

end Cursor.IgnoresCase

/-- The sets of the pattern of a piece ignore case. -/
def Piece.IgnoresCase (p : Piece) : Prop := p.pattern.setsIgnoreCase = true

namespace Reader

variable {α : Type}

/-! ## Moving on -/

@[spec] theorem fail_spec {P : α → Assertion (.arg Cursor (.except Error .pure))} (e : Error) :
    ⦃⌜True⌝⦄ (fail e : Reader α) ⦃PostCond.mayThrow P⦄ := by
  intro c _
  trivial

@[spec] theorem peek_spec {Q : PostCond (Option Char) (.arg Cursor (.except Error .pure))} :
    ⦃fun c => Q.1 c.rest.head? c⦄ peek ⦃Q⦄ := by
  mvcgen [peek]

@[spec] theorem bump_spec : ⦃fun c => ⌜c.IgnoresCase⌝⦄ bump ⦃⇓? _ c => ⌜c.IgnoresCase⌝⦄ := by
  mvcgen [bump]
  next c h _ => exact h.skip (List.drop_suffix 1 c.rest)

theorem dropSpace_suffix (comment : Bool) (cs : List Char) : dropSpace comment cs <:+ cs := by
  fun_induction dropSpace comment cs with
  | case1 => exact List.suffix_refl _
  | case2 c cs ih => exact ih.trans (List.suffix_cons c cs)
  | case3 c cs hc ih => exact ih.trans (List.suffix_cons c cs)
  | case4 cs hc ih => exact ih.trans (List.suffix_cons '#' cs)
  | case5 c cs hc hc' => exact List.suffix_refl _

@[spec] theorem skipSpace_spec :
    ⦃fun c => ⌜c.IgnoresCase⌝⦄ skipSpace ⦃⇓? _ c => ⌜c.IgnoresCase⌝⦄ := by
  mvcgen [skipSpace]
  next c h _ =>
    show Cursor.IgnoresCase (if _ then _ else _)
    split
    · exact h.skip (dropSpace_suffix false c.rest)
    · exact h

@[spec] theorem next?_spec : ⦃fun c => ⌜c.IgnoresCase⌝⦄ next? ⦃⇓? _ c => ⌜c.IgnoresCase⌝⦄ := by
  mvcgen [next?]

@[spec] theorem next_spec (e : Error) :
    ⦃fun c => ⌜c.IgnoresCase⌝⦄ next e ⦃⇓? _ c => ⌜c.IgnoresCase⌝⦄ := by
  mvcgen [next]

@[spec] theorem peekBehind_spec :
    ⦃fun c => ⌜c.IgnoresCase⌝⦄ peekBehind ⦃⇓? _ c => ⌜c.IgnoresCase⌝⦄ := by
  mvcgen [peekBehind]

/-- Behind a text that was passed over nothing stands that would take case back with it. -/
@[spec] theorem skipText?_spec (s : List Char) :
    ⦃fun c => ⌜c.IgnoresCase⌝⦄ skipText? s
    ⦃⇓? found c => ⌜c.IgnoresCase ∧ (found = true → ¬ MindsCase (s ++ c.rest))⌝⦄ := by
  mvcgen [skipText?]
  next c h rest hrest _ =>
    have heq : c.rest = s ++ rest := rest?_eq_some hrest
    have hlater : ¬ MindsCase (s ++ rest) := by
      rw [← heq]
      exact h.later
    exact ⟨h.skip ⟨s, heq.symm⟩, hlater⟩
  next h _ => exact ⟨h, Bool.noConfusion⟩

/-! ## Sets and escapes -/

theorem foldBy_ignoresCase {fs : Flags} (h : fs.ignoreCase = true) (s : CharSet) :
    (foldBy fs s).ignoresCase = true := by
  rw [foldBy, if_pos h]
  split
  · exact CharSet.ignoresCase_folded
  · exact CharSet.ignoresCase_foldedAscii

@[spec] theorem foldAndNegate_spec (negated : Bool) (s : CharSet) :
    ⦃fun c => ⌜c.IgnoresCase⌝⦄ foldAndNegate negated s
    ⦃⇓? t c => ⌜c.IgnoresCase ∧ t.ignoresCase = true⌝⦄ := by
  mvcgen [foldAndNegate]
  next c h fs _ =>
    have hfold : (foldBy fs s).ignoresCase = true := foldBy_ignoresCase h.now s
    refine ⟨h, ?_⟩
    cases negated with
    | false => exact hfold
    | true => exact CharSet.ignoresCase_compl hfold

theorem shorthand_ignoresCase (fs : Flags) (letter : Char) :
    (shorthand fs letter).ignoresCase = true := by
  unfold shorthand
  split
  · split
    · exact CharSet.ignoresCase_digit
    · decide
    · decide +kernel
  · split
    all_goals decide

/-- What a backslash stands for is no set that tells cases apart. -/
def Atom.IgnoresCase : Atom → Prop
  | .literal _ _ | .look _ => True
  | .set s => s.ignoresCase = true

@[spec] theorem charOf_spec (n : Nat) :
    ⦃fun c => ⌜c.IgnoresCase⌝⦄ charOf n ⦃⇓? _ c => ⌜c.IgnoresCase⌝⦄ := by
  mvcgen [charOf]

@[spec] theorem hexBraced_spec (fuel count n : Nat) :
    ⦃fun c => ⌜c.IgnoresCase⌝⦄ hexBraced fuel count n ⦃⇓? _ c => ⌜c.IgnoresCase⌝⦄ := by
  induction fuel generalizing count n with
  | zero => mvcgen [hexBraced]
  | succ fuel ih => mvcgen [hexBraced, ih]

@[spec] theorem hexFixed_spec (count n : Nat) :
    ⦃fun c => ⌜c.IgnoresCase⌝⦄ hexFixed count n ⦃⇓? _ c => ⌜c.IgnoresCase⌝⦄ := by
  induction count generalizing n with
  | zero => mvcgen [hexFixed]
  | succ count ih => mvcgen [hexFixed, ih]

@[spec] theorem hexAtom_spec (letter : Char) :
    ⦃fun c => ⌜c.IgnoresCase⌝⦄ hexAtom letter ⦃⇓? a c => ⌜c.IgnoresCase ∧ a.IgnoresCase⌝⦄ := by
  mvcgen [hexAtom]

@[spec] theorem braced_spec (fuel : Nat) (seen : List Char) :
    ⦃fun c => ⌜c.IgnoresCase⌝⦄ braced fuel seen ⦃⇓? _ c => ⌜c.IgnoresCase⌝⦄ := by
  induction fuel generalizing seen with
  | zero => mvcgen [braced]
  | succ fuel ih => mvcgen [braced, ih]

@[spec] theorem propertyAtom_spec (negated : Bool) :
    ⦃fun c => ⌜c.IgnoresCase⌝⦄ propertyAtom negated ⦃⇓? a c => ⌜c.IgnoresCase ∧ a.IgnoresCase⌝⦄ := by
  mvcgen [propertyAtom]

@[spec] theorem edgeName_spec (isNameChar : Char → Bool) (fuel : Nat) (seen : List Char) :
    ⦃fun c => ⌜c.IgnoresCase⌝⦄ namedEdge?.name isNameChar fuel seen
    ⦃⇓? _ c => ⌜c.IgnoresCase⌝⦄ := by
  induction fuel generalizing seen with
  | zero => mvcgen [namedEdge?.name]
  | succ fuel ih => mvcgen [namedEdge?.name, ih]

@[spec] theorem namedEdge?_spec :
    ⦃fun c => ⌜c.IgnoresCase⌝⦄ namedEdge? ⦃⇓? _ c => ⌜c.IgnoresCase⌝⦄ := by
  mvcgen [namedEdge?]

@[spec] theorem escape_spec :
    ⦃fun c => ⌜c.IgnoresCase⌝⦄ escape ⦃⇓? a c => ⌜c.IgnoresCase ∧ a.IgnoresCase⌝⦄ := by
  mvcgen [escape]
  next h => exact ⟨h, shorthand_ignoresCase _ _⟩
  next h => exact ⟨h, CharSet.ignoresCase_compl (shorthand_ignoresCase _ _)⟩

@[spec] theorem literalPattern_spec (l : Char) (byte : Bool) :
    ⦃fun c => ⌜c.IgnoresCase⌝⦄ literalPattern l byte
    ⦃⇓? p c => ⌜c.IgnoresCase ∧ p.setsIgnoreCase = true⌝⦄ := by
  mvcgen [literalPattern]
  next h fs _ hascii =>
    rw [setsIgnoreCase_set]
    exact ⟨h, CharSet.ignoresCase_single hascii.2.2⟩
  next h fs _ _ =>
    rw [setsIgnoreCase_set]
    exact ⟨h, foldBy_ignoresCase h.now _⟩

/-! ## Classes -/

@[spec] theorem classChar_spec (l : Char) (byte : Bool) :
    ⦃fun c => ⌜c.IgnoresCase⌝⦄ classChar l byte ⦃⇓? _ c => ⌜c.IgnoresCase⌝⦄ := by
  mvcgen [classChar]

@[spec] theorem classAtom_spec :
    ⦃fun c => ⌜c.IgnoresCase⌝⦄ classAtom ⦃⇓? _ c => ⌜c.IgnoresCase⌝⦄ := by
  mvcgen [classAtom]
  exact fun h _ => h

@[spec] theorem rangeEnd_spec (a : Atom) :
    ⦃fun c => ⌜c.IgnoresCase⌝⦄ rangeEnd a ⦃⇓? _ c => ⌜c.IgnoresCase⌝⦄ := by
  mvcgen [rangeEnd]

@[spec] theorem classRange_spec :
    ⦃fun c => ⌜c.IgnoresCase⌝⦄ classRange ⦃⇓? _ c => ⌜c.IgnoresCase⌝⦄ := by
  mvcgen [classRange]

@[spec] theorem leadingHyphens_spec (fuel : Nat) (items : List Nested) :
    ⦃fun c => ⌜c.IgnoresCase⌝⦄ leadingHyphens fuel items ⦃⇓? _ c => ⌜c.IgnoresCase⌝⦄ := by
  induction fuel generalizing items with
  | zero => mvcgen [leadingHyphens]
  | succ fuel ih => mvcgen [leadingHyphens, ih]

theorem suffix_of_namedClass? {cs rest : List Char} {s : CharSet} {negated : Bool}
    (h : namedClass? cs = some (s, negated, rest)) : rest <:+ cs := by
  simp only [namedClass?, Option.bind_eq_bind, Option.bind_eq_some_iff, Option.pure_def,
    Option.some.injEq, Prod.mk.injEq] at h
  obtain ⟨r, hopen, _, _, behind, hclose, -, -, rfl⟩ := h
  have hname {r' : List Char} (h : rest? [':', ']'] (r'.dropWhile (· ≠ ':')) = some behind) :
      behind <:+ r' := by
    have hend : behind <:+ r'.dropWhile (· ≠ ':') := ⟨[':', ']'], (rest?_eq_some h).symm⟩
    exact hend.trans (List.dropWhile_suffix _)
  have hr : behind <:+ r := by
    split at hclose
    · exact (hname hclose).trans (List.suffix_cons '^' _)
    · exact hname hclose
  exact hr.trans ⟨['[', ':'], (rest?_eq_some hopen).symm⟩

/-- The items of a class may tell cases apart, and the class as a whole is closed in the end. -/
theorem bracketed_and_classItems_spec (fuel : Nat) :
    ⦃fun c => ⌜c.IgnoresCase⌝⦄ bracketed fuel
    ⦃⇓? n c => ⌜c.IgnoresCase ∧ n.set.ignoresCase = true⌝⦄ ∧
      ∀ pending items,
        ⦃fun c => ⌜c.IgnoresCase⌝⦄ classItems fuel pending items ⦃⇓? _ c => ⌜c.IgnoresCase⌝⦄ := by
  induction fuel with
  | zero =>
    constructor
    · mvcgen [bracketed]
    · intro pending items
      mvcgen [classItems]
  | succ fuel ih =>
    obtain ⟨ihbracketed, ihitems⟩ := ih
    constructor
    · mvcgen [bracketed, ihitems]
    · intro pending items
      mvcgen [classItems, ihbracketed, ihitems]
      next c h _ _ hrest _ _ rest' hclass _ =>
        have hsuffix := suffix_of_namedClass? hclass
        rw [← hrest] at hsuffix
        exact h.skip hsuffix
      next h => exact h.1
      next h => exact h.1
      next c h _ rest' hrest _ => exact h.skip ⟨[']'], hrest.symm⟩
      next c h _ _ _ _ _ _ _ _ _ _ => exact h.skip (List.drop_suffix 2 c.rest)

@[spec] theorem bracketed_spec (fuel : Nat) :
    ⦃fun c => ⌜c.IgnoresCase⌝⦄ bracketed fuel
    ⦃⇓? n c => ⌜c.IgnoresCase ∧ n.set.ignoresCase = true⌝⦄ :=
  (bracketed_and_classItems_spec fuel).1

/-! ## Pieces -/

theorem setsIgnoreCase_repeated {a : Pattern} (h : a.setsIgnoreCase = true) (min : Nat)
    (max : Option Nat) (greedy : Bool) : (repeated a min max greedy).setsIgnoreCase = true := by
  unfold repeated
  dsimp only
  split
  · rfl
  · exact h
  · exact h

theorem ignoresCase_ofRow {row : List Piece} (h : ∀ p ∈ row, p.IgnoresCase) :
    (Piece.ofRow row).IgnoresCase := by
  apply setsIgnoreCase_concat
  intro p hp
  obtain ⟨q, hq, rfl⟩ := List.mem_map.mp hp
  exact h q (List.mem_reverse.mp (List.mem_filter.mp hq).1)

theorem ignoresCase_ofAlternatives {pieces : List Piece} (h : ∀ p ∈ pieces, p.IgnoresCase) :
    (Piece.ofAlternatives pieces).IgnoresCase := by
  apply setsIgnoreCase_alternatives
  intro p hp
  obtain ⟨q, hq, rfl⟩ := List.mem_map.mp hp
  exact h q (List.mem_reverse.mp hq)

@[spec] theorem repeatLast_spec (row : List Piece) (min : Nat) (max : Option Nat) :
    ⦃fun c => ⌜c.IgnoresCase ∧ ∀ p ∈ row, p.IgnoresCase⌝⦄ repeatLast row min max
    ⦃⇓? row' c => ⌜c.IgnoresCase ∧ ∀ p ∈ row', p.IgnoresCase⌝⦄ := by
  have hlast {p : Piece} {ps : List Piece} (greedy : Bool) (h : row = p :: ps)
      (hrow : ∀ p ∈ row, p.IgnoresCase) :
      ∀ q ∈ { pattern := repeated p.pattern min max greedy, depth := p.depth + 1 } :: ps,
        Piece.IgnoresCase q := by
    subst h
    obtain ⟨hp, hps⟩ := List.forall_mem_cons.mp hrow
    exact List.forall_mem_cons.mpr ⟨setsIgnoreCase_repeated hp min max greedy, hps⟩
  mvcgen [repeatLast]
  next h _ _ _ => exact h.1
  next h _ _ _ _ p ps hps _ hc _ => exact ⟨hc, hlast _ hps h.2⟩
  next h _ _ _ p ps hps _ => exact ⟨h.1, hlast _ hps h.2⟩

@[spec] theorem requireRepeatable_spec (row : List Piece) :
    ⦃fun c => ⌜c.IgnoresCase⌝⦄ requireRepeatable row ⦃⇓? _ c => ⌜c.IgnoresCase⌝⦄ := by
  mvcgen [requireRepeatable]

@[spec] theorem countDigits_spec (fuel : Nat) (n? : Option Nat) :
    ⦃fun c => ⌜c.IgnoresCase⌝⦄ count.digits fuel n? ⦃⇓? _ c => ⌜c.IgnoresCase⌝⦄ := by
  induction fuel generalizing n? with
  | zero => mvcgen [count.digits]
  | succ fuel ih => mvcgen [count.digits, ih]

@[spec] theorem count_spec : ⦃fun c => ⌜c.IgnoresCase⌝⦄ count ⦃⇓? _ c => ⌜c.IgnoresCase⌝⦄ := by
  mvcgen [count]
  next h _ => exact h.skip (List.dropWhile_suffix isBlank)
  next h _ => exact h.skip (List.dropWhile_suffix isBlank)

@[spec] theorem needCount_spec :
    ⦃fun c => ⌜c.IgnoresCase⌝⦄ needCount ⦃⇓? _ c => ⌜c.IgnoresCase⌝⦄ := by
  mvcgen [needCount]

@[spec] theorem countedRepeat_spec (row : List Piece) :
    ⦃fun c => ⌜c.IgnoresCase ∧ ∀ p ∈ row, p.IgnoresCase⌝⦄ countedRepeat row
    ⦃⇓? row' c => ⌜c.IgnoresCase ∧ ∀ p ∈ row', p.IgnoresCase⌝⦄ := by
  mvcgen [countedRepeat]
  all_goals grind

@[spec] theorem dot_spec :
    ⦃fun c => ⌜c.IgnoresCase⌝⦄ dot ⦃⇓? p c => ⌜c.IgnoresCase ∧ p.setsIgnoreCase = true⌝⦄ := by
  have hany : (set .any).setsIgnoreCase = true := by decide
  have hreturns : (set (.compl (.ofChars ['\n', '\r']))).setsIgnoreCase = true := by decide
  have hfeed : (set (.compl (.single '\n'))).setsIgnoreCase = true := by decide
  mvcgen [dot]

@[spec] theorem lineLook_spec (atStart : Bool) :
    ⦃fun c => ⌜c.IgnoresCase⌝⦄ lineLook atStart
    ⦃⇓? p c => ⌜c.IgnoresCase ∧ p.setsIgnoreCase = true⌝⦄ := by
  mvcgen [lineLook]

@[spec] theorem primitive_spec (l : Char) :
    ⦃fun c => ⌜c.IgnoresCase⌝⦄ primitive l ⦃⇓? p c => ⌜c.IgnoresCase ∧ p.IgnoresCase⌝⦄ := by
  mvcgen [primitive]
  next h => exact h.1
  next h => exact ⟨h.1, (setsIgnoreCase_set _).trans h.2⟩
  next h => exact ⟨h.1, rfl⟩

/-! ## Runs of flags -/

theorem isFlagSign_of_set? {fs fs' : Flags} {l : Char} {value : Bool}
    (h : fs.set? l value = some fs') :
    isFlagSign l = true ∧
      (fs.ignoreCase = true → fs'.ignoreCase = true ∨ l = 'i' ∧ value = false) := by
  unfold Flags.set? at h
  split at h
  case h_8 => contradiction
  all_goals obtain rfl := Option.some.inj h
  · cases value <;> simp [isFlagSign]
  all_goals exact ⟨by decide, .inl⟩

/-- Reading stands within the flags in front of a text that takes nothing back, behind a hyphen or not. -/
structure InFlags (text : List Char) (off : Bool) (c : Cursor) : Prop where
  ignores : c.IgnoresCase
  keeps : ¬ TakesBack text
  run : ∃ run, text = run ++ c.rest ∧ (off = true → '-' ∈ run) ∧ ∀ l ∈ run, isFlagSign l = true

namespace InFlags

variable {text : List Char} {c : Cursor}

theorem bump {off off' : Bool} {l : Char} (h : InFlags text off c) (hl : c.rest.head? = some l)
    (hsign : isFlagSign l = true) (hoff : off' = true → off = true ∨ l = '-') :
    InFlags text off' { c with rest := c.rest.drop 1 } := by
  obtain ⟨run, htext, hrun, hsigns⟩ := h.run
  have hrest : c.rest = l :: c.rest.drop 1 := by
    rw [List.drop_one, List.cons_head?_tail hl]
  refine ⟨h.ignores.skip (List.drop_suffix 1 c.rest), h.keeps, run ++ [l], ?_, ?_, ?_⟩
  · rw [htext, List.append_assoc, List.singleton_append]
    exact congrArg _ hrest
  · intro hoff'
    rw [List.mem_append]
    rcases hoff hoff' with hoff | rfl
    · exact .inl (hrun hoff)
    · exact .inr (List.mem_singleton_self _)
  · intro d hd
    rcases List.mem_append.mp hd with hd | hd
    · exact hsigns d hd
    · obtain rfl := List.mem_singleton.mp hd
      exact hsign

theorem head_ne (h : InFlags text true c) : c.rest.head? ≠ some 'i' := by
  intro hhead
  obtain ⟨run, htext, hrun, hsigns⟩ := h.run
  rw [← List.cons_head?_tail hhead] at htext
  exact h.keeps ⟨run, c.rest.tail, htext, hrun rfl, hsigns⟩

end InFlags

theorem flagItems_spec (text : List Char) (fuel : Nat) (seen : List Char) (off dangling : Bool)
    (fs : Flags) :
    ⦃fun c => ⌜InFlags text off c ∧ fs.ignoreCase = true⌝⦄ flagItems fuel seen off dangling fs
    ⦃⇓? r c => ⌜c.IgnoresCase ∧ r.1.ignoreCase = true⌝⦄ := by
  induction fuel generalizing seen off dangling fs with
  | zero => mvcgen [flagItems]
  | succ fuel ih =>
    mvcgen [flagItems, bump, ih, -bump_spec]
    next h _ _ _ _ => exact ⟨h.1.ignores, h.2⟩
    next h l hl _ _ hhyphen _ =>
      exact ⟨h.1.bump hl (hhyphen ▸ by decide) fun _ => .inr hhyphen, h.2⟩
    next h l hl _ _ _ fs' hset _ =>
      obtain ⟨hsign, hflag⟩ := isFlagSign_of_set? hset
      refine ⟨h.1.bump hl hsign .inl, ?_⟩
      rcases hflag h.2 with hfs' | ⟨rfl, hoff⟩
      · exact hfs'
      · obtain rfl : off = true := by simpa using hoff
        exact absurd hl h.1.head_ne

/-- A run of flags that takes nothing back leaves it so that letters match in any case. -/
@[spec] theorem flags_spec (fuel : Nat) (fs : Flags) :
    ⦃fun c => ⌜c.IgnoresCase ∧ ¬ TakesBack c.rest ∧ fs.ignoreCase = true⌝⦄
    flagItems fuel [] false false fs
    ⦃⇓? r c => ⌜c.IgnoresCase ∧ r.1.ignoreCase = true⌝⦄ := by
  intro c h
  have hflags : InFlags c.rest false c := ⟨h.1, h.2.1, [], rfl, Bool.noConfusion, by simp⟩
  exact flagItems_spec c.rest fuel [] false false fs c ⟨hflags, h.2.2⟩

/-! ## Groups and alternatives -/

@[spec] theorem groupName_spec :
    ⦃fun c => ⌜c.IgnoresCase⌝⦄ groupName ⦃⇓? _ c => ⌜c.IgnoresCase⌝⦄ := by
  mvcgen [groupName]
  next c h rest _ _ _ _ _ _ _ _ _ =>
    exact ⟨h.now, fun hminds => h.later (hminds.of_suffix (List.drop_suffix _ rest))⟩

/-- Alternatives and groups are read in turns, so what holds of them is shown by one induction. -/
theorem alternativesWith_and_groups_spec (fuel : Nat) :
    (∀ seen row,
      ⦃fun c => ⌜c.IgnoresCase ∧ (∀ p ∈ seen, p.IgnoresCase) ∧ ∀ p ∈ row, p.IgnoresCase⌝⦄
      alternativesWith fuel seen row
      ⦃⇓? p c => ⌜c.IgnoresCase ∧ p.IgnoresCase⌝⦄) ∧
    ⦃fun c => ⌜c.IgnoresCase⌝⦄ group fuel ⦃⇓? p c => ⌜c.IgnoresCase ∧ p.IgnoresCase⌝⦄ ∧
    ∀ isGroup outer,
      ⦃fun c => ⌜c.IgnoresCase ∧ outer.ignoreCase = true⌝⦄ groupBody fuel isGroup outer
      ⦃⇓? p c => ⌜c.IgnoresCase ∧ p.IgnoresCase⌝⦄ := by
  induction fuel with
  | zero =>
    refine ⟨fun seen row => ?_, ?_, fun isGroup outer => ?_⟩
    · mvcgen [alternativesWith]
    · mvcgen [group]
    · mvcgen [groupBody]
  | succ fuel ih =>
    obtain ⟨ihalternatives, ihgroup, ihbody⟩ := ih
    refine ⟨fun seen row => ?_, ?_, fun isGroup outer => ?_⟩
    · have hdone (h : (∀ p ∈ seen, p.IgnoresCase) ∧ ∀ p ∈ row, p.IgnoresCase) :
          (Piece.ofAlternatives (Piece.ofRow row :: seen)).IgnoresCase :=
        ignoresCase_ofAlternatives (List.forall_mem_cons.mpr ⟨ignoresCase_ofRow h.2, h.1⟩)
      mvcgen [alternativesWith, ihalternatives, ihgroup]
      all_goals clear ihalternatives ihgroup ihbody
      all_goals grind [ignoresCase_ofRow, setsIgnoreCase_set, Piece.IgnoresCase]
    · have hempty : Piece.IgnoresCase { pattern := .empty, repeatable := false } := rfl
      mvcgen [group, ihbody]
      all_goals clear ihalternatives ihgroup ihbody
      all_goals grind [Cursor.IgnoresCase.now, Cursor.IgnoresCase.setFlags, TakesBack.minds]
    · have hbody {p : Piece} (hp : p.IgnoresCase) :
          (if isGroup then Pattern.group true p.pattern else p.pattern.apart).setsIgnoreCase = true := by
        cases isGroup with
        | true => exact hp
        | false => exact (setsIgnoreCase_apart _).trans hp
      mvcgen [groupBody, ihalternatives]
      · next h => exact ⟨h.1, by simp, by simp⟩
      · next h _ _ => exact h.1
      · next houter _ _ hp _ _ _ _ hc _ _ => exact ⟨hc.setFlags houter.2, hbody hp.2⟩

/-- What a triple says of a reader holds of each of its runs. -/
theorem of_triple {x : Reader α} {P : Cursor → Prop} {Q : α → Cursor → Prop}
    (hx : ⦃fun c => ⌜P c⌝⦄ x ⦃⇓? a c => ⌜Q a c⌝⦄) {c c' : Cursor} {a : α} (hc : P c)
    (hrun : x c = .ok (a, c')) : Q a c' := by
  have hpost : ⊢ₛ wp⟦x c⟧ post⟨fun r => ⌜Q r.1 r.2⌝, fun _ => ⌜True⌝⟩ := fun _ => hx c hc
  exact Except.of_wp_eq hrun (fun r => match r with | .ok p => Q p.1 p.2 | .error _ => True) hpost

end Reader

/-! ## Whole patterns -/

/-- What is read with letters in any case ignores case, if no flags take that back. -/
theorem setsIgnoreCase_of_parse? {text : String} {p : Pattern} (h : parse? true text = .ok p)
    (hflags : ¬ MindsCase text.toList) : p.setsIgnoreCase = true := by
  let start : Cursor := { rest := text.toList, flags := { ignoreCase := true } }
  have hstart : start.IgnoresCase := ⟨rfl, hflags⟩
  simp only [parse?, bind, Except.bind] at h
  split at h
  · contradiction
  · next r hrun =>
    have hpiece : r.1.IgnoresCase := by
      obtain ⟨hspec, -⟩ := Reader.alternativesWith_and_groups_spec (3 * text.toList.length + 3)
      exact (Reader.of_triple (hspec [] []) ⟨hstart, by simp, by simp⟩ hrun).2
    split at h
    · contradiction
    · split at h
      · contradiction
      · split at h
        · contradiction
        · obtain rfl : r.1.pattern = p := Except.ok.inj h
          exact hpiece

end Pattern

/-- A pattern that was compiled ignores case, if no flags in its text take that back. -/
theorem CompiledPattern.ignoresCase_of_ofSource? {source : String} {p : CompiledPattern}
    (h : ofSource? source = .ok p) (hflags : ¬ Pattern.MindsCase source.toList) :
    p.pattern.IgnoresCase := by
  rw [ofSource?] at h
  cases hparse : Pattern.parse? true source with
  | error e =>
    rw [hparse] at h
    contradiction
  | ok read =>
    rw [hparse] at h
    obtain rfl := Except.ok.inj h
    exact Pattern.ignoresCase_of_sets (Pattern.setsIgnoreCase_of_parse? hparse hflags)

end HookGate
