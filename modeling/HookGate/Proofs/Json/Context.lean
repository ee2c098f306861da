import Mathlib
import HookGate.Proofs.Json.Documents

/-!
# Texts in another context

What is read from the beginning of a text does not depend on what stands behind it. Only a number
could be longer than it is if it were followed by something else.
-/

namespace HookGate.Json

open Reader (isSpace isDigit takeDigits exponentSign exponentDigits exponent assemble signed numberRest number)

/-- What is read from a text up to a rest is read before any other rest that meets the condition. -/
def Kept (Ok : List Char → Prop) (R : List Char → List Char → Prop) (cs rest : List Char) : Prop :=
  ∃ piece, cs = piece ++ rest ∧ ∀ rest', Ok rest' → R (piece ++ rest') rest'

def Anything (_ : List Char) : Prop := True

section Kept

variable {Ok Ok' : List Char → Prop} {R S : List Char → List Char → Prop} {cs mid rest : List Char}

theorem Kept.always (h : Kept Anything R cs rest) : Kept Ok R cs rest := by
  obtain ⟨piece, rfl, hpiece⟩ := h
  exact ⟨piece, rfl, fun rest' _ => hpiece rest' trivial⟩

theorem Kept.imp (h : Kept Ok R cs rest) (himp : ∀ {cs rest}, R cs rest → S cs rest) : Kept Ok S cs rest := by
  obtain ⟨piece, rfl, hpiece⟩ := h
  exact ⟨piece, rfl, fun rest' hrest' => himp (hpiece rest' hrest')⟩

theorem Kept.seq (hR : Kept Ok' R cs mid) (hS : Kept Ok S mid rest)
    (hmid : ∀ {mid rest}, S mid rest → Ok rest → Ok' mid) :
    Kept Ok (fun cs rest => ∃ mid, R cs mid ∧ S mid rest) cs rest := by
  obtain ⟨before, rfl, hbefore⟩ := hR
  obtain ⟨behind, rfl, hbehind⟩ := hS
  refine ⟨before ++ behind, (List.append_assoc _ _ _).symm, fun rest' hrest' => ?_⟩
  have hS := hbehind rest' hrest'
  have hR := hbefore _ (hmid hS hrest')
  rw [List.append_assoc]
  exact ⟨behind ++ rest', hR, hS⟩

theorem Kept.then (hR : Kept Anything R cs mid) (hS : Kept Ok S mid rest) :
    Kept Ok (fun cs rest => ∃ mid, R cs mid ∧ S mid rest) cs rest :=
  hR.seq hS fun _ _ => trivial

/-- The same piece of text, in front of another rest. -/
theorem Kept.move {piece : List Char} (h : Kept Ok R (piece ++ rest) rest) {rest' : List Char}
    (hrest' : Ok rest') : R (piece ++ rest') rest' := by
  obtain ⟨piece', hsame, hpiece⟩ := h
  rw [List.append_cancel_right hsame]
  exact hpiece rest' hrest'

/-- The same text with more behind it. -/
theorem Kept.append (h : Kept Ok R cs mid) (hrest : Ok (mid ++ rest)) : R (cs ++ rest) (mid ++ rest) := by
  obtain ⟨piece, rfl, hpiece⟩ := h
  rw [List.append_assoc]
  exact hpiece _ hrest

end Kept

/-! ## Marks and strings -/

section

variable {cs rest : List Char}

theorem isSpace_of_next {c : Char} (h : Next c cs rest) : isSpace c = false := by
  have hhead := List.head?_dropWhile_not isSpace cs
  rw [h] at hhead
  exact hhead

theorem Next.kept {c : Char} (h : Next c cs rest) : Kept Anything (Next c) cs rest := by
  have hspace := isSpace_of_next h
  refine ⟨cs.takeWhile isSpace ++ [c], ?_, fun rest' _ => ?_⟩
  · rw [List.append_assoc, List.singleton_append, ← h, List.takeWhile_append_dropWhile]
  · rw [Next, List.append_assoc, List.dropWhile_append_of_pos fun _ => List.mem_takeWhile_imp]
    exact Reader.next_cons hspace

theorem Separated.kept {first : Bool} (h : Separated first cs rest) :
    Kept Anything (Separated first) cs rest := by
  cases h with
  | first => exact ⟨[], rfl, fun _ _ => .first⟩
  | comma h => exact h.kept.imp .comma

theorem Escape.kept {c : Char} (h : Escape cs c rest) : Kept Anything (Escape · c ·) cs rest := by
  cases h with
  | @short e _ _ h => exact ⟨[e], rfl, fun _ _ => .short h⟩
  | @unit a b c d _ _ h hlead htrail =>
    exact ⟨['u', a, b, c, d], rfl, fun _ _ => .unit h hlead htrail⟩
  | @pair a b c d _ a' b' c' d' _ _ hn hlead hm htrail =>
    exact ⟨['u', a, b, c, d, '\\', 'u', a', b', c', d'], rfl, fun _ _ => .pair hn hlead hm htrail⟩

theorem Spelled.kept {s : List Char} (h : Spelled cs s rest) : Kept Anything (Spelled · s ·) cs rest := by
  induction h with
  | close => exact ⟨['"'], rfl, fun _ _ => .close⟩
  | @bare c _ _ _ hc _ ih =>
    obtain ⟨piece, rfl, hpiece⟩ := ih
    exact ⟨c :: piece, rfl, fun rest' hrest' => .bare hc (hpiece rest' hrest')⟩
  | escape hescape _ ih =>
    obtain ⟨piece, rfl, hpiece⟩ := hescape.kept.then ih
    refine ⟨'\\' :: piece, rfl, fun rest' hrest' => ?_⟩
    obtain ⟨mid, hescape, hspelled⟩ := hpiece rest' hrest'
    exact .escape hescape hspelled

theorem LooseEscape.kept (h : LooseEscape cs rest) : Kept Anything LooseEscape cs rest := by
  cases h with
  | @short e _ h => exact ⟨[e], rfl, fun _ _ => .short h⟩
  | @unit a b c d _ h => exact ⟨['u', a, b, c, d], rfl, fun _ _ => .unit h⟩

theorem LooselySpelled.kept (h : LooselySpelled cs rest) : Kept Anything LooselySpelled cs rest := by
  induction h with
  | close => exact ⟨['"'], rfl, fun _ _ => .close⟩
  | @bare c _ _ hc _ ih =>
    obtain ⟨piece, rfl, hpiece⟩ := ih
    exact ⟨c :: piece, rfl, fun rest' hrest' => .bare hc (hpiece rest' hrest')⟩
  | escape hescape _ ih =>
    obtain ⟨piece, rfl, hpiece⟩ := hescape.kept.then ih
    refine ⟨'\\' :: piece, rfl, fun rest' hrest' => ?_⟩
    obtain ⟨mid, hescape, hspelled⟩ := hpiece rest' hrest'
    exact .escape hescape hspelled

theorem Named.kept {first : Bool} {name : String} (h : Named first cs name rest) :
    Kept Anything (Named first · name ·) cs rest := by
  obtain ⟨_, _, t, _, hfirst, hquote, hspelled, hname, hcolon⟩ := h
  refine (hfirst.kept.then (hquote.kept.then (hspelled.kept.then hcolon.kept))).imp ?_
  rintro _ _ ⟨_, hfirst, _, hquote, _, hspelled, hcolon⟩
  exact ⟨_, _, t, _, hfirst, hquote, hspelled, hname, hcolon⟩

end

/-! ## Numbers -/

/-- No digit with which a number in front could go on. -/
def NoDigit (cs : List Char) : Prop := ∀ c ∈ cs.head?, isDigit c = false

/-- No further digit of a whole part, and no fraction. -/
structure NoFraction (cs : List Char) : Prop where
  noDigit : NoDigit cs
  noPoint : cs.head? ≠ some '.'

/-- What can stand behind a value: nothing with which a number in front could go on. -/
structure Follows (cs : List Char) : Prop extends NoFraction cs where
  noExponent : ∀ c ∈ cs.head?, ¬ IsExponentMark c

/-- As many digits as there are, with nothing behind them. -/
def AllDigits (ds : List Char) : Prop := ds ≠ [] ∧ ∀ d ∈ ds, isDigit d = true

section Numbers

variable {cs mid rest ds : List Char}

theorem noDigit_nil : NoDigit [] := nofun

theorem follows_nil : Follows [] := ⟨⟨nofun, nofun⟩, nofun⟩

theorem follows_cons {c : Char} (hdigit : isDigit c = false) (hpoint : c ≠ '.') (hmark : ¬ IsExponentMark c) :
    Follows (c :: cs) := by
  refine ⟨⟨?_, by simpa using hpoint⟩, ?_⟩
  · rintro _ ⟨⟩
    exact hdigit
  · rintro _ ⟨⟩
    exact hmark

theorem NoDigit.dropWhile (h : NoDigit cs) : cs.dropWhile isDigit = cs := by
  cases cs with
  | nil => rfl
  | cons c cs => rw [List.dropWhile_cons_of_neg (by simp [h c rfl])]

theorem NoDigit.takeWhile (h : NoDigit cs) : cs.takeWhile isDigit = [] := by
  cases cs with
  | nil => rfl
  | cons c cs => rw [List.takeWhile_cons_of_neg (by simp [h c rfl])]

theorem AllDigits.takeWhile_append (h : AllDigits ds) (hrest : NoDigit rest) :
    (ds ++ rest).takeWhile isDigit = ds := by
  rw [List.takeWhile_append_of_pos h.2, hrest.takeWhile, List.append_nil]

theorem AllDigits.dropWhile_append (h : AllDigits ds) (hrest : NoDigit rest) :
    (ds ++ rest).dropWhile isDigit = rest := by
  rw [List.dropWhile_append_of_pos h.2, hrest.dropWhile]

theorem AllDigits.digits (h : AllDigits ds) (hrest : NoDigit rest) : Digits (ds ++ rest) rest :=
  ⟨(h.takeWhile_append hrest).symm ▸ h.1, h.dropWhile_append hrest⟩

theorem Digits.exists_allDigits (h : Digits cs rest) : ∃ ds, AllDigits ds ∧ cs = ds ++ rest := by
  obtain ⟨hsome, rfl⟩ := h
  exact ⟨cs.takeWhile isDigit, ⟨hsome, fun _ => List.mem_takeWhile_imp⟩,
    List.takeWhile_append_dropWhile.symm⟩

theorem Digits.kept (h : Digits cs rest) : Kept NoDigit Digits cs rest := by
  obtain ⟨ds, hds, rfl⟩ := h.exists_allDigits
  exact ⟨ds, rfl, fun _ => hds.digits⟩

theorem Whole.kept (h : Whole cs rest) : Kept NoDigit Whole cs rest := by
  cases h with
  | zero => exact ⟨['0'], rfl, fun _ hrest' => .zero hrest'⟩
  | @digits c cs rest hc h =>
    obtain ⟨ds, hds, hsplit⟩ := h.exists_allDigits
    obtain ⟨d, ds, rfl⟩ := List.exists_cons_of_ne_nil hds.1
    obtain ⟨rfl, rfl⟩ := List.cons.inj hsplit
    exact ⟨c :: ds, rfl, fun _ hrest' => .digits hc (hds.digits hrest')⟩

theorem Fraction.kept (h : Fraction cs rest) :
    Kept NoFraction Fraction cs rest := by
  cases h with
  | none => exact ⟨[], rfl, fun _ hrest' => .none hrest'.noPoint⟩
  | some h =>
    obtain ⟨ds, rfl, hds⟩ := h.kept
    exact ⟨'.' :: ds, rfl, fun rest' hrest' => .some (hds rest' hrest'.noDigit)⟩

theorem Exponent.kept (h : Exponent cs rest) : Kept Follows Exponent cs rest := by
  cases h with
  | none => exact ⟨[], rfl, fun _ hrest' => .none hrest'.noExponent⟩
  | @bare c _ _ hc h =>
    obtain ⟨ds, rfl, hds⟩ := h.kept
    exact ⟨c :: ds, rfl, fun rest' hrest' => .bare hc (hds rest' hrest'.noDigit)⟩
  | @signed c sign _ _ hc hsign h =>
    obtain ⟨ds, rfl, hds⟩ := h.kept
    exact ⟨c :: sign :: ds, rfl, fun rest' hrest' => .signed hc hsign (hds rest' hrest'.noDigit)⟩

theorem noFraction_cons {c : Char} (hc : IsExponentMark c) : NoFraction (c :: cs) := by
  constructor
  · rintro _ ⟨⟩
    obtain rfl | rfl := hc <;> rfl
  · obtain rfl | rfl := hc <;> simp

theorem Exponent.noFraction (h : Exponent cs rest) (hrest : Follows rest) : NoFraction cs := by
  cases h with
  | none => exact hrest.toNoFraction
  | bare hc | signed hc => exact noFraction_cons hc

theorem Tail.kept (h : Reader.Tail cs rest) : Kept Follows Reader.Tail cs rest := by
  obtain ⟨mid, hfraction, hexponent⟩ := h
  exact hfraction.kept.seq hexponent.kept Exponent.noFraction

theorem Tail.noDigit (h : Reader.Tail cs rest) (hrest : Follows rest) : NoDigit cs := by
  obtain ⟨mid, hfraction, hexponent⟩ := h
  cases hfraction with
  | none => exact (hexponent.noFraction hrest).noDigit
  | some =>
    rintro _ ⟨⟩
    rfl

theorem Numeral.kept (h : Numeral cs rest) : Kept Follows Numeral cs rest := by
  obtain ⟨whole, fraction, hwhole, htail⟩ := h
  have htail : Kept Follows Reader.Tail whole rest := Tail.kept ⟨fraction, htail⟩
  refine (hwhole.kept.seq htail Tail.noDigit).imp ?_
  rintro _ _ ⟨whole, hwhole, fraction, htail⟩
  exact ⟨whole, fraction, hwhole, htail⟩

/-- A reader of numbers that leaves what stands behind a text, and does not look at it. -/
def Leaves (read : Reader Number) (cs rest : List Char) : Prop :=
  read (cs ++ rest) = (read cs).map fun found => (found.1, rest)

/-! ### Digits -/

theorem takeDigits_append (hds : ∀ d ∈ ds, isDigit d = true) (hrest : NoDigit rest)
    (significand added dropped : Nat) :
    takeDigits significand added dropped (ds ++ rest) =
      let taken := takeDigits significand added dropped ds
      (taken.1, taken.2.1, taken.2.2.1, rest) := by
  induction ds generalizing significand added dropped with
  | nil =>
    cases rest with
    | nil => rfl
    | cons c rest =>
      have hc : Reader.digit? c = none := by simpa [isDigit] using hrest c rfl
      simp [takeDigits, hc]
  | cons d ds ih =>
    obtain ⟨hd, hds⟩ := List.forall_mem_cons.mp hds
    obtain ⟨n, hn⟩ := Option.isSome_iff_exists.mp hd
    rw [List.cons_append, takeDigits, takeDigits, hn]
    dsimp only
    split
    · exact ih hds _ _ _
    · exact ih hds _ _ _

section Exponent

theorem map_assemble (positive : Bool) (significand : Nat) (e : Int) (rest rest' : List Char) :
    (do return (← assemble positive significand e, rest) : Except Error (Number × List Char)).map
        (fun found => (found.1, rest')) =
      do return (← assemble positive significand e, rest') := by
  cases assemble positive significand e <;> rfl

variable (positive : Bool) (significand : Nat) (start : Int)

theorem leaves_exponentDigits (up : Bool) (hds : AllDigits ds) (hrest : NoDigit rest) :
    Leaves (exponentDigits positive significand start up) ds rest := by
  obtain ⟨c, ds, rfl⟩ := List.exists_cons_of_ne_nil hds.1
  have hc : isDigit c = true := hds.2 c List.mem_cons_self
  have htake : (c :: (ds ++ rest)).takeWhile isDigit = c :: ds := hds.takeWhile_append hrest
  have hdrop : (c :: (ds ++ rest)).dropWhile isDigit = rest := hds.dropWhile_append hrest
  have htake' : (c :: ds).takeWhile isDigit = c :: ds := by simpa using hds.takeWhile_append noDigit_nil
  have hdrop' : (c :: ds).dropWhile isDigit = [] := by simpa using hds.dropWhile_append noDigit_nil
  simp only [Leaves, exponentDigits, List.cons_append, hc, if_true, htake, hdrop, htake', hdrop']
  split
  · exact (map_assemble _ _ _ _ _).symm
  · split <;> rfl

theorem exponentSign_append (hne : cs ≠ []) (rest : List Char) :
    exponentSign (cs ++ rest) = ((exponentSign cs).1, (exponentSign cs).2 ++ rest) := by
  obtain ⟨c, cs, rfl⟩ := List.exists_cons_of_ne_nil hne
  rw [List.cons_append]
  by_cases hplus : c = '+'
  · subst hplus
    rfl
  · by_cases hminus : c = '-'
    · subst hminus
      rfl
    · have hbare (r : List Char) : exponentSign (c :: r) = (true, c :: r) := by
        unfold exponentSign
        split <;> simp_all
      rw [hbare, hbare, List.cons_append]

theorem leaves_exponent (h : Digits (exponentSign cs).2 []) (hrest : NoDigit rest) :
    Leaves (exponent positive significand start) cs rest := by
  have hne : cs ≠ [] := by
    rintro rfl
    exact h.1 rfl
  obtain ⟨ds, hds, hsign⟩ := h.exists_allDigits
  rw [List.append_nil] at hsign
  rw [Leaves, exponent, exponent, exponentSign_append hne, hsign]
  exact leaves_exponentDigits positive significand start _ hds hrest

/-- A reader that goes on at the mark of an exponent, and elsewhere has a number already. -/
theorem leaves_of_exponent {read : Reader Number}
    (hmark : ∀ {c r}, IsExponentMark c → read (c :: r) = exponent positive significand start r)
    (hplain : ∀ {r}, Follows r → Leaves read [] r) (h : Exponent cs []) (hrest : Follows rest) :
    Leaves read cs rest := by
  cases cs with
  | nil => exact hplain hrest
  | cons c cs =>
    by_cases hc : IsExponentMark c
    · rw [Leaves, List.cons_append, hmark hc, hmark hc]
      exact leaves_exponent positive significand start ((Reader.exponent_cons hc).mp h) hrest.noDigit
    · cases h with
      | bare hmark => exact absurd hmark hc
      | signed hmark => exact absurd hmark hc

end Exponent

/-! ### Numerals -/

section

variable (positive : Bool) (significand : Nat)

/-- Reads what follows a fraction. -/
def afterFraction (e : Int) : Reader Number := fun cs =>
  match cs with
  | 'e' :: r | 'E' :: r => exponent positive significand e r
  | r => do return (← assemble positive significand e, r)

theorem leaves_afterFraction (e : Int) (h : Exponent cs []) (hrest : Follows rest) :
    Leaves (afterFraction positive significand e) cs rest := by
  have hplain {r : List Char} (hr : Follows r) : afterFraction positive significand e r =
      do return (← assemble positive significand e, r) := by
    rw [afterFraction.eq_def]
    split
    · exact absurd (.inl rfl) (hr.noExponent _ rfl)
    · exact absurd (.inr rfl) (hr.noExponent _ rfl)
    · rfl
  refine leaves_of_exponent positive significand e ?_ ?_ h hrest
  · rintro c r (rfl | rfl) <;> rfl
  · intro r hr
    rw [Leaves, List.nil_append, hplain hr, hplain follows_nil, map_assemble]

/-- Behind the point stand the digits of a fraction. -/
theorem numberRest_point (dropped : Nat) (hds : AllDigits ds) (hrest : NoDigit rest) :
    let taken := takeDigits significand 0 0 ds
    numberRest positive significand dropped ('.' :: (ds ++ rest)) =
      afterFraction positive taken.1 (dropped - taken.2.1) rest := by
  have hcount := Reader.takeDigits_count significand 0 0 ds
  have hlen := List.length_pos_iff.mpr hds.1
  have hall : ds.takeWhile isDigit = ds := by simpa using hds.takeWhile_append noDigit_nil
  have hsome : ¬ ((takeDigits significand 0 0 ds).2.1 = 0 ∧ (takeDigits significand 0 0 ds).2.2.1 = 0) := by
    rw [hall] at hcount
    omega
  simp only [numberRest, takeDigits_append hds.2 hrest, if_neg hsome]
  rfl

theorem numberRest_of_follows (dropped : Nat) (h : Follows cs) :
    numberRest positive significand dropped cs =
      if dropped ≠ 0 then do return (← assemble positive significand dropped, cs)
      else if positive then .ok (.integer significand, cs)
      else if 0 < significand ∧ significand ≤ 0x8000000000000000 then .ok (.integer (-significand), cs)
      else .ok (signed false significand.toUInt64.toFloat, cs) := by
  unfold numberRest
  split
  · exact absurd rfl h.noPoint
  · exact absurd (.inl rfl) (h.noExponent _ rfl)
  · exact absurd (.inr rfl) (h.noExponent _ rfl)
  · rfl

theorem leaves_numberRest (dropped : Nat) (h : Reader.Tail cs []) (hrest : Follows rest) :
    Leaves (numberRest positive significand dropped) cs rest := by
  obtain ⟨mid, hfraction, hexponent⟩ := h
  cases hfraction with
  | none =>
    refine leaves_of_exponent positive significand dropped ?_ ?_ hexponent hrest
    · rintro c r (rfl | rfl) <;> rfl
    · intro r hr
      rw [Leaves, List.nil_append, numberRest_of_follows _ _ _ hr, numberRest_of_follows _ _ _ follows_nil]
      split
      · exact (map_assemble _ _ _ _ _).symm
      · split
        · rfl
        · split <;> rfl
  | some hdigits =>
    obtain ⟨ds, hds, rfl⟩ := hdigits.exists_allDigits
    have hmid := (hexponent.noFraction follows_nil).noDigit
    have hmid' := ((hexponent.kept.append hrest).noFraction hrest).noDigit
    rw [Leaves, List.cons_append, List.append_assoc, numberRest_point _ _ _ hds hmid,
      numberRest_point _ _ _ hds hmid']
    exact leaves_afterFraction _ _ _ hexponent hrest

end

theorem number_zero (positive : Bool) (hrest : NoDigit rest) :
    number positive ('0' :: rest) = numberRest positive 0 0 rest := by
  have hnot : (rest.head?.map isDigit).getD false = false := by
    cases rest with
    | nil => rfl
    | cons c rest => exact hrest c rfl
  simp [number, hnot]

theorem number_digits (positive : Bool) (hds : AllDigits ds) (hzero : ds.head? ≠ some '0') (hrest : NoDigit rest) :
    let taken := takeDigits 0 0 0 ds
    number positive (ds ++ rest) = numberRest positive taken.1 taken.2.2.1 rest := by
  obtain ⟨c, ds, rfl⟩ := List.exists_cons_of_ne_nil hds.1
  have hc : isDigit c = true := hds.2 c List.mem_cons_self
  have htake := takeDigits_append hds.2 hrest 0 0 0
  rw [List.cons_append] at htake ⊢
  unfold number
  split
  · contradiction
  · next heq => simp_all
  · next c' r heq =>
    obtain ⟨rfl, rfl⟩ := List.cons.inj heq
    rw [if_pos hc, htake]

theorem leaves_number (positive : Bool) (h : Numeral cs []) (hrest : Follows rest) :
    Leaves (number positive) cs rest := by
  obtain ⟨whole, fraction, hwhole, htail⟩ := h
  have htail : Reader.Tail whole [] := ⟨fraction, htail⟩
  have hbehind := Tail.noDigit htail follows_nil
  have hbehind' := Tail.noDigit ((Tail.kept htail).append hrest) hrest
  cases hwhole with
  | zero =>
    rw [Leaves, List.cons_append, number_zero positive hbehind, number_zero positive hbehind']
    exact leaves_numberRest _ _ _ htail hrest
  | @digits c _ _ hc hdigits =>
    obtain ⟨ds, hds, hsplit⟩ := hdigits.exists_allDigits
    have hzero : ds.head? ≠ some '0' := by
      obtain ⟨d, ds, rfl⟩ := List.exists_cons_of_ne_nil hds.1
      obtain ⟨rfl, -⟩ := List.cons.inj hsplit
      simpa using hc
    rw [hsplit, Leaves, List.append_assoc, number_digits positive hds hzero hbehind,
      number_digits positive hds hzero hbehind']
    exact leaves_numberRest _ _ _ htail hrest

/-- A number is the same in front of everything that can stand behind a value. -/
theorem number_kept {positive : Bool} {n : Number} (h : number positive cs = .ok (n, rest))
    (hrest : Follows rest) :
    Kept Follows (fun cs rest => Numeral cs rest ∧ number positive cs = .ok (n, rest)) cs rest := by
  obtain ⟨piece, rfl, hpiece⟩ := (Reader.numeral_of_number h).kept
  have hnumeral : Numeral piece [] := by simpa using hpiece [] follows_nil
  have hfound := (leaves_number positive hnumeral hrest).symm.trans h
  refine ⟨piece, rfl, fun rest' hrest' => ⟨hpiece rest' hrest', ?_⟩⟩
  rw [leaves_number positive hnumeral hrest']
  cases hread : number positive piece with
  | error e => simp [hread, Except.map] at hfound
  | ok found =>
    rw [hread] at hfound
    obtain ⟨rfl, -⟩ := Prod.mk.inj (Except.ok.inj hfound)
    rfl

end Numbers

/-! ## What follows a value -/

/-- Blanks, commas and closing marks. -/
def enders : List Char := [' ', '\n', '\t', '\r', ',', ']', '\x7d']

section Follows

variable {first : Bool} {cs cs' rest : List Char}

theorem follows_of_mem {c : Char} (h : c ∈ enders) (cs : List Char) : Follows (c :: cs) := by
  simp only [enders, List.mem_cons, List.not_mem_nil, or_false] at h
  rcases h with rfl | rfl | rfl | rfl | rfl | rfl | rfl
  all_goals exact follows_cons (by decide) (by decide) (by simp [IsExponentMark])

theorem mem_enders_of_isSpace {c : Char} (h : isSpace c = true) : c ∈ enders := by
  simp only [isSpace, Bool.or_eq_true, beq_iff_eq] at h
  simp only [enders, List.mem_cons]
  tauto

theorem Next.follows {c : Char} (h : Next c cs rest) (hc : c ∈ enders) : Follows cs := by
  cases cs with
  | nil => contradiction
  | cons d cs =>
    cases hd : isSpace d with
    | true => exact follows_of_mem (mem_enders_of_isSpace hd) cs
    | false =>
      obtain ⟨rfl, -⟩ := (Reader.next_cons hd).unique h
      exact follows_of_mem hc cs

theorem Ended.follows (h : Ended cs) : Follows cs := by
  cases cs with
  | nil => exact follows_nil
  | cons c cs => exact follows_of_mem (mem_enders_of_isSpace (h c List.mem_cons_self)) cs

theorem Separated.follows (h : Separated false cs rest) : Follows cs := by
  cases h with
  | comma h => exact h.follows (by decide)

theorem WrittenItems.follows {n : Nat} {vs : List Value} (h : WrittenItems n false cs vs rest) : Follows cs := by
  cases h with
  | nil hnext => exact hnext.follows (by decide)
  | cons hfirst => exact hfirst.follows

theorem WrittenMembers.follows {n : Nat} {ms : List (String × Value)} (h : WrittenMembers n false cs ms rest) :
    Follows cs := by
  cases h with
  | nil hnext => exact hnext.follows (by decide)
  | cons hfirst => exact hfirst.follows

theorem PassedItems.follows (h : PassedItems false cs rest) : Follows cs := by
  cases h with
  | nil hnext => exact hnext.follows (by decide)
  | cons hfirst => exact hfirst.follows

theorem PassedMembers.follows (h : PassedMembers false cs rest) : Follows cs := by
  cases h with
  | nil hnext => exact hnext.follows (by decide)
  | cons hfirst => exact hfirst.follows

end Follows

/-! ## Values -/

section Scalars

variable {Ok : List Char → Prop} {R : List Char → List Char → Prop} {c : Char} {cs rest : List Char}

/-- The first character of what is kept may be told apart. -/
theorem Kept.tail (h : Kept Ok R (c :: cs) rest) (hlen : rest.length ≤ cs.length) :
    Kept Ok (fun cs rest => R (c :: cs) rest) cs rest := by
  obtain ⟨piece, hsplit, hpiece⟩ := h
  cases piece with
  | nil =>
    rw [List.nil_append] at hsplit
    simp [← hsplit] at hlen
  | cons d piece =>
    obtain ⟨rfl, rfl⟩ := List.cons.inj hsplit
    exact ⟨piece, rfl, hpiece⟩

theorem Word.kept {v : Value} (h : Word c cs v rest) : Kept Anything (Word c · v ·) cs rest := by
  cases h with
  | null => exact ⟨['u', 'l', 'l'], rfl, fun _ _ => .null⟩
  | yes => exact ⟨['r', 'u', 'e'], rfl, fun _ _ => .yes⟩
  | no => exact ⟨['a', 'l', 's', 'e'], rfl, fun _ _ => .no⟩

theorem Scalar.kept {v : Value} (h : Scalar c cs v rest) (hrest : Follows rest) :
    Kept Follows (Scalar c · v ·) cs rest := by
  have hlen := h.length_le
  cases h with
  | word h => exact h.kept.always.imp .word
  | string h => exact h.kept.always.imp .string
  | positive hc _ hrange =>
    exact ((number_kept hrange hrest).tail hlen).imp fun h => .positive hc h.1 h.2
  | negative _ hrange => exact (number_kept hrange hrest).imp fun h => .negative h.1 h.2

theorem LooseScalar.kept (h : LooseScalar c cs rest) : Kept Follows (LooseScalar c) cs rest := by
  have hlen := h.length_le
  cases h with
  | word h => exact h.kept.always.imp .word
  | string h => exact h.kept.always.imp .string
  | positive hc h => exact (h.kept.tail hlen).imp (.positive hc)
  | negative h => exact h.kept.imp .negative

end Scalars

mutual

theorem Written.kept {n : Nat} {cs : List Char} {v : Value} {rest : List Char} :
    Written n cs v rest → Follows rest → Kept Follows (Written n · v ·) cs rest
  | .scalar hnext h, hrest => (hnext.kept.then (h.kept hrest)).imp fun ⟨_, hnext, h⟩ => .scalar hnext h
  | .array hn hnext h, _ => (hnext.kept.then h.kept).always.imp fun ⟨_, hnext, h⟩ => .array hn hnext h
  | .object hn hnext h, _ => (hnext.kept.then h.kept).always.imp fun ⟨_, hnext, h⟩ => .object hn hnext h

theorem WrittenItems.kept {n : Nat} {first : Bool} {cs : List Char} {vs : List Value} {rest : List Char} :
    WrittenItems n first cs vs rest → Kept Anything (WrittenItems n first · vs ·) cs rest
  | .nil hnext => hnext.kept.imp .nil
  | .cons hfirst h hrest =>
    have hvalue := (h.kept hrest.follows).seq hrest.kept fun h _ => h.follows
    (hfirst.kept.then hvalue).imp fun ⟨_, hfirst, _, h, hrest⟩ => .cons hfirst h hrest

theorem WrittenMembers.kept {n : Nat} {first : Bool} {cs : List Char} {ms : List (String × Value)}
    {rest : List Char} :
    WrittenMembers n first cs ms rest → Kept Anything (WrittenMembers n first · ms ·) cs rest
  | .nil hnext => hnext.kept.imp .nil
  | .cons hfirst hquote hname hcolon h hrest =>
    have hvalue := (h.kept hrest.follows).seq hrest.kept fun h _ => h.follows
    (hfirst.kept.then (hquote.kept.then (hname.kept.then (hcolon.kept.then hvalue)))).imp
      fun ⟨_, hfirst, _, hquote, _, hname, _, hcolon, _, h, hrest⟩ =>
        .cons hfirst hquote hname hcolon h hrest

end

mutual

theorem Passed.kept {cs rest : List Char} : Passed cs rest → Kept Follows Passed cs rest
  | .scalar hnext h => (hnext.kept.then h.kept).imp fun ⟨_, hnext, h⟩ => .scalar hnext h
  | .array hnext h => (hnext.kept.then h.kept).always.imp fun ⟨_, hnext, h⟩ => .array hnext h
  | .object hnext h => (hnext.kept.then h.kept).always.imp fun ⟨_, hnext, h⟩ => .object hnext h

theorem PassedItems.kept {first : Bool} {cs rest : List Char} :
    PassedItems first cs rest → Kept Anything (PassedItems first) cs rest
  | .nil hnext => hnext.kept.imp .nil
  | .cons hfirst h hrest =>
    have hvalue := h.kept.seq hrest.kept fun h _ => h.follows
    (hfirst.kept.then hvalue).imp fun ⟨_, hfirst, _, h, hrest⟩ => .cons hfirst h hrest

theorem PassedMembers.kept {first : Bool} {cs rest : List Char} :
    PassedMembers first cs rest → Kept Anything (PassedMembers first) cs rest
  | .nil hnext => hnext.kept.imp .nil
  | .cons hfirst hquote hname hcolon h hrest =>
    have hvalue := h.kept.seq hrest.kept fun h _ => h.follows
    (hfirst.kept.then (hquote.kept.then (hname.kept.then (hcolon.kept.then hvalue)))).imp
      fun ⟨_, hfirst, _, hquote, _, hname, _, hcolon, _, h, hrest⟩ =>
        .cons hfirst hquote hname hcolon h hrest

end

/-! ## What is written can be passed over -/

section Loose

variable {cs rest : List Char}

theorem Escape.loose {c : Char} (h : Escape cs c rest) :
    LooseEscape cs rest ∨ ∃ mid, LooseEscape cs ('\\' :: mid) ∧ LooseEscape mid rest := by
  cases h with
  | short h => exact .inl (.short (by simp [h]))
  | unit h => exact .inl (.unit (by simp [h]))
  | pair hn _ hm => exact .inr ⟨_, .unit (by simp [hn]), .unit (by simp [hm])⟩

theorem Spelled.loose {s : List Char} (h : Spelled cs s rest) : LooselySpelled cs rest := by
  induction h with
  | close => exact .close
  | bare hc _ ih => exact .bare hc ih
  | escape hescape _ ih =>
    rcases hescape.loose with h | ⟨mid, hlead, htrail⟩
    · exact .escape h ih
    · exact .escape hlead (.escape htrail ih)

theorem Scalar.loose {c : Char} {v : Value} (h : Scalar c cs v rest) : LooseScalar c cs rest := by
  cases h with
  | word h => exact .word h
  | string h => exact .string h.loose
  | positive hc h => exact .positive hc h
  | negative h => exact .negative h

end Loose

mutual

theorem Written.passed {n : Nat} {cs : List Char} {v : Value} {rest : List Char} :
    Written n cs v rest → Passed cs rest
  | .scalar hnext h => .scalar hnext h.loose
  | .array _ hnext h => .array hnext h.passed
  | .object _ hnext h => .object hnext h.passed

theorem WrittenItems.passed {n : Nat} {first : Bool} {cs : List Char} {vs : List Value} {rest : List Char} :
    WrittenItems n first cs vs rest → PassedItems first cs rest
  | .nil hnext => .nil hnext
  | .cons hfirst h hrest => .cons hfirst h.passed hrest.passed

theorem WrittenMembers.passed {n : Nat} {first : Bool} {cs : List Char} {ms : List (String × Value)}
    {rest : List Char} : WrittenMembers n first cs ms rest → PassedMembers first cs rest
  | .nil hnext => .nil hnext
  | .cons hfirst hquote hname hcolon h hrest => .cons hfirst hquote hname.loose hcolon h.passed hrest.passed

end

end HookGate.Json
