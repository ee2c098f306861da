import Mathlib
import HookGate.Text.Case.Lower
import HookGate.Proofs.Text.Words

/-!
# Lower case and its context

Only a capital sigma looks at its neighbours: behind a letter with case, and before none, it takes
its final form. On each side the nearest character decides that case rules do not look through. A
text whose sigmas all find it within the text reads the same wherever it stands.
-/

namespace HookGate.Text

/-! ## What a sigma looks at -/

/-- Whether the nearest character that case rules do not look through has case. -/
def nearest? (cs : List Char) : Option Bool := (cs.find? fun c => !isCaseIgnorable c).map isCased

theorem meetsCased_iff (cs : List Char) : meetsCased cs = true ↔ nearest? cs = some true := by
  induction cs with
  | nil => simp [meetsCased, nearest?]
  | cons c cs ih =>
    cases hc : isCaseIgnorable c with
    | true => simpa [meetsCased, nearest?, hc] using ih
    | false => simp [meetsCased, nearest?, hc]

theorem nearest?_append (cs ds : List Char) :
    nearest? (cs ++ ds) = (nearest? cs).or (nearest? ds) := by
  simp only [nearest?, List.find?_append]
  cases cs.find? fun c => !isCaseIgnorable c <;> rfl

/-- Whether a sigma takes its final form. The characters before it are reversed. -/
def endsWord (before after : List Char) : Bool := meetsCased before && !meetsCased after

theorem endsWord_iff (before after : List Char) :
    endsWord before after = true ↔ nearest? before = some true ∧ nearest? after ≠ some true := by
  simp [endsWord, meetsCased_iff, ← Bool.not_eq_true]

/-! ## Parts of a text -/

/-- The lower-case form of a character between others, of which those before it are reversed. -/
def lowerAt (before : List Char) (c : Char) (after : List Char) : List Char :=
  if c = 'Σ' then (if endsWord before after then ['ς'] else ['σ']) else lowerChar c

/-- The lower-case form of a part of a text. -/
def lowerAmid (before : List Char) : List Char → List Char → List Char
  | [], _ => []
  | c :: r, after => lowerAt before c (r ++ after) ++ lowerAmid (c :: before) r after

theorem lowerFrom_eq (before cs : List Char) : lowerFrom before cs = lowerAmid before cs [] := by
  induction cs generalizing before with
  | nil => rfl
  | cons c cs ih => rw [lowerFrom, lowerAmid, ih, List.append_nil, lowerAt, endsWord]

theorem lowerChars_eq (cs : List Char) : lowerChars cs = lowerAmid [] cs [] := lowerFrom_eq [] cs

theorem lowerAmid_append (before cs ds after : List Char) :
    lowerAmid before (cs ++ ds) after =
      lowerAmid before cs (ds ++ after) ++ lowerAmid (cs.reverse ++ before) ds after := by
  induction cs generalizing before with
  | nil => rfl
  | cons c cs ih => simp [lowerAmid, ih]

theorem length_lowerAt (before before' : List Char) (c : Char) (after after' : List Char) :
    (lowerAt before c after).length = (lowerAt before' c after').length := by
  simp only [lowerAt]
  repeat' split
  all_goals rfl

theorem length_lowerAmid (before before' cs after after' : List Char) :
    (lowerAmid before cs after).length = (lowerAmid before' cs after').length := by
  induction cs generalizing before before' with
  | nil => rfl
  | cons c cs ih =>
    rw [lowerAmid, lowerAmid, List.length_append, List.length_append,
      length_lowerAt before before', ih (c :: before) (c :: before')]

theorem length_lowerChars (before cs after : List Char) :
    (lowerChars cs).length = (lowerAmid before cs after).length := by
  rw [lowerChars_eq, length_lowerAmid]

theorem lowerAt_eq_iff (before before' : List Char) (c : Char) (after after' : List Char) :
    lowerAt before c after = lowerAt before' c after' ↔
      (c = 'Σ' → endsWord before after = endsWord before' after') := by
  by_cases hc : c = 'Σ'
  · cases h : endsWord before after <;> cases h' : endsWord before' after' <;>
      simp [lowerAt, hc, h, h']
  · simp [lowerAt, hc]

/-- A part reads the same in two places exactly if each of its sigmas does. -/
theorem lowerAmid_eq_iff (before before' cs after after' : List Char) :
    lowerAmid before cs after = lowerAmid before' cs after' ↔
      ∀ u v, cs = u ++ 'Σ' :: v →
        endsWord (u.reverse ++ before) (v ++ after) =
          endsWord (u.reverse ++ before') (v ++ after') := by
  induction cs generalizing before before' with
  | nil => simp [lowerAmid]
  | cons c cs ih =>
    have hlen := length_lowerAt before before' c (cs ++ after) (cs ++ after')
    have hsplit : lowerAmid before (c :: cs) after = lowerAmid before' (c :: cs) after' ↔
        lowerAt before c (cs ++ after) = lowerAt before' c (cs ++ after') ∧
          lowerAmid (c :: before) cs after = lowerAmid (c :: before') cs after' :=
      ⟨fun h => List.append_inj h hlen, fun ⟨hhead, htail⟩ => by
        rw [lowerAmid, lowerAmid, hhead, htail]⟩
    rw [hsplit, lowerAt_eq_iff, ih]
    constructor
    · rintro ⟨hhead, htail⟩ u v heq
      cases u with
      | nil =>
        obtain ⟨rfl, rfl⟩ := List.cons.inj heq
        exact hhead rfl
      | cons d u =>
        obtain ⟨rfl, rfl⟩ := List.cons.inj heq
        simpa using htail u v rfl
    · intro h
      refine ⟨?_, fun u v heq => ?_⟩
      · rintro rfl
        exact h [] cs rfl
      · simpa using h (c :: u) v (by rw [heq, List.cons_append])

/-! ## Texts that read the same everywhere -/

/-- A sigma whose neighbours on one side or on both leave nothing open: a letter with case follows,
or none goes before, or one goes before and none follows. -/
def Settled (before after : Option Bool) : Prop :=
  after = some true ∨ before = some false ∨ before = some true ∧ after = some false

/-- Nothing around the text changes the form of its sigmas. -/
def Steady (cs : List Char) : Prop :=
  ∀ u v, cs = u ++ 'Σ' :: v → Settled (nearest? u.reverse) (nearest? v)

/-- Nothing behind the text changes the form of its sigmas, if nothing goes before. -/
def SteadyInFront (cs : List Char) : Prop :=
  ∀ u v, cs = u ++ 'Σ' :: v → nearest? u.reverse = some true → nearest? v ≠ none

/-- The sigmas of a text have the same form by themselves and between others. -/
def Agrees (before cs after : List Char) : Prop :=
  ∀ u v, cs = u ++ 'Σ' :: v →
    endsWord (u.reverse ++ before.reverse) (v ++ after) = endsWord u.reverse v

theorem agrees_iff (before cs after : List Char) :
    Agrees before cs after ↔ lowerAmid before.reverse cs after = lowerChars cs := by
  rw [lowerChars_eq, lowerAmid_eq_iff]
  simp [Agrees]

theorem steady_of_not_mem {cs : List Char} (h : 'Σ' ∉ cs) : Steady cs := by
  rintro u v rfl
  simp at h

theorem Steady.steadyInFront {cs : List Char} (h : Steady cs) : SteadyInFront cs := by
  intro u v heq hbefore hafter
  have := h u v heq
  simp [Settled, hbefore, hafter] at this

theorem endsWord_append_of_settled {u v : List Char}
    (h : Settled (nearest? u) (nearest? v)) (before after : List Char) :
    endsWord (u ++ before) (v ++ after) = endsWord u v := by
  rw [Bool.eq_iff_iff, endsWord_iff, endsWord_iff, nearest?_append, nearest?_append]
  rcases h with h | h | ⟨h, h'⟩ <;> simp [*]

theorem Steady.agrees {cs : List Char} (h : Steady cs) (before after : List Char) :
    Agrees before cs after :=
  fun u v heq => endsWord_append_of_settled (h u v heq) before.reverse after

theorem SteadyInFront.agrees {cs : List Char} (h : SteadyInFront cs) (after : List Char) :
    Agrees [] cs after := by
  intro u v heq
  rw [Bool.eq_iff_iff, endsWord_iff, endsWord_iff, List.reverse_nil, List.append_nil,
    nearest?_append]
  refine and_congr_right fun hbefore => ?_
  cases hafter : nearest? v with
  | none => exact absurd hafter (h u v heq hbefore)
  | some b => simp

/-- Where a sigma is not settled, a letter with case in front or behind changes its form. -/
theorem not_agrees_of_not_steady {cs : List Char} (h : ¬ Steady cs) :
    (∀ x, nearest? [x] = some true → ¬ Agrees [x] cs []) ∨
      ∀ x, nearest? [x] = some true → ¬ Agrees [] cs [x] := by
  simp only [Steady, Settled, not_forall, not_or, not_and] at h
  obtain ⟨u, v, heq, hafter, hbefore, hboth⟩ := h
  cases hu : nearest? u.reverse with
  | none =>
    -- By itself the sigma is not final; behind a letter it is.
    refine .inl fun x hx hagrees => ?_
    have := Bool.eq_iff_iff.mp (hagrees u v heq)
    simp [endsWord_iff, nearest?_append, hu, hx, hafter] at this
  | some b =>
    cases b with
    | false => exact absurd hu hbefore
    | true =>
      -- By itself the sigma is final; before a letter it is not.
      refine .inr fun x hx hagrees => ?_
      have := Bool.eq_iff_iff.mp (hagrees u v heq)
      cases hv : nearest? v with
      | none => simp [endsWord_iff, nearest?_append, hu, hx, hv] at this
      | some b => cases b <;> simp_all

theorem not_agrees_of_not_steadyInFront {cs : List Char} (h : ¬ SteadyInFront cs) {x : Char}
    (hx : nearest? [x] = some true) : ¬ Agrees [] cs [x] := by
  simp only [SteadyInFront, not_forall, not_not] at h
  obtain ⟨u, v, heq, hbefore, hafter⟩ := h
  intro hagrees
  have := Bool.eq_iff_iff.mp (hagrees u v heq)
  simp [endsWord_iff, nearest?_append, hbefore, hafter, hx] at this

/-! ## Finding a text in lower case -/

theorem lowerChars_append_append (before cs after : List Char) :
    lowerChars (before ++ cs ++ after) =
      lowerAmid [] before (cs ++ after) ++ lowerAmid before.reverse cs after ++
        lowerAmid (cs.reverse ++ before.reverse) after [] := by
  simp [lowerChars_eq, lowerAmid_append]

theorem Agrees.infix_lowerChars {before cs after : List Char} (h : Agrees before cs after) :
    lowerChars cs <:+: lowerChars (before ++ cs ++ after) :=
  ⟨_, _, by rw [lowerChars_append_append, (agrees_iff before cs after).mp h]⟩

/-- In front of a text, lower case keeps a part exactly if it keeps the form of its sigmas. -/
theorem prefix_lowerChars_iff (cs after : List Char) :
    lowerChars cs <+: lowerChars (cs ++ after) ↔ Agrees [] cs after := by
  have hsplit := lowerChars_append_append [] cs after
  simp only [List.nil_append, List.reverse_nil, lowerAmid] at hsplit
  rw [agrees_iff, List.reverse_nil, hsplit]
  constructor
  · intro h
    have hlen := length_lowerChars [] cs after
    have hpart := List.prefix_of_prefix_length_le h (List.prefix_append _ _) hlen.le
    exact (hpart.eq_of_length hlen).symm
  · intro h
    rw [h]
    exact List.prefix_append _ _

theorem eq_of_infix_cons {cs ds : List Char} {x : Char} (h : cs <:+: x :: ds)
    (hlen : cs.length = ds.length) (hx : cs.head? ≠ some x) : cs = ds := by
  rcases List.infix_cons_iff.mp h with hprefix | hinfix
  · cases cs with
    | nil => exact (List.eq_nil_of_length_eq_zero hlen.symm).symm
    | cons c cs => exact absurd (congrArg some (List.cons_prefix_cons.mp hprefix).1) hx
  · exact hinfix.eq_of_length hlen

theorem eq_of_infix_concat {cs ds : List Char} {x : Char} (h : cs <:+: ds ++ [x])
    (hlen : cs.length = ds.length) (hx : cs.getLast? ≠ some x) : cs = ds := by
  have hrev : cs.reverse <:+: x :: ds.reverse := by simpa using List.reverse_infix.mpr h
  exact List.reverse_injective (eq_of_infix_cons hrev (by simpa using hlen) (by simpa using hx))

/-- There is a letter with case other than a given character. -/
theorem exists_letter (o : Option Char) :
    ∃ x, o ≠ some x ∧ isBlank x = false ∧ nearest? [x] = some true ∧
      ∀ before after, lowerAt before x after = [x] := by
  by_cases h : o = some 'a'
  · exact ⟨'b', by simp [h], rfl, rfl, fun _ _ => rfl⟩
  · exact ⟨'a', h, rfl, rfl, fun _ _ => rfl⟩

/-- A text that is not steady is lost in lower case between suitable neighbours. -/
theorem exists_lost {cs : List Char} (h : ¬ Steady cs) :
    ∃ before after, (∀ c ∈ before ++ after, isBlank c = false) ∧
      ¬ lowerChars cs <:+: lowerChars (before ++ cs ++ after) := by
  -- The neighbour is no letter of the text's ends, so that the text cannot be found one place further.
  rcases not_agrees_of_not_steady h with hfront | hbehind
  · obtain ⟨x, hx, hblank, hcased, hlower⟩ := exists_letter (lowerChars cs).head?
    refine ⟨[x], [], by simpa using hblank, fun hinfix => hfront x hcased ?_⟩
    rw [lowerChars_append_append] at hinfix
    simp only [lowerAmid, hlower, List.append_nil, List.singleton_append] at hinfix
    exact (agrees_iff _ _ _).mpr
      (eq_of_infix_cons hinfix (length_lowerChars _ cs _) hx).symm
  · obtain ⟨x, hx, hblank, hcased, hlower⟩ := exists_letter (lowerChars cs).getLast?
    refine ⟨[], [x], by simpa using hblank, fun hinfix => hbehind x hcased ?_⟩
    rw [lowerChars_append_append] at hinfix
    simp only [lowerAmid, hlower, List.append_nil, List.nil_append] at hinfix
    exact (agrees_iff _ _ _).mpr
      (eq_of_infix_concat hinfix (length_lowerChars _ cs _) hx).symm

end HookGate.Text
