import HookGate.Proofs.Json.Reading

/-!
# Strings that are read

A string is read where the grammar spells one. Behind a backslash the reader looks ahead and then
passes over as many characters as the escape takes.
-/

namespace HookGate.Json.Reader

variable {cs rest : List Char}

/-! ## Escapes -/

theorem hexValue?_lt {c : Char} {n : Nat} (h : hexValue? c = some n) : n < 16 := by
  simp only [hexValue?, Char.le_def, UInt32.le_iff_toNat_le] at h
  have hnine : ('9' : Char).val.toNat = 57 := rfl
  have hf : ('f' : Char).val.toNat = 102 := rfl
  have hF : ('F' : Char).val.toNat = 70 := rfl
  have htoNat : c.toNat = c.val.toNat := rfl
  split at h
  · simp only [Option.some.injEq] at h
    omega
  · split at h
    · simp only [Option.some.injEq] at h
      omega
    · split at h
      · simp only [Option.some.injEq] at h
        omega
      · contradiction

theorem hexValue4?_lt {a b c d : Char} {n : Nat} (h : hexValue4? a b c d = some n) :
    n < 0x10000 := by
  simp only [hexValue4?, Option.pure_def, Option.bind_eq_bind, Option.bind_eq_some_iff,
    Option.some.injEq] at h
  obtain ⟨p, hp, q, hq, r, hr, s, hs, rfl⟩ := h
  have := hexValue?_lt hp
  have := hexValue?_lt hq
  have := hexValue?_lt hr
  have := hexValue?_lt hs
  omega

theorem hexEscape_eq_ok {n : Nat} :
    hexEscape cs = .ok (n, rest) ↔
      ∃ a b c d, cs = a :: b :: c :: d :: rest ∧ hexValue4? a b c d = some n := by
  match cs with
  | a :: b :: c :: d :: cs =>
    cases h : hexValue4? a b c d <;> simp [hexEscape, h, and_comm]
  | [] => simp [hexEscape]
  | [_] => simp [hexEscape]
  | [_, _] => simp [hexEscape]
  | [_, _, _] => simp [hexEscape]

theorem pairMark_eq_ok {c : Char} : pairMark c cs = .ok ((), rest) ↔ cs = c :: rest := by
  cases cs with
  | nil => simp [pairMark]
  | cons x cs => by_cases h : x = c <;> simp [pairMark, h]

/-- An escape with digits is not one of a single character. -/
theorem simpleEscape?_u : simpleEscape? 'u' = none := rfl

theorem unicodeEscape_eq_ok {x : Char} :
    unicodeEscape cs = .ok (x, rest) ↔ Escape ('u' :: cs) x rest := by
  constructor
  · intro h
    rw [unicodeEscape, bind_eq_ok] at h
    obtain ⟨n, mid, hdigits, h⟩ := h
    obtain ⟨a, b, c, d, rfl, hn⟩ := hexEscape_eq_ok.mp hdigits
    cases htrail : isTrail n with
    | true => simp [htrail] at h
    | false =>
      cases hlead : isLead n with
      | false =>
        simp only [htrail, hlead, Bool.false_eq_true, if_false, pure_eq_ok] at h
        obtain ⟨rfl, rfl⟩ := h
        exact .unit hn hlead htrail
      | true =>
        simp only [htrail, hlead, Bool.false_eq_true, if_false, if_true, bind_eq_ok] at h
        obtain ⟨_, _, hback, _, _, hu, m, mid', hdigits', h⟩ := h
        obtain rfl := pairMark_eq_ok.mp hback
        obtain rfl := pairMark_eq_ok.mp hu
        obtain ⟨a', b', c', d', rfl, hm⟩ := hexEscape_eq_ok.mp hdigits'
        cases htrail' : isTrail m with
        | false => simp [htrail'] at h
        | true =>
          simp only [htrail', if_true, pure_eq_ok] at h
          obtain ⟨rfl, rfl⟩ := h
          exact .pair hn hlead hm htrail'
  · intro h
    rw [unicodeEscape, bind_eq_ok]
    cases h with
    | short h => simp [simpleEscape?_u] at h
    | unit h hlead htrail =>
      refine ⟨_, _, hexEscape_eq_ok.mpr ⟨_, _, _, _, rfl, h⟩, ?_⟩
      simp [hlead, htrail]
    | @pair a b c d n a' b' c' d' m _ hn hlead hm htrail =>
      refine ⟨_, _, hexEscape_eq_ok.mpr ⟨_, _, _, _, rfl, hn⟩, ?_⟩
      -- The two halves of a pair come from ranges that do not meet.
      have hnot : isTrail n = false := by
        simp only [isLead, isTrail, Bool.and_eq_true, decide_eq_true_eq, Bool.and_eq_false_iff,
          decide_eq_false_iff_not] at hlead ⊢
        omega
      simp only [hnot, hlead, Bool.false_eq_true, if_false, if_true, bind_eq_ok]
      refine ⟨(), _, pairMark_eq_ok.mpr rfl, (), _, pairMark_eq_ok.mpr rfl, _, _,
        hexEscape_eq_ok.mpr ⟨_, _, _, _, rfl, hm⟩, ?_⟩
      simp [htrail]

/-- A character with an escape of one unit is in the first plane, one with a pair is not. -/
private theorem escape_width {x : Char} (h : Escape ('u' :: cs) x rest) :
    ∃ front, cs = front ++ rest ∧ front.length + 1 = if x.toNat < 0x10000 then 5 else 11 := by
  cases h with
  | short h => simp [simpleEscape?_u] at h
  | @unit a b c d n _ h hlead htrail =>
    have hlt : (Char.ofNat n).toNat < 0x10000 := by
      have hn := hexValue4?_lt h
      rw [Char.toNat_ofNat]
      split <;> omega
    exact ⟨[a, b, c, d], rfl, by rw [if_pos hlt]; rfl⟩
  | @pair a b c d n a' b' c' d' m _ hn hlead hm htrail =>
    simp only [isLead, isTrail, Bool.and_eq_true, decide_eq_true_eq] at hlead htrail
    have hge : ¬ (Char.ofNat ((n - 0xD800) * 0x400 + (m - 0xDC00) + 0x10000)).toNat < 0x10000 := by
      rw [Char.toNat_ofNat, if_pos (.inr ⟨by omega, by omega⟩)]
      omega
    exact ⟨[a, b, c, d, '\\', 'u', a', b', c', d'], rfl, by rw [if_neg hge]; rfl⟩

theorem escape_eq_ok {x : Char} {width : Nat} :
    escape cs = .ok (x, width) ↔
      ∃ front rest, cs = front ++ rest ∧ front.length = width ∧ Escape cs x rest := by
  cases cs with
  | nil =>
    constructor
    · intro h
      cases h
    · rintro ⟨front, rest, -, -, h⟩
      cases h
  | cons c cs =>
    by_cases hu : c = 'u'
    · subst hu
      have hread : escape ('u' :: cs) = (unicodeEscape cs).bind fun found =>
          .ok (found.1, if found.1.toNat < 0x10000 then 5 else 11) := rfl
      rw [hread]
      constructor
      · intro h
        cases hfound : unicodeEscape cs with
        | error e => rw [hfound] at h; cases h
        | ok found =>
          obtain ⟨y, rest⟩ := found
          rw [hfound, Except.bind, Except.ok.injEq, Prod.mk.injEq] at h
          obtain ⟨rfl, rfl⟩ := h
          have hescape := unicodeEscape_eq_ok.mp hfound
          obtain ⟨front, rfl, hlen⟩ := escape_width hescape
          exact ⟨'u' :: front, rest, rfl, hlen, hescape⟩
      · rintro ⟨front, rest, heq, rfl, hescape⟩
        obtain ⟨front', rfl, hlen⟩ := escape_width hescape
        rw [unicodeEscape_eq_ok.mpr hescape, Except.bind, ← hlen]
        have hfront : 'u' :: front' = front := List.append_cancel_right heq
        rw [← hfront, List.length_cons]
    · have hread : escape (c :: cs) =
          (simpleEscape? c).elim (.error .invalidEscape) fun x => .ok (x, 1) := by
        rw [escape, if_neg hu]
        cases simpleEscape? c <;> rfl
      rw [hread]
      constructor
      · intro h
        cases hc : simpleEscape? c with
        | none => simp [hc] at h
        | some y =>
          simp only [hc, Option.elim_some, Except.ok.injEq, Prod.mk.injEq] at h
          obtain ⟨rfl, rfl⟩ := h
          exact ⟨[c], cs, rfl, rfl, .short hc⟩
      · rintro ⟨front, rest, heq, rfl, hescape⟩
        cases hescape with
        | short hc =>
          have hfront : [c] = front := List.append_cancel_right heq
          simp [hc, ← hfront]
        | unit | pair => contradiction

/-! ## Strings -/

theorem stringBody_skip (seen front cs : List Char) :
    stringBody front.length seen (front ++ cs) = stringBody 0 seen cs := by
  induction front with
  | nil => rfl
  | cons c front ih => rw [List.length_cons, List.cons_append, stringBody, ih]

theorem spelled_of_stringBody {seen : List Char} {s : String}
    (h : stringBody 0 seen cs = .ok (s, rest)) :
    ∃ t, Spelled cs t rest ∧ s = String.ofList (seen.reverse ++ t) := by
  -- An escape takes several characters off, so the induction is on the length.
  induction hlen : cs.length using Nat.strong_induction_on generalizing cs seen with
  | _ n ih =>
    cases cs with
    | nil => cases h
    | cons c cs =>
      rw [List.length_cons] at hlen
      rw [stringBody] at h
      split at h
      · next hquote =>
        simp only [Except.ok.injEq, Prod.mk.injEq] at h
        obtain ⟨rfl, rfl⟩ := h
        subst hquote
        exact ⟨[], .close, by simp⟩
      · next hquote =>
        split at h
        · next hback =>
          subst hback
          obtain ⟨⟨x, width⟩, hx, h⟩ : ∃ found, escape cs = .ok found ∧
              stringBody found.2 (found.1 :: seen) cs = .ok (s, rest) := by
            cases hx : escape cs with
            | error e => rw [hx] at h; cases h
            | ok found => exact ⟨found, rfl, by rw [hx] at h; exact h⟩
          obtain ⟨front, mid, rfl, rfl, hescape⟩ := escape_eq_ok.mp hx
          rw [stringBody_skip] at h
          have hshort : mid.length < n := by
            rw [List.length_append] at hlen
            omega
          obtain ⟨t, ht, rfl⟩ := ih mid.length hshort h rfl
          exact ⟨x :: t, .escape hescape ht, by simp⟩
        · next hback =>
          split at h
          · cases h
          · next hcontrol =>
            obtain ⟨t, ht, rfl⟩ := ih cs.length (by omega) h rfl
            exact ⟨c :: t, .bare ⟨hquote, hback, by omega⟩ ht, by simp⟩

theorem stringBody_of_spelled {t : List Char} (h : Spelled cs t rest) (seen : List Char) :
    stringBody 0 seen cs = .ok (String.ofList (seen.reverse ++ t), rest) := by
  induction h generalizing seen with
  | close => simp [stringBody]
  | @bare c cs t rest hc _ ih =>
    obtain ⟨hquote, hback, hcontrol⟩ := hc
    rw [stringBody, if_neg hquote, if_neg hback, if_neg (by omega), ih]
    simp
  | @escape cs c mid t rest hescape _ ih =>
    obtain ⟨front, rfl⟩ := hescape.suffix
    have hx : escape (front ++ mid) = .ok (c, front.length) :=
      escape_eq_ok.mpr ⟨front, mid, rfl, rfl, hescape⟩
    have hread : stringBody 0 seen ('\\' :: (front ++ mid)) = (escape (front ++ mid)).bind fun found =>
        stringBody found.2 (found.1 :: seen) (front ++ mid) := rfl
    rw [hread, hx, Except.bind, stringBody_skip, ih]
    simp

theorem stringRest_eq_ok {s : String} :
    stringRest cs = .ok (s, rest) ↔ ∃ t, Spelled cs t rest ∧ s = String.ofList t := by
  constructor
  · exact spelled_of_stringBody
  · rintro ⟨t, h, rfl⟩
    exact stringBody_of_spelled h []

/-! ## Strings that are passed over -/

theorem escapeWidth_eq_ok {width : Nat} :
    escapeWidth cs = .ok width ↔
      ∃ front rest, cs = front ++ rest ∧ front.length = width ∧ LooseEscape cs rest := by
  cases cs with
  | nil =>
    constructor
    · intro h
      cases h
    · rintro ⟨front, rest, -, -, h⟩
      cases h
  | cons c cs =>
    by_cases hu : c = 'u'
    · subst hu
      have hread : escapeWidth ('u' :: cs) = (hexEscape cs).bind fun _ => .ok 5 := rfl
      rw [hread]
      constructor
      · intro h
        cases hfound : hexEscape cs with
        | error e => rw [hfound] at h; cases h
        | ok found =>
          obtain ⟨n, rest⟩ := found
          rw [hfound, Except.bind, Except.ok.injEq] at h
          subst h
          obtain ⟨a, b, c, d, rfl, hn⟩ := hexEscape_eq_ok.mp hfound
          exact ⟨['u', a, b, c, d], rest, rfl, rfl, .unit (by simp [hn])⟩
      · rintro ⟨front, rest, heq, rfl, hescape⟩
        cases hescape with
        | short h => simp [simpleEscape?_u] at h
        | @unit a b c d _ h =>
          obtain ⟨n, hn⟩ := Option.isSome_iff_exists.mp h
          have hfront : ['u', a, b, c, d] = front := List.append_cancel_right heq
          rw [hexEscape_eq_ok.mpr ⟨a, b, c, d, rfl, hn⟩, Except.bind, ← hfront]
          rfl
    · constructor
      · intro h
        cases hc : (simpleEscape? c).isSome with
        | false => simp [escapeWidth, hu, hc] at h
        | true =>
          simp only [escapeWidth, hu, hc, if_false, if_true, Except.ok.injEq] at h
          exact ⟨[c], cs, rfl, h, .short hc⟩
      · rintro ⟨front, rest, heq, rfl, hescape⟩
        cases hescape with
        | short hc =>
          have hfront : [c] = front := List.append_cancel_right heq
          simp [escapeWidth, hu, hc, ← hfront]
        | unit => contradiction

theorem skipStringBody_skip (front cs : List Char) :
    skipStringBody front.length (front ++ cs) = skipStringBody 0 cs := by
  induction front with
  | nil => rfl
  | cons c front ih => rw [List.length_cons, List.cons_append, skipStringBody, ih]

theorem looselySpelled_of_skipStringRest (h : skipStringRest cs = .ok ((), rest)) :
    LooselySpelled cs rest := by
  rw [skipStringRest] at h
  induction hlen : cs.length using Nat.strong_induction_on generalizing cs with
  | _ n ih =>
    cases cs with
    | nil => cases h
    | cons c cs =>
      rw [List.length_cons] at hlen
      rw [skipStringBody] at h
      split at h
      · next hquote =>
        simp only [Except.ok.injEq, Prod.mk.injEq, true_and] at h
        subst h hquote
        exact .close
      · next hquote =>
        split at h
        · next hback =>
          subst hback
          obtain ⟨width, hwidth, h⟩ : ∃ width, escapeWidth cs = .ok width ∧
              skipStringBody width cs = .ok ((), rest) := by
            cases hwidth : escapeWidth cs with
            | error e => rw [hwidth] at h; cases h
            | ok width => exact ⟨width, rfl, by rw [hwidth] at h; exact h⟩
          obtain ⟨front, mid, rfl, rfl, hescape⟩ := escapeWidth_eq_ok.mp hwidth
          rw [skipStringBody_skip] at h
          rw [List.length_append] at hlen
          exact .escape hescape (ih mid.length (by omega) h rfl)
        · next hback =>
          split at h
          · cases h
          · next hcontrol =>
            exact .bare ⟨hquote, hback, by omega⟩ (ih cs.length (by omega) h rfl)

theorem skipStringRest_of_looselySpelled (h : LooselySpelled cs rest) :
    skipStringRest cs = .ok ((), rest) := by
  rw [skipStringRest]
  induction h with
  | close => simp [skipStringBody]
  | bare hc _ ih =>
    obtain ⟨hquote, hback, hcontrol⟩ := hc
    rw [skipStringBody, if_neg hquote, if_neg hback, if_neg (by omega), ih]
  | @escape cs mid rest hescape _ ih =>
    obtain ⟨front, rfl⟩ := hescape.suffix
    have hwidth : escapeWidth (front ++ mid) = .ok front.length :=
      escapeWidth_eq_ok.mpr ⟨front, mid, rfl, rfl, hescape⟩
    have hread : skipStringBody 0 ('\\' :: (front ++ mid)) =
        (escapeWidth (front ++ mid)).bind fun width => skipStringBody width (front ++ mid) := rfl
    rw [hread, hwidth, Except.bind, skipStringBody_skip, ih]

theorem skipStringRest_eq_ok : skipStringRest cs = .ok ((), rest) ↔ LooselySpelled cs rest :=
  ⟨looselySpelled_of_skipStringRest, skipStringRest_of_looselySpelled⟩

end HookGate.Json.Reader
