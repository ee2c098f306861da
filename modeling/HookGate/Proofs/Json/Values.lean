import Mathlib
import HookGate.Proofs.Json.Spelling
import HookGate.Proofs.Json.Numerals

/-!
# Values that are read

The reader of values accepts the beginning of a text exactly where a value is written, and leaves
what stands behind it.
-/

namespace HookGate.Json.Reader

variable {cs rest : List Char}

/-! ## Words, numbers and strings -/

theorem scalar_of_scalar? {c : Char} {v : Value} (h : scalar? c (c :: cs) = .ok (some v, rest)) :
    Scalar c cs v rest := by
  rw [scalar?] at h
  split at h
  · next hc =>
    subst hc
    simp only [advance_bind, ident_bind_eq_ok, pure_eq_ok, Option.some.injEq] at h
    obtain ⟨_, rfl, rfl, rfl⟩ := h
    exact .word .null
  split at h
  · next hc =>
    subst hc
    simp only [advance_bind, ident_bind_eq_ok, pure_eq_ok, Option.some.injEq] at h
    obtain ⟨_, rfl, rfl, rfl⟩ := h
    exact .word .yes
  split at h
  · next hc =>
    subst hc
    simp only [advance_bind, ident_bind_eq_ok, pure_eq_ok, Option.some.injEq] at h
    obtain ⟨_, rfl, rfl, rfl⟩ := h
    exact .word .no
  split at h
  · next hc =>
    subst hc
    simp only [advance_bind, bind_eq_ok, pure_eq_ok, Option.some.injEq] at h
    obtain ⟨n, _, hnumber, rfl, rfl⟩ := h
    exact .negative (numeral_of_number hnumber) hnumber
  split at h
  · next hc =>
    simp only [bind_eq_ok, pure_eq_ok, Option.some.injEq] at h
    obtain ⟨n, _, hnumber, rfl, rfl⟩ := h
    exact .positive hc (numeral_of_number hnumber) hnumber
  split at h
  · next hc =>
    subst hc
    simp only [advance_bind, bind_eq_ok, stringRest_eq_ok, pure_eq_ok, Option.some.injEq] at h
    obtain ⟨_, _, ⟨t, hspelled, rfl⟩, rfl, rfl⟩ := h
    exact .string hspelled
  · simp at h

theorem scalar?_of_scalar {c : Char} {v : Value} (h : Scalar c cs v rest) :
    scalar? c (c :: cs) = .ok (some v, rest) := by
  cases h with
  | word h => cases h <;> rfl
  | string h =>
    have hread : scalar? '"' ('"' :: cs) =
      (stringRest >>= fun s => pure (some (.string s)) : Reader (Option Value)) cs := rfl
    rw [hread, bind_eq_ok]
    exact ⟨_, rest, stringRest_eq_ok.mpr ⟨_, h, rfl⟩, rfl⟩
  | positive hc _ hrange =>
    obtain ⟨hn, ht, hf, hminus⟩ := ne_of_isDigit hc
    rw [scalar?, if_neg hn, if_neg ht, if_neg hf, if_neg hminus, if_pos hc, bind_eq_ok]
    exact ⟨_, rest, hrange, rfl⟩
  | negative _ hrange =>
    have hread : scalar? '-' ('-' :: cs) =
      (number false >>= fun n => pure (some (.number n)) : Reader (Option Value)) cs := rfl
    rw [hread, bind_eq_ok]
    exact ⟨_, rest, hrange, rfl⟩

theorem scalar?_none {c : Char} (h : scalar? c cs = .ok (none, rest)) : rest = cs := by
  rw [scalar?] at h
  repeat' split at h
  all_goals
    simp only [bind_eq_ok, pure_eq_ok, reduceCtorEq, false_and, and_false, exists_false, true_and] at h
  exact h.symm

theorem valueWith_dropWhile (fuel n : Nat) (cs : List Char) :
    valueWith fuel n (cs.dropWhile isSpace) = valueWith fuel n cs := by
  cases fuel with
  | zero => rfl
  | succ fuel =>
    rw [valueWith, peekToken_bind, peekToken_bind, dropWhile_dropWhile_isSpace]

/-! ## What is read is written -/

mutual

theorem written_of_valueWith : ∀ {fuel n : Nat} {cs : List Char} {v : Value} {rest : List Char},
    valueWith fuel n cs = .ok (v, rest) → Written n cs v rest
  | 0, _, _, _, _, h => nomatch h
  | fuel + 1, n, cs, v, rest, h => by
    rw [valueWith, peekToken_bind] at h
    cases hcs : cs.dropWhile isSpace with
    | nil => simp [hcs] at h
    | cons c r =>
      simp only [hcs, List.head?_cons] at h
      obtain ⟨found, mid, hscalar, h⟩ := bind_eq_ok.mp h
      cases found with
      | some w =>
        obtain ⟨rfl, rfl⟩ := pure_eq_ok.mp h
        exact .scalar hcs (scalar_of_scalar? hscalar)
      | none =>
        -- Neither word, number nor string: what is left are lists and objects.
        obtain rfl := scalar?_none hscalar
        dsimp only at h
        split at h
        · next hc =>
          subst hc
          obtain ⟨depth, mid, henter, h⟩ := bind_eq_ok.mp h
          obtain ⟨hdepth, rfl, rfl⟩ := enter_eq_ok.mp henter
          rw [advance_bind] at h
          obtain ⟨vs, mid, hitems, h⟩ := bind_eq_ok.mp h
          obtain ⟨_, _, hend, h⟩ := bind_eq_ok.mp h
          obtain ⟨rfl, rfl⟩ := pure_eq_ok.mp h
          exact .array hdepth hcs (writtenItems_of_itemsWith hitems (listEnd_eq_ok.mp hend))
        split at h
        · next hc =>
          subst hc
          obtain ⟨depth, mid, henter, h⟩ := bind_eq_ok.mp h
          obtain ⟨hdepth, rfl, rfl⟩ := enter_eq_ok.mp henter
          rw [advance_bind] at h
          obtain ⟨out, mid, hmembers, h⟩ := bind_eq_ok.mp h
          obtain ⟨_, _, hend, h⟩ := bind_eq_ok.mp h
          obtain ⟨rfl, rfl⟩ := pure_eq_ok.mp h
          obtain ⟨ms, hms, rfl⟩ :=
            writtenMembers_of_membersWith hmembers (objectEnd_eq_ok.mp hend)
          exact .object hdepth hcs hms
        · exact absurd h fail_ne_ok

theorem writtenItems_of_itemsWith : ∀ {fuel n : Nat} {first : Bool} {cs : List Char}
    {vs : List Value} {mid rest : List Char}, itemsWith fuel n first cs = .ok (vs, mid) →
      Next ']' mid rest → WrittenItems n first cs vs rest
  | 0, _, _, _, _, _, _, h, _ => nomatch h
  | fuel + 1, n, first, cs, vs, mid, rest, h, hend => by
    rw [itemsWith] at h
    obtain ⟨more, cs₁, hmore, h⟩ := bind_eq_ok.mp h
    cases more with
    | false =>
      obtain ⟨rfl, rfl⟩ := pure_eq_ok.mp h
      obtain ⟨r, hnext, rfl⟩ := moreItems_false_eq_ok.mp hmore
      obtain rfl := rest_eq_of_next rfl hend
      exact .nil hnext
    | true =>
      obtain ⟨cs', c, r, hfirst, hnext, -, rfl⟩ := moreItems_true_eq_ok.mp hmore
      obtain ⟨v, cs₂, hv, h⟩ := bind_eq_ok.mp h
      obtain ⟨ws, cs₃, hws, h⟩ := bind_eq_ok.mp h
      obtain ⟨rfl, rfl⟩ := pure_eq_ok.mp h
      rw [← hnext, valueWith_dropWhile] at hv
      exact .cons hfirst (written_of_valueWith hv) (writtenItems_of_itemsWith hws hend)

theorem writtenMembers_of_membersWith : ∀ {fuel n : Nat} {first : Bool}
    {seen out : List (String × Value)} {cs mid rest : List Char},
      membersWith fuel n first seen cs = .ok (out, mid) → Next '\x7d' mid rest →
        ∃ ms, WrittenMembers n first cs ms rest ∧
          out = ms.foldl (fun seen m => Value.insert m.1 m.2 seen) seen
  | 0, _, _, _, _, _, _, _, h, _ => nomatch h
  | fuel + 1, n, first, seen, out, cs, mid, rest, h, hend => by
    rw [membersWith] at h
    obtain ⟨more, cs₁, hmore, h⟩ := bind_eq_ok.mp h
    cases more with
    | false =>
      obtain ⟨rfl, rfl⟩ := pure_eq_ok.mp h
      obtain ⟨r, hnext, rfl⟩ := moreMembers_false_eq_ok.mp hmore
      obtain rfl := rest_eq_of_next rfl hend
      exact ⟨[], .nil hnext, rfl⟩
    | true =>
      obtain ⟨cs', r, hfirst, hquote, rfl⟩ := moreMembers_true_eq_ok.mp hmore
      rw [if_pos rfl, advance_bind] at h
      obtain ⟨name, cs₂, hname, h⟩ := bind_eq_ok.mp h
      obtain ⟨t, hspelled, rfl⟩ := stringRest_eq_ok.mp hname
      obtain ⟨_, cs₃, hcolon, h⟩ := bind_eq_ok.mp h
      obtain ⟨v, cs₄, hv, h⟩ := bind_eq_ok.mp h
      obtain ⟨ms, hms, rfl⟩ := writtenMembers_of_membersWith h hend
      exact ⟨_, .cons hfirst hquote hspelled (colon_eq_ok.mp hcolon) (written_of_valueWith hv) hms,
        rfl⟩

end

/-! ## What is written is read -/

-- A value takes a unit of fuel and each of its items or members another one. Every value has a
-- character of its own, so twice the length of the text is enough.

mutual

theorem valueWith_of_written {n : Nat} {cs : List Char} {v : Value} {rest : List Char} :
    Written n cs v rest → ∀ {fuel : Nat}, 2 * cs.length + 1 ≤ fuel →
      valueWith fuel n cs = .ok (v, rest)
  | .scalar hnext h, fuel, hfuel => by
    obtain ⟨fuel, rfl⟩ := Nat.exists_eq_add_one.mpr (show 0 < fuel by omega)
    rw [valueWith, peekToken_bind, hnext]
    exact bind_eq_ok.mpr ⟨_, _, scalar?_of_scalar h, rfl⟩
  | .array hn hnext h, fuel, hfuel => by
    have hlen := hnext.length_lt
    obtain ⟨fuel, rfl⟩ := Nat.exists_eq_add_one.mpr (show 0 < fuel by omega)
    rw [valueWith, peekToken_bind, hnext]
    refine bind_eq_ok.mpr ⟨none, _, rfl, ?_⟩
    refine bind_eq_ok.mpr ⟨_, _, enter_eq_ok.mpr ⟨hn, rfl, rfl⟩, ?_⟩
    rw [advance_bind]
    refine bind_eq_ok.mpr ⟨_, _, itemsWith_of_written h (show _ ≤ fuel by omega), ?_⟩
    exact bind_eq_ok.mpr ⟨(), rest, listEnd_eq_ok.mpr (next_cons rfl), rfl⟩
  | .object hn hnext h, fuel, hfuel => by
    have hlen := hnext.length_lt
    obtain ⟨fuel, rfl⟩ := Nat.exists_eq_add_one.mpr (show 0 < fuel by omega)
    rw [valueWith, peekToken_bind, hnext]
    refine bind_eq_ok.mpr ⟨none, _, rfl, ?_⟩
    refine bind_eq_ok.mpr ⟨_, _, enter_eq_ok.mpr ⟨hn, rfl, rfl⟩, ?_⟩
    rw [advance_bind]
    refine bind_eq_ok.mpr ⟨_, _, membersWith_of_written h [] (show _ ≤ fuel by omega), ?_⟩
    exact bind_eq_ok.mpr ⟨(), rest, objectEnd_eq_ok.mpr (next_cons rfl), rfl⟩

theorem itemsWith_of_written {n : Nat} {first : Bool} {cs : List Char} {vs : List Value}
    {rest : List Char} : WrittenItems n first cs vs rest → ∀ {fuel : Nat},
      2 * cs.length + 2 ≤ fuel → itemsWith fuel n first cs = .ok (vs, ']' :: rest)
  | .nil hnext, fuel, hfuel => by
    obtain ⟨fuel, rfl⟩ := Nat.exists_eq_add_one.mpr (show 0 < fuel by omega)
    exact bind_eq_ok.mpr ⟨false, _, moreItems_false_eq_ok.mpr ⟨_, hnext, rfl⟩, rfl⟩
  | .cons hfirst h hrest, fuel, hfuel => by
    have hlen := hfirst.length_le
    have hlen' := h.length_lt
    obtain ⟨fuel, rfl⟩ := Nat.exists_eq_add_one.mpr (show 0 < fuel by omega)
    obtain ⟨c, r, hnext, hc⟩ := h.next
    refine bind_eq_ok.mpr ⟨true, _, moreItems_true_eq_ok.mpr ⟨_, c, r, hfirst, hnext, hc, rfl⟩, ?_⟩
    rw [← hnext, if_pos rfl]
    have hvalue := (valueWith_dropWhile fuel n _).trans
      (valueWith_of_written h (show _ ≤ fuel by omega))
    refine bind_eq_ok.mpr ⟨_, _, hvalue, ?_⟩
    exact bind_eq_ok.mpr ⟨_, _, itemsWith_of_written hrest (show _ ≤ fuel by omega), rfl⟩

theorem membersWith_of_written {n : Nat} {first : Bool} {cs : List Char}
    {ms : List (String × Value)} {rest : List Char} : WrittenMembers n first cs ms rest →
      ∀ (seen : List (String × Value)) {fuel : Nat}, 2 * cs.length + 2 ≤ fuel →
        membersWith fuel n first seen cs =
          .ok (ms.foldl (fun seen m => Value.insert m.1 m.2 seen) seen, '\x7d' :: rest)
  | .nil hnext, seen, fuel, hfuel => by
    obtain ⟨fuel, rfl⟩ := Nat.exists_eq_add_one.mpr (show 0 < fuel by omega)
    exact bind_eq_ok.mpr ⟨false, _, moreMembers_false_eq_ok.mpr ⟨_, hnext, rfl⟩, rfl⟩
  | .cons hfirst hquote hname hcolon h hrest, seen, fuel, hfuel => by
    have hlen := hfirst.length_le
    have hlen' := (hcolon.length_lt.trans hname.length_lt).trans hquote.length_lt
    have hlen'' := h.length_lt
    obtain ⟨fuel, rfl⟩ := Nat.exists_eq_add_one.mpr (show 0 < fuel by omega)
    refine bind_eq_ok.mpr ⟨true, _, moreMembers_true_eq_ok.mpr ⟨_, _, hfirst, hquote, rfl⟩, ?_⟩
    rw [if_pos rfl, advance_bind]
    refine bind_eq_ok.mpr ⟨_, _, stringRest_eq_ok.mpr ⟨_, hname, rfl⟩, ?_⟩
    refine bind_eq_ok.mpr ⟨(), _, colon_eq_ok.mpr hcolon, ?_⟩
    refine bind_eq_ok.mpr ⟨_, _, valueWith_of_written h (show _ ≤ fuel by omega), ?_⟩
    exact membersWith_of_written hrest _ (show _ ≤ fuel by omega)

end

/-- A value is read exactly where one is written. -/
theorem value_eq_ok {n : Nat} {v : Value} : value n cs = .ok (v, rest) ↔ Written n cs v rest :=
  ⟨written_of_valueWith, fun h => valueWith_of_written h (by rw [fuelFor]; omega)⟩

end HookGate.Json.Reader
