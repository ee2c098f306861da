import Mathlib
import HookGate.Proofs.Json.Grammar

/-!
# Objects in order

The members of an object that is read from a text stand in the order of their names, each name once,
however they are written.
-/

namespace HookGate.Json

namespace Value

/-- Members that stand in the order of their names. -/
def Sorted (ms : List (String × Value)) : Prop := (ms.map Prod.fst).Pairwise (· < ·)

theorem Sorted.nodup {ms : List (String × Value)} (h : Sorted ms) : (ms.map Prod.fst).Nodup :=
  h.imp ne_of_lt

theorem mem_insert {name : String} {v : Value} {ms : List (String × Value)} {m : String × Value}
    (h : m ∈ insert name v ms) : m = (name, v) ∨ m ∈ ms := by
  induction ms with
  | nil => exact .inl (List.mem_singleton.mp h)
  | cons m' ms ih =>
    obtain ⟨n, w⟩ := m'
    rw [insert] at h
    split at h
    · exact List.mem_cons.mp h
    · split at h
      · exact (List.mem_cons.mp h).imp id (List.mem_cons_of_mem _)
      · rcases List.mem_cons.mp h with rfl | h
        · exact .inr List.mem_cons_self
        · exact (ih h).imp id (List.mem_cons_of_mem _)

theorem sorted_insert {name : String} {v : Value} {ms : List (String × Value)} (h : Sorted ms) :
    Sorted (insert name v ms) := by
  induction ms with
  | nil => exact List.pairwise_singleton _ _
  | cons m ms ih =>
    obtain ⟨n, w⟩ := m
    obtain ⟨hfirst, hrest⟩ := List.pairwise_cons.mp h
    rw [insert]
    split
    · next hlt =>
      refine List.pairwise_cons.mpr ⟨fun k hk => ?_, h⟩
      rcases List.mem_cons.mp hk with rfl | hk
      · exact hlt
      · exact hlt.trans (hfirst k hk)
    · next hnot =>
      split
      · next heq =>
        subst heq
        exact List.pairwise_cons.mpr ⟨hfirst, hrest⟩
      · next hne =>
        refine List.pairwise_cons.mpr ⟨fun k hk => ?_, ih hrest⟩
        obtain ⟨m, hm, rfl⟩ := List.mem_map.mp hk
        rcases mem_insert hm with rfl | hm
        · exact lt_of_le_of_ne (not_lt.mp hnot) (Ne.symm hne)
        · exact hfirst _ (List.mem_map_of_mem hm)

/-- Values in which the members of all objects stand in order. -/
inductive Ordered : Value → Prop
  | null : Ordered .null
  | bool {b} : Ordered (.bool b)
  | number {n} : Ordered (.number n)
  | string {s} : Ordered (.string s)
  | array {vs} (h : ∀ v ∈ vs, Ordered v) : Ordered (.array vs)
  | object {ms} (hsorted : Sorted ms) (h : ∀ m ∈ ms, Ordered m.2) : Ordered (.object ms)

theorem ordered_ofMembers {ms : List (String × Value)} (h : ∀ m ∈ ms, Ordered m.2) :
    Ordered (ofMembers ms) := by
  have hfold {ms seen : List (String × Value)} (hseen : Sorted seen)
      (h : ∀ m ∈ seen ++ ms, Ordered m.2) :
      Ordered (.object (ms.foldl (fun seen m => insert m.1 m.2 seen) seen)) := by
    -- What has been put in is in order, whatever is still to come.
    induction ms generalizing seen with
    | nil => exact .object hseen (by simpa using h)
    | cons m ms ih =>
      refine ih (sorted_insert hseen) fun m' hm' => ?_
      rcases List.mem_append.mp hm' with hm' | hm'
      · rcases mem_insert hm' with rfl | hm'
        · exact h m (by simp)
        · exact h m' (List.mem_append_left _ hm')
      · exact h m' (List.mem_append_right _ (List.mem_cons_of_mem _ hm'))
  exact hfold .nil h

end Value

open Value (Ordered)

theorem Scalar.ordered {c : Char} {cs : List Char} {v : Value} {rest : List Char}
    (h : Scalar c cs v rest) : v.Ordered := by
  cases h with
  | word h => cases h <;> constructor
  | string => exact .string
  | positive => exact .number
  | negative => exact .number

mutual

theorem Written.ordered {n : Nat} {cs : List Char} {v : Value} {rest : List Char} :
    Written n cs v rest → v.Ordered
  | .scalar _ h => h.ordered
  | .array _ _ h => .array h.ordered
  | .object _ _ h => Value.ordered_ofMembers h.ordered
-- An opening bracket takes a level of nesting away, and behind an item fewer are left on its level.
termination_by (n, 0)

theorem WrittenItems.ordered {n : Nat} {first : Bool} {cs : List Char} {vs : List Value}
    {rest : List Char} : WrittenItems n first cs vs rest → ∀ v ∈ vs, v.Ordered
  | .nil _, _, h => nomatch h
  | .cons _ h hrest, v, hv => by
    rcases List.mem_cons.mp hv with rfl | hv
    · exact h.ordered
    · exact hrest.ordered v hv
termination_by (n, vs.length + 1)

theorem WrittenMembers.ordered {n : Nat} {first : Bool} {cs : List Char}
    {ms : List (String × Value)} {rest : List Char} :
    WrittenMembers n first cs ms rest → ∀ m ∈ ms, m.2.Ordered
  | .nil _, _, h => nomatch h
  | .cons _ _ _ _ h hrest, m, hm => by
    rcases List.mem_cons.mp hm with rfl | hm
    · exact h.ordered
    · exact hrest.ordered m hm
termination_by (n, ms.length + 1)

end

end HookGate.Json
