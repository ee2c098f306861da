import HookGate.Proofs.Text.Words

/-!
# Replacing parts of a text

Two parts can be replaced at once, or one after the other. The second way looks at what the first part
was replaced by as well, and this may make up a second part together with what stands around it. There
are parts that cannot come about so, and for them both ways are the same.
-/

namespace HookGate.Text

/-! ## One part -/

section

variable {part new cs : List Char}

theorem replaceFrom_eq (skip : Nat) (cs : List Char) :
    replaceFrom part new skip cs = replaceAll part new (cs.drop skip) := by
  induction skip generalizing cs with
  | zero => rfl
  | succ skip ih =>
    cases cs with
    | nil => rfl
    | cons c cs => exact ih cs

theorem replaceAll_hit (hne : part ≠ []) (cs : List Char) :
    replaceAll part new (part ++ cs) = new ++ replaceAll part new cs := by
  obtain ⟨x, xs, rfl⟩ := List.exists_cons_of_ne_nil hne
  have hstart : (x :: xs).isPrefixOf (x :: (xs ++ cs)) = true :=
    List.isPrefixOf_iff_prefix.mpr (List.prefix_append (x :: xs) cs)
  rw [replaceAll, List.cons_append, replaceFrom, if_pos hstart, replaceFrom_eq]
  simp

theorem replaceAll_keep {c : Char} (h : ¬ part <+: c :: cs) :
    replaceAll part new (c :: cs) = c :: replaceAll part new cs := by
  rw [replaceAll, replaceFrom, if_neg (mt List.isPrefixOf_iff_prefix.mp h), replaceAll]

theorem replaceAll_append {x : Char} {xs before : List Char} (h : x ∉ before) (cs : List Char) :
    replaceAll (x :: xs) new (before ++ cs) = before ++ replaceAll (x :: xs) new cs := by
  induction before with
  | nil => rfl
  | cons c before ih =>
    obtain ⟨hc, hbefore⟩ := not_or.mp (mt List.mem_cons.mpr h)
    have hnot : ¬ x :: xs <+: c :: (before ++ cs) := fun hstart => hc (List.cons_prefix_cons.mp hstart).1
    rw [List.cons_append, replaceAll_keep hnot, ih hbefore, List.cons_append]

/-- A text in which nothing looks like the beginning of what was put in stood there before. -/
theorem prefix_of_prefix_replaceAll {y : Char} {ys front : List Char} (hy : y ∉ front) (hne : part ≠ [])
    (h : front <+: replaceAll part (y :: ys) cs) : front <+: cs := by
  induction front generalizing cs with
  | nil => exact List.nil_prefix
  | cons a front ih =>
    obtain ⟨hya, hfront⟩ := not_or.mp (mt List.mem_cons.mpr hy)
    cases cs with
    | nil => exact absurd (List.prefix_nil.mp h) (List.cons_ne_nil _ _)
    | cons c cs =>
      by_cases hpart : part <+: c :: cs
      · obtain ⟨rest, hrest⟩ := hpart
        rw [← hrest, replaceAll_hit hne] at h
        exact absurd (List.cons_prefix_cons.mp h).1 (Ne.symm hya)
      · rw [replaceAll_keep hpart] at h
        obtain ⟨rfl, hrest⟩ := List.cons_prefix_cons.mp h
        exact List.cons_prefix_cons.mpr ⟨rfl, ih hfront hrest⟩

end

/-! ## Several parts at once -/

/-- A text is read once from left to right. Where one of the parts stands, it is replaced and reading
goes on behind it; every other character is kept. -/
inductive Replaced (parts : List (List Char)) (new : List Char) : List Char → List Char → Prop
  | nil : Replaced parts new [] []
  | part {part cs out : List Char} (hpart : part ∈ parts) (h : Replaced parts new cs out) :
      Replaced parts new (part ++ cs) (new ++ out)
  | keep {c : Char} {cs out : List Char} (hno : ∀ part ∈ parts, ¬ part <+: c :: cs)
      (h : Replaced parts new cs out) : Replaced parts new (c :: cs) (c :: out)

/-- Of parts that are no beginnings of each other, at most one stands at each place. -/
theorem Replaced.unique {parts : List (List Char)} {new cs out out' : List Char} (hne : [] ∉ parts)
    (hapart : ∀ part ∈ parts, ∀ other ∈ parts, part <+: other → part = other)
    (h : Replaced parts new cs out) (h' : Replaced parts new cs out') : out = out' := by
  induction h generalizing out' with
  | nil =>
    generalize hcs : ([] : List Char) = ds at h'
    cases h' with
    | nil => rfl
    | part hpart =>
      obtain ⟨rfl, -⟩ := List.append_eq_nil_iff.mp hcs.symm
      exact absurd hpart hne
    | keep => contradiction
  | @part part cs out hpart _ ih =>
    generalize hcs : part ++ cs = ds at h'
    cases h' with
    | nil =>
      obtain ⟨rfl, -⟩ := List.append_eq_nil_iff.mp hcs
      exact absurd hpart hne
    | @part other cs' out' hother h' =>
      have hsame : part = other := by
        rcases List.prefix_or_prefix_of_prefix (List.prefix_append part cs)
            (hcs ▸ List.prefix_append other cs') with h | h
        · exact hapart part hpart other hother h
        · exact (hapart other hother part hpart h).symm
      subst hsame
      obtain rfl := List.append_cancel_left hcs
      rw [ih h']
    | keep hno => exact absurd ⟨cs, hcs⟩ (hno part hpart)
  | @keep c cs out hno _ ih =>
    generalize hcs : c :: cs = ds at h'
    cases h' with
    | nil => contradiction
    | @part other cs' out' hother => exact absurd ⟨cs', hcs.symm⟩ (hno other hother)
    | keep _ h' =>
      obtain ⟨rfl, rfl⟩ := List.cons.inj hcs
      rw [ih h']

/-- What begins like the replacement began so before, or with one of the parts. -/
theorem Replaced.head?_eq_iff {parts : List (List Char)} {y : Char} {new cs out : List Char}
    (hne : [] ∉ parts) (h : Replaced parts (y :: new) cs out) :
    out.head? = some y ↔ cs.head? = some y ∨ ∃ part ∈ parts, part <+: cs := by
  cases h with
  | nil =>
    refine iff_of_false (by simp) ?_
    rintro (hhead | ⟨part, hpart, hempty⟩)
    · contradiction
    · exact hne (List.prefix_nil.mp hempty ▸ hpart)
  | @part part cs out hpart h =>
    exact iff_of_true rfl (.inr ⟨part, hpart, List.prefix_append part cs⟩)
  | @keep c cs out hno h =>
    rw [or_iff_left]
    · rfl
    · rintro ⟨part, hpart, hstands⟩
      exact hno part hpart hstands

/-- Two parts are replaced at once by replacing one after the other, if both begin with one character
that is nowhere else in the second one or in what is put in, and what is put in begins with no
character of the second one. -/
theorem replaced_replaceAll_replaceAll {x y : Char} {xs ys new : List Char} (hx : x ∉ ys) (hnew : x ∉ y :: new)
    (hy : y ∉ ys) (cs : List Char) :
    Replaced [x :: xs, x :: ys] (y :: new) cs
      (replaceAll (x :: ys) (y :: new) (replaceAll (x :: xs) (y :: new) cs)) := by
  induction hlen : cs.length using Nat.strong_induction_on generalizing cs with
  | _ length ih =>
    by_cases hfirst : x :: xs <+: cs
    · obtain ⟨rest, rfl⟩ := hfirst
      have hshort : rest.length < length := by
        simp only [List.length_append, List.length_cons] at hlen
        omega
      rw [replaceAll_hit (List.cons_ne_nil _ _), replaceAll_append hnew]
      exact .part List.mem_cons_self (ih rest.length hshort rest rfl)
    by_cases hsecond : x :: ys <+: cs
    · obtain ⟨rest, rfl⟩ := hsecond
      have hshort : rest.length < length := by
        simp only [List.length_append, List.length_cons] at hlen
        omega
      have hnot : ¬ x :: xs <+: x :: (ys ++ rest) := hfirst
      have hkept : replaceAll (x :: xs) (y :: new) (x :: (ys ++ rest)) =
          x :: ys ++ replaceAll (x :: xs) (y :: new) rest := by
        rw [replaceAll_keep hnot, replaceAll_append hx, List.cons_append]
      rw [List.cons_append, hkept, replaceAll_hit (List.cons_ne_nil _ _)]
      exact .part (List.mem_cons_of_mem _ List.mem_cons_self) (ih rest.length hshort rest rfl)
    cases cs with
    | nil => exact .nil
    | cons c cs =>
      have hshort : cs.length < length := by
        simp only [List.length_cons] at hlen
        omega
      -- A second part that begins here would have stood here before.
      have hnone : ¬ x :: ys <+: c :: replaceAll (x :: xs) (y :: new) cs := by
        intro h
        obtain ⟨rfl, hrest⟩ := List.cons_prefix_cons.mp h
        apply hsecond
        rw [List.cons_prefix_cons]
        exact ⟨rfl, prefix_of_prefix_replaceAll hy (List.cons_ne_nil _ _) hrest⟩
      rw [replaceAll_keep hfirst, replaceAll_keep hnone]
      refine .keep ?_ (ih cs.length hshort cs rfl)
      intro part hpart
      rcases List.mem_pair.mp hpart with rfl | rfl
      · exact hfirst
      · exact hsecond

end HookGate.Text
