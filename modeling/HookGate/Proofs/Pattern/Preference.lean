import HookGate.Proofs.Pattern.Words

/-!
# The preferred match

Where the matches of a simple pattern in front of a text end, in order of preference. The
search follows all heads at once and finds the first of these ends.
-/

namespace HookGate.Pattern

/-- The ends of the matches in front of a text, the preferred ones first. -/
def ends : List Char → Pattern → List Nat
  | [], p => (freeHeads p).flatMap fun
    | .done => [0]
    | .take _ _ => []
  | c :: cs, p => (freeHeads p).flatMap fun
    | .done => [0]
    | .take s k => if s.contains c then (ends cs k).map (· + 1) else []

/-- The ends to which one head leads. -/
def headEnds : List Char → Head → List Nat
  | _, .done => [0]
  | [], .take _ _ => []
  | c :: cs, .take s k => if s.contains c then (ends cs k).map (· + 1) else []

@[simp] theorem headEnds_done (text : List Char) : headEnds text .done = [0] := by
  cases text <;> rfl

theorem ends_eq_flatMap_headEnds (text : List Char) (p : Pattern) :
    ends text p = (freeHeads p).flatMap (headEnds text) := by
  cases text <;> simp only [ends] <;> congr 1 <;> funext h <;> cases h <;> rfl

/-! ## Composition -/

@[simp] theorem ends_empty (text : List Char) : ends text empty = [0] := by
  cases text <;> simp [ends, freeHeads, heads]

theorem ends_set (s : CharSet) (text : List Char) :
    ends text (set s) = if (text.head?).any s.contains then [1] else [] := by
  cases text with
  | nil => simp [ends, freeHeads, heads]
  | cons c cs => cases h : s.contains c <;> simp [ends, freeHeads, heads, h]

theorem ends_alt (a b : Pattern) (text : List Char) :
    ends text (alt a b) = ends text a ++ ends text b := by
  simp [ends_eq_flatMap_headEnds, freeHeads, heads]

theorem ends_group (kept : Bool) (a : Pattern) (text : List Char) :
    ends text (group kept a) = ends text a := by
  simp [ends_eq_flatMap_headEnds, freeHeads, heads]

theorem ends_seq_empty (b : Pattern) (text : List Char) :
    ends text (seq empty b) = ends text b := by
  simp [ends_eq_flatMap_headEnds, freeHeads, heads]

theorem ends_followedBy (a b : Pattern) (text : List Char) :
    ends text (followedBy a b) = ends text (seq a b) := by
  cases a with
  | empty => rw [ends_seq_empty]; rfl
  | _ => rfl

/-- The ends of a pattern after another: for each end of the first, in its order, those of the
second behind it. -/
theorem ends_seq (a b : Pattern) (text : List Char) :
    ends text (seq a b) =
      (ends text a).flatMap fun n => (ends (text.drop n) b).map (n + ·) := by
  induction text generalizing a with
  | nil =>
    simp only [ends_eq_flatMap_headEnds, freeHeads, heads, List.flatMap_assoc]
    apply List.flatMap_congr
    intro h _
    cases h <;> simp [headEnds]
  | cons c cs ih =>
    simp only [ends_eq_flatMap_headEnds (c :: cs), freeHeads, heads, List.flatMap_assoc]
    apply List.flatMap_congr
    intro h _
    cases h with
    | done => simp [ends_eq_flatMap_headEnds (c :: cs), freeHeads]
    | take s k =>
      simp only [headEnds, List.flatMap_cons, List.flatMap_nil, List.append_nil]
      split
      · rw [ends_followedBy, ih k, List.map_flatMap, List.flatMap_map]
        apply List.flatMap_congr
        intro n _
        simp only [List.map_map, List.drop_succ_cons]
        apply List.map_congr_left
        intro m _
        simp only [Function.comp_apply]
        omega
      · rfl

/-! ## The search -/

theorem findSome?_filter_of_none {α β : Type} (f : α → Option β) (p : α → Bool) {l : List α}
    (h : ∀ a ∈ l, p a = false → f a = none) : (l.filter p).findSome? f = l.findSome? f := by
  induction l with
  | nil => rfl
  | cons a l ih =>
    have ih := ih fun b hb => h b (List.mem_cons_of_mem a hb)
    cases ha : p a with
    | true => rw [List.filter_cons_of_pos ha, List.findSome?_cons, List.findSome?_cons, ih]
    | false =>
      have hnone := h a (by simp) ha
      rw [List.filter_cons_of_neg (by simp [ha]), List.findSome?_cons, hnone, ih]

theorem findSome?_eraseDups {α β : Type} [BEq α] [LawfulBEq α] (f : α → Option β) :
    (l : List α) → l.eraseDups.findSome? f = l.findSome? f
  | [] => by simp
  | a :: l => by
    have : (l.filter fun b => !b == a).length < l.length + 1 :=
      Nat.lt_succ_of_le (List.length_filter_le _ _)
    rw [List.eraseDups_cons, List.findSome?_cons, List.findSome?_cons]
    cases ha : f a with
    | some b => rfl
    | none =>
      rw [findSome?_eraseDups f (l.filter fun b => !b == a)]
      apply findSome?_filter_of_none
      intro b _ hb
      have hba : b = a := by simpa using hb
      rw [hba, ha]
termination_by l => l.length

theorem head?_flatMap_eq_findSome? {α β : Type} (f : α → List β) (l : List α) :
    (l.flatMap f).head? = l.findSome? fun a => (f a).head? := by
  induction l with
  | nil => rfl
  | cons a l ih => cases h : f a <;> simp [h, ih]

/-- Nothing behind a head that is done is asked for. -/
theorem findSome?_headEnds (text : List Char) (hs : List Head) :
    (hs.findSome? fun h => (headEnds text h).head?) =
      ((hs.takeWhile (· ≠ .done)).findSome? fun h => (headEnds text h).head?).or
        (if hs.contains .done then some 0 else none) := by
  induction hs with
  | nil => rfl
  | cons h hs ih =>
    cases h with
    | done => simp
    | take s k =>
      rw [List.takeWhile_cons_of_pos (by simp), List.findSome?_cons, List.findSome?_cons, ih]
      cases (headEnds text (.take s k)).head? <;> simp

/-- The heads that are not done lead to the ends that the patterns left behind a character
have there. -/
theorem findSome?_headEnds_advance (c : Char) (cs : List Char) {hs : List Head}
    (hdone : Head.done ∉ hs) :
    (hs.findSome? fun h => (headEnds (c :: cs) h).head?) =
      ((advance c hs).findSome? fun p => (ends cs p).head?).map (· + 1) := by
  rw [advance, findSome?_eraseDups]
  induction hs with
  | nil => rfl
  | cons h hs ih =>
    have ih := ih fun hmem => hdone (List.mem_cons_of_mem h hmem)
    cases h with
    | done => simp at hdone
    | take s k =>
      cases hs' : s.contains c with
      | false =>
        rw [List.findSome?_cons, ih]
        simp [headEnds, hs']
      | true =>
        rw [List.findSome?_cons, ih]
        simp only [headEnds, hs', if_true, List.filterMap_cons, List.findSome?_cons, List.head?_map]
        cases (ends cs k).head? <;> rfl

theorem advance_simple {c : Char} {ps : List Pattern} (hps : ∀ p ∈ ps, p.simple = true) :
    ∀ k ∈ advance c ((ps.flatMap freeHeads).takeWhile (· ≠ .done)), k.simple = true := by
  intro k hk
  rw [advance, List.mem_eraseDups] at hk
  obtain ⟨h, hh, hk⟩ := List.mem_filterMap.mp hk
  obtain ⟨p, hp, hh⟩ := List.mem_flatMap.mp ((List.takeWhile_sublist _).mem hh)
  cases h with
  | done => simp at hk
  | take s k' =>
    obtain ⟨-, rfl⟩ : s.contains c = true ∧ k' = k := by simpa using hk
    exact simple_of_take_mem (hps p hp) hh

theorem flatMap_heads_eq {ps : List Pattern} (hps : ∀ p ∈ ps, p.simple = true)
    (prev next : Option Char) : ps.flatMap (heads prev next) = ps.flatMap freeHeads :=
  List.flatMap_congr fun p hp => heads_eq_freeHeads (hps p hp) prev next

/-- The search yields the first end of its threads, and what it had before if there is none. -/
theorem lengthFrom_eq {ps : List Pattern} (hps : ∀ p ∈ ps, p.simple = true) (n : Nat)
    (best : Option Nat) (prev : Option Char) (text : List Char) :
    lengthFrom ps n best prev text =
      ((ps.findSome? fun p => (ends text p).head?).map (· + n)).or best := by
  have hfirst (text : List Char) (ps : List Pattern) :
      (ps.findSome? fun p => (ends text p).head?) =
        (ps.flatMap freeHeads).findSome? fun h => (headEnds text h).head? := by
    rw [← head?_flatMap_eq_findSome?, ← head?_flatMap_eq_findSome?, List.flatMap_assoc]
    congr 1
    exact List.flatMap_congr fun p _ => ends_eq_flatMap_headEnds text p
  induction text generalizing ps n best prev with
  | nil =>
    rw [lengthFrom, flatMap_heads_eq hps, hfirst, findSome?_headEnds]
    have hnone : (((ps.flatMap freeHeads).takeWhile (· ≠ .done)).findSome?
        fun h => (headEnds [] h).head?) = none := by
      rw [List.findSome?_eq_none_iff]
      intro h hh
      have hne := List.mem_takeWhile_imp hh
      cases h <;> simp_all [headEnds]
    rw [hnone]
    split <;> simp
  | cons c cs ih =>
    have hdone : Head.done ∉ (ps.flatMap freeHeads).takeWhile (· ≠ .done) := by
      intro hmem
      simpa using List.mem_takeWhile_imp hmem
    rw [lengthFrom, flatMap_heads_eq hps, hfirst, findSome?_headEnds,
      findSome?_headEnds_advance c cs hdone]
    have hstep := ih (advance_simple (c := c) hps) (n + 1)
      (if (ps.flatMap freeHeads).contains .done then some n else best) (some c)
    generalize advance c ((ps.flatMap freeHeads).takeWhile (· ≠ .done)) = next at hstep ⊢
    generalize (ps.flatMap freeHeads).contains .done = done at hstep ⊢
    cases next with
    | nil => cases done <;> simp
    | cons p next =>
      dsimp only
      rw [hstep]
      cases (p :: next).findSome? fun p => (ends cs p).head? with
      | none => cases done <;> simp
      | some k => simp [Nat.add_comm, Nat.add_left_comm]

/-- The match in front of a text is the preferred one. -/
theorem matchLength?_eq_head? {p : Pattern} (h : p.simple = true) (prev : Option Char)
    (text : List Char) : p.matchLength? prev text = (ends text p).head? := by
  rw [matchLength?, lengthFrom_eq (by simpa using h)]
  cases hk : (ends text p).head? <;> simp [hk]

end HookGate.Pattern
