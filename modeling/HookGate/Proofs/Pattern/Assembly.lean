import HookGate.Proofs.Pattern.Paths

/-!
# Machines of patterns

The states of a machine are added part by part. Once all of them are in place, the entry of a part
accepts exactly the places from which the part leads on to an accepted one, so a pattern occurs in a
text exactly if it leads somewhere from some place of the text.
-/

namespace HookGate.Pattern

namespace Machine

/-! ## Links -/

/-- From one state to another a machine goes the ways of a relation, and never needs fewer steps for
it than to go on from there. -/
structure Links (m : Machine) (R : Place → Place → Prop) (entry next : Nat) : Prop where
  enter : ∀ {x y}, R x y → m.Accepts next y → m.Accepts entry x
  leave : ∀ {k x}, m.AcceptsIn k entry x → ∃ y, R x y ∧ ∃ j ≤ k, m.AcceptsIn j next y

section

variable {m : Machine} {R S : Place → Place → Prop} {i a b next mid : Nat}

theorem Links.accepts_iff (h : m.Links R i next) (x : Place) :
    m.Accepts i x ↔ ∃ y, R x y ∧ m.Accepts next y := by
  constructor
  · intro haccepts
    obtain ⟨k, hk⟩ := haccepts
    obtain ⟨y, hy, j, -, hj⟩ := h.leave hk
    exact ⟨y, hy, j, hj⟩
  · intro hlead
    obtain ⟨y, hy, haccepts⟩ := hlead
    exact h.enter hy haccepts

theorem Links.congr (h : m.Links R i next) (hRS : ∀ x y, R x y ↔ S x y) : m.Links S i next := by
  obtain rfl : R = S := funext fun x => funext fun y => propext (hRS x y)
  exact h

theorem links_refl (next : Nat) : m.Links (fun x y => y = x) next next where
  enter hxy haccepts := hxy ▸ haccepts
  leave {k x} hk := ⟨x, rfl, k, le_refl k, hk⟩

theorem Links.seq (hR : m.Links R i mid) (hS : m.Links S mid next) :
    m.Links (fun x y => ∃ z, R x z ∧ S z y) i next where
  enter hlead haccepts := by
    obtain ⟨z, hz, hy⟩ := hlead
    exact hR.enter hz (hS.enter hy haccepts)
  leave hk := by
    obtain ⟨z, hz, j, hj, hmid⟩ := hR.leave hk
    obtain ⟨y, hy, l, hl, hnext⟩ := hS.leave hmid
    exact ⟨y, ⟨z, hz, hy⟩, l, hl.trans hj, hnext⟩

theorem links_take {s n : Nat} {set : CharSet} (step : m.steps[i]? = some (.take s n))
    (hset : m.sets[s]? = some set) : m.Links (Pattern.set set).Leads i n where
  enter {x y} hlead haccepts := by
    obtain ⟨c, hc, hrest, hprev⟩ := hlead
    obtain ⟨prev, rest⟩ := x
    obtain ⟨k, hk⟩ := haccepts
    obtain rfl : rest = c :: y.rest := hrest
    exact ⟨k + 1, .take step (by simpa [hset] using hc) (hprev ▸ hk)⟩
  leave hk := by
    cases hk with
    | take step' holds hn =>
      obtain ⟨rfl, rfl⟩ : s = _ ∧ n = _ := by simpa [step] using step'
      rw [hset] at holds
      exact ⟨_, ⟨_, holds, rfl, rfl⟩, _, Nat.le_succ _, hn⟩
    | done step' | check step' | left step' | right step' => simp [step] at step'

theorem links_check {l : Look} {n : Nat} (step : m.steps[i]? = some (.check l n)) :
    m.Links (Pattern.look l).Leads i n where
  enter hlead haccepts := by
    obtain ⟨holds, rfl⟩ := hlead
    obtain ⟨k, hk⟩ := haccepts
    exact ⟨k + 1, .check step holds hk⟩
  leave hk := by
    cases hk with
    | check step' holds hn =>
      obtain ⟨rfl, rfl⟩ : l = _ ∧ n = _ := by simpa [step] using step'
      exact ⟨_, ⟨holds, rfl⟩, _, Nat.le_succ _, hn⟩
    | done step' | take step' | left step' | right step' => simp [step] at step'

/-- A way on from a fork goes on from one of its two sides. -/
theorem acceptsIn_fork {k : Nat} {x : Place} (step : m.steps[i]? = some (.fork a b))
    (h : m.AcceptsIn k i x) : ∃ j < k, m.AcceptsIn j a x ∨ m.AcceptsIn j b x := by
  cases h with
  | left step' hn =>
    obtain ⟨rfl, rfl⟩ : a = _ ∧ b = _ := by simpa [step] using step'
    exact ⟨_, Nat.lt_succ_self _, .inl hn⟩
  | right step' hn =>
    obtain ⟨rfl, rfl⟩ : a = _ ∧ b = _ := by simpa [step] using step'
    exact ⟨_, Nat.lt_succ_self _, .inr hn⟩
  | done step' | take step' | check step' => simp [step] at step'

theorem accepts_fork {x : Place} (step : m.steps[i]? = some (.fork a b)) :
    m.Accepts i x ↔ m.Accepts a x ∨ m.Accepts b x := by
  constructor
  · intro h
    obtain ⟨k, hk⟩ := h
    obtain ⟨j, -, hj⟩ := acceptsIn_fork step hk
    exact hj.imp (fun hj => ⟨j, hj⟩) fun hj => ⟨j, hj⟩
  · intro h
    rcases h with ⟨k, hk⟩ | ⟨k, hk⟩
    · exact ⟨k + 1, .left step hk⟩
    · exact ⟨k + 1, .right step hk⟩

theorem Links.fork (step : m.steps[i]? = some (.fork a b)) (hR : m.Links R a next)
    (hS : m.Links S b next) : m.Links (fun x y => R x y ∨ S x y) i next where
  enter hlead haccepts :=
    (accepts_fork step).mpr (hlead.imp (hR.enter · haccepts) (hS.enter · haccepts))
  leave hk := by
    obtain ⟨j, hj, hside⟩ := acceptsIn_fork step hk
    rcases hside with ha | hb
    · obtain ⟨y, hy, l, hl, hn⟩ := hR.leave ha
      exact ⟨y, .inl hy, l, hl.trans hj.le, hn⟩
    · obtain ⟨y, hy, l, hl, hn⟩ := hS.leave hb
      exact ⟨y, .inr hy, l, hl.trans hj.le, hn⟩

/-- A part that leads back to the fork in front of it is gone through any number of times. -/
theorem Links.loop (step : m.steps[i]? = some (.fork a next)) (hR : m.Links R a i) :
    m.Links (fun x y => ∃ n, Rounds R n x y) i next where
  enter {x y} hlead haccepts := by
    obtain ⟨n, hn⟩ := hlead
    induction n generalizing x with
    | zero =>
      obtain rfl : y = x := hn
      exact (accepts_fork step).mpr (.inr haccepts)
    | succ n ih =>
      obtain ⟨z, hz, hn⟩ := hn
      exact (accepts_fork step).mpr (.inl (hR.enter hz (ih hn)))
  leave {k x} hk := by
    -- Each round uses up the step of the fork, so what is left after it is shorter.
    induction k using Nat.strong_induction_on generalizing x with
    | h k ih =>
      obtain ⟨j, hj, ha | hb⟩ := acceptsIn_fork step hk
      · obtain ⟨z, hz, l, hl, hi⟩ := hR.leave ha
        have hlk : l < k := Nat.lt_of_le_of_lt hl hj
        obtain ⟨y, ⟨n, hn⟩, l', hl', hnext⟩ := ih l hlk hi
        exact ⟨y, ⟨n + 1, z, hz, hn⟩, l', hl'.trans hlk.le, hnext⟩
      · exact ⟨x, ⟨0, rfl⟩, j, hj.le, hb⟩

end

end Machine

/-! ## Adding states -/

namespace Assembly

variable {α β : Type}

/-- States are added behind those that are there, which stay as they are. -/
def Grows (a : Assembly α) : Prop :=
  ∀ steps, steps.size ≤ (a steps).2.size ∧ ∀ i < steps.size, (a steps).2[i]? = steps[i]?

theorem grows_pure (x : α) : Grows (pure x) := fun steps => ⟨le_refl steps.size, fun _ _ => rfl⟩

theorem grows_add (s : Step) : Grows (add s) := by
  intro steps
  refine ⟨by simp [add], fun i hi => ?_⟩
  simp [add, Array.getElem?_push, hi.ne]

theorem Grows.bind {a : Assembly α} {f : α → Assembly β} (ha : Grows a) (hf : ∀ x, Grows (f x)) :
    Grows (a >>= f) := by
  intro steps
  obtain ⟨hsize, hkept⟩ := ha steps
  obtain ⟨hsize', hkept'⟩ := hf (a steps).1 (a steps).2
  refine ⟨hsize.trans hsize', fun i hi => ?_⟩
  exact (hkept' i (hi.trans_le hsize)).trans (hkept i hi)

theorem grows_copies {part : Nat → Assembly Nat} (hpart : ∀ next, Grows (part next)) (n next : Nat) :
    Grows (copies part n next) := by
  induction n generalizing next with
  | zero => exact grows_pure next
  | succ n ih => exact (hpart next).bind ih

theorem grows_optional {part : Nat → Assembly Nat} (hpart : ∀ next, Grows (part next))
    (n next rest : Nat) : Grows (optional part next n rest) := by
  induction n generalizing rest with
  | zero => exact grows_pure rest
  | succ n ih => exact (hpart rest).bind fun e => (grows_add _).bind ih

/-- What a loop leaves: the fork that was held free stands in front of the states of the part. -/
theorem loop_run (part : Nat → Assembly Nat) (next : Nat) (steps : Array Step) :
    loop part next steps =
      ((steps.size, (part steps.size (steps.push .done)).1),
        (part steps.size (steps.push .done)).2.set! steps.size
          (.fork (part steps.size (steps.push .done)).1 next)) := rfl

theorem grows_loop {part : Nat → Assembly Nat} (hpart : ∀ next, Grows (part next)) (next : Nat) :
    Grows (loop part next) := by
  intro steps
  obtain ⟨hsize, hkept⟩ := hpart steps.size (steps.push .done)
  rw [Array.size_push] at hsize hkept
  rw [loop_run]
  refine ⟨by simpa using Nat.le_of_succ_le hsize, fun i hi => ?_⟩
  show (Array.set! _ _ _)[i]? = _
  rw [Array.set!_eq_setIfInBounds, Array.getElem?_setIfInBounds_ne hi.ne', hkept i (by omega),
    Array.getElem?_push, if_neg hi.ne]

theorem grows_entry (p : Pattern) (base next : Nat) : Grows (entry p base next) := by
  induction p generalizing base next with
  | empty => exact grows_pure next
  | set s => exact grows_add _
  | look l => exact grows_add _
  | seq a b iha ihb => exact (ihb _ next).bind (iha base)
  | alt a b iha ihb => exact (iha base next).bind fun x => (ihb _ next).bind fun y => grows_add _
  | «repeat» a min max greedy ih =>
    cases max with
    | some max =>
      exact (grows_optional (ih base) (max - min) next next).bind (grows_copies (ih base) min)
    | none =>
      refine (grows_loop (ih base) next).bind fun ie => ?_
      cases min with
      | zero => exact grows_pure _
      | succ min => exact grows_copies (ih base) min _
  | group kept a ih => exact ih base next

/-! ## States in place -/

/-- A step with the number that its set has among the different ones. -/
def renumbered (numbers : Array Nat) : Step → Step
  | .take s n => .take (numbers.getD s s) n
  | s => s

/-- The states from a number on stand in a machine. -/
def Placed (m : Machine) (numbers : Array Nat) (start : Nat) (steps : Array Step) : Prop :=
  ∀ i, start ≤ i → i < steps.size → m.steps[i]? = (steps[i]?).map (renumbered numbers)

/-- Once the states that are added stand in a machine, what is given back is as a condition says. -/
def Gives (m : Machine) (numbers : Array Nat) (a : Assembly α) (Q : α → Prop) : Prop :=
  ∀ steps, Placed m numbers steps.size (a steps).2 → Q (a steps).1

section

variable {m : Machine} {numbers : Array Nat}

theorem gives_pure {Q : α → Prop} {x : α} (h : Q x) : Gives m numbers (pure x) Q := fun _ _ => h

theorem gives_add (s : Step) :
    Gives m numbers (add s) fun i => m.steps[i]? = some (renumbered numbers s) := by
  intro steps hplaced
  simpa [add] using hplaced steps.size (le_refl _) (by simp [add])

theorem Gives.bind {a : Assembly α} {f : α → Assembly β} {Q : α → Prop} {Q' : β → Prop}
    (ha : Gives m numbers a Q) (hgrow : Grows a) (hfgrow : ∀ x, Grows (f x))
    (hf : ∀ x, Q x → Gives m numbers (f x) Q') : Gives m numbers (a >>= f) Q' := by
  intro steps hplaced
  obtain ⟨hsize, -⟩ := hgrow steps
  obtain ⟨hsize', hkept'⟩ := hfgrow (a steps).1 (a steps).2
  apply hf (a steps).1
  · apply ha steps
    intro i hi hlt
    rw [← hkept' i hlt]
    exact hplaced i hi (hlt.trans_le hsize')
  · intro i hi hlt
    exact hplaced i (hsize.trans hi) hlt

theorem Gives.mono {a : Assembly α} {Q Q' : α → Prop} (ha : Gives m numbers a Q)
    (h : ∀ x, Q x → Q' x) : Gives m numbers a Q' := fun steps hplaced => h _ (ha steps hplaced)

variable {part : Nat → Assembly Nat} {R : Place → Place → Prop}

theorem gives_copies (hgrow : ∀ next, Grows (part next))
    (hpart : ∀ next, Gives m numbers (part next) fun e => m.Links R e next) (n next : Nat) :
    Gives m numbers (copies part n next) fun e => m.Links (Rounds R n) e next := by
  induction n generalizing next with
  | zero => exact gives_pure (Machine.links_refl next)
  | succ n ih =>
    refine (hpart next).bind (hgrow next) (grows_copies hgrow n) fun e he => ?_
    exact (ih e).mono fun i hi => (hi.seq he).congr fun x y => (rounds_succ R n x y).symm

theorem gives_optional (hgrow : ∀ next, Grows (part next))
    (hpart : ∀ next, Gives m numbers (part next) fun e => m.Links R e next) (n next : Nat) {k rest : Nat}
    (hrest : m.Links (fun x y => ∃ l ≤ k, Rounds R l x y) rest next) :
    Gives m numbers (optional part next n rest) fun e =>
      m.Links (fun x y => ∃ l ≤ k + n, Rounds R l x y) e next := by
  induction n generalizing k rest with
  | zero => exact gives_pure hrest
  | succ n ih =>
    refine (hpart rest).bind (hgrow rest)
      (fun e => (grows_add _).bind (grows_optional hgrow n next)) fun e he => ?_
    refine (gives_add (.fork e next)).bind (grows_add _) (grows_optional hgrow n next) fun i hi => ?_
    rw [Nat.add_comm n 1, ← Nat.add_assoc]
    apply ih
    refine (Machine.Links.fork hi (he.seq hrest) (Machine.links_refl next)).congr fun x y => ?_
    constructor
    · rintro (⟨z, hz, l, hl, hy⟩ | rfl)
      · exact ⟨l + 1, Nat.succ_le_succ hl, z, hz, hy⟩
      · exact ⟨0, Nat.zero_le _, rfl⟩
    · rintro ⟨l, hl, hy⟩
      cases l with
      | zero => exact .inr hy
      | succ l =>
        obtain ⟨z, hz, hy⟩ := hy
        exact .inl ⟨z, hz, l, Nat.le_of_succ_le_succ hl, hy⟩

theorem gives_loop (hgrow : ∀ next, Grows (part next))
    (hpart : ∀ next, Gives m numbers (part next) fun e => m.Links R e next) (next : Nat) :
    Gives m numbers (loop part next) fun ie =>
      m.Links (fun x y => ∃ n, Rounds R n x y) ie.1 next ∧ m.Links R ie.2 ie.1 := by
  intro steps hplaced
  rw [loop_run] at hplaced ⊢
  obtain ⟨hsize, -⟩ := hgrow steps.size (steps.push .done)
  have hlink : m.Links R (part steps.size (steps.push .done)).1 steps.size := by
    apply hpart steps.size (steps.push .done)
    rw [Array.size_push] at hsize ⊢
    intro i hi hlt
    have hget := hplaced i (by omega) (by simpa using hlt)
    rwa [Array.set!_eq_setIfInBounds, Array.getElem?_setIfInBounds_ne (by omega)] at hget
  refine ⟨.loop ?_ hlink, hlink⟩
  rw [Array.size_push] at hsize
  rw [hplaced steps.size (le_refl _) (by simpa using hsize), Array.set!_eq_setIfInBounds,
    Array.getElem?_setIfInBounds_self_of_lt hsize]
  rfl

end

end Assembly

/-! ## Sets by number -/

theorem setsBefore_eq_append (p : Pattern) (more : List CharSet) :
    p.setsBefore more = p.setsBefore [] ++ more := by
  induction p generalizing more with
  | empty => rfl
  | set s => rfl
  | look l => rfl
  | seq a b iha ihb | alt a b iha ihb =>
    rw [setsBefore, setsBefore, iha, ihb more, iha (b.setsBefore []), List.append_assoc]
  | «repeat» a min max greedy ih => exact ih more
  | group kept a ih => exact ih more

theorem length_setsBefore (p : Pattern) : (p.setsBefore []).length = p.setCount := by
  induction p with
  | empty => rfl
  | set s => rfl
  | look l => rfl
  | seq a b iha ihb | alt a b iha ihb =>
    rw [setsBefore, setsBefore_eq_append, List.length_append, iha, ihb, setCount]
  | «repeat» a min max greedy ih => exact ih
  | group kept a ih => exact ih

namespace Machine

/-- The sets of a pattern stand in a machine under their numbers. -/
def Holds (m : Machine) (numbers : Array Nat) (ss : List CharSet) (base : Nat) : Prop :=
  ∀ k s, ss[k]? = some s → m.sets[numbers.getD (base + k) (base + k)]? = some s

theorem Holds.of_append {m : Machine} {numbers : Array Nat} {ss ts : List CharSet} {base : Nat}
    (h : m.Holds numbers (ss ++ ts) base) :
    m.Holds numbers ss base ∧ m.Holds numbers ts (base + ss.length) := by
  constructor
  · intro k s hk
    apply h k s
    rw [List.getElem?_append_left (List.getElem?_eq_some_iff.mp hk).1, hk]
  · intro k s hk
    rw [Nat.add_assoc]
    apply h (ss.length + k) s
    rw [List.getElem?_append_right (Nat.le_add_right _ k), Nat.add_sub_cancel_left, hk]

/-- Equal sets get the number that the first of them was given. -/
theorem different_spec (ss : List CharSet) (known : Std.HashMap CharSet Nat) (sets : Array CharSet)
    (numbers : Array Nat) (hknown : ∀ (s : CharSet) (n : Nat), known[s]? = some n → sets[n]? = some s) :
    (∀ (n : Nat) (s : CharSet), sets[n]? = some s →
        (different ss known sets numbers).1[n]? = some s) ∧
      (∀ (k n : Nat), numbers[k]? = some n → (different ss known sets numbers).2[k]? = some n) ∧
      ∀ (k : Nat) (s : CharSet), ss[k]? = some s →
        ∃ n, (different ss known sets numbers).2[numbers.size + k]? = some n ∧
          (different ss known sets numbers).1[n]? = some s := by
  induction ss generalizing known sets numbers with
  | nil => exact ⟨fun _ _ h => h, fun _ _ h => h, by simp⟩
  | cons t ss ih =>
    have hpush {γ : Type} {xs : Array γ} {i : Nat} {x : γ} (y : γ) (h : xs[i]? = some x) :
        (xs.push y)[i]? = some x := by
      obtain ⟨hi, -⟩ := Array.getElem?_eq_some_iff.mp h
      rw [Array.getElem?_push, if_neg hi.ne, h]
    unfold different
    split
    · next n hn =>
      obtain ⟨hsets, hnumbers, hnew⟩ := ih known sets (numbers.push n) hknown
      refine ⟨hsets, fun k l hl => hnumbers k l (hpush n hl), fun k s hk => ?_⟩
      cases k with
      | zero =>
        obtain rfl : t = s := by simpa using hk
        exact ⟨n, hnumbers _ n (by simp), hsets n t (hknown t n hn)⟩
      | succ k =>
        rw [← Nat.add_assoc, Nat.add_right_comm, ← Array.size_push]
        exact hnew k s (by simpa using hk)
    · obtain ⟨hsets, hnumbers, hnew⟩ := ih (known.insert t sets.size) (sets.push t)
        (numbers.push sets.size) (by
          intro s n hn
          rw [Std.HashMap.getElem?_insert] at hn
          split at hn
          · next hts =>
            obtain rfl := eq_of_beq hts
            obtain rfl := Option.some.inj hn
            simp
          · exact hpush t (hknown s n hn))
      refine ⟨fun n s hn => hsets n s (hpush t hn), fun k l hl => hnumbers k l (hpush _ hl),
        fun k s hk => ?_⟩
      cases k with
      | zero =>
        obtain rfl : t = s := by simpa using hk
        exact ⟨sets.size, hnumbers _ _ (by simp), hsets _ t (by simp)⟩
      | succ k =>
        rw [← Nat.add_assoc, Nat.add_right_comm, ← Array.size_push]
        exact hnew k s (by simpa using hk)

/-! The numbers are looked up in a hash map, which cannot be computed in a proof. A list of the numbers
that were given so far does as well. -/

/-- The different sets among some, with numbers that are looked up in a list. -/
def differentListed :
    List CharSet → List (CharSet × Nat) → Array CharSet → Array Nat → Array CharSet × Array Nat
  | [], _, sets, numbers => (sets, numbers)
  | s :: rest, known, sets, numbers =>
    match known.lookup s with
    | some n => differentListed rest known sets (numbers.push n)
    | none => differentListed rest ((s, sets.size) :: known) (sets.push s) (numbers.push sets.size)

theorem different_eq_differentListed {known : Std.HashMap CharSet Nat} {listed : List (CharSet × Nat)}
    (h : ∀ s, known[s]? = listed.lookup s) (ss : List CharSet) (sets : Array CharSet)
    (numbers : Array Nat) :
    different ss known sets numbers = differentListed ss listed sets numbers := by
  induction ss generalizing known listed sets numbers with
  | nil => rfl
  | cons s ss ih =>
    unfold different differentListed
    rw [h]
    cases listed.lookup s with
    | some n => exact ih h _ _
    | none =>
      have hinsert (t : CharSet) : (known.insert s sets.size)[t]? =
          List.lookup t ((s, sets.size) :: listed) := by
        rw [Std.HashMap.getElem?_insert, List.lookup_cons, h, BEq.comm (a := t)]
        cases s == t <;> rfl
      exact ih hinsert _ _

theorem different_empty (ss : List CharSet) (sets : Array CharSet) (numbers : Array Nat) :
    different ss {} sets numbers = differentListed ss [] sets numbers :=
  different_eq_differentListed (fun _ => by simp) ss sets numbers

end Machine

/-! ## Patterns -/

namespace Assembly

/-- Where the states of a pattern stand in a machine, its entry leads as the pattern does. -/
theorem gives_entry {m : Machine} {numbers : Array Nat} (p : Pattern) (base next : Nat)
    (hsets : m.Holds numbers (p.setsBefore []) base) :
    Gives m numbers (entry p base next) fun e => m.Links p.Leads e next := by
  induction p generalizing base next with
  | empty => exact gives_pure (Machine.links_refl next)
  | set s => exact (gives_add _).mono fun i hi => Machine.links_take hi (hsets 0 s rfl)
  | look l => exact (gives_add _).mono fun i hi => Machine.links_check hi
  | seq a b iha ihb =>
    rw [setsBefore, setsBefore_eq_append] at hsets
    obtain ⟨ha, hb⟩ := hsets.of_append
    rw [length_setsBefore] at hb
    refine (ihb _ next hb).bind (grows_entry b _ next) (grows_entry a base) fun e he => ?_
    exact (iha base e ha).mono fun i hi => hi.seq he
  | alt a b iha ihb =>
    rw [setsBefore, setsBefore_eq_append] at hsets
    obtain ⟨ha, hb⟩ := hsets.of_append
    rw [length_setsBefore] at hb
    refine (iha base next ha).bind (grows_entry a base next)
      (fun x => (grows_entry b _ next).bind fun y => grows_add _) fun x hx => ?_
    refine (ihb _ next hb).bind (grows_entry b _ next) (fun y => grows_add _) fun y hy => ?_
    exact (gives_add _).mono fun i hi => .fork hi hx hy
  | «repeat» a min max greedy ih =>
    have hgrow := grows_entry a base
    have hpart (next : Nat) := ih base next hsets
    cases max with
    | some max =>
      have hnone : m.Links (fun x y => ∃ l ≤ 0, Rounds a.Leads l x y) next next :=
        (Machine.links_refl next).congr fun x y => by simp [Rounds]
      refine (gives_optional hgrow hpart (max - min) next hnone).bind
        (grows_optional hgrow _ next next) (grows_copies hgrow min) fun e he => ?_
      refine (gives_copies hgrow hpart min e).mono fun i hi => (hi.seq he).congr fun x y => ?_
      rw [leads_repeat_some, Nat.zero_add]
    | none =>
      refine (gives_loop hgrow hpart next).bind (grows_loop hgrow next) (fun ie => ?_) fun ie hie => ?_
      · cases min with
        | zero => exact grows_pure _
        | succ min => exact grows_copies hgrow min _
      · obtain ⟨hloop, hround⟩ := hie
        cases min with
        | zero =>
          refine gives_pure (hloop.congr fun x y => ?_)
          rw [leads_repeat_none]
          simp [Rounds]
        | succ min =>
          refine (gives_copies hgrow hpart min ie.2).mono fun i hi => ?_
          refine ((hi.seq hround).seq hloop).congr fun x y => ?_
          simp only [leads_repeat_none, rounds_succ]
  | group kept a ih => exact ih base next hsets

end Assembly

/-- A pattern occurs in a text exactly if it leads somewhere from some place of the text. -/
theorem occurs_iff_leads (p : Pattern) (text : List Char) :
    p.occurs text = true ↔
      ∃ before rest y, text = before ++ rest ∧ p.Leads ⟨before.getLast?, rest⟩ y := by
  let m := Machine.ofPattern p
  let numbers := (Machine.different (p.setsBefore []) {} #[] #[]).2
  have hsteps : m.steps = (Assembly.entry p 0 0 #[.done]).2.map (Assembly.renumbered numbers) := rfl
  have hdone : m.steps[0]? = some .done := by
    rw [hsteps, Array.getElem?_map, (Assembly.grows_entry p 0 0 #[.done]).2 0 (by simp)]
    rfl
  have hsets : m.Holds numbers (p.setsBefore []) 0 := by
    intro k s hk
    obtain ⟨-, -, hnew⟩ := Machine.different_spec (p.setsBefore []) {} #[] #[] (by simp)
    obtain ⟨n, hn, hs⟩ := hnew k s hk
    have hnumber : numbers[0 + k]? = some n := hn
    rw [Array.getD_eq_getD_getElem?, hnumber]
    exact hs
  have hlinks : m.Links p.Leads m.start 0 := by
    apply Assembly.gives_entry p 0 0 hsets #[.done]
    intro i _ _
    rw [hsteps, Array.getElem?_map]
  have hstart (x : Place) : m.Accepts m.start x ↔ ∃ y, p.Leads x y := by
    rw [hlinks.accepts_iff]
    constructor
    · rintro ⟨y, hy, -⟩
      exact ⟨y, hy⟩
    · rintro ⟨y, hy⟩
      exact ⟨y, hy, 0, .done hdone⟩
  have hoccurs := Machine.occurs_iff (m := m) text
  simp only [hstart, ← exists_and_left] at hoccurs
  exact hoccurs

end HookGate.Pattern
