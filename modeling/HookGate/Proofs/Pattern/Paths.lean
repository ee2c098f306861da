import HookGate.Pattern.Machine
import HookGate.Proofs.Pattern.Places

/-!
# Ways through a machine

A state accepts a place of a text if some way from there ends in a match. A run visits each state at
most once at a place, and finds a match exactly if the start accepts some place of the text.
-/

namespace HookGate.Pattern.Machine

/-- So many steps lead from a state at a place to a match. -/
inductive AcceptsIn (m : Machine) : Nat → Nat → Place → Prop
  | done {i : Nat} {x : Place} (step : m.steps[i]? = some .done) : AcceptsIn m 0 i x
  | take {k i s n : Nat} {prev : Option Char} {c : Char} {cs : List Char}
      (step : m.steps[i]? = some (.take s n)) (holds : (m.sets[s]?).any (·.contains c) = true)
      (next : AcceptsIn m k n ⟨some c, cs⟩) : AcceptsIn m (k + 1) i ⟨prev, c :: cs⟩
  | check {k i n : Nat} {l : Look} {x : Place} (step : m.steps[i]? = some (.check l n))
      (holds : l.holds x.prev x.rest.head? = true) (next : AcceptsIn m k n x) : AcceptsIn m (k + 1) i x
  | left {k i a b : Nat} {x : Place} (step : m.steps[i]? = some (.fork a b))
      (next : AcceptsIn m k a x) : AcceptsIn m (k + 1) i x
  | right {k i a b : Nat} {x : Place} (step : m.steps[i]? = some (.fork a b))
      (next : AcceptsIn m k b x) : AcceptsIn m (k + 1) i x

def Accepts (m : Machine) (i : Nat) (x : Place) : Prop := ∃ k, m.AcceptsIn k i x

/-- A character that a state takes leads on to a match. -/
def Carries (m : Machine) (x : Place) (t : Nat × Nat) : Prop :=
  ∃ c cs, x.rest = c :: cs ∧ (m.sets[t.1]?).any (·.contains c) = true ∧ m.Accepts t.2 ⟨some c, cs⟩

/-- Where a state leads at a place: to states and to characters to take, unless a match is found. -/
def next? (m : Machine) (x : Place) (i : Nat) : Option (List Nat × Takes) :=
  match m.steps[i]? with
  | none => some ([], [])
  | some .done => none
  | some (.take s n) => some ([], [(s, n)])
  | some (.check l n) => some (if l.holds x.prev x.rest.head? then [n] else [], [])
  | some (.fork a b) => some ([a, b], [])

section

variable {m : Machine} {x : Place} {i k : Nat} {states : List Nat} {ts : Takes}

theorem accepts_of_next?_eq_none (h : m.next? x i = none) : m.Accepts i x := by
  unfold next? at h
  split at h
  · contradiction
  · next step => exact ⟨0, .done step⟩
  · contradiction
  · contradiction
  · contradiction

theorem accepts_of_next?_eq_some (h : m.next? x i = some (states, ts))
    (hlead : (∃ j ∈ states, m.Accepts j x) ∨ ∃ t ∈ ts, m.Carries x t) : m.Accepts i x := by
  unfold next? at h
  split at h
  · obtain ⟨rfl, rfl⟩ := Prod.mk.inj (Option.some.inj h)
    simp at hlead
  · contradiction
  · next s n step =>
    obtain ⟨rfl, rfl⟩ := Prod.mk.inj (Option.some.inj h)
    obtain ⟨c, cs, hrest, holds, l, hl⟩ : m.Carries x (s, n) := by simpa using hlead
    obtain ⟨prev, rest⟩ := x
    obtain rfl : rest = c :: cs := hrest
    exact ⟨l + 1, .take step holds hl⟩
  · next look n step =>
    obtain ⟨rfl, rfl⟩ := Prod.mk.inj (Option.some.inj h)
    cases holds : look.holds x.prev x.rest.head? with
    | false => simp [holds] at hlead
    | true =>
      obtain ⟨l, hl⟩ : m.Accepts n x := by simpa [holds] using hlead
      exact ⟨l + 1, .check step holds hl⟩
  · next a b step =>
    obtain ⟨rfl, rfl⟩ := Prod.mk.inj (Option.some.inj h)
    obtain ⟨l, hl⟩ | ⟨l, hl⟩ : m.Accepts a x ∨ m.Accepts b x := by simpa using hlead
    · exact ⟨l + 1, .left step hl⟩
    · exact ⟨l + 1, .right step hl⟩

/-- A way to a match goes on where the state leads, and is shorter from there. -/
theorem AcceptsIn.next? (haccepts : m.AcceptsIn k i x) (h : m.next? x i = some (states, ts)) :
    (∃ j ∈ states, ∃ l < k, m.AcceptsIn l j x) ∨ ∃ t ∈ ts, m.Carries x t := by
  cases haccepts with
  | done step => simp [Machine.next?, step] at h
  | take step holds hl =>
    obtain ⟨rfl, rfl⟩ : [] = states ∧ _ = ts := by simpa [Machine.next?, step] using h
    exact .inr ⟨_, List.mem_singleton_self _, _, _, rfl, holds, _, hl⟩
  | check step holds hl =>
    obtain ⟨rfl, rfl⟩ : _ = states ∧ [] = ts := by simpa [Machine.next?, step, holds] using h
    exact .inl ⟨_, List.mem_singleton_self _, _, Nat.lt_succ_self _, hl⟩
  | left step hl =>
    obtain ⟨rfl, rfl⟩ : _ = states ∧ [] = ts := by simpa [Machine.next?, step] using h
    exact .inl ⟨_, List.mem_cons_self, _, Nat.lt_succ_self _, hl⟩
  | right step hl =>
    obtain ⟨rfl, rfl⟩ : _ = states ∧ [] = ts := by simpa [Machine.next?, step] using h
    exact .inl ⟨_, List.mem_cons_of_mem _ List.mem_cons_self, _, Nat.lt_succ_self _, hl⟩

theorem length_le_of_next? (h : m.next? x i = some (states, ts)) : states.length ≤ 2 := by
  unfold next? at h
  split at h <;> cases h
  all_goals try simp
  split <;> simp

end

/-! ## Marks -/

/-- A state is marked with the number of a place. -/
def Seen (seen : Array Nat) (place i : Nat) : Prop := seen.getD i 0 = place

/-- How many states are not marked with the number. -/
def unseen (seen : Array Nat) (place : Nat) : Nat := seen.countP (· ≠ place)

section

variable {seen : Array Nat} {place i : Nat}

theorem getD_set (hi : i < seen.size) (j : Nat) :
    (seen.set! i place).getD j 0 = if j = i then place else seen.getD j 0 := by
  by_cases hj : j = i
  · subst hj
    simp [hi]
  · simp [hj, Ne.symm hj, Array.getD_eq_getD_getElem?]

theorem seen_set (hi : i < seen.size) (j : Nat) :
    Seen (seen.set! i place) place j ↔ j = i ∨ Seen seen place j := by
  rw [Seen, getD_set hi]
  by_cases hj : j = i <;> simp [hj, Seen]

theorem unseen_set (hi : i < seen.size) (h : ¬ Seen seen place i) :
    unseen (seen.set! i place) place + 1 = unseen seen place := by
  have hne : seen[i] ≠ place := by
    simpa [Seen, hi] using h
  have hpos : 0 < unseen seen place := by
    rw [unseen, Array.countP_pos_iff]
    exact ⟨seen[i], Array.getElem_mem hi, by simpa using hne⟩
  rw [unseen, Array.set!_eq_setIfInBounds, Array.setIfInBounds_def, dif_pos hi, Array.countP_set,
    if_pos (by simpa using hne), if_neg (by simp)]
  exact Nat.sub_add_cancel hpos

end

/-! ## A visit -/

section

variable {m : Machine} {x : Place} {place fuel i : Nat} {todo : List Nat} {seen : Array Nat}
  {takes : Takes}

/-- A state that was seen at the place is passed over, and so is what is no state. -/
theorem visit_over (h : i < m.steps.size → Seen seen place i) :
    m.visit x.prev x.rest.head? place (fuel + 1) (i :: todo) seen takes =
      m.visit x.prev x.rest.head? place fuel todo seen takes := by
  rw [visit]
  split
  · next hi => exact if_pos (h hi)
  · rfl

theorem visit_next (hi : i < m.steps.size) (h : ¬ Seen seen place i) :
    m.visit x.prev x.rest.head? place (fuel + 1) (i :: todo) seen takes =
      (m.next? x i).bind fun (states, ts) =>
        m.visit x.prev x.rest.head? place fuel (states ++ todo) (seen.set! i place) (ts ++ takes) := by
  have hget : m.steps[i]? = some m.steps[i] := Array.getElem?_eq_getElem hi
  have hunseen : ¬ seen.getD i 0 = place := h
  unfold next?
  rw [visit, dif_pos hi, if_neg hunseen, hget]
  cases m.steps[i] with
  | check l n =>
    simp only [Option.bind_some, List.nil_append]
    cases l.holds x.prev x.rest.head? <;> rfl
  | done | take | fork => rfl

/-- A visit ends early only because a match was found. -/
theorem exists_accepts_of_visit_eq_none
    (h : m.visit x.prev x.rest.head? place fuel todo seen takes = none) : ∃ i ∈ todo, m.Accepts i x := by
  induction fuel generalizing todo seen takes with
  | zero => simp [visit] at h
  | succ fuel ih =>
    cases todo with
    | nil => simp [visit] at h
    | cons i todo =>
      by_cases hover : i < m.steps.size → Seen seen place i
      · rw [visit_over hover] at h
        obtain ⟨j, hj, haccepts⟩ := ih h
        exact ⟨j, List.mem_cons_of_mem i hj, haccepts⟩
      · obtain ⟨hi, hunseen⟩ := Classical.not_imp.mp hover
        rw [visit_next hi hunseen] at h
        cases hnext : m.next? x i with
        | none => exact ⟨i, List.mem_cons_self, accepts_of_next?_eq_none hnext⟩
        | some lead =>
          obtain ⟨states, ts⟩ := lead
          rw [hnext] at h
          obtain ⟨j, hj, haccepts⟩ := ih h
          rcases List.mem_append.mp hj with hj | hj
          · exact ⟨i, List.mem_cons_self, accepts_of_next?_eq_some hnext (.inl ⟨j, hj, haccepts⟩)⟩
          · exact ⟨j, List.mem_cons_of_mem i hj, haccepts⟩

/-- What a visit notes was noted before, or a state to be visited leads there. -/
theorem exists_accepts_of_visit {seen' : Array Nat} {takes' : Takes}
    (h : m.visit x.prev x.rest.head? place fuel todo seen takes = some (seen', takes'))
    {t : Nat × Nat} (ht : t ∈ takes') (hcarries : m.Carries x t) :
    t ∈ takes ∨ ∃ i ∈ todo, m.Accepts i x := by
  induction fuel generalizing todo seen takes with
  | zero =>
    obtain ⟨-, rfl⟩ := Prod.mk.inj (Option.some.inj h)
    exact .inl ht
  | succ fuel ih =>
    cases todo with
    | nil =>
      obtain ⟨-, rfl⟩ := Prod.mk.inj (Option.some.inj h)
      exact .inl ht
    | cons i todo =>
      by_cases hover : i < m.steps.size → Seen seen place i
      · rw [visit_over hover] at h
        refine (ih h).imp_right ?_
        rintro ⟨j, hj, haccepts⟩
        exact ⟨j, List.mem_cons_of_mem i hj, haccepts⟩
      · obtain ⟨hi, hunseen⟩ := Classical.not_imp.mp hover
        rw [visit_next hi hunseen] at h
        cases hnext : m.next? x i with
        | none => simp [hnext] at h
        | some lead =>
          obtain ⟨states, ts⟩ := lead
          rw [hnext] at h
          have hlead := accepts_of_next?_eq_some hnext
          rcases ih h with hnoted | ⟨j, hj, haccepts⟩
          · rcases List.mem_append.mp hnoted with hts | hnoted
            · exact .inr ⟨i, List.mem_cons_self, hlead (.inr ⟨t, hts, hcarries⟩)⟩
            · exact .inl hnoted
          · rcases List.mem_append.mp hj with hj | hj
            · exact .inr ⟨i, List.mem_cons_self, hlead (.inl ⟨j, hj, haccepts⟩)⟩
            · exact .inr ⟨j, List.mem_cons_of_mem i hj, haccepts⟩

end

/-! ## What a visit leaves -/

/-- A state has been dealt with: the states to which it leads are known, and the characters that it
takes are noted. -/
def Settled (m : Machine) (x : Place) (known : Nat → Prop) (takes : Takes) (i : Nat) : Prop :=
  ∃ states ts, m.next? x i = some (states, ts) ∧ (∀ j ∈ states, j < m.steps.size → known j) ∧
    ∀ t ∈ ts, t ∈ takes

/-- All states that were seen have been dealt with, up to those that are still to be visited. -/
structure Underway (m : Machine) (x : Place) (place : Nat) (todo : List Nat) (seen : Array Nat)
    (takes : Takes) : Prop where
  size : seen.size = m.steps.size
  marks : ∀ i, seen.getD i 0 ≤ place
  settled : ∀ i, Seen seen place i →
    m.Settled x (fun j => j ∈ todo ∨ Seen seen place j) takes i

section

variable {m : Machine} {x : Place} {place fuel i : Nat} {todo : List Nat} {seen : Array Nat}
  {takes : Takes}

theorem Settled.imp {known known' : Nat → Prop} {takes' : Takes} (h : m.Settled x known takes i)
    (hknown : ∀ j, j < m.steps.size → known j → known' j) (htakes : ∀ t ∈ takes, t ∈ takes') :
    m.Settled x known' takes' i := by
  obtain ⟨states, ts, hnext, hstates, hts⟩ := h
  exact ⟨states, ts, hnext, fun j hj hlt => hknown j hlt (hstates j hj hlt),
    fun t ht => htakes t (hts t ht)⟩

/-- Once nothing is left to visit, what is accepted goes on with one of the characters noted. -/
theorem Underway.exists_carries (h : m.Underway x place [] seen takes) (hi : Seen seen place i)
    (haccepts : m.Accepts i x) : ∃ t ∈ takes, m.Carries x t := by
  obtain ⟨k, haccepts⟩ := haccepts
  induction k using Nat.strong_induction_on generalizing i with
  | h k ih =>
    obtain ⟨states, ts, hnext, hstates, hts⟩ := h.settled i hi
    rcases haccepts.next? hnext with ⟨j, hj, l, hl, haccepts⟩ | ⟨t, ht, hcarries⟩
    · have hlt : j < m.steps.size := by
        by_contra hout
        cases haccepts <;> simp_all
      exact ih l hl ((hstates j hj hlt).resolve_left List.not_mem_nil) haccepts
    · exact ⟨t, hts t ht, hcarries⟩

theorem Underway.over (h : m.Underway x place (i :: todo) seen takes)
    (hover : i < m.steps.size → Seen seen place i) : m.Underway x place todo seen takes where
  size := h.size
  marks := h.marks
  settled j hj := by
    refine (h.settled j hj).imp (fun n hn hknown => ?_) fun _ ht => ht
    rcases hknown with htodo | hseen
    · rcases List.mem_cons.mp htodo with rfl | htodo
      · exact .inr (hover hn)
      · exact .inl htodo
    · exact .inr hseen

theorem Underway.next (h : m.Underway x place (i :: todo) seen takes) (hi : i < m.steps.size)
    {states : List Nat} {ts : Takes} (hnext : m.next? x i = some (states, ts)) :
    m.Underway x place (states ++ todo) (seen.set! i place) (ts ++ takes) where
  size := by simpa using h.size
  marks j := by
    rw [getD_set (h.size ▸ hi)]
    split
    · exact le_refl place
    · exact h.marks j
  settled j hj := by
    have hset (n : Nat) : Seen (seen.set! i place) place n ↔ n = i ∨ Seen seen place n :=
      seen_set (h.size ▸ hi) n
    rw [hset] at hj
    by_cases hji : j = i
    · subst hji
      exact ⟨states, ts, hnext, fun n hn _ => .inl (List.mem_append_left _ hn),
        fun t ht => List.mem_append_left _ ht⟩
    · refine (h.settled j (hj.resolve_left hji)).imp (fun n _ hknown => ?_)
        fun t ht => List.mem_append_right _ ht
      rw [hset]
      rcases hknown with htodo | hseen
      · rcases List.mem_cons.mp htodo with rfl | htodo
        · exact .inr (.inl rfl)
        · exact .inl (List.mem_append_right _ htodo)
      · exact .inr (.inr hseen)

/-- A visit with enough fuel leaves nothing to be visited, and has seen all that it was to see. -/
theorem Underway.visit {seen' : Array Nat} {takes' : Takes} (h : m.Underway x place todo seen takes)
    (hfuel : todo.length + 2 * unseen seen place < fuel)
    (hvisit : m.visit x.prev x.rest.head? place fuel todo seen takes = some (seen', takes')) :
    m.Underway x place [] seen' takes' ∧ (∀ j, Seen seen place j → Seen seen' place j) ∧
      ∀ j ∈ todo, j < m.steps.size → Seen seen' place j := by
  induction fuel generalizing todo seen takes with
  | zero => omega
  | succ fuel ih =>
    cases todo with
    | nil =>
      obtain ⟨rfl, rfl⟩ := Prod.mk.inj (Option.some.inj hvisit)
      exact ⟨h, fun _ hj => hj, by simp⟩
    | cons i todo =>
      rw [List.length_cons] at hfuel
      by_cases hover : i < m.steps.size → Seen seen place i
      · rw [visit_over hover] at hvisit
        obtain ⟨hend, hkept, hdone⟩ := ih (h.over hover) (by omega) hvisit
        refine ⟨hend, hkept, fun j hj hlt => ?_⟩
        rcases List.mem_cons.mp hj with rfl | hj
        · exact hkept j (hover hlt)
        · exact hdone j hj hlt
      · obtain ⟨hi, hunseen⟩ := Classical.not_imp.mp hover
        rw [visit_next hi hunseen] at hvisit
        cases hnext : m.next? x i with
        | none => simp [hnext] at hvisit
        | some lead =>
          obtain ⟨states, ts⟩ := lead
          rw [hnext] at hvisit
          have hsize : i < seen.size := h.size ▸ hi
          have hmarked := unseen_set hsize hunseen
          have hlength := length_le_of_next? hnext
          obtain ⟨hend, hkept, hdone⟩ := ih (h.next hi hnext)
            (by rw [List.length_append]; omega) hvisit
          refine ⟨hend, fun j hj => hkept j ((seen_set hsize j).mpr (.inr hj)), fun j hj hlt => ?_⟩
          rcases List.mem_cons.mp hj with rfl | hj
          · exact hkept j ((seen_set hsize j).mpr (.inl rfl))
          · exact hdone j (List.mem_append_right _ hj) hlt

end

/-! ## A run -/

section

variable {m : Machine} {x : Place} {place : Nat} {states : List Nat} {seen seen' : Array Nat}
  {takes : Takes} {c : Char}

theorem AcceptsIn.lt_size {k i : Nat} (h : m.AcceptsIn k i x) : i < m.steps.size := by
  by_contra hout
  cases h <;> simp_all

/-- Where no state was seen yet, no state has to be dealt with. -/
theorem Underway.begin (hsize : seen.size = m.steps.size) (hmarks : ∀ i, seen.getD i 0 < place)
    (todo : List Nat) : m.Underway x place todo seen [] where
  size := hsize
  marks i := (hmarks i).le
  settled i hi := absurd hi (hmarks i).ne

/-- A visit of all of some states at a new place notes where they go on. -/
theorem exists_accepts_iff_of_visit (hsize : seen.size = m.steps.size)
    (hmarks : ∀ i, seen.getD i 0 < place)
    (h : m.visit x.prev x.rest.head? place (states.length + 2 * m.steps.size + 2) (m.start :: states)
      seen [] = some (seen', takes)) :
    seen'.size = m.steps.size ∧ (∀ i, seen'.getD i 0 < place + 1) ∧
      ((∃ i ∈ m.start :: states, m.Accepts i x) ↔ ∃ t ∈ takes, m.Carries x t) := by
  have hunseen : unseen seen place ≤ m.steps.size := hsize ▸ Array.countP_le_size
  obtain ⟨hend, -, hdone⟩ := (Underway.begin hsize hmarks _).visit
    (by rw [List.length_cons]; omega) h
  refine ⟨hend.size, fun i => Nat.lt_succ_of_le (hend.marks i), ?_⟩
  constructor
  · intro hstates
    obtain ⟨i, hi, k, haccepts⟩ := hstates
    exact hend.exists_carries (hdone i hi haccepts.lt_size) ⟨k, haccepts⟩
  · intro hnoted
    obtain ⟨t, ht, hcarries⟩ := hnoted
    exact (exists_accepts_of_visit h ht hcarries).resolve_left List.not_mem_nil

theorem mem_advance {known : Array (Option Bool)} (takes : Takes) (n : Nat)
    (hknown : ∀ s b, known.getD s none = some b → b = (m.sets[s]?).any (·.contains c)) :
    n ∈ m.advance c takes known states ↔
      n ∈ states ∨ ∃ s, (s, n) ∈ takes ∧ (m.sets[s]?).any (·.contains c) = true := by
  induction takes generalizing known states with
  | nil => simp [advance]
  | cons t takes ih =>
    obtain ⟨s, k⟩ := t
    have hstep (holds : Bool) (hholds : holds = (m.sets[s]?).any (·.contains c)) :
        (n ∈ (if holds then k :: states else states) ∨
            ∃ s', (s', n) ∈ takes ∧ (m.sets[s']?).any (·.contains c) = true) ↔
          n ∈ states ∨ ∃ s', (s', n) ∈ (s, k) :: takes ∧ (m.sets[s']?).any (·.contains c) = true := by
      cases holds <;> simp [List.mem_cons, or_and_right, exists_or, ← hholds, or_left_comm, or_assoc]
    rw [advance]
    split
    · next holds hget =>
      rw [ih hknown]
      exact hstep holds (hknown s holds hget)
    · rw [ih, hstep _ rfl]
      intro s' b hget
      by_cases hs : s' = s
      · subst hs
        by_cases hlt : s' < known.size
        · simpa [hlt, eq_comm] using hget
        · simp [hlt] at hget
      · apply hknown s' b
        simpa [Array.getD_eq_getD_getElem?, Ne.symm hs] using hget

theorem exists_accepts_advance (prev : Option Char) (cs : List Char) :
    (∃ n ∈ m.advance c takes (Array.replicate m.sets.size none) [], m.Accepts n ⟨some c, cs⟩) ↔
      ∃ t ∈ takes, m.Carries ⟨prev, c :: cs⟩ t := by
  have hmem (n : Nat) : n ∈ m.advance c takes (Array.replicate m.sets.size none) [] ↔
      n ∈ [] ∨ ∃ s, (s, n) ∈ takes ∧ (m.sets[s]?).any (·.contains c) = true := by
    apply mem_advance
    intro s b hget
    rw [Array.getD_eq_getD_getElem?, Array.getElem?_replicate] at hget
    split at hget <;> cases hget
  simp only [hmem, List.not_mem_nil, false_or]
  constructor
  · intro h
    obtain ⟨n, ⟨s, ht, hholds⟩, haccepts⟩ := h
    exact ⟨(s, n), ht, c, cs, rfl, hholds, haccepts⟩
  · intro h
    obtain ⟨⟨s, n⟩, ht, _, _, hrest, hholds, haccepts⟩ := h
    obtain ⟨rfl, rfl⟩ := List.cons.inj hrest
    exact ⟨n, ⟨s, ht, hholds⟩, haccepts⟩

theorem exists_accepts_start (x : Place) :
    (∃ i ∈ m.start :: states, m.Accepts i x) ↔ (∃ i ∈ states, m.Accepts i x) ∨ m.Accepts m.start x := by
  rw [List.exists_mem_cons_iff, or_comm]

/-- A run finds a match exactly if one of its states accepts where it stands, or the start of the
machine somewhere from there on. -/
theorem runs_iff {prev : Option Char} (text : List Char) (hsize : seen.size = m.steps.size)
    (hmarks : ∀ i, seen.getD i 0 < place) :
    m.runs place prev states seen text = true ↔
      (∃ i ∈ states, m.Accepts i ⟨prev, text⟩) ∨
        ∃ u v, text = u ++ v ∧ m.Accepts m.start (.behind prev u v) := by
  induction text generalizing place prev states seen with
  | nil =>
    have hhere : (∃ u v, ([] : List Char) = u ++ v ∧ m.Accepts m.start (.behind prev u v)) ↔
        m.Accepts m.start ⟨prev, []⟩ := by simp
    rw [hhere, ← exists_accepts_start, runs, Option.isNone_iff_eq_none]
    constructor
    · exact exists_accepts_of_visit_eq_none (x := ⟨prev, []⟩)
    · intro haccepts
      by_contra hvisit
      obtain ⟨⟨seen', takes⟩, hvisit⟩ := Option.ne_none_iff_exists'.mp hvisit
      obtain ⟨-, -, hiff⟩ := exists_accepts_iff_of_visit (x := ⟨prev, []⟩) hsize hmarks hvisit
      obtain ⟨_, _, _, _, hrest, -⟩ := hiff.mp haccepts
      exact absurd hrest (List.cons_ne_nil _ _).symm
  | cons c cs ih =>
    have hhere : (∃ u v, c :: cs = u ++ v ∧ m.Accepts m.start (.behind prev u v)) ↔
        m.Accepts m.start ⟨prev, c :: cs⟩ ∨
          ∃ u v, cs = u ++ v ∧ m.Accepts m.start (.behind (some c) u v) := by
      simp only [List.cons_eq_append_iff]
      constructor
      · rintro ⟨_, _, ⟨rfl, rfl⟩ | ⟨u, rfl, rfl⟩, haccepts⟩
        · exact .inl haccepts
        · exact .inr ⟨u, _, rfl, Place.behind_cons prev c u _ ▸ haccepts⟩
      · rintro (haccepts | ⟨u, v, rfl, haccepts⟩)
        · exact ⟨[], c :: cs, .inl ⟨rfl, rfl⟩, haccepts⟩
        · exact ⟨c :: u, v, .inr ⟨u, rfl, rfl⟩, (Place.behind_cons prev c u v).symm ▸ haccepts⟩
    rw [hhere, ← or_assoc, ← exists_accepts_start, runs]
    split
    · next hvisit =>
      simp only [true_iff]
      exact .inl (exists_accepts_of_visit_eq_none (x := ⟨prev, c :: cs⟩) hvisit)
    · next seen' takes hvisit =>
      obtain ⟨hsize', hmarks', hiff⟩ :=
        exists_accepts_iff_of_visit (x := ⟨prev, c :: cs⟩) hsize hmarks hvisit
      rw [ih hsize' hmarks', exists_accepts_advance prev, hiff]

/-- A machine finds a match exactly if its start accepts some place of the text. -/
theorem occurs_iff (text : List Char) :
    m.occurs text = true ↔
      ∃ before rest, text = before ++ rest ∧ m.Accepts m.start ⟨before.getLast?, rest⟩ := by
  rw [occurs, runs_iff text (by simp)]
  · simp [Place.behind]
  · intro i
    by_cases hi : i < m.steps.size <;> simp [Array.getD_eq_getD_getElem?, hi]

end

end HookGate.Pattern.Machine
