import Mathlib
import HookGate.Activation.Report

/-!
# Recordings

Names are recorded one after the other, each with a priority. The first recording of a name is the
one that counts: it gives the name its place and its priority, and it alone is answered with true.
What is left of recordings can therefore be told from the recordings.
-/

namespace HookGate

/-! ## Which recordings count -/

section

variable {rs : List (String × Priority)} {r : String × Priority}

/-- The names that are recorded with a priority, in the order of recording. Of several recordings of
a name the first one counts. -/
def recordedWith (rs : List (String × Priority)) (p : Priority) : List String :=
  (rs.map Prod.fst).eraseDups.filter fun name => rs.lookup name = some p

theorem lookup_eq_none_iff_not_mem {name : String} :
    rs.lookup name = none ↔ name ∉ rs.map Prod.fst := by
  simp only [List.lookup_eq_none_iff, bne_iff_ne, List.mem_map, not_exists, not_and]
  exact forall₂_congr fun r _ => ⟨Ne.symm, Ne.symm⟩

/-- What a name is looked up with is its first recording. -/
theorem lookup_eq_some_iff_first {name : String} {p : Priority} :
    rs.lookup name = some p ↔
      ∃ before after, rs = before ++ (name, p) :: after ∧ name ∉ before.map Prod.fst := by
  simp only [List.lookup_eq_some_iff, bne_iff_ne, List.mem_map, not_exists, not_and, ne_comm,
    ne_eq]

theorem mem_recordedWith {name : String} {p : Priority} :
    name ∈ recordedWith rs p ↔ rs.lookup name = some p := by
  simp only [recordedWith, List.mem_filter, List.mem_eraseDups, decide_eq_true_eq,
    and_iff_right_iff_imp]
  intro h
  by_contra hnot
  simp [lookup_eq_none_iff_not_mem.mpr hnot] at h

/-- The names of recordings, each once. -/
theorem eraseDups_concat (names : List String) (name : String) :
    (names ++ [name]).eraseDups =
      if name ∈ names then names.eraseDups else names.eraseDups ++ [name] := by
  rw [List.eraseDups_append]
  by_cases h : name ∈ names <;> simp [List.removeAll, h, List.eraseDups_cons]

theorem nodup_eraseDups (names : List String) : names.eraseDups.Nodup := by
  induction names using List.reverseRecOn with
  | nil => exact .nil
  | append_singleton names name ih =>
    rw [eraseDups_concat]
    split
    · exact ih
    · next h =>
      rw [← List.concat_eq_append]
      exact ih.concat (mt List.mem_eraseDups.mp h)

/-- Names that are kept once stand in the order in which they came first. -/
theorem pairwise_idxOf_eraseDups (names : List String) :
    names.eraseDups.Pairwise fun a b => names.idxOf a < names.idxOf b := by
  induction names using List.reverseRecOn with
  | nil => exact .nil
  | append_singleton names name ih =>
    -- A name that came before keeps its place when another one is added.
    have hplace {a : String} (ha : a ∈ names.eraseDups) :
        (names ++ [name]).idxOf a = names.idxOf a :=
      List.idxOf_append_of_mem (List.mem_eraseDups.mp ha)
    have hbefore : names.eraseDups.Pairwise fun a b =>
        (names ++ [name]).idxOf a < (names ++ [name]).idxOf b := by
      refine ih.imp_of_mem fun ha hb hlt => ?_
      rwa [hplace ha, hplace hb]
    rw [eraseDups_concat]
    split
    · exact hbefore
    · next hnew =>
      refine List.pairwise_append.mpr ⟨hbefore, List.pairwise_singleton _ _, fun a ha b hb => ?_⟩
      obtain rfl := List.mem_singleton.mp hb
      have hlast : (names ++ [b]).idxOf b = names.length := by
        rw [List.idxOf_append_of_notMem hnew, List.idxOf_cons_self, Nat.add_zero]
      rw [hplace ha, hlast]
      exact List.idxOf_lt_length_of_mem (List.mem_eraseDups.mp ha)

theorem nodup_recordedWith (rs : List (String × Priority)) (p : Priority) :
    (recordedWith rs p).Nodup :=
  (nodup_eraseDups _).filter _

/-- A recording counts if its name is new, and leaves what was recorded before as it was. -/
theorem recordedWith_concat (rs : List (String × Priority)) (r : String × Priority) (p : Priority) :
    recordedWith (rs ++ [r]) p =
      recordedWith rs p ++ if r.1 ∉ rs.map Prod.fst ∧ r.2 = p then [r.1] else [] := by
  have hbefore : (rs.map Prod.fst).eraseDups.filter (fun name => (rs ++ [r]).lookup name = some p) =
      recordedWith rs p := by
    refine List.filter_congr fun name hname => ?_
    rw [List.mem_eraseDups] at hname
    cases hlookup : rs.lookup name with
    | none => exact absurd hname (lookup_eq_none_iff_not_mem.mp hlookup)
    | some q => simp [List.lookup_append, hlookup]
  rw [recordedWith, List.map_append, List.map_singleton, eraseDups_concat]
  by_cases h : r.1 ∈ rs.map Prod.fst
  · rw [if_pos h, hbefore, if_neg (fun hnew => hnew.1 h), List.append_nil]
  · rw [if_neg h, List.filter_append, hbefore]
    have hnone := lookup_eq_none_iff_not_mem.mpr h
    have hlookup : (rs ++ [r]).lookup r.1 = some r.2 := by
      rw [List.lookup_append, hnone, Option.none_or]
      exact List.lookup_cons_self
    by_cases hp : r.2 = p <;> simp [h, hp, hlookup]

end

namespace Matches

variable (m : Matches) {rs : List (String × Priority)}

/-! ## One recording -/

theorem contains_iff (n : String) : m.contains n = true ↔ n ∈ m.names := by
  simp only [contains, names, List.any_eq_true, beq_iff_eq, List.mem_map]

variable {m}

theorem recordIfNew_of_mem {name : String} (h : name ∈ m.names) (p : Priority) :
    m.recordIfNew name p = (false, m) :=
  if_pos ((m.contains_iff name).mpr h)

theorem recordIfNew_of_not_mem {name : String} (h : name ∉ m.names) (p : Priority) :
    m.recordIfNew name p = (true, ⟨m.entries ++ [(name, p)]⟩) :=
  if_neg (mt (m.contains_iff name).mp h)

theorem fst_recordIfNew_iff {name : String} {p : Priority} :
    (m.recordIfNew name p).1 = true ↔ name ∉ m.names := by
  by_cases h : name ∈ m.names
  · simp [recordIfNew_of_mem h, h]
  · simp [recordIfNew_of_not_mem h, h]

theorem entries_record (m : Matches) (name : String) (p : Priority) :
    (m.record name p).entries = m.entries ++ if name ∈ m.names then [] else [(name, p)] := by
  by_cases h : name ∈ m.names
  · rw [record, recordIfNew_of_mem h, if_pos h, List.append_nil]
  · rw [record, recordIfNew_of_not_mem h, if_neg h]

theorem namesWith_sublist (m : Matches) (p : Priority) : (m.namesWith p).Sublist m.names :=
  List.filter_sublist.map _

/-! ## Recordings one after the other -/

/-- What is left of recordings that were made one after the other. -/
def ofRecorded (rs : List (String × Priority)) : Matches :=
  rs.foldl (fun m r => m.record r.1 r.2) {}

theorem ofRecorded_concat (rs : List (String × Priority)) (r : String × Priority) :
    ofRecorded (rs ++ [r]) = (ofRecorded rs).record r.1 r.2 := by
  simp [ofRecorded]

theorem names_ofRecorded (rs : List (String × Priority)) :
    (ofRecorded rs).names = (rs.map Prod.fst).eraseDups := by
  induction rs using List.reverseRecOn with
  | nil => rfl
  | append_singleton rs r ih =>
    rw [names, ofRecorded_concat, entries_record, List.map_append, ← names, ih, List.map_append,
      List.map_singleton, eraseDups_concat]
    by_cases h : r.1 ∈ rs.map Prod.fst <;> simp [List.mem_eraseDups, h]

theorem mem_names_ofRecorded {name : String} :
    name ∈ (ofRecorded rs).names ↔ name ∈ rs.map Prod.fst := by
  rw [names_ofRecorded, List.mem_eraseDups]

theorem entries_ofRecorded_concat (rs : List (String × Priority)) (r : String × Priority) :
    (ofRecorded (rs ++ [r])).entries =
      (ofRecorded rs).entries ++ if r.1 ∈ rs.map Prod.fst then [] else [r] := by
  simp only [ofRecorded_concat, entries_record, mem_names_ofRecorded]

theorem namesWith_ofRecorded (rs : List (String × Priority)) (p : Priority) :
    (ofRecorded rs).namesWith p = recordedWith rs p := by
  induction rs using List.reverseRecOn with
  | nil => rfl
  | append_singleton rs r ih =>
    rw [namesWith, entries_ofRecorded_concat, List.filter_append, List.map_append, recordedWith_concat,
      ← ih, namesWith]
    by_cases h : r.1 ∈ rs.map Prod.fst
    · simp [h]
    · by_cases hp : r.2 = p <;> simp [h, hp]

theorem priorityOf?_ofRecorded (rs : List (String × Priority)) (name : String) :
    (ofRecorded rs).priorityOf? name = rs.lookup name := by
  induction rs using List.reverseRecOn with
  | nil => rfl
  | append_singleton rs r ih =>
    rw [priorityOf?, entries_ofRecorded_concat, List.lookup_append, List.lookup_append, ← priorityOf?,
      ih]
    by_cases h : r.1 ∈ rs.map Prod.fst
    · rw [if_pos h, List.lookup_nil, Option.or_none]
      cases hlookup : rs.lookup name with
      | some p => rfl
      | none =>
        -- A name that was not recorded before is not the one that is recorded again.
        have hne : name ≠ r.1 := fun heq => lookup_eq_none_iff_not_mem.mp hlookup (heq ▸ h)
        exact (lookup_eq_none_iff_not_mem.mpr (by simpa using hne)).symm
    · rw [if_neg h]

theorem existsUnique_namesWith_ofRecorded {name : String} (h : name ∈ (ofRecorded rs).names) :
    ∃! p, name ∈ (ofRecorded rs).namesWith p := by
  simp only [namesWith_ofRecorded, mem_recordedWith]
  have hsome : rs.lookup name ≠ none := fun hnone =>
    lookup_eq_none_iff_not_mem.mp hnone (mem_names_ofRecorded.mp h)
  obtain ⟨p, hp⟩ := Option.ne_none_iff_exists'.mp hsome
  exact ⟨p, hp, fun q hq => Option.some.inj (hq.symm.trans hp)⟩

/-- Recordings one after the other, with the answer to each of them. -/
def recordAll (m : Matches) : List (String × Priority) → List Bool × Matches
  | [] => ([], m)
  | (name, p) :: rs =>
    let (new, next) := m.recordIfNew name p
    let (answers, last) := next.recordAll rs
    (new :: answers, last)

theorem snd_recordAll (m : Matches) (rs : List (String × Priority)) :
    (m.recordAll rs).2 = rs.foldl (fun m r => m.record r.1 r.2) m := by
  induction rs generalizing m with
  | nil => rfl
  | cons r rs ih => exact ih _

theorem length_fst_recordAll (m : Matches) (rs : List (String × Priority)) :
    (m.recordAll rs).1.length = rs.length := by
  induction rs generalizing m with
  | nil => rfl
  | cons r rs ih => exact congrArg Nat.succ (ih _)

theorem fst_recordAll_append (m : Matches) (rs rs' : List (String × Priority)) :
    (m.recordAll (rs ++ rs')).1 = (m.recordAll rs).1 ++ ((m.recordAll rs).2.recordAll rs').1 := by
  induction rs generalizing m with
  | nil => rfl
  | cons r rs ih => exact congrArg (_ :: ·) (ih _)

theorem snd_recordAll_empty (rs : List (String × Priority)) :
    (recordAll {} rs).2 = ofRecorded rs :=
  snd_recordAll _ rs

/-- Each recording is answered as what is left of those before it answers it. -/
theorem getElem?_fst_recordAll (before after : List (String × Priority)) (name : String)
    (p : Priority) :
    (recordAll {} (before ++ (name, p) :: after)).1[before.length]? =
      some ((ofRecorded before).recordIfNew name p).1 := by
  rw [fst_recordAll_append, List.getElem?_append_right (length_fst_recordAll _ _).le,
    length_fst_recordAll, Nat.sub_self, snd_recordAll_empty]
  rfl

/-! ## The history of recordings -/

/-- What recordings on empty matches tell of their answers and of the matches that they leave. -/
structure History (rs : List (String × Priority)) (answers : List Bool) (m : Matches) : Prop where
  length_answers : answers.length = rs.length
  /-- A recording is answered with true exactly if its name was not recorded before. -/
  answer_iff : ∀ before name p after, rs = before ++ (name, p) :: after →
    (answers[before.length]? = some true ↔ name ∉ before.map Prod.fst)
  nodup_names : m.names.Nodup
  mem_names_iff : ∀ name, name ∈ m.names ↔ name ∈ rs.map Prod.fst
  /-- The names stand in the order of their first recordings. -/
  names_ordered : m.names.Pairwise fun a b =>
    (rs.map Prod.fst).idxOf a < (rs.map Prod.fst).idxOf b
  /-- The priority of a name is that of its first recording. -/
  priorityOf?_eq_some_iff : ∀ name p, m.priorityOf? name = some p ↔
    ∃ before after, rs = before ++ (name, p) :: after ∧ name ∉ before.map Prod.fst
  priorityOf?_eq_none_iff : ∀ name, m.priorityOf? name = none ↔ name ∉ rs.map Prod.fst
  /-- A name that was recorded can be recorded again with any priority, and nothing changes. -/
  recorded_again : ∀ name ∈ rs.map Prod.fst, ∀ p, m.recordIfNew name p = (false, m)
  /-- The names of a priority stand in the order of all names. -/
  namesWith_sublist : ∀ p, (m.namesWith p).Sublist m.names
  mem_namesWith_iff : ∀ name p, name ∈ m.namesWith p ↔ m.priorityOf? name = some p
  /-- Each name is among the names of one priority, and of no other. -/
  existsUnique_priority : ∀ name ∈ m.names, ∃! p, name ∈ m.namesWith p

/-- However often names are recorded, and with whatever priorities: the first recording of a name is
the one that is answered with true, that gives the name its place among the names and that gives it
its priority. Later ones change nothing, and the four priorities divide the names in their order. -/
theorem history_recordAll (rs : List (String × Priority)) :
    History rs (recordAll {} rs).1 (recordAll {} rs).2 := by
  rw [snd_recordAll_empty]
  exact
    { length_answers := length_fst_recordAll _ _
      answer_iff := by
        rintro before name p after rfl
        rw [getElem?_fst_recordAll, Option.some_inj, fst_recordIfNew_iff, mem_names_ofRecorded]
      nodup_names := names_ofRecorded rs ▸ nodup_eraseDups _
      mem_names_iff := fun name => mem_names_ofRecorded
      names_ordered := names_ofRecorded rs ▸ pairwise_idxOf_eraseDups _
      priorityOf?_eq_some_iff := fun name p => by
        rw [priorityOf?_ofRecorded, lookup_eq_some_iff_first]
      priorityOf?_eq_none_iff := fun name => by
        rw [priorityOf?_ofRecorded, lookup_eq_none_iff_not_mem]
      recorded_again := fun name h p => recordIfNew_of_mem (mem_names_ofRecorded.mpr h) p
      namesWith_sublist := (ofRecorded rs).namesWith_sublist
      mem_namesWith_iff := fun name p => by
        rw [namesWith_ofRecorded, mem_recordedWith, priorityOf?_ofRecorded]
      existsUnique_priority := fun name => existsUnique_namesWith_ofRecorded }

end Matches

end HookGate
