import Mathlib
import HookGate.System.Listing

/-!
# The first file of a listing

A listing is searched in the order of names, and each directory before what stands behind it. In a
directory each name stands once, so the file that is come upon first is the least of all: the names
that lead to it are before those of any other file of the same name, compared one by one.
-/

namespace HookGate.Listing

variable {name n : String} {names : List String} {l : Listing}

/-- The names lead to a file called `name`, the last of them being its own. -/
@[simp]
def Holds (name : String) : Listing → List String → Prop
  | nothing, _ => False
  | file n rest, names => n = name ∧ names = [n] ∨ rest.Holds name names
  | directory n below rest, names =>
    (∃ inside, names = n :: inside ∧ below.Holds name inside) ∨ rest.Holds name names
  | other _ rest, names => rest.Holds name names

/-- The names of a directory, without those further down. -/
@[simp]
def siblings : Listing → List String
  | nothing => []
  | file n rest | directory n _ rest | other n rest => n :: rest.siblings

/-- No name stands twice in one directory. -/
def Distinct : Listing → Prop
  | nothing => True
  | file n rest | other n rest => n ∉ rest.siblings ∧ rest.Distinct
  | directory n below rest => n ∉ rest.siblings ∧ below.Distinct ∧ rest.Distinct

/-- In each directory the names stand in their order. -/
def Ordered : Listing → Prop
  | nothing => True
  | file n rest | other n rest => (∀ m ∈ rest.siblings, n < m) ∧ rest.Ordered
  | directory n below rest => (∀ m ∈ rest.siblings, n < m) ∧ below.Ordered ∧ rest.Ordered

/-! ## Sorting -/

/-- Puts an entry called `n` in front of the first name that is not before its own. -/
@[simp]
def insert (n : String) (entry : Listing → Listing) : Listing → Listing
  | nothing => entry nothing
  | file m rest => if m < n then file m (insert n entry rest) else entry (file m rest)
  | directory m below rest =>
    if m < n then directory m below (insert n entry rest) else entry (directory m below rest)
  | other m rest => if m < n then other m (insert n entry rest) else entry (other m rest)

theorem addFile_eq_insert (n : String) (l : Listing) : addFile n l = l.insert n (file n) := by
  induction l with
  | nothing => rfl
  | file m rest ih | other m rest ih => rw [addFile, insert, ih]
  | directory m below rest _ ih => rw [addFile, insert, ih]

theorem addDirectory_eq_insert (n : String) (inside l : Listing) :
    addDirectory n inside l = l.insert n (directory n inside) := by
  induction l with
  | nothing => rfl
  | file m rest ih | other m rest ih => rw [addDirectory, insert, ih]
  | directory m below rest _ ih => rw [addDirectory, insert, ih]

section

variable {entry : Listing → Listing}

theorem mem_siblings_insert (hentry : ∀ l, (entry l).siblings = n :: l.siblings) {m : String} :
    m ∈ (l.insert n entry).siblings ↔ m = n ∨ m ∈ l.siblings := by
  induction l with
  | nothing => simp [insert, hentry, siblings]
  | file k rest ih | other k rest ih =>
    rw [insert]
    split
    · simp [siblings, ih, or_left_comm]
    · simp [siblings, hentry]
  | directory k below rest _ ih =>
    rw [insert]
    split
    · simp [siblings, ih, or_left_comm]
    · simp [siblings, hentry]

/-- What an entry leads to by itself, it leads to wherever it is put. -/
theorem holds_insert {p : Prop} (hentry : ∀ l, (entry l).Holds name names ↔ p ∨ l.Holds name names) :
    (l.insert n entry).Holds name names ↔ p ∨ l.Holds name names := by
  induction l with
  | nothing => exact hentry nothing
  | file k rest ih | other k rest ih =>
    rw [insert]
    split
    · simp only [Holds, ih, or_left_comm]
    · exact hentry _
  | directory k below rest _ ih =>
    rw [insert]
    split
    · simp only [Holds, ih, or_left_comm]
    · exact hentry _

theorem ordered_insert (hsiblings : ∀ l, (entry l).siblings = n :: l.siblings)
    (hentry : ∀ l, l.Ordered → (∀ m ∈ l.siblings, n < m) → (entry l).Ordered) (hl : l.Ordered)
    (hn : n ∉ l.siblings) : (l.insert n entry).Ordered := by
  -- Behind a name that is not before the new one, all names are behind the new one.
  have hbehind {k : String} {rest : List String} (hk : ¬ k < n) (hne : n ≠ k) (hrest : ∀ m ∈ rest, k < m) :
      ∀ m ∈ k :: rest, n < m := by
    have hnk : n < k := lt_of_le_of_ne (not_lt.mp hk) hne
    exact List.forall_mem_cons.mpr ⟨hnk, fun m hm => hnk.trans (hrest m hm)⟩
  have hbefore {k : String} {rest : Listing} (hk : k < n) (hrest : ∀ m ∈ rest.siblings, k < m) :
      ∀ m ∈ (rest.insert n entry).siblings, k < m := by
    intro m hm
    rcases (mem_siblings_insert hsiblings).mp hm with rfl | hm
    · exact hk
    · exact hrest m hm
  induction l with
  | nothing => exact hentry nothing trivial (by simp [siblings])
  | file k rest ih | other k rest ih =>
    obtain ⟨hne, hrest⟩ := not_or.mp (mt List.mem_cons.mpr hn)
    rw [insert]
    split
    · next hk => exact ⟨hbefore hk hl.1, ih hl.2 hrest⟩
    · next hk => exact hentry _ hl (hbehind hk hne hl.1)
  | directory k below rest _ ih =>
    obtain ⟨hne, hrest⟩ := not_or.mp (mt List.mem_cons.mpr hn)
    rw [insert]
    split
    · next hk => exact ⟨hbefore hk hl.1, hl.2.1, ih hl.2.2 hrest⟩
    · next hk => exact hentry _ hl (hbehind hk hne hl.1)

end

theorem sorted_file (n : String) (rest : Listing) :
    (file n rest).sorted = rest.sorted.insert n (file n) :=
  addFile_eq_insert n rest.sorted

theorem sorted_directory (n : String) (below rest : Listing) :
    (directory n below rest).sorted = rest.sorted.insert n (directory n below.sorted) :=
  addDirectory_eq_insert n below.sorted rest.sorted

theorem mem_siblings_of_sorted {m : String} (h : m ∈ l.sorted.siblings) : m ∈ l.siblings := by
  induction l with
  | nothing => exact h
  | file n rest ih =>
    rw [sorted_file, mem_siblings_insert fun _ => rfl] at h
    exact List.mem_cons.mpr (h.imp_right ih)
  | directory n below rest _ ih =>
    rw [sorted_directory, mem_siblings_insert fun _ => rfl] at h
    exact List.mem_cons.mpr (h.imp_right ih)
  | other n rest ih => exact List.mem_cons_of_mem n (ih h)

/-- Sorting keeps the files and where they are. -/
theorem holds_sorted : l.sorted.Holds name names ↔ l.Holds name names := by
  induction l generalizing names with
  | nothing => rfl
  | file n rest ih => rw [sorted_file, holds_insert fun _ => Iff.rfl, ih, Holds]
  | directory n below rest ihbelow ih =>
    rw [sorted_directory, holds_insert fun _ => Iff.rfl, ih, Holds]
    simp only [ihbelow]
  | other n rest ih => exact ih

theorem ordered_sorted (h : l.Distinct) : l.sorted.Ordered := by
  induction l with
  | nothing => trivial
  | file n rest ih =>
    rw [sorted_file]
    exact ordered_insert (fun _ => rfl) (fun _ hrest hn => ⟨hn, hrest⟩) (ih h.2)
      (mt mem_siblings_of_sorted h.1)
  | directory n below rest ihbelow ih =>
    rw [sorted_directory]
    exact ordered_insert (fun _ => rfl) (fun _ hrest hn => ⟨hn, ihbelow h.2.1, hrest⟩) (ih h.2.2)
      (mt mem_siblings_of_sorted h.1)
  | other n rest ih => exact ih h.2

/-! ## Searching -/

theorem first?_file (n : String) (rest : Listing) :
    first? name (file n rest) = if n = name then some [n] else first? name rest :=
  rfl

theorem first?_directory (n : String) (below rest : Listing) :
    first? name (directory n below rest) =
      match first? name below with
      | some inside => some (n :: inside)
      | none => first? name rest :=
  rfl

theorem exists_sibling_of_holds (h : l.Holds name names) :
    ∃ m ∈ l.siblings, ∃ inside, names = m :: inside := by
  induction l with
  | nothing => contradiction
  | file n rest ih =>
    rcases h with ⟨-, hnames⟩ | h
    · exact ⟨n, List.mem_cons_self, [], hnames⟩
    · obtain ⟨m, hm, hnames⟩ := ih h
      exact ⟨m, List.mem_cons_of_mem n hm, hnames⟩
  | directory n below rest _ ih =>
    rcases h with ⟨inside, hnames, -⟩ | h
    · exact ⟨n, List.mem_cons_self, inside, hnames⟩
    · obtain ⟨m, hm, hnames⟩ := ih h
      exact ⟨m, List.mem_cons_of_mem n hm, hnames⟩
  | other n rest ih =>
    obtain ⟨m, hm, hnames⟩ := ih h
    exact ⟨m, List.mem_cons_of_mem n hm, hnames⟩

/-- Names that lead on from a name are before all that lead to what stands behind it. -/
theorem cons_lt_of_holds {inside : List String} (hn : ∀ m ∈ l.siblings, n < m)
    (h : l.Holds name names) : n :: inside < names := by
  obtain ⟨m, hm, behind, rfl⟩ := exists_sibling_of_holds h
  exact List.Lex.rel (hn m hm)

theorem holds_of_first? (h : first? name l = some names) : l.Holds name names := by
  induction l generalizing names with
  | nothing => contradiction
  | file n rest ih =>
    rw [first?_file] at h
    split at h
    · next hn => exact .inl ⟨hn, (Option.some.inj h).symm⟩
    · exact .inr (ih h)
  | directory n below rest ihbelow ih =>
    rw [first?_directory] at h
    split at h
    · next inside hinside => exact .inl ⟨inside, (Option.some.inj h).symm, ihbelow hinside⟩
    · exact .inr (ih h)
  | other n rest ih => exact ih h

theorem not_holds_of_first? (h : first? name l = none) : ¬ l.Holds name names := by
  induction l generalizing names with
  | nothing => exact id
  | file n rest ih =>
    rw [first?_file] at h
    split at h
    · contradiction
    · next hn => exact not_or.mpr ⟨fun hfile => hn hfile.1, ih h⟩
  | directory n below rest ihbelow ih =>
    rw [first?_directory] at h
    split at h
    · contradiction
    · next hbelow =>
      refine not_or.mpr ⟨?_, ih h⟩
      rintro ⟨inside, -, hinside⟩
      exact ihbelow hbelow hinside
  | other n rest ih => exact ih h

theorem first?_eq_none_iff : first? name l = none ↔ ∀ names, ¬ l.Holds name names := by
  refine ⟨fun h _ => not_holds_of_first? h, fun h => ?_⟩
  cases hfirst : first? name l with
  | none => rfl
  | some names => exact absurd (holds_of_first? hfirst) (h names)

theorem least_of_first? (hl : l.Ordered) (h : first? name l = some names) {others : List String}
    (hothers : l.Holds name others) : others = names ∨ names < others := by
  induction l generalizing names others with
  | nothing => contradiction
  | file n rest ih =>
    rw [first?_file] at h
    split at h
    · obtain rfl := Option.some.inj h
      rcases hothers with ⟨-, hothers⟩ | hothers
      · exact .inl hothers
      · exact .inr (cons_lt_of_holds hl.1 hothers)
    · next hn => exact ih hl.2 h (hothers.resolve_left fun hfile => hn hfile.1)
  | directory n below rest ihbelow ih =>
    rw [first?_directory] at h
    split at h
    · next inside hinside =>
      obtain rfl := Option.some.inj h
      rcases hothers with ⟨others, rfl, hothers⟩ | hothers
      · rcases ihbelow hl.2.1 hinside hothers with rfl | hlt
        · exact .inl rfl
        · exact .inr (List.Lex.cons hlt)
      · exact .inr (cons_lt_of_holds hl.1 hothers)
    · next hnone =>
      refine ih hl.2.2 h (hothers.resolve_left ?_)
      rintro ⟨inside, -, hinside⟩
      exact not_holds_of_first? hnone hinside
  | other n rest ih => exact ih hl.2 h hothers

theorem findFile?_eq_none_iff : findFile? name l = none ↔ ∀ names, ¬ l.Holds name names := by
  simp only [findFile?, first?_eq_none_iff, holds_sorted]

/-- The file that is found is the least of its name. -/
theorem least_of_findFile? (hl : l.Distinct) (h : findFile? name l = some names) :
    l.Holds name names ∧ ∀ others, l.Holds name others → others = names ∨ names < others :=
  ⟨holds_sorted.mp (holds_of_first? h),
    fun _ hothers => least_of_first? (ordered_sorted hl) h (holds_sorted.mpr hothers)⟩

end HookGate.Listing
