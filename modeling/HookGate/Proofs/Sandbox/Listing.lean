import Mathlib
import HookGate.Proofs.System.Listing
import HookGate.Sandbox.FileSystem

/-!
# Listings of file systems

What is listed below a directory is what stands there: a listing leads to a file just if the file can
be reached over directories. No link is followed, and no level is left out.
-/

namespace HookGate.Sandbox

def Node.isFile : Node → Bool
  | .file _ _ _ | .tool _ => true
  | .directory | .link _ | .device _ => false

namespace FileSystem

variable {fs : FileSystem} {l : Location} {name : String} {names : List String}

/-- Not more than one thing stands at a location. -/
def Distinct (fs : FileSystem) : Prop := (fs.nodes.map Prod.fst).Nodup

instance (fs : FileSystem) : Decidable fs.Distinct := inferInstanceAs (Decidable (List.Nodup _))

/-- The names lead from a directory to a file called `name`, over directories only. -/
structure IsFileBelow (fs : FileSystem) (l : Location) (name : String) (names : List String) : Prop where
  called : names.getLast? = some name
  file : (fs.get? (l ++ names)).any Node.isFile = true
  directories : ∀ k, 0 < k → k < names.length → fs.get? (l ++ names.take k) = some .directory

/-! ## Changes keep things apart -/

theorem distinct_erase (h : fs.Distinct) (l : Location) : (fs.erase l).Distinct :=
  h.sublist (List.filter_sublist.map Prod.fst)

theorem distinct_put (h : fs.Distinct) (l : Location) (n : Node) : (fs.put l n).Distinct := by
  refine List.nodup_cons.mpr ⟨?_, distinct_erase h l⟩
  simp [erase]

theorem distinct_plant (h : fs.Distinct) (l : Location) (n : Node) : (fs.plant l n).Distinct := by
  refine distinct_put ?_ l n
  generalize ((List.range l.length).map fun k => l.take k) = above
  induction above generalizing fs with
  | nil => exact h
  | cons d above ih =>
    refine ih ?_
    dsimp only
    split
    · exact h
    · exact distinct_put h d .directory

theorem distinct_plantFile (h : fs.Distinct) (l : Location) (content : Bytes) (executable : Bool) :
    (fs.plantFile l content executable).Distinct :=
  distinct_plant h l _

/-! ## What stands in a directory -/

/-- What is taken for a child of a directory stands there. -/
theorem eq_of_child {e : Location × Node} {child : String × Node}
    (h : (match e.1.getLast? with
      | some name => if e.1.dropLast = l then some (name, e.2) else none
      | none => none) = some child) : e = (l ++ [child.1], child.2) := by
  split at h
  · next name hlast =>
    split at h
    · next hl =>
      obtain rfl := Option.some.inj h
      obtain ⟨front, hfront⟩ := List.getLast?_eq_some_iff.mp hlast
      rw [hfront, List.dropLast_concat] at hl
      rw [← hl, ← hfront]
    · contradiction
  · contradiction

theorem mem_children {n : Node} : (name, n) ∈ fs.children l ↔ (l ++ [name], n) ∈ fs.nodes := by
  rw [children, List.mem_filterMap]
  constructor
  · rintro ⟨e, hmem, hchild⟩
    rwa [eq_of_child hchild] at hmem
  · intro hmem
    exact ⟨_, hmem, by simp⟩

/-- A directory has one child of a name. -/
theorem Distinct.nodup_children (h : fs.Distinct) (l : Location) :
    ((fs.children l).map Prod.fst).Nodup := by
  rw [List.Nodup, List.pairwise_map, children, List.pairwise_filterMap]
  refine (List.pairwise_map.mp h).imp ?_
  intro e e' hne child hchild child' hchild' hsame
  rw [eq_of_child hchild, eq_of_child hchild', hsame] at hne
  exact hne rfl

theorem Distinct.get?_eq_some_iff (h : fs.Distinct) (hl : l ≠ []) {n : Node} :
    fs.get? l = some n ↔ (l, n) ∈ fs.nodes := by
  rw [get?, if_neg hl, List.lookup_eq_some_iff]
  constructor
  · rintro ⟨before, after, hnodes, -⟩
    simp [hnodes]
  · intro hmem
    obtain ⟨before, after, hnodes⟩ := List.append_of_mem hmem
    refine ⟨before, after, hnodes, fun e he => ?_⟩
    rw [Distinct, hnodes, List.map_append, List.nodup_append] at h
    simpa using (h.2.2 e.1 (List.mem_map_of_mem he) l (by simp)).symm

theorem Distinct.mem_children_iff (h : fs.Distinct) {n : Node} :
    (name, n) ∈ fs.children l ↔ fs.get? (l ++ [name]) = some n := by
  rw [mem_children, h.get?_eq_some_iff (by simp)]

/-! ## What is listed -/

theorem IsFileBelow.ne_nil (h : fs.IsFileBelow l name names) : names ≠ [] := by
  rintro rfl
  exact absurd h.called (by simp)

/-- One more step on the way to a file: it ends there, or it goes through a directory. -/
theorem isFileBelow_cons {m : String} :
    fs.IsFileBelow l name (m :: names) ↔
      (m = name ∧ names = [] ∧ (fs.get? (l ++ [m])).any Node.isFile = true) ∨
        (fs.get? (l ++ [m]) = some .directory ∧ fs.IsFileBelow (l ++ [m]) name names) := by
  constructor
  · rintro ⟨hcalled, hfile, hdirectories⟩
    cases names with
    | nil => exact .inl ⟨by simpa using hcalled, rfl, hfile⟩
    | cons next names =>
      refine .inr ⟨hdirectories 1 (by simp) (by simp), ?_, ?_, fun k hpos hk => ?_⟩
      · rwa [List.getLast?_cons_cons] at hcalled
      · rwa [List.append_assoc]
      · rw [List.append_assoc]
        exact hdirectories (k + 1) k.succ_pos (Nat.succ_lt_succ hk)
  · rintro (⟨rfl, rfl, hfile⟩ | ⟨hdirectory, hcalled, hfile, hdirectories⟩)
    · exact ⟨rfl, hfile, fun k hpos hk => by simp at hk; omega⟩
    · refine ⟨?_, by rwa [List.append_assoc] at hfile, fun k hpos hk => ?_⟩
      · rw [List.getLast?_cons, hcalled]
        rfl
      · obtain ⟨k, rfl⟩ := Nat.exists_eq_add_of_lt hpos
        cases k with
        | zero => simpa using hdirectory
        | succ k =>
          have hnext := hdirectories (k + 1) k.succ_pos (by simpa using hk)
          simpa using hnext

/-- A child of a directory, in front of a listing of others. -/
def entry (fs : FileSystem) (n : Nat) (l : Location) : String × Node → Listing → Listing
  | (name, .directory), rest => .directory name (fs.listingAt n (l ++ [name])) rest
  | (name, .file _ _ _), rest | (name, .tool _), rest => .file name rest
  | (name, .link _), rest | (name, .device _), rest => .other name rest

theorem listingAt_succ (fs : FileSystem) (n : Nat) (l : Location) :
    fs.listingAt (n + 1) l = (fs.children l).foldr (fs.entry n l) .nothing := by
  rw [listingAt]
  congr
  funext ⟨name, node⟩ rest
  cases node <;> rfl

theorem siblings_entries (n : Nat) (cs : List (String × Node)) :
    (cs.foldr (fs.entry n l) .nothing).siblings = cs.map Prod.fst := by
  induction cs with
  | nil => rfl
  | cons c cs ih =>
    obtain ⟨m, node⟩ := c
    cases node <;> simp [entry, Listing.siblings, ih]

theorem distinct_listingAt (h : fs.Distinct) (n : Nat) (l : Location) : (fs.listingAt n l).Distinct := by
  induction n generalizing l with
  | zero => trivial
  | succ n ih =>
    rw [listingAt_succ]
    have hnodup := h.nodup_children l
    generalize fs.children l = cs at hnodup
    induction cs with
    | nil => trivial
    | cons c cs ihcs =>
      obtain ⟨m, node⟩ := c
      obtain ⟨hm, hcs⟩ := List.nodup_cons.mp hnodup
      rw [← siblings_entries n] at hm
      cases node with
      | directory => exact ⟨hm, ih _, ihcs hcs⟩
      | file | tool | link | device => exact ⟨hm, ihcs hcs⟩

theorem holds_entries {n : Nat} {cs : List (String × Node)} :
    (cs.foldr (fs.entry n l) .nothing).Holds name names ↔
      ∃ c ∈ cs, (c.2.isFile = true ∧ c.1 = name ∧ names = [c.1]) ∨
        (c.2 = .directory ∧
          ∃ inside, names = c.1 :: inside ∧ (fs.listingAt n (l ++ [c.1])).Holds name inside) := by
  induction cs with
  | nil => simp [Listing.Holds]
  | cons c cs ih =>
    obtain ⟨m, node⟩ := c
    cases node <;> simp [entry, Listing.Holds, Node.isFile, ih]

/-- A listing of so many levels leads to what is not further down. -/
theorem holds_listingAt_iff (h : fs.Distinct) {n : Nat} :
    (fs.listingAt n l).Holds name names ↔ names.length ≤ n ∧ fs.IsFileBelow l name names := by
  induction n generalizing l names with
  | zero =>
    refine ⟨False.elim, fun ⟨hlength, hbelow⟩ => ?_⟩
    exact absurd (List.length_eq_zero_iff.mp (Nat.le_zero.mp hlength)) hbelow.ne_nil
  | succ n ih =>
    rw [listingAt_succ, holds_entries]
    cases names with
    | nil =>
      refine ⟨?_, fun ⟨_, hbelow⟩ => absurd rfl hbelow.ne_nil⟩
      rintro ⟨c, -, ⟨-, -, hnames⟩ | ⟨-, inside, hnames, -⟩⟩ <;> contradiction
    | cons m names =>
      rw [isFileBelow_cons, List.length_cons, Nat.succ_le_succ_iff]
      constructor
      · rintro ⟨⟨k, node⟩, hc, ⟨hfile, rfl, hnames⟩ | ⟨rfl, inside, hnames, hinside⟩⟩
        · obtain ⟨rfl, rfl⟩ := List.cons.inj hnames
          refine ⟨by simp, .inl ⟨rfl, rfl, ?_⟩⟩
          rw [h.mem_children_iff.mp hc]
          exact hfile
        · obtain ⟨rfl, rfl⟩ := List.cons.inj hnames
          obtain ⟨hlength, hbelow⟩ := ih.mp hinside
          exact ⟨hlength, .inr ⟨h.mem_children_iff.mp hc, hbelow⟩⟩
      · rintro ⟨hlength, ⟨rfl, rfl, hfile⟩ | ⟨hdirectory, hbelow⟩⟩
        · obtain ⟨node, hnode, hfile⟩ := (Option.any_eq_true _ _).mp hfile
          exact ⟨(m, node), h.mem_children_iff.mpr hnode, .inl ⟨hfile, rfl, rfl⟩⟩
        · exact ⟨(m, .directory), h.mem_children_iff.mpr hdirectory,
            .inr ⟨rfl, names, rfl, ih.mpr ⟨hlength, hbelow⟩⟩⟩

theorem length_le_depth {n : Node} (h : (l, n) ∈ fs.nodes) : l.length ≤ fs.depth := by
  have hfold (nodes : List (Location × Node)) (d : Nat) :
      d ≤ nodes.foldl (fun d e => max d e.1.length) d ∧
        ∀ e ∈ nodes, e.1.length ≤ nodes.foldl (fun d e => max d e.1.length) d := by
    induction nodes generalizing d with
    | nil => simp
    | cons e nodes ih =>
      obtain ⟨hd, hnodes⟩ := ih (max d e.1.length)
      rw [List.foldl_cons]
      exact ⟨(le_max_left _ _).trans hd, List.forall_mem_cons.mpr ⟨(le_max_right _ _).trans hd, hnodes⟩⟩
  exact (hfold fs.nodes 0).2 _ h

theorem IsFileBelow.length_le (h : fs.IsFileBelow l name names) (hfs : fs.Distinct) :
    names.length ≤ fs.depth := by
  obtain ⟨n, hn, -⟩ := (Option.any_eq_true _ _).mp h.file
  have hdepth := length_le_depth ((hfs.get?_eq_some_iff (by simp [h.ne_nil])).mp hn)
  rw [List.length_append] at hdepth
  omega

/-- What is listed of a directory leads to each file below it, and to nothing else. -/
theorem holds_listing (h : fs.Distinct) :
    (fs.listingAt (fs.depth + 1) l).Holds name names ↔ fs.IsFileBelow l name names := by
  rw [holds_listingAt_iff h]
  exact ⟨And.right, fun hbelow => ⟨(hbelow.length_le h).trans (Nat.le_succ _), hbelow⟩⟩

variable {cwd : Location} {path : String}

theorem listing?_eq_some_iff {listing : Listing} :
    fs.listing? cwd path = some listing ↔
      ∃ l, fs.find cwd path = .ok (l, .directory) ∧ fs.listingAt (fs.depth + 1) l = listing := by
  rw [listing?]
  split
  · next l hfind => simp [hfind]
  · next hfind =>
    refine ⟨nofun, fun ⟨l, hl, _⟩ => ?_⟩
    exact absurd hl (hfind l)

theorem listing?_eq_none_iff :
    fs.listing? cwd path = none ↔ ∀ l, fs.find cwd path ≠ .ok (l, .directory) := by
  simp [Option.eq_none_iff_forall_ne_some, listing?_eq_some_iff]

end FileSystem

end HookGate.Sandbox
