import Mathlib
import HookGate.Sandbox.FileSystem

/-!
# Files that were written

A path leads to a place by what stands on its way, and not by what the files there hold. To write to
a file therefore leaves every path where it led, so that what was written can be read at the path to
which it was written.
-/

namespace HookGate.Sandbox

/-- What matters of a node to the paths that go over it. -/
def Node.kind : Node → Node
  | .file _ _ _ => .file 0 [] false
  | n => n

theorem Node.kind_eq_directory {n : Node} : n.kind = .directory ↔ n = .directory := by
  cases n <;> simp [kind]

theorem Node.kind_eq_link {n : Node} {target : String} : n.kind = .link target ↔ n = .link target := by
  cases n <;> simp [kind]

/-- What stands there once the file of an identity holds something else. -/
def Node.update (identity : Nat) (change : Bytes → Bytes) : Node → Node
  | .file i content executable => .file i (if i = identity then change content else content) executable
  | n => n

theorem Node.kind_update (identity : Nat) (change : Bytes → Bytes) (n : Node) :
    (n.update identity change).kind = n.kind := by
  cases n <;> rfl

namespace FileSystem

variable {fs fs' : FileSystem} {l p : Location}

/-! ## What stands at a place -/

theorem lookup_filter_ne (nodes : List (Location × Node)) (h : p ≠ l) :
    (nodes.filter fun e => e.1 ≠ l).lookup p = nodes.lookup p := by
  induction nodes with
  | nil => rfl
  | cons e nodes ih =>
    obtain ⟨q, n⟩ := e
    by_cases hq : q = l
    · subst hq
      have hne : (p == q) = false := by simpa using h
      simpa [List.lookup_cons, hne] using ih
    · simp only [List.filter_cons, decide_eq_true_eq, hq, not_false_eq_true, ne_eq, if_true,
        List.lookup_cons] at ih ⊢
      rw [ih]

theorem get?_put (hl : l ≠ []) (n : Node) :
    (fs.put l n).get? p = if p = l then some n else fs.get? p := by
  by_cases hp : p = l
  · subst hp
    simp [get?, put, hl]
  · have hne : (p == l) = false := by simpa using hp
    have hlookup := lookup_filter_ne fs.nodes hp
    simp only [get?, put, erase, List.lookup_cons, hne, hp, if_false, hlookup]

theorem get?_updateFile (identity : Nat) (change : Bytes → Bytes) :
    (fs.updateFile identity change).get? p = (fs.get? p).map (Node.update identity change) := by
  by_cases hp : p = []
  · simp [get?, hp, Node.update]
  · have hnodes : ∀ nodes : List (Location × Node),
        (nodes.map fun e => (e.1, e.2.update identity change)).lookup p =
          (nodes.lookup p).map (Node.update identity change) := by
      intro nodes
      induction nodes with
      | nil => rfl
      | cons e nodes ih =>
        obtain ⟨q, n⟩ := e
        simp only [List.map_cons, List.lookup_cons, ih]
        cases p == q <;> rfl
    have hsame : (fs.updateFile identity change).nodes =
        fs.nodes.map fun e => (e.1, e.2.update identity change) := by
      refine List.map_congr_left fun e _ => ?_
      obtain ⟨q, n⟩ := e
      cases n <;> rfl
    simp only [get?, hp, if_false, hsame, hnodes]

/-! ## Ways that stay -/

/-- Whatever stood somewhere still does, up to what files hold. -/
def Keeps (fs fs' : FileSystem) : Prop :=
  ∀ p n, fs.get? p = some n → ∃ n', fs'.get? p = some n' ∧ n'.kind = n.kind

theorem keeps_updateFile (identity : Nat) (change : Bytes → Bytes) :
    Keeps fs (fs.updateFile identity change) := by
  intro p n hn
  rw [get?_updateFile, hn]
  exact ⟨_, rfl, n.kind_update _ _⟩

theorem Keeps.trans {fs'' : FileSystem} (h : Keeps fs fs') (h' : Keeps fs' fs'') : Keeps fs fs'' := by
  intro p n hn
  obtain ⟨n', hn', hkind⟩ := h p n hn
  obtain ⟨n'', hn'', hkind'⟩ := h' p n' hn'
  exact ⟨n'', hn'', hkind'.trans hkind⟩

theorem ne_nil_of_get? (h : fs.get? l = none) : l ≠ [] := by
  rintro rfl
  simp [get?] at h

theorem keeps_put (hl : fs.get? l = none) (n : Node) : Keeps fs (fs.put l n) := by
  intro p m hm
  have hp : p ≠ l := by
    rintro rfl
    simp [hl] at hm
  refine ⟨m, ?_, rfl⟩
  rw [get?_put (ne_nil_of_get? hl), if_neg hp, hm]

theorem Keeps.directory (h : Keeps fs fs') (hp : fs.get? p = some .directory) :
    fs'.get? p = some .directory := by
  obtain ⟨n, hn, hkind⟩ := h p _ hp
  rw [hn, Node.kind_eq_directory.mp hkind]

theorem Keeps.link {target : String} (h : Keeps fs fs') (hp : fs.get? p = some (.link target)) :
    fs'.get? p = some (.link target) := by
  obtain ⟨n, hn, hkind⟩ := h p _ hp
  rw [hn, Node.kind_eq_link.mp hkind]

/-- A path that leads to a place still does, unless a link has come to stand there. -/
theorem Keeps.walk {follow : Bool} {links : Nat} {here : Location} {steps : List String}
    (h : Keeps fs fs') (hl : ∀ target, fs'.get? l ≠ some (.link target))
    (hwalk : fs.walk follow links here steps = .ok l) : fs'.walk follow links here steps = .ok l := by
  fun_induction fs.walk follow links here steps with
  | case1 => rwa [FileSystem.walk]
  | case2 | case5 | case7 | case9 | case12 => contradiction
  | case3 _ here _ hhere ih =>
    rw [FileSystem.walk, h.directory hhere]
    simpa using ih hwalk
  | case4 _ here _ hhere _ ih =>
    rw [FileSystem.walk, h.directory hhere]
    simpa using ih hwalk
  | case6 _ here step hhere hstill hup hname _ =>
    -- Nothing stood here, so this is the place: it may be taken now, but not by a link.
    rw [FileSystem.walk, h.directory hhere]
    simp only [hstill, hup, hname, if_false]
    obtain rfl : here ++ [step] = l := Except.ok.inj hwalk
    split
    · rfl
    · next target hlink => exact absurd hlink (hl target)
    · rw [FileSystem.walk]
  | case8 _ here step _ _ _ _ _ target hlink =>
    obtain rfl : here ++ [step] = l := Except.ok.inj hwalk
    exact absurd (h.link hlink) (hl target)
  | case10 here step rest hhere hstill hup hname target hlink hfollow links ih =>
    rw [FileSystem.walk, h.directory hhere]
    simp only [hstill, hup, hname, h.link hlink, hfollow, if_false]
    exact ih hwalk
  | case11 _ here step rest hhere hstill hup hname n hnode hn ih =>
    obtain ⟨n', hn', hkind⟩ := h _ n hn
    rw [FileSystem.walk, h.directory hhere]
    simp only [hstill, hup, hname, if_false, hn']
    split
    · contradiction
    · next target hlink =>
      obtain rfl := Option.some.inj hlink
      exact absurd (Node.kind_eq_link.mp hkind.symm) (hnode target)
    · exact ih hwalk

theorem locate_eq_ok {follow : Bool} {cwd : Location} {path : String} :
    fs.locate follow cwd path = .ok l ↔
      '\x00' ∉ path.toList ∧ path ≠ "" ∧ path.utf8ByteSize ≤ longestPath ∧
        fs.walk follow mostLinks (if Path.isAbsolute path then [] else cwd) (stepsOf path) = .ok l := by
  have hmap (x : Except OsError Location) : x.mapError SystemError.os = .ok l ↔ x = .ok l := by
    cases x <;> simp [Except.mapError]
  unfold locate
  split_ifs with hnul hempty hlong <;> simp_all

theorem Keeps.locate {follow : Bool} {cwd : Location} {path : String} (h : Keeps fs fs')
    (hl : ∀ target, fs'.get? l ≠ some (.link target))
    (hlocate : fs.locate follow cwd path = .ok l) : fs'.locate follow cwd path = .ok l := by
  obtain ⟨hnul, hempty, hlong, hwalk⟩ := locate_eq_ok.mp hlocate
  exact locate_eq_ok.mpr ⟨hnul, hempty, hlong, h.walk hl hwalk⟩

/-- To make a directory that is there changes nothing. -/
theorem makeDirectories_of_isDirectory {cwd : Location} {path : String} (hpath : path ≠ "")
    (hmade : fs.makeDirectory cwd path = .error (.os .alreadyThere))
    (hdirectory : fs.isDirectory cwd path = true) :
    makeDirectories cwd path fs = (.ok (), fs) := by
  simp only [makeDirectories, makeDirectoriesUpTo, hpath, if_false, hmade]
  cases Path.parent? path <;> simp [OsError.alreadyThere, hdirectory]

/-- Directories were made where nothing stood, and nothing else happened. -/
def GainsDirectories (fs fs' : FileSystem) : Prop :=
  ∀ q, fs'.get? q = fs.get? q ∨ fs.get? q = none ∧ fs'.get? q = some .directory

theorem gainsDirectories_refl (fs : FileSystem) : GainsDirectories fs fs := fun _ => .inl rfl

theorem GainsDirectories.trans {fs'' : FileSystem} (h : GainsDirectories fs fs') (h' : GainsDirectories fs' fs'') :
    GainsDirectories fs fs'' := by
  intro q
  rcases h q with heq | ⟨hnone, hdir⟩
  · rw [← heq]
    exact h' q
  · rcases h' q with heq' | ⟨hnone', -⟩
    · exact .inr ⟨hnone, heq'.trans hdir⟩
    · rw [hdir] at hnone'
      contradiction

theorem gainsDirectories_put (hl : fs.get? l = none) :
    GainsDirectories fs (fs.put l .directory) := by
  intro q
  rw [get?_put (ne_nil_of_get? hl)]
  split
  · next hq => exact .inr ⟨hq ▸ hl, rfl⟩
  · exact .inl rfl

theorem gainsDirectories_makeDirectory {cwd : Location} {path : String}
    (h : fs.makeDirectory cwd path = .ok fs') :
    GainsDirectories fs fs' := by
  simp only [makeDirectory, bind, Except.bind] at h
  split at h
  · cases h
  · next l hlocate =>
    split at h
    · cases h
    · next hl =>
      obtain rfl := Except.ok.inj h
      exact gainsDirectories_put hl

/-- The directories above are made first, and then the one at the path. -/
theorem gainsDirectories_makeDirectoriesUpTo {cwd : Location} (n : Nat) (path : String)
    (fs : FileSystem) : GainsDirectories fs (makeDirectoriesUpTo cwd n path fs).2 := by
  induction n generalizing path fs with
  | zero => exact gainsDirectories_refl fs
  | succ n ih =>
    rw [makeDirectoriesUpTo]
    split
    · exact gainsDirectories_refl fs
    · split
      · next above _ _ =>
        have habove := ih above fs
        generalize makeDirectoriesUpTo cwd n above fs = r at habove ⊢
        obtain ⟨made, fs'⟩ := r
        cases made with
        | error e => simpa only using habove
        | ok =>
          dsimp only at habove ⊢
          cases hmade : fs'.makeDirectory cwd path with
          | error e => simpa only using habove
          | ok fs'' => simpa only using habove.trans (gainsDirectories_makeDirectory hmade)
      · exact gainsDirectories_refl fs
      · dsimp only
        cases hmade : fs.makeDirectory cwd path with
        | error e => simpa only using gainsDirectories_refl fs
        | ok fs' => simpa only using gainsDirectories_makeDirectory hmade

/-! ## Writing -/

/-- A path at which something can be written leads to a file, to a device, or to a place where
nothing stands, and there a file is made. -/
theorem openSink_eq_ok {cwd : Location} {path : String} {sink : Sink}
    (h : fs.openSink cwd path = .ok (sink, fs')) :
    ∃ l, fs.locate true cwd path = .ok l ∧
      ((∃ identity content executable, fs.get? l = some (.file identity content executable) ∧
          sink = .file identity ∧ fs' = fs) ∨
        (∃ d, fs.get? l = some (.device d) ∧ sink = .device d ∧ fs' = fs) ∨
        (fs.get? l = none ∧ sink = .file fs.fresh ∧
          fs' = { fs.put l (.file fs.fresh [] false) with fresh := fs.fresh + 1 })) := by
  unfold openSink at h
  cases hlocate : fs.locate true cwd path with
  | error e =>
    rw [hlocate] at h
    contradiction
  | ok l =>
    refine ⟨l, rfl, ?_⟩
    simp only [hlocate, bind, Except.bind] at h
    cases hnode : fs.get? l with
    | none =>
      rw [hnode] at h
      obtain ⟨rfl, rfl⟩ := Prod.mk.inj (Except.ok.inj h)
      exact .inr (.inr ⟨rfl, rfl, rfl⟩)
    | some n =>
      rw [hnode] at h
      cases n with
      | directory | link | tool => contradiction
      | file identity content executable =>
        obtain ⟨rfl, rfl⟩ := Prod.mk.inj (Except.ok.inj h)
        exact .inl ⟨identity, content, executable, rfl, rfl, rfl⟩
      | device d =>
        cases d with
        | terminal => contradiction
        | null | zero | full | descriptor =>
          obtain ⟨rfl, rfl⟩ := Prod.mk.inj (Except.ok.inj h)
          exact .inr (.inl ⟨_, rfl, rfl, rfl⟩)

theorem find_of_locate {cwd : Location} {path : String} {n : Node}
    (hlocate : fs.locate true cwd path = .ok l) (hn : fs.get? l = some n) :
    fs.find? cwd path = some n := by
  simp [find?, find, hlocate, hn, bind, Except.bind, pure, Except.pure, Except.toOption]

/-- What is written to a file takes the place of all that it held, and nothing else changes. -/
theorem get?_truncate_append {identity : Nat} {bytes : Bytes}
    (h : (fs.truncate (.file identity)).append bytes (.file identity) = .ok fs') :
    Keeps fs fs' ∧ ∀ q, fs'.get? q = (fs.get? q).map (Node.update identity fun _ => bytes) := by
  obtain rfl := Except.ok.inj h
  refine ⟨(keeps_updateFile _ _).trans (keeps_updateFile _ _), fun q => ?_⟩
  rw [truncate, get?_updateFile, get?_updateFile, Option.map_map]
  congr 1
  funext n
  cases n with
  | file i content executable =>
    by_cases hi : i = identity
    · simp [Node.update, hi]
    · simp [Node.update, hi]
  | directory | link | device | tool => rfl

/-- A place where a file was changed holds that file, and all other places hold what they held. -/
theorem eq_or_file_of_update {identity : Nat} {bytes : Bytes} (n? : Option Node) :
    n?.map (Node.update identity fun _ => bytes) = n? ∨
      ∃ executable, n?.map (Node.update identity fun _ => bytes) =
        some (.file identity bytes executable) := by
  rcases n? with _ | n
  · exact .inl rfl
  · cases n with
    | file i content executable =>
      by_cases hi : i = identity
      · exact .inr ⟨executable, by simp [Node.update, hi]⟩
      · exact .inl (by simp [Node.update, hi])
    | directory | link | device | tool => exact .inl rfl

theorem append_device {d : Device} {bytes : Bytes} (h : fs.append bytes (.device d) = .ok fs') :
    fs' = fs := by
  cases d with
  | full =>
    rw [append] at h
    split at h
    · exact (Except.ok.inj h).symm
    · contradiction
  | null | zero | descriptor | terminal => exact (Except.ok.inj h).symm

/-- A text that was written to a path is what the file at that path holds, and wherever something else
stands than before, it is this file. Only a device, which was there before, may stand at the path
instead, and then nothing has changed. -/
theorem exists_file_of_write {cwd : Location} {path : String} {bytes : Bytes}
    (h : fs.write cwd path bytes = .ok fs') :
    (∃ identity executable, fs'.find? cwd path = some (.file identity bytes executable) ∧
        ∀ q, fs'.get? q = fs.get? q ∨ ∃ executable, fs'.get? q = some (.file identity bytes executable)) ∨
      ∃ d, fs.find? cwd path = some (.device d) ∧ fs' = fs := by
  unfold write at h
  cases hopen : fs.openSink cwd path with
  | error e =>
    rw [hopen] at h
    contradiction
  | ok opened =>
    obtain ⟨sink, fs₁⟩ := opened
    simp only [hopen, bind, Except.bind] at h
    obtain ⟨l, hlocate, hfile | hdevice | hnone⟩ := openSink_eq_ok hopen
    · obtain ⟨identity, content, executable, hl, rfl, rfl⟩ := hfile
      obtain ⟨hkeeps, hchanged⟩ := get?_truncate_append h
      have hwritten : fs'.get? l = some (.file identity bytes executable) := by
        rw [hchanged, hl]
        simp [Node.update]
      have hl' := hkeeps.locate (by simp [hwritten]) hlocate
      refine .inl ⟨identity, executable, find_of_locate hl' hwritten, fun q => ?_⟩
      rw [hchanged]
      exact eq_or_file_of_update _
    · obtain ⟨d, hl, rfl, rfl⟩ := hdevice
      exact .inr ⟨d, find_of_locate hlocate hl, append_device h⟩
    · obtain ⟨hl, rfl, rfl⟩ := hnone
      have hput (q : Location) : ({ fs.put l (.file fs.fresh [] false) with fresh := fs.fresh + 1 } :
          FileSystem).get? q = if q = l then some (.file fs.fresh [] false) else fs.get? q :=
        get?_put (ne_nil_of_get? hl) _
      obtain ⟨hkeeps, hchanged⟩ := get?_truncate_append h
      have hwritten : fs'.get? l = some (.file fs.fresh bytes false) := by
        rw [hchanged, hput, if_pos rfl]
        simp [Node.update]
      have hl' := ((keeps_put hl _).trans hkeeps).locate (by simp [hwritten]) hlocate
      refine .inl ⟨_, _, find_of_locate hl' hwritten, fun q => ?_⟩
      by_cases hq : q = l
      · exact .inr ⟨false, hq ▸ hwritten⟩
      · rw [hchanged, hput, if_neg hq]
        exact eq_or_file_of_update _

end FileSystem

end HookGate.Sandbox
