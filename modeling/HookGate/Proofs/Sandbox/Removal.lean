import HookGate.Proofs.Sandbox.Writing

/-!
# Files that were removed

Ways go over directories and links and end at everything else. To remove a file therefore leaves every
path where it led: at the path of the file nothing stands any more, and at every other place is what was
there before.
-/

namespace HookGate.Sandbox

/-- Whether a way ends there: a file or a device, and neither a directory nor a link. -/
def Node.isEnd : Node → Bool
  | .directory | .link _ => false
  | .file _ _ _ | .device _ | .tool _ => true

namespace FileSystem

variable {fs fs' : FileSystem} {l p cwd : Location} {path : String}

/-- What stands at a path itself, and where. A link at the end of the path is not followed. -/
def standing? (fs : FileSystem) (cwd : Location) (path : String) : Option (Location × Node) :=
  match fs.locate false cwd path with
  | .ok l => (fs.get? l).map fun n => (l, n)
  | .error _ => none

theorem standing?_eq_some_iff {n : Node} :
    fs.standing? cwd path = some (l, n) ↔ fs.locate false cwd path = .ok l ∧ fs.get? l = some n := by
  unfold standing?
  cases fs.locate false cwd path with
  | error e => simp
  | ok l' =>
    simp only [Option.map_eq_some_iff, Prod.mk.injEq, Except.ok.injEq]
    constructor
    · rintro ⟨n', hn, rfl, rfl⟩
      exact ⟨rfl, hn⟩
    · rintro ⟨rfl, hn⟩
      exact ⟨n, hn, rfl, rfl⟩

theorem get?_erase (hl : l ≠ []) : (fs.erase l).get? p = if p = l then none else fs.get? p := by
  by_cases hp : p = l
  · subst hp
    have hgone : (fs.nodes.filter fun e => e.1 ≠ p).lookup p = none := by
      rw [List.lookup_eq_none_iff]
      intro e he
      have hne : e.1 ≠ p := of_decide_eq_true (List.mem_filter.mp he).2
      exact bne_iff_ne.mpr hne.symm
    simp only [get?, erase, hl, if_false, if_true, hgone]
  · have hlookup := lookup_filter_ne fs.nodes hp
    simp only [get?, erase, hp, if_false, hlookup]

/-! ## Ways to a file -/

section

variable {n : Node}

theorem ne_nil_of_isEnd (hl : fs.get? l = some n) (hn : n.isEnd = true) : l ≠ [] := by
  rintro rfl
  obtain rfl : .directory = n := by simpa [get?] using hl
  contradiction

/-- Nothing leads on from a file. -/
theorem walk_isEnd {follow : Bool} {links : Nat} {steps : List String} (hl : fs.get? l = some n)
    (hn : n.isEnd = true) (hwalk : fs.walk follow links l steps = .ok p) : steps = [] := by
  cases steps with
  | nil => rfl
  | cons step rest =>
    rw [FileSystem.walk, hl] at hwalk
    cases n with
    | directory | link => contradiction
    | file | device | tool => contradiction

/-- A path that leads to a file leads to the same place once the file is removed. -/
theorem walk_erase {follow : Bool} {links : Nat} {here : Location} {steps : List String}
    (hl : fs.get? l = some n) (hn : n.isEnd = true)
    (hwalk : fs.walk follow links here steps = .ok l) :
    (fs.erase l).walk follow links here steps = .ok l := by
  have hother {q : Location} {m : Node} (hq : fs.get? q = some m) (hm : m.isEnd = false) :
      (fs.erase l).get? q = some m := by
    rw [get?_erase (ne_nil_of_isEnd hl hn), if_neg, hq]
    rintro rfl
    obtain rfl := Option.some.inj (hq.symm.trans hl)
    rw [hn] at hm
    contradiction
  fun_induction fs.walk follow links here steps with
  | case1 => rwa [FileSystem.walk]
  | case2 | case5 | case7 | case9 | case12 => contradiction
  | case3 _ here _ hhere ih =>
    rw [FileSystem.walk, hother hhere rfl]
    simpa using ih hwalk
  | case4 _ here _ hhere _ ih =>
    rw [FileSystem.walk, hother hhere rfl]
    simpa using ih hwalk
  | case6 _ here step _ _ _ _ hnone =>
    obtain rfl : here ++ [step] = l := Except.ok.inj hwalk
    rw [hl] at hnone
    contradiction
  | case8 _ here step _ _ _ _ _ target hlink =>
    obtain rfl : here ++ [step] = l := Except.ok.inj hwalk
    obtain rfl := Option.some.inj (hl.symm.trans hlink)
    contradiction
  | case10 here step rest hhere hstill hup hname target hlink hfollow links ih =>
    rw [FileSystem.walk, hother hhere rfl]
    simp only [hstill, hup, hname, hother hlink rfl, hfollow, if_false]
    exact ih hwalk
  | case11 _ here step rest hhere hstill hup hname m hnode hm ih =>
    rw [FileSystem.walk, hother hhere rfl]
    simp only [hstill, hup, hname, if_false]
    by_cases hfile : here ++ [step] = l
    · -- The file was the last step, and in its place the way ends as well.
      obtain rfl := walk_isEnd (hfile ▸ hl) hn hwalk
      simp [hfile, get?_erase (ne_nil_of_isEnd hl hn)]
    · have hstays : (fs.erase l).get? (here ++ [step]) = some m := by
        rw [get?_erase (ne_nil_of_isEnd hl hn), if_neg hfile, hm]
      rw [hstays]
      split
      · contradiction
      · next target hlink =>
        obtain rfl := Option.some.inj hlink
        exact absurd rfl (hnode target)
      · exact ih hwalk

end

/-- A path that leads to a place without a link leads there also for those who would follow one. -/
theorem walk_true {links : Nat} {here : Location} {steps : List String}
    (hl : ∀ target, fs.get? l ≠ some (.link target)) (hwalk : fs.walk false links here steps = .ok l) :
    fs.walk true links here steps = .ok l := by
  fun_induction fs.walk false links here steps with
  | case1 => rwa [FileSystem.walk]
  | case2 | case5 | case7 | case9 | case12 => contradiction
  | case3 _ here _ hhere ih =>
    rw [FileSystem.walk, hhere]
    simpa using ih hwalk
  | case4 _ here _ hhere _ ih =>
    rw [FileSystem.walk, hhere]
    simpa using ih hwalk
  | case6 _ here step hhere hstill hup hname hnone =>
    rw [FileSystem.walk, hhere]
    simp only [hstill, hup, hname, hnone, if_false, if_true]
    exact hwalk
  | case8 _ here step _ _ _ _ _ target hlink =>
    obtain rfl : here ++ [step] = l := Except.ok.inj hwalk
    exact absurd hlink (hl target)
  | case10 here step rest hhere hstill hup hname target hlink hfollow links ih =>
    rw [FileSystem.walk, hhere]
    simp only [hstill, hup, hname, hlink, not_true, and_false, if_false]
    exact ih hwalk
  | case11 _ here step rest hhere hstill hup hname n hnode hn ih =>
    rw [FileSystem.walk, hhere]
    simp only [hstill, hup, hname, if_false, hn]
    cases n with
    | link target => exact absurd rfl (hnode target)
    | directory | file | device | tool => exact ih hwalk


theorem locate_erase {follow : Bool} {n : Node} (hl : fs.get? l = some n) (hn : n.isEnd = true)
    (hlocate : fs.locate follow cwd path = .ok l) : (fs.erase l).locate follow cwd path = .ok l := by
  obtain ⟨hnul, hempty, hlong, hwalk⟩ := locate_eq_ok.mp hlocate
  exact locate_eq_ok.mpr ⟨hnul, hempty, hlong, walk_erase hl hn hwalk⟩

theorem locate_true (hl : ∀ target, fs.get? l ≠ some (.link target))
    (hlocate : fs.locate false cwd path = .ok l) : fs.locate true cwd path = .ok l := by
  obtain ⟨hnul, hempty, hlong, hwalk⟩ := locate_eq_ok.mp hlocate
  exact locate_eq_ok.mpr ⟨hnul, hempty, hlong, walk_true hl hwalk⟩

/-! ## Removing -/

/-- Where nothing stands, nothing is removed. -/
theorem removeFile_of_none (h : fs.standing? cwd path = none) : ∃ e, fs.removeFile cwd path = .error e := by
  unfold standing? at h
  unfold removeFile
  cases hlocate : fs.locate false cwd path with
  | error e => exact ⟨e, rfl⟩
  | ok l =>
    rw [hlocate] at h
    have hnone : fs.get? l = none := Option.map_eq_none_iff.mp h
    exact ⟨.os .noEntry, by simp only [bind, Except.bind, hnone]; rfl⟩

/-- A file at a path can be seen and removed, and then nothing stands at the path. -/
theorem removeFile_of_isEnd {n : Node} (h : fs.standing? cwd path = some (l, n)) (hn : n.isEnd = true) :
    fs.isThere cwd path = true ∧ fs.removeFile cwd path = .ok (fs.erase l) ∧
      (fs.erase l).standing? cwd path = none := by
  obtain ⟨hlocate, hl⟩ := standing?_eq_some_iff.mp h
  have hnolink : ∀ target, fs.get? l ≠ some (.link target) := by
    intro target hlink
    obtain rfl := Option.some.inj (hl.symm.trans hlink)
    contradiction
  refine ⟨?_, ?_, ?_⟩
  · have hfind := find_of_locate (locate_true hnolink hlocate) hl
    rw [isThere, hfind, Option.isSome_some]
  · simp only [removeFile, hlocate, bind, Except.bind, hl]
    cases n with
    | directory | link => contradiction
    | file | device | tool => rfl
  · rw [standing?, locate_erase hl hn hlocate]
    simp [get?_erase (ne_nil_of_isEnd hl hn)]

end FileSystem

end HookGate.Sandbox
