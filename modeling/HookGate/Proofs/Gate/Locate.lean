import HookGate.Gate.Basic
import HookGate.Proofs.Sandbox.Listing
import HookGate.Proofs.Sandbox.Writing
import HookGate.Proofs.System.World
import HookGate.Proofs.Text.Bytes
import HookGate.Sandbox.Host

/-!
# Which configuration is found

The candidates are gone through in their order, and the first below which there is a file of the name
decides. Of its files of that name the least is taken: paths are compared name by name, and names
byte by byte.
-/

namespace HookGate

open Sandbox

namespace Gate

variable {fs : FileSystem} {cwd : Location} {programs : Programs} {e : Environment}
  {fileName candidate : String} {candidates : List String}

/-- A candidate leads to a directory, and from there the names lead to a file. -/
def LeadsTo (fs : FileSystem) (cwd : Location) (e : Environment) (fileName candidate : String)
    (names : List String) : Prop :=
  ∃ l, fs.find cwd (e.resolve candidate) = .ok (l, .directory) ∧ fs.IsFileBelow l fileName names

/-- Of all files to which a candidate leads, the one at these names is the first. -/
def LeadsFirstTo (fs : FileSystem) (cwd : Location) (e : Environment) (fileName candidate : String)
    (names : List String) : Prop :=
  LeadsTo fs cwd e fileName candidate names ∧
    ∀ others, LeadsTo fs cwd e fileName candidate others →
      others = names ∨ names.map Text.encode < others.map Text.encode

theorem runIn_findBelow? (directory : String) :
    runIn (findBelow? (FileSystem.host cwd programs) fileName directory) fs =
      ((fs.listing? cwd directory).bind fun listing =>
        (listing.findFile? fileName).map fun names => names.foldl Path.join directory, fs) := by
  have hlisting : runIn ((FileSystem.host cwd programs).listing? directory) fs =
      (fs.listing? cwd directory, fs) := rfl
  rw [findBelow?, runIn_bind, hlisting]
  cases fs.listing? cwd directory <;> rfl

theorem findBelow?_eq_none_iff (h : fs.Distinct) :
    (runIn (findBelow? (FileSystem.host cwd programs) fileName (e.resolve candidate)) fs).1 = none ↔
      ∀ names, ¬ LeadsTo fs cwd e fileName candidate names := by
  rw [runIn_findBelow?]
  cases hlisting : fs.listing? cwd (e.resolve candidate) with
  | none =>
    have hfind := FileSystem.listing?_eq_none_iff.mp hlisting
    exact iff_of_true rfl fun names ⟨l, hl, _⟩ => hfind l hl
  | some listing =>
    obtain ⟨l, hl, rfl⟩ := FileSystem.listing?_eq_some_iff.mp hlisting
    have hplace (l' : Location) : fs.find cwd (e.resolve candidate) = .ok (l', .directory) ↔ l' = l := by
      simp [hl, eq_comm]
    simp [LeadsTo, hplace, Listing.findFile?_eq_none_iff, FileSystem.holds_listing h]

theorem leadsFirstTo_of_findBelow? (h : fs.Distinct) {path : String}
    (hpath : (runIn (findBelow? (FileSystem.host cwd programs) fileName (e.resolve candidate)) fs).1 =
      some path) :
    ∃ names, path = names.foldl Path.join (e.resolve candidate) ∧
      LeadsFirstTo fs cwd e fileName candidate names := by
  rw [runIn_findBelow?] at hpath
  obtain ⟨listing, hlisting, hpath⟩ := Option.bind_eq_some_iff.mp hpath
  obtain ⟨names, hnames, rfl⟩ := Option.map_eq_some_iff.mp hpath
  obtain ⟨l, hl, rfl⟩ := FileSystem.listing?_eq_some_iff.mp hlisting
  obtain ⟨hholds, hleast⟩ :=
    Listing.least_of_findFile? (FileSystem.distinct_listingAt h _ l) hnames
  refine ⟨names, rfl, ⟨l, hl, (FileSystem.holds_listing h).mp hholds⟩, ?_⟩
  rintro others ⟨l', hl', hothers⟩
  obtain rfl : l = l' := by
    rw [hl] at hl'
    exact (Prod.mk.inj (Except.ok.inj hl')).1
  exact (hleast others ((FileSystem.holds_listing h).mpr hothers)).imp_right
    (List.map_lt fun _ _ => Text.encode_lt_encode.mpr)

/-- A configuration is found unless no candidate leads to one. What is found is below the first
candidate that leads to one, and it is the first of all to which that candidate leads. -/
theorem findConfig?_first (h : fs.Distinct) :
    let found := (runIn (findConfig? (FileSystem.host cwd programs) e fileName candidates) fs).1
    (found = none ↔ ∀ c ∈ candidates, ∀ names, ¬ LeadsTo fs cwd e fileName c names) ∧
      ∀ path ∈ found, ∃ before c after names,
        candidates = before ++ c :: after ∧
          (∀ d ∈ before, ∀ others, ¬ LeadsTo fs cwd e fileName d others) ∧
          path = names.foldl Path.join (e.resolve c) ∧ LeadsFirstTo fs cwd e fileName c names := by
  induction candidates with
  | nil => simp [findConfig?]
  | cons c candidates ih =>
    have hworld : (runIn (findBelow? (FileSystem.host cwd programs) fileName (e.resolve c)) fs).2 = fs := by
      rw [runIn_findBelow?]
    dsimp only
    rw [findConfig?, runIn_bind, hworld, List.forall_mem_cons]
    cases hbelow : (runIn (findBelow? (FileSystem.host cwd programs) fileName (e.resolve c)) fs).1 with
    | none =>
      have hc := (findBelow?_eq_none_iff h).mp hbelow
      refine ⟨?_, fun path hpath => ?_⟩
      · exact ih.1.trans (and_iff_right hc).symm
      · obtain ⟨before, d, after, names, rfl, hbefore, hnames⟩ := ih.2 path hpath
        exact ⟨c :: before, d, after, names, rfl, List.forall_mem_cons.mpr ⟨hc, hbefore⟩, hnames⟩
    | some path =>
      obtain ⟨names, hpath, hfirst⟩ := leadsFirstTo_of_findBelow? h hbelow
      refine ⟨iff_of_false nofun fun hnone => hnone.1 names hfirst.1, ?_⟩
      rintro _ ⟨⟩
      exact ⟨[], c, candidates, names, rfl, by simp, hpath, hfirst⟩

/-! A link and a directory that bear the name are gone by, and a file far down comes before one that is
near. -/

def workspace : FileSystem :=
  ((({} : FileSystem).plantFile ["w", "a", "config.json", "config.json"] [] false).plantFile
    ["w", "b", "config.json"] [] false).plant ["w", "config.json"] (.link "b/config.json")

theorem distinct_workspace : workspace.Distinct := by
  refine FileSystem.distinct_plant ?_ _ _
  refine FileSystem.distinct_plantFile ?_ _ _ _
  refine FileSystem.distinct_plantFile ?_ _ _ _
  exact List.nodup_nil

theorem listing?_workspace :
    workspace.listing? [] "/missing" = none ∧
      workspace.listing? [] "/w" = some (workspace.listingAt (workspace.depth + 1) ["w"]) := by
  have hsteps : FileSystem.stepsOf "/missing" = ["missing"] ∧ FileSystem.stepsOf "/w" = ["w"] := by
    decide
  have hnodes : workspace.get? ["missing"] = none ∧ workspace.get? ["w"] = some .directory := by
    decide
  have hshort : ¬ FileSystem.longestName < "missing".utf8ByteSize ∧
      ¬ FileSystem.longestName < "w".utf8ByteSize := by decide
  have hroot : workspace.get? [] = some .directory := rfl
  have hmissing : workspace.locate true [] "/missing" = .ok ["missing"] := by
    refine FileSystem.locate_eq_ok.mpr ⟨by decide, by decide, by decide, ?_⟩
    simp [hsteps.1, FileSystem.walk, hroot, hnodes.1, hshort.1]
  have hw : workspace.locate true [] "/w" = .ok ["w"] := by
    refine FileSystem.locate_eq_ok.mpr ⟨by decide, by decide, by decide, ?_⟩
    simp [hsteps.2, FileSystem.walk, hroot, hnodes.2, hshort.2]
  constructor
  · rw [FileSystem.listing?, FileSystem.find, hmissing]
    simp [bind, Except.bind, hnodes.1]
  · rw [FileSystem.listing?, FileSystem.find, hw]
    simp [bind, Except.bind, pure, Except.pure, hnodes.2]

/-- No program can be started. -/
def noPrograms : Programs := fun l fs => (.error (.missing l.program), fs)

theorem findConfig?_workspace :
    (runIn (findConfig? (FileSystem.host [] noPrograms) (.ofDir "/") "config.json" ["missing", "w"])
      workspace).1 = some "/w/a/config.json/config.json" := by
  have hresolve : (Environment.ofDir "/").resolve "missing" = "/missing" ∧
      (Environment.ofDir "/").resolve "w" = "/w" := by decide
  have hfirst : (workspace.listingAt (workspace.depth + 1) ["w"]).findFile? "config.json" =
      some ["a", "config.json", "config.json"] := by decide
  simp only [findConfig?, runIn_bind, runIn_findBelow?, hresolve.1, hresolve.2, listing?_workspace.1,
    listing?_workspace.2, Option.bind_none, Option.bind_some, hfirst, Option.map_some, runIn_pure]
  decide

theorem findConfig?_first_in_workspace :
    workspace.Distinct ∧
      ∃ before c after names,
        ["missing", "w"] = before ++ c :: after ∧
          (∀ d ∈ before, ∀ others, ¬ LeadsTo workspace [] (.ofDir "/") "config.json" d others) ∧
          "/w/a/config.json/config.json" = names.foldl Path.join ((Environment.ofDir "/").resolve c) ∧
          LeadsFirstTo workspace [] (.ofDir "/") "config.json" c names :=
  ⟨distinct_workspace, (findConfig?_first distinct_workspace).2 _ findConfig?_workspace⟩

end Gate

end HookGate
