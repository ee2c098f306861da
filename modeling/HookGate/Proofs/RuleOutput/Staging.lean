import HookGate.Proofs.RuleOutput.Handover
import HookGate.Proofs.Sandbox.Removal

/-!
# What staging leaves behind

To stage a text makes directories and one file, and changes nothing else. Whatever comes of the parser,
the file is gone afterwards, and everything else is as the parser left it. A text without both markers
touches nothing.
-/

namespace HookGate

variable {W : Type}

open Sandbox (FileSystem Location Programs Node)

namespace RuleOutput.Processor

section

variable {cwd : Location} {programs : Programs} {fs staged : FileSystem} {path text : String}

/-- What staging a text at a path may change: directories are made where nothing stood, and what else
has changed is the file at the path, which holds the text. -/
def StagedFrom (fs : FileSystem) (cwd : Location) (path text : String) (staged : FileSystem) : Prop :=
  ∀ q, staged.get? q = fs.get? q ∨ (fs.get? q = none ∧ staged.get? q = some .directory) ∨
    ∃ identity executable executable',
      staged.get? q = some (.file identity (Text.encode text) executable) ∧
        staged.find? cwd path = some (.file identity (Text.encode text) executable')

theorem stagedFrom_of_stage
    (h : runIn (stage (FileSystem.host cwd programs) path text) fs = (.ok (), staged)) :
    StagedFrom fs cwd path text staged := by
  obtain ⟨made, hmade, hwrite⟩ := exists_made_of_stage h
  have hgains : fs.GainsDirectories made := by
    rcases hmade with rfl | ⟨above, habove⟩
    · exact FileSystem.gainsDirectories_refl made
    · have hrun : (FileSystem.makeDirectories cwd above fs).2 = made := congrArg Prod.snd habove
      rw [← hrun]
      exact FileSystem.gainsDirectories_makeDirectoriesUpTo _ above fs
  have hchanged (q : Location) : staged.get? q = made.get? q ∨ ∃ identity executable executable',
      staged.get? q = some (.file identity (Text.encode text) executable) ∧
        staged.find? cwd path = some (.file identity (Text.encode text) executable') := by
    rcases FileSystem.exists_file_of_write (writeText_eq_ok.mp hwrite) with
      ⟨identity, executable, hfile, hplaces⟩ | ⟨d, -, rfl⟩
    · refine (hplaces q).imp_right ?_
      rintro ⟨executable', hq⟩
      exact ⟨identity, executable', executable, hq, hfile⟩
    · exact .inl rfl
  intro q
  rcases hchanged q with heq | hfile
  · rcases hgains q with hsame | ⟨hnone, hdir⟩
    · exact .inl (heq.trans hsame)
    · exact .inr (.inl ⟨hnone, heq.trans hdir⟩)
  · exact .inr (.inr hfile)

/-! ## The way through -/

/-- What the parser leaves of a file system: all of it, if its script is missing and it is not started. -/
def parserLeaves (cwd : Location) (programs : Programs) (p : Processor) (fs : FileSystem) : FileSystem :=
  match (runIn (missingScript? (FileSystem.host cwd programs) p) fs).1 with
  | some _ => fs
  | none => (programs (p.parserLaunch p.stagingPath) fs).2

theorem world_runParser (p : Processor) :
    (runIn (p.runParser (FileSystem.host cwd programs) p.stagingPath) fs).2 =
      p.parserLeaves cwd programs fs := by
  have hworld : (runIn (missingScript? (FileSystem.host cwd programs) p) fs).2 = fs :=
    world_missingScript? p
  unfold runParser parserLeaves
  rw [runIn_bind]
  generalize runIn (missingScript? (FileSystem.host cwd programs) p) fs = r at hworld ⊢
  obtain ⟨missing, fs'⟩ := r
  obtain rfl : fs' = fs := hworld
  cases missing <;> rfl

theorem world_unstage_of_none (h : fs.standing? cwd path = none) :
    (runIn (unstage (FileSystem.host cwd programs) path) fs).2 = fs := by
  obtain ⟨e, he⟩ := FileSystem.removeFile_of_none h
  have hremove : runIn ((FileSystem.host cwd programs).removeFile path) fs = (.error e, fs) := by
    show FileSystem.attempt (fun fs => fs.removeFile cwd path) fs = _
    rw [FileSystem.attempt, he]
  have hthere : runIn ((FileSystem.host cwd programs).isThere path) fs = (fs.isThere cwd path, fs) := rfl
  rw [unstage, runIn_bind, hthere]
  cases fs.isThere cwd path <;> simp [hremove]

theorem world_unstage_of_isEnd {l : Location} {n : Node} (h : fs.standing? cwd path = some (l, n))
    (hn : n.isEnd = true) :
    (runIn (unstage (FileSystem.host cwd programs) path) fs).2 = fs.erase l := by
  obtain ⟨hthere, hremove, -⟩ := FileSystem.removeFile_of_isEnd h hn
  have hrun : runIn ((FileSystem.host cwd programs).removeFile path) fs = (.ok (), fs.erase l) := by
    show FileSystem.attempt (fun fs => fs.removeFile cwd path) fs = _
    rw [FileSystem.attempt, hremove]
  have hseen : runIn ((FileSystem.host cwd programs).isThere path) fs = (true, fs) :=
    congrArg (·, fs) hthere
  rw [unstage, runIn_bind, hseen]
  simp [hrun]

theorem world_process (p : Processor) (hin : isIn text = true)
    (hstage : runIn (stage (FileSystem.host cwd programs) p.stagingPath text) fs = (.ok (), staged)) :
    (runIn (p.process (FileSystem.host cwd programs) text) fs).2 =
      (runIn (unstage (FileSystem.host cwd programs) p.stagingPath) (p.parserLeaves cwd programs staged)).2 := by
  rw [← world_runParser]
  simp [process, hin, hstage]

/-- A text without both markers touches nothing, and nothing is started for it. -/
theorem process_of_not_isIn (host : Host (StateM W)) (p : Processor) (w : W) (h : isIn text = false) :
    (runIn (p.process host.watched text) (w, [])).2 = (w, []) := by
  simp [process, h]

/-- A text without both markers touches no file and starts nothing. A text that was staged is gone in the
end, if the parser leaves nothing at its path or something that is no directory and no link; everything
else is then as the parser left it, and the parser found everything as it was but for the file and for
directories that were made for it. -/
theorem process_leaves_nothing (cwd : Location) (programs : Programs) (p : Processor) (text : String)
    (fs : FileSystem) :
    let host := FileSystem.host cwd programs
    (isIn text = false → (runIn (p.process host.watched text) (fs, [])).2 = (fs, [])) ∧
    ∀ staged, isIn text = true → runIn (stage host p.stagingPath text) fs = (.ok (), staged) →
      StagedFrom fs cwd p.stagingPath text staged ∧
      let left := p.parserLeaves cwd programs staged
      let after := (runIn (p.process host text) fs).2
      (∀ l n, left.standing? cwd p.stagingPath = some (l, n) → n.isEnd = true) →
        after.standing? cwd p.stagingPath = none ∧
        ∀ q, (∀ n, left.standing? cwd p.stagingPath ≠ some (q, n)) → after.get? q = left.get? q := by
  intro host
  refine ⟨process_of_not_isIn host p fs, ?_⟩
  intro staged hin hstage
  refine ⟨stagedFrom_of_stage hstage, ?_⟩
  intro left after hleft
  have hafter : after = (runIn (unstage host p.stagingPath) left).2 := world_process p hin hstage
  rw [hafter]
  cases hstanding : left.standing? cwd p.stagingPath with
  | none =>
    rw [world_unstage_of_none hstanding]
    exact ⟨hstanding, fun q _ => rfl⟩
  | some found =>
    obtain ⟨l, n⟩ := found
    have hn := hleft l n hstanding
    obtain ⟨-, -, hgone⟩ := FileSystem.removeFile_of_isEnd hstanding hn
    rw [world_unstage_of_isEnd hstanding hn]
    refine ⟨hgone, fun q hq => ?_⟩
    have hne : q ≠ l := by
      rintro rfl
      exact hq n rfl
    obtain ⟨-, hl⟩ := FileSystem.standing?_eq_some_iff.mp hstanding
    rw [FileSystem.get?_erase (FileSystem.ne_nil_of_isEnd hl hn), if_neg hne]

/-! ## A text staged in the root -/

theorem locate_stagedName (follow : Bool)
    (h : ∀ target, fs.get? [stagedName] ≠ some (.link target)) :
    fs.locate follow [] "/temp_agent_output.txt" = .ok [stagedName] := by
  have hsteps : FileSystem.stepsOf "/temp_agent_output.txt" = [stagedName] := by decide +kernel
  have hroot : fs.get? [] = some .directory := if_pos rfl
  have hplain : stagedName ≠ "." ∧ stagedName ≠ ".." ∧ ¬ FileSystem.longestName < stagedName.utf8ByteSize := by
    decide +kernel
  obtain ⟨hdot, hdots, hshort⟩ := hplain
  refine FileSystem.locate_eq_ok.mpr ⟨by decide, by decide, by decide, ?_⟩
  rw [hsteps, if_pos (by decide), FileSystem.walk, hroot]
  simp only [hdot, hdots, hshort, if_false]
  cases hn : fs.get? ([] ++ [stagedName]) with
  | none => rfl
  | some n =>
    cases n with
    | link target => exact absurd hn (h target)
    | _ => simp [FileSystem.walk]

theorem makeDirectories_root (fs : FileSystem) : FileSystem.makeDirectories [] "/" fs = (.ok (), fs) := by
  have hlocate (follow : Bool) : fs.locate follow [] "/" = .ok [] := by
    refine FileSystem.locate_eq_ok.mpr ⟨by decide, by decide, by decide, ?_⟩
    have hsteps : FileSystem.stepsOf "/" = ["."] := by decide +kernel
    rw [hsteps]
    simp [FileSystem.walk, FileSystem.get?, Path.isAbsolute]
  apply FileSystem.makeDirectories_of_isDirectory (by decide)
  · change (fs.locate false [] "/").bind _ = _
    rw [hlocate]
    rfl
  · have hfind := FileSystem.find_of_locate (hlocate true) (show fs.get? [] = some .directory from if_pos rfl)
    simp [FileSystem.isDirectory, hfind]

/-- A parser that makes a directory and then takes too long leaves the directory and not the staged file. -/
theorem process_leaves_nothing_after_timeout :
    let p : Processor := ⟨{ parserScript := none, workspaceDir := "" }, .ofDir "/"⟩
    let programs : Programs := fun _ fs => (.error (.timedOut 600), fs.put ["rules"] .directory)
    let host := FileSystem.host [] programs
    let text := startMarker ++ endMarker
    ∃ staged, runIn (stage host p.stagingPath text) {} = (.ok (), staged) ∧
      staged.standing? [] p.stagingPath = some ([stagedName], .file 0 (Text.encode text) false) ∧
      let after := (runIn (p.process host text) {}).2
      after.standing? [] p.stagingPath = none ∧ after.get? ["rules"] = some .directory := by
  intro p programs host text
  have hpath : p.stagingPath = "/temp_agent_output.txt" := by decide +kernel
  let staged : FileSystem := { nodes := [([stagedName], .file 0 (Text.encode text) false)], fresh := 1 }
  have hstage : runIn (stage host p.stagingPath text) {} = (.ok (), staged) := by
    have habove : Path.parent? "/temp_agent_output.txt" = some "/" := by decide +kernel
    have hmake : runIn (host.makeDirectories "/") {} = (.ok (), {}) := makeDirectories_root {}
    have hwrite : runIn (host.writeText "/temp_agent_output.txt" text) {} = (.ok (), staged) := by
      apply writeText_eq_ok.mpr
      have hopen : FileSystem.locate {} true [] "/temp_agent_output.txt" = .ok [stagedName] :=
        locate_stagedName true nofun
      rw [FileSystem.write, FileSystem.openSink, hopen]
      rfl
    rw [hpath]
    simp [stage, habove, hmake, hwrite]
  have hstanding {fs : FileSystem} {n : Node} (hn : n.isEnd = true) (h : fs.get? [stagedName] = some n) :
      fs.standing? [] p.stagingPath = some ([stagedName], n) := by
    rw [hpath]
    refine FileSystem.standing?_eq_some_iff.mpr ⟨locate_stagedName false fun target ht => ?_, h⟩
    obtain rfl := Option.some.inj (h.symm.trans ht)
    cases hn
  have hleft : (p.parserLeaves [] programs staged).standing? [] p.stagingPath =
      some ([stagedName], .file 0 (Text.encode text) false) := hstanding rfl rfl
  obtain ⟨-, h⟩ := (process_leaves_nothing [] programs p text {}).2 staged (by decide +kernel) hstage
  obtain ⟨hgone, hrest⟩ := h fun l n hn => by
    obtain ⟨rfl, rfl⟩ := Prod.mk.inj (Option.some.inj (hleft.symm.trans hn))
    rfl
  refine ⟨staged, hstage, hstanding rfl rfl, hgone, (hrest ["rules"] fun n hn => ?_).trans rfl⟩
  have hname : [stagedName] = ["rules"] := congrArg Prod.fst (Option.some.inj (hleft.symm.trans hn))
  contradiction

end

end RuleOutput.Processor

end HookGate
