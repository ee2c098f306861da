import Mathlib
import HookGate.RuleOutput.Processor
import HookGate.Proofs.Sandbox.Writing
import HookGate.Proofs.System.World
import HookGate.Sandbox.Host

/-!
# What the parser is handed

A host is watched that takes down each program it starts, with the world in which it starts it. To
process a text starts nothing but the parser, and only after the text was staged. In a file system
the staged file then holds the text and nothing else, unless a device stands in its place.
-/

namespace HookGate

variable {W : Type}

/-- A launch, and the world in which it was made. -/
structure Start (W : Type) where
  launch : Launch
  world : W

def Host.watched (host : Host (StateM W)) : Host (StateM (W × List (Start W))) where
  __ := host.beside _
  launch l := do
    modify fun p => (p.1, p.2 ++ [⟨l, p.1⟩])
    aside (host.launch l)

theorem Host.runIn_launch_watched (host : Host (StateM W)) (l : Launch) (w : W)
    (starts : List (Start W)) :
    runIn (host.watched.launch l) (w, starts) =
      ((runIn (host.launch l) w).1, ((runIn (host.launch l) w).2, starts ++ [⟨l, w⟩])) :=
  rfl

namespace RuleOutput.Processor

section

variable (host : Host (StateM W)) (p : Processor)

/-! ## What is started -/

theorem missingScript?_watched :
    missingScript? host.watched p = aside (missingScript? host p) := by
  unfold missingScript?
  cases p.settings.parserScript.map p.environment.resolve <;> rfl

theorem stage_watched (staged text : String) :
    stage host.watched staged text = aside (stage host staged text) := by
  unfold stage
  cases Path.parent? staged with
  | none =>
    dsimp only
    rw [aside_bind]
    refine bind_congr fun written => ?_
    cases written <;> rfl
  | some above =>
    dsimp only
    rw [aside_bind]
    refine bind_congr fun made => ?_
    cases made with
    | error e => rfl
    | ok =>
      dsimp only
      rw [aside_bind]
      refine bind_congr fun written => ?_
      cases written <;> rfl

theorem unstage_watched (staged : String) :
    unstage host.watched staged = aside (unstage host staged) := by
  unfold unstage
  rw [aside_bind]
  refine bind_congr fun there => ?_
  cases there <;> rfl

/-- What is started for a staged file: the parser, unless its script is missing. -/
def parserStarts (staged : String) (w : W) : List (Start W) :=
  match runIn (missingScript? host p) w with
  | (none, w') => [⟨p.parserLaunch staged, w'⟩]
  | (some _, _) => []

theorem runParser_watched (staged : String) (w : W) (before : List (Start W)) :
    runIn (p.runParser host.watched staged) (w, before) =
      let r := runIn (p.runParser host staged) w
      (r.1, (r.2, before ++ p.parserStarts host staged w)) := by
  simp only [runParser, parserStarts, missingScript?_watched, runIn_bind, runIn_aside]
  obtain ⟨missing, w'⟩ := runIn (missingScript? host p) w
  cases missing with
  | none => simp only [runIn_bind, runIn_pure, Host.runIn_launch_watched]
  | some script => simp

/-- What is started for a text: nothing, if it is not staged. -/
def starts (text : String) (w : W) : List (Start W) :=
  if isIn text then
    match runIn (stage host p.stagingPath text) w with
    | (.ok (), w') => p.parserStarts host p.stagingPath w'
    | (.error _, _) => []
  else []

theorem process_watched (text : String) (w : W) (before : List (Start W)) :
    runIn (p.process host.watched text) (w, before) =
      let r := runIn (p.process host text) w
      (r.1, (r.2, before ++ p.starts host text w)) := by
  unfold process starts
  cases isIn text with
  | false => simp
  | true =>
    simp only [Bool.not_true, Bool.false_eq_true, if_false, if_true, stage_watched, runIn_bind,
      runIn_aside]
    obtain ⟨staged, w'⟩ := runIn (stage host p.stagingPath text) w
    cases staged with
    | error why => simp
    | ok => simp only [runIn_bind, runIn_pure, runParser_watched, unstage_watched, runIn_aside]

end

/-! ## What the staged file holds -/

open Sandbox (FileSystem Location Programs)
open Sandbox.FileSystem (exists_file_of_write)

variable {p : Processor} {text staged : String}

/-- To stage a text is to make the directories above it, if there are any, and then to write it. -/
theorem exists_made_of_stage {host : Host (StateM W)} {w w' : W}
    (h : runIn (stage host staged text) w = (.ok (), w')) :
    ∃ made, (made = w ∨ ∃ above, runIn (host.makeDirectories above) w = (.ok (), made)) ∧
      runIn (host.writeText staged text) made = (.ok (), w') := by
  have hwrite {k : Except SystemError Unit → StateM W (Except String Unit)} {made : W}
      (hok : k (.ok ()) = pure (.ok ())) (hfail : ∀ e, ∃ why, k (.error e) = pure (.error why))
      (h : runIn (host.writeText staged text >>= k) made = (.ok (), w')) :
      runIn (host.writeText staged text) made = (.ok (), w') := by
    rw [runIn_bind] at h
    generalize runIn (host.writeText staged text) made = r at h ⊢
    obtain ⟨written, w₁⟩ := r
    cases written with
    | error e =>
      obtain ⟨why, hwhy⟩ := hfail e
      rw [hwhy] at h
      cases h
    | ok =>
      rw [hok] at h
      simpa using h
  unfold stage at h
  cases habove : Path.parent? staged with
  | none =>
    simp only [habove] at h
    exact ⟨w, .inl rfl, hwrite rfl (fun _ => ⟨_, rfl⟩) h⟩
  | some above =>
    simp only [habove] at h
    rw [runIn_bind] at h
    generalize hmade : runIn (host.makeDirectories above) w = r at h
    obtain ⟨made, w₁⟩ := r
    cases made with
    | error e => cases h
    | ok => exact ⟨w₁, .inr ⟨above, hmade⟩, hwrite rfl (fun _ => ⟨_, rfl⟩) h⟩

section

variable {cwd : Location} {programs : Programs} {fs : FileSystem}

theorem writeText_eq_ok {fs' : FileSystem} {path : String} :
    runIn ((FileSystem.host cwd programs).writeText path text) fs = (.ok (), fs') ↔
      fs.write cwd path (Text.encode text) = .ok fs' := by
  have hrun : runIn ((FileSystem.host cwd programs).writeText path text) fs =
      FileSystem.attempt (fun fs => fs.write cwd path (Text.encode text)) fs := rfl
  rw [hrun, FileSystem.attempt]
  cases fs.write cwd path (Text.encode text) <;> simp

theorem world_missingScript? (p : Processor) :
    (runIn (missingScript? (FileSystem.host cwd programs) p) fs).2 = fs := by
  unfold missingScript?
  cases p.settings.parserScript.map p.environment.resolve <;> rfl

end

end RuleOutput.Processor

end HookGate
