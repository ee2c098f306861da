import HookGate.Proofs.Hook.Blocking
import HookGate.Proofs.Hook.Levels
import HookGate.Proofs.Pattern.Assembly

/-!
# Dry runs

A dry run does what the same run does in earnest, up to the point where its entry is recorded. It
shows the same texts, and all that it takes away from a block is the exit code and the name of its
level. The two are compared in any monad, so whatever the host does, it does in both.
-/

namespace HookGate

/-- A block that is not carried out is a warning. -/
def AuditLevel.softened : AuditLevel → AuditLevel
  | blocked => warn
  | l => l

def RunResult.softened (r : RunResult) : RunResult where
  output := { r.output with exitCode := 0 }
  entry := { r.entry with level := r.entry.level.softened }

theorem Output.ofDecision_softened (d : Decision) :
    ofDecision d.softened = { ofDecision d with exitCode := 0 } := by
  cases d <;> rfl

theorem AuditEntry.ofInput_softened (mode : Mode) (i : HookInput) (d : Decision) :
    ofInput mode i d.softened false =
      { ofInput mode i d false with level := (ofInput mode i d false).level.softened } := by
  cases d <;> rfl

theorem AuditEntry.withWarnings_softened (entry : AuditEntry) (warnings : List String) :
    ({ entry with level := entry.level.softened } : AuditEntry).withWarnings warnings =
      { entry.withWarnings warnings with level := (entry.withWarnings warnings).level.softened } := by
  obtain ⟨mode, level, ruleId, inputSummary, reason, matched, held, sessionId⟩ := entry
  cases level <;> cases warnings <;> rfl

/-- A world in which every program fails and leaves this text on standard error. -/
def Host.failing (stderr : String) : Host (StateM Unit) :=
  { Host.holding "" with launch := fun _ => pure (.ok { stderr, status := some 1 }) }

theorem Gate.isGuarded_plain : Gate.isGuarded "docker run semgrep" = true := by
  simp only [Gate.isGuarded, Pattern.occursIn, Pattern.occurs, Pattern.Machine.ofPattern,
    Pattern.Machine.different_empty]
  decide +kernel

namespace Invocation

variable {m : Type → Type} [Monad m] [LawfulMonad m] (host : Host m) (s : Settings)
  (e : Environment) (inv : Invocation)

theorem runText_dryRun (text : String) :
    { inv with dryRun := true }.runText host s e text =
      RunResult.softened <$> { inv with dryRun := false }.runText host s e text := by
  cases he : e.disabled <;> simp [runText, he] <;> rfl

theorem runInput_dryRun (i : HookInput) :
    { inv with dryRun := true }.runInput host s e i =
      RunResult.softened <$> { inv with dryRun := false }.runInput host s e i := by
  cases he : e.disabled with
  | true =>
    simp [runInput, he]
    rfl
  | false =>
    have hdecide : { inv with dryRun := true }.decide host s e i =
        { inv with dryRun := false }.decide host s e i := rfl
    simp only [runInput, he, hdecide, Bool.false_eq_true, if_false, if_true, map_bind, map_pure]
    refine bind_congr fun decided => ?_
    rw [Output.ofDecision_softened, AuditEntry.ofInput_softened, AuditEntry.withWarnings_softened]
    rfl

theorem result_dryRun (stdin : String) :
    { inv with dryRun := true }.result host s e stdin =
      RunResult.softened <$> { inv with dryRun := false }.result host s e stdin := by
  -- What the input is taken for does not depend on whether the run is dry.
  cases inv.course stdin with
  | text hraw =>
    have htext (dry : Bool) : { inv with dryRun := dry }.result host s e stdin =
        { inv with dryRun := dry }.runText host s e stdin :=
      result_of_text host s e hraw
    rw [htext, htext, runText_dryRun]
  | @unread reason hevents hunread =>
    have hskip (dry : Bool) : { inv with dryRun := dry }.result host s e stdin =
        pure ({ inv with dryRun := dry }.skip reason) :=
      result_of_unread host s e hevents hunread
    rw [hskip, hskip, map_pure]
    rfl
  | @event i hevents hgiven hread =>
    have hinput (dry : Bool) : { inv with dryRun := dry }.result host s e stdin =
        { inv with dryRun := dry }.runInput host s e i :=
      result_of_event host s e hevents hgiven hread
    rw [hinput, hinput, runInput_dryRun]

/-- A run and the dry run make the same computation, which reads the input, asks the host, starts
programs and stages texts. What the dry run then shows differs at most in the exit code, which is 0,
and what it records differs at most in the level, which is a warning for a block. -/
theorem run_dryRun (log : AuditLog m) (stdin : String) :
    let decided := { inv with dryRun := false }.result host s e stdin
    ({ inv with dryRun := false }.run host s e log stdin = do
      let r ← decided
      return (r.output, ← log.record host r.entry)) ∧
    { inv with dryRun := true }.run host s e log stdin = do
      let r ← decided
      return ({ r.output with exitCode := 0 },
        ← log.record host { r.entry with level := r.entry.level.softened }) := by
  refine ⟨rfl, ?_⟩
  rw [run, result_dryRun, bind_map_left]
  rfl

/-- The gate stops a command that its validator rejects. The dry run lets the command pass with the
same message, and a log beside the world is told of a warning. -/
theorem run_dryRun_blocked :
    let host := (Host.failing "missing --severity flag").beside (List String)
    let e := Environment.ofDir "/project"
    let inv : Invocation := { mode := .guard }
    let stdin := "\x7b\"tool_name\":\"Bash\",\"tool_input\":\x7b\"command\":\"docker run semgrep\"\x7d\x7d"
    let r := (runIn (inv.result host {} e stdin) ((), [])).1
    let dry := runIn ({ inv with dryRun := true }.run host {} e .kept stdin) ((), [])
    r.entry.level = .blocked ∧ r.output.exitCode = 2 ∧ r.output.stderr.isSome = true ∧
      dry.1.1 = { r.output with exitCode := 0 } ∧
      ∃ timestamp, dry.2.2 = [AuditEntry.line timestamp { r.entry with level := .warn }] := by
  intro host e inv stdin r dry
  let command := "docker run semgrep"
  let i : HookInput := { toolName := some "Bash", toolInput := some (.bash command none) }
  have hread : HookInput.ofJson? stdin = .ok i := by cbv
  have hcommand : i.bashCommand? = some command := by decide +kernel
  have hstops : Stops host {} e inv stdin command ((), []) :=
    { guards := rfl
      enforced := rfl
      enabled := rfl
      given := by decide +kernel
      read := ⟨i, hread, hcommand⟩
      nonblank := by decide +kernel
      guarded := Gate.isGuarded_plain
      validating := rfl
      objected := rfl }
  have hout := output_result_of_stops host {} e inv hstops
  rw [CommandGate.output_blockOf] at hout
  have hcode : r.output.exitCode = 2 := by rw [hout]
  have hlevel : r.entry.level = .blocked := (shows_result host {} e inv stdin _).blocked.mpr hcode
  have hdry := congrArg (fun x => runIn x ((), [])) (run_dryRun host {} e inv .kept stdin).2
  have hbeside : (runIn (inv.result host {} e stdin) ((), [])).2.2 = [] :=
    leaves_result (Host.asksOnly_beside _) (Host.leaves_launch_beside _)
      (fun _ _ _ _ _ => Host.sparedAt_beside _ _) _
  have hlog : dry.2.2 = (runIn (inv.result host {} e stdin) ((), [])).2.2 ++
      [AuditEntry.line "2026-01-01T00:00:00Z" { r.entry with level := r.entry.level.softened }] :=
    congrArg (fun x => x.2.2) hdry
  rw [hbeside, hlevel] at hlog
  exact ⟨hlevel, hcode, by rw [hout]; rfl, congrArg (fun x => x.1.1) hdry, _, hlog⟩

end Invocation

end HookGate
