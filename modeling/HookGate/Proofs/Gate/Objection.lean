import HookGate.Proofs.Gate.Guarded
import HookGate.Proofs.Gate.Recheck
import HookGate.Proofs.Hook.Blocking
import HookGate.Proofs.Text.Words

/-!
# What the validator says against a command

A command passes if the script is missing that was to judge it, or the program, or if the program ends
well. Whatever else comes of starting the program is told in words, and these words stand in the
message of the block, before the steps to a better command and the way around the gate.
-/

namespace HookGate

open Sandbox (FileSystem Programs)

variable {W : Type}

/-! ## Errors in words -/

theorem Text.isBlankText_append_left {s : String} (h : isBlankText s = false) (t : String) :
    isBlankText (s ++ t) = false := by
  rw [isBlankText] at h
  rw [isBlankText, String.toList_append, List.all_append, h, Bool.false_and]

namespace ValidatorError

theorem isBlankText_message_ofLaunch (e : LaunchError) :
    Text.isBlankText (ofLaunch e).message = false := by
  have hmissing : Text.isBlankText "validator not available: " = false := by decide +kernel
  have hlimit : Text.isBlankText "validation timed out (>" = false := by decide +kernel
  have hfailed : Text.isBlankText "validation failed to run: " = false := by decide +kernel
  cases e with
  | missing program => exact Text.isBlankText_append_left hmissing _
  | timedOut seconds =>
    apply Text.isBlankText_append_left
    exact Text.isBlankText_append_left hlimit _
  | notStarted | waitFailed | noRuntime => exact Text.isBlankText_append_left hfailed _

theorem isHarmless_ofLaunch (e : LaunchError) :
    (ofLaunch e).isHarmless = true ↔ ∃ program, e = .missing program := by
  cases e <;> simp [ofLaunch, isHarmless]

end ValidatorError

namespace Verdict

/-- An objection is put in words. -/
def Explained (v : Verdict) : Prop := v.passed = false → Text.isBlankText v.detail = false

theorem passed_ofResult (r : Except ValidatorError Unit) :
    (ofResult r).passed = true ↔ ∀ err, r = .error err → err.isHarmless = true := by
  cases r with
  | ok _ => simp [ofResult, approval]
  | error err => cases h : err.isHarmless <;> simp [ofResult, h, approval, objection]

theorem explained_ofResult {r : Except ValidatorError Unit}
    (h : ∀ err, r = .error err → Text.isBlankText err.message = false) : (ofResult r).Explained := by
  cases r with
  | ok _ => simp [Explained, ofResult, approval]
  | error err =>
    cases hharm : err.isHarmless with
    | true => simp [Explained, ofResult, hharm, approval]
    | false => simpa [Explained, ofResult, hharm, objection] using h err rfl

end Verdict

/-! ## Runs of the program -/

namespace ValidatorProgram

/-- A program that did not end well is quoted, or its end is described. -/
theorem resultOf_cases (f : Finished) :
    f.status = some 0 ∧ resultOf f = .ok () ∨
      f.status ≠ some 0 ∧
        ∃ why, resultOf f = .error (.rejected f.status why) ∧ Text.isBlankText why = false := by
  cases hf : f.success with
  | true => exact .inl ⟨of_decide_eq_true hf, by rw [resultOf, if_pos hf]; rfl⟩
  | false =>
    refine .inr ⟨of_decide_eq_false hf, _, by rw [resultOf, hf]; rfl, ?_⟩
    split
    · cases f.status with
      | some status =>
        have hstatus : Text.isBlankText "validator exited with status " = false := by decide +kernel
        exact Text.isBlankText_append_left hstatus _
      | none =>
        have hsignal : Text.isBlankText "validator was terminated by a signal" = false := by
          decide +kernel
        exact hsignal
    · next hsaid =>
      rw [Text.isBlankText_trim]
      apply Text.isBlankText_of_trim_ne
      rwa [String.isEmpty_iff] at hsaid

section

variable (host : Host (StateM W)) (v : ValidatorProgram) (command : String) (config : Option String)

/-- What comes of starting the program, once its script and the configuration have been looked for. -/
def launched (w : W) : Except LaunchError Finished :=
  (runIn (do
    let _ ← missingScript? host v
    let path ← present? host config
    host.launch (v.launch command path)) w).1

/-- Why a command passes: its script is missing, or the program is, or the program ends well. -/
def Approves (w : W) : Prop :=
  (∃ script ∈ v.script, (runIn (host.isThere script) w).1 = false) ∨
    (∃ program, v.launched host command config w = .error (.missing program)) ∨
      ∃ f, v.launched host command config w = .ok f ∧ f.status = some 0

theorem missingScript?_eq_some_iff (w : W) (script : String) :
    (runIn (missingScript? host v) w).1 = some script ↔
      script ∈ v.script ∧ (runIn (host.isThere script) w).1 = false := by
  cases h : v.script with
  | none => simp [missingScript?, h]
  | some path =>
    have hthere : (runIn (missingScript? host v) w).1 =
        if (runIn (host.isThere path) w).1 then none else some path := by
      simp [missingScript?, h]
    rw [hthere, Option.mem_some_iff]
    split
    · next hpath =>
      simp only [reduceCtorEq, false_iff, not_and]
      rintro rfl
      rw [hpath]
      exact Bool.noConfusion
    · next hpath =>
      rw [Option.some_inj]
      constructor
      · rintro rfl
        exact ⟨rfl, Bool.eq_false_iff.mpr hpath⟩
      · exact And.left

theorem runIn_run (w : W) :
    (runIn (v.run host command config) w).1 =
      match (runIn (missingScript? host v) w).1 with
      | some script => .error (.missing script)
      | none =>
        match v.launched host command config w with
        | .ok f => resultOf f
        | .error err => .error (.ofLaunch err) := by
  unfold run launched
  simp only [runIn_bind, launch]
  cases (runIn (missingScript? host v) w).1 with
  | some script => rfl
  | none =>
    simp only [runIn_bind]
    generalize runIn (host.launch _) _ = r
    obtain ⟨finished, w'⟩ := r
    cases finished <;> rfl

/-- The verdict on a command, which is in words if it is an objection. -/
theorem passed_judge_iff (w : W) :
    ((runIn ((v.validator host).judge command config) w).1.passed = true ↔
        v.Approves host command config w) ∧
      (runIn ((v.validator host).judge command config) w).1.Explained := by
  have hjudge : (runIn ((v.validator host).judge command config) w).1 =
      .ofResult (runIn (v.run host command config) w).1 := rfl
  have hscript (script : String) := missingScript?_eq_some_iff host v w script
  rw [hjudge, Verdict.passed_ofResult, runIn_run, Approves]
  cases hmissing : (runIn (missingScript? host v) w).1 with
  | some script =>
    have happroves : ∃ script ∈ v.script, (runIn (host.isThere script) w).1 = false :=
      ⟨script, (hscript script).mp hmissing⟩
    simp only [Except.error.injEq, forall_eq', ValidatorError.isHarmless, true_iff]
    exact ⟨.inl happroves, Bool.noConfusion⟩
  | none =>
    have hthere : ¬ ∃ script ∈ v.script, (runIn (host.isThere script) w).1 = false := by
      rintro ⟨script, hmem, hpath⟩
      have := (hscript script).mpr ⟨hmem, hpath⟩
      rw [hmissing] at this
      contradiction
    rw [or_iff_right hthere]
    cases hlaunch : v.launched host command config w with
    | error err =>
      refine ⟨?_, Verdict.explained_ofResult fun e he => ?_⟩
      · simpa using ValidatorError.isHarmless_ofLaunch err
      · obtain rfl := Except.error.inj he
        exact ValidatorError.isBlankText_message_ofLaunch err
    | ok f =>
      obtain ⟨hstatus, hresult⟩ | ⟨hstatus, why, hresult, hwhy⟩ := resultOf_cases f
      · simp [hresult, hstatus, Verdict.Explained, Verdict.ofResult, Verdict.approval]
      · simp only [hresult, Except.error.injEq, forall_eq', ValidatorError.isHarmless,
          Bool.false_eq_true, reduceCtorEq, exists_false, Except.ok.injEq, false_or, false_iff]
        refine ⟨?_, Verdict.explained_ofResult fun e he => ?_⟩
        · rintro ⟨f', rfl, hok⟩
          exact hstatus hok
        · obtain rfl := Except.error.inj he
          exact hwhy

end

end ValidatorProgram

/-! ## The message -/

/-- A message tells a reason, all steps to a better command behind it, each on its line, and on a line
behind them the way around the gate. -/
def Gate.Tells (message reason skipVariable : String) : Prop :=
  ∃ before between behind, message =
    before ++ reason ++ "\n" ++ between ++ "\n" ++ Text.joinWith "\n" Gate.remediationSteps ++ "\n" ++
      behind ++ "\n" ++ "To skip validation temporarily: export " ++ skipVariable ++ "=1\n"

theorem Gate.BlockMessage.tells_render (m : Gate.BlockMessage) :
    Gate.Tells m.render (Text.trim m.detail) m.skipVariable := by
  obtain ⟨blanks, hdetail⟩ := Text.exists_dropBlanksEnd m.detail.toList
  have hquoted : Text.trimEnd m.detail = .ofList blanks ++ Text.trim m.detail := by
    rw [Text.trimEnd, hdetail, String.ofList_append, Text.trim]
  let opening := ["", Gate.heavyLine, "SEMGREP EXECUTION BLOCKED", Gate.heavyLine, "",
    "This Semgrep Docker command does not meet the execution requirements and was blocked.", ""]
  let middle :=
    ["", Gate.heavyLine, "Generate the command with the standard scripts instead", Gate.heavyLine, ""]
  let pointers := [""] ++ (match m.recheck with
    | some line => ["Re-check a command by hand:", "  " ++ line, ""]
    | none => []) ++ ["Documentation: " ++ m.docsPath, ""]
  let ending := ["To skip validation temporarily: export " ++ m.skipVariable ++ "=1", ""]
  have hlines : m.lines = opening ++ ([Text.trimEnd m.detail] ++ (middle ++
      (Gate.remediationSteps ++ (pointers ++ ending)))) := by
    cases hline : m.recheck <;>
      simp [Gate.BlockMessage.lines, opening, middle, pointers, ending, hline]
  have hjoin (xs ys : List String) (hx : xs ≠ []) (hy : ys ≠ []) :
      Text.joinWith "\n" (xs ++ ys) = Text.joinWith "\n" xs ++ "\n" ++ Text.joinWith "\n" ys :=
    String.intercalate_append_of_ne_nil hx hy
  have hone (x : String) : Text.joinWith "\n" [x] = x := by simp [Text.joinWith]
  refine ⟨Text.joinWith "\n" opening ++ "\n" ++ .ofList blanks, Text.joinWith "\n" middle,
    Text.joinWith "\n" pointers, ?_⟩
  rw [Gate.BlockMessage.render, hlines, hjoin opening _ (by simp [opening]) (by simp),
    hjoin [_] _ (by simp) (by simp [middle]), hjoin middle _ (by simp [middle]) (by simp [pointers]),
    hjoin Gate.remediationSteps _ (by simp [Gate.remediationSteps]) (by simp [pointers]),
    hjoin pointers ending (by simp [pointers]) (by simp [ending]), hone, hquoted]
  have hending : Text.joinWith "\n" ending =
      "To skip validation temporarily: export " ++ m.skipVariable ++ "=1\n" := by
    simp [ending, Text.joinWith, String.append_assoc]
  rw [hending]
  simp only [String.append_assoc]

theorem CommandGate.exists_block (host : Host (StateM W)) (g : CommandGate (StateM W)) {command : String}
    {w : W} (h : g.Stops host command w) (hwords : (g.consult host command w).verdict.Explained) :
    ∃ reason message, (runIn (g.checkCommand host command) w).1 = .block ⟨ruleId, reason, message⟩ ∧
      Text.isBlankText reason = false ∧ Gate.Tells message reason g.settings.skipVariable := by
  have hmessage := (g.messageOf host command w).tells_render
  have hdetail : (g.messageOf host command w).detail = (g.consult host command w).verdict.detail := rfl
  have hskip : (g.messageOf host command w).skipVariable = g.settings.skipVariable := rfl
  rw [hdetail, hskip] at hmessage
  refine ⟨_, _, g.checkCommand_of_stops host h, ?_, hmessage⟩
  rw [Text.isBlankText_trim]
  exact hwords h.objected

/-- A guarded command passes if the script is missing that was to judge it, or the program, or if the
program ends well. In every other case it is blocked with a reason in words, and the message tells the
reason before the steps to a better command and the way around the gate behind them. -/
theorem checkCommand_explains (host : Host (StateM W)) (s : GateSettings) (e : Environment)
    (command : String) (w : W) :
    let g := CommandGate.ofSettings host s e
    let v := ValidatorProgram.ofSettings s.validator e
    let found := runIn (Gate.findConfig? host e s.configFileName s.workspaceDirs) w
    (∀ config w, (runIn (g.validator.judge command config) w).1.passed = true ↔
      v.Approves host command config w) ∧
    (Gate.isGuarded command = true → e.skipValidation = false →
      ¬ v.Approves host command found.1 found.2 →
        ∃ reason message,
          (runIn (g.checkCommand host command) w).1 = .block ⟨CommandGate.ruleId, reason, message⟩ ∧
          Text.isBlankText reason = false ∧ Gate.Tells message reason s.skipVariable) := by
  intro g v found
  have hjudge (config : Option String) (w : W) := v.passed_judge_iff host command config w
  refine ⟨fun config w => (hjudge config w).1, ?_⟩
  intro hguarded hvalidating hno
  obtain ⟨hpassed, hwords⟩ := hjudge found.1 found.2
  have hobjected : (g.consult host command w).verdict.passed = false := by
    rw [Bool.eq_false_iff]
    exact fun hp => hno (hpassed.mp hp)
  exact g.exists_block host ⟨hguarded, hvalidating, hobjected⟩ hwords

/-- A validator that ends badly without a word still blocks with a reason. -/
theorem checkCommand_explains_blank_stderr :
    let programs : Programs := fun _ fs => (.ok { stderr := " \n", status := some 2 }, fs)
    let host := FileSystem.host [] programs
    let s : GateSettings := { validator := { script := none } }
    let e : Environment := .ofDir "/"
    ∃ reason message,
      (runIn ((CommandGate.ofSettings host s e).checkCommand host "Docker  run semgrep") {}).1 =
          .block ⟨CommandGate.ruleId, reason, message⟩ ∧
        Text.isBlankText reason = false ∧ Gate.Tells message reason s.skipVariable := by
  intro programs host s e
  let v := ValidatorProgram.ofSettings s.validator e
  have hguarded : Gate.isGuarded "Docker  run semgrep" = true := by
    have hscanner : Gate.Spells "semgrep" "semgrep".toList := (Gate.spells_iff (by simp) _).mpr rfl
    have hdocker : Gate.Spells "docker" "Docker".toList :=
      (Gate.spells_iff (by simp) _).mpr (by decide +kernel)
    have hrun : Gate.Spells "run" "run".toList := (Gate.spells_iff (by simp) _).mpr rfl
    have hblanks : ∀ c ∈ "  ".toList, Text.isBlank c = true := List.all_eq_true.mp (by decide)
    apply (Gate.isGuarded_iff _).mpr
    exact ⟨⟨"Docker  run ".toList, _, [], by decide, hscanner⟩,
      [], _, "  ".toList, _, " semgrep".toList, by decide, hdocker, by decide, hblanks, hrun⟩
  have hlaunched (config : Option String) (fs : FileSystem) :
      v.launched host "Docker  run semgrep" config fs = .ok { stderr := " \n", status := some 2 } := by
    cases config <;> rfl
  have hno (config : Option String) (fs : FileSystem) : ¬ v.Approves host "Docker  run semgrep" config fs := by
    rintro (⟨script, hscript, -⟩ | ⟨program, hprogram⟩ | ⟨f, hf, hstatus⟩)
    · cases hscript
    · rw [hlaunched] at hprogram
      cases hprogram
    · rw [hlaunched] at hf
      obtain rfl := Except.ok.inj hf
      cases hstatus
  exact (checkCommand_explains host s e "Docker  run semgrep" {}).2 hguarded rfl (hno _ _)

end HookGate
