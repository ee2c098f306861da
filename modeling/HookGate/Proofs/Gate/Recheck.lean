import HookGate.Gate.Validator
import HookGate.Proofs.RuleOutput.Handover
import HookGate.Proofs.Shell.Quoting

/-!
# The line to check again with

A user is shown a line with which the validator can be asked again. Split into words, it is what a run
starts: the program and its arguments, one by one. Whether the configuration is handed on is decided
anew for the line and for each run, so both are said to depend on the world.
-/

namespace HookGate

variable {W : Type}

/-- The words that a program is started with. -/
def Launch.words (l : Launch) : List String := l.program :: l.arguments

namespace ValidatorProgram

section

variable (host : Host (StateM W)) (v : ValidatorProgram) (command : String) (config : Option String)

/-- The path of a configuration, if there is anything in this world. -/
def passed? (w : W) : Option String := config.filter fun path => (runIn (host.isThere path) w).1

theorem runIn_present? (w : W) : (runIn (present? host config) w).1 = passed? host config w := by
  cases config with
  | none => rfl
  | some path => simp [present?, passed?, Option.filter]

/-- The launch of the program, with the path of a configuration that exists. -/
def launch (path : Option String) : Launch where
  program := v.program
  arguments := v.arguments command path
  limitSecs := v.limitSecs

/-! ## The line -/

theorem runIn_describe? (w : W) :
    (runIn (v.describe? host command config) w).1 =
      Shell.joinWords? (v.launch command (passed? host config w)).words := by
  rw [← runIn_present?]
  rfl

/-! ## The run -/

theorem missingScript?_watched :
    missingScript? host.watched v = aside (missingScript? host v) := by
  unfold missingScript?
  cases v.script <;> rfl

theorem present?_watched : present? host.watched config = aside (present? host config) := by
  cases config <;> rfl

/-- What a run starts: the program, unless its script is missing. -/
def starts (w : W) : List (Start W) :=
  match runIn (missingScript? host v) w with
  | (none, asked) =>
    [⟨v.launch command (passed? host config asked), (runIn (present? host config) asked).2⟩]
  | (some _, _) => []

theorem run_watched (w : W) (before : List (Start W)) :
    runIn (v.run host.watched command config) (w, before) =
      let r := runIn (v.run host command config) w
      (r.1, (r.2, before ++ v.starts host command config w)) := by
  simp only [run, starts, missingScript?_watched, runIn_bind, runIn_aside]
  obtain ⟨missing, asked⟩ := runIn (missingScript? host v) w
  cases missing with
  | some script => simp
  | none =>
    simp only [runIn_bind, present?_watched, runIn_aside, Host.runIn_launch_watched, runIn_present?,
      launch]
    generalize runIn (host.launch _) _ = r
    obtain ⟨finished, w'⟩ := r
    cases finished <;> rfl

end

/-! ## Both together -/

section

variable (s : ValidatorSettings) (e : Environment) (command : String)

/-- The words are those that the settings give, the command being one of them, and with them the path of
the configuration if there is anything. -/
theorem words_launch (path : Option String) :
    ((ofSettings s e).launch command path).words =
      s.program :: ((s.script.map e.resolve).toList ++ ["--command", command] ++ s.args ++
        path.toList.flatMap fun path => ["--config-path", path]) := by
  cases path <;> simp [Launch.words, launch, arguments, ofSettings]

/-- There is no null character in the names of the options. -/
theorem exists_null_mem_words_launch_iff (path : Option String) :
    (∃ word ∈ ((ofSettings s e).launch command path).words, '\x00' ∈ word.toList) ↔
      ∃ word ∈ s.program :: ((s.script.map e.resolve).toList ++ command :: s.args ++ path.toList),
        '\x00' ∈ word.toList := by
  cases path <;> simp [words_launch, or_and_right, exists_or]

end

/-- There is no line to check again with just if a word that is given has a null character in it. A line
that there is falls into the program and the arguments with which a run starts the program. The run
starts it once if its script is there, or if it has none, and starts nothing else; watching it changes
nothing else. -/
theorem splitWords?_recheck (host : Host (StateM W)) (s : ValidatorSettings) (e : Environment)
    (command : String) (config : Option String) :
    let v := ofSettings s e
    let words (w : W) : List String :=
      s.program :: ((s.script.map e.resolve).toList ++ ["--command", command] ++ s.args ++
        (passed? host config w).toList.flatMap fun path => ["--config-path", path])
    (∀ w, let line? := (runIn (v.describe? host command config) w).1
      (line? = none ↔
        ∃ word ∈ s.program :: ((s.script.map e.resolve).toList ++ command :: s.args ++
          (passed? host config w).toList), '\x00' ∈ word.toList) ∧
        ∀ line ∈ line?, Shell.splitWords? line = some (words w)) ∧
      ∀ w, ∃ starts : List (Start W),
        let ran := runIn (v.run host command config) w
        runIn (v.run host.watched command config) (w, []) = (ran.1, (ran.2, starts)) ∧
          starts.map (fun start => (start.launch.words, start.launch.limitSecs)) =
            match runIn (missingScript? host v) w with
            | (none, asked) => [(words asked, s.timeoutSecs)]
            | (some _, _) => [] := by
  intro v words
  have hwords (w : W) : (v.launch command (passed? host config w)).words = words w :=
    words_launch s e command _
  refine ⟨fun w => ?_, fun w => ⟨v.starts host command config w, run_watched host v command config w [],
    ?_⟩⟩
  · simp only [runIn_describe?]
    refine ⟨?_, fun line hline => ?_⟩
    · rw [Shell.joinWords?_eq_none_iff]
      exact exists_null_mem_words_launch_iff s e command _
    · rw [← hwords w]
      exact Shell.splitWords?_of_joinWords? hline
  · unfold starts
    generalize runIn (missingScript? host v) w = asked
    obtain ⟨missing, w'⟩ := asked
    cases missing with
    | some script => rfl
    | none => exact congrArg (fun words => [(words, s.timeoutSecs)]) (hwords w')

end ValidatorProgram

end HookGate
