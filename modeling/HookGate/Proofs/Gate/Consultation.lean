import HookGate.Proofs.Hook.Blocking
import HookGate.Proofs.System.World

/-!
# What the validator is asked

A gate may be called in three ways, any number of times, and the world goes on in between. The
validator is then asked of the guarded commands among those that the calls are about, of each once
and in the order of the calls. With the escape hatch open it is asked of none.

To see this, a validator is watched: a list beside the world, which nothing in the world can reach,
takes down each question before it is put.
-/

namespace HookGate

variable {W : Type}

/-- A command, with the path of the configuration that was found for it. -/
structure Question where
  command : String
  config : Option String
deriving Repr, DecidableEq

def Validator.watched (v : Validator (StateM W)) : Validator (StateM (W × List Question)) where
  judge command config := do
    modify fun p => (p.1, p.2 ++ [⟨command, config⟩])
    aside (v.judge command config)
  invocation? command config := aside (v.invocation? command config)

def CommandGate.watched (g : CommandGate (StateM W)) :
    CommandGate (StateM (W × List Question)) where
  settings := g.settings
  environment := g.environment
  validator := g.validator.watched

inductive GateCall
  | evaluate (command : String)
  | checkCommand (command : String)
  | check (i : HookInput)

inductive GateAnswer
  | state (s : GateState)
  | decision (d : Decision)

def GateAnswer.blocks : GateAnswer → Bool
  | state (.invalid _ _) => true
  | state _ => false
  | decision d => d.isBlock

namespace GateCall

def run (host : Host (StateM W)) (g : CommandGate (StateM W)) : GateCall → StateM W GateAnswer
  | evaluate command => return .state (← g.evaluate host command)
  | checkCommand command => return .decision (← g.checkCommand host command)
  | check i => return .decision (← g.check host i)

/-- The command that a call is about. An input is about one if it calls the shell tool with a text
that is not blank. -/
def command? : GateCall → Option String
  | evaluate command | checkCommand command => some command
  | check i =>
    match i.toolInput with
    | some (.bash command _) =>
      if i.toolName = some "Bash" ∧ Text.isBlankText command = false then some command else none
    | _ => none

end GateCall

/-- A call, after something has happened in the world. -/
structure Turn (W : Type) where
  meanwhile : W → W
  call : GateCall

namespace Turn

def run (host : Host (StateM W)) (g : CommandGate (StateM W)) (t : Turn W) : StateM W GateAnswer := do
  modify t.meanwhile
  t.call.run host g

def beside (L : Type) (t : Turn W) : Turn (W × L) := ⟨fun p => (t.meanwhile p.1, p.2), t.call⟩

end Turn

/-! ## What is to be asked -/

section

variable (host : Host (StateM W)) (g : CommandGate (StateM W))

/-- The question for a command, if the gate has to put one: the command as it is, and the
configuration that is found in this world. -/
def CommandGate.question? (command : String) (w : W) : Option Question :=
  if Gate.isGuarded command = true ∧ g.environment.skipValidation = false then
    some ⟨command, (runIn (Gate.findConfig? host g.environment g.settings.configFileName
      g.settings.workspaceDirs) w).1⟩
  else none

def GateCall.question? (c : GateCall) (w : W) : Option Question :=
  c.command?.bind fun command => g.question? host command w

/-- The questions of calls one after the other, each in the world in which its call is made. -/
def questions : List (Turn W) → W → List Question
  | [], _ => []
  | t :: turns, w =>
    (t.call.question? host g (t.meanwhile w)).toList ++ questions turns (runIn (t.run host g) w).2

end

/-! ## What is asked -/

section

variable {L : Type} (host : Host (StateM W)) (g : CommandGate (StateM W))

theorem Gate.findConfig?_beside (e : Environment) (fileName : String) (candidates : List String) :
    findConfig? (host.beside L) e fileName candidates =
      aside (findConfig? host e fileName candidates) := by
  induction candidates with
  | nil => rfl
  | cons candidate candidates ih =>
    have hbelow : findBelow? (host.beside L) fileName (e.resolve candidate) =
        aside (findBelow? host fileName (e.resolve candidate)) := by
      unfold findBelow?
      rw [aside_bind]
      refine bind_congr fun found => ?_
      cases found <;> rfl
    unfold findConfig?
    rw [hbelow, aside_bind]
    refine bind_congr fun found => ?_
    cases found with
    | none => exact ih
    | some path => rfl

namespace CommandGate

theorem consult_watched (command : String) (w : W) (qs : List Question) :
    g.watched.consult (host.beside _) command (w, qs) =
      let c := g.consult host command w
      { config := c.config, verdict := c.verdict, world := (c.world, qs ++ [⟨command, c.config⟩]) } := by
  simp only [consult, watched, Gate.findConfig?_beside, runIn_aside]
  rfl

theorem evaluate_watched (command : String) (w : W) (qs : List Question) :
    runIn (g.watched.evaluate (host.beside _) command) (w, qs) =
      let r := runIn (g.evaluate host command) w
      (r.1, (r.2, qs ++ (g.question? host command w).toList)) := by
  have hopen : g.watched.environment = g.environment := rfl
  simp only [runIn_evaluate, consult_watched, hopen, question?]
  cases hguarded : Gate.isGuarded command with
  | false => simp
  | true =>
    cases hskip : g.environment.skipValidation with
    | true => simp
    | false => simp [consult]

theorem checkCommand_watched (command : String) (w : W) (qs : List Question) :
    runIn (g.watched.checkCommand (host.beside _) command) (w, qs) =
      let r := runIn (g.checkCommand host command) w
      (r.1, (r.2, qs ++ (g.question? host command w).toList)) := by
  simp only [checkCommand, runIn_bind, evaluate_watched]
  cases (runIn (g.evaluate host command) w).1 <;> rfl

end CommandGate

theorem GateCall.command?_check (i : HookInput) :
    (check i).command? = i.bashCommand?.filter fun command => !Text.isBlankText command := by
  have htool : (i.toolNameText == "Bash") = decide (i.toolName = some "Bash") := by
    cases hname : i.toolName <;> simp [HookInput.toolNameText, hname, Bool.beq_eq_decide_eq]
  rw [command?, HookInput.bashCommand?, htool]
  by_cases hname : i.toolName = some "Bash" <;>
    rcases i.toolInput with _ | ⟨command, description⟩ | _ | _ <;> simp [hname, Option.filter]

/-- Watched, a call answers as it does otherwise and leaves the same world, and it adds its question
to the list if it has one. -/
theorem GateCall.run_watched (c : GateCall) (w : W) (qs : List Question) :
    runIn (c.run (host.beside _) g.watched) (w, qs) =
      let r := runIn (c.run host g) w
      (r.1, (r.2, qs ++ (c.question? host g w).toList)) := by
  cases c with
  | evaluate command => simp [run, CommandGate.evaluate_watched, question?, command?]
  | checkCommand command => simp [run, CommandGate.checkCommand_watched, question?, command?]
  | check i =>
    simp only [run, CommandGate.check, question?, command?_check, runIn_bind, runIn_pure]
    cases i.bashCommand? with
    | none => simp
    | some command =>
      cases hblank : Text.isBlankText command with
      | true => simp [hblank, Option.filter]
      | false => simp [hblank, Option.filter, CommandGate.checkCommand_watched]

theorem Turn.run_watched (t : Turn W) (w : W) (qs : List Question) :
    runIn ((t.beside _).run (host.beside _) g.watched) (w, qs) =
      let r := runIn (t.run host g) w
      (r.1, (r.2, qs ++ (t.call.question? host g (t.meanwhile w)).toList)) :=
  GateCall.run_watched host g t.call (t.meanwhile w) qs

theorem Turn.mapM_run_watched (turns : List (Turn W)) (w : W) (qs : List Question) :
    runIn ((turns.map (Turn.beside _)).mapM (Turn.run (host.beside _) g.watched)) (w, qs) =
      let r := runIn (turns.mapM (Turn.run host g)) w
      (r.1, (r.2, qs ++ questions host g turns w)) := by
  induction turns generalizing w qs with
  | nil => simp [questions]
  | cons t turns ih =>
    simp only [List.map_cons, List.mapM_cons, runIn_bind, runIn_pure, run_watched, ih, questions,
      List.append_assoc]

/-! ## Which commands -/

theorem GateCall.map_command_question? (c : GateCall) (w : W) :
    (c.question? host g w).toList.map Question.command =
      if g.environment.skipValidation then [] else c.command?.toList.filter Gate.isGuarded := by
  cases hc : c.command? with
  | none => simp [question?, hc]
  | some command =>
    cases hskip : g.environment.skipValidation <;> cases hguarded : Gate.isGuarded command <;>
      simp [question?, CommandGate.question?, hc, hskip, hguarded]

theorem map_command_questions (turns : List (Turn W)) (w : W) :
    (questions host g turns w).map Question.command =
      if g.environment.skipValidation then []
      else (turns.filterMap fun t => t.call.command?).filter Gate.isGuarded := by
  induction turns generalizing w with
  | nil => simp [questions]
  | cons t turns ih =>
    rw [questions, List.map_append, GateCall.map_command_question?, ih]
    split
    · rfl
    · cases hc : t.call.command? with
      | none => simp [hc]
      | some command => cases hguarded : Gate.isGuarded command <;> simp [hc, hguarded]

/-! ## The escape hatch -/

theorem GateCall.blocks_run (c : GateCall) {w : W} (h : g.environment.skipValidation = true) :
    (runIn (c.run host g) w).1.blocks = false := by
  have hstops (command : String) : ¬ g.Stops host command w := by
    intro hstops
    rw [hstops.validating] at h
    contradiction
  cases c with
  | evaluate command =>
    simp only [run, runIn_bind, runIn_pure, CommandGate.runIn_evaluate, h, if_true]
    split <;> rfl
  | checkCommand command =>
    exact Decision.isBlock_of_isAllow (CommandGate.isAllow_checkCommand host g (hstops command))
  | check i =>
    exact Decision.isBlock_of_isAllow (CommandGate.isAllow_check host g fun command _ _ => hstops command)

theorem Turn.blocks_mapM_run (turns : List (Turn W)) (w : W)
    (h : g.environment.skipValidation = true) :
    ∀ a ∈ (runIn (turns.mapM (Turn.run host g)) w).1, a.blocks = false := by
  induction turns generalizing w with
  | nil => simp
  | cons t turns ih =>
    simp only [List.mapM_cons, runIn_bind, runIn_pure, List.forall_mem_cons]
    exact ⟨GateCall.blocks_run host g t.call h, ih _⟩

/-- Whatever calls are made of a gate, and whatever happens to the world between them, its validator
is asked one question for each guarded command that they are about, in the order of the calls and
with the configuration found at the time, and no other question; to watch it changes nothing else.
With the escape hatch open it is asked nothing, and nothing is blocked. -/
theorem questions_of_turns (turns : List (Turn W)) (w : W) :
    let ran := runIn (turns.mapM (Turn.run host g)) w
    let asked := questions host g turns w
    runIn ((turns.map (Turn.beside _)).mapM (Turn.run (host.beside _) g.watched)) (w, []) =
        (ran.1, (ran.2, asked)) ∧
      (asked.map Question.command =
        if g.environment.skipValidation then []
        else (turns.filterMap fun t => t.call.command?).filter Gate.isGuarded) ∧
      (g.environment.skipValidation = true → asked = [] ∧ ∀ a ∈ ran.1, a.blocks = false) := by
  intro ran asked
  have hcommands := map_command_questions host g turns w
  refine ⟨Turn.mapM_run_watched host g turns w [], hcommands, fun hskip => ⟨?_, ?_⟩⟩
  · rw [hskip, if_pos rfl, List.map_eq_nil_iff] at hcommands
    exact hcommands
  · exact Turn.blocks_mapM_run host g turns w hskip

end

end HookGate
