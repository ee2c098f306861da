import HookGate.Shell.Builtin
import HookGate.Shell.Reader
import HookGate.Shell.Redirection
import HookGate.Shell.Tool.Cat
import HookGate.Shell.Tool.Grep
import HookGate.Shell.Tool.Print
import HookGate.Shell.Tool.Remove
import HookGate.Shell.Tool.Sleep

/-! # Running shell scripts

Words are expanded, redirections opened, and commands run, one after the other; what runs in the background or in a
pipeline starts at the same time as its neighbours. A bound on nesting and a bound on the number of commands make every
run end; one that would go on is late. -/
namespace HookGate.Shell

open Sandbox Run

/-- How long a run may be nested, with the rounds of its loops. -/
def deepest : Nat := 200000

/-- How deep functions and processes may call each other. -/
def deepestCall : Nat := 500

/-- How a command runs. -/
structure Circumstance where
  /-- Whether its status is looked at, so that its failure is no failure of the script. -/
  isTested : Bool := false
  /-- Whether nothing comes after it in its process. -/
  isLast : Bool := false
deriving Repr, DecidableEq

/-- Takes line ends off the end, and characters that no word can hold. -/
private def capturedText (s : Text.Octets) : Text.Octets :=
  String.ofList ((s.toList.filter (· ≠ '\x00')).reverse.dropWhile (· == '\n')).reverse

/-- Runs something, and then something else however that ended. -/
private def thenAlways {α : Type} (r : Run α) (after : Run Unit) : Run α := do
  let result ← attempt r
  after
  match result with
  | .ok a => return a
  | .error stop => throw stop

/-- Whether there is a command for a signal or for the end of the shell. -/
private def hasTraps : Run Bool := do return (← get).traps.any fun t => t.2 ≠ ""

/-- The exit status of a shell that stopped; being late, or the death of a process, is left to what started it. -/
private def statusOf (result : Except Stop Unit) : Run Nat := do
  match result with
  | .ok () | .error (.leave _) | .error (.repeat _) => return (← get).status
  | .error (.exit n) | .error (.failed n) | .error (.return n) => return n
  | .error (.killed process n) => throw (.killed process n)
  | .error .late => throw .late

/-- Runs something in a process of its own that starts as a copy of this one; only what became of the machine stays. How
the process ended is told, and its state at the end. -/
private def forked (r : Run Unit) : Run (Ended × ShellState) := do
  let _ ← Job.freePlace
  let s ← get
  let process ← newProcess
  modify fun s => { s with
    traps := s.traps.filter (·.2 = ""), pending := [], jobs := [], current := process, isRefused := false }
  let result ← attempt (do statusOf (← attempt r))
  let after ← get
  set { s with machine := after.machine }
  match result with
  | .ok n => return (.normally (n % 256), after)
  | .error (.killed p n) => if p = process then return (.killed n, after) else throw (.killed p n)
  | .error stop => throw stop

/-- Notices how a process ended for which the shell waited. -/
private def afterwards (e : Ended) : Run Nat := do
  Job.notice
  Signal.report e
  Signal.takeUp
  return e.status

/-- Goes one call deeper. -/
private def descend : Run Unit := do
  if deepestCall < (← get).depth then throw .late
  modify fun s => { s with depth := s.depth + 1 }

/-- The interpreter that the first line of a file names, with the one argument that it may give. -/
def interpreterOf? (content : Bytes) : Option (Text.Octets × Option Text.Octets) :=
  match (Text.toOctets (content.takeWhile (· ≠ 10))).toList with
  | '#' :: '!' :: r =>
    let blank (c : Char) : Bool := c == ' ' || c == '\t'
    let line := (r.dropWhile blank).reverse.dropWhile blank |>.reverse
    let program := line.takeWhile fun c => !blank c
    let argument := (line.drop program.length).dropWhile blank
    if program = [] then none
    else some (String.ofList program, if argument = [] then none else some (String.ofList argument))
  | _ => none

/-- What is started for a program: a tool, the name under which it runs, and its arguments. -/
private structure Start where
  tool : Tool
  name : Text.Octets
  arguments : List Text.Octets

/-- What is started for the program at a path. A text that names no interpreter is a script of the shell. -/
private def startOf : Nat → Text.Octets → Text.Octets → List Text.Octets → Run (Except OsError Start)
  | 0, _, _, _ => return .error .manyLinks
  | n + 1, path, name, arguments => do
    let s ← get
    match s.machine.files.find s.cwd (pathOf path) with
    | .error (.os e) => return .error e
    | .error _ => return .error .noEntry
    | .ok (_, .tool tool) => return .ok { tool, name, arguments }
    | .ok (_, .file _ content true) =>
      match interpreterOf? content with
      | some (interpreter, argument) =>
        startOf n interpreter interpreter (argument.toList ++ path :: arguments)
      | none => return .ok { tool := .shell, name := "/bin/sh", arguments := path :: arguments }
    | .ok _ => return .error .denied

/-- What is started for a command, at the first of some paths where that is possible. -/
private def startAmong (name : Text.Octets) (arguments : List Text.Octets) :
    OsError → List Text.Octets → Run (Except OsError Start)
  | e, [] => return .error e
  | e, path :: rest => do
    match ← startOf 5 path name arguments with
    | .ok start => return .ok start
    | .error f => startAmong name arguments (if f = .noEntry || f = .notDirectory then e else f) rest

/-- What a redirection leads to, with its target expanded. -/
private structure Opening where
  descriptor : Nat
  kind : RedirectKind
  target : Text.Octets

/-- Opens redirections, and tells whether that is possible. -/
private def openAll (openings : List Opening) : Run Bool := do
  match ← attempt (openings.forM fun o => Redirection.apply o.descriptor o.kind o.target) with
  | .ok () => return true
  | .error (.failed _) => return false
  | .error stop => throw stop

/-- The streams that a process holds open. -/
private def streamsOf (s : ShellState) : List Nat := (s.descriptors.map Prod.snd).eraseDups

/-- What a simple command turns out to be. -/
private structure Call where
  /-- The words of the command, without what `command` took. -/
  argv : List Text.Octets
  meaning : Option Lookup.Meaning
  /-- Whether the first command that was named ends the shell when it fails. -/
  isSpecial : Bool := false
  /-- Where programs are looked for, if not where they usually are. -/
  path? : Option Text.Octets := none

/-- The commands whose arguments may give values to names. -/
private def givesValues (name : Text.Octets) : Bool := ["export", "readonly", "local", "alias"].contains name

/-- Remembers where the programs of a pipeline are. -/
private def hashStages (commands : List Command) : Run Unit :=
  commands.forM fun
    | .simple _ _ (w :: _) _ =>
      match Part.literal? w with
      | some name => do
        if (← Lookup.meaningOf true name) matches .program then
          if !(name.toList.contains '/') then let _ ← Lookup.findAgain (← Lookup.searchPath) name
      | none => return ()
    | _ => return ()

/-- Ends the shell after a failure, if it is to end then. -/
private def checkStatus (c : Circumstance) : Run Unit := do
  let s ← get
  if s.status ≠ 0 && !c.isTested && s.options.contains "errexit" then throw (.exit s.status)

/-- Gives a variable back what it held. -/
private def putBack (name : String) (was : Option Variable) : Run Unit := do
  restoreVariable name was
  if name = "PATH" then modify fun s => { s with found := [] }
  if name = "OPTIND" then
    let n := ((was.bind (·.value)).bind String.toNat?).getD 1
    modify fun s => { s with optionIndex := max 1 n, optionOffset := none }

/-- What a script holds. -/
private def scriptOf (place : Text.Octets) : Run (List Char) := do
  match ← contentsOf place with
  | .ok content => return content
  | .error (.os ⟨21, _⟩) => return []
  | .error e =>
    let isMissing := e = .os .noEntry || e = .os .notDirectory
    failShell ("cannot open " ++ place ++ ": " ++ (if isMissing then "No such file" else Tool.reason e))

/-- Runs with one more loop under way. -/
private def inLoop (r : Run Nat) : Run Nat := do
  modify fun s => { s with loops := s.loops + 1 }
  thenAlways r (modify fun s => { s with loops := s.loops - 1 })

mutual

/-- The text that a script writes. -/
private def capture : Nat → Script → Run Text.Octets
  | 0, _ => throw .late
  | n + 1, script => do
    let stream ← openStream (.pipe [])
    let (ended, _) ← forked do
      Redirection.connect 1 stream
      toTheEnd n (runScript n { isLast := true } script)
    let m := (← get).machine
    if m.clock < heldUntil m stream then wait (heldUntil m stream - m.clock)
    let status ← afterwards ended
    modify fun s => { s with status, captured := status }
    return capturedText (← written stream)

private def fields : Nat → Bool → List Word → Run (List Text.Octets)
  | 0, _, _ => throw .late
  | n + 1, assigns, words => Expansion.fields (fun s => capture n s) n assigns words

/-- Expands the targets of redirections. -/
private def targets : Nat → List Redirect → Run (List Opening)
  | 0, _ => throw .late
  | _, [] => return []
  | n + 1, .mk descriptor kind w :: rest => do
    let target ← Expansion.textOf (fun s => capture n s) n w
    if kind = .duplicate && target ≠ "-" && !(target.length = 1 && target.toList.all Char.isDigit) then
      failShell "Syntax error: Bad fd number"
    return ⟨descriptor, kind, target⟩ :: (← targets n rest)

private def runScript : Nat → Circumstance → Script → Run Unit
  | 0, _, _ => throw .late
  | _, _, [] => return ()
  | n + 1, c, [i] => runItem n c i
  | n + 1, c, i :: is => do
    runItem n { c with isLast := false } i
    runScript n c is

private def runItem : Nat → Circumstance → Item → Run Unit
  | 0, _, _ => throw .late
  | n + 1, c, .mk first rest background => do
    if background then
      if ← isOn "noexec" then return ()
      runBackground n first rest
      setStatus 0
      runTraps n
    else runChain n c first rest

/-- Starts a chain of pipelines that runs while the shell goes on. -/
private def runBackground : Nat → Pipeline → List (Connective × Pipeline) → Run Unit
  | 0, _, _ => throw .late
  | n + 1, first, rest => do
    let s ← get
    let half := s.machine.budget / 2
    changeMachine fun m => { m with budget := half }
    let result ← attempt (forked do
      Redirection.connect 0 (← openStream (.device .null { reads := true }))
      toTheEnd n (runChain n { isLast := true } first rest))
    let ended : Ended ← match result with
      | .ok (ended, _) => pure ended
      | .error .late => do
        modify fun t => { s with machine := { t.machine with clock := s.machine.deadline } }
        pure (.normally 0)
      | .error stop => throw stop
    let process := s.machine.lastProcess + 1
    let ending := (← get).machine.clock
    let held := (streamsOf s).map fun stream => { process, stream, ending : Holder }
    changeMachine fun m => { m with
      clock := s.machine.clock, budget := m.budget + half, holders := held ++ m.holders }
    let isAlone := match first, rest with
      | .mk false [.simple _ _ _ _], [] => true
      | _, _ => false
    Job.add process ended ending isAlone
    Signal.takeUp

/-- Runs the commands of the signals that came. -/
private def runTraps : Nat → Run Unit
  | 0 => throw .late
  | n + 1 => do
    let s ← get
    if !s.pending.isEmpty then
      set { s with pending := [], beforeTrap := some (s.beforeTrap.getD s.status) }
      for signal in (List.range 65).filter fun k => s.pending.contains k do
        if let some command := s.traps.lookup signal then
          let _ ← runText n {} 0 ⟨command.toList, (← get).line⟩
          setStatus s.status
      modify fun t => { t with beforeTrap := s.beforeTrap }

/-- Runs to the end of a shell, and then the command that is kept for it. -/
private def toTheEnd : Nat → Run Unit → Run Unit
  | 0, _ => throw .late
  | n + 1, r => do
    let result ← attempt r
    let status ← statusOf result
    let s ← get
    match s.traps.lookup 0 with
    | none | some "" => throw (.exit status)
    | some command =>
      set { s with status, traps := s.traps.filter (·.1 ≠ 0), beforeTrap := some status, loops := 0 }
      match ← attempt (runText n {} 0 ⟨command.toList, s.line⟩) with
      | .ok _ | .error (.return _) | .error (.leave _) | .error (.repeat _) => throw (.exit status)
      | .error stop => throw stop

private def runChain : Nat → Circumstance → Pipeline → List (Connective × Pipeline) → Run Unit
  | 0, _, _, _ => throw .late
  | n + 1, c, first, [] => runPipeline n c first
  | n + 1, c, first, (connective, second) :: rest => do
    runPipeline n { isTested := true } first
    if connective.goesOn (← get).status then runChain n c second rest
    else skipChain n c rest

/-- Goes on with the first pipeline that the status lets run. -/
private def skipChain : Nat → Circumstance → List (Connective × Pipeline) → Run Unit
  | 0, _, _ => throw .late
  | _, _, [] => return ()
  | n + 1, c, (connective, p) :: rest => do
    if connective.goesOn (← get).status then runChain n c p rest else skipChain n c rest

private def runPipeline : Nat → Circumstance → Pipeline → Run Unit
  | 0, _, _ => throw .late
  | n + 1, c, .mk negated stages => do
    let inner : Circumstance := if negated then { isTested := true } else c
    match stages with
    | [command] => runCommand n inner command
    | commands =>
      if ← isOn "noexec" then return ()
      hashStages commands
      setStatus (← runStages n { inner with isLast := true } commands)
      runTraps n
      checkStatus inner
    if negated then
      modify fun s => { s with status := if s.status = 0 then 1 else 0 }

/-- Runs the stages of a pipeline, each in a process of its own, and gives the status of the last one. -/
private def runStages : Nat → Circumstance → List Command → Run Nat
  | 0, _, _ => throw .late
  | _, _, [] => return 0
  | n + 1, c, [last] => do
    let (ended, _) ← forked (toTheEnd n (runCommand n c last))
    afterwards ended
  | n + 1, c, command :: commands => do
    let s ← get
    let started := s.machine.clock
    let stream ← openStream (.pipe [])
    let (ended, _) ← forked do
      Redirection.connect 1 stream
      toTheEnd n (runCommand n c command)
    let after := (← get).machine
    let finish := max after.clock (heldUntil after stream)
    changeMachine fun m => { m with clock := started }
    let input ← openStream (.source (← written stream).toList)
    let descriptors := s.descriptors
    Redirection.connect 0 input
    let status ← runStages n c commands
    modify fun s => { s with descriptors }
    let _ ← afterwards ended
    changeMachine fun m => { m with clock := max m.clock finish }
    if (← get).machine.deadline ≤ finish then throw .late
    return status

private def runCommand : Nat → Circumstance → Command → Run Unit
  | 0, _, _ => throw .late
  | n + 1, c, command => do
    if ← isOn "noexec" then return ()
    match command with
    | .simple line assignments words rs =>
      count
      modify fun s => { s with line, captured := 0 }
      let status ← runSimple n c assignments words rs
      setStatus status
      runTraps n
      checkStatus c
    | .group body => runScript n c body
    | .subshell line body =>
      modify fun s => { s with line }
      if c.isLast && !(← hasTraps) then
        runScript n c body
        throw (.exit (← get).status)
      else
        let (ended, _) ← forked (toTheEnd n (runScript n { c with isLast := true } body))
        setStatus (← afterwards ended)
        runTraps n
        checkStatus c
    | .conditional branches otherwise => runBranches n c branches otherwise
    | .loop isUntil condition body =>
      setStatus (← inLoop (runLoop n { c with isLast := false } isUntil 0 condition body))
    | .each line name words body =>
      modify fun s => { s with line }
      let values ← match words with
        | some ws => fields n false ws
        | none => pure (← get).arguments
      setStatus (← inLoop (runEach n { c with isLast := false } name 0 values body))
    | .select line subject cases =>
      modify fun s => { s with line }
      runCases n c (← Expansion.textOf (fun s => capture n s) n subject) cases
    | .define name body =>
      modify fun s => { s with functions := (name, body) :: s.functions.filter (·.1 ≠ name), status := 0 }
    | .redirected line body rs =>
      modify fun s => { s with line }
      let openings ← targets n rs
      let descriptors := (← get).descriptors
      thenAlways
        (do
          if ← openAll openings then runCommand n { c with isLast := false } body
          else
            setStatus 2
            checkStatus c)
        (modify fun s => { s with descriptors })

/-- Runs a condition, whose failure is no failure of the script. -/
private def holds : Nat → Script → Run Bool
  | 0, _ => throw .late
  | n + 1, condition => do
    runScript n { isTested := true } condition
    return (← get).status = 0

private def runBranches : Nat → Circumstance → List (Script × Script) → Script → Run Unit
  | 0, _, _, _ => throw .late
  | n + 1, c, [], otherwise => do
    if otherwise.isEmpty then setStatus 0 else runScript n c otherwise
  | n + 1, c, (condition, body) :: rest, otherwise => do
    if ← holds n condition then runScript n c body else runBranches n c rest otherwise

/-- One round of a loop: its status, and whether another one may follow. -/
private def runRound : Nat → Circumstance → Script → Run (Nat × Bool)
  | 0, _, _ => throw .late
  | n + 1, c, body => do
    match ← attempt (runScript n c body) with
    | .ok () => return ((← get).status, true)
    | .error (.leave k) => if k ≤ 1 then return (0, false) else throw (.leave (k - 1))
    | .error (.repeat k) => if k ≤ 1 then return (0, true) else throw (.repeat (k - 1))
    | .error stop => throw stop

private def runLoop : Nat → Circumstance → Bool → Nat → Script → Script → Run Nat
  | 0, _, _, _, _, _ => throw .late
  | n + 1, c, isUntil, status, condition, body => do
    count
    match ← runRound n { isTested := true } condition with
    | (_, false) => return status
    | (before, true) =>
      if (before = 0) = isUntil then return status
      match ← runRound n c body with
      | (status, true) => runLoop n c isUntil status condition body
      | (status, false) => return status

private def runEach : Nat → Circumstance → String → Nat → List Text.Octets → Script → Run Nat
  | 0, _, _, _, _, _ => throw .late
  | _, _, _, status, [], _ => return status
  | n + 1, c, name, _, v :: vs, body => do
    count
    setVariable name v
    match ← runRound n c body with
    | (status, true) => runEach n c name status vs body
    | (status, false) => return status

private def runCases : Nat → Circumstance → Text.Octets → List (List Word × Script) → Run Unit
  | 0, _, _, _ => throw .late
  | _, _, _, [] => setStatus 0
  | n + 1, c, text, (patterns, body) :: rest => do
    if ← matchesAny n text patterns then
      if body.isEmpty then setStatus 0 else runScript n c body
    else runCases n c text rest

private def matchesAny : Nat → Text.Octets → List Word → Run Bool
  | 0, _, _ => throw .late
  | _, _, [] => return false
  | n + 1, text, p :: ps => do
    let gs := Glyph.glob (← Expansion.expand (fun s => capture n s) n { tilde := true } p)
    if Glob.matchesAll gs text.toList then return true else matchesAny n text ps

/-- Finds out what the words of a command call, going through what `command` says. -/
private def call : Nat → Bool → Option Bool → Option Text.Octets → List Text.Octets → List Word → Run Call
  | 0, _, _, _, _, _ => throw .late
  | n + 1, withFunctions, special?, path?, front, words => do
    match front, words with
    | [], [] => return { argv := [], meaning := none }
    | [], w :: ws => call n withFunctions special? path? (← fields n false [w]) ws
    | name :: more, words =>
      let meaning ← Lookup.meaningOf withFunctions name
      let special := special?.getD (meaning matches .own && specialCommands.contains name)
      let finish : Run Call := do
        let assigns := meaning matches .own && givesValues name
        return { argv := front ++ (← fields n assigns words), meaning, isSpecial := special, path? }
      if !(meaning matches .own) || name ≠ "command" then finish
      else
        match ← behindCommand n path? more words with
        | some (path?, front, words) => call n false (some special) path? front words
        | none => finish

/-- What is left behind the options of `command`, if it runs something. -/
private def behindCommand : Nat → Option Text.Octets → List Text.Octets → List Word →
    Run (Option (Option Text.Octets × List Text.Octets × List Word))
  | 0, _, _, _ => throw .late
  | n + 1, path?, front, words => do
    match front, words with
    | [], [] => return none
    | [], w :: ws => behindCommand n path? (← fields n false [w]) ws
    | a :: more, words =>
      match a.toList with
      | ['-', '-'] => if more.isEmpty && words.isEmpty then return none else return some (path?, more, words)
      | '-' :: c :: cs =>
        if (c :: cs).all (· = 'p') then behindCommand n (some Lookup.usualPath) more words else return none
      | _ => return some (path?, a :: more, words)

/-- Assigns one after the other; what is `own` to the command is put back when that ends. -/
private def assign : Nat → (own exported : Bool) → List (String × Word) → Run (List String)
  | 0, _, _, _ => throw .late
  | _, _, _, [] => return []
  | n + 1, own, exported, (name, w) :: rest => do
    let value ← Expansion.valueText (fun s => capture n s) n w
    if own then Variables.remember name
    assignVariable name (some value) (own || exported)
    return (name ++ "=" ++ value) :: (← assign n own exported rest)

/-- Tells of a command before it runs. -/
private def tell : Nat → Option Nat → List String → Run Unit
  | 0, _, _ => throw .late
  | n + 1, stream?, texts => do
    let s ← get
    if s.options.contains "xtrace" && !s.tells then
      let front := (← valueOf? "PS4").getD ""
      modify fun s => { s with tells := true }
      let text ← match Reader.wordOf front s.line with
        | .ok w => Expansion.textOf (fun s => capture n s) n w
        | .error e => do
          complainAt ("Syntax error: " ++ e.fault.message)
          pure front
      let descriptors := (← get).descriptors
      Redirection.close 2
      if let some stream := stream? then Redirection.connect 2 stream
      complain (text ++ Text.joinWith " " texts)
      modify fun s => { s with tells := false, descriptors }

/-- Runs a simple command, and gives its status. -/
private def runSimple : Nat → Circumstance → List (String × Word) → List Word → List Redirect → Run Nat
  | 0, _, _, _, _ => throw .late
  | n + 1, c, assignments, words, rs => do
    let call ← call n true none none [] words
    let name := call.argv.head?.getD ""
    let isExec := call.meaning matches some .own && name = "exec"
    let outer ← get
    let hasOwn := call.meaning.isSome && !call.isSpecial
    let openings ← targets n rs
    let after : Run Unit := do
      if !isExec then modify fun s => { s with descriptors := outer.descriptors }
      if hasOwn then
        let s ← get
        if let some (vars, options) := s.locals then
          for (name, was) in vars do putBack name was
          if let some options := options then modify fun s => { s with options }
        modify fun s => { s with locals := outer.locals }
    thenAlways (run n c call hasOwn isExec outer assignments openings) after

/-- Runs a call with its redirections and assignments. -/
private def run : Nat → Circumstance → Call → Bool → Bool → ShellState → List (String × Word) → List Opening → Run Nat
  | 0, _, _, _, _, _, _, _ => throw .late
  | n + 1, c, call, hasOwn, isExec, outer, assignments, openings => do
    if hasOwn then modify fun s => { s with locals := some ([], none) }
    if !(← openAll openings) then
      setStatus 2
      if call.isSpecial then throw (.failed 2) else return 2
    let texts ← assign n hasOwn (isExec && call.argv.length > 1) assignments
    tell n (outer.descriptors.lookup 2) (texts ++ call.argv)
    let path ← match call.path? with
      | some path => pure path
      | none => Lookup.searchPath
    match call.meaning, call.argv with
    | none, _ | _, [] => return (← get).captured
    | some .own, name :: args => runOwn n c call.isSpecial name args
    | some (.function body), _ :: args => runFunction n c body args
    | some .program, name :: args =>
      let found ← if name.toList.contains '/' then pure (.ok name) else Lookup.findAgain path name
      match found with
      | .error why =>
        complainAt (name ++ ": " ++ why)
        return 127
      | .ok _ =>
        let paths := Lookup.candidates path name
        if c.isLast && !(← hasTraps) then throw (.exit (← become n paths name args))
        else
          let (ended, _) ← forked do throw (.exit (← become n paths name args))
          afterwards ended

/-- Runs a command of the shell itself. -/
private def runOwn : Nat → Circumstance → Bool → Text.Octets → List Text.Octets → Run Nat
  | 0, _, _, _, _ => throw .late
  | n + 1, c, isSpecial, name, args => do
    let outer := (← get).command
    modify fun s => { s with command := some name, isRefused := false }
    let body : Run Nat := do
      match name with
      | "eval" =>
        if args.isEmpty then return 0
        runText n { c with isLast := false } 0 ⟨(Text.joinWith " " args).toList, (← get).line⟩
      | "." =>
        match ← Arguments.plain args with
        | [] => return 0
        | file :: _ => runFile n file
      | "exec" =>
        match args with
        | [] => return 0
        | program :: arguments =>
          let path ← Lookup.searchPath
          throw (.exit (← become n (Lookup.candidates path program) program arguments))
      | _ =>
        let status ← (Builtin.ofName? name args).getD (return 0)
        if (← get).isRefused then
          complainAt (name ++ ": I/O error")
          return if status % 2 = 0 then status + 1 else status
        return status
    let result ← attempt body
    modify fun s => { s with command := outer }
    match result with
    | .ok status => return status
    | .error (.failed status) => if isSpecial then throw (.failed status) else return (← get).status
    | .error stop => throw stop

/-- Runs a script in a file, found where programs are if its name is no path. -/
private def runFile : Nat → Text.Octets → Run Nat
  | 0, _ => throw .late
  | n + 1, file => do
    let s ← get
    let isFile (p : Text.Octets) : Bool := s.machine.files.isFile s.cwd (pathOf p)
    let path ← Lookup.searchPath
    let place? := if file.toList.contains '/' then some file else (Lookup.candidates path file).find? isFile
    match place? with
    | none => failShell (file ++ ": not found")
    | some place =>
      let content ← scriptOf place
      modify fun s => { s with command := some place }
      match ← attempt (runText n {} 0 ⟨content, 1⟩) with
      | .ok status => return status
      | .error (.return status) => return status
      | .error stop => throw stop

/-- Calls a function with arguments of its own. -/
private def runFunction : Nat → Circumstance → Command → List Text.Octets → Run Nat
  | 0, _, _, _ => throw .late
  | n + 1, c, body, args => do
    let outer ← get
    descend
    modify fun s => { s with arguments := args, optionIndex := 1, optionOffset := none, loops := 0 }
    let result ← attempt (runCommand n { c with isLast := false } body)
    modify fun s => { s with
      arguments := outer.arguments, optionIndex := outer.optionIndex, optionOffset := outer.optionOffset
      loops := outer.loops, depth := outer.depth }
    match result with
    | .ok () => return (← get).status
    | .error (.return status) => return status
    | .error stop => throw stop

/-- Becomes the program at the first of some paths where there is one, and gives its status. -/
private def become : Nat → List Text.Octets → Text.Octets → List Text.Octets → Run Nat
  | 0, _, _, _ => throw .late
  | n + 1, paths, name, args => do
    match ← startAmong name args .noEntry paths with
    | .error e =>
      let isMissing := e = .noEntry || e = .notDirectory
      complainAt (name ++ ": " ++ (if isMissing then "not found" else e.text))
      throw (.exit (if isMissing || e = .manyLinks || e = .longName then 127 else 126))
    | .ok start => runStart n start

/-- Runs what is started, in place of what the process was. -/
private def runStart : Nat → Start → Run Nat
  | 0, _ => throw .late
  | n + 1, start => do
    let name := start.name
    let args := start.arguments
    modify fun s => { s with traps := s.traps.filter (·.2 = ""), pending := [] }
    match start.tool with
    | .sleep => Tool.sleep name args
    | .cat => Tool.cat name args
    | .grep => Tool.grep name args
    | .remove => Tool.remove name args
    | .printf => Tool.printf name args
    | .echo => Tool.echo name args
    | .succeed => return 0
    | .fail => return 1
    | .shell =>
      descend
      let s ← get
      let vars := initialVariables (s.vars.filter fun v => v.2.exported)
      let isHere (p : Text.Octets) : Bool := Text.startsWith p "/" &&
        (s.machine.files.find s.cwd (pathOf p)).toOption.any fun f => f.1 = s.cwd
      let directory := ((vars.lookup "PWD").bind (·.value)).filter isHere |>.getD (ofLocation s.cwd)
      set { machine := s.machine, name, vars, descriptors := s.descriptors, cwd := s.cwd, directory
            process := s.current, current := s.current, traps := s.traps, mask := s.mask, depth := s.depth
            : ShellState }
      assignVariable "PWD" (some directory) true
      statusOf (← attempt (toTheEnd n (startShell n false args)))

/-- Starts a shell with its arguments; `hasText` tells whether one of the options said that a text is to be run. -/
private def startShell : Nat → Bool → List Text.Octets → Run Unit
  | 0, _, _ => throw .late
  | n + 1, hasText, args => do
    let goOn (args : List Text.Octets) : Run Unit := do
      modify fun s => { s with line := 1 }
      if hasText then
        match args with
        | [] =>
          modify fun s => { s with line := 0 }
          failShell "-c requires an argument"
        | script :: rest =>
          if let name :: arguments := rest then modify fun s => { s with name, arguments }
          setStatus (← runText n { isLast := true } 0 ⟨script.toList, 1⟩)
          if ← isOn "stdin" then runInput n
      else match args with
        | [] => runInput n
        | file :: rest =>
          if ← isOn "stdin" then
            modify fun s => { s with arguments := args }
            runInput n
          else
            modify fun s => { s with line := 0 }
            let content ← scriptOf file
            modify fun s => { s with line := 1, name := file, arguments := rest }
            setStatus (← runText n {} 0 ⟨content, 1⟩)
    match args with
    | [] => goOn []
    | a :: rest =>
      match a.toList with
      | ['-'] | ['-', '-'] => goOn rest
      | sign :: cs =>
        if sign = '-' ∨ sign = '+' then
          modify fun s => { s with line := 0 }
          let (rest, hasText) ← startLetters n (sign = '-') hasText rest cs
          startShell n hasText rest
        else goOn args
      | [] => goOn args

/-- The letters of an argument of a shell that starts. -/
private def startLetters : Nat → Bool → Bool → List Text.Octets → List Char → Run (List Text.Octets × Bool)
  | 0, _, _, _, _ => throw .late
  | _, _, hasText, rest, [] => return (rest, hasText)
  | n + 1, on, hasText, rest, l :: cs => do
    if l = 'c' then startLetters n on true rest cs
    else if l = 'l' then startLetters n on hasText rest cs
    else if l = 'o' then
      ShellOption.setName on rest.head?
      startLetters n on hasText (rest.drop 1) cs
    else
      ShellOption.setLetter on l
      startLetters n on hasText rest cs

/-- Runs what is left of the input as a script. -/
private def runInput : Nat → Run Unit
  | 0 => throw .late
  | n + 1 => do
    match ← readable 0 with
    | .ok input =>
      setReadable 0 []
      setStatus (← runText n {} 0 ⟨input, 1⟩)
    | .error _ => return ()

/-- Reads a script line by line and runs each line. The status of its last command is given; without any it is
`status`. -/
private def runText : Nat → Circumstance → Nat → Source → Run Nat
  | 0, _, _, _ => throw .late
  | n + 1, c, status, source => do
    let s ← get
    match source.nextLine? s.aliases s.line with
    | .error e =>
      modify fun s => { s with line := e.line }
      failShell ("Syntax error: " ++ e.fault.message)
    | .ok none => return status
    | .ok (some (script, rest)) =>
      runScript n { c with isLast := c.isLast && rest.rest.isEmpty && source.rest.getLast? ≠ some '\n' } script
      let last := (← get).status
      runText n c (if script.isEmpty then status else last) rest

end

/-- What became of a program that ran as a process: how it ended, or nothing if it was late. -/
def execute (node : Node) (name : Text.Octets) (args : List Text.Octets) (s : ShellState) : Option Ended × Machine :=
  let (result, after) := attempt (whole node) s
  let ending := match result with
    | .ok (.ok status) | .ok (.error (.exit status)) => some (Ended.normally (status % 256))
    | .ok (.error (.killed _ signal)) => some (.killed signal)
    | .ok (.error .late) => none
    | _ => some (.normally 0)
  (ending, after.machine)
where
  whole : Node → Run Nat
    | .tool tool => runStart deepest { tool, name, arguments := args }
    | _ => return 126

end HookGate.Shell
