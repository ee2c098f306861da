import HookGate.Shell.Tool.Options
import HookGate.Shell.Quoting

/-! # The program `rm`

Files are taken away, and directories with all that is in them where that is asked for. -/
namespace HookGate.Shell.Tool.Remove

open Sandbox Run

/-- Whether the user is asked. -/
inductive Asking
  | never
  /-- Only where there is a terminal. -/
  | usually
  /-- Once, before much is taken away. -/
  | once
  | always
deriving Repr, DecidableEq

structure Manner where
  asking : Asking := .usually
  ignoresMissing : Bool := false
  isRecursive : Bool := false
  takesEmpty : Bool := false
  tells : Bool := false
  keepsRoot : Bool := true
deriving Repr, DecidableEq

def table : OptionTable where
  letters := ['d', 'f', 'i', 'r', 'v', 'I', 'R'].map fun c => (c, .none)
  words := [("force", .none, "f"), ("interactive", .optional, "interactive"),
    ("one-file-system", .none, "one-file-system"), ("no-preserve-root", .none, "no-preserve-root"),
    ("preserve-root", .optional, "preserve-root"), ("recursive", .none, "r"), ("dir", .none, "d"),
    ("verbose", .none, "v"), ("help", .none, "help"), ("version", .none, "version")]

/-- When to ask, as a word may tell. -/
private def askings : List (String × Asking) :=
  [("never", .never), ("no", .never), ("none", .never), ("once", .once), ("always", .always), ("yes", .always)]

private def Manner.ask (m : Manner) (a : Asking) : Manner :=
  { m with asking := a, ignoresMissing := if a = .never then m.ignoresMissing else false }

/-- The asking that a word or its start stands for. -/
private def asking? (word : String) : Except String Asking :=
  match askings.lookup word with
  | some a => .ok a
  | none =>
    match askings.filter fun a => Text.startsWith a.1 word with
    | [] => .error "invalid"
    | (_, a) :: others => if others.all fun o => o.2 = a then .ok a else .error "ambiguous"

private def Manner.adding (m : Manner) : String → Manner
  | "f" => { m with asking := .never, ignoresMissing := true }
  | "i" => m.ask .always
  | "I" => m.ask .once
  | "r" | "R" => { m with isRecursive := true }
  | "d" => { m with takesEmpty := true }
  | "v" => { m with tells := true }
  | "no-preserve-root" => { m with keepsRoot := false }
  | _ => m

/-- Asks a question, and tells whether the answer is yes. -/
private def ask (question : String) : Run Bool := do
  let _ ← write 2 question
  match ← readable 0 with
  | .error _ => return false
  | .ok cs =>
    let answer := cs.takeWhile (· ≠ '\n')
    setReadable 0 (cs.drop (answer.length + 1))
    return answer.head? = some 'y' || answer.head? = some 'Y'

private def kindOf : Node → String
  | .directory => "directory"
  | .file _ [] _ => "regular empty file"
  | .file _ _ _ | .tool _ => "regular file"
  | .link _ => "symbolic link"
  | .device (.descriptor _) => "fifo"
  | .device _ => "character special file"

/-- What became of something that was to be taken away. -/
private inductive Fate
  | gone
  /-- The user did not want it. -/
  | kept
  | failed
deriving DecidableEq

private def refuse (name : String) (path : Text.Octets) (why : String) : Run Fate := do
  blame name ("cannot remove " ++ Quoting.always path ++ ": " ++ why)
  return .failed

/-- Takes away what stands at a location. -/
private def excise (name : String) (m : Manner) (l : Location) (path : Text.Octets) (isDirectory : Bool) : Run Fate := do
  changeMachine fun machine => { machine with files := machine.files.erase l }
  if m.tells then
    let _ ← output name ((if isDirectory then "removed directory " else "removed ") ++ Quoting.always path ++ "\n") 1
  return .gone

private def below (path name : Text.Octets) : Text.Octets :=
  if path.toList.getLast? = some '/' then path ++ name else path ++ "/" ++ name

mutual

/-- Takes away what a path leads to, which is known to be there. -/
private def one (name : String) (m : Manner) : Nat → Location → Text.Octets → Run Fate
  | 0, _, _ => return .failed
  | n + 1, l, path => do
    let files := (← get).machine.files
    match files.get? l with
    | some .directory =>
      let inside := files.children l
      let isEmpty := inside.isEmpty
      if !(m.isRecursive || (m.takesEmpty && isEmpty)) then
        refuse name path (if m.takesEmpty then "Directory not empty" else "Is a directory")
      else if m.asking = .always then
        if isEmpty then
          if ← ask (name ++ ": remove directory " ++ Quoting.always path ++ "? ") then excise name m l path true
          else return .kept
        else if ← ask (name ++ ": descend into directory " ++ Quoting.always path ++ "? ") then
          match ← all name m n l path (inside.map Prod.fst) with
          | .gone =>
            if ← ask (name ++ ": remove directory " ++ Quoting.always path ++ "? ") then excise name m l path true
            else return .kept
          | fate => return fate
        else return .kept
      else
        match ← all name m n l path (inside.map Prod.fst) with
        | .gone => excise name m l path true
        | fate => return fate
    | some node =>
      if m.asking = .always then
        if ← ask (name ++ ": remove " ++ kindOf node ++ " " ++ Quoting.always path ++ "? ") then excise name m l path false
        else return .kept
      else excise name m l path false
    | none => refuse name path "No such file or directory"

/-- Takes away the members of a directory. -/
private def all (name : String) (m : Manner) : Nat → Location → Text.Octets → List String → Run Fate
  | 0, _, _, _ => return .failed
  | _, _, _, [] => return .gone
  | n + 1, l, path, member :: rest => do
    let fate ← one name m n (l ++ [member]) (below path (ofPath member))
    match fate, ← all name m n l path rest with
    | .gone, others => return others
    | .failed, _ => return .failed
    | .kept, .failed => return .failed
    | .kept, _ => return .kept

end

/-- Takes away what an argument names. -/
private def operand (name : String) (m : Manner) (path : Text.Octets) : Run Fate := do
  let s ← get
  match s.machine.files.locate false s.cwd (pathOf path) with
  | .error e =>
    let isMissing := e = .os .noEntry || e = .os .notDirectory
    if m.ignoresMissing && isMissing then return .gone else refuse name path (reason e)
  | .ok l =>
    match s.machine.files.get? l with
    | none => if m.ignoresMissing then return .gone else refuse name path "No such file or directory"
    | some node =>
      let steps := (Text.pieces (· == '/') path.toList).filter (· ≠ [])
      let isDirectory := node = .directory
      let mayEnter := m.isRecursive || (m.takesEmpty && (s.machine.files.children l).isEmpty)
      if isDirectory && mayEnter && (steps.getLast? = some ['.'] || steps.getLast? = some ['.', '.']) then
        blame name ("refusing to remove '.' or '..' directory: skipping " ++ Quoting.always path)
        return .failed
      else if isDirectory && m.isRecursive && m.keepsRoot && l = [] then
        blame name ("it is dangerous to operate recursively on " ++ Quoting.always path ++
          (if path = "/" then "" else " (same as '/')"))
        blame name "use --no-preserve-root to override this failsafe"
        return .failed
      else one name m (2 * s.machine.files.nodes.length + 4) l path

/-- Complains of an option that there is not, and of a file that has its name. -/
private def misused (name : String) (args : List Text.Octets) : Run Nat := do
  let s ← get
  let isThere (a : Text.Octets) : Bool :=
    ((s.machine.files.locate false s.cwd (pathOf a)).toOption.bind s.machine.files.get?).isSome
  if let some a := args.find? fun a => Text.startsWith a "-" && a ≠ "-" && isThere a then
    complain ("Try '" ++ name ++ " ./" ++ Quoting.whereNeeded a ++ "' to remove the file " ++ Quoting.always a ++ ".")
  hint name

end Remove

open Run

def remove (name : String) (args : List Text.Octets) : Run Nat := do
  let (given, files) := Remove.table.read args
  let mut m : Remove.Manner := {}
  for g in given do
    match g with
    | .fault s =>
      blame name s
      return ← Remove.misused name args
    | .option "interactive" "" => m := m.adding "i"
    | .option "interactive" word =>
      match Remove.asking? word with
      | .ok a => m := m.ask a
      | .error why =>
        blame name (why ++ " argument " ++ Quoting.plain word ++ " for '--interactive'")
        complain "Valid arguments are:\n  - 'never', 'no', 'none'\n  - 'once'\n  - 'always', 'yes'"
        return ← hint name
    | .option key _ => m := m.adding key
  if files.isEmpty then
    if m.ignoresMissing then return 0
    blame name "missing operand"
    return ← hint name
  let count := files.length
  if m.asking = .once && (m.isRecursive || 3 < count) then
    let what := Text.ofNat count ++ (if count = 1 then " argument" else " arguments") ++
      (if m.isRecursive then " recursively? " else "? ")
    if !(← Remove.ask (name ++ ": remove " ++ what)) then return 0
  let mut status := 0
  for file in files do
    if (← Remove.operand name m file) = .failed then status := 1
  return status

end HookGate.Shell.Tool
