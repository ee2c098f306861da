import HookGate.Shell.Glob
import HookGate.Shell.Tool.Grep.Manner

/-! # Which files `grep` searches

Files are named by arguments, or stand below directories. Wildcards leave some of them out: the last one that stands for
a name decides, and names for which none stands are dealt with as the first one does not say. -/
namespace HookGate.Shell.Tool.Grep

open Sandbox Run

namespace Rule

/-- Whether a wildcard stands for a name, or, where the name was given as an argument, for what follows a slash. -/
private def accepts (isArgument : Bool) (r : Rule) (name : Text.Octets) : Bool :=
  let glob := Glob.ofChars (r.glob.length + 1) (r.glob.toList.map fun c => (c, false))
  let rec below : List Char → Bool
    | [] => false
    | c :: cs => (c == '/' && cs.head? ≠ some '/' && Glob.matchesAll glob cs) || below cs
  Glob.matchesAll glob name.toList || (isArgument && below name.toList)

/-- Whether rules leave a name out. -/
def leaveOut (rules : List Rule) (isArgument : Bool) (name : Text.Octets) : Bool :=
  match rules.reverse.find? fun r => r.accepts isArgument name with
  | some r => !r.includes
  | none => rules.head?.any (·.includes)

end Rule

/-- What is done for an argument. -/
inductive Target
  | file (path : Text.Octets)
  | complaint (text : String)
  /-- What is said without being an error. -/
  | warning (text : String)
deriving Repr, DecidableEq

namespace Target

/-- What is below a directory, so many levels deep, whose name is given; `above` are the directories on the way. -/
private def below (fs : FileSystem) (m : Manner) (follows : Bool) :
    Nat → (above : List Location) → Location → Text.Octets → List Target
  | 0, _, _, _ => []
  | n + 1, above, here, path =>
    (fs.children here).flatMap fun (name, node) =>
      let step := ofPath name
      let path := if path.toList.getLast? = some '/' then path ++ step else path ++ "/" ++ step
      let one (place : Location) : Node → List Target
        | .directory =>
          if Rule.leaveOut m.directoryRules false step then []
          else if (here :: above).contains place then [.warning (path ++ ": warning: recursive directory loop")]
          else below fs m follows n (here :: above) place path
        | .device _ => if m.skipsDevices = some false ∧ !(Rule.leaveOut m.files false step) then [.file path] else []
        | _ => if Rule.leaveOut m.files false step then [] else [.file path]
      match node with
      | .link _ =>
        if !follows then []
        else match fs.find here name with
          | .ok (place, node) => one place node
          | .error e => [.complaint (path ++ ": " ++ reason e)]
      | node => one (here ++ [name]) node

/-- The path with one slash at its end at most. -/
private def withOneSlash (path : Text.Octets) : Text.Octets :=
  let slashes := path.toList.reverse.takeWhile (· == '/')
  String.ofList (path.toList.take (path.length - (slashes.length - 1)))

/-- What is searched for an argument, and whether files below a directory are. -/
def ofArgument (fs : FileSystem) (cwd : Location) (m : Manner) (path : Text.Octets) : List Target × Bool :=
  if path = "-" then ([.file path], false)
  else match fs.find cwd (pathOf path) with
    | .error e => ([.complaint (path ++ ": " ++ reason e)], false)
    | .ok (place, .directory) =>
      match m.directories with
      | .skip => ([], false)
      | way =>
        if Rule.leaveOut m.directoryRules true path then ([], false)
        else match way with
          | .recurse follows => (below fs m follows (2 * fs.depth + 2) [] place (withOneSlash path), true)
          | _ => ([.complaint (path ++ ": Is a directory")], false)
    | .ok (_, .device _) =>
      if m.skipsDevices = some true ∨ Rule.leaveOut m.files true path then ([], false) else ([.file path], false)
    | .ok _ => if Rule.leaveOut m.files true path then ([], false) else ([.file path], false)

/-- What is searched below the directory of the shell, with names that do not start there. -/
def here (fs : FileSystem) (cwd : Location) (m : Manner) (follows : Bool) : List Target :=
  (below fs m follows (2 * fs.depth + 2) [] cwd ".").map fun
    | .file path => .file (withoutStart path)
    | .complaint text => .complaint (withoutStart text)
    | .warning text => .warning (withoutStart text)
where
  withoutStart (s : String) : String := (Text.afterStart? "./" s).getD s

end Target

end HookGate.Shell.Tool.Grep
