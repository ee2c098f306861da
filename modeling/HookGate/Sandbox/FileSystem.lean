import HookGate.Settings.Path
import HookGate.System.Error
import HookGate.System.Listing
import HookGate.Text.Utf8

/-! # File systems in memory

A file system is a table of what stands at each location. A path leads to a location step by step, through
directories and links; the operations fail the way those of an operating system do. -/
namespace HookGate.Sandbox

/-- The names that lead from the root to a place. -/
abbrev Location := List String

abbrev Bytes := List UInt8

inductive Device
  /-- Holds nothing and takes everything. -/
  | null
  /-- Takes everything, and what it holds never ends. -/
  | zero
  /-- Takes nothing, and what it holds never ends. -/
  | full
  /-- Stands for a descriptor of the process that opens it. -/
  | descriptor (n : Nat)
  /-- A terminal, where there is none. -/
  | terminal
deriving Repr, DecidableEq

/-- A program that every sandbox has. -/
inductive Tool
  | shell
  | sleep
  | cat
  | grep
  | remove
  | printf
  | echo
  | succeed
  | fail
deriving Repr, DecidableEq

inductive Node
  | directory
  /-- A file keeps its identity while what it holds changes. -/
  | file (identity : Nat) (content : Bytes) (executable : Bool)
  | link (target : String)
  | device (d : Device)
  | tool (t : Tool)
deriving Repr, DecidableEq

structure FileSystem where
  nodes : List (Location × Node) := []
  /-- The identity of the next file. -/
  fresh : Nat := 0
  /-- What files hold that stand nowhere any more; they may still be open. -/
  removed : List (Nat × Bytes) := []
deriving Repr, DecidableEq

namespace FileSystem

/-- What stands at a location; the root is a directory. -/
def get? (fs : FileSystem) (l : Location) : Option Node := if l = [] then some .directory else fs.nodes.lookup l

def erase (fs : FileSystem) (l : Location) : FileSystem :=
  let removed := match fs.get? l with
    | some (.file identity content _) => (identity, content) :: fs.removed
    | _ => fs.removed
  { fs with nodes := fs.nodes.filter (fun e => e.1 ≠ l), removed }

def put (fs : FileSystem) (l : Location) (n : Node) : FileSystem := { fs with nodes := (l, n) :: (fs.erase l).nodes }

/-- The steps of a path. A slash at the end is a step that stays in place, so there must be a directory. -/
def stepsOf (path : String) : List String :=
  let pieces := (Text.pieces (· == '/') path.toList).filter (· ≠ [])
  (pieces ++ (if path.toList.getLast? = some '/' then [['.']] else [])).map String.ofList

/-- The longest name that a directory can hold. -/
def longestName : Nat := 255

/-- The longest path that can be looked up, in bytes. -/
def longestPath : Nat := 4095

/-- How many links may be gone through on the way of a path. -/
def mostLinks : Nat := 40

/-- Walks along steps from a directory, through so many links at most. The last step may lead to a location where
nothing stands; if that is a link, `follow` tells whether to go through it. -/
def walk (fs : FileSystem) (follow : Bool) : (links : Nat) → Location → List String → Except OsError Location
  | _, here, [] => .ok here
  | links, here, step :: rest =>
    match fs.get? here with
    | none => .error .noEntry
    | some .directory =>
      if step = "." then walk fs follow links here rest
      else if step = ".." then walk fs follow links here.dropLast rest
      else if longestName < step.utf8ByteSize then .error .longName
      else match fs.get? (here ++ [step]) with
        | none => if rest = [] then .ok (here ++ [step]) else .error .noEntry
        | some (.link target) =>
          if rest = [] ∧ ¬follow then .ok (here ++ [step])
          else match links with
            | 0 => .error .manyLinks
            | links + 1 =>
              walk fs follow links (if Path.isAbsolute target then [] else here) (stepsOf target ++ rest)
        | some _ => walk fs follow links (here ++ [step]) rest
    | some _ => .error .notDirectory
termination_by links _ steps => (links, steps.length)

/-- The location of a path, seen from a directory. -/
def locate (fs : FileSystem) (follow : Bool) (cwd : Location) (path : String) : Except SystemError Location :=
  if path.toList.contains '\x00' then .error .nulInPath
  else if path = "" then .error (.os .noEntry)
  else if longestPath < path.utf8ByteSize then .error (.os .longName)
  else (fs.walk follow mostLinks (if Path.isAbsolute path then [] else cwd) (stepsOf path)).mapError .os

/-- What a path leads to, after following links, and where it is. -/
def find (fs : FileSystem) (cwd : Location) (path : String) : Except SystemError (Location × Node) := do
  let l ← fs.locate true cwd path
  match fs.get? l with
  | some n => return (l, n)
  | none => throw (.os .noEntry)

def find? (fs : FileSystem) (cwd : Location) (path : String) : Option Node := (fs.find cwd path).toOption.map Prod.snd

def isThere (fs : FileSystem) (cwd : Location) (path : String) : Bool := (fs.find? cwd path).isSome

def isFile (fs : FileSystem) (cwd : Location) (path : String) : Bool :=
  match fs.find? cwd path with
  | some (.file _ _ _) | some (.tool _) => true
  | _ => false

def isDirectory (fs : FileSystem) (cwd : Location) (path : String) : Bool := fs.find? cwd path = some .directory

def readBytes (fs : FileSystem) (cwd : Location) (path : String) : Except SystemError Bytes := do
  match (← fs.find cwd path).2 with
  | .directory => throw (.os .isDirectory)
  | .file _ content _ => return content
  | .device .terminal => throw (.os .noDevice)
  | .link _ | .device _ | .tool _ => return []

def readText (fs : FileSystem) (cwd : Location) (path : String) : Except SystemError String := do
  match Text.decode? (← fs.readBytes cwd path) with
  | some text => return text
  | none => throw .notUtf8

/-! ## Changes -/

/-- The text without slashes at its end. -/
private def withoutSlashes (path : String) : String :=
  String.ofList (path.toList.reverse.dropWhile (· == '/')).reverse

def makeDirectory (fs : FileSystem) (cwd : Location) (path : String) : Except SystemError FileSystem := do
  let bare := withoutSlashes path
  let l ← fs.locate false cwd (if bare = "" then path else bare)
  match fs.get? l with
  | some _ => throw (.os .alreadyThere)
  | none => return fs.put l .directory

/-- Makes the directory at a path, and first those above it if they are missing. -/
def makeDirectoriesUpTo (cwd : Location) : Nat → String → FileSystem → Except SystemError Unit × FileSystem
  | 0, _, fs => (.error .noParent, fs)
  | n + 1, path, fs =>
    let settle (fs : FileSystem) : Except SystemError FileSystem → Except SystemError Unit × FileSystem
      | .ok fs' => (.ok (), fs')
      | .error e => (if fs.isDirectory cwd path then .ok () else .error e, fs)
    if path = "" then (.ok (), fs)
    else match fs.makeDirectory cwd path, Path.parent? path with
      | .error (.os ⟨2, _⟩), some above =>
        match makeDirectoriesUpTo cwd n above fs with
        | (.ok (), fs') => settle fs' (fs'.makeDirectory cwd path)
        | failure => failure
      | .error (.os ⟨2, _⟩), none => (.error .noParent, fs)
      | made, _ => settle fs made

def makeDirectories (cwd : Location) (path : String) (fs : FileSystem) : Except SystemError Unit × FileSystem :=
  makeDirectoriesUpTo cwd (path.length + 1) path fs

/-- Where bytes go. -/
inductive Sink
  | file (identity : Nat)
  | device (d : Device)
deriving Repr, DecidableEq

/-- Opens what is at a path for writing; where nothing is, a file is made. -/
def openSink (fs : FileSystem) (cwd : Location) (path : String) : Except SystemError (Sink × FileSystem) := do
  let l ← fs.locate true cwd path
  match fs.get? l with
  | some .directory => throw (.os .isDirectory)
  | some (.file identity _ _) => return (.file identity, fs)
  | some (.device .terminal) => throw (.os .noDevice)
  | some (.device d) => return (.device d, fs)
  | some (.link _) => throw (.os .manyLinks)
  | some (.tool _) => throw (.os ⟨26, "Text file busy"⟩)
  | none => return (.file fs.fresh, { fs.put l (.file fs.fresh [] false) with fresh := fs.fresh + 1 })

/-- Changes what the file of an identity holds. -/
def updateFile (fs : FileSystem) (identity : Nat) (change : Bytes → Bytes) : FileSystem :=
  { fs with
    nodes := fs.nodes.map fun
      | (l, .file i content executable) => (l, .file i (if i = identity then change content else content) executable)
      | e => e
    removed := fs.removed.map fun (i, content) => (i, if i = identity then change content else content) }

/-- What the file of an identity holds. -/
def contentOf (fs : FileSystem) (identity : Nat) : Bytes :=
  ((fs.nodes.findSome? fun
    | (_, .file i content _) => if i = identity then some content else none
    | _ => none) <|> fs.removed.lookup identity).getD []

/-- Puts bytes at a place in a file, in place of those that stand there; a gap before them is filled with zeros. -/
def writeAt (fs : FileSystem) (identity place : Nat) (bytes : Bytes) : FileSystem :=
  fs.updateFile identity fun content =>
    content.take place ++ List.replicate (place - content.length) 0 ++ bytes ++ content.drop (place + bytes.length)

/-- Adds bytes at the end of a sink. -/
def append (fs : FileSystem) (bytes : Bytes) : Sink → Except SystemError FileSystem
  | .file identity => .ok (fs.updateFile identity (· ++ bytes))
  | .device .full => if bytes = [] then .ok fs else .error (.os .noSpace)
  | .device _ => .ok fs

/-- Takes away what a sink holds. -/
def truncate (fs : FileSystem) : Sink → FileSystem
  | .file identity => fs.updateFile identity fun _ => []
  | .device _ => fs

/-- Writes a file, in place of what it held. -/
def write (fs : FileSystem) (cwd : Location) (path : String) (bytes : Bytes) : Except SystemError FileSystem := do
  let (sink, fs) ← fs.openSink cwd path
  (fs.truncate sink).append bytes sink

/-- Puts something at a location, with the directories on the way. -/
def plant (fs : FileSystem) (l : Location) (node : Node) : FileSystem :=
  let above := (List.range l.length).map fun n => l.take n
  (above.foldl (fun fs d => if (fs.get? d).isSome then fs else fs.put d .directory) fs).put l node

def plantFile (fs : FileSystem) (l : Location) (content : Bytes) (executable : Bool) : FileSystem :=
  { fs.plant l (.file fs.fresh content executable) with fresh := fs.fresh + 1 }

/-- Removes a file or a link. -/
def removeFile (fs : FileSystem) (cwd : Location) (path : String) : Except SystemError FileSystem := do
  let l ← fs.locate false cwd path
  match fs.get? l with
  | none => throw (.os .noEntry)
  | some .directory => throw (.os .isDirectory)
  | some _ => return fs.erase l

/-! ## Surveys -/

/-- The names in a directory, with what they stand for. -/
def children (fs : FileSystem) (l : Location) : List (String × Node) :=
  fs.nodes.filterMap fun (place, node) =>
    match place.getLast? with
    | some name => if place.dropLast = l then some (name, node) else none
    | none => none

/-- What a directory holds, so many levels deep. -/
def listingAt (fs : FileSystem) : Nat → Location → Listing
  | 0, _ => .nothing
  | n + 1, l => (fs.children l).foldr (fun (name, node) rest =>
    match node with
    | .directory => .directory name (fs.listingAt n (l ++ [name])) rest
    | .file _ _ _ | .tool _ => .file name rest
    | .link _ | .device _ => .other name rest) .nothing

/-- The length of the longest location. -/
def depth (fs : FileSystem) : Nat := fs.nodes.foldl (fun d e => max d e.1.length) 0

def listing? (fs : FileSystem) (cwd : Location) (path : String) : Option Listing :=
  match fs.find cwd path with
  | .ok (l, .directory) => some (fs.listingAt (fs.depth + 1) l)
  | _ => none

/-- The paths of all that is below a directory, with a slash behind directories. -/
def pathsBelow (fs : FileSystem) (l : Location) : List String :=
  fs.nodes.filterMap fun (place, node) =>
    if l.isPrefixOf place ∧ place ≠ l then
      some (Text.joinWith "/" (place.drop l.length) ++ (if node = .directory then "/" else ""))
    else none

end FileSystem

end HookGate.Sandbox
