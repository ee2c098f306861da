import HookGate.System.Error
import HookGate.System.Listing

/-! # Hosts

What a hook needs from the machine it runs on. All that a hook does to files and programs goes through a host, so that
it can run on a real machine, on one in memory, or on any other that answers these questions. -/

/-! ## Launches

A program that is started with nothing to read, and has a number of seconds to end and to close its outputs. -/
namespace HookGate

structure Launch where
  program : String
  arguments : List String
  /-- Where the program runs, if not where its starter does. -/
  directory : Option String := none
  /-- Variables that are set on top of those of its starter. -/
  vars : List (String × String) := []
  limitSecs : Nat
deriving Repr, DecidableEq

/-- What a program left that came to its end. -/
structure Finished where
  stdout : String := ""
  stderr : String := ""
  /-- The exit status; there is none after a signal. -/
  status : Option Nat := some 0
deriving Repr, DecidableEq

def Finished.success (f : Finished) : Bool := f.status = some 0

inductive LaunchError
  | missing (program : String)
  | notStarted (program : String) (e : SystemError)
  | waitFailed (e : SystemError)
  | timedOut (seconds : Nat)
  | noRuntime (e : SystemError)
deriving Repr, DecidableEq

namespace LaunchError

def message : LaunchError → String
  | missing program => "program not found: " ++ program
  | notStarted program e => "failed to start " ++ program ++ ": " ++ e.message
  | waitFailed e => "failed waiting for child process: " ++ e.message
  | timedOut seconds => "timed out after " ++ Text.ofNat seconds ++ "s"
  | noRuntime e => "failed to start process runtime: " ++ e.message

/-- The error of a program that could not be started. -/
def ofStart (program : String) (e : SystemError) : LaunchError :=
  if e.isMissing then missing program else notStarted program e

end LaunchError

end HookGate

/-! ## Hosts of hooks -/

namespace HookGate

/-- Adds a line to an audit log that is open. -/
abbrev LogWriter (m : Type → Type) := String → m (Except SystemError Unit)

structure Host (m : Type → Type) where
  /-- Whether there is anything at a path, after following links. -/
  isThere : String → m Bool
  /-- Whether there is a file at a path, after following links. -/
  isFile : String → m Bool
  /-- What the directory at a path holds, if there is one. -/
  listing? : String → m (Option Listing)
  readText : String → m (Except SystemError String)
  /-- Makes a directory and those above it that are missing. -/
  makeDirectories : String → m (Except SystemError Unit)
  /-- Writes a file, in place of what it held. -/
  writeText : String → String → m (Except SystemError Unit)
  removeFile : String → m (Except SystemError Unit)
  launch : Launch → m (Except LaunchError Finished)
  /-- Opens a file to which lines are added at the end, if that is possible. -/
  openLog? : String → m (Option (LogWriter m))
  /-- The time of day, as it stands in a log. -/
  timestamp : m String

/-- The same host, seen from a monad that can do what its own can. -/
def Host.map {m n : Type → Type} [Functor n] (lift : {α : Type} → m α → n α) (h : Host m) : Host n where
  isThere path := lift (h.isThere path)
  isFile path := lift (h.isFile path)
  listing? path := lift (h.listing? path)
  readText path := lift (h.readText path)
  makeDirectories path := lift (h.makeDirectories path)
  writeText path text := lift (h.writeText path text)
  removeFile path := lift (h.removeFile path)
  launch l := lift (h.launch l)
  openLog? path := Option.map (fun writer line => lift (writer line)) <$> lift (h.openLog? path)
  timestamp := lift h.timestamp

end HookGate
