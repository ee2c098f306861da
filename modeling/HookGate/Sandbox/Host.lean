import HookGate.Sandbox.FileSystem
import HookGate.System.Host

/-! # The host of a file system in memory

All that a hook does to files, done to a file system in memory. What programs do is left open: they may do anything to
the files. -/
namespace HookGate.Sandbox

/-- What a launch does to the files, and how it ends. -/
abbrev Programs := Launch → FileSystem → Except LaunchError Finished × FileSystem

/-- The time at which everything happens. -/
def timestamp : String := "1970-01-01T00:00:00Z"

namespace FileSystem

/-- Does something that changes the files only if it succeeds. -/
def attempt (change : FileSystem → Except SystemError FileSystem) : StateM FileSystem (Except SystemError Unit) := fun fs =>
  match change fs with
  | .ok fs' => (.ok (), fs')
  | .error e => (.error e, fs)

/-- Adds a line at the end of a sink. -/
def appendLine (sink : Sink) : LogWriter (StateM FileSystem) := fun line =>
  attempt fun fs => fs.append (Text.encode (line ++ "\n")) sink

/-- Opens a log at a path. -/
def openLog? (cwd : Location) (path : String) : StateM FileSystem (Option (LogWriter (StateM FileSystem))) := fun fs =>
  match fs.openSink cwd path with
  | .ok (sink, fs') => (some (appendLine sink), fs')
  | .error _ => (none, fs)

/-- The host that works from a directory. -/
def host (cwd : Location) (programs : Programs) : Host (StateM FileSystem) where
  isThere path := fun fs => (fs.isThere cwd path, fs)
  isFile path := fun fs => (fs.isFile cwd path, fs)
  listing? path := fun fs => (fs.listing? cwd path, fs)
  readText path := fun fs => (fs.readText cwd path, fs)
  makeDirectories path := makeDirectories cwd path
  writeText path text := attempt fun fs => fs.write cwd path (Text.encode text)
  removeFile path := attempt fun fs => fs.removeFile cwd path
  launch := programs
  openLog? := openLog? cwd
  timestamp := pure timestamp

end FileSystem

end HookGate.Sandbox
