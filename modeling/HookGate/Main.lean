import HookGate.CommandLine.Run
import HookGate.Text.Utf8
import Std.Time.Format

/-! # The command line

The program on the machine that it runs on. This host works on real files, but it starts no programs: whoever asks for
one is told that the system cannot do that. -/
namespace HookGate.Main

/-- What the system said. -/
def osError : IO.Error → OsError
  | .noFileOrDirectory _ code details | .interrupted _ code details => ⟨code.toNat, details⟩
  | .alreadyExists _ code details | .invalidArgument _ code details | .permissionDenied _ code details
  | .resourceExhausted _ code details | .inappropriateType _ code details | .noSuchThing _ code details =>
    ⟨code.toNat, details⟩
  | .otherError code details | .resourceBusy code details | .resourceVanished code details
  | .unsupportedOperation code details | .hardwareFault code details | .unsatisfiedConstraints code details
  | .illegalOperation code details | .protocolError code details | .timeExpired code details => ⟨code.toNat, details⟩
  | .unexpectedEof => ⟨5, "Input/output error"⟩
  | .userError details => ⟨5, details⟩

/-- What comes of an action, with the error that it met. -/
def attempt {α : Type} (action : IO α) : IO (Except SystemError α) := do
  match ← action.toBaseIO with
  | .ok a => return .ok a
  | .error e => return .error (.os (osError e))

/-- What comes of an action on a path that can be handed to the system. -/
def attemptAt {α : Type} (path : String) (action : IO α) : IO (Except SystemError α) :=
  if path.toList.contains '\x00' then return .error .nulInPath else attempt action

/-- A path as the system counts it from the working directory. -/
def located (path : String) := (fun here => here / path) <$> IO.currentDir

/-- What stands at a path, after following links. -/
def metadata? (path : String) : IO (Option IO.FS.Metadata) := do
  return (← attemptAt path (do (← located path).metadata)).toOption

/-- How many directories below each other a listing goes into. -/
def maxDepth : Nat := 2048

/-- What the directory at a path holds. -/
def listing : Nat → String → IO Listing
  | 0, _ => return .nothing
  | depth + 1, path => do
    let entries ← (← located path).readDir
    entries.foldrM (fun entry rest => do
      match (← entry.path.symlinkMetadata).type with
      | .file => return .file entry.fileName rest
      | .dir => return .directory entry.fileName (← listing depth entry.path.toString) rest
      | _ => return .other entry.fileName rest) .nothing

def readText (path : String) : IO (Except SystemError String) := do
  return match ← attemptAt path (IO.FS.readBinFile path) with
  | .error e => .error e
  | .ok bytes => match Text.decode? bytes.toList with
    | some text => .ok text
    | none => .error .notUtf8

def openLog? (path : String) : IO (Option (LogWriter IO)) := do
  match ← attemptAt path (IO.FS.Handle.mk path .append) with
  | .error _ => return none
  | .ok log => return some fun line => attempt do
      log.putStr (line ++ "\n")
      log.flush

def timestamp : IO String := do
  let now := Std.Time.DateTime.ofTimestamp (← Std.Time.Timestamp.now) .UTC
  return now.format "uuuu-MM-dd'T'HH:mm:ss.nnnnnnnnn'Z'"

/-- The error of a system that does not do what it is asked for. -/
def notImplemented : OsError := ⟨38, "Function not implemented"⟩

/-- The machine that the program runs on. -/
def host : Host IO where
  isThere path := do return (← metadata? path).isSome
  isFile path := do return (← metadata? path).any fun m => m.type matches .file
  listing? path := do
    match ← metadata? path with
    | some { type := .dir, .. } => return (← attemptAt path (listing maxDepth path)).toOption
    | _ => return none
  readText := readText
  makeDirectories path := attemptAt path (IO.FS.createDirAll path)
  writeText path text := attemptAt path (IO.FS.writeFile path text)
  removeFile path := attemptAt path (IO.FS.removeFile path)
  launch l := return .error (.ofStart l.program (.os notImplemented))
  openLog? := openLog?
  timestamp := timestamp

/-- The variables that the process was started with. -/
def environment : IO Variables := do
  let bytes ← IO.FS.readBinFile "/proc/self/environ"
  let entries := Text.pieces (· == '\x00') (Text.decodeLossy bytes.toList).toList
  return entries.map fun entry =>
    (String.ofList (entry.takeWhile (· ≠ '=')), String.ofList ((entry.dropWhile (· ≠ '=')).drop 1))

/-- What stands on standard input, if it is text. -/
def readInput : IO String := do
  let bytes ← (← IO.FS.Handle.mk "/dev/stdin" .read).readBinToEnd
  return (Text.decode? bytes.toList).getD ""

end HookGate.Main

def main (args : List String) : IO UInt32 := do
  let asked := (HookGate.Arguments.ofList args).invocation?.isSome
  let stdin ← if asked then HookGate.Main.readInput else pure ""
  let vars ← HookGate.Main.environment
  let cwd ← IO.currentDir
  let output ← HookGate.CommandLine.run HookGate.Main.host vars cwd.toString args stdin
  IO.print output.stdout
  IO.eprint output.stderr
  return output.exitCode.toUInt32
