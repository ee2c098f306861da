import HookGate.Settings.Document
import HookGate.Settings.Path
import HookGate.System.Host

/-! # Loading settings

Settings are read from the file that the command line names, or else from the first usable one of the usual places.
Files that cannot be used leave a warning, and the defaults. -/
namespace HookGate

/-- Why a settings file gave no settings. -/
inductive SettingsFileError
  | unreadable (e : SystemError)
  | malformed (e : Toml.Error)
deriving Repr, DecidableEq

def SettingsFileError.message : SettingsFileError → String
  | unreadable e => e.message
  | malformed e => e.message

/-- A settings file that was not used. -/
inductive SettingsWarning
  /-- A file in one of the usual places is no settings file. -/
  | badFile (path : String) (e : Toml.Error)
  /-- The file that was asked for could not be used. -/
  | badChoice (path : String) (e : SettingsFileError)
deriving Repr, DecidableEq

def SettingsWarning.message : SettingsWarning → String
  | badFile path e => "Warning: Failed to parse " ++ path ++ ": " ++ e.message
  | badChoice path e => "Warning: Failed to load config from " ++ path ++ ": " ++ e.message

namespace Settings

variable {m : Type → Type} [Monad m]

/-- The places of settings files, the preferred one first. -/
def usualPaths (home : Option String) : List String :=
  (home.map fun h => Path.join h ".claude/skill-gate/config.toml").toList ++ ["/etc/claude-skill-gate/config.toml"]

/-- The settings of a file. -/
def loadFrom? (host : Host m) (path : String) : m (Except SettingsFileError Settings) := do
  match ← host.readText path with
  | .error e => return .error (.unreadable e)
  | .ok text => return (ofToml? text).mapError .malformed

/-- The settings of the first of the files that holds some. -/
def loadFirst (host : Host m) : List String → m (Settings × List SettingsWarning)
  | [] => return ({}, [])
  | path :: rest => do
    if !(← host.isThere path) then loadFirst host rest
    else match ← loadFrom? host path with
      | .ok s => return (s, [])
      | .error (.unreadable _) => loadFirst host rest
      | .error (.malformed e) => do
        let (s, warnings) ← loadFirst host rest
        return (s, .badFile path e :: warnings)

/-- The settings of the file that was asked for, or else of the usual ones. -/
def load (host : Host m) (home : Option String) : Option String → m (Settings × List SettingsWarning)
  | none => loadFirst host (usualPaths home)
  | some path => do
    match ← loadFrom? host path with
    | .ok s => return (s, [])
    | .error e => return ({}, [.badChoice path e])

end Settings

end HookGate
