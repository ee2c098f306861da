import HookGate.Text.Basic

/-! # Errors of the system

What the operating system says when it refuses something, and what is refused before it is asked. -/
namespace HookGate

/-- An error of the operating system. -/
structure OsError where
  code : Nat
  text : String
deriving Repr, DecidableEq

namespace OsError

def message (e : OsError) : String := e.text ++ " (os error " ++ Text.ofNat e.code ++ ")"

def noEntry : OsError := ⟨2, "No such file or directory"⟩

def noDevice : OsError := ⟨6, "No such device or address"⟩

def badExecutable : OsError := ⟨8, "Exec format error"⟩

def denied : OsError := ⟨13, "Permission denied"⟩

def alreadyThere : OsError := ⟨17, "File exists"⟩

def notDirectory : OsError := ⟨20, "Not a directory"⟩

def isDirectory : OsError := ⟨21, "Is a directory"⟩

def noSpace : OsError := ⟨28, "No space left on device"⟩

def longName : OsError := ⟨36, "File name too long"⟩

def manyLinks : OsError := ⟨40, "Too many levels of symbolic links"⟩

end OsError

/-- Why something on files or programs failed. -/
inductive SystemError
  | os (e : OsError)
  /-- The bytes of a file are not UTF-8. -/
  | notUtf8
  /-- A path cannot hold the character NUL. -/
  | nulInPath
  /-- An argument cannot hold the character NUL. -/
  | nulInArgument
  /-- There is no directory left in which a missing one could be made. -/
  | noParent
deriving Repr, DecidableEq

namespace SystemError

def message : SystemError → String
  | os e => e.message
  | notUtf8 => "stream did not contain valid UTF-8"
  | nulInPath => "file name contained an unexpected NUL byte"
  | nulInArgument => "nul byte found in provided data"
  | noParent => "failed to create whole tree"

/-- Whether what was asked for is not there. -/
def isMissing (e : SystemError) : Bool := e = os .noEntry

end SystemError

end HookGate
