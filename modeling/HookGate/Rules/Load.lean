import HookGate.Rules.Document
import HookGate.System.Host

/-! # Loading rules

Rules from a file. A file that is not there holds no rules, and one that cannot be used holds none either but leaves
a warning. -/
namespace HookGate.RuleSet

variable {m : Type → Type} [Monad m]

/-- The rules of a file, or why there are none. -/
def load? (host : Host m) (path : String) : m (Except RuleFileError RuleSet) := do
  if !(← host.isFile path) then return .error (.notFound path)
  match ← host.readText path with
  | .error e => return .error (.unreadable e)
  | .ok text => return (ofFileText? text).mapError .malformed

/-- The set that stands for a file that could not be used. -/
def ofError : RuleFileError → RuleSet
  | .notFound _ => empty
  | e => { warnings := [.noRules e] }

def load (host : Host m) (path : String) : m RuleSet := do
  match ← load? host path with
  | .ok rules => return rules
  | .error e => return ofError e

end HookGate.RuleSet
