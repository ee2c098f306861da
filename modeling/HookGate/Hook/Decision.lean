/-! # Decisions and outputs

A decision is turned into what the host reads: a text on standard output is added to the context, a text on standard
error with exit code 2 stops the action, and silence lets everything pass. -/
namespace HookGate

/-- What stands against a command. -/
structure Objection where
  ruleId : String
  reason : String
  message : String
deriving Repr, DecidableEq

inductive Decision
  | allow (reason : String)
  | advise (matched : List String) (report : String)
  | block (o : Objection)
  | warn (o : Objection)
deriving Repr, DecidableEq

namespace Decision

/-- A warning in place of a block. -/
def softened : Decision → Decision
  | block o => warn o
  | d => d

def isAllow : Decision → Bool
  | allow _ => true
  | _ => false

def isAdvise : Decision → Bool
  | advise _ _ => true
  | _ => false

def isBlock : Decision → Bool
  | block _ => true
  | _ => false

def ruleId? : Decision → Option String
  | block o | warn o => some o.ruleId
  | _ => none

def reason : Decision → String
  | allow reason => reason
  | advise _ _ => "advisory report emitted"
  | block o | warn o => o.reason

def report? : Decision → Option String
  | advise _ report => some report
  | _ => none

def matched : Decision → List String
  | advise matched _ => matched
  | _ => []

end Decision

/-- What the process writes, and its exit code. -/
structure Output where
  stdout : Option String := none
  stderr : Option String := none
  exitCode : Nat := 0
deriving Repr, DecidableEq

namespace Output

def neutral : Output := {}

def ofDecision : Decision → Output
  | .allow _ => neutral
  | .advise _ report => { stdout := some report }
  | .block o => { stderr := some o.message, exitCode := 2 }
  | .warn o => { stderr := some o.message }

def isSilent (o : Output) : Bool := o.stdout.isNone && o.stderr.isNone

end Output

end HookGate
