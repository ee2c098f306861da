import HookGate.Json.Error
import HookGate.Rules.Rule
import HookGate.System.Error

/-! # Sets of rules

The rules of a document in its order, with what was wrong in it. A fault costs no more than the rule or pattern it is
in, or all rules if the document cannot be read. -/
namespace HookGate

/-- Why a rule file gave no rules. -/
inductive RuleFileError
  | notFound (path : String)
  | unreadable (e : SystemError)
  | malformed (e : Json.Error)
deriving Repr, DecidableEq

def RuleFileError.message : RuleFileError → String
  | notFound path => "rule file not found: " ++ path
  | unreadable e => "failed to read rule file: " ++ e.message
  | malformed e => "failed to parse rule file: " ++ e.message

/-- A fault that was met while loading rules. -/
inductive RuleWarning
  | badShape (rule : String) (e : Json.Error)
  | badPattern (rule source : String) (e : Pattern.Error)
  | noRules (e : RuleFileError)
deriving Repr, DecidableEq

def RuleWarning.message : RuleWarning → String
  | badShape rule e => "rule '" ++ rule ++ "' ignored: " ++ e.message
  | badPattern rule source e => "rule '" ++ rule ++ "': invalid pattern '" ++ source ++ "': " ++ e.message
  | noRules e => e.message

structure RuleSet where
  rules : List Rule := []
  warnings : List RuleWarning := []
deriving Repr, DecidableEq

namespace RuleSet

def empty : RuleSet := {}

def ofRules (rules : List Rule) : RuleSet := { rules }

def size (s : RuleSet) : Nat := s.rules.length

/-- The first rule of a name. -/
def get? (s : RuleSet) (name : String) : Option Rule := s.rules.find? fun r => r.name == name

end RuleSet

end HookGate
