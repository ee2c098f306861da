/-! # TOML values

Numbers with a fraction and times carry no content here: no setting takes them. -/
namespace HookGate.Toml

inductive Value
  | string (s : String)
  | integer (n : Int)
  | float
  | boolean (b : Bool)
  | time
  | array (items : List Value)
  | table (members : List (String × Value))
deriving Repr, Inhabited

inductive Error
  | badSyntax
  | numberTooLarge
  | tooDeep
  | keyTaken (key : String)
  | wrongType (wanted : String)
deriving Repr, DecidableEq

/-- The words with which every message about a TOML text begins. -/
def Error.message (_ : Error) : String := "TOML parse error"

end HookGate.Toml
