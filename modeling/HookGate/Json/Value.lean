import HookGate.Number.Double

/-! # JSON values -/
namespace HookGate.Json

/-- A whole number of 64 bits, signed or not, or a double-precision number. -/
inductive Number
  | integer (n : Int)
  | double (d : Number.Double)
deriving Repr, DecidableEq

/-- Members stand in the order of their names, one value for a name. -/
inductive Value
  | null
  | bool (b : Bool)
  | number (n : Number)
  | string (s : String)
  | array (items : List Value)
  | object (members : List (String × Value))
deriving Repr, Inhabited

namespace Value

/-- Puts a member at its place; a member of the same name goes. -/
def insert (name : String) (v : Value) : List (String × Value) → List (String × Value)
  | [] => [(name, v)]
  | (n, w) :: ms =>
    if name < n then (name, v) :: (n, w) :: ms
    else if name = n then (name, v) :: ms
    else (n, w) :: insert name v ms

/-- The member of a name. -/
def member? : Value → String → Option Value
  | object ms, name => ms.lookup name
  | _, _ => none

def string? : Value → Option String
  | string s => some s
  | _ => none

def items? : Value → Option (List Value)
  | array vs => some vs
  | _ => none

end Value

end HookGate.Json
