import HookGate.Json.Value

/-! # Writing JSON

Strings are written with escapes for quotes, backslashes and control characters; all else stands as it is. -/
namespace HookGate.Json

def hex2 (n : Nat) : List Char := [Nat.digitChar (n / 16), Nat.digitChar (n % 16)]

/-- The form of a character in a string. -/
def writeChar (c : Char) : List Char :=
  match c with
  | '"' => ['\\', '"']
  | '\\' => ['\\', '\\']
  | '\x08' => ['\\', 'b']
  | '\x0c' => ['\\', 'f']
  | '\n' => ['\\', 'n']
  | '\r' => ['\\', 'r']
  | '\t' => ['\\', 't']
  | c => if c.toNat < 0x20 then ['\\', 'u', '0', '0'] ++ hex2 c.toNat else [c]

def writeString (s : String) : String := String.ofList ('"' :: s.toList.flatMap writeChar ++ ['"'])

/-- A list of forms that are written already. -/
def writeList (items : List String) : String := "[" ++ Text.joinWith "," items ++ "]"

/-- An object, of names and forms that are written already. -/
def writeObject (members : List (String × String)) : String :=
  "\x7b" ++ Text.joinWith "," (members.map fun m => writeString m.1 ++ ":" ++ m.2) ++ "\x7d"

def Number.toText : Number → String
  | .integer n => Text.ofInt n
  | .double d => d.toText

mutual

def Value.toText : Value → String
  | .null => "null"
  | .bool b => if b then "true" else "false"
  | .number n => n.toText
  | .string s => writeString s
  | .array vs => writeList (textsOf vs)
  | .object ms => writeObject (memberTexts ms)

private def textsOf : List Value → List String
  | [] => []
  | v :: vs => v.toText :: textsOf vs

private def memberTexts : List (String × Value) → List (String × String)
  | [] => []
  | (n, v) :: ms => (n, v.toText) :: memberTexts ms

end

end HookGate.Json
