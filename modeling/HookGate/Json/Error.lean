import HookGate.Json.Value
import HookGate.Text.Quoted

/-! # What can be wrong with a JSON text

The causes for which reading stops, and their wording. -/
namespace HookGate.Json

/-- The kind of value that was found where another one is wanted. -/
inductive Found
  | null
  | bool (b : Bool)
  | number (n : Number)
  | string (s : String)
  | sequence
  | map
deriving Repr, DecidableEq

namespace Found

def ofValue : Value → Found
  | .null => null
  | .bool b => bool b
  | .number n => number n
  | .string s => string s
  | .array _ => sequence
  | .object _ => map

def name : Found → String
  | null => "null"
  | bool b => "boolean `" ++ (if b then "true" else "false") ++ "`"
  | number (.integer n) => "integer `" ++ Text.ofInt n ++ "`"
  | number (.double d) => "floating point `" ++ d.toText ++ "`"
  | string s => "string " ++ Text.quoted s
  | sequence => "sequence"
  | map => "map"

end Found

inductive Error
  | endInList
  | endInObject
  | endInString
  | endInValue
  | expectedColon
  | expectedListEnd
  | expectedObjectEnd
  | expectedIdent
  | expectedValue
  | invalidEscape
  | invalidNumber
  | numberOutOfRange
  | controlCharacter
  | keyNotString
  | loneSurrogate
  | endOfSurrogates
  | trailingComma
  | trailingCharacters
  | tooDeep
  | wrongType (found : Found) (wanted : String)
  | wrongLength (count : Nat) (wanted : String)
  | duplicateField (name : String)
deriving Repr, DecidableEq

def Error.message : Error → String
  | endInList => "EOF while parsing a list"
  | endInObject => "EOF while parsing an object"
  | endInString => "EOF while parsing a string"
  | endInValue => "EOF while parsing a value"
  | expectedColon => "expected `:`"
  | expectedListEnd => "expected `,` or `]`"
  | expectedObjectEnd => "expected `,` or `\x7d`"
  | expectedIdent => "expected ident"
  | expectedValue => "expected value"
  | invalidEscape => "invalid escape"
  | invalidNumber => "invalid number"
  | numberOutOfRange => "number out of range"
  | controlCharacter => "control character (\\u0000-\\u001F) found while parsing a string"
  | keyNotString => "key must be a string"
  | loneSurrogate => "lone leading surrogate in hex escape"
  | endOfSurrogates => "unexpected end of hex escape"
  | trailingComma => "trailing comma"
  | trailingCharacters => "trailing characters"
  | tooDeep => "recursion limit exceeded"
  | wrongType found wanted => "invalid type: " ++ found.name ++ ", expected " ++ wanted
  | wrongLength count wanted => "invalid length " ++ Text.ofNat count ++ ", expected " ++ wanted
  | duplicateField name => "duplicate field `" ++ name ++ "`"

end HookGate.Json
