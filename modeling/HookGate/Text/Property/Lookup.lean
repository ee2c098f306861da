import HookGate.Text.Property.Age
import HookGate.Text.Property.Binary
import HookGate.Text.Property.Break
import HookGate.Text.Property.Category
import HookGate.Text.Property.Script
import HookGate.Text.Property.ScriptExtension

/-! # Finding a property by name

Names are compared without case, blanks, hyphens, underscores and a leading `is`. A bare name means a binary property,
a general category or a script, in this order; a name with a value means a category, a script, the characters that a
script uses, those assigned up to a version, or those of one kind at the breaks in a text. -/
namespace HookGate.Text

namespace PropertyEntry

/-- The form in which names are compared. -/
def normalize (name : List Char) : String :=
  let (is, rest) := match name with
    | i :: s :: r => if (i = 'i' ∨ i = 'I') ∧ (s = 's' ∨ s = 'S') then (true, r) else (false, name)
    | _ => (false, name)
  let kept := (rest.filter fun c => c.toNat < 0x80 && !([' ', '_', '-'].contains c)).map Char.toLower
  if is ∧ kept = ['c'] then "isc" else String.ofList kept

/-- Groups of categories by their names. -/
private def categoryGroups : List (List String × List String) :=
  [(["casedletter", "lc"], ["lu", "ll", "lt"]),
   (["letter", "l"], ["lu", "ll", "lt", "lm", "lo"]),
   (["mark", "m", "combiningmark"], ["mn", "mc", "me"]),
   (["number", "n"], ["nd", "nl", "no"]),
   (["punctuation", "p", "punct"], ["pc", "pd", "ps", "pe", "pi", "pf", "po"]),
   (["symbol", "s"], ["sm", "sc", "sk", "so"]),
   (["separator", "z"], ["zs", "zl", "zp"]),
   (["other", "c"], ["cc", "cf", "cn", "co"])]

/-- The characters of a general category, or of a group of them. -/
def category? (name : String) : Option Ranges :=
  if name = "any" then some [(0, 0x10FFFF)]
  else if name = "ascii" then some [(0, 0x7F)]
  else if name = "assigned" then (find? categories "cn").map Ranges.compl
  else match categoryGroups.find? fun g => g.1.contains name with
    | some g => (g.2.mapM (find? categories)).map List.flatten
    | none => find? categories name

/-- The characters of a script. -/
def script? (name : String) : Option Ranges := find? scripts name

/-- The characters that a script uses. -/
def scriptUse? (name : String) : Option Ranges := (find? scriptExtensions name).or (script? name)

/-- The characters assigned up to a version of the standard. -/
def age? (name : String) : Option Ranges :=
  match ages.span fun e => !e.names.contains name with
  | (_, []) => none
  | (earlier, e :: _) => some ((earlier ++ [e]).flatMap fun e => Ranges.ofLines e.spans)

/-- The set of a bare name. -/
def ofName? (name : List Char) : Option Ranges :=
  let n := normalize name
  let binary := if n = "cf" ∨ n = "sc" ∨ n = "lc" then none else find? binaryProperties n
  binary.or ((category? n).or (script? n))

/-- The set of a value of a named property. -/
def ofValue? (name value : List Char) : Option Ranges :=
  let v := normalize value
  match normalize name with
  | "generalcategory" | "gc" => category? v
  | "script" | "sc" => script? v
  | "scriptextensions" | "scx" => scriptUse? v
  | "age" => age? v
  | "graphemeclusterbreak" | "gcb" => find? graphemeBreaks v
  | "wordbreak" | "wb" => find? wordBreaks v
  | "sentencebreak" | "sb" => find? sentenceBreaks v
  | _ => none

end PropertyEntry

end HookGate.Text
