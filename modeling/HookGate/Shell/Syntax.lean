import HookGate.Text.Basic

/-! # Shell scripts

What a shell script is made of. Texts of scripts hold bytes: each character stands for the byte of its number. -/
namespace HookGate.Shell

/-- When the word of an expansion counts. -/
inductive Condition
  /-- Where the parameter is unset. -/
  | unset
  /-- Where the parameter is unset or empty. -/
  | empty
deriving Repr, DecidableEq

inductive RedirectKind
  | input
  /-- A file that is made or emptied. -/
  | output
  /-- A file that is emptied even where files are kept from that. -/
  | clobber
  | append
  /-- A file to read and to write. -/
  | both
  /-- Another name for a descriptor. -/
  | duplicate
  /-- The text itself is read. -/
  | here
deriving Repr, DecidableEq

inductive Connective
  | and
  | or
deriving Repr, DecidableEq

/-- Whether what follows runs after a status. -/
def Connective.goesOn (c : Connective) (status : Nat) : Bool :=
  match c with
  | .and => status = 0
  | .or => status ≠ 0

mutual

/-- A part of a word; `quoted` parts are never split or matched. -/
inductive Part
  | text (quoted : Bool) (s : String)
  | parameter (quoted : Bool) (name : String) (use : Use)
  | output (quoted : Bool) (script : List Item)
  | arithmetic (quoted : Bool) (expression : List Part)

/-- How the value of a parameter is used. -/
inductive Use
  | plain
  | length
  | default (c : Condition) (word : List Part)
  | assign (c : Condition) (word : List Part)
  | require (c : Condition) (word : List Part)
  | alternative (c : Condition) (word : List Part)
  | trimStart (longest : Bool) (pattern : List Part)
  | trimEnd (longest : Bool) (pattern : List Part)
  /-- A use that is none, which shows only where it is expanded. -/
  | bad

inductive Redirect
  | mk (descriptor : Nat) (kind : RedirectKind) (target : List Part)

/-- A command, with the line it stands in where that may be told in a complaint. -/
inductive Command
  | simple (line : Nat) (assignments : List (String × List Part)) (words : List (List Part)) (redirects : List Redirect)
  | group (body : List Item)
  | subshell (line : Nat) (body : List Item)
  | conditional (branches : List (List Item × List Item)) (otherwise : List Item)
  /-- Runs while the condition holds, or until it does. -/
  | loop (until_ : Bool) (condition body : List Item)
  /-- Without words it runs over the arguments. -/
  | each (line : Nat) (name : String) (words : Option (List (List Part))) (body : List Item)
  | select (line : Nat) (subject : List Part) (cases : List (List (List Part) × List Item))
  | define (name : String) (body : Command)
  | redirected (line : Nat) (body : Command) (redirects : List Redirect)

inductive Pipeline
  | mk (negated : Bool) (stages : List Command)

/-- A chain of pipelines, and whether it runs in the background. -/
inductive Item
  | mk (first : Pipeline) (rest : List (Connective × Pipeline)) (background : Bool)

end

/-- A word. -/
abbrev Word := List Part

abbrev Script := List Item

namespace Part

/-- The text of a word that is nothing but text without quotes. -/
def literal? : Word → Option String
  | [text false s] => some s
  | _ => none

end Part

/-! ## Names -/

def isNameStart (c : Char) : Bool := c.isAlpha || c == '_'

def isNameChar (c : Char) : Bool := c.isAlphanum || c == '_'

/-- Whether a text can name a variable. -/
def isName (s : String) : Bool := s.toList.head?.any isNameStart && s.toList.all isNameChar

/-- The name in front of an equals sign, and what stands behind it. -/
def splitAssignment? (s : String) : Option (String × String) :=
  let name := s.toList.takeWhile isNameChar
  match s.toList.drop name.length with
  | '=' :: value => if name.head?.any isNameStart then some (String.ofList name, String.ofList value) else none
  | _ => none

/-- The name to which a word gives a value, and the word of the value. -/
def Part.assignment? : Word → Option (String × Word)
  | .text false s :: rest => (splitAssignment? s).map fun (name, value) =>
    (name, if value = "" then rest else .text false value :: rest)
  | _ => none

/-- The commands that a shell has itself and that end it when they fail. -/
def specialCommands : List String :=
  [".", ":", "break", "continue", "eval", "exec", "exit", "export", "local", "readonly", "return", "set", "shift",
    "times", "trap", "unset"]

end HookGate.Shell
