import HookGate.Shell.Syntax

/-! # Tokens of shell scripts

What stands between the words of a script, and the place that a reader has reached in it. -/
namespace HookGate.Shell

inductive Token
  | endOfFile
  | newline
  | semicolon
  | ampersand
  | and
  | or
  | bar
  | openParen
  | closeParen
  /-- The end of a branch of a choice. -/
  | endCase
  | redirection
  | word
  | reserved (word : String)
deriving Repr, DecidableEq

namespace Token

/-- The words that are no words where a command may start. -/
def reservedWords : List String :=
  ["!", "case", "do", "done", "elif", "else", "esac", "fi", "for", "if", "in", "then", "until", "while", "\x7b", "\x7d"]

/-- How a complaint names a token. -/
def name : Token → String
  | endOfFile => "end of file"
  | newline => "newline"
  | semicolon => "\";\""
  | ampersand => "\"&\""
  | and => "\"&&\""
  | or => "\"||\""
  | bar => "\"|\""
  | openParen => "\"(\""
  | closeParen => "\")\""
  | endCase => "\";;\""
  | redirection => "redirection"
  | word => "word"
  | reserved w => "\"" ++ w ++ "\""

/-- Whether a list of commands ends before a token. -/
def endsList : Token → Bool
  | endOfFile | closeParen | endCase => true
  | reserved w => ["do", "done", "elif", "else", "esac", "fi", "then", "\x7d"].contains w
  | _ => false

end Token

/-- What is wrong with a script. -/
inductive Fault
  | openQuote
  | openCommand
  | openArithmetic
  | openExpansion
  | badVariable
  | badFunction
  | unexpected (token : Token) (expected : Option Token)
deriving Repr, DecidableEq

def Fault.message : Fault → String
  | openQuote => "Unterminated quoted string"
  | openCommand => "EOF in backquote substitution"
  | openArithmetic => "Missing '))'"
  | openExpansion => "Missing '\x7d'"
  | badVariable => "Bad for loop variable"
  | badFunction => "Bad function name"
  | unexpected token none => token.name ++ " unexpected"
  | unexpected token (some expected) => token.name ++ " unexpected (expecting " ++ expected.name ++ ")"

structure SyntaxError where
  line : Nat
  fault : Fault
deriving Repr, DecidableEq

/-- What is left of a script, and the number of the line it starts in. -/
structure Source where
  rest : List Char
  line : Nat := 1
deriving Repr, DecidableEq

/-- A here-document whose text comes after the line. -/
structure Here where
  /-- Which of the here-documents of the line it is. -/
  index : Nat
  mark : List Char
  /-- Whether nothing in the text is expanded. -/
  isLiteral : Bool
  stripsTabs : Bool
deriving Repr, DecidableEq

/-- An alias whose text is under way. -/
structure Expanding where
  name : String
  /-- How many characters are left where its text ends. -/
  ending : Nat
  /-- Whether its text ends with a blank, so that the next word may be an alias as well. -/
  endsBlank : Bool
deriving Repr, DecidableEq

/-- The place that a reader has reached. -/
structure Reading where
  rest : List Char
  line : Nat
  /-- The line from which scripts between backquotes count. -/
  commandLine : Nat
  aliases : List (String × String) := []
  expanding : List Expanding := []
  last : Token := .newline
  /-- Whether the last token is to be read again. -/
  isPushed : Bool := false
  /-- The last word. -/
  word : Word := []
  /-- The descriptor and the kind of the last redirection, and whether tabs are taken off its text. -/
  redirection : Nat × RedirectKind × Bool := (0, .input, false)
  awaited : List Here := []
  /-- How many here-documents there were. -/
  heres : Nat := 0
  /-- The texts of here-documents, as far as they are known. -/
  known : List (Nat × Word) := []

abbrev Reader := StateT Reading (Except SyntaxError)

namespace Reader

def fail {α : Type} (f : Fault) : Reader α := fun s => .error ⟨s.line, f⟩

/-- Complains of the last token. -/
def unexpected {α : Type} (expected : Option Token) : Reader α := do fail (.unexpected (← get).last expected)

def backquote : Char := Char.ofNat 0x60

/-- Whether a character ends a word. -/
def endsWord (c : Char) : Bool := [' ', '\t', '\n', ';', '&', '|', '<', '>', '(', ')'].contains c

/-- Passes over characters. -/
def skip (n : Nat) : Reader Unit :=
  modify fun s => { s with rest := s.rest.drop n, line := s.line + (s.rest.take n).countP (· == '\n') }

/-- Passes over line ends that a backslash takes away. -/
private def joined : List Char → Nat → List Char × Nat
  | '\\' :: '\n' :: r, l => joined r (l + 1)
  | cs, l => (cs, l)

/-- The next character, where lines are joined. -/
def peek? : Reader (Option Char) := do
  let s ← get
  let (rest, line) := joined s.rest s.line
  set { s with rest, line }
  return rest.head?

/-- Takes a character if it comes next. -/
def taken (c : Char) : Reader Bool := do
  if (← peek?) = some c then
    skip 1
    return true
  else return false

/-- Passes over blanks and comments. -/
private def afterBlanks (comment : Bool) : List Char → Nat → List Char × Nat
  | [], l => ([], l)
  | '\n' :: r, l => ('\n' :: r, l)
  | '\\' :: '\n' :: r, l => if comment then ('\n' :: r, l) else afterBlanks false r (l + 1)
  | c :: r, l =>
    if comment || c == '#' then afterBlanks true r l
    else if c == ' ' || c == '\t' then afterBlanks false r l
    else (c :: r, l)

/-- Passes over blanks, and tells whether an alias ended among them whose text has a blank at its end. -/
def skipBlanks : Reader Bool := do
  let s ← get
  let (rest, line) := afterBlanks false s.rest s.line
  set { s with rest, line }
  return s.expanding.any fun e => e.endsBlank && e.ending < s.rest.length && rest.length ≤ e.ending

/-- The longest run of characters of a kind, where lines are joined. -/
def takeRun (kind : Char → Bool) : Nat → Reader (List Char)
  | 0 => return []
  | n + 1 => do
    match ← peek? with
    | some c =>
      if kind c then
        skip 1
        return c :: (← takeRun kind n)
      else return []
    | none => return []

/-- Puts the text of an alias in place of its name, unless it is under way already. -/
def expandAlias (name : String) : Reader Bool := do
  let s ← get
  match s.aliases.lookup name with
  | none => return false
  | some text =>
    if s.expanding.any fun e => e.name = name && e.ending ≤ s.rest.length then return false
    let expanding := s.expanding.filter fun e => e.ending ≤ s.rest.length
    let endsBlank := text.toList.getLast?.any fun c => c == ' ' || c == '\t'
    set { s with
      rest := text.toList ++ s.rest
      expanding := if text = "" then expanding else ⟨name, s.rest.length, endsBlank⟩ :: expanding }
    return true

/-! ## Here-documents -/

/-- Whether a line goes on with the next one, because it ends with a backslash that stands for itself. -/
private def goesOn (line : List Char) : Bool := (line.reverse.takeWhile (· == '\\')).length % 2 = 1

/-- The text of the lines before the one that is the mark, what is left behind that, and how many lines were read. -/
private def hereLines (h : Here) (joins : Bool) : List (List Char) → List Char × List (List Char) × Nat
  | [] => ([], [], 0)
  | l :: ls =>
    let line := if h.stripsTabs && !joins then l.dropWhile (· == '\t') else l
    if line = h.mark && !joins then ([], ls, if ls = [] then 0 else 1)
    else if ls = [] then (line, [], 0)
    else
      let (body, rest, n) := hereLines h (!h.isLiteral && goesOn line) ls
      (line ++ '\n' :: body, rest, n + 1)

/-- Cuts the text of a here-document off, and gives it with the line it starts in. -/
def takeHere (h : Here) : Reader (List Char × Nat) := do
  let s ← get
  let (body, rest, n) := hereLines h false (Text.pieces (· == '\n') s.rest)
  set { s with rest := ['\n'].intercalate rest, line := s.line + n }
  return (body, s.line)

end Reader

end HookGate.Shell
