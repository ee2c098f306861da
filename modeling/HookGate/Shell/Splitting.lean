/-! # Splitting a command line

A line falls into words at blanks and line ends. Nothing is expanded, so what a shell does to words beyond quotes and
backslashes is left out. A hash sign where a word could begin opens a comment. -/
namespace HookGate.Shell

/-- What the next character of a line means. -/
inductive Context
  /-- No word is under way. -/
  | between
  | comment
  | bare
  /-- Behind a backslash. -/
  | escaped
  | single
  | double
  /-- Behind a backslash in double quotes. -/
  | doubleEscaped
deriving Repr, DecidableEq

/-- Whether a character outside quotes ends a word. -/
def endsWord (c : Char) : Bool := c == ' ' || c == '\t' || c == '\n'

/-- Whether a backslash in double quotes takes the meaning of a character away. -/
def isEscapable (c : Char) : Bool := c == '$' || c == Char.ofNat 0x60 || c == '"' || c == '\\'

/-- Takes up a character of a word outside quotes; the word is reversed. -/
def takeBare (word : List Char) (c : Char) : Context × List Char :=
  if c = '\'' then (.single, word)
  else if c = '"' then (.double, word)
  else if c = '\\' then (.escaped, word)
  else (.bare, c :: word)

/-- The words of what is left of a line. The word under way is reversed; a quote or a backslash that is left open
gives no words at all. -/
def splitFrom : Context → (word : List Char) → List Char → Option (List (List Char))
  | .between, _, [] | .comment, _, [] => some []
  | .bare, word, [] => some [word.reverse]
  | .escaped, _, [] | .single, _, [] | .double, _, [] | .doubleEscaped, _, [] => none
  | .between, word, c :: cs =>
    if endsWord c then splitFrom .between word cs
    else if c = '#' then splitFrom .comment word cs
    else splitFrom (takeBare [] c).1 (takeBare [] c).2 cs
  | .comment, word, c :: cs => splitFrom (if c = '\n' then .between else .comment) word cs
  | .bare, word, c :: cs =>
    if endsWord c then (splitFrom .between [] cs).map (word.reverse :: ·)
    else splitFrom (takeBare word c).1 (takeBare word c).2 cs
  | .escaped, word, c :: cs => splitFrom .bare (if c = '\n' then word else c :: word) cs
  | .single, word, c :: cs => if c = '\'' then splitFrom .bare word cs else splitFrom .single (c :: word) cs
  | .double, word, c :: cs =>
    if c = '"' then splitFrom .bare word cs
    else if c = '\\' then splitFrom .doubleEscaped word cs
    else splitFrom .double (c :: word) cs
  | .doubleEscaped, word, c :: cs =>
    if isEscapable c then splitFrom .double (c :: word) cs
    else if c = '\n' then splitFrom .double word cs
    else splitFrom .double (c :: '\\' :: word) cs

/-- The words of a line. -/
def splitWords? (line : String) : Option (List String) :=
  (splitFrom .between [] line.toList).map (List.map String.ofList)

end HookGate.Shell
