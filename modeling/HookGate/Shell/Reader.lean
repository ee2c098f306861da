import HookGate.Shell.Token
import HookGate.Text.Utf8

/-! # Reading shell scripts

A script is read line by line, so that what stands before a fault can run. `nextLine?` reads the items of a line with
all the lines that belong to them. A line with here-documents is read twice: first to find their texts, and then with
each text in its place. -/
namespace HookGate.Shell

namespace Reader

/-- The characters up to a single quote. -/
private def singleQuoted : Reader Part := do
  let rest := (← get).rest
  let body := rest.takeWhile (· != '\'')
  if rest.length = body.length then fail .openQuote
  skip (body.length + 1)
  return .text true (String.ofList body)

/-- The script between backquotes, with its escapes undone, and how many characters it takes. -/
private def backquoted (quoted : Bool) : List Char → List Char → Option (List Char × Nat)
  | _, [] => none
  | acc, '\\' :: '\n' :: r => (backquoted quoted acc r).map fun (cs, n) => (cs, n + 2)
  | acc, '\\' :: c :: r =>
    let kept := if c == '\\' || c == backquote || c == '$' || (quoted && c == '"') then [c] else [c, '\\']
    (backquoted quoted (kept ++ acc) r).map fun (cs, n) => (cs, n + 2)
  | acc, c :: r =>
    if c == backquote then some (acc.reverse, 1) else (backquoted quoted (c :: acc) r).map fun (cs, n) => (cs, n + 1)

private def isSpecial (c : Char) : Bool := c.isDigit || ['@', '*', '#', '?', '$', '!', '-'].contains c

/-- How the text of a word is bounded. -/
private inductive Ending
  | word
  /-- The end of the mark of a here-document. -/
  | mark
  /-- A double quote. -/
  | quote
  /-- A closing brace; `quoted` if the expansion stands in double quotes, and `here` if it does in a here-document. -/
  | brace (quoted here : Bool)
  /-- Two closing parentheses. -/
  | parentheses
  /-- The end of the text. -/
  | text
deriving DecidableEq

namespace Ending

private def isQuoted : Ending → Bool
  | word | mark => false
  | brace quoted _ => quoted
  | quote | parentheses | text => true

private def isHere : Ending → Bool
  | text => true
  | brace _ here => here
  | _ => false

/-- What is wrong where a text ends too early, if anything is. -/
private def fault? : Ending → Option Fault
  | word | mark | text => none
  | parentheses => some .openArithmetic
  | quote | brace true false => some .openQuote
  | brace _ _ => some .openExpansion

/-- Whether a backslash takes the meaning from a character; it stays where it is if not. -/
private def escapes (e : Ending) (c : Char) : Bool :=
  !e.isQuoted || ['$', '\\', backquote].contains c || (c == '"' && e ≠ text) || (c == '\x7d' && e matches brace _ _)

end Ending

/-- The characters that mean nothing else in any word. -/
private def isOrdinary (c : Char) : Bool :=
  !(endsWord c || ['\\', '\'', '"', '$', '\x7b', '\x7d', backquote].contains c)

/-- A text in front of a word. -/
private def prepend (quoted : Bool) (s : String) : Word → Word
  | .text q t :: rest => if q = quoted then .text q (s ++ t) :: rest else .text quoted s :: .text q t :: rest
  | w => .text quoted s :: w

/-- A word in double quotes, which counts even if it is empty; all arguments on their own may be none. -/
private def inQuotes : Word → Word
  | [.parameter true "@" .plain] => [.parameter true "@" .plain]
  | w => prepend true "" w

/-- The use of a parameter that an operator in braces names, and whether its word is read as in quotes. -/
private def useOf? (quoted : Bool) : List Char → Option ((Word → Use) × Nat × Bool)
  | ':' :: '-' :: _ => some (.default .empty, 2, quoted)
  | ':' :: '=' :: _ => some (.assign .empty, 2, quoted)
  | ':' :: '?' :: _ => some (.require .empty, 2, quoted)
  | ':' :: '+' :: _ => some (.alternative .empty, 2, quoted)
  | '-' :: _ => some (.default .unset, 1, quoted)
  | '=' :: _ => some (.assign .unset, 1, quoted)
  | '?' :: _ => some (.require .unset, 1, quoted)
  | '+' :: _ => some (.alternative .unset, 1, quoted)
  | '#' :: '#' :: _ => some (.trimStart true, 2, false)
  | '#' :: _ => some (.trimStart false, 1, false)
  | '%' :: '%' :: _ => some (.trimEnd true, 2, false)
  | '%' :: _ => some (.trimEnd false, 1, false)
  | _ => none

/-- The kind of a redirection, and whether tabs are taken off its text. -/
private def redirectionKind : Reader (RedirectKind × Bool) := do
  if ← taken '<' then
    if ← taken '<' then return (.here, ← taken '-')
    else if ← taken '&' then return (.duplicate, false)
    else if ← taken '>' then return (.both, false)
    else return (.input, false)
  else
    skip 1
    if ← taken '>' then return (.append, false)
    else if ← taken '|' then return (.clobber, false)
    else if ← taken '&' then return (.duplicate, false)
    else return (.output, false)

/-- The plain text of the mark of a here-document, and whether any of it is quoted. -/
private def markOf (w : Word) : List Char × Bool :=
  (w.flatMap fun | .text _ s => s.toList | _ => [], w.any fun | .text quoted _ => quoted | _ => false)

/-- Reads some text on its own, and goes on behind it. -/
private def aside {α : Type} (text : List Char) (line : Nat) (r : Reader α) : Reader α := do
  let s ← get
  set { s with rest := text, line, expanding := [], awaited := [] }
  let a ← r
  modify fun t => { t with
    rest := s.rest, line := s.line, expanding := s.expanding, awaited := s.awaited, isPushed := false }
  return a

private def pushBack : Reader Unit := modify fun s => { s with isPushed := true }

mutual

/-- The parts of a text up to its end, which is left where it stands. `apart` tells whether quotes inside of braces are
open, and `depth` how many parentheses are. -/
private def parts : Nat → Ending → Bool → Nat → Reader Word
  | 0, _, _, _ => unexpected none
  | n + 1, ending, apart, depth => do
    let quoted := ending.isQuoted
    match ← peek? with
    | none =>
      match ending.fault? with
      | none => return []
      | some f => fail f
    | some c =>
      let ordinary : Reader Word := do
        skip 1
        let run ← takeRun isOrdinary (← get).rest.length
        return prepend quoted (String.ofList (c :: run)) (← parts n ending apart depth)
      if isOrdinary c then ordinary
      else match c with
      | '\\' =>
        skip 1
        match (← get).rest with
        | [] => return [.text true "\\"]
        | c :: _ =>
          skip 1
          let text := String.ofList (if ending.escapes c then [c] else ['\\', c])
          return prepend true text (← parts n ending apart depth)
      | '\'' =>
        if quoted then ordinary
        else
          skip 1
          return (← singleQuoted) :: (← parts n ending apart depth)
      | '"' =>
        match ending with
        | .quote => return []
        | .parentheses | .text => ordinary
        | .brace true _ =>
          skip 1
          return prepend true "" (← parts n ending (!apart) depth)
        | _ =>
          skip 1
          let inner ← parts n .quote false 0
          skip 1
          return inQuotes inner ++ (← parts n ending apart depth)
      | '$' =>
        skip 1
        if ending = .mark then return prepend false "$" (← parts n ending apart depth)
        match ← dollar n ending with
        | .text q s => return prepend q s (← parts n ending apart depth)
        | p => return p :: (← parts n ending apart depth)
      | '\x7d' =>
        match ending, apart with
        | .brace _ _, false => return []
        | _, _ => ordinary
      | _ =>
        if c == backquote && ending ≠ .mark then
          match backquoted quoted [] ((← get).rest.drop 1) with
          | none => fail .openCommand
          | some (body, width) =>
            let script ← aside body (← get).commandLine (list n true)
            skip (1 + width)
            return .output quoted script :: (← parts n ending apart depth)
        else if endsWord c && (ending = .word || ending = .mark) then return []
        else if ending = .parentheses && c == '(' then
          skip 1
          return prepend quoted "(" (← parts n ending apart (depth + 1))
        else if ending = .parentheses && c == ')' then
          skip 1
          if depth > 0 then return prepend quoted ")" (← parts n ending apart (depth - 1))
          else if ← taken ')' then return []
          else return prepend quoted ")" (← parts n ending apart depth)
        else ordinary

/-- What stands behind a dollar sign. -/
private def dollar : Nat → Ending → Reader Part
  | 0, _ => unexpected none
  | n + 1, ending => do
    let quoted := ending.isQuoted
    match ← peek? with
    | some '(' =>
      skip 1
      if ← taken '(' then return .arithmetic quoted (← parts n .parentheses false 0)
      else
        let awaited := (← get).awaited
        modify fun s => { s with awaited := [] }
        let script ← list n true
        if (← nextToken n) ≠ .closeParen then unexpected (some .closeParen)
        for h in (← get).awaited do learn h []
        modify fun s => { s with awaited, isPushed := false }
        return .output quoted script
    | some '\x7b' =>
      skip 1
      braced n ending
    | some c =>
      if isNameStart c then return .parameter quoted (String.ofList (← takeRun isNameChar (← get).rest.length)) .plain
      else if isSpecial c then
        skip 1
        return .parameter quoted (String.ofList [c]) .plain
      else return .text quoted "$"
    | none => return .text quoted "$"

/-- An expansion in braces, behind the opening one. -/
private def braced : Nat → Ending → Reader Part
  | 0, _ => unexpected none
  | n + 1, ending => do
    let quoted := ending.isQuoted
    let close (name : String) (use : Word → Use) (inQuotes : Bool) : Reader Part := do
      let word ← parts n (.brace inQuotes ending.isHere) false 0
      skip 1
      return .parameter quoted name (use word)
    let bad : Reader Part := close "" (fun _ => .bad) quoted
    let behind (name : String) : Reader Part := do
      match ← peek? with
      | some '\x7d' =>
        skip 1
        return .parameter quoted name .plain
      | _ =>
        let rest := (← get).rest
        match useOf? quoted rest with
        | some (use, width, inQuotes) =>
          skip width
          close name use inQuotes
        | none =>
          if ← taken ':' then
            if ← taken '\x7d' then return .parameter quoted name .plain
          skip 1
          bad
    let length (name : String) : Reader Part := do
      if ← taken '\x7d' then return .parameter quoted name .length else bad
    match ← peek? with
    | some '#' =>
      skip 1
      match ← peek? with
      | some c =>
        if isNameStart c then length (String.ofList (← takeRun isNameChar (← get).rest.length))
        else if c.isDigit then
          skip 1
          length (String.ofList [c])
        else if c ≠ '\x7d' && ((← get).rest.drop 1).head? = some '\x7d' then
          if isSpecial c then
            skip 2
            return .parameter quoted (String.ofList [c]) .length
          else
            skip 1
            bad
        else behind "#"
      | none => behind "#"
    | some c =>
      if isNameStart c then behind (String.ofList (← takeRun isNameChar (← get).rest.length))
      else if c.isDigit then behind (String.ofList (← takeRun Char.isDigit (← get).rest.length))
      else if isSpecial c then
        skip 1
        behind (String.ofList [c])
      else if c = '\x7d' then bad
      else
        skip 1
        bad
    | none => bad

/-- The next token behind the last one. -/
private def freshToken : Nat → Ending → Reader Token
  | 0, _ => return .endOfFile
  | n + 1, ending => do
    match ← peek? with
    | none => return .endOfFile
    | some '\n' =>
      skip 1
      return .newline
    | some '&' =>
      skip 1
      return if ← taken '&' then .and else .ampersand
    | some '|' =>
      skip 1
      return if ← taken '|' then .or else .bar
    | some ';' =>
      skip 1
      return if ← taken ';' then .endCase else .semicolon
    | some '(' =>
      skip 1
      return .openParen
    | some ')' =>
      skip 1
      return .closeParen
    | some _ =>
      let word ← parts n ending false 0
      let digit? : Option Nat := match Part.literal? word with
        | some s => if s.length = 1 then s.toNat? else none
        | none => none
      let c? ← peek?
      if (c? = some '<' || c? = some '>') && (word.isEmpty || digit?.isSome) then
        let usual := if c? = some '<' then 0 else 1
        let (kind, stripsTabs) ← redirectionKind
        modify fun s => { s with redirection := (digit?.getD usual, kind, stripsTabs) }
        return .redirection
      else
        modify fun s => { s with word }
        return .word

/-- The next token; `lines` passes over line ends, `reserved` looks for reserved words and `aliases` for aliases. -/
private def token : Nat → Bool → Bool → Bool → Ending → Reader Token
  | 0, _, _, _, _ => return .endOfFile
  | n + 1, lines, reserved, aliases, ending => do
    let s ← get
    let aliases ←
      if s.isPushed then
        set { s with isPushed := false }
        pure aliases
      else
        let owed ← skipBlanks
        let t ← freshToken n ending
        modify fun s => { s with last := t }
        pure (aliases || owed)
    match (← get).last with
    | .newline =>
      if lines then
        readHeres n
        token n lines reserved aliases ending
      else return .newline
    | .word =>
      match Part.literal? (← get).word with
      | none => return .word
      | some w =>
        if reserved && Token.reservedWords.contains w then
          modify fun s => { s with last := .reserved w }
          return .reserved w
        else
          let isExpanded ← if aliases then expandAlias w else pure false
          if isExpanded then token n lines reserved aliases ending else return .word
    | t => return t

private def nextToken : Nat → Reader Token
  | 0 => return .endOfFile
  | n + 1 => token n false false false .word

/-- The next token where a command may start. -/
private def firstToken : Nat → Bool → Reader Token
  | 0, _ => return .endOfFile
  | n + 1, lines => token n lines true true .word

/-- Takes down the text of a here-document. -/
private def learn (h : Here) (w : Word) : Reader Unit := modify fun s => { s with known := (h.index, w) :: s.known }

/-- Reads the texts of the here-documents that are awaited. -/
private def readHeres : Nat → Reader Unit
  | 0 => return ()
  | n + 1 => do
    match (← get).awaited with
    | [] => return ()
    | h :: hs =>
      modify fun s => { s with awaited := hs }
      let (body, line) ← takeHere h
      if h.isLiteral then learn h [.text true (String.ofList body)]
      else learn h (prepend true "" (← aside body line (parts n .text false 0)))
      readHeres n

/-- What a redirection leads to. -/
private def target : Nat → Reader Redirect
  | 0 => unexpected none
  | n + 1 => do
    let (descriptor, kind, stripsTabs) := (← get).redirection
    if (← token n false false false (if kind = .here then .mark else .word)) ≠ .word then unexpected none
    let s ← get
    if kind = .here then
      let (mark, isLiteral) := markOf s.word
      let h : Here := { index := s.heres, mark, isLiteral, stripsTabs }
      set { s with awaited := s.awaited ++ [h], heres := s.heres + 1 }
      return .mk descriptor .here ((s.known.lookup s.heres).getD [])
    else return .mk descriptor kind s.word

private def redirects : Nat → Reader (List Redirect)
  | 0 => return []
  | n + 1 => do
    if (← nextToken n) = .redirection then return (← target n) :: (← redirects n)
    else
      pushBack
      return []

/-- A command of words, which may turn out to be the definition of a function. -/
private def simple : Nat → Nat → List (String × Word) → List Word → List Redirect → Reader Command
  | 0, _, _, _, _ => unexpected none
  | n + 1, line, assignments, ws, rs => do
    match ← token n false false ws.isEmpty .word with
    | .word =>
      let w := (← get).word
      match if ws.isEmpty then Part.assignment? w else none with
      | some a => simple n line (a :: assignments) ws rs
      | none => simple n line assignments (w :: ws) rs
    | .redirection => simple n line assignments ws ((← target n) :: rs)
    | t =>
      match t, ws, assignments, rs with
      | .openParen, [w], [], [] =>
        if (← nextToken n) ≠ .closeParen then unexpected (some .closeParen)
        match Part.literal? w with
        | some name =>
          if !isName name || specialCommands.contains name then fail .badFunction
          let _ ← firstToken n true
          pushBack
          return .define name (← command n)
        | none => fail .badFunction
      | _, _, _, _ =>
        pushBack
        return .simple line assignments.reverse ws.reverse rs.reverse

/-- The words of a loop. -/
private def words : Nat → Reader (List Word)
  | 0 => return []
  | n + 1 => do
    if (← nextToken n) = .word then
      let w := (← get).word
      return w :: (← words n)
    else return []

/-- The patterns of a branch, up to the closing parenthesis; the first one is read already. -/
private def patterns : Nat → Reader (List Word)
  | 0 => unexpected none
  | n + 1 => do
    let p := (← get).word
    if (← nextToken n) = .bar then
      let _ ← nextToken n
      return p :: (← patterns n)
    else
      if (← get).last ≠ .closeParen then unexpected (some .closeParen)
      return [p]

/-- The branches of a choice. -/
private def cases : Nat → Reader (List (List Word × Script))
  | 0 => unexpected none
  | n + 1 => do
    let t ← token n true true false .word
    if t = .reserved "esac" then return []
    if t = .openParen then let _ ← nextToken n
    let ps ← patterns n
    let body ← list n true
    let t ← token n true true false .word
    if t = .reserved "esac" then return [(ps, body)]
    if t ≠ .endCase then unexpected (some .endCase)
    return (ps, body) :: (← cases n)

/-- The branches after `if` or `elif`, up to the end of the last one. -/
private def branches : Nat → Reader (List (Script × Script) × Script)
  | 0 => unexpected none
  | n + 1 => do
    let condition ← list n false
    expect n "then"
    let body ← list n false
    match ← nextToken n with
    | .reserved "elif" =>
      let (more, otherwise) ← branches n
      return ((condition, body) :: more, otherwise)
    | .reserved "else" => return ([(condition, body)], ← list n false)
    | _ =>
      pushBack
      return ([(condition, body)], [])

/-- Takes a reserved word. -/
private def expect : Nat → String → Reader Unit
  | 0, _ => unexpected none
  | n + 1, w => do
    if (← nextToken n) ≠ .reserved w then unexpected (some (.reserved w))

/-- The command with the redirections behind it. -/
private def redirected : Nat → Nat → Command → Reader Command
  | 0, _, c => return c
  | n + 1, line, c => do
    let owed ← token n false true true .word
    pushBack
    if owed ≠ .redirection then return c
    match ← redirects n with
    | [] => return c
    | rs => return .redirected line c rs

private def command : Nat → Reader Command
  | 0 => unexpected none
  | n + 1 => do
    let line := (← get).line
    match ← nextToken n with
    | .reserved "if" =>
      let (bs, otherwise) ← branches n
      expect n "fi"
      redirected n line (.conditional bs otherwise)
    | .reserved "while" => loop n line false
    | .reserved "until" => loop n line true
    | .reserved "for" =>
      let t ← nextToken n
      match t, Part.literal? (← get).word with
      | .word, some name =>
        if !isName name then fail .badVariable
        let listed ← if (← firstToken n true) = .reserved "in" then do
            let ws ← words n
            let t := (← get).last
            if t ≠ .newline ∧ t ≠ .semicolon then unexpected none
            pure (some ws)
          else do
            if (← get).last ≠ .semicolon then pushBack
            pure none
        if (← firstToken n true) ≠ .reserved "do" then unexpected (some (.reserved "do"))
        let body ← list n false
        expect n "done"
        redirected n line (.each line name listed body)
      | _, _ => fail .badVariable
    | .reserved "case" =>
      if (← nextToken n) ≠ .word then unexpected (some .word)
      let subject := (← get).word
      if (← firstToken n true) ≠ .reserved "in" then unexpected (some (.reserved "in"))
      let cs ← cases n
      redirected n line (.select line subject cs)
    | .openParen =>
      let body ← list n false
      if (← nextToken n) ≠ .closeParen then unexpected (some .closeParen)
      redirected n line (.subshell line body)
    | .reserved "\x7b" =>
      let body ← list n false
      expect n "\x7d"
      redirected n line (.group body)
    | .word | .redirection =>
      pushBack
      simple n (← get).line [] [] []
    | _ => unexpected none

/-- What follows `while` or `until`. -/
private def loop : Nat → Nat → Bool → Reader Command
  | 0, _, _ => unexpected none
  | n + 1, line, isUntil => do
    let condition ← list n false
    expect n "do"
    let body ← list n false
    expect n "done"
    redirected n line (.loop isUntil condition body)

private def stages : Nat → Reader (List Command)
  | 0 => unexpected none
  | n + 1 => do
    let c ← command n
    if (← nextToken n) = .bar then
      let _ ← firstToken n true
      pushBack
      return c :: (← stages n)
    else
      pushBack
      return [c]

private def pipeline : Nat → Reader Pipeline
  | 0 => unexpected none
  | n + 1 => do
    if (← nextToken n) = .reserved "!" then
      let _ ← firstToken n false
      pushBack
      return .mk true (← stages n)
    else
      pushBack
      return .mk false (← stages n)

private def chain : Nat → Reader (List (Connective × Pipeline))
  | 0 => unexpected none
  | n + 1 => do
    let more (c : Connective) : Reader (List (Connective × Pipeline)) := do
      let _ ← firstToken n true
      pushBack
      let p ← pipeline n
      return (c, p) :: (← chain n)
    match ← nextToken n with
    | .and => more .and
    | .or => more .or
    | _ =>
      pushBack
      return []

/-- The items up to a token that ends a list, which is left where it stands. -/
private def list : Nat → Bool → Reader Script
  | 0, _ => unexpected none
  | n + 1, mayEnd => do
    let t ← firstToken n true
    if t = .endOfFile then readHeres n
    pushBack
    if t = .endOfFile then return []
    if mayEnd && t.endsList then return []
    let first ← pipeline n
    let more ← chain n
    let t ← nextToken n
    let i := Item.mk first more (t = .ampersand)
    match t with
    | .ampersand | .semicolon => return i :: (← list n true)
    | .newline =>
      pushBack
      return i :: (← list n true)
    | t =>
      if t = .endOfFile then readHeres n
      pushBack
      return [i]

end

/-- The items of one line, up to its end. -/
private def line : Nat → Reader Script
  | 0 => return []
  | n + 1 => do
    match ← firstToken n false with
    | .newline | .endOfFile =>
      readHeres n
      return []
    | _ =>
      pushBack
      let first ← pipeline n
      let more ← chain n
      let t ← nextToken n
      let i := Item.mk first more (t = .ampersand)
      match t with
      | .ampersand | .semicolon => return i :: (← line n)
      | .newline | .endOfFile =>
        readHeres n
        return [i]
      | _ => unexpected none

/-- The word that a text makes up in which expansions count and quotes do not, as in a here-document. -/
def wordOf (text : Text.Octets) (line : Nat) : Except SyntaxError Word :=
  let n := 16 * text.length + 64
  (parts n .text false 0 { rest := text.toList, line, commandLine := line }).map Prod.fst

end Reader

/-- The items of the next line, and the source behind it; `commandLine` is the line of the command that runs. -/
def Source.nextLine? (aliases : List (String × String)) (commandLine : Nat) (s : Source) :
    Except SyntaxError (Option (Script × Source)) :=
  if s.rest.isEmpty then return none
  else do
    let n := 16 * s.rest.length + (if aliases.isEmpty then 64 else 1000000)
    let start : Reading := { rest := s.rest, line := s.line, commandLine, aliases }
    let (script, reading) ← Reader.line n start
    let source : Source := ⟨reading.rest, reading.line⟩
    if reading.heres = 0 then return some (script, source)
    else return some ((← Reader.line n { start with known := reading.known }).1, source)

end HookGate.Shell
