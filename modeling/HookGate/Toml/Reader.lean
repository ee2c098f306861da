import HookGate.Toml.Scalar
import HookGate.Toml.Tree

/-! # Reading TOML -/
namespace HookGate.Toml

abbrev Reader := StateT (List Char) (Except Error)

namespace Reader

private def fail {α : Type} (e : Error) : Reader α := fun _ => .error e

private def peek : Reader (Option Char) := return (← get).head?

private def bump : Reader Unit := modify (·.drop 1)

/-- Passes over spaces and tabs. -/
private def skipSpace : Reader Unit := modify (·.dropWhile fun c => c = ' ' || c = '\t')

private def expect (c : Char) : Reader Unit := do
  if (← peek) = some c then bump else fail .badSyntax

/-- A character that may stand in a comment, and but for its quotes in a string. -/
private def isPlain (c : Char) : Bool := c = '\t' || (0x20 ≤ c.toNat && c.toNat ≠ 0x7F)

/-- What follows a line end at the front. -/
private def lineEnd? : List Char → Option (List Char)
  | '\n' :: r => some r
  | '\r' :: '\n' :: r => some r
  | _ => none

/-- Passes over a comment, if there is one. -/
private def skipComment : Reader Unit := modify fun cs =>
  match cs with
  | '#' :: r => r.dropWhile isPlain
  | cs => cs

/-- Reads the rest of a line on which nothing more may stand. -/
private def restOfLine : Reader Unit := do
  skipSpace
  skipComment
  match ← get with
  | [] => return ()
  | cs => match lineEnd? cs with
    | some r => modify fun _ => r
    | none => fail .badSyntax

/-- Passes over spaces, line ends and comments. -/
private def skipLines : Nat → Reader Unit
  | 0 => return ()
  | fuel + 1 => do
    skipSpace
    skipComment
    match lineEnd? (← get) with
    | some r =>
      modify fun _ => r
      skipLines fuel
    | none => return ()

private def skipAllLines : Reader Unit := do skipLines ((← get).length + 1)

/-! ## Strings -/

private def hexValue? (c : Char) : Option Nat :=
  if '0' ≤ c ∧ c ≤ '9' then some (c.toNat - 48)
  else if 'a' ≤ c ∧ c ≤ 'f' then some (c.toNat - 87)
  else if 'A' ≤ c ∧ c ≤ 'F' then some (c.toNat - 55)
  else none

/-- Reads a code point of a number of hexadecimal digits. -/
private def codePoint (digits : Nat) : Reader Char := do
  let cs ← get
  match (cs.take digits).mapM hexValue? with
  | some vs =>
    let n := vs.foldl (fun n v => 16 * n + v) 0
    if vs.length = digits ∧ (n < 0xD800 ∨ (0xE000 ≤ n ∧ n < 0x110000)) then
      modify (·.drop digits)
      return Char.ofNat n
    else fail .badSyntax
  | none => fail .badSyntax

/-- Reads what stands behind a backslash. -/
private def escape : Reader Char := do
  match ← get with
  | 'b' :: r => modify (fun _ => r); return '\x08'
  | 't' :: r => modify (fun _ => r); return '\t'
  | 'n' :: r => modify (fun _ => r); return '\n'
  | 'f' :: r => modify (fun _ => r); return '\x0c'
  | 'r' :: r => modify (fun _ => r); return '\r'
  | '"' :: r => modify (fun _ => r); return '"'
  | '\\' :: r => modify (fun _ => r); return '\\'
  | 'u' :: r => modify (fun _ => r); codePoint 4
  | 'U' :: r => modify (fun _ => r); codePoint 8
  | _ => fail .badSyntax

/-- Reads a string on one line behind its opening quote; `seen` is reversed. -/
private def lineString (quote : Char) : Nat → List Char → Reader String
  | 0, _ => fail .badSyntax
  | fuel + 1, seen => do
    match ← get with
    | [] => fail .badSyntax
    | c :: r =>
      modify fun _ => r
      if c = quote then return String.ofList seen.reverse
      else if c = '\\' ∧ quote = '"' then lineString quote fuel ((← escape) :: seen)
      else if isPlain c then lineString quote fuel (c :: seen)
      else fail .badSyntax

/-- Passes over blanks and line ends. -/
private def skipBlankLines : Nat → List Char → List Char
  | 0, cs => cs
  | fuel + 1, cs =>
    match cs with
    | ' ' :: r | '\t' :: r => skipBlankLines fuel r
    | _ => match lineEnd? cs with
      | some r => skipBlankLines fuel r
      | none => cs

/-- What follows a backslash at the end of a line and the blanks behind it. -/
private def joinedLine? (cs : List Char) : Option (List Char) :=
  let r := cs.dropWhile fun c => c = ' ' || c = '\t'
  (lineEnd? r).map fun r => skipBlankLines (r.length + 1) r

/-- Reads a string over several lines behind its opening quotes: up to two quotes may stand before the closing ones. -/
private def linesString (quote : Char) : Nat → List Char → Reader String
  | 0, _ => fail .badSyntax
  | fuel + 1, seen => do
    match ← get with
    | [] => fail .badSyntax
    | c :: r =>
      if c = quote then
        let run := (c :: r).takeWhile (· = quote)
        let n := run.length
        if n < 3 then
          modify (·.drop n)
          linesString quote fuel (List.replicate n quote ++ seen)
        else if n ≤ 5 then
          modify (·.drop n)
          return String.ofList (List.replicate (n - 3) quote ++ seen).reverse
        else fail .badSyntax
      else if c = '\\' ∧ quote = '"' then
        match joinedLine? r with
        | some r' =>
          modify fun _ => r'
          linesString quote fuel seen
        | none =>
          modify fun _ => r
          linesString quote fuel ((← escape) :: seen)
      else match lineEnd? (c :: r) with
        | some r' =>
          modify fun _ => r'
          linesString quote fuel ('\n' :: seen)
        | none =>
          if isPlain c then
            modify fun _ => r
            linesString quote fuel (c :: seen)
          else fail .badSyntax

/-- Reads a string at its opening quote. -/
private def string (quote : Char) : Reader String := do
  let cs ← get
  let fuel := cs.length + 1
  match cs with
  | _ :: b :: c :: r =>
    if b = quote ∧ c = quote then
      modify fun _ => (lineEnd? r).getD r
      linesString quote fuel []
    else
      bump
      lineString quote fuel []
  | _ =>
    bump
    lineString quote fuel []

/-! ## Keys and values -/

private def isBare (c : Char) : Bool := c.isAlphanum || c = '_' || c = '-'

private def keyPart : Reader String := do
  match ← peek with
  | some '"' => bump; lineString '"' ((← get).length + 1) []
  | some '\'' => bump; lineString '\'' ((← get).length + 1) []
  | _ =>
    let cs ← get
    match cs.takeWhile isBare with
    | [] => fail .badSyntax
    | k =>
      modify (·.drop k.length)
      return String.ofList k

/-- Reads the parts of a key. -/
private def keyParts : Nat → Reader (List String)
  | 0 => fail .badSyntax
  | fuel + 1 => do
    skipSpace
    let k ← keyPart
    skipSpace
    if (← peek) = some '.' then
      bump
      return k :: (← keyParts fuel)
    else return [k]

/-- How deep arrays, inline tables and the parts of a key may go. -/
def depthLimit : Nat := 80

/-- Reads a key: the parts before the last one, and the last one. -/
private def key : Reader (List String × String) := do
  let ks ← keyParts ((← get).length + 1)
  if depthLimit ≤ ks.length then fail .tooDeep
  else return (ks.dropLast, ks.getLastD "")

mutual

private def value : Nat → Nat → Reader Tree
  | 0, _ => fail .badSyntax
  | fuel + 1, depth => do
    match ← peek with
    | some '"' => return .leaf (.string (← string '"'))
    | some '\'' => return .leaf (.string (← string '\''))
    | some '[' =>
      if depthLimit ≤ depth + 1 then fail .tooDeep
      bump
      return .leaf (.array (← items fuel (depth + 1)))
    | some '\x7b' =>
      if depthLimit ≤ depth + 1 then fail .tooDeep
      bump
      skipSpace
      if (← peek) = some '\x7d' then
        bump
        return .leaf (.table [])
      else
        let t ← members fuel (depth + 1) (.table .header [])
        return .leaf t.toValue
    | _ =>
      let (run, rest) := Scalar.split (← get)
      match Scalar.ofChars? run with
      | .ok v =>
        modify fun _ => rest
        return .leaf v
      | .error e => fail e

/-- Reads the items of an array up to its closing bracket. -/
private def items : Nat → Nat → Reader (List Value)
  | 0, _ => fail .badSyntax
  | fuel + 1, depth => do
    skipAllLines
    if (← peek) = some ']' then
      bump
      return []
    let v ← value fuel depth
    skipAllLines
    match ← peek with
    | some ',' =>
      bump
      return v.toValue :: (← items fuel depth)
    | some ']' =>
      bump
      return [v.toValue]
    | _ => fail .badSyntax

/-- Reads the members of an inline table up to its closing brace. -/
private def members : Nat → Nat → Tree → Reader Tree
  | 0, _, _ => fail .badSyntax
  | fuel + 1, depth, t => do
    let (path, k) ← key
    expect '='
    skipSpace
    let v ← value fuel depth
    skipSpace
    match Tree.setKey path k v t with
    | .error e => fail e
    | .ok t =>
      match ← peek with
      | some ',' =>
        bump
        members fuel depth t
      | some '\x7d' =>
        bump
        return t
      | _ => fail .badSyntax

end

/-! ## Documents -/

/-- A document as far as it is read, with the path of the last header. -/
private structure Draft where
  tree : Tree := .table .header []
  header : List String := []

private def Draft.change (d : Draft) (header : List String) (f : Tree → Except Error Tree) : Reader Draft :=
  match f d.tree with
  | .ok tree => return ⟨tree, header⟩
  | .error e => fail e

/-- Reads a header, a key with its value, or nothing, up to the end of the line. -/
private def statement (d : Draft) : Reader Draft := do
  skipSpace
  let cs ← get
  match cs with
  | '[' :: '[' :: r =>
    modify fun _ => r
    let (path, k) ← key
    expect ']'
    expect ']'
    restOfLine
    d.change (path ++ [k]) (Tree.addTable path k)
  | '[' :: r =>
    modify fun _ => r
    let (path, k) ← key
    expect ']'
    restOfLine
    d.change (path ++ [k]) (Tree.openTable path k)
  | c :: _ =>
    if c = '#' ∨ (lineEnd? cs).isSome then
      restOfLine
      return d
    else
      let (path, k) ← key
      expect '='
      skipSpace
      let v ← value (2 * cs.length + 2) 0
      restOfLine
      d.change d.header (Tree.setKeyAt d.header path k v)
  | [] => return d

private def statements : Nat → Draft → Reader Draft
  | 0, d => return d
  | fuel + 1, d => do
    if (← get).isEmpty then return d
    else statements fuel (← statement d)

end Reader

/-- The table that a text writes down; a byte order mark may stand in front. -/
def ofText? (text : String) : Except Error (List (String × Value)) := do
  let cs := match text.toList with
    | c :: r => if c.toNat = 0xFEFF then r else c :: r
    | [] => []
  let (d, _) ← Reader.statements (cs.length + 1) {} cs
  match d.tree.toValue with
  | .table ms => return ms
  | _ => throw .badSyntax

end HookGate.Toml
