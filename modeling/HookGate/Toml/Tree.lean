import HookGate.Toml.Value

/-! # Tables under construction

A document fills one tree of tables. Each table remembers how it came to be, since a table may be opened by a header
once, and keys with dots may only add to tables that such keys began. -/
namespace HookGate.Toml

/-- How a table came to be. -/
inductive Origin
  /-- Opened by a header, or the whole document. -/
  | header
  /-- Passed on the way to the table of a header. -/
  | passed
  /-- Begun by a key with dots. -/
  | dotted
deriving Repr, DecidableEq

inductive Tree
  | leaf (v : Value)
  | table (o : Origin) (members : List (String × Tree))
  /-- Tables that headers in double brackets add, the last one first. -/
  | tables (ts : List Tree)
deriving Repr, Inhabited

namespace Tree

/-- Replaces the member of a name, or adds it behind the others. -/
private def putMember (name : String) (t : Tree) : List (String × Tree) → List (String × Tree)
  | [] => [(name, t)]
  | (n, u) :: ms => if n = name then (n, t) :: ms else (n, u) :: putMember name t ms

mutual

def toValue : Tree → Value
  | leaf v => v
  | table _ ms => .table (membersToValues ms)
  | tables ts => .array (toValues ts).reverse

private def toValues : List Tree → List Value
  | [] => []
  | t :: ts => t.toValue :: toValues ts

private def membersToValues : List (String × Tree) → List (String × Value)
  | [] => []
  | (n, t) :: ms => (n, t.toValue) :: membersToValues ms

end

/-- Changes the members of the table at a path: tables that are missing on the way are begun, and of a row of tables
the last one is meant. `dotted` tells keys from headers. -/
def update (dotted : Bool) (change : Origin → List (String × Tree) → Except Error Tree) :
    List String → Tree → Except Error Tree
  | [], table o ms => change o ms
  | key :: path, table o ms => do
    let next (t : Tree) : Except Error Tree := update dotted change path t
    let child ← match ms.lookup key with
      | none => next (table (if dotted then .dotted else .passed) [])
      | some (leaf _) => throw (.keyTaken key)
      | some (tables (t :: ts)) => do pure (tables ((← next t) :: ts))
      | some (tables []) => throw (.keyTaken key)
      | some (table o' ms') => if dotted ∧ o' = .header then throw (.keyTaken key) else next (table o' ms')
    return table o (putMember key child ms)
  | _, _ => throw .badSyntax

/-- Opens the table of a header. -/
def openTable (path : List String) (key : String) : Tree → Except Error Tree :=
  update false (fun o ms =>
    match ms.lookup key with
    | none => return table o (putMember key (table .header []) ms)
    | some (table .passed ms') => return table o (putMember key (table .header ms') ms)
    | some _ => throw (.keyTaken key)) path

/-- Adds a table to the row of a header in double brackets. -/
def addTable (path : List String) (key : String) : Tree → Except Error Tree :=
  update false (fun o ms =>
    match ms.lookup key with
    | none => return table o (putMember key (tables [table .header []]) ms)
    | some (tables ts) => return table o (putMember key (tables (table .header [] :: ts)) ms)
    | some _ => throw (.keyTaken key)) path

/-- Gives a key its value in a table, where `path` are the parts of the key before its last one. -/
def setKey (path : List String) (key : String) (v : Tree) : Tree → Except Error Tree :=
  update true (fun o ms =>
    if path ≠ [] ∧ o ≠ .dotted then throw (.keyTaken key)
    else if (ms.lookup key).isSome then throw (.keyTaken key)
    else return table o (putMember key v ms)) path

/-- Gives a key its value in the table of the last header. -/
def setKeyAt (header path : List String) (key : String) (v : Tree) : Tree → Except Error Tree :=
  update false (fun o ms => setKey path key v (table o ms)) header

end Tree

end HookGate.Toml
