import HookGate.Shell.State

/-! # Conditions

What `test` and the brackets decide: facts on texts, numbers and files, and their combinations. -/
namespace HookGate.Shell.Condition

open Sandbox

inductive Fault
  | badNumber (text : String)
  | unexpectedOperator (text : String)
  | missingArgument (operator : String)
  | openParenthesis
deriving Repr, DecidableEq

def Fault.message : Fault → String
  | badNumber text => "Illegal number: " ++ text
  | unexpectedOperator text => if text = "" then "unexpected operator" else text ++ ": unexpected operator"
  | missingArgument operator => operator ++ ": argument expected"
  | openParenthesis => "closing paren expected"

/-- What a word of a condition does. -/
inductive Sign
  | operand
  | unary
  | binary
  | not
  | and
  | or
  | openParen
  | closeParen
  | ending
deriving Repr, DecidableEq

private def signOf (s : String) : Sign :=
  match s with
  | "!" => .not
  | "-a" => .and
  | "-o" => .or
  | "(" => .openParen
  | ")" => .closeParen
  | _ =>
    if ["=", "!=", "<", ">", "-eq", "-ne", "-ge", "-gt", "-le", "-lt", "-nt", "-ot", "-ef"].contains s then .binary
    else if ["-r", "-w", "-x", "-e", "-f", "-d", "-c", "-b", "-p", "-u", "-g", "-k", "-s", "-t", "-z", "-n", "-h", "-O",
      "-G", "-L", "-S"].contains s then .unary
    else .operand

/-- The sign of the first word, seen with those behind it: what could be an operator is an operand where it can be
nothing else. -/
private def sign : List String → Sign
  | [] => .ending
  | s :: rest =>
    match signOf s, rest with
    | .unary, [] => .operand
    | .unary, [_] => .unary
    | .unary, t :: _ => if signOf t = .binary then .operand else .unary
    | .openParen, [] => .operand
    | k, _ => k

private def isSpace (c : Char) : Bool := c == ' ' || ('\t' ≤ c && c ≤ '\r')

/-- The number of 64 bits that a text writes, with blanks around it. -/
def number? (s : String) : Option Int :=
  let (negative, cs) := match s.toList.dropWhile isSpace with
    | '-' :: ds => (true, ds)
    | '+' :: ds => (false, ds)
    | ds => (false, ds)
  let digits := cs.takeWhile Char.isDigit
  let n : Nat := digits.foldl (fun n c => n * 10 + (c.toNat - 0x30)) 0
  if digits = [] ∨ !(cs.drop digits.length).all isSpace then none
  else if n < 0x8000000000000000 ∨ (negative ∧ n = 0x8000000000000000) then some (if negative then -n else n)
  else none

private def numberOf (s : String) : Except Fault Int :=
  match number? s with
  | some n => .ok n
  | none => .error (.badNumber s)

private def binary (fs : FileSystem) (cwd : Location) (a op b : String) : Except Fault Bool := do
  let compare (f : Int → Int → Bool) : Except Fault Bool := do
    let x ← numberOf a
    let y ← numberOf b
    return f x y
  match op with
  | "=" => return a = b
  | "!=" => return a ≠ b
  | "<" => return a < b
  | ">" => return b < a
  | "-eq" => compare fun x y => x = y
  | "-ne" => compare fun x y => x ≠ y
  | "-lt" => compare fun x y => x < y
  | "-le" => compare fun x y => x ≤ y
  | "-gt" => compare fun x y => x > y
  | "-ge" => compare fun x y => x ≥ y
  | "-ef" => match fs.find cwd (Run.pathOf a), fs.find cwd (Run.pathOf b) with
    | .ok (l, _), .ok (k, _) => return l = k
    | _, _ => return false
  | _ => return false

private def unary (fs : FileSystem) (cwd : Location) (op a : String) : Except Fault Bool := do
  let path := Run.pathOf a
  match op with
  | "-n" => return a ≠ ""
  | "-z" => return a = ""
  | "-t" =>
    let _ ← numberOf a
    return false
  | "-f" => return fs.isFile cwd path
  | "-d" => return fs.isDirectory cwd path
  | "-x" => match fs.find? cwd path with
    | some (.file _ _ executable) => return executable
    | some (.tool _) | some .directory => return true
    | _ => return false
  | "-s" => match fs.find? cwd path with
    | some (.file _ content _) => return content ≠ []
    | some (.tool _) | some .directory => return true
    | _ => return false
  | "-h" | "-L" => match (fs.locate false cwd path).toOption.bind fs.get? with
    | some (.link _) => return true
    | _ => return false
  | "-c" => match fs.find? cwd path with
    | some (.device (.descriptor _)) => return false
    | some (.device _) => return true
    | _ => return false
  | "-p" => match fs.find? cwd path with
    | some (.device (.descriptor n)) => return n > 0
    | _ => return false
  | "-e" | "-r" | "-w" | "-O" | "-G" => return fs.isThere cwd path
  | _ => return false

/-- What is asked of files. -/
private structure Scene where
  files : FileSystem
  cwd : Location

mutual

/-- Decides the condition at the front, whose first word has the sign `k`, and gives the words from its last one on. -/
private def either (s : Scene) : Nat → Sign → List String → Except Fault (Bool × List String)
  | 0, _, ws => .ok (false, ws)
  | n + 1, k, ws => do
    let (a, ws) ← both s n k ws
    if sign (ws.drop 1) = .or then
      let (b, ws) ← either s n (sign (ws.drop 2)) (ws.drop 2)
      return (a || b, ws)
    else return (a, ws)

private def both (s : Scene) : Nat → Sign → List String → Except Fault (Bool × List String)
  | 0, _, ws => .ok (false, ws)
  | n + 1, k, ws => do
    let (a, ws) ← single s n k ws
    if sign (ws.drop 1) = .and then
      let (b, ws) ← both s n (sign (ws.drop 2)) (ws.drop 2)
      return (a && b, ws)
    else return (a, ws)

private def single (s : Scene) : Nat → Sign → List String → Except Fault (Bool × List String)
  | 0, _, ws => .ok (false, ws)
  | n + 1, k, ws => do
    match k with
    | .not =>
      let k := sign (ws.drop 1)
      let (b, ws) ← single s n k (if k = .ending then ws else ws.drop 1)
      return (!b, ws)
    | .ending => return (false, ws)
    | .openParen =>
      let ws := ws.drop 1
      if sign ws = .closeParen then return (false, ws)
      let (b, ws) ← either s n (sign ws) ws
      let ws := ws.drop 1
      if sign ws = .closeParen then return (b, ws) else throw .openParenthesis
    | .unary =>
      match ws with
      | op :: a :: rest => return (← unary s.files s.cwd op a, a :: rest)
      | _ => throw (.missingArgument (ws.head?.getD ""))
    | _ =>
      match ws with
      | a :: op :: rest =>
        if sign (op :: rest) = .binary then
          match rest with
          | b :: _ => return (← binary s.files s.cwd a op b, rest)
          | [] => throw (.missingArgument op)
        else return (a ≠ "", ws)
      | [a] => return (a ≠ "", ws)
      | [] => return (false, [])

end

/-- Decides a condition of any number of words. -/
private def decideAll (s : Scene) (k : Sign) (ws : List String) : Except Fault Bool := do
  let (b, left) ← either s (8 * ws.length + 16) k ws
  match left with
  | op :: _ :: _ => throw (.unexpectedOperator op)
  | _ => return b

/-- Decides a condition, where few words are read by their number. -/
private def decideFew (s : Scene) : Nat → List String → Except Fault Bool
  | 0, _ => .ok false
  | _, [] => .ok false
  | n + 1, w :: ws => do
    let all := w :: ws
    if all.length = 3 && all[1]?.any (fun op => signOf op = .binary) then decideAll s .operand all
    else if all.length = 3 || all.length = 4 then
      if w = "(" && all.getLast? = some ")" then decideAll s (sign ws.dropLast) ws.dropLast
      else if w = "!" then return !(← decideFew s n ws)
      else decideAll s (sign all) all
    else decideAll s (sign all) all

/-- Whether the condition holds that arguments write down. -/
def holds (fs : FileSystem) (cwd : Location) (args : List String) : Except Fault Bool :=
  decideFew ⟨fs, cwd⟩ (args.length + 1) args

end HookGate.Shell.Condition
