import HookGate.Shell.Arguments

/-! # The directory of a shell, and the permissions of what it makes -/
namespace HookGate.Shell.Directory

open Run

/-- Whether the letters say that links are gone through. -/
private def isPhysical (options : List (Char × Text.Octets)) : Bool := (options.getLast?.map Prod.fst) = some 'P'

/-- Goes to a directory, and tells whether that is possible. -/
private def goTo (physical : Bool) (path : Text.Octets) : Run Bool := do
  let s ← get
  let way := if physical then path else wayTo s.directory path
  match s.machine.files.find s.cwd (pathOf way) with
  | .ok (l, .directory) =>
    assignVariable "OLDPWD" (some s.directory) true
    let directory := if physical then ofLocation l else way
    modify fun s => { s with cwd := l, directory }
    assignVariable "PWD" (some directory) true
    return true
  | _ => return false

/-- Where a path may lead, with whether the place is shown then. -/
private def places (search : Option Text.Octets) (path : Text.Octets) : List (Text.Octets × Bool) :=
  let isFixed := Text.startsWith path "/" || ["." , ".."].contains path || Text.startsWith path "./" ||
    Text.startsWith path "../"
  if isFixed then []
  else match search with
    | none => []
    | some s => (Text.pieces (· == ':') s.toList).map fun d =>
      if d = [] then (path, false) else (String.ofList d ++ "/" ++ path, true)

def change (args : List Text.Octets) : Run Nat := do
  let (options, operands) ← Arguments.read [('L', false), ('P', false)] args
  let target ← match operands.head? with
    | none => pure ((← valueOf? "HOME").getD "")
    | some "-" => pure ((← valueOf? "OLDPWD").getD "")
    | some t => pure t
  let path := if target = "" then "." else target
  let s ← get
  let isDirectory (p : Text.Octets) : Bool := s.machine.files.isDirectory s.cwd (pathOf p)
  let (place, tells) := ((places (← valueOf? "CDPATH") path).find? fun p => isDirectory p.1).getD (path, false)
  if !(← goTo (isPhysical options) place) then failShell ("can't cd to " ++ target)
  if tells || operands.head? = some "-" then print ((← get).directory ++ "\n")
  return 0

def display (args : List Text.Octets) : Run Nat := do
  let (options, _) ← Arguments.read [('L', false), ('P', false)] args
  let s ← get
  print ((if isPhysical options then ofLocation s.cwd else s.directory) ++ "\n")
  return 0

/-! ## Permissions -/

/-- Three sets of permissions, for the owner, the group and all others, as one number of nine bits. -/
private def shares : List (Char × Nat) := [('u', 64), ('g', 8), ('o', 1)]

private def bitOf : Char → Nat
  | 'r' => 4
  | 'w' => 2
  | _ => 1

private def symbols (permissions : Nat) : String :=
  Text.joinWith "," (shares.map fun (c, unit) =>
    let set := permissions / unit % 8
    String.ofList (c :: '=' :: ['r', 'w', 'x'].filter fun b => set / bitOf b % 2 = 1))

/-- Nine bits, those that are in `a` and in no way in `b`. -/
private def without (a b : Nat) : Nat := Nat.bitwise (fun x y => x && !y) a b

/-- What a letter behind an operator stands for. -/
private def granted (before : Nat) : Char → Nat
  | 'r' => 4
  | 'w' => 2
  | 'x' => 1
  | 'u' => before / 64 % 8
  | 'g' => before / 8 % 8
  | 'o' => before % 8
  | 'X' => if Nat.land before 73 = 0 then 0 else 1
  | _ => 0

/-- The permissions that a text in letters gives. -/
private def change? (before : Nat) : Nat → Nat → Nat → List Char → Option Nat
  | 0, _, _, _ => none
  | n + 1, units, now, cs =>
    let who := cs.takeWhile fun c => ['a', 'u', 'g', 'o'].contains c
    let named := who.foldl (fun u c => Nat.lor u (if c = 'a' then 73 else (shares.lookup c).getD 0)) units
    let units := if named = 0 then 73 else named
    match cs.drop who.length with
    | op :: r =>
      if !(['=', '+', '-'].contains op) then none
      else
        let what := r.takeWhile fun c => ['r', 'w', 'x', 'u', 'g', 'o', 'X', 's'].contains c
        let bits := units * what.foldl (fun b c => Nat.lor b (granted before c)) 0
        let now := match op with
          | '-' => without now bits
          | '+' => Nat.lor now bits
          | _ => Nat.lor bits (without now (units * 7))
        match r.drop what.length with
        | [] => some now
        | ',' :: rest => if rest = [] then some now else change? before n 0 now rest
        | rest => if rest.head?.any fun c => ['=', '+', '-'].contains c then change? before n units now rest else none
    | [] => none

def mask (args : List Text.Octets) : Run Nat := do
  let (options, operands) ← Arguments.read [('S', false)] args
  let before := (← get).mask
  let setMask (n : Nat) : Run Unit := modify fun s => { s with mask := n % 512 }
  match operands.head? with
  | none =>
    if options.isEmpty then
      let digits := Nat.toDigits 8 before
      print (String.ofList (List.replicate (4 - digits.length) '0' ++ digits) ++ "\n")
    else print (symbols (511 - before) ++ "\n")
  | some a =>
    let cs := a.toList
    if cs.head?.any Char.isDigit then
      if cs.all fun c => '0' ≤ c && c ≤ '7' then setMask (cs.foldl (fun n c => n * 8 + (c.toNat - 0x30)) 0)
      else failShell ("Illegal number: " ++ a)
    else if cs ≠ [] then
      match change? (511 - before) (cs.length + 1) 0 (511 - before) cs with
      | some permissions => setMask (511 - permissions)
      | none => failShell ("Illegal mode: " ++ a)
  return 0

end HookGate.Shell.Directory
