import HookGate.Shell.State

/-! # Options of programs

How the programs beside the shell read their arguments: letters behind a hyphen, words behind two, and everything else,
which may stand between them. -/
namespace HookGate.Shell

open Run

/-- Whether an option takes an argument. -/
inductive OptionArgument
  | none
  | required
  /-- Only behind an equals sign. -/
  | optional
deriving Repr, DecidableEq

/-- The options of a program: letters, and words with what each of them stands for. -/
structure OptionTable where
  letters : List (Char × OptionArgument)
  words : List (String × OptionArgument × String)
  /-- Whether options may stand behind other arguments. -/
  isMixed : Bool := true
  /-- The option that a number among the letters stands for. -/
  number : Option String := none
deriving Repr, DecidableEq

/-- What the arguments of a program say. -/
inductive Given
  | option (key : String) (argument : Text.Octets)
  /-- An option that the program does not have. -/
  | fault (complaint : String)
deriving Repr, DecidableEq

namespace OptionTable

/-- The letters of an argument behind the digits `digits` of a number; `next?` is the argument that follows, and whether
it is taken is told as well. -/
private def readLetters (t : OptionTable) (next? : Option Text.Octets) (digits : List Char) :
    List Char → List Given × Bool
  | [] => (numbered digits, false)
  | c :: r =>
    let key := String.ofList [c]
    if t.number.isSome && c.isDigit then readLetters t next? (digits ++ [c]) r
    else match t.letters.lookup c with
      | none => (numbered digits ++ [.fault ("invalid option -- '" ++ key ++ "'")], false)
      | some .none =>
        let (more, taken) := readLetters t next? [] r
        (numbered digits ++ .option key "" :: more, taken)
      | some _ =>
        if r ≠ [] then (numbered digits ++ [.option key (String.ofList r)], false)
        else match next? with
          | some a => (numbered digits ++ [.option key a], true)
          | none => (numbered digits ++ [.fault ("option requires an argument -- '" ++ key ++ "'")], false)
where
  numbered (digits : List Char) : List Given :=
    if digits = [] then [] else [.option (t.number.getD "") (String.ofList digits)]

/-- The words that a text may stand for: the word itself, or all that start with it. -/
private def candidates (t : OptionTable) (name : String) : List (String × OptionArgument × String) :=
  match t.words.find? fun w => w.1 = name with
  | some w => [w]
  | none => t.words.filter fun w => Text.startsWith w.1 name

/-- An option that is a word, and whether it takes the argument behind it. -/
private def readWord (t : OptionTable) (next? : Option Text.Octets) (body : String) : Given × Bool :=
  let name := String.ofList (body.toList.takeWhile (· ≠ '='))
  let value? := if name.length < body.length then some (String.ofList (body.toList.drop (name.length + 1))) else none
  let fault (s : String) : Given × Bool := (.fault s, false)
  match t.candidates name with
  | [] => fault ("unrecognized option '--" ++ body ++ "'")
  | (word, argument, key) :: others =>
    if others.any fun o => o.2 ≠ (argument, key) then
      fault ("option '--" ++ body ++ "' is ambiguous; possibilities:" ++
        String.join ((t.candidates name).map fun w => " '--" ++ w.1 ++ "'"))
    else match argument, value?, next? with
      | .none, none, _ => (.option key "", false)
      | .none, some _, _ => fault ("option '--" ++ word ++ "' doesn't allow an argument")
      | _, some v, _ => (.option key v, false)
      | .optional, none, _ => (.option key "", false)
      | .required, none, some a => (.option key a, true)
      | .required, none, none => fault ("option '--" ++ word ++ "' requires an argument")

/-- The options among some arguments, and the other arguments, each in their order. -/
def read (t : OptionTable) : List Text.Octets → List Given × List Text.Octets
  | [] => ([], [])
  | a :: rest =>
    if a = "--" then ([], rest)
    else match a.toList with
      | '-' :: c :: cs =>
        let (given, taken) : List Given × Bool :=
          if c = '-' then
            let (g, taken) := t.readWord rest.head? (String.ofList cs)
            ([g], taken)
          else t.readLetters rest.head? [] (c :: cs)
        let (more, operands) := read t (if taken then rest.drop 1 else rest)
        (given ++ more, operands)
      | _ =>
        if !t.isMixed then ([], a :: rest)
        else
          let (more, operands) := read t rest
          (more, a :: operands)
termination_by args => args.length
decreasing_by all_goals (simp only [List.length_cons]; first | omega | (split <;> first | omega | (simp only [List.length_drop]; omega)))

end OptionTable

/-! ## What all programs do alike -/

namespace Tool

/-- A complaint under the name by which a program was started. -/
def blame (name text : String) : Run Unit := complain (name ++ ": " ++ text)

/-- Tells where a program says more of its use. -/
def hint (name : String) : Run Nat := do
  complain ("Try '" ++ name ++ " --help' for more information.")
  return 1

/-- The words of an error of the system. -/
def reason : SystemError → String
  | .os e => e.text
  | e => e.message

/-- Writes to the output; what cannot be written gives the failing status. -/
def output (name : String) (text : Text.Octets) (failing : Nat) : Run Nat := do
  match ← write 1 text with
  | .ok () => return 0
  | .error e =>
    blame name ("write error: " ++ e.text)
    return failing

/-- What is read at a path, or at the input for a hyphen. -/
def contents (path : Text.Octets) : Run (Except SystemError (List Char)) := do
  if path = "-" then
    match ← readable 0 with
    | .ok cs =>
      setReadable 0 []
      return .ok cs
    | .error e => return .error (.os e)
  else contentsOf path

end Tool

end HookGate.Shell
