import HookGate.Shell.Arguments
import HookGate.Shell.Fields

/-! # What a shell reads into variables

Lines of the input, and options among arguments. -/
namespace HookGate.Shell.Input

open Run

/-- The glyphs of a line: where `raw` does not forbid it, a backslash keeps what follows it, and joins lines. -/
private def line (raw : Bool) : List Char → List Glyph × List Char × Bool
  | [] => ([], [], false)
  | '\n' :: r => ([], r, true)
  | ['\\'] => (if raw then [.value '\\'] else [], [], false)
  | '\\' :: c :: r =>
    if raw then
      let (gs, rest, ended) := line raw (c :: r)
      (.value '\\' :: gs, rest, ended)
    else
      let (gs, rest, ended) := line raw r
      (if c = '\n' then .border :: gs else .quoted c :: .border :: gs, rest, ended)
  | c :: r =>
    let (gs, rest, ended) := line raw r
    (.value c :: gs, rest, ended)

/-- Gives the fields of a line to names; names without a field become empty. -/
private def distribute : List String → List (List Glyph) → Run Unit
  | [], _ => return ()
  | name :: names, fields => do
    setVariable name ((fields.head?.map Glyph.text).getD "")
    distribute names (fields.drop 1)

def read (args : List Text.Octets) : Run Nat := do
  let (options, names) ← Arguments.read [('p', true), ('r', false)] args
  if names.isEmpty then failShell "arg count"
  match ← readable 0 with
  | .error _ =>
    distribute names []
    return 1
  | .ok cs =>
    let (gs, rest, ended) := line (options.any fun o => o.1 = 'r') (cs.filter (· ≠ '\x00'))
    setReadable 0 rest
    distribute names (Glyph.split (← separators) (some names.length) (.border :: gs))
    return if ended then 0 else 1

/-! ## Options among arguments -/

/-- What is said of an option letter: `none` if there is no such option, else whether it takes a value. -/
private def takesValue? (c : Char) : List Char → Option Bool
  | [] => none
  | d :: ':' :: r => if d = c then some true else takesValue? c r
  | d :: r => if d = c then some false else takesValue? c r

/-- Where the next option letter stands: the rest of its word from there on, and the number of the word behind it. -/
private def nextLetters? (words : List Text.Octets) (index : Nat) (offset : Option Nat) : Option (List Char) × Nat :=
  let under := match offset, index with
    | some o, i + 2 => (words[i]?.map fun w => w.toList.drop o).getD []
    | _, _ => []
  if under ≠ [] then (some under, index)
  else match words[index - 1]?.map String.toList with
    | some ['-', '-'] => (none, index + 1)
    | some ('-' :: c :: cs) => (some (c :: cs), index + 1)
    | _ => (none, index)

def options (args : List Text.Octets) : Run Nat := do
  match ← Arguments.plain args with
  | letters :: name :: own =>
    let s ← get
    let words := if own.isEmpty then s.arguments else own
    let (index, offset) :=
      if words.length + 1 < s.optionIndex then (1, none) else (s.optionIndex, s.optionOffset)
    let isSilent := letters.toList.head? = some ':'
    let finish (letter : Char) (index : Nat) (rest : List Char) (status : Nat) : Run Nat := do
      setVariable "OPTIND" (Text.ofNat index)
      setVariable name (String.ofList [letter])
      let offset := if rest = [] then none else some ((words[index - 2]?.map String.length).getD 0 - rest.length)
      modify fun s => { s with optionIndex := index, optionOffset := offset }
      return status
    let refuse (c sign : Char) (complaint : String) : Run Char := do
      if isSilent then
        setVariable "OPTARG" (String.ofList [c])
        return sign
      else
        complain complaint
        unsetVariable "OPTARG"
        return '?'
    match nextLetters? words index offset with
    | (none, index) => finish '?' index [] 1
    | (some [], index) => finish '?' index [] 1
    | (some (c :: rest), index) =>
      let text := String.ofList [c]
      match takesValue? c letters.toList with
      | none => finish (← refuse c '?' ("Illegal option -" ++ text)) index rest 0
      | some false =>
        setVariable "OPTARG" ""
        finish c index rest 0
      | some true =>
        if rest ≠ [] then
          setVariable "OPTARG" (String.ofList rest)
          finish c index [] 0
        else match words[index - 1]? with
          | some value =>
            setVariable "OPTARG" value
            finish c (index + 1) [] 0
          | none => finish (← refuse c ':' ("No arg for -" ++ text ++ " option")) index [] 0
  | _ => failShell "Usage: getopts optstring var [arg...]"

end HookGate.Shell.Input
