import HookGate.Shell.Arithmetic
import HookGate.Shell.Fields

/-! # Expansion

What becomes of a word when its command runs: parameters, arithmetic and the outputs of scripts are put in place, and
home directories where a tilde stands for them. How a script runs is left open. -/
namespace HookGate.Shell

open Run

/-- The letters of the options, by name, in the order in which they are shown. -/
def optionLetters : List (String × Char) :=
  [("errexit", 'e'), ("noglob", 'f'), ("ignoreeof", 'I'), ("interactive", 'i'), ("monitor", 'm'), ("noexec", 'n'),
   ("stdin", 's'), ("xtrace", 'x'), ("verbose", 'v'), ("vi", 'V'), ("emacs", 'E'), ("noclobber", 'C'),
   ("allexport", 'a'), ("notify", 'b'), ("nounset", 'u'), ("privileged", 'p')]

namespace Expansion

/-- How a word is expanded. -/
structure Manner where
  /-- Whether the word is split into fields. -/
  splits : Bool := false
  /-- Whether a tilde in front stands for a home directory. -/
  tilde : Bool := false
  /-- Whether a tilde does so behind colons as well. -/
  colons : Bool := false
  /-- Whether the word stands in an expansion, so that its own text may be split. -/
  inner : Bool := false
deriving Repr, DecidableEq

/-- The value of a parameter: its glyphs, and how many characters they are. -/
private structure Value where
  glyphs : List Glyph
  size : Nat

/-- The arguments as one value. -/
private def allArguments (splits quoted isList : Bool) : Run Value := do
  let arguments := (← get).arguments
  let letters := arguments.foldl (fun n a => n + a.length) 0
  let gaps := arguments.length - 1
  if splits && quoted && isList then
    return ⟨((arguments.map Glyph.quote).intersperse [.next true]).flatten, letters + gaps⟩
  else if splits && !quoted then
    return ⟨.border :: ((arguments.map fun a => a.toList.map Glyph.value).intersperse [.next false]).flatten,
      letters + gaps⟩
  else
    let separator := ((← valueOf? "IFS").map fun s => String.ofList (s.toList.take 1)).getD " "
    let text := Text.joinWith separator arguments
    return ⟨Glyph.ofValue quoted text, text.length⟩

private def parameter? (splits quoted : Bool) (name : String) : Run (Option Value) := do
  let s ← get
  let one (text : Text.Octets) : Option Value := some ⟨Glyph.ofValue quoted text, text.length⟩
  match name with
  | "#" => return one (Text.ofNat s.arguments.length)
  | "?" => return one (Text.ofNat s.status)
  | "$" => return one (Text.ofNat s.process)
  | "!" => return (s.lastJob.map Text.ofNat).bind one
  | "-" => return one (String.ofList ((optionLetters.filter fun o => s.options.contains o.1).map Prod.snd).reverse)
  | "0" => return one s.name
  | "@" => return some (← allArguments splits quoted true)
  | "*" => return some (← allArguments splits quoted false)
  | _ =>
    if name.toList.all Char.isDigit then
      match name.toNat?.getD 0 with
      | 0 => return one s.name
      | n + 1 => return s.arguments[n]?.bind one
    else return (← valueOf? name).bind one

/-- The home directory of a user, or of the one who runs the shell. -/
private def homeOf? (user : List Char) : Run (Option Text.Octets) := do
  if user = [] then valueOf? "HOME"
  else
    let users := ((← get).machine.files.readBytes [] "/etc/passwd").toOption.getD []
    let lines := (Text.pieces (· == '\n') (Text.toOctets users).toList).map (Text.pieces (· == ':'))
    return (lines.find? fun fields => fields.head? = some user).bind fun fields => (fields[5]?).map String.ofList

/-- The glyphs of plain text with its tildes expanded; `starts` where one may stand, and `ends` if the word ends behind
the text. -/
private def ofText (m : Manner) (ends : Bool) : Bool → List Char → Run (List Glyph)
  | _, [] => return []
  | starts, c :: r => do
    let own : Glyph := if m.inner then .value c else .plain c
    let user := r.takeWhile fun d => d != '/' && !(m.colons && d == ':')
    let home? ← if starts && c == '~' && (ends || user.length < r.length) then homeOf? user else pure none
    match home? with
    | some home => return home.toList.map Glyph.quoted ++ (← ofText m ends false (r.drop user.length))
    | none => return own :: (← ofText m ends (m.colons && c == ':') r)
termination_by _ cs => cs.length
decreasing_by all_goals (simp only [List.length_cons, List.length_drop]; omega)

mutual

/-- The glyphs of a word; `capture` gives what a script writes. -/
def expand (capture : Script → Run Text.Octets) : Nat → Manner → Word → Run (List Glyph)
  | 0, _, _ => throw .late
  | _, _, [] => return []
  | n + 1, m, part :: rest => do
    let front ← match part with
      | .text true s => pure (Glyph.quote s)
      | .text false s => do
        let gs ← ofText m rest.isEmpty m.tilde s.toList
        pure (if m.inner then .border :: gs else gs)
      | .parameter quoted name use => expandParameter capture n m quoted name use
      | .output quoted script => do
        pure (Glyph.ofValue quoted (← capture script))
      | .arithmetic quoted expression => do
        pure (Glyph.ofValue quoted (← calculate capture n expression))
    return front ++ (← expand capture n { m with tilde := false } rest)

private def expandParameter (capture : Script → Run Text.Octets) : Nat → Manner → Bool → String → Use → Run (List Glyph)
  | 0, _, _, _, _ => throw .late
  | n + 1, m, quoted, name, use => do
    let value? ← parameter? m.splits quoted name
    let usable (c : Condition) : Option Value := match c with
      | .unset => value?
      | .empty => value?.filter fun v => v.size > 0
    let inner (w : Word) : Run (List Glyph) := expand capture n { m with tilde := true, inner := true } w
    let text (w : Word) : Run Text.Octets := do return Glyph.text (← expand capture n { tilde := true } w)
    let needed : Run Value := do
      match value? with
      | some v => return v
      | none =>
        if ← isOn "nounset" then failShell (name ++ ": parameter not set")
        return ⟨if quoted then [] else [.border], 0⟩
    match use with
    | .plain => return (← needed).glyphs
    | .length => return Glyph.ofValue quoted (Text.ofNat (← needed).size)
    | .default c w => match usable c with
      | some v => return v.glyphs
      | none => inner w
    | .alternative c w => if (usable c).isSome then inner w else return []
    | .assign c w => match usable c with
      | some v => return v.glyphs
      | none =>
        setVariable name (← text w)
        return ((← parameter? m.splits quoted name).map (·.glyphs)).getD []
    | .require c w => match usable c with
      | some v => return v.glyphs
      | none =>
        let why ← if w.isEmpty then pure (if c = .empty then "parameter not set or null" else "parameter not set")
          else text w
        failShell (name ++ ": " ++ why)
    | .trimStart longest w =>
      let v ← needed
      let p := Glyph.glob (← expand capture n { tilde := true } w)
      let cut := Glyph.trimStart longest p v.glyphs
      return if quoted then cut else .border :: cut
    | .trimEnd longest w =>
      let v ← needed
      let p := Glyph.glob (← expand capture n { tilde := true } w)
      let cut := Glyph.trimEnd longest p v.glyphs
      return if quoted then cut else .border :: cut
    | .bad => failShell "Bad substitution"

/-- The value of an arithmetic expression. -/
private def calculate (capture : Script → Run Text.Octets) : Nat → Word → Run Text.Octets
  | 0, _ => throw .late
  | n + 1, expression => do
    let text := Glyph.text (← expand capture n {} expression)
    let vars := (← get).vars
    match Arithmetic.evaluate (fun name => ((vars.lookup name).bind (·.value)).getD "") text with
    | .ok (v, sets) =>
      for (name, v) in sets do setVariable name (Text.ofInt v)
      return Text.ofInt v
    | .error e => failShell (e.message text)

end

/-- The fields of words, one after the other. A word that gives a value to a name is not split where `assigns`. -/
def fields (capture : Script → Run Text.Octets) (n : Nat) (assigns : Bool) : List Word → Run (List Text.Octets)
  | [] => return []
  | w :: ws => do
    match if assigns then Part.assignment? w else none with
    | some (name, value) =>
      let text := Glyph.text (← expand capture n { tilde := true, colons := true } value)
      return (name ++ "=" ++ text) :: (← fields capture n assigns ws)
    | none =>
      let gs ← expand capture n { splits := true, tilde := true } w
      let split := Glyph.split (← separators) none gs
      let s ← get
      let front := if s.options.contains "noglob" then split.map Glyph.text
        else split.flatMap (pathsOf s.machine.files s.cwd)
      return front ++ (← fields capture n assigns ws)

/-- The text of a word that is not split. -/
def textOf (capture : Script → Run Text.Octets) (n : Nat) (w : Word) : Run Text.Octets := do
  return Glyph.text (← expand capture n { tilde := true } w)

/-- The text of a value that is given to a variable. -/
def valueText (capture : Script → Run Text.Octets) (n : Nat) (w : Word) : Run Text.Octets := do
  return Glyph.text (← expand capture n { tilde := true, colons := true } w)

end Expansion

end HookGate.Shell
