import HookGate.Shell.OrderedPattern.Basic
import HookGate.Shell.OrderedPattern.Fault
import HookGate.Text.Property.Lookup

/-! # Escapes in patterns with an order of preference

What a letter behind a backslash stands for: a character, a set of characters, a condition, or something with an
argument of its own. All characters are below 256. -/
namespace HookGate.Shell.OrderedPattern

/-- The sets of characters that have a name between brackets and colons. -/
def kinds : List (String × CharSet) :=
  [("alpha", .ranges [(0x41, 0x5A), (0x61, 0x7A)]), ("lower", .ranges [(0x61, 0x7A)]),
   ("upper", .ranges [(0x41, 0x5A)]), ("alnum", .ranges [(0x30, 0x39), (0x41, 0x5A), (0x61, 0x7A)]),
   ("ascii", .ranges [(0, 0x7F)]), ("blank", .ranges [(0x9, 0x9), (0x20, 0x20)]),
   ("cntrl", .ranges [(0, 0x1F), (0x7F, 0x7F)]), ("digit", .ranges [(0x30, 0x39)]),
   ("graph", .ranges [(0x21, 0x7E)]), ("print", .ranges [(0x20, 0x7E)]),
   ("punct", .ranges [(0x21, 0x2F), (0x3A, 0x40), (0x5B, 0x60), (0x7B, 0x7E)]),
   ("space", .ranges [(0x9, 0xD), (0x20, 0x20)]), ("word", .asciiWord),
   ("xdigit", .ranges [(0x30, 0x39), (0x41, 0x46), (0x61, 0x66)])]

/-- What stands behind a backslash. -/
inductive Escaped
  | char (c : Char)
  | set (s : CharSet)
  | look (p : Place)
  | restart
  /-- A line end of any form. -/
  | lineBreak
  /-- What a group stood for; a relative number counts back from the groups before it. -/
  | again (number : Nat)
  | backwards (distance : Nat)
  | named (name : String)
  /-- Characters that stand for themselves up to `\E`, or that end itself. -/
  | quoted
  | unquoted
  | callNumber (n : Nat)
  | callName (name : String)
deriving DecidableEq

private abbrev Read := Except Fault (Escaped × List Char)

private def isOctal (c : Char) : Bool := '0' ≤ c && c ≤ '7'

private def isHex (c : Char) : Bool := c.isDigit || ('a' ≤ c && c ≤ 'f') || ('A' ≤ c && c ≤ 'F')

private def digit (c : Char) : Nat :=
  if c.isDigit then c.toNat - '0'.toNat else c.toLower.toNat - 'a'.toNat + 10

private def number (base : Nat) (cs : List Char) : Nat := cs.foldl (fun n c => n * base + digit c) 0

/-- Digits in braces as the code of a character. -/
private def code (base : Nat) (isDigit : Char → Bool) (f : Fault) (cs : List Char) : Read :=
  let ds := cs.takeWhile isDigit
  match cs.drop ds.length with
  | '\x7d' :: r =>
    if ds = [] then .error f
    else if 255 < number base ds then .error .bigCode
    else .ok (.char (Char.ofNat (number base ds)), r)
  | _ => .error f

private def octal (cs : List Char) : Read :=
  let ds := (cs.take 3).takeWhile isOctal
  if 255 < number 8 ds then .error .bigOctal else .ok (.char (Char.ofNat (number 8 ds)), cs.drop ds.length)

def isNameChar (c : Char) : Bool := c.isAlphanum || c == '_'

/-- A name up to its end. -/
def name (stop : Char) (cs : List Char) : Except Fault (String × List Char) := do
  let n := cs.takeWhile isNameChar
  if n = [] then throw .emptyName
  if n.head?.any Char.isDigit then throw .nameStart
  match cs.drop n.length with
  | c :: r => if c = stop then return (String.ofList n, r) else throw .openName
  | [] => throw .openName

/-- A property in braces, or of one letter. -/
private def property (isNegated : Bool) (cs : List Char) : Read := do
  let (isNegated, body, rest) ← match cs with
    | '\x7b' :: r =>
      let (isNegated, r) := match r with
        | '^' :: r => (!isNegated, r)
        | _ => (isNegated, r)
      let body := r.takeWhile (· ≠ '\x7d')
      match r.drop body.length with
      | [] => throw .badProperty
      | _ :: rest => pure (isNegated, body, rest)
    | c :: r => if c.isAlpha then pure (isNegated, [c], r) else throw .badProperty
    | [] => throw .badProperty
  match Text.PropertyEntry.ofName? body with
  | none => throw .unknownProperty
  | some ranges => return (.set (if isNegated then .compl (.ranges ranges) else .ranges ranges), rest)

/-- A number, with a sign if it is relative. -/
private def groupNumber? (cs : List Char) : Option (Escaped × List Char) :=
  let (isBack, ds) := match cs with
    | '-' :: r => (true, r)
    | _ => (false, cs)
  let ns := ds.takeWhile Char.isDigit
  if ns = [] then none
  else some (if isBack then .backwards (number 10 ns) else .again (number 10 ns), ds.drop ns.length)

private def groupReference (cs : List Char) : Read :=
  match cs with
  | '\x7b' :: r =>
    match groupNumber? r with
    | some (e, '\x7d' :: rest) => .ok (e, rest)
    | some _ => .error .badG
    | none => (name '\x7d' r).map fun (n, rest) => (.named n, rest)
  | '<' :: r => call '>' r
  | '\'' :: r => call '\'' r
  | _ => match groupNumber? cs with
    | some found => .ok found
    | none => .error .badG
where
  call (stop : Char) (r : List Char) : Read :=
    let ns := r.takeWhile Char.isDigit
    if ns ≠ [] ∧ (r.drop ns.length).head? = some stop then .ok (.callNumber (number 10 ns), r.drop (ns.length + 1))
    else (name stop r).map fun (n, rest) => (.callName n, rest)

private def digits : CharSet := .ranges [(0x30, 0x39)]

private def horizontal : CharSet := .ranges [(0x9, 0x9), (0x20, 0x20), (0xA0, 0xA0)]

private def vertical : CharSet := .ranges [(0xA, 0xD), (0x85, 0x85)]

/-- What stands behind a backslash, and what follows it; `groups` is how many groups the pattern has. -/
def escaped (isInClass : Bool) (groups : Nat) : List Char → Read
  | [] => .error .trailingBackslash
  | c :: r =>
    let char (n : Nat) : Read := .ok (.char (Char.ofNat n), r)
    let set (s : CharSet) : Read := .ok (.set s, r)
    let outside (e : Escaped) : Read := if isInClass then .error .escapeInClass else .ok (e, r)
    let look (p : Place) : Read := if isInClass then .error .escapeInClass else .ok (.look p, r)
    match c with
    | 'a' => char 0x7
    | 'e' => char 0x1B
    | 'f' => char 0xC
    | 'n' => char 0xA
    | 'r' => char 0xD
    | 't' => char 0x9
    | 'b' => if isInClass then char 0x8 else .ok (.look .wordEdge, r)
    | 'B' => outside (.look .noWordEdge)
    | 'A' => look .textStart
    | 'z' | 'Z' => look .textEnd
    | 'G' => look .searchStart
    | 'K' => if isInClass then .error .escapeInClass else .ok (.restart, r)
    | 'd' => set digits
    | 'D' => set (.compl digits)
    | 'w' => set .asciiWord
    | 'W' => set (.compl .asciiWord)
    | 's' => set (.ranges [(0x9, 0xD), (0x20, 0x20)])
    | 'S' => set (.compl (.ranges [(0x9, 0xD), (0x20, 0x20)]))
    | 'h' => set horizontal
    | 'H' => set (.compl horizontal)
    | 'v' => set vertical
    | 'V' => set (.compl vertical)
    | 'N' => match r with
      | '\x7b' :: 'U' :: '+' :: _ => .error .namedCharacter
      | _ => outside (.set (.compl (.single '\n')))
    | 'R' => outside .lineBreak
    | 'X' => outside (.set .any)
    | 'C' => if isInClass then .error .escapeInClass else .ok (.set .any, r)
    | 'Q' => .ok (.quoted, r)
    | 'E' => .ok (.unquoted, r)
    | 'p' => property false r
    | 'P' => property true r
    | 'c' => match r with
      | [] => .error .trailingControl
      | d :: r =>
        if d < ' ' ∨ '~' < d then .error .badControl
        else
          let n := d.toUpper.toNat
          .ok (.char (Char.ofNat (if n < 64 then n + 64 else n - 64)), r)
    | 'x' => match r with
      | '\x7b' :: r => code 16 isHex .badHex r
      | _ =>
        let ds := (r.take 2).takeWhile isHex
        .ok (.char (Char.ofNat (number 16 ds)), r.drop ds.length)
    | 'o' => match r with
      | '\x7b' :: r => code 8 isOctal .badOctal r
      | _ => .error .missingBrace
    | 'g' => if isInClass then .error .escapeInClass else groupReference r
    | 'k' =>
      if isInClass then .error .escapeInClass
      else match r with
        | '\x7b' :: r => (name '\x7d' r).map fun (n, rest) => (.named n, rest)
        | '<' :: r => (name '>' r).map fun (n, rest) => (.named n, rest)
        | '\'' :: r => (name '\'' r).map fun (n, rest) => (.named n, rest)
        | _ => .error .badK
    | 'l' | 'L' | 'u' | 'U' | 'F' => .error .unsupportedEscape
    | '0' => octal (c :: r)
    | _ =>
      if c.isDigit then
        let ds := (c :: r).takeWhile Char.isDigit
        let n := number 10 ds
        if !isInClass && (n < 10 || c > '7' || n ≤ groups) then .ok (.again n, (c :: r).drop ds.length)
        else if isOctal c then octal (c :: r)
        else .ok (.char c, r)
      else if c.isAlpha then .error .unknownEscape
      else .ok (.char c, r)

end HookGate.Shell.OrderedPattern
