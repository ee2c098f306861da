import HookGate.Text.Basic

/-! # Names in messages

How programs show names so that it is clear where they end: in quotes of the shell, or in quotes with escapes. -/
namespace HookGate.Shell.Quoting

private def isPrintable (c : Char) : Bool := ' ' ≤ c && c < '\x7f'

private def escapeLetter? : Char → Option Char
  | '\x07' => some 'a'
  | '\x08' => some 'b'
  | '\x0c' => some 'f'
  | '\n' => some 'n'
  | '\r' => some 'r'
  | '\t' => some 't'
  | '\x0b' => some 'v'
  | _ => none

private def octal (c : Char) : List Char :=
  let n := c.toNat
  [n / 64, n / 8 % 8, n % 8].map fun d => Char.ofNat (d + 0x30)

/-- The escape of a character that cannot be shown as it is. -/
private def escape? (c : Char) : Option (List Char) :=
  match escapeLetter? c with
  | some l => some ['\\', l]
  | none => if isPrintable c then none else some ('\\' :: octal c)

/-- A text in single quotes, with escapes in it. -/
def plain (s : String) : String :=
  "'" ++ String.ofList (s.toList.flatMap fun c =>
    if c = '\'' ∨ c = '\\' then ['\\', c] else (escape? c).getD [c]) ++ "'"

/-- Whether a shell takes a character for itself, at the front of a text or not. -/
private def isSafe (first alone : Bool) (c : Char) : Bool :=
  c.isAlphanum || ['%', '+', ',', '-', '.', '/', ':', ']', '_', '@'].contains c || ((c == '#' || c == '~') && !first) ||
    ((c == '\x7b' || c == '\x7d') && !alone)

/-- Whether a character means itself between double quotes, at the front of a text or not. -/
private def isTame (first : Bool) (c : Char) : Bool :=
  c.isAlphanum || ['%', '+', ',', '-', '.', '/', ':', ']', '_', '@', ' ', '\''].contains c ||
    ((c == '#' || c == '~') && first)

/-- The text between single quotes; escapes stand in parts of their own, which `escaping` tells. -/
private def singleQuoted : Bool → List Char → List Char
  | _, [] => []
  | escaping, c :: r =>
    match escape? c with
    | some e => (if escaping then e else ['\'', '$', '\''] ++ e) ++ singleQuoted true r
    | none =>
      if c = '\'' then ['\'', '\\', '\'', '\''] ++ singleQuoted false r
      else (if escaping then ['\'', '\''] else []) ++ c :: singleQuoted false r

private def withPlaces (cs : List Char) : List (Bool × Char) := cs.zipIdx.map fun (c, i) => (i = 0, c)

/-- A text in quotes of the shell, of the kind that shows it best. -/
def always (s : String) : String :=
  let cs := s.toList
  if cs.contains '\'' && (withPlaces cs).all fun (first, c) => isTame first c then "\"" ++ s ++ "\""
  else "'" ++ String.ofList (singleQuoted false cs) ++ "'"

/-- A text in quotes of the shell, where it needs them. -/
def whereNeeded (s : String) : String :=
  let cs := s.toList
  if cs ≠ [] && (withPlaces cs).all fun (first, c) => isSafe first (cs.length = 1) c then s else always s

/-- A file name in front of a colon. -/
def beforeColon (s : String) : String := if s.toList.contains ':' then always s else whereNeeded s

/-- A text in single quotes, with the quotes in it between double ones. -/
private def apart : Nat → List Char → List Char
  | 0, _ => []
  | n + 1, cs =>
    let front := cs.takeWhile (· ≠ '\'')
    let quotes := (cs.drop front.length).takeWhile (· = '\'')
    let rest := cs.drop (front.length + quotes.length)
    '\'' :: front ++ ['\''] ++ (if quotes = [] then [] else '"' :: quotes ++ ['"']) ++
      (if rest = [] then [] else apart n rest)

/-- A value as a shell shows it, so that it could be read again. -/
def value (s : String) : String := String.ofList (apart (s.length + 1) s.toList)

end HookGate.Shell.Quoting
