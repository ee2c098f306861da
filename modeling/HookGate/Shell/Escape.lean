import HookGate.Text.Basic

/-! # Escapes

What a backslash and the characters behind it stand for in texts that are printed. Texts hold bytes, each character
standing for the byte of its number. -/
namespace HookGate.Shell.Escape

/-- The byte of octal digits. -/
private def octal (digits : List Char) : Char :=
  Char.ofNat (digits.foldl (fun n c => n * 8 + (c.toNat - 0x30)) 0 % 256)

private def isOctal (c : Char) : Bool := '0' ≤ c && c ≤ '7'

private def octalDigits (cs : List Char) : List Char := (cs.take 3).takeWhile isOctal

private def control? : Char → Option Char
  | 'a' => some '\x07'
  | 'b' => some '\x08'
  | 'e' => some '\x1b'
  | 'f' => some '\x0c'
  | 'n' => some '\n'
  | 'r' => some '\r'
  | 't' => some '\t'
  | 'v' => some '\x0b'
  | '\\' => some '\\'
  | _ => none

/-- The character of what follows a backslash in a format of the shell, and the rest; other backslashes stay. -/
def inFormat (cs : List Char) : Char × List Char :=
  match octalDigits cs, cs with
  | d :: ds, _ => (octal (d :: ds), cs.drop (ds.length + 1))
  | [], c :: r =>
    match control? c with
    | some k => (k, r)
    | none => ('\\', cs)
  | [], [] => ('\\', [])

/-- The text that the shell makes of an argument with escapes; `\c` ends all output, which the second part tells. Octal
numbers may have a zero in front. -/
def inArgument : Nat → List Char → List Char × Bool
  | 0, _ => ([], false)
  | _, [] => ([], false)
  | n + 1, '\\' :: r =>
    match r with
    | 'c' :: _ => ([], true)
    | _ =>
      let r := match r with
        | '0' :: d :: _ => if isOctal d then r.drop 1 else r
        | _ => r
      let (c, rest) := inFormat r
      let (more, ended) := inArgument n rest
      (c :: more, ended)
  | n + 1, c :: r =>
    let (more, ended) := inArgument n r
    (c :: more, ended)

def ofArgument (cs : List Char) : List Char × Bool := inArgument (cs.length + 1) cs

/-! ## Escapes of programs -/

private def isHex (c : Char) : Bool := c.isDigit || ('a' ≤ c.toLower && c.toLower ≤ 'f')

/-- The number of hexadecimal digits. -/
private def hex (cs : List Char) : Nat :=
  cs.foldl (fun n c => n * 16 + (if c.isDigit then c.toNat - 0x30 else c.toLower.toNat - 0x61 + 10)) 0

/-- What an escape of a program makes. -/
inductive Made
  | text (cs : List Char)
  /-- The end of all output. -/
  | ended
  | broken (complaint : String)

/-- Hexadecimal digits in capital letters, at least so many. -/
private def hexText (least n : Nat) (capitals : Bool) : String :=
  let digits := Nat.toDigits 16 n
  let digits := List.replicate (least - digits.length) '0' ++ digits
  String.ofList (if capitals then digits.map Char.toUpper else digits)

/-- What follows a backslash in a format of `printf`; with `zero`, octal numbers may have a zero in front. -/
def inProgramFormat (zero : Bool) (cs : List Char) : Made × List Char :=
  let missing := Made.broken "missing hexadecimal number in escape"
  match cs with
  | 'x' :: r =>
    let digits := (r.take 2).takeWhile isHex
    (if digits = [] then missing else .text [Char.ofNat (hex digits)], r.drop digits.length)
  | 'c' :: _ => (.ended, [])
  | '"' :: r => (.text ['"'], r)
  | u :: r =>
    if u = 'u' ∨ u = 'U' then
      let size := if u = 'u' then 4 else 8
      let digits := (r.take size).takeWhile isHex
      let n := hex digits
      let made := if digits.length < size then missing
        else if 0xD800 ≤ n ∧ n < 0xE000 then
          .broken ("invalid universal character name \\" ++ String.ofList [u] ++ hexText size n false)
        else if n < 0x80 then .text [Char.ofNat n]
        else if n < 0x10000 then .text (("\\u" ++ hexText 4 n true).toList)
        else .text (("\\U" ++ hexText 8 n true).toList)
      (made, r.drop digits.length)
    else if isOctal u then
      let digits := octalDigits (if zero && u = '0' then r else cs)
      (.text [octal digits], (if zero && u = '0' then r else cs).drop digits.length)
    else match control? u with
      | some k => (.text [k], r)
      | none => (.text ['\\', u], r)
  | [] => (.text ['\\'], [])

/-- The text that the program `echo` makes of its arguments, and whether it ends all output. -/
def inEcho : Nat → List Char → List Char × Bool
  | 0, _ => ([], false)
  | _, [] => ([], false)
  | n + 1, '\\' :: c :: r =>
    let goOn (front : List Char) (rest : List Char) : List Char × Bool :=
      let (more, ended) := inEcho n rest
      (front ++ more, ended)
    if c = 'c' then ([], true)
    else if c = 'x' then
      let digits := (r.take 2).takeWhile isHex
      if digits = [] then goOn ['\\', 'x'] r else goOn [Char.ofNat (hex digits)] (r.drop digits.length)
    else if isOctal c then
      let digits := octalDigits (if c = '0' then r else c :: r)
      goOn [octal digits] ((if c = '0' then r else c :: r).drop digits.length)
    else goOn (match control? c with
      | some k => [k]
      | none => ['\\', c]) r
  | n + 1, c :: r =>
    let (more, ended) := inEcho n r
    (c :: more, ended)

end HookGate.Shell.Escape
