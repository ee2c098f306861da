import HookGate.Shell.Arithmetic
import HookGate.Shell.Escape
import HookGate.Shell.Format
import HookGate.Shell.Quoting
import HookGate.Text.Utf8

/-! # Formats

What `printf` makes of a format and its arguments. The command of the shell and the program of the same name read
formats alike, but differ in the conversions that they take, in the numbers that they hold and in their complaints. -/
namespace HookGate.Shell.Printf

open Number

inductive Dialect
  | shell
  | program
deriving Repr, DecidableEq

/-- What a format makes, in order. -/
inductive Piece
  | text (cs : List Char)
  | complaint (s : String)
deriving Repr, DecidableEq

/-- Why a format is not gone through to its end. -/
inductive Halt
  /-- An escape ended all output. -/
  | ended
  | failed (complaint : String)
deriving Repr, DecidableEq

/-- What is made so far, the last piece first, and the arguments that are left. -/
structure Progress where
  arguments : List Text.Octets
  pieces : List Piece := []
  /-- Whether an argument was not what it should be. -/
  isFaulty : Bool := false
  /-- Whether the format took an argument. -/
  hasTaken : Bool := false

abbrev Printer := ExceptT Halt (StateM Progress)

private def emit (cs : List Char) : Printer Unit := modify fun s => { s with pieces := .text cs :: s.pieces }

private def warn (text : String) : Printer Unit := modify fun s => { s with pieces := .complaint text :: s.pieces }

private def blame (text : String) : Printer Unit := do
  warn text
  modify fun s => { s with isFaulty := true }

private def argument? : Printer (Option (List Char)) := do
  match (← get).arguments with
  | [] => return none
  | a :: rest =>
    modify fun s => { s with arguments := rest, hasTaken := true }
    return some a.toList

/-! ## Numbers -/

/-- Complains of an argument that is no number as a whole; `rest` stands behind its number. -/
private def check (d : Dialect) (cs : List Char) (isFound isOut : Bool) (rest : List Char) : Printer Unit := do
  let range := "Numerical result out of range"
  let s := String.ofList cs
  match d with
  | .shell =>
    if rest ≠ [] then blame (s ++ (if isFound then ": not completely converted" else ": expected numeric value"))
    else if isOut then blame (s ++ ": " ++ range)
  | .program =>
    let s := Quoting.plain s
    if isOut then blame (s ++ ": " ++ range)
    else if rest ≠ [] then
      blame (s ++ (if isFound then ": value not completely converted" else ": expected a numeric value"))

/-- The number of the character behind a quote, if an argument starts with one. -/
private def quoted? (d : Dialect) : List Char → Printer (Option Nat)
  | q :: r => do
    if q ≠ '\'' ∧ q ≠ '"' then return none
    match d, r with
    | .shell, _ => return some ((r.head?.map Char.toNat).getD 0)
    | .program, [] => return none
    | .program, c :: more =>
      if more ≠ [] then
        warn ("warning: " ++ String.ofList more ++
          ": character(s) following character constant have been ignored")
      return some c.toNat
  | [] => return none

/-- The number of 64 bits that an argument writes, with a sign or as a number of the machine. -/
private def wholeOf (d : Dialect) (signed : Bool) (cs : List Char) : Printer Int := do
  match ← quoted? d cs with
  | some n => return n
  | none =>
    let (isFound, n, rest) := Arithmetic.signedNumber cs
    if signed then
      let v : Int := max (-0x8000000000000000) (min n 0x7FFFFFFFFFFFFFFF)
      check d cs isFound (v ≠ n) rest
      return v
    else
      let isOut := 0xFFFFFFFFFFFFFFFF < n.natAbs
      check d cs isFound isOut rest
      return if isOut then 0xFFFFFFFFFFFFFFFF else n % 0x10000000000000000

/-- The next argument as a number, which is zero if there is none. -/
private def nextWhole (d : Dialect) (signed : Bool) : Printer Int := do
  match ← argument? with
  | some cs => wholeOf d signed cs
  | none => return 0

private def floatFormat : Dialect → FloatFormat
  | .shell => .double
  | .program => .extended

private def nextFloating (d : Dialect) : Printer Floating := do
  let format := floatFormat d
  match ← argument? with
  | none => return ⟨false, .finite 0 0⟩
  | some cs =>
    match ← quoted? d cs with
    | some n => return ⟨false, .finite n 0⟩
    | none =>
      match format.read? cs with
      | some (x, isOut, rest) =>
        check d cs true isOut rest
        return x
      | none =>
        check d cs false false cs
        return ⟨false, .finite 0 0⟩

/-! ## Conversions -/

/-- How a width or a precision is given. -/
private inductive Measure
  | missing
  | number (n : Nat)
  /-- By an argument. -/
  | argument

/-- What stands between a percent sign and the letter of its conversion. -/
private structure Directive where
  flags : List Char
  width : Measure
  precision : Measure

private def numeral (cs : List Char) : Nat := cs.foldl (fun n c => n * 10 + (c.toNat - 0x30)) 0

private def measure (cs : List Char) : Measure × List Char :=
  match cs with
  | '*' :: r => (.argument, r)
  | _ =>
    let digits := cs.takeWhile Char.isDigit
    (if digits = [] then Measure.missing else .number (numeral digits), cs.drop digits.length)

/-- The directive behind a percent sign, and what follows it. -/
private def directive (d : Dialect) (cs : List Char) : Directive × List Char :=
  let flags := cs.takeWhile fun c =>
    ['#', '-', '+', ' ', '0'].contains c || (d = .program && (c == '\'' || c == 'I'))
  let (width, rest) := measure (cs.drop flags.length)
  let (precision, rest) : Measure × List Char := match rest with
    | '.' :: r => match measure r with
      | (.missing, r) => (.number 0, r)
      | m => m
    | _ => (.missing, rest)
  let isSize (c : Char) : Bool := d = .program && ['l', 'L', 'h', 'j', 't', 'z'].contains c
  (⟨flags, width, precision⟩, rest.dropWhile isSize)

/-- The number that a width or a precision takes from an argument. -/
private def nextMeasure (d : Dialect) (name : String) : Printer Int := do
  match d with
  | .shell => return (← nextWhole d true).bmod 0x100000000
  | .program =>
    match ← argument? with
    | none => return 0
    | some cs =>
      let n ← wholeOf d true cs
      let isLow := n < -0x80000000
      if 0x7FFFFFFF < n ∨ (isLow ∧ name = "field width") then
        throw (.failed ("invalid " ++ name ++ ": " ++ Quoting.plain (String.ofList cs)))
      return if isLow then -1 else n

private def layoutOf (d : Dialect) (x : Directive) : Printer Layout := do
  let l : Layout := x.flags.foldl (fun l c => (l.flag c).getD l) {}
  let l ← match x.width with
    | .missing => pure l
    | .number n => pure { l with width := n }
    | .argument => pure (l.ofWidth (← nextMeasure d "field width"))
  match x.precision with
  | .missing => return l
  | .number n => return { l with precision := some n }
  | .argument => return l.ofPrecision (← nextMeasure d "precision")

/-- Whether the program takes a conversion with the flags and the precision that stand before it. -/
private def isTaken (x : Directive) (letter : Char) : Bool :=
  let has (c : Char) : Bool := x.flags.contains c
  let bars (flag : Bool) (letters : List Char) : Bool := flag && letters.contains letter
  (['c', 'd', 'i', 'o', 's', 'u', 'x', 'X'] ++ Layout.floatLetters).contains letter &&
    !bars (has '\'' || has 'I') ['a', 'A', 'c', 'e', 'E', 'o', 's', 'x', 'X'] &&
    !bars (has '#') ['c', 'd', 'i', 's', 'u'] && !bars (has '0') ['c', 's'] &&
    !bars (!(x.precision matches .missing)) ['c']

/-- The text of an argument in which escapes stand for characters; `true` if one of them ends all output. -/
private def unescaped : Nat → List Char → Printer Unit
  | 0, _ => return ()
  | _, [] => return ()
  | n + 1, '\\' :: r => do
    let (made, rest) := Escape.inProgramFormat true r
    match made with
    | .text cs => emit cs
    | .ended => throw .ended
    | .broken complaint => throw (.failed complaint)
    unescaped n rest
  | n + 1, c :: r => do
    emit [c]
    unescaped n r

private def convert (d : Dialect) (l : Layout) (letter : Char) : Printer Unit := do
  match letter with
  | 'b' =>
    let (cs, ended) := Escape.ofArgument ((← argument?).getD [])
    emit (l.text cs)
    if ended then throw .ended
  | 'c' =>
    let c := ((← argument?).bind List.head?).getD '\x00'
    emit (l.pad [c])
  | 's' => emit (l.text ((← argument?).getD []))
  | _ =>
    if letter = 'd' ∨ letter = 'i' then emit (l.signed (← nextWhole d true))
    else if Layout.floatLetters.contains letter then emit (l.floating (floatFormat d) letter (← nextFloating d))
    else emit (l.unsigned letter (← nextWhole d false).toNat)

private def letters : List Char := ['b', 'c', 'd', 'i', 'o', 's', 'u', 'x', 'X'] ++ Layout.floatLetters

/-- What stands behind a percent sign; the rest of the format is given back. -/
private def percent (d : Dialect) (cs : List Char) : Printer (List Char) := do
  let own : Option (List Char → Printer Unit) := match d, cs with
    | .program, 'b' :: _ => some fun a => unescaped (a.length + 1) a
    | .program, 'q' :: _ => some fun a => emit (Quoting.whereNeeded (String.ofList a)).toList
    | _, _ => none
  match own with
  | some f =>
    if let some a ← argument? then f a
    return cs.drop 1
  | none =>
    let (x, rest) := directive d cs
    let shown (rest : List Char) : String := String.ofList ('%' :: cs.take (cs.length - rest.length))
    let l ← layoutOf d x
    match rest with
    | [] => throw (.failed (match d with
      | .shell => "missing format character"
      | .program => shown [] ++ ": invalid conversion specification"))
    | letter :: rest =>
      match d with
      | .shell => if !letters.contains letter then throw (.failed (shown rest ++ ": invalid directive"))
      | .program => if !isTaken x letter then throw (.failed (shown rest ++ ": invalid conversion specification"))
      convert d l letter
      return rest

/-- Goes through a format once. -/
private def once (d : Dialect) : Nat → List Char → Printer Unit
  | 0, _ => return ()
  | _, [] => return ()
  | n + 1, '\\' :: r => do
    match d with
    | .shell =>
      let (c, rest) := Escape.inFormat r
      emit [c]
      once d n rest
    | .program =>
      let (made, rest) := Escape.inProgramFormat false r
      match made with
      | .text cs => emit cs
      | .ended => throw .ended
      | .broken complaint => throw (.failed complaint)
      once d n rest
  | n + 1, '%' :: '%' :: r => do
    emit ['%']
    once d n r
  | n + 1, '%' :: r => do once d n (← percent d r)
  | n + 1, c :: r => do
    emit [c]
    once d n r

/-- Goes through a format again as long as arguments are left that it takes. -/
private def again (d : Dialect) (format : List Char) : Nat → Printer Unit
  | 0 => return ()
  | n + 1 => do
    modify fun s => { s with hasTaken := false }
    once d (format.length + 1) format
    let s ← get
    if s.hasTaken && !s.arguments.isEmpty then again d format n
    else if let (.program, a :: _) := (d, s.arguments) then
      warn ("warning: ignoring excess arguments, starting with " ++ Quoting.plain a)

/-- What a format makes of its arguments. -/
structure Printed where
  /-- Texts and complaints, in order. -/
  pieces : List Piece
  /-- Whether an argument was not what it should be. -/
  isFaulty : Bool
  /-- The complaint of a format that is none. -/
  failure? : Option String
deriving Repr, DecidableEq

def print (d : Dialect) (format : Text.Octets) (arguments : List Text.Octets) : Printed :=
  let (result, s) := again d format.toList (arguments.length + 1) { arguments }
  { pieces := s.pieces.reverse
    isFaulty := s.isFaulty
    failure? := match result with
      | .error (.failed complaint) => some complaint
      | .error .ended | .ok () => none }

end HookGate.Shell.Printf
