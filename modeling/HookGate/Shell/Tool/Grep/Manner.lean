import HookGate.Shell.Tool.Grep.Finder
import HookGate.Shell.Tool.Options
import HookGate.Shell.Quoting

/-! # What `grep` is asked for

The options say how patterns are written, which files are searched, and what is told of the lines that are found. -/
namespace HookGate.Shell.Tool.Grep

open Run

/-- How the patterns are written. -/
inductive Writing
  | basic
  | extended
  | fixed
  | ordered
deriving Repr, DecidableEq

/-- Which names of files are told instead of lines. -/
inductive Names
  | matching
  | notMatching
deriving Repr, DecidableEq

/-- What is done with files that hold the character zero. -/
inductive Binary
  /-- Only that they match is told. -/
  | told
  | text
  | unmatched
deriving Repr, DecidableEq

/-- What is done with directories. -/
inductive Directories
  | read
  | recurse (follows : Bool)
  | skip
deriving Repr, DecidableEq

/-- A wildcard for names, and whether the files that it stands for are searched or left out. -/
structure Rule where
  glob : Text.Octets
  includes : Bool
deriving Repr, DecidableEq

structure Manner where
  writing : Option Writing := none
  /-- The patterns with the complaint of where each of them stands. -/
  patterns : Option (List (String × List Char)) := none
  ignoresCase : Bool := false
  extent : Extent := .part
  inverts : Bool := false
  counts : Bool := false
  quiet : Bool := false
  silent : Bool := false
  names : Option Names := none
  onlyMatches : Bool := false
  /-- Whether names stand in front of lines, if that is said. -/
  withNames : Option Bool := none
  numbers : Bool := false
  offsets : Bool := false
  tab : Bool := false
  zeroNames : Bool := false
  zeroLines : Bool := false
  most : Option Nat := none
  before : Option Nat := none
  after : Option Nat := none
  around : Option Nat := none
  separator : Option Text.Octets := some "--"
  label : Option Text.Octets := none
  paints : Bool := false
  binary : Binary := .told
  directories : Directories := .read
  skipsDevices : Option Bool := none
  files : List Rule := []
  directoryRules : List Rule := []

def table : OptionTable where
  letters :=
    (['E', 'F', 'G', 'H', 'I', 'L', 'P', 'T', 'U', 'V', 'a', 'b', 'c', 'h', 'i', 'l', 'n', 'o', 'q', 'R', 'r', 's', 'u',
      'v', 'w', 'x', 'y', 'Z', 'z'].map fun c => (c, .none)) ++
    ['A', 'B', 'C', 'D', 'X', 'd', 'e', 'f', 'm'].map fun c => (c, .required)
  words := [("basic-regexp", .none, "G"), ("extended-regexp", .none, "E"), ("fixed-regexp", .none, "F"),
    ("fixed-strings", .none, "F"), ("perl-regexp", .none, "P"), ("after-context", .required, "A"),
    ("before-context", .required, "B"), ("binary-files", .required, "binary-files"), ("binary", .none, "U"),
    ("byte-offset", .none, "b"), ("context", .required, "C"), ("color", .optional, "color"),
    ("colour", .optional, "color"), ("count", .none, "c"), ("devices", .required, "D"), ("directories", .required, "d"),
    ("exclude", .required, "exclude"), ("exclude-from", .required, "exclude-from"),
    ("exclude-dir", .required, "exclude-dir"), ("file", .required, "f"), ("files-with-matches", .none, "l"),
    ("files-without-match", .none, "L"), ("group-separator", .required, "group-separator"), ("help", .none, "help"),
    ("include", .required, "include"), ("ignore-case", .none, "i"), ("no-ignore-case", .none, "no-ignore-case"),
    ("initial-tab", .none, "T"), ("label", .required, "label"), ("line-buffered", .none, "line-buffered"),
    ("line-number", .none, "n"), ("line-regexp", .none, "x"), ("max-count", .required, "m"), ("no-filename", .none, "h"),
    ("no-group-separator", .none, "no-group-separator"), ("no-messages", .none, "s"), ("null", .none, "Z"),
    ("null-data", .none, "z"), ("only-matching", .none, "o"), ("quiet", .none, "q"), ("recursive", .none, "r"),
    ("dereference-recursive", .none, "R"), ("regexp", .required, "e"), ("invert-match", .none, "v"),
    ("silent", .none, "q"), ("text", .none, "a"), ("unix-byte-offsets", .none, "u"), ("version", .none, "V"),
    ("with-filename", .none, "H"), ("word-regexp", .none, "w")]
  number := some "C"

/-- Why the program does not start. -/
inductive Refusal
  /-- A complaint and its status. -/
  | because (text : String) (status : Nat)
  /-- A complaint, if there is one, and a hint at how the program is used. -/
  | usage (text : Option String) (status : Nat)
deriving Repr, DecidableEq

private abbrev Reading := ExceptT Refusal Run

private def refuseOption {α : Type} (text : String) : Reading α := throw (.because text 2)

/-- A whole number; blanks and a sign may stand in front. -/
private def number? (s : Text.Octets) : Option Int :=
  let cs := s.toList.dropWhile fun c => c == ' ' || ('\t' ≤ c && c ≤ '\r')
  let (isNegative, ds) := match cs with
    | '-' :: ds => (true, ds)
    | '+' :: ds => (false, ds)
    | ds => (false, ds)
  if ds = [] || !(ds.all Char.isDigit) then none
  else
    let n : Int := ds.foldl (fun n c => n * 10 + (c.toNat - '0'.toNat)) (0 : Nat)
    some (if isNegative then -n else n)

/-- How many lines around a match are asked for. -/
private def context (s : Text.Octets) : Reading (Option Nat) := do
  match number? s with
  | some (.ofNat n) => return some n
  | _ => refuseOption (s ++ ": invalid context length argument")

/-- What a file holds that an option names. -/
private def contentOf (path : Text.Octets) : Reading (List Char) := do
  match ← contents path with
  | .ok cs => return cs
  | .error e => refuseOption (path ++ ": " ++ reason e)

/-- The patterns of a text, one a line, each with what a complaint about it says first. -/
private def patternsOf (place : Nat → String) (cs : List Char) : List (String × List Char) :=
  (Text.pieces (· == '\n') cs).zipIdx.map fun (p, i) => (place (i + 1), p)

private def Manner.addPatterns (m : Manner) (ps : List (String × List Char)) : Manner :=
  { m with patterns := some (m.patterns.getD [] ++ ps) }

private def Manner.writtenAs (m : Manner) (w : Writing) : Reading Manner := do
  if m.writing.any (· ≠ w) then refuseOption "conflicting matchers specified"
  return { m with writing := some w }

private def Manner.withDirectories (m : Manner) (s : Text.Octets) : Reading Manner := do
  let ways : List (String × Directories) := [("read", .read), ("recurse", .recurse false), ("skip", .skip)]
  let wrong (what : String) : Reading Manner := throw (.usage (some (what ++ " argument " ++ Quoting.plain s ++
    " for '--directories'\nValid arguments are:" ++ String.join (ways.map fun w => "\n  - '" ++ w.1 ++ "'"))) 1)
  match ways.find? fun w => w.1 = s with
  | some (_, d) => return { m with directories := d }
  | none =>
    match ways.filter fun w => Text.startsWith w.1 s with
    | [] => wrong "invalid"
    | [(_, d)] => return { m with directories := d }
    | _ => wrong "ambiguous"

/-- The patterns of names in a file; blanks at the end of lines do not count. -/
private def rulesOf (cs : List Char) : List Rule :=
  ((Text.pieces (· == '\n') cs).map fun line =>
    String.ofList (line.reverse.dropWhile fun c => c == ' ' || ('\t' ≤ c && c ≤ '\r')).reverse).filterMap fun glob =>
      if glob = "" then none else some ⟨glob, false⟩

private def withoutSlashes (s : Text.Octets) : Text.Octets :=
  let cs := (s.toList.reverse.dropWhile (· == '/')).reverse
  if cs = [] then s else String.ofList cs

/-- Takes an option into account. -/
private def Manner.adding (name : String) (m : Manner) (key : String) (argument : Text.Octets) : Reading Manner := do
  match key with
  | "A" => return { m with after := ← context argument }
  | "B" => return { m with before := ← context argument }
  | "C" => return { m with around := ← context argument }
  | "D" =>
    match argument with
    | "read" => return { m with skipsDevices := some false }
    | "skip" => return { m with skipsDevices := some true }
    | _ => refuseOption "unknown devices method"
  | "E" => m.writtenAs .extended
  | "F" => m.writtenAs .fixed
  | "G" => m.writtenAs .basic
  | "P" => m.writtenAs .ordered
  | "X" =>
    match argument with
    | "grep" => m.writtenAs .basic
    | "egrep" | "awk" | "gawk" | "posixawk" => m.writtenAs .extended
    | "fgrep" => m.writtenAs .fixed
    | "perl" => m.writtenAs .ordered
    | _ => refuseOption ("invalid matcher " ++ argument)
  | "H" => return { m with withNames := some true }
  | "h" => return { m with withNames := some false }
  | "I" => return { m with binary := .unmatched }
  | "T" => return { m with tab := true }
  | "u" =>
    blame name "warning: --unix-byte-offsets (-u) is obsolete"
    return m
  | "a" => return { m with binary := .text }
  | "b" => return { m with offsets := true }
  | "c" => return { m with counts := true }
  | "d" => m.withDirectories argument
  | "e" => return m.addPatterns (patternsOf (fun _ => "") argument.toList)
  | "f" =>
    let cs ← contentOf argument
    let ps := patternsOf (fun i => argument ++ ":" ++ Text.ofNat i ++ ": ") cs
    return m.addPatterns (if ps.getLast?.any (·.2 = []) then ps.dropLast else ps)
  | "i" | "y" => return { m with ignoresCase := true }
  | "no-ignore-case" => return { m with ignoresCase := false }
  | "L" => return { m with names := some .notMatching }
  | "l" => return { m with names := some .matching }
  | "m" =>
    match number? argument with
    | some (.ofNat n) => return { m with most := some n }
    | some _ => return { m with most := none }
    | none => refuseOption "invalid max count"
  | "n" => return { m with numbers := true }
  | "o" => return { m with onlyMatches := true }
  | "q" => return { m with quiet := true }
  | "R" => return { m with directories := .recurse true }
  | "r" => return { m with directories := .recurse false }
  | "s" => return { m with silent := true }
  | "v" => return { m with inverts := true }
  | "w" => return { m with extent := if m.extent = .line then .line else .word }
  | "x" => return { m with extent := .line }
  | "Z" => return { m with zeroNames := true }
  | "z" => return { m with zeroLines := true }
  | "binary-files" =>
    match argument with
    | "binary" => return { m with binary := .told }
    | "text" => return { m with binary := .text }
    | "without-match" => return { m with binary := .unmatched }
    | _ => refuseOption "unknown binary-files type"
  | "color" => return { m with paints := ["always", "yes", "force"].contains argument }
  | "exclude" => return { m with files := m.files ++ [⟨argument, false⟩] }
  | "include" => return { m with files := m.files ++ [⟨argument, true⟩] }
  | "exclude-from" => return { m with files := m.files ++ rulesOf (← contentOf argument) }
  | "exclude-dir" => return { m with directoryRules := m.directoryRules ++ [⟨withoutSlashes argument, false⟩] }
  | "group-separator" => return { m with separator := some argument }
  | "no-group-separator" => return { m with separator := none }
  | "label" => return { m with label := some argument }
  | _ => return m

/-- What some options ask for. -/
def Manner.ofOptions (name : String) (m : Manner) : List Given → Run (Except Refusal Manner)
  | [] => return .ok m
  | .fault s :: _ => return .error (.usage (some s) 2)
  | .option key argument :: rest => do
    match ← (m.adding name key argument).run with
    | .ok m => ofOptions name m rest
    | .error r => return .error r

/-- Takes the first operand as the pattern where no option gives one; a backslash before a hyphen in front does not
count. -/
def Manner.withOperand (m : Manner) : List Text.Octets → Except Refusal (Manner × List Text.Octets)
  | operands =>
    if m.patterns.isSome then .ok (m, operands)
    else match operands with
      | [] => .error (.usage none 2)
      | p :: rest =>
        let cs := p.toList
        let cs := if m.writing ≠ some .fixed ∧ cs.take 2 = ['\\', '-'] then cs.drop 1 else cs
        .ok (m.addPatterns (patternsOf (fun _ => "") cs), rest)

end HookGate.Shell.Tool.Grep
