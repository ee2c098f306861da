import HookGate.Shell.Tool.Grep.Report
import HookGate.Shell.Tool.Grep.Targets

/-! # The program `grep`

Lines are searched for patterns. The status tells whether any line was found, and errors go before that unless nothing
is to be told of them. -/
namespace HookGate.Shell.Tool

open Run

namespace Grep

/-- Complains with a hint at the use of the program. -/
private def refuse (name : String) : Refusal → Run Nat
  | .because text status => do
    blame name text
    return status
  | .usage text status => do
    if let some text := text then blame name text
    complain "Usage: grep [OPTION]... PATTERNS [FILE]..."
    complain "Try 'grep --help' for more information."
    return status

/-- How lines are searched for patterns, with what is to be said about them, or all that is wrong with them. -/
private def finder (m : Manner) (patterns : List (String × List Char)) (extent : Extent) :
    Except (List String) (Finder × List LinePattern.Remark) :=
  if m.writing = some .ordered then
    match patterns with
    | [(_, text)] =>
      match OrderedPattern.read m.ignoresCase (Finder.orderedText extent text) with
      | .ok p => .ok (Finder.ofOrdered p extent, [])
      | .error f => .error [f.message]
    | _ => .error ["the -P option only supports a single pattern"]
  else
  let made := (patterns.map fun (place, text) => match m.writing with
    | some .fixed => (place, .ok (LinePattern.ofText text, []))
    | some .extended => (place, LinePattern.read .extended m.ignoresCase text)
    | _ => (place, LinePattern.read .basic m.ignoresCase text) :
      List (String × Except LinePattern.Fault (LinePattern × List LinePattern.Remark)))
  let faults := made.filterMap fun
    | (place, .error f) => some (place ++ f.message)
    | _ => none
  let read := made.filterMap fun (_, r) => r.toOption
  if faults = [] then .ok (Finder.ofPatterns (read.map (·.1)) m.ignoresCase extent, read.flatMap (·.2)) else .error faults

/-- The file that a descriptor leads to. -/
private def fileAt (descriptor : Nat) : Run (Option Nat) := do
  match ← stream? descriptor with
  | some (_, .file identity _ _) => return some identity
  | _ => return none

/-- The file at a path, or that at the input for a hyphen. -/
private def fileOf (path : Text.Octets) : Run (Option Nat) := do
  if path = "-" then fileAt 0
  else
    let s ← get
    match s.machine.files.find? s.cwd (pathOf path) with
    | some (.file identity _ _) => return some identity
    | _ => return none

/-- How many digits the numbers of a file may need. -/
private def width (m : Manner) (file? : Option Nat) : Run Nat := do
  if !m.tab then return 0
  match file? with
  | none => return 19
  | some identity =>
    let size := ((← get).machine.files.contentOf identity).length
    return (Text.ofNat (size + (if m.numbers then 1 else 0))).length

/-- How the search of one file went. -/
private structure Searched where
  isUsed : Bool
  isFound : Bool := false
  hasFailed : Bool := false
  /-- Whether the output cannot be written. -/
  isBroken : Bool := false

/-- Searches a file; `isUsed` tells whether lines were found in another one. -/
private def searchFile (name : String) (m : Manner) (f : Finder) (hasNames isUsed : Bool) (path : Text.Octets) :
    Run Searched := do
  let shown := if path = "-" then m.label.getD "(standard input)" else path
  let failure (text : String) : Run Searched := do
    if !m.silent then blame name (shown ++ ": " ++ text)
    return { isUsed, hasFailed := true }
  let here ← if path = "-" then readable 0 |>.map fun r => r.mapError SystemError.os else contentsOf path
  let cs ← match here with
    | .error e => return ← failure (reason e)
    | .ok cs => pure cs
  let stopsAtFirst := m.quiet || m.names.isSome
  let file? ← fileOf path
  if !stopsAtFirst && !m.counts && m.most ≠ some 1 && file?.isSome && (← fileAt 1) = file? then
    return ← failure "input file is also the output"
  let isBinary := m.binary ≠ .text && !m.zeroLines && cs.contains '\x00'
  let isTold := isBinary && !stopsAtFirst && !m.counts
  let lines :=
    if isBinary && m.binary = .unmatched then []
    else if m.zeroLines then linesOf (· == '\x00') cs
    else linesOf (fun c => c == '\n' || (isBinary && c == '\x00')) cs
  let view : View :=
    { manner := m, finder := f, name := shown, hasName := hasNames, width := ← width m file?
      isHidden := stopsAtFirst || m.counts || isTold }
  let (r, isFull) := Report.ofLines view isUsed (stopsAtFirst || isTold) lines
  if path = "-" then setReadable 0 (if isFull && !stopsAtFirst && file?.isSome then cs.drop r.place else [])
  let isFound := r.found ≠ 0
  let counted :=
    if m.counts && !stopsAtFirst then
      [(if hasNames then view.nameBefore ":" else "") ++ Text.ofNat r.found ++ "\n"]
    else []
  let isNamed := !m.quiet && m.names = some (if isFound then .matching else .notMatching)
  let named := if isNamed then [view.paint "35" shown ++ (if m.zeroNames then "\x00" else "\n")] else []
  let status ← output name (String.join (r.output.reverse ++ counted ++ named)) 2
  if isTold && isFound then blame name (shown ++ ": binary file matches")
  return { isUsed := r.isUsed, isFound, isBroken := status ≠ 0 }

end Grep

open Grep in
/-- Searches files for lines that match patterns. -/
def grep (name : String) (args : List Text.Octets) : Run Nat := do
  let (given, operands) := table.read args
  match ← Manner.ofOptions name {} given with
  | .error r => refuse name r
  | .ok m =>
  match m.withOperand operands with
  | .error r => refuse name r
  | .ok (m, operands) =>
  let patterns := m.patterns.getD []
  let isEmpty := patterns.all (·.2 = [])
  let inverts := m.inverts != patterns.isEmpty
  let extent := if patterns.isEmpty then .part else m.extent
  let m := { m with inverts }
  if (m.most = some 0 || (isEmpty && inverts && extent = .part)) && (m.quiet || m.names ≠ some .notMatching) then return 1
  let patterns := if patterns.isEmpty then [("", [])] else patterns
  match finder m patterns extent with
  | .error complaints =>
    for c in complaints do blame name c
    return 2
  | .ok (f, remarks) =>
    for r in remarks do
      match r with
      | .idle sign => blame name ("warning: " ++ sign ++ " at start of expression")
      | .refusal fault =>
        blame name fault.message
        return 2
    let s ← get
    let fs := s.machine.files
    let groups : List (List Target × Bool) := match operands, m.directories with
      | [], .recurse follows => [(Target.here fs s.cwd m follows, true)]
      | [], _ => [([.file "-"], false)]
      | _, _ => operands.map (Target.ofArgument fs s.cwd m)
    let mut isUsed := false
    let mut isFound := false
    let mut hasFailed := false
    for (targets, isBelow) in groups do
      for target in targets do
        match target with
        | .complaint text =>
          if !m.silent then blame name text
          hasFailed := true
        | .warning text => if !m.silent then blame name text
        | .file path =>
          let r ← searchFile name m f (m.withNames.getD (isBelow || operands.length > 1)) isUsed path
          isUsed := r.isUsed
          isFound := isFound || r.isFound
          hasFailed := hasFailed || r.hasFailed
          if r.isBroken then return 2
          if m.quiet && isFound then return 0
    return if hasFailed then 2 else if isFound then 0 else 1

end HookGate.Shell.Tool
