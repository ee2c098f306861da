import HookGate.Number.Floating
import HookGate.Shell.Tool.Options
import HookGate.Shell.Quoting

/-! # The program `sleep` -/
namespace HookGate.Shell.Tool

open Number Run

/-- How many milliseconds a unit of time has. -/
private def unit? : List Char → Option Nat
  | [] | ['s'] => some 1000
  | ['m'] => some 60000
  | ['h'] => some 3600000
  | ['d'] => some 86400000
  | _ => none

/-- A span such as `1.5` or `2m` in milliseconds; one without an end is longer than all others. -/
def span? (s : Text.Octets) : Option Nat := do
  let (x, _, rest) ← FloatFormat.double.read? s.toList
  let unit ← unit? rest
  match x.magnitude with
  | .notNumber => none
  | .infinite => if x.isNegative then none else some 1000000000000000000
  | .finite m e =>
    if x.isNegative && m ≠ 0 then none
    else
      let (num, den) := powered m 2 e
      some ((num * unit + den - 1) / den)

def sleep (name : String) (args : List Text.Octets) : Run Nat := do
  let table : OptionTable :=
    { letters := [], words := [("help", .none, "help"), ("version", .none, "version")] }
  let (given, spans) := table.read args
  if let some (.fault s) := given.find? fun g => g matches .fault _ then
    blame name s
    return ← hint name
  if spans.isEmpty then
    blame name "missing operand"
    return ← hint name
  let wrong := spans.filter fun s => (span? s).isNone
  for s in wrong do blame name ("invalid time interval " ++ Quoting.plain s)
  if !wrong.isEmpty then return ← hint name
  wait ((spans.filterMap span?).foldl (· + ·) 0)
  return 0

end HookGate.Shell.Tool
