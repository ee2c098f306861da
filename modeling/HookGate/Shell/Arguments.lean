import HookGate.Shell.Condition

/-! # Arguments of the commands of a shell

Options come first, as letters behind a hyphen; what is not as it should be makes the command fail. -/
namespace HookGate.Shell.Arguments

open Run

/-- The options of one argument; `known` tells which letters there are, and which of them take a value. -/
private def word (known : List (Char × Bool)) (rest : List Text.Octets) :
    List Char → Run (List (Char × Text.Octets) × List Text.Octets)
  | [] => return ([], rest)
  | c :: cs => do
    match known.lookup c with
    | none => failShell ("Illegal option -" ++ String.ofList [c])
    | some false =>
      let (more, rest) ← word known rest cs
      return ((c, "") :: more, rest)
    | some true =>
      if cs ≠ [] then return ([(c, String.ofList cs)], rest)
      else match rest with
        | value :: rest => return ([(c, value)], rest)
        | [] => failShell ("No arg for -" ++ String.ofList [c] ++ " option")

private def options (known : List (Char × Bool)) :
    Nat → List Text.Octets → Run (List (Char × Text.Octets) × List Text.Octets)
  | 0, args => return ([], args)
  | _, [] => return ([], [])
  | n + 1, a :: rest => do
    match a.toList with
    | ['-', '-'] => return ([], rest)
    | '-' :: c :: cs =>
      let (front, rest) ← word known rest (c :: cs)
      let (more, operands) ← options known n rest
      return (front ++ more, operands)
    | _ => return ([], a :: rest)

/-- The options of a command with their values, and its other arguments. -/
def read (known : List (Char × Bool)) (args : List Text.Octets) :
    Run (List (Char × Text.Octets) × List Text.Octets) := options known (args.length + 1) args

/-- The arguments of a command without options. -/
def plain (args : List Text.Octets) : Run (List Text.Octets) := do return (← read [] args).2

/-- The number that an argument writes. -/
def number (text : Text.Octets) : Run Nat := do
  match Condition.number? text with
  | some n => if 0 ≤ n ∧ n ≤ 0x7FFFFFFF then return n.toNat else wrong
  | none => wrong
where
  wrong : Run Nat := failShell ("Illegal number: " ++ text)

end HookGate.Shell.Arguments
