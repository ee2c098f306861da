import HookGate.Shell.Printf
import HookGate.Shell.Tool.Options

/-! # The programs `echo` and `printf` -/
namespace HookGate.Shell.Tool

open Run

/-- Prints its arguments; letters in front of them tell whether escapes stand for characters and the line ends. -/
def echo (name : String) (args : List Text.Octets) : Run Nat := do
  let isOption (a : String) : Bool := match a.toList with
    | '-' :: c :: cs => (c :: cs).all fun d => ['n', 'e', 'E'].contains d
    | _ => false
  let options := args.takeWhile isOption
  let letters := options.flatMap fun o => o.toList.drop 1
  let escapes := (letters.reverse.find? fun c => c ≠ 'n') = some 'e'
  let body := (Text.joinWith " " (args.drop options.length)).toList
  let (body, ended) := if escapes then Escape.inEcho (body.length + 1) body else (body, false)
  output name (String.ofList (if ended || letters.contains 'n' then body else body ++ ['\n'])) 1

def printf (name : String) (args : List Text.Octets) : Run Nat := do
  match if args.head? = some "--" then args.drop 1 else args with
  | [] =>
    blame name "missing operand"
    hint name
  | format :: rest =>
    let printed := Printf.print .program format rest
    let mut failed := printed.isFaulty || printed.failure?.isSome
    let mut refused : Option OsError := none
    for piece in printed.pieces do
      match piece with
      | .text cs =>
        if refused.isNone then
          if let .error e ← write 1 (String.ofList cs) then refused := some e
      | .complaint s => blame name s
    if let some s := printed.failure? then blame name s
    if let some e := refused then
      blame name ("write error: " ++ e.text)
      failed := true
    return if failed then 1 else 0

end HookGate.Shell.Tool
