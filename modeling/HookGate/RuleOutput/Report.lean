import HookGate.Text.Basic

/-! # What became of rule output

The parser of rule output tells on its standard output which files it made and how their tests went. The outcome is
shown as a short text with headings. -/
namespace HookGate.RuleOutput

def startMarker : String := "===== SEMGREP_RULE_OUTPUT_START ====="

def endMarker : String := "===== SEMGREP_RULE_OUTPUT_END ====="

/-- Whether a text holds rule output. -/
def isIn (text : String) : Bool := Text.contains text startMarker && Text.contains text endMarker

inductive TestResult
  | passed
  | failed
deriving Repr, DecidableEq

structure Outcome where
  success : Bool := false
  filesCreated : List String := []
  testResult : Option TestResult := none
  errors : List String := []
deriving Repr, DecidableEq

namespace Outcome

def failure (error : String) : Outcome := { errors := [error] }

def lines (o : Outcome) : List String :=
  if o.success then
    ["## ✅ Semgrep rule processing succeeded\n"] ++
    (if o.filesCreated = [] then []
      else "### Files created:" :: o.filesCreated.map (fun f => "- `" ++ f ++ "`") ++ [""]) ++
    (match o.testResult with
      | some .passed => ["### Test result: ✅ passed"]
      | some .failed => ["### Test result: ❌ failed"]
      | none => [])
  else
    ["## ❌ Semgrep rule processing failed\n"] ++
    (if o.errors = [] then [] else "### Errors:" :: o.errors.map ("- " ++ ·))

def render (o : Outcome) : String := Text.joinWith "\n" o.lines

end Outcome

/-- The marks with which a line tells of a file, the preferred one first. -/
def fileMarks : List String := ["✅ 创建文件:", "Created file:"]

def passedMarks : List String := ["测试命令执行成功", "Test command succeeded"]

def failedMarks : List String := ["测试命令执行失败", "Test command failed"]

/-- The file of which a line tells. -/
def fileOfLine? (line : String) : Option String :=
  ((fileMarks.findSome? fun mark => Text.afterStart? mark line).map Text.trim).filter fun f => !f.isEmpty

def files (stdout : String) : List String := (Text.lines stdout).filterMap fileOfLine?

def testResult? (stdout : String) : Option TestResult :=
  if passedMarks.any (Text.contains stdout) then some .passed
  else if failedMarks.any (Text.contains stdout) then some .failed
  else none

end HookGate.RuleOutput
