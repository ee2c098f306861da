import Mathlib
import HookGate.Proofs.Audit.Line
import HookGate.Proofs.Hook.Frame

/-!
# The log of many runs

Runs that share a log add one line each, in their order, to what the log held before. That is so as
long as nothing but the log's writer touches the file. A run that stages an agent's text at the path
of the log takes the log away with it.
-/

namespace HookGate

variable {W : Type}

/-- A run to be made. -/
structure Call where
  settings : Settings := {}
  environment : Environment
  invocation : Invocation
  stdin : String

namespace Call

variable (host : Host (StateM W)) (log : AuditLog (StateM W))

def run (c : Call) : StateM W (Output × Except SystemError Unit) :=
  c.invocation.run host c.settings c.environment log c.stdin

/-- What a run records: the time at its end, and its entry. -/
def record (c : Call) (w : W) : String × AuditEntry :=
  let r := runIn (c.invocation.result host c.settings c.environment c.stdin) w
  ((runIn host.timestamp r.2).1, r.1.entry)

end Call

/-- The line of a record, with its end. -/
def lineOf (r : String × AuditEntry) : List UInt8 := Text.encode (r.2.line r.1 ++ "\n")

section

variable (held : W → Option (List UInt8))

/-- The log file, if it is there, holds what it held. -/
def SameLog (w w' : W) : Prop := held w' = held w

instance : Persists (SameLog held) where
  refl _ := rfl
  trans h₁ h₂ := h₂.trans h₁

/-- Nothing that runs do before they record touches the log file. -/
structure SpareLog (host : Host (StateM W)) (calls : List Call) : Prop where
  asks : host.AsksOnly (SameLog held)
  launches : ∀ l, Leaves (SameLog held) (host.launch l)
  staging : ∀ c ∈ calls,
    c.invocation.SparesAll host (SameLog held) c.settings c.environment c.stdin

end

section

variable {held : W → Option (List UInt8)} {host : Host (StateM W)} {write : LogWriter (StateM W)}

theorem SpareLog.head {c : Call} {cs : List Call} (h : SpareLog held host (c :: cs)) :
    SpareLog held host [c] :=
  ⟨h.asks, h.launches, fun _ hc => h.staging _ (List.mem_singleton.mp hc ▸ List.mem_cons_self)⟩

theorem SpareLog.tail {c : Call} {cs : List Call} (h : SpareLog held host (c :: cs)) :
    SpareLog held host cs :=
  ⟨h.asks, h.launches, fun _ hc => h.staging _ (List.mem_cons_of_mem _ hc)⟩

end

/-! ## A machine with one file -/

/-- A machine without programs. Of its files, only the one at this path is of interest; it may come and
go, and all others are written and removed without a trace. -/
def Host.withFile (path : String) : Host (StateM (Option (List UInt8))) where
  isThere p := do return p == path && (← get).isSome
  isFile p := do return p == path && (← get).isSome
  listing? _ := pure none
  readText _ := pure (.error (.os .denied))
  makeDirectories _ := pure (.ok ())
  writeText p text := do
    if p == path then set (some (Text.encode text))
    return .ok ()
  removeFile p := do
    if p == path then set (none : Option (List UInt8))
    return .ok ()
  launch l := pure (.error (.missing l.program))
  openLog? _ := pure none
  timestamp := pure "2026-01-01T00:00:00Z"

/-- Adds a line to the file of such a machine. What is added to a file that was removed goes with it. -/
def appendLine : LogWriter (StateM (Option (List UInt8))) := fun line => do
  modify (Option.map (· ++ Text.encode (line ++ "\n")))
  return .ok ()

/-- A run on an agent's text, which is staged for a parser. -/
def stagingCall : Call where
  environment := .ofDir "/p"
  invocation := { mode := .postprocess, rawText := true }
  stdin := "===== SEMGREP_RULE_OUTPUT_START =====\n===== SEMGREP_RULE_OUTPUT_END ====="

end HookGate
