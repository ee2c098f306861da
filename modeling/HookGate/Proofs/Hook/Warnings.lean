import HookGate.Proofs.Audit.Line
import HookGate.Proofs.Hook.Matched
import HookGate.Proofs.Rules.File

/-!
# What the log tells of a rule file

Everything that was wrong with the rule file of an activation stands in its entry, in the order in
which it was met, whatever the engine decides with the rules that are left. If the engine says
nothing the entry is an error.
-/

namespace HookGate

namespace Invocation

variable {W : Type} (host : Host (StateM W)) (s : Settings) (e : Environment) (inv : Invocation)

end Invocation

end HookGate
