import HookGate.Activation.Report
import HookGate.Hook.Decision
import HookGate.Rules.Rule
import HookGate.Rules.RuleSet

/-! # Activation

A prompt is held against every rule; the rules that match are reported. -/

/-! ## Prompts

A prompt without the blanks around it, as it came and in lower case. Keywords and command starts are looked for in
the lower-case form, patterns in the other one. -/
namespace HookGate

structure Prompt where
  raw : String
  folded : String
deriving Repr, DecidableEq

namespace Prompt

def ofInput (input : String) : Prompt :=
  let raw := Text.trim input
  ⟨raw, Text.lower raw⟩

def isEmpty (p : Prompt) : Bool := p.raw.isEmpty

end Prompt

/-- What made a rule match. -/
inductive Criterion
  | keywords
  | intent
deriving Repr, DecidableEq

def Criterion.name : Criterion → String
  | keywords => "keywords"
  | intent => "intent"

namespace Rule

/-- Whether the prompt is exempt from the rule. -/
def exempts (r : Rule) (p : Prompt) : Bool :=
  (r.exclusions.any fun e => e.occursIn p.raw) || r.skipStarts.any fun s => Text.startsWith p.folded s

def matchesKeywords (r : Rule) (p : Prompt) : Bool := r.keywords.any fun k => k.isSatisfiedBy p.folded

def matchesIntent (r : Rule) (p : Prompt) : Bool := r.intents.any fun i => i.occursIn p.raw

/-- The first criterion that the prompt satisfies, keywords before patterns. -/
def criterion? (r : Rule) (p : Prompt) : Option Criterion :=
  if r.matchesKeywords p then some .keywords else if r.matchesIntent p then some .intent else none

end Rule

end HookGate

/-! ## Evaluation -/

namespace HookGate

/-- Records a rule that matches the prompt, unless the prompt is exempt from it. -/
def Matches.consider (p : Prompt) (m : Matches) (r : Rule) : Matches :=
  if r.exempts p || m.contains r.name then m
  else if (r.criterion? p).isSome then m.record r.name r.priority
  else m

/-- The rules that match a prompt, in their order, each name once. -/
def evaluate (rules : List Rule) (p : Prompt) : Matches := rules.foldl (Matches.consider p) {}

structure ActivationEngine where
  rules : RuleSet
  options : ReportOptions := {}

namespace ActivationEngine

def evaluate (e : ActivationEngine) (input : String) : Matches :=
  HookGate.evaluate e.rules.rules (Prompt.ofInput input)

/-- Advises the matched rules, if one is within the threshold. -/
def activate (e : ActivationEngine) (input : String) : Decision :=
  let p := Prompt.ofInput input
  if p.isEmpty then .allow "empty prompt"
  else if e.rules.rules.isEmpty then .allow "no rules loaded"
  else
    let m := HookGate.evaluate e.rules.rules p
    if m.isEmpty then .allow "no rules matched"
    else match Report.render? m e.options with
      | some text => .advise m.names text
      | none => .allow ("matched rules below " ++ e.options.minPriority.name ++ " threshold")

end ActivationEngine

end HookGate
