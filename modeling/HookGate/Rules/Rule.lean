import HookGate.Pattern.Compiled
import HookGate.Rules.Priority
import HookGate.Text.Case.Lower

/-! # Activation rules

A rule names a skill and says for which prompts it is suggested, and for which ones never. -/

/-! ## Keyword phrases

A phrase is satisfied by an input that contains each of its words somewhere, in any order. -/
namespace HookGate

/-- The lower-case words of a phrase. -/
structure KeywordPhrase where
  tokens : List String
deriving Repr, DecidableEq

namespace KeywordPhrase

/-- The phrase of a text that has at least one word. -/
def ofText? (phrase : String) : Option KeywordPhrase :=
  match (Text.words phrase).map Text.lower with
  | [] => none
  | tokens => some ⟨tokens⟩

/-- Whether an input that is in lower case already contains every word. -/
def isSatisfiedBy (phrase : KeywordPhrase) (folded : String) : Bool :=
  phrase.tokens.all fun token => Text.contains folded token

end KeywordPhrase

end HookGate

/-! ## Rules -/

namespace HookGate

structure Rule where
  name : String
  priority : Priority := .medium
  /-- Any phrase makes the rule match. -/
  keywords : List KeywordPhrase := []
  /-- Any of these patterns makes the rule match. -/
  intents : List CompiledPattern := []
  /-- Any of these patterns exempts a prompt from the rule. -/
  exclusions : List CompiledPattern := []
  /-- A prompt that begins with one of these texts, in lower case, is exempt from the rule. -/
  skipStarts : List String := []
deriving Repr, DecidableEq

/-- Whether some prompt could match the rule. -/
def Rule.hasCriteria (r : Rule) : Bool := !r.keywords.isEmpty || !r.intents.isEmpty

end HookGate
