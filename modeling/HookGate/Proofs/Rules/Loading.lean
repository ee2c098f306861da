import Mathlib
import HookGate.Proofs.Rules.Definition
import HookGate.Proofs.Rules.Document

/-!
# Rules from entries

The rule of a name comes from the last value that the name is given, and from nothing else. What is
left out on the way is warned of, in the order of the names.
-/

namespace HookGate

open Json (Value)

namespace RuleDefinition

/-- The patterns that some texts write down, in their order. -/
def patternsOf (sources : List String) : List CompiledPattern :=
  sources.filterMap fun s => (CompiledPattern.ofSource? s).toOption

/-- A warning of each text that writes no pattern down, in their order. -/
def patternWarnings (rule : String) (sources : List String) : List RuleWarning :=
  sources.filterMap fun s => match CompiledPattern.ofSource? s with
    | .ok _ => none
    | .error e => some (.badPattern rule s e)

theorem compilePatterns_eq (rule : String) (sources : List String) :
    compilePatterns rule sources = (patternsOf sources, patternWarnings rule sources) := by
  induction sources with
  | nil => rfl
  | cons s sources ih =>
    cases hs : CompiledPattern.ofSource? s <;>
      simp [compilePatterns, ih, patternsOf, patternWarnings, hs, Except.toOption]

/-- The rule of a definition: its phrases, patterns and commands in the order of the definition,
without those that say nothing and the patterns that cannot be read. -/
def rule (name : String) (d : RuleDefinition) : Rule where
  name := name
  priority := d.priority
  keywords := d.keywords.filterMap KeywordPhrase.ofText?
  intents := patternsOf d.intents
  exclusions := patternsOf d.exclusions
  skipStarts := (d.commands.filter fun c => !Text.isBlankText c).map Text.lower

/-- Warnings of the patterns of a definition: those that match first, then those that exempt. -/
def warnings (name : String) (d : RuleDefinition) : List RuleWarning :=
  patternWarnings name d.intents ++ patternWarnings name d.exclusions

theorem compile_eq (name : String) (d : RuleDefinition) :
    d.compile name = (d.rule name, d.warnings name) := by
  simp [compile, compilePatterns_eq, rule, warnings]

end RuleDefinition

namespace RuleSet

open RuleDefinition (SaidBy)
open RuleDocument (Gives names last? keep)

/-- The rule that a value gives to a name, if it has the shape of a rule. -/
def rule? (name : String) (v : Value) : Option Rule :=
  (RuleDefinition.ofValue? v).toOption.map (RuleDefinition.rule name)

/-- What is warned of in the value of a name: the value, or some of its patterns. -/
def warningsOf (name : String) (v : Value) : List RuleWarning :=
  match RuleDefinition.ofValue? v with
  | .ok d => d.warnings name
  | .error e => [.badShape name e]

theorem ofEntries_eq (es : List (String × Value)) :
    ofEntries es =
      ⟨es.filterMap fun e => rule? e.1 e.2, es.flatMap fun e => warningsOf e.1 e.2⟩ := by
  induction es with
  | nil => rfl
  | cons e es ih =>
    obtain ⟨name, v⟩ := e
    cases hv : RuleDefinition.ofValue? v <;>
      simp [ofEntries, ih, hv, RuleDefinition.compile_eq, rule?, warningsOf, Except.toOption]

theorem name_of_rule? {name : String} {v : Value} {r : Rule} (h : rule? name v = some r) :
    r.name = name := by
  obtain ⟨d, -, rfl⟩ := Option.map_eq_some_iff.mp h
  rfl

/-- The rules that entries give to names, the last value of each name deciding. -/
def ruleOf? (es : List (String × Value)) (name : String) : Option Rule :=
  (last? es name).bind (rule? name)

theorem name_of_ruleOf? {es : List (String × Value)} {name : String} {r : Rule}
    (h : ruleOf? es name = some r) : r.name = name := by
  obtain ⟨v, -, hr⟩ := Option.bind_eq_some_iff.mp h
  exact name_of_rule? hr

/-- What is warned of in the last value of a name. -/
def warningsFor (es : List (String × Value)) (name : String) : List RuleWarning :=
  ((last? es name).map (warningsOf name)).getD []

theorem rules_ofDocument (es : List (String × Value)) :
    (ofDocument ⟨keep es⟩).rules = (names es).filterMap (ruleOf? es) := by
  rw [ofDocument, ofEntries_eq, ← RuleDocument.map_fst_keep, List.filterMap_map]
  refine List.filterMap_congr fun e he => ?_
  rw [Function.comp_apply, ruleOf?, RuleDocument.last?_of_mem_keep he, Option.bind_some]

theorem warnings_ofDocument (es : List (String × Value)) :
    (ofDocument ⟨keep es⟩).warnings = (names es).flatMap (warningsFor es) := by
  rw [ofDocument, ofEntries_eq, ← RuleDocument.map_fst_keep, List.flatMap_map]
  refine List.flatMap_congr fun e he => ?_
  rw [warningsFor, RuleDocument.last?_of_mem_keep he, Option.map_some, Option.getD_some]

theorem map_name_filterMap {f : String → Option Rule} (hf : ∀ {name r}, f name = some r → r.name = name)
    (names : List String) :
    (names.filterMap f).map Rule.name = names.filter fun name => (f name).isSome := by
  induction names with
  | nil => rfl
  | cons name names ih =>
    cases hname : f name with
    | none => simp [hname, ih]
    | some r => simp [hname, ih, hf hname]

/-- Among rules with names of their own, looking for a name finds the rule of that name. -/
theorem find?_filterMap {f : String → Option Rule} (hf : ∀ {name r}, f name = some r → r.name = name)
    (names : List String) (name : String) :
    (names.filterMap f).find? (fun r => r.name == name) = if name ∈ names then f name else none := by
  induction names with
  | nil => rfl
  | cons n names ih =>
    cases hn : f n with
    | none =>
      by_cases hname : name = n
      · subst hname
        simp [hn, ih]
      · simp [hn, ih, hname]
    | some r =>
      have hr := hf hn
      by_cases hname : name = n
      · subst hname
        simp [hn, hr]
      · simp [hn, hr, ih, hname, Ne.symm hname]

theorem ruleOf?_eq_some {es : List (String × Value)} (hes : ∀ e ∈ es, e.2.Ordered) {name : String}
    {r : Rule} :
    ruleOf? es name = some r ↔ ∃ v d, last? es name = some v ∧ SaidBy v d ∧ d.rule name = r := by
  rw [ruleOf?, Option.bind_eq_some_iff]
  refine exists_congr fun v => ?_
  rw [exists_and_left]
  refine and_congr_right fun hlast => ?_
  have hv := hes _ (RuleDocument.mem_of_last? hlast)
  simp only [rule?, Option.map_eq_some_iff, ← RuleDefinition.ofValue?_eq_ok hv]
  cases RuleDefinition.ofValue? v <;> simp [Except.toOption]

/-- What a set of rules has to do with the entries that it is loaded from. -/
structure LoadedFrom (es : List (String × Value)) (set : RuleSet) : Prop where
  distinct : (set.rules.map Rule.name).Nodup
  ordered : (set.rules.map Rule.name).Sublist (names es)
  /-- The rule of a name is what the last value of the name says, if it has the shape of a rule. -/
  get : ∀ {name r}, set.get? name = some r ↔
    ∃ v d, last? es name = some v ∧ SaidBy v d ∧ d.rule name = r
  rules : set.rules = (names es).filterMap set.get?
  /-- Only a value without the shape of a rule is refused. -/
  decoded : ∀ e ∈ es, ∀ d, RuleDefinition.ofValue? e.2 = .ok d ↔ SaidBy e.2 d
  warnings : set.warnings = (names es).flatMap (warningsFor es)

theorem get?_ofDocument (es : List (String × Value)) (name : String) :
    (ofDocument ⟨keep es⟩).get? name = ruleOf? es name := by
  rw [get?, rules_ofDocument, find?_filterMap name_of_ruleOf?]
  split
  · rfl
  · next hname => rw [ruleOf?, RuleDocument.last?_eq_none hname, Option.bind_none]

theorem loadedFrom_ofDocument {es : List (String × Value)} (hes : ∀ e ∈ es, e.2.Ordered) :
    LoadedFrom es (ofDocument ⟨keep es⟩) := by
  have hnames : ((ofDocument ⟨keep es⟩).rules.map Rule.name).Sublist (names es) := by
    rw [rules_ofDocument, map_name_filterMap name_of_ruleOf?]
    exact List.filter_sublist
  have hget : (ofDocument ⟨keep es⟩).get? = ruleOf? es := funext (get?_ofDocument es)
  exact
    { distinct := hnames.nodup (RuleDocument.map_fst_keep es ▸ RuleDocument.nodup_keep es)
      ordered := hnames
      get := hget ▸ ruleOf?_eq_some hes
      rules := by rw [hget, rules_ofDocument]
      decoded := fun e he d => RuleDefinition.ofValue?_eq_ok (hes e he)
      warnings := warnings_ofDocument es }

theorem LoadedFrom.eq_ofDocument {es : List (String × Value)} (hes : ∀ e ∈ es, e.2.Ordered)
    {set : RuleSet} (h : LoadedFrom es set) : ofDocument ⟨keep es⟩ = set := by
  -- The rules are listed by what is found for each name, so it is enough that both sets find the same.
  have hget : set.get? = ruleOf? es := by
    funext name
    ext r
    rw [h.get, ruleOf?_eq_some hes]
  have hrules := h.rules
  rw [hget, ← rules_ofDocument] at hrules
  have hwarnings := h.warnings.trans (warnings_ofDocument es).symm
  obtain ⟨rules, warnings⟩ := set
  exact (congrArg₂ RuleSet.mk hrules hwarnings).symm

/-- A text is loaded exactly where it is a document, and the rules are those of the entries that the
document gives. -/
theorem ofJson?_loadedFrom {text : String} {set : RuleSet} :
    ofJson? text = .ok set ↔ ∃ es, Gives text es ∧ LoadedFrom es set := by
  rw [ofJson?, Json.Reader.map_eq_ok]
  simp only [RuleDocument.ofText?_eq_ok]
  constructor
  · rintro ⟨_, ⟨es, hes, rfl⟩, rfl⟩
    exact ⟨es, hes, loadedFrom_ofDocument (RuleDocument.ordered_of_gives hes)⟩
  · rintro ⟨es, hes, hset⟩
    exact ⟨_, ⟨es, hes, rfl⟩, hset.eq_ofDocument (RuleDocument.ordered_of_gives hes)⟩

end RuleSet

end HookGate
