import Mathlib
import HookGate.Rules.Document
import HookGate.Proofs.Json.Order

/-!
# What a value says about a rule

A value has the shape of a rule where it is a record of the fields of one, and those of them that are
there have the shapes that go with them. The definition of the rule holds what stands in the fields,
in the order in which it stands there.
-/

namespace HookGate.RuleDefinition

open Json (Value)
open Json.Value (Ordered Sorted)

/-! ## Records among values -/

/-- An object, or a list with no more items than there are fields. -/
def IsRecord (names : List String) : Value → Prop
  | .object _ => True
  | .array vs => vs.length ≤ names.length
  | _ => False

/-- The fields that a value gives: members by their names, or items by their places. -/
def given (names : List String) : Value → List (String × Value)
  | .object ms => ms
  | .array vs => names.zip vs
  | _ => []

/-- What a value gives for a field. -/
def field? (names : List String) (v : Value) (name : String) : Option Value :=
  (given names v).lookup name

theorem map_fst_zip_sublist (names : List String) (vs : List Value) :
    ((names.zip vs).map Prod.fst).Sublist names := by
  induction names generalizing vs with
  | nil => exact .slnil
  | cons name names ih =>
    cases vs with
    | nil => exact List.nil_sublist _
    | cons v vs => exact (ih vs).cons_cons name

theorem nodup_given {names : List String} (hnames : names.Nodup) {v : Value} (hv : v.Ordered) :
    ((given names v).map Prod.fst).Nodup := by
  cases hv with
  | object hsorted => exact hsorted.nodup
  | array => exact (map_fst_zip_sublist names _).nodup hnames
  | null | bool | number | string => exact .nil

theorem lookup_of_mem {ms : List (String × Value)} (hdistinct : (ms.map Prod.fst).Nodup)
    {m : String × Value} (hm : m ∈ ms) : ms.lookup m.1 = some m.2 := by
  induction ms with
  | nil => cases hm
  | cons m' ms ih =>
    rw [List.map_cons, List.nodup_cons] at hdistinct
    rw [List.lookup_cons]
    rcases List.mem_cons.mp hm with rfl | hm
    · simp
    · have hne : (m.1 == m'.1) = false := by
        rw [beq_eq_false_iff_ne]
        intro heq
        exact hdistinct.1 (heq ▸ List.mem_map_of_mem hm)
      rw [hne]
      exact ih hdistinct.2 hm

section Fold

variable {σ β : Type} {step : σ → String → Value → Except Json.Error σ} {ms : List (String × Value)}

theorem decodeRecord_eq_ok {kind : String} {names : List String} {s out : σ} {v : Value} :
    decodeRecord kind names step s v = .ok out ↔
      IsRecord names v ∧ (given names v).foldlM (fun s m => step s m.1 m.2) s = .ok out := by
  cases v with
  | object ms => simp [decodeRecord, IsRecord, given]
  | array vs =>
    rw [decodeRecord, IsRecord, given]
    cases (names.zip vs).foldlM (fun s m => step s m.1 m.2) s with
    | error e => simp [bind, Except.bind]
    | ok s' =>
      by_cases hlong : names.length < vs.length
      · have hnot : ¬ vs.length ≤ names.length := by omega
        simp [bind, Except.bind, hlong, hnot, throw, throwThe, MonadExceptOf.throw]
      · have hfits : vs.length ≤ names.length := by omega
        simp [bind, Except.bind, hlong, hfits, pure, Except.pure]
  | _ => simp [decodeRecord, IsRecord, throw, throwThe, MonadExceptOf.throw]

theorem foldlM_cons_eq_ok {m : String × Value} {s out : σ} :
    (m :: ms).foldlM (fun s m => step s m.1 m.2) s = .ok out ↔
      ∃ s', step s m.1 m.2 = .ok s' ∧ ms.foldlM (fun s m => step s m.1 m.2) s' = .ok out := by
  rw [List.foldlM_cons]
  cases step s m.1 m.2 <;> simp [bind, Except.bind]

/-- Where fields are taken up one by one, each once, the part of the outcome that belongs to one of
them comes from that field alone. -/
theorem part_foldlM (part : σ → β) (name : String) (Own : Value → β → β → Prop)
    (hown : ∀ {s v s'}, step s name v = .ok s' → Own v (part s) (part s'))
    (hother : ∀ {s n v s'}, n ≠ name → step s n v = .ok s' → part s' = part s)
    (hdistinct : (ms.map Prod.fst).Nodup) {s out : σ}
    (h : ms.foldlM (fun s m => step s m.1 m.2) s = .ok out) :
    (∀ v, ms.lookup name = some v → Own v (part s) (part out)) ∧
      (ms.lookup name = none → part out = part s) := by
  induction ms generalizing s with
  | nil =>
    obtain rfl : s = out := by simpa [pure, Except.pure] using h
    exact ⟨nofun, fun _ => rfl⟩
  | cons m ms ih =>
    obtain ⟨s', hstep, hrest⟩ := foldlM_cons_eq_ok.mp h
    rw [List.map_cons, List.nodup_cons] at hdistinct
    obtain ⟨hsome, hnone⟩ := ih hdistinct.2 hrest
    rw [List.lookup_cons]
    by_cases hname : m.1 = name
    · have hlast : ms.lookup name = none := by
        rw [List.lookup_eq_none_iff]
        intro m' hm'
        rw [bne_iff_ne]
        rintro rfl
        exact hdistinct.1 (hname ▸ List.mem_map_of_mem hm')
      have hsame : part out = part s' := hnone hlast
      subst hname
      rw [beq_self_eq_true, hsame]
      refine ⟨?_, nofun⟩
      rintro v ⟨⟩
      exact hown hstep
    · have hdiffers : (name == m.1) = false := beq_eq_false_iff_ne.mpr (Ne.symm hname)
      rw [hdiffers, ← hother hname hstep]
      exact ⟨hsome, hnone⟩

/-- What every step keeps is kept. -/
theorem foldlM_keeps (part : σ → β)
    (hkeeps : ∀ {s n v s'}, step s n v = .ok s' → part s' = part s) {s out : σ}
    (h : ms.foldlM (fun s m => step s m.1 m.2) s = .ok out) : part out = part s := by
  induction ms generalizing s with
  | nil =>
    obtain rfl : s = out := by simpa [pure, Except.pure] using h
    rfl
  | cons m ms ih =>
    obtain ⟨s', hstep, hrest⟩ := foldlM_cons_eq_ok.mp h
    exact (ih hrest).trans (hkeeps hstep)

theorem foldlM_ok (h : ∀ m ∈ ms, ∀ s, ∃ s', step s m.1 m.2 = .ok s') (s : σ) :
    ∃ out, ms.foldlM (fun s m => step s m.1 m.2) s = .ok out := by
  induction ms generalizing s with
  | nil => exact ⟨s, rfl⟩
  | cons m ms ih =>
    obtain ⟨s', hstep⟩ := h m List.mem_cons_self s
    obtain ⟨out, hrest⟩ := ih (fun m hm => h m (List.mem_cons_of_mem _ hm)) s'
    exact ⟨out, foldlM_cons_eq_ok.mpr ⟨s', hstep, hrest⟩⟩

end Fold

/-! ## Lists of texts -/

/-- A list of these texts, as a value. -/
def listed (ss : List String) : Value := .array (ss.map .string)

theorem listed_injective : Function.Injective listed := by
  intro ss ts h
  exact List.map_injective_iff.mpr (fun _ _ => Value.string.inj) (Value.array.inj h)

theorem decodeString_eq_ok {v : Value} {s : String} : decodeString v = .ok s ↔ v = .string s := by
  cases v <;> simp [decodeString, pure, Except.pure, throw, throwThe, MonadExceptOf.throw]

theorem decodeStrings_eq_ok {v : Value} {ss : List String} :
    decodeStrings v = .ok ss ↔ v = listed ss := by
  cases v with
  | array vs =>
    rw [decodeStrings, listed, Value.array.injEq]
    induction vs generalizing ss with
    | nil => cases ss <;> simp [pure, Except.pure]
    | cons v vs ih =>
      rw [List.mapM_cons]
      cases ss with
      | nil =>
        cases decodeString v <;> cases vs.mapM decodeString <;>
          simp [bind, Except.bind, pure, Except.pure]
      | cons s ss =>
        rw [List.map_cons, List.cons.injEq, ← ih, ← decodeString_eq_ok]
        cases decodeString v <;> cases vs.mapM decodeString <;>
          simp [bind, Except.bind, pure, Except.pure]
  | _ => simp [decodeStrings, listed, throw, throwThe, MonadExceptOf.throw]

/-- What stands for a list in a field: a missing one is empty. -/
def listOf (names : List String) (v : Value) (name : String) : Value :=
  (field? names v name).getD (listed [])

/-- A list that starts empty and is taken from one field holds what stands for the list there. -/
theorem listOf_eq {σ : Type} {step : σ → String → Value → Except Json.Error σ}
    (part : σ → List String) (name : String)
    (hown : ∀ {s v s'}, step s name v = .ok s' → v = listed (part s'))
    (hother : ∀ {s n v s'}, n ≠ name → step s n v = .ok s' → part s' = part s)
    {names : List String} (hnames : names.Nodup) {v : Value} (hv : v.Ordered) {s out : σ}
    (hstart : part s = [])
    (h : (given names v).foldlM (fun s m => step s m.1 m.2) s = .ok out) :
    listOf names v name = listed (part out) := by
  obtain ⟨hsome, hnone⟩ := part_foldlM part name (fun v _ ss => v = listed ss) hown hother
    (nodup_given hnames hv) h
  rw [listOf, field?]
  cases hfield : (given names v).lookup name with
  | none => rw [hnone hfield, hstart, Option.getD_none]
  | some w => exact hsome w hfield

theorem return_listed_eq_ok {σ : Type} {v : Value} {put : List String → σ} {out : σ} :
    (do return put (← decodeStrings v) : Except Json.Error σ) = .ok out ↔
      ∃ ss, v = listed ss ∧ out = put ss := by
  simp only [← decodeStrings_eq_ok]
  cases decodeStrings v <;> simp [bind, Except.bind, pure, Except.pure, eq_comm (a := out)]

/-! ## Triggers and conditions -/

def triggerFields : List String := ["keywords", "intentPatterns", "excludePatterns"]

def skipFields : List String := ["commands"]

def fields : List String := ["priority", "promptTriggers", "skipConditions"]

section Steps

variable {d d' : RuleDefinition} {name : String} {v : Value}

def decodeTriggers : RuleDefinition → Value → Except Json.Error RuleDefinition :=
  decodeRecord "PromptTriggers" triggerFields triggerStep

def decodeSkips : RuleDefinition → Value → Except Json.Error RuleDefinition :=
  decodeRecord "SkipConditions" skipFields skipStep

theorem triggerStep_cases (h : triggerStep d name v = .ok d') :
    (name = "keywords" ∧ ∃ ss, v = listed ss ∧ d' = { d with keywords := ss }) ∨
    (name = "intentPatterns" ∧ ∃ ss, v = listed ss ∧ d' = { d with intents := ss }) ∨
    (name = "excludePatterns" ∧ ∃ ss, v = listed ss ∧ d' = { d with exclusions := ss }) ∨
    (name ∉ triggerFields ∧ d' = d) := by
  rw [triggerStep.eq_def] at h
  split at h
  · exact .inl ⟨rfl, return_listed_eq_ok.mp h⟩
  · exact .inr (.inl ⟨rfl, return_listed_eq_ok.mp h⟩)
  · exact .inr (.inr (.inl ⟨rfl, return_listed_eq_ok.mp h⟩))
  · next hkeywords hintents hexclusions =>
    obtain rfl : d = d' := by simpa [pure, Except.pure] using h
    refine .inr (.inr (.inr ⟨?_, rfl⟩))
    simpa [triggerFields] using ⟨hkeywords, hintents, hexclusions⟩

theorem triggerStep_ok (d : RuleDefinition) (h : name ∈ triggerFields → ∃ ss, v = listed ss) :
    ∃ d', triggerStep d name v = .ok d' := by
  rw [triggerStep.eq_def]
  split
  any_goals
    obtain ⟨ss, hv⟩ := h (by decide)
    exact ⟨_, return_listed_eq_ok.mpr ⟨ss, hv, rfl⟩⟩
  exact ⟨d, rfl⟩

theorem skipStep_cases (h : skipStep d name v = .ok d') :
    (name = "commands" ∧ ∃ ss, v = listed ss ∧ d' = { d with commands := ss }) ∨
    (name ∉ skipFields ∧ d' = d) := by
  rw [skipStep.eq_def] at h
  split at h
  · exact .inl ⟨rfl, return_listed_eq_ok.mp h⟩
  · next hcommands =>
    obtain rfl : d = d' := by simpa [pure, Except.pure] using h
    exact .inr ⟨by simpa [skipFields] using hcommands, rfl⟩

theorem skipStep_ok (d : RuleDefinition) (h : name ∈ skipFields → ∃ ss, v = listed ss) :
    ∃ d', skipStep d name v = .ok d' := by
  rw [skipStep.eq_def]
  split
  · obtain ⟨ss, hv⟩ := h (by decide)
    exact ⟨_, return_listed_eq_ok.mpr ⟨ss, hv, rfl⟩⟩
  · exact ⟨d, rfl⟩

theorem step_cases (h : step d name v = .ok d') :
    (name = "priority" ∧ d' = { d with priority := decodePriority v }) ∨
    (name = "promptTriggers" ∧ decodeTriggers d v = .ok d') ∨
    (name = "skipConditions" ∧ decodeSkips d v = .ok d') ∨ (name ∉ fields ∧ d' = d) := by
  rw [step.eq_def] at h
  split at h
  · obtain rfl : { d with priority := decodePriority v } = d' := by simpa [pure, Except.pure] using h
    exact .inl ⟨rfl, rfl⟩
  · exact .inr (.inl ⟨rfl, h⟩)
  · exact .inr (.inr (.inl ⟨rfl, h⟩))
  · next hpriority htriggers hskips =>
    obtain rfl : d = d' := by simpa [pure, Except.pure] using h
    refine .inr (.inr (.inr ⟨?_, rfl⟩))
    simpa [fields] using ⟨hpriority, htriggers, hskips⟩

theorem step_ok (d : RuleDefinition)
    (htriggers : name = "promptTriggers" → ∃ d', decodeTriggers d v = .ok d')
    (hskips : name = "skipConditions" → ∃ d', decodeSkips d v = .ok d') :
    ∃ d', step d name v = .ok d' := by
  rw [step.eq_def]
  split
  · exact ⟨_, rfl⟩
  · exact htriggers rfl
  · exact hskips rfl
  · exact ⟨d, rfl⟩

/-- Triggers have nothing to do with priority and commands. -/
theorem decodeTriggers_keeps (h : decodeTriggers d v = .ok d') :
    d'.priority = d.priority ∧ d'.commands = d.commands := by
  have hkeeps := foldlM_keeps (fun d : RuleDefinition => (d.priority, d.commands))
    (fun {d n v d'} h => ?_) (decodeRecord_eq_ok.mp h).2
  · simpa using hkeeps
  · rcases triggerStep_cases h with ⟨-, _, -, rfl⟩ | ⟨-, _, -, rfl⟩ | ⟨-, _, -, rfl⟩ | ⟨-, rfl⟩ <;> rfl

/-- Conditions have to do with commands alone. -/
theorem decodeSkips_keeps (h : decodeSkips d v = .ok d') : d' = { d with commands := d'.commands } := by
  have hkeeps := foldlM_keeps (fun d : RuleDefinition => { d with commands := [] })
    (fun {d n v d'} h => ?_) (decodeRecord_eq_ok.mp h).2
  · cases d
    cases d'
    simpa using hkeeps
  · rcases skipStep_cases h with ⟨-, _, -, rfl⟩ | ⟨-, rfl⟩ <;> rfl

theorem step_keeps_priority (hn : name ≠ "priority") (h : step d name v = .ok d') :
    d'.priority = d.priority := by
  rcases step_cases h with ⟨hname, -⟩ | ⟨-, h⟩ | ⟨-, h⟩ | ⟨-, rfl⟩
  · exact absurd hname hn
  · exact (decodeTriggers_keeps h).1
  · rw [decodeSkips_keeps h]
  · rfl

theorem step_keeps_triggers (hn : name ≠ "promptTriggers") (h : step d name v = .ok d') :
    d'.keywords = d.keywords ∧ d'.intents = d.intents ∧ d'.exclusions = d.exclusions := by
  rcases step_cases h with ⟨-, rfl⟩ | ⟨hname, -⟩ | ⟨-, h⟩ | ⟨-, rfl⟩
  · exact ⟨rfl, rfl, rfl⟩
  · exact absurd hname hn
  · rw [decodeSkips_keeps h]
    exact ⟨rfl, rfl, rfl⟩
  · exact ⟨rfl, rfl, rfl⟩

theorem step_keeps_commands (hn : name ≠ "skipConditions") (h : step d name v = .ok d') :
    d'.commands = d.commands := by
  rcases step_cases h with ⟨-, rfl⟩ | ⟨-, h⟩ | ⟨hname, -⟩ | ⟨-, rfl⟩
  · rfl
  · exact (decodeTriggers_keeps h).2
  · exact absurd hname hn
  · rfl

end Steps

/-! ## The shape of rules -/

/-- What stands for a record in a field: a missing one has no fields. -/
def recordOf (v : Value) (name : String) : Value := (field? fields v name).getD (.object [])

/-- What a value says about a rule. Priorities that cannot be read are medium, and all else that is
there has its shape. -/
structure SaidBy (v : Value) (d : RuleDefinition) : Prop where
  record : IsRecord fields v
  triggers : IsRecord triggerFields (recordOf v "promptTriggers")
  skips : IsRecord skipFields (recordOf v "skipConditions")
  priority : d.priority = ((field? fields v "priority").map decodePriority).getD .medium
  keywords : listOf triggerFields (recordOf v "promptTriggers") "keywords" = listed d.keywords
  intents : listOf triggerFields (recordOf v "promptTriggers") "intentPatterns" = listed d.intents
  exclusions :
    listOf triggerFields (recordOf v "promptTriggers") "excludePatterns" = listed d.exclusions
  commands : listOf skipFields (recordOf v "skipConditions") "commands" = listed d.commands

theorem SaidBy.unique {v : Value} {d d' : RuleDefinition} (h : SaidBy v d) (h' : SaidBy v d') :
    d = d' := by
  obtain ⟨priority, keywords, intents, exclusions, commands⟩ := d
  obtain ⟨priority', keywords', intents', exclusions', commands'⟩ := d'
  congr
  · exact h.priority.trans h'.priority.symm
  · exact listed_injective (h.keywords.symm.trans h'.keywords)
  · exact listed_injective (h.intents.symm.trans h'.intents)
  · exact listed_injective (h.exclusions.symm.trans h'.exclusions)
  · exact listed_injective (h.commands.symm.trans h'.commands)

section Shape

variable {v : Value} {d : RuleDefinition}

theorem nodup_fields : fields.Nodup := by decide

theorem ordered_of_mem_given {names : List String} (hv : v.Ordered) :
    ∀ m ∈ given names v, m.2.Ordered := by
  cases hv with
  | object _ h => exact h
  | array h => exact fun m hm => h m.2 (List.of_mem_zip hm).2
  | null | bool | number | string => exact nofun

theorem ordered_recordOf (hv : v.Ordered) (name : String) : (recordOf v name).Ordered := by
  rw [recordOf, field?]
  cases hfield : (given fields v).lookup name with
  | none => exact .object .nil nofun
  | some w =>
    obtain ⟨before, behind, heq, -⟩ := List.lookup_eq_some_iff.mp hfield
    have hmem : (name, w) ∈ given fields v := by simp [heq]
    exact ordered_of_mem_given hv _ hmem

/-- A list in a record of its own comes from the field of the record, and from nowhere else. -/
theorem nested_list_eq {kind : String} {names : List String}
    {inner : RuleDefinition → String → Value → Except Json.Error RuleDefinition}
    (part : RuleDefinition → List String) (outer name : String)
    (hinner : ∀ {d v d'}, step d outer v = .ok d' → decodeRecord kind names inner d v = .ok d')
    (houter : ∀ {d n v d'}, n ≠ outer → step d n v = .ok d' → part d' = part d)
    (hown : ∀ {d v d'}, inner d name v = .ok d' → v = listed (part d'))
    (hother : ∀ {d n v d'}, n ≠ name → inner d n v = .ok d' → part d' = part d)
    (hnames : names.Nodup) (hstart : part {} = []) (hv : v.Ordered) (h : ofValue? v = .ok d) :
    IsRecord names (recordOf v outer) ∧ listOf names (recordOf v outer) name = listed (part d) := by
  -- No other field touches the list, so it is still empty when its record is reached.
  have hinto {d w d'} (hw : w.Ordered) (hd : part d = []) (h : step d outer w = .ok d') :
      IsRecord names w ∧ listOf names w name = listed (part d') := by
    obtain ⟨hrecord, hfold⟩ := decodeRecord_eq_ok.mp (hinner h)
    exact ⟨hrecord, listOf_eq part name hown hother hnames hw hd hfold⟩
  obtain ⟨hsome, hnone⟩ := part_foldlM part outer
    (fun w before after => w.Ordered → before = [] →
      IsRecord names w ∧ listOf names w name = listed after)
    (fun h hw hd => hinto hw hd h) houter (nodup_given nodup_fields hv) (decodeRecord_eq_ok.mp h).2
  have hordered := ordered_recordOf hv outer
  rw [recordOf, field?] at hordered ⊢
  cases hfield : (given fields v).lookup outer with
  | none =>
    rw [hnone hfield, hstart]
    exact ⟨trivial, rfl⟩
  | some w =>
    rw [hfield] at hordered
    exact hsome w hfield hordered hstart

theorem trigger_list_eq (part : RuleDefinition → List String) (name : String)
    (houter : ∀ {d n v d'}, n ≠ "promptTriggers" → step d n v = .ok d' → part d' = part d)
    (hown : ∀ {d v d'}, triggerStep d name v = .ok d' → v = listed (part d'))
    (hother : ∀ {d n v d'}, n ≠ name → triggerStep d n v = .ok d' → part d' = part d)
    (hstart : part {} = []) (hv : v.Ordered) (h : ofValue? v = .ok d) :
    IsRecord triggerFields (recordOf v "promptTriggers") ∧
      listOf triggerFields (recordOf v "promptTriggers") name = listed (part d) :=
  nested_list_eq part "promptTriggers" name (fun h => h) houter hown hother (by decide) hstart hv h

theorem priority_eq (hv : v.Ordered) (h : ofValue? v = .ok d) :
    d.priority = ((field? fields v "priority").map decodePriority).getD .medium := by
  have hown {d w d'} (h : step d "priority" w = .ok d') : d'.priority = decodePriority w := by
    rcases step_cases h with ⟨-, rfl⟩ | ⟨hname, -⟩ | ⟨hname, -⟩ | ⟨hname, -⟩
    · rfl
    all_goals exact absurd hname (by decide)
  have hfold : (given fields v).foldlM (fun d m => step d m.1 m.2) {} = .ok d :=
    (decodeRecord_eq_ok.mp h).2
  obtain ⟨hsome, hnone⟩ := part_foldlM RuleDefinition.priority "priority"
    (fun w _ p => p = decodePriority w) hown step_keeps_priority (nodup_given nodup_fields hv) hfold
  rw [field?]
  cases hfield : (given fields v).lookup "priority" with
  | none => exact hnone hfield
  | some w => exact hsome w hfield

theorem saidBy_of_ofValue? (hv : v.Ordered) (h : ofValue? v = .ok d) : SaidBy v d := by
  have hkeywords := trigger_list_eq RuleDefinition.keywords "keywords"
    (fun hn h => (step_keeps_triggers hn h).1)
    (fun h => by rcases triggerStep_cases h with h | h | h | h <;> grind [triggerFields])
    (fun hn h => by rcases triggerStep_cases h with h | h | h | h <;> grind) rfl hv h
  have hintents := trigger_list_eq RuleDefinition.intents "intentPatterns"
    (fun hn h => (step_keeps_triggers hn h).2.1)
    (fun h => by rcases triggerStep_cases h with h | h | h | h <;> grind [triggerFields])
    (fun hn h => by rcases triggerStep_cases h with h | h | h | h <;> grind) rfl hv h
  have hexclusions := trigger_list_eq RuleDefinition.exclusions "excludePatterns"
    (fun hn h => (step_keeps_triggers hn h).2.2)
    (fun h => by rcases triggerStep_cases h with h | h | h | h <;> grind [triggerFields])
    (fun hn h => by rcases triggerStep_cases h with h | h | h | h <;> grind) rfl hv h
  have hcommands := nested_list_eq RuleDefinition.commands "skipConditions" "commands"
    (fun h => h) step_keeps_commands
    (fun h => by rcases skipStep_cases h with h | h <;> grind [skipFields])
    (fun hn h => by rcases skipStep_cases h with h | h <;> grind) (by decide) rfl hv h
  exact
    { record := (decodeRecord_eq_ok.mp h).1
      triggers := hkeywords.1
      skips := hcommands.1
      priority := priority_eq hv h
      keywords := hkeywords.2
      intents := hintents.2
      exclusions := hexclusions.2
      commands := hcommands.2 }

/-- A record in which each field that is known holds a list is taken up to its end. -/
theorem nested_ok {kind : String} {names : List String}
    {inner : RuleDefinition → String → Value → Except Json.Error RuleDefinition}
    (hinner : ∀ {name w} d, (name ∈ names → ∃ ss, w = listed ss) → ∃ d', inner d name w = .ok d')
    (hnames : names.Nodup) (hv : v.Ordered) (hrecord : IsRecord names v)
    (hlists : ∀ name ∈ names, ∃ ss, listOf names v name = listed ss) (d : RuleDefinition) :
    ∃ d', decodeRecord kind names inner d v = .ok d' := by
  have hstep : ∀ m ∈ given names v, ∀ d, ∃ d', inner d m.1 m.2 = .ok d' := by
    refine fun m hm d => hinner d fun hname => ?_
    obtain ⟨ss, hss⟩ := hlists m.1 hname
    rw [listOf, field?, lookup_of_mem (nodup_given hnames hv) hm, Option.getD_some] at hss
    exact ⟨ss, hss⟩
  obtain ⟨d', hfold⟩ := foldlM_ok hstep d
  exact ⟨d', decodeRecord_eq_ok.mpr ⟨hrecord, hfold⟩⟩

theorem exists_of_saidBy (hv : v.Ordered) (h : SaidBy v d) : ∃ d', ofValue? v = .ok d' := by
  have htriggers (d) :
      ∃ d', decodeTriggers d (recordOf v "promptTriggers") = .ok d' := by
    refine nested_ok triggerStep_ok (by decide) (ordered_recordOf hv _) h.triggers ?_ d
    simp only [triggerFields, List.forall_mem_cons]
    exact ⟨⟨_, h.keywords⟩, ⟨_, h.intents⟩, ⟨_, h.exclusions⟩, nofun⟩
  have hskips (d) : ∃ d', decodeSkips d (recordOf v "skipConditions") = .ok d' := by
    refine nested_ok skipStep_ok (by decide) (ordered_recordOf hv _) h.skips ?_ d
    simp only [skipFields, List.forall_mem_cons]
    exact ⟨⟨_, h.commands⟩, nofun⟩
  have hstep : ∀ m ∈ given fields v, ∀ d, ∃ d', step d m.1 m.2 = .ok d' := by
    intro m hm d
    have hfield := lookup_of_mem (nodup_given nodup_fields hv) hm
    refine step_ok d (fun hname => ?_) fun hname => ?_
    · rw [recordOf, field?, ← hname, hfield] at htriggers
      exact htriggers d
    · rw [recordOf, field?, ← hname, hfield] at hskips
      exact hskips d
  obtain ⟨d', hfold⟩ := foldlM_ok hstep {}
  exact ⟨d', decodeRecord_eq_ok.mpr ⟨h.record, hfold⟩⟩

/-- A value is decoded exactly to what it says about a rule. -/
theorem ofValue?_eq_ok (hv : v.Ordered) : ofValue? v = .ok d ↔ SaidBy v d := by
  constructor
  · exact saidBy_of_ofValue? hv
  · intro h
    -- Something is decoded, and a value says one thing about a rule at most.
    obtain ⟨d', hd'⟩ := exists_of_saidBy hv h
    rw [hd', h.unique (saidBy_of_ofValue? hv hd')]

end Shape

end HookGate.RuleDefinition
