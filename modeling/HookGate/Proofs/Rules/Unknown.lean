import Mathlib
import HookGate.Proofs.Rules.File
import HookGate.Proofs.Json.Insertion

/-!
# Members that are not known

A member of a name that is not known may be put anywhere into a rule document: beside the rules, into one of them,
into its triggers or into its conditions. The same rules are loaded, with the same warnings.
-/

namespace HookGate

open Json

/-! ## Where members may be put -/

namespace RuleDocument

/-- Where a rule document may have members of names that are not known: beside the rules, in a rule, or in the
triggers or conditions of one. -/
inductive Place
  | document
  | rule
  | field

/-- For each place, the texts of values that may stand there. -/
abbrev Room := Place → List Char → List Char → Prop

/-- One new member in the triggers or in the conditions of a rule. -/
inductive WidenedField (room : Room) : String → List Char → List Char → Prop
  | triggers {cs cs'} (h : Widened (fun _ _ _ => False) RuleDefinition.triggerFields (room .field) cs cs') :
      WidenedField room "promptTriggers" cs cs'
  | conditions {cs cs'} (h : Widened (fun _ _ _ => False) RuleDefinition.skipFields (room .field) cs cs') :
      WidenedField room "skipConditions" cs cs'

/-- One new member in a rule, or in its triggers or conditions. -/
def WidenedRule (room : Room) : List Char → List Char → Prop :=
  Widened (WidenedField room) RuleDefinition.fields (room .rule)

/-- One new member in one of the rules. There is no name that a rule cannot have. -/
inductive WidenedEntries (room : Room) : String → List Char → List Char → Prop
  | object {front cs cs'} (hopen : Next '\x7b' (front ++ cs) cs)
      (h : WidenedMembers (fun _ => False) (fun _ => WidenedRule room) true cs cs') :
      WidenedEntries room "skills" (front ++ cs) (front ++ cs')

/-- One new member in a document or in one of its rules. -/
def WidenedText (room : Room) (text text' : String) : Prop :=
  Widened (WidenedEntries room) fields (room .document) text.toList text'.toList

/-- How deep a value in the triggers or conditions of a rule may nest, with one level to spare. -/
def fieldDepth : Nat := entryDepth - 3

/-- The texts of values that can be read. Beside the rules that is all that has the form of a value. -/
def readable : Room
  | .document => Passed
  | .rule => Held (fieldDepth + 1)
  | .field => Held fieldDepth

end RuleDocument

/-! ## Values of rules -/

namespace RuleDefinition

section Decode

variable {σ : Type} {step : σ → String → Value → Except Json.Error σ} {ms ms' : List (String × Value)}

/-- Values of a name that a step takes up in the same way. -/
def SameStep (step : σ → String → Value → Except Json.Error σ) (name : String) (v v' : Value) : Prop :=
  ∀ s, step s name v = step s name v'

theorem foldlM_filter {known : String → Bool}
    (hother : ∀ s name v, known name = false → step s name v = .ok s) (s : σ) :
    ms.foldlM (fun s m => step s m.1 m.2) s =
      (ms.filter fun m => known m.1).foldlM (fun s m => step s m.1 m.2) s := by
  induction ms generalizing s with
  | nil => rfl
  | cons m ms ih =>
    cases hknown : known m.1 with
    | false =>
      rw [List.filter_cons_of_neg (by simp [hknown]), List.foldlM_cons, hother s m.1 m.2 hknown]
      exact ih s
    | true =>
      rw [List.filter_cons_of_pos (by simp [hknown]), List.foldlM_cons, List.foldlM_cons]
      exact congrArg (step s m.1 m.2 >>= ·) (funext ih)

theorem foldlM_same (h : List.Forall₂ (SameMember (SameStep step)) ms ms') (s : σ) :
    ms.foldlM (fun s m => step s m.1 m.2) s = ms'.foldlM (fun s m => step s m.1 m.2) s := by
  induction h generalizing s with
  | nil => rfl
  | cons hm _ ih =>
    rw [List.foldlM_cons, List.foldlM_cons, ← hm.1, hm.2 s]
    exact congrArg (step s _ _ >>= ·) (funext ih)

theorem decodeRecord_alike {kind : String} {names : List String} {v v' : Value}
    (hother : ∀ s name v, name ∉ names → step s name v = .ok s) (h : Alike names (SameStep step) v v') (s : σ) :
    decodeRecord kind names step s v = decodeRecord kind names step s v' := by
  cases h with
  | object h =>
    -- A step does nothing under an unknown name, so all such members may be left out on both sides.
    have hunknown s name v (hname : decide (name ∈ names) = false) := hother s name v (of_decide_eq_false hname)
    rw [decodeRecord, decodeRecord, foldlM_filter hunknown, foldlM_same h, ← foldlM_filter hunknown]
  | array hlen h => rw [decodeRecord, decodeRecord, foldlM_same h, hlen]

end Decode

section Steps

variable {name : String}

theorem triggerStep_other (d : RuleDefinition) (v : Value) (hname : name ∉ triggerFields) :
    triggerStep d name v = .ok d := by
  rw [triggerStep.eq_def]
  split
  case h_4 => rfl
  all_goals exact absurd (by decide) hname

theorem skipStep_other (d : RuleDefinition) (v : Value) (hname : name ∉ skipFields) :
    skipStep d name v = .ok d := by
  rw [skipStep.eq_def]
  split
  · exact absurd (by decide) hname
  · rfl

theorem step_other (d : RuleDefinition) (v : Value) (hname : name ∉ fields) : step d name v = .ok d := by
  rw [step.eq_def]
  split
  case h_4 => rfl
  all_goals exact absurd (by decide) hname

end Steps

theorem sameStep_refl {σ : Type} {step : σ → String → Value → Except Json.Error σ} (name : String) (v : Value) :
    SameStep step name v v :=
  fun _ => rfl

/-- Values that say the same about a rule, or are refused for the same reason. -/
def SameRule (_ : String) (v v' : Value) : Prop := ofValue? v = ofValue? v'

theorem sameRule_refl (name : String) (v : Value) : SameRule name v v := rfl

end RuleDefinition

/-! ## Rules with one new member -/

namespace RuleDocument

open RuleDefinition (SameStep SameRule sameStep_refl sameRule_refl decodeRecord_alike)

section Rules

variable {room : Room} {name : String} {cs cs' rest : List Char} {v : Value}

theorem WidenedField.next (h : WidenedField room name cs cs') : ∃ c r, Next c cs r ∧ c ≠ ']' := by
  cases h with
  | triggers h | conditions h => exact h.next

theorem WidenedField.written (h : WidenedField readable name cs cs') (hv : Written (fieldDepth + 1) cs v rest) :
    ∃ v', Written (fieldDepth + 1) cs' v' rest ∧ SameStep RuleDefinition.step name v v' := by
  cases h with
  | triggers h =>
    obtain ⟨v', hv', halike⟩ := h.written sameStep_refl nofun nofun hv
    exact ⟨v', hv', decodeRecord_alike (fun d _ v => RuleDefinition.triggerStep_other d v) halike⟩
  | conditions h =>
    obtain ⟨v', hv', halike⟩ := h.written sameStep_refl nofun nofun hv
    exact ⟨v', hv', decodeRecord_alike (fun d _ v => RuleDefinition.skipStep_other d v) halike⟩

theorem WidenedRule.written (h : WidenedRule readable cs cs') (hv : Written (fieldDepth + 2) cs v rest) :
    ∃ v', Written (fieldDepth + 2) cs' v' rest ∧ SameRule name v v' := by
  obtain ⟨v', hv', halike⟩ :=
    Widened.written sameStep_refl (fun h hv _ => WidenedField.written h hv) WidenedField.next h hv
  exact ⟨v', hv', decodeRecord_alike (fun d _ v => RuleDefinition.step_other d v) halike {}⟩

end Rules

/-! ## Entries of documents -/

section Entries

variable {room : Room} {name : String} {cs cs' rest : List Char} {es es' : List (String × Value)}

theorem localForm_entries (n : Nat) : LocalForm (Entries n) where
  passed h := by
    cases h with
    | null hnext => exact .scalar hnext (.word .null)
    | object _ hnext h => exact .object hnext h.passed
  kept {cs es rest} h _ := by
    cases h with
    | null hnext =>
      have hword : Word 'n' ('u' :: 'l' :: 'l' :: rest) .null rest := .null
      refine (hnext.kept.then hword.kept).always.imp ?_
      rintro _ _ ⟨_, hnext, hword⟩
      cases hword
      exact .null hnext
    | object hn hnext h =>
      exact (hnext.kept.then h.kept).always.imp fun ⟨_, hnext, h⟩ => .object hn hnext h

/-- Entries that say the same about the rules of the same names. -/
def SaySame (es es' : List (String × Value)) : Prop := List.Forall₂ (SameMember SameRule) es es'

theorem SaySame.put {v v' : Value} (hv : SameRule name v v') (h : SaySame es es') :
    SaySame (put name v es) (put name v' es') := by
  induction h with
  | nil => exact .cons ⟨rfl, hv⟩ .nil
  | @cons e e' _ _ he hes ih =>
    obtain ⟨n, w⟩ := e
    obtain ⟨n', w'⟩ := e'
    obtain ⟨rfl, hw⟩ := he
    rw [RuleDocument.put, RuleDocument.put]
    split
    · exact .cons ⟨rfl, hv⟩ hes
    · exact .cons ⟨rfl, hw⟩ ih

theorem SaySame.keep (h : SaySame es es') : SaySame (keep es) (keep es') :=
  sameMembers_foldl SaySame.put h .nil

theorem WidenedEntries.next (h : WidenedEntries room name cs cs') : ∃ c r, Next c cs r ∧ c ≠ ']' := by
  cases h with
  | object hopen => exact ⟨_, _, hopen, by decide⟩

theorem WidenedEntries.entries (h : WidenedEntries readable name cs cs') (hes : Entries (fieldDepth + 3) cs es rest) :
    ∃ es', Entries (fieldDepth + 3) cs' es' rest ∧ SaySame es es' := by
  cases h with
  | object hopen h =>
    cases hes with
    | null hnext => exact absurd (hopen.unique hnext).1 (by decide)
    | object hn hnext hes =>
      obtain ⟨-, rfl⟩ := hopen.unique hnext
      obtain ⟨es', hes', hsame⟩ :=
        h.written sameRule_refl (fun h hv _ => h.written hv) (fun _ => true) nofun hes
      rw [SameKnown, List.filter_true, List.filter_true] at hsame
      exact ⟨es', .object hn (hopen.kept.move trivial) hes', hsame⟩

theorem WidenedText.not_isBlankText {text text' : String} (h : WidenedText room text text') :
    Text.isBlankText text = false := by
  obtain ⟨c, hc, r, hnext⟩ := h.opens
  rw [Text.isBlankText, List.all_eq_false]
  refine ⟨c, hnext.mem, ?_⟩
  simp only [List.mem_cons, List.not_mem_nil, or_false] at hc
  obtain rfl | rfl := hc <;> decide

theorem WidenedText.gives {text text' : String} (h : WidenedText readable text text') (hes : Gives text es) :
    ∃ es', Gives text' es' ∧ SaySame es es' := by
  obtain ⟨ms, ⟨rest, hms, hended⟩, rfl⟩ := hes
  have hrefl (name : String) (es : List (String × Value)) : SaySame es es := sameMembers_refl sameRule_refl es
  have hknown {name : String} {cs cs' : List Char} (h : WidenedEntries readable name cs cs') : name ∈ fields := by
    cases h
    exact List.mem_cons_self
  obtain ⟨ms', hms', hsame⟩ := Widened.record (fun _ _ => localForm_entries entryDepth) hrefl
    (fun h hes _ => h.entries hes) WidenedEntries.next hknown h hms
  exact ⟨_, ⟨ms', ⟨rest, hms', hended⟩, rfl⟩, List.rel_flatMap hsame fun _ _ hm => hm.2⟩

end Entries

end RuleDocument

namespace RuleSet

open RuleDocument (WidenedText readable SaySame keep)

theorem ofEntries_same {es es' : List (String × Value)} (h : SaySame es es') : ofEntries es = ofEntries es' := by
  induction h with
  | nil => rfl
  | @cons e e' _ _ he _ ih =>
    obtain ⟨name, v⟩ := e
    obtain ⟨name', v'⟩ := e'
    obtain ⟨rfl, hv⟩ := he
    rw [ofEntries, ofEntries, hv, ih]

theorem ofJson?_widened {text text' : String} {set : RuleSet} (h : WidenedText readable text text')
    (hset : ofJson? text = .ok set) : ofJson? text' = .ok set := by
  rw [ofJson?, Json.Reader.map_eq_ok] at hset ⊢
  obtain ⟨d, hd, rfl⟩ := hset
  obtain ⟨es, hes, rfl⟩ := RuleDocument.ofText?_eq_ok.mp hd
  obtain ⟨es', hes', hsame⟩ := h.gives hes
  exact ⟨_, RuleDocument.ofText?_eq_ok.mpr ⟨es', hes', rfl⟩, (ofEntries_same hsame.keep).symm⟩

/-- A new member of a name that is not known changes neither the rules of a document nor what is warned of. -/
theorem ofFileText?_widened {text text' : String} {set : RuleSet} (h : WidenedText readable text text')
    (hset : ofFileText? text = .ok set) : ofFileText? text' = .ok set := by
  rw [ofFileText?_of_not_blank h.not_isBlankText] at hset
  have hset' := ofJson?_widened h hset
  -- A blank text would be loaded too, so it has to be seen that the longer text is not blank either.
  obtain ⟨es, ⟨ms, hms, -⟩, -⟩ := exists_gives_of_ofJson? hset'
  rw [ofFileText?_of_not_blank hms.not_isBlankText, hset']

end RuleSet

/-! ## A document of one rule -/

namespace RuleDocument

/-- A document of one rule with these members. -/
def oneRule (members : String) : String := "\x7b\"skills\":\x7b\"a\":\x7b" ++ members ++ "\x7d\x7d\x7d"

theorem toList_oneRule (members : String) :
    (oneRule members).toList = ['\x7b'] ++ ('"' :: ("skills".toList ++ ['"', ':']) ++ (['\x7b'] ++
      ('"' :: ("a".toList ++ ['"', ':']) ++ (['\x7b'] ++ (members.toList ++ ['\x7d', '\x7d', '\x7d']))))) := by
  have happend (s t : String) : (s ++ members ++ t).toList = s.toList ++ (members.toList ++ t.toList) := by
    rw [String.toList_append, String.toList_append, List.append_assoc]
  exact (happend _ _).trans rfl

theorem widenedText_oneRule {room : Room} {m : String}
    (hm : OtherMember RuleDefinition.fields (room .rule) m.toList) : WidenedText room (oneRule "") (oneRule m) := by
  have hopen (cs : List Char) : Next '\x7b' (['\x7b'] ++ cs) cs := Reader.next_cons rfl
  have hput : Put m.toList true ([] ++ ['\x7d', '\x7d', '\x7d']) ([] ++ (m.toList ++ ['\x7d', '\x7d', '\x7d'])) :=
    .alone nofun (Reader.next_cons rfl)
  have hrule : WidenedRule room _ _ := .object (hopen _) (.here hm hput)
  have hentries : WidenedEntries room "skills" _ _ :=
    .object (hopen _) (.into (named_bare "a" (by simp [Reader.Bare]) _) hrule)
  rw [WidenedText, toList_oneRule, toList_oneRule]
  exact .object (hopen _) (.into (named_bare "skills" (by simp [Reader.Bare]) _) hentries)

/-- So many lists, one in another. -/
def lists (n : Nat) : String := String.ofList (List.replicate n '[' ++ List.replicate n ']')

theorem toList_lists (n : Nat) : (lists n).toList = List.replicate n '[' ++ List.replicate n ']' := by
  rw [lists, String.toList_ofList]

theorem held_lists : Held Reader.maxDepth (lists 126).toList [] := by
  rw [toList_lists]
  exact held_of_value (by decide +kernel)

end RuleDocument

namespace RuleSet

open RuleDocument (WidenedText readable fieldDepth oneRule widenedText_oneRule toList_oneRule lists toList_lists
  held_lists)

theorem ofFileText?_widened_null :
    WidenedText readable (oneRule "") (oneRule "\"x\":null") ∧
      ofFileText? (oneRule "") = .ok ⟨[{ name := "a" }], []⟩ ∧
      ofFileText? (oneRule "\"x\":null") = .ok ⟨[{ name := "a" }], []⟩ := by
  have hnull : Held (fieldDepth + 1) "null".toList [] := ⟨.null, .scalar (Reader.next_cons rfl) (.word .null)⟩
  have hwidened : WidenedText readable (oneRule "") (oneRule "\"x\":null") :=
    widenedText_oneRule ⟨"x", by decide, _, [], named_bare "x" (by simp [Reader.Bare]) _, hnull, nofun⟩
  have hset : ofFileText? (oneRule "") = .ok ⟨[{ name := "a" }], []⟩ := by decide +kernel
  exact ⟨hwidened, hset, ofFileText?_widened hwidened hset⟩

/-- A value that can be read by itself may nest too deep for the inside of a rule: then the document is not
loaded. -/
theorem deep_member_refused :
    WidenedText (fun _ => Held Reader.maxDepth) (oneRule "") (oneRule ("\"x\":" ++ lists 126)) ∧
      ofFileText? (oneRule "") = .ok ⟨[{ name := "a" }], []⟩ ∧
      ofFileText? (oneRule ("\"x\":" ++ lists 126)) = .error .tooDeep := by
  refine ⟨widenedText_oneRule ?_, by decide +kernel, ?_⟩
  · rw [String.toList_append]
    exact ⟨"x", by decide, _, [], named_bare "x" (by simp [Reader.Bare]) _, held_lists, nofun⟩
  · rw [ofFileText?, ofJson?, RuleDocument.ofText?, Reader.run, Text.isBlankText, toList_oneRule,
      String.toList_append, toList_lists]
    decide +kernel

end RuleSet

end HookGate
