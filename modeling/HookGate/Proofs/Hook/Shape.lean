import Mathlib
import HookGate.Proofs.Hook.Course
import HookGate.Proofs.Json.Records
import HookGate.Proofs.System.World

/-!
# The shape of events

An event is read from an object in which no field stands twice and the texts among the fields are
strings or `null`, and from nothing else but a list that gives such fields in order. Whatever else
stands on standard input is passed over in silence.
-/

namespace HookGate

namespace HookInput

open Json
open Json.Reader (IsText given? Reads bind_eq_ok unit_bind_eq_ok pure_eq_ok)

/-- The fields that hold a text. -/
def textFields : List String := ["prompt", "tool_name", "session_id"]

/-- The value of a field. -/
def FieldForm (n : Nat) (name : String) (cs : List Char) (v : Value) (rest : List Char) : Prop :=
  Written n cs v rest ∧ (name ∈ textFields → IsText v)

/-- Gives a field its value, where `null` gives none. -/
def set (i : HookInput) : String × Value → HookInput
  | ("prompt", v) => { i with prompt := v.string? }
  | ("tool_name", v) => { i with toolName := v.string? }
  | ("tool_input", v) => { i with toolInput := (given? v).map ToolInput.ofValue }
  | ("tool_response", v) => { i with toolResponse := given? v }
  | (_, v) => { i with sessionId := v.string? }

def Draft.set (d : Draft) (m : String × Value) : Draft := ⟨m.1 :: d.seen, d.input.set m⟩

/-- A field that stands once has the value that it is given. -/
theorem get_foldl_set {β : Type} {get : HookInput → β} {give : Value → β} {name : String}
    (hget : ∀ i m, get (i.set m) = if m.1 = name then give m.2 else get i)
    {ms : List (String × Value)} (hdistinct : (ms.map Prod.fst).Nodup) {v : Value}
    (h : (name, v) ∈ ms) (i : HookInput) : get (ms.foldl set i) = give v := by
  have hkeep (ms : List (String × Value)) (i : HookInput) (hnot : name ∉ ms.map Prod.fst) :
      get (ms.foldl set i) = get i := by
    induction ms generalizing i with
    | nil => rfl
    | cons m ms ih =>
      rw [List.map_cons, List.mem_cons, not_or] at hnot
      rw [List.foldl_cons, ih _ hnot.2, hget, if_neg (Ne.symm hnot.1)]
  induction ms generalizing i with
  | nil => simp at h
  | cons m ms ih =>
    rw [List.map_cons, List.nodup_cons] at hdistinct
    rw [List.foldl_cons]
    rcases List.mem_cons.mp h with rfl | h
    · rw [hkeep ms _ hdistinct.1, hget, if_pos rfl]
    · exact ih hdistinct.2 h _

section

variable {n : Nat} {cs rest : List Char} {d d' : Draft} {name : String}

theorem fieldForm_text (h : name ∈ textFields) {v : Value} :
    FieldForm n name cs v rest ↔ Written n cs v rest ∧ IsText v := by
  simp [FieldForm, h]

theorem fieldForm_value (h : name ∉ textFields) {v : Value} :
    FieldForm n name cs v rest ↔ Written n cs v rest := by
  simp [FieldForm, h]

theorem Draft.readText_eq_ok (h : name ∈ textFields) (put : Option String → Draft) :
    (do return put (← Reader.optional Reader.string)) cs = .ok (d', rest) ↔
      ∃ v, FieldForm n name cs v rest ∧ d' = put v.string? := by
  simp only [bind_eq_ok, pure_eq_ok, Reader.optional_string_eq_ok n, fieldForm_text h]
  constructor
  · rintro ⟨o, mid, ⟨v, hv, rfl⟩, rfl, rfl⟩
    exact ⟨v, hv, rfl⟩
  · rintro ⟨v, hv, rfl⟩
    exact ⟨_, rest, ⟨v, hv, rfl⟩, rfl, rfl⟩

theorem Draft.readValue_eq_ok (h : name ∉ textFields) (put : Option Value → Draft) :
    (do return put (← Reader.optional (Reader.value n))) cs = .ok (d', rest) ↔
      ∃ v, FieldForm n name cs v rest ∧ d' = put (given? v) := by
  simp only [bind_eq_ok, pure_eq_ok, Reader.optional_value_eq_ok, fieldForm_value h]
  constructor
  · rintro ⟨o, mid, ⟨v, hv, rfl⟩, rfl, rfl⟩
    exact ⟨v, hv, rfl⟩
  · rintro ⟨v, hv, rfl⟩
    exact ⟨_, rest, ⟨v, hv, rfl⟩, rfl, rfl⟩

theorem Draft.readField_eq_ok (hname : name ∈ fields) :
    d.readField n name cs = .ok (d', rest) ↔
      ∃ v, FieldForm n name cs v rest ∧ d' = d.set (name, v) := by
  simp only [fields, List.mem_cons, List.not_mem_nil, or_false] at hname
  rcases hname with rfl | rfl | rfl | rfl | rfl
  · exact readText_eq_ok (by decide) fun o => ⟨_, { d.input with prompt := o }⟩
  · exact readText_eq_ok (by decide) fun o => ⟨_, { d.input with toolName := o }⟩
  · exact readValue_eq_ok (by decide) fun o =>
      ⟨_, { d.input with toolInput := o.map ToolInput.ofValue }⟩
  · exact readValue_eq_ok (by decide) fun o => ⟨_, { d.input with toolResponse := o }⟩
  · exact readText_eq_ok (by decide) fun o => ⟨_, { d.input with sessionId := o }⟩

theorem valueForm_fieldForm (n : Nat) (name : String) : Reader.ValueForm (FieldForm n name) where
  length_lt h := h.1.length_lt
  next h := h.1.next
  congr hsame h := ⟨h.1.congr hsame, h.2⟩

theorem draftReader_reads (n : Nat) :
    Reads (draftReader n) fields (FieldForm n) Draft.seen Draft.set where
  form name _ := valueForm_fieldForm n name
  seen_start := rfl
  seen_take _ _ _ _ _ := rfl
  known {d name cs d' rest} hname := by
    have hcontains : fields.contains name = true := by simpa using hname
    simp only [draftReader, Draft.readMember, hcontains, if_true]
    by_cases hseen : name ∈ d.seen
    · simp [hseen]
    · simp [hseen, unit_bind_eq_ok, Reader.colon_eq_ok, Draft.readField_eq_ok hname]
  other {d name cs d' rest} hname := by
    have hcontains : fields.contains name = false := by simpa using hname
    simp only [draftReader, Draft.readMember, hcontains, Bool.false_eq_true, if_false,
      unit_bind_eq_ok, Reader.colon_eq_ok, Reader.skipValue_eq_ok, pure_eq_ok]
    constructor
    · rintro ⟨cs', hcolon, _, hpassed, rfl, rfl⟩
      exact ⟨rfl, cs', hcolon, hpassed⟩
    · rintro ⟨rfl, cs', hcolon, hpassed⟩
      exact ⟨cs', hcolon, _, hpassed, rfl, rfl⟩
  fields := by
    have hread : ∀ name ∈ fields, ∀ {d cs d' rest}, Draft.readField n d name cs = .ok (d', rest) ↔
        ∃ v, FieldForm n name cs v rest ∧ d' = d.set (name, v) :=
      fun name hname => Draft.readField_eq_ok hname
    simp only [draftReader, List.forall₂_map_left_iff, List.forall₂_same]
    exact hread

end

/-! ## What is read -/

/-- How deep the fields of an event may nest, with one level to spare. -/
def fieldDepth : Nat := Reader.maxDepth - 1

/-- A text is read as an event exactly where it is a record of the fields of one. -/
theorem ofJson?_eq_ok {text : String} {i : HookInput} :
    ofJson? text = .ok i ↔
      ∃ ms, RecordText fields (FieldForm fieldDepth) text ms ∧ i = ms.foldl set {} := by
  have hinput (ms : List (String × Value)) (d : Draft) :
      (ms.foldl Draft.set d).input = ms.foldl set d.input := by
    induction ms generalizing d with
    | nil => rfl
    | cons m ms ih => exact ih _
  have hread :=
    Reader.run_record_eq_ok (show 0 < fieldDepth by decide) (draftReader_reads fieldDepth) text
  have hdepth : fieldDepth + 1 = Reader.maxDepth := rfl
  rw [hdepth] at hread
  rw [ofJson?, Reader.map_eq_ok]
  constructor
  · rintro ⟨d, hd, rfl⟩
    obtain ⟨ms, hms, rfl⟩ := (hread d).mp hd
    exact ⟨ms, hms, hinput ms _⟩
  · rintro ⟨ms, hms, rfl⟩
    exact ⟨_, (hread _).mpr ⟨ms, hms, rfl⟩, hinput ms _⟩

theorem not_isBlankText {text : String} {i : HookInput} (h : ofJson? text = .ok i) :
    Text.isBlankText text = false := by
  obtain ⟨ms, htext, -⟩ := ofJson?_eq_ok.mp h
  exact htext.not_isBlankText

/-- The object of an event: no field stands twice, and each has its form. -/
def IsEvent (text : String) : Prop :=
  ∃ cs ms rest, Next '\x7b' text.toList cs ∧ Members fields (FieldForm fieldDepth) true cs ms rest ∧
    (ms.map Prod.fst).Nodup ∧ Ended rest

/-- A list that gives the fields of an event in order, as many as it has items. -/
def IsEventList (text : String) : Prop :=
  ∃ cs ms rest, Next '[' text.toList cs ∧ Items (FieldForm fieldDepth) fields true cs ms rest ∧
    Ended rest

theorem exists_recordText_iff {text : String} :
    (∃ ms, RecordText fields (FieldForm fieldDepth) text ms) ↔ IsEvent text ∨ IsEventList text := by
  constructor
  · rintro ⟨ms, rest, hms, hended⟩
    cases hms with
    | object hnext hms hdistinct => exact .inl ⟨_, ms, rest, hnext, hms, hdistinct, hended⟩
    | list hnext hms => exact .inr ⟨_, ms, rest, hnext, hms, hended⟩
  · rintro (⟨cs, ms, rest, hnext, hms, hdistinct, hended⟩ | ⟨cs, ms, rest, hnext, hms, hended⟩)
    · exact ⟨ms, rest, .object hnext hms hdistinct, hended⟩
    · exact ⟨ms, rest, .list hnext hms, hended⟩

end HookInput

namespace Invocation

theorem result_of_ofJson? {m : Type → Type} [Monad m] (host : Host m) (s : Settings)
    (e : Environment) {inv : Invocation} (hevents : inv.ReadsEvents) {stdin : String}
    {i : HookInput} (hread : HookInput.ofJson? stdin = .ok i) :
    inv.result host s e stdin = inv.runInput host s e i :=
  result_of_event host s e hevents (HookInput.not_isBlankText hread) hread

/-- What cannot be read leaves a run nothing to do but to record that it was skipped. -/
theorem run_of_unread {m : Type → Type} [Monad m] [LawfulMonad m] (host : Host m) (s : Settings)
    (e : Environment) (log : AuditLog m) {inv : Invocation} (hevents : inv.ReadsEvents)
    {stdin : String} (h : ¬ ∃ i, HookInput.ofJson? stdin = .ok i) :
    ∃ reason, inv.run host s e log stdin =
      (do return (.neutral, ← log.record host (.skipped inv.mode reason))) := by
  cases inv.course stdin with
  | text hraw => exact absurd hraw hevents
  | @unread reason _ hunread =>
    refine ⟨reason, ?_⟩
    rw [run, result_of_unread host s e hevents hunread, pure_bind]
    rfl
  | @event i _ _ hread => exact absurd ⟨i, hread⟩ h

end Invocation

namespace HookInput

open Json (Next)

/-- Standard input is read as an event exactly where it is the object of one, or a list of its
fields. On any other text hooks are silent and let the action pass, and record that they skipped
it. -/
theorem ofJson?_shape (text : String) :
    ((∃ i, ofJson? text = .ok i) ↔ IsEvent text ∨ IsEventList text) ∧
    (¬ (IsEvent text ∨ IsEventList text) →
      ∀ {m : Type → Type} [Monad m] [LawfulMonad m] (host : Host m) (s : Settings)
        (e : Environment) (log : AuditLog m) (inv : Invocation), inv.ReadsEvents →
        ∃ reason, inv.run host s e log text =
          (do return (.neutral, ← log.record host (.skipped inv.mode reason)))) := by
  have hread : (∃ i, ofJson? text = .ok i) ↔ IsEvent text ∨ IsEventList text := by
    rw [← exists_recordText_iff]
    simp only [ofJson?_eq_ok]
    exact ⟨fun ⟨_, ms, hms, _⟩ => ⟨ms, hms⟩, fun ⟨ms, hms⟩ => ⟨_, ms, hms, rfl⟩⟩
  refine ⟨hread, fun hnot m _ _ host s e log inv hevents => ?_⟩
  exact Invocation.run_of_unread host s e log hevents (mt hread.mp hnot)

/-- A number is no event: the gate skips it. -/
theorem ofJson?_shape_number :
    ¬ (IsEvent "5" ∨ IsEventList "5") ∧
      ({ mode := .guard } : Invocation).ReadsEvents ∧
      ∃ reason, ({ mode := .guard } : Invocation).run (Host.holding "") {} (.ofDir "/project")
        {} "5" = (do return (.neutral, ← ({} : AuditLog (StateM Unit)).record (Host.holding "")
          (.skipped .guard reason))) := by
  have hdigit : Next '5' "5".toList [] := rfl
  have hnot : ¬ (IsEvent "5" ∨ IsEventList "5") := by
    rintro (⟨cs, ms, rest, hnext, -⟩ | ⟨cs, ms, rest, hnext, -⟩) <;>
      simpa using hdigit.symm.trans hnext
  have hevents : ({ mode := .guard } : Invocation).ReadsEvents := by
    rintro ⟨hmode, -⟩
    contradiction
  exact ⟨hnot, hevents, (ofJson?_shape "5").2 hnot _ _ _ _ _ hevents⟩

/-- A list of one text is read as a prompt, though it is not the object of an event. -/
theorem ofJson?_prompt_in_list :
    let text := "[\"run semgrep\"]"
    ¬ IsEvent text ∧ ofJson? text = .ok { prompt := some "run semgrep" } := by
  intro text
  have hbracket : text.toList.dropWhile Json.Reader.isSpace = '[' :: text.toList.drop 1 := by
    decide +kernel
  refine ⟨?_, by cbv⟩
  rintro ⟨cs, ms, rest, hnext, -⟩
  simpa using hbracket.symm.trans hnext

end HookInput

end HookGate
