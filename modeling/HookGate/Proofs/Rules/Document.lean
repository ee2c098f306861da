import Mathlib
import HookGate.Rules.Document
import HookGate.Proofs.Json.Order
import HookGate.Proofs.Json.Records

/-!
# The entries of rule documents

A rule document gives values to names, one after the other, and may give one name several values.
What is kept of them: each name once, where it first stands, with its last value.
-/

namespace HookGate.RuleDocument

open Json
open Json.Reader (Reads MemberRun bind_eq_ok unit_bind_eq_ok pure_eq_ok)

/-! ## Entries as they are written -/

/-- The entries of a document, in the order of the text: an object, or `null` for none. -/
inductive Entries : Nat → List Char → List (String × Value) → List Char → Prop
  | null {n cs rest} (hnext : Next 'n' cs ('u' :: 'l' :: 'l' :: rest)) : Entries n cs [] rest
  | object {n cs cs' es rest} (hn : 0 < n) (hnext : Next '\x7b' cs cs')
      (h : WrittenMembers n true cs' es rest) : Entries (n + 1) cs es rest

/-- What is kept of entries. -/
def keep (es : List (String × Value)) : List (String × Value) :=
  es.foldl (fun kept m => put m.1 m.2 kept) []

section

variable {n : Nat} {cs rest : List Char} {es : List (String × Value)}

theorem valueForm_entries (n : Nat) : Reader.ValueForm (Entries n) where
  length_lt h := by
    cases h with
    | null hnext =>
      have := hnext.length_lt
      simp only [List.length_cons] at this
      omega
    | object _ hnext h => exact h.length_lt.trans hnext.length_lt
  next h := by
    cases h with
    | null hnext => exact ⟨_, _, hnext, by decide⟩
    | object _ hnext => exact ⟨_, _, hnext, by decide⟩
  congr hsame h := by
    cases h with
    | null hnext => exact .null (hnext.congr hsame)
    | object hn hnext h => exact .object hn (hnext.congr hsame) h

theorem readEntry_eq_ok {kept out : List (String × Value)} {name : String} :
    readEntry n kept name cs = .ok (out, rest) ↔
      ∃ cs' v, Next ':' cs cs' ∧ Written n cs' v rest ∧ out = put name v kept := by
  rw [readEntry, unit_bind_eq_ok]
  simp only [bind_eq_ok, Reader.colon_eq_ok, Reader.value_eq_ok, pure_eq_ok]
  constructor
  · rintro ⟨cs', hcolon, v, _, hv, rfl, rfl⟩
    exact ⟨cs', v, hcolon, hv, rfl⟩
  · rintro ⟨cs', v, hcolon, hv, rfl⟩
    exact ⟨cs', hcolon, v, rest, hv, rfl, rfl⟩

theorem readEntry_length_le {kept out : List (String × Value)} {name : String}
    (h : readEntry n kept name cs = .ok (out, rest)) : rest.length ≤ cs.length := by
  obtain ⟨cs', v, hcolon, hv, -⟩ := readEntry_eq_ok.mp h
  exact (hv.length_lt.trans hcolon.length_lt).le

theorem writtenMembers_of_memberRun {first : Bool} {kept out : List (String × Value)}
    (h : MemberRun (readEntry n) first kept cs out rest) :
    ∃ es, WrittenMembers n first cs es rest ∧
      out = es.foldl (fun kept m => put m.1 m.2 kept) kept := by
  induction h with
  | nil hnext => exact ⟨[], .nil hnext, rfl⟩
  | cons hfirst hquote hname hstep _ ih =>
    obtain ⟨es, hes, rfl⟩ := ih
    obtain ⟨cs', v, hcolon, hv, rfl⟩ := readEntry_eq_ok.mp hstep
    exact ⟨_, .cons hfirst hquote hname hcolon hv hes, rfl⟩

theorem memberRun_of_writtenMembers {n : Nat} {first : Bool} {cs : List Char}
    {es : List (String × Value)} {rest : List Char} : WrittenMembers n first cs es rest →
      ∀ kept, MemberRun (readEntry n) first kept cs
        (es.foldl (fun kept m => put m.1 m.2 kept) kept) rest
  | .nil hnext, _ => .nil hnext
  | .cons hfirst hquote hname hcolon hv hes, _ =>
    .cons hfirst hquote hname (readEntry_eq_ok.mpr ⟨_, _, hcolon, hv, rfl⟩)
      (memberRun_of_writtenMembers hes _)

theorem readEntries_eq_ok {out : List (String × Value)} :
    readEntries n cs = .ok (out, rest) ↔ ∃ es, Entries n cs es rest ∧ out = keep es := by
  constructor
  · intro h
    rw [readEntries, Reader.peekToken_bind] at h
    cases hcs : cs.dropWhile Reader.isSpace with
    | nil => simp [hcs] at h
    | cons c r =>
      simp only [hcs, List.head?_cons] at h
      obtain ⟨found, mid, hscalar, h⟩ := bind_eq_ok.mp h
      cases found with
      | some v =>
        have hv := Reader.scalar_of_scalar? hscalar
        cases v with
        | null =>
          obtain ⟨rfl, rfl⟩ := pure_eq_ok.mp h
          cases hv with
          | word hword =>
            cases hword
            exact ⟨[], .null hcs, rfl⟩
        | _ => exact absurd h Reader.fail_ne_ok
      | none =>
        obtain rfl := Reader.scalar?_none hscalar
        dsimp only at h
        split at h
        · obtain ⟨_, _, _, h⟩ := bind_eq_ok.mp h
          exact absurd h Reader.fail_ne_ok
        split at h
        · next hc =>
          subst hc
          obtain ⟨depth, mid, henter, h⟩ := bind_eq_ok.mp h
          obtain ⟨hdepth, rfl, rfl⟩ := Reader.enter_eq_ok.mp henter
          rw [Reader.advance_bind] at h
          obtain ⟨es, hes, rfl⟩ :=
            writtenMembers_of_memberRun ((Reader.object_eq_ok readEntry_length_le).mp h)
          exact ⟨es, .object hdepth hcs hes, rfl⟩
        · exact absurd h Reader.fail_ne_ok
  · rintro ⟨es, hes, rfl⟩
    cases hes with
    | null hnext =>
      rw [readEntries, Reader.peekToken_bind, hnext]
      rfl
    | object hn hnext hes =>
      rw [readEntries, Reader.peekToken_bind, hnext]
      refine bind_eq_ok.mpr ⟨none, _, rfl, ?_⟩
      refine bind_eq_ok.mpr ⟨_, _, Reader.enter_eq_ok.mpr ⟨hn, rfl, rfl⟩, ?_⟩
      rw [Reader.advance_bind]
      exact (Reader.object_eq_ok readEntry_length_le).mpr (memberRun_of_writtenMembers hes [])

/-! ## Documents -/

/-- The one field of a document. -/
def fields : List String := ["skills"]

/-- Takes up the entries of a document. -/
def take (_ : Option RuleDocument) (m : String × List (String × Value)) : Option RuleDocument :=
  some ⟨keep m.2⟩

theorem recordReader_reads (n : Nat) :
    Reads (recordReader n) fields (fun _ => Entries n) (fun d => if d.isSome then fields else [])
      take where
  form _ _ := valueForm_entries n
  seen_start := rfl
  seen_take := by
    intro s name hname hnew es
    obtain rfl := List.mem_singleton.mp hname
    cases s with
    | some d => exact absurd hname hnew
    | none => rfl
  known {d name cs d' rest} hname := by
    obtain rfl := List.mem_singleton.mp hname
    cases d with
    | some d => simp [recordReader, readMember, fields]
    | none =>
      have hstep : (recordReader n).step none "skills" =
          (do Reader.colon; return some ⟨← readEntries n⟩) := rfl
      rw [hstep, unit_bind_eq_ok]
      simp only [bind_eq_ok, pure_eq_ok, readEntries_eq_ok, Reader.colon_eq_ok, Option.isSome_none,
        Bool.false_eq_true, if_false, List.not_mem_nil, not_false_eq_true, true_and]
      constructor
      · rintro ⟨cs', hcolon, _, _, ⟨es, hes, rfl⟩, rfl, rfl⟩
        exact ⟨cs', es, hcolon, hes, rfl⟩
      · rintro ⟨cs', es, hcolon, hes, rfl⟩
        exact ⟨cs', hcolon, _, rest, ⟨es, hes, rfl⟩, rfl, rfl⟩
  other {d name cs d' rest} hname := by
    have hne : name ≠ "skills" := fun h => hname (List.mem_singleton.mpr h)
    simp only [recordReader, readMember, if_neg hne, unit_bind_eq_ok, Reader.colon_eq_ok,
      Reader.skipValue_eq_ok, pure_eq_ok]
    constructor
    · rintro ⟨cs', hcolon, _, hpassed, rfl, rfl⟩
      exact ⟨rfl, cs', hcolon, hpassed⟩
    · rintro ⟨rfl, cs', hcolon, hpassed⟩
      exact ⟨cs', hcolon, _, hpassed, rfl, rfl⟩
  fields := by
    refine .cons (fun {s cs s' rest} => ?_) .nil
    simp only [bind_eq_ok, pure_eq_ok, readEntries_eq_ok]
    constructor
    · rintro ⟨_, _, ⟨es, hes, rfl⟩, rfl, rfl⟩
      exact ⟨es, hes, rfl⟩
    · rintro ⟨es, hes, rfl⟩
      exact ⟨_, rest, ⟨es, hes, rfl⟩, rfl, rfl⟩

/-- How deep the entries of a document may nest, with one level to spare. -/
def entryDepth : Nat := Reader.maxDepth - 1

/-- A document gives these values to these names, one after the other. -/
def Gives (text : String) (es : List (String × Value)) : Prop :=
  ∃ ms, RecordText fields (fun _ => Entries entryDepth) text ms ∧ es = ms.flatMap Prod.snd

theorem ordered_of_gives {text : String} {es : List (String × Value)} (h : Gives text es) :
    ∀ e ∈ es, e.2.Ordered := by
  obtain ⟨ms, ⟨rest, hms, -⟩, rfl⟩ := h
  intro e he
  obtain ⟨⟨name, es⟩, hm, he⟩ := List.mem_flatMap.mp he
  obtain ⟨cs, rest, hentries⟩ := hms.exists_form _ hm
  cases hentries with
  | null => contradiction
  | object _ _ h => exact h.ordered e he

/-- A document is read exactly where entries are given, and of these is kept what is to be kept. -/
theorem ofText?_eq_ok {text : String} {d : RuleDocument} :
    ofText? text = .ok d ↔ ∃ es, Gives text es ∧ d = ⟨keep es⟩ := by
  have hread :=
    Reader.run_record_eq_ok (show 0 < entryDepth by decide) (recordReader_reads entryDepth) text
  have hdepth : entryDepth + 1 = Reader.maxDepth := rfl
  rw [hdepth] at hread
  have hkept {ms : List (String × List (String × Value))}
      (hms : RecordText fields (fun _ => Entries entryDepth) text ms) :
      (ms.foldl take (recordReader entryDepth).start).getD {} = ⟨keep (ms.flatMap Prod.snd)⟩ := by
    obtain ⟨rest, hms, -⟩ := hms
    -- There is one field only, and no field stands twice.
    match ms, hms.length_le with
    | [], _ => rfl
    | [m], _ => simp [take]
  rw [ofText?, Reader.map_eq_ok]
  constructor
  · rintro ⟨found, hfound, rfl⟩
    obtain ⟨ms, hms, rfl⟩ := (hread found).mp hfound
    exact ⟨_, ⟨ms, hms, rfl⟩, hkept hms⟩
  · rintro ⟨es, ⟨ms, hms, rfl⟩, rfl⟩
    exact ⟨_, (hread _).mpr ⟨ms, hms, rfl⟩, hkept hms⟩

/-! ## What is kept of entries -/

/-- The names to which values are given, each where it first stands. -/
def names (es : List (String × Value)) : List String := (es.map Prod.fst).eraseDups

/-- The value that is given to a name last. -/
def last? (es : List (String × Value)) (name : String) : Option Value := es.reverse.lookup name

theorem map_fst_put (name : String) (v : Value) (es : List (String × Value)) :
    (put name v es).map Prod.fst =
      if name ∈ es.map Prod.fst then es.map Prod.fst else es.map Prod.fst ++ [name] := by
  induction es with
  | nil => rfl
  | cons e es ih =>
    obtain ⟨n, w⟩ := e
    by_cases h : n = name
    · simp [put, h]
    · have h' : name ≠ n := fun heq => h heq.symm
      simp only [put, if_neg h, List.map_cons, ih, List.mem_cons, h', false_or]
      split <;> rfl

theorem nodup_put {name : String} {v : Value} {es : List (String × Value)}
    (h : (es.map Prod.fst).Nodup) : ((put name v es).map Prod.fst).Nodup := by
  rw [map_fst_put]
  split
  · exact h
  · next hnew =>
    refine List.nodup_append.mpr ⟨h, List.nodup_singleton name, fun n hn m hm => ?_⟩
    obtain rfl := List.mem_singleton.mp hm
    exact fun heq => hnew (heq ▸ hn)

theorem mem_put {name : String} {v : Value} {es : List (String × Value)}
    (h : (es.map Prod.fst).Nodup) {e : String × Value} (he : e ∈ put name v es) :
    e = (name, v) ∨ e.1 ≠ name ∧ e ∈ es := by
  induction es with
  | nil => exact .inl (List.mem_singleton.mp he)
  | cons e' es ih =>
    obtain ⟨n, w⟩ := e'
    rw [List.map_cons, List.nodup_cons] at h
    by_cases hn : n = name
    · rw [put, if_pos hn, List.mem_cons] at he
      subst hn
      refine he.imp id fun hmem => ⟨fun heq => ?_, List.mem_cons_of_mem _ hmem⟩
      exact h.1 (List.mem_map.mpr ⟨e, hmem, heq⟩)
    · rw [put, if_neg hn, List.mem_cons] at he
      rcases he with rfl | hmem
      · exact .inr ⟨hn, List.mem_cons_self⟩
      · exact (ih h.2 hmem).imp id fun hold => ⟨hold.1, List.mem_cons_of_mem _ hold.2⟩

theorem keep_append (es : List (String × Value)) (e : String × Value) :
    keep (es ++ [e]) = put e.1 e.2 (keep es) := by
  simp [keep]

theorem map_fst_keep (es : List (String × Value)) : (keep es).map Prod.fst = names es := by
  induction es using List.reverseRecOn with
  | nil => rfl
  | append_singleton es e ih =>
    rw [keep_append, map_fst_put, ih, names, names, List.map_append, List.eraseDups_append]
    by_cases hmem : e.1 ∈ es.map Prod.fst
    · have hnone : ([e].map Prod.fst).removeAll (es.map Prod.fst) = [] := by
        simp [List.removeAll, -List.mem_map, hmem]
      rw [if_pos (List.mem_eraseDups.mpr hmem), hnone, List.eraseDups_nil, List.append_nil]
    · have hnew : ([e].map Prod.fst).removeAll (es.map Prod.fst) = [e.1] := by
        simp [List.removeAll, -List.mem_map, hmem]
      rw [if_neg (mt List.mem_eraseDups.mp hmem), hnew]
      rfl

theorem nodup_keep (es : List (String × Value)) : ((keep es).map Prod.fst).Nodup := by
  induction es using List.reverseRecOn with
  | nil => exact .nil
  | append_singleton es e ih =>
    rw [keep_append]
    exact nodup_put ih

theorem mem_of_last? {es : List (String × Value)} {name : String} {v : Value}
    (h : last? es name = some v) : (name, v) ∈ es := by
  obtain ⟨before, behind, heq, -⟩ := List.lookup_eq_some_iff.mp h
  rw [← List.mem_reverse, heq]
  simp

theorem last?_eq_none {es : List (String × Value)} {name : String} (h : name ∉ names es) :
    last? es name = none := by
  rw [names, List.mem_eraseDups] at h
  rw [last?, List.lookup_eq_none_iff]
  intro e he
  have hne : name ≠ e.1 := by
    rintro rfl
    exact h (List.mem_map_of_mem (List.mem_reverse.mp he))
  simpa using hne

theorem last?_of_mem_keep {es : List (String × Value)} {e : String × Value} (h : e ∈ keep es) :
    last? es e.1 = some e.2 := by
  induction es using List.reverseRecOn with
  | nil => cases h
  | append_singleton es e' ih =>
    rw [keep_append] at h
    rw [last?, List.reverse_append, List.reverse_singleton, List.singleton_append, List.lookup_cons]
    rcases mem_put (nodup_keep es) h with rfl | ⟨hne, hmem⟩
    · simp
    · have hdiffers : (e.1 == e'.1) = false := by simpa using hne
      rw [hdiffers]
      exact ih hmem

end

end HookGate.RuleDocument
