import Mathlib
import HookGate.Proofs.Json.Values
import HookGate.Proofs.Json.Skipping

/-!
# Records

A record is read member by member from an object, or item by item from a list. What the text holds
is told apart from what the reader makes of it: a list of members in the order of the text, and a
step that takes them up one by one and may refuse one.
-/

namespace HookGate.Json.Reader

variable {σ α : Type} {cs rest : List Char}

/-! ## Values of a wanted kind -/

theorem mismatch_ne_ok {wanted : String} {r : α × List Char} : mismatch wanted cs ≠ .ok r := by
  obtain ⟨a, rest⟩ := r
  intro h
  rw [mismatch] at h
  obtain ⟨c?, _, hpeek, h⟩ := bind_eq_ok.mp h
  cases c? with
  | none => exact fail_ne_ok h
  | some c =>
    obtain ⟨v?, _, -, h⟩ := bind_eq_ok.mp h
    cases v? with
    | some v => exact fail_ne_ok h
    | none =>
      dsimp only at h
      split at h
      · exact fail_ne_ok h
      · split at h <;> exact fail_ne_ok h

theorem written_string {n : Nat} {s : String} :
    Written n cs (.string s) rest ↔
      ∃ r t, Next '"' cs r ∧ Spelled r t rest ∧ s = String.ofList t := by
  constructor
  · intro h
    generalize hv : Value.string s = v at h
    cases h with
    | scalar hnext h =>
      cases h with
      | word h => cases h <;> contradiction
      | string h =>
        simp only [Value.string.injEq] at hv
        exact ⟨_, _, hnext, h, hv⟩
      | positive | negative => contradiction
    | array => contradiction
    | object => simp [Value.ofMembers] at hv
  · rintro ⟨r, t, hnext, h, rfl⟩
    exact .scalar hnext (.string h)

theorem string_eq_ok (n : Nat) {s : String} :
    Reader.string cs = .ok (s, rest) ↔ Written n cs (.string s) rest := by
  rw [written_string]
  constructor
  · intro h
    rw [Reader.string, peekToken_bind] at h
    cases hcs : cs.dropWhile isSpace with
    | nil => simp [hcs] at h
    | cons c r =>
      by_cases hc : c = '"'
      · subst hc
        rw [hcs] at h
        obtain ⟨t, hspelled, rfl⟩ := stringRest_eq_ok.mp h
        exact ⟨r, t, hcs, hspelled, rfl⟩
      · simp [hcs, mismatch_ne_ok] at h
  · rintro ⟨r, t, hnext, hspelled, rfl⟩
    rw [Reader.string, peekToken_bind, hnext]
    exact stringRest_eq_ok.mpr ⟨t, hspelled, rfl⟩

/-- What a value stands for where `null` stands for nothing. -/
def nullable (decode : Value → Option α) : Value → Option (Option α)
  | .null => some none
  | v => (decode v).map some

theorem nullable_of_ne_null {decode : Value → Option α} {v : Value} (h : v ≠ .null) :
    nullable decode v = (decode v).map some := by
  cases v <;> first | rfl | contradiction

theorem optional_of_next {read : Reader α} {r : List Char} (hnext : Next 'n' cs r) :
    Reader.optional read cs = (do ident ['u', 'l', 'l']; return none) r := by
  rw [Reader.optional, peekToken_bind, hnext]
  rfl

theorem optional_of_not_next {read : Reader α} (hnot : ∀ r, ¬ Next 'n' cs r) :
    Reader.optional read cs = (do return some (← read)) (cs.dropWhile isSpace) := by
  rw [Reader.optional, peekToken_bind]
  cases hcs : cs.dropWhile isSpace with
  | nil => rfl
  | cons c r =>
    have hc : c ≠ 'n' := by
      rintro rfl
      exact hnot r hcs
    simp [hc]

theorem optional_eq_ok {n : Nat} {read : Reader α} {decode : Value → Option α}
    (hread : ∀ {cs a rest}, read cs = .ok (a, rest) ↔ ∃ v, Written n cs v rest ∧ decode v = some a)
    {o : Option α} :
    Reader.optional read cs = .ok (o, rest) ↔
      ∃ v, Written n cs v rest ∧ nullable decode v = some o := by
  by_cases hnull : ∃ r, Next 'n' cs r
  · obtain ⟨r, hnext⟩ := hnull
    rw [optional_of_next hnext]
    simp only [ident_bind_eq_ok, pure_eq_ok]
    constructor
    · rintro ⟨_, rfl, rfl, rfl⟩
      exact ⟨.null, .scalar hnext (.word .null), rfl⟩
    · rintro ⟨v, hv, hdecode⟩
      obtain ⟨rfl, rfl⟩ := hnext.eq_null hv
      exact ⟨rest, rfl, Option.some.inj hdecode, rfl⟩
  · have hne {v : Value} (hv : Written n cs v rest) : v ≠ .null := by
      rintro rfl
      exact hnull hv.next_null
    rw [optional_of_not_next (not_exists.mp hnull)]
    simp only [bind_eq_ok, pure_eq_ok, hread]
    constructor
    · rintro ⟨a, _, ⟨v, hv, hdecode⟩, rfl, rfl⟩
      have hv := hv.congr (dropWhile_dropWhile_isSpace cs)
      exact ⟨v, hv, by rw [nullable_of_ne_null (hne hv), hdecode, Option.map_some]⟩
    · rintro ⟨v, hv, hdecode⟩
      rw [nullable_of_ne_null (hne hv), Option.map_eq_some_iff] at hdecode
      obtain ⟨a, hdecode, rfl⟩ := hdecode
      exact ⟨a, rest, ⟨v, hv.congr (dropWhile_dropWhile_isSpace cs).symm, hdecode⟩, rfl, rfl⟩

/-- A string, or `null` in place of one. -/
def IsText (v : Value) : Prop := v = .null ∨ ∃ s, v = .string s

/-- A value, or nothing for `null`. -/
def given? : Value → Option Value
  | .null => none
  | v => some v

theorem nullable_string_eq_some {v : Value} {o : Option String} :
    nullable Value.string? v = some o ↔ IsText v ∧ o = v.string? := by
  cases v <;> simp [nullable, Value.string?, IsText, eq_comm (a := o)]

theorem nullable_some_eq_some {v : Value} {o : Option Value} :
    nullable some v = some o ↔ o = given? v := by
  cases v <;> simp [nullable, given?, eq_comm (a := o)]

theorem optional_string_eq_ok (n : Nat) {o : Option String} :
    Reader.optional Reader.string cs = .ok (o, rest) ↔
      ∃ v, (Written n cs v rest ∧ IsText v) ∧ o = v.string? := by
  have hread {cs s rest} : Reader.string cs = .ok (s, rest) ↔
      ∃ v, Written n cs v rest ∧ v.string? = some s := by
    rw [string_eq_ok n]
    constructor
    · intro h
      exact ⟨_, h, rfl⟩
    · rintro ⟨v, hv, hs⟩
      cases v <;> simp_all [Value.string?]
  simp only [optional_eq_ok hread, nullable_string_eq_some, and_assoc]

theorem optional_value_eq_ok {n : Nat} {o : Option Value} :
    Reader.optional (Reader.value n) cs = .ok (o, rest) ↔
      ∃ v, Written n cs v rest ∧ o = given? v := by
  have hread {cs v rest} : Reader.value n cs = .ok (v, rest) ↔
      ∃ w, Written n cs w rest ∧ some w = some v := by
    rw [value_eq_ok]
    simp
  simp only [optional_eq_ok hread, nullable_some_eq_some]

/-! ## Objects, member by member -/

section Members

/-- What comes of taking up the members of an object one by one, up to the closing brace. -/
inductive MemberRun (step : σ → String → Reader σ) :
    Bool → σ → List Char → σ → List Char → Prop
  | nil {first s cs rest} (hnext : Next '\x7d' cs rest) : MemberRun step first s cs s rest
  | cons {first s cs cs₁ cs₂ name cs₃ s' cs₄ out rest} (hfirst : Separated first cs cs₁)
      (hquote : Next '"' cs₁ cs₂) (hname : Spelled cs₂ name cs₃)
      (hstep : step s (String.ofList name) cs₃ = .ok (s', cs₄))
      (hrest : MemberRun step false s' cs₄ out rest) : MemberRun step first s cs out rest

variable {step : σ → String → Reader σ} {first : Bool} {s out : σ} {fuel : Nat}

theorem memberRun_of_foldMembersWith {mid : List Char}
    (h : foldMembersWith step fuel first s cs = .ok (out, mid)) (hend : Next '\x7d' mid rest) :
    MemberRun step first s cs out rest := by
  induction fuel generalizing first s cs with
  | zero => cases h
  | succ fuel ih =>
    rw [foldMembersWith] at h
    obtain ⟨more, cs₁, hmore, h⟩ := bind_eq_ok.mp h
    cases more with
    | false =>
      obtain ⟨rfl, rfl⟩ := pure_eq_ok.mp h
      obtain ⟨r, hnext, rfl⟩ := moreMembers_false_eq_ok.mp hmore
      obtain rfl := rest_eq_of_next rfl hend
      exact .nil hnext
    | true =>
      obtain ⟨cs', r, hfirst, hquote, rfl⟩ := moreMembers_true_eq_ok.mp hmore
      rw [if_pos rfl, advance_bind] at h
      obtain ⟨name, cs₂, hname, h⟩ := bind_eq_ok.mp h
      obtain ⟨t, hspelled, rfl⟩ := stringRest_eq_ok.mp hname
      obtain ⟨s', cs₃, hstep, h⟩ := bind_eq_ok.mp h
      exact .cons hfirst hquote hspelled hstep (ih h)

theorem foldMembersWith_of_memberRun
    (hshort : ∀ {s name cs s' rest}, step s name cs = .ok (s', rest) → rest.length ≤ cs.length)
    (h : MemberRun step first s cs out rest) (hfuel : cs.length < fuel) :
    foldMembersWith step fuel first s cs = .ok (out, '\x7d' :: rest) := by
  induction h generalizing fuel with
  | nil hnext =>
    obtain ⟨fuel, rfl⟩ := Nat.exists_eq_add_one.mpr (show 0 < fuel by omega)
    exact bind_eq_ok.mpr ⟨false, _, moreMembers_false_eq_ok.mpr ⟨_, hnext, rfl⟩, rfl⟩
  | cons hfirst hquote hname hstep _ ih =>
    -- The quote of its name is a character that pays for the fuel of a member.
    have hlen := hfirst.length_le
    have hlen' := (hshort hstep).trans_lt (hname.length_lt.trans hquote.length_lt)
    obtain ⟨fuel, rfl⟩ := Nat.exists_eq_add_one.mpr (show 0 < fuel by omega)
    refine bind_eq_ok.mpr ⟨true, _, moreMembers_true_eq_ok.mpr ⟨_, _, hfirst, hquote, rfl⟩, ?_⟩
    rw [if_pos rfl, advance_bind]
    refine bind_eq_ok.mpr ⟨_, _, stringRest_eq_ok.mpr ⟨_, hname, rfl⟩, ?_⟩
    exact bind_eq_ok.mpr ⟨_, _, hstep, ih (by omega)⟩

theorem object_eq_ok
    (hshort : ∀ {s name cs s' rest}, step s name cs = .ok (s', rest) → rest.length ≤ cs.length) :
    (do let out ← foldMembers step s; objectEnd; return out) cs = .ok (out, rest) ↔
      MemberRun step true s cs out rest := by
  constructor
  · intro h
    obtain ⟨_, mid, hmembers, h⟩ := bind_eq_ok.mp h
    obtain ⟨_, _, hend, h⟩ := bind_eq_ok.mp h
    obtain ⟨rfl, rfl⟩ := pure_eq_ok.mp h
    exact memberRun_of_foldMembersWith hmembers (objectEnd_eq_ok.mp hend)
  · intro h
    have hmembers := foldMembersWith_of_memberRun hshort h (Nat.lt_succ_self cs.length)
    refine bind_eq_ok.mpr ⟨out, _, hmembers, ?_⟩
    exact bind_eq_ok.mpr ⟨(), rest, objectEnd_eq_ok.mpr (next_cons rfl), rfl⟩

end Members

/-! ## Records -/

section Records

/-- Values of a form take at least a character, do not end a list, and may stand behind blanks. -/
structure ValueForm (Form : List Char → α → List Char → Prop) : Prop where
  length_lt : ∀ {cs a rest}, Form cs a rest → rest.length < cs.length
  next : ∀ {cs a rest}, Form cs a rest → ∃ c r, Next c cs r ∧ c ≠ ']'
  congr : ∀ {cs cs' a rest}, cs.dropWhile isSpace = cs'.dropWhile isSpace → Form cs a rest →
    Form cs' a rest

/-- What a reader of records makes of a field, behind the name or in place of it. -/
structure Reads (r : RecordReader σ) (names : List String)
    (Form : String → List Char → α → List Char → Prop) (seen : σ → List String)
    (take : σ → String × α → σ) : Prop where
  form : ∀ name ∈ names, ValueForm (Form name)
  seen_start : seen r.start = []
  seen_take : ∀ s, ∀ name ∈ names, name ∉ seen s → ∀ a, seen (take s (name, a)) = name :: seen s
  known : ∀ {s name cs s' rest}, name ∈ names → (r.step s name cs = .ok (s', rest) ↔
    name ∉ seen s ∧ ∃ cs' a, Next ':' cs cs' ∧ Form name cs' a rest ∧ s' = take s (name, a))
  other : ∀ {s name cs s' rest}, name ∉ names → (r.step s name cs = .ok (s', rest) ↔
    s' = s ∧ ∃ cs', Next ':' cs cs' ∧ Passed cs' rest)
  fields : List.Forall₂ (fun read name => ∀ {s cs s' rest}, read s cs = .ok (s', rest) ↔
    ∃ a, Form name cs a rest ∧ s' = take s (name, a)) r.fields names

variable {r : RecordReader σ} {names : List String}
  {Form : String → List Char → α → List Char → Prop} {seen : σ → List String}
  {take : σ → String × α → σ}

namespace Reads

theorem step_length_le (hr : Reads r names Form seen take) {s s' : σ} {name : String}
    (h : r.step s name cs = .ok (s', rest)) : rest.length ≤ cs.length := by
  by_cases hname : name ∈ names
  · obtain ⟨-, cs', a, hcolon, ha, -⟩ := (hr.known hname).mp h
    exact ((hr.form name hname).length_lt ha).le.trans hcolon.length_lt.le
  · obtain ⟨-, cs', hcolon, hpassed⟩ := (hr.other hname).mp h
    exact hpassed.length_lt.le.trans hcolon.length_lt.le

theorem members_of_memberRun (hr : Reads r names Form seen take) {first : Bool} {s out : σ}
    (h : MemberRun r.step first s cs out rest) :
    ∃ ms, Members names Form first cs ms rest ∧ (ms.map Prod.fst).Nodup ∧
      (∀ name ∈ seen s, name ∉ ms.map Prod.fst) ∧ out = ms.foldl take s := by
  induction h with
  | nil hnext => exact ⟨[], .nil hnext, by simp, by simp, rfl⟩
  | @cons first s cs cs₁ cs₂ t cs₃ s' cs₄ out rest hfirst hquote hspelled hstep _ ih =>
    obtain ⟨ms, hms, hdistinct, hunseen, rfl⟩ := ih
    by_cases hname : String.ofList t ∈ names
    · -- From here on the name counts as seen, so it cannot stand among the members that follow.
      obtain ⟨hnew, cs', a, hcolon, ha, rfl⟩ := (hr.known hname).mp hstep
      rw [hr.seen_take s _ hname hnew] at hunseen
      refine ⟨_, .known hfirst hquote hspelled hname hcolon ha hms, ?_, ?_, rfl⟩
      · rw [List.map_cons, List.nodup_cons]
        exact ⟨hunseen _ List.mem_cons_self, hdistinct⟩
      · intro name hseen
        rw [List.map_cons, List.mem_cons, not_or]
        refine ⟨?_, hunseen name (List.mem_cons_of_mem _ hseen)⟩
        rintro rfl
        exact hnew hseen
    · obtain ⟨rfl, cs', hcolon, hpassed⟩ := (hr.other hname).mp hstep
      exact ⟨ms, .other hfirst hquote hspelled hname hcolon hpassed hms, hdistinct, hunseen, rfl⟩

theorem memberRun_of_members (hr : Reads r names Form seen take) {first : Bool}
    {ms : List (String × α)} (h : Members names Form first cs ms rest) {s : σ}
    (hdistinct : (ms.map Prod.fst).Nodup) (hunseen : ∀ name ∈ seen s, name ∉ ms.map Prod.fst) :
    MemberRun r.step first s cs (ms.foldl take s) rest := by
  induction h generalizing s with
  | nil hnext => exact .nil hnext
  | @known first cs cs₁ cs₂ t cs₃ cs₄ a cs₅ ms rest hfirst hquote hspelled hname hcolon ha _ ih =>
    rw [List.map_cons, List.nodup_cons] at hdistinct
    have hnew : String.ofList t ∉ seen s := fun hseen => hunseen _ hseen List.mem_cons_self
    have hstep := (hr.known hname).mpr ⟨hnew, cs₄, a, hcolon, ha, rfl⟩
    refine .cons hfirst hquote hspelled hstep (ih hdistinct.2 fun name hseen => ?_)
    rw [hr.seen_take s _ hname hnew] at hseen
    rcases List.mem_cons.mp hseen with rfl | hseen
    · exact hdistinct.1
    · exact fun hmem => hunseen name hseen (List.mem_cons_of_mem _ hmem)
  | other hfirst hquote hspelled hname hcolon hpassed _ ih =>
    exact .cons hfirst hquote hspelled ((hr.other hname).mpr ⟨rfl, _, hcolon, hpassed⟩)
      (ih hdistinct hunseen)

theorem items_of_foldItems {reads : List (σ → Reader σ)}
    (hfields : List.Forall₂ (fun read name => ∀ {s cs s' rest}, read s cs = .ok (s', rest) ↔
      ∃ a, Form name cs a rest ∧ s' = take s (name, a)) reads names)
    (hform : ∀ name ∈ names, ValueForm (Form name)) {first : Bool} {s out : σ} {mid : List Char}
    (h : foldItems reads first s cs = .ok (out, mid)) (hend : Next ']' mid rest) :
    ∃ ms, Items Form names first cs ms rest ∧ out = ms.foldl take s := by
  induction hfields generalizing first s cs with
  | nil =>
    obtain ⟨rfl, rfl⟩ := pure_eq_ok.mp h
    exact ⟨[], .nil hend, rfl⟩
  | @cons read name reads names hread _ ih =>
    rw [foldItems] at h
    obtain ⟨more, cs₁, hmore, h⟩ := bind_eq_ok.mp h
    cases more with
    | false =>
      obtain ⟨rfl, rfl⟩ := pure_eq_ok.mp h
      obtain ⟨r, hnext, rfl⟩ := moreItems_false_eq_ok.mp hmore
      obtain rfl := rest_eq_of_next rfl hend
      exact ⟨[], .nil hnext, rfl⟩
    | true =>
      obtain ⟨cs', c, r, hfirst, hnext, -, rfl⟩ := moreItems_true_eq_ok.mp hmore
      obtain ⟨s', cs₂, hitem, h⟩ := bind_eq_ok.mp h
      obtain ⟨a, ha, rfl⟩ := hread.mp hitem
      obtain ⟨ms, hms, rfl⟩ := ih (fun name hname => hform name (List.mem_cons_of_mem _ hname)) h
      rw [← hnext] at ha
      have ha := (hform name List.mem_cons_self).congr (dropWhile_dropWhile_isSpace cs') ha
      exact ⟨_, .cons hfirst ha hms, rfl⟩

theorem foldItems_of_items {reads : List (σ → Reader σ)}
    (hfields : List.Forall₂ (fun read name => ∀ {s cs s' rest}, read s cs = .ok (s', rest) ↔
      ∃ a, Form name cs a rest ∧ s' = take s (name, a)) reads names)
    (hform : ∀ name ∈ names, ValueForm (Form name)) {first : Bool} {ms : List (String × α)}
    (h : Items Form names first cs ms rest) (s : σ) :
    ∃ mid, foldItems reads first s cs = .ok (ms.foldl take s, mid) ∧ Next ']' mid rest := by
  induction h generalizing reads s with
  | nil hnext =>
    cases hfields with
    | nil => exact ⟨_, rfl, hnext⟩
    | cons hread hfields =>
      refine ⟨_, bind_eq_ok.mpr ⟨false, _, moreItems_false_eq_ok.mpr ⟨_, hnext, rfl⟩, rfl⟩, ?_⟩
      exact next_cons rfl
  | @cons name names first cs cs₁ a cs₂ ms rest hfirst ha _ ih =>
    cases hfields with
    | cons hread hfields =>
      have hvalue := hform name List.mem_cons_self
      obtain ⟨c, r, hnext, hc⟩ := hvalue.next ha
      obtain ⟨mid, hrest, hend⟩ := ih hfields
        (fun name hname => hform name (List.mem_cons_of_mem _ hname)) (take s (name, a))
      refine ⟨mid, bind_eq_ok.mpr ⟨true, _, moreItems_true_eq_ok.mpr
        ⟨_, c, r, hfirst, hnext, hc, rfl⟩, ?_⟩, hend⟩
      rw [if_pos rfl, ← hnext]
      have ha := hvalue.congr (dropWhile_dropWhile_isSpace cs₁).symm ha
      exact bind_eq_ok.mpr ⟨_, _, hread.mpr ⟨a, ha, rfl⟩, hrest⟩

end Reads

/-- A record is read exactly where one is written, and its fields are taken up in order. -/
theorem record_eq_ok {r : Nat → RecordReader σ} {n : Nat} (hn : 0 < n)
    (hr : Reads (r n) names Form seen take) {out : σ} :
    record r (n + 1) cs = .ok (out, rest) ↔
      ∃ ms, Record names Form cs ms rest ∧ out = ms.foldl take (r n).start := by
  constructor
  · intro h
    rw [record, peekToken_bind] at h
    cases hcs : cs.dropWhile isSpace with
    | nil => simp [hcs] at h
    | cons c tail =>
      simp only [hcs, List.head?_cons] at h
      split at h
      · next hc =>
        subst hc
        obtain ⟨depth, mid, henter, h⟩ := bind_eq_ok.mp h
        obtain ⟨-, hdepth, rfl⟩ := enter_eq_ok.mp henter
        obtain rfl := Nat.succ.inj hdepth
        rw [advance_bind] at h
        obtain ⟨s, mid, hitems, h⟩ := bind_eq_ok.mp h
        obtain ⟨_, _, hend, h⟩ := bind_eq_ok.mp h
        obtain ⟨rfl, rfl⟩ := pure_eq_ok.mp h
        obtain ⟨ms, hms, hout⟩ :=
          Reads.items_of_foldItems hr.fields hr.form hitems (listEnd_eq_ok.mp hend)
        exact ⟨ms, .list hcs hms, hout⟩
      split at h
      · next hc =>
        subst hc
        obtain ⟨depth, mid, henter, h⟩ := bind_eq_ok.mp h
        obtain ⟨-, hdepth, rfl⟩ := enter_eq_ok.mp henter
        obtain rfl := Nat.succ.inj hdepth
        rw [advance_bind] at h
        obtain ⟨ms, hms, hdistinct, -, hout⟩ :=
          hr.members_of_memberRun ((object_eq_ok hr.step_length_le).mp h)
        exact ⟨ms, .object hcs hms hdistinct, hout⟩
      · exact absurd h mismatch_ne_ok
  · rintro ⟨ms, hms, rfl⟩
    rw [record, peekToken_bind]
    cases hms with
    | object hnext hms hdistinct =>
      rw [hnext]
      refine bind_eq_ok.mpr ⟨n, _, enter_eq_ok.mpr ⟨hn, rfl, rfl⟩, ?_⟩
      rw [advance_bind]
      refine (object_eq_ok hr.step_length_le).mpr (hr.memberRun_of_members hms hdistinct ?_)
      simp [hr.seen_start]
    | list hnext hms =>
      rw [hnext]
      refine bind_eq_ok.mpr ⟨n, _, enter_eq_ok.mpr ⟨hn, rfl, rfl⟩, ?_⟩
      rw [advance_bind]
      obtain ⟨mid, hitems, hend⟩ := Reads.foldItems_of_items hr.fields hr.form hms (r n).start
      refine bind_eq_ok.mpr ⟨_, _, hitems, ?_⟩
      exact bind_eq_ok.mpr ⟨(), rest, listEnd_eq_ok.mpr hend, rfl⟩

end Records

/-! ## Whole texts -/

theorem map_eq_ok {β : Type} {x : Except Error α} {f : α → β} {b : β} :
    x.map f = .ok b ↔ ∃ a, x = .ok a ∧ f a = b := by
  cases x <;> simp [Except.map]

theorem run_eq_ok {read : Reader α} {text : String} {a : α} :
    run read text = .ok a ↔ ∃ rest, read text.toList = .ok (a, rest) ∧ Ended rest := by
  cases hread : read text.toList with
  | error e =>
    have hrun : run read text = .error e := by
      rw [run, hread]
      rfl
    simp [hrun]
  | ok found =>
    obtain ⟨b, mid⟩ := found
    cases hmid : mid.dropWhile isSpace with
    | nil =>
      have hrun : run read text = .ok b := by
        simp [run, hread, hmid, bind, Except.bind, pure, Except.pure]
      have hended : Ended mid := List.dropWhile_eq_nil_iff.mp hmid
      simp [hrun, hended]
    | cons c r =>
      have hrun : run read text = .error .trailingCharacters := by
        simp [run, hread, hmid, bind, Except.bind, throw, throwThe, MonadExceptOf.throw]
      have hended : ¬ Ended mid := fun h => by simp [List.dropWhile_eq_nil_iff.mpr h] at hmid
      simp [hrun, hended]

/-- A text holds a value exactly where one is written and nothing follows it. -/
theorem ofText?_eq_ok {text : String} {v : Value} :
    Value.ofText? text = .ok v ↔ ∃ rest, Written maxDepth text.toList v rest ∧ Ended rest := by
  simp only [Value.ofText?, run_eq_ok, value_eq_ok]

theorem run_record_eq_ok {r : Nat → RecordReader σ} {n : Nat} (hn : 0 < n)
    {names : List String} {Form : String → List Char → α → List Char → Prop} {seen : σ → List String}
    {take : σ → String × α → σ} (hr : Reads (r n) names Form seen take) (text : String) (out : σ) :
    run (record r (n + 1)) text = .ok out ↔
      ∃ ms, RecordText names Form text ms ∧ out = ms.foldl take (r n).start := by
  simp only [run_eq_ok, record_eq_ok hn hr, RecordText]
  constructor
  · rintro ⟨rest, ⟨ms, hms, hout⟩, hended⟩
    exact ⟨ms, ⟨rest, hms, hended⟩, hout⟩
  · rintro ⟨ms, ⟨rest, hms, hended⟩, hout⟩
    exact ⟨rest, ⟨ms, hms, hout⟩, hended⟩

end HookGate.Json.Reader
