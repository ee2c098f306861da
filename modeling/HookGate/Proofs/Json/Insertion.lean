import Mathlib
import HookGate.Proofs.Json.Context
import HookGate.Proofs.Json.Order

/-!
# Members that are put in

A member may be put anywhere among those of an object. Where its name is not known, the object still gives the
same for the names that are.
-/

namespace HookGate.Json

open Reader (isSpace)

/-! ## Texts with one member more -/

/-- The text of a member: its name, then a value of the form, and blanks. -/
def MemberText (Form : List Char → List Char → Prop) (name : String) (m : List Char) : Prop :=
  ∃ cs rest, Named true m name cs ∧ Form cs rest ∧ Ended rest

/-- Puts a member into the text of an object, with the comma that it takes there: as the only one, in front of the
first one or of one behind a comma, or behind a value. -/
inductive Put (m : List Char) : Bool → List Char → List Char → Prop
  | alone {blanks cs rest} (hblanks : Ended blanks) (hclosed : Next '\x7d' cs rest) :
      Put m true (blanks ++ cs) (blanks ++ (m ++ cs))
  | front {blanks cs rest} (hblanks : Ended blanks) (hquote : Next '"' cs rest) :
      Put m true (blanks ++ cs) (blanks ++ (m ++ ',' :: cs))
  | between {before blanks cs rest} (hbefore : Ended before) (hblanks : Ended blanks) (hquote : Next '"' cs rest) :
      Put m false (before ++ ',' :: (blanks ++ cs)) (before ++ ',' :: (blanks ++ (m ++ ',' :: cs)))
  | behind {blanks cs} (hblanks : Ended blanks) : Put m false (blanks ++ cs) (blanks ++ ',' :: (m ++ cs))

/-- The text of a member of any name but these. -/
def OtherMember (names : List String) (Form : List Char → List Char → Prop) (m : List Char) : Prop :=
  ∃ name, name ∉ names ∧ MemberText Form name m

section Widened

variable (New : List Char → Prop) (Inside : String → List Char → List Char → Prop)

/-- One new member among those of an object, or one somewhere inside the value of a member. -/
inductive WidenedMembers : Bool → List Char → List Char → Prop
  | here {first m cs cs'} (hnew : New m) (hput : Put m first cs cs') : WidenedMembers first cs cs'
  | past {first name front value cs cs'} (hnamed : Named first (front ++ (value ++ cs)) name (value ++ cs))
      (hvalue : Passed (value ++ cs) cs) (h : WidenedMembers false cs cs') :
      WidenedMembers first (front ++ (value ++ cs)) (front ++ (value ++ cs'))
  | into {first name front cs cs'} (hnamed : Named first (front ++ cs) name cs) (h : Inside name cs cs') :
      WidenedMembers first (front ++ cs) (front ++ cs')

/-- One new member somewhere inside an item of a list, whose items go by names in their order. -/
inductive WidenedItems : List String → Bool → List Char → List Char → Prop
  | past {name names first front value cs cs'}
      (hfirst : Separated first (front ++ (value ++ cs)) (value ++ cs)) (hvalue : Passed (value ++ cs) cs)
      (h : WidenedItems names false cs cs') :
      WidenedItems (name :: names) first (front ++ (value ++ cs)) (front ++ (value ++ cs'))
  | into {name names first front cs cs'} (hfirst : Separated first (front ++ cs) cs) (h : Inside name cs cs') :
      WidenedItems (name :: names) first (front ++ cs) (front ++ cs')

/-- One new member in a record, of a name that is none of its own, or one somewhere inside a field. -/
inductive Widened (names : List String) (Form : List Char → List Char → Prop) : List Char → List Char → Prop
  | object {front cs cs'} (hopen : Next '\x7b' (front ++ cs) cs)
      (h : WidenedMembers (OtherMember names Form) Inside true cs cs') :
      Widened names Form (front ++ cs) (front ++ cs')
  | list {front cs cs'} (hopen : Next '[' (front ++ cs) cs) (h : WidenedItems Inside names true cs cs') :
      Widened names Form (front ++ cs) (front ++ cs')

end Widened

/-! ## Where a member is put -/

/-- The members of an object go on in the same way, but now behind a value. -/
inductive Resumes : Bool → List Char → List Char → Prop
  | closed {cs tail rest} (h : Next '\x7d' cs rest) (h' : Next '\x7d' tail rest) : Resumes true cs tail
  | member {first cs mid tail mid' rest} (hfirst : Separated first cs mid) (h : Next '"' mid rest)
      (hcomma : Next ',' tail mid') (h' : Next '"' mid' rest) : Resumes first cs tail
  | behind {cs tail} (hsame : cs.dropWhile isSpace = tail.dropWhile isSpace) : Resumes false cs tail

section Opening

variable {names : List String} {Form : List Char → List Char → Prop} {Inside : String → List Char → List Char → Prop}
  {cs cs' : List Char}

theorem Widened.opens (h : Widened Inside names Form cs cs') : ∃ c ∈ ['\x7b', '['], ∃ r, Next c cs r := by
  cases h with
  | object hopen => exact ⟨_, by decide, _, hopen⟩
  | list hopen => exact ⟨_, by decide, _, hopen⟩

theorem Widened.next (h : Widened Inside names Form cs cs') : ∃ c r, Next c cs r ∧ c ≠ ']' := by
  obtain ⟨c, hc, r, hnext⟩ := h.opens
  refine ⟨c, r, hnext, ?_⟩
  rintro rfl
  exact absurd hc (by decide)

end Opening

section Put

variable {first : Bool} {name : String} {m cs cs' tail mid rest blanks : List Char}

theorem Ended.dropWhile_append (h : Ended blanks) (cs : List Char) :
    (blanks ++ cs).dropWhile isSpace = cs.dropWhile isSpace :=
  List.dropWhile_append_of_pos h

theorem Ended.next_append {c : Char} (h : Ended blanks) (hnext : Next c cs rest) : Next c (blanks ++ cs) rest :=
  hnext.congr (h.dropWhile_append cs).symm

theorem Ended.follows_append (h : Ended blanks) (hcs : Follows cs) : Follows (blanks ++ cs) := by
  cases blanks with
  | nil => exact hcs
  | cons c blanks => exact follows_of_mem (mem_enders_of_isSpace (h c List.mem_cons_self)) _

theorem Named.behind_blanks (h : Named true cs name rest) (hblanks : Ended blanks) :
    Named true (blanks ++ cs) name rest := by
  obtain ⟨_, _, t, _, hfirst, hquote, hspelled⟩ := h
  cases hfirst
  exact ⟨_, _, t, _, .first, hblanks.next_append hquote, hspelled⟩

theorem Named.behind_comma (h : Named true cs' name rest) (hcomma : Next ',' cs cs') : Named false cs name rest := by
  obtain ⟨_, _, t, _, hfirst, hspelled⟩ := h
  cases hfirst
  exact ⟨_, _, t, _, .comma hcomma, hspelled⟩

/-- A name of characters that stand for themselves, between quotes and with a colon. -/
theorem named_bare (name : String) (h : ∀ c ∈ name.toList, Reader.Bare c) (cs : List Char) :
    Named true ('"' :: (name.toList ++ ['"', ':']) ++ cs) name cs := by
  obtain ⟨t, hspelled, ht⟩ := Reader.stringRest_eq_ok.mp (Reader.stringBody_bare [] h (':' :: cs))
  simp only [List.reverse_nil, List.nil_append, String.ofList_toList] at ht
  rw [List.cons_append, List.append_assoc]
  exact ⟨_, _, t, _, .first, Reader.next_cons rfl, hspelled, ht.symm, Reader.next_cons rfl⟩

theorem Separated.not_closed (h : Separated first cs mid) (hnext : ∃ c r, Next c mid r ∧ c ≠ ']') :
    ¬ Next ']' cs rest := by
  intro hclosed
  obtain ⟨c, r, hnext, hc⟩ := h.next (by decide) hnext
  exact hc (hnext.unique hclosed).1

theorem Resumes.next_closed (h : Resumes first cs tail) (hclosed : Next '\x7d' cs rest) : Next '\x7d' tail rest := by
  cases h with
  | closed h h' =>
    obtain ⟨-, rfl⟩ := h.unique hclosed
    exact h'
  | member hfirst h =>
    obtain ⟨c, r, hnext, hc⟩ := hfirst.next (d := '\x7d') (by decide) ⟨_, _, h, by decide⟩
    exact absurd (hnext.unique hclosed).1 hc
  | behind hsame => exact hclosed.congr hsame

theorem Resumes.separated (h : Resumes first cs tail) (hfirst : Separated first cs mid) (hquote : Next '"' mid rest) :
    ∃ mid', Separated false tail mid' ∧ Next '"' mid' rest := by
  cases h with
  | closed h =>
    cases hfirst
    exact absurd (h.unique hquote).1 (by decide)
  | member hfirst' h hcomma h' =>
    obtain rfl := hfirst.unique hfirst'
    obtain ⟨-, rfl⟩ := h.unique hquote
    exact ⟨_, .comma hcomma, h'⟩
  | behind hsame =>
    cases hfirst with
    | comma hcomma => exact ⟨mid, .comma (hcomma.congr hsame), hquote⟩

/-- A member that is put in is read there, and what follows it resumes the members. -/
theorem Put.named {Form : List Char → List Char → Prop} (hput : Put m first cs cs')
    (hmember : MemberText Form name m)
    (hkept : ∀ {cs rest}, Form cs rest → Follows rest → Kept Follows Form cs rest)
    (hfollows : ∀ {tail}, Resumes first cs tail → Follows tail) :
    ∃ mid tail, Named first cs' name mid ∧ Form mid tail ∧ Resumes first cs tail := by
  obtain ⟨value, blanks, hnamed, hform, hblanks⟩ := hmember
  -- What is read from the member alone is read in front of everything that can stand behind a value.
  have hread {behind : List Char} (hbehind : Follows behind) :
      Named true (m ++ behind) name (value ++ behind) ∧ Form (value ++ behind) (blanks ++ behind) :=
    ⟨hnamed.kept.append trivial, (hkept hform hblanks.follows).append (hblanks.follows_append hbehind)⟩
  cases hput with
  | alone hbefore hclosed =>
    obtain ⟨hnamed, hform⟩ := hread (hclosed.follows (by decide))
    have hresumes : Resumes true _ _ := .closed (hbefore.next_append hclosed) (hblanks.next_append hclosed)
    exact ⟨_, _, hnamed.behind_blanks hbefore, hform, hresumes⟩
  | @front _ cs _ hbefore hquote =>
    obtain ⟨hnamed, hform⟩ := hread (follows_of_mem (c := ',') (by decide) cs)
    have hcomma : Next ',' (blanks ++ ',' :: cs) cs := hblanks.next_append (Reader.next_cons rfl)
    exact ⟨_, _, hnamed.behind_blanks hbefore, hform, .member .first (hbefore.next_append hquote) hcomma hquote⟩
  | @between before between cs _ hbefore hbetween hquote =>
    obtain ⟨hnamed, hform⟩ := hread (follows_of_mem (c := ',') (by decide) cs)
    have hcomma : Next ',' (blanks ++ ',' :: cs) cs := hblanks.next_append (Reader.next_cons rfl)
    have hbehind {r : List Char} : Next ',' (before ++ ',' :: r) r := hbefore.next_append (Reader.next_cons rfl)
    have hnamed := (hnamed.behind_blanks hbetween).behind_comma hbehind
    exact ⟨_, _, hnamed, hform, .member (.comma hbehind) (hbetween.next_append hquote) hcomma hquote⟩
  | @behind _ cs hbefore =>
    have hsame := hbefore.dropWhile_append cs
    obtain ⟨hnamed, hform⟩ := hread (hfollows (.behind hsame))
    have hresumes : Resumes false _ _ := .behind (hsame.trans (hblanks.dropWhile_append cs).symm)
    exact ⟨_, _, hnamed.behind_comma (hbefore.next_append (Reader.next_cons rfl)), hform, hresumes⟩

end Put

/-! ## Members of known names -/

section Known

variable {α : Type} {known : String → Bool} {Same : String → α → α → Prop} {name : String} {a a' : α}
  {ms ms' : List (String × α)}

/-- A member of the same name, and with a value that is as good for this name. -/
def SameMember (Same : String → α → α → Prop) (m m' : String × α) : Prop := m.1 = m'.1 ∧ Same m.1 m.2 m'.2

theorem sameMembers_refl (hrefl : ∀ name a, Same name a a) (ms : List (String × α)) :
    List.Forall₂ (SameMember Same) ms ms :=
  List.forall₂_same.mpr fun m _ => ⟨rfl, hrefl m.1 m.2⟩

theorem sameMembers_map_fst (h : List.Forall₂ (SameMember Same) ms ms') :
    ms.map Prod.fst = ms'.map Prod.fst := by
  induction h with
  | nil => rfl
  | cons h _ ih => rw [List.map_cons, List.map_cons, h.1, ih]

/-- The same members of names that are known. -/
def SameKnown (known : String → Bool) (Same : String → α → α → Prop) (ms ms' : List (String × α)) : Prop :=
  List.Forall₂ (SameMember Same) (ms.filter fun m => known m.1) (ms'.filter fun m => known m.1)

theorem SameKnown.cons (ha : Same name a a') (h : SameKnown known Same ms ms') :
    SameKnown known Same ((name, a) :: ms) ((name, a') :: ms') := by
  rw [SameKnown, List.filter_cons, List.filter_cons]
  split
  · exact .cons ⟨rfl, ha⟩ h
  · exact h

theorem SameKnown.skip (hname : known name = false) (h : SameKnown known Same ms ms') (a : α) :
    SameKnown known Same ms ((name, a) :: ms') := by
  rw [SameKnown, List.filter_cons_of_neg (by simp [hname])]
  exact h

end Known

/-! ## Members put in order -/

section Order

variable {known : String → Bool} {name : String} {v : Value} {ms : List (String × Value)}

theorem Value.insert_of_lt (h : ∀ m ∈ ms, name < m.1) : Value.insert name v ms = (name, v) :: ms := by
  cases ms with
  | nil => rfl
  | cons m ms => rw [Value.insert, if_pos (h m List.mem_cons_self)]

/-- Members of unknown names do not change where those of known names are put. -/
theorem Value.filter_insert (h : Value.Sorted ms) :
    (Value.insert name v ms).filter (fun m => known m.1) =
      if known name then Value.insert name v (ms.filter fun m => known m.1) else ms.filter fun m => known m.1 := by
  induction ms with
  | nil => cases hname : known name <;> simp [Value.insert, hname]
  | cons m ms ih =>
    obtain ⟨n, w⟩ := m
    obtain ⟨hfirst, hrest⟩ := List.pairwise_cons.mp h
    rw [Value.insert]
    split
    · next hlt =>
      -- The name comes before all that is there, so also before all that is left of it.
      have hbefore : ∀ m ∈ ((n, w) :: ms).filter fun m => known m.1, name < m.1 := by
        intro m hm
        rcases List.mem_cons.mp (List.mem_of_mem_filter hm) with rfl | hm
        · exact hlt
        · exact hlt.trans (hfirst _ (List.mem_map_of_mem hm))
      rw [Value.insert_of_lt hbefore, List.filter_cons]
    · next hnot =>
      split
      · next heq =>
        subst heq
        cases hname : known name <;> simp [Value.insert, hname]
      · next hne =>
        rw [List.filter_cons, List.filter_cons, ih hrest]
        dsimp only
        cases known n with
        | false => rfl
        | true =>
          rw [if_pos rfl, if_pos rfl, Value.insert, if_neg hnot, if_neg hne]
          split <;> rfl

theorem Value.filter_foldl_insert {seen : List (String × Value)} (hseen : Value.Sorted seen) :
    (ms.foldl (fun seen m => Value.insert m.1 m.2 seen) seen).filter (fun m => known m.1) =
      (ms.filter fun m => known m.1).foldl (fun seen m => Value.insert m.1 m.2 seen)
        (seen.filter fun m => known m.1) := by
  induction ms generalizing seen with
  | nil => rfl
  | cons m ms ih =>
    rw [List.foldl_cons, ih (Value.sorted_insert hseen), Value.filter_insert hseen, List.filter_cons]
    split <;> rfl

variable {Same : String → Value → Value → Prop} {v' : Value} {ms' seen seen' : List (String × Value)}

theorem sameMembers_insert (hv : Same name v v') (h : List.Forall₂ (SameMember Same) ms ms') :
    List.Forall₂ (SameMember Same) (Value.insert name v ms) (Value.insert name v' ms') := by
  induction h with
  | nil => exact .cons ⟨rfl, hv⟩ .nil
  | @cons m m' ms ms' hm hms ih =>
    obtain ⟨n, w⟩ := m
    obtain ⟨n', w'⟩ := m'
    obtain ⟨rfl, hw⟩ := hm
    rw [Value.insert, Value.insert]
    split
    · exact .cons ⟨rfl, hv⟩ (.cons ⟨rfl, hw⟩ hms)
    · split
      · exact .cons ⟨rfl, hv⟩ hms
      · exact .cons ⟨rfl, hw⟩ ih

theorem sameMembers_foldl {put : List (String × Value) → String × Value → List (String × Value)}
    (hput : ∀ {ms ms' name v v'}, Same name v v' → List.Forall₂ (SameMember Same) ms ms' →
      List.Forall₂ (SameMember Same) (put ms (name, v)) (put ms' (name, v')))
    (h : List.Forall₂ (SameMember Same) ms ms') (hseen : List.Forall₂ (SameMember Same) seen seen') :
    List.Forall₂ (SameMember Same) (ms.foldl put seen) (ms'.foldl put seen') := by
  induction h generalizing seen seen' with
  | nil => exact hseen
  | @cons m m' _ _ hm _ ih =>
    obtain ⟨name, v⟩ := m
    obtain ⟨name', v'⟩ := m'
    obtain ⟨rfl, hv⟩ := hm
    exact ih (hput hv hseen)

theorem SameKnown.inserted (h : SameKnown known Same ms ms') :
    SameKnown known Same (ms.foldl (fun seen m => Value.insert m.1 m.2 seen) [])
      (ms'.foldl (fun seen m => Value.insert m.1 m.2 seen) []) := by
  have hnone : Value.Sorted [] := .nil
  rw [SameKnown, Value.filter_foldl_insert hnone, Value.filter_foldl_insert hnone]
  exact sameMembers_foldl sameMembers_insert h .nil

end Order

/-! ## Written values -/

section Written

variable {n : Nat} {first : Bool} {cs cs' mid tail rest : List Char} {name : String} {v : Value}
  {ms : List (String × Value)} {vs : List Value}

theorem WrittenMembers.named (hnamed : Named first cs name mid) (hv : Written n mid v tail)
    (hrest : WrittenMembers n false tail ms rest) : WrittenMembers n first cs ((name, v) :: ms) rest := by
  obtain ⟨_, _, t, _, hfirst, hquote, hspelled, rfl, hcolon⟩ := hnamed
  exact .cons hfirst hquote hspelled hcolon hv hrest

theorem WrittenMembers.of_named (h : WrittenMembers n first cs ms rest) (hnamed : Named first cs name mid) :
    ∃ v tail behind, ms = (name, v) :: behind ∧ Written n mid v tail ∧ WrittenMembers n false tail behind rest := by
  cases h with
  | nil hclosed => exact absurd hclosed hnamed.not_closed
  | cons hfirst hquote hname hcolon hv hrest =>
    obtain ⟨hsame, rfl⟩ := hnamed.unique ⟨_, _, _, _, hfirst, hquote, hname, rfl, hcolon⟩
    rw [← hsame]
    exact ⟨_, _, _, rfl, hv, hrest⟩

theorem WrittenMembers.resume (h : WrittenMembers n first cs ms rest) (hresumes : Resumes first cs tail) :
    WrittenMembers n false tail ms rest := by
  cases h with
  | nil hclosed => exact .nil (hresumes.next_closed hclosed)
  | cons hfirst hquote hname hcolon hv hrest =>
    obtain ⟨_, hfirst, hquote⟩ := hresumes.separated hfirst hquote
    exact .cons hfirst hquote hname hcolon hv hrest

/-- The form of a value that nests less deep than a bound. -/
def Held (n : Nat) (cs rest : List Char) : Prop := ∃ v, Written n cs v rest

theorem Held.kept (h : Held n cs rest) (hrest : Follows rest) : Kept Follows (Held n) cs rest := by
  obtain ⟨v, hv⟩ := h
  exact (hv.kept hrest).imp fun h => ⟨v, h⟩

theorem held_of_value (h : (Reader.value n cs).map Prod.snd = .ok rest) : Held n cs rest := by
  obtain ⟨⟨v, rest⟩, hv, rfl⟩ := Reader.map_eq_ok.mp h
  exact ⟨v, Reader.value_eq_ok.mp hv⟩

theorem Put.written {m : List Char} (hput : Put m first cs cs') (hmember : MemberText (Held n) name m)
    (h : WrittenMembers n first cs ms rest) : ∃ v, WrittenMembers n first cs' ((name, v) :: ms) rest := by
  obtain ⟨mid, tail, hnamed, ⟨v, hv⟩, hresumes⟩ :=
    hput.named hmember Held.kept fun hresumes => (h.resume hresumes).follows
  exact ⟨v, .named hnamed hv (h.resume hresumes)⟩

theorem Written.of_brace (h : Written (n + 1) cs v rest) (hopen : Next '\x7b' cs mid) :
    ∃ ms, 0 < n ∧ v = .ofMembers ms ∧ WrittenMembers n true mid ms rest := by
  cases h with
  | scalar hnext h =>
    obtain ⟨rfl, -⟩ := hopen.unique hnext
    cases h with
    | word h => cases h
    | positive hc => contradiction
  | array _ hnext => exact absurd (hopen.unique hnext).1 (by decide)
  | object hn hnext h =>
    obtain ⟨-, rfl⟩ := hopen.unique hnext
    exact ⟨_, hn, rfl, h⟩

theorem Written.of_bracket (h : Written (n + 1) cs v rest) (hopen : Next '[' cs mid) :
    ∃ vs, 0 < n ∧ v = .array vs ∧ WrittenItems n true mid vs rest := by
  cases h with
  | scalar hnext h =>
    obtain ⟨rfl, -⟩ := hopen.unique hnext
    cases h with
    | word h => cases h
    | positive hc => contradiction
  | object _ hnext => exact absurd (hopen.unique hnext).1 (by decide)
  | array hn hnext h =>
    obtain ⟨-, rfl⟩ := hopen.unique hnext
    exact ⟨_, hn, rfl, h⟩

/-- Values of records that give the same for the names that are known. -/
inductive Alike (names : List String) (Same : String → Value → Value → Prop) : Value → Value → Prop
  | object {ms ms'} (h : SameKnown (fun name => name ∈ names) Same ms ms') :
      Alike names Same (.object ms) (.object ms')
  | array {vs vs'} (hlen : vs.length = vs'.length)
      (h : List.Forall₂ (SameMember Same) (names.zip vs) (names.zip vs')) : Alike names Same (.array vs) (.array vs')

section

variable {names : List String} {Inside : String → List Char → List Char → Prop}
  {Same : String → Value → Value → Prop} (hrefl : ∀ name v, Same name v v)
  (hinside : ∀ {name cs cs' v rest}, Inside name cs cs' → Written n cs v rest → Follows rest →
    ∃ v', Written n cs' v' rest ∧ Same name v v')

include hrefl hinside

/-- The members that are there keep their values, but for the one inside of which something is new. -/
theorem WidenedMembers.written {New : List Char → Prop} (known : String → Bool)
    (hnew : ∀ {m}, New m → ∃ name, known name = false ∧ MemberText (Held n) name m)
    (h : WidenedMembers New Inside first cs cs') (hms : WrittenMembers n first cs ms rest) :
    ∃ ms', WrittenMembers n first cs' ms' rest ∧ SameKnown known Same ms ms' := by
  induction h generalizing ms with
  | here hm hput =>
    obtain ⟨name, hname, hmember⟩ := hnew hm
    obtain ⟨v, hms'⟩ := hput.written hmember hms
    exact ⟨_, hms', .skip hname (sameMembers_refl hrefl _) v⟩
  | past hnamed hvalue _ ih =>
    obtain ⟨v, tail, behind, rfl, hv, hbehind⟩ := hms.of_named hnamed
    obtain rfl := hvalue.unique hv.passed
    obtain ⟨behind', hbehind', hsame⟩ := ih hbehind
    -- The value in front stays as it is: what follows it still begins with a comma or ends the object.
    have hv' := (hv.kept hbehind.follows).move hbehind'.follows
    exact ⟨_, .named (hnamed.kept.move trivial) hv' hbehind', .cons (hrefl _ _) hsame⟩
  | into hnamed h =>
    obtain ⟨v, tail, behind, rfl, hv, hbehind⟩ := hms.of_named hnamed
    obtain ⟨v', hv', hsame⟩ := hinside h hv hbehind.follows
    exact ⟨_, .named (hnamed.kept.move trivial) hv' hbehind, .cons hsame (sameMembers_refl hrefl _)⟩

variable (hnext : ∀ {name cs cs'}, Inside name cs cs' → ∃ c r, Next c cs r ∧ c ≠ ']')

include hnext

theorem WidenedItems.written (h : WidenedItems Inside names first cs cs')
    (hvs : WrittenItems n first cs vs rest) :
    ∃ vs', WrittenItems n first cs' vs' rest ∧ vs.length = vs'.length ∧
      List.Forall₂ (SameMember Same) (names.zip vs) (names.zip vs') := by
  induction h generalizing vs with
  | @past name names first front value cs cs' hfirst hvalue _ ih =>
    cases hvs with
    | nil hclosed => exact absurd hclosed (hfirst.not_closed hvalue.next)
    | @cons _ _ _ cs₁ v _ vs _ hfirst' hv hrest =>
      obtain rfl := hfirst.unique hfirst'
      obtain rfl := hvalue.unique hv.passed
      obtain ⟨vs', hvs', hlen, hsame⟩ := ih hrest
      have hv' := (hv.kept hrest.follows).move hvs'.follows
      refine ⟨v :: vs', .cons (hfirst.kept.move trivial) hv' hvs', ?_, .cons ⟨rfl, hrefl _ _⟩ hsame⟩
      rw [List.length_cons, List.length_cons, hlen]
  | into hfirst h =>
    cases hvs with
    | nil hclosed => exact absurd hclosed (hfirst.not_closed (hnext h))
    | @cons _ _ _ cs₁ v _ vs _ hfirst' hv hrest =>
      obtain rfl := hfirst.unique hfirst'
      obtain ⟨v', hv', hsame⟩ := hinside h hv hrest.follows
      exact ⟨v' :: vs, .cons (hfirst.kept.move trivial) hv' hrest, rfl,
        .cons ⟨rfl, hsame⟩ (sameMembers_refl hrefl _)⟩

theorem Widened.written (h : Widened Inside names (Held n) cs cs') (hv : Written (n + 1) cs v rest) :
    ∃ v', Written (n + 1) cs' v' rest ∧ Alike names Same v v' := by
  cases h with
  | object hopen h =>
    obtain ⟨ms, hn, rfl, hms⟩ := hv.of_brace hopen
    have hnew {m : List Char} (hm : OtherMember names (Held n) m) :
        ∃ name, decide (name ∈ names) = false ∧ MemberText (Held n) name m := by simpa [OtherMember] using hm
    obtain ⟨ms', hms', hsame⟩ := h.written hrefl hinside _ hnew hms
    exact ⟨_, .object hn (hopen.kept.move trivial) hms', .object hsame.inserted⟩
  | list hopen h =>
    obtain ⟨vs, hn, rfl, hvs⟩ := hv.of_bracket hopen
    obtain ⟨vs', hvs', hlen, hsame⟩ := h.written hrefl hinside hnext hvs
    exact ⟨_, .array hn (hopen.kept.move trivial) hvs', .array hlen hsame⟩

end

end Written

/-! ## Records of a text -/

/-- Values of a form are values, and the same before all that can stand behind one. -/
structure LocalForm {α : Type} (Form : List Char → α → List Char → Prop) : Prop where
  passed : ∀ {cs a rest}, Form cs a rest → Passed cs rest
  kept : ∀ {cs a rest}, Form cs a rest → Follows rest → Kept Follows (Form · a ·) cs rest

section Records

variable {α : Type} {names : List String} {Form : String → List Char → α → List Char → Prop} {first : Bool}
  {cs cs' mid tail rest : List Char} {name : String} {a : α} {ms : List (String × α)}

theorem Members.of_known (hnamed : Named first cs name mid) (hname : name ∈ names) (ha : Form name mid a tail)
    (hrest : Members names Form false tail ms rest) : Members names Form first cs ((name, a) :: ms) rest := by
  obtain ⟨_, _, t, _, hfirst, hquote, hspelled, rfl, hcolon⟩ := hnamed
  exact .known hfirst hquote hspelled hname hcolon ha hrest

theorem Members.of_other (hnamed : Named first cs name mid) (hname : name ∉ names) (hvalue : Passed mid tail)
    (hrest : Members names Form false tail ms rest) : Members names Form first cs ms rest := by
  obtain ⟨_, _, t, _, hfirst, hquote, hspelled, rfl, hcolon⟩ := hnamed
  exact .other hfirst hquote hspelled hname hcolon hvalue hrest

theorem Members.of_named (h : Members names Form first cs ms rest) (hnamed : Named first cs name mid) :
    (name ∈ names ∧ ∃ a tail behind, ms = (name, a) :: behind ∧ Form name mid a tail ∧
      Members names Form false tail behind rest) ∨
    (name ∉ names ∧ ∃ tail, Passed mid tail ∧ Members names Form false tail ms rest) := by
  cases h with
  | nil hclosed => exact absurd hclosed hnamed.not_closed
  | known hfirst hquote hname hknown hcolon ha hrest =>
    obtain ⟨hsame, rfl⟩ := hnamed.unique ⟨_, _, _, _, hfirst, hquote, hname, rfl, hcolon⟩
    rw [← hsame] at hknown ha ⊢
    exact .inl ⟨hknown, _, _, _, rfl, ha, hrest⟩
  | other hfirst hquote hname hother hcolon hvalue hrest =>
    obtain ⟨hsame, rfl⟩ := hnamed.unique ⟨_, _, _, _, hfirst, hquote, hname, rfl, hcolon⟩
    rw [← hsame] at hother
    exact .inr ⟨hother, _, hvalue, hrest⟩

theorem Members.follows (h : Members names Form false cs ms rest) : Follows cs := by
  cases h with
  | nil hnext => exact hnext.follows (by decide)
  | known hfirst | other hfirst => exact hfirst.follows

theorem Items.follows (h : Items Form names false cs ms rest) : Follows cs := by
  cases h with
  | nil hnext => exact hnext.follows (by decide)
  | cons hfirst => exact hfirst.follows

theorem Members.resume (h : Members names Form first cs ms rest) (hresumes : Resumes first cs tail) :
    Members names Form false tail ms rest := by
  cases h with
  | nil hclosed => exact .nil (hresumes.next_closed hclosed)
  | known hfirst hquote hname hknown hcolon ha hrest =>
    obtain ⟨_, hfirst, hquote⟩ := hresumes.separated hfirst hquote
    exact .known hfirst hquote hname hknown hcolon ha hrest
  | other hfirst hquote hname hother hcolon hvalue hrest =>
    obtain ⟨_, hfirst, hquote⟩ := hresumes.separated hfirst hquote
    exact .other hfirst hquote hname hother hcolon hvalue hrest

theorem Put.members {m : List Char} (hput : Put m first cs cs') (hmember : MemberText Passed name m)
    (hname : name ∉ names) (h : Members names Form first cs ms rest) : Members names Form first cs' ms rest := by
  obtain ⟨mid, tail, hnamed, hvalue, hresumes⟩ :=
    hput.named hmember (fun h _ => h.kept) fun hresumes => (h.resume hresumes).follows
  exact .of_other hnamed hname hvalue (h.resume hresumes)

variable {Inside : String → List Char → List Char → Prop} {Same : String → α → α → Prop}
  (hform : ∀ name ∈ names, LocalForm (Form name)) (hrefl : ∀ name a, Same name a a)
  (hinside : ∀ {name cs cs' a rest}, Inside name cs cs' → Form name cs a rest → Follows rest →
    ∃ a', Form name cs' a' rest ∧ Same name a a')

include hform hrefl hinside

theorem WidenedMembers.members (hknown : ∀ {name cs cs'}, Inside name cs cs' → name ∈ names)
    (h : WidenedMembers (OtherMember names Passed) Inside first cs cs')
    (hms : Members names Form first cs ms rest) :
    ∃ ms', Members names Form first cs' ms' rest ∧ List.Forall₂ (SameMember Same) ms ms' := by
  induction h generalizing ms with
  | here hm hput =>
    obtain ⟨name, hname, hmember⟩ := hm
    exact ⟨ms, hput.members hmember hname hms, sameMembers_refl hrefl ms⟩
  | past hnamed hvalue _ ih =>
    rcases hms.of_named hnamed with ⟨hname, a, tail, behind, rfl, ha, hbehind⟩ | ⟨hname, tail, hpassed, hms⟩
    · obtain rfl := hvalue.unique ((hform _ hname).passed ha)
      obtain ⟨behind', hbehind', hsame⟩ := ih hbehind
      have ha' := ((hform _ hname).kept ha hbehind.follows).move hbehind'.follows
      exact ⟨_, .of_known (hnamed.kept.move trivial) hname ha' hbehind', .cons ⟨rfl, hrefl _ _⟩ hsame⟩
    · obtain rfl := hvalue.unique hpassed
      obtain ⟨ms', hms', hsame⟩ := ih hms
      have hvalue' := hvalue.kept.move hms'.follows
      exact ⟨ms', .of_other (hnamed.kept.move trivial) hname hvalue' hms', hsame⟩
  | into hnamed h =>
    rcases hms.of_named hnamed with ⟨hname, a, tail, behind, rfl, ha, hbehind⟩ | ⟨hname, -⟩
    · obtain ⟨a', ha', hsame⟩ := hinside h ha hbehind.follows
      exact ⟨_, .of_known (hnamed.kept.move trivial) hname ha' hbehind,
        .cons ⟨rfl, hsame⟩ (sameMembers_refl hrefl _)⟩
    · exact absurd (hknown h) hname

variable (hnext : ∀ {name cs cs'}, Inside name cs cs' → ∃ c r, Next c cs r ∧ c ≠ ']')

include hnext

theorem WidenedItems.items (h : WidenedItems Inside names first cs cs') (hms : Items Form names first cs ms rest) :
    ∃ ms', Items Form names first cs' ms' rest ∧ List.Forall₂ (SameMember Same) ms ms' := by
  induction h generalizing ms with
  | past hfirst hvalue _ ih =>
    cases hms with
    | nil hclosed => exact absurd hclosed (hfirst.not_closed hvalue.next)
    | cons hfirst' ha hrest =>
      have hlocal := hform _ List.mem_cons_self
      obtain rfl := hfirst.unique hfirst'
      obtain rfl := hvalue.unique (hlocal.passed ha)
      obtain ⟨ms', hms', hsame⟩ := ih (fun name hname => hform name (List.mem_cons_of_mem _ hname)) hrest
      have ha' := (hlocal.kept ha hrest.follows).move hms'.follows
      exact ⟨_, .cons (hfirst.kept.move trivial) ha' hms', .cons ⟨rfl, hrefl _ _⟩ hsame⟩
  | into hfirst h =>
    cases hms with
    | nil hclosed => exact absurd hclosed (hfirst.not_closed (hnext h))
    | cons hfirst' ha hrest =>
      obtain rfl := hfirst.unique hfirst'
      obtain ⟨a', ha', hsame⟩ := hinside h ha hrest.follows
      exact ⟨_, .cons (hfirst.kept.move trivial) ha' hrest, .cons ⟨rfl, hsame⟩ (sameMembers_refl hrefl _)⟩

theorem Widened.record (hknown : ∀ {name cs cs'}, Inside name cs cs' → name ∈ names)
    (h : Widened Inside names Passed cs cs') (hms : Record names Form cs ms rest) :
    ∃ ms', Record names Form cs' ms' rest ∧ List.Forall₂ (SameMember Same) ms ms' := by
  cases h with
  | object hopen h =>
    cases hms with
    | object hnext' hms hdistinct =>
      obtain ⟨-, rfl⟩ := hopen.unique hnext'
      obtain ⟨ms', hms', hsame⟩ := h.members hform hrefl hinside hknown hms
      rw [sameMembers_map_fst hsame] at hdistinct
      exact ⟨ms', .object (hopen.kept.move trivial) hms' hdistinct, hsame⟩
    | list hnext' => exact absurd (hopen.unique hnext').1 (by decide)
  | list hopen h =>
    cases hms with
    | object hnext' => exact absurd (hopen.unique hnext').1 (by decide)
    | list hnext' hms =>
      obtain ⟨-, rfl⟩ := hopen.unique hnext'
      obtain ⟨ms', hms', hsame⟩ := h.items hform hrefl hinside hnext hms
      exact ⟨ms', .list (hopen.kept.move trivial) hms', hsame⟩

end Records

end HookGate.Json
