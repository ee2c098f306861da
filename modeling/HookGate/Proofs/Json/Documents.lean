import Mathlib
import HookGate.Proofs.Json.Writing

/-!
# Objects as documents

An object has its members in one way only: what a text says is settled before any reader makes
something of it.
-/

namespace HookGate.Json

variable {cs rest rest' : List Char} {first : Bool}

/-! ## One way to read a text -/

theorem Next.unique {c c' : Char} (h : Next c cs rest) (h' : Next c' cs rest') : c = c' ∧ rest = rest' :=
  List.cons.inj (h.symm.trans h')

theorem Spelled.unique {t t' : List Char} (h : Spelled cs t rest) (h' : Spelled cs t' rest') :
    String.ofList t = String.ofList t' ∧ rest = rest' := by
  have hread := Reader.stringRest_eq_ok.mpr ⟨t, h, rfl⟩
  have hread' := Reader.stringRest_eq_ok.mpr ⟨t', h', rfl⟩
  exact Prod.mk.inj (Except.ok.inj (hread.symm.trans hread'))

theorem Written.unique {n : Nat} {v v' : Value} (h : Written n cs v rest) (h' : Written n cs v' rest') :
    v = v' ∧ rest = rest' := by
  have hread := (Reader.value_eq_ok.mpr h).symm.trans (Reader.value_eq_ok.mpr h')
  exact Prod.mk.inj (Except.ok.inj hread)

theorem Passed.unique (h : Passed cs rest) (h' : Passed cs rest') : rest = rest' := by
  have hread := (Reader.skipValue_eq_ok.mpr h).symm.trans (Reader.skipValue_eq_ok.mpr h')
  exact (Prod.mk.inj (Except.ok.inj hread)).2

theorem Separated.unique {cs₁ cs₂ : List Char} (h : Separated first cs cs₁) (h' : Separated first cs cs₂) :
    cs₁ = cs₂ := by
  cases h with
  | first =>
    cases h'
    rfl
  | comma hcomma =>
    cases h' with
    | comma hcomma' => exact (hcomma.unique hcomma').2

/-- The name of a member, up to its colon. -/
def Named (first : Bool) (cs : List Char) (name : String) (rest : List Char) : Prop :=
  ∃ cs₁ cs₂ t cs₃, Separated first cs cs₁ ∧ Next '"' cs₁ cs₂ ∧ Spelled cs₂ t cs₃ ∧
    String.ofList t = name ∧ Next ':' cs₃ rest

theorem Named.unique {name name' : String} (h : Named first cs name rest)
    (h' : Named first cs name' rest') : name = name' ∧ rest = rest' := by
  obtain ⟨cs₁, cs₂, t, cs₃, hfirst, hquote, hspelled, rfl, hcolon⟩ := h
  obtain ⟨cs₁', cs₂', t', cs₃', hfirst', hquote', hspelled', rfl, hcolon'⟩ := h'
  obtain rfl := hfirst.unique hfirst'
  obtain ⟨-, rfl⟩ := hquote.unique hquote'
  obtain ⟨hname, rfl⟩ := hspelled.unique hspelled'
  exact ⟨hname, (hcolon.unique hcolon').2⟩

theorem Named.not_closed {name : String} (h : Named first cs name rest) : ¬ Next '\x7d' cs rest' := by
  obtain ⟨cs₁, cs₂, t, cs₃, hfirst, hquote, -⟩ := h
  intro hclosed
  obtain ⟨c, r, hnext, hc⟩ := hfirst.next (d := '\x7d') (by decide) ⟨_, _, hquote, by decide⟩
  exact hc (hnext.unique hclosed).1

section

variable {α : Type} {names : List String} {Form Form' : String → List Char → α → List Char → Prop}
  {ms ms' : List (String × α)}

/-- If values are read in one way, so are the members of an object. -/
theorem Members.unique (h : Members names Form first cs ms rest)
    (h' : Members names Form first cs ms' rest')
    (hform : ∀ {name cs a a' rest rest'}, Form name cs a rest → Form name cs a' rest' →
      a = a' ∧ rest = rest') : ms = ms' ∧ rest = rest' := by
  induction h generalizing ms' with
  | nil hclosed =>
    cases h' with
    | nil hclosed' => exact ⟨rfl, (hclosed.unique hclosed').2⟩
    | known hfirst hquote hname _ hcolon | other hfirst hquote hname _ hcolon =>
      exact absurd hclosed (Named.not_closed ⟨_, _, _, _, hfirst, hquote, hname, rfl, hcolon⟩)
  | known hfirst hquote hname hknown hcolon ha _ ih =>
    have hnamed : Named _ _ _ _ := ⟨_, _, _, _, hfirst, hquote, hname, rfl, hcolon⟩
    cases h' with
    | nil hclosed => exact absurd hclosed hnamed.not_closed
    | known hfirst' hquote' hname' _ hcolon' ha' hrest' =>
      obtain ⟨hsame, rfl⟩ := hnamed.unique ⟨_, _, _, _, hfirst', hquote', hname', rfl, hcolon'⟩
      rw [← hsame] at ha' ⊢
      obtain ⟨rfl, rfl⟩ := hform ha ha'
      obtain ⟨rfl, rfl⟩ := ih hrest'
      exact ⟨rfl, rfl⟩
    | other hfirst' hquote' hname' hother' hcolon' =>
      obtain ⟨hsame, -⟩ := hnamed.unique ⟨_, _, _, _, hfirst', hquote', hname', rfl, hcolon'⟩
      rw [hsame] at hknown
      exact absurd hknown hother'
  | other hfirst hquote hname hother hcolon hpassed _ ih =>
    have hnamed : Named _ _ _ _ := ⟨_, _, _, _, hfirst, hquote, hname, rfl, hcolon⟩
    cases h' with
    | nil hclosed => exact absurd hclosed hnamed.not_closed
    | known hfirst' hquote' hname' hknown' hcolon' =>
      obtain ⟨hsame, -⟩ := hnamed.unique ⟨_, _, _, _, hfirst', hquote', hname', rfl, hcolon'⟩
      rw [← hsame] at hknown'
      exact absurd hknown' hother
    | other hfirst' hquote' hname' _ hcolon' hpassed' hrest' =>
      obtain ⟨-, rfl⟩ := hnamed.unique ⟨_, _, _, _, hfirst', hquote', hname', rfl, hcolon'⟩
      obtain rfl := hpassed.unique hpassed'
      exact ih hrest'

/-- Values may be given another form, each by itself. -/
theorem Members.imp (h : Members names Form first cs ms rest)
    (himp : ∀ m ∈ ms, ∀ {cs rest}, Form m.1 cs m.2 rest → Form' m.1 cs m.2 rest) :
    Members names Form' first cs ms rest := by
  induction h with
  | nil hclosed => exact .nil hclosed
  | known hfirst hquote hname hknown hcolon ha _ ih =>
    obtain ⟨hhead, htail⟩ := List.forall_mem_cons.mp himp
    exact .known hfirst hquote hname hknown hcolon (hhead ha) (ih htail)
  | other hfirst hquote hname hother hcolon hpassed _ ih =>
    exact .other hfirst hquote hname hother hcolon hpassed (ih himp)

/-- Members that are written are those of an object whose names are known. -/
theorem WrittenMembers.members {n : Nat} {vs : List (String × Value)}
    {Form : String → List Char → Value → List Char → Prop} {first : Bool} {cs rest : List Char}
    (hnames : ∀ v ∈ vs, v.1 ∈ names)
    (hform : ∀ v ∈ vs, ∀ {cs rest}, Written n cs v.2 rest → Form v.1 cs v.2 rest) :
    WrittenMembers n first cs vs rest → Members names Form first cs vs rest
  | .nil hclosed => .nil hclosed
  | .cons hfirst hquote hname hcolon hv hrest => by
    obtain ⟨hknown, hnames⟩ := List.forall_mem_cons.mp hnames
    obtain ⟨hhead, hform⟩ := List.forall_mem_cons.mp hform
    exact .known hfirst hquote hname hknown hcolon (hhead hv) (hrest.members hnames hform)

end

end HookGate.Json
