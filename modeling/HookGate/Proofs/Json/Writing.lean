import Mathlib
import HookGate.Json.Writer
import HookGate.Proofs.Json.Records

/-!
# What is written can be read

The forms of strings, lists and objects stand for their values in the grammar of JSON, whatever
characters occur in them, and hold no control character.
-/

namespace HookGate.Json

open Reader (Bare hexValue4? isLead isTrail next_cons)

/-! ## Strings -/

theorem hexValue4?_digitChar : ∀ n < 0x20,
    hexValue4? '0' '0' (Nat.digitChar (n / 16)) (Nat.digitChar (n % 16)) = some n := by
  decide

theorem spelled_writeChar (c : Char) {cs s rest : List Char} (h : Spelled cs s rest) :
    Spelled (writeChar c ++ cs) (c :: s) rest := by
  rw [writeChar.eq_def]
  split
  any_goals exact .escape (.short rfl) h
  next hquote hback _ _ _ _ _ =>
    split
    · next hcontrol =>
      have hlead : isLead c.toNat = false := by
        simp only [isLead, Bool.and_eq_false_iff, decide_eq_false_iff_not]
        omega
      have htrail : isTrail c.toNat = false := by
        simp only [isTrail, Bool.and_eq_false_iff, decide_eq_false_iff_not]
        omega
      have hescape : Escape ('u' :: '0' :: '0' :: hex2 c.toNat ++ cs) (Char.ofNat c.toNat) cs :=
        .unit (hexValue4?_digitChar c.toNat hcontrol) hlead htrail
      rw [Char.ofNat_toNat] at hescape
      exact .escape hescape h
    · next hcontrol => exact .bare ⟨hquote, hback, by omega⟩ h

theorem spelled_flatMap_writeChar (s rest : List Char) :
    Spelled (s.flatMap writeChar ++ '"' :: rest) s rest := by
  induction s with
  | nil => exact .close
  | cons c s ih =>
    rw [List.flatMap_cons, List.append_assoc]
    exact spelled_writeChar c ih

theorem spelled_writeString (s : String) (rest : List Char) :
    ∃ cs, (writeString s).toList ++ rest = '"' :: cs ∧ Spelled cs s.toList rest := by
  refine ⟨s.toList.flatMap writeChar ++ '"' :: rest, ?_, spelled_flatMap_writeChar _ _⟩
  simp [writeString]

/-! ## Values -/

/-- A form that stands for a value wherever it is written. -/
def Writes (n : Nat) (form : String) (v : Value) : Prop :=
  ∀ rest, Written n (form.toList ++ rest) v rest

theorem writes_writeString (n : Nat) (s : String) : Writes n (writeString s) (.string s) := by
  intro rest
  obtain ⟨cs, hcs, hspelled⟩ := spelled_writeString s rest
  rw [hcs]
  simpa using Written.scalar (n := n) (next_cons rfl) (.string hspelled)

theorem toList_joinWith_cons (form : String) (forms : List String) :
    (Text.joinWith "," (form :: forms)).toList =
      form.toList ++ forms.flatMap fun f => ',' :: f.toList := by
  induction forms generalizing form with
  | nil => simp [Text.joinWith]
  | cons form' forms ih =>
    have hstep : Text.joinWith "," (form :: form' :: forms) =
        form ++ "," ++ Text.joinWith "," (form' :: forms) := by
      simp [Text.joinWith]
    rw [hstep, String.toList_append, String.toList_append, ih]
    simp

theorem writtenItems_false {n : Nat} {forms : List String} {vs : List Value}
    (h : List.Forall₂ (Writes n) forms vs) (rest : List Char) :
    WrittenItems n false ((forms.flatMap fun f => ',' :: f.toList) ++ ']' :: rest) vs rest := by
  induction h with
  | nil => exact .nil (next_cons rfl)
  | @cons form v forms vs hv _ ih =>
    rw [List.flatMap_cons, List.append_assoc]
    exact .cons (.comma (next_cons rfl)) (hv _) ih

theorem writes_writeList {n : Nat} (hn : 0 < n) {forms : List String} {vs : List Value}
    (h : List.Forall₂ (Writes n) forms vs) : Writes (n + 1) (writeList forms) (.array vs) := by
  intro rest
  have hlist : (writeList forms).toList ++ rest =
      '[' :: ((Text.joinWith "," forms).toList ++ ']' :: rest) := by
    simp [writeList]
  rw [hlist]
  refine .array hn (next_cons rfl) ?_
  cases h with
  | nil => exact .nil (next_cons rfl)
  | cons hv hvs =>
    rw [toList_joinWith_cons, List.append_assoc]
    exact .cons .first (hv _) (writtenItems_false hvs rest)

/-- A member that is written under the name of a value, as that value. -/
def WritesMember (n : Nat) (m : String × String) (v : String × Value) : Prop :=
  m.1 = v.1 ∧ Writes n m.2 v.2

theorem writtenMembers_cons {n : Nat} {first : Bool} {cs cs' : List Char} {m : String × String}
    {v : String × Value} {vs : List (String × Value)} {rest : List Char}
    (hfirst : Separated first cs ((writeString m.1 ++ ":" ++ m.2).toList ++ cs'))
    (hm : WritesMember n m v) (hrest : WrittenMembers n false cs' vs rest) :
    WrittenMembers n first cs (v :: vs) rest := by
  obtain ⟨m, form⟩ := m
  obtain ⟨name, v⟩ := v
  obtain ⟨hname, hv⟩ := hm
  obtain rfl : m = name := hname
  obtain ⟨cs₁, hcs₁, hspelled⟩ := spelled_writeString m (':' :: (form.toList ++ cs'))
  have hmember : (writeString m ++ ":" ++ form).toList ++ cs' = '"' :: cs₁ := by
    rw [← hcs₁]
    simp
  rw [hmember] at hfirst
  have h := WrittenMembers.cons hfirst (next_cons rfl) hspelled (next_cons rfl) (hv cs') hrest
  rwa [String.ofList_toList] at h

theorem writtenMembers_writeObject {n : Nat} {ms : List (String × String)} {vs : List (String × Value)}
    (h : List.Forall₂ (WritesMember n) ms vs) (rest : List Char) :
    ∃ cs, (writeObject ms).toList ++ rest = '\x7b' :: cs ∧ WrittenMembers n true cs vs rest := by
  let texts := ms.map fun m => writeString m.1 ++ ":" ++ m.2
  have hothers {ms : List (String × String)} {vs : List (String × Value)}
      (h : List.Forall₂ (WritesMember n) ms vs) :
      WrittenMembers n false (((ms.map fun m => writeString m.1 ++ ":" ++ m.2).flatMap
        fun f => ',' :: f.toList) ++ '\x7d' :: rest) vs rest := by
    induction h with
    | nil => exact .nil (next_cons rfl)
    | cons hm _ ih =>
      rw [List.map_cons, List.flatMap_cons, List.append_assoc]
      exact writtenMembers_cons (.comma (next_cons rfl)) hm ih
  refine ⟨(Text.joinWith "," texts).toList ++ '\x7d' :: rest, by simp [writeObject, texts], ?_⟩
  cases h with
  | nil => exact .nil (next_cons rfl)
  | cons hm hms =>
    simp only [texts, List.map_cons]
    rw [toList_joinWith_cons, List.append_assoc]
    exact writtenMembers_cons .first hm (hothers hms)

theorem writes_writeObject {n : Nat} (hn : 0 < n) {ms : List (String × String)}
    {vs : List (String × Value)} (h : List.Forall₂ (WritesMember n) ms vs) :
    Writes (n + 1) (writeObject ms) (.ofMembers vs) := by
  intro rest
  obtain ⟨cs, hcs, hms⟩ := writtenMembers_writeObject h rest
  rw [hcs]
  exact .object hn (next_cons rfl) hms

theorem Writes.ofText? {form : String} {v : Value} (h : Writes Reader.maxDepth form v) :
    Value.ofText? form = .ok v := by
  refine Reader.ofText?_eq_ok.mpr ⟨[], ?_, by simp [Ended]⟩
  simpa using h []

theorem lookup_cons_eq_ite (name n : String) (v : Value) (ms : List (String × Value)) :
    ((n, v) :: ms).lookup name = if name = n then some v else ms.lookup name := by
  rw [List.lookup_cons]
  by_cases h : name = n
  · simp [h]
  · have hdiffers : (name == n) = false := by simpa using h
    rw [hdiffers, if_neg h]

theorem lookup_insert (name n : String) (v : Value) (seen : List (String × Value)) :
    (Value.insert n v seen).lookup name = if name = n then some v else seen.lookup name := by
  induction seen with
  | nil => rw [Value.insert, lookup_cons_eq_ite]
  | cons m seen ih =>
    obtain ⟨n', w⟩ := m
    rw [Value.insert]
    -- Where the member is put depends on the order of the names, what is found for a name does not.
    split
    · rw [lookup_cons_eq_ite]
    · split
      · next heq =>
        subst heq
        rw [lookup_cons_eq_ite, lookup_cons_eq_ite]
        split <;> rfl
      · next hne =>
        rw [lookup_cons_eq_ite, lookup_cons_eq_ite, ih]
        by_cases h : name = n'
        · have hn : n' ≠ n := fun heq => hne heq.symm
          simp [h, hn]
        · simp [h]

/-- The member of a name is the last one that is written under it. -/
theorem member?_ofMembers (ms : List (String × Value)) (name : String) :
    (Value.ofMembers ms).member? name = ms.reverse.lookup name := by
  have hfold (ms seen : List (String × Value)) :
      (ms.foldl (fun seen m => Value.insert m.1 m.2 seen) seen).lookup name =
        (ms.reverse.lookup name).or (seen.lookup name) := by
    induction ms generalizing seen with
    | nil => rfl
    | cons m ms ih =>
      rw [List.foldl_cons, ih, lookup_insert, List.reverse_cons, List.lookup_append, Option.or_assoc,
        lookup_cons_eq_ite]
      by_cases h : name = m.1 <;> simp [h]
  simpa [Value.ofMembers, Value.member?] using hfold ms []

/-! ## Control characters -/

/-- Without control characters, and so on one line. -/
def Plain (s : String) : Prop := ∀ c ∈ s.toList, 0x20 ≤ c.toNat

instance : DecidablePred Plain := fun s =>
  decidable_of_iff (s.toList.all (0x20 ≤ ·.toNat) = true) (by simp [Plain])

theorem Plain.append {s t : String} (hs : Plain s) (ht : Plain t) : Plain (s ++ t) := by
  intro c hc
  rw [String.toList_append, List.mem_append] at hc
  exact hc.elim (hs c) (ht c)

end HookGate.Json
