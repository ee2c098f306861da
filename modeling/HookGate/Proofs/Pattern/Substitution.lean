import HookGate.Proofs.Pattern.Longest

/-!
# Substitution

What stands in the place of a text when the matches of a solid pattern are replaced. The search
is said as a relation, judged with the text that follows: it reads characters that start no
match one by one, and each match as a whole.
-/

namespace HookGate.Pattern

variable {p : Pattern} {new : List Char}

theorem Solid.matchLength?_prev (h : p.Solid) (prev prev' : Option Char) (text : List Char) :
    p.matchLength? prev text = p.matchLength? prev' text := by
  rw [matchLength?_eq_head? h.simple, matchLength?_eq_head? h.simple]

theorem Solid.matchLength?_ne_zero (h : p.Solid) (prev : Option Char) (text : List Char) :
    p.matchLength? prev text ≠ some 0 := by
  intro hn
  have hm := (matches_of_matchLength? h.simple hn).2
  rw [List.take_zero] at hm
  exact h.nonempty hm

theorem Solid.substituteFrom_prev (h : p.Solid) (skip : Nat) (prev prev' : Option Char)
    (text : List Char) :
    p.substituteFrom new skip prev text = p.substituteFrom new skip prev' text := by
  cases text with
  | nil => cases skip <;> rfl
  | cons c cs =>
    cases skip with
    | zero => rw [substituteFrom, substituteFrom, h.matchLength?_prev prev prev']
    | succ skip => rfl

theorem Solid.substituteFrom_eq (h : p.Solid) (skip : Nat) (prev : Option Char)
    (text : List Char) :
    p.substituteFrom new skip prev text = p.substitute new (text.drop skip) := by
  induction skip generalizing prev text with
  | zero => exact h.substituteFrom_prev 0 prev none text
  | succ skip ih =>
    cases text with
    | nil => rfl
    | cons c cs => exact ih (some c) cs

@[simp] theorem substitute_nil : p.substitute new [] = [] := rfl

theorem Solid.substitute_keep (h : p.Solid) {c : Char} {cs : List Char}
    (hn : p.matchLength? none (c :: cs) = none) :
    p.substitute new (c :: cs) = c :: p.substitute new cs := by
  rw [substitute, substituteFrom, hn]
  exact congrArg (c :: ·) (h.substituteFrom_eq 0 (some c) cs)

theorem Solid.substitute_hit (h : p.Solid) {w r : List Char}
    (hn : p.matchLength? none (w ++ r) = some w.length) :
    p.substitute new (w ++ r) = new ++ p.substitute new r := by
  cases w with
  | nil => exact absurd hn (h.matchLength?_ne_zero none _)
  | cons c cs =>
    rw [List.cons_append] at hn ⊢
    rw [substitute, substituteFrom, hn]
    simp only [List.length_cons]
    rw [h.substituteFrom_eq, List.drop_left]

/-- In front of `rest` the search reads a text to its end and leaves another one for it. -/
inductive Passes (p : Pattern) (new rest : List Char) : List Char → List Char → Prop
  | nil : Passes p new rest [] []
  | keep {c : Char} {cs z : List Char} (hn : p.matchLength? none (c :: (cs ++ rest)) = none)
      (hs : Passes p new rest cs z) : Passes p new rest (c :: cs) (c :: z)
  | hit {w cs z : List Char} (hn : p.matchLength? none (w ++ (cs ++ rest)) = some w.length)
      (hs : Passes p new rest cs z) : Passes p new rest (w ++ cs) (new ++ z)

theorem Passes.substitute_append (h : p.Solid) {rest x z : List Char}
    (hx : Passes p new rest x z) :
    p.substitute new (x ++ rest) = z ++ p.substitute new rest := by
  induction hx with
  | nil => rfl
  | keep hn _ ih =>
    rw [List.cons_append, h.substitute_keep hn, ih, List.cons_append]
  | hit hn _ ih =>
    rw [List.append_assoc, h.substitute_hit hn, ih, List.append_assoc]

/-- The search reads a text if no match that starts in it ends behind it. -/
theorem Solid.exists_passes (h : p.Solid) {rest x : List Char}
    (hx : ∀ a b, x = a ++ b → b ≠ [] → ∀ n, p.matchLength? none (b ++ rest) = some n →
      n ≤ b.length) : ∃ z, Passes p new rest x z := by
  induction hlen : x.length using Nat.strong_induction_on generalizing x with
  | _ k ih =>
    cases x with
    | nil => exact ⟨[], .nil⟩
    | cons c cs =>
      cases hn : p.matchLength? none (c :: (cs ++ rest)) with
      | none =>
        obtain ⟨z, hz⟩ := ih cs.length (by simp [← hlen])
          (fun a b hab => hx (c :: a) b (by rw [hab, List.cons_append])) rfl
        exact ⟨c :: z, .keep hn hz⟩
      | some n =>
        have hpos : n ≠ 0 := fun hz => h.matchLength?_ne_zero none _ (hz ▸ hn)
        have hle := hx [] (c :: cs) rfl (by simp) n hn
        have hsplit : c :: cs = (c :: cs).take n ++ (c :: cs).drop n :=
          (List.take_append_drop n _).symm
        obtain ⟨z, hz⟩ := ih ((c :: cs).drop n).length
          (by rw [← hlen, List.length_drop, List.length_cons]; omega)
          (fun a b hab => hx ((c :: cs).take n ++ a) b
            (by rw [List.append_assoc, ← hab, ← hsplit])) rfl
        refine ⟨new ++ z, hsplit ▸ .hit ?_ hz⟩
        rw [← List.append_assoc, ← hsplit, List.length_take_of_le hle]
        exact hn

/-- The search reads every whole text, and leaves what substitution makes of it. -/
theorem Solid.passes (h : p.Solid) (text : List Char) :
    Passes p new [] text (p.substitute new text) := by
  have hread : ∃ z, Passes p new [] text z := by
    apply h.exists_passes
    intro a b _ _ n hn
    have := (matches_of_matchLength? h.simple hn).1
    rwa [List.append_nil] at this
  obtain ⟨z, hz⟩ := hread
  have hsub := hz.substitute_append h
  rw [List.append_nil, substitute_nil, List.append_nil] at hsub
  rwa [hsub]

/-! ## Texts in pieces -/

/-- The matches that start in a text end in it, whatever follows. -/
def Separated (p : Pattern) (x rest : List Char) : Prop :=
  ∀ a b, x = a ++ b → b ≠ [] → ∀ w, p.Matches w → w <+: b ++ rest → w.length ≤ b.length

/-- No match starts in a text. -/
def Free (p : Pattern) (x rest : List Char) : Prop :=
  ∀ a b, x = a ++ b → b ≠ [] → ∀ w, p.Matches w → ¬ w <+: b ++ rest

theorem Passes.extend {s : Char → Bool} (h : p.ClosesWith s) {x z rest : List Char}
    (hx : Passes p new [] x z) (hsep : Separated p x rest) : Passes p new rest x z := by
  have hcongr {b : List Char} (hb : ∀ w, p.Matches w → w <+: b ++ rest → w.length ≤ b.length) :
      p.matchLength? none (b ++ rest) = p.matchLength? none b :=
    h.matchLength?_congr fun w hw =>
      ⟨fun hp => List.prefix_of_prefix_length_le hp (List.prefix_append b rest) (hb w hw hp),
        fun hp => hp.trans (List.prefix_append b rest)⟩
  induction hx with
  | nil => exact .nil
  | @keep c cs z hn _ ih =>
    refine .keep ?_ (ih fun a b hab => hsep (c :: a) b (by rw [hab, List.cons_append]))
    rw [← List.cons_append, hcongr (hsep [] (c :: cs) rfl (by simp))]
    rwa [List.append_nil] at hn
  | @hit w cs z hn _ ih =>
    refine .hit ?_ (ih fun a b hab => hsep (w ++ a) b (by rw [hab, List.append_assoc]))
    have hne : w ++ cs ≠ [] := by
      intro hnil
      obtain ⟨rfl, -⟩ := List.append_eq_nil_iff.mp hnil
      exact h.toSolid.matchLength?_ne_zero none _ hn
    rw [← List.append_assoc, hcongr (hsep [] (w ++ cs) rfl hne)]
    rwa [List.append_nil] at hn

/-- A text that no match leaves is substituted by itself. -/
theorem ClosesWith.substitute_append {s : Char → Bool} (h : p.ClosesWith s) {x rest : List Char}
    (hsep : Separated p x rest) :
    p.substitute new (x ++ rest) = p.substitute new x ++ p.substitute new rest :=
  ((h.toSolid.passes x).extend h hsep).substitute_append h.toSolid

theorem Solid.substitute_free (h : p.Solid) {x rest : List Char} (hfree : Free p x rest) :
    p.substitute new (x ++ rest) = x ++ p.substitute new rest := by
  induction x with
  | nil => rfl
  | cons c cs ih =>
    rw [List.cons_append, h.substitute_keep, ih, List.cons_append]
    · exact fun a b hab => hfree (c :: a) b (by rw [hab, List.cons_append])
    · rw [matchLength?_eq_none_iff h.simple]
      intro w r hr hw
      exact hfree [] (c :: cs) rfl (by simp) w hw ⟨r, hr.symm⟩

/-! ## Occurrences -/

/-- A match of the pattern is found in front of some rest of the text. -/
def FoundIn (p : Pattern) (text : List Char) : Prop :=
  ∃ l r, text = l ++ r ∧ p.matchLength? l.getLast? r ≠ none

theorem foundIn_iff (h : p.simple = true) (text : List Char) :
    p.FoundIn text ↔ ∃ w, p.Matches w ∧ w <:+: text := by
  constructor
  · rintro ⟨l, r, rfl, hn⟩
    obtain ⟨n, hn⟩ := Option.ne_none_iff_exists'.mp hn
    have hm := (matches_of_matchLength? h hn).2
    exact ⟨_, hm, (List.take_prefix n r).isInfix.trans (List.suffix_append l r).isInfix⟩
  · rintro ⟨w, hm, l, r, rfl⟩
    refine ⟨l, w ++ r, List.append_assoc .., fun hn => ?_⟩
    exact (matchLength?_eq_none_iff h _ _).mp hn w r rfl hm

end HookGate.Pattern
