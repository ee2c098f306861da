import HookGate.Proofs.Audit.Hidden

/-!
# Redacted texts

Of what redaction was to take away nothing is left. Each pattern takes all its words out of a text,
and the markers that later patterns leave make no new ones: a word that reached into a marker would
have been one before, with the first character of what the marker hides in its place.
-/

namespace HookGate.Redaction

open Pattern Text

variable {p q : Pattern} {s t : Char → Bool} {ps : List Piece} {text w : List Char}

/-- No word of the pattern stands in the text. -/
def Absent (p : Pattern) (text : List Char) : Prop := ∀ w, p.Matches w → ¬ w <:+: text

theorem absent_iff (h : p.simple = true) (text : List Char) :
    Absent p text ↔ ¬ p.FoundIn text := by
  rw [foundIn_iff h]
  simp only [Absent, not_exists, not_and]

/-- What stands in two texts put together begins in the first one or lies in the second. -/
private theorem infix_append_cases {x y : List Char} (h : w <:+: x ++ y) :
    (∃ a b, x = a ++ b ∧ b ≠ [] ∧ w <+: b ++ y) ∨ w <:+: y := by
  obtain ⟨l, r, hlr⟩ := h
  rw [List.append_assoc] at hlr
  rcases List.append_eq_append_iff.mp hlr with ⟨m, hx, hm⟩ | ⟨m, -, hm⟩
  · cases m with
    | nil =>
      right
      exact ⟨[], r, hm⟩
    | cons c m =>
      left
      exact ⟨l, c :: m, hx, by simp, r, hm⟩
  · right
    exact ⟨m, r, by rw [hm, List.append_assoc]⟩

/-- Where a word is shown, one stands in the source and begins with a character that was kept. -/
theorem Marked.exists_kept_word (h : Marked p s) (hps : Sound ps) (hw : p.Matches w)
    (hin : w <:+: shown ps) :
    ∃ a v, p.Matches v ∧ v <+: (source ps).drop a ∧ gone ps a = false := by
  induction ps with
  | nil =>
    have hnil : w = [] := List.infix_nil.mp hin
    rw [hnil] at hw
    exact absurd hw h.nonempty
  | cons q ps ih =>
    rw [shown_cons] at hin
    rcases infix_append_cases hin with ⟨a, b, hq, hb, hpre⟩ | hin
    · cases q with
      | hidden u => exact absurd hpre (h.marker_free (shown ps) a b hq hb w hw)
      | kept c =>
        have hstart : [] ++ w <+: shown (.kept c :: ps) := by
          obtain ⟨rfl, rfl⟩ : a = [] ∧ b = [c] := by
            rcases List.append_eq_singleton_iff.mp hq.symm with hab | hab
            · exact hab
            · exact absurd hab.2 hb
          exact hpre
        obtain ⟨v, hv, hvp⟩ := h.exists_word_of_shown (u := []) hps hw hstart
        exact ⟨0, v, hv, hvp, gone_cons_of_lt (by simp [Piece.source]) ps⟩
    · obtain ⟨a, v, hv, hvp, hkept⟩ := ih hps.tail hin
      refine ⟨q.source.length + a, v, hv, ?_, ?_⟩
      · rwa [source_cons, List.drop_length_add_append]
      · rwa [gone_cons_add]

/-! ## One pattern -/

theorem Marked.shown_hide_kept (h : Marked p s) (text : List Char) :
    shown (hide p (text.map .kept)) = p.substitute marker text := by
  rw [(h.stage _).shown_eq h, shown_map_kept]

theorem Marked.source_hide_kept (h : Marked p s) (text : List Char) :
    source (hide p (text.map .kept)) = text := by
  rw [(h.stage _).source_eq, source_map_kept]

/-- The words of the pattern itself are gone. -/
theorem Marked.absent_substitute (h : Marked p s) (text : List Char) :
    Absent p (p.substitute marker text) := by
  intro w hw hin
  have hstage := h.stage (text.map .kept)
  have hsound := hstage.sound h (sound_map_kept text)
  rw [← h.shown_hide_kept] at hin
  obtain ⟨a, v, hv, hvp, hkept⟩ := h.exists_kept_word hsound hw hin
  have hgone : gone (hide p (text.map .kept)) a = true := by
    apply hstage.gone_of_word h (sound_map_kept text) hv
    · rwa [hstage.source_eq] at hvp
    · intro k _
      exact gone_map_kept text (a + k)
  rw [hkept] at hgone
  contradiction

/-- A word that was not there before is not there when another pattern has left its markers. -/
theorem Absent.substitute (h : Absent p text) (hp : Marked p s) (hq : Marked q t) :
    Absent p (q.substitute marker text) := by
  intro w hw hin
  have hsound := (hq.stage _).sound hq (sound_map_kept text)
  rw [← hq.shown_hide_kept] at hin
  obtain ⟨a, v, hv, hvp, -⟩ := hp.exists_kept_word hsound hw hin
  rw [hq.source_hide_kept] at hvp
  exact h v hv (hvp.isInfix.trans (List.drop_suffix a text).isInfix)

/-- A text without words of the pattern stays as it is. -/
theorem Absent.substitute_eq_self (h : Absent p text) (hp : p.Solid) (new : List Char) :
    p.substitute new text = text := by
  have hfree : Free p text [] := by
    intro a b hab _ w hw hpre
    rw [List.append_nil] at hpre
    exact h w hw (hpre.isInfix.trans ⟨a, [], by rw [List.append_nil, hab]⟩)
  have hsub : p.substitute new (text ++ []) = text ++ p.substitute new [] := hp.substitute_free hfree
  rwa [List.append_nil, substitute_nil, List.append_nil] at hsub

/-! ## All patterns -/

/-- Patterns that are applied in turn leave no words of those that went before, of their own, or of
others that were not there. -/
theorem absent_foldl {qs : List Pattern} (hqs : ∀ q ∈ qs, ∃ t, Marked q t) (hp : Marked p s)
    (h : Absent p text ∨ p ∈ qs) :
    Absent p (qs.foldl (fun t q => q.substitute marker t) text) := by
  induction qs generalizing text with
  | nil =>
    rcases h with h | h
    · exact h
    · exact absurd h (by simp)
  | cons q qs ih =>
    apply ih (fun r hr => hqs r (List.mem_cons_of_mem q hr))
    obtain ⟨t, hq⟩ := hqs q (by simp)
    rcases h with h | h
    · left
      exact h.substitute hp hq
    · rcases List.mem_cons.mp h with rfl | h
      · left
        exact hp.absent_substitute text
      · right
        exact h

theorem absent_redactChars (text : List Char) : ∀ p ∈ patterns, Absent p (redactChars text) := by
  intro p hmem
  obtain ⟨s, hp⟩ := exists_marked p hmem
  exact absent_foldl exists_marked hp (.inr hmem)

theorem redactChars_eq_self (h : ∀ p ∈ patterns, Absent p text) : redactChars text = text := by
  have hstays : ∀ qs : List Pattern, (∀ p ∈ qs, p ∈ patterns) →
      qs.foldl (fun t q => q.substitute marker t) text = text := by
    intro qs hqs
    induction qs with
    | nil => rfl
    | cons q qs ih =>
      have hq := hqs q (by simp)
      rw [List.foldl_cons, (h q hq).substitute_eq_self (solid_of_mem_patterns q hq)]
      exact ih fun p hp => hqs p (List.mem_cons_of_mem q hp)
  exact hstays patterns fun p hp => hp

theorem absent_iff_of_mem_patterns (hp : p ∈ patterns) (text : List Char) :
    Absent p text ↔ ¬ p.FoundIn text :=
  absent_iff (solid_of_mem_patterns p hp).simple text

theorem not_foundIn_redact (text : String) :
    ∀ p ∈ patterns, ¬ p.FoundIn (redact text).toList := by
  intro p hp
  rw [← absent_iff_of_mem_patterns hp, redact, String.toList_ofList]
  exact absent_redactChars _ p hp

theorem redact_eq_self {text : String} (h : ∀ p ∈ patterns, ¬ p.FoundIn text.toList) :
    redact text = text := by
  rw [redact, redactChars_eq_self, String.ofList_toList]
  intro p hp
  exact (absent_iff_of_mem_patterns hp _).mpr (h p hp)

/-- In a redacted text no pattern finds anything, so redaction leaves exactly those texts as they
are in which no pattern finds anything, and a second time changes nothing. -/
theorem redact_idempotent (text : String) :
    (∀ p ∈ patterns, ¬ p.FoundIn (redact text).toList) ∧
      (redact text = text ↔ ∀ p ∈ patterns, ¬ p.FoundIn text.toList) ∧
      redact (redact text) = redact text := by
  have hleft := not_foundIn_redact text
  refine ⟨hleft, ⟨fun h => ?_, redact_eq_self⟩, redact_eq_self hleft⟩
  rwa [h] at hleft

end HookGate.Redaction
