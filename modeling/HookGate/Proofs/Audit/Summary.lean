import HookGate.Audit.Entry
import HookGate.Proofs.Audit.Leaks

/-!
# Keys and summaries

The summary of an input is cut before it is redacted. An access key between blanks leaves no
trace in it if at most the head of the key is within the cut, or all of the key is and nothing is
assigned to it. Otherwise two keys can be told apart, unless a value was to follow where the key
stands.
-/

namespace HookGate

open Pattern Text Redaction

/-- The inputs whose text a summary shows. -/
inductive Carrier
  | prompt
  | command (description : Option String)
deriving Repr, DecidableEq

namespace Carrier

def label : Carrier → String
  | prompt => "Prompt: "
  | command _ => "Bash: "

/-- An input that carries a text, with its other members taken from `i`. -/
def carry (i : HookInput) (text : String) : Carrier → HookInput
  | prompt => { i with prompt := some text }
  | command description =>
    { i with prompt := none, toolName := some "Bash", toolInput := some (.bash text description) }

theorem summary_carry (i : HookInput) (text : String) (c : Carrier) :
    (c.carry i text).summary = c.label ++ Text.truncate text HookInput.summaryLength := by
  cases c <;> rfl

/-- What the summary shows of a text that is carried. -/
def shown (c : Carrier) (text : List Char) : List Char :=
  c.label.toList ++ truncateChars text HookInput.summaryLength

theorem label_ends_blank (c : Carrier) : ∃ l, c.label.toList = l ++ [' '] := by
  cases c with
  | prompt => exact ⟨"Prompt:".toList, by simp [label]⟩
  | command => exact ⟨"Bash:".toList, by simp [label]⟩

/-- Two texts are told apart by the entries exactly as by what redaction leaves of the summaries. -/
theorem entry_eq_iff (c : Carrier) (i : HookInput) (mode : Mode) (d : Decision) (disabled : Bool)
    (t u : List Char) :
    AuditEntry.ofInput mode (c.carry i (String.ofList t)) d disabled =
        AuditEntry.ofInput mode (c.carry i (String.ofList u)) d disabled ↔
      redactChars (c.shown t) = redactChars (c.shown u) := by
  have hsummary (t : List Char) : redact (c.carry i (String.ofList t)).summary =
      String.ofList (redactChars (c.shown t)) := by
    rw [summary_carry, redact, String.toList_append, Text.truncate, String.toList_ofList,
      String.toList_ofList, shown]
  have hsession (t : String) : (c.carry i t).sessionId = i.sessionId := by cases c <;> rfl
  simp only [AuditEntry.ofInput, AuditEntry.ofSummary, hsummary, hsession]
  constructor
  · intro h
    have hsame := congrArg AuditEntry.inputSummary h
    exact String.ofList_injective hsame
  · intro h
    rw [h]

end Carrier

/-! ## Where the cut falls -/

theorem truncateChars_append {a b : List Char} {n : Nat} (h : a.length ≤ n) :
    truncateChars (a ++ b) n = a ++ truncateChars b (n - a.length) := by
  rw [truncateChars, truncateChars, List.length_append]
  by_cases hlt : n - a.length < b.length
  · rw [if_pos (by omega), if_pos hlt, List.take_append, List.take_of_length_le h,
      List.append_assoc]
  · rw [if_neg (by omega), if_neg hlt]

theorem truncateChars_within {a b : List Char} {n : Nat} (ha : n ≤ a.length)
    (hlt : n < (a ++ b).length) : truncateChars (a ++ b) n = a.take n ++ ['.', '.', '.'] := by
  rw [truncateChars, if_pos hlt, List.take_append_of_le_length ha]

/-- A key within the cut stands in the summary in full. -/
theorem shown_of_fit (c : Carrier) {p k : List Char} (hk : k.length = 20) (q : List Char)
    (hfit : p.length + 20 ≤ HookInput.summaryLength) :
    c.shown (p ++ k ++ q) = c.label.toList ++ p ++
      (k ++ truncateChars q (HookInput.summaryLength - p.length - 20)) := by
  rw [Carrier.shown, List.append_assoc p, truncateChars_append (by omega),
    truncateChars_append (by omega), hk, List.append_assoc]

/-- Of a key that the cut goes through, the first part stands in the summary. -/
theorem shown_of_cut (c : Carrier) {p k : List Char} (q : List Char)
    (hle : p.length ≤ HookInput.summaryLength)
    (hcut : HookInput.summaryLength < p.length + k.length) :
    c.shown (p ++ k ++ q) = c.label.toList ++ p ++
      (k.take (HookInput.summaryLength - p.length) ++ ['.', '.', '.']) := by
  rw [Carrier.shown, List.append_assoc p, truncateChars_append hle,
    truncateChars_within (by omega) (by rw [List.length_append]; omega), List.append_assoc]

/-- The key is either cut off behind its head, or stands in full with nothing assigned to it. -/
def Hides (p q : List Char) : Prop :=
  HookInput.summaryLength ≤ p.length + 4 ∨
    p.length + 20 ≤ HookInput.summaryLength ∧
      ¬ StartsAssignment (truncateChars q (HookInput.summaryLength - p.length - 20))

private theorem head?_truncateChars {q : List Char} (hq : ∀ c ∈ q.head?, isBlank c = true)
    (n : Nat) : ∀ c ∈ (truncateChars q n).head?, isDelimiter c = true := by
  intro c hc
  cases q with
  | nil => simp [truncateChars] at hc
  | cons e es =>
    have he := isDelimiter_of_isBlank (hq e rfl)
    rw [truncateChars] at hc
    split at hc
    · cases n with
      | zero =>
        obtain rfl : '.' = c := by simpa using hc
        decide
      | succ n =>
        obtain rfl : e = c := by simpa using hc
        exact he
    · obtain rfl : e = c := by simpa using hc
      exact he

private theorem exists_blank_end (c : Carrier) {p : List Char}
    (hp : ∀ e ∈ p.getLast?, isBlank e = true) :
    ∃ x s, c.label.toList ++ p = x ++ [s] ∧ isBlank s = true := by
  obtain ⟨l, hl⟩ := c.label_ends_blank
  rcases List.eq_nil_or_concat p with rfl | ⟨p', s, rfl⟩
  · exact ⟨l, ' ', by rw [List.append_nil, hl], by decide⟩
  · exact ⟨c.label.toList ++ p', s, by simp, hp s (by simp)⟩

/-! ## Keys that stay hidden -/

theorem exists_eq_of_hides (c : Carrier) {p q : List Char} (hp : ∀ e ∈ p.getLast?, isBlank e = true)
    (hq : ∀ e ∈ q.head?, isBlank e = true) (h : Hides p q) :
    ∃ z, ∀ k, accessKey.Matches k → redactChars (c.shown (p ++ k ++ q)) = z := by
  rcases h with hcut | ⟨hfit, hno⟩
  · -- what is left of the key is the head that all keys have
    refine ⟨redactChars (c.label.toList ++
      ((p ++ "AKIA".toList).take HookInput.summaryLength ++ ['.', '.', '.'])), fun k hk => ?_⟩
    obtain ⟨s, hs, v, -, hlen, -, rfl⟩ := (matches_accessKey k).mp hk
    obtain rfl : s = "AKIA".toList := by simpa [accessKeyToken] using hs
    have htext : p ++ ("AKIA".toList ++ v) ++ q = (p ++ "AKIA".toList) ++ (v ++ q) := by
      simp only [List.append_assoc]
    have hhead : "AKIA".toList.length = 4 := by decide
    have hv : 16 ≤ v.length := hlen
    rw [Carrier.shown, htext, truncateChars_within]
    · rwa [List.length_append, hhead]
    · simp only [List.length_append, hhead]
      omega
  · obtain ⟨x, s, hx, hs⟩ := exists_blank_end c hp
    obtain ⟨z, hz⟩ := redactChars_key hs (head?_truncateChars hq _) hno x
    refine ⟨z, fun k hk => ?_⟩
    rw [← hz k hk, shown_of_fit c (keyLike_of_accessKey hk).length q hfit, hx, List.append_assoc]
    rfl

/-! ## Keys that show -/

private theorem accessKey_matches {v : List Char} (h : KeyLike 16 v) :
    accessKey.Matches ("AKIA".toList ++ v) := by
  rw [matches_accessKey]
  exact ⟨_, by simp [accessKeyToken], v, h.chars, h.length.ge, fun _ => h.length, rfl⟩

private theorem keyLike_replicate (n : Nat) {c : Char} (hc : keyIdChar.contains c = true) :
    KeyLike n (List.replicate n c) :=
  ⟨List.length_replicate, fun e he => by rwa [List.eq_of_mem_replicate he]⟩

/-- The first twelve characters of a key, with a digit in place of the number. -/
private def stem (c : Char) : List Char := "AKIA".toList ++ List.replicate 8 c

private def plainKey (c : Char) : List Char := "AKIA".toList ++ List.replicate 16 c

private theorem accessKey_plainKey {c : Char} (hc : keyIdChar.contains c = true) :
    accessKey.Matches (plainKey c) := accessKey_matches (keyLike_replicate 16 hc)

private theorem accessKey_namedKey {c : Char} (hc : keyIdChar.contains c = true) :
    accessKey.Matches (stem c ++ passwordName) := by
  have hname : passwordName.all keyIdChar.contains = true := by decide
  rw [stem, List.append_assoc]
  refine accessKey_matches ⟨?_, fun e he => ?_⟩
  · rw [List.length_append, List.length_replicate]
    decide
  · rcases List.mem_append.mp he with he | he
    · exact (keyLike_replicate 8 hc).chars e he
    · exact List.all_eq_true.mp hname e he

private theorem keyLike_stem {c : Char} (hc : keyIdChar.contains c = true) :
    KeyLike 12 (stem c) where
  length := by
    rw [stem, List.length_append, List.length_replicate]
    decide
  chars := by
    intro e he
    exact keyIdChar_of_accessKey (accessKey_namedKey hc) e (List.mem_append_left _ he)

private theorem remnant_of_keyLike {n : Nat} {k : List Char} (h : KeyLike n k) (hpos : 0 < n)
    (hlt : n < 20) : Remnant k where
  ne_nil := List.ne_nil_of_length_pos (by rw [h.length]; exact hpos)
  plain := h.plain
  length := by rw [h.length]; exact hlt

/-- If the law holds, the key is hidden, unless a value was to follow where it stands. -/
theorem hides_of_eq (c : Carrier) {p q : List Char} (hp : ∀ e ∈ p.getLast?, isBlank e = true)
    (hhead : ¬ EndsInHead (c.label.toList ++ p))
    (h : ∀ k l, accessKey.Matches k → accessKey.Matches l →
      redactChars (c.shown (p ++ k ++ q)) = redactChars (c.shown (p ++ l ++ q))) : Hides p q := by
  obtain ⟨x, s, hx, hs⟩ := exists_blank_end c hp
  rw [hx] at hhead
  have hzero : keyIdChar.contains '0' = true := by decide
  have hone : keyIdChar.contains '1' = true := by decide
  by_contra hno
  simp only [Hides, not_or, not_and, not_le, not_not] at hno
  obtain ⟨hcut, hfit⟩ := hno
  by_cases hle : p.length + 20 ≤ HookInput.summaryLength
  · obtain ⟨x', y', hz⟩ := redactChars_named hs hhead (hfit hle)
    have hshown (d : Char) (hd : keyIdChar.contains d = true) :
        redactChars (c.shown (p ++ (stem d ++ passwordName) ++ q)) = x' ++ s :: (stem d ++ y') := by
      rw [← hz _ (remnant_of_keyLike (keyLike_stem hd) (by omega) (by omega)),
        shown_of_fit c (keyLike_of_accessKey (accessKey_namedKey hd)).length q hle, hx,
        List.append_assoc, List.append_assoc (stem d)]
      rfl
    have heq := h _ _ (accessKey_namedKey hzero) (accessKey_namedKey hone)
    rw [hshown '0' hzero, hshown '1' hone] at heq
    have hstem := List.append_cancel_right
      (List.cons_eq_cons.mp (List.append_cancel_left heq)).2
    exact absurd hstem (by decide)
  · obtain ⟨x', y', hz⟩ := redactChars_cut hs hhead
    have hkey (d : Char) (hd : keyIdChar.contains d = true) :
        KeyLike 20 (plainKey d) := keyLike_of_accessKey (accessKey_plainKey hd)
    have hshown (d : Char) (hd : keyIdChar.contains d = true) :
        redactChars (c.shown (p ++ plainKey d ++ q)) =
          x' ++ s :: ((plainKey d).take (HookInput.summaryLength - p.length) ++ y') := by
      have hlen := (hkey d hd).length
      rw [← hz, shown_of_cut c q (by omega) (by omega), hx, List.append_assoc]
      · rfl
      · refine remnant_of_keyLike (n := HookInput.summaryLength - p.length) ⟨?_, ?_⟩
          (by omega) (by omega)
        · rw [List.length_take_of_le (by omega)]
        · exact fun e he => (hkey d hd).chars e (List.mem_of_mem_take he)
    have heq := h _ _ (accessKey_plainKey hzero) (accessKey_plainKey hone)
    rw [hshown '0' hzero, hshown '1' hone] at heq
    have htake := List.append_cancel_right
      (List.cons_eq_cons.mp (List.append_cancel_left heq)).2
    -- the first digit of the number is within the cut
    have hdigit := congrArg (·[4]?) htake
    simp only [List.getElem?_take, if_pos (show 4 < HookInput.summaryLength - p.length by omega)]
      at hdigit
    exact absurd hdigit (by decide)

/-- Two access keys that stand between the same blanks leave the same entry where the key is cut
off behind its head, or stands in full with nothing assigned to it. Where no assignment was to
follow in front of the key, they do so nowhere else. -/
theorem entry_eq_of_keys (c : Carrier) (i : HookInput) (mode : Mode) (d : Decision)
    (disabled : Bool) (p q : List Char) :
    let entry (k : List Char) :=
      AuditEntry.ofInput mode (c.carry i (String.ofList (p ++ k ++ q))) d disabled
    let law := ∀ k l, accessKey.Matches k → accessKey.Matches l → entry k = entry l
    (∀ e ∈ p.getLast?, isBlank e = true) → (∀ e ∈ q.head?, isBlank e = true) →
      (Hides p q → law) ∧ (¬ EndsInHead (c.label.toList ++ p) → law → Hides p q) := by
  intro entry law hp hq
  refine ⟨fun h k l hk hl => ?_, fun hhead h => ?_⟩
  · obtain ⟨z, hz⟩ := exists_eq_of_hides c hp hq h
    rw [Carrier.entry_eq_iff, hz k hk, hz l hl]
  · apply hides_of_eq c hp hhead
    intro k l hk hl
    exact (Carrier.entry_eq_iff c i mode d disabled _ _).mp (h k l hk hl)

/-- No value is to follow behind a blank that stands behind a delimiter-free text. -/
theorem not_endsInHead {c s : Char} (hc : isDelimiter c = false) (hs : isBlank s = true)
    (x : List Char) : ¬ EndsInHead (x ++ [c, s]) := by
  rintro ⟨a, -, n, b, g, d, -, -, hg, hd, l, hl⟩
  have hsign : isDelimiter g = true ∧ isBlank g = false := by
    rcases a.signs_subset g hg with rfl | rfl <;> exact ⟨rfl, rfl⟩
  have hplain : isBlank c = false := by
    simp only [isDelimiter, Bool.or_eq_false_iff] at hc
    exact hc.1
  rcases List.eq_nil_or_concat d with rfl | ⟨d', e, rfl⟩
  · have hl : (l ++ (n ++ b)) ++ [g] = (x ++ [c]) ++ [s] := by simpa using hl
    obtain ⟨-, heq⟩ := List.append_inj' hl rfl
    rw [List.singleton_inj.mp heq, hs] at hsign
    exact absurd hsign.2 (by simp)
  · rcases List.eq_nil_or_concat d' with rfl | ⟨d'', e', rfl⟩
    · have hl : (l ++ (n ++ b)) ++ [g, e] = x ++ [c, s] := by simpa using hl
      obtain ⟨-, heq⟩ := List.append_inj' hl rfl
      rw [(List.cons_eq_cons.mp heq).1, hc] at hsign
      exact absurd hsign.1 (by simp)
    · have hl : (l ++ (n ++ (b ++ g :: d''))) ++ [e', e] = x ++ [c, s] := by simpa using hl
      obtain ⟨-, heq⟩ := List.append_inj' hl rfl
      rw [← (List.cons_eq_cons.mp heq).1, hd e' (by simp)] at hplain
      contradiction

/-- A key alone is hidden. A key behind eighty-nine letters and a blank is cut, and shows. -/
theorem entry_eq_of_keys_alone_not_cut :
    let i : HookInput := {}
    let entry (p k : List Char) := AuditEntry.ofInput .activate
      (Carrier.prompt.carry i (String.ofList (p ++ k ++ []))) (.allow "") false
    (∀ k l, accessKey.Matches k → accessKey.Matches l → entry [] k = entry [] l) ∧
      ∃ k l, accessKey.Matches k ∧ accessKey.Matches l ∧
        entry (List.replicate 88 'x' ++ ['x', ' ']) k ≠
          entry (List.replicate 88 'x' ++ ['x', ' ']) l := by
  intro i entry
  have halone : Hides [] [] := .inr ⟨by decide, by
    rintro ⟨b, g, d, q, c, r, -, -, -, -, -, -, -, h⟩
    simp [truncateChars] at h⟩
  refine ⟨(entry_eq_of_keys .prompt i .activate (.allow "") false [] [] (by simp) (by simp)).1
    halone, ?_⟩
  have hcut : ¬ Hides (List.replicate 88 'x' ++ ['x', ' ']) [] := by
    simp [Hides, HookInput.summaryLength]
  have hhead : ¬ EndsInHead (Carrier.prompt.label.toList ++
      (List.replicate 88 'x' ++ ['x', ' '])) := by
    rw [← List.append_assoc]
    exact not_endsInHead (by decide) (by decide) _
  have hlaw := fun law => hcut
    ((entry_eq_of_keys .prompt i .activate (.allow "") false (List.replicate 88 'x' ++ ['x', ' '])
      [] (by simp; decide) (by simp)).2 hhead law)
  by_contra hno
  refine hlaw fun k l hk hl => ?_
  by_contra hne
  exact hno ⟨k, l, hk, hl, hne⟩

end HookGate
