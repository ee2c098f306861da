import HookGate.Proofs.Audit.Clean
import HookGate.Proofs.Audit.Reason
import HookGate.Proofs.Audit.Leaks

/-!
# How long summaries get

A marker has ten characters. Only the words for passwords can be shorter than that, with five at
least, and behind each one a blank or a quote stands before the next. A redacted text is longer than
the text itself by no more than that allows. Summaries are redacted after they were cut, and not all
of them are cut.
-/

namespace HookGate.Redaction

open Pattern Text

variable {p : Pattern} {x y z w : List Char}

/-! ## Words have a length -/

theorem length_marker : marker.length = 10 := by decide

theorem Assignment.Word.length_ge {a : Assignment} {m : Nat} (hm : ∀ s ∈ a.names, m ≤ s.length)
    (h : a.Word w) : m + 1 + a.least ≤ w.length := by
  obtain ⟨n, b, g, d, q, v, h, rfl⟩ := h
  have hname := hm _ h.name
  have hvalue := h.least_le
  rw [List.length_map] at hname
  simp only [List.length_append, List.length_cons]
  omega

theorem length_passwordValue (h : passwordValue.Matches w) : 5 ≤ w.length := by
  have hlen := ((matches_passwordValue w).mp h).length_ge (m := 3) (by decide)
  exact hlen

/-- All other words are longer than the marker. -/
theorem length_word (hp : p ∈ patterns) (hne : p ≠ passwordValue) (h : p.Matches w) :
    marker.length ≤ w.length := by
  rw [length_marker]
  simp only [patterns, List.mem_cons, List.not_mem_nil, or_false] at hp
  rcases hp with rfl | rfl | rfl | rfl | rfl | rfl | rfl
  · have hlen := ((matches_keyValue w).mp h).length_ge (m := 6) (by decide)
    exact le_trans (by decide) hlen
  · contradiction
  · exact le_trans (by decide) ((matches_accessKey w).mp h).long
  · exact le_trans (by decide) ((matches_hostToken w).mp h).long
  · exact le_trans (by decide) ((matches_fineToken w).mp h).long
  · exact le_trans (by decide) ((matches_secretKey w).mp h).long
  · have hlen := ((matches_scannerToken w).mp h).length_ge (m := 17) (by decide)
    exact le_trans (by decide) hlen

/-! ## What substitution adds -/

theorem matches_of_hit (h : p.Solid) {r : List Char}
    (hn : p.matchLength? none (w ++ r) = some w.length) : p.Matches w := by
  have hm := (matches_of_matchLength? h.simple hn).2
  rwa [List.take_left] at hm

theorem length_substitute_le (h : p.Solid) {new : List Char}
    (hw : ∀ w, p.Matches w → new.length ≤ w.length) (text : List Char) :
    (p.substitute new text).length ≤ text.length := by
  have hpasses : ∀ {x z}, Passes p new [] x z → z.length ≤ x.length := by
    intro x z hx
    induction hx with
    | nil => exact le_rfl
    | keep _ _ ih => exact Nat.succ_le_succ ih
    | hit hn _ ih =>
      rw [List.length_append, List.length_append]
      exact Nat.add_le_add (hw _ (matches_of_hit h hn)) ih
  exact hpasses (h.passes text)

/-- A password is read up to a blank or a quote. -/
theorem delimiter_of_hit_passwordValue {r : List Char}
    (hn : passwordValue.matchLength? none (w ++ r) = some w.length) :
    ∀ c ∈ r.head?, isDelimiter c = true := by
  intro c hc
  have hstops := ((passwordValue_closesWith.matchLength?_eq_some_iff none w r).mp hn).2 c hc
  have hopen : passwordAssignment.value '[' = true := by decide
  by_contra hplain
  obtain ⟨hblank, hquote⟩ := not_blank_or_quote_of_plain (Bool.not_eq_true _ ▸ hplain)
  rw [(passwordAssignment.value_open hopen).2 c hblank hquote] at hstops
  contradiction

/-- Each password adds five characters at most, for five that it has and one that stands behind it.
That one is kept, so what begins with it has room for a character less. -/
theorem length_passes_passwordValue (hx : Passes passwordValue marker [] x z) :
    z.length ≤ x.length + 5 * ((x.length + 1) / 6) ∧
      ((∀ c ∈ x.head?, isDelimiter c = true) → z.length ≤ x.length + 5 * (x.length / 6)) := by
  have hshaped := shaped_of_mem_patterns passwordValue (by simp [patterns])
  induction hx with
  | nil => simp
  | @keep c cs z _ _ ih =>
    simp only [List.length_cons]
    have := ih.1
    omega
  | @hit w cs z hn _ ih =>
    have hm := matches_of_hit hshaped.solid hn
    have hw := length_passwordValue hm
    have hnext : ∀ c ∈ cs.head?, isDelimiter c = true := by
      rw [List.append_nil] at hn
      exact delimiter_of_hit_passwordValue hn
    have := ih.2 hnext
    simp only [List.length_append, length_marker]
    refine ⟨by omega, fun hhead => ?_⟩
    obtain ⟨c, w, rfl⟩ := List.exists_cons_of_length_pos (l := w) (by omega)
    have hplain := hshaped.head_plain hm
    rw [hhead c rfl] at hplain
    contradiction

theorem length_foldl_le {ps : List Pattern} (hps : ∀ p ∈ ps, p ∈ patterns ∧ p ≠ passwordValue)
    (text : List Char) :
    (ps.foldl (fun t p => p.substitute marker t) text).length ≤ text.length := by
  induction ps generalizing text with
  | nil => exact le_rfl
  | cons p ps ih =>
    obtain ⟨hp, hne⟩ := hps p (by simp)
    have hfirst := length_substitute_le (solid_of_mem_patterns p hp) (fun w => length_word hp hne) text
    have hrest := ih (fun q hq => hps q (List.mem_cons_of_mem p hq)) (p.substitute marker text)
    exact hrest.trans hfirst

/-- All that makes a text longer is the turn of the passwords. -/
theorem length_redactChars_le_password (text : List Char) :
    ∃ mid : List Char, mid.length ≤ text.length ∧
      (Absent passwordValue text → Absent passwordValue mid) ∧
      (redactChars text).length ≤ (passwordValue.substitute marker mid).length := by
  let others := [accessKey, hostToken, fineToken, secretKey, scannerToken]
  have hothers : ∀ p ∈ others, p ∈ patterns ∧ p ≠ passwordValue := by decide
  have hkey : keyValue ∈ patterns ∧ keyValue ≠ passwordValue := by decide
  obtain ⟨s, hpassword⟩ := exists_marked passwordValue (by simp [patterns])
  obtain ⟨t, hkeys⟩ := exists_marked keyValue hkey.1
  refine ⟨keyValue.substitute marker text, ?_, fun h => h.substitute hpassword hkeys, ?_⟩
  · exact length_substitute_le (solid_of_mem_patterns keyValue hkey.1)
      (fun w => length_word hkey.1 hkey.2) text
  · exact length_foldl_le hothers _

theorem length_redactChars_le (text : List Char) :
    (redactChars text).length ≤ text.length + 5 * ((text.length + 1) / 6) := by
  obtain ⟨mid, hmid, -, hle⟩ := length_redactChars_le_password text
  have hsolid := solid_of_mem_patterns passwordValue (by simp [patterns])
  have hpassword := (length_passes_passwordValue (hsolid.passes mid)).1
  omega

theorem length_redactChars_le_of_absent {text : List Char} (h : Absent passwordValue text) :
    (redactChars text).length ≤ text.length := by
  obtain ⟨mid, hmid, habsent, hle⟩ := length_redactChars_le_password text
  rw [(habsent h).substitute_eq_self (solid_of_mem_patterns passwordValue (by simp [patterns]))] at hle
  exact hle.trans hmid

/-! ## Labels -/

/-- A text that every pattern reads over, whatever follows it. -/
def Inert (x : List Char) : Prop :=
  ∀ p, Shaped p → ∀ y, p.substitute marker (x ++ y) = x ++ p.substitute marker y

theorem Inert.append (hx : Inert x) (hy : Inert y) : Inert (x ++ y) := by
  intro p hp z
  rw [List.append_assoc, hx p hp, hy p hp, List.append_assoc]

/-- In a short text without delimiters no match starts if it ends in no name, and if a delimiter
stands behind it. -/
theorem Shaped.free_of_unnamed (h : Shaped p) (hx : ∀ c ∈ x, isDelimiter c = false)
    (hlen : x.length < 20)
    (hname : ∀ a ∈ assignments, ∀ s ∈ a.names, ∀ b ∈ x.tails, b.map asciiKey ≠ s)
    (hy : ∀ c ∈ y.head?, isDelimiter c = true) : Free p x y := by
  intro u b hub _ w hmatch hpre
  have hplain : ∀ c ∈ b, isDelimiter c = false := fun c hc => hx c (by simp [hub, hc])
  cases h with
  | assignment a ha _ hw =>
    obtain ⟨n, gap, g, d, q, v, hspells, rfl⟩ := (hw w).mp hmatch
    obtain ⟨rfl, -⟩ := hspells.name_eq_of_prefix hplain hy hpre
    exact hname a ha _ hspells.name n ((List.mem_tails _ _).mpr ⟨u, hub.symm⟩) rfl
  | token t _ hw =>
    have hword := (hw w).mp hmatch
    have hlong := hword.long
    have hle : b.length ≤ x.length := by
      rw [hub, List.length_append]
      omega
    obtain ⟨m, rfl⟩ := List.prefix_of_prefix_length_le (List.prefix_append b y) hpre (by omega)
    cases m with
    | nil =>
      rw [List.append_nil] at hlong
      omega
    | cons c m =>
      obtain ⟨r, rfl⟩ := (List.prefix_append_right_inj b).mp hpre
      have hc := hword.plain c (by simp)
      rw [hy c rfl] at hc
      contradiction

theorem inert_word {c : Char} {d : List Char} (hx : x.any isDelimiter = false)
    (hlen : x.length < 20)
    (hname : ∀ a ∈ assignments, ∀ s ∈ a.names, ∀ b ∈ x.tails, b.map asciiKey ≠ s)
    (hd : (c :: d).all isDelimiter = true) : Inert (x ++ c :: d) := by
  intro p hp y
  have hplain : ∀ e ∈ x, isDelimiter e = false := fun e he =>
    Bool.not_eq_true _ ▸ List.any_eq_false.mp hx e he
  have hbehind : ∀ e ∈ c :: d, isDelimiter e = true := List.all_eq_true.mp hd
  have hhead : ∀ e ∈ (c :: d ++ y).head?, isDelimiter e = true := by
    intro e he
    obtain rfl : c = e := by simpa using he
    exact hbehind c (by simp)
  rw [List.append_assoc, hp.solid.substitute_free (hp.free_of_unnamed hplain hlen hname hhead),
    hp.substitute_delimiters hbehind, List.append_assoc]

theorem Inert.redactChars_append (h : Inert x) (y : List Char) :
    redactChars (x ++ y) = x ++ redactChars y := by
  have hfold : ∀ ps : List Pattern, (∀ p ∈ ps, Shaped p) → ∀ y,
      ps.foldl (fun t p => p.substitute marker t) (x ++ y) =
        x ++ ps.foldl (fun t p => p.substitute marker t) y := by
    intro ps hps
    induction ps with
    | nil => exact fun _ => rfl
    | cons p ps ih =>
      intro y
      rw [List.foldl_cons, List.foldl_cons, h p (hps p (by simp))]
      exact ih (fun q hq => hps q (List.mem_cons_of_mem p hq)) _
  exact hfold patterns shaped_of_mem_patterns y

end HookGate.Redaction

namespace HookGate

open Pattern Text Redaction

namespace HookInput

/-- What a summary begins with. -/
def label (i : HookInput) : String :=
  match i.prompt, i.toolInput with
  | some _, _ => "Prompt: "
  | none, some (.bash _ _) => "Bash: "
  | none, some (.task _ _) => "Task: "
  | none, _ => "Unknown tool: "

/-- What a summary shows behind the label. -/
def subject (i : HookInput) : String :=
  match i.prompt, i.toolInput with
  | some prompt, _ => Text.truncate prompt summaryLength
  | none, some (.bash command _) => Text.truncate command summaryLength
  | none, some (.task _ agent) => agent.getD "general-purpose"
  | none, _ => i.toolNameText

theorem summary_eq (i : HookInput) : i.summary = i.label ++ i.subject := by
  cases hprompt : i.prompt with
  | some prompt => simp [summary, label, subject, hprompt]
  | none =>
    rcases htool : i.toolInput with _ | _ | _ | _ <;> simp [summary, label, subject, hprompt, htool]

theorem inert_label (i : HookInput) : Inert i.label.toList := by
  have hwords : ∀ x ∈ ["Prompt", "Bash", "Task", "Unknown", "tool"].map String.toList,
      x.any isDelimiter = false ∧ x.length < 20 ∧
        ∀ a ∈ assignments, ∀ s ∈ a.names, ∀ b ∈ x.tails, b.map asciiKey ≠ s := by
    decide +kernel
  have hword (x : String) (hx : x ∈ ["Prompt", "Bash", "Task", "Unknown", "tool"]) (c : Char)
      (d : List Char) (hd : (c :: d).all isDelimiter = true) : Inert (x.toList ++ c :: d) := by
    obtain ⟨hplain, hlen, hname⟩ := hwords _ (List.mem_map_of_mem hx)
    exact inert_word hplain hlen hname hd
  unfold label
  split
  · exact hword "Prompt" (by decide) ':' [' '] (by decide)
  · exact hword "Bash" (by decide) ':' [' '] (by decide)
  · exact hword "Task" (by decide) ':' [' '] (by decide)
  · exact (hword "Unknown" (by decide) ' ' [] (by decide)).append
      (hword "tool" (by decide) ':' [' '] (by decide))

theorem length_subject_le (i : HookInput) (h : i.label = "Prompt: " ∨ i.label = "Bash: ") :
    i.subject.length ≤ summaryLength + 3 := by
  have hcut (text : String) : (Text.truncate text summaryLength).length ≤ summaryLength + 3 := by
    rw [Text.truncate, String.length_ofList]
    exact length_truncateChars_le _ _
  cases hprompt : i.prompt with
  | some prompt =>
    have hsubject : i.subject = Text.truncate prompt summaryLength := by simp [subject, hprompt]
    exact hsubject ▸ hcut prompt
  | none =>
    rcases htool : i.toolInput with _ | ⟨command, _⟩ | _ | _
    case some.bash =>
      have hsubject : i.subject = Text.truncate command summaryLength := by
        simp [subject, hprompt, htool]
      exact hsubject ▸ hcut command
    all_goals simp [label, hprompt, htool] at h

end HookInput

namespace AuditEntry

variable (mode : Mode) (i : HookInput) (d : Decision) (disabled : Bool)

theorem inputSummary_eq :
    (ofInput mode i d disabled).inputSummary = i.label ++ redact i.subject := by
  have hsummary : (ofInput mode i d disabled).inputSummary = redact i.summary := rfl
  rw [hsummary, i.summary_eq, redact, String.toList_append, i.inert_label.redactChars_append,
    String.ofList_append, String.ofList_toList, redact]

/-- Behind its label a summary shows a text that was redacted after it was cut, if it was cut at all.
It is not longer than the text where no password is found, and where passwords are found, not by more
than five characters for each six. For prompts and commands this makes 103 characters, or else 188.
The type of an agent and the name of an unknown tool are shown at any length. -/
theorem length_inputSummary :
    (ofInput mode i d disabled).inputSummary = i.label ++ redact i.subject ∧
      (redact i.subject).length ≤ i.subject.length + 5 * ((i.subject.length + 1) / 6) ∧
      (¬ passwordValue.FoundIn i.subject.toList → (redact i.subject).length ≤ i.subject.length) ∧
      (i.label = "Prompt: " ∨ i.label = "Bash: " →
        i.subject.length ≤ 103 ∧ (redact i.subject).length ≤ 188) ∧
      ∀ text prompt : String, (∀ p ∈ patterns, ¬ p.FoundIn text.toList) →
        (ofInput mode { i with prompt := none, toolInput := some (.task prompt (some text)) } d
          disabled).inputSummary = "Task: " ++ text ∧
        (ofInput mode { i with prompt := none, toolInput := none, toolName := some text } d
          disabled).inputSummary = "Unknown tool: " ++ text := by
  have hlength (text : String) : (redact text).length = (redactChars text.toList).length :=
    String.length_ofList
  have hbound : (redact i.subject).length ≤ i.subject.length + 5 * ((i.subject.length + 1) / 6) := by
    rw [hlength, ← String.length_toList]
    exact length_redactChars_le _
  refine ⟨inputSummary_eq mode i d disabled, hbound, fun hfound => ?_, fun hcut => ?_,
    fun text prompt hfound => ?_⟩
  · rw [hlength, ← String.length_toList]
    apply length_redactChars_le_of_absent
    exact (absent_iff_of_mem_patterns (by simp [patterns]) _).mpr hfound
  · have hcut : i.subject.length ≤ 103 := i.length_subject_le hcut
    exact ⟨hcut, by omega⟩
  · have hsame : redact text = text := redact_eq_self hfound
    constructor
    · rw [inputSummary_eq]
      exact congrArg ("Task: " ++ ·) hsame
    · rw [inputSummary_eq]
      exact congrArg ("Unknown tool: " ++ ·) hsame

theorem length_inputSummary_prompt_and_agent :
    let i : HookInput := { prompt := some "run semgrep" }
    let agent := String.ofList (List.replicate 104 'a')
    (redact i.subject).length ≤ i.subject.length ∧ i.subject.length ≤ 103 ∧
      (ofInput .guard { i with prompt := none, toolInput := some (.task "scan" (some agent)) }
        (.allow "") false).inputSummary = "Task: " ++ agent := by
  intro i agent
  have hclean {text : String} (h : redactChars text.toList = text.toList) :
      ∀ p ∈ patterns, ¬ p.FoundIn text.toList := by
    have hleft := not_foundIn_redact text
    rwa [redact, h, String.ofList_toList] at hleft
  have hprompt : redactChars i.subject.toList = i.subject.toList := by decide +kernel
  have hagent : redactChars agent.toList = agent.toList := by
    rw [String.toList_ofList]
    decide +kernel
  obtain ⟨-, -, hfree, hcut, hshown⟩ := length_inputSummary .guard i (.allow "") false
  exact ⟨hfree (hclean hprompt passwordValue (by simp [patterns])), (hcut (.inl rfl)).1,
    (hshown agent "scan" (hclean hagent)).1⟩

/-- More than the 103 characters of a text that was cut are shown of a type of an agent, and of a
prompt with many short passwords in it. -/
theorem inputSummary_longer_than_cut :
    let agent := String.ofList (List.replicate 104 'a')
    let prompt := String.ofList (List.replicate 17 "pwd=x ".toList).flatten
    (∃ shown : String, 103 < shown.length ∧
      (ofInput .guard { toolInput := some (.task "scan" (some agent)) } (.allow "")
        false).inputSummary = "Task: " ++ shown) ∧
    ∃ shown : String, 103 < shown.length ∧
      (ofInput .guard { prompt := some prompt } (.allow "") false).inputSummary =
        "Prompt: " ++ shown := by
  intro agent prompt
  have hagent : 103 < (redactChars agent.toList).length := by
    rw [String.toList_ofList]
    decide +kernel
  have hprompt : 103 < (redactChars (truncate prompt HookInput.summaryLength).toList).length := by
    rw [truncate, String.toList_ofList, String.toList_ofList]
    decide +kernel
  rw [← String.length_ofList] at hagent hprompt
  exact ⟨⟨_, hagent, inputSummary_eq .guard _ _ false⟩,
    ⟨_, hprompt, inputSummary_eq .guard _ _ false⟩⟩

end AuditEntry

end HookGate
