import HookGate.Gate.Basic
import HookGate.Proofs.Pattern.Caseless

/-!
# Guarded commands

A command is guarded exactly if it spells the name of the scanner somewhere, and somewhere the words
for running a container with blanks between them. No text around a guarded command hides it, and
neither does the case of its letters.
-/

namespace HookGate.Gate

open Pattern Text

/-- A word up to simple case folding: each character is in the ring of the one that it stands for. -/
def Spells (word : String) (w : List Char) : Prop :=
  List.Forall₂ (fun c d => d ∈ ring c) w word.toList

theorem matches_caseless_iff_spells (word : String) (w : List Char) :
    (caseless word).Matches w ↔ Spells word w := by
  rw [caseless, Spells]
  induction word.toList generalizing w with
  | nil => simp [concat]
  | cons d ds ih =>
    have hring (c : Char) : (CharSet.folded (.single d)).contains c = true ↔ d ∈ ring c := by
      simp [CharSet.contains.eq_def (.folded _), List.any_eq_true, mem_single]
    simp only [List.map_cons, matches_concat_cons, matches_set, hring, ih,
      List.forall₂_cons_right_iff]
    constructor
    · rintro ⟨_, v, ⟨c, hc, rfl⟩, hv, rfl⟩
      exact ⟨c, v, hc, hv, rfl⟩
    · rintro ⟨c, v, hc, hv, rfl⟩
      exact ⟨[c], v, ⟨c, hc, rfl⟩, hv, rfl⟩

/-- Besides the two cases of its letters, an ASCII word may be spelled with a long s or a Kelvin sign. -/
theorem spells_iff {word : String} (hword : ∀ c ∈ word.toList, c.toNat < 0x80) (w : List Char) :
    Spells word w ↔ w.map asciiKey = word.toList.map asciiKey := by
  rw [← matches_caseless_iff_spells, matches_caseless hword]

/-- The name of the scanner stands somewhere in a text. -/
def NamesScanner (text : List Char) : Prop :=
  ∃ before w after, text = before ++ w ++ after ∧ Spells "semgrep" w

/-- Somewhere in a text stand the words for running a container, with blanks between them. -/
def RunsContainer (text : List Char) : Prop :=
  ∃ before d gap r after, text = before ++ d ++ gap ++ r ++ after ∧ Spells "docker" d ∧ gap ≠ [] ∧
    (∀ c ∈ gap, isBlank c = true) ∧ Spells "run" r

theorem scanner_occurs_iff (text : List Char) : scanner.occurs text = true ↔ NamesScanner text := by
  rw [occurs_iff_leads, exists_leads_iff_matches (by decide)]
  simp only [scanner, matches_caseless_iff_spells, NamesScanner]

theorem matches_containerRun (w : List Char) :
    containerRun.Matches w ↔
      ∃ d gap r, w = d ++ gap ++ r ∧ Spells "docker" d ∧ gap ≠ [] ∧
        (∀ c ∈ gap, isBlank c = true) ∧ Spells "run" r := by
  have hgap (g : List Char) : (plus (.set (.folded .space))).Matches g ↔
      g ≠ [] ∧ ∀ c ∈ g, isBlank c = true := by
    rw [plus, matches_repeat_set]
    simp only [folded_space, Nat.one_le_iff_ne_zero, ne_eq, List.length_eq_zero_iff, Option.mem_def,
      reduceCtorEq, false_implies, implies_true, and_true]
    exact and_comm
  simp only [containerRun, matches_concat_cons, matches_concat_nil, matches_caseless_iff_spells, hgap]
  constructor
  · rintro ⟨d, _, hd, ⟨g, _, ⟨hne, hblank⟩, ⟨r, _, hr, rfl, rfl⟩, rfl⟩, rfl⟩
    exact ⟨d, g, r, by simp, hd, hne, hblank, hr⟩
  · rintro ⟨d, g, r, rfl, hd, hne, hblank, hr⟩
    exact ⟨d, g ++ r, hd, ⟨g, r, ⟨hne, hblank⟩, ⟨r, [], hr, rfl, by simp⟩, rfl⟩, by simp⟩

theorem containerRun_occurs_iff (text : List Char) :
    containerRun.occurs text = true ↔ RunsContainer text := by
  rw [occurs_iff_leads, exists_leads_iff_matches (by decide)]
  simp only [matches_containerRun]
  constructor
  · rintro ⟨before, _, after, rfl, d, gap, r, rfl, hd, hne, hblank, hr⟩
    exact ⟨before, d, gap, r, after, by simp, hd, hne, hblank, hr⟩
  · rintro ⟨before, d, gap, r, after, rfl, hd, hne, hblank, hr⟩
    exact ⟨before, d ++ gap ++ r, after, by simp, d, gap, r, rfl, hd, hne, hblank, hr⟩

theorem isGuarded_iff (command : String) :
    isGuarded command = true ↔ NamesScanner command.toList ∧ RunsContainer command.toList := by
  rw [isGuarded, Bool.and_eq_true, occursIn, occursIn, containerRun_occurs_iff, scanner_occurs_iff]
  exact and_comm

/-! ## What does not hide a command -/

theorem NamesScanner.amid {text : List Char} (h : NamesScanner text) (before after : List Char) :
    NamesScanner (before ++ text ++ after) := by
  obtain ⟨u, w, v, rfl, hw⟩ := h
  exact ⟨before ++ u, w, v ++ after, by simp, hw⟩

theorem RunsContainer.amid {text : List Char} (h : RunsContainer text) (before after : List Char) :
    RunsContainer (before ++ text ++ after) := by
  obtain ⟨u, d, gap, r, v, rfl, hrun⟩ := h
  exact ⟨before ++ u, d, gap, r, v ++ after, by simp, hrun⟩

/-- A command is guarded exactly if it names the scanner and runs a container, in any order and any
case; it stays so between other texts, and in any other case of its ASCII letters. -/
theorem isGuarded_iff_markers (command : String) :
    (isGuarded command = true ↔ NamesScanner command.toList ∧ RunsContainer command.toList) ∧
      (isGuarded command = true →
        ∀ before after : String, isGuarded (before ++ command ++ after) = true) ∧
      ∀ other : String, CaseVariants command.toList other.toList →
        isGuarded other = isGuarded command := by
  refine ⟨isGuarded_iff command, ?_, ?_⟩
  · intro h before after
    obtain ⟨hscanner, hrun⟩ := (isGuarded_iff command).mp h
    rw [isGuarded_iff, String.toList_append, String.toList_append]
    exact ⟨hscanner.amid before.toList after.toList, hrun.amid before.toList after.toList⟩
  · intro other hother
    have hcontainer : containerRun.IgnoresCase := ignoresCase_of_sets (by decide +kernel)
    have hscanner : scanner.IgnoresCase := ignoresCase_of_sets (by decide +kernel)
    rw [isGuarded, isGuarded, occursIn, occursIn, occursIn, occursIn, hcontainer _ _ hother,
      hscanner _ _ hother]

end HookGate.Gate
