import Mathlib
import HookGate.Proofs.Activation.Advice
import HookGate.Proofs.Activation.Recording
import HookGate.Proofs.Text.Words

/-!
# Reading a report

A report can be read back: whoever knows its action line finds in its text which tiers it shows and
which names under each. This is so although names and action lines may look like any line of a
report, as long as no name runs over the end of its line.
-/

namespace HookGate

namespace Report

/-! ## What a report is to show -/

/-- The tiers within the threshold that have a name, the most severe one first, with their names. -/
def shown (rs : List (String × Priority)) (threshold : Priority) : List (Priority × List String) :=
  (Priority.all.filter fun p => p.rank ≤ threshold.rank ∧ recordedWith rs p ≠ []).map fun p =>
    (p, recordedWith rs p)

theorem groups_ofRecorded (rs : List (String × Priority)) (threshold : Priority) :
    groups (.ofRecorded rs) threshold = shown rs threshold := by
  simp only [groups, shown, Matches.namesWith_ofRecorded, List.filter_map, List.filter_filter]
  refine congrArg _ (List.filter_congr fun p _ => ?_)
  simp [Priority.includes, and_comm]

/-- A tier that is shown is shown as it is under every threshold that is not stricter. -/
theorem shown_subset (rs : List (String × Priority)) {strict loose : Priority}
    (h : strict.rank ≤ loose.rank) : shown rs strict ⊆ shown rs loose := by
  intro group hgroup
  obtain ⟨p, hp, rfl⟩ := List.mem_map.mp hgroup
  obtain ⟨htier, hwithin⟩ := List.mem_filter.mp hp
  obtain ⟨hrank, hnames⟩ := of_decide_eq_true hwithin
  exact List.mem_map.mpr ⟨p, List.mem_filter.mpr ⟨htier, decide_eq_true ⟨hrank.trans h, hnames⟩⟩, rfl⟩

theorem shown_eq_nil_iff {rs : List (String × Priority)} {threshold : Priority} :
    shown rs threshold = [] ↔ ∀ name p, rs.lookup name = some p → threshold.rank < p.rank := by
  have hnames (p : Priority) : recordedWith rs p = [] ↔ ∀ name, rs.lookup name ≠ some p := by
    rw [List.eq_nil_iff_forall_not_mem]
    simp only [mem_recordedWith, ne_eq]
  simp only [shown, List.map_eq_nil_iff, List.filter_eq_nil_iff, decide_eq_true_eq, not_and, ne_eq,
    not_not, hnames]
  constructor
  · intro h name p hname
    by_contra hrank
    exact h p p.mem_all (not_lt.mp hrank) name hname
  · intro h p _ hrank name hname
    exact absurd (h name p hname) (not_lt.mpr hrank)

/-! ## The reader -/

/-- The lines in front of the groups. -/
def headLines : List String := [heavyLine, "SKILL ACTIVATION CHECK", heavyLine, ""]

/-- Reads the lines of groups one after the other. The group under way is given apart. -/
def readGroups : Option (Priority × List String) → List String → Option (List (Priority × List String))
  | none, [] => some []
  | some _, [] => none
  | none, line :: lines => do
    let p ← Priority.all.find? fun p => label p = line
    readGroups (some (p, [])) lines
  | some (p, names), line :: lines =>
    if line = "" then (readGroups none lines).map ((p, names) :: ·)
    else do
      let name ← Text.afterStart? "  → " line
      readGroups (some (p, names ++ [name])) lines

/-- Reads a report that ends in this action line. -/
def decode? (actionLine text : String) : Option (List (Priority × List String)) := do
  let body ← text.toList.dropSuffix? ("\n" ++ actionLine ++ "\n" ++ heavyLine).toList
  let lines ← ((Text.pieces (· == '\n') body).map String.ofList).dropPrefix? headLines
  readGroups none lines

theorem readGroups_names (p : Priority) (seen names lines : List String) :
    readGroups (some (p, seen)) (names.map ("  → " ++ ·) ++ "" :: lines) =
      (readGroups none lines).map ((p, seen ++ names) :: ·) := by
  induction names generalizing seen with
  | nil => simp [readGroups]
  | cons name names ih =>
    have hline : "  → " ++ name ≠ "" := by
      intro h
      simpa using congrArg String.length h
    simp [readGroups, hline, Text.afterStart?_append, ih]

theorem find?_label (p : Priority) : (Priority.all.find? fun q => label q = label p) = some p := by
  cases p <;> decide

/-- Groups are read as they are written. -/
theorem readGroups_groupLines (gs : List (Priority × List String)) :
    readGroups none (gs.flatMap groupLines) = some gs := by
  induction gs with
  | nil => rfl
  | cons g gs ih =>
    obtain ⟨p, names⟩ := g
    have hlines : ((p, names) :: gs).flatMap groupLines =
        label p :: (names.map ("  → " ++ ·) ++ "" :: gs.flatMap groupLines) := by
      simp [groupLines]
    rw [hlines, readGroups, find?_label]
    simp [readGroups_names, ih]

theorem heavyLine_eq : heavyLine = .ofList (List.replicate 39 '━') := by
  decide

theorem lineFeed_not_mem_headLines : ∀ line ∈ headLines, '\n' ∉ line.toList := by
  have hheavy : '\n' ∉ heavyLine.toList := by
    rw [heavyLine_eq, String.toList_ofList]
    exact fun h => absurd (List.eq_of_mem_replicate h) (by decide)
  simp [headLines, hheavy]

theorem lineFeed_not_mem_groupLines {gs : List (Priority × List String)}
    (h : ∀ g ∈ gs, ∀ name ∈ g.2, '\n' ∉ name.toList) :
    ∀ line ∈ gs.flatMap groupLines, '\n' ∉ line.toList := by
  intro line hline
  obtain ⟨⟨p, names⟩, hg, hline⟩ := List.mem_flatMap.mp hline
  simp only [groupLines, List.cons_append, List.mem_cons, List.mem_append, List.mem_map,
    List.not_mem_nil, or_false] at hline
  rcases hline with rfl | ⟨name, hname, rfl⟩ | rfl
  · cases p <;> decide
  · rw [String.toList_append, List.mem_append, not_or]
    exact ⟨by decide, h _ hg name hname⟩
  · decide

/-- A text that is put together from lines and groups is taken apart into the same groups. -/
theorem decode?_joinWith (actionLine : String) {gs : List (Priority × List String)}
    (h : ∀ g ∈ gs, ∀ name ∈ g.2, '\n' ∉ name.toList) :
    decode? actionLine (Text.joinWith "\n" (headLines ++ gs.flatMap groupLines ++ [actionLine, heavyLine])) =
      some gs := by
  let lines := headLines ++ gs.flatMap groupLines
  have hlines : ∀ line ∈ lines.map String.toList, '\n' ∉ line := by
    rw [List.forall_mem_map]
    intro line hline
    rcases List.mem_append.mp hline with hhead | hgroup
    · exact lineFeed_not_mem_headLines line hhead
    · exact lineFeed_not_mem_groupLines h line hgroup
  have htext : (Text.joinWith "\n" (lines ++ [actionLine, heavyLine])).toList =
      ['\n'].intercalate (lines.map String.toList) ++
        ("\n" ++ actionLine ++ "\n" ++ heavyLine).toList := by
    rw [Text.joinWith, String.intercalate_append_of_ne_nil (by simp [lines, headLines]) (by simp)]
    simp
  have hbody : (Text.pieces (· == '\n') (['\n'].intercalate (lines.map String.toList))).map
      String.ofList = lines := by
    rw [Text.pieces_intercalate (by simp [lines, headLines]) hlines]
    simp
  have htail : (Text.joinWith "\n" (lines ++ [actionLine, heavyLine])).toList.dropSuffix?
      ("\n" ++ actionLine ++ "\n" ++ heavyLine).toList =
        some (['\n'].intercalate (lines.map String.toList)) :=
    List.dropSuffix?_eq_some_iff.mpr ⟨_, htext, by simp⟩
  have hhead : lines.dropPrefix? headLines = some (gs.flatMap groupLines) :=
    List.dropPrefix?_eq_some_iff.mpr ⟨headLines, rfl, by simp⟩
  change decode? actionLine (Text.joinWith "\n" (lines ++ [actionLine, heavyLine])) = some gs
  rw [decode?, htail, Option.bind_eq_bind, Option.bind_some, hbody, hhead]
  exact readGroups_groupLines gs

variable {rs : List (String × Priority)} {o : ReportOptions}

theorem render?_ofRecorded_eq_none_iff :
    render? (.ofRecorded rs) o = none ↔ shown rs o.minPriority = [] := by
  rw [render?, groups_ofRecorded]
  cases shown rs o.minPriority <;> simp

theorem lineFeed_not_mem_shown (hnames : ∀ r ∈ rs, '\n' ∉ r.1.toList) (threshold : Priority) :
    ∀ g ∈ shown rs threshold, ∀ name ∈ g.2, '\n' ∉ name.toList := by
  intro g hg name hname
  obtain ⟨p, -, rfl⟩ := List.mem_map.mp hg
  have hrecorded := (List.mem_filter.mp hname).1
  obtain ⟨r, hr, rfl⟩ := List.mem_map.mp (List.mem_eraseDups.mp hrecorded)
  exact hnames r hr

theorem decode?_render (hnames : ∀ r ∈ rs, '\n' ∉ r.1.toList) {text : String}
    (h : render? (.ofRecorded rs) o = some text) :
    decode? o.actionLine text = some (shown rs o.minPriority) := by
  rw [render?, groups_ofRecorded] at h
  have hfeed := lineFeed_not_mem_shown hnames o.minPriority
  generalize shown rs o.minPriority = gs at h hfeed
  cases gs with
  | nil => contradiction
  | cons g gs =>
    obtain rfl := Option.some.inj h
    exact decode?_joinWith o.actionLine hfeed

/-- A report is missing exactly if no name is recorded with a priority that is as severe as the
threshold. Otherwise its text and its action line tell what it shows, which is each tier within the
threshold that has a name, the most severe one first, and under it each name that is recorded with
this priority, once and in the order of recording. So reports with the same options that show
different things differ in their texts, and a looser threshold shows all that a stricter one does. -/
theorem render?_decodes (hnames : ∀ r ∈ rs, '\n' ∉ r.1.toList) :
    (render? (.ofRecorded rs) o = none ↔
      ∀ name p, rs.lookup name = some p → ¬ p.rank ≤ o.minPriority.rank) ∧
    (∀ text, render? (.ofRecorded rs) o = some text →
      decode? o.actionLine text = some (shown rs o.minPriority)) ∧
    (∀ g ∈ shown rs o.minPriority, g.2.Nodup ∧ ∀ name, name ∈ g.2 ↔ rs.lookup name = some g.1) ∧
    (∀ rs' : List (String × Priority), (∀ r ∈ rs', '\n' ∉ r.1.toList) →
      shown rs' o.minPriority ≠ shown rs o.minPriority →
        render? (.ofRecorded rs') o ≠ render? (.ofRecorded rs) o) ∧
    ∀ loose : Priority, o.minPriority.rank ≤ loose.rank →
      shown rs o.minPriority ⊆ shown rs loose := by
  refine ⟨?_, fun text => decode?_render hnames, fun g hg => ?_, fun rs' hnames' hdiffer hsame => ?_,
    fun loose => shown_subset rs⟩
  · rw [render?_ofRecorded_eq_none_iff, shown_eq_nil_iff]
    simp only [not_le]
  · obtain ⟨p, -, rfl⟩ := List.mem_map.mp hg
    exact ⟨nodup_recordedWith rs p, fun name => mem_recordedWith⟩
  · cases htext : render? (.ofRecorded rs) o with
    | none =>
      rw [htext, render?_ofRecorded_eq_none_iff] at hsame
      exact hdiffer (hsame.trans (render?_ofRecorded_eq_none_iff.mp htext).symm)
    | some text =>
      have hread := decode?_render hnames' (hsame.trans htext)
      rw [decode?_render hnames htext] at hread
      exact hdiffer (Option.some.inj hread).symm

/-- Names and an action line that look like headings and entries are told from these. -/
theorem render?_decodes_lookalikes :
    let rs : List (String × Priority) :=
      [("RECOMMENDED SKILLS:", .low), ("  → a", .critical), ("", .low), ("  → a", .high)]
    let o : ReportOptions := { actionLine := "SUGGESTED SKILLS:\n  → b\n" }
    (∀ r ∈ rs, '\n' ∉ r.1.toList) ∧ ∃ text, render? (.ofRecorded rs) o = some text ∧
      decode? o.actionLine text =
        some [(.critical, ["  → a"]), (.low, ["RECOMMENDED SKILLS:", ""])] := by
  intro rs o
  have hnames : ∀ r ∈ rs, '\n' ∉ r.1.toList := by simp [rs]
  have hread := render?_decodes (o := o) hnames
  have hshown : shown rs o.minPriority =
      [(.critical, ["  → a"]), (.low, ["RECOMMENDED SKILLS:", ""])] := by
    simp [shown, recordedWith, rs, o, Priority.all, Priority.rank, List.eraseDups_cons, List.lookup]
  cases htext : render? (.ofRecorded rs) o with
  | none => exact absurd le_rfl (hread.1.mp htext "" .low (by decide))
  | some text => exact ⟨hnames, text, rfl, hshown ▸ hread.2.1 text htext⟩

end Report

end HookGate
