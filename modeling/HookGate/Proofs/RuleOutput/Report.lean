import HookGate.Proofs.Text.Words
import HookGate.RuleOutput.Report

/-!
# What a parser tells

The parser of rule output tells of each file in a line of its own, and of the tests in any place. What
is understood of two outputs one after the other is what is understood of each.
-/

namespace HookGate.RuleOutput

open Text

/-! ## Files -/

theorem fileOfLine?_eq_some {line file : String} :
    fileOfLine? line = some file ↔
      file ≠ "" ∧ ∃ mark ∈ fileMarks, ∃ rest, line = mark ++ rest ∧ trim rest = file := by
  have hfound (rest : String) :
      (fileMarks.findSome? fun mark => afterStart? mark line) = some rest ↔
        ∃ mark ∈ fileMarks, line = mark ++ rest := by
    constructor
    · intro h
      obtain ⟨mark, hmark, hrest⟩ := List.exists_of_findSome?_eq_some h
      exact ⟨mark, hmark, afterStart?_eq_some.mp hrest⟩
    · rintro ⟨mark, hmark, rfl⟩
      -- The marks begin with different characters, so no line has both.
      rcases List.mem_pair.mp hmark with rfl | rfl
      · simp [fileMarks, afterStart?_append]
      · simp [fileMarks, afterStart?, rest?]
  rw [fileOfLine?, Option.filter_eq_some_iff, Option.map_eq_some_iff]
  simp only [hfound, Bool.not_eq_true', String.isEmpty_eq_false_iff]
  constructor
  · rintro ⟨⟨rest, ⟨mark, hmark, hline⟩, hfile⟩, hne⟩
    exact ⟨hne, mark, hmark, rest, hline, hfile⟩
  · rintro ⟨hne, mark, hmark, rest, hline, hfile⟩
    exact ⟨⟨rest, ⟨mark, hmark, hline⟩, hfile⟩, hne⟩

theorem fileOfLine?_empty : fileOfLine? "" = none := by
  decide

/-- The return of a line end is a blank behind the name of the file. -/
theorem fileOfLine?_return (line : List Char) :
    fileOfLine? (String.ofList (line ++ ['\r'])) = fileOfLine? (String.ofList line) := by
  have hafter (mark : String) (hmark : mark ∈ fileMarks) :
      afterStart? mark (String.ofList (line ++ ['\r'])) =
        (afterStart? mark (String.ofList line)).map (· ++ "\r") := by
    have hreturn : '\r' ∉ mark.toList := by
      revert mark
      decide
    simp [afterStart?, rest?_concat hreturn, String.ofList_append, Function.comp_def]
  have htrim (rest : String) : trim (rest ++ "\r") = trim rest := by
    rw [trim, trim, String.toList_append]
    exact congrArg String.ofList (trimChars_concat rest.toList rfl)
  have hmarks : (fileMarks.findSome? fun mark => afterStart? mark (String.ofList (line ++ ['\r']))) =
      (fileMarks.findSome? fun mark => afterStart? mark (String.ofList line)).map (· ++ "\r") := by
    rw [List.map_findSome?, ← List.head?_filterMap, List.filterMap_congr hafter, List.head?_filterMap]
    rfl
  rw [fileOfLine?, fileOfLine?, hmarks, Option.map_map]
  simp only [Function.comp_def, htrim]

theorem files_append (a b : String) : files (a ++ "\n" ++ b) = files a ++ files b := by
  have hlines (s : String) :
      files s = (linesOf s.toList).filterMap fun line => fileOfLine? (String.ofList line) :=
    List.filterMap_map
  rw [hlines, hlines, hlines, String.toList_append, String.toList_append, List.append_assoc]
  exact filterMap_linesOf_append fileOfLine?_empty fileOfLine?_return a.toList b.toList

/-! ## Test results -/

theorem any_contains_append (marks : List String) (hne : "" ∉ marks)
    (hline : ∀ mark ∈ marks, '\n' ∉ mark.toList) (a b : String) :
    marks.any (contains (a ++ "\n" ++ b)) = (marks.any (contains a) || marks.any (contains b)) := by
  have hjoin : joinWith "\n" [a, b] = a ++ "\n" ++ b := by
    simp [joinWith]
  have hone (mark : String) (hmark : mark ∈ marks) :
      contains (a ++ "\n" ++ b) mark = true ↔ contains a mark = true ∨ contains b mark = true := by
    have hshape : mark ≠ "" := fun h => hne (h ▸ hmark)
    rw [← hjoin, contains_joinWith hshape (hline mark hmark)]
    simp
  rw [Bool.eq_iff_iff, Bool.or_eq_true]
  simp only [List.any_eq_true]
  constructor
  · rintro ⟨mark, hmark, hfound⟩
    exact ((hone mark hmark).mp hfound).imp (⟨mark, hmark, ·⟩) (⟨mark, hmark, ·⟩)
  · rintro (⟨mark, hmark, hfound⟩ | ⟨mark, hmark, hfound⟩)
    · exact ⟨mark, hmark, (hone mark hmark).mpr (.inl hfound)⟩
    · exact ⟨mark, hmark, (hone mark hmark).mpr (.inr hfound)⟩

theorem testResult?_eq_passed {s : String} :
    testResult? s = some .passed ↔ passedMarks.any (contains s) = true := by
  rw [testResult?]
  split
  · next hpassed => simp [hpassed]
  · next hpassed => split <;> simp [hpassed]

theorem testResult?_eq_failed {s : String} :
    testResult? s = some .failed ↔
      passedMarks.any (contains s) = false ∧ failedMarks.any (contains s) = true := by
  rw [testResult?]
  split
  · next hpassed => simp [hpassed]
  · next hpassed => split <;> simp_all

/-- The result of two texts: it is passed if it is on one of them, and else failed if it is on one. -/
theorem testResult?_append (a b : String) :
    testResult? (a ++ "\n" ++ b) =
      if testResult? a = some .passed ∨ testResult? b = some .passed then some .passed
      else if testResult? a = some .failed ∨ testResult? b = some .failed then some .failed
      else none := by
  have hpassed := any_contains_append passedMarks (by decide) (by decide) a b
  have hfailed := any_contains_append failedMarks (by decide) (by decide) a b
  simp only [testResult?_eq_passed, testResult?_eq_failed]
  simp only [testResult?, hpassed, hfailed, Bool.or_eq_true]
  by_cases ha : passedMarks.any (contains a) = true
  · rw [if_pos (.inl ha), if_pos (.inl ha)]
  by_cases hb : passedMarks.any (contains b) = true
  · rw [if_pos (.inr hb), if_pos (.inr hb)]
  · rw [if_neg (not_or.mpr ⟨ha, hb⟩), if_neg (not_or.mpr ⟨ha, hb⟩)]
    simp only [Bool.not_eq_true] at ha hb
    simp only [ha, hb, true_and]

/-- What a parser tells on two outputs with a line feed between them is what it tells on the one and
then on the other. A file is told of by a line that begins with a mark: its name is the rest of the
line without the blanks around it, where that is anything. -/
theorem told_append (a b : String) :
    files (a ++ "\n" ++ b) = files a ++ files b ∧
    testResult? (a ++ "\n" ++ b) =
      (if testResult? a = some .passed ∨ testResult? b = some .passed then some .passed
      else if testResult? a = some .failed ∨ testResult? b = some .failed then some .failed
      else none) ∧
    ∀ file, file ∈ files a ↔
      file ≠ "" ∧ (∀ c ∈ file.toList.head?, isBlank c = false) ∧
        (∀ c ∈ file.toList.getLast?, isBlank c = false) ∧
        ∃ line ∈ lines a, ∃ mark ∈ fileMarks, ∃ rest, line = mark ++ rest ∧ trim rest = file := by
  refine ⟨files_append a b, testResult?_append a b, fun file => ?_⟩
  rw [files, List.mem_filterMap]
  simp only [fileOfLine?_eq_some]
  constructor
  · rintro ⟨line, hline, hne, mark, hmark, rest, hrest, rfl⟩
    obtain ⟨hhead, hlast⟩ := trimChars_ends rest.toList
    rw [trim, String.toList_ofList]
    exact ⟨hne, hhead, hlast, line, hline, mark, hmark, rest, hrest, rfl⟩
  · rintro ⟨hne, -, -, line, hline, hfile⟩
    exact ⟨line, hline, hne, hfile⟩

/-- The first text ends in a carriage return, which then belongs to the line feed. -/
example : files ("Created file: a.py\r" ++ "\n" ++ "Created file:\r\nCreated file: b.py") =
    ["a.py", "b.py"] := by
  decide

end HookGate.RuleOutput
