import Mathlib
import HookGate.Proofs.CommandLine.Arguments

/-!
# Two ways to give an option its value

A value may stand behind its option as an argument of its own, or be joined to it by an equals sign.
Both ways say the same of all values that do not begin like a joined option themselves: in front of
these the reader takes off every repetition of the beginning, and not only the first one.
-/

namespace HookGate

namespace Text

variable {start cs : List Char}

theorem dropStarts_append (hne : start ≠ []) (cs : List Char) :
    dropStarts start (start ++ cs) = dropStarts start cs := by
  obtain ⟨x, xs, rfl⟩ := List.exists_cons_of_ne_nil hne
  rw [List.cons_append, dropStarts, ← List.cons_append, if_pos]
  · simp
  · exact List.isPrefixOf_iff_prefix.mpr (List.prefix_append _ _)

theorem dropStarts_of_not_start (h : ¬ start <+: cs) : dropStarts start cs = cs := by
  match start, cs with
  | [], _ => simp at h
  | _ :: _, [] => rw [dropStarts]
  | x :: xs, c :: r => rw [dropStarts, if_neg (mt List.isPrefixOf_iff_prefix.mp h)]

/-- What is left does not begin so again, and what was taken off is the beginning, some times over. -/
theorem exists_dropStarts (hne : start ≠ []) (cs : List Char) :
    ∃ n, cs = (List.replicate n start).flatten ++ dropStarts start cs ∧
      ¬ start <+: dropStarts start cs := by
  induction hlen : cs.length using Nat.strong_induction_on generalizing cs with
  | _ length ih =>
    by_cases hstart : start <+: cs
    · obtain ⟨rest, rfl⟩ := hstart
      have hpos := List.length_pos_iff.mpr hne
      have hshort : rest.length < length := by
        rw [List.length_append] at hlen
        omega
      obtain ⟨n, hrest, hnot⟩ := ih rest.length hshort rest rfl
      rw [dropStarts_append hne]
      refine ⟨n + 1, ?_, hnot⟩
      rw [List.replicate_succ, List.flatten_cons, List.append_assoc, ← hrest]
    · rw [dropStarts_of_not_start hstart]
      exact ⟨0, rfl, hstart⟩

end Text

namespace Arguments

namespace Valued

/-- The option as an argument in front of its value. -/
def word : Valued → String
  | config => "--config"
  | rules => "--rules"

/-- The option as the beginning of an argument that goes on with its value. -/
def front (option : Valued) : String := option.word ++ "="

theorem ofName?_word (option : Valued) : ofName? option.word = some option := by
  cases option <;> rfl

theorem front_ne_nil (option : Valued) : option.front.toList ≠ [] := by
  cases option <;> decide

theorem startsWith_front (option : Valued) (value : String) :
    Text.startsWith (option.front ++ value) option.front = true := by
  rw [Text.startsWith_iff, String.toList_append]
  exact List.prefix_append _ _

theorem ofJoined?_front (option : Valued) (value : String) :
    ofJoined? (option.front ++ value) =
      some (option, String.ofList (Text.dropStarts option.front.toList value.toList)) := by
  have hstarts := startsWith_front option value
  have hdrop := Text.dropStarts_append option.front_ne_nil value.toList
  rw [← String.toList_append] at hdrop
  cases option with
  | config =>
    have hconfig : Text.startsWith (front config ++ value) "--config=" = true := hstarts
    rw [ofJoined?, if_pos hconfig, ← hdrop]
    rfl
  | rules =>
    have hconfig : Text.startsWith (front rules ++ value) "--config=" = false := by
      simp [front, word, Text.startsWith, List.isPrefixOf]
    have hrules : Text.startsWith (front rules ++ value) "--rules=" = true := hstarts
    rw [ofJoined?, hconfig, if_neg Bool.false_ne_true, if_pos hrules, ← hdrop]
    rfl

end Valued

/-! ## One argument after the other -/

/-- No option at the end still waits for its value. -/
def Settled : List String → Prop
  | [] => True
  | [arg] => arg ∉ pathWords
  | arg :: value :: rest => if arg ∈ pathWords then Settled rest else Settled (value :: rest)

variable {a b : Arguments} {option : Valued}

theorem takeAll_pair (a : Arguments) (option : Valued) (value : String) (rest : List String) :
    a.takeAll (option.word :: value :: rest) = (a.setValue value option).takeAll rest := by
  rw [takeAll, option.ofName?_word]

theorem ofName?_of_not_mem {arg : String} (h : arg ∉ pathWords) : Valued.ofName? arg = none := by
  rw [← Option.not_isSome_iff_eq_none, isSome_ofName?_iff]
  exact h

theorem takeAll_cons (a : Arguments) {arg : String} (h : arg ∉ pathWords) (rest : List String) :
    a.takeAll (arg :: rest) = (a.take arg).takeAll rest := by
  cases rest with
  | nil => simp [takeAll, ofName?_of_not_mem h]
  | cons value rest => rw [takeAll, ofName?_of_not_mem h]

theorem takeAll_append (a : Arguments) {before : List String} (h : Settled before)
    (after : List String) : a.takeAll (before ++ after) = (a.takeAll before).takeAll after := by
  induction before using Settled.induct generalizing a with
  | case1 => rfl
  | case2 arg =>
    rw [List.singleton_append, takeAll_cons a h, takeAll_cons a h, takeAll]
  | case3 arg value rest hpath ih =>
    rw [Settled, if_pos hpath] at h
    obtain ⟨option, hoption⟩ := Option.isSome_iff_exists.mp ((isSome_ofName?_iff arg).mpr hpath)
    rw [List.cons_append, List.cons_append, takeAll, takeAll, hoption]
    exact ih (a.setValue value option) h
  | case4 arg value rest hpath ih =>
    rw [Settled, if_neg hpath] at h
    rw [List.cons_append, takeAll_cons a hpath, takeAll_cons a hpath]
    exact ih (a.take arg) h

/-! ## The value of one option, and all else -/

/-- The value that an option has been given. -/
def path? (a : Arguments) : Valued → Option String
  | .config => a.configPath
  | .rules => a.rulesPath

/-- All but the value of an option. -/
def without (option : Valued) (a : Arguments) : Arguments :=
  match option with
  | .config => { a with configPath := none }
  | .rules => { a with rulesPath := none }

theorem eq_iff_without_path (option : Valued) :
    a = b ↔ a.without option = b.without option ∧ a.path? option = b.path? option := by
  constructor
  · rintro rfl
    exact ⟨rfl, rfl⟩
  · rintro ⟨hwithout, hpath⟩
    cases a
    cases b
    cases option <;> simp_all [without, path?]

theorem without_setValue (a : Arguments) (value : String) (option : Valued) :
    (a.setValue value option).without option = a.without option := by
  cases option <;> rfl

theorem path?_setValue (a : Arguments) (value : String) (option other : Valued) :
    (a.setValue value other).path? option =
      ((({} : Arguments).setValue value other).path? option).or (a.path? option) := by
  cases option <;> cases other <;> rfl

theorem path?_setMode (a : Arguments) (name : String) (option : Valued) :
    (a.setMode name).path? option = a.path? option := by
  unfold setMode
  split
  · rfl
  · cases Mode.ofName? name <;> cases option <;> rfl

/-- What an argument gives to an option does not depend on what was there before. -/
theorem path?_take (a : Arguments) (arg : String) (option : Valued) :
    (a.take arg).path? option = ((({} : Arguments).take arg).path? option).or (a.path? option) := by
  have hnone : ({} : Arguments).path? option = none := by cases option <;> rfl
  unfold take
  split
  any_goals cases option <;> rfl
  cases Valued.ofJoined? arg with
  | none =>
    dsimp only
    rw [path?_setMode, path?_setMode, hnone, Option.none_or]
  | some joined => exact path?_setValue a joined.2 option joined.1

theorem path?_takeAll (a : Arguments) (args : List String) (option : Valued) :
    (a.takeAll args).path? option = ((ofList args).path? option).or (a.path? option) := by
  have hnone : ({} : Arguments).path? option = none := by cases option <;> rfl
  unfold ofList
  induction args using Settled.induct generalizing a with
  | case1 => rw [takeAll, takeAll, hnone, Option.none_or]
  | case2 arg =>
    rw [takeAll, takeAll]
    split
    · rw [hnone, Option.none_or]
    · exact path?_take a arg option
  | case3 arg value rest hpath ih =>
    obtain ⟨other, hother⟩ := Option.isSome_iff_exists.mp ((isSome_ofName?_iff arg).mpr hpath)
    rw [takeAll, takeAll, hother]
    dsimp only
    rw [ih, ih (setValue {} value other), path?_setValue a, Option.or_assoc]
  | case4 arg value rest hpath ih =>
    rw [takeAll_cons a hpath, takeAll_cons _ hpath, ih, ih (take {} arg), path?_take a, Option.or_assoc]

theorem without_setMode (a : Arguments) (name : String) (option : Valued) :
    (a.setMode name).without option = ((a.without option).setMode name).without option := by
  have hmode : (a.without option).mode = a.mode := by cases option <;> rfl
  unfold setMode
  rw [hmode]
  split
  · cases option <;> rfl
  · cases Mode.ofName? name <;> cases option <;> rfl

theorem without_take (a : Arguments) (arg : String) (option : Valued) :
    (a.take arg).without option = ((a.without option).take arg).without option := by
  unfold take
  split
  any_goals cases option <;> rfl
  cases Valued.ofJoined? arg with
  | some joined =>
    obtain ⟨other, value⟩ := joined
    cases option <;> cases other <;> rfl
  | none => exact without_setMode a arg option

/-- Nor does anything else depend on it. -/
theorem without_takeAll (a : Arguments) (args : List String) (option : Valued) :
    (a.takeAll args).without option = ((a.without option).takeAll args).without option := by
  induction args using Settled.induct generalizing a with
  | case1 => cases option <;> rfl
  | case2 arg =>
    rw [takeAll, takeAll]
    split
    · cases option <;> rfl
    · exact without_take a arg option
  | case3 arg value rest hpath ih =>
    obtain ⟨other, hother⟩ := Option.isSome_iff_exists.mp ((isSome_ofName?_iff arg).mpr hpath)
    have hvalue : (a.setValue value other).without option =
        ((a.without option).setValue value other).without option := by
      cases option <;> cases other <;> rfl
    rw [takeAll, takeAll, hother]
    dsimp only
    rw [ih, hvalue, ← ih]
  | case4 arg value rest hpath ih =>
    rw [takeAll_cons a hpath, takeAll_cons _ hpath, ih, without_take, ← ih]

/-! ## Both spellings -/

/-- The value of a joined option as it is read. -/
def bare (option : Valued) (value : String) : String :=
  String.ofList (Text.dropStarts option.front.toList value.toList)

/-- A joined option is none of the words that stand for themselves or wait for a value. -/
theorem front_ne_word (option : Valued) (value : String) :
    ∀ word ∈ pathWords ++ helpWords ++ versionWords ++ dryRunWords ++ rawTextWords,
      option.front ++ value ≠ word := by
  have hfront : ∀ word ∈ pathWords ++ helpWords ++ versionWords ++ dryRunWords ++ rawTextWords,
      ¬ option.front.toList <+: word.toList := by
    cases option <;> decide
  rintro word hword rfl
  refine hfront _ hword ?_
  rw [String.toList_append]
  exact List.prefix_append _ _

theorem take_front (a : Arguments) (option : Valued) (value : String) :
    a.take (option.front ++ value) = a.setValue (bare option value) option := by
  have hwords := front_ne_word option value
  generalize harg : option.front ++ value = arg at hwords
  unfold take
  split
  iterate 7 exact absurd rfl (hwords _ (by decide))
  rw [← harg, option.ofJoined?_front]
  rfl

theorem takeAll_joined (a : Arguments) (option : Valued) (value : String) (rest : List String) :
    a.takeAll ((option.front ++ value) :: rest) =
      a.takeAll (option.word :: bare option value :: rest) := by
  have hpath : option.front ++ value ∉ pathWords := fun hmem =>
    front_ne_word option value _ (by simp [hmem]) rfl
  rw [takeAll_cons a hpath, take_front, takeAll_pair]

theorem bare_eq_self_iff (option : Valued) (value : String) :
    bare option value = value ↔ Text.startsWith value option.front = false := by
  rw [← Bool.not_eq_true, Text.startsWith_iff]
  obtain ⟨n, -, hnot⟩ := Text.exists_dropStarts option.front_ne_nil value.toList
  constructor
  · intro hsame
    rwa [← hsame, bare, String.toList_ofList]
  · intro hstart
    rw [bare, Text.dropStarts_of_not_start hstart, String.ofList_toList]

/-- The joined spelling of a value is read as the value without the beginnings of the option that
stand in front of it. So it says the same as the value behind the option if there is none, or else if
the option is given a value again: what is given last counts. -/
theorem ofList_joined (option : Valued) (value : String) {before : List String} (h : Settled before)
    (after : List String) :
    (ofList (before ++ (option.front ++ value) :: after) =
        ofList (before ++ option.word :: value :: after) ↔
      Text.startsWith value option.front = false ∨ ((ofList after).path? option).isSome) ∧
    ∃ n value', value.toList = (List.replicate n option.front.toList).flatten ++ value'.toList ∧
      Text.startsWith value' option.front = false ∧
      ofList (before ++ (option.front ++ value) :: after) =
        ofList (before ++ option.word :: value' :: after) := by
  have hread (v : String) : ofList (before ++ option.word :: v :: after) =
      ((ofList before).setValue v option).takeAll after := by
    rw [ofList, takeAll_append _ h, takeAll_pair]
    rfl
  have hjoined : ofList (before ++ (option.front ++ value) :: after) =
      ofList (before ++ option.word :: bare option value :: after) := by
    rw [ofList, ofList, takeAll_append _ h, takeAll_append _ h, takeAll_joined]
  constructor
  · -- All but the value is the same, and of the value counts what is given last.
    have hpath (v : String) : ((ofList before).setValue v option).path? option = some v := by
      cases option <;> rfl
    have hwithout (v : String) : (((ofList before).setValue v option).takeAll after).without option =
        (((ofList before).without option).takeAll after).without option := by
      rw [without_takeAll, without_setValue]
    rw [hjoined, hread, hread, eq_iff_without_path option, hwithout, hwithout, path?_takeAll,
      path?_takeAll, hpath, hpath]
    cases hafter : (ofList after).path? option with
    | none => simpa using bare_eq_self_iff option value
    | some v => simp
  · obtain ⟨n, hvalue, hnot⟩ := Text.exists_dropStarts option.front_ne_nil value.toList
    refine ⟨n, bare option value, ?_, ?_, hjoined⟩
    · rw [bare, String.toList_ofList]
      exact hvalue
    · rw [← Bool.not_eq_true, Text.startsWith_iff, bare, String.toList_ofList]
      exact hnot

theorem ofList_joined_twice :
    Settled ["--config", "--rules", "activate"] ∧
      (ofList ["--config", "--rules", "activate", "--rules=--rules=rules.json", "-d"] =
          ofList ["--config", "--rules", "activate", "--rules", "--rules=rules.json", "-d"] ↔
        Text.startsWith "--rules=rules.json" "--rules=" = false ∨
          ((ofList ["-d"]).path? .rules).isSome) := by
  have hbefore : Settled ["--config", "--rules", "activate"] := by
    change "activate" ∉ pathWords
    decide
  exact ⟨hbefore, (ofList_joined .rules "--rules=rules.json" hbefore ["-d"]).1⟩

/-- A value that begins like its option is cut short by the joined spelling. -/
theorem joined_value_lost :
    (ofList ["activate", "--rules", "--rules=rules.json"]).rulesPath = some "--rules=rules.json" ∧
      (ofList ["activate", "--rules=--rules=rules.json"]).rulesPath = some "rules.json" := by
  have hbare : bare .rules "--rules=rules.json" = "rules.json" := by
    have hnot : ¬ Valued.rules.front.toList <+: "rules.json".toList := by decide
    have hdrop := Text.dropStarts_append Valued.rules.front_ne_nil "rules.json".toList
    rw [Text.dropStarts_of_not_start hnot] at hdrop
    exact congrArg String.ofList hdrop
  have hmode : "activate" ∉ pathWords := by decide
  refine ⟨rfl, ?_⟩
  change (takeAll {} ["activate", Valued.rules.front ++ "--rules=rules.json"]).rulesPath = _
  rw [takeAll_cons _ hmode, takeAll_joined, hbare]
  rfl

end Arguments

end HookGate
