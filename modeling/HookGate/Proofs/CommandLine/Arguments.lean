import Mathlib
import HookGate.CommandLine.Run
import HookGate.Proofs.Text.Words

/-!
# What a command line asks for

Arguments are read from left to right, and an option for a path takes the argument behind it. What
is read of the arguments that are left is said without the order in which it is read: a hook is
asked for by the first of them that is no option, unless one of them asks for help or the version.
-/

namespace HookGate

namespace Arguments

def helpWords : List String := ["-h", "--help"]

def versionWords : List String := ["-v", "--version"]

def dryRunWords : List String := ["-d", "--dry-run"]

def rawTextWords : List String := ["--text"]

def pathWords : List String := ["-c", "--config", "-r", "--rules"]

/-- The arguments that are not taken as the path of an option in front of them. -/
def unconsumed : List String → List String
  | [] => []
  | [arg] => [arg]
  | arg :: path :: rest =>
    if arg ∈ pathWords then arg :: unconsumed rest else arg :: unconsumed (path :: rest)

def HasAny (words args : List String) : Prop := ∃ arg ∈ args, arg ∈ words

instance (words args : List String) : Decidable (HasAny words args) := by
  unfold HasAny
  infer_instance

/-- The first argument that does not start with a hyphen. -/
def first? (args : List String) : Option String := args.find? fun arg => arg.toList.head? ≠ some '-'

/-- The hook that a command line asks for, wherever its rules are. -/
structure Asks (args : List String) (inv : Invocation) : Prop where
  help : ¬ HasAny helpWords (unconsumed args)
  version : ¬ HasAny versionWords (unconsumed args)
  mode : ∃ name, first? (unconsumed args) = some name ∧ Mode.ofName? name = some inv.mode
  dryRun : inv.dryRun = true ↔ HasAny dryRunWords (unconsumed args)
  rawText : inv.rawText = true ↔ HasAny rawTextWords (unconsumed args)

theorem hasAny_append (words args args' : List String) :
    HasAny words (args ++ args') ↔ HasAny words args ∨ HasAny words args' := by
  simp only [HasAny, List.mem_append, or_and_right, exists_or]

theorem hasAny_singleton (words : List String) (arg : String) :
    HasAny words [arg] ↔ arg ∈ words := by
  simp [HasAny]

theorem first?_append (args args' : List String) :
    first? (args ++ args') = (first? args).or (first? args') := List.find?_append

theorem startsWith_hyphen_iff (arg : String) :
    Text.startsWith arg "-" = true ↔ arg.toList.head? = some '-' := by
  rw [Text.startsWith_iff]
  constructor
  · rintro ⟨rest, hrest⟩
    rw [← hrest]
    rfl
  · intro h
    obtain ⟨rest, hrest⟩ := List.head?_eq_some_iff.mp h
    exact ⟨rest, hrest.symm⟩

theorem first?_singleton (arg : String) :
    first? [arg] = if Text.startsWith arg "-" then none else some arg := by
  cases h : Text.startsWith arg "-" with
  | true => simp [first?, (startsWith_hyphen_iff arg).mp h]
  | false =>
    have hhead : arg.toList.head? ≠ some '-' := by
      intro hhead
      rw [(startsWith_hyphen_iff arg).mpr hhead] at h
      contradiction
    simp [first?, hhead]

/-! ## Reading -/

/-- What reading some arguments changes: what was asked for before stays asked for, and a mode that
was named before stays. -/
structure Reads (a : Arguments) (args : List String) (b : Arguments) : Prop where
  version : b.version = true ↔ a.version = true ∨ HasAny versionWords args
  dryRun : b.dryRun = true ↔ a.dryRun = true ∨ HasAny dryRunWords args
  rawText : b.rawText = true ↔ a.rawText = true ∨ HasAny rawTextWords args
  unnamed : b.help = false ∧ b.mode = none ↔
    (a.help = false ∧ a.mode = none) ∧ ¬ HasAny helpWords args ∧ first? args = none
  named : ∀ mode, b.help = false ∧ b.mode = some mode ↔ ¬ HasAny helpWords args ∧
    (a.help = false ∧ a.mode = some mode ∨
      (a.help = false ∧ a.mode = none) ∧ (first? args).bind Mode.ofName? = some mode)

namespace Reads

variable {a b c : Arguments} {args args' : List String}

theorem refl (a : Arguments) : Reads a [] a := by
  constructor <;> simp [HasAny, first?]

theorem trans (h : Reads a args b) (h' : Reads b args' c) : Reads a (args ++ args') c where
  version := by rw [h'.version, h.version, hasAny_append, or_assoc]
  dryRun := by rw [h'.dryRun, h.dryRun, hasAny_append, or_assoc]
  rawText := by rw [h'.rawText, h.rawText, hasAny_append, or_assoc]
  unnamed := by
    rw [h'.unnamed, h.unnamed, hasAny_append, first?_append, Option.or_eq_none_iff]
    tauto
  named := by
    intro mode
    rw [h'.named, h.named, h.unnamed, hasAny_append, first?_append]
    cases first? args with
    | none => simp only [Option.none_or, Option.bind_none, reduceCtorEq]; tauto
    | some name => simp only [Option.some_or, Option.bind_some, reduceCtorEq]; tauto

/-- An argument that is no mode and does not ask for help leaves what was said of both. -/
theorem of_option {arg : String} (hhyphen : Text.startsWith arg "-" = true) (hhelp : arg ∉ helpWords)
    (hb : b.help = a.help ∧ b.mode = a.mode)
    (hversion : b.version = true ↔ a.version = true ∨ arg ∈ versionWords)
    (hdryRun : b.dryRun = true ↔ a.dryRun = true ∨ arg ∈ dryRunWords)
    (hrawText : b.rawText = true ↔ a.rawText = true ∨ arg ∈ rawTextWords) : Reads a [arg] b := by
  have hfirst : first? [arg] = none := by rw [first?_singleton, if_pos hhyphen]
  constructor <;> simp only [hasAny_singleton, hb.1, hb.2, hfirst, hhelp] <;> simp [*]

/-- The value of an option is kept, and nothing else changes. -/
theorem setValue {arg : String} (hhyphen : Text.startsWith arg "-" = true) (hhelp : arg ∉ helpWords)
    (hversion : arg ∉ versionWords) (hdryRun : arg ∉ dryRunWords) (hrawText : arg ∉ rawTextWords)
    (value : String) (option : Valued) : Reads a [arg] (a.setValue value option) := by
  apply of_option hhyphen hhelp
  · cases option <;> exact ⟨rfl, rfl⟩
  all_goals cases option <;> simp [Arguments.setValue, *]

theorem setMode {arg : String} (hhelp : arg ∉ helpWords) (hversion : arg ∉ versionWords)
    (hdryRun : arg ∉ dryRunWords) (hrawText : arg ∉ rawTextWords) :
    Reads a [arg] (a.setMode arg) := by
  unfold Arguments.setMode
  cases hhyphen : Text.startsWith arg "-" with
  | true =>
    rw [if_pos (.inl rfl)]
    exact of_option hhyphen hhelp ⟨rfl, rfl⟩ (by simp [hversion]) (by simp [hdryRun])
      (by simp [hrawText])
  | false =>
    have hfirst : first? [arg] = some arg := by rw [first?_singleton, hhyphen]; rfl
    cases hmode : a.mode with
    | some named => constructor <;> simp [hasAny_singleton, *]
    | none =>
      cases hname : Mode.ofName? arg <;> constructor <;> simp [hasAny_singleton, *]

end Reads

theorem ofJoined?_hyphen {arg value : String} {option : Valued}
    (h : Valued.ofJoined? arg = some (option, value)) : Text.startsWith arg "-" = true := by
  have hfront {start : String} (hstart : Text.startsWith arg start = true)
      (hhead : start.toList.head? = some '-') : Text.startsWith arg "-" = true := by
    rw [Text.startsWith_iff] at hstart
    obtain ⟨rest, hrest⟩ := hstart
    obtain ⟨front, hfront⟩ := List.head?_eq_some_iff.mp hhead
    rw [startsWith_hyphen_iff, ← hrest, hfront]
    rfl
  unfold Valued.ofJoined? at h
  split at h
  · next hconfig => exact hfront hconfig (by decide)
  · split at h
    · next hrules => exact hfront hrules (by decide)
    · contradiction

theorem reads_take (a : Arguments) (arg : String) : Reads a [arg] (a.take arg) := by
  have hhelp {arg : String} (h : arg ∈ helpWords) (hversion : arg ∉ versionWords)
      (hdryRun : arg ∉ dryRunWords) (hrawText : arg ∉ rawTextWords) :
      Reads a [arg] { a with help := true } := by
    constructor <;> simp [hasAny_singleton, *]
  have hyphen {arg : String} (h : arg.toList.head? = some '-') : Text.startsWith arg "-" = true :=
    (startsWith_hyphen_iff arg).mpr h
  unfold Arguments.take
  split
  · exact hhelp (by decide) (by decide) (by decide) (by decide)
  · exact hhelp (by decide) (by decide) (by decide) (by decide)
  any_goals
    exact .of_option (hyphen (by decide)) (by decide) ⟨rfl, rfl⟩ (by simp [versionWords])
      (by simp [dryRunWords]) (by simp [rawTextWords])
  next hh hhelp' hv hversion' hd hdryRun' htext =>
    have hhelp : arg ∉ helpWords := by simpa [helpWords] using ⟨hh, hhelp'⟩
    have hversion : arg ∉ versionWords := by simpa [versionWords] using ⟨hv, hversion'⟩
    have hdryRun : arg ∉ dryRunWords := by simpa [dryRunWords] using ⟨hd, hdryRun'⟩
    have hrawText : arg ∉ rawTextWords := by simpa [rawTextWords] using htext
    cases hjoined : Valued.ofJoined? arg with
    | none => exact .setMode hhelp hversion hdryRun hrawText
    | some joined =>
      exact .setValue (ofJoined?_hyphen hjoined) hhelp hversion hdryRun hrawText joined.2 joined.1

theorem isSome_ofName?_iff (arg : String) :
    (Valued.ofName? arg).isSome = true ↔ arg ∈ pathWords := by
  unfold Valued.ofName?
  split
  any_goals decide
  next hc hconfig hr hrules =>
    have hno : arg ∉ pathWords := by simpa [pathWords] using ⟨hc, hconfig, hr, hrules⟩
    simpa using hno

theorem reads_setValue (a : Arguments) {arg : String} (h : arg ∈ pathWords) (value : String)
    (option : Valued) : Reads a [arg] (a.setValue value option) := by
  have hplain : ∀ word ∈ pathWords, word.toList.head? = some '-' ∧ word ∉ helpWords ∧
      word ∉ versionWords ∧ word ∉ dryRunWords ∧ word ∉ rawTextWords := by
    decide
  obtain ⟨hhead, hhelp, hversion, hdryRun, hrawText⟩ := hplain arg h
  exact .setValue ((startsWith_hyphen_iff arg).mpr hhead) hhelp hversion hdryRun hrawText value option

/-- An option without a path behind it asks for nothing. -/
theorem reads_dangling (a : Arguments) {arg : String} (h : arg ∈ pathWords) : Reads a [arg] a := by
  have hread := reads_setValue a h "" .config
  exact ⟨hread.version, hread.dryRun, hread.rawText, hread.unnamed, hread.named⟩

/-- To read a command line is to read the arguments that are no paths. -/
theorem reads_takeAll (a : Arguments) (args : List String) :
    Reads a (unconsumed args) (a.takeAll args) := by
  induction args using unconsumed.induct generalizing a with
  | case1 => exact .refl a
  | case2 arg =>
    rw [unconsumed, takeAll]
    split
    · next hoption => exact reads_dangling a ((isSome_ofName?_iff arg).mp hoption)
    · exact reads_take a arg
  | case3 arg path rest hpath ih =>
    obtain ⟨option, hoption⟩ := Option.isSome_iff_exists.mp ((isSome_ofName?_iff arg).mpr hpath)
    rw [unconsumed, if_pos hpath, takeAll, hoption]
    exact (reads_setValue a hpath path option).trans (ih _)
  | case4 arg path rest hpath ih =>
    have hoption : Valued.ofName? arg = none := by
      rw [← Option.not_isSome_iff_eq_none, isSome_ofName?_iff]
      exact hpath
    rw [unconsumed, if_neg hpath, takeAll, hoption]
    exact (reads_take a arg).trans (ih _)

/-! ## Hooks -/

theorem invocation?_eq_some_iff (args : List String) (inv : Invocation) :
    (ofList args).invocation? = some inv ↔
      Asks args inv ∧ inv.rulesPath = (ofList args).rulesPath := by
  have hread : Reads {} (unconsumed args) (ofList args) := reads_takeAll {} args
  have hversion : (ofList args).version = true ↔ HasAny versionWords (unconsumed args) := by
    simp [hread.version]
  have hdryRun : (ofList args).dryRun = true ↔ HasAny dryRunWords (unconsumed args) := by
    simp [hread.dryRun]
  have hrawText : (ofList args).rawText = true ↔ HasAny rawTextWords (unconsumed args) := by
    simp [hread.rawText]
  have hmode (mode : Mode) : (ofList args).help = false ∧ (ofList args).mode = some mode ↔
      ¬ HasAny helpWords (unconsumed args) ∧
        ∃ name, first? (unconsumed args) = some name ∧ Mode.ofName? name = some mode := by
    simp [hread.named, Option.bind_eq_some_iff]
  constructor
  · intro h
    unfold invocation? at h
    split at h
    · contradiction
    · next hplain =>
      rw [not_or, Bool.not_eq_true, Bool.not_eq_true] at hplain
      obtain ⟨mode, hnamed, rfl⟩ := Option.map_eq_some_iff.mp h
      obtain ⟨hhelp, hname⟩ := (hmode mode).mp ⟨hplain.2, hnamed⟩
      refine ⟨⟨hhelp, ?_, hname, hdryRun, hrawText⟩, rfl⟩
      rw [← hversion, hplain.1]
      exact Bool.false_ne_true
  · rintro ⟨h, hrules⟩
    obtain ⟨hhelp, hnamed⟩ := (hmode inv.mode).mpr ⟨h.help, h.mode⟩
    have hplain : (ofList args).version = false := by
      rw [← Bool.not_eq_true, hversion]
      exact h.version
    have hdry : inv.dryRun = (ofList args).dryRun := by
      rw [Bool.eq_iff_iff, h.dryRun, hdryRun]
    have hraw : inv.rawText = (ofList args).rawText := by
      rw [Bool.eq_iff_iff, h.rawText, hrawText]
    simp [invocation?, hplain, hhelp, hnamed, ← hdry, ← hraw, ← hrules]

end Arguments

namespace CommandLine

open Arguments

variable {m : Type → Type} [Monad m]

/-- Either the command line asks for a hook, and the program runs it with the settings and the log
that belong to it, or it asks for none, and all that the program does is to say what it is or how it
is used. -/
theorem run_asks (host : Host m) (vs : Variables) (cwd : String) (args : List String)
    (stdin : String) :
    (∃ inv, Asks args inv ∧ inv.rulesPath = (ofList args).rulesPath ∧
      run host vs cwd args stdin = do
        let home := vs.nonempty? "HOME"
        let (settings, warnings) ← Settings.load host home (ofList args).configPath
        let log ← AuditLog.open? host (settings.auditPath? home)
        let (output, logged) ← inv.run host settings (.capture settings vs cwd) log stdin
        return processOutput warnings output logged) ∨
    ((∀ inv, ¬ Asks args inv) ∧
      run host vs cwd args stdin = pure
        { stdout := if HasAny versionWords (unconsumed args) then versionText else helpText
          stderr := ""
          exitCode := 0 }) := by
  cases hasked : (ofList args).invocation? with
  | some inv =>
    left
    obtain ⟨hasks, hrules⟩ := (invocation?_eq_some_iff args inv).mp hasked
    refine ⟨inv, hasks, hrules, ?_⟩
    simp only [run, hasked]
    rfl
  | none =>
    right
    have hversion : (ofList args).version = true ↔ HasAny versionWords (unconsumed args) := by
      simp [ofList, (reads_takeAll {} args).version]
    constructor
    · intro inv hasks
      have hsome := (invocation?_eq_some_iff args
        { inv with rulesPath := (ofList args).rulesPath }).mpr
          ⟨⟨hasks.help, hasks.version, hasks.mode, hasks.dryRun, hasks.rawText⟩, rfl⟩
      rw [hasked] at hsome
      contradiction
    · simp only [run, hasked, hversion]

end CommandLine

end HookGate
