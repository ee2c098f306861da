import HookGate.Proofs.Text.Replacement
import HookGate.Settings.Environment

/-!
# Where configured paths lead

A relative path that is joined to a directory stays below it, and an absolute one takes its place. The
project directory is put in for both spellings of its variable at once, and nothing that was put in is
looked at again. Behind that a path in the home directory leads there, unless what follows is absolute
by itself.
-/

namespace HookGate

namespace Path

theorem isAbsolute_iff {p : String} : isAbsolute p = true ↔ ∃ cs, p.toList = '/' :: cs := by
  rw [isAbsolute, decide_eq_true_eq, List.head?_eq_some_iff]

theorem join_of_absolute (base : String) {p : String} (h : isAbsolute p = true) : join base p = p := by
  rw [join, if_pos h]

theorem isAbsolute_append {base : String} (h : isAbsolute base = true) (p : String) :
    isAbsolute (base ++ p) = true := by
  obtain ⟨cs, hcs⟩ := isAbsolute_iff.mp h
  rw [isAbsolute_iff, String.toList_append, hcs]
  exact ⟨cs ++ p.toList, rfl⟩

theorem isAbsolute_join {base : String} (h : isAbsolute base = true) (p : String) :
    isAbsolute (join base p) = true := by
  rw [join]
  split
  · assumption
  · split
    · exact isAbsolute_append h p
    · exact isAbsolute_append h p
    · exact isAbsolute_append (isAbsolute_append h "/") p

/-! ## Components -/

/-- A slash ends the components in front of it and begins those behind it. -/
theorem components_append (front behind : String) :
    components (front ++ "/" ++ behind) = components front ++ components behind := by
  have htext : (front ++ "/" ++ behind).toList = front.toList ++ '/' :: behind.toList := by simp
  rw [components, htext, Text.pieces_append, List.filter_append]
  rfl

theorem components_join {p : String} (h : isAbsolute p = false) (base : String) :
    components (join base p) = components base ++ components p := by
  rw [join, if_neg (Bool.eq_false_iff.mp h)]
  split
  · next hempty =>
    obtain rfl : base = "" := String.toList_eq_nil_iff.mp (List.getLast?_eq_none_iff.mp hempty)
    rw [String.empty_append]
    rfl
  · next hslash =>
    -- The base ends in a slash, so that nothing is behind the last one.
    obtain ⟨front, rfl⟩ : ∃ front, base = front ++ "/" := by
      refine ⟨String.ofList base.toList.dropLast, ?_⟩
      rw [← String.toList_inj, String.toList_append, String.toList_ofList]
      exact (List.dropLast_append_getLast? _ hslash).symm
    have hfront : components (front ++ "/") = components front := by
      have hnone := components_append front ""
      rw [String.append_empty] at hnone
      exact hnone.trans (List.append_nil _)
    rw [components_append, hfront]
  · exact components_append base p

/-- A path leads to a directory or to a place below, where both are absolute paths: the components of
the directory are the first ones of the path. -/
def Below (directory p : String) : Prop :=
  isAbsolute p = true ∧ components directory <+: components p

instance (directory p : String) : Decidable (Below directory p) :=
  inferInstanceAs (Decidable (_ ∧ _))

/-- What is joined to a directory stays below it, unless it is absolute and leads elsewhere. -/
theorem below_join_iff {directory : String} (h : isAbsolute directory = true) (p : String) :
    Below directory (join directory p) ↔ (isAbsolute p = true → Below directory p) := by
  cases hp : isAbsolute p with
  | true => simp [join_of_absolute directory hp]
  | false =>
    have hjoin := components_join hp directory
    refine iff_of_true ⟨isAbsolute_join h p, ?_⟩ (fun hfalse => absurd hfalse Bool.false_ne_true)
    rw [hjoin]
    exact List.prefix_append _ _

theorem expandHome_tilde (home rest : String) : expandHome (some home) ("~/" ++ rest) = join home rest := by
  simp only [expandHome, Text.afterStart?_append]

end Path

namespace Environment

/-! ## The project directory -/

/-- The spellings of the variable of the project directory. -/
def projectVariables : List (List Char) :=
  ["$\x7bCLAUDE_PROJECT_DIR\x7d".toList, "$CLAUDE_PROJECT_DIR".toList]

variable {e : Environment}

theorem replaced_substitute (hproject : Path.isAbsolute e.projectDir = true)
    (hdollar : '$' ∉ e.projectDir.toList) (p : String) :
    Text.Replaced projectVariables e.projectDir.toList p.toList (e.substitute p).toList := by
  obtain ⟨new, hnew⟩ := Path.isAbsolute_iff.mp hproject
  rw [substitute, String.toList_ofList]
  rw [hnew] at hdollar ⊢
  exact Text.replaced_replaceAll_replaceAll (by decide) hdollar (by decide) p.toList

/-- A path is put in its place in three steps: the project directory replaces its variable, once wherever
that stands in the path and nowhere else; then `~/` is replaced; and what is still relative is joined to
the working directory. The result is absolute. -/
theorem resolve_substituted (e : Environment) (hcwd : Path.isAbsolute e.cwd = true)
    (hproject : Path.isAbsolute e.projectDir = true) (hdollar : '$' ∉ e.projectDir.toList)
    (p : String) :
    (∀ out, Text.Replaced projectVariables e.projectDir.toList p.toList out ↔
      out = (e.substitute p).toList) ∧
    (let expanded := Path.expandHome e.home (e.substitute p)
     e.resolve p = if Path.isAbsolute expanded then expanded else Path.join e.cwd expanded) ∧
    Path.isAbsolute (e.resolve p) = true := by
  have hreplaced := replaced_substitute hproject hdollar p
  refine ⟨fun out => ⟨fun hout => ?_, fun hout => hout ▸ hreplaced⟩, ?_, Path.isAbsolute_join hcwd _⟩
  · exact hout.unique (by decide) (by decide) hreplaced
  · intro expanded
    rw [resolve]
    by_cases habsolute : Path.isAbsolute expanded = true
    · rw [if_pos habsolute]
      exact Path.join_of_absolute e.cwd habsolute
    · rw [if_neg habsolute]

/-- The variable stands behind a dollar sign, and the name of the project looks like the rest of it. -/
theorem resolve_substituted_beside_dollar :
    let e : Environment := { cwd := "/work", projectDir := "/CLAUDE_PROJECT_DIR\x7d" }
    let p := "$$\x7bCLAUDE_PROJECT_DIR\x7d/$CLAUDE_PROJECT_DIR$"
    let q := "$/CLAUDE_PROJECT_DIR\x7d//CLAUDE_PROJECT_DIR\x7d$"
    Path.isAbsolute e.cwd = true ∧ Path.isAbsolute e.projectDir = true ∧ '$' ∉ e.projectDir.toList ∧
      (∀ out, Text.Replaced projectVariables e.projectDir.toList p.toList out ↔ out = q.toList) ∧
      e.resolve p = "/work/" ++ q := by
  intro e p q
  have hcwd : Path.isAbsolute e.cwd = true := by decide
  have hproject : Path.isAbsolute e.projectDir = true := by decide
  have hdollar : '$' ∉ e.projectDir.toList := by decide
  have hq : e.substitute p = q := by decide
  obtain ⟨hreplaced, hresolve, -⟩ := resolve_substituted e hcwd hproject hdollar p
  rw [hq] at hreplaced hresolve
  exact ⟨hcwd, hproject, hdollar, hreplaced, Eq.trans hresolve (by decide)⟩

/-! ## The home directory -/

theorem substitute_tilde (e : Environment) (rest : String) :
    e.substitute ("~/" ++ rest) = "~/" ++ e.substitute rest := by
  have hkept (name cs : List Char) (hname : name ∈ projectVariables) :
      Text.replaceAll name e.projectDir.toList ("~/".toList ++ cs) =
        "~/".toList ++ Text.replaceAll name e.projectDir.toList cs := by
    rcases List.mem_pair.mp hname with rfl | rfl
    · exact Text.replaceAll_append (by decide) cs
    · exact Text.replaceAll_append (by decide) cs
  rw [substitute, String.toList_append, hkept _ _ (by decide), hkept _ _ (by decide), String.ofList_append]
  rfl

theorem resolve_tilde {home : String} (hhome : Path.isAbsolute home = true) (he : e.home = some home)
    (rest : String) : e.resolve ("~/" ++ rest) = Path.join home (e.substitute rest) := by
  rw [resolve, substitute_tilde, he, Path.expandHome_tilde]
  exact Path.join_of_absolute e.cwd (Path.isAbsolute_join hhome _)

theorem isAbsolute_substitute_iff (hproject : Path.isAbsolute e.projectDir = true)
    (hdollar : '$' ∉ e.projectDir.toList) (p : String) :
    Path.isAbsolute (e.substitute p) = true ↔
      Path.isAbsolute p = true ∨ ∃ name ∈ projectVariables, name <+: p.toList := by
  have hreplaced := replaced_substitute hproject hdollar p
  obtain ⟨new, hnew⟩ := Path.isAbsolute_iff.mp hproject
  rw [hnew] at hreplaced
  rw [Path.isAbsolute, Path.isAbsolute, decide_eq_true_eq, decide_eq_true_eq]
  exact hreplaced.head?_eq_iff (by decide)

/-- A path in the home directory leads below it exactly if what follows `~/` is relative, or leads there
by itself. What follows is looked at after the project directory was put in, so that it is absolute too
if it begins with the variable of that. -/
theorem below_home_iff {home : String} (hhome : Path.isAbsolute home = true) (rest : String) :
    (Path.Below home (Path.expandHome (some home) ("~/" ++ rest)) ↔
      (Path.isAbsolute rest = true → Path.Below home rest)) ∧
    (∀ s : Settings, s.general.auditLog = true → s.general.auditPath = some ("~/" ++ rest) →
      ∃ p, s.auditPath? (some home) = some p ∧
        (Path.Below home p ↔ (Path.isAbsolute rest = true → Path.Below home rest))) ∧
    ∀ e : Environment, e.home = some home →
      (Path.Below home (e.resolve ("~/" ++ rest)) ↔
        (Path.isAbsolute (e.substitute rest) = true → Path.Below home (e.substitute rest))) ∧
      (Path.isAbsolute e.projectDir = true → '$' ∉ e.projectDir.toList →
        (Path.isAbsolute (e.substitute rest) = true ↔
          Path.isAbsolute rest = true ∨ ∃ name ∈ projectVariables, name <+: rest.toList)) := by
  have hexpand : Path.Below home (Path.expandHome (some home) ("~/" ++ rest)) ↔
      (Path.isAbsolute rest = true → Path.Below home rest) := by
    rw [Path.expandHome_tilde]
    exact Path.below_join_iff hhome rest
  refine ⟨hexpand, ?_, ?_⟩
  · intro s hlog hpath
    refine ⟨_, ?_, hexpand⟩
    rw [Settings.auditPath?, if_pos hlog, hpath, Option.map_some]
  · intro e he
    rw [resolve_tilde hhome he]
    exact ⟨Path.below_join_iff hhome _, fun hproject hdollar => isAbsolute_substitute_iff hproject hdollar rest⟩

theorem below_home_iff_dotted :
    let home := "/home/u/"
    let rest := "./.claude//$CLAUDE_PROJECT_DIR"
    let e : Environment := { cwd := "/work", projectDir := "/proj", home := some home }
    Path.isAbsolute home = true ∧ Path.isAbsolute rest = false ∧
      Path.Below home (Path.expandHome (some home) ("~/" ++ rest)) ∧
      e.resolve ("~/" ++ rest) = "/home/u/./.claude///proj" ∧ Path.Below home (e.resolve ("~/" ++ rest)) := by
  intro home rest e
  have hhome : Path.isAbsolute home = true := by decide
  have hrest : Path.isAbsolute rest = false := by decide
  have hsubstituted : Path.isAbsolute (e.substitute rest) = false := by decide
  obtain ⟨hexpand, -, henvironment⟩ := below_home_iff hhome rest
  obtain ⟨hresolve, -⟩ := henvironment e rfl
  refine ⟨hhome, hrest, hexpand.mpr ?_, by decide, hresolve.mpr ?_⟩
  · simp [hrest]
  · simp [hsubstituted]

/-- A second slash behind `~/` leads out of the home directory, and so does the project variable. -/
theorem home_left :
    let home := "/home/u"
    let e : Environment := { cwd := "/work", projectDir := "/proj", home := some home }
    Path.isAbsolute home = true ∧
      ¬ Path.Below home (Path.expandHome (some home) "~//etc/passwd") ∧
      ¬ Path.Below home (e.resolve "~//etc/passwd") ∧
      ¬ Path.Below home (e.resolve "~/$CLAUDE_PROJECT_DIR/x") := by
  decide

end Environment

end HookGate
