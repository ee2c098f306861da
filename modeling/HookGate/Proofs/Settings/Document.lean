import Mathlib
import HookGate.Settings.Document

/-!
# Settings come one by one

The fields of a section are read one after the other, each from its own value. So a field of the
settings is what the document says of it or, where the document says nothing, its own default: no
other field has a part in it, and neither has a section that is there, empty or missing.
-/

namespace HookGate

open Toml (Value Error)

namespace Field

variable {σ α β : Type}

/-! ## Fields and sections -/

/-- A field is as its value says or, where no value is given, its default. -/
def Holds (Says : Value → β → Prop) (default : β) : Option Value → β → Prop
  | some v, b => Says v b
  | none, b => b = default

/-- What can be read as a section. -/
def IsSection : Value → Prop
  | .table _ | .array _ | .time => True
  | _ => False

/-- The value that a section gives for one of its keys, by name in a table and by position in a list.
A section that is not there gives none. -/
def valueOf? (keys : List String) : Option Value → String → Option Value
  | some (.table ms), key => ms.lookup key
  | some (.array vs), key => (keys.zip vs).lookup key
  | _, _ => none

/-- A section that is read over a record makes it this one. -/
def Makes (fields : List (Field σ)) (s : σ) (v : Value) (out : σ) : Prop :=
  decodeRecord fields s v = .ok out

theorem decodeRecord_eq_ok (fields : List (Field σ)) (s : σ) (v : Value) (out : σ) :
    decodeRecord fields s v = .ok out ↔ Makes fields s v out := Iff.rfl

/-- Reads a field from its value, if there is one. -/
def take (f : Field σ) (v : Option Value) (s : σ) : Except Error σ :=
  match v with
  | some v => f.read s v
  | none => return s

def takeAll (look : String → Option Value) (fields : List (Field σ)) (s : σ) : Except Error σ :=
  fields.foldlM (fun s f => f.take (look f.key) s) s

section

variable {f : Field σ} {fields : List (Field σ)} {look : String → Option Value} {s out : σ}

theorem takeAll_nil : takeAll look [] s = .ok out ↔ out = s := by
  rw [takeAll, List.foldlM_nil, eq_comm]
  exact Except.ok.injEq out s ▸ Iff.rfl

theorem takeAll_cons :
    takeAll look (f :: fields) s = .ok out ↔
      ∃ s', f.take (look f.key) s = .ok s' ∧ takeAll look fields s' = .ok out := by
  rw [takeAll, List.foldlM_cons]
  cases f.take (look f.key) s <;> simp [takeAll, bind, Except.bind]

theorem takeAll_of_none (hnone : ∀ f ∈ fields, look f.key = none) : takeAll look fields s = .ok s := by
  induction fields with
  | nil => rfl
  | cons f fields ih =>
    obtain ⟨hf, hfields⟩ := List.forall_mem_cons.mp hnone
    have hfirst : f.take (look f.key) s = .ok s := by
      rw [hf]
      rfl
    exact takeAll_cons.mpr ⟨s, hfirst, ih hfields⟩

/-- Values in the order of their keys are as good as values under these keys. -/
theorem takeAll_zip {vs : List Value} (hdistinct : (fields.map key).Nodup)
    (hlook : ∀ f ∈ fields, look f.key = ((fields.map key).zip vs).lookup f.key) :
    (fields.zip vs).foldlM (fun s fv => fv.1.read s fv.2) s = takeAll look fields s := by
  induction fields generalizing vs s with
  | nil => rfl
  | cons f fields ih =>
    cases vs with
    | nil => exact (takeAll_of_none hlook).symm
    | cons v vs =>
      obtain ⟨hf, hfields⟩ := List.forall_mem_cons.mp hlook
      obtain ⟨hnew, hdistinct⟩ := List.nodup_cons.mp hdistinct
      have hfirst : look f.key = some v := by simpa using hf
      rw [List.zip_cons_cons, List.foldlM_cons, takeAll, List.foldlM_cons, hfirst]
      refine bind_congr fun s' => ih hdistinct fun g hg => ?_
      have hdiffers : (g.key == f.key) = false := by
        rw [beq_eq_false_iff_ne]
        intro hsame
        exact hnew (hsame ▸ List.mem_map_of_mem hg)
      rw [hfields g hg, List.map_cons, List.zip_cons_cons, List.lookup_cons, hdiffers]

/-- A section is read field by field, in whichever form it comes and also if it is missing. -/
theorem holds_makes {keys : List String} (hkeys : fields.map key = keys)
    (hdistinct : keys.Nodup) {v : Option Value} :
    Holds (Makes fields s) s v out ↔
      (∀ w ∈ v, IsSection w) ∧ takeAll (valueOf? keys v) fields s = .ok out := by
  have hnone (h : ∀ key, valueOf? keys v key = none) :
      out = s ↔ takeAll (valueOf? keys v) fields s = .ok out := by
    rw [takeAll_of_none fun f _ => h f.key, Except.ok.injEq, eq_comm]
  cases v with
  | none => simpa [Holds] using hnone fun key => rfl
  | some v =>
    have hsection : (∀ w ∈ some v, IsSection w) ↔ IsSection v := by simp
    rw [hsection, Holds, Makes]
    cases v with
    | table ms => exact (and_iff_right trivial).symm
    | array vs =>
      subst hkeys
      have hlook : ∀ f ∈ fields,
          valueOf? (fields.map key) (some (.array vs)) f.key = ((fields.map key).zip vs).lookup f.key :=
        fun f _ => rfl
      rw [decodeRecord, takeAll_zip hdistinct hlook]
      exact (and_iff_right trivial).symm
    | time =>
      rw [← hnone fun key => rfl, decodeRecord]
      simp [IsSection, pure, Except.pure, eq_comm]
    | string | integer | float | boolean =>
      simp [decodeRecord, IsSection, throw, throwThe, MonadExceptOf.throw]

end

/-- A field whose value takes one place in the record and leaves the others as they are. -/
structure Sets (f : Field σ) (Says : Value → β → Prop) (get : σ → β) (set : σ → β → σ) : Prop where
  read {s : σ} {v : Value} {out : σ} : f.read s v = .ok out ↔ ∃ b, Says v b ∧ out = set s b
  same (s : σ) : set s (get s) = s

theorem Sets.takeAll_cons {f : Field σ} {Says : Value → β → Prop} {get : σ → β} {set : σ → β → σ}
    (h : f.Sets Says get set) {fields : List (Field σ)} {look : String → Option Value} {s out : σ} :
    takeAll look (f :: fields) s = .ok out ↔
      ∃ b, Holds Says (get s) (look f.key) b ∧ takeAll look fields (set s b) = .ok out := by
  have htake {s' : σ} : f.take (look f.key) s = .ok s' ↔
      ∃ b, Holds Says (get s) (look f.key) b ∧ s' = set s b := by
    cases look f.key with
    | some v => exact h.read
    | none => simp [take, Holds, h.same, pure, Except.pure, eq_comm]
  rw [Field.takeAll_cons]
  constructor
  · rintro ⟨s', hs', hrest⟩
    obtain ⟨b, hb, rfl⟩ := htake.mp hs'
    exact ⟨b, hb, hrest⟩
  · rintro ⟨b, hb, hrest⟩
    exact ⟨set s b, htake.mpr ⟨b, hb, rfl⟩, hrest⟩

section

variable {decode : Value → Except Error α} {Says : Value → α → Prop} (key : String)

theorem sets_of (get : σ → α) (set : σ → α → σ) (hdecode : ∀ v a, decode v = .ok a ↔ Says v a)
    (hsame : ∀ s, set s (get s) = s) : (of decode key set).Sets Says get set where
  same := hsame
  read {s v out} := by
    simp only [of, ← hdecode]
    cases decode v <;> simp [Except.map, eq_comm]

/-- A value that is taken up in a place that may also be empty. -/
def Present (Says : Value → α → Prop) (v : Value) (o : Option α) : Prop := ∃ a, Says v a ∧ o = some a

theorem sets_of_some (get : σ → Option α) (set : σ → Option α → σ)
    (hdecode : ∀ v a, decode v = .ok a ↔ Says v a) (hsame : ∀ s, set s (get s) = s) :
    (of decode key fun s a => set s (some a)).Sets (Present Says) get set where
  same := hsame
  read {s v out} := by
    simp only [of, Present, ← hdecode]
    cases decode v <;> simp [Except.map, eq_comm]

end

/-! ## Kinds of values -/

def SaysText (v : Value) (t : String) : Prop := v = .string t

def SaysFlag (v : Value) (b : Bool) : Prop := v = .boolean b

def SaysSeconds (v : Value) (n : Nat) : Prop := v = .integer n

def SaysTexts (v : Value) (ts : List String) : Prop := v = .array (ts.map .string)

/-- A priority is its name, by itself or as the only key of a table with nothing behind it. -/
inductive SaysPriority : Value → Priority → Prop
  | name (p : Priority) : SaysPriority (.string p.name) p
  | table (p : Priority) : SaysPriority (.table [(p.name, .table [])]) p
  | list (p : Priority) : SaysPriority (.table [(p.name, .array [])]) p

theorem text_eq_ok (v : Value) (t : String) : text v = .ok t ↔ SaysText v t := by
  cases v <;> simp [text, SaysText, pure, Except.pure, throw, throwThe, MonadExceptOf.throw]

theorem flag_eq_ok (v : Value) (b : Bool) : flag v = .ok b ↔ SaysFlag v b := by
  cases v <;> simp [flag, SaysFlag, pure, Except.pure, throw, throwThe, MonadExceptOf.throw]

theorem seconds_eq_ok (v : Value) (n : Nat) : seconds v = .ok n ↔ SaysSeconds v n := by
  cases v with
  | integer m => cases m <;> simp [seconds, SaysSeconds, pure, Except.pure, throw, throwThe, MonadExceptOf.throw]
  | _ => simp [seconds, SaysSeconds, throw, throwThe, MonadExceptOf.throw]

theorem texts_eq_ok (v : Value) (ts : List String) : texts v = .ok ts ↔ SaysTexts v ts := by
  cases v with
  | array vs =>
    rw [texts, SaysTexts, Value.array.injEq]
    induction vs generalizing ts with
    | nil => cases ts <;> simp [pure, Except.pure]
    | cons v vs ih =>
      cases ts with
      | nil =>
        rw [List.mapM_cons]
        cases text v <;> cases vs.mapM text <;> simp [bind, Except.bind, pure, Except.pure]
      | cons t ts =>
        have hhead : v = .string t ↔ text v = .ok t := (text_eq_ok v t).symm
        rw [List.mapM_cons, List.map_cons, List.cons.injEq, ← ih, hhead]
        cases text v <;> cases vs.mapM text <;> simp [bind, Except.bind, pure, Except.pure]
  | _ => simp [texts, SaysTexts, throw, throwThe, MonadExceptOf.throw]

theorem ofName?_eq_some (name : String) (p : Priority) :
    Priority.ofName? name = some p ↔ name = p.name := by
  constructor
  · intro h
    have hname := List.find?_some h
    exact (beq_iff_eq.mp hname).symm
  · rintro rfl
    cases p <;> decide

theorem priority_eq_ok (v : Value) (p : Priority) : priority v = .ok p ↔ SaysPriority v p := by
  have hnamed (name : String) : priority (.string name) = .ok p ↔ name = p.name := by
    rw [← ofName?_eq_some]
    cases hname : Priority.ofName? name <;>
      simp [priority, hname, pure, Except.pure, throw, throwThe, MonadExceptOf.throw]
  constructor
  · intro h
    unfold priority at h
    dsimp only at h
    split at h
    · exact (hnamed _).mp h ▸ .name p
    · exact (hnamed _).mp h ▸ .table p
    · exact (hnamed _).mp h ▸ .list p
    · contradiction
  · intro h
    cases h <;> exact (hnamed _).mpr rfl

end Field

/-! ## Sections -/

open HookGate.Field

namespace GeneralSettings

/-- The keys of the section, in the order in which a list gives their values. -/
def keys : List String := ["audit_log", "audit_path"]

/-- What the section gives is taken up, and what it does not give has its default. -/
structure Said (v : Option Value) (s : GeneralSettings) : Prop where
  isSection : ∀ w ∈ v, IsSection w
  auditLog : Holds SaysFlag ({} : GeneralSettings).auditLog (valueOf? keys v "audit_log") s.auditLog
  auditPath :
    Holds (Present SaysText) ({} : GeneralSettings).auditPath (valueOf? keys v "audit_path") s.auditPath

theorem said_iff {v : Option Value} {s : GeneralSettings} :
    Holds (Makes general {}) {} v s ↔ Said v s := by
  have hlog := sets_of "audit_log" auditLog (fun s b => { s with auditLog := b }) flag_eq_ok fun _ => rfl
  have hpath := sets_of_some "audit_path" auditPath
    (fun s t => { s with auditPath := t }) text_eq_ok fun _ => rfl
  rw [holds_makes (show general.map Field.key = keys from rfl) (by decide), general]
  simp only [hlog.takeAll_cons, hpath.takeAll_cons, takeAll_nil]
  constructor
  · rintro ⟨hsection, _, hlog, _, hpath, rfl⟩
    exact ⟨hsection, hlog, hpath⟩
  · rintro ⟨hsection, hlog, hpath⟩
    exact ⟨hsection, _, hlog, _, hpath, rfl⟩

end GeneralSettings

namespace ActivationSettings

def keys : List String := ["rules_file", "min_priority", "action_line"]

structure Said (v : Option Value) (s : ActivationSettings) : Prop where
  isSection : ∀ w ∈ v, IsSection w
  rulesFile :
    Holds (Present SaysText) ({} : ActivationSettings).rulesFile (valueOf? keys v "rules_file") s.rulesFile
  minPriority :
    Holds SaysPriority ({} : ActivationSettings).minPriority (valueOf? keys v "min_priority") s.minPriority
  actionLine :
    Holds SaysText ({} : ActivationSettings).actionLine (valueOf? keys v "action_line") s.actionLine

theorem said_iff {v : Option Value} {s : ActivationSettings} :
    Holds (Makes activation {}) {} v s ↔ Said v s := by
  have hfile := sets_of_some "rules_file" rulesFile
    (fun s t => { s with rulesFile := t }) text_eq_ok fun _ => rfl
  have hpriority := sets_of "min_priority" minPriority
    (fun s p => { s with minPriority := p }) priority_eq_ok fun _ => rfl
  have hline := sets_of "action_line" actionLine
    (fun s t => { s with actionLine := t }) text_eq_ok fun _ => rfl
  rw [holds_makes (show activation.map Field.key = keys from rfl) (by decide), activation]
  simp only [hfile.takeAll_cons, hpriority.takeAll_cons, hline.takeAll_cons, takeAll_nil]
  constructor
  · rintro ⟨hsection, _, hfile, _, hpriority, _, hline, rfl⟩
    exact ⟨hsection, hfile, hpriority, hline⟩
  · rintro ⟨hsection, hfile, hpriority, hline⟩
    exact ⟨hsection, _, hfile, _, hpriority, _, hline, rfl⟩

end ActivationSettings

namespace ValidatorSettings

def keys : List String := ["program", "script", "args", "timeout_secs"]

structure Said (v : Option Value) (s : ValidatorSettings) : Prop where
  isSection : ∀ w ∈ v, IsSection w
  program : Holds SaysText ({} : ValidatorSettings).program (valueOf? keys v "program") s.program
  script : Holds (Present SaysText) ({} : ValidatorSettings).script (valueOf? keys v "script") s.script
  args : Holds SaysTexts ({} : ValidatorSettings).args (valueOf? keys v "args") s.args
  timeoutSecs :
    Holds SaysSeconds ({} : ValidatorSettings).timeoutSecs (valueOf? keys v "timeout_secs") s.timeoutSecs

theorem said_iff {v : Option Value} {s : ValidatorSettings} :
    Holds (Makes validator {}) {} v s ↔ Said v s := by
  have hprogram := sets_of "program" ValidatorSettings.program
    (fun s t => { s with program := t }) text_eq_ok fun _ => rfl
  have hscript := sets_of_some "script" script (fun s t => { s with script := t }) text_eq_ok fun _ => rfl
  have hargs := sets_of "args" args (fun s ts => { s with args := ts }) texts_eq_ok fun _ => rfl
  have htimeout := sets_of "timeout_secs" timeoutSecs
    (fun s n => { s with timeoutSecs := n }) seconds_eq_ok fun _ => rfl
  rw [holds_makes (show validator.map Field.key = keys from rfl) (by decide), validator]
  simp only [hprogram.takeAll_cons, hscript.takeAll_cons, hargs.takeAll_cons, htimeout.takeAll_cons,
    takeAll_nil]
  constructor
  · rintro ⟨hsection, _, hprogram, _, hscript, _, hargs, _, htimeout, rfl⟩
    exact ⟨hsection, hprogram, hscript, hargs, htimeout⟩
  · rintro ⟨hsection, hprogram, hscript, hargs, htimeout⟩
    exact ⟨hsection, _, hprogram, _, hscript, _, hargs, _, htimeout, rfl⟩

end ValidatorSettings

namespace GateSettings

def keys : List String :=
  ["skip_env_var", "workspace_dirs", "config_file_name", "docs_path", "validator"]

structure Said (v : Option Value) (s : GateSettings) : Prop where
  isSection : ∀ w ∈ v, IsSection w
  skipVariable :
    Holds SaysText ({} : GateSettings).skipVariable (valueOf? keys v "skip_env_var") s.skipVariable
  workspaceDirs :
    Holds SaysTexts ({} : GateSettings).workspaceDirs (valueOf? keys v "workspace_dirs") s.workspaceDirs
  configFileName :
    Holds SaysText ({} : GateSettings).configFileName (valueOf? keys v "config_file_name") s.configFileName
  docsPath : Holds SaysText ({} : GateSettings).docsPath (valueOf? keys v "docs_path") s.docsPath
  validator : s.validator.Said (valueOf? keys v "validator")

theorem said_iff {v : Option Value} {s : GateSettings} :
    Holds (Makes gate {}) {} v s ↔ Said v s := by
  have hskip := sets_of "skip_env_var" skipVariable
    (fun s t => { s with skipVariable := t }) text_eq_ok fun _ => rfl
  have hdirs := sets_of "workspace_dirs" workspaceDirs
    (fun s ts => { s with workspaceDirs := ts }) texts_eq_ok fun _ => rfl
  have hconfig := sets_of "config_file_name" configFileName
    (fun s t => { s with configFileName := t }) text_eq_ok fun _ => rfl
  have hdocs := sets_of "docs_path" docsPath (fun s t => { s with docsPath := t }) text_eq_ok fun _ => rfl
  have hvalidator := sets_of "validator" GateSettings.validator (fun s v => { s with validator := v })
    (decodeRecord_eq_ok Field.validator {}) fun _ => rfl
  rw [holds_makes (show gate.map Field.key = keys from rfl) (by decide), gate]
  simp only [hskip.takeAll_cons, hdirs.takeAll_cons, hconfig.takeAll_cons, hdocs.takeAll_cons,
    hvalidator.takeAll_cons, takeAll_nil]
  constructor
  · rintro ⟨hsection, _, hskip, _, hdirs, _, hconfig, _, hdocs, _, hvalidator, rfl⟩
    exact ⟨hsection, hskip, hdirs, hconfig, hdocs, ValidatorSettings.said_iff.mp hvalidator⟩
  · rintro ⟨hsection, hskip, hdirs, hconfig, hdocs, hvalidator⟩
    have hvalidator := ValidatorSettings.said_iff.mpr hvalidator
    exact ⟨hsection, _, hskip, _, hdirs, _, hconfig, _, hdocs, _, hvalidator, rfl⟩

end GateSettings

namespace PostprocessSettings

def keys : List String :=
  ["parser_program", "parser_script", "workspace_dir", "timeout_secs", "auto_test"]

structure Said (v : Option Value) (s : PostprocessSettings) : Prop where
  isSection : ∀ w ∈ v, IsSection w
  parserProgram : Holds SaysText ({} : PostprocessSettings).parserProgram
    (valueOf? keys v "parser_program") s.parserProgram
  parserScript : Holds (Present SaysText) ({} : PostprocessSettings).parserScript
    (valueOf? keys v "parser_script") s.parserScript
  workspaceDir : Holds SaysText ({} : PostprocessSettings).workspaceDir
    (valueOf? keys v "workspace_dir") s.workspaceDir
  timeoutSecs : Holds SaysSeconds ({} : PostprocessSettings).timeoutSecs
    (valueOf? keys v "timeout_secs") s.timeoutSecs
  autoTest : Holds SaysFlag ({} : PostprocessSettings).autoTest (valueOf? keys v "auto_test") s.autoTest

theorem said_iff {v : Option Value} {s : PostprocessSettings} :
    Holds (Makes postprocess {}) {} v s ↔ Said v s := by
  have hprogram := sets_of "parser_program" parserProgram
    (fun s t => { s with parserProgram := t }) text_eq_ok fun _ => rfl
  have hscript := sets_of_some "parser_script" parserScript
    (fun s t => { s with parserScript := t }) text_eq_ok fun _ => rfl
  have hdir := sets_of "workspace_dir" workspaceDir
    (fun s t => { s with workspaceDir := t }) text_eq_ok fun _ => rfl
  have htimeout := sets_of "timeout_secs" timeoutSecs
    (fun s n => { s with timeoutSecs := n }) seconds_eq_ok fun _ => rfl
  have htest := sets_of "auto_test" autoTest (fun s b => { s with autoTest := b }) flag_eq_ok fun _ => rfl
  rw [holds_makes (show postprocess.map Field.key = keys from rfl) (by decide), postprocess]
  simp only [hprogram.takeAll_cons, hscript.takeAll_cons, hdir.takeAll_cons, htimeout.takeAll_cons,
    htest.takeAll_cons, takeAll_nil]
  constructor
  · rintro ⟨hsection, _, hprogram, _, hscript, _, hdir, _, htimeout, _, htest, rfl⟩
    exact ⟨hsection, hprogram, hscript, hdir, htimeout, htest⟩
  · rintro ⟨hsection, hprogram, hscript, hdir, htimeout, htest⟩
    exact ⟨hsection, _, hprogram, _, hscript, _, hdir, _, htimeout, _, htest, rfl⟩

end PostprocessSettings

/-! ## Documents -/

namespace Settings

/-- Each section of the settings is as the document says; one that the document does not have is as
a section that gives nothing. -/
structure Said (doc : List (String × Value)) (s : Settings) : Prop where
  general : s.general.Said (doc.lookup "general")
  activation : s.activation.Said (doc.lookup "activation")
  gate : s.gate.Said (doc.lookup "gate")
  postprocess : s.postprocess.Said (doc.lookup "postprocess")

theorem makes_settings_iff {doc : List (String × Value)} {s : Settings} :
    Makes settings {} (.table doc) s ↔ s.Said doc := by
  have hgeneral := sets_of "general" general (fun s v => { s with general := v })
    (decodeRecord_eq_ok Field.general {}) fun _ => rfl
  have hactivation := sets_of "activation" activation (fun s v => { s with activation := v })
    (decodeRecord_eq_ok Field.activation {}) fun _ => rfl
  have hgate := sets_of "gate" gate (fun s v => { s with gate := v })
    (decodeRecord_eq_ok Field.gate {}) fun _ => rfl
  have hpostprocess := sets_of "postprocess" postprocess (fun s v => { s with postprocess := v })
    (decodeRecord_eq_ok Field.postprocess {}) fun _ => rfl
  have hmakes : Makes settings {} (.table doc) s ↔ takeAll (List.lookup · doc) settings {} = .ok s := Iff.rfl
  rw [hmakes, settings]
  simp only [hgeneral.takeAll_cons, hactivation.takeAll_cons, hgate.takeAll_cons,
    hpostprocess.takeAll_cons, takeAll_nil]
  constructor
  · rintro ⟨_, hgeneral, _, hactivation, _, hgate, _, hpostprocess, rfl⟩
    exact ⟨GeneralSettings.said_iff.mp hgeneral, ActivationSettings.said_iff.mp hactivation,
      GateSettings.said_iff.mp hgate, PostprocessSettings.said_iff.mp hpostprocess⟩
  · intro h
    exact ⟨_, GeneralSettings.said_iff.mpr h.general, _, ActivationSettings.said_iff.mpr h.activation,
      _, GateSettings.said_iff.mpr h.gate, _, PostprocessSettings.said_iff.mpr h.postprocess, rfl⟩

/-- A text holds settings if it is a TOML document whose sections and fields are of the right kinds.
Then every field of every section is the value that the document gives for it or, if it gives none,
the default of this one field, whatever else the document gives. -/
theorem ofToml?_eq_ok {text : String} {s : Settings} :
    ofToml? text = .ok s ↔ ∃ doc, Toml.ofText? text = .ok doc ∧ s.Said doc := by
  simp only [← makes_settings_iff, Makes, ofToml?]
  cases Toml.ofText? text <;> simp [bind, Except.bind]

end Settings

end HookGate
