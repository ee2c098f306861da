import HookGate.Proofs.Hook.Disabled
import HookGate.Proofs.Hook.DryRun
import HookGate.Proofs.Hook.Shape
import HookGate.Proofs.Json.Documents

/-!
# What the verdict on a call depends on

The gate looks at the command of a call and at nothing else in the event. The whole event is read
first, though, and it is not read at all if one of its texts is something else than a string or
`null`: such an event passes in silence, whatever its command.
-/

namespace HookGate

namespace HookInput

open Json
open Json.Reader (IsText given?)

variable {stdin command : String} {ms : List (String × Value)}

/-! ## Calls -/

/-- Standard input is an object with these members and perhaps others, which are not read. None of them
stands twice, and their values are of any kind. -/
structure IsObject (stdin : String) (ms : List (String × Value)) : Prop where
  distinct : (ms.map Prod.fst).Nodup
  written : ∃ cs rest, Next '\x7b' stdin.toList cs ∧
    Members fields (fun _ => Written fieldDepth) true cs ms rest ∧ Ended rest

/-- A call of the shell tool with a command. -/
structure IsCall (command stdin : String) (ms : List (String × Value)) : Prop extends
    IsObject stdin ms where
  tool : ("tool_name", .string "Bash") ∈ ms
  input : ∃ v, ("tool_input", v) ∈ ms ∧ v.member? "command" = some (.string command)

/-- The texts among the members are strings or `null`. -/
def WellTyped (ms : List (String × Value)) : Prop := ∀ m ∈ ms, m.1 ∈ textFields → IsText m.2

theorem IsObject.ofJson?_of_wellTyped (h : IsObject stdin ms) (htyped : WellTyped ms) :
    ofJson? stdin = .ok (ms.foldl set {}) := by
  obtain ⟨cs, rest, hnext, hms, hended⟩ := h.written
  have hfields : Members fields (FieldForm fieldDepth) true cs ms rest :=
    hms.imp fun m hm _ _ hv => ⟨hv, htyped m hm⟩
  exact ofJson?_eq_ok.mpr ⟨ms, ⟨rest, .object hnext hfields h.distinct, hended⟩, rfl⟩

theorem IsObject.wellTyped_of_ofJson? (h : IsObject stdin ms) {i : HookInput}
    (hread : ofJson? stdin = .ok i) : WellTyped ms := by
  obtain ⟨cs, rest, hnext, hms, -⟩ := h.written
  obtain ⟨ms', ⟨rest', hrecord, -⟩, -⟩ := ofJson?_eq_ok.mp hread
  cases hrecord with
  | list hnext' => exact absurd (hnext.unique hnext').1 (by decide)
  | object hnext' hfields =>
    obtain ⟨-, rfl⟩ := hnext.unique hnext'
    have hms' : Members fields (fun _ => Written fieldDepth) true cs ms' rest' :=
      hfields.imp fun _ _ _ _ hv => hv.1
    obtain ⟨rfl, -⟩ := hms.unique hms' Written.unique
    intro m hm
    obtain ⟨_, _, hform⟩ := hfields.exists_form m hm
    exact hform.2

theorem IsObject.exists_ofJson?_iff (h : IsObject stdin ms) :
    (∃ i, ofJson? stdin = .ok i) ↔ WellTyped ms :=
  ⟨fun ⟨_, hread⟩ => h.wellTyped_of_ofJson? hread, fun htyped => ⟨_, h.ofJson?_of_wellTyped htyped⟩⟩

theorem toolName_set (i : HookInput) (m : String × Value) :
    (i.set m).toolName = if m.1 = "tool_name" then m.2.string? else i.toolName := by
  obtain ⟨name, v⟩ := m
  unfold set
  split <;> simp_all

theorem toolInput_set (i : HookInput) (m : String × Value) :
    (i.set m).toolInput =
      if m.1 = "tool_input" then (given? m.2).map ToolInput.ofValue else i.toolInput := by
  obtain ⟨name, v⟩ := m
  unfold set
  split <;> simp_all

theorem IsCall.bashCommand? (h : IsCall command stdin ms) :
    (ms.foldl set {}).bashCommand? = some command := by
  obtain ⟨v, hinput, hcommand⟩ := h.input
  have htool : (ms.foldl set {}).toolName = some "Bash" :=
    get_foldl_set toolName_set h.distinct h.tool {}
  have hgiven : given? v = some v := by
    cases v with
    | object => rfl
    | null | bool | number | string | array => contradiction
  have htaken : (ms.foldl set {}).toolInput = (given? v).map ToolInput.ofValue :=
    @get_foldl_set _ toolInput (fun v => (given? v).map ToolInput.ofValue) _ toolInput_set _ h.distinct
      _ hinput {}
  have hbash : ToolInput.ofValue v =
      .bash command ((v.member? "description").bind Value.string?) := by
    simp only [ToolInput.ofValue, hcommand, Option.bind_some, Value.string?]
  rw [HookInput.bashCommand?, toolNameText, htool, htaken, hgiven, Option.map_some, hbash]
  rfl

/-! ## Calls that are written -/

theorem isObject_writeObject {forms : List (String × String)}
    (hforms : List.Forall₂ (WritesMember fieldDepth) forms ms) (hnames : ∀ m ∈ ms, m.1 ∈ fields)
    (hdistinct : (ms.map Prod.fst).Nodup) : IsObject (writeObject forms) ms := by
  obtain ⟨cs, hcs, hwritten⟩ := writtenMembers_writeObject hforms []
  refine ⟨hdistinct, cs, [], ?_, hwritten.members hnames fun _ _ _ _ hv => hv, List.forall_mem_nil _⟩
  rw [List.append_nil] at hcs
  rw [hcs]
  exact Reader.next_cons rfl

/-- The object of a call that has further members. -/
def callObject (command : String) (further : List (String × String)) : String :=
  writeObject (("tool_name", writeString "Bash") ::
    ("tool_input", writeObject [("command", writeString command)]) :: further)

def callMembers (command : String) (further : List (String × Value)) : List (String × Value) :=
  ("tool_name", .string "Bash") :: ("tool_input", .ofMembers [("command", .string command)]) :: further

theorem isCall_callObject {forms : List (String × String)} (command : String)
    (hforms : List.Forall₂ (WritesMember fieldDepth) forms ms) (hnames : ∀ m ∈ ms, m.1 ∈ fields)
    (hdistinct : ((callMembers command ms).map Prod.fst).Nodup) :
    IsCall command (callObject command forms) (callMembers command ms) := by
  have hinput : Writes fieldDepth (writeObject [("command", writeString command)])
      (.ofMembers [("command", .string command)]) :=
    writes_writeObject (by decide) (.cons ⟨rfl, writes_writeString _ command⟩ .nil)
  have hknown : ∀ m ∈ callMembers command ms, m.1 ∈ fields :=
    List.forall_mem_cons.mpr ⟨by decide, List.forall_mem_cons.mpr ⟨by simp [fields], hnames⟩⟩
  have hobject : IsObject (callObject command forms) (callMembers command ms) :=
    isObject_writeObject (.cons ⟨rfl, writes_writeString _ _⟩ (.cons ⟨rfl, hinput⟩ hforms)) hknown hdistinct
  have htaken : ("tool_input", .ofMembers [("command", .string command)]) ∈ callMembers command ms := by
    simp [callMembers]
  exact ⟨hobject, List.mem_cons_self, _, htaken, by simp [member?_ofMembers]⟩

end HookInput

/-! ## Verdicts -/

theorem CommandGate.check_congr {m : Type → Type} [Monad m] (host : Host m) (g : CommandGate m)
    {i i' : HookInput} (h : i.bashCommand? = i'.bashCommand?) : g.check host i = g.check host i' := by
  simp only [check, h]

namespace Invocation

open HookInput (IsCall WellTyped)

variable {W : Type} (host : Host (StateM W)) (s : Settings) (e : Environment) (inv : Invocation)
  {stdin stdin' command : String} {ms ms' : List (String × Json.Value)}

theorem output_runInput_congr (hguard : inv.mode = .guard) {i i' : HookInput}
    (h : i.bashCommand? = i'.bashCommand?) (w : W) :
    (runIn (inv.runInput host s e i) w).1.output = (runIn (inv.runInput host s e i') w).1.output := by
  cases he : e.disabled with
  | true => simp [runInput, he]
  | false =>
    rw [output_runInput host s e inv i w he, output_runInput host s e inv i' w he,
      decide_guard host s e inv i w hguard, decide_guard host s e inv i' w hguard,
      CommandGate.check_congr host _ h]

/-- What a guard answers to a call depends on its command and on no other member, as long as the texts
among the members are strings or `null`. If one of them is anything else, the guard is silent and lets
the call pass, and records that it skipped it. -/
theorem run_of_calls (log : AuditLog (StateM W)) (w : W) (hguard : inv.mode = .guard)
    (h : IsCall command stdin ms) (h' : IsCall command stdin' ms') :
    (WellTyped ms → WellTyped ms' →
      (runIn (inv.run host s e log stdin) w).1.1 = (runIn (inv.run host s e log stdin') w).1.1) ∧
      (¬ WellTyped ms → ∃ reason, inv.run host s e log stdin =
        (do return (.neutral, ← log.record host (.skipped inv.mode reason)))) := by
  have hevents : inv.ReadsEvents := fun hraw => by simp [hguard] at hraw
  refine ⟨fun htyped htyped' => ?_, fun huntyped => ?_⟩
  · rw [output_run, output_run,
      result_of_ofJson? host s e hevents (h.ofJson?_of_wellTyped htyped),
      result_of_ofJson? host s e hevents (h'.ofJson?_of_wellTyped htyped')]
    exact output_runInput_congr host s e inv hguard (h.bashCommand?.trans h'.bashCommand?.symm) w
  · exact run_of_unread host s e log hevents (mt h.exists_ofJson?_iff.mp huntyped)

/-! The same call three times: by itself, in a session with a name, and with a session that is no text.
-/

section

open HookInput (callObject callMembers isCall_callObject)

/-- A guard sees the call, in a world in which the validator objects. -/
def guardCall (further : List (String × String)) : StateM Unit (Output × Except SystemError Unit) :=
  ({ mode := .guard } : Invocation).run (Host.failing "") {} (.ofDir "/project") {}
    (callObject "docker run semgrep" further)

theorem isCall_alone : IsCall "docker run semgrep" (callObject "docker run semgrep" [])
    (callMembers "docker run semgrep" []) :=
  isCall_callObject _ .nil (List.forall_mem_nil _) (by simp [callMembers])

theorem isCall_inSession {form : String} {v : Json.Value}
    (h : Json.Writes HookInput.fieldDepth form v) :
    IsCall "docker run semgrep" (callObject "docker run semgrep" [("session_id", form)])
      (callMembers "docker run semgrep" [("session_id", v)]) :=
  isCall_callObject _ (.cons ⟨rfl, h⟩ .nil) (by simp [HookInput.fields]) (by simp [callMembers])

theorem isCall_inFlaggedSession :
    IsCall "docker run semgrep" (callObject "docker run semgrep" [("session_id", "true")])
      (callMembers "docker run semgrep" [("session_id", .bool true)]) :=
  isCall_inSession fun _ => .scalar (Json.Reader.next_cons rfl) (.word .yes)

theorem wellTyped_callMembers_iff {further : List (String × Json.Value)} :
    WellTyped (callMembers "docker run semgrep" further) ↔ WellTyped further := by
  simp [WellTyped, callMembers, HookInput.textFields, Json.Reader.IsText]

theorem not_wellTyped_flaggedSession :
    ¬ WellTyped (callMembers "docker run semgrep" [("session_id", .bool true)]) := by
  rw [wellTyped_callMembers_iff]
  simp [WellTyped, HookInput.textFields, Json.Reader.IsText]

theorem run_of_calls_in_sessions :
    (runIn (guardCall []) ()).1.1 =
        (runIn (guardCall [("session_id", Json.writeString "s-1")]) ()).1.1 ∧
      ∃ reason, guardCall [("session_id", "true")] =
        (do return (.neutral, ← ({} : AuditLog (StateM Unit)).record (Host.failing "")
          (.skipped .guard reason))) := by
  have halone : WellTyped (callMembers "docker run semgrep" []) :=
    wellTyped_callMembers_iff.mpr (List.forall_mem_nil _)
  have hnamed : WellTyped (callMembers "docker run semgrep" [("session_id", .string "s-1")]) :=
    wellTyped_callMembers_iff.mpr (List.forall_mem_singleton.mpr fun _ => .inr ⟨_, rfl⟩)
  have hsame := (run_of_calls (Host.failing "") {} (.ofDir "/project") { mode := .guard } {} () rfl
    isCall_alone (isCall_inSession (Json.writes_writeString HookInput.fieldDepth "s-1"))).1 halone hnamed
  have hsilent := (run_of_calls (Host.failing "") {} (.ofDir "/project") { mode := .guard } {} () rfl
    isCall_inFlaggedSession isCall_alone).2 not_wellTyped_flaggedSession
  unfold guardCall
  exact ⟨hsame, hsilent⟩

/-- A session that is no text keeps the guard from stopping a command that it stops otherwise. -/
theorem block_lost_by_session :
    (∃ ms, IsCall "docker run semgrep" (callObject "docker run semgrep" []) ms) ∧
      (∃ ms, IsCall "docker run semgrep"
        (callObject "docker run semgrep" [("session_id", "true")]) ms) ∧
      (runIn (guardCall []) ()).1.1.exitCode = 2 ∧
      (runIn (guardCall [("session_id", "true")]) ()).1.1 = .neutral := by
  refine ⟨⟨_, isCall_alone⟩, ⟨_, isCall_inFlaggedSession⟩, ?_, ?_⟩
  · have hread : HookInput.ofJson? (callObject "docker run semgrep" []) = .ok _ :=
      isCall_alone.ofJson?_of_wellTyped (wellTyped_callMembers_iff.mpr (List.forall_mem_nil _))
    have hstops : Stops (Host.failing "") {} (.ofDir "/project") { mode := .guard }
        (callObject "docker run semgrep" []) "docker run semgrep" () :=
      { guards := rfl
        enforced := rfl
        enabled := rfl
        given := HookInput.not_isBlankText hread
        read := ⟨_, hread, isCall_alone.bashCommand?⟩
        nonblank := by decide
        guarded := Gate.isGuarded_plain
        validating := rfl
        objected := rfl }
    have hout := output_result_of_stops _ _ _ _ hstops
    rw [CommandGate.output_blockOf] at hout
    unfold guardCall
    rw [output_run, hout]
  · have hunread := mt isCall_inFlaggedSession.exists_ofJson?_iff.mp not_wellTyped_flaggedSession
    have hevents : ({ mode := .guard } : Invocation).ReadsEvents := fun hraw => by simp at hraw
    obtain ⟨reason, hrun⟩ :=
      run_of_unread (Host.failing "") {} (.ofDir "/project") {} hevents hunread
    simp [guardCall, hrun]

end

end Invocation

end HookGate
