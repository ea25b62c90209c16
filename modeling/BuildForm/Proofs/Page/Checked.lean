import BuildForm.Proofs.Form.Typed
import BuildForm.Proofs.Page.Steps
import BuildForm.Service.Directory

/-
  No invalid form leaves a page.

  What a page hands to its service to be stored has passed
  the check in the state in which it is handed over, and the
  check derives every indicator from the values. So the
  values keep their rules, whatever was typed, hidden or
  never touched before.

  Main declarations:
    * `Configuration.IsSubmittable`
    * `Form.Passes.isSubmittable`
    * `Call.submissions`
    * `Session.IsChecked`
    * `Session.run_sends_submittable`
-/

------------------------------------------------------------
-- Submittable Configurations
------------------------------------------------------------

namespace BuildForm

/- A view whose paths and overrides keep their rules. -/
structure ViewRecord.IsSubmittable
    (view : ViewRecord) : Prop where
  projectUrl : Rule.isRemote view.projectUrl
  localDirectoryPath :
    Rule.isLocalDirectory view.localDirectoryPath
  fileToBuild : Rule.isFileToBuild view.fileToBuild
  userConfig :
    ∀ builder ∈ view.builders,
      ∀ value ∈ builder.userConfig, Rule.isOverride value

/-
  A configuration with a project name and at least one view,
  all of its views submittable.
-/
structure Configuration.IsSubmittable
    (config : Configuration) : Prop where
  projectName : Rule.isProjectName config.projectName
  views : config.views ≠ []
  view : ∀ view ∈ config.views, view.IsSubmittable

end BuildForm

------------------------------------------------------------
-- Values behind Indicators
------------------------------------------------------------

namespace BuildForm

/- A current indicator that is off vouches for the value. -/
theorem Field.accepts_of_blur
    {field : Field}
    {kind : FieldKind}
    (hKind : field.kind = kind)
    (hCurrent : field.blur = field)
    (hFault : field.fault = none) :
    kind.accepts field.value := by
  have hDerived : kind.fault? field.value = none := by
    rw [← hFault, ← hKind]
    exact congrArg Field.fault hCurrent
  exact (FieldKind.fault?_eq_none_iff _ _).mp hDerived

namespace View

variable {view : View}

namespace IsCurrent

theorem projectUrl (hCurrent : view.IsCurrent) :
    view.projectUrl.blur = view.projectUrl :=
  congrArg View.projectUrl hCurrent

theorem localDirectoryPath (hCurrent : view.IsCurrent) :
    view.localDirectoryPath.blur = view.localDirectoryPath :=
  congrArg View.localDirectoryPath hCurrent

theorem fileToBuild (hCurrent : view.IsCurrent) :
    view.fileToBuild.blur = view.fileToBuild :=
  congrArg View.fileToBuild hCurrent

theorem userConfig
    (hCurrent : view.IsCurrent)
    {builder : Builder}
    (hBuilder : builder ∈ view.builders) :
    builder.userConfig.blur = builder.userConfig := by
  have hBuilders :
      view.builders.map (fun builder =>
          { builder with
            userConfig := builder.userConfig.blur }) =
        view.builders.map fun builder => builder := by
    rw [List.map_id']
    exact congrArg View.builders hCurrent
  have hSame :=
    List.map_inj_left.mp hBuilders builder hBuilder
  exact congrArg Builder.userConfig hSame

end IsCurrent

end View

namespace Form

variable {form : Form}
variable {view : View}

theorem fault_of_groupOffence?
    {name : ViewField}
    {field : Field}
    (hNone : groupOffence? form.views.items name = none)
    (hView : view ∈ form.views.items)
    (hField : view.field? name = some field) :
    field.fault = none := by
  have hHere := List.findSome?_eq_none_iff.mp hNone view hView
  simpa [hField] using hHere

theorem fault_of_builderOffence?
    {builder : Builder}
    (hNone : builderOffence? form.views.items = none)
    (hView : view ∈ form.views.items)
    (hBuilder : builder ∈ view.builders) :
    builder.userConfig.fault = none := by
  have hHere := List.findSome?_eq_none_iff.mp hNone view hView
  have hIndicator :=
    List.findSome?_eq_none_iff.mp hHere builder hBuilder
  simpa using hIndicator

/- No group of inputs and no builder offends. -/
theorem viewOffence?_eq_none_iff :
    form.viewOffence? = none ↔
      (∀ name ∈ pathGroups,
          groupOffence? form.views.items name = none) ∧
        builderOffence? form.views.items = none := by
  unfold viewOffence?
  rw [← List.findSome?_eq_none_iff]
  cases pathGroups.findSome?
      (groupOffence? form.views.items) with
  | none => simp
  | some offence => simp

namespace Passes

/- A looked-at input of a passing form keeps its rule. -/
theorem accepts
    (hPasses : form.Passes)
    (hView : view ∈ form.views.items)
    (name : ViewField)
    (hName : name ∈ pathGroups)
    {field : Field}
    (hField : view.field? name = some field)
    (hCurrent : field.blur = field)
    {kind : FieldKind}
    (hKind : field.kind = kind) :
    kind.accepts field.value := by
  rcases viewOffence?_eq_none_iff.mp hPasses.clean with
    ⟨hGroups, _⟩
  have hFault :=
    fault_of_groupOffence? (hGroups name hName) hView hField
  exact Field.accepts_of_blur hKind hCurrent hFault

/- So does every override, used or not. -/
theorem accepts_userConfig
    (hPasses : form.Passes)
    (hView : view ∈ form.views.items)
    (hTyped : view.IsTyped)
    {builder : Builder}
    (hBuilder : builder ∈ view.builders) :
    Rule.isOverride builder.userConfig.value := by
  rcases viewOffence?_eq_none_iff.mp hPasses.clean with
    ⟨_, hBuilders⟩
  have hCurrent := hPasses.current view hView
  have hFault :=
    fault_of_builderOffence? hBuilders hView hBuilder
  exact
    Field.accepts_of_blur (hTyped.builders builder hBuilder)
      (hCurrent.userConfig hBuilder) hFault

theorem isSubmittable_view
    (hPasses : form.Passes)
    (hView : view ∈ form.views.items)
    (hTyped : view.IsTyped) :
    view.toRecord.IsSubmittable where
  projectUrl :=
    hPasses.accepts hView .projectUrl (by simp [pathGroups])
      rfl (hPasses.current view hView).projectUrl
      hTyped.projectUrl
  localDirectoryPath :=
    hPasses.accepts hView .localDirectoryPath
      (by simp [pathGroups]) rfl
      (hPasses.current view hView).localDirectoryPath
      hTyped.localDirectoryPath
  fileToBuild :=
    hPasses.accepts hView .fileToBuild (by simp [pathGroups])
      rfl (hPasses.current view hView).fileToBuild
      hTyped.fileToBuild
  userConfig := by
    intro record hRecord value hValue
    rcases List.mem_map.mp hRecord with
      ⟨builder, hBuilder, rfl⟩
    have hAccepts :=
      hPasses.accepts_userConfig hView hTyped hBuilder
    unfold Builder.toRecord at hValue
    dsimp only at hValue
    split at hValue
    · cases hValue
      exact hAccepts
    · cases hValue

/- What a passing form hands over keeps all rules. -/
theorem isSubmittable
    (hPasses : form.Passes)
    (hTyped : form.IsTyped) :
    form.toConfiguration.IsSubmittable where
  projectName := hPasses.name
  views := by
    intro hNone
    exact hPasses.views (List.map_eq_nil_iff.mp hNone)
  view := by
    intro record hRecord
    rcases List.mem_map.mp hRecord with ⟨view, hView, rfl⟩
    exact
      hPasses.isSubmittable_view hView
        (hTyped.views view hView)

end Passes

end Form

end BuildForm

------------------------------------------------------------
-- Submissions of a Run
------------------------------------------------------------

namespace BuildForm

namespace Call

/- What a call submits, if it does. -/
def submission? (call : Call) : Option Submission :=
  match call.request with
  | .submit submission => some submission
  | _ => none

/- All that some calls submit. -/
def submissions (calls : List Call) : List Submission :=
  calls.filterMap submission?

theorem submission?_of_isQuery
    {call : Call}
    (hQuery : call.request.IsQuery) :
    call.submission? = none := by
  unfold submission?
  split
  · rename_i submission hRequest
    exact absurd hRequest (hQuery submission)
  · rfl

end Call

/- A call of a recorded service is recorded. -/
theorem Service.calls_of_recorded
    {σ : Type}
    {service : Service σ}
    {request : Request}
    {outcome : Except ServiceError request.Answer}
    {before after : List Call × σ}
    (hCall :
      service.recorded request before = (outcome, after)) :
    after.1 = ⟨request, outcome⟩ :: before.1 := by
  unfold Service.recorded at hCall
  cases hCall
  rfl

namespace Session

variable {σ : Type}

/-
  A session of a mode whose form is typed and that has only
  sent rejections and submittable configurations.
-/
structure IsChecked
    (mode : PageMode)
    (session : Session (List Call × σ)) : Prop where
  mode : session.page.request.mode = mode
  typed : session.page.form.IsTyped
  sent :
    ∀ submission ∈ Call.submissions session.state.1,
      submission.formType ≠ .reject →
        submission.configuration.IsSubmittable

theorem isChecked_start
    (request : PageRequest)
    (options : PageOptions)
    (state : σ) :
    (start request options ([], state)).IsChecked
      request.mode where
  mode := rfl
  typed := Form.IsTyped.blank request.mode
  sent := by simp [start, Call.submissions]

/-
  Nothing that a page does makes an invalid form leave it.
-/
theorem isChecked_survives
    (service : Service σ)
    (mode : PageMode) :
    Page.Survives service.recorded mode (IsChecked mode) where
  modes := fun _ hSession => hSession.mode
  marks := by
    intro session page hSession hRequest hForm
    refine ⟨?_, ?_, hSession.sent⟩
    · rw [← hSession.mode, ← hRequest]
    · have hTyped := hSession.typed
      rw [← hForm] at hTyped
      exact hTyped
  loads := by
    intro session form hSession hLoad
    exact
      ⟨hSession.mode, hSession.typed.load hLoad,
        hSession.sent⟩
  steps := by
    intro session form hSession hStep
    exact
      ⟨hSession.mode, hSession.typed.step hStep,
        hSession.sent⟩
  asks := by
    intro session request outcome state hSession hQuery hCall
    refine ⟨hSession.mode, hSession.typed, ?_⟩
    intro submission hSent
    rw [Service.calls_of_recorded hCall, Call.submissions,
      List.filterMap_cons_none
        (Call.submission?_of_isQuery hQuery)] at hSent
    exact hSession.sent submission hSent
  sends := by
    intro session outcome state hSession hMay hCall
    refine ⟨hSession.mode, hSession.typed, ?_⟩
    intro submission hSent hType
    rw [Service.calls_of_recorded hCall] at hSent
    rcases List.mem_cons.mp hSent with rfl | hEarlier
    · rcases hMay with hPasses | hReject
      · exact hPasses.isSubmittable hSession.typed
      · exact absurd hReject hType
    · exact hSession.sent submission hEarlier hType

/-
  For every request, service and run, each submission that is
  not a rejection carries a submittable configuration.
-/
theorem run_sends_submittable
    (service : Service σ)
    (request : PageRequest)
    (options : PageOptions)
    (state : σ)
    (actions : List Action)
    (submission : Submission)
    (hSent :
      submission ∈
        Call.submissions
          (run service.recorded
            (start request options ([], state))
            actions).state.1)
    (hType : submission.formType ≠ .reject) :
    submission.configuration.IsSubmittable := by
  have hStart := isChecked_start request options state
  have hRun :=
    (isChecked_survives service request.mode).run hStart actions
  exact hRun.sent submission hSent hType

/- A new configuration, typed without live indicators. -/
theorem run_sends_submittable_new :
    let service : Service Tree :=
      Directory.service { root := "store" }
    let options : PageOptions := { autoValidate := false }
    let actions :=
      [.init,
        .edit .projectName "core",
        .edit (.view ⟨0⟩ .projectUrl) "https://host/core.git",
        .edit (.view ⟨0⟩ .localDirectoryPath) ".",
        .edit (.view ⟨0⟩ .fileToBuild) "build.bat",
        .submit]
    ∃ submission ∈
        Call.submissions
          (run service.recorded
            (start .create options ([], Tree.empty))
            actions).state.1,
      submission.formType ≠ .reject ∧
        submission.configuration.IsSubmittable := by
  intro service options actions
  have hCreate :
      FormType.create ∈
        (Call.submissions
          (run service.recorded
            (start .create options ([], Tree.empty))
            actions).state.1).map Submission.formType := by
    decide +kernel
  rcases List.mem_map.mp hCreate with
    ⟨submission, hSent, hCreated⟩
  have hType : submission.formType ≠ .reject := by
    rw [hCreated]
    decide
  exact
    ⟨submission, hSent, hType,
      run_sends_submittable service .create options
        Tree.empty actions submission hSent hType⟩

end Session

end BuildForm
