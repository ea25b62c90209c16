import BuildForm.Proofs.Form.Step

/-
  Every input keeps the kind of its place.

  The rule of an input is that of its kind, so that an input
  in the place of a project URL, say, is always judged by the
  rule for URLs.

  Main declarations:
    * `FieldPath.kind`
    * `View.IsTyped`
    * `Form.IsTyped`
    * `Form.IsTyped.load` and `Form.IsTyped.step`
-/

------------------------------------------------------------
-- Kinds of Places
------------------------------------------------------------

namespace BuildForm

/- The kind of the input with a name. -/
def ViewField.kind : ViewField → FieldKind
  | .localDirectoryPath => .localDirectory
  | .projectUrl => .url
  | .branchName => .free
  | .fileToBuild => .fileToBuild
  | .pathToArtifacts => .artifact
  | .versionFilesPath => .versionFile
  | .credentials => .free
  | .userConfig => .userConfig

/- The kind of the input at an address. -/
def FieldPath.kind : FieldPath → FieldKind
  | .projectName => .projectName
  | .email => .email
  | .configEmail => .email
  | .pollScmTrigger => .trigger
  | .buildPeriodicallyTrigger => .trigger
  | .rejectionReason => .free
  | .addUser => .free
  | .view _ name => name.kind
  | .builder _ _ => .userConfig

/- A view each of whose inputs has the kind of its place. -/
structure View.IsTyped (view : View) : Prop where
  localDirectoryPath :
    view.localDirectoryPath.kind = .localDirectory
  projectUrl : view.projectUrl.kind = .url
  branchName : view.branchName.kind = .free
  fileToBuild : view.fileToBuild.kind = .fileToBuild
  pathToArtifacts : view.pathToArtifacts.kind = .artifact
  versionFilesPath : view.versionFilesPath.kind = .versionFile
  builders :
    ∀ builder ∈ view.builders,
      builder.userConfig.kind = .userConfig

/- A form each of whose inputs has the kind of its place. -/
structure Form.IsTyped (form : Form) : Prop where
  projectName : form.projectName.kind = .projectName
  email : form.email.kind = .email
  configEmail : form.configEmail.kind = .email
  pollScmTrigger : form.pollScmTrigger.field.kind = .trigger
  buildPeriodicallyTrigger :
    form.buildPeriodicallyTrigger.field.kind = .trigger
  reason : form.rejectDialog.reason.kind = .free
  addUser : form.addUser.kind = .free
  views : ∀ view ∈ form.views.items, view.IsTyped

end BuildForm

------------------------------------------------------------
-- Views
------------------------------------------------------------

namespace BuildForm

namespace View

/- Builders that are loaded are those of their records. -/
theorem mem_buildersOf
    {records : List BuilderRecord}
    {ordinal : UInt32}
    {builder : Builder}
    (hBuilder : builder ∈ buildersOf ordinal records) :
    ∃ id, ∃ record ∈ records,
      builder = Builder.ofRecord id record := by
  induction records generalizing ordinal with
  | nil => simp [buildersOf] at hBuilder
  | cons first rest ih =>
      rcases List.mem_cons.mp hBuilder with rfl | hRest
      · exact ⟨_, first, by simp, rfl⟩
      · rcases ih hRest with ⟨id, record, hRecord, hEq⟩
        exact ⟨id, record, by simp [hRecord], hEq⟩

namespace IsTyped

variable {view : View}

theorem blank
    (id : ViewId)
    (html : String)
    (credentials : List String) :
    (View.blank id html credentials).IsTyped :=
  ⟨rfl, rfl, rfl, rfl, rfl, rfl, by simp [View.blank]⟩

theorem field?_kind
    (hTyped : view.IsTyped)
    {name : ViewField}
    {field : Field}
    (hField : view.field? name = some field) :
    field.kind = name.kind := by
  cases name with
  | localDirectoryPath =>
      cases hField
      exact hTyped.localDirectoryPath
  | projectUrl =>
      cases hField
      exact hTyped.projectUrl
  | branchName =>
      cases hField
      exact hTyped.branchName
  | fileToBuild =>
      cases hField
      exact hTyped.fileToBuild
  | pathToArtifacts =>
      cases hField
      exact hTyped.pathToArtifacts
  | versionFilesPath =>
      cases hField
      exact hTyped.versionFilesPath
  | credentials => cases hField
  | userConfig => cases hField

/- Changing an input within its kind. -/
theorem mapField
    (hTyped : view.IsTyped)
    {name : ViewField}
    {change : Field → Field}
    (hChange :
      ∀ field, field.kind = name.kind →
        (change field).kind = name.kind) :
    (view.mapField name change).IsTyped := by
  cases name with
  | localDirectoryPath =>
      exact
        { hTyped with
          localDirectoryPath :=
            hChange _ hTyped.localDirectoryPath }
  | projectUrl =>
      exact
        { hTyped with
          projectUrl := hChange _ hTyped.projectUrl }
  | branchName =>
      exact
        { hTyped with
          branchName := hChange _ hTyped.branchName }
  | fileToBuild =>
      exact
        { hTyped with
          fileToBuild := hChange _ hTyped.fileToBuild }
  | pathToArtifacts =>
      exact
        { hTyped with
          pathToArtifacts :=
            hChange _ hTyped.pathToArtifacts }
  | versionFilesPath =>
      exact
        { hTyped with
          versionFilesPath :=
            hChange _ hTyped.versionFilesPath }
  | credentials => exact hTyped
  | userConfig => exact hTyped

theorem mapBuilder
    (hTyped : view.IsTyped)
    (id : BuilderId)
    {change : Builder → Builder}
    (hChange :
      ∀ builder, builder.userConfig.kind = .userConfig →
        (change builder).userConfig.kind = .userConfig) :
    (view.mapBuilder id change).IsTyped where
  localDirectoryPath := hTyped.localDirectoryPath
  projectUrl := hTyped.projectUrl
  branchName := hTyped.branchName
  fileToBuild := hTyped.fileToBuild
  pathToArtifacts := hTyped.pathToArtifacts
  versionFilesPath := hTyped.versionFilesPath
  builders := by
    intro builder hBuilder
    rcases List.mem_map.mp hBuilder with ⟨before, hBefore, rfl⟩
    have hKind := hTyped.builders before hBefore
    by_cases hId : before.id = id
    · rw [if_pos hId]
      exact hChange before hKind
    · rw [if_neg hId]
      exact hKind

theorem setBox
    (hTyped : view.IsTyped)
    (kind : SelectionKind)
    (box : SelectionBox) :
    (view.setBox kind box).IsTyped := by
  cases kind with
  | artifacts => exact { hTyped with }
  | versionFiles => exact { hTyped with }

theorem revalidate (hTyped : view.IsTyped) :
    view.revalidate.IsTyped where
  localDirectoryPath := hTyped.localDirectoryPath
  projectUrl := hTyped.projectUrl
  branchName := hTyped.branchName
  fileToBuild := hTyped.fileToBuild
  pathToArtifacts := hTyped.pathToArtifacts
  versionFilesPath := hTyped.versionFilesPath
  builders := by
    intro builder hBuilder
    rcases List.mem_map.mp hBuilder with ⟨before, hBefore, rfl⟩
    exact hTyped.builders before hBefore

/- One case for each thing that may happen to a view. -/
theorem step
    {after : View}
    (hTyped : view.IsTyped)
    (hStep : View.Step view after) :
    after.IsTyped := by
  cases hStep with
  | addBuilder html =>
      refine { hTyped with builders := ?_ }
      intro builder hBuilder
      rcases List.mem_append.mp hBuilder with hOld | hNew
      · exact hTyped.builders builder hOld
      · rw [List.mem_singleton.mp hNew]
        rfl
  | removeBuilder id =>
      refine { hTyped with builders := ?_ }
      intro builder hBuilder
      exact
        hTyped.builders builder (List.mem_filter.mp hBuilder).1
  | selectCredentials value => exact { hTyped with }
  | addPath kind =>
      unfold View.addPath
      have hBox :=
        hTyped.setBox kind
          ((view.box kind).add (view.pathInput kind).value).2
      dsimp only
      split
      · apply hBox.mapField
        intro field hField
        exact hField
      · exact hBox
  | press kind key deleteKey => exact hTyped.setBox kind _
  | setVersionFiles enabled => exact { hTyped with }
  | setOtherConfig id checked =>
      apply hTyped.mapBuilder
      intro builder hKind
      exact hKind

theorem ofRecord
    (id : ViewId)
    (html : String)
    (credentials : List String)
    (record : ViewRecord) :
    (View.ofRecord id html credentials record).IsTyped := by
  refine ⟨rfl, rfl, rfl, rfl, rfl, rfl, ?_⟩
  intro builder hBuilder
  rcases mem_buildersOf hBuilder with ⟨_, stored, _, rfl⟩
  unfold Builder.ofRecord
  cases stored.userConfig <;> rfl

end IsTyped

end View

end BuildForm

------------------------------------------------------------
-- The Form
------------------------------------------------------------

namespace BuildForm

/- Views that are loaded are those of their records. -/
theorem Views.mem_itemsOf
    {credentials : List String}
    {records : List ViewRecord}
    {ordinal : UInt32}
    {html : String}
    {view : View}
    (hView :
      view ∈ Views.itemsOf credentials ordinal html records) :
    ∃ id html, ∃ record ∈ records,
      view = View.ofRecord id html credentials record := by
  induction records generalizing ordinal html with
  | nil => simp [itemsOf] at hView
  | cons first rest ih =>
      rcases List.mem_cons.mp hView with rfl | hRest
      · exact ⟨_, _, first, by simp, rfl⟩
      · rcases ih hRest with ⟨id, text, record, hRecord, hEq⟩
        exact ⟨id, text, record, by simp [hRecord], hEq⟩

namespace Form

namespace IsTyped

variable {form after : Form}

theorem blank (mode : PageMode) : (Form.blank mode).IsTyped :=
  ⟨rfl, rfl, rfl, rfl, rfl, rfl, rfl, by simp [Form.blank]⟩

theorem field?_kind
    (hTyped : form.IsTyped)
    {path : FieldPath}
    {field : Field}
    (hField : form.field? path = some field) :
    field.kind = path.kind := by
  cases path with
  | projectName =>
      cases hField
      exact hTyped.projectName
  | email =>
      cases hField
      exact hTyped.email
  | configEmail =>
      cases hField
      exact hTyped.configEmail
  | pollScmTrigger =>
      cases hField
      exact hTyped.pollScmTrigger
  | buildPeriodicallyTrigger =>
      cases hField
      exact hTyped.buildPeriodicallyTrigger
  | rejectionReason =>
      cases hField
      exact hTyped.reason
  | addUser =>
      cases hField
      exact hTyped.addUser
  | view id name =>
      rcases Option.bind_eq_some_iff.mp hField with
        ⟨view, hView, hField⟩
      have hMember := List.mem_of_find?_eq_some hView
      exact (hTyped.views view hMember).field?_kind hField
  | builder id builder =>
      rcases Option.map_eq_some_iff.mp hField with
        ⟨entry, hEntry, rfl⟩
      rcases Option.bind_eq_some_iff.mp hEntry with
        ⟨view, hView, hEntry⟩
      have hMember := List.mem_of_find?_eq_some hView
      exact
        (hTyped.views view hMember).builders entry
          (List.mem_of_find?_eq_some hEntry)

theorem modify
    (hTyped : form.IsTyped)
    (id : ViewId)
    {change : View → View}
    (hChange :
      ∀ view, view.IsTyped → (change view).IsTyped) :
    ∀ view ∈ (form.views.modify id change).items,
      view.IsTyped := by
  intro view hView
  rcases Views.mem_modify hView with
    hOld | ⟨before, hBefore, rfl⟩
  · exact hTyped.views view hOld
  · exact hChange before (hTyped.views before hBefore)

/- Changing an input within its kind. -/
theorem mapField
    (hTyped : form.IsTyped)
    {path : FieldPath}
    {change : Field → Field}
    (hChange :
      ∀ field, field.kind = path.kind →
        (change field).kind = path.kind) :
    (form.mapField path change).IsTyped := by
  cases path with
  | projectName =>
      exact
        { hTyped with
          projectName := hChange _ hTyped.projectName }
  | email =>
      exact { hTyped with email := hChange _ hTyped.email }
  | configEmail =>
      exact
        { hTyped with
          configEmail := hChange _ hTyped.configEmail }
  | pollScmTrigger =>
      exact
        { hTyped with
          pollScmTrigger := hChange _ hTyped.pollScmTrigger }
  | buildPeriodicallyTrigger =>
      exact
        { hTyped with
          buildPeriodicallyTrigger :=
            hChange _ hTyped.buildPeriodicallyTrigger }
  | rejectionReason =>
      exact { hTyped with reason := hChange _ hTyped.reason }
  | addUser =>
      exact { hTyped with addUser := hChange _ hTyped.addUser }
  | view id name =>
      refine { hTyped with views := ?_ }
      apply hTyped.modify
      intro view hView
      exact hView.mapField hChange
  | builder id builder =>
      refine { hTyped with views := ?_ }
      apply hTyped.modify
      intro view hView
      apply hView.mapBuilder
      intro entry hKind
      exact hChange _ hKind

theorem mapTrigger
    (hTyped : form.IsTyped)
    (path : FieldPath)
    {change : Trigger → Trigger}
    (hChange :
      ∀ trigger, (change trigger).field = trigger.field) :
    (form.mapTrigger path change).IsTyped := by
  unfold Form.mapTrigger
  split
  · refine { hTyped with pollScmTrigger := ?_ }
    rw [hChange]
    exact hTyped.pollScmTrigger
  · refine { hTyped with buildPeriodicallyTrigger := ?_ }
    rw [hChange]
    exact hTyped.buildPeriodicallyTrigger
  · exact hTyped

theorem forget
    (hTyped : form.IsTyped)
    (path : FieldPath) :
    (form.forget path).IsTyped := by
  unfold Form.forget
  dsimp only
  split
  · have hMessage :
        ({ form with formMessage := none } : Form).IsTyped :=
      { hTyped with }
    exact hMessage.mapTrigger path fun _ => rfl
  · exact hTyped.mapTrigger path fun _ => rfl

theorem edit
    (hTyped : form.IsTyped)
    (path : FieldPath)
    (value : String)
    (validate : Bool) :
    (form.edit path value validate).2.IsTyped := by
  have hForgot := hTyped.forget path
  rcases form.snd_edit path value validate with
    hSame | hOnly | ⟨field, hField, hEdit⟩
  · rw [hSame]
    exact hTyped
  · rw [hOnly]
    exact hForgot
  · have hKind := hForgot.field?_kind hField
    rw [hEdit]
    apply hForgot.mapField
    intro _ _
    cases validate <;> exact hKind

theorem revalidateViews (hTyped : form.IsTyped) :
    form.revalidateViews.IsTyped := by
  refine { hTyped with views := ?_ }
  intro view hView
  rcases List.mem_map.mp hView with ⟨before, hBefore, rfl⟩
  exact (hTyped.views before hBefore).revalidate

theorem pass (hTyped : form.IsTyped) :
    form.pass.2.IsTyped := by
  unfold Form.pass
  split
  · exact hTyped
  · exact { hTyped with }
  · exact hTyped
  · exact hTyped

/- The check only sets indicators, messages and the focus. -/
theorem check (hTyped : form.IsTyped) :
    form.check.2.IsTyped := by
  unfold Form.check
  split
  · exact hTyped
  · dsimp only
    split
    · exact { hTyped with }
    · split
      · exact { hTyped with }
      · have hNamed :
            ({ form with
              formMessage := none
              projectName :=
                { form.projectName with
                  fault :=
                    FieldKind.projectName.fault?
                      form.projectName.value }
              addViewPrompt := false } : Form).IsTyped :=
          { hTyped with }
        split
        · exact { hNamed with }
        · have hViews := hNamed.revalidateViews
          split
          · exact { hViews with }
          · exact hViews.pass

theorem showEmail
    (hTyped : form.IsTyped)
    (enabled : Bool) :
    (form.showEmail enabled).IsTyped := by
  refine { hTyped with email := ?_ }
  cases enabled <;> exact hTyped.email

theorem applyConfiguration
    (hTyped : form.IsTyped)
    (config : Configuration) :
    (form.applyConfiguration config).IsTyped := by
  have hShown := hTyped.showEmail true
  unfold Form.applyConfiguration
  cases config.email with
  | none => exact { hTyped with }
  | some address =>
      dsimp only
      split
      · exact { hTyped with }
      · exact { hShown with }

/- One case for each thing that is loaded. -/
theorem load
    (hTyped : form.IsTyped)
    (hLoad : Form.Load form after) :
    after.IsTyped := by
  cases hLoad with
  | views loaded =>
      refine { hTyped with views := ?_ }
      intro view hView
      unfold Views.load at hView
      split at hView
      · exact hTyped.views view hView
      · rcases Views.mem_itemsOf hView with
          ⟨id, html, record, _, rfl⟩
        exact View.IsTyped.ofRecord _ _ _ _
  | users html names => exact { hTyped with }
  | record config => exact hTyped.applyConfiguration config
  | creatorName name => exact { hTyped with }
  | deletedViews html records => exact { hTyped with }
  | difference difference => exact { hTyped with }
  | stored => exact { hTyped with }
  | new => exact { hTyped with views := by simp [Views.reset] }
  | newComments =>
      unfold Form.setCommentsEnabled
      split
      · exact { hTyped with }
      · exact hTyped
  | newTrigger value =>
      apply hTyped.mapField
      intro field hKind
      exact hKind
  | defaults defaults => exact { hTyped with }
  | administrator isAdmin => exact { hTyped with }

/- One case for each thing that may happen to a form. -/
theorem step
    {mode : PageMode}
    (hTyped : form.IsTyped)
    (hStep : Form.Step mode form after) :
    after.IsTyped := by
  cases hStep with
  | views _ hViews =>
      refine { hTyped with views := ?_ }
      apply hViews.forall_items _ _ hTyped.views
      · intro id html credentials folder
        apply (View.IsTyped.blank id html credentials).mapField
        intro field hKind
        exact hKind
      · intro view changed hView hStep
        exact hView.step hStep
  | dropPrompt => exact { hTyped with }
  | edit path value validate =>
      exact hTyped.edit path value validate
  | judge path check => exact hTyped.mapTrigger path fun _ => rfl
  | help help => exact { hTyped with }
  | takeUser => exact { hTyped with }
  | addUser name html => exact { hTyped with }
  | deleteUser row => exact { hTyped with }
  | check => exact hTyped.check
  | result result => exact { hTyped with }
  | message message => exact { hTyped with }
  | openReject => exact { hTyped with }
  | focusReason => exact { hTyped with }
  | reject reason => exact { hTyped with }
  | cancelReject => exact { hTyped with }

end IsTyped

end Form

end BuildForm
