import BuildForm.Proofs.Form.Checking
import BuildForm.Proofs.Page.Arising

/-
  What a check blocks a form for.

  All that is to be objected to in a form is listed first, in
  the order in which it is looked for and by the values of the
  inputs, not by their indicators; e-mail inputs and triggers
  alone go by the indicator that they have. The check blocks a
  form for the first of these objections, and only for want of
  one lets it pass.

  Main declarations:
    * `Form.objections`
    * `Form.Exit.head?_objections`
    * `Form.objections_eq_nil_iff`
    * `Form.check_names_first`
-/

------------------------------------------------------------
-- Objections
------------------------------------------------------------

namespace BuildForm

/- The objection to an input for what is wrong with it. -/
def FieldPath.objections
    (path : FieldPath)
    (fault? : Option Rule.Fault) : List FormError :=
  (fault?.map fun fault =>
    FormError.invalid path (.rule fault)).toList

/- The objection to a trigger for the last verdict on it. -/
def Trigger.objections
    (trigger : Trigger)
    (path : FieldPath) : List FormError :=
  match trigger.check with
  | none => []
  | some check =>
      if check.valid then
        []
      else
        [.invalid path (.schedule check.message)]

namespace Form

/- The objections to the inputs of a name, view by view. -/
def inputObjections
    (form : Form)
    (name : ViewField)
    (input : View → Field) : List FormError :=
  form.views.items.flatMap fun view =>
    FieldPath.objections (.view view.id name)
      (name.kind.fault? (input view).value)

/- The objections to overrides, builder by builder. -/
def overrideObjections (form : Form) : List FormError :=
  form.views.items.flatMap fun view =>
    view.builders.flatMap fun builder =>
      FieldPath.objections (.builder view.id builder.id)
        (FieldKind.userConfig.fault? builder.userConfig.value)

/- The objections to the e-mail inputs and the triggers. -/
def standingObjections (form : Form) : List FormError :=
  FieldPath.objections .email form.email.fault ++
    FieldPath.objections .configEmail form.configEmail.fault ++
    form.pollScmTrigger.objections .pollScmTrigger ++
    form.buildPeriodicallyTrigger.objections
      .buildPeriodicallyTrigger

/- The objections to path inputs, and then to overrides. -/
def viewObjections (form : Form) : List FormError :=
  form.inputObjections .projectUrl View.projectUrl ++
    form.inputObjections .localDirectoryPath
      View.localDirectoryPath ++
    form.inputObjections .pathToArtifacts
      View.pathToArtifacts ++
    form.inputObjections .versionFilesPath
      View.versionFilesPath ++
    form.inputObjections .fileToBuild View.fileToBuild ++
    form.overrideObjections

/- All objections, in the order in which they are raised. -/
def objections (form : Form) : List FormError :=
  FieldPath.objections .projectName form.nameFault? ++
    (if form.views.isEmpty then [.missingView] else []) ++
    form.standingObjections ++
    form.viewObjections

end Form

end BuildForm

------------------------------------------------------------
-- The First Objection
------------------------------------------------------------

namespace BuildForm

/- What a check blocks a form for. -/
def FormCheck.error? : FormCheck → Option FormError
  | .ready => none
  | .nameCheckRequired => none
  | .blocked error => some error

/- An offence as the error that it blocks a form with. -/
def FormError.ofOffence
    (offence : FieldPath × Reason) : FormError :=
  .invalid offence.1 offence.2

theorem findSome?_cons_eq_or
    {α β : Type}
    (find? : α → Option β)
    (first : α)
    (rest : List α) :
    (first :: rest).findSome? find? =
      (find? first).or (rest.findSome? find?) := by
  rw [List.findSome?_cons]
  cases find? first <;> rfl

/- What is found first is the first of what there is. -/
theorem head?_flatMap_eq
    {α : Type}
    {change : α → α}
    {offence? : α → Option (FieldPath × Reason)}
    {objections : α → List FormError}
    {items : List α}
    (hItems :
      ∀ item ∈ items,
        (objections item).head? =
          (offence? (change item)).map FormError.ofOffence) :
    (items.flatMap objections).head? =
      ((items.map change).findSome? offence?).map
        FormError.ofOffence := by
  induction items with
  | nil => rfl
  | cons item items ih =>
      have hRest :=
        ih fun other hOther => hItems other (by simp [hOther])
      rw [List.flatMap_cons, List.head?_append,
        hItems item (by simp), hRest, List.map_cons,
        List.findSome?_cons]
      cases offence? (change item) <;> rfl

theorem FieldPath.map_ofOffence
    (path : FieldPath)
    (fault? : Option Rule.Fault) :
    (fault?.map fun fault => (path, Reason.rule fault)).map
        FormError.ofOffence =
      (path.objections fault?).head? := by
  cases fault? <;> rfl

/- The offence of a trigger whose last verdict is against it. -/
def Trigger.offence?
    (trigger : Trigger)
    (path : FieldPath) : Option (FieldPath × Reason) :=
  trigger.check.bind fun check =>
    if check.valid then
      none
    else
      some (path, .schedule check.message)

theorem Trigger.map_ofOffence
    (trigger : Trigger)
    (path : FieldPath) :
    (trigger.offence? path).map FormError.ofOffence =
      (trigger.objections path).head? := by
  unfold offence? objections
  cases trigger.check with
  | none => rfl
  | some check =>
      dsimp only [Option.bind_some]
      cases check.valid <;> rfl

namespace Form

variable {form : Form}

theorem mailOffence?_eq (form : Form) :
    form.mailOffence? =
      (form.email.fault.map fun fault =>
        (.email, .rule fault)).or
        (form.configEmail.fault.map fun fault =>
          (.configEmail, .rule fault)) := by
  unfold mailOffence?
  rw [findSome?_cons_eq_or, findSome?_cons_eq_or,
    List.findSome?_nil, Option.or_none]
  rfl

theorem triggerOffence?_eq (form : Form) :
    form.triggerOffence? =
      (form.pollScmTrigger.offence? .pollScmTrigger).or
        (form.buildPeriodicallyTrigger.offence?
          .buildPeriodicallyTrigger) := by
  unfold triggerOffence?
  rw [findSome?_cons_eq_or, findSome?_cons_eq_or,
    List.findSome?_nil, Option.or_none]
  rfl

theorem head?_standingObjections (form : Form) :
    form.standingObjections.head? =
      form.standingOffence?.map FormError.ofOffence := by
  unfold standingObjections standingOffence?
  simp only [mailOffence?_eq, triggerOffence?_eq,
    List.head?_append, Option.map_or, Option.or_assoc,
    FieldPath.map_ofOffence, Trigger.map_ofOffence]

/-
  The rules are run on the values of inputs of the kinds of
  their places, so that what they find are the objections.
-/
theorem head?_inputObjections
    (hTyped : form.IsTyped)
    {name : ViewField}
    {input : View → Field}
    (hInput :
      ∀ view : View,
        view.revalidate.field? name = some (input view).blur)
    (hKind :
      ∀ view : View, view.IsTyped →
        (input view).kind = name.kind) :
    (form.inputObjections name input).head? =
      (groupOffence? form.revalidateViews.views.items name).map
        FormError.ofOffence := by
  apply head?_flatMap_eq
  intro view hView
  have hFault :
      (input view).blur.fault =
        name.kind.fault? (input view).value := by
    rw [← hKind view (hTyped.views view hView)]
    rfl
  rw [hInput, Option.bind_some, hFault]
  exact (FieldPath.map_ofOffence _ _).symm

theorem head?_overrideObjections (hTyped : form.IsTyped) :
    form.overrideObjections.head? =
      (builderOffence? form.revalidateViews.views.items).map
        FormError.ofOffence := by
  apply head?_flatMap_eq
  intro view hView
  apply head?_flatMap_eq
  intro builder hBuilder
  have hKind :=
    (hTyped.views view hView).builders builder hBuilder
  have hFault :
      builder.userConfig.blur.fault =
        FieldKind.userConfig.fault? builder.userConfig.value := by
    rw [← hKind]
    rfl
  rw [hFault]
  exact (FieldPath.map_ofOffence _ _).symm

/- What is wrong with views, as one search after the other. -/
theorem viewOffence?_eq (form : Form) :
    form.viewOffence? =
      (groupOffence? form.views.items .projectUrl).or
        ((groupOffence? form.views.items .localDirectoryPath).or
          ((groupOffence? form.views.items .pathToArtifacts).or
            ((groupOffence? form.views.items
                .versionFilesPath).or
              ((groupOffence? form.views.items .fileToBuild).or
                (builderOffence? form.views.items))))) := by
  have hSearch :
      form.viewOffence? =
        (pathGroups.findSome?
          (groupOffence? form.views.items)).or
            (builderOffence? form.views.items) := by
    unfold viewOffence?
    split
    · rename_i hFound
      rw [hFound, Option.some_or]
    · rename_i hNone
      rw [hNone, Option.none_or]
  rw [hSearch]
  unfold pathGroups
  simp only [findSome?_cons_eq_or, List.findSome?_nil,
    Option.or_none, Option.or_assoc]

theorem head?_viewObjections (hTyped : form.IsTyped) :
    form.viewObjections.head? =
      form.revalidateViews.viewOffence?.map
        FormError.ofOffence := by
  have hUrl :
      (form.inputObjections .projectUrl View.projectUrl).head? =
        _ :=
    head?_inputObjections hTyped (fun _ => rfl)
      fun _ hView => hView.projectUrl
  have hDirectory :
      (form.inputObjections .localDirectoryPath
        View.localDirectoryPath).head? = _ :=
    head?_inputObjections hTyped (fun _ => rfl)
      fun _ hView => hView.localDirectoryPath
  have hArtifacts :
      (form.inputObjections .pathToArtifacts
        View.pathToArtifacts).head? = _ :=
    head?_inputObjections hTyped (fun _ => rfl)
      fun _ hView => hView.pathToArtifacts
  have hVersions :
      (form.inputObjections .versionFilesPath
        View.versionFilesPath).head? = _ :=
    head?_inputObjections hTyped (fun _ => rfl)
      fun _ hView => hView.versionFilesPath
  have hFile :
      (form.inputObjections .fileToBuild
        View.fileToBuild).head? = _ :=
    head?_inputObjections hTyped (fun _ => rfl)
      fun _ hView => hView.fileToBuild
  unfold viewObjections
  simp only [List.head?_append, viewOffence?_eq, Option.map_or,
    Option.or_assoc, hUrl, hDirectory, hArtifacts, hVersions,
    hFile, head?_overrideObjections hTyped]

theorem error?_pass (hMode : form.mode ≠ .view) :
    form.pass.1.error? = none := by
  unfold pass
  split
  · rfl
  · rfl
  · rfl
  · rename_i hView
    exact absurd hView hMode

/- A form that is not just shown is blocked for the first. -/
theorem Exit.head?_objections
    {result : FormCheck × Form}
    (hTyped : form.IsTyped)
    (hMode : form.mode ≠ .view)
    (hExit : form.Exit result) :
    form.objections.head? = result.1.error? := by
  unfold objections
  rw [List.head?_append, List.head?_append, List.head?_append,
    head?_standingObjections, head?_viewObjections hTyped,
    ← FieldPath.map_ofOffence]
  cases hExit with
  | shown hView => exact absurd hView hMode
  | name _ hName =>
      rw [hName]
      rfl
  | viewless _ hName hEmpty =>
      rw [hName, if_pos hEmpty]
      rfl
  | standing _ hName hFull hFound =>
      rw [hName, if_neg hFull, hFound]
      rfl
  | view _ hName hFull hFound hWrong =>
      rw [hName, if_neg hFull, hFound, hWrong]
      rfl
  | passed _ hName hFull hFound hClean =>
      have hPass :
          form.viewed.revalidateViews.pass.1.error? = none :=
        error?_pass hMode
      rw [hName, if_neg hFull, hFound, hClean, hPass]
      rfl

end Form

end BuildForm

------------------------------------------------------------
-- Forms without Objections
------------------------------------------------------------

namespace BuildForm

/- A view with an input or an override that is wrong. -/
def View.IsRejected (view : View) : Prop :=
  ¬Rule.isRemote view.projectUrl.value ∨
    ¬Rule.isLocalDirectory view.localDirectoryPath.value ∨
    ¬Rule.isAntPath view.pathToArtifacts.value ∨
    ¬Rule.isAntPath view.versionFilesPath.value ∨
    ¬Rule.isFileToBuild view.fileToBuild.value ∨
    ∃ builder ∈ view.builders,
      ¬Rule.isOverride builder.userConfig.value

/- A form with anything that it can be blocked for. -/
def Form.IsRejected (form : Form) : Prop :=
  ¬Rule.isProjectName form.projectName.value ∨
    form.views.items = [] ∨
    form.email.fault ≠ none ∨
    form.configEmail.fault ≠ none ∨
    form.pollScmTrigger.isError ∨
    form.buildPeriodicallyTrigger.isError ∨
    ∃ view ∈ form.views.items, view.IsRejected

theorem FieldPath.objections_eq_nil_iff
    {path : FieldPath}
    {fault? : Option Rule.Fault} :
    path.objections fault? = [] ↔ fault? = none := by
  cases fault? <;> simp [objections]

theorem Trigger.objections_eq_nil_iff
    {trigger : Trigger}
    {path : FieldPath} :
    trigger.objections path = [] ↔ ¬trigger.isError := by
  unfold objections isError
  cases trigger.check with
  | none => simp
  | some check => simp

namespace Form

variable {form : Form}

theorem inputObjections_eq_nil_iff
    {name : ViewField}
    {input : View → Field} :
    form.inputObjections name input = [] ↔
      ∀ view ∈ form.views.items,
        name.kind.accepts (input view).value := by
  unfold inputObjections
  simp only [List.flatMap_eq_nil_iff,
    FieldPath.objections_eq_nil_iff,
    FieldKind.fault?_eq_none_iff]

theorem overrideObjections_eq_nil_iff :
    form.overrideObjections = [] ↔
      ∀ view ∈ form.views.items, ∀ builder ∈ view.builders,
        Rule.isOverride builder.userConfig.value := by
  unfold overrideObjections
  simp only [List.flatMap_eq_nil_iff,
    FieldPath.objections_eq_nil_iff,
    FieldKind.fault?_eq_none_iff, FieldKind.accepts]

theorem viewObjections_eq_nil_iff :
    form.viewObjections = [] ↔
      ∀ view ∈ form.views.items, ¬view.IsRejected := by
  unfold viewObjections View.IsRejected
  simp only [List.append_eq_nil_iff, inputObjections_eq_nil_iff,
    overrideObjections_eq_nil_iff, ViewField.kind,
    FieldKind.accepts, not_or, Decidable.not_not, not_exists,
    not_and, forall_and, and_assoc]

theorem standingObjections_eq_nil_iff :
    form.standingObjections = [] ↔
      form.email.fault = none ∧
        form.configEmail.fault = none ∧
        ¬form.pollScmTrigger.isError ∧
        ¬form.buildPeriodicallyTrigger.isError := by
  unfold standingObjections
  simp only [List.append_eq_nil_iff,
    FieldPath.objections_eq_nil_iff,
    Trigger.objections_eq_nil_iff, and_assoc]

/- There is an objection exactly to a form that is wrong. -/
theorem objections_eq_nil_iff :
    form.objections = [] ↔ ¬form.IsRejected := by
  have hName :
      form.nameFault? = none ↔
        Rule.isProjectName form.projectName.value :=
    FieldKind.fault?_eq_none_iff .projectName _
  have hViews :
      (if form.views.isEmpty then
          [FormError.missingView]
        else
          []) = [] ↔ ¬form.views.items = [] := by
    unfold Views.isEmpty
    cases form.views.items <;> simp
  unfold objections IsRejected
  simp only [List.append_eq_nil_iff,
    FieldPath.objections_eq_nil_iff, hName, hViews,
    standingObjections_eq_nil_iff, viewObjections_eq_nil_iff,
    not_or, Decidable.not_not, not_exists, not_and, and_assoc,
    ne_eq]

end Form

end BuildForm

------------------------------------------------------------
-- The Gate before Sending
------------------------------------------------------------

namespace BuildForm

namespace Form

variable {form : Form}

/- The focus goes to what a form is blocked for, if anywhere. -/
theorem Exit.focus_eq
    {result : FormCheck × Form}
    (hMode : form.mode ≠ .view)
    (hExit : form.Exit result) :
    result.2.focus =
      (result.1.error?.bind FormError.path?).or form.focus := by
  cases hExit with
  | shown hView => exact absurd hView hMode
  | name => rfl
  | viewless => rfl
  | standing => rfl
  | view => rfl
  | passed =>
      have hPass :
          form.viewed.revalidateViews.pass.1.error? = none :=
        error?_pass hMode
      rw [hPass]
      rcases form.viewed.revalidateViews.exists_pass_eq with
        ⟨formType, hEq⟩
      rw [hEq]
      rfl

/- What a form is ready for if nothing blocks it. -/
theorem Exit.eq_pass
    {result : FormCheck × Form}
    (hNone : result.1.error? = none)
    (hExit : form.Exit result) :
    result = form.viewed.revalidateViews.pass := by
  cases hExit with
  | passed => rfl
  | _ => cases hNone

end Form

theorem FormCheck.error?_eq_some_iff
    {outcome : FormCheck}
    {error : FormError} :
    outcome.error? = some error ↔ outcome = .blocked error := by
  cases outcome <;> simp [error?]

/-
  A check in any mode but that of looking at a form blocks it
  exactly if something is wrong with it, for the first thing
  that is, and sends the focus there. Without anything wrong
  the focus stays, and what is next is up to the mode.
-/
theorem Form.check_names_first
    {form : Form}
    (hArises : form.Arises)
    (hMode : form.mode ≠ .view) :
    ((∃ error, form.check.1 = .blocked error) ↔
      form.IsRejected) ∧
      (∀ error, form.check.1 = .blocked error →
        form.objections.head? = some error ∧
          form.check.2.focus = error.path?.or form.focus) ∧
      ((∀ error, form.check.1 ≠ .blocked error) →
        form.check.2.focus = form.focus ∧
          (form.mode = .edit → form.check.1 = .ready) ∧
          (form.mode = .approveReject →
            form.check.1 = .ready ∧
              form.check.2.formType = .approved) ∧
          (form.mode = .create →
            form.check.1 = .nameCheckRequired)) := by
  have hTyped := hArises.isTyped
  have hError := form.exit_check.head?_objections hTyped hMode
  have hFocus := form.exit_check.focus_eq hMode
  refine ⟨?_, ?_, ?_⟩
  · have hObjected :
        form.IsRejected ↔ form.objections.head? ≠ none := by
      rw [ne_eq, List.head?_eq_none_iff, objections_eq_nil_iff,
        Classical.not_not]
    rw [hObjected, hError, Option.ne_none_iff_exists']
    simp only [FormCheck.error?_eq_some_iff]
  · intro error hBlocked
    have hSome := FormCheck.error?_eq_some_iff.mpr hBlocked
    rw [hSome] at hError hFocus
    exact ⟨hError, hFocus⟩
  · intro hPasses
    have hNone : form.check.1.error? = none := by
      rw [Option.eq_none_iff_forall_not_mem]
      intro error hSome
      exact
        hPasses error (FormCheck.error?_eq_some_iff.mp hSome)
    have hPass := form.exit_check.eq_pass hNone
    rw [hNone] at hFocus
    refine ⟨hFocus, ?_, ?_, ?_⟩
    · intro hEdit
      have hKept : form.viewed.revalidateViews.mode = .edit :=
        hEdit
      rw [hPass, pass, hKept]
    · intro hApprove
      have hKept :
          form.viewed.revalidateViews.mode = .approveReject :=
        hApprove
      rw [hPass, pass, hKept]
      exact ⟨rfl, rfl⟩
    · intro hCreate
      have hKept : form.viewed.revalidateViews.mode = .create :=
        hCreate
      rw [hPass, pass, hKept]

/-
  A form whose first view has a wrong directory and whose
  second one has a wrong URL.
-/
def Form.misfilled : Form :=
  let named :=
    (Form.blank .edit).mapField .projectName (·.setValue "core")
  let records : List ViewRecord :=
    [{ localDirectoryPath := "/tmp",
       projectUrl := "https://host.example/core.git" },
     { localDirectoryPath := ".", projectUrl := "core" }]
  { named with views := named.views.load { views := records } }

/- The URLs of all views come before the first directory. -/
theorem Form.check_names_first_url :
    Form.misfilled.Arises ∧
      Form.misfilled.mode ≠ .view ∧
      Form.misfilled.IsRejected ∧
      Form.misfilled.objections.head? =
        some
          (.invalid (.view ⟨1⟩ .projectUrl)
            (.rule (.malformed .url))) ∧
      Form.misfilled.check.2.focus =
        some (.view ⟨1⟩ .projectUrl) := by
  have hArises : Form.misfilled.Arises :=
    .load
      (.input (.blank .edit) (fun field => .setValue field "core")
        .projectName)
      (.views _ _)
  have hMode : Form.misfilled.mode ≠ .view := by decide +kernel
  have hBlocked :
      Form.misfilled.check.1 =
        .blocked
          (.invalid (.view ⟨1⟩ .projectUrl)
            (.rule (.malformed .url))) := by
    decide +kernel
  rcases Form.check_names_first hArises hMode with
    ⟨hIff, hFirst, _⟩
  rcases hFirst _ hBlocked with ⟨hHead, hFocus⟩
  exact
    ⟨hArises, hMode, hIff.mp ⟨_, hBlocked⟩, hHead, hFocus⟩

end BuildForm
