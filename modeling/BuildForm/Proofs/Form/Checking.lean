import BuildForm.Proofs.Form.Marks

/-
  The ways a check can end, and what all of them leave alone.

  A check writes into the form on its way. Whichever way it
  ends, the next one goes the same way and ends with the same
  form, and nothing is written but indicators of inputs that
  are looked at anew, messages, the focus and, on a page to
  approve or reject, the form type.

  Main declarations:
    * `Form.Exit`
    * `Form.exit_iff`
    * `Form.check_check`
    * `Form.unmarked`
    * `Form.check_edits_nothing`
-/

------------------------------------------------------------
-- How a Check Ends
------------------------------------------------------------

namespace BuildForm

namespace Form

/- The fault of the project name as it is. -/
def nameFault? (form : Form) : Option Rule.Fault :=
  FieldKind.projectName.fault? form.projectName.value

/- What is wrong with an e-mail or a trigger by its indicator. -/
def standingOffence?
    (form : Form) : Option (FieldPath × Reason) :=
  form.mailOffence?.or form.triggerOffence?

/- The form after its project name was looked at. -/
def named (form : Form) : Form :=
  { form with
    formMessage := none
    projectName :=
      { form.projectName with fault := form.nameFault? } }

/- The form after a view was found in it. -/
def viewed (form : Form) : Form :=
  { form.named with addViewPrompt := false }

/-
  The ways out of a check, each with what holds if it is
  taken: what is shown only, a wrong name, no view, a wrong
  e-mail or trigger, a wrong input of a view, and no fault.
-/
inductive Exit (form : Form) : FormCheck × Form → Prop where
  | shown :
      form.mode = .view →
      Exit form (.blocked .readOnly, form)
  | name {fault : Rule.Fault} :
      form.mode ≠ .view →
      form.nameFault? = some fault →
      Exit form (form.named.blockAt (.projectName, .rule fault))
  | viewless :
      form.mode ≠ .view →
      form.nameFault? = none →
      form.views.isEmpty →
      Exit form
        (.blocked .missingView,
          { form.named with addViewPrompt := true })
  | standing {offence : FieldPath × Reason} :
      form.mode ≠ .view →
      form.nameFault? = none →
      ¬form.views.isEmpty →
      form.standingOffence? = some offence →
      Exit form (form.viewed.blockAt offence)
  | view {offence : FieldPath × Reason} :
      form.mode ≠ .view →
      form.nameFault? = none →
      ¬form.views.isEmpty →
      form.standingOffence? = none →
      form.revalidateViews.viewOffence? = some offence →
      Exit form (form.viewed.revalidateViews.blockAt offence)
  | passed :
      form.mode ≠ .view →
      form.nameFault? = none →
      ¬form.views.isEmpty →
      form.standingOffence? = none →
      form.revalidateViews.viewOffence? = none →
      Exit form form.viewed.revalidateViews.pass

/- One of the ways is taken. -/
theorem exit_check (form : Form) : form.Exit form.check := by
  unfold check
  split
  · rename_i hMode
    exact .shown hMode
  · rename_i hMode
    dsimp only
    split
    · rename_i hName
      exact .name hMode hName
    · rename_i hName
      split
      · rename_i hEmpty
        exact .viewless hMode hName hEmpty
      · rename_i hFull
        split
        · rename_i hFound
          exact .standing hMode hName hFull hFound
        · rename_i hFound
          split
          · rename_i hWrong
            exact .view hMode hName hFull hFound hWrong
          · rename_i hClean
            exact .passed hMode hName hFull hFound hClean

variable {form : Form}
variable {result : FormCheck × Form}

/- No two ways can be taken. -/
theorem Exit.unique
    {other : FormCheck × Form}
    (hExit : form.Exit result)
    (hOther : form.Exit other) :
    result = other := by
  cases hExit <;> cases hOther <;> simp_all

theorem exit_iff : form.Exit result ↔ form.check = result :=
  ⟨form.exit_check.unique,
    fun hCheck => hCheck ▸ form.exit_check⟩

end Form

end BuildForm

------------------------------------------------------------
-- Checking Again
------------------------------------------------------------

namespace BuildForm

namespace Form

variable {form : Form}

/- Views are there or not, whatever is run on them. -/
theorem isEmpty_revalidateViews (form : Form) :
    form.revalidateViews.views.isEmpty =
      form.views.isEmpty := by
  simp [revalidateViews, Views.isEmpty]

/- To look at all of a form again finds the same. -/
theorem viewed_revalidateViews_again (form : Form) :
    form.viewed.revalidateViews.viewed.revalidateViews =
      form.viewed.revalidateViews :=
  form.viewed.revalidateViews_revalidateViews

theorem viewOffence?_viewed (form : Form) :
    form.viewed.revalidateViews.revalidateViews.viewOffence? =
      form.revalidateViews.viewOffence? := by
  rw [revalidateViews_revalidateViews]
  rfl

theorem exists_pass_eq (form : Form) :
    ∃ formType, form.pass.2 = { form with formType } := by
  unfold pass
  split
  · exact ⟨_, rfl⟩
  · exact ⟨_, rfl⟩
  · exact ⟨_, rfl⟩
  · exact ⟨_, rfl⟩

/- The form type does not tell what a form is ready for. -/
theorem pass_pass (form : Form) :
    form.pass.2.pass = form.pass := by
  cases hMode : form.mode <;> simp [pass, hMode]

/-
  What a check writes it does not read, but for indicators
  that it then writes the same way, so that the form that it
  leaves takes the same way out and is left as it is.
-/
theorem Exit.again
    {result : FormCheck × Form}
    (hExit : form.Exit result) :
    result.2.Exit result := by
  cases hExit with
  | shown hMode => exact .shown hMode
  | name hMode hName => exact .name hMode hName
  | viewless hMode hName hEmpty =>
      exact .viewless hMode hName hEmpty
  | standing hMode hName hFull hFound =>
      exact .standing hMode hName hFull hFound
  | @view offence hMode hName hFull hFound hWrong =>
      let after := (form.viewed.revalidateViews.blockAt offence).2
      have hFullAfter : ¬after.views.isEmpty := by
        rw [← form.isEmpty_revalidateViews] at hFull
        exact hFull
      have hWrongAfter :
          after.revalidateViews.viewOffence? = some offence :=
        form.viewOffence?_viewed.trans hWrong
      have hSame :
          after.viewed.revalidateViews.blockAt offence =
            form.viewed.revalidateViews.blockAt offence := by
        change
          form.viewed.revalidateViews.revalidateViews.blockAt
              offence = _
        rw [revalidateViews_revalidateViews]
      have hExit :
          after.Exit
            (after.viewed.revalidateViews.blockAt offence) :=
        .view hMode hName hFullAfter hFound hWrongAfter
      rw [hSame] at hExit
      exact hExit
  | passed hMode hName hFull hFound hClean =>
      have hPass := form.viewed.revalidateViews.pass_pass
      rcases form.viewed.revalidateViews.exists_pass_eq with
        ⟨formType, hEq⟩
      rw [hEq] at hPass ⊢
      let after : Form :=
        { form.viewed.revalidateViews with formType }
      have hFullAfter : ¬after.views.isEmpty := by
        rw [← form.isEmpty_revalidateViews] at hFull
        exact hFull
      have hCleanAfter :
          after.revalidateViews.viewOffence? = none :=
        form.viewOffence?_viewed.trans hClean
      have hSame : after.viewed.revalidateViews = after :=
        congrArg (fun form => ({ form with formType } : Form))
          form.viewed_revalidateViews_again
      have hExit :
          after.Exit after.viewed.revalidateViews.pass :=
        .passed hMode hName hFullAfter hFound hCleanAfter
      rw [hSame, hPass] at hExit
      exact hExit

theorem check_check (form : Form) :
    form.check.2.check = form.check :=
  exit_iff.mp form.exit_check.again

end Form

end BuildForm

------------------------------------------------------------
-- What a Check Leaves Alone
------------------------------------------------------------

namespace BuildForm

/- A view without the indicators of inputs with a rule. -/
def View.unmarked (view : View) : View :=
  { view with
    localDirectoryPath := view.localDirectoryPath.clearFault
    projectUrl := view.projectUrl.clearFault
    fileToBuild := view.fileToBuild.clearFault
    pathToArtifacts := view.pathToArtifacts.clearFault
    versionFilesPath := view.versionFilesPath.clearFault
    builders := view.builders.map fun builder =>
      { builder with
        userConfig := builder.userConfig.clearFault } }

/- Running the rules sets these indicators only. -/
theorem View.unmarked_revalidate (view : View) :
    view.revalidate.unmarked = view.unmarked := by
  unfold View.unmarked View.revalidate
  simp only [List.map_map]
  rfl

namespace Form

/-
  A form without what a check may write: the indicators of
  its name and its views, messages, the focus and its type.
-/
def unmarked (form : Form) : Form :=
  { form with
    formType := .approved
    projectName := form.projectName.clearFault
    views :=
      { form.views with
        items := form.views.items.map View.unmarked }
    addViewPrompt := false
    formMessage := none
    focus := none }

theorem unmarked_revalidateViews (form : Form) :
    form.revalidateViews.unmarked = form.unmarked := by
  have hViews :
      View.unmarked ∘ View.revalidate = View.unmarked :=
    funext View.unmarked_revalidate
  unfold unmarked revalidateViews
  dsimp only
  rw [List.map_map, hViews]

theorem unmarked_pass (form : Form) :
    form.pass.2.unmarked = form.unmarked := by
  rcases form.exists_pass_eq with ⟨formType, hEq⟩
  rw [hEq]
  rfl

theorem Exit.unmarked_eq
    {form : Form}
    {result : FormCheck × Form}
    (hExit : form.Exit result) :
    result.2.unmarked = form.unmarked := by
  have hViews :
      form.viewed.revalidateViews.unmarked = form.unmarked :=
    form.viewed.unmarked_revalidateViews
  cases hExit with
  | shown => rfl
  | name => rfl
  | viewless => rfl
  | standing => rfl
  | view => exact hViews
  | passed => exact (unmarked_pass _).trans hViews

theorem unmarked_check (form : Form) :
    form.check.2.unmarked = form.unmarked :=
  form.exit_check.unmarked_eq

end Form

end BuildForm

------------------------------------------------------------
-- Inputs without Their Indicators
------------------------------------------------------------

namespace BuildForm

namespace View

/- An input without its indicator is that of the bare view. -/
theorem field?_unmarked
    (view : View)
    (name : ViewField) :
    (view.unmarked.field? name).map Field.clearFault =
      (view.field? name).map Field.clearFault := by
  cases name <;> rfl

theorem builder?_unmarked
    (view : View)
    (id : BuilderId) :
    ((view.unmarked.builder? id).map Builder.userConfig).map
        Field.clearFault =
      ((view.builder? id).map Builder.userConfig).map
        Field.clearFault := by
  unfold builder? unmarked
  rw [List.find?_map]
  simp only [Option.map_map]
  rfl

end View

namespace Form

theorem view?_unmarked
    (form : Form)
    (id : ViewId) :
    form.unmarked.views.view? id =
      (form.views.view? id).map View.unmarked := by
  unfold Views.view? unmarked
  dsimp only
  rw [List.find?_map]
  rfl

theorem field?_unmarked
    (form : Form)
    (path : FieldPath) :
    (form.unmarked.field? path).map Field.clearFault =
      (form.field? path).map Field.clearFault := by
  cases path with
  | view id name =>
      dsimp only [field?]
      rw [view?_unmarked]
      cases form.views.view? id with
      | none => rfl
      | some view => exact view.field?_unmarked name
  | builder id builder =>
      dsimp only [field?]
      rw [view?_unmarked]
      cases form.views.view? id with
      | none => rfl
      | some view => exact view.builder?_unmarked builder
  | _ => rfl

theorem field?_check
    (form : Form)
    (path : FieldPath) :
    (form.check.2.field? path).map Field.clearFault =
      (form.field? path).map Field.clearFault := by
  rw [← field?_unmarked, unmarked_check, field?_unmarked]

theorem toConfiguration_check (form : Form) :
    form.check.2.toConfiguration = form.toConfiguration := by
  have hReviewed := form.showsSame_check.reviewed
  have hReason := form.rejectionReason_check
  calc
    form.check.2.toConfiguration =
        { form.check.2.reviewed with
          rejectionReason := form.check.2.rejectionReason } :=
      rfl
    _ = form.toConfiguration := by
      rw [hReviewed, hReason]
      rfl

end Form

end BuildForm

------------------------------------------------------------
-- Checking Edits Nothing
------------------------------------------------------------

namespace BuildForm

/-
  A check leaves alone what would be sent of a form, all its
  inputs but for indicators, and of those the indicators of
  the triggers and the e-mail inputs too. To check again comes
  to the same and leaves the form as it is.
-/
theorem Form.check_edits_nothing (form : Form) :
    let after := form.check.2
    after.toConfiguration = form.toConfiguration ∧
      after.hiddenStrings = form.hiddenStrings ∧
      (∀ path,
        (after.field? path).map Field.clearFault =
          (form.field? path).map Field.clearFault) ∧
      after.pollScmTrigger = form.pollScmTrigger ∧
      after.buildPeriodicallyTrigger =
        form.buildPeriodicallyTrigger ∧
      after.email = form.email ∧
      after.configEmail = form.configEmail ∧
      after.unmarked = form.unmarked ∧
      (form.mode ≠ .approveReject →
        after.formType = form.formType) ∧
      after.check = (form.check.1, after) := by
  intro after
  rcases form.exists_check_eq with
    ⟨_, _, _, _, _, _, hType, hEq⟩
  have hAfter : after = _ := hEq
  refine
    ⟨form.toConfiguration_check, form.showsSame_check.hidden,
      form.field?_check, ?_, ?_, ?_, ?_, form.unmarked_check, ?_,
      form.check_check⟩
  · rw [hAfter]
  · rw [hAfter]
  · rw [hAfter]
  · rw [hAfter]
  · rw [hAfter]
    exact hType

end BuildForm
