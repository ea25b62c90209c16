import BuildForm.Form.Gate
import BuildForm.Proofs.Form.Step

/-
  What a form is like that passes its check.

  The check looks at indicators, but not at those it finds:
  it first derives the ones of every view from the values, so
  that a form that passes is clean in its values.

  Main declarations:
    * `Form.Passes`
    * `Form.clears_of_check`
    * `Form.vouches_of_check`
    * `Form.exists_check_eq`
-/

------------------------------------------------------------
-- Indicators of a View
------------------------------------------------------------

namespace BuildForm

namespace View

/- The indicators of a view that tell of its values. -/
def IsCurrent (view : View) : Prop :=
  view.revalidate = view

theorem isCurrent_revalidate (view : View) :
    view.revalidate.IsCurrent := by
  unfold IsCurrent revalidate
  simp [Field.blur, Function.comp_def]

end View

end BuildForm

------------------------------------------------------------
-- Forms that Pass
------------------------------------------------------------

namespace BuildForm

namespace Form

/-
  A form with a project name and at least one view, all of
  its views' indicators current and off.
-/
structure Passes (form : Form) : Prop where
  name : Rule.isProjectName form.projectName.value
  views : form.views.items ≠ []
  current : ∀ view ∈ form.views.items, view.IsCurrent
  clean : form.viewOffence? = none

theorem passes_revalidateViews
    {form : Form}
    (hName : Rule.isProjectName form.projectName.value)
    (hViews : form.views.items ≠ [])
    (hClean : form.revalidateViews.viewOffence? = none) :
    form.revalidateViews.Passes where
  name := hName
  views := by
    unfold revalidateViews
    simpa using hViews
  current := by
    intro view hView
    rcases List.mem_map.mp hView with ⟨before, _, rfl⟩
    exact before.isCurrent_revalidate
  clean := hClean

/-
  A form that a check found nothing against: it passes, and
  no verdict on its triggers is against them.
-/
structure IsCleared (form : Form) : Prop where
  passes : form.Passes
  triggers : form.triggerOffence? = none

/-
  What a check lets through by its outcome: a stored form to
  be saved or approved, or a new one to have its name
  confirmed.
-/
def Clears (form : Form) : FormCheck → Prop
  | .blocked _ => True
  | .ready =>
      form.IsCleared ∧
        (form.mode = .edit ∨
          form.mode = .approveReject ∧
            form.formType = .approved)
  | .nameCheckRequired => form.IsCleared ∧ form.mode = .create

/-
  What a check vouches for by its outcome. A form that may be
  sent passes and is not just looked at, one to approve is
  approved by it, and only a new one has its name confirmed.
-/
def Vouches (form : Form) : FormCheck → Prop
  | .blocked _ => True
  | .ready =>
      form.Passes ∧ form.mode ≠ .view ∧
        (form.mode = .approveReject →
          form.formType = .approved)
  | .nameCheckRequired => form.Passes ∧ form.mode = .create

/- What a form is ready for changes its form type at most. -/
theorem clears_pass
    {form after : Form}
    {outcome : FormCheck}
    (hCleared : form.IsCleared)
    (hPass : form.pass = (outcome, after)) :
    after.Clears outcome := by
  unfold pass at hPass
  split at hPass
  · rename_i hMode
    cases hPass
    exact ⟨hCleared, Or.inl hMode⟩
  · rename_i hMode
    cases hPass
    have hPasses := hCleared.passes
    have hApproved :
        ({ form with formType := .approved } : Form).Passes :=
      ⟨hPasses.name, hPasses.views, hPasses.current,
        hPasses.clean⟩
    exact
      ⟨⟨hApproved, hCleared.triggers⟩, Or.inr ⟨hMode, rfl⟩⟩
  · rename_i hMode
    cases hPass
    exact ⟨hCleared, hMode⟩
  · cases hPass
    exact trivial

theorem clears_of_check
    {form after : Form}
    {outcome : FormCheck}
    (hCheck : form.check = (outcome, after)) :
    after.Clears outcome := by
  unfold check at hCheck
  dsimp only at hCheck
  split at hCheck
  · cases hCheck
    exact trivial
  · split at hCheck
    · cases hCheck
      exact trivial
    · rename_i hFault
      split at hCheck
      · cases hCheck
        exact trivial
      · rename_i hFull
        split at hCheck
        · cases hCheck
          exact trivial
        · rename_i hIndicators
          split at hCheck
          · cases hCheck
            exact trivial
          · rename_i hClean
            have hTriggers :=
              (Option.or_eq_none_iff.mp hIndicators).2
            apply clears_pass _ hCheck
            refine ⟨?_, hTriggers⟩
            apply passes_revalidateViews _ _ hClean
            · exact
                (FieldKind.fault?_eq_none_iff .projectName
                  form.projectName.value).mp hFault
            · simpa [Views.isEmpty] using hFull

theorem Clears.vouches
    {form : Form}
    {outcome : FormCheck}
    (hClears : form.Clears outcome) : form.Vouches outcome := by
  cases outcome with
  | blocked error => exact trivial
  | ready =>
      rcases hClears with ⟨hCleared, hEdit | ⟨hMode, hType⟩⟩
      · exact
          ⟨hCleared.passes, by simp [hEdit], by simp [hEdit]⟩
      · exact
          ⟨hCleared.passes, by simp [hMode], fun _ => hType⟩
  | nameCheckRequired =>
      exact ⟨hClears.1.passes, hClears.2⟩

theorem vouches_of_check
    {form after : Form}
    {outcome : FormCheck}
    (hCheck : form.check = (outcome, after)) :
    after.Vouches outcome :=
  (clears_of_check hCheck).vouches

/- A check blocks a form for something wrong with the form. -/
theorem ne_alreadySubmitted_of_check
    {form after : Form}
    {error : FormError}
    (hCheck : form.check = (.blocked error, after)) :
    error ≠ .alreadySubmitted := by
  rintro rfl
  unfold check blockAt at hCheck
  dsimp only at hCheck
  split at hCheck
  · cases hCheck
  · split at hCheck
    · cases hCheck
    · split at hCheck
      · cases hCheck
      · split at hCheck
        · cases hCheck
        · split at hCheck
          · cases hCheck
          · unfold pass at hCheck
            split at hCheck <;> cases hCheck

------------------------------------------------------------
-- What a Check Leaves Alone
------------------------------------------------------------

/-
  A check sets indicators, messages and the focus, and on a
  page to approve or reject the form type. All else of a form
  is what it was.
-/
theorem exists_check_eq (form : Form) :
    ∃ formType fault items prompt message focus,
      (form.mode ≠ .approveReject →
        formType = form.formType) ∧
      form.check.2 =
        { form with
          formType
          projectName := { form.projectName with fault }
          views := { form.views with items }
          addViewPrompt := prompt
          formMessage := message
          focus } := by
  have hSame :
      form.mode ≠ .approveReject →
        form.formType = form.formType :=
    fun _ => rfl
  unfold check
  dsimp only
  split
  · exact ⟨_, form.projectName.fault, _, _, _, _, hSame, rfl⟩
  · split
    · exact ⟨_, _, _, _, _, _, hSame, rfl⟩
    · split
      · exact ⟨_, _, _, _, _, _, hSame, rfl⟩
      · split
        · exact ⟨_, _, _, _, _, _, hSame, rfl⟩
        · split
          · exact ⟨_, _, _, _, _, _, hSame, rfl⟩
          · unfold pass
            split
            · exact ⟨_, _, _, _, _, _, hSame, rfl⟩
            · rename_i hMode
              exact
                ⟨_, _, _, _, _, _, fun hOther => absurd hMode hOther,
                  rfl⟩
            · exact ⟨_, _, _, _, _, _, hSame, rfl⟩
            · exact ⟨_, _, _, _, _, _, hSame, rfl⟩

/- The rules of the views are run on all of them or on none. -/
theorem views_check (form : Form) :
    form.check.2.views = form.views ∨
      form.check.2.views = form.revalidateViews.views := by
  unfold check
  dsimp only
  split
  · exact Or.inl rfl
  · split
    · exact Or.inl rfl
    · split
      · exact Or.inl rfl
      · split
        · exact Or.inl rfl
        · split
          · exact Or.inr rfl
          · right
            unfold pass
            split
            · rfl
            · rfl
            · rfl
            · rfl

/- So is the rule of the project name, on what it holds. -/
theorem projectName_check (form : Form) :
    form.check.2.projectName = form.projectName ∨
      form.check.2.projectName =
        { form.projectName with
          fault :=
            FieldKind.projectName.fault?
              form.projectName.value } := by
  unfold check
  dsimp only
  split
  · exact Or.inl rfl
  · right
    split
    · rfl
    · split
      · rfl
      · split
        · rfl
        · split
          · rfl
          · unfold pass
            split
            · rfl
            · rfl
            · rfl
            · rfl

theorem viewsRetained_check (form : Form) :
    form.views.Retains form.check.2.views := by
  rcases form.views_check with hSame | hRun
  · rw [hSame]
    exact .refl form.views
  · have hPlace :
        View.place ∘ View.revalidate = View.place :=
      rfl
    rw [hRun]
    refine .of_map_place ?_ rfl
    unfold revalidateViews
    dsimp only
    rw [List.map_map, hPlace]

end Form

end BuildForm
