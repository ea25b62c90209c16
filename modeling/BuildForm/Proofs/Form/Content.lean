import BuildForm.Proofs.Form.Step

/-
  What a form shows for review, and that a form which may not
  be edited goes on showing it.

  Main declarations:
    * `Form.reviewed`
    * `Form.hiddenStrings`
    * `Form.ShowsSame`
    * `Form.showsSame_step`
    * `Form.eq_of_tick`
-/

------------------------------------------------------------
-- What a Form Shows
------------------------------------------------------------

namespace BuildForm

namespace Form

/- The configuration of a form but for a rejection's reason. -/
def reviewed (form : Form) : Configuration :=
  { form.toConfiguration with rejectionReason := "" }

/- The raw strings of the hidden inputs, with their names. -/
def hiddenStrings (form : Form) : List (String × String) :=
  ("build_machine_configuration", form.machines.hidden.raw) ::
    form.views.items.flatMap hiddenFieldsOf

/- Two forms of one mode that show the same for review. -/
structure ShowsSame (form other : Form) : Prop where
  mode : form.mode = other.mode
  reviewed : form.reviewed = other.reviewed
  hidden : form.hiddenStrings = other.hiddenStrings

namespace ShowsSame

variable {first second third : Form}

theorem refl (form : Form) : form.ShowsSame form :=
  ⟨rfl, rfl, rfl⟩

theorem trans
    (hFirst : first.ShowsSame second)
    (hSecond : second.ShowsSame third) :
    first.ShowsSame third where
  mode := hFirst.mode.trans hSecond.mode
  reviewed := hFirst.reviewed.trans hSecond.reviewed
  hidden := hFirst.hidden.trans hSecond.hidden

end ShowsSame

end Form

end BuildForm

------------------------------------------------------------
-- The Mode of a Form
------------------------------------------------------------

namespace BuildForm

namespace Form

variable {form after : Form}

/- Loading leaves the mode of a form alone. -/
theorem mode_load (hLoad : Form.Load form after) :
    after.mode = form.mode := by
  cases hLoad with
  | record config =>
      unfold applyConfiguration
      cases config.email with
      | none => rfl
      | some address =>
          dsimp only
          split
          · rfl
          · rfl
  | newComments =>
      unfold setCommentsEnabled
      split
      · rfl
      · rfl
  | _ => rfl

end Form

end BuildForm

------------------------------------------------------------
-- Checking a Form
------------------------------------------------------------

namespace BuildForm

/- Running the rules leaves the values of a view alone. -/
theorem View.toRecord_revalidate (view : View) :
    view.revalidate.toRecord = view.toRecord := by
  unfold View.toRecord View.revalidate
  simp only [List.map_map]
  rfl

namespace Form

theorem showsSame_revalidateViews (form : Form) :
    form.revalidateViews.ShowsSame form where
  mode := rfl
  reviewed := by
    have hRecords :
        form.revalidateViews.views.records =
          form.views.records := by
      unfold revalidateViews Views.records
      simp only [List.map_map]
      apply List.map_congr_left
      intro view _
      exact view.toRecord_revalidate
    unfold reviewed toConfiguration
    rw [hRecords]
    rfl
  hidden := by
    unfold hiddenStrings revalidateViews
    dsimp only
    rw [List.flatMap_map]
    rfl

theorem showsSame_blockAt
    (form : Form)
    (offence : FieldPath × Reason) :
    (form.blockAt offence).2.ShowsSame form :=
  ⟨rfl, rfl, rfl⟩

theorem showsSame_pass (form : Form) :
    form.pass.2.ShowsSame form := by
  unfold pass
  split
  · exact .refl form
  · exact ⟨rfl, rfl, rfl⟩
  · exact .refl form
  · exact .refl form

/- The check sets indicators, messages and the focus only. -/
theorem showsSame_check (form : Form) :
    form.check.2.ShowsSame form := by
  unfold check
  split
  · exact .refl form
  · dsimp only
    split
    · exact ⟨rfl, rfl, rfl⟩
    · split
      · exact ⟨rfl, rfl, rfl⟩
      · split
        · exact ⟨rfl, rfl, rfl⟩
        · split
          · apply (showsSame_blockAt _ _).trans
            apply (showsSame_revalidateViews _).trans
            exact ⟨rfl, rfl, rfl⟩
          · apply (showsSame_pass _).trans
            apply (showsSame_revalidateViews _).trans
            exact ⟨rfl, rfl, rfl⟩

end Form

end BuildForm

------------------------------------------------------------
-- Forms that May Not Be Edited
------------------------------------------------------------

namespace BuildForm

namespace Form

variable {form after : Form}

/-
  On a form that may not be edited the only input to type
  into is that of the reason of a rejection.
-/
theorem isEditable_eq_false
    (hReadOnly : ¬form.mode.isMutable)
    {path : FieldPath}
    (hPath : path ≠ .rejectionReason) :
    form.isEditable path = false := by
  unfold isEditable
  split
  · exact absurd rfl hPath
  · simpa using hReadOnly

theorem showsSame_edit
    (hReadOnly : ¬form.mode.isMutable)
    (path : FieldPath)
    (value : String)
    (validate : Bool) :
    (form.edit path value validate).2.ShowsSame form := by
  by_cases hPath : path = .rejectionReason
  · subst hPath
    unfold edit
    split
    · exact .refl form
    · split
      · exact .refl form
      · have hForget : form.forget .rejectionReason = form :=
          rfl
        dsimp only
        rw [hForget]
        dsimp only [field?]
        split
        · exact .refl form
        · exact ⟨rfl, rfl, rfl⟩
  · unfold edit
    rw [isEditable_eq_false hReadOnly hPath]
    exact .refl form

theorem showsSame_mapTrigger
    (form : Form)
    (path : FieldPath)
    {change : Trigger → Trigger}
    (hChange :
      ∀ trigger, (change trigger).field = trigger.field) :
    (form.mapTrigger path change).ShowsSame form := by
  unfold mapTrigger
  split
  · refine ⟨rfl, ?_, rfl⟩
    unfold reviewed toConfiguration
    rw [hChange]
  · refine ⟨rfl, ?_, rfl⟩
    unfold reviewed toConfiguration
    rw [hChange]
  · exact .refl form

/-
  The steps of views and users are those of a form that may
  be edited; all others leave alone what is shown for review.
-/
theorem showsSame_step
    {mode : PageMode}
    (hReadOnly : ¬mode.isMutable)
    (hMode : form.mode = mode)
    (hStep : Form.Step mode form after) :
    after.ShowsSame form := by
  cases hStep with
  | views hMutable => exact absurd hMutable hReadOnly
  | dropPrompt hMutable => exact absurd hMutable hReadOnly
  | edit path value validate =>
      rw [← hMode] at hReadOnly
      exact showsSame_edit hReadOnly path value validate
  | judge path check =>
      exact showsSame_mapTrigger form path fun _ => rfl
  | help help => exact ⟨rfl, rfl, rfl⟩
  | takeUser hMutable => exact absurd hMutable hReadOnly
  | addUser name html hMutable =>
      exact absurd hMutable hReadOnly
  | deleteUser row hMutable => exact absurd hMutable hReadOnly
  | check => exact showsSame_check form
  | result result => exact ⟨rfl, rfl, rfl⟩
  | message message => exact ⟨rfl, rfl, rfl⟩
  | openReject => exact ⟨rfl, rfl, rfl⟩
  | focusReason => exact ⟨rfl, rfl, rfl⟩
  | reject reason => exact ⟨rfl, rfl, rfl⟩
  | cancelReject => exact ⟨rfl, rfl, rfl⟩

/- A form that may not be edited has no box to tick. -/
theorem eq_of_tick
    (hReadOnly : ¬form.mode.isMutable)
    (hTick : Form.Tick form after) :
    after = form := by
  cases hTick with
  | email enabled =>
      unfold setEmailEnabled
      rw [if_neg hReadOnly]
  | comments enabled =>
      unfold setCommentsEnabled
      rw [if_neg hReadOnly]
  | machine node checked =>
      unfold toggleMachine
      rw [if_neg hReadOnly]

end Form

end BuildForm
