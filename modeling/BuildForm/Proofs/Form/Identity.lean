import BuildForm.Proofs.Form.Check
import BuildForm.Proofs.Form.Content

/-
  What a form is for, and under which name.

  The mode of a form and the lock of its project name are set
  when its page is opened, and so is its form type unless it
  is approved or rejected. A locked name changes only when a
  record is loaded.

  Main declarations:
    * `Form.Retains`
    * `Form.retains_step`
    * `Form.retains_tick`
    * `Form.retains_loadStored`
-/

------------------------------------------------------------
-- Forms that Are for the Same
------------------------------------------------------------

namespace BuildForm

namespace Form

/-
  A form that is still for what it was for before, and under
  the same name if that was locked.
-/
structure Retains (form after : Form) : Prop where
  mode : after.mode = form.mode
  formType :
    form.mode ≠ .approveReject →
    after.formType = form.formType
  nameLocked : after.nameLocked = form.nameLocked
  name :
    form.nameLocked →
    after.projectName.value = form.projectName.value

theorem Retains.refl (form : Form) : form.Retains form :=
  ⟨rfl, fun _ => rfl, rfl, fun _ => rfl⟩

theorem Retains.trans
    {form between after : Form}
    (hFirst : form.Retains between)
    (hSecond : between.Retains after) :
    form.Retains after where
  mode := hSecond.mode.trans hFirst.mode
  formType := by
    intro hMode
    have hBetween := hMode
    rw [← hFirst.mode] at hBetween
    exact (hSecond.formType hBetween).trans (hFirst.formType hMode)
  nameLocked := hSecond.nameLocked.trans hFirst.nameLocked
  name := by
    intro hLocked
    have hBetween := hLocked
    rw [← hFirst.nameLocked] at hBetween
    exact (hSecond.name hBetween).trans (hFirst.name hLocked)

theorem retains_mapTrigger
    (form : Form)
    (path : FieldPath)
    (change : Trigger → Trigger) :
    form.Retains (form.mapTrigger path change) := by
  unfold mapTrigger
  split
  · exact ⟨rfl, fun _ => rfl, rfl, fun _ => rfl⟩
  · exact ⟨rfl, fun _ => rfl, rfl, fun _ => rfl⟩
  · exact .refl form

theorem retains_mapField
    (form : Form)
    {path : FieldPath}
    (change : Field → Field)
    (hName : path = .projectName → form.nameLocked = false) :
    form.Retains (form.mapField path change) := by
  cases path with
  | projectName =>
      refine ⟨rfl, fun _ => rfl, rfl, ?_⟩
      intro hLocked
      rw [hName rfl] at hLocked
      cases hLocked
  | _ => exact ⟨rfl, fun _ => rfl, rfl, fun _ => rfl⟩

theorem retains_forget (form : Form) (path : FieldPath) :
    form.Retains (form.forget path) := by
  unfold forget
  dsimp only
  split
  · apply Retains.trans _ (retains_mapTrigger _ _ _)
    exact ⟨rfl, fun _ => rfl, rfl, fun _ => rfl⟩
  · exact form.retains_mapTrigger _ _

/- Nothing is typed into a name that is locked. -/
theorem retains_edit
    (form : Form)
    (path : FieldPath)
    (value : String)
    (validate : Bool) :
    form.Retains (form.edit path value validate).2 := by
  have hForget := form.retains_forget path
  unfold edit
  split
  · exact .refl form
  · split
    · exact .refl form
    · rename_i hUnlocked
      dsimp only
      split
      · exact hForget
      · split
        · exact hForget
        · apply hForget.trans
          dsimp only
          apply retains_mapField
          intro hPath
          rw [hForget.nameLocked]
          simpa [hPath] using hUnlocked

theorem retains_check (form : Form) :
    form.Retains form.check.2 := by
  rcases form.exists_check_eq with
    ⟨_, _, _, _, _, _, hType, hCheck⟩
  rw [hCheck]
  exact ⟨rfl, hType, rfl, fun _ => rfl⟩

end Form

end BuildForm

------------------------------------------------------------
-- Steps and Loading
------------------------------------------------------------

namespace BuildForm

namespace Form

variable {form after : Form}

/- What a page does to its form leaves what it is for. -/
theorem retains_step
    (hStep : Form.Step form.mode form after) :
    form.Retains after := by
  cases hStep with
  | edit path value validate =>
      exact form.retains_edit path value validate
  | judge path check => exact form.retains_mapTrigger path _
  | check => exact form.retains_check
  | reject reason hMode =>
      exact
        ⟨rfl, fun hOther => absurd hMode hOther, rfl,
          fun _ => rfl⟩
  | _ => exact ⟨rfl, fun _ => rfl, rfl, fun _ => rfl⟩

theorem retains_tick (hTick : Form.Tick form after) :
    form.Retains after := by
  cases hTick with
  | email enabled =>
      unfold setEmailEnabled
      split
      · exact ⟨rfl, fun _ => rfl, rfl, fun _ => rfl⟩
      · exact .refl form
  | comments enabled =>
      unfold setCommentsEnabled
      split
      · exact ⟨rfl, fun _ => rfl, rfl, fun _ => rfl⟩
      · exact .refl form
  | machine node checked =>
      unfold toggleMachine
      split
      · exact ⟨rfl, fun _ => rfl, rfl, fun _ => rfl⟩
      · exact .refl form

/- The reason of a rejection is not behind a box to tick. -/
theorem rejectDialog_tick (hTick : Form.Tick form after) :
    after.rejectDialog = form.rejectDialog := by
  cases hTick with
  | email enabled =>
      unfold setEmailEnabled
      split
      · rfl
      · rfl
  | comments enabled =>
      unfold setCommentsEnabled
      split
      · rfl
      · rfl
  | machine node checked =>
      unfold toggleMachine
      split
      · rfl
      · rfl

/- Opening a stored configuration locks the name as it was. -/
theorem retains_loadStored
    (hLocked : form.nameLocked = true)
    (hLoad : Form.LoadStored form after) :
    form.Retains after := by
  cases hLoad with
  | shown =>
      exact ⟨rfl, fun _ => rfl, hLocked.symm, fun _ => rfl⟩
  | _ => exact ⟨rfl, fun _ => rfl, rfl, fun _ => rfl⟩

/- A new configuration is to be created from the start. -/
theorem loadNew_identity (hLoad : Form.LoadNew form after) :
    after.mode = form.mode ∧
      (after.formType = form.formType ∨
        after.formType = .create) := by
  cases hLoad with
  | blank => exact ⟨rfl, Or.inr rfl⟩
  | comments =>
      unfold setCommentsEnabled
      split
      · exact ⟨rfl, Or.inl rfl⟩
      · exact ⟨rfl, Or.inl rfl⟩
  | _ => exact ⟨rfl, Or.inl rfl⟩

/- A record brings its name along and leaves all else. -/
theorem applyConfiguration_identity
    (form : Form)
    (config : Configuration) :
    let after := form.applyConfiguration config
    after.mode = form.mode ∧ after.formType = form.formType ∧
      after.nameLocked = form.nameLocked ∧
      after.projectName.value = config.projectName := by
  unfold applyConfiguration
  cases config.email with
  | none => exact ⟨rfl, rfl, rfl, rfl⟩
  | some address =>
      dsimp only
      split
      · exact ⟨rfl, rfl, rfl, rfl⟩
      · exact ⟨rfl, rfl, rfl, rfl⟩

end Form

end BuildForm
