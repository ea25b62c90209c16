import BuildForm.Proofs.Form.Typed
import BuildForm.Proofs.Page.Gestures

/-
  The forms that there can be.

  A form starts out blank. It is loaded, changed by what a
  page does to it and by ticking boxes, and besides that its
  inputs can be set and judged one by one, and whatever is no
  input of it can be changed in any way. The form of a page is
  one of these at any time.

  Main declarations:
    * `Field.Step`
    * `Form.Arises`
    * `Form.Arises.isTyped`
    * `Form.Arises.showsMail`
    * `Session.arises_play`
-/

------------------------------------------------------------
-- How Forms Arise
------------------------------------------------------------

namespace BuildForm

/- What can be done to an input. -/
inductive Field.Step : Field → Field → Prop where
  | setValue (field : Field) (value : String) :
      Step field (field.setValue value)
  | clear (field : Field) : Step field field.clear
  | blur (field : Field) : Step field field.blur
  | setFault (field : Field) (fault : Rule.Fault) :
      Step field (field.setFault fault)
  | clearFault (field : Field) : Step field field.clearFault

namespace Form

/- A form with the inputs of another one. -/
def withInputs (form inputs : Form) : Form :=
  { form with
    projectName := inputs.projectName
    email := inputs.email
    configEmail := inputs.configEmail
    pollScmTrigger := inputs.pollScmTrigger
    buildPeriodicallyTrigger := inputs.buildPeriodicallyTrigger
    rejectDialog := inputs.rejectDialog
    addUser := inputs.addUser
    views := inputs.views }

inductive Arises : Form → Prop where
  | blank (mode : PageMode) : Arises (.blank mode)
  | load {form after : Form} :
      Arises form → Form.Load form after → Arises after
  | step {mode : PageMode} {form after : Form} :
      Arises form → Form.Step mode form after → Arises after
  | tick {form after : Form} :
      Arises form → Form.Tick form after → Arises after
  | input {form : Form} {change : Field → Field} :
      Arises form →
      (∀ field, Field.Step field (change field)) →
      ∀ path, Arises (form.mapField path change)
  | other {inputs : Form} :
      Arises inputs →
      ∀ form : Form, Arises (form.withInputs inputs)

end Form

end BuildForm

------------------------------------------------------------
-- Kinds of Inputs
------------------------------------------------------------

namespace BuildForm

theorem Field.Step.kind_eq
    {field after : Field}
    (hStep : Field.Step field after) :
    after.kind = field.kind := by
  cases hStep <;> rfl

theorem Field.Step.visible_eq
    {field after : Field}
    (hStep : Field.Step field after) :
    after.visible = field.visible := by
  cases hStep <;> rfl

namespace Form

variable {form after : Form}

theorem IsTyped.tick
    (hTyped : form.IsTyped)
    (hTick : Form.Tick form after) :
    after.IsTyped := by
  cases hTick with
  | email enabled =>
      unfold setEmailEnabled
      split
      · exact hTyped.showEmail enabled
      · exact hTyped
  | comments enabled =>
      unfold setCommentsEnabled
      split
      · exact { hTyped with }
      · exact hTyped
  | machine node checked =>
      unfold toggleMachine
      split
      · exact { hTyped with }
      · exact hTyped

/- Every input of a form is judged by the rule of its place. -/
theorem Arises.isTyped (hArises : form.Arises) :
    form.IsTyped := by
  induction hArises with
  | blank mode => exact .blank mode
  | load _ hLoad ih => exact ih.load hLoad
  | step _ hStep ih => exact ih.step hStep
  | tick _ hTick ih => exact ih.tick hTick
  | input _ hChange path ih =>
      apply ih.mapField
      intro field hKind
      exact (hChange field).kind_eq.trans hKind
  | other _ form ih => exact { ih with }

end Form

end BuildForm

------------------------------------------------------------
-- The E-Mail Inputs
------------------------------------------------------------

namespace BuildForm

namespace Form

variable {form after : Form}

/- A form both of whose e-mail inputs can be seen. -/
structure ShowsMail (form : Form) : Prop where
  email : form.email.visible
  configEmail : form.configEmail.visible

namespace ShowsMail

theorem mapTrigger
    (hShows : form.ShowsMail)
    (path : FieldPath)
    (change : Trigger → Trigger) :
    (form.mapTrigger path change).ShowsMail := by
  unfold Form.mapTrigger
  split
  · exact ⟨hShows.email, hShows.configEmail⟩
  · exact ⟨hShows.email, hShows.configEmail⟩
  · exact hShows

theorem mapField
    (hShows : form.ShowsMail)
    (path : FieldPath)
    {change : Field → Field}
    (hChange :
      ∀ field, form.field? path = some field →
        (change field).visible = field.visible) :
    (form.mapField path change).ShowsMail := by
  cases path with
  | email =>
      exact
        ⟨(hChange _ rfl).trans hShows.email,
          hShows.configEmail⟩
  | configEmail =>
      exact
        ⟨hShows.email,
          (hChange _ rfl).trans hShows.configEmail⟩
  | pollScmTrigger =>
      unfold Form.mapField
      exact hShows.mapTrigger .pollScmTrigger _
  | buildPeriodicallyTrigger =>
      unfold Form.mapField
      exact hShows.mapTrigger .buildPeriodicallyTrigger _
  | _ => exact ⟨hShows.email, hShows.configEmail⟩

theorem forget
    (hShows : form.ShowsMail)
    (path : FieldPath) :
    (form.forget path).ShowsMail := by
  unfold Form.forget
  apply ShowsMail.mapTrigger
  split
  · exact ⟨hShows.email, hShows.configEmail⟩
  · exact hShows

theorem edit
    (hShows : form.ShowsMail)
    (path : FieldPath)
    (value : String)
    (validate : Bool) :
    (form.edit path value validate).2.ShowsMail := by
  have hForgot := hShows.forget path
  rcases form.snd_edit path value validate with
    hSame | hOnly | ⟨field, hField, hEdit⟩
  · rw [hSame]
    exact hShows
  · rw [hOnly]
    exact hForgot
  · rw [hEdit]
    apply hForgot.mapField
    intro typed hTyped
    rw [hField] at hTyped
    cases hTyped
    cases validate <;> rfl

theorem showEmail
    (hShows : form.ShowsMail)
    (enabled : Bool) :
    (form.showEmail enabled).ShowsMail := by
  refine ⟨?_, hShows.configEmail⟩
  cases enabled <;> exact hShows.email

theorem applyConfiguration
    (hShows : form.ShowsMail)
    (config : Configuration) :
    (form.applyConfiguration config).ShowsMail := by
  unfold Form.applyConfiguration
  cases config.email with
  | none => exact ⟨hShows.email, hShows.configEmail⟩
  | some address =>
      dsimp only
      split
      · exact ⟨hShows.email, hShows.configEmail⟩
      · exact
          ⟨(hShows.showEmail true).email, hShows.configEmail⟩

theorem load
    (hShows : form.ShowsMail)
    (hLoad : Form.Load form after) :
    after.ShowsMail := by
  cases hLoad with
  | record config => exact hShows.applyConfiguration config
  | newComments =>
      unfold setCommentsEnabled
      split
      · exact ⟨hShows.email, hShows.configEmail⟩
      · exact hShows
  | newTrigger value => exact hShows.mapField _ fun _ _ => rfl
  | _ => exact ⟨hShows.email, hShows.configEmail⟩

theorem step
    {mode : PageMode}
    (hShows : form.ShowsMail)
    (hStep : Form.Step mode form after) :
    after.ShowsMail := by
  cases hStep with
  | edit path value validate =>
      exact hShows.edit path value validate
  | judge path check => exact hShows.mapTrigger path _
  | check =>
      rcases form.exists_check_eq with
        ⟨_, _, _, _, _, _, _, hCheck⟩
      rw [hCheck]
      exact ⟨hShows.email, hShows.configEmail⟩
  | _ => exact ⟨hShows.email, hShows.configEmail⟩

/- The box switches the e-mail input off but leaves it there. -/
theorem tick
    (hShows : form.ShowsMail)
    (hTick : Form.Tick form after) :
    after.ShowsMail := by
  cases hTick with
  | email enabled =>
      unfold setEmailEnabled
      split
      · exact hShows.showEmail enabled
      · exact hShows
  | comments enabled =>
      unfold setCommentsEnabled
      split
      · exact ⟨hShows.email, hShows.configEmail⟩
      · exact hShows
  | machine node checked =>
      unfold toggleMachine
      split
      · exact ⟨hShows.email, hShows.configEmail⟩
      · exact hShows

end ShowsMail

/- Nothing hides an e-mail input. -/
theorem Arises.showsMail (hArises : form.Arises) :
    form.ShowsMail := by
  induction hArises with
  | blank mode => exact ⟨rfl, rfl⟩
  | load _ hLoad ih => exact ih.load hLoad
  | step _ hStep ih => exact ih.step hStep
  | tick _ hTick ih => exact ih.tick hTick
  | input _ hChange path ih =>
      apply ih.mapField
      intro field _
      exact (hChange field).visible_eq
  | other _ form ih => exact ⟨ih.email, ih.configEmail⟩

end Form

end BuildForm

------------------------------------------------------------
-- Forms of Pages
------------------------------------------------------------

namespace BuildForm

namespace Session

variable {σ : Type}

/- A session of a mode with a form that there can be. -/
structure HasArisen
    (mode : PageMode)
    (session : Session σ) : Prop where
  mode : session.page.request.mode = mode
  form : session.page.form.Arises

theorem hasArisen_survives
    (service : Service σ)
    (mode : PageMode) :
    Page.Survives service mode (HasArisen mode) where
  modes := fun _ hSession => hSession.mode
  marks := by
    intro session page hSession hRequest hForm
    refine ⟨?_, ?_⟩
    · rw [← hSession.mode, ← hRequest]
    · have hArises := hSession.form
      rw [← hForm] at hArises
      exact hArises
  loads := fun _ _ hSession hLoad =>
    ⟨hSession.mode, hSession.form.load hLoad⟩
  steps := fun _ _ hSession hStep =>
    ⟨hSession.mode, hSession.form.step hStep⟩
  asks := fun _ _ _ _ hSession _ _ =>
    ⟨hSession.mode, hSession.form⟩
  sends := fun _ _ _ hSession _ _ =>
    ⟨hSession.mode, hSession.form⟩

theorem HasArisen.step
    {mode : PageMode}
    {session : Session σ}
    (hSession : session.HasArisen mode)
    (service : Service σ)
    (action : Action) :
    (Session.step service session action).2.HasArisen mode :=
  ((hasArisen_survives service mode).act action).perform hSession

/- Whatever is done on a page, its form is one of these. -/
theorem arises_play
    (service : Service σ)
    (request : PageRequest)
    (options : PageOptions)
    (state : σ)
    (gestures : List Gesture) :
    (play service (start request options state)
      gestures).page.form.Arises := by
  have hStart :
      (start request options state).HasArisen request.mode :=
    ⟨rfl, .blank request.mode⟩
  have hTicks :
      Page.SurvivesTicks
        (HasArisen request.mode : Session σ → Prop) :=
    fun _ _ hSession hTick =>
      ⟨hSession.mode, hSession.form.tick hTick⟩
  have hPlay :=
    (hasArisen_survives service request.mode).play hTicks hStart
      gestures
  exact hPlay.form

end Session

end BuildForm
