import BuildForm.Proofs.Page.Dispatching
import BuildForm.Proofs.Page.Loading

/-
  What a page does to its session, step by step.

  Every action of a page is made of queries to the service,
  of changes that leave the form alone, of steps of the form,
  and of submissions of a form that has passed its check or
  is a rejection. A property that these keep is kept by every
  run. One that is not kept by loading a record still endures
  every action but the opening of the page.

  Main declarations:
    * `Page.Survives`
    * `Page.Endures`
    * `Page.Endures.act`
    * `Page.Survives.act`
    * `Page.Survives.run`
-/

------------------------------------------------------------
-- Invariants of Pages
------------------------------------------------------------

namespace BuildForm

/- A form that may be sent: it passed, or is a rejection. -/
def Form.MaySend (form : Form) : Prop :=
  form.Passes ∨ form.formType = .reject

namespace Page

variable {σ : Type}

/-
  A property of the sessions of a mode that survives
  everything that a page can do.
-/
structure Survives
    (service : Service σ)
    (mode : PageMode)
    (inv : Session σ → Prop) : Prop where
  modes :
    ∀ session, inv session → session.page.request.mode = mode
  marks :
    ∀ session page, inv session →
      page.request = session.page.request →
      page.form = session.page.form →
      inv { session with page }
  loads :
    ∀ session form, inv session →
      Form.Load session.page.form form →
      inv (session.withForm form)
  steps :
    ∀ session form, inv session →
      Form.Step mode session.page.form form →
      inv (session.withForm form)
  asks :
    ∀ session request outcome state, inv session →
      request.IsQuery →
      service request session.state = (outcome, state) →
      inv { session with state }
  sends :
    ∀ session outcome state, inv session →
      session.page.form.MaySend →
      service (.submit session.page.form.toSubmission)
          session.state = (outcome, state) →
      inv { session with state }

/-
  What a page of a mode sends: a form that passed and is not
  just looked at, or a rejection where one can be confirmed.
-/
inductive Sends (mode : PageMode) (form : Form) : Prop where
  | passed : form.Passes → form.mode ≠ .view → Sends mode form
  | rejected :
      mode = .approveReject →
      form.formType = .reject →
      Sends mode form

/-
  A property of the sessions of a mode that endures whatever
  a page does once it is open. Nothing is asked of records
  that are loaded, and more is known of what leaves the page.
-/
structure Endures
    (service : Service σ)
    (mode : PageMode)
    (inv : Session σ → Prop) : Prop where
  modes :
    ∀ session, inv session → session.page.request.mode = mode
  marks :
    ∀ session page, inv session →
      page.request = session.page.request →
      page.form = session.page.form →
      inv { session with page }
  steps :
    ∀ session form, inv session →
      Form.Step mode session.page.form form →
      inv (session.withForm form)
  asks :
    ∀ session request outcome state, inv session →
      Asks mode session.page.form request →
      service request session.state = (outcome, state) →
      inv { session with state }
  sends :
    ∀ session outcome state, inv session →
      Sends mode session.page.form →
      service (.submit session.page.form.toSubmission)
          session.state = (outcome, state) →
      inv { session with state }

theorem Sends.maySend
    {mode : PageMode}
    {form : Form}
    (hSends : Sends mode form) : form.MaySend := by
  cases hSends with
  | passed hPasses _ => exact Or.inl hPasses
  | rejected _ hReject => exact Or.inr hReject

theorem Survives.endures
    {service : Service σ}
    {mode : PageMode}
    {inv : Session σ → Prop}
    (hInv : Survives service mode inv) :
    Endures service mode inv where
  modes := hInv.modes
  marks := hInv.marks
  steps := hInv.steps
  asks := by
    intro session request outcome state hSession hAsks hCall
    exact
      hInv.asks session request outcome state hSession
        hAsks.isQuery hCall
  sends := by
    intro session outcome state hSession hSends hCall
    exact
      hInv.sends session outcome state hSession
        hSends.maySend hCall

end Page

end BuildForm

------------------------------------------------------------
-- Actions
------------------------------------------------------------

namespace BuildForm

namespace Page

open PageM

variable {σ : Type}
variable {service : Service σ}
variable {mode : PageMode}
variable {inv : Session σ → Prop}

/- Only forms that may be sent are, whatever the action. -/
theorem Dispatches.sends
    {action : Action}
    {session : Session σ}
    (hDispatches : Dispatches service mode action session) :
    Sends mode session.page.form := by
  cases hDispatches with
  | new before hReady hCreate _ _ =>
      exact .passed hReady.passes (by simp [hCreate])
  | stored hReady hKind _ =>
      apply Sends.passed hReady.passes
      rcases hKind with hEdit | ⟨hApprove, _⟩
      · simp [hEdit]
      · simp [hApprove]
  | rejection hMode hType _ _ => exact .rejected hMode hType

namespace Endures

theorem requireUnsubmitted :
    Keeps inv (Page.requireUnsubmitted : PageM σ Unit) := by
  apply requireUnsubmitted_spec.weaken
  · exact fun _ hSession => hSession
  · exact fun _ _ hSession => hSession.1

/- What endures is carried through each of the actions. -/
theorem carries
    (hInv : Endures service mode inv)
    (action : Action) :
    Carries service mode action inv where
  modes := hInv.modes
  marks := by
    intro session page hSession hRequest hForm _
    exact hInv.marks session page hSession hRequest hForm
  steps := by
    intro session form hSession hStep _
    exact hInv.steps session form hSession hStep
  edits := by
    intro session path value validate hSession _
    exact
      hInv.steps session _ hSession
        (.edit session.page.form path value validate)
  asks := by
    intro session request outcome state hSession hAsks _ hCall
    exact
      hInv.asks session request outcome state hSession hAsks
        hCall
  judges := by
    intro session path trigger outcome state hSession _ _ hCall
    have hAsked :=
      hInv.asks session _ outcome state hSession
        (.judgeTrigger trigger.field.value) hCall
    cases outcome with
    | error error => exact hAsked
    | ok answer =>
        exact
          hInv.steps { session with state } _ hAsked
            (.judge session.page.form path _)
  sends := by
    intro session outcome state hSession _ hDispatches hCall
    have hSent :=
      hInv.sends session outcome state hSession
        hDispatches.sends hCall
    exact hInv.marks { session with state } _ hSent rfl rfl

theorem act
    (hInv : Endures service mode inv)
    (action : Action)
    (hOpened : action ≠ .init) :
    Keeps inv (Page.act service action) :=
  (hInv.carries action).act hOpened

end Endures

namespace Survives

/- What survives loading survives that of a page as named. -/
theorem admits
    (hInv : Survives service mode inv)
    (name : Option String) :
    Admits service name fun session =>
      inv session ∧ session.page.request.name = name where
  names := fun _ hSession => hSession.2
  queries := by
    rintro session request outcome state ⟨hSession, hName⟩
      hPrepares hCall
    exact
      ⟨hInv.asks session request outcome state hSession
        hPrepares.isQuery hCall, hName⟩
  records := by
    rintro session stored outcome state ⟨hSession, hName⟩ _
      hCall
    have hAsked :=
      hInv.asks session _ outcome state hSession
        (by simp [Request.IsQuery]) hCall
    cases outcome with
    | error error => exact ⟨hAsked, hName⟩
    | ok config =>
        exact
          ⟨hInv.loads { session with state } _ hAsked
            (.record session.page.form config), hName⟩
  parts := by
    rintro session form ⟨hSession, hName⟩ _ hLoad
    exact
      ⟨hInv.loads session form hSession hLoad.load, hName⟩
  starts := by
    rintro session form ⟨hSession, hName⟩ _ hLoad
    exact
      ⟨hInv.loads session form hSession hLoad.load, hName⟩

theorem act
    (hInv : Survives service mode inv)
    (action : Action) :
    Keeps inv (Page.act service action) := by
  by_cases hInit : action = .init
  · rw [hInit]
    apply Keeps.of_each fun session => session.page.request.name
    intro name
    exact
      (hInv.admits name).act
        ((hInv.endures.carries .init).toSteady.named name)
  · exact hInv.endures.act action hInit

/- What survives every action survives every run. -/
theorem run
    (hInv : Survives service mode inv)
    {session : Session σ}
    (hSession : inv session)
    (actions : List Action) :
    inv (Session.run service session actions) := by
  induction actions generalizing session with
  | nil => exact hSession
  | cons action actions ih =>
      exact ih ((hInv.act action).perform hSession)

end Survives

end Page

end BuildForm
