import BuildForm.Page.Action
import BuildForm.Proofs.Form.Schedules
import BuildForm.Proofs.Form.Step
import BuildForm.Proofs.Page.Triple

/-
  What a page does to its session, move by move.

  Every action is made of a few kinds of moves: marks on the
  page, steps of the form, typing into it, requests, schedules
  that are judged, and forms that are sent. Opening a page is
  made of requests for its parts, of loading these, and of
  loading its record. What the moves keep is kept here by the
  actions that change the form without sending it.

  Main declarations:
    * `Page.Asks`
    * `Page.Dispatches`
    * `Page.Steady`
    * `Page.Carries`
    * `Page.Admits`
    * `Page.Receives`
    * `Page.Steady.and_page`
-/

------------------------------------------------------------
-- Sessions after a Move
------------------------------------------------------------

namespace BuildForm

namespace Session

variable {σ : Type}

/- The session with another form. -/
def withForm
    (session : Session σ)
    (form : Form) : Session σ :=
  { session with page := { session.page with form } }

/- The session after a schedule was sent to be judged. -/
def judged
    (session : Session σ)
    (path : FieldPath)
    (outcome : Except ServiceError String)
    (state : σ) : Session σ :=
  match outcome with
  | .error _ => { session with state }
  | .ok answer =>
      ({ session with state } : Session σ).withForm
        (session.page.form.mapTrigger path fun trigger =>
          { trigger with
            check := some (TriggerCheck.ofAnswer answer) })

/- The session after a record was asked for to be loaded. -/
def loaded
    (session : Session σ)
    (outcome : Except ServiceError Configuration)
    (state : σ) : Session σ :=
  match outcome with
  | .error _ => { session with state }
  | .ok config =>
      ({ session with state } : Session σ).withForm
        (session.page.form.applyConfiguration config)

/- The session after the stored views were asked for. -/
def withViews
    (session : Session σ)
    (outcome : Except ServiceError LoadedViews)
    (state : σ) : Session σ :=
  match outcome with
  | .error _ => { session with state }
  | .ok loaded =>
      ({ session with state } : Session σ).withForm
        { session.page.form with
          views := session.page.form.views.load loaded }

/- The session after a fresh view was asked for. -/
def withFresh
    (session : Session σ)
    (outcome : Except ServiceError ViewFragment)
    (state : σ) : Session σ :=
  match outcome with
  | .error _ => { session with state }
  | .ok fragment =>
      ({ session with state } : Session σ).withForm
        { session.page.form with
          views :=
            (session.page.form.views.insert fragment
              session.page.form.scmKind).2 }

/- The session with its page counted as submitted or not. -/
def marked
    (session : Session σ)
    (submitted : Bool) : Session σ :=
  { session with page := { session.page with submitted } }

/- The session after its form was sent. -/
def sent
    (session : Session σ)
    (outcome : Except ServiceError Unit)
    (state : σ) : Session σ :=
  ({ session with state } : Session σ).marked outcome.isOk

end Session

end BuildForm

------------------------------------------------------------
-- Requests
------------------------------------------------------------

namespace BuildForm

namespace Request

/- A request that does not submit anything. -/
def IsQuery (request : Request) : Prop :=
  ∀ submission, request ≠ .submit submission

/- Whether a request has a schedule judged. -/
def isJudgment : Request → Bool
  | .judgeTrigger _ => true
  | _ => false

/- What opening the page of a name may ask. -/
inductive Opens (name : String) : Request → Prop where
  | configuration : Opens name (.configuration name)
  | approved : Opens name (.approved name)
  | views : Opens name (.views name)
  | deletedViews : Opens name (.deletedViews name)
  | users : Opens name (.users name)
  | isAdministrator : Opens name .isAdministrator
  | fullName (user : String) : Opens name (.fullName user)

/-
  What opening a page asks besides the record to load, with
  the name of a stored configuration if it has one.
-/
inductive Prepares : Option String → Request → Prop where
  | approved (name : String) :
      Prepares (some name) (.approved name)
  | views (name : String) :
      Prepares (some name) (.views name)
  | deletedViews (name : String) :
      Prepares (some name) (.deletedViews name)
  | users (name : String) :
      Prepares (some name) (.users name)
  | fullName (name user : String) :
      Prepares (some name) (.fullName user)
  | newDefaults : Prepares none .newDefaults
  | isAdministrator (name : Option String) :
      Prepares name .isAdministrator

theorem Prepares.isQuery
    {name : Option String}
    {request : Request}
    (hPrepares : Prepares name request) : request.IsQuery := by
  cases hPrepares <;> simp [IsQuery]

end Request

/-
  What a page of a mode asks for besides a record to load.
  Only a new configuration has its name looked up.
-/
inductive Page.Asks
    (mode : PageMode)
    (form : Form) : Request → Prop where
  | freshView : mode.isMutable → Asks mode form .freshView
  | freshBuilder :
      mode.isMutable → Asks mode form .freshBuilder
  | freshUser : mode.isMutable → Asks mode form .freshUser
  | help (field : String) : Asks mode form (.help field)
  | judgeTrigger (expression : String) :
      Asks mode form (.judgeTrigger expression)
  | isNameFree :
      form.mode = .create →
      Asks mode form (.isNameFree form.projectName.value)

theorem Page.Asks.isQuery
    {mode : PageMode}
    {form : Form}
    {request : Request}
    (hAsks : Asks mode form request) : request.IsQuery := by
  cases hAsks <;> simp [Request.IsQuery]

end BuildForm

------------------------------------------------------------
-- Forms that Are Sent
------------------------------------------------------------

namespace BuildForm

/-
  A form that a page of a mode may send to be stored: nothing
  was found against it, and if it can be edited all of its
  schedules were judged.
-/
structure Form.IsReady
    (mode : PageMode)
    (form : Form) : Prop extends form.IsCleared where
  judged : mode.isMutable → form.staleTriggers = []

/-
  How an action comes to send the form of a session. A new
  form is sent right after its name was found to be free, a
  stored one to be saved or approved, and a rejection for the
  reason in its dialog.
-/
inductive Page.Dispatches
    {σ : Type}
    (service : Service σ)
    (mode : PageMode) : Action → Session σ → Prop where
  | new {session : Session σ} (before : σ) :
      session.page.form.IsReady mode →
      session.page.form.mode = .create →
      session.page.form.formResult = some .create →
      service (.isNameFree session.page.form.projectName.value)
          before = (.ok true, session.state) →
      Dispatches service mode .submit session
  | stored {session : Session σ} :
      session.page.form.IsReady mode →
      (session.page.form.mode = .edit ∨
        session.page.form.mode = .approveReject ∧
          session.page.form.formType = .approved) →
      session.page.form.formResult = some .other →
      Dispatches service mode .submit session
  | rejection {session : Session σ} :
      mode = .approveReject →
      session.page.form.formType = .reject →
      session.page.form.rejectionReason =
        session.page.form.rejectDialog.reason.value →
      session.page.form.rejectionReason ≠ "" →
      Dispatches service mode .confirmReject session

/-
  The triggers that an action has judged: the one that it
  names, or on submitting the first one that is stale.
-/
def Action.Judges
    (action : Action)
    (form : Form)
    (path : FieldPath) : Prop :=
  action = .checkTrigger path ∨
    action = .submit ∧ form.staleTriggers.head? = some path

/- Whether an action may append a view to the form. -/
def Action.addsView : Action → Bool
  | .init => true
  | .addView => true
  | _ => false

/-
  What the steps of an action other than typing leave alone:
  the triggers, unless it is about the dialog, the dialog, and
  unless it adds a view, the places of those that stay.
-/
structure Form.Spared
    (action : Action)
    (form after : Form) : Prop where
  triggers : after.SameTriggers form
  dialog :
    action ≠ .openReject →
    action ≠ .cancelReject →
    after.rejectDialog = form.rejectDialog
  views : action.addsView ∨ form.views.Retains after.views

namespace Form

/- Messages and the result are no matter of being ready. -/
theorem IsReady.of_same
    {mode : PageMode}
    {form after : Form}
    (hReady : form.IsReady mode)
    (hName : after.projectName = form.projectName)
    (hViews : after.views = form.views)
    (hTriggers : after.SameTriggers form) :
    after.IsReady mode where
  passes := by
    have hPasses := hReady.passes
    have hClean : after.viewOffence? = form.viewOffence? := by
      unfold viewOffence?
      rw [hViews]
    constructor
    · rw [hName]
      exact hPasses.name
    · rw [hViews]
      exact hPasses.views
    · rw [hViews]
      exact hPasses.current
    · rw [hClean]
      exact hPasses.clean
  triggers := by
    rw [triggerOffence?_eq_none_iff]
    intro path trigger check hTrigger
    rw [hTriggers.trigger?_eq] at hTrigger
    exact
      triggerOffence?_eq_none_iff.mp hReady.triggers path
        trigger check hTrigger
  judged := by
    intro hMutable
    rw [hTriggers.staleTriggers_eq]
    exact hReady.judged hMutable

theorem Spared.of_same
    {action : Action}
    {form after : Form}
    (hTriggers : after.SameTriggers form)
    (hDialog : after.rejectDialog = form.rejectDialog)
    (hViews : form.views.Retains after.views) :
    Spared action form after :=
  ⟨hTriggers, fun _ _ => hDialog, Or.inr hViews⟩

theorem spared_check (action : Action) (form : Form) :
    Spared action form form.check.2 := by
  rcases form.exists_check_eq with
    ⟨_, _, _, _, _, _, _, hCheck⟩
  apply Spared.of_same form.sameTriggers_check _
    form.viewsRetained_check
  rw [hCheck]

end Form

end BuildForm

------------------------------------------------------------
-- What Moves Keep
------------------------------------------------------------

namespace BuildForm

namespace Page

variable {σ : Type}

/-
  A property of the sessions of a mode that an action keeps
  as long as it sends nothing.
-/
structure Steady
    (service : Service σ)
    (mode : PageMode)
    (action : Action)
    (inv : Session σ → Prop) : Prop where
  modes :
    ∀ session, inv session → session.page.request.mode = mode
  marks :
    ∀ session page, inv session →
      page.request = session.page.request →
      page.form = session.page.form →
      page.submitted = session.page.submitted →
      inv { session with page }
  steps :
    ∀ session form, inv session →
      Form.Step mode session.page.form form →
      Form.Spared action session.page.form form →
      inv (session.withForm form)
  edits :
    ∀ session path value validate, inv session →
      action = .edit path value →
      inv
        (session.withForm
          (session.page.form.edit path value validate).2)
  asks :
    ∀ session request outcome state, inv session →
      Asks mode session.page.form request →
      request.isJudgment = false →
      service request session.state = (outcome, state) →
      inv { session with state }
  judges :
    ∀ session path trigger outcome state, inv session →
      session.page.form.trigger? path = some trigger →
      action.Judges session.page.form path →
      service (.judgeTrigger trigger.field.value)
          session.state = (outcome, state) →
      inv (session.judged path outcome state)

/- One that the action keeps, what it sends included. -/
structure Carries
    (service : Service σ)
    (mode : PageMode)
    (action : Action)
    (inv : Session σ → Prop) : Prop
    extends Steady service mode action inv where
  sends :
    ∀ session outcome state, inv session →
      session.page.submitted = false →
      Dispatches service mode action session →
      service (.submit session.page.form.toSubmission)
          session.state = (outcome, state) →
      inv (session.sent outcome state)

/-
  One that loading keeps on a page which is opened with the
  name of a stored configuration, or without one.
-/
structure Admits
    (service : Service σ)
    (name : Option String)
    (inv : Session σ → Prop) : Prop where
  names :
    ∀ session, inv session → session.page.request.name = name
  queries :
    ∀ session request outcome state, inv session →
      request.Prepares name →
      service request session.state = (outcome, state) →
      inv { session with state }
  records :
    ∀ session stored outcome state, inv session →
      name = some stored →
      service (.configuration stored) session.state =
        (outcome, state) →
      inv (session.loaded outcome state)
  parts :
    ∀ session form, inv session →
      name ≠ none →
      Form.LoadStored session.page.form form →
      inv (session.withForm form)
  starts :
    ∀ session form, inv session →
      name = none →
      Form.LoadNew session.page.form form →
      inv (session.withForm form)

/-
  One that opening a page keeps where views come in only as
  the service hands them out: those that are stored, and the
  one that a new configuration starts with.
-/
structure Receives
    (service : Service σ)
    (name : Option String)
    (inv : Session σ → Prop) : Prop where
  names :
    ∀ session, inv session → session.page.request.name = name
  queries :
    ∀ session request outcome state, inv session →
      request.Prepares name →
      (∀ stored, request ≠ .views stored) →
      service request session.state = (outcome, state) →
      inv { session with state }
  views :
    ∀ session stored outcome state, inv session →
      name = some stored →
      service (.views stored) session.state =
        (outcome, state) →
      inv (session.withViews outcome state)
  records :
    ∀ session stored outcome state, inv session →
      name = some stored →
      service (.configuration stored) session.state =
        (outcome, state) →
      inv (session.loaded outcome state)
  parts :
    ∀ session form, inv session →
      name ≠ none →
      Form.LoadStored session.page.form form →
      session.page.form.views.Retains form.views →
      inv (session.withForm form)
  starts :
    ∀ session form, inv session →
      name = none →
      Form.LoadNew session.page.form form →
      inv (session.withForm form)
  adds : PageM.Keeps inv (Page.addView service)

namespace Steady

variable {service : Service σ}
variable {mode : PageMode}
variable {action : Action}
variable {inv : Session σ → Prop}

/- The request and the flag of a page stay what they were. -/
theorem and_page
    (hInv : Steady service mode action inv)
    (P : PageRequest → Bool → Prop) :
    Steady service mode action fun session =>
      inv session ∧
        P session.page.request session.page.submitted where
  modes := fun session hSession =>
    hInv.modes session hSession.1
  marks := by
    rintro session page ⟨hSession, hPage⟩ hRequest hForm hMark
    refine
      ⟨hInv.marks session page hSession hRequest hForm hMark,
        ?_⟩
    change P page.request page.submitted
    rw [hRequest, hMark]
    exact hPage
  steps := by
    rintro session form ⟨hSession, hPage⟩ hStep hSpared
    exact
      ⟨hInv.steps session form hSession hStep hSpared, hPage⟩
  edits := by
    rintro session path value validate ⟨hSession, hPage⟩ hEdit
    exact
      ⟨hInv.edits session path value validate hSession hEdit,
        hPage⟩
  asks := by
    rintro session request outcome state ⟨hSession, hPage⟩
      hAsks hQuiet hCall
    exact
      ⟨hInv.asks session request outcome state hSession hAsks
        hQuiet hCall, hPage⟩
  judges := by
    rintro session path trigger outcome state
      ⟨hSession, hPage⟩ hTrigger hJudges hCall
    refine
      ⟨hInv.judges session path trigger outcome state hSession
        hTrigger hJudges hCall, ?_⟩
    cases outcome <;> exact hPage

/- A page that was not submitted stays so. -/
theorem unsubmitted (hInv : Steady service mode action inv) :
    Steady service mode action fun session =>
      inv session ∧ session.page.submitted = false :=
  hInv.and_page fun _ submitted => submitted = false

/- A page keeps the name that it was opened with. -/
theorem named
    (hInv : Steady service mode action inv)
    (name : Option String) :
    Steady service mode action fun session =>
      inv session ∧ session.page.request.name = name :=
  hInv.and_page fun request _ => request.name = name

end Steady

end Page

end BuildForm

------------------------------------------------------------
-- Primitive Actions
------------------------------------------------------------

namespace BuildForm

namespace Page

open PageM

variable {σ α : Type}
variable {service : Service σ}
variable {mode : PageMode}
variable {action : Action}
variable {inv : Session σ → Prop}

namespace Steady

theorem ask
    (hInv : Steady service mode action inv)
    {request : Request}
    (hAsks : ∀ form, Asks mode form request)
    (hQuiet : request.isJudgment = false) :
    Keeps inv (PageM.ask service request) := by
  apply Triple.ask
  · intro session answer state hSession hAnswer
    exact
      hInv.asks session request _ state hSession (hAsks _)
        hQuiet hAnswer
  · intro session error state hSession hError
    exact
      hInv.asks session request _ state hSession (hAsks _)
        hQuiet hError

theorem setStatus
    (hInv : Steady service mode action inv)
    (status : StatusLine) :
    Keeps inv (PageM.setStatus status) :=
  Triple.modifyPage fun session hSession =>
    hInv.marks session _ hSession rfl rfl rfl

/- A failure that is reported changes the status only. -/
theorem reportedTo
    (hInv : Steady service mode action inv)
    {attempt : PageM σ α}
    {before : Session σ → Prop}
    {after : α → Session σ → Prop}
    (hAttempt : Triple before attempt after (fun _ => inv)) :
    Triple before (PageM.reported attempt) after
      (fun _ => inv) :=
  Triple.reportedAs hAttempt fun _ session hSession =>
    hInv.marks session _ hSession rfl rfl rfl

theorem reported
    (hInv : Steady service mode action inv)
    {attempt : PageM σ α}
    (hAttempt : Keeps inv attempt) :
    Keeps inv (PageM.reported attempt) :=
  hInv.reportedTo hAttempt

theorem step
    (hInv : Steady service mode action inv)
    {change : Form → Form}
    (hStep : ∀ form, Form.Step mode form (change form))
    (hSpared : ∀ form, Form.Spared action form (change form)) :
    Keeps inv (modifyForm change) :=
  Triple.modifyPage fun session hSession =>
    hInv.steps session _ hSession (hStep session.page.form)
      (hSpared session.page.form)

/- A step of the very form that was read before. -/
theorem stepOf
    (hInv : Steady service mode action inv)
    {form : Form}
    {change : Form → Form}
    (hStep : Form.Step mode form (change form))
    (hSpared : Form.Spared action form (change form)) :
    Triple
      (fun session => inv session ∧ session.page.form = form)
      (modifyForm change) (fun _ => inv) (fun _ => inv) := by
  apply Triple.modifyPage
  rintro session ⟨hSession, rfl⟩
  exact hInv.steps session _ hSession hStep hSpared

/- What a form function makes of the form is kept. -/
theorem onForm_of_change
    {change : Form → Except FormError α × Form}
    (hChange :
      ∀ session, inv session →
        inv
          (session.withForm (change session.page.form).2)) :
    Keeps inv (PageM.onForm change) := by
  apply Triple.onForm
  · intro session value form hSession hForm
    have hAfter := hChange session hSession
    rw [hForm] at hAfter
    exact hAfter
  · intro session error form hSession hForm
    have hAfter := hChange session hSession
    rw [hForm] at hAfter
    exact hAfter

theorem onForm
    (hInv : Steady service mode action inv)
    {change : Form → Except FormError α × Form}
    (hStep :
      ∀ form,
        (change form).2 = form ∨
          Form.Step mode form (change form).2 ∧
            Form.Spared action form (change form).2) :
    Keeps inv (PageM.onForm change) := by
  apply onForm_of_change
  intro session hSession
  rcases hStep session.page.form with hSame | ⟨hStep, hSpared⟩
  · rw [hSame]
    exact hSession
  · exact hInv.steps session _ hSession hStep hSpared

/- The page that is read has the mode. -/
theorem getPage_mode
    (hInv : Steady service mode action inv) :
    Triple inv PageM.getPage
      (fun page session =>
        page.request.mode = mode ∧ inv session)
      (fun _ => inv) :=
  Triple.getPage fun session hSession =>
    ⟨hInv.modes session hSession, hSession⟩

/- The guard returns only on a page that may be edited. -/
theorem requireMutable_spec
    (hInv : Steady service mode action inv) :
    Triple inv PageM.requireMutable
      (fun _ session => mode.isMutable ∧ inv session)
      (fun _ => inv) := by
  apply Triple.bind hInv.getPage_mode
  intro page
  apply Triple.given
  intro hMode
  apply Triple.ite
  · intro _
    exact Triple.throw fun _ hSession => hSession
  · intro hGuard
    apply Triple.pure
    intro session hSession
    have hMutable : page.isMutable := by simpa using hGuard
    rw [← hMode]
    exact ⟨hMutable, hSession⟩

/- What comes after the guard may rely on the mode. -/
theorem requireMutable
    (hInv : Steady service mode action inv)
    {next : Unit → PageM σ α}
    (hNext : mode.isMutable → Keeps inv (next ())) :
    Keeps inv (PageM.requireMutable >>= next) :=
  Triple.bind hInv.requireMutable_spec fun _ =>
    Triple.given hNext

/- A guard that answers instead of failing. -/
theorem whenMutable
    (hInv : Steady service mode action inv)
    {attempt otherwise : PageM σ α}
    (hAttempt : mode.isMutable → Keeps inv attempt)
    (hOtherwise : Keeps inv otherwise) :
    Keeps inv (do
      if (← PageM.getPage).isMutable then
        attempt
      else
        otherwise) := by
  apply Triple.bind hInv.getPage_mode
  intro page
  apply Triple.given
  intro hMode
  apply Triple.ite
  · intro hMutable
    rw [← hMode] at hAttempt
    exact hAttempt hMutable
  · intro _
    exact hOtherwise

end Steady

end Page

end BuildForm

------------------------------------------------------------
-- Adding Views and Builders
------------------------------------------------------------

namespace BuildForm

namespace Page

open PageM

variable {σ : Type}
variable {service : Service σ}
variable {mode : PageMode}
variable {action : Action}
variable {inv : Session σ → Prop}

namespace Steady

theorem addBuilder
    (hInv : Steady service mode action inv)
    (view : ViewId) :
    Keeps inv (Page.addBuilder service view) := by
  unfold Page.addBuilder
  apply hInv.requireMutable
  intro hMutable
  apply Keeps.bind
    (hInv.ask (fun _ => .freshBuilder hMutable) rfl)
  intro fragment
  apply Triple.readForm
  intro form
  split
  · rename_i builder views hAdd
    have hChange :
        ∀ entry : View,
          (entry.pushBuilder fragment.html).2 = entry ∨
            View.Step entry (entry.pushBuilder fragment.html).2 :=
      fun entry => Or.inr (.addBuilder entry fragment.html)
    have hStep :
        Form.Step mode form { form with views } :=
      .views hMutable (.amend hChange hAdd)
    have hRetains : form.views.Retains views :=
      Views.retains_amend hChange hAdd
    apply Triple.bind
      (hInv.stepOf hStep (.of_same ⟨rfl, rfl⟩ rfl hRetains))
    intro _
    exact Keeps.pure builder
  · exact Triple.throw fun _ hSession => hSession.1

/- A fresh view comes from the service and goes to the form. -/
theorem addView_of_fresh
    (hInv : Steady service mode action inv)
    (hFresh :
      ∀ session outcome state, inv session →
        mode.isMutable →
        service .freshView session.state = (outcome, state) →
        inv (session.withFresh outcome state)) :
    Keeps inv (Page.addView service) := by
  unfold Page.addView
  apply hInv.requireMutable
  intro hMutable
  apply Keeps.bind
    (hInv.step (fun form => .dropPrompt form hMutable)
      fun form => .of_same ⟨rfl, rfl⟩ rfl (.refl form.views))
  intro _
  have hAsk :
      Triple inv (PageM.ask service .freshView)
        (fun fragment session =>
          inv
            (session.withForm
              { session.page.form with
                views :=
                  (session.page.form.views.insert fragment
                    session.page.form.scmKind).2 }))
        (fun _ => inv) := by
    apply Triple.ask
    · intro session fragment state hSession hAnswer
      exact hFresh session _ state hSession hMutable hAnswer
    · intro session error state hSession hError
      exact hFresh session _ state hSession hMutable hError
  apply Triple.bind hAsk
  intro fragment
  apply Triple.readForm
  intro form
  have hInsert :
      Triple
        (fun session =>
          inv
              (session.withForm
                { session.page.form with
                  views :=
                    (session.page.form.views.insert fragment
                      session.page.form.scmKind).2 }) ∧
            session.page.form = form)
        (modifyForm fun current =>
          { current with
            views :=
              (form.views.insert fragment form.scmKind).2 })
        (fun _ => inv) (fun _ => inv) := by
    apply Triple.modifyPage
    rintro session ⟨hSession, rfl⟩
    exact hSession
  apply Triple.bind hInsert
  intro _
  apply Keeps.bind (hInv.addBuilder _)
  intro _
  apply Keeps.bind Keeps.getForm
  intro _
  apply Keeps.bind (hInv.setStatus _)
  intro _
  exact Keeps.pure _

theorem addView
    (hInv : Steady service mode action inv)
    (hAdds : action.addsView) :
    Keeps inv (Page.addView service) := by
  apply hInv.addView_of_fresh
  intro session outcome state hSession hMutable hCall
  have hAsked :=
    hInv.asks session _ outcome state hSession
      (.freshView hMutable) rfl hCall
  cases outcome with
  | error error => exact hAsked
  | ok fragment =>
      exact
        hInv.steps { session with state } _ hAsked
          (.views hMutable (.insert _ fragment _))
          ⟨⟨rfl, rfl⟩, fun _ _ => rfl, Or.inl hAdds⟩

end Steady

end Page

end BuildForm

------------------------------------------------------------
-- Editing a Page
------------------------------------------------------------

namespace BuildForm

namespace Page

open PageM

variable {σ α : Type}
variable {service : Service σ}
variable {mode : PageMode}
variable {action : Action}
variable {inv : Session σ → Prop}

namespace Steady

theorem onViews
    (hInv : Steady service mode action inv)
    (refused : α)
    {change : Views → α × Views}
    (hStep :
      ∀ views,
        (change views).2 = views ∨
          Views.Step views (change views).2 ∧
            views.Retains (change views).2) :
    Keeps inv (Page.onViews refused change) := by
  apply hInv.whenMutable _ (Keeps.pure refused)
  intro hMutable
  apply hInv.onForm
  intro form
  rcases hStep form.views with hSame | ⟨hStep, hRetains⟩
  · left
    change { form with views := (change form.views).2 } = form
    rw [hSame]
  · right
    exact
      ⟨.views hMutable hStep,
        .of_same ⟨rfl, rfl⟩ rfl hRetains⟩

theorem onView
    (hInv : Steady service mode action inv)
    (id : ViewId)
    {change : View → Bool × View}
    (hStep :
      ∀ view,
        (change view).2 = view ∨
          View.Step view (change view).2) :
    Keeps inv (Page.onView id change) := by
  apply hInv.onViews
  intro views
  cases hAmend : views.amend id change with
  | none => exact Or.inl rfl
  | some changed =>
      right
      exact
        ⟨.amend hStep hAmend,
          Views.retains_amend hStep hAmend⟩

/- A change of one view that is there. -/
theorem onViews_amend
    (hInv : Steady service mode action inv)
    (id : ViewId)
    {change : View → Bool × View}
    (hStep : ∀ view, View.Step view (change view).2) :
    Keeps inv
      (Page.onViews false fun views =>
        (views.amend id change).getD (false, views)) :=
  hInv.onView id fun view => Or.inr (hStep view)

theorem addPath
    (hInv : Steady service mode action inv)
    (id : ViewId)
    (kind : SelectionKind) :
    Keeps inv (Page.addPath id kind : PageM σ Unit) := by
  unfold Page.addPath
  apply hInv.requireMutable
  intro hMutable
  apply hInv.onForm
  intro form
  split
  · rename_i result views hAmend
    have hChange :
        ∀ view : View,
          (view.addPath kind).2 = view ∨
            View.Step view (view.addPath kind).2 :=
      fun view => Or.inr (.addPath view kind)
    right
    exact
      ⟨.views hMutable (.amend hChange hAmend),
        .of_same ⟨rfl, rfl⟩ rfl
          (Views.retains_amend hChange hAmend)⟩
  · exact Or.inl rfl

theorem press
    (hInv : Steady service mode action inv)
    (id : ViewId)
    (kind : SelectionKind)
    (key : Key) :
    Keeps inv (Page.press id kind key : PageM σ Bool) := by
  unfold Page.press
  apply Keeps.bind Keeps.getPage
  intro page
  apply hInv.onView
  intro view
  right
  exact .press view kind key page.options.deleteKey

theorem setVersionFiles
    (hInv : Steady service mode action inv)
    (id : ViewId)
    (enabled : Bool) :
    Keeps inv
      (Page.setVersionFiles id enabled : PageM σ Bool) := by
  apply hInv.onView
  intro view
  right
  exact .setVersionFiles view enabled

theorem setOtherConfig
    (hInv : Steady service mode action inv)
    (id : ViewId)
    (builder : BuilderId)
    (checked : Bool) :
    Keeps inv
      (Page.setOtherConfig id builder checked :
        PageM σ Bool) := by
  apply hInv.onView
  intro view
  cases view.builder? builder with
  | none => exact Or.inl rfl
  | some entry =>
      right
      exact .setOtherConfig view builder checked

theorem edit
    (hInv : Steady service mode action inv)
    {path : FieldPath}
    {value : String}
    (hAction : action = .edit path value)
    (validate : Bool) :
    Keeps inv
      (PageM.onForm (·.edit path value validate)) := by
  apply onForm_of_change
  intro session hSession
  exact hInv.edits session path value validate hSession hAction

theorem toggleHelp
    (hInv : Steady service mode action inv)
    (name : String) :
    Keeps inv (Page.toggleHelp name : PageM σ Bool) := by
  apply hInv.onForm
  intro form
  right
  exact
    ⟨.help form _, .of_same ⟨rfl, rfl⟩ rfl (.refl form.views)⟩

theorem toggleTriggerHelp
    (hInv : Steady service mode action inv)
    (name : String) :
    Keeps inv (Page.toggleTriggerHelp service name) := by
  have hHelp :
      ∀ change : Form → HelpPanel,
        Keeps inv
          (modifyForm fun form =>
            { form with help := change form }) := by
    intro change
    apply hInv.step (fun form => .help form (change form))
    intro form
    exact .of_same ⟨rfl, rfl⟩ rfl (.refl form.views)
  unfold Page.toggleTriggerHelp
  apply Keeps.bind Keeps.getForm
  intro form
  apply Keeps.ite
  · apply Keeps.bind (hHelp fun form => form.help.hideTrigger name)
    intro _
    exact Keeps.pure false
  · apply Keeps.bind
      (hInv.reported (hInv.ask (fun _ => .help name) rfl))
    intro message
    apply Keeps.bind
      (hHelp fun form => form.help.showTrigger name message)
    intro _
    exact Keeps.pure true

theorem addUser
    (hInv : Steady service mode action inv) :
    Keeps inv (Page.addUser service) := by
  unfold Page.addUser
  apply Triple.bind (hInv.reportedTo hInv.requireMutable_spec)
  intro _
  apply Triple.given
  intro hMutable
  apply Keeps.bind Keeps.getForm
  intro before
  apply Keeps.bind
    (hInv.step (fun form => .takeUser form hMutable)
      fun form => .of_same ⟨rfl, rfl⟩ rfl (.refl form.views))
  intro _
  apply Keeps.ite
  · exact Keeps.pure none
  · apply Keeps.bind
      (hInv.reported
        (hInv.ask (fun _ => .freshUser hMutable) rfl))
    intro fragment
    apply hInv.onForm
    intro form
    right
    exact
      ⟨.addUser form _ fragment.html hMutable,
        .of_same ⟨rfl, rfl⟩ rfl (.refl form.views)⟩

theorem deleteUser
    (hInv : Steady service mode action inv)
    (row : UInt32) :
    Keeps inv (Page.deleteUser row : PageM σ Bool) := by
  apply hInv.whenMutable _ (Keeps.pure false)
  intro hMutable
  apply hInv.onForm
  intro form
  right
  exact
    ⟨.deleteUser form row hMutable,
      .of_same ⟨rfl, rfl⟩ rfl (.refl form.views)⟩

theorem cancel (hInv : Steady service mode action inv) :
    Keeps inv (Page.cancel : PageM σ String) := by
  unfold Page.cancel
  apply Keeps.bind Keeps.getPage
  intro page
  apply Keeps.bind
  · exact Triple.modifyPage fun session hSession =>
      hInv.marks session _ hSession rfl rfl rfl
  · intro _
    exact Keeps.pure _

/- The guard returns only on a page to approve or reject. -/
theorem requireApproveReject
    (hInv : Steady service mode action inv)
    {next : Unit → PageM σ α}
    (hNext : mode = .approveReject → Keeps inv (next ())) :
    Keeps inv
      (PageM.reported Page.requireApproveReject >>= next) := by
  have hGuard :
      Triple inv Page.requireApproveReject
        (fun _ session => mode = .approveReject ∧ inv session)
        (fun _ => inv) := by
    apply Triple.bind hInv.getPage_mode
    intro page
    apply Triple.given
    intro hMode
    apply Triple.ite
    · intro _
      exact Triple.throw fun _ hSession => hSession
    · intro hGuard
      apply Triple.pure
      intro session hSession
      rw [← hMode]
      exact ⟨by simpa using hGuard, hSession⟩
  exact
    Triple.bind (hInv.reportedTo hGuard) fun _ =>
      Triple.given hNext

theorem openReject
    (hInv : Steady service mode .openReject inv) :
    Keeps inv (Page.openReject : PageM σ Unit) := by
  unfold Page.openReject
  apply hInv.requireApproveReject
  intro hMode
  apply hInv.step (fun form => .openReject form hMode)
  intro form
  exact
    ⟨⟨rfl, rfl⟩, fun hAction => absurd rfl hAction,
      Or.inr (.refl form.views)⟩

theorem cancelReject
    (hInv : Steady service mode .cancelReject inv) :
    Keeps inv (Page.cancelReject : PageM σ Unit) := by
  apply hInv.step (fun form => .cancelReject form)
  intro form
  exact
    ⟨⟨rfl, rfl⟩, fun _ hAction => absurd rfl hAction,
      Or.inr (.refl form.views)⟩

end Steady

end Page

end BuildForm
