import BuildForm.Proofs.Page.Dispatching
import BuildForm.Proofs.Page.Outcomes

/-
  What is told on the status line.

  A failure is put on it with its own text, however far the
  action got. An action that returns leaves the line as it
  was, or puts a notice on it that is no error.

  Actions report in different places: most of them around the
  whole, four at the guards and calls that may fail, and those
  that cannot fail nowhere. So what is told is shown for one
  action after the other.

  Main declarations:
    * `Action.announces`
    * `Page.OnStatus`
    * `Page.Shows`
    * `Page.shows_act`
    * `Session.step_status`
-/

------------------------------------------------------------
-- Properties of the Status Line
------------------------------------------------------------

namespace BuildForm

/- Whether an action may put a notice on the status line. -/
def Action.announces : Action → Bool
  | .init | .addView | .submit | .confirmReject | .cancel =>
      true
  | _ => false

namespace Page

open PageM

variable {σ α : Type}
variable {P : StatusLine → Prop}

/- A property that whatever is no error has. -/
def AdmitsNotices (P : StatusLine → Prop) : Prop :=
  ∀ status, status.isError = false → P status

/- What holds of the status line holds whatever else is. -/
def OnStatus
    (P : StatusLine → Prop)
    (session : Session σ) : Prop :=
  P session.page.status

theorem keeps_ask
    (service : Service σ)
    (request : Request) :
    Keeps (OnStatus P) (ask service request) :=
  Triple.ask (fun _ _ _ hSession _ => hSession)
    fun _ _ _ hSession _ => hSession

theorem keeps_modifyForm (change : Form → Form) :
    Keeps (OnStatus P) (modifyForm change : PageM σ Unit) :=
  Triple.modifyPage fun _ hSession => hSession

theorem keeps_onForm
    (change : Form → Except FormError α × Form) :
    Keeps (OnStatus P) (onForm change : PageM σ α) :=
  Triple.onForm (fun _ _ _ hSession _ => hSession)
    fun _ _ _ hSession _ => hSession

theorem keeps_setSubmitted (submitted : Bool) :
    Keeps (OnStatus P) (setSubmitted submitted : PageM σ Unit) :=
  Triple.modifyPage fun _ hSession => hSession

theorem keeps_setStatus
    {status : StatusLine}
    (hStatus : P status) :
    Keeps (OnStatus P) (setStatus status : PageM σ Unit) :=
  Triple.modifyPage fun _ _ => hStatus

/- A guard fails or does nothing. -/
theorem keeps_guard
    (condition : Page → Prop)
    [DecidablePred condition]
    (error : FormError) :
    Keeps (OnStatus P)
      (do
        if condition (← getPage) then
          throw error
        else
          pure () : PageM σ Unit) := by
  apply Keeps.bind Keeps.getPage
  intro page
  exact Keeps.ite (Keeps.throw error) (Keeps.pure ())

theorem keeps_requireMutable :
    Keeps (OnStatus P) (requireMutable : PageM σ Unit) :=
  keeps_guard (fun page => (!page.isMutable) = true) .readOnly

theorem keeps_requireUnsubmitted :
    Keeps (OnStatus P) (requireUnsubmitted : PageM σ Unit) :=
  keeps_guard (fun page => page.submitted = true)
    .alreadySubmitted

theorem keeps_requireApproveReject :
    Keeps (OnStatus P) (requireApproveReject : PageM σ Unit) :=
  keeps_guard (fun page => page.request.mode ≠ .approveReject)
    .readOnly

end Page

end BuildForm

------------------------------------------------------------
-- Parts without a Notice
------------------------------------------------------------

namespace BuildForm

namespace Page

open PageM

variable {σ α : Type}
variable {P : StatusLine → Prop}

theorem keeps_addBuilder
    (service : Service σ)
    (view : ViewId) :
    Keeps (OnStatus P) (addBuilder service view) := by
  unfold addBuilder
  apply Keeps.bind keeps_requireMutable
  intro _
  apply Keeps.bind (keeps_ask service .freshBuilder)
  intro fragment
  apply Keeps.bind Keeps.getForm
  intro form
  split
  · apply Keeps.bind (keeps_modifyForm _)
    intro _
    exact Keeps.pure _
  · exact Keeps.throw _

theorem keeps_addPath
    (view : ViewId)
    (kind : SelectionKind) :
    Keeps (OnStatus P) (addPath view kind : PageM σ Unit) := by
  apply Keeps.bind keeps_requireMutable
  intro _
  exact keeps_onForm _

theorem keeps_checkTrigger
    (service : Service σ)
    (path : FieldPath) :
    Keeps (OnStatus P) (checkTrigger service path) := by
  unfold checkTrigger
  apply Keeps.bind Keeps.getForm
  intro form
  split
  · exact Keeps.throw _
  · apply Keeps.bind (keeps_ask service _)
    intro answer
    apply Keeps.bind (keeps_modifyForm _)
    intro _
    exact Keeps.pure _

end Page

end BuildForm

------------------------------------------------------------
-- Parts with a Notice
------------------------------------------------------------

namespace BuildForm

namespace Page

open PageM

variable {σ : Type}
variable {P : StatusLine → Prop}

theorem keeps_addView
    (hNotice : AdmitsNotices P)
    (service : Service σ) :
    Keeps (OnStatus P) (addView service) := by
  apply Keeps.bind keeps_requireMutable
  intro _
  apply Keeps.bind (keeps_modifyForm _)
  intro _
  apply Keeps.bind (keeps_ask service .freshView)
  intro fragment
  apply Keeps.bind Keeps.getForm
  intro before
  apply Keeps.bind (keeps_modifyForm _)
  intro _
  apply Keeps.bind (keeps_addBuilder service _)
  intro _
  apply Keeps.bind Keeps.getForm
  intro after
  apply Keeps.bind (keeps_setStatus (hNotice _ rfl))
  intro _
  exact Keeps.pure _

theorem keeps_loadViews
    (service : Service σ)
    (name : String) :
    Keeps (OnStatus P) (loadViews service name) := by
  apply Keeps.bind (keeps_ask service (.views name))
  intro loaded
  exact keeps_modifyForm _

theorem keeps_loadUsers
    (service : Service σ)
    (name : String) :
    Keeps (OnStatus P) (loadUsers service name) := by
  apply Keeps.bind (keeps_ask service (.users name))
  intro loaded
  exact keeps_modifyForm _

theorem keeps_loadDifference
    (service : Service σ)
    (name : String)
    (current : Configuration) :
    Keeps (OnStatus P) (loadDifference service name current) := by
  apply Keeps.bind (keeps_ask service (.approved name))
  intro approved
  apply Keeps.ite
  · apply Keeps.bind (keeps_ask service (.deletedViews name))
    intro deleted
    apply Keeps.bind (keeps_modifyForm _)
    intro _
    exact keeps_modifyForm _
  · exact keeps_modifyForm _

theorem keeps_loadContent
    (service : Service σ)
    (name : String) :
    Keeps (OnStatus P) (loadContent service name) := by
  apply Keeps.bind (keeps_ask service (.configuration name))
  intro config
  have hCompare :
      Keeps (OnStatus P)
        (if (!config.isApproved) = true then
          loadDifference service name config
        else
          pure ()) :=
    Keeps.ite (keeps_loadDifference service name config)
      (Keeps.pure ())
  apply Keeps.bind (keeps_modifyForm _)
  intro _
  dsimp only
  split
  · apply Keeps.bind (keeps_ask service (.fullName _))
    intro fullName
    apply Keeps.bind (keeps_modifyForm _)
    intro _
    exact hCompare
  · exact hCompare

theorem keeps_openStored
    (hNotice : AdmitsNotices P)
    (service : Service σ)
    (name : String) :
    Keeps (OnStatus P) (openStored service name) := by
  apply Keeps.bind (keeps_loadViews service name)
  intro _
  apply Keeps.bind (keeps_loadUsers service name)
  intro _
  apply Keeps.bind (keeps_loadContent service name)
  intro _
  apply Keeps.bind (keeps_modifyForm _)
  intro _
  exact keeps_setStatus (hNotice _ rfl)

theorem keeps_openNew
    (hNotice : AdmitsNotices P)
    (service : Service σ) :
    Keeps (OnStatus P) (openNew service) := by
  apply Keeps.bind Keeps.getPage
  intro page
  apply Keeps.bind (keeps_modifyForm _)
  intro _
  apply Keeps.bind (keeps_modifyForm _)
  intro _
  apply Keeps.bind (keeps_modifyForm _)
  intro _
  apply Keeps.bind (keeps_ask service .newDefaults)
  intro defaults
  apply Keeps.bind (keeps_modifyForm _)
  intro _
  apply Keeps.bind (keeps_addView hNotice service)
  intro _
  exact keeps_setStatus (hNotice _ rfl)

/- The rights of the user are asked for after the notice. -/
theorem keeps_init
    (hNotice : AdmitsNotices P)
    (service : Service σ) :
    Keeps (OnStatus P) (init service) := by
  have hRights :
      Keeps (OnStatus P)
        (do
          let isAdmin : Bool ← ask service .isAdministrator
          modifyForm fun form => { form with isAdmin }) := by
    apply Keeps.bind (keeps_ask service .isAdministrator)
    intro isAdmin
    exact keeps_modifyForm _
  unfold init
  apply Keeps.bind Keeps.getPage
  intro page
  dsimp only
  split
  · apply Keeps.bind (keeps_openStored hNotice service _)
    intro _
    exact hRights
  · apply Keeps.bind (keeps_openNew hNotice service)
    intro _
    exact hRights

theorem keeps_send
    (hNotice : AdmitsNotices P)
    (service : Service σ) :
    Keeps (OnStatus P) (send service) := by
  apply Keeps.bind (keeps_setSubmitted true)
  intro _
  apply Keeps.bind Keeps.getForm
  intro form
  apply Keeps.bind
  · apply Triple.tryCatch (keeps_ask service _)
    intro error
    apply Keeps.bind (keeps_setSubmitted false)
    intro _
    exact Keeps.throw error
  · intro _
    apply Keeps.bind (keeps_setStatus (hNotice _ rfl))
    intro _
    exact Keeps.pure _

theorem keeps_sendWith
    (hNotice : AdmitsNotices P)
    (service : Service σ)
    (result : FormResult) :
    Keeps (OnStatus P) (sendWith service result) := by
  apply Keeps.bind (keeps_modifyForm _)
  intro _
  exact keeps_send hNotice service

theorem keeps_recheckTrigger
    (service : Service σ)
    (path : FieldPath) :
    Keeps (OnStatus P) (recheckTrigger service path) := by
  apply Keeps.bind Keeps.getForm
  intro form
  apply Keeps.ite
  · apply Keeps.bind (keeps_checkTrigger service path)
    intro _
    exact Keeps.pure ()
  · exact Keeps.pure ()

theorem keeps_sendChecked
    (hNotice : AdmitsNotices P)
    (service : Service σ)
    (outcome : FormCheck) :
    Keeps (OnStatus P) (sendChecked service outcome) := by
  cases outcome with
  | blocked error => exact Keeps.throw error
  | ready => exact keeps_sendWith hNotice service .other
  | nameCheckRequired =>
      apply Keeps.bind Keeps.getForm
      intro form
      apply Keeps.bind (keeps_ask service (.isNameFree _))
      intro isFree
      apply Keeps.ite
      · apply Keeps.bind (keeps_modifyForm _)
        intro _
        exact keeps_sendWith hNotice service .create
      · apply Keeps.bind (keeps_modifyForm _)
        intro _
        exact Keeps.throw _

theorem keeps_submit
    (hNotice : AdmitsNotices P)
    (service : Service σ) :
    Keeps (OnStatus P) (submit service) := by
  rw [submit_eq]
  apply Keeps.bind keeps_requireUnsubmitted
  intro _
  apply Keeps.bind Keeps.getPage
  intro page
  apply Keeps.ite
  · apply Keeps.bind
      (Keeps.bind (keeps_recheckTrigger service _) fun _ =>
        keeps_recheckTrigger service _)
    intro _
    exact
      Keeps.bind (keeps_onForm _)
        (keeps_sendChecked hNotice service)
  · exact
      Keeps.bind (keeps_onForm _)
        (keeps_sendChecked hNotice service)

theorem keeps_reject
    (hNotice : AdmitsNotices P)
    (service : Service σ)
    (reason : String) :
    Keeps (OnStatus P) (reject service reason) := by
  apply Keeps.bind keeps_requireUnsubmitted
  intro _
  apply Keeps.bind (keeps_modifyForm _)
  intro _
  exact keeps_send hNotice service

end Page

end BuildForm

------------------------------------------------------------
-- Showing Failures
------------------------------------------------------------

namespace BuildForm

namespace Page

open PageM

variable {σ α β : Type}
variable {P : StatusLine → Prop}

/-
  The action shows what it comes to: if it fails, its error is
  on the status line, and if it returns, what notices have is
  kept there.
-/
def Shows
    (P : StatusLine → Prop)
    (action : PageM σ α) : Prop :=
  Triple (OnStatus P) action (fun _ => OnStatus P)
    (fun error session =>
      session.page.status = .failed error)

namespace Shows

theorem reported
    {action : PageM σ α}
    (hAction : Keeps (OnStatus P) action) :
    Shows P (PageM.reported action) :=
  Triple.reportedAs hAction fun _ _ _ => rfl

theorem pure (value : α) :
    Shows P (Pure.pure value : PageM σ α) :=
  Triple.pure fun _ hSession => hSession

theorem bind
    {action : PageM σ α}
    {next : α → PageM σ β}
    (hAction : Shows P action)
    (hNext : ∀ value, Shows P (next value)) :
    Shows P (action >>= next) :=
  Triple.bind hAction hNext

theorem map
    {action : PageM σ α}
    (hAction : Shows P action)
    (result : α → β) :
    Shows P
      (action >>= fun value => Pure.pure (result value)) :=
  bind hAction fun value => pure (result value)

theorem ite
    {condition : Prop}
    [Decidable condition]
    {first second : PageM σ α}
    (hFirst : Shows P first)
    (hSecond : Shows P second) :
    Shows P (if condition then first else second) :=
  Triple.ite (fun _ => hFirst) (fun _ => hSecond)

theorem getPage : Shows P (PageM.getPage : PageM σ Page) :=
  Triple.getPage fun _ hSession => hSession

theorem getForm : Shows P (PageM.getForm : PageM σ Form) :=
  Triple.getForm fun _ hSession => hSession

theorem modifyForm (change : Form → Form) :
    Shows P (PageM.modifyForm change : PageM σ Unit) :=
  Triple.modifyPage fun _ hSession => hSession

/- A change of the form that cannot fail has nothing to show. -/
theorem onForm
    {change : Form → Except FormError α × Form}
    (hTotal : ∀ form, (change form).1.isOk) :
    Shows P (PageM.onForm change : PageM σ α) := by
  apply Triple.onForm
  · exact fun _ _ _ hSession _ => hSession
  · intro session error form _ hChange
    have hOk := hTotal session.page.form
    rw [hChange] at hOk
    cases hOk

end Shows

end Page

end BuildForm

------------------------------------------------------------
-- Actions that Cannot Fail
------------------------------------------------------------

namespace BuildForm

namespace Page

open PageM

variable {σ α : Type}
variable {P : StatusLine → Prop}

theorem shows_onViews
    (refused : α)
    (change : Views → α × Views) :
    Shows P (onViews refused change : PageM σ α) := by
  apply Shows.bind Shows.getPage
  intro page
  exact Shows.ite (Shows.onForm fun _ => rfl) (Shows.pure _)

theorem shows_onView
    (view : ViewId)
    (change : View → Bool × View) :
    Shows P (onView view change : PageM σ Bool) :=
  shows_onViews false _

theorem shows_press
    (view : ViewId)
    (kind : SelectionKind)
    (key : Key) :
    Shows P (press view kind key : PageM σ Bool) := by
  apply Shows.bind Shows.getPage
  intro page
  exact shows_onView view _

theorem shows_setVersionFiles
    (view : ViewId)
    (enabled : Bool) :
    Shows P (setVersionFiles view enabled : PageM σ Bool) :=
  shows_onView view _

theorem shows_setOtherConfig
    (view : ViewId)
    (builder : BuilderId)
    (checked : Bool) :
    Shows P
      (setOtherConfig view builder checked : PageM σ Bool) :=
  shows_onView view _

theorem shows_toggleHelp (name : String) :
    Shows P (toggleHelp name : PageM σ Bool) :=
  Shows.onForm fun _ => rfl

theorem shows_deleteUser (row : UInt32) :
    Shows P (deleteUser row : PageM σ Bool) := by
  apply Shows.bind Shows.getPage
  intro page
  exact Shows.ite (Shows.onForm fun _ => rfl) (Shows.pure _)

theorem shows_cancelReject :
    Shows P (cancelReject : PageM σ Unit) :=
  Shows.modifyForm _

theorem shows_cancel (hNotice : AdmitsNotices P) :
    Shows P (cancel : PageM σ String) := by
  apply Shows.bind Shows.getPage
  intro page
  refine Shows.bind ?_ fun _ => Shows.pure _
  exact Triple.modifyPage fun _ _ => hNotice _ rfl

end Page

end BuildForm

------------------------------------------------------------
-- Actions that Report by Themselves
------------------------------------------------------------

namespace BuildForm

namespace Page

open PageM

variable {σ : Type}
variable {P : StatusLine → Prop}

/- Hiding a help text cannot fail, so only the call reports. -/
theorem shows_toggleTriggerHelp
    (service : Service σ)
    (name : String) :
    Shows P (toggleTriggerHelp service name) := by
  apply Shows.bind Shows.getForm
  intro form
  apply Shows.ite
  · apply Shows.bind (Shows.modifyForm _)
    intro _
    exact Shows.pure false
  · apply Shows.bind (Shows.reported (keeps_ask service _))
    intro message
    apply Shows.bind (Shows.modifyForm _)
    intro _
    exact Shows.pure true

/- The input is emptied between the two places that report. -/
theorem shows_addUser (service : Service σ) :
    Shows P (addUser service) := by
  apply Shows.bind (Shows.reported keeps_requireMutable)
  intro _
  apply Shows.bind Shows.getForm
  intro before
  apply Shows.bind (Shows.modifyForm _)
  intro _
  apply Shows.ite
  · exact Shows.pure none
  · apply Shows.bind (Shows.reported (keeps_ask service _))
    intro fragment
    exact Shows.onForm fun _ => rfl

theorem shows_openReject :
    Shows P (openReject : PageM σ Unit) := by
  apply Shows.bind (Shows.reported keeps_requireApproveReject)
  intro _
  exact Shows.modifyForm _

/- Without a reason nothing is sent, and nothing can fail. -/
theorem shows_confirmReject
    (hNotice : AdmitsNotices P)
    (service : Service σ) :
    Shows P (confirmReject service) := by
  apply Shows.bind (Shows.reported keeps_requireApproveReject)
  intro _
  apply Shows.bind Shows.getForm
  intro form
  apply Shows.ite
  · apply Shows.bind (Shows.modifyForm _)
    intro _
    exact Shows.pure none
  · exact
      Shows.map
        (Shows.reported (keeps_reject hNotice service _)) some

end Page

end BuildForm

------------------------------------------------------------
-- The Status after an Action
------------------------------------------------------------

namespace BuildForm

namespace Page

open PageM

variable {σ : Type}
variable {P : StatusLine → Prop}

/-
  Every action shows its failures. No other action than one
  that announces needs notices to be admitted.
-/
theorem shows_act
    (service : Service σ)
    (action : Action)
    (hNotice : action.announces → AdmitsNotices P) :
    Shows P (act service action) := by
  cases action with
  | init =>
      exact
        Shows.map
          (Shows.reported (keeps_init (hNotice rfl) service)) _
  | addView =>
      exact
        Shows.map
          (Shows.reported (keeps_addView (hNotice rfl) service))
          _
  | addBuilder view =>
      exact
        Shows.map (Shows.reported (keeps_addBuilder service view))
          _
  | removeView view =>
      exact Shows.map (shows_onViews false _) _
  | removeBuilder view builder =>
      exact Shows.map (shows_onViews false _) _
  | selectCredentials view value =>
      exact Shows.map (shows_onViews false _) _
  | rememberCredentials view =>
      exact Shows.map (shows_onViews none _) _
  | edit path value =>
      apply Shows.bind Shows.getPage
      intro page
      exact Shows.map (Shows.reported (keeps_onForm _)) _
  | addPath view kind =>
      exact
        Shows.map (Shows.reported (keeps_addPath view kind)) _
  | press view kind key =>
      exact Shows.map (shows_press view kind key) _
  | setVersionFiles view enabled =>
      exact Shows.map (shows_setVersionFiles view enabled) _
  | setOtherConfig view builder checked =>
      exact
        Shows.map (shows_setOtherConfig view builder checked) _
  | checkTrigger path =>
      exact
        Shows.map
          (Shows.reported (keeps_checkTrigger service path)) _
  | toggleHelp name =>
      exact Shows.map (shows_toggleHelp name) _
  | toggleTriggerHelp name =>
      exact Shows.map (shows_toggleTriggerHelp service name) _
  | addUser => exact Shows.map (shows_addUser service) _
  | deleteUser row => exact Shows.map (shows_deleteUser row) _
  | submit =>
      exact
        Shows.map
          (Shows.reported (keeps_submit (hNotice rfl) service)) _
  | openReject => exact Shows.map shows_openReject _
  | confirmReject =>
      exact
        Shows.map (shows_confirmReject (hNotice rfl) service) _
  | cancelReject => exact Shows.map shows_cancelReject _
  | cancel => exact Shows.map (shows_cancel (hNotice rfl)) _

end Page

namespace Session

open PageM Page

variable {σ : Type}

/-
  An action that fails leaves its error on the status line.
  One that returns leaves the line alone or, if it announces
  what it did, a notice that is no error.
-/
theorem step_status
    (service : Service σ)
    (session : Session σ)
    (action : Action) :
    match step service session action with
    | (.error error, after) =>
        after.page.status.isError = true ∧
          after.page.status.message = error.message
    | (.ok _, after) =>
        after.page.status = session.page.status ∨
          (action.announces = true ∧
            after.page.status.isError = false) := by
  have hShows :
      Shows
        (fun status =>
          status = session.page.status ∨
            (action.announces = true ∧ status.isError = false))
        (act service action) :=
    shows_act service action fun hAnnounces status hStatus =>
      Or.inr ⟨hAnnounces, hStatus⟩
  have hAfter := hShows session (Or.inl rfl)
  unfold step
  rcases hPerform : (act service action).perform session with
    ⟨result, after⟩
  rw [hPerform] at hAfter
  cases result with
  | error error =>
      have hStatus : after.page.status = .failed error := hAfter
      dsimp only
      rw [hStatus]
      exact ⟨rfl, rfl⟩
  | ok reply => exact hAfter

end Session

end BuildForm
