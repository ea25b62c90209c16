import BuildForm.Proofs.Form.Marks
import BuildForm.Proofs.Page.Dispatching

/-
  What submitting and rejecting come to.

  A submission first has schedules judged, then has the form
  checked, and goes on by the outcome of the check. A form
  that is sent leaves the page marked and with a status line,
  or unmarked with the error of the service.

  Main declarations:
    * `Session.delivered`
    * `Page.perform_send`
    * `Page.prepare`
    * `Page.prepare_spec`
    * `Page.perform_submit`
    * `Page.perform_confirmReject`
-/

------------------------------------------------------------
-- Sending
------------------------------------------------------------

namespace BuildForm

namespace Session

variable {σ : Type}

/-
  What comes of sending the form of a session: the submission
  with its name on the status line, or the service's error.
-/
def delivered
    (session : Session σ)
    (outcome : Except ServiceError Unit)
    (state : σ) : Except FormError Submission × Session σ :=
  let submission := session.page.form.toSubmission
  let sent := session.sent outcome state
  match outcome with
  | .error error => (.error (.service error), sent)
  | .ok _ =>
      (.ok submission,
        { sent with
          page :=
            { sent.page with
              status :=
                .submitted
                  submission.configuration.projectName } })

/- The session with a failure on its status line, if any. -/
def reported
    {α : Type}
    (result : Except FormError α × Session σ) :
    Except FormError α × Session σ :=
  match result with
  | (.ok value, session) => (.ok value, session)
  | (.error error, session) =>
      (.error error,
        { session with
          page := { session.page with status := .failed error } })

/- To report a failure leaves the answer to be read. -/
theorem map_reported
    {α β : Type}
    (result : Except FormError α × Session σ)
    (answer : α → β) :
    ((reported result).1.map answer, (reported result).2) =
      reported (result.1.map answer, result.2) := by
  rcases result with ⟨outcome, after⟩
  cases outcome <;> rfl

/- To report a failure leaves the form alone. -/
theorem form_reported
    {α : Type}
    (result : Except FormError α × Session σ) :
    (reported result).2.page.form = result.2.page.form := by
  rcases result with ⟨outcome, after⟩
  cases outcome <;> rfl

/- A failure changes the status line at most. -/
theorem exists_status_reported
    {α : Type}
    (result : Except FormError α × Session σ) :
    ∃ status,
      (reported result).2 =
        { result.2 with
          page := { result.2.page with status } } := by
  rcases result with ⟨outcome, after⟩
  cases outcome <;> exact ⟨_, rfl⟩

/- What is left of a form that was sent, and the answer. -/
theorem exists_delivered_eq
    (session : Session σ)
    (outcome : Except ServiceError Unit)
    (state : σ) :
    let result := session.delivered outcome state
    let submission := session.page.form.toSubmission
    ∃ status,
      reported
          (result.1.map fun submission =>
            Reply.submission (some submission), result.2) =
        ((outcome.mapError .service).map fun _ =>
            Reply.submission (some submission),
          { page :=
              { session.page with
                status
                submitted := outcome.isOk }
            state }) := by
  cases outcome <;> exact ⟨_, rfl⟩

end Session

namespace Page

open PageM

variable {σ α : Type}

theorem perform_ask
    (service : Service σ)
    (request : Request)
    (session : Session σ) :
    (ask service request).perform session =
      ((service request session.state).1.mapError .service,
        { session with
          state := (service request session.state).2 }) := by
  rfl

theorem perform_map
    {β : Type}
    (action : PageM σ α)
    (result : α → β)
    (session : Session σ) :
    (action >>= fun value => pure (result value)).perform
        session =
      ((action.perform session).1.map result,
        (action.perform session).2) := by
  rw [perform_bind]
  rcases action.perform session with ⟨outcome, after⟩
  cases outcome <;> rfl

/- A form is handed to the service as it is. -/
theorem perform_send
    (service : Service σ)
    (session : Session σ) :
    (send service).perform session =
      let answer :=
        service (.submit session.page.form.toSubmission)
          session.state
      session.delivered answer.1 answer.2 := by
  have hRaise :
      (setSubmitted true : PageM σ Unit).perform session =
        (.ok (), session.marked true) := rfl
  have hForm :
      (getForm : PageM σ Form).perform (session.marked true) =
        (.ok session.page.form, session.marked true) := rfl
  unfold send
  rw [perform_bind, hRaise]
  dsimp only
  rw [perform_bind, hForm]
  dsimp only
  rw [perform_bind, perform_tryCatch, perform_ask]
  have hState : (session.marked true).state = session.state :=
    rfl
  rw [hState]
  rcases service (.submit session.page.form.toSubmission)
      session.state with ⟨outcome, state⟩
  cases outcome <;> rfl

/- A result is put into the form before it is sent. -/
theorem perform_sendWith
    (service : Service σ)
    (result : FormResult)
    (session : Session σ) :
    (sendWith service result).perform session =
      (send service).perform
        (session.withForm
          { session.page.form with
            formResult := some result }) := by
  unfold sendWith
  rw [perform_bind]
  rfl

/- A failure is put on the status line. -/
theorem perform_reported
    (attempt : PageM σ α)
    (session : Session σ) :
    (PageM.reported attempt).perform session =
      Session.reported (attempt.perform session) := by
  unfold PageM.reported
  rw [perform_tryCatch]
  rcases attempt.perform session with ⟨result, after⟩
  cases result <;> rfl

end Page

end BuildForm

------------------------------------------------------------
-- Before the Check
------------------------------------------------------------

namespace BuildForm

namespace Page

open PageM

variable {σ : Type}

theorem perform_requireUnsubmitted (session : Session σ) :
    (requireUnsubmitted : PageM σ Unit).perform session =
      if session.page.submitted then
        (.error .alreadySubmitted, session)
      else
        (.ok (), session) := by
  unfold requireUnsubmitted
  rw [perform_bind]
  change
    (if session.page.submitted = true then
        throw .alreadySubmitted
      else pure () : PageM σ Unit).perform session = _
  split <;> rfl

theorem perform_requireApproveReject (session : Session σ) :
    (requireApproveReject : PageM σ Unit).perform session =
      if session.page.request.mode ≠ .approveReject then
        (.error .readOnly, session)
      else
        (.ok (), session) := by
  unfold requireApproveReject
  rw [perform_bind]
  change
    (if session.page.request.mode ≠ .approveReject then
        throw .readOnly
      else pure () : PageM σ Unit).perform session = _
  split <;> rfl

/- What happens to a form before it is checked. -/
def prepare (service : Service σ) : PageM σ Unit := do
  requireUnsubmitted
  if (← getPage).isMutable then
    recheckTriggers service

/- A form that may not be edited has nothing judged. -/
theorem perform_prepare_of_static
    (service : Service σ)
    {session : Session σ}
    (hStatic : session.page.isMutable = false) :
    (prepare service).perform session =
      if session.page.submitted then
        (.error .alreadySubmitted, session)
      else
        (.ok (), session) := by
  unfold prepare
  rw [perform_bind, perform_requireUnsubmitted]
  by_cases hSubmitted : session.page.submitted = true
  · rw [if_pos hSubmitted]
  · rw [if_neg hSubmitted]
    dsimp only
    rw [perform_bind]
    change
      (if session.page.isMutable = true then
          recheckTriggers service
        else pure () : PageM σ Unit).perform session = _
    rw [hStatic]
    rfl

variable {service : Service σ}
variable {inv : Session σ → Prop}
variable {failed : FormError → Session σ → Prop}

/- A verdict is put on a trigger that there is. -/
theorem checkTrigger_spec
    {path : FieldPath}
    {form : Form}
    (hTrigger : (form.trigger? path).isSome)
    (hJudged :
      ∀ session trigger answer state, inv session →
        session.page.form.trigger? path = some trigger →
        service (.judgeTrigger trigger.field.value)
            session.state =
          (.ok answer, state) →
        inv (session.judged path (.ok answer) state))
    (hUnjudged :
      ∀ session trigger error state, inv session →
        session.page.form.trigger? path = some trigger →
        service (.judgeTrigger trigger.field.value)
            session.state =
          (.error error, state) →
        failed (.service error) { session with state }) :
    Triple
      (fun session => inv session ∧ session.page.form = form)
      (checkTrigger service path) (fun _ => inv) failed := by
  rcases Option.isSome_iff_exists.mp hTrigger with
    ⟨trigger, hTrigger⟩
  unfold checkTrigger
  apply Triple.readForm
  rintro current session ⟨⟨hSession, rfl⟩, rfl⟩
  simp only [hTrigger]
  rw [perform_bind, perform_ask]
  rcases hCall :
      service (.judgeTrigger trigger.field.value)
        session.state with
    ⟨outcome, state⟩
  cases outcome with
  | error error =>
      exact
        hUnjudged session trigger error state hSession hTrigger
          hCall
  | ok answer =>
      exact
        hJudged session trigger answer state hSession hTrigger
          hCall

/- Only a trigger that lacks a verdict is judged. -/
theorem recheckTrigger_spec
    (path : FieldPath)
    (hJudged :
      ∀ session trigger answer state, inv session →
        session.page.form.trigger? path = some trigger →
        service (.judgeTrigger trigger.field.value)
            session.state =
          (.ok answer, state) →
        inv (session.judged path (.ok answer) state))
    (hUnjudged :
      ∀ session trigger error state, inv session →
        session.page.form.trigger? path = some trigger →
        service (.judgeTrigger trigger.field.value)
            session.state =
          (.error error, state) →
        failed (.service error) { session with state }) :
    Triple inv (recheckTrigger service path) (fun _ => inv)
      failed := by
  unfold recheckTrigger
  apply Triple.readForm
  intro form
  apply Triple.ite
  · intro hStale
    have hTrigger : (form.trigger? path).isSome := by
      cases hForm : form.trigger? path with
      | none => simp [hForm] at hStale
      | some trigger => rfl
    exact
      Triple.bind (checkTrigger_spec hTrigger hJudged hUnjudged)
        fun _ => Triple.pure fun _ hSession => hSession
  · intro _
    exact Triple.pure fun _ hSession => hSession.1

theorem triple_requireUnsubmitted
    (hSubmitted :
      ∀ session, inv session →
        session.page.submitted = true →
        failed .alreadySubmitted session) :
    Triple inv requireUnsubmitted
      (fun _ session =>
        inv session ∧ session.page.submitted = false)
      failed := by
  intro session hSession
  rw [perform_requireUnsubmitted]
  by_cases hMarked : session.page.submitted = true
  · rw [if_pos hMarked]
    exact hSubmitted session hSession hMarked
  · rw [if_neg hMarked]
    exact ⟨hSession, by simpa using hMarked⟩

/-
  What is kept by verdicts holds up to the check, unless the
  page was submitted or the service judges no schedule.
-/
theorem prepare_spec
    (hSubmitted :
      ∀ session, inv session →
        session.page.submitted = true →
        failed .alreadySubmitted session)
    (hJudged :
      ∀ session path trigger answer state, inv session →
        session.page.form.trigger? path = some trigger →
        service (.judgeTrigger trigger.field.value)
            session.state =
          (.ok answer, state) →
        inv (session.judged path (.ok answer) state))
    (hUnjudged :
      ∀ session path trigger error state, inv session →
        session.page.submitted = false →
        session.page.form.trigger? path = some trigger →
        service (.judgeTrigger trigger.field.value)
            session.state =
          (.error error, state) →
        failed (.service error) { session with state }) :
    Triple inv (prepare service)
      (fun _ session =>
        inv session ∧ session.page.submitted = false)
      failed := by
  have hRecheck :
      ∀ path : FieldPath,
        Triple
          (fun session =>
            inv session ∧ session.page.submitted = false)
          (recheckTrigger service path)
          (fun _ session =>
            inv session ∧ session.page.submitted = false)
          failed := by
    intro path
    apply recheckTrigger_spec path
    · rintro session trigger answer state ⟨hSession, hUnsent⟩
        hTrigger hCall
      exact
        ⟨hJudged session path trigger answer state hSession
          hTrigger hCall, hUnsent⟩
    · rintro session trigger error state ⟨hSession, hUnsent⟩
        hTrigger hCall
      exact
        hUnjudged session path trigger error state hSession
          hUnsent hTrigger hCall
  unfold prepare
  apply Triple.bind (triple_requireUnsubmitted hSubmitted)
  intro _
  apply Triple.readPage
  intro page
  apply Triple.ite
  · intro _
    unfold recheckTriggers
    have hPoll := hRecheck .pollScmTrigger
    refine
      Triple.bind (hPoll.weaken ?_ fun _ _ hSession => hSession)
        fun _ => hRecheck .buildPeriodicallyTrigger
    exact fun _ hSession => hSession.1
  · intro _
    exact Triple.pure fun _ hSession => hSession.1

end Page

end BuildForm

------------------------------------------------------------
-- Submitting and Rejecting
------------------------------------------------------------

namespace BuildForm

namespace Page

open PageM

variable {σ : Type}

/- A form that is prepared is checked, then sent or not. -/
theorem perform_submit
    (service : Service σ)
    (session : Session σ) :
    (submit service).perform session =
      match (prepare service).perform session with
      | (.error error, after) => (.error error, after)
      | (.ok _, after) =>
          (sendChecked service after.page.form.check.1).perform
            (after.withForm after.page.form.check.2) := by
  have hSubmit :
      submit service = (do
        prepare service
        let outcome ← onForm fun form =>
          (.ok form.check.1, form.check.2)
        sendChecked service outcome) := by
    rw [submit_eq]
    unfold prepare
    simp only [bind_assoc]
    congr 1
    funext _
    congr 1
    funext page
    split <;> simp
  rw [hSubmit, perform_bind]
  rcases (prepare service).perform session with ⟨result, after⟩
  cases result with
  | error error => rfl
  | ok =>
      dsimp only
      rw [perform_bind]
      rfl

/- The name of a new configuration is looked up first. -/
theorem perform_sendNew
    (service : Service σ)
    (session : Session σ) :
    (sendChecked service .nameCheckRequired).perform session =
      let name := session.page.form.projectName.value
      let answer := service (.isNameFree name) session.state
      let asked := { session with state := answer.2 }
      match answer.1 with
      | .error error => (.error (.service error), asked)
      | .ok true =>
          (sendWith service .create).perform
            (asked.withForm
              { session.page.form with formMessage := none })
      | .ok false =>
          let error := FormError.nameConflict name
          (.error error,
            asked.withForm
              { session.page.form with
                formMessage := some error.message }) := by
  have hForm :
      (getForm : PageM σ Form).perform session =
        (.ok session.page.form, session) := rfl
  unfold sendChecked
  rw [perform_bind, hForm]
  dsimp only
  rw [perform_bind, perform_ask]
  rcases service
      (.isNameFree session.page.form.projectName.value)
      session.state with
    ⟨outcome, state⟩
  cases outcome with
  | error error => rfl
  | ok isFree =>
      cases isFree with
      | false => rfl
      | true =>
          change
            (modifyForm (fun form =>
                { form with formMessage := none }) >>= fun _ =>
              sendWith service .create).perform _ = _
          rw [perform_bind]
          rfl

/- A rejection is sent unless the page was submitted before. -/
theorem perform_reject
    (service : Service σ)
    (session : Session σ) :
    (reject service
        session.page.form.rejectDialog.reason.value).perform
        session =
      if session.page.submitted then
        (.error .alreadySubmitted, session)
      else
        (send service).perform
          (session.withForm session.page.form.rejected) := by
  unfold reject
  rw [perform_bind, perform_requireUnsubmitted]
  by_cases hSubmitted : session.page.submitted = true
  · rw [if_pos hSubmitted, if_pos hSubmitted]
  · rw [if_neg hSubmitted, if_neg hSubmitted]
    dsimp only
    rw [perform_bind]
    rfl

end Page

/-
  What comes of confirming a rejection, before a failure of it
  is reported: the form is sent unchecked, on a page to reject
  and for a reason that is given.
-/
def Session.rejection
    {σ : Type}
    (session : Session σ)
    (service : Service σ) :
    Except FormError (Option Submission) × Session σ :=
  if session.page.request.mode ≠ .approveReject then
    (.error .readOnly, session)
  else if session.page.form.rejectDialog.reason.value = "" then
    (.ok none,
      session.withForm
        (session.page.form.focusOn .rejectionReason))
  else if session.page.submitted then
    (.error .alreadySubmitted, session)
  else
    let sent :=
      (Page.send service).perform
        (session.withForm session.page.form.rejected)
    (sent.1.map some, sent.2)

/- Whichever part of it fails, the failure is reported once. -/
theorem Page.perform_confirmReject
    {σ : Type}
    (service : Service σ)
    (session : Session σ) :
    (confirmReject service).perform session =
      Session.reported (session.rejection service) := by
  have hForm :
      (PageM.getForm : PageM σ Form).perform session =
        (.ok session.page.form, session) := rfl
  unfold confirmReject Session.rejection
  rw [PageM.perform_bind, perform_reported,
    perform_requireApproveReject]
  by_cases hMode : session.page.request.mode = .approveReject
  · have hKind := not_not_intro hMode
    rw [if_neg hKind, if_neg hKind]
    change
      (PageM.getForm >>= _ : PageM σ _).perform session = _
    rw [PageM.perform_bind, hForm]
    dsimp only
    split
    · rfl
    · rw [perform_map, perform_reported, perform_reject,
        Session.map_reported]
      by_cases hSubmitted : session.page.submitted = true
      · rw [if_pos hSubmitted, if_pos hSubmitted]
        rfl
      · rw [if_neg hSubmitted, if_neg hSubmitted]
  · rw [if_pos hMode, if_pos hMode]
    rfl

namespace Session

variable {σ : Type}

theorem step_submit
    (service : Service σ)
    (session : Session σ) :
    step service session .submit =
      let result := (Page.submit service).perform session
      reported
        (result.1.map fun submission =>
          .submission (some submission), result.2) := by
  unfold step Page.act
  rw [Page.perform_map, Page.perform_reported, map_reported]

theorem step_confirmReject
    (service : Service σ)
    (session : Session σ) :
    step service session .confirmReject =
      let result := session.rejection service
      reported (result.1.map .submission, result.2) := by
  unfold step Page.act
  rw [Page.perform_map, Page.perform_confirmReject,
    map_reported]

/- Typing is a change of the form, and fails where that does. -/
theorem perform_edit
    (service : Service σ)
    (session : Session σ)
    (path : FieldPath)
    (value : String) :
    (Page.act service (.edit path value)).perform session =
      let result :=
        session.page.form.edit path value
          session.page.options.autoValidate
      reported
        (result.1.map .flag, session.withForm result.2) := by
  have hPage :
      (PageM.getPage : PageM σ Page).perform session =
        (.ok session.page, session) := rfl
  unfold Page.act
  rw [PageM.perform_bind, hPage]
  dsimp only
  rw [Page.perform_map, Page.perform_reported, map_reported]
  rfl

/- A schedule is judged, and the verdict kept. -/
theorem perform_checkTrigger
    (service : Service σ)
    {session : Session σ}
    {path : FieldPath}
    {trigger : Trigger}
    (hTrigger :
      session.page.form.trigger? path = some trigger) :
    (Page.checkTrigger service path).perform session =
      let answer :=
        service (.judgeTrigger trigger.field.value) session.state
      ((answer.1.mapError .service).map .ofAnswer,
        session.judged path answer.1 answer.2) := by
  have hForm :
      (PageM.getForm : PageM σ Form).perform session =
        (.ok session.page.form, session) := rfl
  unfold Page.checkTrigger
  rw [PageM.perform_bind, hForm]
  dsimp only
  rw [hTrigger]
  dsimp only
  rw [PageM.perform_bind, Page.perform_ask]
  rcases service (.judgeTrigger trigger.field.value)
      session.state with
    ⟨outcome, state⟩
  cases outcome <;> rfl

end Session

end BuildForm
