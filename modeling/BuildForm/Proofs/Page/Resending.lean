import BuildForm.Proofs.Form.Marks
import BuildForm.Proofs.Page.Approving
import BuildForm.Proofs.Page.Outcomes
import BuildForm.Proofs.Page.ReadOnly
import BuildForm.Proofs.Page.Retrying

/-
  Sending a form again that the service did not take.

  A page that the service failed may approve or reject again.
  The form that it sends is the one that it would have sent at
  once, but for a mark that an attempt of the other kind left:
  the reason of a rejection on what is approved, and the
  result of approving on what is rejected.

  Main declarations:
    * `Session.exists_step_of_sends`
    * `Session.play_talks`
    * `Session.resend_after_failure`
    * `Session.not_resend_untraced`
-/

------------------------------------------------------------
-- Attempts to Send
------------------------------------------------------------

namespace BuildForm

/- What the user does to approve or to reject. -/
def Decision.action : Decision → Action
  | .approve => .submit
  | .reject => .confirmReject

namespace Session

variable {σ : Type}
variable {service : Service σ}
variable {session : Session σ}
variable {decision : Decision}

theorem HasMode.isStatic
    (hMode : session.HasMode .approveReject) :
    session.page.isMutable = false := by
  unfold Page.isMutable
  rw [hMode.request]
  rfl

/- A page to approve or reject remains one. -/
theorem HasMode.step
    (hMode : session.HasMode .approveReject)
    (service : Service σ)
    (action : Action) :
    (step service session action).2.HasMode .approveReject :=
  ((hasMode_survives service (by decide)).act action).perform
    hMode

theorem HasMode.play
    (hMode : session.HasMode .approveReject)
    (service : Service σ)
    (gestures : List Gesture) :
    (play service session gestures).HasMode .approveReject := by
  have hReadOnly : ¬PageMode.approveReject.isMutable := by decide
  apply (hasMode_survives service hReadOnly).play _ hMode
  exact
    survivesTicks_of_hasMode hReadOnly fun _ hSession => hSession

/- To approve sends the form that the check has passed. -/
theorem perform_submit_of_ready
    (hMode : session.HasMode .approveReject)
    (hUnsent : session.page.submitted = false)
    (hReady : session.page.form.check.1 = .ready) :
    (Page.submit service).perform session =
      (Page.send service).perform
        (session.withForm
          (Decision.approve.sent session.page.form)) := by
  rw [Page.perform_submit,
    Page.perform_prepare_of_static service hMode.isStatic,
    if_neg (by simp [hUnsent])]
  dsimp only
  rw [hReady]
  exact Page.perform_sendWith service .other _

/- Nothing was accepted before, so that the form is sent. -/
theorem step_of_sends
    (hMode : session.HasMode .approveReject)
    (hUnsent : session.page.submitted = false)
    (hSends : decision.Sends session.page.form) :
    step service session decision.action =
      let sent := decision.sent session.page.form
      let answer :=
        service (.submit sent.toSubmission) session.state
      let result :=
        (session.withForm sent).delivered answer.1 answer.2
      reported
        (result.1.map fun submission =>
          .submission (some submission), result.2) := by
  cases decision with
  | approve =>
      unfold Decision.action
      dsimp only
      rw [step_submit,
        perform_submit_of_ready hMode hUnsent hSends,
        Page.perform_send]
      rfl
  | reject =>
      have hReply :
          ∀ result : Except FormError Submission,
            (result.map some).map Reply.submission =
              result.map fun submission =>
                .submission (some submission) := by
        intro result
        cases result <;> rfl
      unfold Decision.action
      dsimp only
      rw [step_confirmReject]
      unfold rejection
      rw [if_neg (not_not_intro hMode.request), if_neg hSends,
        if_neg (by simp [hUnsent])]
      dsimp only
      rw [Page.perform_send, hReply]
      rfl

/- What is left of an attempt that sends the form. -/
theorem exists_step_of_sends
    (hMode : session.HasMode .approveReject)
    (hUnsent : session.page.submitted = false)
    (hSends : decision.Sends session.page.form)
    {outcome : Except ServiceError Unit}
    {state : σ}
    (hCall :
      service
          (.submit (decision.sent session.page.form).toSubmission)
          session.state =
        (outcome, state)) :
    let sent := decision.sent session.page.form
    ∃ status,
      step service session decision.action =
        ((outcome.mapError .service).map fun _ =>
            .submission (some sent.toSubmission),
          { page :=
              { session.page with
                form := sent
                status
                submitted := outcome.isOk }
            state }) := by
  intro sent
  rw [step_of_sends hMode hUnsent hSends]
  dsimp only
  rw [hCall]
  exact exists_delivered_eq (session.withForm sent) outcome state

/-
  A step that asks for nothing, so that it neither sends a
  form nor fails for the service.
-/
structure IsIdle
    (session : Session σ)
    (result : Except FormError Reply × Session σ) : Prop where
  state : result.2.state = session.state
  unsent :
    ∀ submission,
      result.1 ≠ .ok (.submission (some submission))
  unfailed : ∀ error, result.1 ≠ .error (.service error)

theorem isIdle_of_error
    {error : FormError}
    (hOther : ∀ failure, error ≠ .service failure)
    {after : Session σ}
    (hState : after.state = session.state) :
    session.IsIdle (reported (.error error, after)) where
  state := hState
  unsent := by
    intro submission hSent
    cases hSent
  unfailed := by
    intro failure hFailed
    exact hOther failure (Except.error.inj hFailed)

/- An attempt that sends nothing asks for nothing. -/
theorem step_of_not_sends
    (service : Service σ)
    (hMode : session.HasMode .approveReject)
    (hNot :
      session.page.submitted = true ∨
        ¬decision.Sends session.page.form) :
    session.IsIdle (step service session decision.action) := by
  cases decision with
  | approve =>
      unfold Decision.action
      dsimp only
      rw [step_submit, Page.perform_submit,
        Page.perform_prepare_of_static service hMode.isStatic]
      by_cases hSubmitted : session.page.submitted = true
      · rw [if_pos hSubmitted]
        exact isIdle_of_error (by simp) rfl
      · rw [if_neg hSubmitted]
        dsimp only
        cases hOutcome : session.page.form.check.1 with
        | blocked error =>
            refine isIdle_of_error ?_ rfl
            rintro failure rfl
            rw [Form.fst_check] at hOutcome
            exact Form.outcome_ne_service _ failure hOutcome
        | ready =>
            rcases hNot with hMarked | hNot
            · exact absurd hMarked hSubmitted
            · exact absurd hOutcome hNot
        | nameCheckRequired =>
            have hCheck :
                session.page.form.check =
                  (.nameCheckRequired,
                    session.page.form.check.2) :=
              Prod.ext hOutcome rfl
            have hCreate := (Form.clears_of_check hCheck).2
            rw [session.page.form.showsSame_check.mode,
              hMode.form] at hCreate
            cases hCreate
  | reject =>
      unfold Decision.action
      dsimp only
      rw [step_confirmReject]
      unfold rejection
      rw [if_neg (not_not_intro hMode.request)]
      split
      · refine ⟨rfl, ?_, ?_⟩
        · rintro submission ⟨⟩
        · rintro error ⟨⟩
      · rename_i hReason
        have hSubmitted :=
          hNot.resolve_right (not_not_intro hReason)
        rw [if_pos hSubmitted]
        exact isIdle_of_error (by simp) rfl

end Session

end BuildForm

------------------------------------------------------------
-- The Dialog in Between
------------------------------------------------------------

namespace BuildForm

/- What the user does on the page. -/
def Talk.gesture : Talk → Gesture
  | .type reason => .act (.edit .rejectionReason reason)
  | .ask => .act .openReject
  | .cancel => .act .cancelReject

namespace Session

variable {σ : Type}
variable {service : Service σ}
variable {session : Session σ}

/- The session after the user did something with the dialog. -/
theorem respond_talk
    (service : Service σ)
    (hMode : session.HasMode .approveReject)
    (talk : Talk) :
    ∃ status,
      ((Page.respond service talk.gesture).perform session).2 =
        { session with
          page :=
            { session.page with
              form :=
                talk.change session.page.options.autoValidate
                  session.page.form
              status } } := by
  cases talk with
  | type reason =>
      unfold Talk.gesture Page.respond
      dsimp only
      rw [perform_edit]
      exact exists_status_reported _
  | ask =>
      unfold Talk.gesture Page.respond Page.act Page.openReject
      dsimp only
      rw [PageM.perform_bind, PageM.perform_bind,
        Page.perform_reported,
        Page.perform_requireApproveReject,
        if_neg (not_not_intro hMode.request)]
      exact ⟨_, rfl⟩
  | cancel => exact ⟨_, rfl⟩

/- So do several things, one after the other. -/
theorem play_talks
    (service : Service σ)
    (hMode : session.HasMode .approveReject)
    (talks : List Talk) :
    ∃ status,
      play service session (talks.map Talk.gesture) =
        { session with
          page :=
            { session.page with
              form :=
                Talk.changes session.page.options.autoValidate
                  talks session.page.form
              status } } := by
  induction talks generalizing session with
  | nil => exact ⟨_, rfl⟩
  | cons talk talks ih =>
      let validate := session.page.options.autoValidate
      rcases talk.exists_change_eq validate session.page.form with
        ⟨focus, hChange⟩
      have hForm :
          (talk.change validate session.page.form).mode =
            .approveReject := by
        rw [hChange]
        exact hMode.form
      rcases respond_talk service hMode talk with
        ⟨status, hFirst⟩
      change
        ∃ status,
          play service
            ((Page.respond service talk.gesture).perform
              session).2
            (talks.map Talk.gesture) = _
      rw [hFirst]
      exact ih ⟨hMode.request, hForm⟩

theorem form_play_talks
    (service : Service σ)
    (hMode : session.HasMode .approveReject)
    (talks : List Talk) :
    (play service session
        (talks.map Talk.gesture)).page.form =
      Talk.changes session.page.options.autoValidate talks
        session.page.form := by
  rcases play_talks service hMode talks with ⟨status, hPlay⟩
  rw [hPlay]

theorem submitted_play_talks
    (service : Service σ)
    (hMode : session.HasMode .approveReject)
    (talks : List Talk) :
    (play service session
        (talks.map Talk.gesture)).page.submitted =
      session.page.submitted := by
  rcases play_talks service hMode talks with ⟨status, hPlay⟩
  rw [hPlay]

end Session

end BuildForm

------------------------------------------------------------
-- Sending Again
------------------------------------------------------------

namespace BuildForm

namespace Session

variable {σ : Type}
variable {service : Service σ}
variable {session : Session (List Call × σ)}
variable {decision : Decision}

/- An attempt that is not idle could send the form. -/
theorem sends_of_not_isIdle
    (hMode : session.HasMode .approveReject)
    (hBusy :
      ¬session.IsIdle
        (step service.recorded session decision.action)) :
    session.page.submitted = false ∧
      decision.Sends session.page.form := by
  refine ⟨?_, ?_⟩
  · cases hSubmitted : session.page.submitted with
    | false => rfl
    | true =>
        exact
          absurd (step_of_not_sends _ hMode (.inl hSubmitted))
            hBusy
  · apply Classical.not_not.mp
    intro hNot
    exact hBusy (step_of_not_sends _ hMode (.inr hNot))

/- An attempt that sends the form is the next call. -/
theorem exists_step_recorded
    (service : Service σ)
    (hMode : session.HasMode .approveReject)
    (hUnsent : session.page.submitted = false)
    (hSends : decision.Sends session.page.form) :
    let sent := decision.sent session.page.form
    ∃ outcome status state,
      state.1 =
          ⟨.submit sent.toSubmission, outcome⟩ ::
            session.state.1 ∧
        step service.recorded session decision.action =
          ((outcome.mapError .service).map fun _ =>
              .submission (some sent.toSubmission),
            { page :=
                { session.page with
                  form := sent
                  status
                  submitted := outcome.isOk }
              state }) := by
  intro sent
  rcases hCall :
      service.recorded (.submit sent.toSubmission)
        session.state with
    ⟨outcome, state⟩
  rcases exists_step_of_sends hMode hUnsent hSends hCall with
    ⟨status, hStep⟩
  exact
    ⟨outcome, status, state, Service.calls_of_recorded hCall,
      hStep⟩

/- An attempt for which the service failed leaves marks. -/
theorem exists_failed_eq
    (hMode : session.HasMode .approveReject)
    {error : ServiceError}
    (hFailed :
      (step service.recorded session decision.action).1 =
        .error (.service error)) :
    let sent := decision.sent session.page.form
    session.page.submitted = false ∧
      ∃ status state,
        state.1 =
            ⟨.submit sent.toSubmission, .error error⟩ ::
              session.state.1 ∧
          (step service.recorded session decision.action).2 =
            { page :=
                { session.page with form := sent, status }
              state } := by
  have hBusy :
      ¬session.IsIdle
        (step service.recorded session decision.action) :=
    fun hIdle => hIdle.unfailed error hFailed
  rcases sends_of_not_isIdle hMode hBusy with
    ⟨hUnsent, hSends⟩
  rcases exists_step_recorded service hMode hUnsent hSends with
    ⟨outcome, status, state, hCalls, hStep⟩
  rw [hStep] at hFailed ⊢
  cases outcome with
  | ok => cases hFailed
  | error failure =>
      cases hFailed
      refine ⟨hUnsent, status, state, hCalls, ?_⟩
      dsimp only
      rw [hUnsent]
      rfl

/- An attempt that succeeds sent what the answer tells. -/
theorem sent_of_step
    (hMode : session.HasMode .approveReject)
    {sent : Submission}
    (hSent :
      (step service.recorded session decision.action).1 =
        .ok (.submission (some sent))) :
    decision.Sends session.page.form ∧
      sent = (decision.sent session.page.form).toSubmission ∧
      (step service.recorded session decision.action).2.state.1 =
        ⟨.submit sent, .ok ()⟩ :: session.state.1 := by
  have hBusy :
      ¬session.IsIdle
        (step service.recorded session decision.action) :=
    fun hIdle => hIdle.unsent sent hSent
  rcases sends_of_not_isIdle hMode hBusy with
    ⟨hUnsent, hSends⟩
  rcases exists_step_recorded service hMode hUnsent hSends with
    ⟨outcome, status, state, hCalls, hStep⟩
  rw [hStep] at hSent ⊢
  cases outcome with
  | error error => cases hSent
  | ok =>
      cases hSent
      exact ⟨hSends, rfl, hCalls⟩

/-
  When the service fails to take a form, the next attempt that
  succeeds hands over what it would have without the failure,
  but for the marks that are left.
-/
theorem exists_handed_over
    (service : Service σ)
    {before : Session (List Call × σ)}
    (hMode : before.HasMode .approveReject)
    (first next : Decision)
    (talks : List Talk)
    {error : ServiceError}
    (hFailed :
      (step service.recorded before first.action).1 =
        .error (.service error))
    {sent : Submission} :
    let failed := (step service.recorded before first.action).2
    let resumed :=
      play service.recorded failed (talks.map Talk.gesture)
    let untried :=
      play service.recorded before (talks.map Talk.gesture)
    (step service.recorded resumed next.action).1 =
        .ok (.submission (some sent)) →
      ∃ tried handed outcome,
        failed.state.1 =
            ⟨.submit tried, .error error⟩ :: before.state.1 ∧
          (step service.recorded resumed
              next.action).2.state.1 =
            ⟨.submit sent, .ok ()⟩ :: resumed.state.1 ∧
          (step service.recorded untried
              next.action).2.state.1 =
            ⟨.submit handed, outcome⟩ :: untried.state.1 ∧
          sent =
            first.traced next
              before.page.form.rejectDialog.reason.value
              handed := by
  intro failed resumed untried hSent
  rcases exists_failed_eq hMode hFailed with
    ⟨hUnsent, status, state, hTried, hAfter⟩
  have hFailedMode : failed.HasMode .approveReject :=
    hMode.step service.recorded first.action
  let validate := before.page.options.autoValidate
  have hResumedForm :
      resumed.page.form =
        Talk.changes validate talks
          (first.sent before.page.form) := by
    apply
      (form_play_talks service.recorded hFailedMode talks).trans
    have hFailedPage : failed = _ := hAfter
    rw [hFailedPage]
  have hUntriedForm :
      untried.page.form =
        Talk.changes validate talks before.page.form :=
    form_play_talks service.recorded hMode talks
  have hUntriedUnsent : untried.page.submitted = false :=
    (submitted_play_talks service.recorded hMode talks).trans
      hUnsent
  rcases
      sent_of_step (hFailedMode.play service.recorded _)
        hSent with
    ⟨hSends, hSubmission, hCalls⟩
  rw [hResumedForm] at hSends hSubmission
  rcases first.toSubmission_sent_again next validate talks
      hMode.form hSends with
    ⟨hPlainSends, hTraced⟩
  rw [← hUntriedForm] at hPlainSends hTraced
  rcases exists_step_recorded service
      (hMode.play service.recorded _) hUntriedUnsent
      hPlainSends with
    ⟨outcome, lastStatus, lastState, hPlainCalls, hPlain⟩
  have hFailedState : failed.state = state := by
    change (step service.recorded before _).2.state = _
    rw [hAfter]
  refine
    ⟨(first.sent before.page.form).toSubmission,
      (next.sent untried.page.form).toSubmission, outcome,
      ?_, hCalls, ?_, ?_⟩
  · rw [hFailedState]
    exact hTried
  · rw [hPlain]
    exact hPlainCalls
  · rw [hSubmission]
    exact hTraced

/-
  For every request to approve or reject, every service, every
  run and every way to use the dialog: after an attempt for
  which the service failed, the next attempt to succeed hands
  over what it would have without the failed one, unless it is
  of the other kind. To reject after approving hands over the
  result of approving, and to approve after rejecting hands
  over the reason that had been typed.
-/
theorem resend_after_failure
    (service : Service σ)
    (request : PageRequest)
    (options : PageOptions)
    (state : σ)
    (gestures : List Gesture)
    (first next : Decision)
    (talks : List Talk)
    (error : ServiceError)
    (sent : Submission)
    (hMode : request.mode = .approveReject) :
    let before :=
      play service.recorded
        (start request options ([], state)) gestures
    let failed := step service.recorded before first.action
    let resumed :=
      play service.recorded failed.2 (talks.map Talk.gesture)
    let untried :=
      play service.recorded before (talks.map Talk.gesture)
    let resent := step service.recorded resumed next.action
    let plain := step service.recorded untried next.action
    failed.1 = .error (.service error) →
      resent.1 = .ok (.submission (some sent)) →
      ∃ tried handed outcome,
        failed.2.state.1 =
            ⟨.submit tried, .error error⟩ :: before.state.1 ∧
          resent.2.state.1 =
            ⟨.submit sent, .ok ()⟩ :: resumed.state.1 ∧
          plain.2.state.1 =
            ⟨.submit handed, outcome⟩ :: untried.state.1 ∧
          sent =
            first.traced next
              before.page.form.rejectDialog.reason.value
              handed := by
  intro before failed resumed untried resent plain hFailed hSent
  have hStart :
      (start request options (([] : List Call), state)).HasMode
        .approveReject := by
    rw [← hMode]
    exact hasMode_start request options _
  have hBefore : before.HasMode .approveReject :=
    hStart.play service.recorded gestures
  exact
    exists_handed_over service hBefore first next talks hFailed
      hSent

end Session

end BuildForm

------------------------------------------------------------
-- A Reason that Is Left
------------------------------------------------------------

namespace BuildForm

namespace Resend

/- The configuration has a view that passes the check. -/
def answers : (request : Request) → request.Answer
  | .views _ =>
      { views :=
          [{ projectUrl := "https://host/core.git"
             fileToBuild := "build.bat" }] }
  | request => Retry.answers request

/- The service fails for the first form it is sent. -/
def service : Service Bool
  | .submit _, false => (.error (.unavailable "down"), true)
  | request, tried => (.ok (answers request), tried)

/- The page is opened, and a reason is typed. -/
def gestures : List Gesture :=
  [.act .init, .act (.edit .rejectionReason "too late")]

end Resend

namespace Session

/- The configuration is approved, with a reason to reject it. -/
theorem resend_after_failure_approved :
    let request : PageRequest := .opening .approveReject "core"
    let service := Resend.service
    let gestures := Resend.gestures
    let before :=
      play service.recorded (start request {} ([], false))
        gestures
    let failed :=
      step service.recorded before Decision.reject.action
    let dialog := [Talk.cancel].map Talk.gesture
    let resumed := play service.recorded failed.2 dialog
    let untried := play service.recorded before dialog
    let resent :=
      step service.recorded resumed Decision.approve.action
    let plain :=
      step service.recorded untried Decision.approve.action
    request.mode = .approveReject ∧
      failed.1 = .error (.service (.unavailable "down")) ∧
      ∃ sent handed outcome,
        resent.1 = .ok (.submission (some sent)) ∧
          plain.2.state.1 =
            ⟨.submit handed, outcome⟩ :: untried.state.1 ∧
          sent =
            Decision.reject.traced .approve "too late" handed := by
  intro request service gestures before failed dialog resumed
    untried resent plain
  have hMode : request.mode = .approveReject := rfl
  have hRun :
      failed.1 = .error (.service (.unavailable "down")) ∧
        before.page.form.rejectDialog.reason.value =
          "too late" ∧
        (resent.1.toOption.bind Reply.sent?).isSome := by
    decide +kernel
  rcases hRun with ⟨hFailed, hReason, hReply⟩
  rcases Option.isSome_iff_exists.mp hReply with
    ⟨sent, hSent⟩
  have hResent := Reply.eq_of_sent? hSent
  -- The theorem is about any run, so this one stays closed.
  clear_value request service gestures
  rcases
      resend_after_failure service request {} false gestures
        .reject .approve [.cancel] (.unavailable "down") sent
        hMode hFailed hResent with
    ⟨_, handed, outcome, _, _, hPlain, hTraced⟩
  rw [hReason] at hTraced
  exact
    ⟨hMode, hFailed, sent, handed, outcome, hResent, hPlain,
      hTraced⟩

/- Without the attempt to reject there is no such reason. -/
theorem not_resend_untraced :
    let service := Resend.service.recorded
    let before :=
      play service
        (start (.opening .approveReject "core") {} ([], false))
        Resend.gestures
    let failed := (step service before .confirmReject).2
    let resent := (step service failed .submit).2
    let plain := (step service before .submit).2
    resent.state.1.head?.bind Call.submission? ≠
      plain.state.1.head?.bind Call.submission? := by
  decide +kernel

end Session

end BuildForm
