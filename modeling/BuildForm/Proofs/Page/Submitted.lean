import BuildForm.Proofs.Page.Checked
import BuildForm.Proofs.Page.Gestures

/-
  A page submits at most once.

  The flag of a page follows the service: it is up exactly if
  the service accepted a submission. It guards the only place
  where a form leaves the page, so that nothing is sent after
  an accepted submission, and it is the only reason for which
  a page refuses to submit again.

  Main declarations:
    * `Call.isAccepted`
    * `Session.SubmitsOnce`
    * `Session.step_submit_alreadySubmitted_iff`
    * `Session.play_submits_once`
-/

------------------------------------------------------------
-- Accepted Submissions
------------------------------------------------------------

namespace BuildForm

namespace Call

/- Whether a call submitted a form that was accepted. -/
def isAccepted : Call → Bool
  | ⟨.submit _, outcome⟩ => outcome.isOk
  | _ => false

theorem isAccepted_of_isQuery
    {call : Call}
    (hQuery : call.request.IsQuery) :
    call.isAccepted = false := by
  rcases call with ⟨request, outcome⟩
  cases request with
  | submit submission => exact absurd rfl (hQuery submission)
  | _ => rfl

theorem submission?_of_isAccepted
    {call : Call}
    (hAccepted : call.isAccepted) :
    call.submission?.isSome := by
  rcases call with ⟨request, outcome⟩
  cases request with
  | submit submission => rfl
  | _ => cases hAccepted

/- Nothing was submitted after a call that was accepted. -/
def EndAtAccepted (calls : List Call) : Prop :=
  ∀ later call earlier,
    calls = later ++ call :: earlier →
    call.isAccepted →
    submissions later = []

theorem EndAtAccepted.query
    {calls : List Call}
    (hEnd : EndAtAccepted calls)
    {query : Call}
    (hQuery : query.request.IsQuery) :
    EndAtAccepted (query :: calls) := by
  intro later call earlier hCalls hAccepted
  rcases List.cons_eq_append_iff.mp hCalls with
    ⟨rfl, hHead⟩ | ⟨newer, rfl, hTail⟩
  · rfl
  · have hNewer := hEnd newer call earlier hTail hAccepted
    rw [submissions,
      List.filterMap_cons_none (submission?_of_isQuery hQuery)]
    exact hNewer

/- A first acceptance can come at any time. -/
theorem EndAtAccepted.of_none
    {calls : List Call}
    (hNone : calls.any isAccepted = false)
    (call : Call) :
    EndAtAccepted (call :: calls) := by
  intro later accepted earlier hCalls hAccepted
  rcases List.cons_eq_append_iff.mp hCalls with
    ⟨rfl, _⟩ | ⟨newer, rfl, hTail⟩
  · rfl
  · have hThere : calls.any isAccepted = true :=
      List.any_eq_true.mpr ⟨accepted, by simp [hTail], hAccepted⟩
    rw [hNone] at hThere
    cases hThere

theorem EndAtAccepted.of_suffix
    {calls earlier : List Call}
    (hEnd : EndAtAccepted calls)
    (hSuffix : earlier <:+ calls) :
    EndAtAccepted earlier := by
  rcases hSuffix with ⟨newest, rfl⟩
  intro later accepted earliest hCalls hAccepted
  have hLater :=
    hEnd (newest ++ later) accepted earliest
      (by simp [hCalls]) hAccepted
  rw [submissions, List.filterMap_append] at hLater
  exact (List.append_eq_nil_iff.mp hLater).2

/- After the call that was accepted there is none other. -/
theorem EndAtAccepted.unaccepted_after
    {later earlier : List Call}
    {call : Call}
    (hEnd : EndAtAccepted (later ++ call :: earlier))
    (hAccepted : call.isAccepted) :
    ∀ other ∈ later, other.isAccepted = false := by
  have hLater := hEnd later call earlier rfl hAccepted
  rw [submissions, List.filterMap_eq_nil_iff] at hLater
  intro other hOther
  cases hOtherAccepted : other.isAccepted with
  | false => rfl
  | true =>
      have hSent := other.submission?_of_isAccepted hOtherAccepted
      rw [hLater other hOther] at hSent
      cases hSent

/- Before something is submitted nothing was accepted. -/
theorem EndAtAccepted.unaccepted_before
    {calls : List Call}
    {call : Call}
    (hEnd : EndAtAccepted (call :: calls))
    (hSent : call.submission?.isSome) :
    ∀ other ∈ calls, other.isAccepted = false := by
  intro other hOther
  cases hAccepted : other.isAccepted with
  | false => rfl
  | true =>
      rcases List.append_of_mem hOther with
        ⟨later, earlier, rfl⟩
      have hLater :=
        hEnd (call :: later) other earlier rfl hAccepted
      rw [submissions, List.filterMap_eq_nil_iff] at hLater
      rw [hLater call List.mem_cons_self] at hSent
      cases hSent

theorem EndAtAccepted.countP_le_one
    {calls : List Call}
    (hEnd : EndAtAccepted calls) :
    calls.countP isAccepted ≤ 1 := by
  induction calls with
  | nil => simp
  | cons call calls ih =>
      have hTail := hEnd.of_suffix (List.suffix_cons call calls)
      rw [List.countP_cons]
      by_cases hCall : call.isAccepted
      · -- An acceptance before the last call would forbid it.
        have hBefore :=
          hEnd.unaccepted_before
            (call.submission?_of_isAccepted hCall)
        have hNone : calls.countP isAccepted = 0 := by
          rw [List.countP_eq_zero]
          intro other hOther
          simp [hBefore other hOther]
        simp [hNone, hCall]
      · rw [if_neg hCall]
        exact ih hTail

end Call

end BuildForm

------------------------------------------------------------
-- The Flag of a Page
------------------------------------------------------------

namespace BuildForm

namespace Session

variable {σ : Type}

/-
  A session of a request whose page is marked as submitted if
  a submission was accepted, and that sent nothing after it.
-/
structure SubmitsOnce
    (request : PageRequest)
    (session : Session (List Call × σ)) : Prop where
  request : session.page.request = request
  marked :
    session.page.submitted =
      session.state.1.any Call.isAccepted
  last : Call.EndAtAccepted session.state.1

theorem submitsOnce_start
    (request : PageRequest)
    (options : PageOptions)
    (state : σ) :
    (start request options ([], state)).SubmitsOnce
      request where
  request := rfl
  marked := rfl
  last := by
    intro later call earlier hCalls
    simp [start] at hCalls

variable {service : Service σ}
variable {request : PageRequest}
variable {session : Session (List Call × σ)}

/- Only the request and the flag of the page matter. -/
theorem SubmitsOnce.of_page
    (hOnce : session.SubmitsOnce request)
    {page : Page}
    (hRequest : page.request = session.page.request)
    (hMark : page.submitted = session.page.submitted) :
    ({ session with page } : Session _).SubmitsOnce
      request where
  request := hRequest.trans hOnce.request
  marked := hMark.trans hOnce.marked
  last := hOnce.last

theorem SubmitsOnce.query
    (hOnce : session.SubmitsOnce request)
    {query : Request}
    (hQuery : query.IsQuery)
    {outcome : Except ServiceError query.Answer}
    {state : List Call × σ}
    (hCall :
      service.recorded query session.state =
        (outcome, state)) :
    ({ session with state } : Session _).SubmitsOnce
      request where
  request := hOnce.request
  marked := by
    change session.page.submitted = state.1.any Call.isAccepted
    have hRefused :
        Call.isAccepted ⟨query, outcome⟩ = false :=
      Call.isAccepted_of_isQuery hQuery
    rw [Service.calls_of_recorded hCall, List.any_cons,
      hRefused, Bool.false_or]
    exact hOnce.marked
  last := by
    change Call.EndAtAccepted state.1
    rw [Service.calls_of_recorded hCall]
    exact hOnce.last.query hQuery

/- The flag that is set tells whether it was accepted. -/
theorem SubmitsOnce.sent
    (hOnce : session.SubmitsOnce request)
    (hUnsent : session.page.submitted = false)
    {submission : Submission}
    {outcome : Except ServiceError Unit}
    {state : List Call × σ}
    (hCall :
      service.recorded (.submit submission) session.state =
        (outcome, state)) :
    (session.sent outcome state).SubmitsOnce request where
  request := hOnce.request
  marked := by
    change outcome.isOk = state.1.any Call.isAccepted
    rw [Service.calls_of_recorded hCall, List.any_cons,
      ← hOnce.marked, hUnsent, Bool.or_false]
    rfl
  last := by
    change Call.EndAtAccepted state.1
    rw [Service.calls_of_recorded hCall]
    apply Call.EndAtAccepted.of_none
    rw [← hOnce.marked, hUnsent]

theorem submitsOnce_carries
    (service : Service σ)
    (request : PageRequest)
    (action : Action) :
    Page.Carries service.recorded request.mode action
      (SubmitsOnce request) where
  modes := by
    intro session hSession
    rw [hSession.request]
  marks := by
    intro session page hSession hRequest _ hMark
    exact hSession.of_page hRequest hMark
  steps := fun _ _ hSession _ _ => hSession.of_page rfl rfl
  edits := fun _ _ _ _ hSession _ => hSession.of_page rfl rfl
  asks := by
    intro session query outcome state hSession hAsks _ hCall
    exact hSession.query hAsks.isQuery hCall
  judges := by
    intro session path trigger outcome state hSession _ _ hCall
    have hAsked :=
      hSession.query (by simp [Request.IsQuery]) hCall
    cases outcome with
    | error error => exact hAsked
    | ok answer => exact hAsked.of_page rfl rfl
  sends := by
    intro session outcome state hSession hUnsent _ hCall
    exact hSession.sent hUnsent hCall

theorem submitsOnce_admits
    (service : Service σ)
    (request : PageRequest) :
    Page.Admits service.recorded request.name
      (SubmitsOnce request) where
  names := by
    intro session hSession
    rw [hSession.request]
  queries := by
    intro session query outcome state hSession hPrepares hCall
    exact hSession.query hPrepares.isQuery hCall
  records := by
    intro session stored outcome state hSession _ hCall
    have hAsked :=
      hSession.query (by simp [Request.IsQuery]) hCall
    cases outcome with
    | error error => exact hAsked
    | ok config => exact hAsked.of_page rfl rfl
  parts := fun _ _ hSession _ _ => hSession.of_page rfl rfl
  starts := fun _ _ hSession _ _ => hSession.of_page rfl rfl

/- A run keeps the flag in step with the service. -/
theorem submitsOnce_play
    (service : Service σ)
    (request : PageRequest)
    (options : PageOptions)
    (state : σ)
    (gestures : List Gesture) :
    (play service.recorded
      (start request options ([], state))
      gestures).SubmitsOnce request := by
  apply Page.play_of_keeps _ (submitsOnce_start request _ state)
  intro gesture _
  apply
    Page.keeps_respond (submitsOnce_carries service request)
      (submitsOnce_admits service request)
  intro session form hSession _
  exact hSession.of_page rfl rfl

end Session

end BuildForm

------------------------------------------------------------
-- Refusing to Submit Again
------------------------------------------------------------

namespace BuildForm

namespace Page

open PageM

variable {σ α β : Type}

/- An action that is not refused for an earlier submission. -/
def IsUnrefused (attempt : PageM σ α) : Prop :=
  Triple (fun _ => True) attempt (fun _ _ => True)
    fun error _ => error ≠ .alreadySubmitted

variable {service : Service σ}

namespace IsUnrefused

theorem bind
    {attempt : PageM σ α}
    {next : α → PageM σ β}
    (hAttempt : IsUnrefused attempt)
    (hNext : ∀ value, IsUnrefused (next value)) :
    IsUnrefused (attempt >>= next) :=
  Triple.bind hAttempt hNext

theorem pure (value : α) :
    IsUnrefused (Pure.pure value : PageM σ α) :=
  Triple.pure fun _ _ => trivial

theorem throw
    {error : FormError}
    (hError : error ≠ .alreadySubmitted) :
    IsUnrefused (MonadExcept.throw error : PageM σ α) :=
  Triple.throw fun _ _ => hError

theorem getForm : IsUnrefused (PageM.getForm : PageM σ Form) :=
  Triple.getForm fun _ _ => trivial

theorem modifyPage (change : Page → Page) :
    IsUnrefused (PageM.modifyPage change : PageM σ Unit) :=
  Triple.modifyPage fun _ _ => trivial

theorem ask (request : Request) :
    IsUnrefused (PageM.ask service request) := by
  apply Triple.ask
  · exact fun _ _ _ _ _ => trivial
  · intro session error state _ _
    simp

theorem ite
    {condition : Prop}
    [Decidable condition]
    {first second : PageM σ α}
    (hFirst : IsUnrefused first)
    (hSecond : IsUnrefused second) :
    IsUnrefused (if condition then first else second) :=
  Triple.ite (fun _ => hFirst) (fun _ => hSecond)

theorem recheckTrigger (path : FieldPath) :
    IsUnrefused (Page.recheckTrigger service path) := by
  have hCheck :
      IsUnrefused (Page.checkTrigger service path) := by
    unfold Page.checkTrigger
    apply bind getForm
    intro form
    split
    · exact throw (by simp)
    · apply bind (ask _)
      intro answer
      apply bind (modifyPage _)
      intro _
      exact pure _
  unfold Page.recheckTrigger
  apply bind getForm
  intro form
  apply ite
  · apply bind hCheck
    intro _
    exact pure ()
  · exact pure ()

theorem sendWith (result : FormResult) :
    IsUnrefused (Page.sendWith service result) := by
  unfold Page.sendWith Page.send
  apply bind (modifyPage _)
  intro _
  apply bind (modifyPage _)
  intro _
  apply bind getForm
  intro form
  apply bind
  · apply Triple.tryCatch (ask _)
    intro error
    have hLower :
        Triple
          (fun _ => error ≠ .alreadySubmitted)
          (setSubmitted false : PageM σ Unit)
          (fun _ _ => error ≠ .alreadySubmitted)
          (fun error _ => error ≠ .alreadySubmitted) :=
      Triple.modifyPage fun _ hError => hError
    apply Triple.bind hLower
    intro _
    exact Triple.throw fun _ hError => hError
  · intro _
    apply bind (modifyPage _)
    intro _
    exact pure _

theorem sendChecked
    {outcome : FormCheck}
    (hOutcome : outcome ≠ .blocked .alreadySubmitted) :
    IsUnrefused (Page.sendChecked service outcome) := by
  cases outcome with
  | blocked error =>
      apply throw
      rintro rfl
      exact hOutcome rfl
  | ready => exact sendWith .other
  | nameCheckRequired =>
      unfold Page.sendChecked
      apply bind getForm
      intro form
      apply bind (ask _)
      intro isFree
      apply ite
      · apply bind (modifyPage _)
        intro _
        exact sendWith .create
      · apply bind (modifyPage _)
        intro _
        exact throw (by simp)

end IsUnrefused

/- What the check finds is not an earlier submission. -/
theorem triple_check_unrefused :
    Triple (fun _ => True)
      (PageM.onForm fun form =>
        let (outcome, form) := form.check
        (.ok outcome, form))
      (fun outcome (_ : Session σ) =>
        outcome ≠ .blocked .alreadySubmitted ∧ True)
      (fun error _ => error ≠ .alreadySubmitted) := by
  apply Triple.onForm
  · rintro session outcome form _ hCheck
    refine ⟨?_, trivial⟩
    rintro rfl
    rcases hForm : session.page.form.check with ⟨result, after⟩
    rw [hForm] at hCheck
    cases hCheck
    exact Form.ne_alreadySubmitted_of_check hForm rfl
  · intro session error form _ hCheck
    simp at hCheck

/- A page that was not submitted may try again at any time. -/
theorem submit_unrefused :
    Triple (fun session => session.page.submitted = false)
      (Page.submit service) (fun _ _ => True)
      fun error _ => error ≠ .alreadySubmitted := by
  have hGuard :
      Triple
        (fun session : Session σ =>
          session.page.submitted = false)
        Page.requireUnsubmitted (fun _ _ => True)
        (fun error _ => error ≠ .alreadySubmitted) := by
    apply Triple.readPage
    intro page
    apply Triple.ite
    · rintro hSubmitted session ⟨hUnsent, rfl⟩
      rw [hUnsent] at hSubmitted
      cases hSubmitted
    · intro _
      exact Triple.pure fun _ _ => trivial
  have hRest :
      IsUnrefused (do
        let outcome ← PageM.onForm fun form =>
          let (outcome, form) := form.check
          (.ok outcome, form)
        Page.sendChecked service outcome) := by
    apply Triple.bind triple_check_unrefused
    intro outcome
    apply Triple.given
    exact IsUnrefused.sendChecked
  rw [Page.submit_eq]
  apply Triple.bind hGuard
  intro _
  apply IsUnrefused.bind (Triple.getPage fun _ _ => trivial)
  intro page
  apply IsUnrefused.ite
  · apply IsUnrefused.bind
    · apply IsUnrefused.bind (.recheckTrigger _)
      intro _
      exact .recheckTrigger _
    · intro _
      exact hRest
  · exact hRest

/- One that was is refused before anything else is done. -/
theorem submit_refused :
    Triple (fun session => session.page.submitted = true)
      (Page.submit service) (fun _ _ => False)
      fun error _ => error = .alreadySubmitted := by
  have hGuard :
      Triple
        (fun session : Session σ =>
          session.page.submitted = true)
        Page.requireUnsubmitted (fun _ _ => False)
        (fun error _ => error = .alreadySubmitted) := by
    apply Triple.readPage
    intro page
    apply Triple.ite
    · intro _
      exact Triple.throw fun _ _ => rfl
    · rintro hUnsent session ⟨hSubmitted, rfl⟩
      exact absurd hSubmitted hUnsent
  rw [Page.submit_eq]
  apply Triple.bind hGuard
  intro _ session hFalse
  exact False.elim hFalse

end Page

namespace Session

variable {σ : Type}

/- Submitting is refused exactly on a page that submitted. -/
theorem step_submit_alreadySubmitted_iff
    (service : Service σ)
    (session : Session σ) :
    (step service session .submit).1 =
        .error .alreadySubmitted ↔
      session.page.submitted := by
  have hAct :
      (PageM.Triple
        (fun session => session.page.submitted = true)
        (Page.act service .submit) (fun _ _ => False)
        fun error _ => error = .alreadySubmitted) := by
    apply PageM.Triple.bind Page.submit_refused.reported
    intro _ _ hFalse
    exact False.elim hFalse
  have hRetry :
      (PageM.Triple
        (fun session => session.page.submitted = false)
        (Page.act service .submit) (fun _ _ => True)
        fun error _ => error ≠ .alreadySubmitted) := by
    apply PageM.Triple.bind Page.submit_unrefused.reported
    intro _
    exact PageM.Triple.pure fun _ _ => trivial
  unfold step
  cases hMark : session.page.submitted with
  | true =>
      have hRefused := hAct session hMark
      split at hRefused
      · exact False.elim hRefused
      · rename_i hPerform
        simp [hPerform, hRefused]
  | false =>
      have hOther := hRetry session hMark
      split at hOther
      · rename_i hPerform
        simp [hPerform]
      · rename_i hPerform
        simpa [hPerform] using hOther

/-
  For every page, service and run, openings, submissions and
  rejections in any order included: at most one submission is
  accepted, nothing is submitted after it, and the page counts
  as submitted if and only if there is one. That is also when
  submitting is refused, so that any attempt that failed may
  be followed by another.
-/
theorem play_submits_once
    (service : Service σ)
    (request : PageRequest)
    (options : PageOptions)
    (state : σ)
    (gestures : List Gesture) :
    let last :=
      play service.recorded
        (start request options ([], state)) gestures
    let calls := last.state.1
    calls.countP Call.isAccepted ≤ 1 ∧
      (∀ later call earlier,
        calls = later ++ call :: earlier →
        call.isAccepted →
        Call.submissions later = []) ∧
      (last.page.submitted ↔
        ∃ call ∈ calls, call.isAccepted) ∧
      ((step service.recorded last .submit).1 =
          .error .alreadySubmitted ↔
        ∃ call ∈ calls, call.isAccepted) := by
  intro last calls
  have hOnce : last.SubmitsOnce request :=
    submitsOnce_play service request options state gestures
  have hMarked :
      last.page.submitted ↔
        ∃ call ∈ calls, call.isAccepted := by
    rw [hOnce.marked, List.any_eq_true]
  refine ⟨hOnce.last.countP_le_one, hOnce.last, hMarked, ?_⟩
  rw [step_submit_alreadySubmitted_iff]
  exact hMarked

end Session

end BuildForm
