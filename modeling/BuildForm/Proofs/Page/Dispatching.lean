import BuildForm.Proofs.Page.Moves

/-
  What judging schedules and sending forms keep.

  A form leaves a page at one place, and there the page has
  not been submitted yet and the form is as `Dispatches` says
  of the action. What an action's moves keep is kept by the
  action, whether it returns or fails.

  Main declarations:
    * `Page.Steady.recheckTriggers`
    * `Page.Carries.send`
    * `Page.Carries.submit`
    * `Page.Carries.confirmReject`
    * `Page.Carries.act`
-/

------------------------------------------------------------
-- Judging Triggers
------------------------------------------------------------

namespace BuildForm

namespace Page

open PageM

variable {σ : Type}
variable {service : Service σ}
variable {mode : PageMode}
variable {action : Action}
variable {inv : Session σ → Prop}

namespace Steady

/-
  A verdict is put on the trigger whose schedule was judged,
  of the form that the schedule was read from.
-/
theorem checkTrigger
    (hInv : Steady service mode action inv)
    {path : FieldPath}
    {P : Form → Prop}
    (hJudges : ∀ form, P form → action.Judges form path) :
    Triple
      (fun session => inv session ∧ P session.page.form)
      (Page.checkTrigger service path)
      (fun check session =>
        inv session ∧
          ∃ form, P form ∧
            session.page.form =
              form.mapTrigger path fun trigger =>
                { trigger with check := some check })
      (fun _ => inv) := by
  unfold Page.checkTrigger
  apply Triple.readForm
  intro form
  split
  · exact Triple.throw fun _ hSession => hSession.1.1
  · rename_i trigger hTrigger
    have hAsk :
        Triple
          (fun session =>
            (inv session ∧ P session.page.form) ∧
              session.page.form = form)
          (PageM.ask service
            (.judgeTrigger trigger.field.value))
          (fun answer session =>
            inv
                (session.withForm
                  (form.mapTrigger path fun trigger =>
                    { trigger with
                      check := some (.ofAnswer answer) })) ∧
              P form ∧ session.page.form = form)
          (fun _ => inv) := by
      apply Triple.ask
      · rintro session answer state
          ⟨⟨hSession, hForm⟩, rfl⟩ hAnswer
        exact
          ⟨hInv.judges session path trigger _ state hSession
            hTrigger (hJudges _ hForm) hAnswer, hForm, rfl⟩
      · rintro session error state
          ⟨⟨hSession, hForm⟩, rfl⟩ hError
        exact
          hInv.judges session path trigger _ state hSession
            hTrigger (hJudges _ hForm) hError
    apply Triple.bind hAsk
    intro answer
    refine
      Triple.bind ?_ fun _ =>
        Triple.pure fun _ hSession => hSession
    apply Triple.modifyPage
    rintro session ⟨hSession, hForm, rfl⟩
    exact ⟨hSession, _, hForm, rfl⟩

/-
  Once a trigger was looked at again it is not stale, as long
  as those before it are not.
-/
theorem recheckTrigger
    (hInv : Steady service mode .submit inv)
    (path : FieldPath)
    {rest : List FieldPath}
    (hRest : path ∉ rest) :
    Triple
      (fun session =>
        inv session ∧
          (session.page.form.staleTriggers = path :: rest ∨
            session.page.form.staleTriggers = rest))
      (Page.recheckTrigger service path)
      (fun _ session =>
        inv session ∧ session.page.form.staleTriggers = rest)
      (fun _ => inv) := by
  have hJudges :
      ∀ form : Form,
        form.staleTriggers = path :: rest →
        Action.submit.Judges form path := by
    intro form hForm
    exact Or.inr ⟨rfl, by rw [hForm]; rfl⟩
  unfold Page.recheckTrigger
  apply Triple.readForm
  intro form
  apply Triple.ite
  · intro hStale
    have hJudged :
        Triple
          (fun session =>
            (inv session ∧
                (session.page.form.staleTriggers =
                    path :: rest ∨
                  session.page.form.staleTriggers = rest)) ∧
              session.page.form = form)
          (Page.checkTrigger service path)
          (fun _ session =>
            inv session ∧
              session.page.form.staleTriggers = rest)
          (fun _ => inv) := by
      apply (hInv.checkTrigger hJudges).weaken
      · rintro session ⟨⟨hSession, hTriggers⟩, rfl⟩
        refine ⟨hSession, ?_⟩
        rcases hTriggers with hFirst | hRight
        · exact hFirst
        · have hMember := Form.mem_staleTriggers hStale
          rw [hRight] at hMember
          exact absurd hMember hRest
      · rintro check session ⟨hSession, before, hBefore, hForm⟩
        have hHead : before.staleTriggers.head? = some path := by
          rw [hBefore]
          rfl
        have hAfter := Form.staleTriggers_judge hHead check
        rw [hBefore, ← hForm] at hAfter
        exact ⟨hSession, (List.cons.inj hAfter).2.symm⟩
    apply Triple.bind hJudged
    intro _
    exact Triple.pure fun _ hSession => hSession
  · intro hStale
    apply Triple.pure
    rintro session ⟨⟨hSession, hTriggers⟩, rfl⟩
    refine ⟨hSession, ?_⟩
    rcases hTriggers with hFirst | hRight
    · have hMember :
          path ∈ session.page.form.staleTriggers := by
        rw [hFirst]
        exact List.mem_cons_self
      exact
        absurd (Form.isStale_of_mem_staleTriggers hMember)
          hStale
    · exact hRight

/- No trigger is stale once all were looked at again. -/
theorem recheckTriggers
    (hInv : Steady service mode .submit inv) :
    Triple inv (Page.recheckTriggers service)
      (fun _ session =>
        inv session ∧ session.page.form.staleTriggers = [])
      (fun _ => inv) := by
  intro session hSession
  rcases session.page.form.exists_staleTriggers_eq with
    ⟨rest, hRest, hStale⟩
  have hPoll : FieldPath.pollScmTrigger ∉ rest := by
    rcases hRest with rfl | rfl <;> simp
  have hBoth :
      Triple
        (fun session =>
          inv session ∧
            (session.page.form.staleTriggers =
                .pollScmTrigger :: rest ∨
              session.page.form.staleTriggers = rest))
        (Page.recheckTriggers service)
        (fun _ session =>
          inv session ∧ session.page.form.staleTriggers = [])
        (fun _ => inv) := by
    apply Triple.bind (hInv.recheckTrigger _ hPoll)
    intro _
    apply
      (hInv.recheckTrigger .buildPeriodicallyTrigger
        List.not_mem_nil).weaken
    · rintro session ⟨hSession, hTriggers⟩
      rw [hTriggers]
      exact ⟨hSession, hRest⟩
    · exact fun _ _ hSession => hSession
  exact hBoth session ⟨hSession, hStale⟩

end Steady

end Page

end BuildForm

------------------------------------------------------------
-- Sending a Form
------------------------------------------------------------

namespace BuildForm

namespace Page

open PageM

variable {σ : Type}

/- What a page does once it knows the outcome of a check. -/
def sendChecked
    (service : Service σ) :
    FormCheck → PageM σ Submission
  | .blocked error => throw error
  | .ready => sendWith service .other
  | .nameCheckRequired => do
      let form ← getForm
      let name := form.projectName.value
      let isFree : Bool ← ask service (.isNameFree name)
      if isFree then
        modifyForm fun form =>
          { form with formMessage := none }
        sendWith service .create
      else
        let error := FormError.nameConflict name
        modifyForm fun form =>
          { form with formMessage := some error.message }
        throw error

theorem submit_eq (service : Service σ) :
    submit service = (do
      requireUnsubmitted
      if (← getPage).isMutable then
        recheckTriggers service
      let outcome ← onForm fun form =>
        let (outcome, form) := form.check
        (.ok outcome, form)
      sendChecked service outcome) := by
  unfold submit
  rfl

/-
  A session that was not submitted, after a check of its form
  that had an outcome.
-/
structure HasChecked
    (mode : PageMode)
    (outcome : FormCheck)
    (session : Session σ) : Prop where
  unsent : session.page.submitted = false
  clears : session.page.form.Clears outcome
  judged :
    mode.isMutable → session.page.form.staleTriggers = []

variable {service : Service σ}
variable {mode : PageMode}
variable {action : Action}
variable {inv : Session σ → Prop}

/- The guard returns only where nothing was submitted. -/
theorem requireUnsubmitted_spec :
    Triple inv Page.requireUnsubmitted
      (fun _ session =>
        inv session ∧ session.page.submitted = false)
      (fun _ => inv) := by
  apply Triple.readPage
  intro page
  apply Triple.ite
  · intro _
    exact Triple.throw fun _ hSession => hSession.1
  · intro hUnsent
    apply Triple.pure
    rintro session ⟨hSession, rfl⟩
    exact ⟨hSession, by simpa using hUnsent⟩

/- What the check answers holds of the form it leaves. -/
theorem Steady.check
    (hInv : Steady service mode action inv) :
    Triple
      (fun session =>
        inv session ∧
          (mode.isMutable →
            session.page.form.staleTriggers = []))
      (PageM.onForm fun form =>
        let (outcome, form) := form.check
        (.ok outcome, form))
      (fun outcome session =>
        inv session ∧ session.page.form.Clears outcome ∧
          (mode.isMutable →
            session.page.form.staleTriggers = []))
      (fun _ => inv) := by
  apply Triple.onForm
  · rintro session outcome form ⟨hSession, hJudged⟩ hCheck
    have hStep : Form.Step mode session.page.form _ :=
      .check session.page.form
    have hSpared := session.page.form.spared_check action
    rcases hForm : session.page.form.check with ⟨result, after⟩
    rw [hForm] at hCheck hStep hSpared
    cases hCheck
    refine
      ⟨hInv.steps session _ hSession hStep hSpared,
        Form.clears_of_check hForm, ?_⟩
    intro hMutable
    change form.staleTriggers = []
    rw [hSpared.triggers.staleTriggers_eq]
    exact hJudged hMutable
  · intro session error form hSession hCheck
    simp at hCheck

/- All triggers of a form that can be edited are judged. -/
theorem Steady.recheckIfMutable
    {next : PageM σ Submission}
    {weaker : Session σ → Prop}
    (hInv : Steady service mode .submit inv)
    (hWeaker : ∀ session, inv session → weaker session)
    (hNext :
      Triple
        (fun session =>
          inv session ∧
            (mode.isMutable →
              session.page.form.staleTriggers = []))
        next (fun _ => weaker) (fun _ => weaker)) :
    Triple inv
      (do
        if (← PageM.getPage).isMutable then
          Page.recheckTriggers service
        next)
      (fun _ => weaker) (fun _ => weaker) := by
  apply Triple.bind
    (hInv.getPage_mode.weakenFailed fun _ => hWeaker)
  intro page
  apply Triple.given
  intro hMode
  apply Triple.ite
  · intro _
    apply Triple.bind
      (hInv.recheckTriggers.weakenFailed fun _ => hWeaker)
    intro _
    apply hNext.weaken
    · exact fun _ hSession => ⟨hSession.1, fun _ => hSession.2⟩
    · exact fun _ _ hSession => hSession
  · intro hStatic
    apply hNext.weaken
    · intro session hSession
      refine ⟨hSession, fun hMutable => absurd ?_ hStatic⟩
      rw [← hMode] at hMutable
      exact hMutable
    · exact fun _ _ hSession => hSession

namespace Carries

/-
  The flag is up while the form is on its way. It stays so if
  the service accepts, and a failure brings it down again.
-/
theorem send (hInv : Carries service mode action inv) :
    Triple
      (fun session =>
        inv session ∧ session.page.submitted = false ∧
          Dispatches service mode action session)
      (Page.send service) (fun _ => inv) (fun _ => inv) := by
  unfold Page.send
  have hRaise :
      Triple
        (fun session =>
          inv session ∧ session.page.submitted = false ∧
            Dispatches service mode action session)
        (Page.setSubmitted true)
        (fun _ session =>
          ∃ before : Session σ,
            (inv before ∧ before.page.submitted = false ∧
              Dispatches service mode action before) ∧
            session = before.marked true)
        (fun _ => inv) :=
    Triple.modifyPage fun session hSession =>
      ⟨session, hSession, rfl⟩
  apply Triple.bind hRaise
  intro _
  apply Triple.readForm
  intro form
  have hAsk :
      Triple
        (fun session =>
          (∃ before : Session σ,
            (inv before ∧ before.page.submitted = false ∧
              Dispatches service mode action before) ∧
            session = before.marked true) ∧
          session.page.form = form)
        (PageM.ask service (.submit form.toSubmission))
        (fun _ => inv)
        (fun _ session => inv (session.marked false)) := by
    apply Triple.ask
    · rintro session answer state
        ⟨⟨before, ⟨hBefore, hUnsent, hForm⟩, rfl⟩, rfl⟩ hAnswer
      exact
        hInv.sends before _ state hBefore hUnsent hForm hAnswer
    · rintro session error state
        ⟨⟨before, ⟨hBefore, hUnsent, hForm⟩, rfl⟩, rfl⟩ hError
      exact
        hInv.sends before _ state hBefore hUnsent hForm hError
  apply Triple.bind
  · apply Triple.tryCatch hAsk
    intro error
    have hLower :
        Triple (fun session => inv (session.marked false))
          (Page.setSubmitted false) (fun _ => inv)
          (fun _ => inv) :=
      Triple.modifyPage fun _ hSession => hSession
    apply Triple.bind hLower
    intro _
    exact Keeps.throw error
  · intro _
    apply Keeps.bind (hInv.setStatus _)
    intro _
    exact Keeps.pure _

/- A result is filled in right before the form is sent. -/
theorem sendWith
    (hInv : Carries service mode .submit inv)
    (result : FormResult) :
    Triple
      (fun session =>
        inv session ∧ session.page.submitted = false ∧
          Dispatches service mode .submit
            (session.withForm
              { session.page.form with
                formResult := some result }))
      (Page.sendWith service result) (fun _ => inv)
      (fun _ => inv) := by
  unfold Page.sendWith
  apply Triple.bind _ fun _ => hInv.send
  apply Triple.modifyPage
  rintro session ⟨hSession, hUnsent, hDispatches⟩
  have hResult :=
    hInv.steps session _ hSession (.result _ result)
      (.of_same ⟨rfl, rfl⟩ rfl (.refl _))
  exact ⟨hResult, hUnsent, hDispatches⟩

/- A stored form that was let through is sent as it is. -/
theorem sendStored
    (hInv : Carries service mode .submit inv) :
    Triple
      (fun session =>
        inv session ∧ HasChecked mode .ready session)
      (Page.sendWith service .other) (fun _ => inv)
      (fun _ => inv) := by
  apply (hInv.sendWith .other).weaken
  · rintro session ⟨hSession, hChecked⟩
    rcases hChecked.clears with ⟨hCleared, hKind⟩
    have hReady : session.page.form.IsReady mode :=
      ⟨hCleared, hChecked.judged⟩
    refine ⟨hSession, hChecked.unsent, .stored ?_ hKind rfl⟩
    exact hReady.of_same rfl rfl ⟨rfl, rfl⟩
  · exact fun _ _ hSession => hSession

/- A new form is sent once its name turned out to be free. -/
theorem sendNew
    (hInv : Carries service mode .submit inv) :
    Triple
      (fun session =>
        inv session ∧
          HasChecked mode .nameCheckRequired session)
      (Page.sendChecked service .nameCheckRequired)
      (fun _ => inv) (fun _ => inv) := by
  unfold Page.sendChecked
  apply Triple.readForm
  intro form
  have hAsk :
      Triple
        (fun session =>
          (inv session ∧
              HasChecked mode .nameCheckRequired session) ∧
            session.page.form = form)
        (PageM.ask service
          (.isNameFree form.projectName.value))
        (fun isFree session =>
          (inv session ∧
              HasChecked mode .nameCheckRequired session) ∧
            ∃ before,
              service
                  (.isNameFree
                    session.page.form.projectName.value)
                  before =
                (.ok isFree, session.state))
        (fun _ => inv) := by
    apply Triple.ask
    · rintro session isFree state
        ⟨⟨hSession, hChecked⟩, rfl⟩ hAnswer
      have hAsked :=
        hInv.asks session _ _ state hSession
          (.isNameFree hChecked.clears.2) rfl hAnswer
      have hAfter :
          HasChecked mode .nameCheckRequired
            { session with state } :=
        ⟨hChecked.unsent, hChecked.clears, hChecked.judged⟩
      exact ⟨⟨hAsked, hAfter⟩, session.state, hAnswer⟩
    · rintro session error state
        ⟨⟨hSession, hChecked⟩, rfl⟩ hError
      exact
        hInv.asks session _ _ state hSession
          (.isNameFree hChecked.clears.2) rfl hError
  apply Triple.bind hAsk
  intro isFree
  apply Triple.ite
  · rintro rfl
    apply Triple.bind _ fun _ => hInv.sendWith .create
    apply Triple.modifyPage
    rintro session ⟨⟨hSession, hChecked⟩, before, hFree⟩
    rcases hChecked.clears with ⟨hCleared, hCreate⟩
    have hMessage :=
      hInv.steps session _ hSession (.message _ none)
        (.of_same ⟨rfl, rfl⟩ rfl (.refl _))
    have hReady : session.page.form.IsReady mode :=
      ⟨hCleared, hChecked.judged⟩
    refine
      ⟨hMessage, hChecked.unsent,
        .new before ?_ hCreate rfl hFree⟩
    exact hReady.of_same rfl rfl ⟨rfl, rfl⟩
  · intro _
    have hMessage :
        ∀ message : Option String,
          Keeps inv
            (modifyForm fun form =>
              { form with formMessage := message }) := by
      intro message
      apply hInv.step (fun form => .message form message)
      exact fun form =>
        .of_same ⟨rfl, rfl⟩ rfl (.refl form.views)
    apply Triple.bind
    · apply (hMessage _).weaken
      · exact fun session hSession => hSession.1.1
      · exact fun _ _ hSession => hSession
    · intro _
      exact Keeps.throw _

/- What follows the check sends only what it let through. -/
theorem sendChecked
    (hInv : Carries service mode .submit inv)
    (outcome : FormCheck) :
    Triple
      (fun session =>
        inv session ∧ HasChecked mode outcome session)
      (Page.sendChecked service outcome)
      (fun _ => inv) (fun _ => inv) := by
  cases outcome with
  | blocked error =>
      exact Triple.throw fun _ hSession => hSession.1
  | ready => exact hInv.sendStored
  | nameCheckRequired => exact hInv.sendNew

theorem submit
    (hInv : Carries service mode .submit inv) :
    Keeps inv (Page.submit service) := by
  have hUnsent := hInv.toSteady.unsubmitted
  have hRest :
      Triple
        (fun session =>
          (inv session ∧ session.page.submitted = false) ∧
            (mode.isMutable →
              session.page.form.staleTriggers = []))
        (do
          let outcome ← PageM.onForm fun form =>
            let (outcome, form) := form.check
            (.ok outcome, form)
          Page.sendChecked service outcome)
        (fun _ => inv) (fun _ => inv) := by
    apply Triple.bind
    · apply hUnsent.check.weakenFailed
      exact fun _ _ hSession => hSession.1
    · intro outcome
      apply (hInv.sendChecked outcome).weaken
      · rintro session ⟨⟨hSession, hSame⟩, hClears, hJudged⟩
        exact ⟨hSession, hSame, hClears, hJudged⟩
      · exact fun _ _ hSession => hSession
  rw [Page.submit_eq]
  apply Triple.bind requireUnsubmitted_spec
  intro _
  exact
    hUnsent.recheckIfMutable (fun _ hSession => hSession.1) hRest

/- A rejection is sent unchecked, for a reason that was given. -/
theorem confirmReject
    (hInv : Carries service mode .confirmReject inv) :
    Keeps inv (Page.confirmReject service) := by
  unfold Page.confirmReject
  apply hInv.requireApproveReject
  intro hMode
  apply Triple.readForm
  intro form
  apply Triple.ite
  · intro _
    apply Triple.bind
    · apply Triple.weaken
        (hInv.step (fun form => .focusReason form hMode)
          fun form =>
            .of_same ⟨rfl, rfl⟩ rfl (.refl form.views))
      · exact fun session hSession => hSession.1
      · exact fun _ _ hSession => hSession
    · intro _
      exact Keeps.pure none
  · intro hReason
    apply Triple.bind _ fun submission =>
      Keeps.pure (some submission)
    apply hInv.reportedTo
    apply Triple.bind
      (requireUnsubmitted_spec.weakenFailed
        fun _ _ hSession => hSession.1)
    intro _
    have hReject :
        Triple
          (fun session =>
            (inv session ∧ session.page.form = form) ∧
              session.page.submitted = false)
          (modifyForm fun before =>
            { before with
              rejectionReason := form.rejectDialog.reason.value
              formType := .reject })
          (fun _ session =>
            inv session ∧ session.page.submitted = false ∧
              Dispatches service mode .confirmReject session)
          (fun _ => inv) := by
      apply Triple.modifyPage
      rintro session ⟨⟨hSession, rfl⟩, hUnsent⟩
      refine
        ⟨?_, hUnsent, .rejection hMode rfl rfl hReason⟩
      exact
        hInv.steps session _ hSession (.reject _ _ hMode)
          (.of_same ⟨rfl, rfl⟩ rfl (.refl _))
    apply Triple.bind hReject
    exact fun _ => hInv.send

end Carries

end Page

end BuildForm

------------------------------------------------------------
-- Actions
------------------------------------------------------------

namespace BuildForm

namespace Page

open PageM

variable {σ : Type}
variable {service : Service σ}
variable {mode : PageMode}
variable {action : Action}
variable {inv : Session σ → Prop}

namespace Carries

/- What an action's moves keep is kept by the action. -/
theorem act
    (hInv : Carries service mode action inv)
    (hOpened : action ≠ .init) :
    Keeps inv (Page.act service action) := by
  have hSteady := hInv.toSteady
  cases action with
  | init => exact absurd rfl hOpened
  | addView =>
      exact (hSteady.reported (hSteady.addView rfl)).map Reply.view
  | addBuilder view =>
      exact
        (hSteady.reported (hSteady.addBuilder view)).map
          Reply.builder
  | removeView view =>
      apply Keeps.map _ Reply.flag
      apply hSteady.onViews
      intro views
      right
      exact ⟨.remove views view, views.retains_remove view⟩
  | removeBuilder view builder =>
      apply Keeps.map _ Reply.flag
      apply hSteady.onViews_amend
      intro entry
      exact .removeBuilder entry builder
  | selectCredentials view value =>
      apply Keeps.map _ Reply.flag
      apply hSteady.onViews_amend
      intro entry
      exact .selectCredentials entry value
  | rememberCredentials view =>
      apply Keeps.map _ Reply.credentials
      apply hSteady.onViews
      intro views
      right
      exact
        ⟨.rememberCredentials views view,
          views.retains_rememberCredentials view⟩
  | edit path value =>
      apply Keeps.bind Keeps.getPage
      intro page
      exact (hSteady.reported (hSteady.edit rfl _)).map Reply.flag
  | addPath view kind =>
      exact
        (hSteady.reported (hSteady.addPath view kind)).map
          fun _ => Reply.done
  | press view kind key =>
      exact (hSteady.press view kind key).map Reply.flag
  | setVersionFiles view enabled =>
      exact (hSteady.setVersionFiles view enabled).map Reply.flag
  | setOtherConfig view builder checked =>
      exact
        (hSteady.setOtherConfig view builder checked).map
          Reply.flag
  | checkTrigger path =>
      apply Keeps.map _ Reply.check
      apply hSteady.reported
      have hJudges :
          ∀ form : Form,
            True → (Action.checkTrigger path).Judges form path :=
        fun _ _ => Or.inl rfl
      apply (hSteady.checkTrigger hJudges).weaken
      · exact fun _ hSession => ⟨hSession, trivial⟩
      · exact fun _ _ hSession => hSession.1
  | toggleHelp name =>
      exact (hSteady.toggleHelp name).map Reply.flag
  | toggleTriggerHelp name =>
      exact (hSteady.toggleTriggerHelp name).map Reply.flag
  | addUser => exact hSteady.addUser.map Reply.row
  | deleteUser row =>
      exact (hSteady.deleteUser row).map Reply.flag
  | submit =>
      exact (hSteady.reported hInv.submit).map fun submission =>
        Reply.submission (some submission)
  | openReject => exact hSteady.openReject.map fun _ => Reply.done
  | confirmReject => exact hInv.confirmReject.map Reply.submission
  | cancelReject =>
      exact hSteady.cancelReject.map fun _ => Reply.done
  | cancel => exact hSteady.cancel.map Reply.target

end Carries

end Page

end BuildForm
