import BuildForm.Proofs.Form.Filling
import BuildForm.Proofs.Page.Triple
import BuildForm.Page.Action

/-
  Opening a page again that did not open.

  A page goes on with what it had loaded when a request of its
  opening failed, and opening it again loads everything once
  more. The page is then as one that opened at once, except
  that users who had been loaded are there twice.

  Main declarations:
    * `Service.Gives`
    * `Service.IsWhole`
    * `Page.triple_act_init_filled`
    * `Session.init_retried`
    * `Session.not_init_retried_same`
-/

------------------------------------------------------------
-- Services with the Same Answers
------------------------------------------------------------

namespace BuildForm

namespace Service

variable {σ : Type}

/- A service that gives these answers where it gives one. -/
def Gives
    (service : Service σ)
    (answers : (request : Request) → request.Answer) : Prop :=
  ∀ request state answer after,
    service request state = (.ok answer, after) →
    answer = answers request

/- A service that always gives these answers. -/
def IsWhole
    (service : Service σ)
    (answers : (request : Request) → request.Answer) : Prop :=
  ∀ request state,
    (service request state).1 = .ok (answers request)

/- Some request was not answered in some state. -/
def Fails (service : Service σ) : Prop :=
  ∃ request state error after,
    service request state = (.error error, after)

variable {service : Service σ}
variable {answers : (request : Request) → request.Answer}

theorem IsWhole.gives (hWhole : service.IsWhole answers) :
    service.Gives answers := by
  intro request state answer after hCall
  have hAnswer := hWhole request state
  rw [hCall] at hAnswer
  exact Except.ok.inj hAnswer

theorem IsWhole.not_fails (hWhole : service.IsWhole answers) :
    ¬service.Fails := by
  rintro ⟨request, state, error, after, hCall⟩
  have hAnswer := hWhole request state
  rw [hCall] at hAnswer
  cases hAnswer

end Service

/- What is stored under a name, as these answers tell it. -/
def Stored.ofAnswers
    (answers : (request : Request) → request.Answer)
    (name : String) : Stored where
  views := answers (.views name)
  users := answers (.users name)
  record := answers (.configuration name)
  fullName := fun user => answers (.fullName user)
  approved := answers (.approved name)
  deleted := answers (.deletedViews name)
  isAdmin := answers .isAdministrator

end BuildForm

------------------------------------------------------------
-- Opening
------------------------------------------------------------

namespace BuildForm

namespace Page

open PageM

variable {σ : Type}
variable {service : Service σ}
variable {answers : (request : Request) → request.Answer}
variable {name : String}
variable {opened : PageRequest}
variable {start form : Form}

/- A session of a page with a form. -/
def HasForm
    (opened : PageRequest)
    (form : Form)
    (session : Session σ) : Prop :=
  session.page.request = opened ∧ session.page.form = form

/-
  A session whose form was being filled when a request was not
  answered.
-/
def IsFilledInPart
    (service : Service σ)
    (stored : Stored)
    (opened : PageRequest)
    (start : Form)
    (session : Session σ) : Prop :=
  service.Fails ∧ session.page.request = opened ∧
    Form.FilledInPart stored start session.page.form

/- The answer is the one that is given, or there is none. -/
theorem triple_ask_given
    (hGives : service.Gives answers)
    {stored : Stored}
    (hForm : Form.FilledInPart stored start form)
    {α : Type}
    {request : Request}
    {next : request.Answer → PageM σ α}
    {after : α → Session σ → Prop}
    (hNext :
      Triple (HasForm opened form) (next (answers request))
        after
        (fun _ => IsFilledInPart service stored opened start)) :
    Triple (HasForm opened form)
      (ask service request >>= next) after
      (fun _ => IsFilledInPart service stored opened start) := by
  have hAsk :
      Triple (HasForm opened form) (ask service request)
        (fun answer session =>
          answer = answers request ∧
            HasForm opened form session)
        (fun _ =>
          IsFilledInPart service stored opened start) := by
    apply Triple.ask
    · intro session answer state hSession hCall
      exact ⟨hGives request _ answer state hCall, hSession⟩
    · rintro session error state ⟨hOpened, rfl⟩ hCall
      exact ⟨⟨_, _, _, _, hCall⟩, hOpened, hForm⟩
  apply Triple.bind hAsk
  intro answer
  apply Triple.given
  rintro rfl
  exact hNext

theorem triple_change
    {α : Type}
    {change : Form → Form}
    {next : Unit → PageM σ α}
    {after : α → Session σ → Prop}
    {failed : FormError → Session σ → Prop}
    (hNext :
      Triple (HasForm opened (change form)) (next ()) after
        failed) :
    Triple (HasForm opened form)
      (modifyForm change >>= next) after failed := by
  have hChange :
      Triple (HasForm opened form) (modifyForm change)
        (fun _ => HasForm opened (change form)) failed := by
    apply Triple.modifyPage
    rintro session ⟨hOpened, rfl⟩
    exact ⟨hOpened, rfl⟩
  exact Triple.bind hChange fun _ => hNext

/- A comparison reveals what only the approved record has. -/
theorem triple_loadDifference_filled
    (hGives : service.Gives answers)
    (hForm :
      Form.FilledInPart (.ofAnswers answers name) start form)
    (hDraft :
      ¬(Stored.ofAnswers answers name).record.isApproved) :
    let stored := Stored.ofAnswers answers name
    Triple (HasForm opened form)
      (loadDifference service name stored.record)
      (fun _ =>
        HasForm opened
          (form.withDeleted stored |>.withDifference stored))
      (fun _ =>
        IsFilledInPart service stored opened start) := by
  intro stored
  have hReveals :
      stored.reveals = stored.difference.hasApproved := by
    unfold Stored.reveals
    simp [hDraft, stored]
  have hLast :
      ∀ form : Form,
        Triple (HasForm opened form)
          (modifyForm fun form =>
            { form with difference := stored.difference })
          (fun _ => HasForm opened (form.withDifference stored))
          (fun _ =>
            IsFilledInPart service stored opened start) := by
    intro form
    unfold Form.withDifference
    rw [if_neg hDraft]
    apply Triple.modifyPage
    rintro session ⟨hOpened, rfl⟩
    exact ⟨hOpened, rfl⟩
  unfold loadDifference
  apply triple_ask_given hGives hForm
  dsimp only
  apply Triple.ite
  · intro hApproved
    have hThere : stored.reveals = true :=
      hReveals.trans hApproved
    apply triple_ask_given hGives hForm
    apply triple_change
    unfold Form.withDeleted
    rw [if_pos hThere]
    exact hLast _
  · intro hApproved
    have hNone : stored.reveals = false := by
      rw [hReveals]
      exact eq_false_of_ne_true hApproved
    unfold Form.withDeleted
    rw [hNone]
    exact hLast _

/- Only a draft is compared, so nothing else is revealed. -/
theorem triple_compare_filled
    (hGives : service.Gives answers)
    (hForm :
      Form.FilledInPart (.ofAnswers answers name) start form) :
    let stored := Stored.ofAnswers answers name
    Triple (HasForm opened form)
      (if (!stored.record.isApproved) = true then
        loadDifference service name stored.record
      else
        pure ())
      (fun _ =>
        HasForm opened
          (form.withDeleted stored |>.withDifference stored))
      (fun _ =>
        IsFilledInPart service stored opened start) := by
  intro stored
  apply Triple.ite
  · intro hDraft
    have hNot : ¬stored.record.isApproved := by
      simpa using hDraft
    exact triple_loadDifference_filled hGives hForm hNot
  · intro hApproved
    have hThere : stored.record.isApproved = true := by
      simpa using hApproved
    have hReveals : stored.reveals = false := by
      simp [Stored.reveals, hThere]
    unfold Form.withDifference Form.withDeleted
    rw [if_pos hThere, hReveals]
    exact Triple.pure fun _ hSession => hSession

theorem triple_loadContent_filled
    (hGives : service.Gives answers) :
    let stored := Stored.ofAnswers answers name
    let loaded :=
      start.withViews stored |>.withUsers stored
    Triple (HasForm opened loaded)
      (loadContent service name)
      (fun _ =>
        HasForm opened
          (loaded.withRecord stored |>.withCreator stored
            |>.withDeleted stored |>.withDifference stored))
      (fun _ =>
        IsFilledInPart service stored opened start) := by
  intro stored loaded
  unfold loadContent
  apply triple_ask_given hGives .users
  apply triple_change
  have hRecord :
      loaded.applyConfiguration (answers (.configuration name)) =
        loaded.withRecord stored := rfl
  rw [hRecord]
  have hCreated :
      Form.FilledInPart stored start
        (loaded.withRecord stored |>.withCreator stored) :=
    .creator
  unfold Form.withCreator at hCreated ⊢
  dsimp only
  split
  · rename_i creator hCreator
    have hSome : stored.record.creator = some creator := hCreator
    rw [hSome] at hCreated ⊢
    apply triple_ask_given hGives .record
    apply triple_change
    exact triple_compare_filled hGives hCreated
  · rename_i hCreator
    have hNone : stored.record.creator = none :=
      Option.eq_none_iff_forall_ne_some.mpr hCreator
    rw [hNone] at hCreated ⊢
    exact triple_compare_filled hGives hCreated

theorem triple_loadViews_filled
    (hGives : service.Gives answers) :
    let stored := Stored.ofAnswers answers name
    Triple (HasForm opened start)
      (loadViews service name)
      (fun _ => HasForm opened (start.withViews stored))
      (fun _ =>
        IsFilledInPart service stored opened start) := by
  intro stored
  unfold loadViews
  apply triple_ask_given hGives .nothing
  apply Triple.modifyPage
  rintro session ⟨hOpened, rfl⟩
  exact ⟨hOpened, rfl⟩

theorem triple_loadUsers_filled
    (hGives : service.Gives answers) :
    let stored := Stored.ofAnswers answers name
    Triple (HasForm opened (start.withViews stored))
      (loadUsers service name)
      (fun _ =>
        HasForm opened
          (start.withViews stored |>.withUsers stored))
      (fun _ =>
        IsFilledInPart service stored opened start) := by
  intro stored
  unfold loadUsers
  apply triple_ask_given hGives .views
  apply Triple.modifyPage
  rintro session ⟨hOpened, hForm⟩
  refine ⟨hOpened, ?_⟩
  dsimp only
  rw [hForm]
  rfl

theorem triple_openStored_filled
    (hGives : service.Gives answers) :
    let stored := Stored.ofAnswers answers name
    Triple (HasForm opened start)
      (openStored service name)
      (fun _ => HasForm opened (start.shown stored))
      (fun _ =>
        IsFilledInPart service stored opened start) := by
  intro stored
  unfold openStored
  apply Triple.bind (triple_loadViews_filled hGives)
  intro _
  apply Triple.bind (triple_loadUsers_filled hGives)
  intro _
  apply Triple.bind (triple_loadContent_filled hGives)
  intro _
  apply triple_change
  exact Triple.modifyPage fun _ hSession => hSession

/- A form that is filled, or one in part where that fails. -/
theorem triple_init_filled
    (hGives : service.Gives answers)
    (hName : opened.name = some name) :
    let stored := Stored.ofAnswers answers name
    Triple (HasForm opened start)
      (init service)
      (fun _ => HasForm opened (start.filled stored))
      (fun _ =>
        IsFilledInPart service stored opened start) := by
  intro stored
  have hPage :
      Triple (HasForm opened start) getPage
        (fun page session =>
          page.request = opened ∧
            HasForm opened start session)
        (fun _ =>
          IsFilledInPart service stored opened start) :=
    Triple.getPage fun _ hSession => ⟨hSession.1, hSession⟩
  unfold init
  apply Triple.bind hPage
  intro page
  apply Triple.given
  intro hOpened
  dsimp only
  rw [hOpened, hName]
  apply Triple.bind (triple_openStored_filled hGives)
  intro _
  apply triple_ask_given hGives .shown
  apply Triple.modifyPage
  rintro session ⟨hSame, hForm⟩
  refine ⟨hSame, ?_⟩
  dsimp only
  rw [hForm]
  rfl

/- The same of the action, which reports the failure. -/
theorem triple_act_init_filled
    (hGives : service.Gives answers)
    (hName : opened.name = some name) :
    let stored := Stored.ofAnswers answers name
    Triple (HasForm opened start)
      (act service .init)
      (fun reply session =>
        reply = .done ∧
          HasForm opened (start.filled stored) session)
      (fun _ =>
        IsFilledInPart service stored opened start) := by
  intro stored
  refine Triple.bind ?_ fun _ => Triple.pure fun _ hSession =>
    ⟨rfl, hSession⟩
  exact
    (triple_init_filled hGives hName).reportedAs
      fun _ _ hSession => hSession

end Page

end BuildForm

------------------------------------------------------------
-- Opening Again
------------------------------------------------------------

namespace BuildForm

namespace Session

open Page (HasForm IsFilledInPart)

variable {σ : Type}
variable {service : Service σ}
variable {answers : (request : Request) → request.Answer}
variable {name : String}
variable {session : Session σ}

/- Where every request is answered, the page opens. -/
theorem step_init_whole
    (hWhole : service.IsWhole answers)
    (hName : session.page.request.name = some name) :
    let opened := step service session .init
    opened.1 = .ok .done ∧
      opened.2.page.form =
        session.page.form.filled (.ofAnswers answers name) := by
  have hOpen :=
    Page.triple_act_init_filled hWhole.gives hName session
      ⟨rfl, rfl⟩
  unfold step
  rcases hPerform : (Page.act service .init).perform session with
    ⟨result, opened⟩
  rw [hPerform] at hOpen
  cases result with
  | error error => exact absurd hOpen.1 hWhole.not_fails
  | ok reply =>
      rcases hOpen with ⟨rfl, hForm⟩
      exact ⟨rfl, hForm.2⟩

/- A page that did not open has part of what is stored. -/
theorem step_init_failed
    (hGives : service.Gives answers)
    (hName : session.page.request.name = some name)
    {error : FormError}
    (hFailed : (step service session .init).1 = .error error) :
    let failed := (step service session .init).2
    failed.page.request = session.page.request ∧
      Form.FilledInPart (.ofAnswers answers name)
        session.page.form failed.page.form := by
  have hOpen :=
    Page.triple_act_init_filled hGives hName session
      ⟨rfl, rfl⟩
  unfold step at hFailed ⊢
  rcases hPerform : (Page.act service .init).perform session with
    ⟨result, failed⟩
  rw [hPerform] at hOpen hFailed
  cases hFailed
  exact hOpen.2

/-
  For every request for a stored configuration, all answers,
  and every way in which opening its page may fail at first:
  the page opens on the next attempt and is then as a page
  that opened at once, except that the users that were loaded
  already are there twice. It is the same if there were none.
-/
theorem init_retried
    (answers : (request : Request) → request.Answer)
    (broken whole : Service σ)
    (request : PageRequest)
    (name : String)
    (options : PageOptions)
    (state : σ)
    (error : FormError)
    (hBroken : broken.Gives answers)
    (hWhole : whole.IsWhole answers)
    (hName : request.name = some name)
    (hFailed :
      (step broken (start request options state) .init).1 =
        .error error) :
    let first := start request options state
    let failed := (step broken first .init).2
    let retried := step whole failed .init
    let fresh := step whole first .init
    let already := failed.page.form.users.names
    let again := retried.2.page.form
    let once := fresh.2.page.form
    (retried.1 = .ok .done ∧ fresh.1 = .ok .done) ∧
      again.toConfiguration =
        { once.toConfiguration with
          users := already ++ once.toConfiguration.users } ∧
      again.hiddenStrings = once.hiddenStrings ∧
      again.difference = once.difference ∧
      again.views.deleted = once.views.deleted ∧
      (already = [] ∨ already = once.toConfiguration.users) ∧
      (again.toConfiguration = once.toConfiguration ↔
        already = []) := by
  intro first failed retried fresh already again once
  rcases step_init_failed hBroken hName hFailed with
    ⟨hRequest, hFilled⟩
  have hAgainName : failed.page.request.name = some name := by
    rw [hRequest]
    exact hName
  rcases step_init_whole hWhole hAgainName with
    ⟨hRetried, hAgain⟩
  have hFirstName : first.page.request.name = some name := hName
  rcases step_init_whole hWhole hFirstName with
    ⟨hFresh, hOnce⟩
  let stored := Stored.ofAnswers answers name
  have hPart : first.page.form.IsPart stored :=
    Form.isPart_blank stored request.mode
  rcases (hPart.of_filledInPart hFilled).filled_congr hPart with
    ⟨hConfiguration, hHidden, hDifference, hDeleted⟩
  rw [← hAgain, ← hOnce] at hConfiguration hHidden
  rw [← hAgain, ← hOnce] at hDifference hDeleted
  have hAgainUsers :
      again.toConfiguration.users =
        already ++ stored.userNames :=
    (congrArg (fun form => form.users.names) hAgain).trans
      (failed.page.form.names_filled stored)
  have hOnceUsers :
      once.toConfiguration.users = stored.userNames :=
    (congrArg (fun form => form.users.names) hOnce).trans
      (first.page.form.names_filled stored)
  have hSaved :
      again.toConfiguration =
        { once.toConfiguration with
          users := already ++ once.toConfiguration.users } := by
    rw [hOnceUsers, ← hAgainUsers]
    exact
      congrArg
        (fun config : Configuration =>
          { config with users := again.toConfiguration.users })
        hConfiguration
  have hAlready :
      already = [] ∨ already = once.toConfiguration.users := by
    rw [hOnceUsers]
    exact hFilled.names
  refine
    ⟨⟨hRetried, hFresh⟩, hSaved, hHidden, hDifference, hDeleted,
      hAlready, ?_⟩
  constructor
  · intro hSame
    have hUsers := congrArg Configuration.users hSame
    rw [hAgainUsers, hOnceUsers] at hUsers
    exact List.append_left_eq_self.mp hUsers
  · intro hNone
    rw [hSaved, hNone]
    rfl

end Session

------------------------------------------------------------
-- Users that Are There Twice
------------------------------------------------------------

/- A configuration with one user, as a service tells of it. -/
namespace Retry

def answers : (request : Request) → request.Answer
  | .newDefaults => {}
  | .configuration name => { projectName := name }
  | .approved _ => none
  | .isAdministrator => false
  | .fullName user => user
  | .views _ => {}
  | .deletedViews _ => {}
  | .users _ => { html := "<div></div>", users := ["ann"] }
  | .freshView => { html := "", credentials := [] }
  | .freshBuilder => { html := "" }
  | .freshUser => { html := "" }
  | .isNameFree _ => false
  | .help _ => ""
  | .judgeTrigger _ => ""
  | .submit _ => ()

def whole : Service Unit :=
  fun request state => (.ok (answers request), state)

/- The record cannot be read, and all else is answered. -/
def broken : Service Unit
  | .configuration _, state =>
      (.error (.unavailable "down"), state)
  | request, state => whole request state

theorem broken_gives : broken.Gives answers := by
  intro request state answer after hCall
  cases request with
  | configuration name => cases hCall
  | _ =>
      cases hCall
      rfl

theorem whole_isWhole : whole.IsWhole answers :=
  fun _ _ => rfl

end Retry

namespace Session

/- The user is loaded by both attempts. -/
theorem init_retried_twice :
    let request : PageRequest := .opening .edit "core"
    let first := start request {} ()
    let failed := (step Retry.broken first .init).2
    let retried := step Retry.whole failed .init
    let fresh := step Retry.whole first .init
    Retry.broken.Gives Retry.answers ∧
      Retry.whole.IsWhole Retry.answers ∧
      request.name = some "core" ∧
      (step Retry.broken first .init).1 =
        .error (.service (.unavailable "down")) ∧
      failed.page.form.users.names = ["ann"] ∧
      retried.2.page.form.toConfiguration =
        { fresh.2.page.form.toConfiguration with
          users :=
            failed.page.form.users.names ++
              fresh.2.page.form.toConfiguration.users } := by
  intro request first failed retried fresh
  have hName : request.name = some "core" := rfl
  have hFailed :
      (step Retry.broken first .init).1 =
        .error (.service (.unavailable "down")) := by
    decide +kernel
  have hUsers : failed.page.form.users.names = ["ann"] := by
    decide +kernel
  have hRetried :=
    init_retried Retry.answers Retry.broken Retry.whole request
      "core" {} () _ Retry.broken_gives Retry.whole_isWhole
      hName hFailed
  exact
    ⟨Retry.broken_gives, Retry.whole_isWhole, hName, hFailed,
      hUsers, hRetried.2.1⟩

/- A page that opens on the next attempt is not as others. -/
theorem not_init_retried_same :
    let first := start (.opening .edit "core") {} ()
    let failed := (step Retry.broken first .init).2
    (step Retry.whole failed .init).2.page.form.toConfiguration ≠
      (step Retry.whole first
        .init).2.page.form.toConfiguration := by
  decide +kernel

end Session

end BuildForm
