import BuildForm.Page.Basic

/-
  Triples over the actions of a session.

  `Triple before action after failed` says what holds of the
  session when the action returns and what when it fails. The
  rules follow the ways in which actions are put together.

  Main declarations:
    * `PageM.Triple`
    * `PageM.Triple.bind`
    * `PageM.Triple.ask`
    * `PageM.Keeps`
-/

------------------------------------------------------------
-- Performing Actions
------------------------------------------------------------

namespace BuildForm

namespace PageM

variable {σ α β : Type}

theorem perform_bind
    (action : PageM σ α)
    (next : α → PageM σ β)
    (session : Session σ) :
    (action >>= next).perform session =
      match action.perform session with
      | (.ok value, after) => (next value).perform after
      | (.error error, after) => (.error error, after) := by
  unfold perform ExceptT.run StateT.run
  simp only [bind, ExceptT.bind, ExceptT.mk, StateT.bind]
  rcases action session with ⟨result, after⟩
  cases result <;> rfl

theorem perform_tryCatch
    (action : PageM σ α)
    (handle : FormError → PageM σ α)
    (session : Session σ) :
    (tryCatch action handle).perform session =
      match action.perform session with
      | (.ok value, after) => (.ok value, after)
      | (.error error, after) =>
          (handle error).perform after := by
  unfold perform ExceptT.run StateT.run
  simp only [tryCatch, tryCatchThe, MonadExceptOf.tryCatch,
    ExceptT.tryCatch, ExceptT.mk, bind, StateT.bind]
  rcases action session with ⟨result, after⟩
  cases result <;> rfl

end PageM

end BuildForm

------------------------------------------------------------
-- Triples
------------------------------------------------------------

namespace BuildForm

namespace PageM

variable {σ α β : Type}

/-
  From a session as in `before`, the action returns a value in
  a session as in `after`, or fails in one as in `failed`.
-/
def Triple
    (before : Session σ → Prop)
    (action : PageM σ α)
    (after : α → Session σ → Prop)
    (failed : FormError → Session σ → Prop) : Prop :=
  ∀ session, before session →
    match action.perform session with
    | (.ok value, session) => after value session
    | (.error error, session) => failed error session

variable {before : Session σ → Prop}
variable {after : α → Session σ → Prop}
variable {failed : FormError → Session σ → Prop}

namespace Triple

theorem weaken
    {action : PageM σ α}
    {weaker : Session σ → Prop}
    {stronger : α → Session σ → Prop}
    (hTriple : Triple weaker action stronger failed)
    (hBefore : ∀ session, before session → weaker session)
    (hAfter :
      ∀ value session, stronger value session →
        after value session) :
    Triple before action after failed := by
  intro session hSession
  have hAction := hTriple session (hBefore session hSession)
  rcases hPerform : action.perform session with ⟨result, last⟩
  rw [hPerform] at hAction
  cases result with
  | error error => exact hAction
  | ok value => exact hAfter value last hAction

/- Less may be said of the sessions in which it failed. -/
theorem weakenFailed
    {action : PageM σ α}
    {stronger : FormError → Session σ → Prop}
    (hTriple : Triple before action after stronger)
    (hFailed :
      ∀ error session, stronger error session →
        failed error session) :
    Triple before action after failed := by
  intro session hSession
  have hAction := hTriple session hSession
  rcases hPerform : action.perform session with ⟨result, last⟩
  rw [hPerform] at hAction
  cases result with
  | error error => exact hFailed error last hAction
  | ok value => exact hAction

theorem pure
    {value : α}
    (hValue : ∀ session, before session → after value session) :
    Triple before (Pure.pure value) after failed :=
  hValue

theorem throw
    {error : FormError}
    (hError :
      ∀ session, before session → failed error session) :
    Triple before (MonadExcept.throw error : PageM σ α) after
      failed :=
  hError

theorem bind
    {action : PageM σ α}
    {next : α → PageM σ β}
    {middle : α → Session σ → Prop}
    {after : β → Session σ → Prop}
    (hAction : Triple before action middle failed)
    (hNext :
      ∀ value, Triple (middle value) (next value) after failed) :
    Triple before (action >>= next) after failed := by
  intro session hSession
  have hFirst := hAction session hSession
  rw [perform_bind]
  rcases hPerform : action.perform session with ⟨result, last⟩
  rw [hPerform] at hFirst
  cases result with
  | error error => exact hFirst
  | ok value => exact hNext value last hFirst

/- A handler goes on where the action failed. -/
theorem tryCatch
    {action : PageM σ α}
    {handle : FormError → PageM σ α}
    {caught : FormError → Session σ → Prop}
    (hAction : Triple before action after caught)
    (hHandle :
      ∀ error,
        Triple (caught error) (handle error) after failed) :
    Triple before (MonadExcept.tryCatch action handle) after
      failed := by
  intro session hSession
  have hFirst := hAction session hSession
  rw [perform_tryCatch]
  rcases hPerform : action.perform session with ⟨result, last⟩
  rw [hPerform] at hFirst
  cases result with
  | error error => exact hHandle error last hFirst
  | ok value => exact hFirst

/- An action that reports ends with its error on the line. -/
theorem reportedAs
    {action : PageM σ α}
    {shown : FormError → Session σ → Prop}
    (hAction : Triple before action after failed)
    (hShown :
      ∀ error session, failed error session →
        shown error
          { session with
            page :=
              { session.page with status := .failed error } }) :
    Triple before (PageM.reported action) after shown := by
  apply tryCatch hAction
  intro error session hError
  exact hShown error session hError

/- What an error says of itself is not lost by reporting it. -/
theorem reported
    {action : PageM σ α}
    {failed : FormError → Prop}
    (hAction :
      Triple before action after fun error _ => failed error) :
    Triple before (PageM.reported action) after
      fun error _ => failed error :=
  reportedAs hAction fun _ _ hError => hError

theorem getPage
    {after : Page → Session σ → Prop}
    (hPage :
      ∀ session, before session →
        after session.page session) :
    Triple before PageM.getPage after failed :=
  hPage

theorem getForm
    {after : Form → Session σ → Prop}
    (hForm :
      ∀ session, before session →
        after session.page.form session) :
    Triple before PageM.getForm after failed :=
  hForm

theorem modifyPage
    {change : Page → Page}
    {after : Unit → Session σ → Prop}
    (hChange :
      ∀ session, before session →
        after ()
          { session with page := change session.page }) :
    Triple before (PageM.modifyPage change) after failed :=
  hChange

theorem onForm
    {change : Form → Except FormError α × Form}
    (hReturn :
      ∀ session value form, before session →
        change session.page.form = (.ok value, form) →
        after value
          { session with
            page := { session.page with form } })
    (hFail :
      ∀ session error form, before session →
        change session.page.form = (.error error, form) →
        failed error
          { session with
            page := { session.page with form } }) :
    Triple before (PageM.onForm change) after failed := by
  intro session hSession
  change
    match ((change session.page.form).1,
      { session with
        page :=
          { session.page with
            form := (change session.page.form).2 } }) with
    | (.ok value, session) => after value session
    | (.error error, session) => failed error session
  rcases hForm : change session.page.form with ⟨result, form⟩
  cases result with
  | error error => exact hFail session error form hSession hForm
  | ok value => exact hReturn session value form hSession hForm

/- The state of the service is changed before the outcome. -/
theorem ask
    {service : Service σ}
    {request : Request}
    {after : request.Answer → Session σ → Prop}
    (hAnswer :
      ∀ session answer state, before session →
        service request session.state = (.ok answer, state) →
        after answer { session with state })
    (hFail :
      ∀ session error state, before session →
        service request session.state = (.error error, state) →
        failed (.service error) { session with state }) :
    Triple before (PageM.ask service request) after failed := by
  intro session hSession
  unfold perform PageM.ask ExceptT.run StateT.run
  dsimp only [ExceptT.mk]
  rcases hService : service request session.state with
    ⟨outcome, state⟩
  cases outcome with
  | error error =>
      exact hFail session error state hSession hService
  | ok answer =>
      exact hAnswer session answer state hSession hService

/- Both branches of a choice start from the same sessions. -/
theorem ite
    {condition : Prop}
    [Decidable condition]
    {first second : PageM σ α}
    (hFirst :
      condition → Triple before first after failed)
    (hSecond :
      ¬condition → Triple before second after failed) :
    Triple before (if condition then first else second) after
      failed := by
  by_cases hCondition : condition
  · rw [if_pos hCondition]
    exact hFirst hCondition
  · rw [if_neg hCondition]
    exact hSecond hCondition

/- A fact that is no matter of the session can be assumed. -/
theorem given
    {action : PageM σ α}
    {fact : Prop}
    (hTriple : fact → Triple before action after failed) :
    Triple (fun session => fact ∧ before session) action after
      failed :=
  fun session hSession => hTriple hSession.1 session hSession.2

/- What holds from each of some sessions holds from any. -/
theorem ofExists
    {ι : Type}
    {action : PageM σ α}
    {starts : ι → Session σ → Prop}
    (hEach :
      ∀ index, Triple (starts index) action after failed) :
    Triple (fun session => ∃ index, starts index session) action
      after failed := by
  rintro session ⟨index, hSession⟩
  exact hEach index session hSession

/- What comes next may rely on the form that was read. -/
theorem readForm
    {next : Form → PageM σ α}
    (hNext :
      ∀ form,
        Triple
          (fun session =>
            before session ∧ session.page.form = form)
          (next form) after failed) :
    Triple before (PageM.getForm >>= next) after failed := by
  apply bind _ hNext
  apply getForm
  intro session hSession
  exact ⟨hSession, rfl⟩

theorem readPage
    {next : Page → PageM σ α}
    (hNext :
      ∀ page,
        Triple
          (fun session => before session ∧ session.page = page)
          (next page) after failed) :
    Triple before (PageM.getPage >>= next) after failed := by
  apply bind _ hNext
  apply getPage
  intro session hSession
  exact ⟨hSession, rfl⟩

end Triple

end PageM

end BuildForm

------------------------------------------------------------
-- Invariants
------------------------------------------------------------

namespace BuildForm

namespace PageM

variable {σ α β : Type}

/- The action keeps a property, whether it fails or not. -/
def Keeps
    (inv : Session σ → Prop)
    (action : PageM σ α) : Prop :=
  Triple inv action (fun _ => inv) (fun _ => inv)

variable {inv : Session σ → Prop}

namespace Keeps

theorem perform
    {action : PageM σ α}
    (hKeeps : Keeps inv action)
    {session : Session σ}
    (hSession : inv session) :
    inv (action.perform session).2 := by
  have hAction := hKeeps session hSession
  rcases hPerform : action.perform session with ⟨result, last⟩
  rw [hPerform] at hAction
  cases result <;> exact hAction

theorem pure (value : α) :
    Keeps inv (Pure.pure value : PageM σ α) :=
  Triple.pure fun _ hSession => hSession

theorem throw (error : FormError) :
    Keeps inv (MonadExcept.throw error : PageM σ α) :=
  Triple.throw fun _ hSession => hSession

theorem bind
    {action : PageM σ α}
    {next : α → PageM σ β}
    (hAction : Keeps inv action)
    (hNext : ∀ value, Keeps inv (next value)) :
    Keeps inv (action >>= next) :=
  Triple.bind hAction hNext

theorem map
    {action : PageM σ α}
    (hAction : Keeps inv action)
    (result : α → β) :
    Keeps inv
      (action >>= fun value => Pure.pure (result value)) :=
  bind hAction fun value => pure (result value)

theorem ite
    {condition : Prop}
    [Decidable condition]
    {first second : PageM σ α}
    (hFirst : Keeps inv first)
    (hSecond : Keeps inv second) :
    Keeps inv (if condition then first else second) :=
  Triple.ite (fun _ => hFirst) (fun _ => hSecond)

theorem and
    {other : Session σ → Prop}
    {action : PageM σ α}
    (hKeeps : Keeps inv action)
    (hOther : Keeps other action) :
    Keeps (fun session => inv session ∧ other session)
      action := by
  rintro session ⟨hSession, hSame⟩
  have hFirst := hKeeps session hSession
  have hSecond := hOther session hSame
  rcases hPerform : action.perform session with ⟨result, last⟩
  rw [hPerform] at hFirst hSecond
  cases result <;> exact ⟨hFirst, hSecond⟩

/- What is kept may be told apart by a value of the session. -/
theorem of_each
    {ι : Type}
    (value : Session σ → ι)
    {action : PageM σ α}
    (hEach :
      ∀ index,
        Keeps
          (fun session => inv session ∧ value session = index)
          action) :
    Keeps inv action := by
  intro session hSession
  have hAction :=
    hEach (value session) session ⟨hSession, rfl⟩
  rcases hPerform : action.perform session with ⟨result, last⟩
  rw [hPerform] at hAction
  cases result <;> exact hAction.1

theorem getPage : Keeps inv (PageM.getPage : PageM σ Page) :=
  Triple.getPage fun _ hSession => hSession

theorem getForm : Keeps inv (PageM.getForm : PageM σ Form) :=
  Triple.getForm fun _ hSession => hSession

end Keeps

end PageM

end BuildForm
