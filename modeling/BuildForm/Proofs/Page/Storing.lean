import BuildForm.Proofs.Page.Loading
import BuildForm.Proofs.Page.Outcomes
import BuildForm.Proofs.Service.Storing

/-
  What a page does to the tree that it is a page of.

  Opening the page and editing it only ask questions, which
  leave the tree alone. Sending the form stores the form, or
  fails and leaves the tree alone as well.

  Main declarations:
    * `Session.IsAt`
    * `Directory.service_of_isQuery`
    * `Directory.keeps_act`
    * `Directory.HasStored`
    * `Directory.submit_spec`
    * `Directory.confirmReject_spec`
-/

------------------------------------------------------------
-- Sessions on a Tree
------------------------------------------------------------

namespace BuildForm

/- A session of a request on a tree. -/
structure Session.IsAt
    (request : PageRequest)
    (tree : Tree)
    (session : Session Tree) : Prop where
  request : session.page.request = request
  tree : session.state = tree

namespace Directory

/- Questions leave the tree alone. -/
theorem service_of_isQuery
    (directory : Directory)
    {request : Request}
    (hQuery : request.IsQuery)
    (tree : Tree) :
    (directory.service request tree).2 = tree := by
  cases request with
  | submit submission => exact absurd rfl (hQuery submission)
  | _ => rfl

variable {directory : Directory}
variable {request : PageRequest}
variable {tree : Tree}
variable {session : Session Tree}

theorem isAt_asked
    (hSession : session.IsAt request tree)
    {query : Request}
    (hQuery : query.IsQuery)
    {outcome : Except ServiceError query.Answer}
    {state : Tree}
    (hCall :
      directory.service query session.state =
        (outcome, state)) :
    ({ session with state } : Session Tree).IsAt
      request tree where
  request := hSession.request
  tree := by
    have hState := directory.service_of_isQuery hQuery session.state
    rw [hCall] at hState
    exact hState.trans hSession.tree

theorem isAt_judged
    (hSession : session.IsAt request tree)
    {path : FieldPath}
    {expression : String}
    {outcome : Except ServiceError String}
    {state : Tree}
    (hCall :
      directory.service (.judgeTrigger expression)
          session.state =
        (outcome, state)) :
    (session.judged path outcome state).IsAt request tree := by
  have hAsked :=
    isAt_asked hSession (by simp [Request.IsQuery]) hCall
  cases outcome with
  | error error => exact hAsked
  | ok answer => exact ⟨hAsked.request, hAsked.tree⟩

/- An action that is about no sending keeps the tree. -/
theorem isAt_carries
    (directory : Directory)
    (request : PageRequest)
    (tree : Tree)
    (action : Action)
    (hSubmit : action ≠ .submit)
    (hReject : action ≠ .confirmReject) :
    Page.Carries directory.service request.mode action
      (Session.IsAt request tree) where
  modes := by
    intro session hSession
    rw [hSession.request]
  marks := by
    intro session page hSession hRequest _ _
    exact ⟨hRequest.trans hSession.request, hSession.tree⟩
  steps := fun _ _ hSession _ _ => ⟨hSession.request, hSession.tree⟩
  edits := fun _ _ _ _ hSession _ =>
    ⟨hSession.request, hSession.tree⟩
  asks := fun _ _ _ _ hSession hAsks _ hCall =>
    isAt_asked hSession hAsks.isQuery hCall
  judges := fun _ _ _ _ _ hSession _ _ hCall =>
    isAt_judged hSession hCall
  sends := by
    intro session outcome state _ _ hDispatches _
    cases hDispatches with
    | new => exact absurd rfl hSubmit
    | stored => exact absurd rfl hSubmit
    | rejection => exact absurd rfl hReject

theorem isAt_admits
    (directory : Directory)
    (request : PageRequest)
    (tree : Tree) :
    Page.Admits directory.service request.name
      (Session.IsAt request tree) where
  names := by
    intro session hSession
    rw [hSession.request]
  queries := fun _ _ _ _ hSession hPrepares hCall =>
    isAt_asked hSession hPrepares.isQuery hCall
  records := by
    intro session stored outcome state hSession _ hCall
    have hAsked :=
      isAt_asked hSession (by simp [Request.IsQuery]) hCall
    cases outcome with
    | error error => exact hAsked
    | ok config => exact ⟨hAsked.request, hAsked.tree⟩
  parts := fun _ _ hSession _ _ =>
    ⟨hSession.request, hSession.tree⟩
  starts := fun _ _ hSession _ _ =>
    ⟨hSession.request, hSession.tree⟩

/- Opening a page, and what is done on it unsent. -/
theorem keeps_act
    (directory : Directory)
    (request : PageRequest)
    (tree : Tree)
    (action : Action)
    (hSubmit : action ≠ .submit)
    (hReject : action ≠ .confirmReject) :
    PageM.Keeps (Session.IsAt request tree)
      (Page.act directory.service action) := by
  have hCarries :=
    isAt_carries directory request tree action hSubmit hReject
  by_cases hInit : action = .init
  · subst hInit
    exact
      (isAt_admits directory request tree).act
        hCarries.toSteady
  · exact hCarries.act hInit

end Directory

end BuildForm

------------------------------------------------------------
-- Sending a Form
------------------------------------------------------------

namespace BuildForm

namespace Directory

open PageM

/-
  What a session that may have sent its form has done to the
  tree: nothing, or what it tells.
-/
def HasStored
    (directory : Directory)
    (tree : Tree)
    (session : Session Tree) : Option Submission → Prop
  | none => session.state = tree
  | some submission =>
      submission = session.page.form.toSubmission ∧
        directory.submit tree submission =
          (.ok (), session.state)

variable {directory : Directory}
variable {request : PageRequest}
variable {tree : Tree}

theorem send_spec
    (directory : Directory)
    (request : PageRequest)
    (tree : Tree) :
    Triple (Session.IsAt request tree)
      (Page.send directory.service)
      (fun submission session =>
        directory.HasStored tree session (some submission))
      (fun _ => Session.IsAt request tree) := by
  rintro session ⟨hRequest, rfl⟩
  rw [Page.perform_send]
  have hService :
      directory.service
          (.submit session.page.form.toSubmission)
          session.state =
        directory.submit session.state
          session.page.form.toSubmission := rfl
  dsimp only
  rw [hService]
  rcases
    hSubmit :
      directory.submit session.state
        session.page.form.toSubmission with
    ⟨outcome, after⟩
  cases outcome with
  | error error => exact ⟨hRequest, tree_of_submit_error hSubmit⟩
  | ok answer => exact ⟨rfl, hSubmit⟩

theorem sendWith_spec
    (directory : Directory)
    (request : PageRequest)
    (tree : Tree)
    (result : FormResult) :
    Triple (Session.IsAt request tree)
      (Page.sendWith directory.service result)
      (fun submission session =>
        directory.HasStored tree session (some submission))
      (fun _ => Session.IsAt request tree) := by
  intro session hSession
  rw [Page.perform_sendWith]
  exact
    send_spec directory request tree _
      ⟨hSession.request, hSession.tree⟩

theorem sendChecked_spec
    (directory : Directory)
    (request : PageRequest)
    (tree : Tree)
    (check : FormCheck) :
    Triple (Session.IsAt request tree)
      (Page.sendChecked directory.service check)
      (fun submission session =>
        directory.HasStored tree session (some submission))
      (fun _ => Session.IsAt request tree) := by
  cases check with
  | blocked error => exact Triple.throw fun _ hSession => hSession
  | ready => exact sendWith_spec directory request tree .other
  | nameCheckRequired =>
      intro session hSession
      rw [Page.perform_sendNew]
      dsimp only
      rcases
        hCall :
          directory.service
            (.isNameFree session.page.form.projectName.value)
            session.state with
        ⟨outcome, state⟩
      have hAsked :=
        isAt_asked hSession (by simp [Request.IsQuery]) hCall
      cases outcome with
      | error error => exact hAsked
      | ok isFree =>
          cases isFree with
          | false => exact ⟨hAsked.request, hAsked.tree⟩
          | true =>
              exact
                sendWith_spec directory request tree .create _
                  ⟨hAsked.request, hAsked.tree⟩

theorem submit_spec
    (directory : Directory)
    (request : PageRequest)
    (tree : Tree) :
    Triple (Session.IsAt request tree)
      (Page.submit directory.service)
      (fun submission session =>
        directory.HasStored tree session (some submission))
      (fun _ => Session.IsAt request tree) := by
  have hPrepare :
      Triple (Session.IsAt request tree)
        (Page.prepare directory.service)
        (fun _ => Session.IsAt request tree)
        (fun _ => Session.IsAt request tree) := by
    have hUnsent :
        Triple (Session.IsAt request tree)
          (Page.prepare directory.service)
          (fun _ session =>
            session.IsAt request tree ∧
              session.page.submitted = false)
          (fun _ => Session.IsAt request tree) := by
      apply Page.prepare_spec
      · exact fun _ hSession _ => hSession
      · exact fun _ _ _ _ _ hSession _ hCall =>
          isAt_judged hSession hCall
      · exact fun _ _ _ _ _ hSession _ _ hCall =>
          isAt_asked hSession (by simp [Request.IsQuery]) hCall
    apply hUnsent.weaken
    · exact fun _ hSession => hSession
    · exact fun _ _ hSession => hSession.1
  intro session hSession
  have hPrepared := hPrepare session hSession
  rw [Page.perform_submit]
  rcases
    hPerform :
      (Page.prepare directory.service).perform session with
    ⟨outcome, after⟩
  rw [hPerform] at hPrepared
  cases outcome with
  | error error => exact hPrepared
  | ok value =>
      exact
        sendChecked_spec directory request tree _ _
          ⟨hPrepared.request, hPrepared.tree⟩

theorem confirmReject_spec
    (directory : Directory)
    (request : PageRequest)
    (tree : Tree) :
    Triple (Session.IsAt request tree)
      (Page.confirmReject directory.service)
      (fun submission session =>
        directory.HasStored tree session submission)
      (fun _ => Session.IsAt request tree) := by
  intro session hSession
  rw [Page.perform_confirmReject]
  unfold Session.rejection
  split_ifs
  · exact ⟨hSession.request, hSession.tree⟩
  · exact hSession.tree
  · exact ⟨hSession.request, hSession.tree⟩
  · have hSent :=
      send_spec directory request tree
        (session.withForm session.page.form.rejected)
        ⟨hSession.request, hSession.tree⟩
    dsimp only
    rcases
      hPerform :
        (Page.send directory.service).perform
          (session.withForm session.page.form.rejected) with
      ⟨outcome, after⟩
    rw [hPerform] at hSent
    cases outcome with
    | error error => exact ⟨hSent.request, hSent.tree⟩
    | ok submission => exact hSent

/- A failure that is reported stores nothing either. -/
theorem reported_spec
    {α : Type}
    {attempt : PageM Tree α}
    {before : Session Tree → Prop}
    {after : α → Session Tree → Prop}
    (hAttempt :
      Triple before attempt after
        (fun _ => Session.IsAt request tree)) :
    Triple before (PageM.reported attempt) after
      (fun _ => Session.IsAt request tree) :=
  Triple.reportedAs hAttempt fun _ _ hSession =>
    ⟨hSession.request, hSession.tree⟩

end Directory

end BuildForm
