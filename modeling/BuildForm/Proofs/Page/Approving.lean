import Mathlib.Data.List.Forall2
import BuildForm.Proofs.Page.Opening
import BuildForm.Proofs.Page.ReadOnly
import BuildForm.Proofs.Service.Storing

/-
  Approving sends what was reviewed.

  A page to approve takes a stored record apart and puts it
  together again. What it sends, and what is stored for it as
  the live and the approved record, has the projects, users
  and machines of the stored record: repeated paths and empty
  overrides aside, and with the stored credentials wherever
  these are offered.

  Main declarations:
    * `Configuration.IsReviewed`
    * `Page.triple_submit_reviewed`
    * `Directory.submit_approved`
    * `Directory.approve_keeps_reviewed`
    * `Directory.not_approve_keeps_record`
-/

------------------------------------------------------------
-- Reviewed Records
------------------------------------------------------------

namespace BuildForm

/- Whether a drop-down of credentials can show those stored. -/
def Credentials.Offers
    (offered : List String)
    (stored : Option String) : Prop :=
  match stored with
  | none => offered = []
  | some value => value ∈ offered

/- A view that is sent for a stored one that was reviewed. -/
structure ViewRecord.IsReviewed
    (offered : List String)
    (stored sent : ViewRecord) : Prop where
  localDirectoryPath :
    sent.localDirectoryPath = stored.localDirectoryPath
  projectUrl : sent.projectUrl = stored.projectUrl
  branchName : sent.branchName = stored.branchName
  fileToBuild : sent.fileToBuild = stored.fileToBuild
  artifacts : sent.artifacts = stored.artifacts.eraseDups
  versionFiles :
    sent.versionFiles = stored.versionFiles.eraseDups
  credentials :
    Credentials.Offers offered stored.credentials →
      sent.credentials = stored.credentials
  builders :
    sent.builders =
      stored.builders.map fun builder =>
        { userConfig := textIfAny builder.userConfig }

/- What is sent for a stored record that was reviewed. -/
structure Configuration.IsReviewed
    (offered : List String)
    (stored sent : Configuration) : Prop where
  projectName : sent.projectName = stored.projectName
  views :
    List.Forall₂ (ViewRecord.IsReviewed offered)
      stored.views sent.views
  users : sent.users = stored.users
  machines : sent.buildMachines = stored.buildMachines

/- What is offered is chosen where it is stored. -/
theorem Credentials.chosen_of_offers
    {offered : List String}
    {stored : Option String}
    (hOffers : Offers offered stored) :
    chosen offered stored = stored := by
  cases stored with
  | none =>
      have hEmpty : offered = [] := hOffers
      rw [hEmpty]
      rfl
  | some value =>
      have hOffered : value ∈ offered := hOffers
      simp [chosen, Option.filter_some, hOffered]

theorem ViewRecord.isReviewed_reopened
    (offered : List String)
    (stored : ViewRecord) :
    stored.IsReviewed offered (stored.reopened offered) where
  localDirectoryPath := rfl
  projectUrl := rfl
  branchName := rfl
  fileToBuild := rfl
  artifacts := rfl
  versionFiles := rfl
  credentials := Credentials.chosen_of_offers
  builders := rfl

/- The reason of a rejection is no part of a review. -/
theorem Configuration.isReviewed_of_reopened
    {offered : List String}
    {stored sent : Configuration}
    (hSent :
      { sent with rejectionReason := "" } =
        { stored.reopened offered with rejectionReason := "" }) :
    stored.IsReviewed offered sent where
  projectName := by
    have hName := congrArg projectName hSent
    exact hName
  views := by
    have hViews := congrArg views hSent
    change sent.views = stored.views.map _ at hViews
    rw [hViews]
    exact
      List.forall₂_map_right_iff.mpr
        (List.forall₂_same.mpr fun view _ =>
          view.isReviewed_reopened offered)
  users := by
    have hUsers := congrArg users hSent
    exact hUsers
  machines := by
    have hMachines := congrArg buildMachines hSent
    exact hMachines

end BuildForm

------------------------------------------------------------
-- Submitting a Review
------------------------------------------------------------

namespace BuildForm

/- A page to approve that shows what it showed when opened. -/
structure Session.IsReviewing
    {σ : Type}
    (opened session : Session σ) : Prop where
  hasMode : session.HasMode .approveReject
  shows : session.page.form.ShowsSame opened.page.form
  state : session.state = opened.state

/- What was sent is what the page showed, and was taken. -/
structure Session.IsApproved
    {σ : Type}
    (service : Service σ)
    (opened : Session σ)
    (sent : Submission)
    (last : Session σ) : Prop where
  formType : sent.formType = .approved
  content :
    { sent.configuration with rejectionReason := "" } =
      opened.page.form.reviewed
  taken :
    service (.submit sent) opened.state = (.ok (), last.state)

/- A change that neither the request nor the form shows. -/
theorem Session.IsReviewing.page
    {σ : Type}
    {opened session : Session σ}
    (hSession : opened.IsReviewing session)
    {page : Page}
    (hRequest : page.request = session.page.request)
    (hForm : page.form.ShowsSame session.page.form) :
    opened.IsReviewing { session with page } where
  hasMode :=
    ⟨(congrArg _ hRequest).trans hSession.hasMode.request,
      hForm.mode.trans hSession.hasMode.form⟩
  shows := hForm.trans hSession.shows
  state := hSession.state

namespace Page

open PageM

variable {σ : Type}
variable {service : Service σ}
variable {opened : Session σ}

/- An approved form is sent as it is shown. -/
theorem triple_send_reviewed :
    Triple
      (fun session =>
        opened.IsReviewing session ∧
          session.page.form.formType = .approved)
      (send service)
      (opened.IsApproved service)
      (fun _ _ => True) := by
  unfold send
  have hMark :
      Triple
        (fun session =>
          opened.IsReviewing session ∧
            session.page.form.formType = .approved)
        (setSubmitted true)
        (fun _ session =>
          opened.IsReviewing session ∧
            session.page.form.formType = .approved)
        (fun _ _ => True) := by
    apply Triple.modifyPage
    rintro session ⟨hSession, hType⟩
    exact ⟨hSession.page rfl (.refl _), hType⟩
  apply Triple.bind hMark
  intro _
  have hRead :
      Triple
        (fun session =>
          opened.IsReviewing session ∧
            session.page.form.formType = .approved)
        getForm
        (fun form session =>
          (form.ShowsSame opened.page.form ∧
            form.formType = .approved) ∧
          session.state = opened.state)
        (fun _ _ => True) :=
    Triple.getForm fun session hSession =>
      ⟨⟨hSession.1.shows, hSession.2⟩, hSession.1.state⟩
  apply Triple.bind hRead
  intro form
  apply Triple.given
  rintro ⟨hShows, hType⟩
  dsimp only
  have hAsk :
      Triple (fun session => session.state = opened.state)
        (tryCatch (ask service (.submit form.toSubmission))
          fun error => do
            setSubmitted false
            throw error)
        (fun _ => opened.IsApproved service form.toSubmission)
        (fun _ _ => True) := by
    have hSubmit :
        Triple (fun session => session.state = opened.state)
          (ask service (.submit form.toSubmission))
          (fun _ => opened.IsApproved service form.toSubmission)
          (fun _ _ => True) := by
      apply Triple.ask
      · intro session _ state hState hTaken
        rw [hState] at hTaken
        exact ⟨hType, hShows.reviewed, hTaken⟩
      · exact fun _ _ _ _ _ => trivial
    apply Triple.tryCatch hSubmit
    exact fun _ _ _ => trivial
  apply Triple.bind hAsk
  intro _
  have hStatus :
      Triple (opened.IsApproved service form.toSubmission)
        (setStatus
          (.submitted
            form.toSubmission.configuration.projectName))
        (fun _ => opened.IsApproved service form.toSubmission)
        (fun _ _ => True) :=
    Triple.modifyPage fun _ hSession =>
      ⟨hSession.formType, hSession.content, hSession.taken⟩
  apply Triple.bind hStatus
  intro _
  exact Triple.pure fun _ hSession => hSession

/- The check of a page to approve approves its form. -/
theorem triple_check_reviewed :
    Triple opened.IsReviewing
      (onForm fun form =>
        let (outcome, form) := form.check
        (.ok outcome, form))
      (fun outcome session =>
        opened.IsReviewing session ∧
          session.page.form.Vouches outcome)
      (fun _ _ => True) := by
  apply Triple.onForm
  · intro session outcome form hSession hCheck
    have hShows := session.page.form.showsSame_check
    rcases hForm : session.page.form.check with ⟨result, after⟩
    rw [hForm] at hCheck hShows
    cases hCheck
    exact
      ⟨hSession.page rfl hShows, Form.vouches_of_check hForm⟩
  · exact fun _ _ _ _ _ => trivial

/- Submitting a review sends it, approved, and no more. -/
theorem triple_submit_reviewed :
    Triple opened.IsReviewing (submit service)
      (opened.IsApproved service) (fun _ _ => True) := by
  have hRest :
      Triple opened.IsReviewing (do
          let outcome ← onForm fun form =>
            let (outcome, form) := form.check
            (.ok outcome, form)
          sendChecked service outcome)
        (opened.IsApproved service) (fun _ _ => True) := by
    apply Triple.bind triple_check_reviewed
    intro outcome
    cases outcome with
    | blocked error => exact Triple.throw fun _ _ => trivial
    | ready =>
        have hResult :
            Triple
              (fun session =>
                opened.IsReviewing session ∧
                  session.page.form.Vouches .ready)
              (modifyForm fun form =>
                { form with formResult := some .other })
              (fun _ session =>
                opened.IsReviewing session ∧
                  session.page.form.formType = .approved)
              (fun _ _ => True) := by
          apply Triple.modifyPage
          rintro session ⟨hSession, _, _, hType⟩
          exact
            ⟨hSession.page rfl ⟨rfl, rfl, rfl⟩,
              hType hSession.hasMode.form⟩
        apply Triple.bind hResult
        intro _
        exact triple_send_reviewed
    | nameCheckRequired =>
        rintro session ⟨hSession, _, hCreate⟩
        rw [hSession.hasMode.form] at hCreate
        cases hCreate
  rw [submit_eq]
  have hUnsubmitted :
      Keeps opened.IsReviewing requireUnsubmitted :=
    Endures.requireUnsubmitted
  apply Triple.bind
    (hUnsubmitted.weakenFailed fun _ _ _ => trivial)
  intro _
  have hPage :
      Triple opened.IsReviewing getPage
        (fun page session =>
          page.request.mode = .approveReject ∧
            opened.IsReviewing session)
        (fun _ _ => True) :=
    Triple.getPage fun _ hSession =>
      ⟨hSession.hasMode.request, hSession⟩
  apply Triple.bind hPage
  intro page
  apply Triple.given
  intro hMode
  apply Triple.ite
  · intro hMutable
    unfold Page.isMutable at hMutable
    rw [hMode] at hMutable
    cases hMutable
  · exact fun _ => hRest

end Page

namespace Session

open Page

variable {σ : Type}
variable {service : Service σ}
variable {opened : Session σ}

theorem triple_act_submit :
    PageM.Triple opened.IsReviewing (act service .submit)
      (fun reply last =>
        ∃ sent, reply = .submission (some sent) ∧
          opened.IsApproved service sent last)
      (fun _ _ => True) :=
  PageM.Triple.bind triple_submit_reviewed.reported fun sent =>
    PageM.Triple.pure fun _ hSent => ⟨sent, rfl, hSent⟩

/-
  What is sent by a page that opened on a presented record to
  approve it, and was submitted at once.
-/
theorem isApproved_of_presented
    {good : σ → Prop}
    {name : String}
    {stored : Configuration}
    {offered : List String}
    (hPresents : service.Presents good name stored offered)
    {options : PageOptions}
    {state : σ}
    (hState : good state)
    (hOpened :
      step service
          (start (.opening .approveReject name) options state)
          .init =
        (.ok .done, opened))
    {sent : Submission}
    {last : Session σ}
    (hSent :
      step service opened .submit =
        (.ok (.submission (some sent)), last)) :
    good opened.state ∧
      opened.page.form.toConfiguration =
        stored.reopened offered ∧
      opened.IsApproved service sent last := by
  have hStart :=
    triple_act_init hPresents
      (start (.opening .approveReject name) options state)
      ⟨rfl, hState, .approveReject, rfl⟩
  have hMode : opened.HasMode .approveReject := by
    have hReadOnly : ¬PageMode.approveReject.isMutable := by
      decide
    have hAct :=
      (hasMode_survives service hReadOnly).act .init
    have hFirst :=
      hAct.perform
        (hasMode_start (.opening .approveReject name) options
          state)
    unfold step at hOpened
    rw [hOpened] at hFirst
    exact hFirst
  have hLast :=
    (triple_act_submit : PageM.Triple _ (act service .submit) _ _)
      opened
      ⟨hMode, .refl opened.page.form, rfl⟩
  unfold step at hOpened hSent
  rw [hOpened] at hStart
  rw [hSent] at hLast
  rcases hStart with ⟨_, hGood, hSaved⟩
  rcases hLast with ⟨_, hSame, hApproved⟩
  cases hSame
  exact ⟨hGood, hSaved, hApproved⟩

end Session

end BuildForm

------------------------------------------------------------
-- Approving in a Store
------------------------------------------------------------

namespace BuildForm

/- What an action sent, if it is one that did. -/
def Reply.sent? : Reply → Option Submission
  | .submission sent => sent
  | _ => none

theorem Reply.eq_of_sent?
    {outcome : Except FormError Reply}
    {sent : Submission}
    (hSent : outcome.toOption.bind sent? = some sent) :
    outcome = .ok (.submission (some sent)) := by
  rcases outcome with error | reply
  · cases hSent
  · cases reply with
    | submission =>
        cases hSent
        rfl
    | _ => cases hSent

/- A page that opens and, submitted at once, sends something. -/
theorem Session.opens_and_sends
    {σ : Type}
    {service : Service σ}
    {session : Session σ}
    {sent : Submission}
    (hDone : (step service session .init).1 = .ok .done)
    (hSent :
      (step service (step service session .init).2
          .submit).1.toOption.bind Reply.sent? =
        some sent) :
    ∃ opened last,
      step service session .init = (.ok .done, opened) ∧
        step service opened .submit =
          (.ok (.submission (some sent)), last) :=
  ⟨_, _, Prod.ext hDone rfl,
    Prod.ext (Reply.eq_of_sent? hSent) rfl⟩

/- The record that an approval stores. -/
def Submission.accepted (sent : Submission) : Configuration :=
  { sent.configuration with
    standing := .approved
    rejectionReason := "" }

namespace Directory

variable {directory : Directory}
variable {tree : Tree}
variable {name : String}
variable {stored : Configuration}
variable {defaults : NewDefaults}

/- Only where there are no users is there no markup. -/
theorem eq_nil_of_usersMarkup
    {users : List String}
    (hMarkup : usersMarkup users = "") :
    users = [] := by
  cases users with
  | nil => rfl
  | cons user users =>
      unfold usersMarkup at hMarkup
      simp [String.join_cons] at hMarkup

/- A tree presents the record and the credentials it holds. -/
theorem presents
    (hStored :
      directory.answer tree (.configuration name) = .ok stored)
    (hDefaults :
      directory.answer tree .newDefaults = .ok defaults) :
    directory.service.Presents (· = tree) name stored
      defaults.credentials where
  stays := by
    rintro request state outcome after hOpens rfl hCall
    cases hCall
    cases hOpens <;> rfl
  views := by
    rintro state loaded after rfl hLoaded
    have hStored : directory.live state name = .ok stored :=
      hStored
    have hDefaults : directory.defaults state = .ok defaults :=
      hDefaults
    have hAnswer : directory.views state name = .ok loaded :=
      congrArg Prod.fst hLoaded
    unfold Directory.views at hAnswer
    rw [hStored, hDefaults] at hAnswer
    cases hAnswer
    exact ⟨rfl, rfl⟩
  users := by
    rintro state loaded after rfl hLoaded
    have hStored : directory.live state name = .ok stored :=
      hStored
    have hAnswer : directory.users state name = .ok loaded :=
      congrArg Prod.fst hLoaded
    unfold Directory.users at hAnswer
    rw [hStored] at hAnswer
    cases hAnswer
    exact ⟨rfl, eq_nil_of_usersMarkup⟩
  configuration := by
    rintro state config after rfl hLoaded
    have hAnswer :
        directory.answer state (.configuration name) =
          .ok config :=
      congrArg Prod.fst hLoaded
    rw [hStored] at hAnswer
    cases hAnswer
    rfl

/- An approval that succeeds stores its record twice. -/
theorem submit_approved
    {sent : Submission}
    {after : Tree}
    (hType : sent.formType = .approved)
    (hSubmit : directory.submit tree sent = (.ok (), after)) :
    ∃ copied,
      directory.store tree
          [sent.configuration.projectName, approvedFolder]
          sent.accepted =
        .ok copied ∧
      directory.store copied [sent.configuration.projectName]
          sent.accepted =
        .ok after := by
  rcases exists_apply_of_submit hSubmit with
    ⟨previous, update, hUpdate, hApply⟩
  unfold Directory.update at hUpdate
  rw [hType] at hUpdate
  cases previous with
  | none => cases hUpdate
  | some before =>
      cases hUpdate
      unfold apply at hApply
      dsimp only at hApply
      split at hApply
      · cases hApply
      · rename_i copied hCopy
        split at hApply
        · cases hApply
        · rename_i changed hStore
          cases hApply
          exact ⟨copied, hCopy, hStore⟩

open Session
  (start step isApproved_of_presented opens_and_sends)

/-
  For every stored configuration and all credentials that the
  store offers: if a page to approve it opens and is submitted
  at once, what is sent has the projects, users and machines
  that were reviewed. So has the record that is stored for it
  as the approved copy and then as the live document.
-/
theorem approve_keeps_reviewed
    (directory : Directory)
    (tree : Tree)
    (name : String)
    (options : PageOptions)
    (stored : Configuration)
    (defaults : NewDefaults)
    (opened last : Session Tree)
    (sent : Submission)
    (hStored :
      directory.answer tree (.configuration name) = .ok stored)
    (hDefaults :
      directory.answer tree .newDefaults = .ok defaults)
    (hOpened :
      step directory.service
          (start (.opening .approveReject name) options tree)
          .init =
        (.ok .done, opened))
    (hSent :
      step directory.service opened .submit =
        (.ok (.submission (some sent)), last)) :
    stored.IsReviewed defaults.credentials
        sent.configuration ∧
      stored.IsReviewed defaults.credentials sent.accepted ∧
      ∃ copied,
        directory.store tree
            [stored.projectName, approvedFolder]
            sent.accepted =
          .ok copied ∧
        directory.store copied [stored.projectName]
            sent.accepted =
          .ok last.state := by
  rcases isApproved_of_presented
      (presents hStored hDefaults) rfl hOpened hSent with
    ⟨hState, hSaved, hApproved⟩
  have hReviewed :
      stored.IsReviewed defaults.credentials
        sent.configuration := by
    apply Configuration.isReviewed_of_reopened
    rw [hApproved.content, Form.reviewed, hSaved]
  have hSubmit :
      directory.submit tree sent = (.ok (), last.state) := by
    rw [← hState]
    exact hApproved.taken
  have hStores := submit_approved hApproved.formType hSubmit
  rw [hReviewed.projectName] at hStores
  refine ⟨hReviewed, ?_, hStores⟩
  exact
    ⟨hReviewed.projectName, hReviewed.views, hReviewed.users,
      hReviewed.machines⟩

/-
  A record that is approved as it is stored. Its view stands
  in the document as the list of its fields.
-/
theorem approve_keeps_reviewed_release :
    let directory : Directory := { root := "store" }
    let tree : Tree :=
      .directory
        [("defaults.json", .file (.text
            "\x7b\"credentials\": [\"build\", \"deploy\"]\x7d")),
          ("core", .directory
            [("config.json", .file (.text
              ("\x7b\"projectName\": \"core\"," ++
                "\"usersList\": [\"ann\"]," ++
                "\"projectToBuild\": [[\".\"," ++
                "\"https://host/core.git\", \"\"," ++
                "\"build.bat\", [\"bin\"], []," ++
                "\"deploy\", [[\"Release\"]]]]\x7d")))])]
    let stored : Configuration :=
      { projectName := "core"
        users := ["ann"]
        views :=
          [{ localDirectoryPath := "."
             projectUrl := "https://host/core.git"
             fileToBuild := "build.bat"
             artifacts := ["bin"]
             credentials := some "deploy"
             builders := [{ userConfig := some "Release" }] }] }
    let defaults : NewDefaults :=
      { credentials := ["build", "deploy"] }
    directory.answer tree (.configuration "core") =
        .ok stored ∧
      directory.answer tree .newDefaults = .ok defaults ∧
      ∃ opened sent last copied,
        step directory.service
            (start (.opening .approveReject "core") {} tree)
            .init =
          (.ok .done, opened) ∧
        step directory.service opened .submit =
          (.ok (.submission (some sent)), last) ∧
        stored.IsReviewed defaults.credentials
          sent.configuration ∧
        stored.IsReviewed defaults.credentials
          sent.accepted ∧
        directory.store tree ["core", approvedFolder]
            sent.accepted =
          .ok copied ∧
        directory.store copied ["core"] sent.accepted =
          .ok last.state := by
  intro directory tree stored defaults
  let waiting :=
    start (.opening .approveReject "core") {} tree
  let opening := step directory.service waiting .init
  have hRun :
      directory.answer tree (.configuration "core") =
          .ok stored ∧
        directory.answer tree .newDefaults = .ok defaults ∧
        opening.1 = .ok .done ∧
        ((step directory.service opening.2
          .submit).1.toOption.bind Reply.sent?).isSome := by
    decide +kernel
  rcases hRun with ⟨hStored, hDefaults, hDone, hReply⟩
  rcases Option.isSome_iff_exists.mp hReply with
    ⟨sent, hSent⟩
  rcases opens_and_sends hDone hSent with
    ⟨opened, last, hOpened, hSubmitted⟩
  rcases
      approve_keeps_reviewed directory tree "core" {} stored
        defaults opened last sent hStored hDefaults hOpened
        hSubmitted with
    ⟨hConfiguration, hAccepted, copied, hCopy, hLive⟩
  exact
    ⟨hStored, hDefaults, opened, sent, last, copied, hOpened,
      hSubmitted, hConfiguration, hAccepted, hCopy, hLive⟩

/-
  A record with a repeated path, an empty override and no
  credentials is not approved as it is stored, where some are
  offered.
-/
theorem not_approve_keeps_record :
    ¬∀ (directory : Directory) (tree : Tree) (name : String)
        (options : PageOptions) (stored : Configuration)
        (defaults : NewDefaults) (opened last : Session Tree)
        (sent : Submission),
      directory.answer tree (.configuration name) =
        .ok stored →
      directory.answer tree .newDefaults = .ok defaults →
      step directory.service
          (start (.opening .approveReject name) options tree)
          .init =
        (.ok .done, opened) →
      step directory.service opened .submit =
        (.ok (.submission (some sent)), last) →
      sent.configuration.views = stored.views ∧
        sent.configuration.users = stored.users ∧
        sent.configuration.buildMachines =
          stored.buildMachines := by
  intro hSame
  let directory : Directory := { root := "store" }
  let tree : Tree :=
    .directory
      [("defaults.json", .file (.text
          "\x7b\"credentials\": [\"deploy\"]\x7d")),
        ("core", .directory
          [("config.json", .file (.text
            ("\x7b\"projectName\": \"core\"," ++
              "\"projectToBuild\": [[\".\"," ++
              "\"https://host/core.git\", \"\"," ++
              "\"build.bat\", [\"bin\", \"bin\"], []," ++
              "null, [[\"\"]]]]\x7d")))])]
  let stored : ViewRecord :=
    { localDirectoryPath := "."
      projectUrl := "https://host/core.git"
      fileToBuild := "build.bat"
      artifacts := ["bin", "bin"]
      builders := [{ userConfig := some "" }] }
  let waiting :=
    start (.opening .approveReject "core") {} tree
  let opening := step directory.service waiting .init
  -- What is sent names credentials that were not stored.
  have hRun :
      directory.answer tree (.configuration "core") =
          .ok { projectName := "core", views := [stored] } ∧
        directory.answer tree .newDefaults =
          .ok { credentials := ["deploy"] } ∧
        opening.1 = .ok .done ∧
        ((step directory.service opening.2
            .submit).1.toOption.bind Reply.sent?).map
            (fun sent =>
              sent.configuration.views.map
                ViewRecord.credentials) =
          some [some "deploy"] := by
    decide +kernel
  rcases hRun with ⟨hStored, hDefaults, hDone, hReply⟩
  rcases Option.map_eq_some_iff.mp hReply with
    ⟨sent, hSent, hCredentials⟩
  rcases opens_and_sends hDone hSent with
    ⟨opened, last, hOpened, hSubmitted⟩
  have hViews :=
    (hSame directory tree "core" {} _ _ opened last sent
      hStored hDefaults hOpened hSubmitted).1
  rw [hViews] at hCredentials
  exact absurd hCredentials (by decide)

end Directory

end BuildForm
