import BuildForm.Proofs.Page.Approving
import BuildForm.Proofs.Page.ByMode
import BuildForm.Proofs.Service.Sharing

/-
  An approval overwrites what was saved in the meantime.

  A page to approve sends what it showed since it was opened,
  and the store does not compare that with the record that is
  there. If a page to edit saves a record after the other one
  was opened, an approval that is taken puts the record that
  was reviewed in its place: the last writer wins.

  Main declarations:
    * `PageRequest.Makes`
    * `PageRequest.MakesOpened`
    * `Session.Reviews`
    * `Race`
    * `Directory.approval_overwrites_edit`
    * `Directory.not_approval_keeps_edit`
-/

------------------------------------------------------------
-- Calls of One Page
------------------------------------------------------------

namespace BuildForm

open Session (start step play)

namespace PageRequest

/-
  Whether a page of a request may have made some calls, the
  latest one first: with any options, anything that the user
  does and any answers of the service.
-/
def Makes
    (request : PageRequest)
    (calls : List Call) : Prop :=
  ∃ (σ : Type) (service : Service σ) (options : PageOptions)
      (state : σ) (gestures : List Gesture),
    calls <:+
      (play service.recorded
        (start request options ([], state))
        gestures).state.1

/-
  Whether a page of a request may have made some calls and was
  opened for the last time with a reply. When it was open, it
  had made the calls `opening` and had the form `form`.
-/
def MakesOpened
    (request : PageRequest)
    (reply : Except FormError Reply)
    (form : Form)
    (opening calls : List Call) : Prop :=
  ∃ (σ : Type) (service : Service σ) (options : PageOptions)
      (state : σ) (before after : List Gesture),
    let waiting :=
      play service.recorded
        (start request options ([], state)) before
    let opened := step service.recorded waiting .init
    Gesture.act .init ∉ after ∧
      opened.1 = reply ∧
      opened.2.page.form = form ∧
      opened.2.state.1 = opening ∧
      calls <:+
        (play service.recorded opened.2 after).state.1

variable {σ : Type}

theorem makes_play
    (service : Service σ)
    (request : PageRequest)
    (options : PageOptions)
    (state : σ)
    (gestures : List Gesture) :
    request.Makes
      (play service.recorded
        (start request options ([], state))
        gestures).state.1 :=
  ⟨σ, service, options, state, gestures, List.suffix_refl _⟩

theorem makesOpened_play
    (service : Service σ)
    (request : PageRequest)
    (options : PageOptions)
    (state : σ)
    {after : List Gesture}
    (hOnce : Gesture.act .init ∉ after) :
    let opened :=
      step service.recorded
        (start request options ([], state)) .init
    request.MakesOpened opened.1 opened.2.page.form
      opened.2.state.1
      (play service.recorded opened.2 after).state.1 :=
  ⟨σ, service, options, state, [], after, hOnce, rfl, rfl, rfl,
    List.suffix_refl _⟩

variable {request : PageRequest}
variable {reply : Except FormError Reply}
variable {form : Form}
variable {opening calls : List Call}

theorem MakesOpened.makes
    (hMakes :
      request.MakesOpened reply form opening calls) :
    request.Makes calls := by
  rcases hMakes with
    ⟨σ, service, options, state, before, after, _, _, _, _,
      hCalls⟩
  refine
    ⟨σ, service, options, state,
      before ++ .act .init :: after, ?_⟩
  unfold play at hCalls ⊢
  rw [List.foldl_append]
  exact hCalls

/- Nothing of a page follows a submission that was accepted. -/
theorem Makes.endAtAccepted (hMakes : request.Makes calls) :
    Call.EndAtAccepted calls := by
  rcases hMakes with
    ⟨σ, service, options, state, gestures, hCalls⟩
  have hOnce :=
    Session.submitsOnce_play service request options state
      gestures
  exact hOnce.last.of_suffix hCalls

end PageRequest

end BuildForm

------------------------------------------------------------
-- What a Page to Approve Sends
------------------------------------------------------------

namespace BuildForm

/- A call that submits no other configuration than this one. -/
def Call.SendsOnly
    (record : Configuration)
    (call : Call) : Prop :=
  ∀ submission, call.request = .submit submission →
    { submission.configuration with rejectionReason := "" } =
      record

namespace Session

variable {σ : Type}

/-
  A later session of an open page to approve: it is kept, and
  each submission since has the configuration that was shown
  when the page was opened.
-/
structure Reviews
    (before session : Session (List Call × σ)) : Prop
    extends before.IsKept .approveReject session where
  sent :
    Call.EachSince before.state.1
      (fun _ call => call.SendsOnly before.page.form.reviewed)
      session.state.1

variable {before session : Session (List Call × σ)}

theorem reviews_refl
    (hMode : session.HasMode .approveReject) :
    session.Reviews session where
  toIsKept := isKept_refl hMode
  sent := .refl session.state.1 _

theorem reviews_endures
    (service : Service σ)
    (before : Session (List Call × σ)) :
    Page.Endures service.recorded .approveReject
      (Reviews before) := by
  have hKeeps :
      Page.Endures service.recorded .approveReject
        (IsKept .approveReject before) :=
    isKept_endures service (by decide) before
  constructor
  case modes => exact fun _ hSession => hSession.hasMode.request
  case marks =>
    intro session page hSession hRequest hForm
    exact
      ⟨hKeeps.marks session page hSession.toIsKept hRequest
        hForm, hSession.sent⟩
  case steps =>
    intro session form hSession hStep
    exact
      ⟨hKeeps.steps session form hSession.toIsKept hStep,
        hSession.sent⟩
  case asks =>
    intro session request outcome state hSession hAsks hCall
    refine
      ⟨hKeeps.asks session request outcome state
        hSession.toIsKept hAsks hCall, ?_⟩
    change Call.EachSince _ _ state.1
    rw [Service.calls_of_recorded hCall]
    apply hSession.sent.cons
    intro submission hSubmit
    exact absurd hSubmit (hAsks.isQuery submission)
  case sends =>
    intro session outcome state hSession hSends hCall
    refine
      ⟨hKeeps.sends session outcome state hSession.toIsKept
        hSends hCall, ?_⟩
    change Call.EachSince _ _ state.1
    rw [Service.calls_of_recorded hCall]
    apply hSession.sent.cons
    intro submission hSubmit
    cases hSubmit
    exact hSession.shows.reviewed

end Session

namespace PageRequest

variable {name : String}
variable {reply : Except FormError Reply}
variable {form : Form}
variable {opening calls : List Call}

/-
  A page to approve that is open sends no configuration but
  the one that it had when it was opened.
-/
theorem MakesOpened.sendsOnly
    (hMakes :
      (PageRequest.opening .approveReject name).MakesOpened
        reply form opening calls)
    (hOpening : opening <:+ calls) :
    Call.EachSince opening
      (fun _ call => call.SendsOnly form.reviewed) calls := by
  rcases hMakes with
    ⟨σ, service, options, state, before, after, hOnce, _,
      rfl, rfl, hCalls⟩
  have hReadOnly : ¬PageMode.approveReject.isMutable := by
    decide
  have hMode :=
    Session.hasMode_survives service.recorded hReadOnly
  have hWaiting :=
    hMode.play
      (Session.survivesTicks_of_hasMode hReadOnly
        fun _ hSession => hSession)
      (Session.hasMode_start (.opening .approveReject name)
        options ([], state))
      before
  have hOpened := (hMode.act .init).perform hWaiting
  have hLast :=
    (Session.reviews_endures service _).play
      (Session.survivesTicks_of_hasMode hReadOnly
        fun _ hSession => hSession.hasMode)
      (fun _ hGesture hInit => hOnce (hInit ▸ hGesture))
      (Session.reviews_refl hOpened)
  exact hLast.sent.of_suffix hCalls hOpening

end PageRequest

end BuildForm

------------------------------------------------------------
-- Two Pages on One Store
------------------------------------------------------------

namespace BuildForm

/- The two pages that are open at the same time. -/
inductive Client where
  | editor
  | approver
deriving DecidableEq, Repr

/-
  The calls of two pages until an approval was submitted, some
  time after an edit had been accepted: in the order in which
  the store answered them, the latest one first.
-/
structure Interleaving where
  earlier : List (Client × Call)
  edited : Submission
  between : List (Client × Call)
  approval : Submission
  outcome : Except ServiceError Unit

namespace Interleaving

/- The calls until the edit was accepted. -/
def saving (calls : Interleaving) : List (Client × Call) :=
  (.editor, ⟨.submit calls.edited, .ok ()⟩) :: calls.earlier

/- All calls, the approval last. -/
def trace (calls : Interleaving) : List (Client × Call) :=
  (.approver, ⟨.submit calls.approval, calls.outcome⟩) ::
    (calls.between ++ calls.saving)

theorem ofClient_editor (calls : Interleaving) :
    Call.ofClient .editor calls.trace =
      Call.ofClient .editor calls.between ++
        ⟨.submit calls.edited, .ok ()⟩ ::
          Call.ofClient .editor calls.earlier := by
  unfold trace saving
  rw [Call.ofClient_cons_other (by decide),
    Call.ofClient_append, Call.ofClient_cons_self]

theorem ofClient_approver (calls : Interleaving) :
    Call.ofClient .approver calls.trace =
      ⟨.submit calls.approval, calls.outcome⟩ ::
        (Call.ofClient .approver calls.between ++
          Call.ofClient .approver calls.earlier) := by
  unfold trace saving
  rw [Call.ofClient_cons_self, Call.ofClient_append,
    Call.ofClient_cons_other (by decide)]

end Interleaving

/-
  A page to edit and a page to approve the same configuration
  of one store. Before its approval the page to approve had
  opened, for the last time with a reply and a form.
-/
structure Race
    (directory : Directory)
    (users : Client → String)
    (name : String) extends Interleaving where
  first : Tree
  final : Tree
  reply : Except FormError Reply
  form : Form
  opening : List Call
  isEdit : edited.formType = .edit
  isApproval : approval.formType = .approved
  served : directory.Served users first toInterleaving.trace final
  editor :
    (PageRequest.opening .edit name).Makes
      (Call.ofClient .editor toInterleaving.trace)
  approver :
    (PageRequest.opening .approveReject name).MakesOpened
      reply form opening
      (Call.ofClient .approver toInterleaving.trace)
  opened :
    opening <:+
      Call.ofClient .approver between ++
        Call.ofClient .approver earlier

namespace Race

variable {directory : Directory}
variable {users : Client → String}
variable {name : String}

/- The edit and the approval are the first of their pages. -/
theorem between_unaccepted
    (race : Race directory users name) :
    ∀ entry ∈ race.between, entry.2.isAccepted = false := by
  rintro ⟨client, call⟩ hEntry
  have hCall := Call.mem_ofClient hEntry
  cases client with
  | editor =>
      have hEnd := race.editor.endAtAccepted
      rw [Interleaving.ofClient_editor] at hEnd
      exact hEnd.unaccepted_after rfl call hCall
  | approver =>
      have hEnd := race.approver.makes.endAtAccepted
      rw [Interleaving.ofClient_approver] at hEnd
      apply hEnd.unaccepted_before rfl
      exact List.mem_append_left _ hCall

/- What was saved is there when the approval comes. -/
theorem exists_saved (race : Race directory users name) :
    ∃ saved,
      directory.Served users race.first race.saving saved ∧
        Directory.submit
            { directory with user := users .approver } saved
            race.approval =
          (race.outcome, race.final) := by
  rcases race.served.exists_before with
    ⟨saved, hBefore, hCall⟩
  exact
    ⟨saved, hBefore.of_unaccepted race.between_unaccepted,
      hCall⟩

/- The approval has what its page showed when it was opened. -/
theorem accepted_approval (race : Race directory users name) :
    race.approval.accepted =
      { race.form.reviewed with standing := .approved } := by
  have hTrace := race.ofClient_approver
  have hOpening :
      race.opening <:+
        Call.ofClient .approver race.trace := by
    rw [hTrace]
    exact race.opened.trans (List.suffix_cons _ _)
  have hSends := race.approver.sendsOnly hOpening
  have hApproval :=
    hSends.each [] _ _ hTrace race.opened race.approval rfl
  rw [← hApproval]
  rfl

end Race

end BuildForm

------------------------------------------------------------
-- Edits and Approvals in a Store
------------------------------------------------------------

namespace BuildForm

namespace Directory

variable {directory : Directory}

/- An edit that succeeds stores its record. -/
theorem submit_edited
    {tree after : Tree}
    {edited : Submission}
    (hType : edited.formType = .edit)
    (hSubmit : directory.submit tree edited = (.ok (), after)) :
    ∃ creator,
      directory.store tree [edited.configuration.projectName]
          { edited.configuration with
            standing := .updated
            creator
            rejectionReason := "" } =
        .ok after := by
  rcases exists_apply_of_submit hSubmit with
    ⟨previous, update, hUpdate, hApply⟩
  unfold Directory.update at hUpdate
  rw [hType] at hUpdate
  cases previous with
  | none => cases hUpdate
  | some before =>
      cases hUpdate
      rw [apply_of_none rfl] at hApply
      split at hApply
      · cases hApply
      · rename_i changed hStore
        cases hApply
        exact ⟨before.creator, hStore⟩

/- Where there is a record, an edit of it is taken. -/
theorem exists_submit_edited
    {tree : Tree}
    {edited : Submission}
    (hType : edited.formType = .edit)
    (hName :
      Rule.isProjectName edited.configuration.projectName)
    {before : Configuration}
    (hLive :
      directory.live? tree edited.configuration.projectName =
        .ok (some before)) :
    ∃ saved, directory.submit tree edited = (.ok (), saved) := by
  rcases live?_eq_some hLive with ⟨location, hFind⟩
  rcases exists_store_of_find? directory hFind
      { edited.configuration with
        standing := .updated
        creator := before.creator
        rejectionReason := "" } with
    ⟨saved, hStore⟩
  refine ⟨saved, ?_⟩
  rw [submit_of_live? directory tree hName hLive]
  unfold Directory.update
  rw [hType]
  dsimp only
  rw [apply_of_none rfl, hStore]

/- Where there are a record and a copy, so is an approval. -/
theorem exists_submit_approved
    {tree : Tree}
    {approval : Submission}
    (hType : approval.formType = .approved)
    (hName :
      Rule.isProjectName approval.configuration.projectName)
    {before : Configuration}
    (hLive :
      directory.live? tree approval.configuration.projectName =
        .ok (some before))
    {location : Location}
    (hCopy :
      find? tree
          [approval.configuration.projectName, approvedFolder]
          configStem =
        some location) :
    ∃ final,
      directory.submit tree approval = (.ok (), final) := by
  rcases live?_eq_some hLive with ⟨found, hFind⟩
  rcases exists_store_of_find? directory hCopy
      approval.accepted with
    ⟨copied, hStore⟩
  rcases
      apply_of_copy ⟨approval.accepted, some approval.accepted⟩
        rfl hFind hStore with
    ⟨final, _, hApply⟩
  refine ⟨final, ?_⟩
  rw [submit_of_live? directory tree hName hLive]
  unfold Directory.update
  rw [hType]
  exact hApply

end Directory

end BuildForm

------------------------------------------------------------
-- An Approval that Comes Late
------------------------------------------------------------

namespace BuildForm

open Session (start step play)

/- A store as a client sees it whose submissions are taken. -/
def Directory.accepting (directory : Directory) : Service Tree
  | .submit _, tree => (.ok (), tree)
  | request, tree => directory.service request tree

namespace Race

namespace Late

def store : Directory := { root := "store" }

def users : Client → String :=
  fun _ => store.user

/- A configuration that was approved before. -/
def first : Tree :=
  let document : Tree :=
    .file (.text
      ("\x7b\"projectName\": \"core\"," ++
        "\"projectToBuild\": [[\".\"," ++
        "\"https://host/core.git\", \"\"," ++
        "\"build.bat\", [\"bin\"], []," ++
        "null, []]]\x7d"))
  .directory
    [("core", .directory
      [("config.json", document),
        ("diff", .directory [("config.json", document)])])]

def stored : Configuration :=
  { projectName := "core"
    views :=
      [{ localDirectoryPath := "."
         projectUrl := "https://host/core.git"
         fileToBuild := "build.bat"
         artifacts := ["bin"] }] }

/- The configuration as it is shown on a page. -/
def shown : Configuration :=
  { stored with
    buildOnCommitTrigger := some true
    email := some ""
    cleanWorkspace := some true }

def submission
    (formType : FormType)
    (configuration : Configuration) : Submission :=
  { formType
    rejectionReason := ""
    formResult := some .other
    configuration
    hiddenFields :=
      Table.ofList
        [("build_machine_configuration", ""),
          ("projectToBuild_0/artifacts", "bin;"),
          ("projectToBuild_0/versionFiles", "")] }

/- The edit gives the configuration a schedule. -/
def edited : Submission :=
  submission .edit
    { shown with pollScmTrigger := some "H 3 * * *" }

def approval : Submission :=
  submission .approved shown

/- What a page asks when it opens, the last request first. -/
def openingRequests : List Request :=
  [.isAdministrator, .deletedViews "core", .approved "core",
    .configuration "core", .users "core", .views "core"]

def editor : Session (List Call × Tree) :=
  play store.service.recorded
    (start (.opening .edit "core") {} ([], first))
    [.act .init,
      .act (.edit .pollScmTrigger "H 3 * * *"),
      .act .submit]

def approver :
    Except FormError Reply × Session (List Call × Tree) :=
  step store.accepting.recorded
    (start (.opening .approveReject "core") {} ([], first))
    .init

/- The page to approve opens first and is submitted last. -/
def calls : Interleaving where
  earlier :=
    (Request.judgeTrigger "H 3 * * *" :: openingRequests).map
        (store.asked users first .editor) ++
      openingRequests.map (store.asked users first .approver)
  edited := edited
  between := []
  approval := approval
  outcome := .ok ()

theorem editor_makes :
    (PageRequest.opening .edit "core").Makes
      (Call.ofClient .editor calls.trace) := by
  have hCalls :
      Call.ofClient .editor calls.trace = editor.state.1 := by
    decide +kernel
  rw [hCalls]
  unfold editor
  exact PageRequest.makes_play store.service _ {} first _

theorem approver_makes :
    (PageRequest.opening .approveReject "core").MakesOpened
      approver.1 approver.2.page.form approver.2.state.1
      (Call.ofClient .approver calls.trace) := by
  have hCalls :
      Call.ofClient .approver calls.trace =
        (play store.accepting.recorded approver.2
          [.act .submit]).state.1 := by
    decide +kernel
  rw [hCalls]
  unfold approver
  exact
    PageRequest.makesOpened_play store.accepting _ {} first
      (by decide)

theorem opening_calls :
    Call.ofClient .approver calls.earlier =
      approver.2.state.1 := by
  decide +kernel

theorem approver_opens :
    approver.1 = .ok .done ∧
      approver.2.page.form.reviewed = shown := by
  decide +kernel

theorem live?_first :
    store.live? first "core" = .ok (some stored) := by
  decide +kernel

theorem find?_first :
    Directory.find? first ["core"] Directory.configStem =
        some ⟨["core"], Directory.configStem, .json⟩ ∧
      Directory.find? first ["core", Directory.approvedFolder]
          Directory.configStem =
        some
          ⟨["core", Directory.approvedFolder],
            Directory.configStem, .json⟩ := by
  decide +kernel

/- Both pages ask about the configuration as it is at first. -/
theorem served_earlier :
    store.Served users first calls.earlier first := by
  have hQueries :
      ∀ request ∈
          Request.judgeTrigger "H 3 * * *" :: openingRequests,
        request.IsQuery := by
    simp [openingRequests, Request.IsQuery]
  have hStart : store.Served users first [] first := .start
  have hOpened :=
    hStart.queries .approver openingRequests
      fun _ hRequest =>
        hQueries _ (List.mem_cons_of_mem _ hRequest)
  rw [List.append_nil] at hOpened
  exact hOpened.queries .editor _ hQueries

/- Both submissions are taken. -/
theorem exists_taken :
    ∃ saved final,
      store.submit first edited = (.ok (), saved) ∧
        store.submit saved approval = (.ok (), final) ∧
        Directory.find? final ["core"] Directory.configStem =
          some ⟨["core"], Directory.configStem, .json⟩ := by
  have hName : Rule.isProjectName "core" := by decide
  rcases find?_first with ⟨hLiveFirst, hCopyFirst⟩
  rcases Directory.exists_submit_edited
      (rfl : edited.formType = .edit) hName live?_first with
    ⟨saved, hEdit⟩
  have hLiveSaved :=
    Directory.find?_submit_of_find? hEdit hLiveFirst
  have hCopySaved :=
    Directory.find?_submit_of_find? hEdit hCopyFirst
  -- The record that was just saved is read for the approval.
  rcases Directory.submit_edited rfl hEdit with
    ⟨creator, hStore⟩
  have hSaved :
      Directory.IsLive saved
        { edited.configuration with
          standing := .updated
          creator
          rejectionReason := "" } :=
    Directory.isLive_of_store hStore
  rcases Directory.exists_submit_approved
      (rfl : approval.formType = .approved) hName
      (hSaved.live? hName hLiveSaved store) hCopySaved with
    ⟨final, hApproval⟩
  exact
    ⟨saved, final, hEdit, hApproval,
      Directory.find?_submit_of_find? hApproval hLiveSaved⟩

theorem exists_race :
    ∃ race : Race store users "core",
      race.toInterleaving = calls ∧
        race.opening = Call.ofClient .approver calls.earlier ∧
        race.reply = .ok .done ∧
        race.form.reviewed = shown ∧
        Directory.find? race.final ["core"]
            Directory.configStem =
          some ⟨["core"], Directory.configStem, .json⟩ := by
  rcases exists_taken with
    ⟨saved, final, hEdit, hApproval, hFind⟩
  have hMakes := approver_makes
  have hOpening := opening_calls
  rcases approver_opens with ⟨hReply, hShown⟩
  -- What matters about the open page is known by now.
  generalize approver = opened
    at hMakes hOpening hReply hShown
  let race : Race store users "core" :=
    { toInterleaving := calls
      first
      final
      reply := opened.1
      form := opened.2.page.form
      opening := opened.2.state.1
      isEdit := rfl
      isApproval := rfl
      served :=
        (served_earlier.submitted .editor hEdit).submitted
          .approver hApproval
      editor := editor_makes
      approver := hMakes
      opened := by
        rw [← hOpening]
        exact List.suffix_append _ _ }
  exact ⟨race, rfl, hOpening.symm, hReply, hShown, hFind⟩

end Late

end Race

end BuildForm

------------------------------------------------------------
-- The Last Writer
------------------------------------------------------------

namespace BuildForm

namespace Race

variable {directory : Directory}
variable {users : Client → String}
variable {name : String}

/- The tree that was left by the edit has its record. -/
theorem exists_isLive_edited
    (race : Race directory users name)
    {saved : Tree}
    (hSaved :
      directory.Served users race.first race.saving saved) :
    ∃ creator,
      Directory.IsLive saved
        { race.edited.configuration with
          standing := .updated
          creator
          rejectionReason := "" } := by
  rcases hSaved.exists_before with ⟨tree, _, hEdit⟩
  rcases Directory.submit_edited race.isEdit hEdit with
    ⟨creator, hStore⟩
  exact ⟨creator, Directory.isLive_of_store hStore⟩

/- An approval that was taken leaves what was reviewed. -/
theorem isLive_approved
    (race : Race directory users name)
    (hTaken : race.outcome = .ok ()) :
    Directory.IsLive race.final
      { race.form.reviewed with standing := .approved } := by
  rcases race.exists_saved with ⟨saved, _, hApproval⟩
  rw [hTaken] at hApproval
  rcases Directory.submit_approved race.isApproval hApproval
    with ⟨copied, _, hStore⟩
  rw [← race.accepted_approval]
  exact Directory.isLive_of_store hStore

/- One that was refused leaves everything as it was. -/
theorem final_of_refused
    (race : Race directory users name)
    {error : ServiceError}
    (hRefused : race.outcome = .error error)
    {saved : Tree}
    (hApproval :
      Directory.submit
          { directory with user := users .approver } saved
          race.approval =
        (race.outcome, race.final)) :
    race.final = saved := by
  have hEffect :=
    Directory.submit_effect
      { directory with user := users .approver } saved
      race.approval
  rw [hApproval, hRefused] at hEffect
  cases hEffect
  rfl

end Race

namespace Directory

variable {directory : Directory}
variable {users : Client → String}
variable {name : String}

/-
  Whatever the two pages do and in whichever order the store
  answers them: the record of the edit was saved and, unless
  the approval is refused, the live record afterwards is the
  one that the page to approve had when it was last opened.
-/
theorem approval_overwrites_edit
    (race : Race directory users name) :
    ∃ saved creator,
      directory.Served users race.first race.saving saved ∧
        IsLive saved
          { race.edited.configuration with
            standing := .updated
            creator
            rejectionReason := "" } ∧
        match race.outcome with
        | .error _ => race.final = saved
        | .ok _ =>
            IsLive race.final
              { race.form.reviewed with
                standing := .approved } := by
  rcases race.exists_saved with ⟨saved, hSaved, hApproval⟩
  rcases race.exists_isLive_edited hSaved with
    ⟨creator, hEdited⟩
  refine ⟨saved, creator, hSaved, hEdited, ?_⟩
  cases hOutcome : race.outcome with
  | error error => exact race.final_of_refused hOutcome hApproval
  | ok => exact race.isLive_approved hOutcome

/- A schedule that was saved and then overwritten. -/
theorem approval_overwrites_edit_schedule :
    ∃ race : Race Race.Late.store Race.Late.users "core",
      race.toInterleaving = Race.Late.calls ∧
        race.reply = .ok .done ∧
        race.form.reviewed = Race.Late.shown ∧
        ∃ saved creator,
          Race.Late.store.Served Race.Late.users race.first
              race.saving saved ∧
            IsLive saved
              { race.edited.configuration with
                standing := .updated
                creator
                rejectionReason := "" } ∧
            match race.outcome with
            | .error _ => race.final = saved
            | .ok _ =>
                IsLive race.final
                  { race.form.reviewed with
                    standing := .approved } := by
  rcases Race.Late.exists_race with
    ⟨race, hCalls, _, hReply, hShown, _⟩
  exact
    ⟨race, hCalls, hReply, hShown,
      approval_overwrites_edit race⟩

/-
  The edit is not kept: its schedule is gone after a page that
  had opened before it was approved.
-/
theorem not_approval_keeps_edit :
    ¬∀ (directory : Directory) (users : Client → String)
        (name : String) (race : Race directory users name),
      race.opening <:+ Call.ofClient .approver race.earlier →
      race.reply = .ok .done →
      race.outcome.isOk = false ∨
        ∃ standing reason creator,
          IsLive race.final
            { race.edited.configuration with
              standing
              rejectionReason := reason
              creator } := by
  intro hKeeps
  rcases Race.Late.exists_race with
    ⟨race, hCalls, hOpening, hReply, hShown, hFind⟩
  have hOpened :
      race.opening <:+ Call.ofClient .approver race.earlier := by
    rw [hOpening, hCalls]
  have hEdited : race.edited = Race.Late.edited := by
    rw [hCalls]
    rfl
  have hOutcome : race.outcome = .ok () := by
    rw [hCalls]
    rfl
  have hName : Rule.isProjectName "core" := by decide
  have hApproved := race.isLive_approved hOutcome
  rw [hShown] at hApproved
  have hLive :=
    hApproved.live? hName hFind Race.Late.store
  rcases hKeeps _ _ _ race hOpened hReply with
    hRefused | hKept
  · rw [hOutcome] at hRefused
    cases hRefused
  · rcases hKept with ⟨standing, reason, creator, hSame⟩
    rw [hEdited] at hSame
    have hLost := hSame.live? hName hFind Race.Late.store
    have hBoth := hLive.symm.trans hLost
    cases hBoth

end Directory

end BuildForm
