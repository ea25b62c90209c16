import BuildForm.Proofs.Page.Outcomes
import BuildForm.Proofs.Page.Overwriting
import BuildForm.Proofs.Service.Naming

/-
  One creator per name.

  A page looks the name of a new configuration up before it
  sends it, and both calls are answered at different times.
  The store looks again when it is sent, so that of all pages
  that try to create a configuration at most one succeeds, and
  the others fail without a trace.

  Main declarations:
    * `Page.Tries`
    * `Session.Belongs.came`
    * `PageRequest.MakesAttempt`
    * `Exchange`
    * `Exchange.Attempt`
    * `Exchange.one_creator_per_name`
-/

------------------------------------------------------------
-- Creating a Configuration
------------------------------------------------------------

namespace BuildForm

namespace Call

/-
  The calls go on from earlier ones, and all since had nothing
  but schedules judged.
-/
def JudgedSince (before calls : List Call) : Prop :=
  EachSince before
    (fun _ call => call.request.isJudgment = true) calls

/- The calls since are listed before the earlier ones. -/
theorem EachSince.exists_eq
    {before calls : List Call}
    {P : List Call → Call → Prop}
    (hSince : EachSince before P calls) :
    ∃ since : List Call,
      calls = since ++ before ∧
        ∀ call ∈ since, ∃ earlier, P earlier call := by
  rcases hSince.goesOn with ⟨since, rfl⟩
  refine ⟨since, rfl, ?_⟩
  intro call hCall
  rcases List.append_of_mem hCall with ⟨later, earlier, rfl⟩
  refine ⟨earlier ++ before, ?_⟩
  apply hSince.each later call (earlier ++ before) (by simp)
  exact List.suffix_append earlier before

theorem JudgedSince.isJudgment
    {before since : List Call}
    (hJudged : JudgedSince before (since ++ before))
    {call : Call}
    (hCall : call ∈ since) :
    call.request.isJudgment = true := by
  rcases hJudged.exists_eq with ⟨judged, hSame, hEach⟩
  rw [List.append_cancel_right hSame] at hCall
  rcases hEach call hCall with ⟨_, hJudgment⟩
  exact hJudgment

end Call

namespace Page

/-
  What comes of a new configuration of a name whose form has
  passed its check: the calls that are made, from the one that
  looks the name up, and the result.
-/
inductive Tries (name : String) :
    List Call → Except FormError Submission → Prop where
  | unknown (error : ServiceError) :
      Tries name [⟨.isNameFree name, .error error⟩]
        (.error (.service error))
  | conflict :
      Tries name [⟨.isNameFree name, .ok false⟩]
        (.error (.nameConflict name))
  | sent
      (submission : Submission)
      (outcome : Except ServiceError Unit) :
      submission.formType = .create →
      submission.configuration.projectName = name →
      Tries name
        [⟨.submit submission, outcome⟩,
          ⟨.isNameFree name, .ok true⟩]
        ((outcome.mapError .service).map fun _ => submission)

/- No name but that of the configuration is looked up. -/
theorem Tries.name_of_mem
    {name other : String}
    {made : List Call}
    {result : Except FormError Submission}
    (hTries : Tries other made result)
    {answer : Except ServiceError Bool}
    (hAsked : ⟨.isNameFree name, answer⟩ ∈ made) :
    name = other := by
  cases hTries with
  | unknown error =>
      cases List.mem_singleton.mp hAsked
      rfl
  | conflict =>
      cases List.mem_singleton.mp hAsked
      rfl
  | sent submission outcome _ _ =>
      rcases List.mem_cons.mp hAsked with hCall | hCall
      · cases hCall
      · cases List.mem_singleton.mp hCall
        rfl

end Page

namespace Session

variable {σ : Type}

/-
  What a session came to in which nothing or a configuration
  of a name was tried to be created: a result, and the calls
  that were made after some that had schedules judged.
-/
inductive Came
    (before : List Call) :
    Except FormError Submission ×
        Session (List Call × σ) →
      Prop where
  | stopped
      (error : FormError)
      (session : Session (List Call × σ)) :
      Call.JudgedSince before session.state.1 →
      Came before (.error error, session)
  | tried
      (name : String)
      (judged made : List Call)
      (result : Except FormError Submission)
      (session : Session (List Call × σ)) :
      Call.JudgedSince before judged →
      Page.Tries name made result →
      session.state.1 = made ++ judged →
      session.page.submitted = result.isOk →
      Came before (result, session)

variable {request : PageRequest}
variable {session : Session (List Call × σ)}

/- A new configuration that is sent is sent as one. -/
theorem Belongs.tries_sent
    (service : Service σ)
    (hBelongs : session.Belongs request)
    (hMode : request.mode = .create)
    {before judged : List Call}
    (hJudged : Call.JudgedSince before judged)
    (hCalls :
      session.state.1 =
        ⟨.isNameFree session.page.form.projectName.value,
            .ok true⟩ ::
          judged) :
    Came before
      ((Page.sendWith service.recorded .create).perform
        session) := by
  have hType : session.page.form.formType = .create := by
    rw [hBelongs.formType (by simp [hMode]), hMode]
    rfl
  rw [Page.perform_sendWith, Page.perform_send]
  dsimp only
  generalize hSent :
    session.withForm
      { session.page.form with formResult := some .create } =
    sent
  have hForm : sent.page.form.formType = .create := by
    rw [← hSent]
    exact hType
  have hName :
      sent.page.form.projectName =
        session.page.form.projectName := by
    rw [← hSent]
    rfl
  have hState : sent.state = session.state := by
    rw [← hSent]
    rfl
  rcases hCall :
      service.recorded (.submit sent.page.form.toSubmission)
        sent.state with
    ⟨outcome, state⟩
  have hAfter := Service.calls_of_recorded hCall
  rw [hState, hCalls] at hAfter
  have hTries :
      Page.Tries session.page.form.projectName.value
        [⟨.submit sent.page.form.toSubmission, outcome⟩,
          ⟨.isNameFree session.page.form.projectName.value,
            .ok true⟩]
        ((outcome.mapError .service).map fun _ =>
          sent.page.form.toSubmission) := by
    apply Page.Tries.sent _ _ hForm
    change sent.page.form.projectName.value = _
    rw [hName]
  cases outcome <;>
    exact .tried _ judged _ _ _ hJudged hTries hAfter rfl

/- The name is looked up first, and decides what is sent. -/
theorem Belongs.came_new
    (service : Service σ)
    (hBelongs : session.Belongs request)
    (hMode : request.mode = .create)
    (hUnsent : session.page.submitted = false)
    {before : List Call}
    (hJudged : Call.JudgedSince before session.state.1) :
    Came before
      ((Page.sendChecked service.recorded
        .nameCheckRequired).perform session) := by
  rw [Page.perform_sendNew]
  dsimp only
  rcases hCall :
      service.recorded
        (.isNameFree session.page.form.projectName.value)
        session.state with
    ⟨answer, state⟩
  have hCalls := Service.calls_of_recorded hCall
  cases answer with
  | error error =>
      exact
        .tried _ _ _ _ _ hJudged (.unknown error) hCalls hUnsent
  | ok isFree =>
      cases isFree with
      | false =>
          exact .tried _ _ _ _ _ hJudged .conflict hCalls hUnsent
      | true =>
          have hAsked := hBelongs.call (by simp) hCall
          have hStep :
              Form.Step session.page.form.mode session.page.form
                { session.page.form with formMessage := none } :=
            .message session.page.form none
          exact
            Belongs.tries_sent service
              (hAsked.withForm (Form.retains_step hStep)) hMode
              hJudged hCalls

/- Up to the check nothing but schedules is judged. -/
theorem triple_prepare_belongs
    (service : Service σ)
    (request : PageRequest)
    (before : List Call) :
    PageM.Triple
      (fun session : Session (List Call × σ) =>
        session.Belongs request ∧
          Call.JudgedSince before session.state.1)
      (Page.prepare service.recorded)
      (fun _ session =>
        (session.Belongs request ∧
            Call.JudgedSince before session.state.1) ∧
          session.page.submitted = false)
      (fun _ session =>
        Call.JudgedSince before session.state.1) := by
  apply Page.prepare_spec
  · exact fun _ hSession _ => hSession.2
  · rintro session path trigger answer state
      ⟨hBelongs, hJudged⟩ hTrigger hCall
    constructor
    · have hAsked := hBelongs.call (by simp) hCall
      exact
        hAsked.withForm
          (session.page.form.retains_mapTrigger path _)
    · change Call.JudgedSince _ state.1
      rw [Service.calls_of_recorded hCall]
      exact hJudged.cons rfl
  · rintro session path trigger error state
      ⟨hBelongs, hJudged⟩ _ hTrigger hCall
    change Call.JudgedSince _ state.1
    rw [Service.calls_of_recorded hCall]
    exact hJudged.cons rfl

/-
  To submit a new configuration either stops at a verdict or
  at the check, or its name is looked up and it may be sent.
-/
theorem Belongs.came
    (service : Service σ)
    (hBelongs : session.Belongs request)
    (hMode : request.mode = .create) :
    Came session.state.1
      ((Page.submit service.recorded).perform session) := by
  have hStart :=
    triple_prepare_belongs service request session.state.1
      session ⟨hBelongs, .refl session.state.1 _⟩
  rw [Page.perform_submit]
  rcases hPerform :
      (Page.prepare service.recorded).perform session with
    ⟨result, after⟩
  rw [hPerform] at hStart
  cases result with
  | error error => exact .stopped error after hStart
  | ok =>
      rcases hStart with ⟨⟨hAfter, hJudged⟩, hUnsent⟩
      dsimp only
      have hStep :
          Form.Step after.page.form.mode after.page.form
            after.page.form.check.2 :=
        .check after.page.form
      have hChecked :=
        hAfter.withForm (Form.retains_step hStep)
      rcases hCheck : after.page.form.check with
        ⟨outcome, form⟩
      rw [hCheck] at hChecked
      have hClears := Form.clears_of_check hCheck
      have hKind : form.mode = .create :=
        hChecked.mode.trans hMode
      dsimp only at hChecked ⊢
      cases outcome with
      | blocked error => exact .stopped error _ hJudged
      | nameCheckRequired =>
          exact hChecked.came_new service hMode hUnsent hJudged
      | ready =>
          rcases hClears.2 with hEdit | ⟨hApprove, _⟩
          · rw [hKind] at hEdit
            cases hEdit
          · rw [hKind] at hApprove
            cases hApprove

/- A page for new configurations submits nothing else. -/
theorem Belongs.submits_new
    (service : Service σ)
    (hProper : request.IsProper)
    (hMode : request.mode = .create)
    (hBelongs : session.Belongs request)
    (hNew :
      ∀ call ∈ session.state.1, ∀ submission,
        call.request = .submit submission →
        submission.formType = .create)
    (gestures : List Gesture) :
    ∀ call ∈ (play service.recorded session gestures).state.1,
      ∀ submission, call.request = .submit submission →
      submission.formType = .create := by
  induction gestures generalizing session with
  | nil => exact hNew
  | cons gesture gestures ih =>
      have hAfter :=
        abides_respond service hProper hBelongs gesture
      apply ih hAfter.toBelongs
      intro call hCall submission hSubmit
      rcases hAfter.calls.exists_eq with ⟨since, hCalls, hEach⟩
      rw [hCalls] at hCall
      rcases List.mem_append.mp hCall with hSince | hBefore
      · rcases hEach call hSince with ⟨earlier, hMay⟩
        have hSubmits := hMay.submits submission hSubmit
        rw [hMode] at hSubmits
        cases hSubmits with
        | create hType _ _ => exact hType
      · exact hNew call hBefore submission hSubmit

end Session

namespace PageRequest

theorem Makes.submits_new
    {request : PageRequest}
    {calls : List Call}
    (hMakes : request.Makes calls)
    (hProper : request.IsProper)
    (hMode : request.mode = .create)
    {submission : Submission}
    {outcome : Except ServiceError Unit}
    (hCall : ⟨.submit submission, outcome⟩ ∈ calls) :
    submission.formType = .create := by
  rcases hMakes with
    ⟨σ, service, options, state, gestures, hCalls⟩
  have hStart :=
    Session.belongs_start hProper options state
  apply
    hStart.submits_new service hProper hMode _ gestures
      ⟨.submit submission, outcome⟩ (hCalls.mem hCall)
      submission rfl
  simp [Session.start]

/-
  Whether a page of a request may have made the calls `made`
  when it was submitted, after the calls `earlier`, and gave
  the reply with the page after it.
-/
def MakesAttempt
    (request : PageRequest)
    (earlier made : List Call)
    (reply : Except FormError Reply)
    (page : Page) : Prop :=
  ∃ (σ : Type) (service : Service σ) (options : PageOptions)
      (state : σ) (gestures : List Gesture),
    let before :=
      Session.play service.recorded
        (Session.start request options ([], state)) gestures
    let after := Session.step service.recorded before .submit
    before.state.1 = earlier ∧
      after.2.state.1 = made ++ earlier ∧
      after.1 = reply ∧
      after.2.page = page

namespace MakesAttempt

variable {request : PageRequest}
variable {earlier made : List Call}
variable {reply : Except FormError Reply}
variable {page : Page}
variable {name : String}
variable {answer : Except ServiceError Bool}

theorem makes
    (hAttempt : request.MakesAttempt earlier made reply page) :
    request.Makes (made ++ earlier) := by
  rcases hAttempt with
    ⟨σ, service, options, state, gestures, _, hCalls, _, _⟩
  rw [← hCalls]
  refine
    ⟨σ, service, options, state, gestures ++ [.act .submit],
      ?_⟩
  unfold Session.play
  rw [List.foldl_append]
  exact List.suffix_refl _

/- The page counts as submitted if something was accepted. -/
theorem submitted_eq
    (hAttempt : request.MakesAttempt earlier made reply page) :
    page.submitted = (made ++ earlier).any Call.isAccepted := by
  rcases hAttempt with
    ⟨σ, service, options, state, gestures, _, hCalls, _, rfl⟩
  have hOnce :=
    Session.submitsOnce_play service request options state
      (gestures ++ [.act .submit])
  unfold Session.play at hOnce hCalls
  rw [List.foldl_append] at hOnce
  rw [← hCalls]
  exact hOnce.marked

/- Once its name was looked up, this is what comes of it. -/
theorem tries
    (hAttempt : request.MakesAttempt earlier made reply page)
    (hProper : request.IsProper)
    (hMode : request.mode = .create)
    (hPassed : ⟨.isNameFree name, answer⟩ ∈ made) :
    ∃ asked judged result,
      made = asked ++ judged ∧
        Page.Tries name asked result ∧
        reply =
          result.map (fun submission =>
            .submission (some submission)) ∧
        page.submitted = result.isOk := by
  rcases hAttempt with
    ⟨σ, service, options, state, gestures, hEarlier, hCalls,
      hReply, hPage⟩
  have hBelongs :=
    Session.belongs_play service hProper
      (Session.belongs_start hProper options state) gestures
  have hCame := hBelongs.came service hMode
  rw [Session.step_submit] at hCalls hReply hPage
  rw [hEarlier] at hCame
  generalize
    (Page.submit service.recorded).perform
      (Session.play service.recorded
        (Session.start request options ([], state))
        gestures) = outcome
    at hCame hCalls hReply hPage
  cases hCame with
  | stopped error session hJudged =>
      have hSession : session.state.1 = made ++ earlier := hCalls
      rw [hSession] at hJudged
      cases hJudged.isJudgment hPassed
  | tried other judged asked result session hJudged hTries
      hSession hSubmitted =>
      rcases hJudged.exists_eq with ⟨since, rfl, _⟩
      have hMade : session.state.1 = made ++ earlier := by
        rw [← hCalls]
        cases result <;> rfl
      rw [hMade, ← List.append_assoc] at hSession
      have hSame := List.append_cancel_right hSession
      subst hSame
      refine ⟨asked, since, result, rfl, ?_, ?_, ?_⟩
      · rcases List.mem_append.mp hPassed with hAsked | hSince
        · rw [hTries.name_of_mem hAsked]
          exact hTries
        · cases hJudged.isJudgment hSince
      · rw [← hReply]
        cases result <;> rfl
      · rw [← hSubmitted, ← hPage]
        cases result <;> rfl

end MakesAttempt

end PageRequest

end BuildForm

------------------------------------------------------------
-- Pages on One Store
------------------------------------------------------------

namespace BuildForm

/-
  Pages that call one store, as users of it: the calls in the
  order in which the store answered them, the latest first,
  and the tree after them. The store has documents in JSON and
  was filled by submissions before the pages were there.
-/
structure Exchange (ι : Type) [DecidableEq ι] where
  directory : Directory
  users : ι → String
  requests : ι → PageRequest
  vacant : Tree
  postings : List Posting
  trace : List (ι × Call)
  tree : Tree
  inJson : directory.format = .json
  isVacant : Directory.IsVacant vacant
  proper : ∀ client, (requests client).IsProper
  makes :
    ∀ client,
      (requests client).Makes (Call.ofClient client trace)
  served :
    directory.Served users
      (Posting.run directory.post vacant postings) trace tree

namespace Exchange

variable {ι : Type}
variable [DecidableEq ι]

/- The pages for new configurations. -/
def Creates
    (exchange : Exchange ι)
    (client : ι) : Prop :=
  (exchange.requests client).mode = .create

/- The tree that some of the calls lead to. -/
def Reaches
    (exchange : Exchange ι)
    (earlier : List (ι × Call))
    (tree : Tree) : Prop :=
  exchange.directory.Served exchange.users
    (Posting.run exchange.directory.post exchange.vacant
      exchange.postings)
    earlier tree

/-
  A page that is submitted, its last call answered after some
  older ones. The form passed its check, so that the name was
  looked up.
-/
structure Attempt
    (exchange : Exchange ι)
    (client : ι)
    (name : String) where
  later : List (ι × Call)
  last : Call
  older : List (ι × Call)
  earlier : List Call
  made : List Call
  reply : Except FormError Reply
  page : Page
  answer : Except ServiceError Bool
  splits : exchange.trace = later ++ (client, last) :: older
  calls :
    Call.ofClient client ((client, last) :: older) =
      made ++ earlier
  makes :
    (exchange.requests client).MakesAttempt earlier made reply
      page
  passed : ⟨.isNameFree name, answer⟩ ∈ made

variable {exchange : Exchange ι}
variable {client creator : ι}
variable {name : String}
variable {tree after : Tree}
variable {earlier older later : List (ι × Call)}
variable {call : Call}

theorem exists_reaches
    (hTrace : exchange.trace = later ++ earlier) :
    ∃ tree, exchange.Reaches earlier tree := by
  have hServed := exchange.served
  rw [hTrace] at hServed
  exact hServed.exists_earlier

theorem Reaches.exists_holds
    (hReaches : exchange.Reaches earlier tree) :
    ∃ ledger,
      Directory.Holds exchange.directory
        (exchange.directory.blocked exchange.vacant) tree
        ledger := by
  have hFirst :=
    (exchange.isVacant.holds exchange.directory).run
      exchange.inJson exchange.postings
  exact
    Directory.Served.exists_holds exchange.inJson hFirst
      hReaches

/- A call that had a new configuration accepted. -/
theorem not_isTaken_before
    (hCreates : exchange.Creates client)
    (hTrace :
      exchange.trace = later ++ (client, call) :: earlier)
    (hStored : call.storedName? = some name)
    (hBefore : exchange.Reaches earlier tree) :
    Rule.isProjectName name ∧
      ¬Directory.IsTaken tree name := by
  rcases Call.exists_of_storedName? hStored with
    ⟨submission, rfl, rfl⟩
  have hMember :
      ⟨.submit submission, .ok ()⟩ ∈
        Call.ofClient client exchange.trace :=
    Call.mem_ofClient (by simp [hTrace])
  have hNew :=
    (exchange.makes client).submits_new
      (exchange.proper client) hCreates hMember
  rcases exists_reaches hTrace with ⟨changed, hAfter⟩
  rcases Directory.Served.exists_before hAfter with
    ⟨before, hEarlier, hCall⟩
  rw [Directory.Served.unique hBefore hEarlier]
  rcases Reaches.exists_holds hEarlier with ⟨ledger, hHolds⟩
  exact hHolds.submit_new exchange.inJson hNew hCall

/- Of two that were accepted one would come after the other. -/
theorem not_created_twice
    (hCreates : exchange.Creates client)
    (hTrace :
      exchange.trace = later ++ (client, call) :: earlier)
    (hStored : call.storedName? = some name)
    {other : Call}
    (hOther : (creator, other) ∈ earlier) :
    other.storedName? ≠ some name := by
  intro hAgain
  have hSplit :
      exchange.trace = (later ++ [(client, call)]) ++ earlier := by
    simp [hTrace]
  rcases exists_reaches hSplit with ⟨before, hBefore⟩
  have hFree :=
    not_isTaken_before hCreates hTrace hStored hBefore
  exact
    hFree.2 (Directory.Served.isTaken hBefore hOther hAgain)

/- One that came too late is told so, and is not submitted. -/
theorem Attempt.reply_of_taken
    (hCreates : exchange.Creates client)
    (attempt : exchange.Attempt client name)
    (hName : Rule.isProjectName name)
    (hTaken :
      ∀ tree, exchange.Reaches attempt.older tree →
        Directory.IsTaken tree name) :
    (attempt.reply = .error (.nameConflict name) ∨
        attempt.reply =
          .error (.service (.refused (.nameTaken name)))) ∧
      attempt.page.submitted = false := by
  rcases attempt.makes.tries (exchange.proper client) hCreates
      attempt.passed with
    ⟨asked, judged, result, hMade, hTries, hReply, hSubmitted⟩
  rcases exists_reaches attempt.splits with ⟨after, hAfter⟩
  rcases Directory.Served.exists_before hAfter with
    ⟨before, hBefore, hCall⟩
  have hThere := hTaken before hBefore
  have hCalls := attempt.calls
  rw [Call.ofClient_cons_self, hMade] at hCalls
  generalize attempt.last = last at hCalls hCall
  cases hTries with
  | unknown error =>
      -- The store knows about every project name.
      cases (List.cons.inj hCalls).1
      have hKnown :
          Directory.answer
              { exchange.directory with
                user := exchange.users client }
              before (.isNameFree name) =
            .error error :=
        congrArg Prod.fst hCall
      rw [Directory.answer_isNameFree _ hName] at hKnown
      cases hKnown
  | conflict => exact ⟨Or.inl hReply, hSubmitted⟩
  | sent submission outcome hNew hSame =>
      cases (List.cons.inj hCalls).1
      rcases Reaches.exists_holds hBefore with ⟨ledger, hHolds⟩
      have hRefused :=
        hHolds.submit_new exchange.inJson hNew hCall
      dsimp only at hRefused
      rw [hSame] at hRefused
      cases outcome with
      | error error =>
          rw [hRefused hName hThere] at hReply hSubmitted
          exact ⟨Or.inr hReply, hSubmitted⟩
      | ok => exact absurd hThere hRefused.2

/- A page that is not submitted has changed nothing. -/
theorem Attempt.unchanged_of_unsubmitted
    (attempt : exchange.Attempt client name)
    (hUnsent : attempt.page.submitted = false)
    (hTrace :
      (client, attempt.last) :: attempt.older =
        later ++ (client, call) :: earlier)
    (hBefore : exchange.Reaches earlier tree)
    (hAfter :
      exchange.Reaches ((client, call) :: earlier) after) :
    after = tree := by
  have hCall : call.isAccepted = false := by
    have hMarked := attempt.makes.submitted_eq
    rw [hUnsent, ← attempt.calls, hTrace] at hMarked
    have hMember :
        call ∈
          Call.ofClient client
            (later ++ (client, call) :: earlier) :=
      Call.mem_ofClient (by simp)
    have hNone := List.any_eq_false.mp hMarked.symm
    simpa using hNone call hMember
  rcases Directory.Served.exists_before hAfter with
    ⟨before, hEarlier, hServed⟩
  rw [Directory.Served.unique hBefore hEarlier]
  exact Directory.service_of_unaccepted hCall hServed

/-
  Whatever the pages do and in whichever order the store
  answers them: at most one page has a new configuration of a
  name accepted, once and while the name was not taken. Every
  attempt whose last call comes after that ends in a conflict
  or is refused, does not count as submitted, and its page has
  changed no file up to then.
-/
theorem one_creator_per_name
    (exchange : Exchange ι)
    (name : String)
    (creator : ι)
    (creation : Call)
    (later earlier : List (ι × Call))
    (hCreates : exchange.Creates creator)
    (hTrace :
      exchange.trace =
        later ++ (creator, creation) :: earlier)
    (hStored : creation.storedName? = some name) :
    (∀ other ∈ later ++ earlier, exchange.Creates other.1 →
        other.2.storedName? ≠ some name) ∧
      (∀ tree, exchange.Reaches earlier tree →
        ¬Directory.IsTaken tree name) ∧
      ∀ client (attempt : exchange.Attempt client name),
        exchange.Creates client →
        (creator, creation) ∈ attempt.older →
        (attempt.reply = .error (.nameConflict name) ∨
            attempt.reply =
              .error (.service (.refused (.nameTaken name)))) ∧
          attempt.page.submitted = false ∧
          ∀ newer call older tree after,
            (client, attempt.last) :: attempt.older =
              newer ++ (client, call) :: older →
            exchange.Reaches older tree →
            exchange.Reaches ((client, call) :: older) after →
            after = tree := by
  have hFree :
      ∀ tree, exchange.Reaches earlier tree →
        Rule.isProjectName name ∧
          ¬Directory.IsTaken tree name :=
    fun _ => not_isTaken_before hCreates hTrace hStored
  refine ⟨?_, fun tree hTree => (hFree tree hTree).2, ?_⟩
  · rintro ⟨other, call⟩ hOther hOtherCreates
    rcases List.mem_append.mp hOther with hLater | hEarlier
    · intro hAgain
      rcases List.append_of_mem hLater with
        ⟨newer, between, rfl⟩
      have hSplit :
          exchange.trace =
            newer ++ (other, call) ::
              (between ++ (creator, creation) :: earlier) := by
        simp [hTrace]
      have hEarlier :
          (creator, creation) ∈
            between ++ (creator, creation) :: earlier := by
        simp
      exact
        not_created_twice hOtherCreates hSplit hAgain hEarlier
          hStored
    · exact not_created_twice hCreates hTrace hStored hEarlier
  · intro client attempt hClient hAfter
    rcases exists_reaches hTrace with ⟨changed, hChanged⟩
    rcases Directory.Served.exists_before hChanged with
      ⟨before, hBefore, _⟩
    rcases attempt.reply_of_taken hClient
        (hFree before hBefore).1
        (fun tree hTree =>
          Directory.Served.isTaken hTree hAfter hStored) with
      ⟨hReply, hUnsent⟩
    refine ⟨hReply, hUnsent, ?_⟩
    intro newer call older tree after hSplit hTree hCall
    exact
      attempt.unchanged_of_unsubmitted hUnsent hSplit hTree
        hCall

end Exchange

end BuildForm

------------------------------------------------------------
-- Two Pages for One Name
------------------------------------------------------------

namespace BuildForm

open Session (start step play)

/- The page that creates a configuration, and one too late. -/
inductive Rival where
  | early
  | late
deriving DecidableEq, Repr

/- A store as a client sees it whose submissions it refuses. -/
def Directory.refusing
    (directory : Directory)
    (refusal : Refusal) : Service Tree
  | .submit _, tree => (.error (.refused refusal), tree)
  | request, tree => directory.service request tree

namespace Rival

def store : Directory := { root := "store" }

def users : Rival → String :=
  fun _ => store.user

def submission : Submission where
  formType := .create
  rejectionReason := ""
  formResult := some .create
  configuration :=
    { projectName := "core"
      pollScmTrigger := some "H * * * *"
      buildOnCommitTrigger := some true
      email := some ""
      cleanWorkspace := some true
      views :=
        [{ localDirectoryPath := "."
           projectUrl := "https://host/core.git"
           fileToBuild := "build.bat"
           builders := [{}] }] }
  hiddenFields :=
    Table.ofList
      [("build_machine_configuration", ""),
        ("projectToBuild_0/artifacts", ""),
        ("projectToBuild_0/versionFiles", "")]

/- What a page asks when it opens, the last request first. -/
def openingRequests : List Request :=
  [.isAdministrator, .freshBuilder, .freshView, .newDefaults]

/- What it asks when it is submitted, before it sends. -/
def submitRequests : List Request :=
  [.isNameFree "core", .judgeTrigger "H * * * *"]

def gestures : List Gesture :=
  [.act .init,
    .act (.edit .projectName "core"),
    .act (.edit (.view ⟨0⟩ .projectUrl)
      "https://host/core.git"),
    .act (.edit (.view ⟨0⟩ .localDirectoryPath) "."),
    .act (.edit (.view ⟨0⟩ .fileToBuild) "build.bat")]

def creation : Call :=
  ⟨.submit submission, .ok ()⟩

def refusal : Call :=
  ⟨.submit submission, .error (.refused (.nameTaken "core"))⟩

/- The calls of both pages before either one sends. -/
def waiting : List (Rival × Call) :=
  (submitRequests ++ openingRequests).map
      (store.asked users Tree.empty .late) ++
    (submitRequests ++ openingRequests).map
      (store.asked users Tree.empty .early)

def trace : List (Rival × Call) :=
  (.late, refusal) :: (.early, creation) :: waiting

def before : Session (List Call × Tree) :=
  play (store.refusing (.nameTaken "core")).recorded
    (start .create {} ([], Tree.empty)) gestures

theorem early_makes :
    PageRequest.create.Makes (Call.ofClient .early trace) := by
  have hCalls :
      Call.ofClient .early trace =
        (play store.service.recorded
          (start .create {} ([], Tree.empty))
          (gestures ++ [.act .submit])).state.1 := by
    decide +kernel
  rw [hCalls]
  exact PageRequest.makes_play store.service _ {} Tree.empty _

/- What the late page calls when it is submitted. -/
def lateCalls : List Call :=
  refusal ::
    submitRequests.map fun request =>
      (store.asked users Tree.empty .late request).2

theorem late_calls :
    Call.ofClient .late trace = lateCalls ++ before.state.1 := by
  decide +kernel

theorem late_makesAttempt :
    ∃ reply page,
      PageRequest.create.MakesAttempt before.state.1 lateCalls
        reply page := by
  have hCalls :
      (step (store.refusing (.nameTaken "core")).recorded
          before .submit).2.state.1 =
        lateCalls ++ before.state.1 := by
    decide +kernel
  exact
    ⟨_, _, Tree, store.refusing (.nameTaken "core"), {},
      Tree.empty, gestures, rfl, hCalls, rfl, rfl⟩

/- Both pages look the name up while it is free. -/
theorem served_waiting :
    store.Served users Tree.empty waiting Tree.empty := by
  have hQueries :
      ∀ request ∈ submitRequests ++ openingRequests,
        request.IsQuery := by
    simp [submitRequests, openingRequests, Request.IsQuery]
  have hStart : store.Served users Tree.empty [] Tree.empty :=
    .start
  have hEarly := hStart.queries .early _ hQueries
  rw [List.append_nil] at hEarly
  exact hEarly.queries .late _ hQueries

/- The first of them is accepted, and the second refused. -/
theorem served_trace :
    ∃ tree, store.Served users Tree.empty trace tree := by
  rcases hCreate : store.submit Tree.empty submission with
    ⟨outcome, created⟩
  have hAccepted :
      (store.submit Tree.empty submission).1 = .ok () := by
    decide +kernel
  rw [hCreate] at hAccepted
  cases hAccepted
  have hFirst := served_waiting.submitted .early hCreate
  rcases Directory.Served.exists_holds rfl
      (Directory.isVacant_empty.holds store) hFirst with
    ⟨ledger, hHolds⟩
  rcases hLate : store.submit created submission with
    ⟨outcome, after⟩
  have hUser :
      Directory.submit { store with user := store.user } created
          submission =
        (outcome, after) := hLate
  have hNew := hHolds.submit_new rfl rfl hUser
  have hTaken := Directory.isTaken_of_submit hCreate
  refine ⟨after, ?_⟩
  cases outcome with
  | ok => exact absurd hTaken hNew.2
  | error error =>
      rw [hNew (by decide) hTaken] at hLate
      exact hFirst.submitted .late hLate

theorem exists_exchange :
    ∃ (exchange : Exchange Rival)
        (attempt : exchange.Attempt .late "core"),
      exchange.Creates .early ∧ exchange.Creates .late ∧
        exchange.trace =
          [(.late, refusal)] ++ (.early, creation) :: waiting ∧
        (.early, creation) ∈ attempt.older := by
  rcases served_trace with ⟨tree, hServed⟩
  rcases late_makesAttempt with ⟨reply, page, hAttempt⟩
  let exchange : Exchange Rival :=
    { directory := store
      users := users
      requests := fun _ => .create
      vacant := Tree.empty
      postings := []
      trace := trace
      tree := tree
      inJson := rfl
      isVacant := Directory.isVacant_empty
      proper := fun _ => ⟨fun _ => rfl, fun _ => rfl⟩
      makes := by
        intro client
        cases client with
        | early => exact early_makes
        | late =>
            rw [late_calls]
            exact hAttempt.makes
      served := hServed }
  let attempt : exchange.Attempt .late "core" :=
    { later := []
      last := refusal
      older := (.early, creation) :: waiting
      earlier := before.state.1
      made := lateCalls
      reply
      page
      answer := .ok true
      splits := rfl
      calls := late_calls
      makes := hAttempt
      passed := by decide +kernel }
  exact
    ⟨exchange, attempt, rfl, rfl, rfl, List.mem_cons_self⟩

end Rival

/- A page that looked its name up before the other one sent. -/
theorem Exchange.one_creator_per_name_rivals :
    ∃ (exchange : Exchange Rival)
        (attempt : exchange.Attempt .late "core"),
      exchange.Creates .early ∧ exchange.Creates .late ∧
        exchange.trace =
          [(.late, Rival.refusal)] ++
            (.early, Rival.creation) :: Rival.waiting ∧
        Rival.creation.storedName? = some "core" ∧
        (.early, Rival.creation) ∈ attempt.older ∧
        (∀ tree, exchange.Reaches Rival.waiting tree →
          ¬Directory.IsTaken tree "core") ∧
        (attempt.reply = .error (.nameConflict "core") ∨
          attempt.reply =
            .error (.service (.refused (.nameTaken "core")))) ∧
        attempt.page.submitted = false := by
  rcases Rival.exists_exchange with
    ⟨exchange, attempt, hEarly, hLate, hTrace, hOlder⟩
  have hCreated :=
    one_creator_per_name exchange "core" .early Rival.creation
      [(.late, Rival.refusal)] Rival.waiting hEarly hTrace rfl
  have hAttempt := hCreated.2.2 .late attempt hLate hOlder
  exact
    ⟨exchange, attempt, hEarly, hLate, hTrace, rfl, hOlder,
      hCreated.2.1, hAttempt.1, hAttempt.2.1⟩

end BuildForm
