import BuildForm.Page.Query
import BuildForm.Proofs.Form.Identity
import BuildForm.Proofs.Page.Checked
import BuildForm.Proofs.Page.Gestures

/-
  The mode of a page decides what it sends.

  A page of a query keeps its mode, and with it what its form
  is submitted as: a new configuration under a name that was
  just found to be free, and a stored one under the name of
  the record that was loaded last. Failures and new attempts
  in any order change nothing about it.

  Main declarations:
    * `PageRequest.IsProper`
    * `Page.MaySubmit`
    * `Call.EachSince`
    * `Session.Belongs`
    * `Session.Abides`
    * `Session.play_submits_by_mode`
-/

------------------------------------------------------------
-- Requests of Queries
------------------------------------------------------------

namespace BuildForm

namespace PageRequest

/- A request that names a configuration unless it is new. -/
def IsProper (request : PageRequest) : Prop :=
  request.name = none ↔ request.mode = .create

theorem isProper_of_parse
    {query : String}
    {request : PageRequest}
    (hParse : parse query = .ok request) :
    request.IsProper := by
  unfold parse at hParse
  dsimp only at hParse
  split at hParse
  · cases hParse
    exact ⟨fun _ => rfl, fun _ => rfl⟩
  · split at hParse
    · cases hParse
    · split at hParse
      · cases hParse
      · split at hParse
        · cases hParse
        · cases hParse
          exact ⟨fun _ => rfl, fun _ => rfl⟩
        · rename_i mode hStored _
          cases hParse
          constructor
          · intro hName
            cases hName
          · intro hMode
            exact absurd hMode hStored

end PageRequest

end BuildForm

------------------------------------------------------------
-- Calls of a Page
------------------------------------------------------------

namespace BuildForm

namespace Call

/- The project name of a record that a call loaded. -/
def loadedName? : Call → Option String
  | ⟨.configuration _, .ok config⟩ => some config.projectName
  | _ => none

/- The name of the record that was loaded last, if any was. -/
def loadedName (calls : List Call) : String :=
  (calls.findSome? loadedName?).getD ""

theorem loadedName_cons_of_none
    {call : Call}
    (hNone : call.loadedName? = none)
    (calls : List Call) :
    loadedName (call :: calls) = loadedName calls := by
  unfold loadedName
  rw [List.findSome?_cons_of_isNone (by simp [hNone])]

theorem loadedName_cons_of_some
    {call : Call}
    {name : String}
    (hSome : call.loadedName? = some name)
    (calls : List Call) :
    loadedName (call :: calls) = name := by
  unfold loadedName
  rw [List.findSome?_cons, hSome]
  rfl

theorem loadedName?_eq_none
    {request : Request}
    (hOther : ∀ name, request ≠ .configuration name)
    (outcome : Except ServiceError request.Answer) :
    loadedName? ⟨request, outcome⟩ = none := by
  cases request with
  | configuration name => exact absurd rfl (hOther name)
  | _ => rfl

/-
  The calls go on from earlier ones, and each of them since is
  as `P` says, given the calls before it.
-/
structure EachSince
    (before : List Call)
    (P : List Call → Call → Prop)
    (calls : List Call) : Prop where
  goesOn : before <:+ calls
  each :
    ∀ later call earlier,
      calls = later ++ call :: earlier →
      before <:+ earlier →
      P earlier call

theorem EachSince.refl
    (calls : List Call)
    (P : List Call → Call → Prop) :
    EachSince calls P calls where
  goesOn := List.suffix_refl calls
  each := by
    intro later call earlier hCalls hBefore
    have hLength := hBefore.length_le
    rw [hCalls] at hLength
    simp at hLength
    omega

theorem EachSince.of_suffix
    {before calls all : List Call}
    {P : List Call → Call → Prop}
    (hSince : EachSince before P all)
    (hSuffix : calls <:+ all)
    (hBefore : before <:+ calls) :
    EachSince before P calls where
  goesOn := hBefore
  each := by
    rcases hSuffix with ⟨newest, rfl⟩
    intro later call earlier hCalls hEarlier
    apply hSince.each (newest ++ later) call earlier _ hEarlier
    simp [hCalls]

theorem EachSince.cons
    {before calls : List Call}
    {P : List Call → Call → Prop}
    (hSince : EachSince before P calls)
    {call : Call}
    (hCall : P calls call) :
    EachSince before P (call :: calls) where
  goesOn := hSince.goesOn.trans (List.suffix_cons call calls)
  each := by
    intro later other earlier hCalls hBefore
    rcases List.cons_eq_append_iff.mp hCalls with
      ⟨rfl, hHead⟩ | ⟨newer, rfl, hTail⟩
    · cases hHead
      exact hCall
    · exact hSince.each newer other earlier hTail hBefore

end Call

end BuildForm

------------------------------------------------------------
-- What a Page May Send
------------------------------------------------------------

namespace BuildForm

namespace Page

/-
  What a gesture on a page of a mode may submit, where `form`
  is the form before the gesture and `earlier` are the calls
  made until then, the latest first.
-/
inductive MaySubmit
    (form : Form)
    (earlier : List Call) :
    PageMode → Gesture → Submission → Prop where
  | create {submission : Submission} :
      submission.formType = .create →
      submission.formResult = some .create →
      earlier.head? =
        some
          ⟨.isNameFree submission.configuration.projectName,
            .ok true⟩ →
      MaySubmit form earlier .create (.act .submit) submission
  | edit {submission : Submission} :
      submission.formType = .edit →
      submission.formResult = some .other →
      submission.configuration.projectName =
        Call.loadedName earlier →
      MaySubmit form earlier .edit (.act .submit) submission
  | approve {submission : Submission} :
      submission.formType = .approved →
      submission.formResult = some .other →
      submission.configuration.projectName =
        Call.loadedName earlier →
      MaySubmit form earlier .approveReject (.act .submit)
        submission
  | reject {submission : Submission} :
      submission.formType = .reject →
      submission.rejectionReason =
        form.rejectDialog.reason.value →
      submission.rejectionReason ≠ "" →
      submission.configuration.projectName =
        Call.loadedName earlier →
      MaySubmit form earlier .approveReject
        (.act .confirmReject) submission

/-
  What a gesture on a page of a mode may ask. Names are looked
  up for new configurations only.
-/
structure MayCall
    (mode : PageMode)
    (gesture : Gesture)
    (form : Form)
    (earlier : List Call)
    (call : Call) : Prop where
  submits :
    ∀ submission, call.request = .submit submission →
      MaySubmit form earlier mode gesture submission
  looksUp :
    ∀ name, call.request = .isNameFree name → mode = .create

theorem mayCall_of_isQuery
    {mode : PageMode}
    {gesture : Gesture}
    {form : Form}
    {earlier : List Call}
    {call : Call}
    (hQuery : call.request.IsQuery)
    (hLooksUp :
      ∀ name, call.request = .isNameFree name →
        mode = .create) :
    MayCall mode gesture form earlier call where
  submits := fun submission hSubmit =>
    absurd hSubmit (hQuery submission)
  looksUp := hLooksUp

end Page

end BuildForm

------------------------------------------------------------
-- Pages that Keep to Their Mode
------------------------------------------------------------

namespace BuildForm

namespace Session

variable {σ : Type}

/-
  A session of a request whose form is for the mode of the
  request and, if it is for a stored configuration, under the
  name of the record that was loaded last.
-/
structure Belongs
    (request : PageRequest)
    (session : Session (List Call × σ)) : Prop where
  opened : session.page.request = request
  mode : session.page.form.mode = request.mode
  formType :
    request.mode ≠ .approveReject →
    session.page.form.formType = request.mode.formType
  locked :
    request.name ≠ none → session.page.form.nameLocked = true
  name :
    request.name ≠ none →
    session.page.form.projectName.value =
      Call.loadedName session.state.1

theorem belongs_start
    {request : PageRequest}
    (hProper : request.IsProper)
    (options : PageOptions)
    (state : σ) :
    (start request options ([], state)).Belongs request where
  opened := rfl
  mode := rfl
  formType := fun _ => rfl
  locked := by
    intro hStored
    change decide (request.mode ≠ .create) = true
    have hMode := mt hProper.mpr hStored
    simpa using hMode
  name := fun _ => rfl

/-
  What has become of a session during a gesture: it belongs to
  its request, each call made since was allowed, and to confirm
  a rejection leaves its dialog alone.
-/
structure Abides
    (request : PageRequest)
    (before : Session (List Call × σ))
    (gesture : Gesture)
    (session : Session (List Call × σ)) : Prop
    extends session.Belongs request where
  calls :
    Call.EachSince before.state.1
      (Page.MayCall request.mode gesture before.page.form)
      session.state.1
  dialog :
    gesture = .act .confirmReject →
    session.page.form.rejectDialog =
      before.page.form.rejectDialog

theorem abides_refl
    {request : PageRequest}
    {session : Session (List Call × σ)}
    (hBelongs : session.Belongs request)
    (gesture : Gesture) :
    Abides request session gesture session where
  toBelongs := hBelongs
  calls := .refl session.state.1 _
  dialog := fun _ => rfl

variable {request : PageRequest}
variable {gesture : Gesture}
variable {before session : Session (List Call × σ)}

/- The form may change in any way that retains its identity. -/
theorem Belongs.withForm
    (hBelongs : session.Belongs request)
    {form : Form}
    (hRetains : session.page.form.Retains form) :
    (session.withForm form).Belongs request where
  opened := hBelongs.opened
  mode := hRetains.mode.trans hBelongs.mode
  formType := by
    intro hMode
    have hForm := hMode
    rw [← hBelongs.mode] at hForm
    exact
      (hRetains.formType hForm).trans (hBelongs.formType hMode)
  locked := by
    intro hStored
    exact hRetains.nameLocked.trans (hBelongs.locked hStored)
  name := by
    intro hStored
    have hLocked := hBelongs.locked hStored
    exact (hRetains.name hLocked).trans (hBelongs.name hStored)

/- A page that goes on with the same request and form. -/
theorem Belongs.withPage
    (hBelongs : session.Belongs request)
    {page : Page}
    (hRequest : page.request = session.page.request)
    (hForm : page.form = session.page.form) :
    ({ session with page } : Session _).Belongs request where
  opened := hRequest.trans hBelongs.opened
  mode := by
    rw [hForm]
    exact hBelongs.mode
  formType := by
    rw [hForm]
    exact hBelongs.formType
  locked := by
    rw [hForm]
    exact hBelongs.locked
  name := by
    rw [hForm]
    exact hBelongs.name

/- Calls that load no record leave what was loaded last. -/
theorem Belongs.call
    {service : Service σ}
    (hBelongs : session.Belongs request)
    {query : Request}
    (hOther : ∀ name, query ≠ .configuration name)
    {outcome : Except ServiceError query.Answer}
    {state : List Call × σ}
    (hCall :
      service.recorded query session.state =
        (outcome, state)) :
    ({ session with state } : Session _).Belongs request where
  opened := hBelongs.opened
  mode := hBelongs.mode
  formType := hBelongs.formType
  locked := hBelongs.locked
  name := by
    intro hStored
    change _ = Call.loadedName state.1
    rw [Service.calls_of_recorded hCall,
      Call.loadedName_cons_of_none
        (Call.loadedName?_eq_none hOther outcome)]
    exact hBelongs.name hStored

/- A record that is loaded brings its name along. -/
theorem Belongs.loaded
    {service : Service σ}
    (hBelongs : session.Belongs request)
    {stored : String}
    {outcome : Except ServiceError Configuration}
    {state : List Call × σ}
    (hCall :
      service.recorded (.configuration stored) session.state =
        (outcome, state)) :
    (session.loaded outcome state).Belongs request := by
  cases outcome with
  | error error =>
      refine
        ⟨hBelongs.opened, hBelongs.mode, hBelongs.formType,
          hBelongs.locked, ?_⟩
      intro hStored
      change _ = Call.loadedName state.1
      rw [Service.calls_of_recorded hCall,
        Call.loadedName_cons_of_none rfl]
      exact hBelongs.name hStored
  | ok config =>
      rcases session.page.form.applyConfiguration_identity
        config with ⟨hMode, hType, hLocked, hName⟩
      refine
        ⟨hBelongs.opened, hMode.trans hBelongs.mode, ?_, ?_, ?_⟩
      · intro hOther
        exact hType.trans (hBelongs.formType hOther)
      · intro hStored
        exact hLocked.trans (hBelongs.locked hStored)
      · intro _
        change _ = Call.loadedName state.1
        rw [Service.calls_of_recorded hCall,
          Call.loadedName_cons_of_some rfl]
        exact hName

namespace Abides

/- A change of the form that makes no call. -/
theorem withForm
    (hAbides : Abides request before gesture session)
    {form : Form}
    (hRetains : session.page.form.Retains form)
    (hDialog :
      gesture = .act .confirmReject →
      form.rejectDialog = session.page.form.rejectDialog) :
    Abides request before gesture (session.withForm form) where
  toBelongs := hAbides.toBelongs.withForm hRetains
  calls := hAbides.calls
  dialog := fun hConfirm =>
    (hDialog hConfirm).trans (hAbides.dialog hConfirm)

/- One more call that the gesture may make. -/
theorem call
    {service : Service σ}
    (hAbides : Abides request before gesture session)
    {query : Request}
    (hOther : ∀ name, query ≠ .configuration name)
    {outcome : Except ServiceError query.Answer}
    (hMay :
      Page.MayCall request.mode gesture before.page.form
        session.state.1 ⟨query, outcome⟩)
    {state : List Call × σ}
    (hCall :
      service.recorded query session.state =
        (outcome, state)) :
    Abides request before gesture { session with state } where
  toBelongs := hAbides.toBelongs.call hOther hCall
  calls := by
    change Call.EachSince _ _ state.1
    rw [Service.calls_of_recorded hCall]
    exact hAbides.calls.cons hMay
  dialog := hAbides.dialog

end Abides

/-
  What is sent is what the mode of the request allows, and the
  form is judged in the state in which it leaves the page.
-/
theorem Abides.maySubmit
    {service : Service σ}
    {action : Action}
    {session : Session (List Call × σ)}
    (hAbides : Abides request before (.act action) session)
    (hProper : request.IsProper)
    (hDispatches :
      Page.Dispatches service.recorded request.mode action
        session) :
    Page.MaySubmit before.page.form session.state.1
      request.mode (.act action)
      session.page.form.toSubmission := by
  have hMode := hAbides.mode
  cases hDispatches with
  | new earlier _ hCreate hResult hFree =>
      rw [hCreate] at hMode
      have hType := hAbides.formType (by simp [← hMode])
      have hCalls := Service.calls_of_recorded hFree
      rw [← hMode] at hType ⊢
      apply Page.MaySubmit.create hType hResult
      rw [hCalls]
      rfl
  | stored _ hKind hResult =>
      rcases hKind with hEdit | ⟨hApprove, hApproved⟩
      · rw [hEdit] at hMode
        have hType := hAbides.formType (by simp [← hMode])
        have hStored : request.name ≠ none :=
          mt hProper.mp (by simp [← hMode])
        rw [← hMode] at hType ⊢
        exact .edit hType hResult (hAbides.name hStored)
      · rw [hApprove] at hMode
        have hStored : request.name ≠ none :=
          mt hProper.mp (by simp [← hMode])
        rw [← hMode]
        exact .approve hApproved hResult (hAbides.name hStored)
  | rejection hReject hType hReason hGiven =>
      have hStored : request.name ≠ none :=
        mt hProper.mp (by simp [hReject])
      have hDialog := hAbides.dialog rfl
      rw [hReject]
      apply Page.MaySubmit.reject hType _ hGiven
        (hAbides.name hStored)
      rw [← hDialog]
      exact hReason

theorem abides_carries
    (service : Service σ)
    (hProper : request.IsProper)
    (before : Session (List Call × σ))
    (action : Action) :
    Page.Carries service.recorded request.mode action
      (Abides request before (.act action)) where
  modes := by
    intro session hSession
    rw [hSession.opened]
  marks := by
    intro session page hSession hRequest hForm _
    refine
      ⟨hSession.toBelongs.withPage hRequest hForm,
        hSession.calls, ?_⟩
    rw [hForm]
    exact hSession.dialog
  steps := by
    intro session form hSession hStep hSpared
    rw [← hSession.mode] at hStep
    apply hSession.withForm (Form.retains_step hStep)
    intro hConfirm
    cases hConfirm
    exact hSpared.dialog (by simp) (by simp)
  edits := by
    intro session path value validate hSession hEdit
    apply hSession.withForm
      (session.page.form.retains_edit path value validate)
    intro hConfirm
    rw [hEdit] at hConfirm
    cases hConfirm
  asks := by
    intro session query outcome state hSession hAsks _ hCall
    apply hSession.call _ _ hCall
    · cases hAsks <;> simp
    · apply Page.mayCall_of_isQuery hAsks.isQuery
      intro name hLooksUp
      cases hAsks with
      | isNameFree hCreate =>
          rw [← hSession.mode]
          exact hCreate
      | _ => cases hLooksUp
  judges := by
    intro session path trigger outcome state hSession _ hJudges
      hCall
    have hAsked :
        Abides request before (.act action)
          { session with state } := by
      apply hSession.call _ _ hCall
      · simp
      · exact
          Page.mayCall_of_isQuery (by simp [Request.IsQuery])
            (by simp)
    cases outcome with
    | error error => exact hAsked
    | ok answer =>
        apply hAsked.withForm
          (session.page.form.retains_mapTrigger path _)
        intro hConfirm
        cases hConfirm
        rcases hJudges with hCheck | ⟨hSubmit, _⟩
        · cases hCheck
        · cases hSubmit
  sends := by
    intro session outcome state hSession _ hDispatches hCall
    have hSent :
        Abides request before (.act action)
          { session with state } := by
      apply hSession.call _ _ hCall
      · simp
      · refine ⟨?_, by simp⟩
        rintro submission hSubmission
        cases hSubmission
        exact hSession.maySubmit hProper hDispatches
    exact
      ⟨hSent.toBelongs.withPage rfl rfl, hSent.calls,
        hSent.dialog⟩

theorem abides_admits
    (service : Service σ)
    (hProper : request.IsProper)
    (before : Session (List Call × σ)) :
    Page.Admits service.recorded request.name
      (Abides request before (.act .init)) where
  names := by
    intro session hSession
    rw [hSession.opened]
  queries := by
    intro session query outcome state hSession hPrepares hCall
    apply hSession.call _ _ hCall
    · generalize request.name = name at hPrepares
      cases hPrepares <;> simp
    · apply Page.mayCall_of_isQuery hPrepares.isQuery
      generalize request.name = name at hPrepares
      cases hPrepares <;> simp
  records := by
    intro session stored outcome state hSession _ hCall
    refine ⟨hSession.toBelongs.loaded hCall, ?_, by simp⟩
    have hCalls := Service.calls_of_recorded hCall
    have hState :
        (session.loaded outcome state).state = state := by
      cases outcome <;> rfl
    rw [hState, hCalls]
    apply hSession.calls.cons
    exact
      Page.mayCall_of_isQuery (by simp [Request.IsQuery])
        (by simp)
  parts := by
    intro session form hSession hStored hLoad
    have hLocked := hSession.locked hStored
    apply hSession.withForm
      (Form.retains_loadStored hLocked hLoad)
    intro hConfirm
    cases hConfirm
  starts := by
    intro session form hSession hNew hLoad
    have hCreate := hProper.mp hNew
    rcases Form.loadNew_identity hLoad with ⟨hMode, hKind⟩
    refine
      ⟨⟨hSession.opened, hMode.trans hSession.mode, ?_, ?_, ?_⟩,
        hSession.calls, ?_⟩
    · intro hOther
      rcases hKind with hSame | hType
      · exact hSame.trans (hSession.formType hOther)
      · rw [hCreate]
        exact hType
    · exact fun hStored => absurd hNew hStored
    · exact fun hStored => absurd hNew hStored
    · intro hConfirm
      cases hConfirm

------------------------------------------------------------
-- Runs
------------------------------------------------------------

theorem abides_respond
    (service : Service σ)
    (hProper : request.IsProper)
    (hBelongs : session.Belongs request)
    (gesture : Gesture) :
    Abides request session gesture
      ((Page.respond service.recorded gesture).perform
        session).2 := by
  have hTicks :
      Page.SurvivesTicks (Abides request session gesture) := by
    intro later form hLater hTick
    apply hLater.withForm (Form.retains_tick hTick)
    exact fun _ => Form.rejectDialog_tick hTick
  refine
    PageM.Keeps.perform (hTicks.respond ?_)
      (abides_refl hBelongs gesture)
  rintro action rfl
  have hCarries :=
    abides_carries service hProper session action
  by_cases hInit : action = .init
  · subst hInit
    exact
      (abides_admits service hProper session).act
        hCarries.toSteady
  · exact hCarries.act hInit

/- A page belongs to its request at any time. -/
theorem belongs_play
    (service : Service σ)
    (hProper : request.IsProper)
    (hBelongs : session.Belongs request)
    (gestures : List Gesture) :
    (play service.recorded session gestures).Belongs
      request := by
  induction gestures generalizing session with
  | nil => exact hBelongs
  | cons gesture gestures ih =>
      apply ih
      exact
        (abides_respond service hProper hBelongs
          gesture).toBelongs

/-
  For every query that opens a page, every service and every
  run, and any gesture after it: each call that the gesture
  makes is one that the mode of the page allows, given the
  form before the gesture and the calls made until then.
-/
theorem play_submits_by_mode
    (service : Service σ)
    (query : String)
    (request : PageRequest)
    (options : PageOptions)
    (state : σ)
    (gestures : List Gesture)
    (gesture : Gesture)
    (hParse : PageRequest.parse query = .ok request) :
    let before :=
      play service.recorded
        (start request options ([], state)) gestures
    let after := play service.recorded before [gesture]
    Call.EachSince before.state.1
      (Page.MayCall request.mode gesture before.page.form)
      after.state.1 := by
  intro before after
  have hProper := PageRequest.isProper_of_parse hParse
  have hBelongs : before.Belongs request :=
    belongs_play service hProper
      (belongs_start hProper options state) gestures
  exact (abides_respond service hProper hBelongs gesture).calls

/- A stored configuration that is rejected for a reason. -/
theorem play_submits_by_mode_rejection :
    let service : Service Tree :=
      Directory.service { root := "store" }
    let query := "?name=core&type=approveReject"
    let request : PageRequest := .opening .approveReject "core"
    let tree : Tree :=
      .directory
        [("core", .directory
          [("config.json", .file (.text
            "\x7b\"projectName\": \"core\"\x7d"))])]
    let gestures :=
      [Gesture.act .init,
        .act .openReject,
        .act (.edit .rejectionReason "too late")]
    let before :=
      play service.recorded (start request {} ([], tree))
        gestures
    let after :=
      play service.recorded before [.act .confirmReject]
    PageRequest.parse query = .ok request ∧
      (Call.submissions after.state.1).map Submission.formType =
        [.reject] ∧
      Call.EachSince before.state.1
        (Page.MayCall request.mode (.act .confirmReject)
          before.page.form)
        after.state.1 := by
  intro service query request tree gestures before after
  have hOpens :
      (PageRequest.parse query).toOption = some request := by
    decide +kernel
  have hParse : PageRequest.parse query = .ok request := by
    cases hQuery : PageRequest.parse query with
    | error fault =>
        rw [hQuery] at hOpens
        cases hOpens
    | ok opened =>
        rw [hQuery] at hOpens
        cases hOpens
        rfl
  have hSent :
      (Call.submissions after.state.1).map
          Submission.formType =
        [.reject] := by
    decide +kernel
  -- The theorem is about any run, so this one stays closed.
  clear_value service query request tree gestures
  exact
    ⟨hParse, hSent,
      play_submits_by_mode service query request {} tree
        gestures (.act .confirmReject) hParse⟩

end Session

end BuildForm
