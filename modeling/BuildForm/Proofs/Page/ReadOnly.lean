import BuildForm.Proofs.Form.Content
import BuildForm.Proofs.Page.Checked
import BuildForm.Proofs.Page.Gestures

/-
  Pages that may not be edited stay as they were loaded.

  Once such a page is open, whatever the user does and the
  service answers, it shows the same for review, and asks for
  nothing but help and the verdict on a schedule. Only a page
  to approve or reject submits something.

  Main declarations:
    * `Request.IsReadOnly`
    * `Session.IsKept`
    * `Session.isKept_endures`
    * `Session.play_readOnly`
-/

------------------------------------------------------------
-- Requests of Read-Only Pages
------------------------------------------------------------

namespace BuildForm

/- What a page of a read-only mode may ask of the service. -/
inductive Request.IsReadOnly
    (mode : PageMode) : Request → Prop where
  | help (field : String) : IsReadOnly mode (.help field)
  | judgeTrigger (expression : String) :
      IsReadOnly mode (.judgeTrigger expression)
  | submit (submission : Submission) :
      mode = .approveReject →
      IsReadOnly mode (.submit submission)

namespace Page

variable {mode : PageMode}
variable {form : Form}

theorem Asks.isReadOnly
    {request : Request}
    (hReadOnly : ¬mode.isMutable)
    (hMode : form.mode = mode)
    (hAsks : Asks mode form request) :
    request.IsReadOnly mode := by
  cases hAsks with
  | freshView hMutable => exact absurd hMutable hReadOnly
  | freshBuilder hMutable => exact absurd hMutable hReadOnly
  | freshUser hMutable => exact absurd hMutable hReadOnly
  | help field => exact .help field
  | judgeTrigger expression => exact .judgeTrigger expression
  | isNameFree hCreate =>
      rw [← hMode, hCreate] at hReadOnly
      exact absurd rfl hReadOnly

theorem Sends.isReadOnly
    (hReadOnly : ¬mode.isMutable)
    (hMode : form.mode = mode)
    (hSends : Sends mode form) :
    Request.IsReadOnly mode (.submit form.toSubmission) := by
  apply Request.IsReadOnly.submit
  cases hSends with
  | passed _ hView =>
      rw [hMode] at hView
      cases mode with
      | create => exact absurd rfl hReadOnly
      | edit => exact absurd rfl hReadOnly
      | view => exact absurd rfl hView
      | approveReject => rfl
  | rejected hApproveReject _ => exact hApproveReject

end Page

end BuildForm

------------------------------------------------------------
-- Runs of Read-Only Pages
------------------------------------------------------------

namespace BuildForm

namespace Session

variable {σ : Type}
variable {mode : PageMode}

/- A session whose page and form are both of a mode. -/
structure HasMode
    (mode : PageMode)
    (session : Session σ) : Prop where
  request : session.page.request.mode = mode
  form : session.page.form.mode = mode

theorem hasMode_start
    (request : PageRequest)
    (options : PageOptions)
    (state : σ) :
    (start request options state).HasMode request.mode :=
  ⟨rfl, rfl⟩

theorem hasMode_survives
    (service : Service σ)
    (hReadOnly : ¬mode.isMutable) :
    Page.Survives service mode (HasMode mode) where
  modes := fun _ hSession => hSession.request
  marks := by
    intro session page hSession hRequest hForm
    refine ⟨?_, ?_⟩
    · rw [← hSession.request, ← hRequest]
    · rw [← hSession.form, ← hForm]
  loads := by
    intro session form hSession hLoad
    refine ⟨hSession.request, ?_⟩
    exact (Form.mode_load hLoad).trans hSession.form
  steps := by
    intro session form hSession hStep
    have hSame :=
      Form.showsSame_step hReadOnly hSession.form hStep
    exact ⟨hSession.request, hSame.mode.trans hSession.form⟩
  asks := fun _ _ _ _ hSession _ _ =>
    ⟨hSession.request, hSession.form⟩
  sends := fun _ _ _ hSession _ _ =>
    ⟨hSession.request, hSession.form⟩

/- The boxes of a read-only page cannot be ticked. -/
theorem survivesTicks_of_hasMode
    (hReadOnly : ¬mode.isMutable)
    {inv : Session σ → Prop}
    (hMode : ∀ session, inv session → session.HasMode mode) :
    Page.SurvivesTicks inv := by
  intro session form hSession hTick
  rw [← (hMode session hSession).form] at hReadOnly
  rw [Form.eq_of_tick hReadOnly hTick]
  exact hSession

/-
  A later session of a page that shows the same as before,
  and in which only requests of the mode were made since.
-/
structure IsKept
    (mode : PageMode)
    (before session : Session (List Call × σ)) : Prop where
  hasMode : session.HasMode mode
  shows : session.page.form.ShowsSame before.page.form
  made :
    ∃ made, session.state.1 = made ++ before.state.1 ∧
      ∀ call ∈ made, call.request.IsReadOnly mode

variable {before session : Session (List Call × σ)}

theorem isKept_refl (hMode : session.HasMode mode) :
    session.IsKept mode session where
  hasMode := hMode
  shows := .refl session.page.form
  made := ⟨[], rfl, by simp⟩

/- One more request of the mode was made. -/
theorem IsKept.call
    (hKept : before.IsKept mode session)
    {service : Service σ}
    {request : Request}
    (hRequest : request.IsReadOnly mode)
    {outcome : Except ServiceError request.Answer}
    {state : List Call × σ}
    (hCall :
      service.recorded request session.state =
        (outcome, state)) :
    before.IsKept mode { session with state } where
  hasMode := ⟨hKept.hasMode.request, hKept.hasMode.form⟩
  shows := hKept.shows
  made := by
    rcases hKept.made with ⟨made, hMade, hReadOnly⟩
    refine ⟨⟨request, outcome⟩ :: made, ?_, ?_⟩
    · rw [Service.calls_of_recorded hCall, hMade]
      rfl
    · intro call hCall
      rcases List.mem_cons.mp hCall with rfl | hEarlier
      · exact hRequest
      · exact hReadOnly call hEarlier

theorem isKept_endures
    (service : Service σ)
    (hReadOnly : ¬mode.isMutable)
    (before : Session (List Call × σ)) :
    Page.Endures service.recorded mode (IsKept mode before) where
  modes := fun _ hSession => hSession.hasMode.request
  marks := by
    intro session page hSession hRequest hForm
    have hMode :=
      (hasMode_survives service.recorded hReadOnly).marks
        session page hSession.hasMode hRequest hForm
    refine ⟨hMode, ?_, hSession.made⟩
    have hShows := hSession.shows
    rw [← hForm] at hShows
    exact hShows
  steps := by
    intro session form hSession hStep
    have hMode :=
      (hasMode_survives service.recorded hReadOnly).steps
        session form hSession.hasMode hStep
    have hSame :=
      Form.showsSame_step hReadOnly hSession.hasMode.form hStep
    exact ⟨hMode, hSame.trans hSession.shows, hSession.made⟩
  asks := by
    intro session request outcome state hSession hAsks hCall
    exact
      hSession.call
        (hAsks.isReadOnly hReadOnly hSession.hasMode.form) hCall
  sends := by
    intro session outcome state hSession hSends hCall
    exact
      hSession.call
        (hSends.isReadOnly hReadOnly hSession.hasMode.form) hCall

theorem isKept_survivesTicks
    (hReadOnly : ¬mode.isMutable)
    (before : Session (List Call × σ)) :
    Page.SurvivesTicks (IsKept mode before) :=
  survivesTicks_of_hasMode hReadOnly fun _ hSession =>
    hSession.hasMode

/-
  For every page of a read-only mode, every service and every
  run that opens the page once: from its opening on it shows
  the same for review, and apart from its opening it makes
  requests of its mode only. None of this depends on whether
  the requests succeed.
-/
theorem play_readOnly
    (service : Service σ)
    (request : PageRequest)
    (options : PageOptions)
    (state : σ)
    (before after : List Gesture)
    (hReadOnly : ¬request.mode.isMutable)
    (hBefore : Gesture.act .init ∉ before)
    (hAfter : Gesture.act .init ∉ after) :
    let waiting :=
      play service.recorded
        (start request options ([], state)) before
    let opened := (step service.recorded waiting .init).2
    let last := play service.recorded opened after
    last.page.form.reviewed = opened.page.form.reviewed ∧
      last.page.form.hiddenStrings =
        opened.page.form.hiddenStrings ∧
      (∀ call ∈ waiting.state.1,
        call.request.IsReadOnly request.mode) ∧
      ∃ made, last.state.1 = made ++ opened.state.1 ∧
        ∀ call ∈ made, call.request.IsReadOnly request.mode := by
  intro waiting opened last
  have hWaiting :
      (start request options ([], state)).IsKept request.mode
        waiting :=
    (isKept_endures service hReadOnly _).play
      (isKept_survivesTicks hReadOnly _)
      (fun _ hGesture hInit => hBefore (hInit ▸ hGesture))
      (isKept_refl (hasMode_start request options _))
  have hOpened : opened.HasMode request.mode :=
    ((hasMode_survives service.recorded hReadOnly).act
      .init).perform hWaiting.hasMode
  have hLast : opened.IsKept request.mode last :=
    (isKept_endures service hReadOnly _).play
      (isKept_survivesTicks hReadOnly _)
      (fun _ hGesture hInit => hAfter (hInit ▸ hGesture))
      (isKept_refl hOpened)
  refine
    ⟨hLast.shows.reviewed, hLast.shows.hidden, ?_, hLast.made⟩
  rcases hWaiting.made with ⟨made, hMade, hRequests⟩
  intro call hCall
  rw [hMade] at hCall
  exact hRequests call (by simpa [start] using hCall)

/- A stored configuration that is reviewed and rejected. -/
theorem play_readOnly_review :
    let service : Service Tree :=
      Directory.service { root := "store" }
    let request : PageRequest := .opening .approveReject "core"
    let tree : Tree :=
      .directory
        [("core", .directory
          [("config.json", .file (.text
            "\x7b\"projectName\": \"core\"\x7d"))])]
    let before := [Gesture.act .openReject]
    let after :=
      [Gesture.setEmailEnabled true,
        .toggleMachine "linux" true,
        .act .addView,
        .act (.edit .projectName "other"),
        .act (.edit .rejectionReason "too late"),
        .act (.toggleTriggerHelp "pollScmTrigger"),
        .act .confirmReject]
    let waiting :=
      play service.recorded (start request {} ([], tree)) before
    let opened := (step service.recorded waiting .init).2
    let last := play service.recorded opened after
    ¬request.mode.isMutable ∧
      Gesture.act .init ∉ before ∧
      Gesture.act .init ∉ after ∧
      (step service.recorded waiting .init).1.toOption =
        some .done ∧
      last.page.form.reviewed = opened.page.form.reviewed ∧
      last.page.form.hiddenStrings =
        opened.page.form.hiddenStrings ∧
      (∀ call ∈ waiting.state.1,
        call.request.IsReadOnly request.mode) ∧
      ∃ made, last.state.1 = made ++ opened.state.1 ∧
        ∀ call ∈ made, call.request.IsReadOnly request.mode := by
  intro service request tree before after waiting opened last
  have hReadOnly : ¬request.mode.isMutable := by decide
  have hBefore : Gesture.act .init ∉ before := by decide
  have hAfter : Gesture.act .init ∉ after := by decide
  have hOpened :
      (step service.recorded waiting .init).1.toOption =
        some .done := by
    decide +kernel
  -- The theorem is about any run, so this one stays closed.
  clear_value service request tree before after
  have hKept :=
    play_readOnly service request {} tree before after
      hReadOnly hBefore hAfter
  exact ⟨hReadOnly, hBefore, hAfter, hOpened, hKept⟩

end Session

end BuildForm
