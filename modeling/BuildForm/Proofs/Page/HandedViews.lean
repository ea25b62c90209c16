import BuildForm.Proofs.Form.HiddenFields
import BuildForm.Proofs.Page.Gestures
import BuildForm.Proofs.Page.Submitted

/-
  The views that the service hands to a session.

  Stored views come when a page is opened, and a fresh one
  each time that a view is added. As long as fewer of them are
  handed out than there are ordinals, the views of the page
  are numbered without repetition, and a submission carries
  the hidden inputs of all of them.

  Main declarations:
    * `Call.viewsHanded`
    * `Session.IsNumbered`
    * `Session.isNumbered_play`
    * `Session.submission_complete`
-/

------------------------------------------------------------
-- Views that Are Handed Out
------------------------------------------------------------

namespace BuildForm

namespace Call

/- How many views a call hands to the page that makes it. -/
def viewsHanded : Call → Nat
  | ⟨.views _, .ok loaded⟩ => loaded.views.length
  | ⟨.freshView, .ok _⟩ => 1
  | _ => 0

def allViewsHanded (calls : List Call) : Nat :=
  (calls.map viewsHanded).sum

@[simp]
theorem allViewsHanded_cons
    (call : Call)
    (calls : List Call) :
    allViewsHanded (call :: calls) =
      call.viewsHanded + allViewsHanded calls :=
  rfl

end Call

namespace Session

variable {σ : Type}

/-
  A session whose views are numbered soundly, and no further
  than views were handed out, unless these were too many.
-/
structure IsNumbered
    (request : PageRequest)
    (session : Session (List Call × σ)) : Prop where
  request : session.page.request = request
  numbers :
    Call.allViewsHanded session.state.1 < 2 ^ 32 →
    session.page.form.views.numbering.Sound ∧
      session.page.form.views.nextOrdinal.toNat ≤
        Call.allViewsHanded session.state.1

theorem isNumbered_start
    (request : PageRequest)
    (options : PageOptions)
    (state : σ) :
    (start request options ([], state)).IsNumbered request where
  request := rfl
  numbers := fun _ => ⟨Numbering.sound_empty, Nat.le_refl 0⟩

namespace IsNumbered

variable {service : Service σ}
variable {request : PageRequest}
variable {session : Session (List Call × σ)}
variable {state : List Call × σ}

/- What only looks at the views of a form. -/
theorem of_page
    (hNumbered : session.IsNumbered request)
    {page : Page}
    (hRequest : page.request = session.page.request)
    (hViews :
      page.form.views.numbering =
        session.page.form.views.numbering) :
    ({ session with page } :
      Session (List Call × σ)).IsNumbered request where
  request := hRequest.trans hNumbered.request
  numbers := by
    intro hRoom
    have hNumbers := hNumbered.numbers hRoom
    change
      page.form.views.numbering.Sound ∧
        page.form.views.numbering.next.toNat ≤ _
    rw [hViews]
    exact hNumbers

/- Views that go leave the others their ordinals. -/
theorem retained
    (hNumbered : session.IsNumbered request)
    {form : Form}
    (hRetains : session.page.form.views.Retains form.views) :
    (session.withForm form).IsNumbered request where
  request := hNumbered.request
  numbers := by
    intro hRoom
    rcases hNumbered.numbers hRoom with ⟨hSound, hBound⟩
    refine ⟨hRetains.sound hSound, ?_⟩
    change form.views.nextOrdinal.toNat ≤ _
    rw [hRetains.next]
    exact hBound

/- A call that is made can only have handed out more. -/
theorem asked
    (hNumbered : session.IsNumbered request)
    {query : Request}
    {outcome : Except ServiceError query.Answer}
    (hCall :
      service.recorded query session.state =
        (outcome, state)) :
    ({ session with state } :
      Session (List Call × σ)).IsNumbered request where
  request := hNumbered.request
  numbers := by
    change Call.allViewsHanded state.1 < 2 ^ 32 → _
    rw [Service.calls_of_recorded hCall,
      Call.allViewsHanded_cons]
    intro hRoom
    rcases hNumbered.numbers (by omega) with ⟨hSound, hBound⟩
    exact ⟨hSound, Nat.le_add_left_of_le hBound⟩

/- A fresh view that is handed out takes one ordinal. -/
theorem fresh
    (hNumbered : session.IsNumbered request)
    {outcome : Except ServiceError ViewFragment}
    (hCall :
      service.recorded .freshView session.state =
        (outcome, state)) :
    (session.withFresh outcome state).IsNumbered request := by
  cases outcome with
  | error error => exact hNumbered.asked hCall
  | ok fragment =>
      refine ⟨hNumbered.request, ?_⟩
      change
        Call.allViewsHanded state.1 < 2 ^ 32 →
          (session.page.form.views.insert fragment
              session.page.form.scmKind).2.numbering.Sound ∧
            (session.page.form.views.insert fragment
              session.page.form.scmKind).2.numbering.next.toNat ≤
              Call.allViewsHanded state.1
      rw [Service.calls_of_recorded hCall,
        Call.allViewsHanded_cons]
      intro hRoom
      change 1 + Call.allViewsHanded session.state.1 < 2 ^ 32
        at hRoom
      rcases hNumbered.numbers (by omega) with ⟨hSound, hBound⟩
      have hStep :=
        session.page.form.views.step_insert fragment
          session.page.form.scmKind
      have hCounter :
          session.page.form.views.numbering.next.toNat + 1 <
            2 ^ 32 := by
        change
          session.page.form.views.nextOrdinal.toNat + 1 < 2 ^ 32
        omega
      have hNext := hStep.toNat_next hCounter
      refine ⟨hStep.sound hCounter hSound, ?_⟩
      rw [hNext]
      change
        session.page.form.views.nextOrdinal.toNat + 1 ≤
          1 + Call.allViewsHanded session.state.1
      omega

/- Stored views that are handed out are numbered anew. -/
theorem stored
    (hNumbered : session.IsNumbered request)
    {name : String}
    {outcome : Except ServiceError LoadedViews}
    (hCall :
      service.recorded (.views name) session.state =
        (outcome, state)) :
    (session.withViews outcome state).IsNumbered request := by
  cases outcome with
  | error error => exact hNumbered.asked hCall
  | ok loaded =>
      have hAsked := hNumbered.asked hCall
      refine ⟨hNumbered.request, ?_⟩
      change
        Call.allViewsHanded state.1 < 2 ^ 32 →
          (session.page.form.views.load
              loaded).numbering.Sound ∧
            (session.page.form.views.load
              loaded).numbering.next.toNat ≤
              Call.allViewsHanded state.1
      intro hRoom
      rcases session.page.form.views.numbering_load loaded with
        hSame | hNew
      · rw [hSame]
        exact hAsked.numbers hRoom
      · have hHanded :
            loaded.views.length ≤ Call.allViewsHanded state.1 := by
          rw [Service.calls_of_recorded hCall,
            Call.allViewsHanded_cons]
          exact Nat.le_add_right _ _
        rw [hNew]
        refine ⟨Numbering.sound_ofCount (by omega), ?_⟩
        change (UInt32.ofNat loaded.views.length).toNat ≤ _
        rw [UInt32.toNat_ofNat_of_lt' (by
          change loaded.views.length < 2 ^ 32
          omega)]
        exact hHanded

/- An action that adds no view leaves the numbers sound. -/
theorem carries
    (service : Service σ)
    (request : PageRequest)
    (action : Action)
    (hAdds : action.addsView = false) :
    Page.Carries service.recorded request.mode action
      (IsNumbered request) where
  modes := by
    intro session hSession
    rw [hSession.request]
  marks := by
    intro session page hSession hRequest hForm _
    apply hSession.of_page hRequest
    rw [hForm]
  steps := by
    intro session form hSession _ hSpared
    rcases hSpared.views with hAdding | hRetains
    · rw [hAdds] at hAdding
      cases hAdding
    · exact hSession.retained hRetains
  edits := by
    intro session path value validate hSession _
    exact
      hSession.of_page rfl
        (session.page.form.numbering_edit path value validate)
  asks := by
    intro session query outcome state hSession _ _ hCall
    exact hSession.asked hCall
  judges := by
    intro session path trigger outcome state hSession _ _ hCall
    have hAsked := hSession.asked hCall
    cases outcome with
    | error error => exact hAsked
    | ok answer =>
        exact
          hAsked.of_page rfl
            (congrArg Views.numbering
              (Form.views_mapTrigger _ path _))
  sends := by
    intro session outcome state hSession _ _ hCall
    exact (hSession.asked hCall).of_page rfl rfl

theorem keeps_addView
    (service : Service σ)
    (request : PageRequest) :
    PageM.Keeps (IsNumbered request)
      (Page.addView service.recorded) := by
  apply
    (carries service request .cancel
      rfl).toSteady.addView_of_fresh
  intro session outcome state hSession _ hCall
  exact hSession.fresh hCall

theorem receives
    (service : Service σ)
    (request : PageRequest) :
    Page.Receives service.recorded request.name
      (IsNumbered request) where
  names := by
    intro session hSession
    rw [hSession.request]
  queries := by
    intro session query outcome state hSession _ _ hCall
    exact hSession.asked hCall
  views := by
    intro session stored outcome state hSession _ hCall
    exact hSession.stored hCall
  records := by
    intro session stored outcome state hSession _ hCall
    have hAsked := hSession.asked hCall
    cases outcome with
    | error error => exact hAsked
    | ok config =>
        exact
          hAsked.of_page rfl
            (congrArg Views.numbering
              (Form.views_applyConfiguration _ config))
  parts := by
    intro session form hSession _ _ hRetains
    exact hSession.retained hRetains
  starts := by
    intro session form hSession _ hLoad
    rcases Form.numbering_loadNew hLoad with hSame | hNone
    · exact hSession.of_page rfl hSame
    · refine ⟨hSession.request, fun _ => ?_⟩
      change
        form.views.numbering.Sound ∧
          form.views.numbering.next.toNat ≤ _
      rw [hNone]
      exact ⟨Numbering.sound_empty, Nat.zero_le _⟩
  adds := keeps_addView service request

/- Whatever the user does, opening the page included. -/
theorem act
    (service : Service σ)
    (request : PageRequest)
    (action : Action) :
    PageM.Keeps (IsNumbered request)
      (Page.act service.recorded action) := by
  have hQuiet :=
    carries service request .cancel rfl
  cases hAdds : action.addsView with
  | false =>
      apply (carries service request action hAdds).act
      rintro rfl
      cases hAdds
  | true =>
      cases action with
      | init => exact (receives service request).act hQuiet.toSteady
      | addView =>
          exact
            (hQuiet.toSteady.reported
              (keeps_addView service request)).map Reply.view
      | _ => cases hAdds

end IsNumbered

/- A run leaves the numbers of the views sound. -/
theorem isNumbered_play
    (service : Service σ)
    (request : PageRequest)
    (options : PageOptions)
    (state : σ)
    (gestures : List Gesture) :
    (play service.recorded
      (start request options ([], state))
      gestures).IsNumbered request := by
  apply Page.play_of_keeps _ (isNumbered_start request _ state)
  intro gesture _
  apply Page.SurvivesTicks.respond
  · intro session form hSession hTick
    exact
      hSession.of_page rfl
        (congrArg Views.numbering (Form.views_tick hTick))
  · intro action _
    exact IsNumbered.act service request action

/-
  For every service and page, and everything done on it: as
  long as fewer views were handed out than there are ordinals,
  a submission of the form carries the hidden input of the
  machines and then both hidden inputs of each view, each with
  its own raw string and in the order of the page. The records
  of the views are in that order too.
-/
theorem submission_complete
    (service : Service σ)
    (request : PageRequest)
    (options : PageOptions)
    (state : σ)
    (gestures : List Gesture)
    (hHanded :
      Call.allViewsHanded
          (play service.recorded
            (start request options ([], state))
            gestures).state.1 < 2 ^ 32) :
    let form :=
      (play service.recorded
        (start request options ([], state)) gestures).page.form
    let submission := form.toSubmission
    submission.hiddenFields.entries =
        ("build_machine_configuration",
            form.machines.hidden.raw) ::
          form.views.items.flatMap (fun view =>
            let name :=
              "projectToBuild_" ++
                String.ofList
                  (Text.digits view.id.ordinal.toNat)
            [(name ++ "/" ++ "artifacts",
                view.artifacts.hidden.raw),
              (name ++ "/" ++ "versionFiles",
                view.versionFiles.hidden.raw)]) ∧
      submission.hiddenFields.entries.length =
        1 + 2 * form.views.items.length ∧
      submission.configuration.views =
        form.views.items.map View.toRecord := by
  intro form submission
  have hNumbered :=
    isNumbered_play service request options state gestures
  have hSound : form.views.numbering.Sound :=
    (hNumbered.numbers hHanded).1
  have hEntries := Form.entries_hiddenFields hSound.nodup
  refine ⟨hEntries, ?_, rfl⟩
  change form.hiddenFields.entries.length = _
  rw [hEntries, List.length_cons,
    Form.length_flatMap_hiddenFieldsOf, Nat.add_comm]

/- The first of two stored views is closed, and one is added. -/
theorem submission_complete_after_closing :
    let service : Service Unit := fun request state =>
      match request with
      | .views _ =>
          (.ok
            { html := "<section>"
              views := [{}, { artifacts := ["bin", "lib"] }] },
            state)
      | .freshView => (.ok {}, state)
      | .freshBuilder => (.ok {}, state)
      | .users _ => (.ok {}, state)
      | .configuration name => (.ok { projectName := name }, state)
      | .approved _ => (.ok none, state)
      | .isAdministrator => (.ok false, state)
      | _ => (.error (.unavailable "down"), state)
    let gestures : List Gesture :=
      [.act .init, .act (.removeView ⟨0⟩), .act .addView,
        .act (.edit (.view ⟨2⟩ .pathToArtifacts) "out"),
        .act (.addPath ⟨2⟩ .artifacts)]
    let request : PageRequest := .opening .edit "core"
    let last :=
      play service.recorded (start request {} ([], ())) gestures
    let form := last.page.form
    let entries := form.toSubmission.hiddenFields.entries
    Call.allViewsHanded last.state.1 < 2 ^ 32 ∧
      form.views.items.map (·.id.ordinal) = [1, 2] ∧
      entries.length = 1 + 2 * form.views.items.length ∧
      entries =
        [("build_machine_configuration", ""),
          ("projectToBuild_1/artifacts", "bin;lib;"),
          ("projectToBuild_1/versionFiles", ""),
          ("projectToBuild_2/artifacts", "out;"),
          ("projectToBuild_2/versionFiles", "")] := by
  intro service gestures request last form entries
  have hHanded : Call.allViewsHanded last.state.1 < 2 ^ 32 := by
    decide +kernel
  have hShown :
      form.views.items.map (·.id.ordinal) = [1, 2] ∧
        entries =
          [("build_machine_configuration", ""),
            ("projectToBuild_1/artifacts", "bin;lib;"),
            ("projectToBuild_1/versionFiles", ""),
            ("projectToBuild_2/artifacts", "out;"),
            ("projectToBuild_2/versionFiles", "")] := by
    decide +kernel
  -- The theorem is about any run, so this one stays closed.
  clear_value service gestures request
  refine ⟨hHanded, hShown.1, ?_, hShown.2⟩
  exact
    (submission_complete service request {} () gestures
      hHanded).2.1

end Session

end BuildForm
