import BuildForm.Proofs.Page.ByMode
import BuildForm.Proofs.Page.Outcomes
import BuildForm.Proofs.Service.Sharing

/-
  A page that was not loaded changes nothing that is stored.

  The record of a configuration is loaded after its views and
  its users, and it alone brings the locked name along. A page
  that misses one of these has no name: its form is blocked
  at the name, and a rejection, which is not checked, is
  refused by the store for want of a name.

  Main declarations:
    * `Service.disturbed`
    * `Call.Answered`
    * `Session.IsNameless`
    * `Session.IsNameless.play`
    * `Page.triple_act_init_nameless`
    * `Session.play_halfLoaded_harmless`
-/

------------------------------------------------------------
-- Services that Are Made to Fail
------------------------------------------------------------

namespace BuildForm

/-
  A service that some calls do not reach: whatever makes them
  fail goes on in a state of its own.
-/
def Service.disturbed
    {κ σ : Type}
    (service : Service σ)
    (fails : κ → Request → Option ServiceError × κ) :
    Service (κ × σ) :=
  fun request before =>
    match fails before.1 request with
    | (some error, source) => (.error error, (source, before.2))
    | (none, source) =>
        let answer := service request before.2
        (answer.1, (source, answer.2))

theorem Service.call_of_recorded
    {σ : Type}
    {service : Service σ}
    {request : Request}
    {outcome : Except ServiceError request.Answer}
    {before after : List Call × σ}
    (hCall :
      service.recorded request before = (outcome, after)) :
    service request before.2 = (outcome, after.2) := by
  unfold Service.recorded at hCall
  cases hCall
  rfl

namespace Directory

variable {κ : Type}
variable {directory : Directory}
variable {fails : κ → Request → Option ServiceError × κ}
variable {before after : κ × Tree}

theorem tree_of_disturbed_query
    {request : Request}
    {outcome : Except ServiceError request.Answer}
    (hQuery : request.IsQuery)
    (hCall :
      directory.service.disturbed fails request before =
        (outcome, after)) :
    after.2 = before.2 := by
  unfold Service.disturbed at hCall
  split at hCall
  · cases hCall
    rfl
  · cases hCall
    cases request with
    | submit submission => exact absurd rfl (hQuery submission)
    | _ => rfl

/- Without a name a submission comes to nothing. -/
theorem disturbed_nameless
    {submission : Submission}
    {outcome : Except ServiceError Unit}
    (hName : submission.configuration.projectName = "")
    (hCall :
      directory.service.disturbed fails (.submit submission)
          before =
        (outcome, after)) :
    after.2 = before.2 ∧
      outcome =
        .error
          ((fails before.1 (.submit submission)).1.getD
            (.refused .namelessRecord)) := by
  unfold Service.disturbed at hCall
  split at hCall
  · rename_i hFails
    cases hCall
    rw [hFails]
    exact ⟨rfl, rfl⟩
  · rename_i hReaches
    rw [hReaches]
    have hRefused :
        directory.service (.submit submission) before.2 =
          (.error (.refused .namelessRecord), before.2) :=
      submit_of_namelessRecord directory before.2 hName
    rw [hRefused] at hCall
    cases hCall
    exact ⟨rfl, rfl⟩

end Directory

end BuildForm

------------------------------------------------------------
-- Requests that Were Answered
------------------------------------------------------------

namespace BuildForm

/- A request that was answered in one of some calls. -/
def Call.Answered
    (calls : List Call)
    (request : Request) : Prop :=
  ∃ answer : request.Answer, ⟨request, .ok answer⟩ ∈ calls

/- What the form of a stored configuration is made of. -/
def Page.partRequests (name : String) : List Request :=
  [.configuration name, .users name, .views name]

namespace Call

theorem Answered.cons
    {calls : List Call}
    {request : Request}
    (hAnswered : Answered calls request)
    (call : Call) :
    Answered (call :: calls) request := by
  rcases hAnswered with ⟨answer, hCall⟩
  exact ⟨answer, List.mem_cons_of_mem _ hCall⟩

theorem answered_cons
    (calls : List Call)
    {request : Request}
    (answer : request.Answer) :
    Answered (⟨request, .ok answer⟩ :: calls) request :=
  ⟨answer, List.mem_cons_self⟩

end Call

end BuildForm

------------------------------------------------------------
-- Pages without a Name
------------------------------------------------------------

namespace BuildForm

/- A form that is stored under no name is blocked at it. -/
theorem Form.check_of_nameless
    {form : Form}
    (hMode : form.mode ≠ .view)
    (hName : form.projectName.value = "") :
    ∃ fault,
      FieldKind.projectName.fault? "" = some fault ∧
        form.check.1 =
          .blocked (.invalid .projectName (.rule fault)) := by
  have hFault :
      ∃ fault, FieldKind.projectName.fault? "" = some fault := by
    rw [← Option.ne_none_iff_exists']
    intro hNone
    have hAccepts :=
      (FieldKind.fault?_eq_none_iff .projectName "").mp hNone
    simp [FieldKind.accepts, Rule.isProjectName] at hAccepts
  rcases hFault with ⟨fault, hFault⟩
  refine ⟨fault, hFault, ?_⟩
  unfold check
  rw [if_neg hMode]
  dsimp only
  rw [hName, hFault]
  rfl

namespace Session

variable {κ : Type}

/-
  A session of a page of a stored configuration, of which no
  record was loaded: its page was not submitted, and the tree
  is what it was.
-/
structure IsNameless
    (request : PageRequest)
    (tree : Tree)
    (session : Session (List Call × κ × Tree)) : Prop
    extends session.Belongs request where
  unloaded : Call.loadedName session.state.1 = ""
  kept : session.state.2.2 = tree
  unsent : session.page.submitted = false

theorem isNameless_start
    {request : PageRequest}
    (hProper : request.IsProper)
    (options : PageOptions)
    (source : κ)
    (tree : Tree) :
    (start request options ([], source, tree)).IsNameless
      request tree where
  toBelongs :=
    belongs_start hProper options (source, tree)
  unloaded := rfl
  kept := rfl
  unsent := rfl

variable {directory : Directory}
variable {fails : κ → Request → Option ServiceError × κ}
variable {request : PageRequest}
variable {tree : Tree}
variable {session : Session (List Call × κ × Tree)}

namespace IsNameless

theorem name_eq
    (hNameless : session.IsNameless request tree)
    (hStored : request.name ≠ none) :
    session.page.form.projectName.value = "" :=
  (hNameless.name hStored).trans hNameless.unloaded

theorem withForm
    (hNameless : session.IsNameless request tree)
    {form : Form}
    (hRetains : session.page.form.Retains form) :
    (session.withForm form).IsNameless request tree where
  toBelongs := hNameless.toBelongs.withForm hRetains
  unloaded := hNameless.unloaded
  kept := hNameless.kept
  unsent := hNameless.unsent

theorem withPage
    (hNameless : session.IsNameless request tree)
    {page : Page}
    (hRequest : page.request = session.page.request)
    (hForm : page.form = session.page.form)
    (hSubmitted : page.submitted = false) :
    ({ session with page } : Session _).IsNameless request
      tree where
  toBelongs := hNameless.toBelongs.withPage hRequest hForm
  unloaded := hNameless.unloaded
  kept := hNameless.kept
  unsent := hSubmitted

/- A call that neither loads a record nor stores one. -/
theorem call
    (hNameless : session.IsNameless request tree)
    {query : Request}
    {outcome : Except ServiceError query.Answer}
    {state : List Call × κ × Tree}
    (hUnloaded : Call.loadedName? ⟨query, outcome⟩ = none)
    (hKept : state.2.2 = session.state.2.2)
    (hCall :
      (directory.service.disturbed fails).recorded query
          session.state =
        (outcome, state)) :
    ({ session with state } : Session _).IsNameless request
      tree := by
  have hName :
      Call.loadedName state.1 =
        Call.loadedName session.state.1 := by
    rw [Service.calls_of_recorded hCall]
    exact Call.loadedName_cons_of_none hUnloaded _
  constructor
  · exact
      { opened := hNameless.opened
        mode := hNameless.mode
        formType := hNameless.formType
        locked := hNameless.locked
        name := fun hStored =>
          (hNameless.name hStored).trans hName.symm }
  · exact hName.trans hNameless.unloaded
  · exact hKept.trans hNameless.kept
  · exact hNameless.unsent

theorem query
    (hNameless : session.IsNameless request tree)
    {query : Request}
    (hQuery : query.IsQuery)
    (hOther : ∀ name, query ≠ .configuration name)
    {outcome : Except ServiceError query.Answer}
    {state : List Call × κ × Tree}
    (hCall :
      (directory.service.disturbed fails).recorded query
          session.state =
        (outcome, state)) :
    ({ session with state } : Session _).IsNameless request
      tree :=
  hNameless.call (Call.loadedName?_eq_none hOther outcome)
    (Directory.tree_of_disturbed_query hQuery
      (Service.call_of_recorded hCall))
    hCall

/- Only a rejection leaves a page without a name, in vain. -/
theorem sent
    (hNameless : session.IsNameless request tree)
    (hStored : request.name ≠ none)
    {outcome : Except ServiceError Unit}
    {state : List Call × κ × Tree}
    (hCall :
      (directory.service.disturbed fails).recorded
          (.submit session.page.form.toSubmission)
          session.state =
        (outcome, state)) :
    (session.sent outcome state).IsNameless request tree := by
  have hReached := Service.call_of_recorded hCall
  rcases Directory.disturbed_nameless
      (hNameless.name_eq hStored) hReached with
    ⟨hKept, hRefused⟩
  have hAsked := hNameless.call rfl hKept hCall
  rw [hRefused]
  exact hAsked.withPage rfl rfl rfl

theorem carries
    (directory : Directory)
    (fails : κ → Request → Option ServiceError × κ)
    (hStored : request.name ≠ none)
    (tree : Tree)
    (action : Action) :
    Page.Carries (directory.service.disturbed fails).recorded
      request.mode action
      (IsNameless (κ := κ) request tree) where
  modes := by
    intro session hSession
    rw [hSession.opened]
  marks := by
    intro session page hSession hRequest hForm hSubmitted
    exact
      hSession.withPage hRequest hForm
        (hSubmitted.trans hSession.unsent)
  steps := by
    intro session form hSession hStep _
    rw [← hSession.mode] at hStep
    exact hSession.withForm (Form.retains_step hStep)
  edits := by
    intro session path value validate hSession _
    exact
      hSession.withForm
        (session.page.form.retains_edit path value validate)
  asks := by
    intro session query outcome state hSession hAsks _ hCall
    apply hSession.query hAsks.isQuery _ hCall
    cases hAsks <;> simp
  judges := by
    intro session path trigger outcome state hSession _ _ hCall
    have hAsked :=
      hSession.query (by simp [Request.IsQuery]) (by simp)
        hCall
    cases outcome with
    | error error => exact hAsked
    | ok answer =>
        exact
          hAsked.withForm
            (session.page.form.retains_mapTrigger path _)
  sends := by
    intro session outcome state hSession _ _ hCall
    exact hSession.sent hStored hCall

/- Whatever the user does, nothing is loaded or stored. -/
theorem play
    (hNameless : session.IsNameless request tree)
    (hStored : request.name ≠ none)
    {gestures : List Gesture}
    (hOpened : Gesture.act .init ∉ gestures) :
    (Session.play (directory.service.disturbed fails).recorded
      session gestures).IsNameless request tree := by
  apply Page.play_of_keeps _ hNameless
  intro gesture hGesture
  have hTicks :
      Page.SurvivesTicks
        (IsNameless (κ := κ) request tree) := by
    intro later form hLater hTick
    exact hLater.withForm (Form.retains_tick hTick)
  apply hTicks.respond
  rintro action rfl
  apply (carries directory fails hStored tree action).act
  rintro rfl
  exact hOpened hGesture

end IsNameless

end Session

end BuildForm

------------------------------------------------------------
-- Opening a Page in Part
------------------------------------------------------------

namespace BuildForm

namespace Page

open PageM

variable {κ : Type}
variable {directory : Directory}
variable {fails : κ → Request → Option ServiceError × κ}
variable {request : PageRequest}
variable {tree : Tree}
variable {name : String}
variable {answered : List Request}

/- A session without a name, some requests of it answered. -/
def HasAsked
    (request : PageRequest)
    (tree : Tree)
    (answered : List Request)
    (session : Session (List Call × κ × Tree)) : Prop :=
  session.IsNameless request tree ∧
    ∀ part ∈ answered, Call.Answered session.state.1 part

/- A session of a page all parts of which were loaded. -/
def HasParts
    (name : String)
    (session : Session (List Call × κ × Tree)) : Prop :=
  ∀ part ∈ partRequests name,
    Call.Answered session.state.1 part

theorem triple_ask_nameless
    {query : Request}
    (hQuery : query.IsQuery)
    (hOther : ∀ name, query ≠ .configuration name) :
    Triple (HasAsked request tree answered)
      (ask (directory.service.disturbed fails).recorded query)
      (fun _ => HasAsked request tree (query :: answered))
      (fun _ session => session.IsNameless request tree) := by
  apply Triple.ask
  · rintro session answer state ⟨hSession, hAnswered⟩ hCall
    refine ⟨hSession.query hQuery hOther hCall, ?_⟩
    change ∀ part ∈ _, Call.Answered state.1 part
    rw [Service.calls_of_recorded hCall]
    intro part hPart
    rcases List.mem_cons.mp hPart with rfl | hEarlier
    · exact Call.answered_cons session.state.1 answer
    · exact (hAnswered part hEarlier).cons _
  · rintro session error state ⟨hSession, _⟩ hCall
    exact hSession.query hQuery hOther hCall

theorem triple_part_nameless
    (hStored : request.name ≠ none)
    {change : Form → Form}
    (hLoad : ∀ form, Form.LoadStored form (change form))
    {failed : FormError → Session _ → Prop} :
    Triple (HasAsked (κ := κ) request tree answered)
      (modifyForm change)
      (fun _ => HasAsked request tree answered) failed := by
  apply Triple.modifyPage
  rintro session ⟨hSession, hAnswered⟩
  have hLocked := hSession.locked hStored
  exact
    ⟨hSession.withForm
      (Form.retains_loadStored hLocked
        (hLoad session.page.form)),
      hAnswered⟩

/- The record is asked for last, and only then the rest. -/
theorem triple_askRecord :
    Triple
      (HasAsked request tree [.users name, .views name])
      (ask (directory.service.disturbed fails).recorded
        (.configuration name))
      (fun _ => HasParts name)
      (fun _ session => session.IsNameless request tree) := by
  apply Triple.ask
  · rintro session answer state ⟨_, hAnswered⟩ hCall
    change ∀ part ∈ _, Call.Answered state.1 part
    rw [Service.calls_of_recorded hCall]
    intro part hPart
    rcases List.mem_cons.mp hPart with rfl | hEarlier
    · exact Call.answered_cons session.state.1 answer
    · exact (hAnswered part hEarlier).cons _
  · rintro session error state ⟨hSession, _⟩ hCall
    exact
      hSession.call rfl
        (Directory.tree_of_disturbed_query
          (by simp [Request.IsQuery])
          (Service.call_of_recorded hCall))
        hCall

/- What was answered stays so, whatever is asked then. -/
theorem keeps_hasParts_ask (query : Request) :
    Keeps (HasParts name)
      (ask (directory.service.disturbed fails).recorded
        query) := by
  have hMore :
      ∀ (session : Session (List Call × κ × Tree))
        (outcome : Except ServiceError query.Answer) state,
        HasParts name session →
        (directory.service.disturbed fails).recorded query
            session.state =
          (outcome, state) →
        HasParts name { session with state } := by
    intro session outcome state hSession hCall part hPart
    change Call.Answered state.1 part
    rw [Service.calls_of_recorded hCall]
    exact (hSession part hPart).cons _
  apply Triple.ask
  · intro session answer state hSession hCall
    exact hMore session _ state hSession hCall
  · intro session error state hSession hCall
    exact hMore session _ state hSession hCall

theorem keeps_hasParts_modify (change : Form → Form) :
    Keeps (HasParts (κ := κ) name) (modifyForm change) :=
  Triple.modifyPage fun _ hSession => hSession

theorem keeps_hasParts_loadDifference
    (current : Configuration) :
    Keeps (HasParts name)
      (loadDifference
        (directory.service.disturbed fails).recorded name
        current) := by
  unfold loadDifference
  apply Keeps.bind (keeps_hasParts_ask _)
  intro approved
  dsimp only
  apply Keeps.ite
  · apply Keeps.bind (keeps_hasParts_ask _)
    intro deleted
    apply Keeps.bind (keeps_hasParts_modify _)
    intro _
    exact keeps_hasParts_modify _
  · exact keeps_hasParts_modify _

/- A page of which some part may be missing, and no record. -/
def IsPartial
    (request : PageRequest)
    (tree : Tree)
    (name : String)
    (session : Session (List Call × κ × Tree)) : Prop :=
  HasParts name session ∨ session.IsNameless request tree

theorem triple_loadContent_nameless :
    Triple
      (HasAsked request tree [.users name, .views name])
      (loadContent (directory.service.disturbed fails).recorded
        name)
      (fun _ => HasParts name)
      (fun _ => IsPartial request tree name) := by
  unfold loadContent
  apply Triple.bind
    (triple_askRecord.weakenFailed fun _ _ => Or.inr)
  intro config
  have hRest :
      Keeps (HasParts name)
        (if (!config.isApproved) = true then
          loadDifference
            (directory.service.disturbed fails).recorded name
            config
        else
          pure ()) :=
    Keeps.ite (keeps_hasParts_loadDifference config)
      (Keeps.pure ())
  apply Triple.weakenFailed _ fun _ _ => Or.inl
  apply Keeps.bind (keeps_hasParts_modify _)
  intro _
  dsimp only
  split
  · apply Keeps.bind (keeps_hasParts_ask _)
    intro fullName
    apply Keeps.bind (keeps_hasParts_modify _)
    intro _
    exact hRest
  · exact hRest

theorem triple_openStored_nameless
    (hStored : request.name ≠ none) :
    Triple (HasAsked request tree [])
      (openStored (directory.service.disturbed fails).recorded
        name)
      (fun _ => HasParts name)
      (fun _ => IsPartial request tree name) := by
  unfold openStored loadViews loadUsers
  have hViews :
      Triple (HasAsked request tree [])
        (ask (directory.service.disturbed fails).recorded
          (.views name))
        (fun _ => HasAsked request tree [.views name])
        (fun _ => IsPartial request tree name) :=
    (triple_ask_nameless (by simp [Request.IsQuery])
      (by simp)).weakenFailed fun _ _ => Or.inr
  have hUsers :
      Triple (HasAsked request tree [.views name])
        (ask (directory.service.disturbed fails).recorded
          (.users name))
        (fun _ =>
          HasAsked request tree [.users name, .views name])
        (fun _ => IsPartial request tree name) :=
    (triple_ask_nameless (by simp [Request.IsQuery])
      (by simp)).weakenFailed fun _ _ => Or.inr
  apply Triple.bind
  · apply Triple.bind hViews
    intro loaded
    exact
      triple_part_nameless hStored fun form =>
        .views form loaded
  · intro _
    apply Triple.bind
    · apply Triple.bind hUsers
      intro loaded
      exact
        triple_part_nameless hStored fun form =>
          .users form loaded.html loaded.users
    · intro _
      apply Triple.bind triple_loadContent_nameless
      intro _
      have hShown :
          Keeps (HasParts (κ := κ) name) (do
            modifyForm fun form =>
              { form with
                nameLocked := true
                commentsEnabled := true }
            setStatus (.loaded name)) := by
        apply Keeps.bind (keeps_hasParts_modify _)
        intro _
        exact Triple.modifyPage fun _ hSession => hSession
      exact hShown.weakenFailed fun _ _ => Or.inl

/- An opening that misses a part leaves the page nameless. -/
theorem triple_init_nameless
    (hName : request.name = some name) :
    Triple
      (fun session : Session (List Call × κ × Tree) =>
        session.IsNameless request tree)
      (init (directory.service.disturbed fails).recorded)
      (fun _ => IsPartial request tree name)
      (fun _ => IsPartial request tree name) := by
  have hStored : request.name ≠ none := by simp [hName]
  have hPage :
      Triple
        (fun session : Session (List Call × κ × Tree) =>
          session.IsNameless request tree)
        getPage
        (fun page session =>
          page.request.name = some name ∧
            HasAsked request tree [] session)
        (fun _ => IsPartial request tree name) := by
    apply Triple.getPage
    intro session hSession
    refine ⟨?_, hSession, by simp⟩
    rw [hSession.opened]
    exact hName
  have hAdministrator :
      Keeps (HasParts name) (do
        let isAdmin : Bool ←
          ask (directory.service.disturbed fails).recorded
            .isAdministrator
        modifyForm fun form => { form with isAdmin }) := by
    apply Keeps.bind (keeps_hasParts_ask _)
    intro isAdmin
    exact keeps_hasParts_modify _
  unfold init
  apply Triple.bind hPage
  intro page
  apply Triple.given
  intro hPageName
  dsimp only
  rw [hPageName]
  apply Triple.bind (triple_openStored_nameless hStored)
  intro _
  apply (hAdministrator.weakenFailed fun _ _ => Or.inl).weaken
  · exact fun _ hSession => hSession
  · exact fun _ _ => Or.inl

theorem triple_act_init_nameless
    (directory : Directory)
    (fails : κ → Request → Option ServiceError × κ)
    (tree : Tree)
    (hName : request.name = some name) :
    Triple
      (fun session : Session (List Call × κ × Tree) =>
        session.IsNameless request tree)
      (act (directory.service.disturbed fails).recorded .init)
      (fun _ => IsPartial request tree name)
      (fun _ => IsPartial request tree name) := by
  refine Triple.bind ?_ fun _ => Triple.pure fun _ hSession =>
    hSession
  apply (triple_init_nameless hName).reportedAs
  rintro error session (hParts | hSession)
  · exact Or.inl hParts
  · exact Or.inr (hSession.withPage rfl rfl hSession.unsent)

end Page

end BuildForm

------------------------------------------------------------
-- A Page Opened in Part
------------------------------------------------------------

namespace BuildForm

namespace Session

variable {κ : Type}
variable {directory : Directory}
variable {fails : κ → Request → Option ServiceError × κ}
variable {request : PageRequest}
variable {tree : Tree}
variable {session : Session (List Call × κ × Tree)}

/-
  Submitting ends at the project name, or before the check at
  a schedule that the service does not judge.
-/
def IsBlockedAtName
    {σ : Type}
    (service : Service (List Call × σ))
    (session : Session (List Call × σ)) : Prop :=
  let result := step service session .submit
  (∃ fault,
      FieldKind.projectName.fault? "" = some fault ∧
        result.1 =
          .error (.invalid .projectName (.rule fault))) ∨
    ∃ expression error earlier,
      result.1 = .error (.service error) ∧
        result.2.state.1 =
          ⟨.judgeTrigger expression, .error error⟩ :: earlier

/-
  Confirming a rejection sends nothing, or what it sends is
  refused: for want of a name, unless it is made to fail.
-/
def IsRefusedToReject
    (directory : Directory)
    (fails : κ → Request → Option ServiceError × κ)
    (session : Session (List Call × κ × Tree)) : Prop :=
  let service := (directory.service.disturbed fails).recorded
  let result := step service session .confirmReject
  result.2.state.1 = session.state.1 ∨
    ∃ submission error,
      error =
          (fails session.state.2.1 (.submit submission)).1.getD
            (.refused .namelessRecord) ∧
        result.1 = .error (.service error) ∧
        result.2.state.1 =
          ⟨.submit submission, .error error⟩ ::
            session.state.1

namespace IsNameless

/- Up to the check nothing changes but verdicts. -/
theorem triple_prepare
    (directory : Directory)
    (fails : κ → Request → Option ServiceError × κ) :
    PageM.Triple
      (fun session : Session (List Call × κ × Tree) =>
        session.IsNameless request tree)
      (Page.prepare (directory.service.disturbed fails).recorded)
      (fun _ session =>
        session.IsNameless request tree ∧
          session.page.submitted = false)
      (fun error session =>
        ∃ expression fault earlier,
          error = .service fault ∧
            session.state.1 =
              ⟨.judgeTrigger expression, .error fault⟩ ::
                earlier) := by
  apply Page.prepare_spec
  · intro session hSession hSubmitted
    rw [hSession.unsent] at hSubmitted
    cases hSubmitted
  · intro session path trigger answer state hSession _ hCall
    have hAsked :=
      hSession.query (by simp [Request.IsQuery]) (by simp)
        hCall
    exact
      hAsked.withForm
        (session.page.form.retains_mapTrigger path _)
  · intro session path trigger error state _ _ _ hCall
    exact
      ⟨trigger.field.value, error, session.state.1, rfl,
        Service.calls_of_recorded hCall⟩

theorem isBlockedAtName
    (hNameless : session.IsNameless request tree)
    (hStored : request.name ≠ none)
    (hMode : request.mode ≠ .view) :
    IsBlockedAtName
      (directory.service.disturbed fails).recorded session := by
  have hPrepared :=
    triple_prepare directory fails session hNameless
  unfold IsBlockedAtName
  rw [step_submit, Page.perform_submit]
  rcases hPerform :
      (Page.prepare
        (directory.service.disturbed fails).recorded).perform
        session with
    ⟨result, after⟩
  rw [hPerform] at hPrepared
  cases result with
  | error error =>
      rcases hPrepared with
        ⟨expression, fault, earlier, rfl, hCalls⟩
      exact
        Or.inr ⟨expression, fault, earlier, rfl, hCalls⟩
  | ok =>
      rcases hPrepared with ⟨hAfter, _⟩
      have hForm : after.page.form.mode ≠ .view := by
        rw [hAfter.mode]
        exact hMode
      rcases Form.check_of_nameless hForm
          (hAfter.name_eq hStored) with
        ⟨fault, hFault, hCheck⟩
      dsimp only
      rw [hCheck]
      exact Or.inl ⟨fault, hFault, rfl⟩

theorem isRefusedToReject
    (hNameless : session.IsNameless request tree)
    (hStored : request.name ≠ none) :
    IsRefusedToReject directory fails session := by
  unfold IsRefusedToReject
  dsimp only
  rw [step_confirmReject]
  unfold rejection
  split
  · exact Or.inl rfl
  · split
    · exact Or.inl rfl
    · split
      · exact Or.inl rfl
      · right
        rw [Page.perform_send]
        dsimp only
        generalize hSent :
          session.withForm session.page.form.rejected = sent
        have hState : sent.state = session.state := by
          rw [← hSent]
          rfl
        have hName : sent.page.form.projectName.value = "" := by
          rw [← hSent]
          exact hNameless.name_eq hStored
        rcases hCall :
            (directory.service.disturbed fails).recorded
              (.submit sent.page.form.toSubmission)
              sent.state with
          ⟨outcome, state⟩
        have hCalls := Service.calls_of_recorded hCall
        rcases Directory.disturbed_nameless hName
            (Service.call_of_recorded hCall) with
          ⟨_, hRefused⟩
        rw [hState] at hCalls hRefused
        subst hRefused
        exact
          ⟨sent.page.form.toSubmission, _, rfl, rfl, hCalls⟩

end IsNameless

/-
  For every query that opens the page of a configuration to be
  edited, approved or rejected, every store, any calls to it
  that are made to fail and any run in which the page is opened
  once: the views, the users and the record were all loaded, or
  no file changes, submitting is blocked at the project name
  and rejections are refused.
-/
theorem play_halfLoaded_harmless
    (directory : Directory)
    (fails : κ → Request → Option ServiceError × κ)
    (query name : String)
    (request : PageRequest)
    (options : PageOptions)
    (source : κ)
    (tree : Tree)
    (before after : List Gesture)
    (hParse : PageRequest.parse query = .ok request)
    (hName : request.name = some name)
    (hMode : request.mode ≠ .view)
    (hBefore : Gesture.act .init ∉ before)
    (hAfter : Gesture.act .init ∉ after) :
    let service := (directory.service.disturbed fails).recorded
    let waiting :=
      play service (start request options ([], source, tree))
        before
    let opened := (step service waiting .init).2
    let last := play service opened after
    (∀ part ∈ Page.partRequests name,
        Call.Answered opened.state.1 part) ∨
      last.state.2.2 = tree ∧
        IsBlockedAtName service last ∧
        IsRefusedToReject directory fails last := by
  intro service waiting opened last
  have hProper := PageRequest.isProper_of_parse hParse
  have hStored : request.name ≠ none := by simp [hName]
  have hWaiting : waiting.IsNameless request tree :=
    (isNameless_start hProper options source tree).play hStored
      hBefore
  have hOpening :=
    Page.triple_act_init_nameless directory fails tree hName
      waiting hWaiting
  have hOpened : Page.IsPartial request tree name opened := by
    change
      Page.IsPartial request tree name
        ((Page.act service .init).perform waiting).2
    rcases hPerform :
        (Page.act service .init).perform waiting with
      ⟨result, session⟩
    rw [hPerform] at hOpening
    cases result <;> exact hOpening
  rcases hOpened with hParts | hNameless
  · exact Or.inl hParts
  · right
    have hLast : last.IsNameless request tree :=
      hNameless.play hStored hAfter
    exact
      ⟨hLast.kept, hLast.isBlockedAtName hStored hMode,
        hLast.isRefusedToReject hStored⟩

/- A page to reject whose record cannot be read for once. -/
theorem play_halfLoaded_harmless_unread :
    let directory : Directory := { root := "store" }
    let fails := fun (_ : Unit) (request : Request) =>
      if request = .configuration "core" then
        (some (ServiceError.unavailable "down"), ())
      else
        (none, ())
    let query := "?name=core&type=approveReject"
    let request : PageRequest := .opening .approveReject "core"
    let tree : Tree :=
      .directory
        [("core", .directory
          [("config.json", .file (.text
            "\x7b\"projectName\": \"core\"\x7d"))])]
    let after :=
      [Gesture.act .openReject,
        .act (.edit .rejectionReason "too late")]
    let service := (directory.service.disturbed fails).recorded
    let opened :=
      (step service (start request {} ([], (), tree)) .init).2
    let last := play service opened after
    PageRequest.parse query = .ok request ∧
      request.name = some "core" ∧
      request.mode ≠ .view ∧
      ¬Call.Answered opened.state.1 (.configuration "core") ∧
      last.state.2.2 = tree ∧
      IsBlockedAtName service last ∧
      IsRefusedToReject directory fails last := by
  intro directory fails query request tree after service opened
    last
  have hParse : PageRequest.parse query = .ok request := by
    decide +kernel
  have hNone :
      opened.state.1.findSome? Call.loadedName? = none := by
    decide +kernel
  have hUnread :
      ¬Call.Answered opened.state.1
        (.configuration "core") := by
    rintro ⟨config, hCall⟩
    cases List.findSome?_eq_none_iff.mp hNone _ hCall
  have hOnce : Gesture.act .init ∉ after := by decide
  have hName : request.name = some "core" := rfl
  have hMode : request.mode ≠ .view := by decide
  -- The theorem is about any run, so this one stays closed.
  clear_value query request tree after
  have hHarmless :=
    play_halfLoaded_harmless directory fails query "core"
      request {} () tree [] after hParse hName hMode
      List.not_mem_nil hOnce
  rcases hHarmless with hParts | hLast
  · exact absurd (hParts _ List.mem_cons_self) hUnread
  · exact ⟨hParse, hName, hMode, hUnread, hLast⟩

end Session

end BuildForm
