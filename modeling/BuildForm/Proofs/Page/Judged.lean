import BuildForm.Proofs.Form.Identity
import BuildForm.Proofs.Page.Checked
import BuildForm.Proofs.Page.Gestures

/-
  No schedule is submitted that was not judged.

  The history of a run tells what was typed into which input,
  for which trigger a schedule was judged, and what was sent.
  A verdict on a form is vouched for by the history: nothing
  was typed into the trigger since its schedule was judged,
  and the answer was the last one for it. A form is sent only
  once each of its schedules has a verdict, none of them
  against it.

  Main declarations:
    * `Page.Event`
    * `Page.Diary`
    * `Session.history`
    * `Form.VouchedBy`
    * `Session.Accounts`
    * `Session.accounts_respond`
    * `Session.play_submits_judged`
-/

------------------------------------------------------------
-- Events of a Page
------------------------------------------------------------

namespace BuildForm

/- The schedule of a configuration at a trigger, if any. -/
def Configuration.schedule?
    (config : Configuration) : FieldPath → Option String
  | .pollScmTrigger => config.pollScmTrigger
  | .buildPeriodicallyTrigger => config.buildPeriodicallyTrigger
  | _ => none

namespace Call

/- Whether a call has a schedule judged, or submits a form. -/
def isTold : Call → Bool
  | ⟨.judgeTrigger _, _⟩ => true
  | ⟨.submit _, _⟩ => true
  | _ => false

theorem isTold_of_isQuery
    {call : Call}
    (hQuery : call.request.IsQuery)
    (hQuiet : call.request.isJudgment = false) :
    call.isTold = false := by
  rcases call with ⟨request, outcome⟩
  cases request with
  | judgeTrigger expression => cases hQuiet
  | submit submission => exact absurd rfl (hQuery submission)
  | _ => rfl

/- The calls that were made since some earlier ones. -/
def since (before calls : List Call) : List Call :=
  calls.take (calls.length - before.length)

theorem since_self (calls : List Call) :
    since calls calls = [] := by
  simp [since]

theorem since_cons
    {before calls : List Call}
    (hGoesOn : before <:+ calls)
    (call : Call) :
    since before (call :: calls) =
      call :: since before calls := by
  have hLength := hGoesOn.length_le
  unfold since
  rw [List.length_cons, Nat.succ_sub hLength, List.take_succ_cons]

end Call

namespace Page

/- What happens on a page and bears on its schedules. -/
inductive Event where
  | typed (path : FieldPath)
  | judged
      (path : FieldPath)
      (expression : String)
      (outcome : Except ServiceError String)
  | sent
      (submission : Submission)
      (outcome : Except ServiceError Unit)

namespace Event

/- The call that an event tells of, if it was one. -/
def call? : Event → Option Call
  | .typed _ => none
  | .judged _ expression outcome =>
      some ⟨.judgeTrigger expression, outcome⟩
  | .sent submission outcome =>
      some ⟨.submit submission, outcome⟩

/- Whether a trigger was typed into or got an answer. -/
def concerns (path : FieldPath) : Event → Bool
  | .typed other => other = path
  | .judged other _ (.ok _) => other = path
  | _ => false

/-
  The last that happened to a trigger was that its schedule
  was judged, with an answer.
-/
def LastJudged
    (events : List Event)
    (path : FieldPath)
    (expression answer : String) : Prop :=
  events.find? (concerns path) =
    some (.judged path expression (.ok answer))

theorem LastJudged.cons
    {events : List Event}
    {path : FieldPath}
    {expression answer : String}
    (hLast : LastJudged events path expression answer)
    {event : Event}
    (hOther : event.concerns path = false) :
    LastJudged (event :: events) path expression answer := by
  unfold LastJudged
  rw [List.find?_cons_of_neg (by simp [hOther])]
  exact hLast

theorem lastJudged_head
    (events : List Event)
    (path : FieldPath)
    (expression answer : String) :
    LastJudged (.judged path expression (.ok answer) :: events)
      path expression answer := by
  unfold LastJudged
  exact List.find?_cons_of_pos (by simp [concerns])

/-
  Every schedule that was sent was judged before, as the last
  that happened to its trigger and without an error.
-/
def AllJudged (events : List Event) : Prop :=
  ∀ later submission outcome earlier,
    events = later ++ .sent submission outcome :: earlier →
    ∀ path expression,
      submission.configuration.schedule? path =
        some expression →
      ∃ answer,
        LastJudged earlier path expression answer ∧
          ¬TriggerCheck.errorMarker.toList <:+: answer.toList

theorem AllJudged.cons
    {events : List Event}
    (hJudged : AllJudged events)
    {event : Event}
    (hEvent :
      ∀ submission outcome,
        event = .sent submission outcome →
        ∀ path expression,
          submission.configuration.schedule? path =
            some expression →
          ∃ answer,
            LastJudged events path expression answer ∧
              ¬TriggerCheck.errorMarker.toList <:+:
                answer.toList) :
    AllJudged (event :: events) := by
  intro later submission outcome earlier hEvents
  rcases List.cons_eq_append_iff.mp hEvents with
    ⟨rfl, hHead⟩ | ⟨newer, rfl, hTail⟩
  · cases hHead
    exact hEvent submission outcome rfl
  · exact hJudged newer submission outcome earlier hTail

end Event

end Page

end BuildForm

------------------------------------------------------------
-- The History of a Run
------------------------------------------------------------

namespace BuildForm

namespace Gesture

open Page

/- The inputs that a gesture types into. -/
def typing : Gesture → List Event
  | .act (.edit path _) => [.typed path]
  | _ => []

/-
  The trigger that a gesture on a form has judged, after it
  got some answers: the one that it names, or on submitting
  each in turn of those that were stale.
-/
def judges?
    (gesture : Gesture)
    (form : Form)
    (answered : Nat) : Option FieldPath :=
  match gesture with
  | .act (.checkTrigger path) => some path
  | .act .submit => form.staleTriggers[answered]?
  | _ => none

end Gesture

namespace Page

/- The events so far, and how many answers a gesture got. -/
structure Diary where
  answered : Nat := 0
  events : List Event

namespace Diary

/- Note a call that a gesture on a form makes. -/
def note
    (gesture : Gesture)
    (form : Form)
    (call : Call)
    (diary : Diary) : Diary :=
  match call with
  | ⟨.judgeTrigger expression, outcome⟩ =>
      match gesture.judges? form diary.answered with
      | some path =>
          { answered :=
              if outcome.isOk then
                diary.answered + 1
              else
                diary.answered
            events :=
              .judged path expression outcome :: diary.events }
      | none => diary
  | ⟨.submit submission, outcome⟩ =>
      { diary with
        events := .sent submission outcome :: diary.events }
  | _ => diary

theorem note_of_untold
    {call : Call}
    (hUntold : call.isTold = false)
    (gesture : Gesture)
    (form : Form)
    (diary : Diary) :
    diary.note gesture form call = diary := by
  rcases call with ⟨request, outcome⟩
  cases request with
  | judgeTrigger expression => cases hUntold
  | submit submission => cases hUntold
  | _ => rfl

theorem note_judgment
    {gesture : Gesture}
    {form : Form}
    {diary : Diary}
    {path : FieldPath}
    (hPath :
      gesture.judges? form diary.answered = some path)
    (expression : String)
    (outcome : Except ServiceError String) :
    diary.note gesture form
        ⟨.judgeTrigger expression, outcome⟩ =
      { answered :=
          if outcome.isOk then
            diary.answered + 1
          else
            diary.answered
        events :=
          .judged path expression outcome :: diary.events } := by
  unfold note
  dsimp only
  rw [hPath]

theorem foldr_note_of_untold
    {calls : List Call}
    (hUntold : ∀ call ∈ calls, call.isTold = false)
    (gesture : Gesture)
    (form : Form)
    (diary : Diary) :
    calls.foldr (note gesture form) diary = diary := by
  induction calls with
  | nil => rfl
  | cons call calls ih =>
      have hCalls := ih fun other hOther =>
        hUntold other (List.mem_cons_of_mem _ hOther)
      rw [List.foldr_cons, hCalls]
      exact note_of_untold (hUntold call List.mem_cons_self) _ _ _

end Diary

end Page

namespace Session

open Page

variable {σ : Type}

/- The diary of a gesture after it made some calls. -/
def diary
    (before : Session (List Call × σ))
    (gesture : Gesture)
    (events : List Event)
    (calls : List Call) : Diary :=
  (Call.since before.state.1 calls).foldr
    (Diary.note gesture before.page.form)
    { events }

/-
  The events of a run after some earlier ones, the latest
  first. What a gesture types comes after its calls, as there
  is no gesture that does both.
-/
def history
    (service : Service σ)
    (session : Session (List Call × σ))
    (events : List Event) : List Gesture → List Event
  | [] => events
  | gesture :: gestures =>
      let after := play service.recorded session [gesture]
      let told := diary session gesture events after.state.1
      history service after (gesture.typing ++ told.events)
        gestures

theorem diary_self
    (session : Session (List Call × σ))
    (gesture : Gesture)
    (events : List Event) :
    diary session gesture events session.state.1 =
      { events } := by
  unfold diary
  rw [Call.since_self]
  rfl

/- A call is noted when it is made. -/
theorem diary_cons
    {before : Session (List Call × σ)}
    {calls : List Call}
    (hGoesOn : before.state.1 <:+ calls)
    (gesture : Gesture)
    (events : List Event)
    (call : Call) :
    diary before gesture events (call :: calls) =
      (diary before gesture events calls).note gesture
        before.page.form call := by
  unfold diary
  rw [Call.since_cons hGoesOn]
  rfl

end Session

end BuildForm

------------------------------------------------------------
-- Verdicts that Are Vouched For
------------------------------------------------------------

namespace BuildForm

namespace Form

open Page

/- Each verdict is the last answer for the schedule it is on. -/
def VouchedBy (events : List Event) (form : Form) : Prop :=
  ∀ path trigger check,
    form.trigger? path = some trigger →
    trigger.check = some check →
    ∃ answer,
      check = .ofAnswer answer ∧
        Event.LastJudged events path trigger.field.value answer

theorem IsUnjudged.vouchedBy
    {form : Form}
    (hUnjudged : form.IsUnjudged)
    (events : List Event) : form.VouchedBy events := by
  intro path trigger check hTrigger hCheck
  rw [hUnjudged.check_eq_none hTrigger] at hCheck
  cases hCheck

variable {events : List Event}
variable {form after : Form}
variable {path : FieldPath}

namespace VouchedBy

theorem of_same
    (hVouched : form.VouchedBy events)
    (hSame : after.SameTriggers form) :
    after.VouchedBy events := by
  intro other trigger check hTrigger
  rw [hSame.trigger?_eq] at hTrigger
  exact hVouched other trigger check hTrigger

/- An event that is no typing and no answer changes nothing. -/
theorem cons
    (hVouched : form.VouchedBy events)
    {event : Event}
    (hOther : ∀ path, event.concerns path = false) :
    form.VouchedBy (event :: events) := by
  intro other trigger check hTrigger hCheck
  rcases hVouched other trigger check hTrigger hCheck with
    ⟨answer, hAnswer, hLast⟩
  exact ⟨answer, hAnswer, hLast.cons (hOther other)⟩

theorem judge
    (hVouched : form.VouchedBy events)
    {trigger : Trigger}
    (hTrigger : form.trigger? path = some trigger)
    (answer : String) :
    (form.mapTrigger path fun trigger =>
      { trigger with
        check := some (.ofAnswer answer) }).VouchedBy
      (.judged path trigger.field.value (.ok answer) ::
        events) := by
  intro other judged check hJudged hCheck
  rw [trigger?_mapTrigger] at hJudged
  by_cases hPath : other = path
  · subst hPath
    rw [if_pos rfl, hTrigger] at hJudged
    cases hJudged
    cases hCheck
    exact ⟨answer, rfl, Event.lastJudged_head _ _ _ _⟩
  · rw [if_neg hPath] at hJudged
    rcases hVouched other judged check hJudged hCheck with
      ⟨given, hGiven, hLast⟩
    have hOther :
        (Event.judged path trigger.field.value
          (.ok answer)).concerns other = false :=
      decide_eq_false (Ne.symm hPath)
    exact ⟨given, hGiven, hLast.cons hOther⟩

/- Typing leaves no verdict that would need an answer. -/
theorem edit
    (hVouched : form.VouchedBy events)
    (hMutable : form.mode.isMutable)
    (value : String)
    (validate : Bool) :
    (form.edit path value validate).2.VouchedBy
      (.typed path :: events) := by
  intro other trigger check hTrigger hCheck
  by_cases hPath : other = path
  · subst hPath
    rw [check_edit hMutable hTrigger] at hCheck
    cases hCheck
  · rw [trigger?_edit form value validate hPath] at hTrigger
    rcases hVouched other trigger check hTrigger hCheck with
      ⟨answer, hAnswer, hLast⟩
    have hOther : (Event.typed path).concerns other = false :=
      decide_eq_false (Ne.symm hPath)
    exact ⟨answer, hAnswer, hLast.cons hOther⟩

end VouchedBy

/- A schedule that a form submits is the text of a trigger. -/
theorem exists_trigger?_of_schedule?
    {expression : String}
    (hSchedule :
      form.toConfiguration.schedule? path = some expression) :
    ∃ trigger,
      form.trigger? path = some trigger ∧
        trigger.field.value = expression ∧ expression ≠ "" := by
  have hText :
      ∀ value, textOrNone value = some expression →
        value = expression ∧ expression ≠ "" := by
    intro value hValue
    unfold textOrNone at hValue
    split at hValue
    · cases hValue
    · rename_i hGiven
      cases hValue
      exact ⟨rfl, hGiven⟩
  cases path with
  | pollScmTrigger => exact ⟨_, rfl, hText _ hSchedule⟩
  | buildPeriodicallyTrigger => exact ⟨_, rfl, hText _ hSchedule⟩
  | _ => cases hSchedule

/-
  On a form that is ready to be sent each schedule has a
  verdict, as none is stale, and it is not against it.
-/
theorem VouchedBy.lastJudged_of_isReady
    {mode : PageMode}
    (hVouched : form.VouchedBy events)
    (hMutable : mode.isMutable)
    (hReady : form.IsReady mode)
    {expression : String}
    (hSchedule :
      form.toConfiguration.schedule? path = some expression) :
    ∃ answer,
      Event.LastJudged events path expression answer ∧
        ¬TriggerCheck.errorMarker.toList <:+:
          answer.toList := by
  rcases exists_trigger?_of_schedule? hSchedule with
    ⟨trigger, hTrigger, rfl, hGiven⟩
  have hFresh : path ∉ form.staleTriggers := by
    rw [hReady.judged hMutable]
    exact List.not_mem_nil
  cases hCheck : trigger.check with
  | none =>
      have hStale :
          (form.trigger? path).any Page.isStale := by
        rw [hTrigger]
        simp [Page.isStale, hCheck, hGiven]
      exact absurd (mem_staleTriggers hStale) hFresh
  | some check =>
      rcases hVouched path trigger check hTrigger hCheck with
        ⟨answer, rfl, hLast⟩
      have hValid :=
        triggerOffence?_eq_none_iff.mp hReady.triggers path
          trigger _ hTrigger hCheck
      exact
        ⟨answer, hLast,
          (TriggerCheck.ofAnswer_valid_iff answer).mp hValid⟩

end Form

end BuildForm

------------------------------------------------------------
-- Pages that Account for Their Schedules
------------------------------------------------------------

namespace BuildForm

namespace Session

open Page

variable {σ : Type}

/-
  A session of a mode whose verdicts are vouched for by some
  events, which tell all of the calls that matter and in which
  no schedule was sent that was not judged.
-/
structure Accounts
    (mode : PageMode)
    (events : List Event)
    (session : Session (List Call × σ)) : Prop where
  opened : session.page.request.mode = mode
  mode : session.page.form.mode = mode
  vouched : session.page.form.VouchedBy events
  judged : Event.AllJudged events
  told :
    events.filterMap Event.call? =
      session.state.1.filter Call.isTold

/-
  What has become of a session during a gesture that is noted
  in a diary. On submitting, the triggers that are still stale
  are those that got no answer yet.
-/
structure Keeping
    (mode : PageMode)
    (before : Session (List Call × σ))
    (gesture : Gesture)
    (events : List Event)
    (session : Session (List Call × σ)) : Prop where
  goesOn : before.state.1 <:+ session.state.1
  accounts :
    session.Accounts mode
      (diary before gesture events session.state.1).events
  stale :
    gesture = .act .submit →
    before.page.form.staleTriggers.drop
        (diary before gesture events
          session.state.1).answered =
      session.page.form.staleTriggers

variable {service : Service σ}
variable {mode : PageMode}
variable {gesture : Gesture}
variable {action : Action}
variable {events : List Event}
variable {before session : Session (List Call × σ)}

theorem keeping_refl
    (hAccounts : session.Accounts mode events)
    (gesture : Gesture) :
    Keeping mode session gesture events session where
  goesOn := List.suffix_refl _
  accounts := by
    rw [diary_self]
    exact hAccounts
  stale := by
    intro _
    rw [diary_self]
    rfl

namespace Keeping

/- The page may change as long as its triggers do not. -/
theorem withPage
    (hKeeping : Keeping mode before gesture events session)
    {page : Page}
    (hRequest : page.request = session.page.request)
    (hMode : page.form.mode = session.page.form.mode)
    (hSame : page.form.SameTriggers session.page.form) :
    Keeping mode before gesture events
      { session with page } where
  goesOn := hKeeping.goesOn
  accounts := by
    have hAccounts := hKeeping.accounts
    refine
      ⟨?_, hMode.trans hAccounts.mode,
        hAccounts.vouched.of_same hSame, hAccounts.judged,
        hAccounts.told⟩
    change page.request.mode = mode
    rw [hRequest]
    exact hAccounts.opened
  stale := by
    intro hSubmit
    change _ = page.form.staleTriggers
    rw [hSame.staleTriggers_eq]
    exact hKeeping.stale hSubmit

/- A call is noted, together with what it did to the page. -/
theorem call
    (hKeeping : Keeping mode before gesture events session)
    {request : Request}
    {outcome : Except ServiceError request.Answer}
    {state : List Call × σ}
    (hCall :
      service.recorded request session.state =
        (outcome, state))
    (page : Page)
    (hRequest : page.request = session.page.request)
    (hMode : page.form.mode = session.page.form.mode)
    {noted : Diary}
    (hNoted :
      (diary before gesture events session.state.1).note
          gesture before.page.form ⟨request, outcome⟩ =
        noted)
    (hVouched : page.form.VouchedBy noted.events)
    (hJudged : Event.AllJudged noted.events)
    (hTold :
      noted.events.filterMap Event.call? =
        (⟨request, outcome⟩ :: session.state.1).filter
          Call.isTold)
    (hStale :
      gesture = .act .submit →
      before.page.form.staleTriggers.drop noted.answered =
        page.form.staleTriggers) :
    Keeping mode before gesture events { page, state } := by
  have hCalls := Service.calls_of_recorded hCall
  have hDiary :
      diary before gesture events state.1 = noted := by
    rw [hCalls, diary_cons hKeeping.goesOn]
    exact hNoted
  constructor
  · change before.state.1 <:+ state.1
    rw [hCalls]
    exact hKeeping.goesOn.trans (List.suffix_cons _ _)
  · change Accounts mode (diary _ _ _ state.1).events _
    rw [hDiary]
    refine ⟨?_, ?_, hVouched, hJudged, ?_⟩
    · change page.request.mode = mode
      rw [hRequest]
      exact hKeeping.accounts.opened
    · exact hMode.trans hKeeping.accounts.mode
    · change _ = state.1.filter Call.isTold
      rw [hCalls]
      exact hTold
  · change
      gesture = .act .submit →
        before.page.form.staleTriggers.drop
            (diary _ _ _ state.1).answered =
          _
    rw [hDiary]
    exact hStale

/- Calls that are not told are not noted either. -/
theorem untold
    (hKeeping : Keeping mode before gesture events session)
    {request : Request}
    {outcome : Except ServiceError request.Answer}
    (hUntold : Call.isTold ⟨request, outcome⟩ = false)
    {state : List Call × σ}
    (hCall :
      service.recorded request session.state =
        (outcome, state)) :
    Keeping mode before gesture events
      { session with state } := by
  have hAccounts := hKeeping.accounts
  apply hKeeping.call hCall session.page rfl rfl
    (Diary.note_of_untold hUntold _ _ _)
    hAccounts.vouched hAccounts.judged _ hKeeping.stale
  rw [List.filter_cons_of_neg (by simp [hUntold])]
  exact hAccounts.told

/- The diary knows which trigger a schedule is judged for. -/
theorem judges?_eq
    (hKeeping :
      Keeping mode before (.act action) events session)
    {path : FieldPath}
    (hJudges : action.Judges session.page.form path) :
    Gesture.judges? (.act action) before.page.form
        (diary before (.act action) events
          session.state.1).answered =
      some path := by
  rcases hJudges with rfl | ⟨rfl, hFirst⟩
  · rfl
  · have hStale := hKeeping.stale rfl
    rw [← hStale, List.head?_drop] at hFirst
    exact hFirst

/- A failure is noted, and leaves the trigger as it was. -/
theorem unanswered
    (hKeeping :
      Keeping mode before (.act action) events session)
    {path : FieldPath}
    (hJudges : action.Judges session.page.form path)
    {expression : String}
    {error : ServiceError}
    {state : List Call × σ}
    (hCall :
      service.recorded (.judgeTrigger expression)
          session.state =
        (.error error, state)) :
    Keeping mode before (.act action) events
      { session with state } := by
  have hAccounts := hKeeping.accounts
  apply hKeeping.call hCall session.page rfl rfl
    (Diary.note_judgment (hKeeping.judges?_eq hJudges) _ _)
  · exact hAccounts.vouched.cons fun _ => rfl
  · apply hAccounts.judged.cons
    intro submission outcome hSent
    cases hSent
  · rw [List.filter_cons_of_pos rfl, ← hAccounts.told]
    rfl
  · exact hKeeping.stale

/- An answer is noted, and goes to the trigger judged. -/
theorem answered
    (hKeeping :
      Keeping mode before (.act action) events session)
    {path : FieldPath}
    {trigger : Trigger}
    (hTrigger : session.page.form.trigger? path = some trigger)
    (hJudges : action.Judges session.page.form path)
    {answer : String}
    {state : List Call × σ}
    (hCall :
      service.recorded (.judgeTrigger trigger.field.value)
          session.state =
        (.ok answer, state)) :
    Keeping mode before (.act action) events
      (session.judged path (.ok answer) state) := by
  have hAccounts := hKeeping.accounts
  have hRetains :=
    session.page.form.retains_mapTrigger path fun trigger =>
      { trigger with check := some (.ofAnswer answer) }
  apply hKeeping.call hCall
    (session.judged path (.ok answer) state).page rfl
    hRetains.mode
    (Diary.note_judgment (hKeeping.judges?_eq hJudges) _ _)
  · exact hAccounts.vouched.judge hTrigger answer
  · apply hAccounts.judged.cons
    intro submission outcome hSent
    cases hSent
  · rw [List.filter_cons_of_pos rfl, ← hAccounts.told]
    rfl
  · intro hSubmit
    cases hSubmit
    rcases hJudges with hCheck | ⟨_, hFirst⟩
    · cases hCheck
    · have hRest :=
        Form.staleTriggers_judge hFirst (.ofAnswer answer)
      change before.page.form.staleTriggers.drop (_ + 1) = _
      rw [← List.tail_drop, hKeeping.stale rfl, hRest]
      rfl

/- A submission is noted, its schedules all judged. -/
theorem sent
    (hKeeping : Keeping mode before gesture events session)
    (hMutable : mode.isMutable)
    (hReady : session.page.form.IsReady mode)
    {outcome : Except ServiceError Unit}
    {state : List Call × σ}
    (hCall :
      service.recorded
          (.submit session.page.form.toSubmission)
          session.state =
        (outcome, state)) :
    Keeping mode before gesture events
      (session.sent outcome state) := by
  have hAccounts := hKeeping.accounts
  apply hKeeping.call hCall (session.sent outcome state).page
    rfl rfl rfl
  · exact hAccounts.vouched.cons fun _ => rfl
  · apply hAccounts.judged.cons
    intro submission outcome hSent path expression hSchedule
    cases hSent
    exact
      hAccounts.vouched.lastJudged_of_isReady hMutable hReady
        hSchedule
  · rw [List.filter_cons_of_pos rfl, ← hAccounts.told]
    rfl
  · exact hKeeping.stale

end Keeping

/- What the moves of an action do to a page is accounted for. -/
theorem keeping_carries
    (service : Service σ)
    (hMutable : mode.isMutable)
    (before : Session (List Call × σ))
    (events : List Event)
    {action : Action}
    (hTyping : ∀ path value, action ≠ .edit path value) :
    Carries service.recorded mode action
      (Keeping mode before (.act action) events) where
  modes := fun _ hSession => hSession.accounts.opened
  marks := by
    intro session page hSession hRequest hForm _
    apply hSession.withPage hRequest
    · rw [hForm]
    · rw [hForm]
      exact .refl _
  steps := by
    intro session form hSession hStep hSpared
    rw [← hSession.accounts.mode] at hStep
    exact
      hSession.withPage rfl (Form.retains_step hStep).mode
        hSpared.triggers
  edits := fun _ path value _ _ hEdit =>
    absurd hEdit (hTyping path value)
  asks := by
    intro session request outcome state hSession hAsks hQuiet
      hCall
    apply hSession.untold _ hCall
    exact Call.isTold_of_isQuery hAsks.isQuery hQuiet
  judges := by
    intro session path trigger outcome state hSession hTrigger
      hJudges hCall
    cases outcome with
    | error error => exact hSession.unanswered hJudges hCall
    | ok answer =>
        exact hSession.answered hTrigger hJudges hCall
  sends := by
    intro session outcome state hSession _ hDispatches hCall
    have hReady : session.page.form.IsReady mode := by
      cases hDispatches with
      | new _ hReady _ _ _ => exact hReady
      | stored hReady _ _ => exact hReady
      | rejection hReject _ _ _ =>
          rw [hReject] at hMutable
          cases hMutable
    exact hSession.sent hMutable hReady hCall

------------------------------------------------------------
-- Typing
------------------------------------------------------------

/- A session after something was typed into an input. -/
structure HasTyped
    (session : Session (List Call × σ))
    (path : FieldPath)
    (value : String)
    (after : Session (List Call × σ)) : Prop where
  request : after.page.request = session.page.request
  form :
    after.page.form =
      (session.page.form.edit path value
        session.page.options.autoValidate).2
  state : after.state = session.state

/- Typing makes no call, and any failure is just reported. -/
theorem hasTyped_act
    (service : Service σ)
    (session : Session (List Call × σ))
    (path : FieldPath)
    (value : String) :
    HasTyped session path value
      ((Page.act service.recorded (.edit path value)).perform
        session).2 := by
  have hType :
      ∀ page : Page,
        PageM.Triple
          (fun other => other = session ∧ other.page = page)
          (PageM.onForm
            (·.edit path value page.options.autoValidate))
          (fun _ => HasTyped session path value)
          (fun _ => HasTyped session path value) := by
    intro page
    apply PageM.Triple.onForm
    · rintro other flag form ⟨rfl, rfl⟩ hForm
      exact ⟨rfl, by rw [hForm], rfl⟩
    · rintro other error form ⟨rfl, rfl⟩ hForm
      exact ⟨rfl, by rw [hForm], rfl⟩
  have hAct :
      PageM.Triple (fun other => other = session)
        (Page.act service.recorded (.edit path value))
        (fun _ => HasTyped session path value)
        (fun _ => HasTyped session path value) := by
    apply PageM.Triple.readPage
    intro page
    refine PageM.Triple.bind ?_ fun flag =>
      PageM.Triple.pure fun _ hTyped => hTyped
    apply (hType page).reportedAs
    intro error other hTyped
    exact ⟨hTyped.request, hTyped.form, hTyped.state⟩
  have hAfter := hAct session rfl
  split at hAfter
  · rename_i hPerform
    rw [hPerform]
    exact hAfter
  · rename_i hPerform
    rw [hPerform]
    exact hAfter

/- What is typed is told once it is in the form. -/
theorem accounts_edit
    (service : Service σ)
    (hMutable : mode.isMutable)
    (hAccounts : session.Accounts mode events)
    (path : FieldPath)
    (value : String) :
    let gesture := Gesture.act (.edit path value)
    let after := play service.recorded session [gesture]
    after.Accounts mode
      (gesture.typing ++
        (diary session gesture events after.state.1).events) := by
  intro gesture after
  have hTyped : HasTyped session path value after :=
    hasTyped_act service session path value
  rw [hTyped.state, diary_self]
  have hRetains :=
    session.page.form.retains_edit path value
      session.page.options.autoValidate
  have hForm := hAccounts.mode
  constructor
  · rw [hTyped.request]
    exact hAccounts.opened
  · rw [hTyped.form]
    exact hRetains.mode.trans hForm
  · rw [hTyped.form]
    rw [← hForm] at hMutable
    exact hAccounts.vouched.edit hMutable value _
  · apply hAccounts.judged.cons
    intro submission outcome hSent
    cases hSent
  · rw [hTyped.state]
    exact hAccounts.told

------------------------------------------------------------
-- Opening a Page
------------------------------------------------------------

/-
  A session of a request in which no schedule has a verdict,
  and of whose calls there is none to tell.
-/
structure IsFresh
    (request : PageRequest)
    (session : Session (List Call × σ)) : Prop where
  opened : session.page.request = request
  mode : session.page.form.mode = request.mode
  unjudged : session.page.form.IsUnjudged
  untold : ∀ call ∈ session.state.1, call.isTold = false

variable {request : PageRequest}

theorem isFresh_start
    (request : PageRequest)
    (options : PageOptions)
    (state : σ) :
    (start request options ([], state)).IsFresh request where
  opened := rfl
  mode := rfl
  unjudged := ⟨rfl, rfl⟩
  untold := by simp [start]

theorem IsFresh.call
    (hFresh : session.IsFresh request)
    {query : Request}
    {outcome : Except ServiceError query.Answer}
    (hUntold : Call.isTold ⟨query, outcome⟩ = false)
    {state : List Call × σ}
    (hCall :
      service.recorded query session.state =
        (outcome, state)) :
    ({ session with state } : Session _).IsFresh request where
  opened := hFresh.opened
  mode := hFresh.mode
  unjudged := hFresh.unjudged
  untold := by
    change ∀ call ∈ state.1, call.isTold = false
    rw [Service.calls_of_recorded hCall]
    simpa using ⟨hUntold, hFresh.untold⟩

theorem isFresh_steady
    (service : Service σ)
    (request : PageRequest) :
    Steady service.recorded request.mode .init
      (IsFresh request) where
  modes := by
    intro session hSession
    rw [hSession.opened]
  marks := by
    intro session page hSession hRequest hForm _
    refine ⟨hRequest.trans hSession.opened, ?_, ?_, ?_⟩
    · rw [hForm]
      exact hSession.mode
    · rw [hForm]
      exact hSession.unjudged
    · exact hSession.untold
  steps := by
    intro session form hSession hStep hSpared
    rw [← hSession.mode] at hStep
    have hMode := (Form.retains_step hStep).mode
    exact
      ⟨hSession.opened, hMode.trans hSession.mode,
        hSession.unjudged.of_same hSpared.triggers,
        hSession.untold⟩
  edits := by
    intro session path value validate hSession hEdit
    cases hEdit
  asks := by
    intro session query outcome state hSession hAsks hQuiet
      hCall
    apply hSession.call _ hCall
    exact Call.isTold_of_isQuery hAsks.isQuery hQuiet
  judges := by
    intro session path trigger outcome state hSession _ hJudges
    rcases hJudges with hCheck | ⟨hSubmit, _⟩
    · cases hCheck
    · cases hSubmit

theorem isFresh_admits
    (service : Service σ)
    (request : PageRequest) :
    Admits service.recorded request.name (IsFresh request) where
  names := by
    intro session hSession
    rw [hSession.opened]
  queries := by
    intro session query outcome state hSession hPrepares hCall
    apply hSession.call _ hCall
    apply Call.isTold_of_isQuery hPrepares.isQuery
    generalize request.name = name at hPrepares
    cases hPrepares <;> rfl
  records := by
    intro session stored outcome state hSession _ hCall
    have hAsked :
        ({ session with state } : Session _).IsFresh request :=
      hSession.call rfl hCall
    cases outcome with
    | error error => exact hAsked
    | ok config =>
        have hLoad := Form.Load.record session.page.form config
        exact
          ⟨hAsked.opened,
            (Form.mode_load hLoad).trans hAsked.mode,
            hAsked.unjudged.load hLoad, hAsked.untold⟩
  parts := by
    intro session form hSession _ hLoad
    exact
      ⟨hSession.opened,
        (Form.mode_load hLoad.load).trans hSession.mode,
        hSession.unjudged.load hLoad.load, hSession.untold⟩
  starts := by
    intro session form hSession _ hLoad
    exact
      ⟨hSession.opened,
        (Form.mode_load hLoad.load).trans hSession.mode,
        hSession.unjudged.load hLoad.load, hSession.untold⟩

/- A page that has just been opened has nothing to tell. -/
theorem accounts_init
    (service : Service σ)
    (hFresh : session.IsFresh request) :
    let after := play service.recorded session [.act .init]
    after.Accounts request.mode
      (diary session (.act .init) [] after.state.1).events := by
  intro after
  have hAfter : after.IsFresh request :=
    ((isFresh_admits service request).act
      (isFresh_steady service request)).perform hFresh
  have hNone :
      diary session (.act .init) [] after.state.1 =
        { events := [] } := by
    apply Diary.foldr_note_of_untold
    intro call hCall
    exact hAfter.untold call (List.mem_of_mem_take hCall)
  rw [hNone]
  refine
    ⟨?_, hAfter.mode, hAfter.unjudged.vouchedBy [], ?_, ?_⟩
  · rw [hAfter.opened]
  · intro later submission outcome earlier hEvents
    simp at hEvents
  · symm
    apply List.filter_eq_nil_iff.mpr
    intro call hCall
    simp [hAfter.untold call hCall]

------------------------------------------------------------
-- Runs
------------------------------------------------------------

/- Whatever the user does on an open page is accounted for. -/
theorem accounts_respond
    (service : Service σ)
    (hMutable : mode.isMutable)
    (hAccounts : session.Accounts mode events)
    {gesture : Gesture}
    (hOpened : gesture ≠ .act .init) :
    let after := play service.recorded session [gesture]
    after.Accounts mode
      (gesture.typing ++
        (diary session gesture events after.state.1).events) := by
  intro after
  by_cases hTyping :
      ∃ path value, gesture = .act (.edit path value)
  · rcases hTyping with ⟨path, value, rfl⟩
    exact accounts_edit service hMutable hAccounts path value
  · have hNone : gesture.typing = [] := by
      unfold Gesture.typing
      split
      · exact absurd ⟨_, _, rfl⟩ hTyping
      · rfl
    have hTicks :
        SurvivesTicks (Keeping mode session gesture events) := by
      intro later form hLater hTick
      exact
        hLater.withPage rfl (Form.retains_tick hTick).mode
          (Form.sameTriggers_tick hTick)
    have hKeeps :
        PageM.Keeps (Keeping mode session gesture events)
          (respond service.recorded gesture) := by
      apply hTicks.respond
      rintro action rfl
      have hCarries :=
        keeping_carries service hMutable session events
          fun path value hEdit =>
            hTyping ⟨path, value, congrArg Gesture.act hEdit⟩
      apply hCarries.act
      rintro rfl
      exact hOpened rfl
    have hAfter :
        Keeping mode session gesture events after :=
      hKeeps.perform (keeping_refl hAccounts gesture)
    rw [hNone]
    exact hAfter.accounts

theorem accounts_history
    (service : Service σ)
    (hMutable : mode.isMutable)
    {gestures : List Gesture}
    (hOpened : .act .init ∉ gestures)
    (hAccounts : session.Accounts mode events) :
    (play service.recorded session gestures).Accounts mode
      (history service session events gestures) := by
  induction gestures generalizing session events with
  | nil => exact hAccounts
  | cons gesture gestures ih =>
      have hFirst : gesture ≠ .act .init := by
        rintro rfl
        exact hOpened List.mem_cons_self
      have hRest : .act .init ∉ gestures := fun hMember =>
        hOpened (List.mem_cons_of_mem _ hMember)
      exact
        ih hRest
          (accounts_respond service hMutable hAccounts hFirst)

/-
  For every page to create or edit a configuration, every
  service and every run that opens the page once and first:
  the history tells each judgment and submission of the run,
  and each schedule that was sent had been judged before. Its
  trigger was not typed into and got no other answer since,
  and the answer does not contain the mark of an error.
-/
theorem play_submits_judged
    (service : Service σ)
    (request : PageRequest)
    (options : PageOptions)
    (state : σ)
    (gestures : List Gesture)
    (hMutable : request.mode.isMutable)
    (hOpened : .act .init ∉ gestures) :
    let first := start request options ([], state)
    let events :=
      history service first [] (.act .init :: gestures)
    let last :=
      play service.recorded first (.act .init :: gestures)
    events.filterMap Event.call? =
        last.state.1.filter Call.isTold ∧
      ∀ later submission outcome earlier,
        events = later ++ .sent submission outcome :: earlier →
        ∀ path expression,
          submission.configuration.schedule? path =
            some expression →
          ∃ newer answer older,
            earlier =
                newer ++
                  .judged path expression (.ok answer) ::
                    older ∧
              (∀ event ∈ newer, ¬event.concerns path) ∧
              ¬TriggerCheck.errorMarker.toList <:+:
                answer.toList := by
  intro first events last
  have hAccounts : last.Accounts request.mode events := by
    have hFresh := isFresh_start request options state
    have hRest :=
      accounts_history service hMutable hOpened
        (accounts_init service hFresh)
    exact hRest
  refine ⟨hAccounts.told, ?_⟩
  intro later submission outcome earlier hEvents path
    expression hSchedule
  rcases hAccounts.judged later submission outcome earlier
      hEvents path expression hSchedule with
    ⟨answer, hLast, hValid⟩
  rcases List.find?_eq_some_iff_append.mp hLast with
    ⟨_, newer, older, hEarlier, hNewer⟩
  refine ⟨newer, answer, older, hEarlier, ?_, hValid⟩
  intro event hEvent
  simpa using hNewer event hEvent

/- A new configuration that polls as new ones do. -/
theorem play_submits_judged_new :
    let service : Service Tree :=
      Directory.service { root := "store" }
    let request : PageRequest := .create
    let first := start request {} ([], Tree.empty)
    let gestures :=
      [Gesture.act (.edit .projectName "core"),
        .act (.edit (.view ⟨0⟩ .projectUrl)
          "https://host/core.git"),
        .act (.edit (.view ⟨0⟩ .localDirectoryPath) "."),
        .act (.edit (.view ⟨0⟩ .fileToBuild) "build.bat"),
        .act .submit]
    let events :=
      history service first [] (.act .init :: gestures)
    request.mode.isMutable ∧
      Gesture.act .init ∉ gestures ∧
      ∃ later submission outcome earlier,
        events = later ++ .sent submission outcome :: earlier ∧
          ∃ newer answer older,
            earlier =
                newer ++
                  .judged .pollScmTrigger "H * * * *"
                      (.ok answer) ::
                    older ∧
              (∀ event ∈ newer,
                ¬event.concerns .pollScmTrigger) ∧
              ¬TriggerCheck.errorMarker.toList <:+:
                answer.toList := by
  intro service request first gestures events
  let polls : Event → Bool
    | .sent submission _ =>
        submission.configuration.pollScmTrigger =
          some "H * * * *"
    | _ => false
  have hMutable : request.mode.isMutable := by decide
  have hOpened : Gesture.act .init ∉ gestures := by decide
  have hPolls : events.any polls = true := by decide +kernel
  rcases List.any_eq_true.mp hPolls with ⟨event, hEvent, hSends⟩
  rcases List.append_of_mem hEvent with ⟨later, earlier, hEvents⟩
  cases event with
  | sent submission outcome =>
      have hSchedule :
          submission.configuration.schedule? .pollScmTrigger =
            some "H * * * *" :=
        of_decide_eq_true hSends
      have hJudged :=
        (play_submits_judged service request {} Tree.empty
          gestures hMutable hOpened).2 later submission outcome
          earlier hEvents .pollScmTrigger _ hSchedule
      exact
        ⟨hMutable, hOpened, later, submission, outcome,
          earlier, hEvents, hJudged⟩
  | typed path => cases hSends
  | judged path expression outcome => cases hSends

end Session

end BuildForm
