import BuildForm.Proofs.Form.Independence
import BuildForm.Proofs.Page.Altering
import BuildForm.Proofs.Page.Arising
import BuildForm.Proofs.Page.Outcomes

/-
  What is left of a form by an action that fails.

  Typing, adding a builder or a path, judging a schedule, the
  help of a trigger and the dialog to reject change the form
  only when nothing can fail any more. A path that is refused
  leaves a message next to its box, and nothing else.

  Typing undoes a message or a verdict before the input is
  looked at, but there it cannot fail: no page switches the
  input of a name or a trigger off.

  Main declarations:
    * `Form.switches`
    * `Form.Arises.switches_eq`
    * `Action.failsCleanly`
    * `Action.Leaves`
    * `Page.FailsLeaving`
    * `Session.failed_action_leaves_form`
-/

------------------------------------------------------------
-- Inputs That Stay On
------------------------------------------------------------

namespace BuildForm

theorem Field.Step.enabled_eq
    {field after : Field}
    (hStep : Field.Step field after) :
    after.enabled = field.enabled := by
  cases hStep <;> rfl

namespace Form

variable {form after : Form}

/- Whether the name and both schedules can be typed. -/
def switches (form : Form) : Bool × Bool × Bool :=
  (form.projectName.enabled,
    form.pollScmTrigger.field.enabled,
    form.buildPeriodicallyTrigger.field.enabled)

theorem switches_mapTrigger
    (form : Form)
    (path : FieldPath)
    {change : Trigger → Trigger}
    (hChange :
      ∀ trigger,
        (change trigger).field.enabled =
          trigger.field.enabled) :
    (form.mapTrigger path change).switches = form.switches := by
  cases path with
  | pollScmTrigger => simp [mapTrigger, switches, hChange]
  | buildPeriodicallyTrigger =>
      simp [mapTrigger, switches, hChange]
  | _ => rfl

theorem switches_mapField
    (form : Form)
    (path : FieldPath)
    {change : Field → Field}
    (hChange :
      ∀ field, form.field? path = some field →
        (change field).enabled = field.enabled) :
    (form.mapField path change).switches = form.switches := by
  cases path with
  | projectName => simp [mapField, switches, hChange _ rfl]
  | pollScmTrigger =>
      simp [mapField, mapTrigger, switches, hChange _ rfl]
  | buildPeriodicallyTrigger =>
      simp [mapField, mapTrigger, switches, hChange _ rfl]
  | _ => rfl

theorem switches_forget (form : Form) (path : FieldPath) :
    (form.forget path).switches = form.switches := by
  cases path with
  | _ => rfl

theorem switches_edit
    (form : Form)
    (path : FieldPath)
    (value : String)
    (validate : Bool) :
    (form.edit path value validate).2.switches =
      form.switches := by
  rcases form.snd_edit path value validate with
    hSame | hOnly | ⟨field, hField, hEdit⟩
  · rw [hSame]
  · rw [hOnly, switches_forget]
  · rw [hEdit, switches_mapField, switches_forget]
    intro typed hTyped
    rw [hField] at hTyped
    cases hTyped
    cases validate <;> rfl

theorem switches_load (hLoad : Form.Load form after) :
    after.switches = form.switches := by
  cases hLoad with
  | record config =>
      unfold applyConfiguration
      rfl
  | newComments =>
      unfold setCommentsEnabled
      split <;> rfl
  | _ => rfl

theorem switches_step
    {mode : PageMode}
    (hStep : Form.Step mode form after) :
    after.switches = form.switches := by
  cases hStep with
  | edit path value validate =>
      exact form.switches_edit path value validate
  | judge path check =>
      exact form.switches_mapTrigger path fun _ => rfl
  | check =>
      rcases form.exists_check_eq with
        ⟨_, _, _, _, _, _, _, hCheck⟩
      rw [hCheck]
      rfl
  | _ => rfl

theorem switches_tick (hTick : Form.Tick form after) :
    after.switches = form.switches := by
  cases hTick with
  | email enabled =>
      unfold setEmailEnabled
      split <;> rfl
  | comments enabled =>
      unfold setCommentsEnabled
      split <;> rfl
  | machine node checked =>
      unfold toggleMachine
      split <;> rfl

/- Nothing switches the name or a schedule off. -/
theorem Arises.switches_eq (hArises : form.Arises) :
    form.switches = (true, true, true) := by
  induction hArises with
  | blank mode => rfl
  | load _ hLoad ih => exact (switches_load hLoad).trans ih
  | step _ hStep ih => exact (switches_step hStep).trans ih
  | tick _ hTick ih => exact (switches_tick hTick).trans ih
  | @input form _ _ hChange path ih =>
      rw [form.switches_mapField path]
      · exact ih
      · exact fun field _ => (hChange field).enabled_eq
  | other _ form ih => exact ih

end Form

end BuildForm

------------------------------------------------------------
-- Failures of the Form
------------------------------------------------------------

namespace BuildForm

namespace Form

variable {form : Form}

/- Typing undoes something only for an input that stays on. -/
theorem forget_eq_or
    (hSwitches : form.switches = (true, true, true))
    (path : FieldPath) :
    form.forget path = form ∨
      ∃ field,
        (form.forget path).field? path = some field ∧
          field.enabled := by
  simp only [switches, Prod.mk.injEq] at hSwitches
  rcases hSwitches with ⟨hName, hPoll, hBuild⟩
  cases path with
  | projectName => exact .inr ⟨form.projectName, rfl, hName⟩
  | pollScmTrigger =>
      exact .inr ⟨form.pollScmTrigger.field, rfl, hPoll⟩
  | buildPeriodicallyTrigger =>
      exact
        .inr ⟨form.buildPeriodicallyTrigger.field, rfl, hBuild⟩
  | _ => exact .inl rfl

/- Typing that is refused leaves the form as it is. -/
theorem edit_of_error
    (hSwitches : form.switches = (true, true, true))
    {path : FieldPath}
    {value : String}
    {validate : Bool}
    {error : FormError}
    (hFails :
      (form.edit path value validate).1 = .error error) :
    (form.edit path value validate).2 = form := by
  unfold edit at hFails ⊢
  by_cases hStatic : (!form.isEditable path) = true
  · rw [if_pos hStatic]
  rw [if_neg hStatic] at hFails ⊢
  by_cases hLocked : path = .projectName ∧ form.nameLocked
  · rw [if_pos hLocked]
  rw [if_neg hLocked] at hFails ⊢
  -- Where something was undone there is an input that is on,
  -- and the typing does not fail after all.
  dsimp only at hFails ⊢
  rcases form.forget_eq_or hSwitches path with
    hSame | ⟨field, hField, hOn⟩
  · rw [hSame] at hFails ⊢
    cases hField : form.field? path with
    | none => rfl
    | some field =>
        rw [hField] at hFails
        by_cases hOff : (!field.enabled) = true
        · dsimp only
          rw [if_pos hOff]
        · dsimp only at hFails
          rw [if_neg hOff] at hFails
          cases hFails
  · rw [hField] at hFails
    dsimp only at hFails
    rw [hOn] at hFails
    cases hFails

end Form

/- A box that refuses a path has a message at most. -/
theorem SelectionBox.add_of_error
    (box : SelectionBox)
    (candidate : String)
    {error : FormError}
    (hFails : (box.add candidate).1 = .error error) :
    (box.add candidate).2 = box ∨
      ∃ fault,
        (box.add candidate).2 =
          { box with fault := some fault } := by
  unfold add at hFails ⊢
  split
  · exact .inl rfl
  · rename_i hNonempty
    rw [if_neg hNonempty] at hFails
    split
    · exact .inr ⟨_, rfl⟩
    · rename_i hFault
      rw [hFault] at hFails
      dsimp only at hFails
      split
      · exact .inr ⟨_, rfl⟩
      · rename_i hNew
        rw [if_neg hNew] at hFails
        cases hFails

/- So has a view that a path is not added to. -/
theorem View.addPath_of_error
    {view : View}
    {kind : SelectionKind}
    {error : FormError}
    (hFails : (view.addPath kind).1 = .error error) :
    (view.addPath kind).2 = view ∨
      ∃ fault,
        (view.addPath kind).2 =
          view.setBox kind
            { view.box kind with fault := some fault } := by
  have hSame : view.setBox kind (view.box kind) = view := by
    cases kind <;> rfl
  unfold addPath at hFails ⊢
  rcases hAdd : (view.box kind).add (view.pathInput kind).value
    with ⟨result, box⟩
  cases result with
  | ok =>
      rw [hAdd] at hFails
      cases hFails
  | error error =>
      have hBox :=
        (view.box kind).add_of_error (view.pathInput kind).value
          (congrArg Prod.fst hAdd)
      rw [hAdd] at hBox
      rcases hBox with hKept | ⟨fault, hFault⟩
      · left
        dsimp only at hKept ⊢
        rw [hKept, hSame]
      · right
        dsimp only at hFault ⊢
        exact ⟨fault, by rw [hFault]⟩

/- What is made of the view that is found is what counts. -/
theorem Views.modify_congr
    {views : Views}
    {id : ViewId}
    {view : View}
    (hView : views.view? id = some view)
    (change another : View → View)
    (hSame : change view = another view) :
    views.modify id change = views.modify id another := by
  rcases List.find?_eq_some_iff_append.mp hView with
    ⟨hId, front, back, hSplit, hFront⟩
  have hOthers : ∀ other ∈ front, other.id ≠ id := by
    simpa using hFront
  have hFound : view.id = id := by
    simpa using hId
  unfold modify amend
  rw [hSplit, amendItems_append hOthers hFound,
    amendItems_append hOthers hFound, hSame]

end BuildForm

------------------------------------------------------------
-- Actions That Fail
------------------------------------------------------------

namespace BuildForm

/-
  The actions of which nothing is left in the form if they
  fail, but for a message next to a box.
-/
def Action.failsCleanly : Action → Bool
  | .edit _ _ | .addBuilder _ | .addPath _ _ => true
  | .checkTrigger _ | .toggleTriggerHelp _ => true
  | .openReject => true
  | _ => false

/- What such an action leaves of a form. -/
inductive Action.Leaves (form : Form) :
    Action → Form → Prop where
  | same (action : Action) : Leaves form action form
  | refused
      {id : ViewId}
      {kind : SelectionKind}
      {view : View}
      (fault : EntryFault) :
      form.views.view? id = some view →
      Leaves form (.addPath id kind)
        { form with
          views :=
            form.views.modify id fun view =>
              view.setBox kind
                { view.box kind with fault := some fault } }

/- None of that is about a schedule or its verdict. -/
theorem Action.Leaves.trigger?_eq
    {form after : Form}
    {action : Action}
    (hLeaves : action.Leaves form after)
    (path : FieldPath) :
    after.trigger? path = form.trigger? path := by
  cases hLeaves with
  | same => rfl
  | refused => cases path <;> rfl

namespace Page

open PageM

variable {σ α β : Type}

/- If the action fails, it leaves the form in such a state. -/
def FailsLeaving
    (form : Form)
    (failed : Form → Prop)
    (action : PageM σ α) : Prop :=
  Triple (fun session => session.page.form = form) action
    (fun _ _ => True) fun _ session => failed session.page.form

variable {service : Service σ}
variable {form : Form}
variable {failed : Form → Prop}

theorem FailsLeaving.perform
    {action : PageM σ α}
    {session : Session σ}
    (hFails : FailsLeaving session.page.form failed action)
    {error : FormError}
    (hError : (action.perform session).1 = .error error) :
    failed (action.perform session).2.page.form := by
  have hAfter := hFails session rfl
  rcases hPerform : action.perform session with ⟨result, after⟩
  rw [hPerform] at hAfter hError
  cases hError
  exact hAfter

theorem FailsLeaving.map
    {action : PageM σ α}
    (hFails : FailsLeaving form failed action)
    (result : α → β) :
    FailsLeaving form failed
      (action >>= fun value => pure (result value)) :=
  Triple.bind hFails fun _ => Triple.pure fun _ _ => trivial

theorem FailsLeaving.reported
    {action : PageM σ α}
    (hFails : FailsLeaving form failed action) :
    FailsLeaving form failed (PageM.reported action) :=
  Triple.reportedAs hFails fun _ _ hFailed => hFailed

theorem keepsForm_reported
    {action : PageM σ α}
    (hAction :
      Keeps (fun session => session.page.form = form) action) :
    Keeps (fun session => session.page.form = form)
      (PageM.reported action) :=
  Triple.reportedAs hAction fun _ _ hSession => hSession

/- What leaves the form alone either way may come first. -/
theorem FailsLeaving.bind
    {action : PageM σ α}
    {next : α → PageM σ β}
    (hAction :
      Keeps (fun session => session.page.form = form) action)
    (hSame : failed form)
    (hNext : ∀ value, FailsLeaving form failed (next value)) :
    FailsLeaving form failed (action >>= next) := by
  refine Triple.bind (hAction.weakenFailed ?_) hNext
  rintro error session rfl
  exact hSame

theorem keepsForm_ask (request : Request) :
    Keeps (fun session => session.page.form = form)
      (ask service request) := by
  apply Triple.ask
  · exact fun _ _ _ hSession _ => hSession
  · exact fun _ _ _ hSession _ => hSession

theorem keepsForm_requireMutable :
    Keeps (fun session : Session σ => session.page.form = form)
      requireMutable := by
  intro session hSession
  rw [perform_requireMutable]
  cases session.page.isMutable <;> exact hSession

theorem keepsForm_requireApproveReject :
    Keeps (fun session : Session σ => session.page.form = form)
      requireApproveReject := by
  intro session hSession
  rw [perform_requireApproveReject]
  by_cases hMode : session.page.request.mode = .approveReject
  · rw [if_neg (not_not_intro hMode)]
    exact hSession
  · rw [if_pos hMode]
    exact hSession

theorem failsLeaving_addBuilder (view : ViewId) :
    FailsLeaving form (· = form) (addBuilder service view) := by
  unfold addBuilder
  refine .bind keepsForm_requireMutable rfl fun _ => ?_
  refine .bind (keepsForm_ask _) rfl fun fragment => ?_
  refine .bind Keeps.getForm rfl fun current => ?_
  intro session hSession
  cases current.views.addBuilder view fragment with
  | none => exact hSession
  | some added => exact trivial

theorem failsLeaving_checkTrigger (path : FieldPath) :
    FailsLeaving form (· = form) (checkTrigger service path) := by
  unfold checkTrigger
  refine .bind Keeps.getForm rfl fun current => ?_
  cases current.trigger? path with
  | none => exact Triple.throw fun _ hSession => hSession
  | some trigger =>
      refine .bind (keepsForm_ask _) rfl ?_
      exact fun _ _ _ => trivial

theorem failsLeaving_toggleTriggerHelp (name : String) :
    FailsLeaving form (· = form)
      (toggleTriggerHelp service name) := by
  unfold toggleTriggerHelp
  refine .bind Keeps.getForm rfl fun current => ?_
  apply Triple.ite
  · exact fun _ _ _ => trivial
  · intro _
    change FailsLeaving form (· = form) (_ >>= _)
    refine .bind (keepsForm_reported (keepsForm_ask _)) rfl ?_
    exact fun _ _ _ => trivial

theorem failsLeaving_openReject :
    FailsLeaving form (· = form)
      (openReject : PageM σ Unit) := by
  unfold openReject
  refine
    .bind (keepsForm_reported keepsForm_requireApproveReject)
      rfl ?_
  exact fun _ _ _ => trivial

theorem failsLeaving_edit
    (hSwitches : form.switches = (true, true, true))
    (path : FieldPath)
    (value : String)
    (validate : Bool) :
    FailsLeaving form (· = form)
      (onForm (·.edit path value validate) : PageM σ Bool) := by
  apply Triple.onForm
  · exact fun _ _ _ _ _ => trivial
  · rintro session error after rfl hEdit
    have hSame :=
      Form.edit_of_error hSwitches (congrArg Prod.fst hEdit)
    rw [hEdit] at hSame
    exact hSame

/- A path that is refused leaves its message. -/
theorem failsLeaving_addPath
    (id : ViewId)
    (kind : SelectionKind) :
    FailsLeaving form ((Action.addPath id kind).Leaves form)
      (addPath id kind : PageM σ Unit) := by
  unfold addPath
  refine .bind keepsForm_requireMutable (.same _) fun _ => ?_
  apply Triple.onForm
  · exact fun _ _ _ _ _ => trivial
  · rintro session error after rfl hAdd
    rw [Views.amend_eq] at hAdd
    cases hView : session.page.form.views.view? id with
    | none =>
        rw [hView] at hAdd
        cases hAdd
        exact .same _
    | some view =>
        rw [hView] at hAdd
        dsimp only [Option.map_some] at hAdd
        rcases Prod.mk.inj hAdd with ⟨hFails, rfl⟩
        rcases View.addPath_of_error hFails with
          hKept | ⟨fault, hFault⟩
        · have hSame :=
            Views.modify_congr hView
              (fun view => (view.addPath kind).2)
              (fun view => view) hKept
          rw [hSame, Views.modify_same]
          exact .same _
        · have hSame :=
            Views.modify_congr hView
              (fun view => (view.addPath kind).2)
              (fun view =>
                view.setBox kind
                  { view.box kind with fault := some fault })
              hFault
          rw [hSame]
          exact .refused fault hView

/- So much for each of these actions. -/
theorem failsLeaving_act
    (hSwitches : form.switches = (true, true, true))
    {action : Action}
    (hAction : action.failsCleanly) :
    FailsLeaving form (action.Leaves form)
      (act service action) := by
  have hSame {α : Type} {attempt : PageM σ α}
      (hFails : FailsLeaving form (· = form) attempt) :
      FailsLeaving form (action.Leaves form) attempt := by
    apply hFails.weakenFailed
    rintro error session rfl
    exact .same _
  cases action with
  | edit path value =>
      refine .bind Keeps.getPage (.same _) fun page => ?_
      exact
        (hSame
          (failsLeaving_edit hSwitches path value
            page.options.autoValidate)).reported.map _
  | addBuilder view =>
      exact (hSame (failsLeaving_addBuilder view)).reported.map _
  | addPath id kind =>
      exact
        (failsLeaving_addPath id kind).reported.map fun _ =>
          Reply.done
  | checkTrigger path =>
      exact
        (hSame (failsLeaving_checkTrigger path)).reported.map _
  | toggleTriggerHelp name =>
      exact (hSame (failsLeaving_toggleTriggerHelp name)).map _
  | openReject =>
      exact (hSame failsLeaving_openReject).map fun _ => Reply.done
  | _ => cases hAction

end Page

namespace Session

variable {σ : Type}

/-
  On every page, whatever the service answers: if typing,
  adding a builder or a path, judging a schedule, the help of
  a trigger or the dialog to reject fails, then the whole form
  is as it was, except that a refused path leaves a message at
  its own box. The triggers keep the verdicts they had.
-/
theorem failed_action_leaves_form
    (service : Service σ)
    (session : Session σ)
    (hArises : session.page.form.Arises)
    (action : Action)
    (hAction : action.failsCleanly)
    (error : FormError)
    (hFails :
      (step service session action).1 = .error error) :
    let form := session.page.form
    let after := (step service session action).2.page.form
    action.Leaves form after ∧
      ∀ path, after.trigger? path = form.trigger? path := by
  have hLeaves :
      action.Leaves session.page.form
        (step service session action).2.page.form :=
    (Page.failsLeaving_act hArises.switches_eq
      hAction).perform hFails
  exact ⟨hLeaves, hLeaves.trigger?_eq⟩

/- A schedule is judged, and no second time. -/
theorem failed_action_leaves_form_judged :
    let service : Service Nat := fun request asked =>
      match request with
      | .judgeTrigger _ =>
          if asked = 0 then
            (.ok "Next run at midnight", 1)
          else
            (.error (.unavailable "down"), asked)
      | _ => (.error (.unavailable "down"), asked)
    let check : Action := .checkTrigger .pollScmTrigger
    let session :=
      play service (start .create {} 0)
        [.act (.edit .pollScmTrigger "H 0 * * *"), .act check]
    let result := step service session check
    let form := session.page.form
    let after := result.2.page.form
    form.Arises ∧
      check.failsCleanly ∧
      result.1 = .error (.service (.unavailable "down")) ∧
      form.pollScmTrigger.check.isSome ∧
      after.trigger? .pollScmTrigger =
        form.trigger? .pollScmTrigger := by
  intro service check session result form after
  have hArises : form.Arises :=
    arises_play service .create {} 0
      [.act (.edit .pollScmTrigger "H 0 * * *"), .act check]
  have hShown :
      result.1 = .error (.service (.unavailable "down")) ∧
        form.pollScmTrigger.check.isSome := by
    decide +kernel
  have hLeaves :=
    failed_action_leaves_form service session hArises check rfl
      (.service (.unavailable "down")) hShown.1
  exact
    ⟨hArises, rfl, hShown.1, hShown.2,
      hLeaves.2 .pollScmTrigger⟩

end Session

end BuildForm
