import BuildForm.Command.Run
import BuildForm.Proofs.Form.Identity
import BuildForm.Proofs.Page.Closed
import BuildForm.Proofs.Page.Storing

/-
  Edits of the command line, and those that keep a run from
  sending.

  An edit that fails ends the edits. A schedule is judged as
  soon as it is given, and a text that is no schedule stays in
  its trigger, with the verdict on it, until another edit
  gives that trigger another one. A form with such a trigger
  does not pass its check.

  Main declarations:
    * `Command.EditFails`
    * `Form.HoldsInvalid`
    * `Command.EndsInvalid`
    * `Command.work_spec_of_endsInvalid`
-/

------------------------------------------------------------
-- Edits that Fail
------------------------------------------------------------

namespace BuildForm

namespace Command

open PageM

variable {σ : Type}
variable {service : Service σ}

/- An edit on the way through a list of edits that fails. -/
inductive EditFails
    {σ : Type}
    (service : Service σ) :
    List String → Session σ → Prop where
  | first
      {edit : String}
      {edits : List String}
      {session after : Session σ}
      {error : FormError} :
      (applyEdit service edit).perform session =
        (.error error, after) →
      EditFails service (edit :: edits) session
  | later
      {edit : String}
      {edits : List String}
      {session after : Session σ} :
      (applyEdit service edit).perform session =
        (.ok (), after) →
      EditFails service edits after →
      EditFails service (edit :: edits) session

/- What comes after an edit that fails is not done. -/
theorem EditFails.exists_error
    {edits : List String}
    {session : Session σ}
    (hFails : EditFails service edits session) :
    ∃ error after,
      (edits.forM (applyEdit service)).perform session =
        (.error error, after) := by
  induction hFails with
  | @first edit edits session after error hError =>
      refine ⟨error, after, ?_⟩
      change (applyEdit service edit >>= _).perform session = _
      rw [perform_bind, hError]
  | @later edit edits session next hEdit _ ih =>
      rcases ih with ⟨error, after, hError⟩
      refine ⟨error, after, ?_⟩
      change (applyEdit service edit >>= _).perform session = _
      rw [perform_bind, hEdit]
      exact hError

/- An edit keeps what its typing and its judging keep. -/
theorem keeps_applyEdit
    {inv : Session σ → Prop}
    {text : String}
    (hEdit :
      ∀ path value,
        edit? text = some (path, value) →
        Keeps inv (Page.act service (.edit path value)) ∧
          Keeps inv (Page.act service (.checkTrigger path))) :
    Keeps inv (applyEdit service text) := by
  unfold applyEdit
  split
  · exact Keeps.pure ()
  · rename_i path value hText
    rcases hEdit path value hText with ⟨hType, hJudge⟩
    apply Keeps.bind hType
    intro _
    split
    · exact Keeps.bind hJudge fun _ => Keeps.pure ()
    · exact Keeps.bind hJudge fun _ => Keeps.pure ()
    · exact Keeps.pure ()

theorem keeps_edits
    {inv : Session σ → Prop}
    {edits : List String}
    (hEdits :
      ∀ edit ∈ edits, Keeps inv (applyEdit service edit)) :
    Keeps inv (edits.forM (applyEdit service)) := by
  induction edits with
  | nil => exact Keeps.pure ()
  | cons edit edits ih =>
      rw [List.forall_mem_cons] at hEdits
      exact Keeps.bind hEdits.1 fun _ => ih hEdits.2

end Command

end BuildForm

------------------------------------------------------------
-- Pages for Their Mode
------------------------------------------------------------

namespace BuildForm

/-
  A session of a request on a tree, with a form for the mode
  of the request, and what that form is.
-/
def Session.Works
    (request : PageRequest)
    (tree : Tree)
    (P : Form → Prop)
    (session : Session Tree) : Prop :=
  session.IsAt request tree ∧
    session.Bears {} request.mode fun form =>
      form.mode = request.mode ∧ P form

theorem Session.works_start
    (request : PageRequest)
    (tree : Tree) :
    (start request {} tree).Works request tree
      fun _ => True :=
  ⟨⟨rfl, rfl⟩, rfl, rfl, rfl, trivial⟩

/- No action changes what the form is for. -/
theorem Page.closed_withMode
    {σ : Type}
    {service : Service σ}
    {options : PageOptions}
    {mode : PageMode}
    {action : Action}
    {P : Form → Prop}
    (hP :
      ∀ form after,
        P form →
        Alters service options mode action form after →
        P after) :
    Closed service options mode action fun form =>
      form.mode = mode ∧ P form := by
  rintro form after ⟨hMode, hForm⟩ hAlters
  refine ⟨?_, hP form after hForm hAlters⟩
  rcases hAlters.cases with rfl | hLoad | hStep
  · exact hMode
  · exact (Form.mode_load hLoad).trans hMode
  · rw [← hMode] at hStep
    exact (Form.retains_step hStep).mode.trans hMode

theorem Directory.keeps_works
    (directory : Directory)
    (request : PageRequest)
    (tree : Tree)
    {action : Action}
    (hSubmit : action ≠ .submit)
    (hReject : action ≠ .confirmReject)
    {P : Form → Prop}
    (hP :
      ∀ form after,
        P form →
        Page.Alters directory.service {} request.mode action
          form after →
        P after) :
    PageM.Keeps (Session.Works request tree P)
      (Page.act directory.service action) :=
  (directory.keeps_act request tree action hSubmit hReject).and
    (Page.closed_withMode hP).act

end BuildForm

------------------------------------------------------------
-- Triggers that Hold No Schedule
------------------------------------------------------------

namespace BuildForm

/- A trigger holds a text that was judged to be no schedule. -/
def Form.HoldsInvalid (form : Form) (path : FieldPath) : Prop :=
  ∃ trigger,
    let verdict :=
      TriggerCheck.ofAnswer
        (Schedule.describe trigger.field.value)
    form.trigger? path = some trigger ∧
      trigger.check = some verdict ∧
      verdict.valid = false

namespace Form

variable {form after : Form}
variable {path : FieldPath}

theorem HoldsInvalid.of_same
    (hHolds : form.HoldsInvalid path)
    (hSame : after.trigger? path = form.trigger? path) :
    after.HoldsInvalid path := by
  unfold HoldsInvalid
  rw [hSame]
  exact hHolds

/-
  A trigger is judged again with the verdict it has, and the
  verdicts on the others are left.
-/
theorem HoldsInvalid.judge
    (hHolds : form.HoldsInvalid path)
    {other : FieldPath}
    {trigger : Trigger}
    (hTrigger : form.trigger? other = some trigger) :
    let verdict :=
      TriggerCheck.ofAnswer
        (Schedule.describe trigger.field.value)
    (form.mapTrigger other fun judged =>
      { judged with check := some verdict }).HoldsInvalid
        path := by
  intro verdict
  rcases hHolds with ⟨held, hHeld, hCheck, hInvalid⟩
  by_cases hOther : path = other
  · subst hOther
    have hSame : held = trigger := by
      rw [hHeld] at hTrigger
      exact Option.some.inj hTrigger
    subst hSame
    refine
      ⟨{ held with check := some verdict }, ?_, rfl, hInvalid⟩
    rw [trigger?_mapTrigger, if_pos rfl, hHeld]
    rfl
  · refine ⟨held, ?_, hCheck, hInvalid⟩
    rw [trigger?_mapTrigger, if_neg hOther]
    exact hHeld

/- Typing into that trigger apart, nothing takes it away. -/
theorem HoldsInvalid.alters
    {directory : Directory}
    {options : PageOptions}
    {mode : PageMode}
    {action : Action}
    (hHolds : form.HoldsInvalid path)
    (hInit : action ≠ .init)
    (hTyped : ∀ value, action ≠ .edit path value)
    (hAlters :
      Page.Alters directory.service options mode action form
        after) :
    after.HoldsInvalid path := by
  have hOf (hSame : after.SameTriggers form) :
      after.HoldsInvalid path :=
    hHolds.of_same (hSame.trigger?_eq path)
  cases hAlters with
  | load _ => exact absurd rfl hInit
  | edit _ other value =>
      apply hHolds.of_same
      apply trigger?_edit
      rintro rfl
      exact hTyped value rfl
  | judge _ hTrigger hAnswer =>
      cases hAnswer
      exact hHolds.judge hTrigger
  | check _ => exact hOf form.sameTriggers_check
  | quiet _ hSame => exact hOf hSame.triggers
  | _ => exact hOf ⟨rfl, rfl⟩

/- The check does not let such a form pass. -/
theorem HoldsInvalid.exists_blocked
    (hHolds : form.HoldsInvalid path) :
    ∃ error, form.check.1 = .blocked error := by
  rcases hHolds with ⟨trigger, hTrigger, hCheck, hInvalid⟩
  have hNot : ¬form.check.2.IsCleared := by
    intro hCleared
    have hValid :=
      triggerOffence?_eq_none_iff.mp hCleared.triggers path
        trigger _
        ((form.sameTriggers_check.trigger?_eq path).trans
          hTrigger)
        hCheck
    rw [hInvalid] at hValid
    cases hValid
  have hClears : form.check.2.Clears form.check.1 :=
    clears_of_check rfl
  cases hOutcome : form.check.1 with
  | blocked error => exact ⟨error, rfl⟩
  | ready =>
      rw [hOutcome] at hClears
      exact absurd hClears.1 hNot
  | nameCheckRequired =>
      rw [hOutcome] at hClears
      exact absurd hClears.1 hNot

end Form

end BuildForm

------------------------------------------------------------
-- Runs that End with Such a Trigger
------------------------------------------------------------

namespace BuildForm

namespace Command

open PageM

/-
  The text that the edits give to a trigger last is judged to
  be no schedule.
-/
def EndsInvalid (edits : List String) : Prop :=
  ∃ before edit later path value,
    edits = before ++ edit :: later ∧
      edit? edit = some (path, value) ∧
      (path = .pollScmTrigger ∨
        path = .buildPeriodicallyTrigger) ∧
      (TriggerCheck.ofAnswer
        (Schedule.describe value)).valid = false ∧
      ∀ other ∈ later, ∀ text, edit? other ≠ some (path, text)

variable {directory : Directory}
variable {request : PageRequest}
variable {tree : Tree}
variable {path : FieldPath}

theorem keeps_works_applyEdit
    (directory : Directory)
    (request : PageRequest)
    (tree : Tree)
    (text : String) :
    Keeps (Session.Works request tree fun _ => True)
      (applyEdit directory.service text) :=
  keeps_applyEdit fun _ _ _ =>
    ⟨directory.keeps_works request tree (by simp) (by simp)
        fun _ _ _ _ => trivial,
      directory.keeps_works request tree (by simp) (by simp)
        fun _ _ _ _ => trivial⟩

/- An edit of another input leaves the trigger as it is. -/
theorem keeps_holdsInvalid_applyEdit
    (directory : Directory)
    (request : PageRequest)
    (tree : Tree)
    {text : String}
    (hOther : ∀ value, edit? text ≠ some (path, value)) :
    Keeps (Session.Works request tree (·.HoldsInvalid path))
      (applyEdit directory.service text) := by
  apply keeps_applyEdit
  intro other value hText
  constructor
  · apply directory.keeps_works request tree (by simp) (by simp)
    intro form after hHolds hAlters
    refine hHolds.alters (by simp) ?_ hAlters
    rintro value hSame
    cases hSame
    exact hOther _ hText
  · apply directory.keeps_works request tree (by simp) (by simp)
    intro form after hHolds hAlters
    exact hHolds.alters (by simp) (by simp) hAlters

/- A trigger that takes a text holds it. -/
theorem type_spec
    (hTrigger : ∀ form : Form, (form.trigger? path).isSome)
    (value : String) :
    Triple (Session.Works request tree fun _ => True)
      (Page.act directory.service (.edit path value))
      (fun _ session =>
        request.mode.isMutable ∧
          session.Works request tree fun form =>
            ∃ trigger,
              form.trigger? path = some trigger ∧
                trigger.field.value = value)
      (fun _ => Session.IsAt request tree) := by
  have hKeeps :
      Keeps (Session.Works request tree fun _ => True)
        (Page.act directory.service (.edit path value)) :=
    directory.keeps_works request tree (by simp) (by simp)
      fun _ _ _ _ => trivial
  intro session hSession
  have hAfter := hKeeps session hSession
  rcases hPerform :
      (Page.act directory.service (.edit path value)).perform
        session with
    ⟨result, after⟩
  rw [hPerform] at hAfter
  cases result with
  | error error => exact hAfter.1
  | ok reply =>
      rw [Session.perform_edit] at hPerform
      rcases hEdit :
          session.page.form.edit path value
            session.page.options.autoValidate with
        ⟨outcome, form⟩
      rw [hEdit] at hPerform
      cases outcome with
      | error error => cases hPerform
      | ok flag =>
          cases hPerform
          rcases hAfter with ⟨hAt, hBears⟩
          rcases Form.exists_trigger?_edit (hTrigger _)
              (congrArg Prod.fst hEdit) with
            ⟨hMutable, hTyped⟩
          rw [hEdit] at hTyped
          rw [hSession.2.form.1] at hMutable
          exact
            ⟨hMutable, hAt, hBears.options, hBears.mode,
              hBears.form.1, hTyped⟩

/- What it holds is judged, and the verdict is kept with it. -/
theorem judge_spec
    {value : String}
    (hInvalid :
      (TriggerCheck.ofAnswer
        (Schedule.describe value)).valid = false) :
    Triple
      (Session.Works request tree fun form =>
        ∃ trigger,
          form.trigger? path = some trigger ∧
            trigger.field.value = value)
      (Page.act directory.service (.checkTrigger path))
      (fun _ => Session.Works request tree (·.HoldsInvalid path))
      (fun _ => Session.IsAt request tree) := by
  rintro session
    ⟨hAt, hOptions, hMode, hForm, trigger, hTrigger, rfl⟩
  have hJudged :
      (session.page.form.mapTrigger path fun judged =>
        { judged with
          check :=
            some
              (.ofAnswer
                (Schedule.describe
                  trigger.field.value)) }).HoldsInvalid path := by
    refine
      ⟨{ trigger with
          check :=
            some
              (.ofAnswer
                (Schedule.describe trigger.field.value)) },
        ?_, rfl, hInvalid⟩
    rw [Form.trigger?_mapTrigger, if_pos rfl, hTrigger]
    rfl
  unfold Page.act
  rw [Page.perform_map, Page.perform_reported,
    Session.perform_checkTrigger _ hTrigger]
  have hSame :=
    (session.page.form.retains_mapTrigger path fun judged =>
      { judged with
        check :=
          some
            (.ofAnswer
              (Schedule.describe trigger.field.value)) }).mode
  exact
    ⟨⟨hAt.request, hAt.tree⟩, hOptions, hMode,
      hSame.trans hForm, hJudged⟩

/- An edit that gives a trigger no schedule, if it is made. -/
theorem applyEdit_spec_of_invalid
    {text value : String}
    (hText : edit? text = some (path, value))
    (hPath :
      path = .pollScmTrigger ∨
        path = .buildPeriodicallyTrigger)
    (hInvalid :
      (TriggerCheck.ofAnswer
        (Schedule.describe value)).valid = false) :
    Triple (Session.Works request tree fun _ => True)
      (applyEdit directory.service text)
      (fun _ session =>
        request.mode.isMutable ∧
          session.Works request tree (·.HoldsInvalid path))
      (fun _ => Session.IsAt request tree) := by
  have hBoth :
      Triple (Session.Works request tree fun _ => True)
        (do
          let _ ← Page.act directory.service (.edit path value)
          let _ ←
            Page.act directory.service (.checkTrigger path))
        (fun _ session =>
          request.mode.isMutable ∧
            session.Works request tree (·.HoldsInvalid path))
        (fun _ => Session.IsAt request tree) := by
    have hTrigger (form : Form) : (form.trigger? path).isSome := by
      rcases hPath with rfl | rfl <;> rfl
    apply Triple.bind (type_spec hTrigger value)
    intro _
    apply Triple.given
    intro hMutable
    apply Triple.bind (judge_spec hInvalid)
    intro _
    exact Triple.pure fun _ hSession => ⟨hMutable, hSession⟩
  unfold applyEdit
  rw [hText]
  rcases hPath with rfl | rfl <;> exact hBoth

/- The page does not send a form that its check blocks. -/
theorem submit_spec_of_holdsInvalid
    (directory : Directory)
    (request : PageRequest)
    (tree : Tree)
    (path : FieldPath) :
    Triple (Session.Works request tree (·.HoldsInvalid path))
      (Page.submit directory.service) (fun _ _ => False)
      (fun _ => Session.IsAt request tree) := by
  have hPrepare :
      Triple (Session.Works request tree (·.HoldsInvalid path))
        (Page.prepare directory.service)
        (fun _ session =>
          session.Works request tree (·.HoldsInvalid path) ∧
            session.page.submitted = false)
        (fun _ => Session.IsAt request tree) := by
    apply Page.prepare_spec
    · exact fun _ hSession _ => hSession.1
    · rintro session other trigger answer state
        ⟨hAt, hBears⟩ hTrigger hCall
      have hClosed :
          Page.Closed directory.service {} request.mode .submit
            fun form =>
              form.mode = request.mode ∧
                form.HoldsInvalid path :=
        Page.closed_withMode fun _ _ hHolds hAlters =>
          hHolds.alters (by simp) (by simp) hAlters
      exact
        ⟨Directory.isAt_judged hAt hCall, hBears.options,
          hBears.mode,
          hClosed _ _ hBears.form
            (.judge (.inr rfl) hTrigger hCall)⟩
    · exact fun _ _ _ _ _ hSession _ _ hCall =>
        Directory.isAt_asked hSession.1
          (by simp [Request.IsQuery]) hCall
  intro session hSession
  have hPrepared := hPrepare session hSession
  rw [Page.perform_submit]
  rcases hPerform :
      (Page.prepare directory.service).perform session with
    ⟨outcome, after⟩
  rw [hPerform] at hPrepared
  cases outcome with
  | error error => exact hPrepared
  | ok value =>
      rcases hPrepared.1.2.form.2.exists_blocked with
        ⟨error, hBlocked⟩
      dsimp only
      rw [hBlocked]
      exact ⟨hPrepared.1.1.request, hPrepared.1.1.tree⟩

/- There is no dialog to reject on a page for editing. -/
theorem openReject_spec_of_mutable
    (hMutable : request.mode.isMutable) :
    Triple (Session.IsAt request tree)
      (Page.act directory.service .openReject)
      (fun _ _ => False)
      (fun _ => Session.IsAt request tree) := by
  intro session hSession
  have hMode : session.page.request.mode ≠ .approveReject := by
    rw [hSession.request]
    intro hMode
    rw [hMode] at hMutable
    cases hMutable
  unfold Page.act Page.openReject
  dsimp only
  rw [perform_bind, perform_bind, Page.perform_reported,
    Page.perform_requireApproveReject, if_pos hMode]
  exact ⟨hSession.request, hSession.tree⟩

/- Whatever is asked for at the end, nothing is sent. -/
theorem conclude_spec_of_holdsInvalid
    (hMutable : request.mode.isMutable)
    (conclusion : Conclusion) :
    Triple (Session.Works request tree (·.HoldsInvalid path))
      (conclude directory.service conclusion)
      (fun submission session =>
        session.IsAt request tree ∧
          conclusion = .keep ∧ submission = none)
      (fun _ => Session.IsAt request tree) := by
  have hSubmit :=
    Directory.reported_spec
      (submit_spec_of_holdsInvalid directory request tree path)
  cases conclusion with
  | keep =>
      exact Triple.pure fun _ hSession => ⟨hSession.1, rfl, rfl⟩
  | submit =>
      exact Triple.bind hSubmit fun _ _ hFalse => hFalse.elim
  | approve =>
      exact Triple.bind hSubmit fun _ _ hFalse => hFalse.elim
  | reject reason =>
      have hOpen :
          Triple (Session.IsAt request tree)
            (Page.act directory.service .openReject)
            (fun _ _ => False)
            (fun _ => Session.IsAt request tree) :=
        openReject_spec_of_mutable hMutable
      apply Triple.bind
      · apply hOpen.weaken
        · exact fun _ hSession => hSession.1
        · exact fun _ _ hFalse => hFalse
      · exact fun _ _ hFalse => hFalse.elim

/- A run that ends with such a trigger sends nothing. -/
theorem work_spec_of_endsInvalid
    (directory : Directory)
    (request : PageRequest)
    (tree : Tree)
    {arguments : Arguments}
    (hEnds : EndsInvalid arguments.edits) :
    Triple (Session.Works request tree fun _ => True)
      (work directory.service arguments)
      (fun submission session =>
        session.IsAt request tree ∧
          arguments.conclusion = .keep ∧ submission = none)
      (fun _ => Session.IsAt request tree) := by
  rcases hEnds with
    ⟨before, edit, later, path, value, hEdits, hText, hPath,
      hInvalid, hOthers⟩
  have hBefore :
      Triple (Session.Works request tree fun _ => True)
        (before.forM (applyEdit directory.service))
        (fun _ => Session.Works request tree fun _ => True)
        (fun _ => Session.IsAt request tree) := by
    have hKeeps :
        Keeps (Session.Works request tree fun _ => True)
          (before.forM (applyEdit directory.service)) :=
      keeps_edits fun edit _ =>
        keeps_works_applyEdit directory request tree edit
    exact hKeeps.weakenFailed fun _ _ hSession => hSession.1
  have hLater :
      Triple (Session.Works request tree (·.HoldsInvalid path))
        (later.forM (applyEdit directory.service))
        (fun _ =>
          Session.Works request tree (·.HoldsInvalid path))
        (fun _ => Session.IsAt request tree) := by
    have hKeeps :
        Keeps (Session.Works request tree (·.HoldsInvalid path))
          (later.forM (applyEdit directory.service)) :=
      keeps_edits fun other hOther =>
        keeps_holdsInvalid_applyEdit directory request tree
          (hOthers other hOther)
    exact hKeeps.weakenFailed fun _ _ hSession => hSession.1
  unfold work
  rw [hEdits]
  simp only [List.forM_eq_forM, List.forM_append,
    List.forM_cons, bind_assoc]
  apply Triple.bind hBefore
  intro _
  apply Triple.bind
    (applyEdit_spec_of_invalid hText hPath hInvalid)
  intro _
  apply Triple.given
  intro hMutable
  apply Triple.bind hLater
  intro _
  exact conclude_spec_of_holdsInvalid hMutable _

end Command

end BuildForm
