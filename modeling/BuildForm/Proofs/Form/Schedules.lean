import BuildForm.Page.Sending
import BuildForm.Proofs.Form.Check
import BuildForm.Proofs.Form.Step

/-
  The schedules of a form and what is known of them.

  A trigger is stale while it holds a schedule that was not
  judged. Judging the first stale one leaves the others, and a
  form without an offending trigger has no verdict against a
  schedule. Typing into a trigger drops its verdict, whether
  the input takes the value or not.

  Main declarations:
    * `Form.SameTriggers`
    * `Form.staleTriggers`
    * `Form.staleTriggers_judge`
    * `Form.triggerOffence?_eq_none_iff`
    * `Form.check_edit`
    * `Form.IsUnjudged`
    * `TriggerCheck.ofAnswer_valid_iff`
-/

------------------------------------------------------------
-- Forms with the Same Triggers
------------------------------------------------------------

namespace BuildForm

namespace Form

/- Two forms with the same schedules and verdicts. -/
structure SameTriggers (form other : Form) : Prop where
  pollScm : form.pollScmTrigger = other.pollScmTrigger
  buildPeriodically :
    form.buildPeriodicallyTrigger =
      other.buildPeriodicallyTrigger

variable {form other : Form}

theorem SameTriggers.refl (form : Form) :
    form.SameTriggers form :=
  ⟨rfl, rfl⟩

theorem SameTriggers.trigger?_eq
    (hSame : form.SameTriggers other)
    (path : FieldPath) :
    form.trigger? path = other.trigger? path := by
  unfold trigger?
  rw [hSame.pollScm, hSame.buildPeriodically]

theorem sameTriggers_check (form : Form) :
    form.check.2.SameTriggers form := by
  rcases form.exists_check_eq with
    ⟨_, _, _, _, _, _, _, hCheck⟩
  rw [hCheck]
  exact ⟨rfl, rfl⟩

/- A trigger is changed at its own address only. -/
theorem trigger?_mapTrigger
    (form : Form)
    (path other : FieldPath)
    (change : Trigger → Trigger) :
    (form.mapTrigger path change).trigger? other =
      if other = path then
        (form.trigger? other).map change
      else
        form.trigger? other := by
  by_cases hPath : other = path
  · subst hPath
    rw [if_pos rfl]
    cases other <;> rfl
  · rw [if_neg hPath]
    cases path with
    | pollScmTrigger =>
        cases other with
        | pollScmTrigger => exact absurd rfl hPath
        | _ => rfl
    | buildPeriodicallyTrigger =>
        cases other with
        | buildPeriodicallyTrigger => exact absurd rfl hPath
        | _ => rfl
    | _ => rfl

end Form

end BuildForm

------------------------------------------------------------
-- Stale Triggers
------------------------------------------------------------

namespace BuildForm

namespace Form

variable {form other : Form}
variable {path : FieldPath}

/- The triggers that hold a schedule without a verdict. -/
def staleTriggers (form : Form) : List FieldPath :=
  [FieldPath.pollScmTrigger, .buildPeriodicallyTrigger].filter
    fun path => (form.trigger? path).any Page.isStale

theorem SameTriggers.staleTriggers_eq
    (hSame : form.SameTriggers other) :
    form.staleTriggers = other.staleTriggers := by
  unfold staleTriggers
  simp only [hSame.trigger?_eq]

theorem isStale_of_mem_staleTriggers
    (hPath : path ∈ form.staleTriggers) :
    (form.trigger? path).any Page.isStale :=
  (List.mem_filter.mp hPath).2

/- Only triggers can be stale. -/
theorem mem_staleTriggers
    (hStale : (form.trigger? path).any Page.isStale) :
    path ∈ form.staleTriggers := by
  apply List.mem_filter.mpr
  refine ⟨?_, hStale⟩
  cases path with
  | pollScmTrigger => simp
  | buildPeriodicallyTrigger => simp
  | _ => cases hStale

/- The trigger of the source control comes first. -/
theorem exists_staleTriggers_eq (form : Form) :
    ∃ rest,
      (rest = [.buildPeriodicallyTrigger] ∨ rest = []) ∧
        (form.staleTriggers = .pollScmTrigger :: rest ∨
          form.staleTriggers = rest) := by
  unfold staleTriggers
  cases hPoll : Page.isStale form.pollScmTrigger <;>
    cases hBuild : Page.isStale form.buildPeriodicallyTrigger <;>
    simp [trigger?, hPoll, hBuild]

/- The first stale trigger, once judged, is no longer stale. -/
theorem staleTriggers_judge
    (hFirst : form.staleTriggers.head? = some path)
    (check : TriggerCheck) :
    form.staleTriggers =
      path ::
        (form.mapTrigger path fun trigger =>
          { trigger with
            check := some check }).staleTriggers := by
  have hJudged :
      ∀ trigger : Trigger,
        Page.isStale { trigger with check := some check } =
          false :=
    fun _ => rfl
  unfold staleTriggers at hFirst ⊢
  cases hPoll : Page.isStale form.pollScmTrigger <;>
    cases hBuild : Page.isStale form.buildPeriodicallyTrigger <;>
    simp [trigger?, hPoll, hBuild] at hFirst <;>
    subst hFirst <;>
    simp [trigger?, mapTrigger, hJudged, hPoll, hBuild]

end Form

end BuildForm

------------------------------------------------------------
-- Offending Triggers
------------------------------------------------------------

namespace BuildForm

namespace Form

variable {form : Form}

/- No trigger offends if no verdict is against its schedule. -/
theorem triggerOffence?_eq_none_iff :
    form.triggerOffence? = none ↔
      ∀ path trigger check,
        form.trigger? path = some trigger →
        trigger.check = some check →
        check.valid := by
  unfold triggerOffence?
  rw [List.findSome?_eq_none_iff]
  constructor
  · intro hNone path trigger check hTrigger hCheck
    have hPath :
        path ∈
          [FieldPath.pollScmTrigger,
            .buildPeriodicallyTrigger] := by
      cases path with
      | pollScmTrigger => simp
      | buildPeriodicallyTrigger => simp
      | _ => cases hTrigger
    have hHere := hNone path hPath
    simpa [hTrigger, hCheck] using hHere
  · intro hValid path _
    cases hTrigger : form.trigger? path with
    | none => rfl
    | some trigger =>
        cases hCheck : trigger.check with
        | none => simp [hCheck]
        | some check =>
            have hHere :=
              hValid path trigger check hTrigger hCheck
            simp [hCheck, hHere]

end Form

end BuildForm

------------------------------------------------------------
-- Typing Schedules
------------------------------------------------------------

namespace BuildForm

namespace Form

variable {path other : FieldPath}

theorem trigger?_mapField
    (form : Form)
    (change : Field → Field)
    (hOther : other ≠ path) :
    (form.mapField path change).trigger? other =
      form.trigger? other := by
  cases path with
  | pollScmTrigger =>
      unfold mapField
      rw [trigger?_mapTrigger, if_neg hOther]
  | buildPeriodicallyTrigger =>
      unfold mapField
      rw [trigger?_mapTrigger, if_neg hOther]
  | _ => rfl

theorem trigger?_mapField_self
    (form : Form)
    (path : FieldPath)
    (change : Field → Field) :
    (form.mapField path change).trigger? path =
      (form.trigger? path).map fun trigger =>
        { trigger with field := change trigger.field } := by
  cases path <;> rfl

/- Triggers are typed into as the mode of the form allows. -/
theorem isEditable_of_trigger?
    {form : Form}
    {trigger : Trigger}
    (hTrigger : form.trigger? path = some trigger)
    (other : Form) :
    other.isEditable path = other.mode.isMutable := by
  cases path with
  | rejectionReason => cases hTrigger
  | _ => rfl

theorem trigger?_forget
    (form : Form)
    (path other : FieldPath) :
    (form.forget path).trigger? other =
      if other = path then
        (form.trigger? other).map fun trigger =>
          { trigger with check := none }
      else
        form.trigger? other := by
  unfold forget
  dsimp only
  rw [trigger?_mapTrigger]
  split
  · split <;> rfl
  · split <;> rfl

/- Typing into an input leaves the other triggers alone. -/
theorem trigger?_edit
    (form : Form)
    (value : String)
    (validate : Bool)
    (hOther : other ≠ path) :
    (form.edit path value validate).2.trigger? other =
      form.trigger? other := by
  have hForget :
      (form.forget path).trigger? other =
        form.trigger? other := by
    rw [trigger?_forget, if_neg hOther]
  rcases form.snd_edit path value validate with
    hSame | hOnly | ⟨field, _, hEdit⟩
  · rw [hSame]
  · rw [hOnly, hForget]
  · rw [hEdit, trigger?_mapField _ _ hOther, hForget]

/- A trigger that takes a text holds it. -/
theorem exists_trigger?_edit
    {form : Form}
    {value : String}
    {validate flag : Bool}
    (hTrigger : (form.trigger? path).isSome)
    (hEdit :
      (form.edit path value validate).1 = .ok flag) :
    form.mode.isMutable ∧
      ∃ trigger,
        (form.edit path value validate).2.trigger? path =
            some trigger ∧
          trigger.field.value = value := by
  rcases Option.isSome_iff_exists.mp hTrigger with
    ⟨before, hBefore⟩
  have hName : path ≠ .projectName := by
    rintro rfl
    cases hBefore
  unfold edit at hEdit ⊢
  rw [isEditable_of_trigger? hBefore] at hEdit ⊢
  cases hMutable : form.mode.isMutable with
  | false =>
      rw [hMutable] at hEdit
      cases hEdit
  | true =>
      simp only [hMutable, hName, Bool.not_true,
        Bool.false_eq_true, if_false, false_and] at hEdit ⊢
      refine ⟨trivial, ?_⟩
      split at hEdit
      · cases hEdit
      · split at hEdit
        · cases hEdit
        · rename_i hEnabled
          rw [if_neg hEnabled, trigger?_mapField_self,
            trigger?_forget, if_pos rfl, hBefore]
          refine ⟨_, rfl, ?_⟩
          cases validate <;> rfl

/- Whatever is typed into a trigger, its verdict is gone. -/
theorem check_edit
    {form : Form}
    (hMutable : form.mode.isMutable)
    {value : String}
    {validate : Bool}
    {trigger : Trigger}
    (hTrigger :
      (form.edit path value validate).2.trigger? path =
        some trigger) :
    trigger.check = none := by
  have hForget :
      ∀ forgotten,
        (form.forget path).trigger? path = some forgotten →
        forgotten.check = none := by
    intro forgotten hForgotten
    rw [trigger?_forget, if_pos rfl] at hForgotten
    rcases Option.map_eq_some_iff.mp hForgotten with
      ⟨_, _, rfl⟩
    rfl
  have hEditable : form.isEditable path = true := by
    rw [isEditable_of_trigger? hTrigger]
    exact hMutable
  have hName : path ≠ .projectName := by
    rintro rfl
    cases hTrigger
  unfold edit at hTrigger
  simp only [hEditable, hName, Bool.not_true,
    Bool.false_eq_true, if_false, false_and] at hTrigger
  split at hTrigger
  · exact hForget trigger hTrigger
  · split at hTrigger
    · exact hForget trigger hTrigger
    · dsimp only at hTrigger
      rw [trigger?_mapField_self] at hTrigger
      rcases Option.map_eq_some_iff.mp hTrigger with
        ⟨forgotten, hForgotten, rfl⟩
      exact hForget forgotten hForgotten

end Form

end BuildForm

------------------------------------------------------------
-- Boxes and Loading
------------------------------------------------------------

namespace BuildForm

namespace Form

variable {form after : Form}

/- No box that is ticked is about a trigger. -/
theorem sameTriggers_tick (hTick : Form.Tick form after) :
    after.SameTriggers form := by
  cases hTick with
  | email enabled =>
      unfold setEmailEnabled
      split
      · exact ⟨rfl, rfl⟩
      · exact .refl form
  | comments enabled =>
      unfold setCommentsEnabled
      split
      · exact ⟨rfl, rfl⟩
      · exact .refl form
  | machine node checked =>
      unfold toggleMachine
      split
      · exact ⟨rfl, rfl⟩
      · exact .refl form

/- A form without a verdict on its triggers. -/
structure IsUnjudged (form : Form) : Prop where
  pollScm : form.pollScmTrigger.check = none
  buildPeriodically :
    form.buildPeriodicallyTrigger.check = none

theorem IsUnjudged.of_same
    (hUnjudged : form.IsUnjudged)
    (hSame : after.SameTriggers form) : after.IsUnjudged where
  pollScm := by
    rw [hSame.pollScm]
    exact hUnjudged.pollScm
  buildPeriodically := by
    rw [hSame.buildPeriodically]
    exact hUnjudged.buildPeriodically

/- Loading fills in schedules but brings no verdicts. -/
theorem IsUnjudged.load
    (hUnjudged : form.IsUnjudged)
    (hLoad : Form.Load form after) : after.IsUnjudged := by
  cases hLoad with
  | record config =>
      exact ⟨hUnjudged.pollScm, hUnjudged.buildPeriodically⟩
  | newComments =>
      apply hUnjudged.of_same
      exact sameTriggers_tick (.comments form false)
  | _ => exact ⟨hUnjudged.pollScm, hUnjudged.buildPeriodically⟩

theorem IsUnjudged.check_eq_none
    (hUnjudged : form.IsUnjudged)
    {path : FieldPath}
    {trigger : Trigger}
    (hTrigger : form.trigger? path = some trigger) :
    trigger.check = none := by
  cases path with
  | pollScmTrigger =>
      cases hTrigger
      exact hUnjudged.pollScm
  | buildPeriodicallyTrigger =>
      cases hTrigger
      exact hUnjudged.buildPeriodically
  | _ => cases hTrigger

end Form

end BuildForm

------------------------------------------------------------
-- Answers about Schedules
------------------------------------------------------------

namespace BuildForm

theorem Text.occursIn_iff
    (needle text : List Char) :
    Text.occursIn needle text ↔ needle <:+: text := by
  induction text with
  | nil => simp [occursIn]
  | cons c rest ih =>
      rw [List.infix_cons_iff, ← ih]
      simp [occursIn]

/- A schedule is valid if the answer reports no error. -/
theorem TriggerCheck.ofAnswer_valid_iff (answer : String) :
    (TriggerCheck.ofAnswer answer).valid ↔
      ¬TriggerCheck.errorMarker.toList <:+: answer.toList := by
  rw [← Text.occursIn_iff]
  simp [TriggerCheck.ofAnswer]

end BuildForm
