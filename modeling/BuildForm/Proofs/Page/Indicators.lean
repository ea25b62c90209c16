import BuildForm.Proofs.Form.Honest
import BuildForm.Proofs.Page.Arising
import BuildForm.Proofs.Page.Closed
import BuildForm.Service.Directory

/-
  Whether the indicators of a page outlive their causes.

  On a page that judges an input when it is left, indicators
  are honest and verdicts are those on the schedules that are
  shown: whatever else takes a text away takes its indicator
  away, too, or takes a text that is accepted. The one
  exception is the checkbox of an override, which empties an
  override that is wrong and leaves its indicator on.

  Main declarations:
    * `Form.IsHonest`
    * `Page.closed_isHonest`
    * `Page.LeavesIndicator`
    * `Session.indicators_honest_iff`
-/

------------------------------------------------------------
-- Inputs of the Form
------------------------------------------------------------

namespace BuildForm

/- The service answers with a verdict for a schedule. -/
def Service.Judges
    {σ : Type}
    (service : Service σ)
    (schedule : String)
    (check : TriggerCheck) : Prop :=
  ∃ answer before after,
    service (.judgeTrigger schedule) before =
        (.ok answer, after) ∧
      check = .ofAnswer answer

/- A trigger whose verdict is on the schedule that it holds. -/
structure Trigger.IsHonest
    {σ : Type}
    (service : Service σ)
    (trigger : Trigger) : Prop where
  field : trigger.field.IsHonest
  check :
    ∀ check, trigger.check = some check →
      service.Judges trigger.field.value check

/- A form with honest inputs, those of its views aside. -/
structure Form.IsHonest
    {σ : Type}
    (service : Service σ)
    (form : Form) : Prop where
  projectName : form.projectName.IsHonest
  email : form.email.IsHonest
  configEmail : form.configEmail.IsHonest
  triggers :
    ∀ path trigger, form.trigger? path = some trigger →
      trigger.IsHonest service

namespace Form

namespace IsHonest

variable {σ : Type}
variable {service : Service σ}
variable {form after : Form}

theorem mapTrigger
    (hForm : form.IsHonest service)
    {path : FieldPath}
    {change : Trigger → Trigger}
    (hChange :
      ∀ trigger, form.trigger? path = some trigger →
        (change trigger).IsHonest service) :
    (form.mapTrigger path change).IsHonest service := by
  have hTriggers :
      ∀ other trigger,
        (form.mapTrigger path change).trigger? other =
          some trigger →
        trigger.IsHonest service := by
    intro other trigger hTrigger
    rw [trigger?_mapTrigger] at hTrigger
    split at hTrigger
    · rename_i hSame
      subst hSame
      rcases Option.map_eq_some_iff.mp hTrigger with
        ⟨before, hBefore, rfl⟩
      exact hChange before hBefore
    · exact hForm.triggers other trigger hTrigger
  cases path <;>
    exact
      ⟨hForm.projectName, hForm.email, hForm.configEmail,
        hTriggers⟩

theorem forget
    (hForm : form.IsHonest service)
    (path : FieldPath) :
    (form.forget path).IsHonest service := by
  have hForgets :
      ∀ other : Form,
        other.IsHonest service →
        (other.mapTrigger path fun trigger =>
          { trigger with check := none }).IsHonest service := by
    intro other hOther
    apply hOther.mapTrigger
    intro trigger hTrigger
    exact
      ⟨(hOther.triggers path trigger hTrigger).field,
        fun _ hCheck => by cases hCheck⟩
  unfold Form.forget
  dsimp only
  split
  · exact hForgets _ { hForm with }
  · exact hForgets form hForm

/- A trigger that is typed into has no verdict any more. -/
theorem edit
    (hForm : form.IsHonest service)
    (path : FieldPath)
    (value : String) :
    (form.edit path value true).2.IsHonest service := by
  have hForgot := hForm.forget path
  rcases form.snd_edit path value true with
    hSame | hOnly | ⟨field, _, hTyped⟩
  · rw [hSame]
    exact hForm
  · rw [hOnly]
    exact hForgot
  · have hLeft := field.isHonest_typed value
    have hTrigger :
        ((form.forget path).mapTrigger path fun trigger =>
          { trigger with
            field := field.typed value true }).IsHonest
              service := by
      apply hForgot.mapTrigger
      intro trigger hTrigger
      refine ⟨hLeft, ?_⟩
      intro check hCheck
      rw [trigger?_forget, if_pos rfl] at hTrigger
      rcases Option.map_eq_some_iff.mp hTrigger with
        ⟨before, _, rfl⟩
      cases hCheck
    rw [hTyped]
    cases path with
    | projectName => exact { hForgot with projectName := hLeft }
    | email => exact { hForgot with email := hLeft }
    | configEmail => exact { hForgot with configEmail := hLeft }
    | pollScmTrigger => exact hTrigger
    | buildPeriodicallyTrigger => exact hTrigger
    | _ => exact { hForgot with }

/- The check runs the rule of the project name, if it runs. -/
theorem check
    (hForm : form.IsHonest service)
    (hTyped : form.IsTyped) :
    form.check.2.IsHonest service := by
  have hName : form.check.2.projectName.IsHonest := by
    rcases form.projectName_check with hSame | hJudged
    · rw [hSame]
      exact hForm.projectName
    · rw [hJudged]
      intro fault hFault
      rw [hTyped.projectName]
      exact hFault
  have hTriggers := form.sameTriggers_check
  rcases form.exists_check_eq with
    ⟨_, _, _, _, _, _, _, hCheck⟩
  rw [hCheck] at hName hTriggers ⊢
  refine ⟨hName, hForm.email, hForm.configEmail, ?_⟩
  intro path trigger hTrigger
  rw [hTriggers.trigger?_eq] at hTrigger
  exact hForm.triggers path trigger hTrigger

theorem of_same
    (hForm : form.IsHonest service)
    (hSame : form.SameInputs after) :
    after.IsHonest service where
  projectName := by
    rw [hSame.projectName]
    exact hForm.projectName
  email := by
    rw [hSame.email]
    exact hForm.email
  configEmail := by
    rw [hSame.configEmail]
    exact hForm.configEmail
  triggers := by
    intro path trigger hTrigger
    rw [hSame.triggers.trigger?_eq] at hTrigger
    exact hForm.triggers path trigger hTrigger

/- The address is taken away together with its indicator. -/
theorem showEmail
    (hForm : form.IsHonest service)
    (enabled : Bool) :
    (form.showEmail enabled).IsHonest service := by
  refine { hForm with email := ?_ }
  cases enabled with
  | true => exact hForm.email
  | false => exact Field.isHonest_of_fault_eq_none rfl

theorem tick
    (hForm : form.IsHonest service)
    (hTick : Form.Tick form after) :
    after.IsHonest service := by
  cases hTick with
  | email enabled =>
      unfold setEmailEnabled
      split
      · exact hForm.showEmail enabled
      · exact hForm
  | comments enabled =>
      unfold setCommentsEnabled
      split
      · exact { hForm with }
      · exact hForm
  | machine node checked =>
      unfold toggleMachine
      split
      · exact { hForm with }
      · exact hForm

end IsHonest

end Form

end BuildForm

------------------------------------------------------------
-- Forms without Marks
------------------------------------------------------------

namespace BuildForm

namespace Form

/- A form whose inputs show nothing, those of its views aside. -/
structure IsUnmarked (form : Form) : Prop
    extends form.IsUnjudged where
  projectName : form.projectName.fault = none
  email : form.email.fault = none
  configEmail : form.configEmail.fault = none
  pollScmTrigger : form.pollScmTrigger.field.fault = none
  buildPeriodicallyTrigger :
    form.buildPeriodicallyTrigger.field.fault = none

namespace IsUnmarked

variable {form after : Form}

theorem blank (mode : PageMode) : (Form.blank mode).IsUnmarked :=
  ⟨⟨rfl, rfl⟩, rfl, rfl, rfl, rfl, rfl⟩

theorem isHonest
    {σ : Type}
    (hForm : form.IsUnmarked)
    (service : Service σ) :
    form.IsHonest service where
  projectName := Field.isHonest_of_fault_eq_none hForm.projectName
  email := Field.isHonest_of_fault_eq_none hForm.email
  configEmail := Field.isHonest_of_fault_eq_none hForm.configEmail
  triggers := by
    intro path trigger hTrigger
    have hUnjudged :=
      hForm.toIsUnjudged.check_eq_none hTrigger
    constructor
    · apply Field.isHonest_of_fault_eq_none
      cases path with
      | pollScmTrigger =>
          cases hTrigger
          exact hForm.pollScmTrigger
      | buildPeriodicallyTrigger =>
          cases hTrigger
          exact hForm.buildPeriodicallyTrigger
      | _ => cases hTrigger
    · intro check hCheck
      rw [hUnjudged] at hCheck
      cases hCheck

/- Loading fills inputs in but judges none of them. -/
theorem load
    (hForm : form.IsUnmarked)
    (hLoad : Form.Load form after) :
    after.IsUnmarked := by
  have hUnjudged := hForm.toIsUnjudged.load hLoad
  cases hLoad with
  | record config =>
      refine
        ⟨hUnjudged, hForm.projectName, ?_, hForm.configEmail,
          hForm.pollScmTrigger, hForm.buildPeriodicallyTrigger⟩
      unfold applyConfiguration
      cases config.email with
      | none => exact hForm.email
      | some address =>
          dsimp only
          split
          · exact hForm.email
          · exact hForm.email
  | newComments =>
      unfold setCommentsEnabled
      split
      · exact { hForm with }
      · exact hForm
  | _ => exact { hForm with }

end IsUnmarked

end Form

end BuildForm

------------------------------------------------------------
-- Actions
------------------------------------------------------------

namespace BuildForm

namespace Page

variable {σ : Type}
variable {service : Service σ}
variable {options : PageOptions}
variable {mode : PageMode}
variable {action : Action}

theorem closed_arises :
    Closed service options mode action Form.Arises := by
  intro form after hForm hAlters
  rcases hAlters.cases with rfl | hLoad | hStep
  · exact hForm
  · exact hForm.load hLoad
  · exact hForm.step hStep

/- Opening the page leaves no marks. -/
theorem closed_isUnmarked :
    Closed service options mode .init Form.IsUnmarked := by
  intro form after hForm hAlters
  cases hAlters with
  | load hLoad => exact hForm.load hLoad
  | change _ _ hChange => cases hChange
  | judge hAction _ _ => simp at hAction
  | quiet _ hSame =>
      have hUnjudged := hForm.toIsUnjudged.of_same hSame.triggers
      refine ⟨hUnjudged, ?_, ?_, ?_, ?_, ?_⟩
      · rw [hSame.projectName]
        exact hForm.projectName
      · rw [hSame.email]
        exact hForm.email
      · rw [hSame.configEmail]
        exact hForm.configEmail
      · rw [hSame.triggers.pollScm]
        exact hForm.pollScmTrigger
      · rw [hSame.triggers.buildPeriodically]
        exact hForm.buildPeriodicallyTrigger
  | _ => exact { hForm with }

/- Nothing but opening the page sets a text unjudged. -/
theorem closed_isHonest
    (hAuto : options.autoValidate = true)
    (hAction : action ≠ .init) :
    Closed service options mode action fun form =>
      form.Arises ∧ form.IsHonest service := by
  rintro form after ⟨hArises, hForm⟩ hAlters
  refine ⟨closed_arises form after hArises hAlters, ?_⟩
  cases hAlters with
  | load _ => exact absurd rfl hAction
  | edit _ path value =>
      rw [hAuto]
      exact hForm.edit path value
  | judge _ hTrigger hAnswer =>
      apply hForm.mapTrigger
      intro trigger hSame
      rw [hTrigger] at hSame
      cases hSame
      refine ⟨(hForm.triggers _ _ hTrigger).field, ?_⟩
      intro check hCheck
      cases hCheck
      exact ⟨_, _, _, hAnswer, rfl⟩
  | check _ => exact hForm.check hArises.isTyped
  | quiet _ hSame => exact hForm.of_same hSame
  | _ => exact { hForm with }

end Page

end BuildForm

------------------------------------------------------------
-- Gestures
------------------------------------------------------------

namespace BuildForm

/-
  A gesture that empties an override with its checkbox while
  its indicator is on.
-/
def Page.LeavesIndicator (gesture : Gesture) (page : Page) :
    Prop :=
  ∃ id builder view,
    gesture = .act (.setOtherConfig id builder false) ∧
      page.isMutable ∧
      page.form.views.view? id = some view ∧
      ∃ entry ∈ view.builders,
        entry.id = builder ∧ entry.userConfig.fault ≠ none

namespace Session

open Page

variable {σ : Type}
variable {service : Service σ}
variable {options : PageOptions}
variable {mode : PageMode}
variable {session : Session σ}

/- A session with honest inputs, its overrides aside. -/
structure IsHonest
    (service : Service σ)
    (options : PageOptions)
    (mode : PageMode)
    (session : Session σ) : Prop where
  bears :
    session.Bears options mode fun form =>
      form.Arises ∧ form.IsHonest service
  views : session.page.form.EachView View.IsHonest

/- Inputs of views stay honest if typing runs their rules. -/
theorem views_respond
    (hAuto : session.page.options.autoValidate = true)
    (hTyped : session.page.form.IsTyped)
    (hViews : session.page.form.EachView View.IsHonest)
    (gesture : Gesture) :
    ((Page.respond service gesture).perform
        session).2.page.form.EachView View.IsHonest := by
  rw [eachView_respond_iff View.innate_isHonest _ gesture
    hViews]
  · intro view _ hChanges
    rcases hChanges with
      ⟨action, id, change, -, hChange, -, hFound, rfl⟩
    have hView := List.mem_of_find?_eq_some hFound
    exact
      (hViews view hView).step (hTyped.views view hView)
        (Action.step_of_change? hChange view)
  · intro form path value hEach
    rw [hAuto]
    apply hEach.edit path value true
    · intro view name field hView
      exact hView.mapField fun _ _ => field.isHonest_typed value
    · exact fun _ _ _ hView => ⟨hView.inputs, hView.boxes⟩

theorem IsHonest.respond
    (hSession : session.IsHonest service options mode)
    (hAuto : options.autoValidate = true)
    {gesture : Gesture}
    (hGesture : gesture ≠ .act .init) :
    ((Page.respond service gesture).perform
        session).2.IsHonest service options mode := by
  have hKeeps :
      PageM.Keeps
        (Bears options mode fun form =>
          form.Arises ∧ form.IsHonest service)
        (Page.respond service gesture) := by
    apply bears_respond
    · intro action hAction
      apply closed_isHonest hAuto
      intro hInit
      rw [hAction, hInit] at hGesture
      exact hGesture rfl
    · intro form after hForm hTick
      exact ⟨hForm.1.tick hTick, hForm.2.tick hTick⟩
  constructor
  · exact hKeeps.perform hSession.bears
  · apply views_respond _ hSession.bears.form.1.isTyped
      hSession.views
    rw [hSession.bears.options]
    exact hAuto

/- Opening the page for the first time leaves it honest. -/
theorem isHonest_init
    (service : Service σ)
    (request : PageRequest)
    (hAuto : options.autoValidate = true)
    (state : σ) :
    (play service (start request options state)
      [.act .init]).IsHonest service options request.mode := by
  have hClosed :
      Closed service options request.mode .init fun form =>
        form.Arises ∧ form.IsUnmarked := by
    intro form after hForm hAlters
    exact
      ⟨closed_arises form after hForm.1 hAlters,
        closed_isUnmarked form after hForm.2 hAlters⟩
  have hFirst :
      (start request options state).Bears options request.mode
        fun form => form.Arises ∧ form.IsUnmarked :=
    ⟨rfl, rfl, .blank request.mode, .blank request.mode⟩
  have hOpened := hClosed.act.perform hFirst
  constructor
  · exact
      ⟨hOpened.options, hOpened.mode, hOpened.form.1,
        hOpened.form.2.isHonest service⟩
  · apply views_respond hAuto (.blank request.mode)
    exact fun _ hView => absurd hView List.not_mem_nil

end Session

end BuildForm

------------------------------------------------------------
-- Overrides
------------------------------------------------------------

namespace BuildForm

/- But for its own checkbox nothing puts an override wrong. -/
theorem View.Overrides.change
    {Q : Field → Prop}
    {view : View}
    {options : PageOptions}
    {action : Action}
    {id : ViewId}
    {change : View → View}
    (hView : view.Overrides Q)
    (hChange : action.change? options = some (id, change))
    (hOther :
      ∀ builder checked,
        action ≠ .setOtherConfig id builder checked) :
    (change view).Overrides Q := by
  cases action with
  | removeBuilder other builder =>
      cases hChange
      exact hView.removeBuilder builder
  | selectCredentials other value =>
      cases hChange
      exact hView
  | addPath other kind =>
      cases hChange
      exact hView.addPath kind
  | press other kind key =>
      cases hChange
      exact hView.setBox kind _
  | setVersionFiles other enabled =>
      cases hChange
      exact hView
  | setOtherConfig other builder checked =>
      cases hChange
      exact absurd rfl (hOther builder checked)
  | _ => cases hChange

/- The checkbox empties the text and leaves the indicator. -/
theorem Builder.isHonest_setOtherConfig_iff
    {builder : Builder}
    (hKind : builder.userConfig.kind = .userConfig)
    (hHonest : builder.userConfig.IsHonest)
    (checked : Bool) :
    (builder.setOtherConfig checked).userConfig.IsHonest ↔
      ¬(checked = false ∧ builder.userConfig.fault ≠ none) := by
  cases checked with
  | true => exact iff_of_true hHonest (by simp)
  | false =>
      have hAccepts :
          (builder.setOtherConfig false).userConfig.kind.accepts
            (builder.setOtherConfig false).userConfig.value := by
        change builder.userConfig.kind.accepts ""
        rw [hKind]
        decide
      rw [Field.isHonest_iff_of_accepts hAccepts]
      simp [Builder.setOtherConfig]

namespace Session

open Page

variable {σ : Type}
variable {service : Service σ}
variable {options : PageOptions}
variable {mode : PageMode}
variable {session : Session σ}

/-
  What the rule leaves an override as, overrides stay unless
  the checkbox of one makes that something else.
-/
theorem overrides_respond_iff
    {Q : Field → Prop}
    (hHonest : ∀ field : Field, field.IsHonest → Q field)
    (hAuto : session.page.options.autoValidate = true)
    (gesture : Gesture)
    (hViews : session.page.form.EachView (View.Overrides Q)) :
    ((Page.respond service gesture).perform
        session).2.page.form.EachView (View.Overrides Q) ↔
      ∀ id builder checked view,
        gesture = .act (.setOtherConfig id builder checked) →
        session.page.isMutable →
        session.page.form.views.view? id = some view →
        ∀ entry ∈ view.builders,
          entry.id = builder →
          Q (entry.setOtherConfig checked).userConfig := by
  have hOld :
      ∀ id view, session.page.form.views.view? id = some view →
        view.Overrides Q :=
    fun _ view hFound =>
      hViews view (List.mem_of_find?_eq_some hFound)
  rw [eachView_respond_iff (View.innate_overrides hHonest) _
    gesture hViews]
  · constructor
    · intro hAfter id builder checked view hGesture hMutable
        hFound
      have hChange :
          (Action.setOtherConfig id builder checked).change?
              session.page.options =
            some
              (id,
                fun view =>
                  view.mapBuilder builder
                    (·.setOtherConfig checked)) :=
        rfl
      have hChanged :=
        hAfter view _
          ⟨_, id, _, hGesture, hChange, hMutable, hFound, rfl⟩
      exact
        ((hOld id view hFound).mapBuilder_iff builder _).mp
          hChanged
    · intro hAll view _ hChanges
      rcases hChanges with
        ⟨action, id, change, hGesture, hChange, hMutable,
          hFound, rfl⟩
      have hView := hOld id view hFound
      by_cases hBox :
          ∃ builder checked,
            action = .setOtherConfig id builder checked
      · rcases hBox with ⟨builder, checked, rfl⟩
        cases hChange
        exact
          (hView.mapBuilder_iff builder _).mpr
            (hAll id builder checked view hGesture hMutable
              hFound)
      · apply hView.change hChange
        intro builder checked hAction
        exact hBox ⟨builder, checked, hAction⟩
  · intro form path value hEach
    rw [hAuto]
    apply hEach.edit path value true
    · exact fun _ name _ hView => hView.mapField name _
    · intro view id field hView
      rw [hView.mapBuilder_iff]
      intro _ _ _
      exact hHonest _ (field.isHonest_typed value)

/- Opening the page for the first time judges no override. -/
theorem overrides_init
    (service : Service σ)
    (request : PageRequest)
    (hAuto : options.autoValidate = true)
    (state : σ) :
    (play service (start request options state)
      [.act .init]).page.form.EachView
        (View.Overrides Field.IsHonest) := by
  apply
    (overrides_respond_iff (fun _ hField => hField) hAuto
      (.act .init)
      (fun _ hView => absurd hView List.not_mem_nil)).mpr
  intro _ _ _ _ hGesture
  cases hGesture

/- At worst the indicator of an empty override tells nothing. -/
theorem emptied_respond
    (hAuto : session.page.options.autoValidate = true)
    (gesture : Gesture)
    (hViews :
      session.page.form.EachView
        (View.Overrides fun field =>
          field.IsHonest ∨ field.value = "")) :
    ((Page.respond service gesture).perform
        session).2.page.form.EachView
      (View.Overrides fun field =>
        field.IsHonest ∨ field.value = "") := by
  rw [overrides_respond_iff (fun _ hField => .inl hField) hAuto
    gesture hViews]
  intro id builder checked view _ _ hFound entry hEntry _
  cases checked with
  | false => exact .inr rfl
  | true =>
      have hView := List.mem_of_find?_eq_some hFound
      exact hViews view hView entry hEntry

theorem honest_respond_iff
    (hAuto : session.page.options.autoValidate = true)
    (hTyped : session.page.form.IsTyped)
    (gesture : Gesture)
    (hViews :
      session.page.form.EachView
        (View.Overrides Field.IsHonest)) :
    ((Page.respond service gesture).perform
        session).2.page.form.EachView
        (View.Overrides Field.IsHonest) ↔
      ¬LeavesIndicator gesture session.page := by
  have hEntry :
      ∀ id view, session.page.form.views.view? id = some view →
        ∀ entry ∈ view.builders,
          ∀ checked,
            (entry.setOtherConfig checked).userConfig.IsHonest ↔
              ¬(checked = false ∧
                entry.userConfig.fault ≠ none) := by
    intro id view hFound entry hEntry checked
    have hView := List.mem_of_find?_eq_some hFound
    exact
      Builder.isHonest_setOtherConfig_iff
        ((hTyped.views view hView).builders entry hEntry)
        (hViews view hView entry hEntry) checked
  rw [overrides_respond_iff (fun _ hField => hField) hAuto
    gesture hViews]
  constructor
  · intro hAll hLeaves
    rcases hLeaves with
      ⟨id, builder, view, hGesture, hMutable, hFound, entry,
        hMember, hId, hFault⟩
    have hLeft :=
      hAll id builder false view hGesture hMutable hFound entry
        hMember hId
    exact
      (hEntry id view hFound entry hMember false).mp hLeft
        ⟨rfl, hFault⟩
  · intro hNot id builder checked view hGesture hMutable hFound
      entry hMember hId
    apply (hEntry id view hFound entry hMember checked).mpr
    intro hLeaves
    rcases hLeaves with ⟨rfl, hFault⟩
    exact
      hNot
        ⟨id, builder, view, hGesture, hMutable, hFound, entry,
          hMember, hId, hFault⟩

end Session

end BuildForm

------------------------------------------------------------
-- Runs of a Page
------------------------------------------------------------

namespace BuildForm

namespace Session

open Page

variable {σ : Type}

/-
  On a page that is opened once and judges what is typed, the
  overrides are honest at every moment exactly if no checkbox
  empties one that is wrong. All other inputs are honest at
  every moment, and so are the overrides that are not empty.
-/
theorem indicators_honest_iff
    (service : Service σ)
    (request : PageRequest)
    {options : PageOptions}
    (hAuto : options.autoValidate = true)
    (state : σ)
    {gestures : List Gesture}
    (hOnce : Gesture.act .init ∉ gestures) :
    let first :=
      play service (start request options state) [.act .init]
    ((∀ before after, gestures = before ++ after →
        ∀ view ∈
          (play service first before).page.form.views.items,
          ∀ builder ∈ view.builders,
            builder.userConfig.IsHonest) ↔
      ∀ before gesture after,
        gestures = before ++ gesture :: after →
        ¬LeavesIndicator gesture
          (play service first before).page) ∧
      ∀ before after, gestures = before ++ after →
        let form := (play service first before).page.form
        form.IsHonest service ∧
          ∀ view ∈ form.views.items,
            (∀ name field, view.field? name = some field →
              field.IsHonest) ∧
              ∀ builder ∈ view.builders,
                builder.userConfig.IsHonest ∨
                  builder.userConfig.value = "" := by
  intro first
  have hFirst :
      first.IsHonest service options request.mode :=
    isHonest_init service request hAuto state
  have hOpened :
      ∀ gesture ∈ gestures, gesture ≠ .act .init := by
    intro gesture hGesture hInit
    exact hOnce (hInit ▸ hGesture)
  have hRespond :
      ∀ gesture ∈ gestures, ∀ session : Session σ,
        session.IsHonest service options request.mode →
        ((Page.respond service gesture).perform
          session).2.IsHonest service options request.mode :=
    fun gesture hGesture _ hSession =>
      hSession.respond hAuto (hOpened gesture hGesture)
  have hValidates :
      ∀ session : Session σ,
        session.IsHonest service options request.mode →
        session.page.options.autoValidate = true := by
    intro session hSession
    rw [hSession.bears.options]
    exact hAuto
  have hOverrides :
      first.page.form.EachView
        (View.Overrides Field.IsHonest) :=
    overrides_init service request hAuto state
  refine ⟨?_, ?_⟩
  · exact
      forall_moments_iff
        (fun session =>
          session.IsHonest service options request.mode)
        (fun session =>
          session.page.form.EachView
            (View.Overrides Field.IsHonest))
        (fun gesture session =>
          LeavesIndicator gesture session.page)
        hRespond
        (fun gesture _ session hSession hViews =>
          honest_respond_iff (hValidates session hSession)
            hSession.bears.form.1.isTyped gesture hViews)
        hFirst hOverrides
  · have hMoments :=
      forall_moments
        (fun session =>
          session.IsHonest service options request.mode ∧
            session.page.form.EachView
              (View.Overrides fun field =>
                field.IsHonest ∨ field.value = ""))
        (fun gesture hGesture session hSession =>
          ⟨hRespond gesture hGesture session hSession.1,
            emptied_respond (hValidates session hSession.1)
              gesture hSession.2⟩)
        ⟨hFirst, fun view hView builder hBuilder =>
          .inl (hOverrides view hView builder hBuilder)⟩
    intro before after hSplit form
    rcases hMoments before after hSplit with
      ⟨hHonest, hEmptied⟩
    refine ⟨hHonest.bears.form.2, ?_⟩
    intro view hView
    exact
      ⟨(hHonest.views view hView).inputs, hEmptied view hView⟩

/- An override that was wrong, put right and switched off. -/
theorem indicators_honest_iff_corrected :
    let service : Service Tree :=
      Directory.service { root := "store" }
    let options : PageOptions := {}
    let first :=
      play service (start .create options Tree.empty)
        [.act .init]
    let before :=
      [Gesture.act (.setOtherConfig ⟨0⟩ ⟨0⟩ true),
        .act (.edit (.builder ⟨0⟩ ⟨0⟩) "Release x64"),
        .act (.edit (.builder ⟨0⟩ ⟨0⟩) "Release-x64")]
    let unchecks := Gesture.act (.setOtherConfig ⟨0⟩ ⟨0⟩ false)
    options.autoValidate = true ∧
      .act .init ∉ before ++ [unchecks] ∧
      ¬LeavesIndicator unchecks (play service first before).page := by
  intro service options first before unchecks
  let gestures := before ++ [unchecks]
  have hAuto : options.autoValidate = true := rfl
  have hOnce : .act .init ∉ gestures := by decide
  have hMoments :
      ∀ count ≤ gestures.length,
        ∀ view ∈
          (play service first
            (gestures.take count)).page.form.views.items,
          ∀ builder ∈ view.builders,
            builder.userConfig.IsHonest := by
    decide +kernel
  have hIff :=
    (indicators_honest_iff service .create hAuto Tree.empty
      hOnce).1
  refine ⟨hAuto, hOnce, ?_⟩
  exact
    hIff.mp (forall_moments_of_take hMoments) before unchecks []
      rfl

/- A wrong override is emptied, and its indicator stays on. -/
theorem not_always_indicators_honest :
    let service : Service Tree :=
      Directory.service { root := "store" }
    let first :=
      play service (start .create {} Tree.empty) [.act .init]
    ¬∀ gestures : List Gesture,
      .act .init ∉ gestures →
      ∀ view ∈
        (play service first gestures).page.form.views.items,
        ∀ builder ∈ view.builders,
          builder.userConfig.fault ≠ none →
          builder.userConfig.kind.accepts
            builder.userConfig.value = false := by
  intro service first hAlways
  let gestures :=
    [Gesture.act (.setOtherConfig ⟨0⟩ ⟨0⟩ true),
      .act (.edit (.builder ⟨0⟩ ⟨0⟩) "Release x64"),
      .act (.setOtherConfig ⟨0⟩ ⟨0⟩ false)]
  have hShown :
      ∃ view ∈
        (play service first gestures).page.form.views.items,
        ∃ builder ∈ view.builders,
          builder.userConfig.fault ≠ none ∧
            builder.userConfig.kind.accepts
              builder.userConfig.value = true := by
    decide +kernel
  have hOnce : .act .init ∉ gestures := by decide
  rcases hShown with
    ⟨view, hView, builder, hBuilder, hFault, hAccepts⟩
  have hRejects :=
    hAlways gestures hOnce view hView builder hBuilder hFault
  rw [hAccepts] at hRejects
  cases hRejects

end Session

end BuildForm
