import BuildForm.Proofs.Page.Outcomes

/-
  What each action can do to the form of a page.

  An action is made of changes that are known from the action
  alone: of the view that it names, of the input that it types
  into, or of one of the parts of the form that nothing else
  is about. Each of them loads something into the form, or is
  one of its steps.

  Main declarations:
    * `Action.change?`
    * `Session.form_act_of_change?`
    * `Page.Alters`
    * `Page.Alters.cases`
-/

------------------------------------------------------------
-- Changes of One View
------------------------------------------------------------

namespace BuildForm

/- What an action does to a view that it names. -/
def Action.change?
    (options : PageOptions) :
    Action → Option (ViewId × (View → View))
  | .removeBuilder id builder =>
      some (id, fun view => (view.removeBuilder builder).2)
  | .selectCredentials id value =>
      some
        (id,
          fun view =>
            { view with
              credentials := (view.credentials.select value).2 })
  | .addPath id kind =>
      some (id, fun view => (view.addPath kind).2)
  | .press id kind key =>
      some
        (id,
          fun view =>
            view.setBox kind
              ((view.box kind).press key options.deleteKey).2)
  | .setVersionFiles id enabled =>
      some (id, fun view => view.setVersionFiles enabled)
  | .setOtherConfig id builder checked =>
      some
        (id,
          fun view =>
            view.mapBuilder builder (·.setOtherConfig checked))
  | _ => none

/- Such a change is one that may happen to a view. -/
theorem Action.step_of_change?
    {options : PageOptions}
    {action : Action}
    {id : ViewId}
    {change : View → View}
    (hChange : action.change? options = some (id, change))
    (view : View) :
    View.Step view (change view) := by
  cases action with
  | removeBuilder other builder =>
      cases hChange
      exact .removeBuilder view builder
  | selectCredentials other value =>
      cases hChange
      exact .selectCredentials view value
  | addPath other kind =>
      cases hChange
      exact .addPath view kind
  | press other kind key =>
      cases hChange
      exact .press view kind key options.deleteKey
  | setVersionFiles other enabled =>
      cases hChange
      exact .setVersionFiles view enabled
  | setOtherConfig other builder checked =>
      cases hChange
      exact .setOtherConfig view builder checked
  | _ => cases hChange

/- A path that its box takes is cleared from the input. -/
theorem View.snd_addPath (view : View) (kind : SelectionKind) :
    (view.addPath kind).2 =
      let added :=
        (view.box kind).add (view.pathInput kind).value
      let after := view.setBox kind added.2
      match added.1 with
      | .ok () => after.mapField kind.inputField Field.clear
      | .error _ => after := by
  unfold addPath
  rcases (view.box kind).add (view.pathInput kind).value with
    ⟨result, box⟩
  cases result <;> rfl

/- Where there is no such builder, changing it does nothing. -/
theorem View.setOtherConfig_eq
    (builder : BuilderId)
    (checked : Bool) :
    (fun view : View =>
        view.mapBuilder builder (·.setOtherConfig checked)) =
      fun view =>
        (match view.builder? builder with
          | some _ =>
              (true,
                view.mapBuilder builder
                  (·.setOtherConfig checked))
          | none => (false, view)).2 := by
  funext view
  cases hBuilder : view.builder? builder with
  | some entry => rfl
  | none =>
      have hOther := List.find?_eq_none.mp hBuilder
      have hSame :
          ∀ entry ∈ view.builders,
            (if entry.id = builder then
              entry.setOtherConfig checked
            else
              entry) = entry := by
        intro entry hEntry
        exact if_neg (by simpa using hOther entry hEntry)
      unfold mapBuilder
      rw [List.map_congr_left hSame, List.map_id']

namespace Views

variable {α : Type}
variable {views : Views}

/- What a change of a view returns is no matter of the views. -/
theorem map_snd_amendItems
    (id : ViewId)
    (change : View → α × View)
    (items : List View) :
    (amendItems id change items).map Prod.snd =
      (amendItems id (fun view => ((), (change view).2))
        items).map Prod.snd := by
  induction items with
  | nil => rfl
  | cons view items ih =>
      unfold amendItems
      by_cases hId : view.id = id
      · rw [if_pos hId, if_pos hId]
        rfl
      · rw [if_neg hId, if_neg hId, Option.map_map,
          Option.map_map]
        have hRest := congrArg (Option.map (view :: ·)) ih
        rw [Option.map_map, Option.map_map] at hRest
        exact hRest

theorem map_snd_amend
    (id : ViewId)
    (change : View → α × View) :
    (views.amend id change).map Prod.snd =
      (views.amend id fun view =>
        ((), (change view).2)).map Prod.snd := by
  have hItems :=
    congrArg
      (Option.map fun items => { views with items := items })
      (map_snd_amendItems id change views.items)
  unfold amend
  rw [Option.map_map, Option.map_map] at hItems ⊢
  exact hItems

theorem modify_eq
    (id : ViewId)
    (change : View → α × View) :
    views.modify id (fun view => (change view).2) =
      ((views.amend id change).map Prod.snd).getD views := by
  rw [map_snd_amend]
  unfold modify
  cases views.amend id fun view => ((), (change view).2) with
  | none => rfl
  | some changed => rfl

end Views

end BuildForm

------------------------------------------------------------
-- Changing One View
------------------------------------------------------------

namespace BuildForm

namespace Page

open PageM

variable {σ α : Type}
variable {service : Service σ}

theorem form_onViews
    (refused : α)
    (change : Views → α × Views)
    (session : Session σ) :
    ((onViews refused change).perform session).2.page.form =
      if session.page.isMutable then
        { session.page.form with
          views := (change session.page.form.views).2 }
      else
        session.page.form := by
  unfold onViews
  rw [perform_bind]
  change
    ((if session.page.isMutable = true then
        onForm fun form =>
          (.ok (change form.views).1,
            { form with views := (change form.views).2 })
      else
        pure refused : PageM σ α).perform session).2.page.form =
      _
  split <;> rfl

theorem form_onView
    (id : ViewId)
    (change : View → Bool × View)
    (session : Session σ) :
    ((onView id change).perform session).2.page.form =
      if session.page.isMutable then
        { session.page.form with
          views :=
            session.page.form.views.modify id fun view =>
              (change view).2 }
      else
        session.page.form := by
  unfold onView
  rw [form_onViews, Views.modify_eq]
  cases session.page.form.views.amend id change <;> rfl

theorem perform_requireMutable (session : Session σ) :
    (requireMutable : PageM σ Unit).perform session =
      if session.page.isMutable then
        (.ok (), session)
      else
        (.error .readOnly, session) := by
  unfold requireMutable
  rw [perform_bind]
  change
    (if (!session.page.isMutable) = true then
        throw .readOnly
      else pure () : PageM σ Unit).perform session = _
  cases session.page.isMutable <;> rfl

theorem form_addPath
    (id : ViewId)
    (kind : SelectionKind)
    (session : Session σ) :
    ((addPath id kind).perform session).2.page.form =
      if session.page.isMutable then
        { session.page.form with
          views :=
            session.page.form.views.modify id fun view =>
              (view.addPath kind).2 }
      else
        session.page.form := by
  unfold addPath
  rw [perform_bind, perform_requireMutable]
  by_cases hMutable : session.page.isMutable
  · rw [if_pos hMutable, if_pos hMutable, Views.modify_eq]
    dsimp only
    unfold onForm perform
    dsimp only [ExceptT.mk, ExceptT.run, StateT.run]
    cases session.page.form.views.amend id
        fun view => view.addPath kind with
    | none => rfl
    | some changed => rfl
  · rw [if_neg hMutable, if_neg hMutable]

end Page

/-
  An action on one view changes that view as it says on a page
  that may be edited, and nothing at all on any other.
-/
theorem Session.form_act_of_change?
    {σ : Type}
    {service : Service σ}
    {session : Session σ}
    {action : Action}
    {id : ViewId}
    {change : View → View}
    (hChange :
      action.change? session.page.options = some (id, change)) :
    ((Page.act service action).perform session).2.page.form =
      if session.page.isMutable then
        { session.page.form with
          views := session.page.form.views.modify id change }
      else
        session.page.form := by
  unfold Page.act
  cases action with
  | removeBuilder other builder =>
      cases hChange
      dsimp only
      rw [Page.perform_map]
      exact Page.form_onView _ _ session
  | selectCredentials other value =>
      cases hChange
      dsimp only
      rw [Page.perform_map]
      exact Page.form_onView _ _ session
  | addPath other kind =>
      cases hChange
      dsimp only
      rw [Page.perform_map _ fun _ => Reply.done,
        Page.perform_reported, form_reported]
      exact Page.form_addPath _ _ session
  | press other kind key =>
      cases hChange
      dsimp only
      rw [Page.perform_map]
      exact Page.form_onView _ _ session
  | setVersionFiles other enabled =>
      cases hChange
      dsimp only
      rw [Page.perform_map]
      exact Page.form_onView _ _ session
  | setOtherConfig other builder checked =>
      cases hChange
      dsimp only
      rw [Page.perform_map, View.setOtherConfig_eq]
      exact Page.form_onView _ _ session
  | _ => cases hChange

end BuildForm

------------------------------------------------------------
-- Changes of the Form
------------------------------------------------------------

namespace BuildForm

/- The inputs of a form that are checked, and its views. -/
def Form.inputs (form : Form) :
    (Field × Field × Field) × (Trigger × Trigger) × Views :=
  ((form.projectName, form.email, form.configEmail),
    (form.pollScmTrigger, form.buildPeriodicallyTrigger),
    form.views)

/- Forms that are the same in these. -/
structure Form.SameInputs (form after : Form) : Prop where
  projectName : after.projectName = form.projectName
  email : after.email = form.email
  configEmail : after.configEmail = form.configEmail
  triggers : after.SameTriggers form
  views : after.views = form.views

theorem Form.SameInputs.of_eq
    {form after : Form}
    (hInputs : after.inputs = form.inputs) :
    form.SameInputs after := by
  unfold Form.inputs at hInputs
  simp only [Prod.mk.injEq] at hInputs
  rcases hInputs with
    ⟨⟨hName, hEmail, hConfig⟩, ⟨hPoll, hBuild⟩, hViews⟩
  exact ⟨hName, hEmail, hConfig, ⟨hPoll, hBuild⟩, hViews⟩

/-
  What an action of a page is made of. A verdict is what the
  service answered for the schedule in the trigger, and typing
  runs the rule of the input if the page says so.
-/
inductive Page.Alters
    {σ : Type}
    (service : Service σ)
    (options : PageOptions)
    (mode : PageMode) : Action → Form → Form → Prop where
  | load {form after : Form} :
      Form.Load form after →
      Alters service options mode .init form after
  | insert
      {action : Action}
      (form : Form)
      (fragment : ViewFragment) :
      mode.isMutable →
      action.addsView →
      Alters service options mode action form
        { form with
          views :=
            (form.views.insert fragment form.scmKind).2 }
  | pushBuilder
      {action : Action}
      (form : Form)
      (id : ViewId)
      (html : String) :
      mode.isMutable →
      action.addsView ∨ action = .addBuilder id →
      Alters service options mode action form
        { form with
          views :=
            form.views.modify id fun view =>
              (view.pushBuilder html).2 }
  | remove (form : Form) (id : ViewId) :
      mode.isMutable →
      Alters service options mode (.removeView id) form
        { form with views := (form.views.remove id).2 }
  | remember (form : Form) (id : ViewId) :
      mode.isMutable →
      Alters service options mode (.rememberCredentials id) form
        { form with
          views := (form.views.rememberCredentials id).2 }
  | change
      {action : Action}
      {id : ViewId}
      {change : View → View}
      (form : Form) :
      mode.isMutable →
      action.change? options = some (id, change) →
      Alters service options mode action form
        { form with views := form.views.modify id change }
  | edit (form : Form) (path : FieldPath) (value : String) :
      Alters service options mode (.edit path value) form
        (form.edit path value options.autoValidate).2
  | judge
      {action : Action}
      {form : Form}
      {path : FieldPath}
      {trigger : Trigger}
      {answer : String}
      {before after : σ} :
      action = .checkTrigger path ∨ action = .submit →
      form.trigger? path = some trigger →
      service (.judgeTrigger trigger.field.value) before =
        (.ok answer, after) →
      Alters service options mode action form
        (form.mapTrigger path fun trigger =>
          { trigger with check := some (.ofAnswer answer) })
  | check (form : Form) :
      Alters service options mode .submit form form.check.2
  | quiet {action : Action} {form after : Form} :
      Form.Step mode form after →
      form.SameInputs after →
      Alters service options mode action form after

namespace Page

variable {σ : Type}
variable {service : Service σ}
variable {options : PageOptions}
variable {mode : PageMode}
variable {action : Action}

/- A view is changed as such, or there is none to be changed. -/
theorem step_modify
    (form : Form)
    (hMutable : mode.isMutable)
    (id : ViewId)
    {change : View → View}
    (hChange : ∀ view, View.Step view (change view)) :
    { form with views := form.views.modify id change } = form ∨
      Form.Step mode form
        { form with views := form.views.modify id change } := by
  unfold Views.modify
  cases hAmend :
      form.views.amend id fun view => ((), change view) with
  | none => exact .inl rfl
  | some changed =>
      right
      refine .views hMutable (.amend ?_ hAmend)
      exact fun view => .inr (hChange view)

/- Each change of an action loads the form or is a step of it. -/
theorem Alters.cases
    {form after : Form}
    (hAlters : Alters service options mode action form after) :
    after = form ∨
      Form.Load form after ∨ Form.Step mode form after := by
  cases hAlters with
  | load hLoad => exact .inr (.inl hLoad)
  | insert _ fragment hMutable _ =>
      exact
        .inr (.inr (.views hMutable (.insert _ fragment _)))
  | pushBuilder _ id html hMutable _ =>
      have hStep := step_modify form hMutable id
        fun view => .addBuilder view html
      exact hStep.imp_right .inr
  | remove _ id hMutable =>
      exact .inr (.inr (.views hMutable (.remove _ id)))
  | remember _ id hMutable =>
      exact
        .inr (.inr (.views hMutable (.rememberCredentials _ id)))
  | @change _ id _ _ hMutable hChange =>
      have hStep := step_modify form hMutable id
        (Action.step_of_change? hChange)
      exact hStep.imp_right .inr
  | edit _ path value =>
      exact .inr (.inr (.edit form path value _))
  | judge _ _ _ => exact .inr (.inr (.judge form _ _))
  | check _ => exact .inr (.inr (.check form))
  | quiet hStep _ => exact .inr (.inr hStep)

end Page

end BuildForm
