import BuildForm.Proofs.Form.Check
import BuildForm.Proofs.Form.Typed

/-
  Properties of single views that last.

  A property that every new and every stored view has, and
  that nothing which happens to a view takes away, holds of
  all views of a form at any time.

  Main declarations:
    * `View.Innate`
    * `View.Standing`
    * `View.Lasting`
    * `Form.EachView`
    * `Form.EachView.modify_iff`
    * `Form.EachView.load`
    * `Form.EachView.step`
    * `Form.EachView.tick`
-/

namespace BuildForm

/-
  A property that new and stored views have, and that neither
  another builder, nor credentials, nor a check takes away.
-/
structure View.Innate (P : View → Prop) : Prop where
  fresh :
    ∀ id html credentials folder,
      P ((View.blank id html credentials).mapField
        .localDirectoryPath (·.setValue folder))
  ofRecord :
    ∀ id html credentials record,
      P (View.ofRecord id html credentials record)
  pushBuilder :
    ∀ view html, P view → P (view.pushBuilder html).2
  select :
    ∀ view value, P view →
      P { view with
        credentials := (view.credentials.select value).2 }
  revalidate : ∀ view, P view → P view.revalidate

/- One that inputs do not matter for. -/
structure View.Standing (P : View → Prop) : Prop
    extends View.Innate P where
  mapField :
    ∀ view name change, P view → P (view.mapField name change)
  mapBuilder :
    ∀ view id change, P view → P (view.mapBuilder id change)

/- One that stays whatever happens to a view. -/
structure View.Lasting (P : View → Prop) : Prop
    extends View.Standing P where
  change :
    ∀ view after, P view → View.Step view after → P after

/- Every view of a form has a property. -/
def Form.EachView (form : Form) (P : View → Prop) : Prop :=
  ∀ view ∈ form.views.items, P view

namespace Form

namespace EachView

variable {P : View → Prop}
variable {form after : Form}

/- Only the view that is found and changed is in question. -/
theorem modify_iff
    (hEach : form.EachView P)
    (id : ViewId)
    (change : View → View) :
    ({ form with
      views := form.views.modify id change } : Form).EachView P ↔
      ∀ view, form.views.view? id = some view →
        P (change view) := by
  cases hFound : form.views.view? id with
  | none =>
      rw [Views.modify_of_view?_eq_none hFound]
      exact iff_of_true hEach (by simp)
  | some view =>
      rcases Views.modify_of_view? hFound change with
        ⟨front, back, hSplit, hModify⟩
      have hOld :
          ∀ other ∈ front ++ view :: back, P other :=
        fun other hOther => hEach other (hSplit ▸ hOther)
      rw [List.forall_mem_append, List.forall_mem_cons] at hOld
      unfold EachView
      rw [hModify]
      dsimp only
      rw [List.forall_mem_append, List.forall_mem_cons]
      constructor
      · rintro ⟨_, hChanged, _⟩ found hSame
        cases hSame
        exact hChanged
      · intro hChanged
        exact ⟨hOld.1, hChanged view rfl, hOld.2.2⟩

theorem modify
    (hEach : form.EachView P)
    (id : ViewId)
    {change : View → View}
    (hChange : ∀ view, P view → P (change view)) :
    ∀ view ∈ (form.views.modify id change).items, P view := by
  intro view hView
  rcases Views.mem_modify hView with
    hOld | ⟨before, hBefore, rfl⟩
  · exact hEach view hOld
  · exact hChange before (hEach before hBefore)

/- An input is one of a view, of a builder, or of no view. -/
theorem mapField
    (hEach : form.EachView P)
    (path : FieldPath)
    {change : Field → Field}
    (hView :
      ∀ view name, P view → P (view.mapField name change))
    (hBuilder :
      ∀ view id, P view →
        P (view.mapBuilder id fun entry =>
          { entry with userConfig := change entry.userConfig })) :
    (form.mapField path change).EachView P := by
  cases path with
  | view id name =>
      exact hEach.modify id fun view => hView view name
  | builder id builder =>
      exact hEach.modify id fun view => hBuilder view builder
  | _ => exact hEach

theorem mapTrigger
    (hEach : form.EachView P)
    (path : FieldPath)
    (change : Trigger → Trigger) :
    (form.mapTrigger path change).EachView P := by
  unfold Form.mapTrigger
  split
  · exact hEach
  · exact hEach
  · exact hEach

theorem forget
    (hEach : form.EachView P)
    (path : FieldPath) :
    (form.forget path).EachView P := by
  unfold Form.forget
  apply EachView.mapTrigger
  split
  · exact hEach
  · exact hEach

/- Only how the input is left by what was typed matters. -/
theorem edit
    (hEach : form.EachView P)
    (path : FieldPath)
    (value : String)
    (validate : Bool)
    (hView :
      ∀ view name (field : Field), P view →
        P (view.mapField name fun _ =>
          field.typed value validate))
    (hBuilder :
      ∀ view id (field : Field), P view →
        P (view.mapBuilder id fun entry =>
          { entry with
            userConfig := field.typed value validate })) :
    (form.edit path value validate).2.EachView P := by
  rcases form.snd_edit path value validate with
    hSame | hForgot | ⟨field, _, hTyped⟩
  · rw [hSame]
    exact hEach
  · rw [hForgot]
    exact hEach.forget path
  · rw [hTyped]
    exact
      (hEach.forget path).mapField path
        (fun view name => hView view name field)
        (fun view id => hBuilder view id field)

theorem revalidateViews
    (hEach : form.EachView P)
    (hP : View.Innate P) :
    form.revalidateViews.EachView P := by
  intro view hView
  rcases List.mem_map.mp hView with ⟨before, hBefore, rfl⟩
  exact hP.revalidate before (hEach before hBefore)

theorem check
    (hEach : form.EachView P)
    (hP : View.Innate P) :
    form.check.2.EachView P := by
  unfold EachView
  rcases form.views_check with hSame | hJudged
  · rw [hSame]
    exact hEach
  · rw [hJudged]
    exact hEach.revalidateViews hP

/- One case for each thing that is loaded. -/
theorem load
    (hEach : form.EachView P)
    (hP : View.Innate P)
    (hLoad : Form.Load form after) :
    after.EachView P := by
  cases hLoad with
  | views loaded =>
      intro view hView
      unfold Views.load at hView
      split at hView
      · exact hEach view hView
      · rcases Views.mem_itemsOf hView with
          ⟨id, html, record, _, rfl⟩
        exact hP.ofRecord _ _ _ _
  | record config =>
      unfold Form.applyConfiguration
      cases config.email with
      | none => exact hEach
      | some address =>
          dsimp only
          split
          · exact hEach
          · exact hEach
  | new =>
      intro view hView
      cases hView
  | newComments =>
      unfold Form.setCommentsEnabled
      split
      · exact hEach
      · exact hEach
  | _ => exact hEach

/- One case for each thing that may happen to a form. -/
theorem step
    {mode : PageMode}
    (hEach : form.EachView P)
    (hP : View.Lasting P)
    (hStep : Form.Step mode form after) :
    after.EachView P := by
  cases hStep with
  | views _ hViews =>
      exact hViews.forall_items hP.fresh hP.change hEach
  | edit path value validate =>
      exact
        hEach.edit path value validate
          (fun view name _ => hP.mapField view name _)
          (fun view id _ => hP.mapBuilder view id _)
  | judge path check => exact hEach.mapTrigger path _
  | check => exact hEach.check hP.toInnate
  | _ => exact hEach

theorem tick
    (hEach : form.EachView P)
    (hTick : Form.Tick form after) :
    after.EachView P := by
  cases hTick with
  | email enabled =>
      unfold Form.setEmailEnabled
      split
      · exact hEach
      · exact hEach
  | comments enabled =>
      unfold Form.setCommentsEnabled
      split
      · exact hEach
      · exact hEach
  | machine node checked =>
      unfold Form.toggleMachine
      split
      · exact hEach
      · exact hEach

end EachView

end Form

end BuildForm
