import BuildForm.Proofs.Form.Boxes
import BuildForm.Proofs.Form.Lasting
import BuildForm.Proofs.Form.Reopen

/-
  Forms that are saved as they would be reopened.

  The boxes of a view list no path twice, and its drop-down
  shows one of its options if it has any. A form with such
  views keeps nothing that saving and reopening would change.

  Main declarations:
    * `View.IsSettled`
    * `View.lasting_isSettled`
    * `Form.reopened_toConfiguration`
-/

------------------------------------------------------------
-- Settled Views
------------------------------------------------------------

namespace BuildForm

/- A drop-down that shows one of its options, if it has any. -/
def Credentials.IsSettled (credentials : Credentials) : Prop :=
  match credentials.selected with
  | none => credentials.options = []
  | some index => index < credentials.options.length

/- A view that lists no path twice, with a valid choice. -/
structure View.IsSettled (view : View) : Prop where
  artifacts : view.artifacts.options.Nodup
  versionFiles : view.versionFiles.options.Nodup
  credentials : view.credentials.IsSettled

namespace Credentials

theorem isSettled_ofOptions (offered : List String) :
    (ofOptions offered).IsSettled := by
  cases offered with
  | nil => rfl
  | cons first rest => exact Nat.succ_pos rest.length

theorem IsSettled.select
    {credentials : Credentials}
    (hSettled : credentials.IsSettled)
    (value : String) :
    (credentials.select value).2.IsSettled := by
  unfold Credentials.select
  cases hIndex : credentials.options.idxOf? value with
  | none => exact hSettled
  | some index => exact (List.idxOf?_eq_some_iff.mp hIndex).1

/- A valid choice is shown again where it is stored. -/
theorem IsSettled.chosen
    {credentials : Credentials}
    (hSettled : credentials.IsSettled) :
    chosen credentials.options credentials.value? =
      credentials.value? := by
  rcases credentials with ⟨options, selected⟩
  cases selected with
  | none =>
      have hEmpty : options = [] := hSettled
      rw [hEmpty]
      rfl
  | some index =>
      have hBound : index < options.length := hSettled
      have hOffered : options[index] ∈ options :=
        List.getElem_mem hBound
      simp [Credentials.chosen, value?, hBound,
        Option.filter_some, hOffered]

end Credentials

------------------------------------------------------------
-- Boxes
------------------------------------------------------------

/- A text that is appended unless listed is listed once. -/
theorem SelectionBox.nodup_append
    {box : SelectionBox}
    (hNodup : box.options.Nodup)
    {value : String}
    (hNew : ¬box.contains value) :
    (box.append value).options.Nodup := by
  have hFresh : value ∉ box.options := by
    simpa [contains] using hNew
  refine List.nodup_append.mpr ⟨hNodup, by simp, ?_⟩
  intro option hOption other hOther hSame
  rw [List.mem_singleton.mp hOther] at hSame
  exact hFresh (hSame ▸ hOption)

theorem SelectionBox.nodup_ofEntries
    (owner : ViewId)
    (kind : SelectionKind)
    (entries : List String) :
    (ofEntries owner kind entries).options.Nodup := by
  induction entries using List.reverseRecOn with
  | nil => exact List.nodup_nil
  | append_singleton entries entry ih =>
      rw [ofEntries_append]
      dsimp only
      split
      · exact ih
      · rename_i hNew
        exact nodup_append ih hNew

namespace SelectionBox

variable {box : SelectionBox}

theorem nodup_add
    (hNodup : box.options.Nodup)
    (candidate : String) :
    (box.add candidate).2.options.Nodup := by
  by_cases hTakes : box.Takes candidate
  · have hNew : ¬box.contains candidate := by
      simpa [contains] using hTakes.2
    rw [add_of_takes hTakes]
    exact nodup_append hNodup hNew
  · rcases add_of_not_takes hTakes with ⟨fault, hSame⟩
    rw [hSame]
    exact hNodup

theorem nodup_removeSelected
    (hNodup : box.options.Nodup) :
    box.removeSelected.2.options.Nodup := by
  cases hFound : box.selectedValue? with
  | none =>
      rw [removeSelected_of_none hFound]
      exact hNodup
  | some value =>
      rcases Option.bind_eq_some_iff.mp hFound with
        ⟨index, hIndex, hValue⟩
      rw [removeSelected_of_selected hIndex hValue]
      exact hNodup.sublist (List.eraseIdx_sublist _ _)

theorem nodup_press
    (hNodup : box.options.Nodup)
    (key deleteKey : Key) :
    (box.press key deleteKey).2.options.Nodup := by
  by_cases hRemoval : (Change.press key deleteKey).isRemoval
  · have hSame : (box.press key deleteKey).2 = _ :=
      change_of_isRemoval box hRemoval
    rw [hSame]
    exact nodup_removeSelected hNodup
  · rcases box.press_of_not_isRemoval hRemoval with
      ⟨selected, hSame⟩
    rw [hSame]
    exact hNodup

end SelectionBox

------------------------------------------------------------
-- Views Stay Settled
------------------------------------------------------------

namespace View

variable {view : View}

namespace IsSettled

theorem box
    (hSettled : view.IsSettled)
    (kind : SelectionKind) :
    (view.box kind).options.Nodup := by
  cases kind with
  | artifacts => exact hSettled.artifacts
  | versionFiles => exact hSettled.versionFiles

theorem setBox
    (hSettled : view.IsSettled)
    (kind : SelectionKind)
    {box : SelectionBox}
    (hNodup : box.options.Nodup) :
    (view.setBox kind box).IsSettled := by
  cases kind with
  | artifacts => exact { hSettled with artifacts := hNodup }
  | versionFiles =>
      exact { hSettled with versionFiles := hNodup }

theorem mapField
    (hSettled : view.IsSettled)
    (name : ViewField)
    (change : Field → Field) :
    (view.mapField name change).IsSettled := by
  cases name <;>
    exact
      ⟨hSettled.artifacts, hSettled.versionFiles,
        hSettled.credentials⟩

/- One case for each thing that may happen to a view. -/
theorem step
    {after : View}
    (hSettled : view.IsSettled)
    (hStep : View.Step view after) :
    after.IsSettled := by
  cases hStep with
  | selectCredentials value =>
      exact
        { hSettled with
          credentials := hSettled.credentials.select value }
  | addPath kind =>
      unfold View.addPath
      have hBox :=
        hSettled.setBox kind
          (SelectionBox.nodup_add (hSettled.box kind)
            (view.pathInput kind).value)
      dsimp only
      split
      · exact hBox.mapField _ _
      · exact hBox
  | press kind key deleteKey =>
      apply hSettled.setBox
      exact SelectionBox.nodup_press (hSettled.box kind) _ _
  | setVersionFiles enabled =>
      exact { hSettled with versionFiles := List.nodup_nil }
  | _ =>
      exact
        ⟨hSettled.artifacts, hSettled.versionFiles,
          hSettled.credentials⟩

end IsSettled

theorem isSettled_ofRecord
    (id : ViewId)
    (html : String)
    (credentials : List String)
    (record : ViewRecord) :
    (View.ofRecord id html credentials record).IsSettled where
  artifacts := SelectionBox.nodup_ofEntries id _ _
  versionFiles := by
    unfold View.ofRecord
    dsimp only
    split
    · exact SelectionBox.nodup_ofEntries id _ _
    · exact List.nodup_nil
  credentials := by
    have hFirst := Credentials.isSettled_ofOptions credentials
    unfold View.ofRecord
    dsimp only
    split
    · exact hFirst
    · exact hFirst.select _

/- Views are settled from the start and stay so. -/
theorem lasting_isSettled : View.Lasting View.IsSettled where
  fresh := fun _ _ credentials _ =>
    ⟨List.nodup_nil, List.nodup_nil,
      Credentials.isSettled_ofOptions credentials⟩
  ofRecord := isSettled_ofRecord
  pushBuilder := fun _ _ hSettled => { hSettled with }
  select := fun _ value hSettled =>
    hSettled.step (.selectCredentials _ value)
  change := fun _ _ hSettled hStep => hSettled.step hStep
  mapField := fun _ name change hSettled =>
    hSettled.mapField name change
  mapBuilder := fun _ _ _ hSettled => { hSettled with }
  revalidate := fun _ hSettled => { hSettled with }

end View

end BuildForm

------------------------------------------------------------
-- Saved and Reopened
------------------------------------------------------------

namespace BuildForm

theorem eraseDups_of_nodup
    {texts : List String}
    (hNodup : texts.Nodup) :
    texts.eraseDups = texts := by
  induction texts with
  | nil => rfl
  | cons text texts ih =>
      rcases List.nodup_cons.mp hNodup with ⟨hNew, hRest⟩
      have hOthers :
          texts.filter (fun other => !other == text) = texts := by
        rw [List.filter_eq_self]
        rintro other hOther
        have hDistinct : other ≠ text := by
          rintro rfl
          exact hNew hOther
        simpa using hDistinct
      rw [List.eraseDups_cons, hOthers, ih hRest]

/- A text that is saved is not empty. -/
theorem textIfAny_textOrNone (value : String) :
    textIfAny (Form.textOrNone value) =
      Form.textOrNone value := by
  unfold Form.textOrNone textIfAny
  by_cases hEmpty : value = ""
  · simp [hEmpty]
  · simp [Option.filter_some, hEmpty]

theorem Builder.reopened_toRecord (builder : Builder) :
    builder.toRecord.reopened = builder.toRecord := by
  unfold BuilderRecord.reopened Builder.toRecord textIfAny
  split
  · rename_i hUsed
    simp [Option.filter_some, hUsed.2]
  · rfl

theorem View.IsSettled.reopened_toRecord
    {view : View}
    (hSettled : view.IsSettled) :
    view.toRecord.reopened view.credentials.options =
      view.toRecord := by
  have hBuilders :
      (view.builders.map Builder.toRecord).map
          BuilderRecord.reopened =
        view.builders.map Builder.toRecord := by
    rw [List.map_map]
    exact List.map_congr_left fun builder _ =>
      builder.reopened_toRecord
  unfold ViewRecord.reopened View.toRecord
  dsimp only
  rw [eraseDups_of_nodup hSettled.artifacts,
    eraseDups_of_nodup hSettled.versionFiles,
    hSettled.credentials.chosen, hBuilders]

/-
  What a form with settled views saves is what it would save
  again after reopening it, if all views offer the same.
-/
theorem Form.reopened_toConfiguration
    {form : Form}
    {offered : List String}
    (hSettled : form.EachView View.IsSettled)
    (hOffered :
      form.EachView fun view =>
        view.credentials.options = offered) :
    form.toConfiguration.reopened offered =
      form.toConfiguration := by
  have hViews :
      form.views.records.map (·.reopened offered) =
        form.views.records := by
    unfold Views.records
    rw [List.map_map]
    apply List.map_congr_left
    intro view hView
    rw [← hOffered view hView]
    exact (hSettled view hView).reopened_toRecord
  have hComments :
      textIfAny
          (if form.commentsEnabled then
            textOrNone form.comments
          else
            none) =
        if form.commentsEnabled then
          textOrNone form.comments
        else
          none := by
    split
    · exact textIfAny_textOrNone form.comments
    · rfl
  unfold Configuration.reopened toConfiguration
  dsimp only
  rw [hViews, hComments]
  simp only [textIfAny_textOrNone]
  rfl

end BuildForm
