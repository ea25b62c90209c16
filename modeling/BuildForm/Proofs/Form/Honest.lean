import BuildForm.Proofs.Form.Boxes
import BuildForm.Proofs.Form.Lasting

/-
  Indicators that tell of the text in their input.

  An indicator is honest if it is off, or on for the fault
  that the rule finds in the text. The rule leaves every
  indicator so, and where a text is taken away that the rule
  accepts, there was nothing to tell of.

  Main declarations:
    * `Field.IsHonest`
    * `View.IsHonest`
    * `View.Overrides`
    * `View.IsHonest.step`
    * `View.Overrides.mapBuilder_iff`
-/

------------------------------------------------------------
-- Inputs
------------------------------------------------------------

namespace BuildForm

/- An input that shows no fault but that of its text. -/
def Field.IsHonest (field : Field) : Prop :=
  ∀ fault,
    field.fault = some fault →
    field.kind.fault? field.value = some fault

namespace Field

variable {field : Field}

instance (field : Field) : Decidable field.IsHonest :=
  decidable_of_iff
    (∀ fault ∈ field.fault,
      field.kind.fault? field.value = some fault)
    Iff.rfl

theorem isHonest_of_fault_eq_none
    (hNone : field.fault = none) : field.IsHonest := by
  intro fault hFault
  rw [hNone] at hFault
  cases hFault

/- The rule of an input leaves it honest. -/
theorem isHonest_blur (field : Field) : field.blur.IsHonest :=
  fun _ hFault => hFault

theorem isHonest_typed
    (field : Field)
    (value : String) : (field.typed value true).IsHonest :=
  isHonest_blur (field.setValue value)

/- With a text that is accepted there is nothing to show. -/
theorem isHonest_iff_of_accepts
    (hAccepts : field.kind.accepts field.value) :
    field.IsHonest ↔ field.fault = none := by
  refine ⟨?_, isHonest_of_fault_eq_none⟩
  intro hHonest
  have hNone :=
    (FieldKind.fault?_eq_none_iff _ _).mpr hAccepts
  cases hFault : field.fault with
  | none => rfl
  | some fault =>
      have hShown := hHonest fault hFault
      rw [hNone] at hShown
      cases hShown

end Field

end BuildForm

------------------------------------------------------------
-- Inputs of a View
------------------------------------------------------------

namespace BuildForm

/-
  A view with honest inputs, its overrides aside, and with
  boxes that judge as their inputs do.
-/
structure View.IsHonest (view : View) : Prop where
  inputs :
    ∀ name field, view.field? name = some field → field.IsHonest
  boxes : ∀ kind, (view.box kind).kind = kind

namespace View

variable {view : View}

theorem field?_mapField
    (view : View)
    (name other : ViewField)
    (change : Field → Field) :
    (view.mapField name change).field? other =
      if other = name then
        (view.field? other).map change
      else
        view.field? other := by
  by_cases hName : other = name
  · subst hName
    rw [if_pos rfl]
    cases other <;> rfl
  · rw [if_neg hName]
    cases name <;> cases other <;>
      first | rfl | exact absurd rfl hName

theorem field?_setBox
    (view : View)
    (kind : SelectionKind)
    (box : SelectionBox)
    (name : ViewField) :
    (view.setBox kind box).field? name = view.field? name := by
  cases kind <;> rfl

theorem field?_inputField
    (view : View)
    (kind : SelectionKind) :
    view.field? kind.inputField = some (view.pathInput kind) := by
  cases kind <;> rfl

theorem box_setBox
    (view : View)
    (kind other : SelectionKind)
    (box : SelectionBox) :
    (view.setBox kind box).box other =
      if other = kind then box else view.box other := by
  cases kind <;> cases other <;> rfl

/- A path is typed by the rule of the box that it is for. -/
theorem IsTyped.kind_pathInput
    (hTyped : view.IsTyped)
    (kind : SelectionKind) :
    (view.pathInput kind).kind = kind.fieldKind := by
  cases kind with
  | artifacts => exact hTyped.pathToArtifacts
  | versionFiles => exact hTyped.versionFilesPath

namespace IsHonest

/- Changing an input so that it is honest. -/
theorem mapField
    (hView : view.IsHonest)
    {name : ViewField}
    {change : Field → Field}
    (hChange :
      ∀ field, view.field? name = some field →
        (change field).IsHonest) :
    (view.mapField name change).IsHonest where
  inputs := by
    intro other field hField
    rw [field?_mapField] at hField
    split at hField
    · rename_i hSame
      subst hSame
      rcases Option.map_eq_some_iff.mp hField with
        ⟨before, hBefore, rfl⟩
      exact hChange before hBefore
    · exact hView.inputs other field hField
  boxes := by
    intro kind
    have hBox := hView.boxes kind
    cases name <;> exact hBox

theorem setBox
    (hView : view.IsHonest)
    {kind : SelectionKind}
    {box : SelectionBox}
    (hKind : box.kind = kind) :
    (view.setBox kind box).IsHonest where
  inputs := by
    intro name field hField
    rw [field?_setBox] at hField
    exact hView.inputs name field hField
  boxes := by
    intro other
    rw [box_setBox]
    split
    · rename_i hSame
      rw [hSame, hKind]
    · exact hView.boxes other

theorem revalidate (hView : view.IsHonest) :
    view.revalidate.IsHonest where
  inputs := by
    intro name field hField
    cases name with
    | branchName => exact hView.inputs .branchName field hField
    | credentials => cases hField
    | userConfig => cases hField
    | _ =>
        cases hField
        exact Field.isHonest_blur _
  boxes := hView.boxes

/-
  The path that a box takes is one that its rule accepts, so
  that its input shows no fault when it is cleared.
-/
theorem addPath
    (hView : view.IsHonest)
    (hTyped : view.IsTyped)
    (kind : SelectionKind) :
    (view.addPath kind).2.IsHonest := by
  let candidate := (view.pathInput kind).value
  have hKind :
      ((view.box kind).add candidate).2.kind = kind :=
    ((view.box kind).kind_change (.add candidate)).trans
      (hView.boxes kind)
  have hBox := hView.setBox hKind
  unfold View.addPath
  dsimp only
  split
  · rename_i hAdd
    have hTaken := (SelectionBox.takes_of_add hAdd).1
    rw [hView.boxes kind] at hTaken
    have hAccepts :
        (view.pathInput kind).kind.accepts candidate := by
      rw [hTyped.kind_pathInput kind]
      exact (of_decide_eq_true hTaken).2
    have hOff : (view.pathInput kind).fault = none :=
      (Field.isHonest_iff_of_accepts hAccepts).mp
        (hView.inputs _ _ (view.field?_inputField kind))
    apply hBox.mapField
    intro field hField
    rw [field?_setBox, field?_inputField] at hField
    cases hField
    exact Field.isHonest_of_fault_eq_none hOff
  · exact hBox

/- One case for each thing that may happen to a view. -/
theorem step
    {after : View}
    (hView : view.IsHonest)
    (hTyped : view.IsTyped)
    (hStep : View.Step view after) :
    after.IsHonest := by
  cases hStep with
  | addPath kind => exact hView.addPath hTyped kind
  | press kind key deleteKey =>
      apply hView.setBox
      have hKind :=
        (view.box kind).kind_change (.press key deleteKey)
      exact hKind.trans (hView.boxes kind)
  | setVersionFiles enabled =>
      have hInput :
          (view.mapField .versionFilesPath fun field =>
            { field with
              visible := enabled
              value := ""
              fault := none }).IsHonest :=
        hView.mapField fun _ _ =>
          Field.isHonest_of_fault_eq_none rfl
      have hKind :
          (view.versionFiles.setEnabled enabled).kind =
            .versionFiles :=
        hView.boxes .versionFiles
      have hBox := hInput.setBox hKind
      exact ⟨hBox.inputs, hBox.boxes⟩
  | _ => exact ⟨hView.inputs, hView.boxes⟩

end IsHonest

/- New and stored views show no faults, and checks honest ones. -/
theorem innate_isHonest : Innate IsHonest where
  fresh := by
    intro id html credentials folder
    constructor
    · intro name field hField
      cases name <;> cases hField <;>
        exact Field.isHonest_of_fault_eq_none rfl
    · intro kind
      cases kind <;> rfl
  ofRecord := by
    intro id html credentials record
    constructor
    · intro name field hField
      cases name <;> cases hField <;>
        exact Field.isHonest_of_fault_eq_none rfl
    · intro kind
      cases kind with
      | artifacts => exact SelectionBox.kind_ofEntries _ _ _
      | versionFiles =>
          unfold View.ofRecord View.box
          dsimp only
          split
          · exact SelectionBox.kind_ofEntries _ _ _
          · rfl
  pushBuilder := fun _ _ hView => ⟨hView.inputs, hView.boxes⟩
  select := fun _ _ hView => ⟨hView.inputs, hView.boxes⟩
  revalidate := fun _ hView => hView.revalidate

end View

end BuildForm

------------------------------------------------------------
-- Overrides
------------------------------------------------------------

namespace BuildForm

/- Each override in a view is as `Q` says. -/
def View.Overrides (Q : Field → Prop) (view : View) : Prop :=
  ∀ builder ∈ view.builders, Q builder.userConfig

namespace View

variable {Q : Field → Prop}
variable {view : View}

namespace Overrides

theorem pushBuilder
    (hView : view.Overrides Q)
    (hHonest : ∀ field : Field, field.IsHonest → Q field)
    (html : String) :
    (view.pushBuilder html).2.Overrides Q := by
  intro builder hBuilder
  rcases List.mem_append.mp hBuilder with hOld | hNew
  · exact hView builder hOld
  · rw [List.mem_singleton.mp hNew]
    exact hHonest _ (Field.isHonest_of_fault_eq_none rfl)

theorem mapField
    (hView : view.Overrides Q)
    (name : ViewField)
    (change : Field → Field) :
    (view.mapField name change).Overrides Q := by
  cases name <;> exact hView

/- Only the override of the builder that is named matters. -/
theorem mapBuilder_iff
    (hView : view.Overrides Q)
    (id : BuilderId)
    (change : Builder → Builder) :
    (view.mapBuilder id change).Overrides Q ↔
      ∀ builder ∈ view.builders,
        builder.id = id → Q (change builder).userConfig := by
  unfold Overrides View.mapBuilder
  rw [List.forall_mem_map]
  refine forall₂_congr ?_
  intro builder hBuilder
  by_cases hId : builder.id = id
  · rw [if_pos hId, forall_prop_of_true hId]
  · rw [if_neg hId]
    exact
      iff_of_true (hView builder hBuilder) fun hOther =>
        absurd hOther hId

theorem removeBuilder
    (hView : view.Overrides Q)
    (id : BuilderId) :
    (view.removeBuilder id).2.Overrides Q := by
  intro builder hBuilder
  exact hView builder (List.mem_filter.mp hBuilder).1

theorem setBox
    (hView : view.Overrides Q)
    (kind : SelectionKind)
    (box : SelectionBox) :
    (view.setBox kind box).Overrides Q := by
  cases kind <;> exact hView

theorem addPath
    (hView : view.Overrides Q)
    (kind : SelectionKind) :
    (view.addPath kind).2.Overrides Q := by
  unfold View.addPath
  dsimp only
  split
  · exact (hView.setBox kind _).mapField _ _
  · exact hView.setBox kind _

end Overrides

theorem innate_overrides
    (hHonest : ∀ field : Field, field.IsHonest → Q field) :
    Innate (Overrides Q) where
  fresh := fun _ _ _ _ _ hBuilder =>
    absurd hBuilder List.not_mem_nil
  ofRecord := by
    intro id html credentials record builder hBuilder
    rcases mem_buildersOf hBuilder with ⟨_, stored, _, rfl⟩
    apply hHonest
    apply Field.isHonest_of_fault_eq_none
    unfold Builder.ofRecord
    cases stored.userConfig <;> rfl
  pushBuilder := fun _ html hView =>
    hView.pushBuilder hHonest html
  select := fun _ _ hView => hView
  revalidate := by
    intro view _ builder hBuilder
    rcases List.mem_map.mp hBuilder with ⟨before, _, rfl⟩
    exact hHonest _ before.userConfig.isHonest_blur

end View

end BuildForm
