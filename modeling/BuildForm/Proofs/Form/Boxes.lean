import BuildForm.Form.Selection

/-
  What can be done to a box, and what each change does.

  A key removes the highlighted option, as removing it does,
  or moves the highlight. A candidate is taken as the last
  option or leaves nothing but a fault.

  Main declarations:
    * `SelectionBox.Change`
    * `SelectionBox.changeAll`
    * `SelectionBox.change_of_isRemoval`
    * `SelectionBox.add_of_takes`
    * `SelectionBox.removeSelected_of_selected`
    * `SelectionBox.kind_change`
-/

------------------------------------------------------------
-- Changes of a Box
------------------------------------------------------------

namespace BuildForm

/- Whether a box of the kind takes a path it does not list. -/
def SelectionKind.takes
    (kind : SelectionKind)
    (candidate : String) : Bool :=
  candidate ≠ "" ∧ kind.fieldKind.accepts candidate

namespace SelectionBox

/- What can be done to a box. -/
inductive Change where
  | add (candidate : String)
  | select (delta : Int)
  | selectValue (value : String)
  | press (key deleteKey : Key)
  | removeSelected
  | setEnabled (enabled : Bool)

/- The box after a change. -/
def change (box : SelectionBox) : Change → SelectionBox
  | .add candidate => (box.add candidate).2
  | .select delta => (box.select delta).2
  | .selectValue value => (box.selectValue value).2
  | .press key deleteKey => (box.press key deleteKey).2
  | .removeSelected => box.removeSelected.2
  | .setEnabled enabled => box.setEnabled enabled

/- The box after the changes in turn. -/
def changeAll
    (box : SelectionBox)
    (changes : List Change) : SelectionBox :=
  changes.foldl change box

/- Whether a change removes the highlighted option. -/
def Change.isRemoval : Change → Bool
  | .removeSelected => true
  | .press key deleteKey =>
      key ≠ .up ∧ key ≠ .down ∧ key = deleteKey
  | _ => false

variable {box : SelectionBox}

/- Moving the highlight moves nothing else. -/
theorem select_eq (box : SelectionBox) (delta : Int) :
    ∃ selected,
      (box.select delta).2 =
        { box with selected := selected } := by
  unfold select
  split
  · exact ⟨box.selected, rfl⟩
  · exact ⟨_, rfl⟩

theorem selectValue_eq (box : SelectionBox) (value : String) :
    ∃ selected,
      (box.selectValue value).2 =
        { box with selected := selected } := by
  unfold selectValue
  split
  · exact ⟨_, rfl⟩
  · exact ⟨box.selected, rfl⟩

/- Every removal does the same to the box. -/
theorem change_of_isRemoval
    (box : SelectionBox)
    {next : Change}
    (hRemoval : next.isRemoval) :
    box.change next = box.removeSelected.2 := by
  cases next with
  | removeSelected => rfl
  | press key deleteKey =>
      rcases of_decide_eq_true hRemoval with
        ⟨hUp, hDown, rfl⟩
      change (box.press key key).2 = _
      unfold press
      split
      · exact absurd rfl hUp
      · exact absurd rfl hDown
      · rw [if_pos rfl]
  | _ => exact absurd hRemoval (by simp [Change.isRemoval])

/- A key that does not remove moves the highlight at most. -/
theorem press_of_not_isRemoval
    (box : SelectionBox)
    {key deleteKey : Key}
    (hKept : ¬(Change.press key deleteKey).isRemoval) :
    ∃ selected,
      (box.press key deleteKey).2 =
        { box with selected := selected } := by
  unfold press
  split
  · exact box.select_eq (-1)
  · exact box.select_eq 1
  · rename_i hUp hDown
    have hOther : key ≠ deleteKey := by
      rintro rfl
      exact hKept (decide_eq_true ⟨hUp, hDown, rfl⟩)
    rw [if_neg hOther]
    exact ⟨box.selected, rfl⟩

/- Whether a box takes a candidate as a new option. -/
def Takes (box : SelectionBox) (candidate : String) : Prop :=
  box.kind.takes candidate ∧ candidate ∉ box.options

/- A candidate that is taken is the last option. -/
theorem add_of_takes
    {candidate : String}
    (hTakes : box.Takes candidate) :
    (box.add candidate).2 =
      { box.append candidate with fault := none } := by
  rcases hTakes with ⟨hKept, hNew⟩
  rcases of_decide_eq_true hKept with ⟨hNonempty, hAccepts⟩
  have hFault :=
    (FieldKind.fault?_eq_none_iff _ _).mpr hAccepts
  simp [add, hNonempty, hFault, contains, hNew]

/- A candidate that is not taken leaves a fault at most. -/
theorem add_of_not_takes
    {candidate : String}
    (hRefused : ¬box.Takes candidate) :
    ∃ fault,
      (box.add candidate).2 = { box with fault := fault } := by
  unfold add
  split
  · exact ⟨box.fault, rfl⟩
  · rename_i hNonempty
    split
    · exact ⟨_, rfl⟩
    · rename_i hFault
      split
      · exact ⟨_, rfl⟩
      · rename_i hNew
        have hAccepts :=
          (FieldKind.fault?_eq_none_iff _ _).mp hFault
        refine absurd ⟨?_, ?_⟩ hRefused
        · exact decide_eq_true ⟨hNonempty, hAccepts⟩
        · simpa [contains] using hNew

/- The highlighted option is removed, and its text cut out. -/
theorem removeSelected_of_selected
    {index : Nat}
    {value : String}
    (hIndex : index ∈ box.selected)
    (hValue : value ∈ box.options[index]?) :
    let options := box.options.eraseIdx index
    box.removeSelected =
      (some value,
        { box with
          options := options
          selected :=
            if options.isEmpty then
              none
            else
              some (min index (options.length - 1))
          hidden := box.hidden.remove value }) := by
  have hSelected : box.selected = some index := hIndex
  have hFound : box.options[index]? = some value := hValue
  unfold removeSelected
  rw [hSelected]
  dsimp only
  rw [hFound]

/- Without a highlighted option nothing is removed. -/
theorem removeSelected_of_none
    (hNone : box.selectedValue? = none) :
    box.removeSelected =
      (none, { box with selected := none }) := by
  unfold removeSelected
  split
  · rename_i hSelected
    rw [← hSelected]
  · rename_i index hSelected
    have hMissing : box.options[index]? = none := by
      simpa [selectedValue?, hSelected] using hNone
    rw [hMissing]

/- A path is taken exactly if adding it succeeds. -/
theorem takes_of_add
    {candidate : String}
    (hAdd : (box.add candidate).1 = .ok ()) :
    box.Takes candidate := by
  unfold add at hAdd
  split at hAdd
  · cases hAdd
  · rename_i hNonempty
    split at hAdd
    · cases hAdd
    · rename_i hFault
      split at hAdd
      · cases hAdd
      · rename_i hNew
        have hAccepts :=
          (FieldKind.fault?_eq_none_iff _ _).mp hFault
        refine ⟨decide_eq_true ⟨hNonempty, hAccepts⟩, ?_⟩
        simpa [contains] using hNew

/- Nothing changes of which kind a box is. -/
theorem kind_change
    (box : SelectionBox)
    (next : Change) :
    (box.change next).kind = box.kind := by
  have hRemoved : box.removeSelected.2.kind = box.kind := by
    unfold removeSelected
    split
    · rfl
    · split <;> rfl
  cases next with
  | add candidate =>
      change (box.add candidate).2.kind = box.kind
      by_cases hTakes : box.Takes candidate
      · rw [add_of_takes hTakes]
        rfl
      · rcases add_of_not_takes hTakes with ⟨fault, hAdd⟩
        rw [hAdd]
  | select delta =>
      rcases box.select_eq delta with ⟨selected, hSelect⟩
      change (box.select delta).2.kind = box.kind
      rw [hSelect]
  | selectValue value =>
      rcases box.selectValue_eq value with ⟨selected, hSelect⟩
      change (box.selectValue value).2.kind = box.kind
      rw [hSelect]
  | press key deleteKey =>
      by_cases hRemoval : (Change.press key deleteKey).isRemoval
      · rw [box.change_of_isRemoval hRemoval, hRemoved]
      · rcases box.press_of_not_isRemoval hRemoval with
          ⟨selected, hPress⟩
        change (box.press key deleteKey).2.kind = box.kind
        rw [hPress]
  | removeSelected => exact hRemoved
  | setEnabled enabled => rfl

theorem kind_ofEntries
    (owner : ViewId)
    (kind : SelectionKind)
    (entries : List String) :
    (ofEntries owner kind entries).kind = kind := by
  unfold ofEntries
  refine
    List.foldlRecOn entries _
      (motive := fun box : SelectionBox => box.kind = kind) rfl ?_
  intro box hKind entry _
  split
  · exact hKind
  · exact hKind

end SelectionBox

end BuildForm
