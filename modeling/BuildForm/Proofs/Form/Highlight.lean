import BuildForm.Proofs.Form.Settled

/-
  The highlighted option of a box, whatever is done to the
  box.

  The highlight is a position in a list that grows and
  shrinks under it. Every change leaves it on an option or
  takes it away, and no change lists an option twice. When
  the highlighted option is removed, the highlight goes to
  the option after it, or else to the one before it, which is
  the last one then.

  Main declarations:
    * `SelectionBox.IsConsistent`
    * `SelectionBox.IsConsistent.change`
    * `SelectionBox.IsConsistent.changeAll`
    * `SelectionBox.IsHighlighted.removeSelected`
    * `SelectionBox.changes_keep_highlight_listed`
-/

------------------------------------------------------------
-- Consistent Boxes
------------------------------------------------------------

namespace BuildForm

namespace SelectionBox

variable {box : SelectionBox}

/- No option is listed twice, and a highlight is on one. -/
structure IsConsistent (box : SelectionBox) : Prop where
  nodup : box.options.Nodup
  listed : ∀ index ∈ box.selected, index < box.options.length

/- A position that is moved stays among those there are. -/
theorem clamp_lt
    {count : Nat}
    (hCount : 0 < count)
    (position : Int) :
    clamp count position < count := by
  unfold clamp
  omega

theorem pos_length_of_not_isEmpty
    (hOptions : ¬box.options.isEmpty) :
    0 < box.options.length := by
  apply List.length_pos_iff.mpr
  simpa using hOptions

namespace IsConsistent

/- The highlight may be put on any option. -/
theorem highlight
    (hBox : box.IsConsistent)
    {index : Nat}
    (hIndex : index < box.options.length) :
    { box with selected := some index }.IsConsistent where
  nodup := hBox.nodup
  listed := by
    intro other hOther
    cases hOther
    exact hIndex

theorem add
    (hBox : box.IsConsistent)
    (candidate : String) :
    (box.add candidate).2.IsConsistent := by
  refine ⟨nodup_add hBox.nodup candidate, ?_⟩
  by_cases hTakes : box.Takes candidate
  · rw [add_of_takes hTakes]
    intro index hIndex
    have hBound := hBox.listed index hIndex
    have hLength :
        (box.options ++ [candidate]).length =
          box.options.length + 1 := by
      simp
    exact hLength ▸ Nat.lt_succ_of_lt hBound
  · rcases add_of_not_takes hTakes with ⟨fault, hSame⟩
    rw [hSame]
    exact hBox.listed

theorem select
    (hBox : box.IsConsistent)
    (delta : Int) :
    (box.select delta).2.IsConsistent := by
  unfold SelectionBox.select
  split
  · exact hBox
  · rename_i hOptions
    have hLength := pos_length_of_not_isEmpty hOptions
    apply hBox.highlight
    split
    · exact clamp_lt hLength _
    · split <;> omega

theorem selectValue
    (hBox : box.IsConsistent)
    (value : String) :
    (box.selectValue value).2.IsConsistent := by
  unfold SelectionBox.selectValue
  split
  · rename_i index hFound
    apply hBox.highlight
    exact (List.idxOf?_eq_some_iff.mp hFound).1
  · exact hBox

theorem removeSelected
    (hBox : box.IsConsistent) :
    box.removeSelected.2.IsConsistent := by
  refine ⟨nodup_removeSelected hBox.nodup, ?_⟩
  cases hFound : box.selectedValue? with
  | none =>
      rw [removeSelected_of_none hFound]
      intro index hIndex
      cases hIndex
  | some value =>
      rcases Option.bind_eq_some_iff.mp hFound with
        ⟨index, hIndex, hValue⟩
      rw [removeSelected_of_selected hIndex hValue]
      dsimp only
      split
      · intro other hOther
        cases hOther
      · rename_i hOptions
        have hLength :
            0 < (box.options.eraseIdx index).length := by
          apply List.length_pos_iff.mpr
          simpa using hOptions
        intro other hOther
        cases hOther
        omega

theorem press
    (hBox : box.IsConsistent)
    (key deleteKey : Key) :
    (box.press key deleteKey).2.IsConsistent := by
  unfold SelectionBox.press
  split
  · exact hBox.select (-1)
  · exact hBox.select 1
  · split
    · exact hBox.removeSelected
    · exact hBox

/- One case for each change of a box. -/
theorem change
    (hBox : box.IsConsistent)
    (next : Change) :
    (box.change next).IsConsistent := by
  cases next with
  | add candidate => exact hBox.add candidate
  | select delta => exact hBox.select delta
  | selectValue value => exact hBox.selectValue value
  | press key deleteKey => exact hBox.press key deleteKey
  | removeSelected => exact hBox.removeSelected
  | setEnabled enabled =>
      refine ⟨List.nodup_nil, ?_⟩
      intro index hIndex
      cases hIndex

theorem changeAll
    (hBox : box.IsConsistent)
    (changes : List Change) :
    (box.changeAll changes).IsConsistent := by
  induction changes generalizing box with
  | nil => exact hBox
  | cons next changes ih => exact ih (hBox.change next)

end IsConsistent

/- The box of stored entries has no highlight. -/
theorem isConsistent_ofEntries
    (owner : ViewId)
    (kind : SelectionKind)
    (entries : List String) :
    (ofEntries owner kind entries).IsConsistent := by
  refine ⟨nodup_ofEntries owner kind entries, ?_⟩
  have hNone :
      (ofEntries owner kind entries).selected = none := by
    induction entries using List.reverseRecOn with
    | nil => rfl
    | append_singleton entries entry ih =>
        rw [ofEntries_append]
        dsimp only
        split
        · exact ih
        · exact ih
  intro index hIndex
  rw [hNone] at hIndex
  cases hIndex

end SelectionBox

end BuildForm

------------------------------------------------------------
-- Refusals and Removals
------------------------------------------------------------

namespace BuildForm

namespace SelectionBox

variable {box : SelectionBox}

/- A candidate is refused exactly if it is not taken. -/
theorem exists_refusal_iff
    (box : SelectionBox)
    (candidate : String) :
    (∃ refusal, (box.add candidate).1 = .error refusal) ↔
      ¬box.Takes candidate := by
  by_cases hEmpty : candidate = ""
  · simp [add, Takes, SelectionKind.takes, hEmpty]
  · cases hFault : box.kind.fieldKind.fault? candidate with
    | some fault =>
        have hBroken : ¬box.kind.fieldKind.accepts candidate := by
          rw [← FieldKind.fault?_eq_none_iff, hFault]
          simp
        simp [add, Takes, SelectionKind.takes, hEmpty, hFault,
          hBroken]
    | none =>
        have hKept : box.kind.fieldKind.accepts candidate :=
          (FieldKind.fault?_eq_none_iff _ _).mp hFault
        by_cases hListed : candidate ∈ box.options
        · simp [add, Takes, SelectionKind.takes, contains,
            hEmpty, hFault, hListed]
        · simp [add, Takes, SelectionKind.takes, contains,
            hEmpty, hFault, hKept, hListed]

/- What is listed already is not taken again. -/
theorem not_takes_of_mem
    {candidate : String}
    (hListed : candidate ∈ box.options) :
    ¬box.Takes candidate :=
  fun hTakes => hTakes.2 hListed

variable {before after : List String}
variable {value : String}

/- The highlighted option and those around it. -/
structure IsHighlighted
    (box : SelectionBox)
    (before : List String)
    (value : String)
    (after : List String) : Prop where
  options : box.options = before ++ value :: after
  selected : box.selected = some before.length

/-
  To remove the highlighted option leaves the others in their
  order. The one that followed takes its place, and the
  highlight stays there unless the place is gone.
-/
theorem IsHighlighted.removeSelected
    (hBox : box.IsHighlighted before value after) :
    box.removeSelected.1 = some value ∧
      box.removeSelected.2.options = before ++ after ∧
      box.removeSelected.2.selectedValue? =
        after.head?.or before.getLast? := by
  have hIndex : before.length ∈ box.selected := hBox.selected
  have hValue : value ∈ box.options[before.length]? := by
    rw [hBox.options]
    simp
  have hOthers :
      box.options.eraseIdx before.length = before ++ after := by
    rw [hBox.options, List.eraseIdx_append_of_length_le
      (Nat.le_refl before.length)]
    simp
  rw [removeSelected_of_selected hIndex hValue]
  refine ⟨rfl, hOthers, ?_⟩
  unfold selectedValue?
  dsimp only
  rw [hOthers]
  cases after with
  | cons next after => simp
  | nil =>
      rw [List.append_nil, List.head?_nil, Option.none_or,
        List.getLast?_eq_getElem?]
      by_cases hEmpty : before = []
      · simp [hEmpty]
      · simp [hEmpty]

/-
  Whatever is done to a box of stored entries: no option is
  listed twice, and a highlight is on one of them. A refused
  candidate leaves nothing but a fault, and one that is
  listed is refused. What is removed is the highlighted
  option, of which the next one takes the highlight, or else
  the last one.
-/
theorem changes_keep_highlight_listed
    (owner : ViewId)
    (kind : SelectionKind)
    (entries : List String)
    (changes : List Change) :
    let box := (ofEntries owner kind entries).changeAll changes
    box.options.Nodup ∧
      (∀ index ∈ box.selected, index < box.options.length) ∧
      (∀ candidate refusal,
        (box.add candidate).1 = .error refusal →
        ∃ shown,
          (box.add candidate).2 = { box with fault := shown }) ∧
      (∀ candidate ∈ box.options,
        ∃ refusal, (box.add candidate).1 = .error refusal) ∧
      (box.selected = none →
        box.removeSelected = (none, box)) ∧
      ∀ before value after,
        box.IsHighlighted before value after →
        box.removeSelected.1 = some value ∧
          ∀ next,
            next.isRemoval →
            (box.change next).options = before ++ after ∧
              (box.change next).selectedValue? =
                after.head?.or before.getLast? := by
  intro box
  have hBox : box.IsConsistent :=
    (isConsistent_ofEntries owner kind entries).changeAll changes
  refine ⟨hBox.nodup, hBox.listed, ?_, ?_, ?_, ?_⟩
  · intro candidate refusal hRefused
    exact add_of_not_takes
      ((box.exists_refusal_iff candidate).mp ⟨refusal, hRefused⟩)
  · intro candidate hListed
    exact (box.exists_refusal_iff candidate).mpr
      (not_takes_of_mem hListed)
  · intro hNone
    have hNothing : box.selectedValue? = none := by
      rw [selectedValue?, hNone]
      rfl
    rw [removeSelected_of_none hNothing, ← hNone]
  · intro before value after hHighlighted
    rcases hHighlighted.removeSelected with
      ⟨hRemoved, hOptions, hHighlight⟩
    refine ⟨hRemoved, fun next hRemoval => ?_⟩
    rw [change_of_isRemoval box hRemoval]
    exact ⟨hOptions, hHighlight⟩

/- The last option is removed by a key, and one is refused. -/
theorem changes_keep_highlight_listed_last :
    let box :=
      (ofEntries ⟨0⟩ .artifacts ["bin", "obj", "bin"]).changeAll
        [.add "lib", .add "", .select (-1)]
    box.options = ["bin", "obj", "lib"] ∧
      (∃ refusal, (box.add "obj").1 = .error refusal) ∧
      box.IsHighlighted ["bin", "obj"] "lib" [] ∧
      (box.change (.press .delete .delete)).options =
        ["bin", "obj"] ∧
      (box.change (.press .delete .delete)).selectedValue? =
        some "obj" := by
  intro box
  have hOptions : box.options = ["bin", "obj", "lib"] := by
    decide
  have hHighlighted : box.IsHighlighted ["bin", "obj"] "lib" [] :=
    ⟨hOptions, by decide⟩
  have hKept :=
    changes_keep_highlight_listed ⟨0⟩ .artifacts
      ["bin", "obj", "bin"] [.add "lib", .add "", .select (-1)]
  rcases hKept with ⟨_, _, _, hListed, _, hRemoved⟩
  exact
    ⟨hOptions, hListed "obj" (by rw [hOptions]; simp),
      hHighlighted,
      (hRemoved _ _ _ hHighlighted).2 (.press .delete .delete)
        (by decide)⟩

end SelectionBox

end BuildForm
