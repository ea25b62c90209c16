import BuildForm.Proofs.Screen.Reading

/-
  What a comparison looks like on the screen.

  Every field that changed has its approved value beside it,
  and no other field has one. Views that are gone are crossed
  out below the others.

  Main declarations:
    * `Difference.nodup_changes`
    * `Span.isOld`
    * `Screen.filter_isOf_formLines`
    * `Screen.formLines_show_changes`
-/

------------------------------------------------------------
-- Fields that Changed
------------------------------------------------------------

namespace BuildForm

namespace Difference

variable {α : Type} [DecidableEq α]

/- A field is said to have changed once at most. -/
theorem sublist_changed
    (field : DiffField)
    (old new : Option α)
    (write : α → String) :
    ((changed field old new write).map FieldChange.field).Sublist
      [field] := by
  unfold changed
  cases old with
  | none => exact List.nil_sublist _
  | some value =>
      dsimp only
      split
      · exact List.nil_sublist _
      · exact List.Sublist.refl _

theorem nodup_fieldChanges
    (draft approved : Configuration) :
    ((fieldChanges draft approved).map
      FieldChange.field).Nodup := by
  have hOrder :
      ((fieldChanges draft approved).map
        FieldChange.field).Sublist
        ([.scm] ++ [.email] ++ [.configEmail] ++ [.preScript] ++
          [.postScript] ++ [.regExp] ++ [.cleanWorkspace] ++
          [.buildOnCommitTrigger] ++ [.pollScmTrigger] ++
          [.buildPeriodicallyTrigger]) := by
    unfold fieldChanges
    simp only [List.map_append]
    repeat' apply List.Sublist.append
    all_goals exact sublist_changed _ _ _ _
  exact hOrder.nodup (by decide)

theorem nodup_changes
    (draft : Configuration)
    (approved : Option Configuration) :
    ((between draft approved).changes.map
      FieldChange.field).Nodup := by
  unfold between
  cases approved with
  | none => exact List.nodup_nil
  | some approved =>
      dsimp only
      split
      · exact List.nodup_nil
      · exact nodup_fieldChanges draft approved

theorem find?_of_mem
    {changes : List FieldChange}
    (hNodup : (changes.map FieldChange.field).Nodup)
    {change : FieldChange}
    (hChange : change ∈ changes) :
    changes.find? (fun other => other.field = change.field) =
      some change := by
  induction changes with
  | nil => cases hChange
  | cons first rest ih =>
      rw [List.map_cons, List.nodup_cons] at hNodup
      rcases List.mem_cons.mp hChange with rfl | hRest
      · simp
      · have hOther : first.field ≠ change.field := by
          intro hSame
          apply hNodup.1
          rw [hSame]
          exact List.mem_map_of_mem hRest
        rw [List.find?_cons_of_neg (by simpa using hOther)]
        exact ih hNodup.2 hRest

theorem oldText?_of_mem
    {difference : Difference}
    (hNodup :
      (difference.changes.map FieldChange.field).Nodup)
    {change : FieldChange}
    (hChange : change ∈ difference.changes) :
    difference.oldText? change.field = some change.oldText := by
  unfold oldText?
  rw [find?_of_mem hNodup hChange]
  rfl

theorem oldText?_eq_none
    {difference : Difference}
    {field : DiffField}
    (hUnchanged :
      ∀ change ∈ difference.changes, change.field ≠ field) :
    difference.oldText? field = none := by
  unfold oldText?
  simpa using hUnchanged

theorem exists_of_oldText?
    {difference : Difference}
    {field : DiffField}
    {text : String}
    (hText : difference.oldText? field = some text) :
    ∃ change ∈ difference.changes, change.field = field := by
  rcases Option.map_eq_some_iff.mp hText with
    ⟨change, hChange, _⟩
  have hField := List.find?_some hChange
  exact
    ⟨change, List.mem_of_find?_eq_some hChange,
      by simpa using hField⟩

end Difference

end BuildForm

------------------------------------------------------------
-- Labels and Old Values
------------------------------------------------------------

namespace BuildForm

open Screen

/- Whether a line is that of a field. -/
def Line.isOf (line : Line) (field : DiffField) : Bool :=
  line.shows (· = field.label)

/- An old value as it is shown. -/
def Span.old (text : String) : Span :=
  { text := "  was: " ++ text, style := colored .yellow }

/- Whether an old value is shown. -/
def Span.isOld (span : Span) : Bool :=
  span.style = colored .yellow &&
    "  was: ".toList.isPrefixOf span.text.toList

/- Whether a text is crossed out. -/
def Span.isCrossed (span : Span) : Bool :=
  span.style.crossed

theorem Span.isOld_old (text : String) :
    (Span.old text).isOld := by
  unfold isOld old
  simp

namespace Screen

theorem overlooks_label (field : DiffField) :
    Overlooks (· = field.label) where
  plain := by simp [DiffField.label, labelStyle]
  error := by
    simp [DiffField.label, labelStyle, errorStyle]
  gray := by simp [DiffField.label, labelStyle, colored]
  darkGray := by simp [DiffField.label, labelStyle, colored]
  title := by simp [DiffField.label, labelStyle, boldColored]
  project := by simp [DiffField.label, labelStyle, boldColored]
  banner := by simp [DiffField.label, labelStyle, colored]
  label := by cases field <;> decide

theorem overlooks_isOld : Overlooks Span.isOld where
  plain := by simp [Span.isOld, colored]
  error := by simp [Span.isOld, errorStyle, colored]
  gray := by simp [Span.isOld, colored]
  darkGray := by simp [Span.isOld, colored]
  title := by simp [Span.isOld, boldColored, colored]
  project := by simp [Span.isOld, boldColored, colored]
  banner := by decide
  label := by simp [Span.isOld, labelStyle, colored]

theorem overlooks_isCrossed : Overlooks Span.isCrossed where
  plain := fun _ => rfl
  error := fun _ => rfl
  gray := fun _ => rfl
  darkGray := fun _ => rfl
  title := fun _ => rfl
  project := fun _ => rfl
  banner := rfl
  label := fun _ _ => rfl

end Screen

end BuildForm

------------------------------------------------------------
-- The Line of a Field
------------------------------------------------------------

namespace BuildForm

theorem DiffField.label_inj
    {field other : DiffField}
    (hLabel : field.label = other.label) :
    field = other := by
  revert hLabel
  cases field <;> cases other <;> decide

namespace Screen

variable (form : Form)
variable (field : DiffField)

/- An old value is shown as one, and as nothing else. -/
theorem filter_isOld_was (old : Option String) :
    (was old).filter Span.isOld = (old.map Span.old).toList := by
  cases old with
  | none => rfl
  | some text =>
      have hOld := Span.isOld_old text
      change [Span.old text].filter Span.isOld = [Span.old text]
      simp [hOld]

theorem any_label_was (old : Option String) :
    (was old).any (· = field.label) = false := by
  cases old with
  | none => rfl
  | some text =>
      simp [was, DiffField.label, labelStyle, colored]

theorem isOld_label : field.label.isOld = false := by
  simp [Span.isOld, DiffField.label, labelStyle, colored]

theorem isOf_fieldLine (other : DiffField) :
    (fieldLine form field).isOf other =
      decide (field = other) := by
  have hLabel :
      field.label = other.label ↔ field = other :=
    ⟨DiffField.label_inj, congrArg DiffField.label⟩
  unfold Line.isOf
  rw [shows_fieldLine (overlooks_label other), any_label_was,
    Bool.or_false]
  simp [hLabel]

theorem filter_isOld_fieldLine :
    (fieldLine form field).filter Span.isOld =
      ((form.difference.oldText? field).map Span.old).toList := by
  rw [filter_fieldLine overlooks_isOld, filter_isOld_was]
  simp [isOld_label]

theorem shows_isCrossed_fieldLine :
    (fieldLine form field).shows Span.isCrossed = false := by
  rw [shows_fieldLine overlooks_isCrossed]
  cases form.difference.oldText? field <;> rfl

end Screen

end BuildForm

------------------------------------------------------------
-- Lines with a Label or an Old Value
------------------------------------------------------------

namespace BuildForm

namespace Screen

variable {form : Form}

/- Machines have a color of their own or none. -/
theorem found_machineLine
    {sought : Span → Bool}
    (hSought :
      ∀ text (style : Style),
        style = colored brown ∨ style = {} →
          sought { text, style } = false)
    (form : Form) :
    found sought
      (form.machines.nodes.entries.map (machineLine form)) =
        [] := by
  apply found_map
  intro entry
  unfold machineLine
  apply shows_styled
  apply hSought
  split
  · exact Or.inl rfl
  · exact Or.inr rfl

theorem found_deletedLine
    {sought : Span → Bool}
    (hSought :
      ∀ text, sought { text, style := dimmedStyle } = false)
    (form : Form) :
    found sought (form.views.deleted.map deletedLine) = [] := by
  apply found_map
  intro record
  exact shows_styled (hSought _)

/- There is one line for each field that can be compared. -/
theorem filter_isOf_formLines
    (hShows : form.ShowsMail)
    (field : DiffField)
    (width : Nat) :
    (formLines form width).filter (Line.isOf · field) =
      [fieldLine form field] := by
  have hFields :
      found (· = field.label)
        (DiffField.onScreen.map (fieldLine form)) =
          [fieldLine form field] := by
    have hSame :
        (Line.isOf · field) ∘ fieldLine form = (· = field) := by
      funext other
      exact isOf_fieldLine form other field
    have hOnce :
        DiffField.onScreen.filter (· = field) = [field] := by
      cases field <;> decide
    change
      (DiffField.onScreen.map (fieldLine form)).filter
        (Line.isOf · field) = _
    rw [List.filter_map, hSame, hOnce]
    rfl
  change found (· = field.label) _ = _
  rw [found_formLines (overlooks_label field) hShows, hFields,
    found_machineLine, found_deletedLine]
  · rfl
  · simp [DiffField.label, labelStyle, dimmedStyle]
  · rintro text style (rfl | rfl)
    · simp [DiffField.label, labelStyle, colored, brown]
    · simp [DiffField.label, labelStyle]

theorem found_isOld_formLines
    (hShows : form.ShowsMail)
    (width : Nat) :
    found Span.isOld (formLines form width) =
      found Span.isOld
        (DiffField.onScreen.map (fieldLine form)) := by
  rw [found_formLines overlooks_isOld hShows, found_machineLine,
    found_deletedLine, List.append_nil, List.append_nil]
  · simp [Span.isOld, dimmedStyle, colored]
  · rintro text style (rfl | rfl)
    · simp [Span.isOld, colored, brown]
    · simp [Span.isOld, colored]

/- An old value is on the line of a field that has one. -/
theorem exists_field_of_isOld
    (hShows : form.ShowsMail)
    {width : Nat}
    {line : Line}
    (hLine : line ∈ formLines form width)
    {span : Span}
    (hSpan : span ∈ line)
    (hOld : span.isOld) :
    ∃ field text,
      line = fieldLine form field ∧
        form.difference.oldText? field = some text := by
  have hFound :
      line ∈ found Span.isOld (formLines form width) :=
    List.mem_filter.mpr
      ⟨hLine, List.any_eq_true.mpr ⟨span, hSpan, hOld⟩⟩
  rw [found_isOld_formLines hShows] at hFound
  rcases List.mem_map.mp (List.mem_filter.mp hFound).1 with
    ⟨field, _, rfl⟩
  have hKept :
      span ∈ (fieldLine form field).filter Span.isOld :=
    List.mem_filter.mpr ⟨hSpan, hOld⟩
  rw [filter_isOld_fieldLine] at hKept
  cases hText : form.difference.oldText? field with
  | none =>
      rw [hText] at hKept
      cases hKept
  | some text => exact ⟨field, text, rfl, hText⟩

theorem found_isCrossed_formLines
    (hShows : form.ShowsMail)
    (width : Nat) :
    found Span.isCrossed (formLines form width) =
      form.views.deleted.map deletedLine := by
  have hFields :
      found Span.isCrossed
        (DiffField.onScreen.map (fieldLine form)) = [] :=
    found_map (shows_isCrossed_fieldLine form) _
  have hDeleted :
      found Span.isCrossed (form.views.deleted.map deletedLine) =
        form.views.deleted.map deletedLine := by
    apply List.filter_eq_self.mpr
    intro line hLine
    rcases List.mem_map.mp hLine with ⟨record, _, rfl⟩
    rfl
  rw [found_formLines overlooks_isCrossed hShows, hFields,
    hDeleted, found_machineLine]
  · rfl
  · rintro text style (rfl | rfl)
    · rfl
    · rfl

end Screen

end BuildForm

------------------------------------------------------------
-- The Comparison on the Screen
------------------------------------------------------------

namespace BuildForm

open Screen

/-
  Beside the one line of a field that changed there is its
  approved value, once, and beside that of any other field
  there is none. An old value that is shown is that of such a
  field, and what is crossed out are the views that are gone.
-/
theorem Screen.formLines_show_changes
    {form : Form}
    (hArises : form.Arises)
    {draft : Configuration}
    {approved : Option Configuration}
    (hDifference : form.difference = .between draft approved)
    (width : Nat) :
    let lines := formLines form width
    let changes := (Difference.between draft approved).changes
    (∀ change ∈ changes, ∃ line,
        lines.filter (Line.isOf · change.field) = [line] ∧
          line.filter Span.isOld = [Span.old change.oldText]) ∧
      (∀ field, (∀ change ∈ changes, change.field ≠ field) →
        ∃ line,
          lines.filter (Line.isOf · field) = [line] ∧
            line.filter Span.isOld = []) ∧
      (∀ line ∈ lines, ∀ span ∈ line, span.isOld →
        ∃ change ∈ changes, line.isOf change.field) ∧
      lines.filter (Line.shows · Span.isCrossed) =
        form.views.deleted.map deletedLine := by
  intro lines changes
  have hShows := hArises.showsMail
  have hNodup :
      (form.difference.changes.map FieldChange.field).Nodup := by
    rw [hDifference]
    exact Difference.nodup_changes draft approved
  have hChanges : form.difference.changes = changes := by
    rw [hDifference]
  refine ⟨?_, ?_, ?_, ?_⟩
  · intro change hChange
    rw [← hChanges] at hChange
    have hText := Difference.oldText?_of_mem hNodup hChange
    refine
      ⟨_, filter_isOf_formLines hShows change.field width, ?_⟩
    rw [filter_isOld_fieldLine, hText]
    rfl
  · intro field hUnchanged
    rw [← hChanges] at hUnchanged
    have hText := Difference.oldText?_eq_none hUnchanged
    refine ⟨_, filter_isOf_formLines hShows field width, ?_⟩
    rw [filter_isOld_fieldLine, hText]
    rfl
  · intro line hLine span hSpan hOld
    rcases exists_field_of_isOld hShows hLine hSpan hOld with
      ⟨field, text, rfl, hText⟩
    rcases Difference.exists_of_oldText? hText with
      ⟨change, hChange, rfl⟩
    rw [hChanges] at hChange
    refine ⟨change, hChange, ?_⟩
    rw [isOf_fieldLine]
    simp
  · exact found_isCrossed_formLines hShows width

namespace Screen

/- A draft with another pattern, and without a view. -/
def draftShown : Configuration :=
  { projectName := "core", regExp := some "v1" }

def approvedShown : Configuration :=
  { projectName := "core"
    regExp := some "v2"
    email := some "team@host.example" }

/- The draft as it is shown beside the approved one. -/
def formShown : Form :=
  let filled :=
    (Form.blank .approveReject).applyConfiguration draftShown
  let compared :=
    { filled with
      difference := .between draftShown (some approvedShown) }
  let gone : List ViewRecord := [{ projectUrl := "core.git" }]
  { compared with views := compared.views.loadDeleted "" gone }

/- The pattern and the recipients changed, the SCM did not. -/
theorem formLines_show_changes_compared :
    let lines := formLines formShown 80
    formShown.Arises ∧
      formShown.difference =
        .between draftShown (some approvedShown) ∧
      (∃ line,
        lines.filter (Line.isOf · .regExp) = [line] ∧
          line.filter Span.isOld = [Span.old "\"v2\""]) ∧
      (∃ line,
        lines.filter (Line.isOf · .email) = [line] ∧
          line.filter Span.isOld =
            [Span.old "\"team@host.example\""]) ∧
      (∃ line,
        lines.filter (Line.isOf · .scm) = [line] ∧
          line.filter Span.isOld = []) ∧
      lines.filter (Line.shows · Span.isCrossed) =
        [deletedLine { projectUrl := "core.git" }] := by
  intro lines
  have hArises : formShown.Arises :=
    .load
      (.load (.load (.blank .approveReject) (.record _ _))
        (.difference _ _))
      (.deletedViews _ _ _)
  have hDifference :
      formShown.difference =
        .between draftShown (some approvedShown) :=
    rfl
  rcases formLines_show_changes hArises hDifference 80 with
    ⟨hChanged, hUnchanged, _, hCrossed⟩
  refine ⟨hArises, hDifference, ?_, ?_, ?_, hCrossed⟩
  · apply hChanged ⟨.regExp, "\"v2\""⟩
    decide
  · apply hChanged ⟨.email, "\"team@host.example\""⟩
    decide
  · exact hUnchanged .scm (by decide)

end Screen

end BuildForm
