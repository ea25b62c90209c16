import Mathlib.Data.List.Forall2
import Mathlib.Data.List.Infix
import BuildForm.Schedule.Basic
import BuildForm.Service.Answer
import BuildForm.Proofs.Form.Schedules
import BuildForm.Proofs.Schedule.Items

/-
  The schedules that are accepted, as a language, and what is
  said about a text of them.

  A line is a name or one field for each pair of bounds, and a
  field is its items. The only capital letter of an accepted
  line is `H`, so that an answer which echoes accepted lines
  never looks like a refusal.

  Main declarations:
    * `Schedule.IsField`
    * `Schedule.IsSchedule`
    * `Schedule.checkLine_eq_ok_iff`
    * `Schedule.IsSchedule.not_mem`
    * `Schedule.errorMarker_infix_text_iff`
    * `Schedule.verdict_is_exact`
-/

------------------------------------------------------------
-- The Language
------------------------------------------------------------

namespace BuildForm

namespace Schedule

/- Items with commas between them. -/
def IsField (field : List Char) (bounds : Nat × Nat) : Prop :=
  ∃ items,
    items ≠ [] ∧
      (∀ item ∈ items, IsItem bounds item) ∧
      field = [','].intercalate items

/- A named schedule, or one field for each pair of bounds. -/
inductive IsSchedule (line : List Char) : Prop where
  | named : String.ofList line ∈ aliases → IsSchedule line
  | timed :
      List.Forall₂ IsField (Text.words line) fieldBounds →
      IsSchedule line

end Schedule

end BuildForm

------------------------------------------------------------
-- Checking Lines
------------------------------------------------------------

namespace BuildForm

namespace Schedule

variable {bounds : Nat × Nat}
variable {field line : List Char}

/- All checks in a row succeed. -/
theorem forM_eq_ok_iff
    {ε α : Type}
    {check : α → Except ε Unit}
    {list : List α} :
    list.forM check = .ok () ↔ ∀ x ∈ list, check x = .ok () := by
  induction list with
  | nil => simp [List.forM, pure, Except.pure]
  | cons x list ih =>
      rw [List.forM, andThen_eq_ok_iff, ih, List.forall_mem_cons]

theorem checkField_eq_ok_iff
    (hBounds : bounds.2 < Text.wordSize 32) :
    checkField bounds field = .ok () ↔ IsField field bounds := by
  have hSplit :
      checkField bounds field = .ok () ↔
        ∀ item ∈ field.splitOn ',', IsItem bounds item := by
    unfold checkField
    rw [forM_eq_ok_iff]
    refine forall₂_congr fun item _ => ?_
    rw [← checkItem_eq_ok_iff hBounds]
    cases checkItem bounds item with
    | error fault => simp [Except.mapError]
    | ok _ => simp [Except.mapError]
  rw [hSplit]
  constructor
  · intro hField
    exact ⟨field.splitOn ',', List.splitOn_ne_nil ',' field,
      hField, (List.intercalate_splitOn ',').symm⟩
  · rintro ⟨items, hNonempty, hItems, rfl⟩
    -- Without commas of their own the items come back as given.
    have hPlain : ∀ item ∈ items, ',' ∉ item := by
      intro item hItem hComma
      have hMark := (hItems item hItem).isMark ',' hComma
      exact absurd hMark (by simp [IsMark, Text.isAsciiDigit])
    rw [List.splitOn_intercalate ',' hPlain hNonempty]
    exact hItems

theorem checkLine_eq_ok_iff :
    checkLine line = .ok () ↔ IsSchedule line := by
  have hSmall :
      ∀ bounds ∈ fieldBounds, bounds.2 < Text.wordSize 32 := by
    decide
  unfold checkLine
  by_cases hAlias : String.ofList line ∈ aliases
  · rw [if_pos hAlias]
    exact iff_of_true rfl (.named hAlias)
  · rw [if_neg hAlias]
    have hTimed :
        IsSchedule line ↔
          List.Forall₂ IsField (Text.words line) fieldBounds := by
      refine ⟨?_, .timed⟩
      rintro (hNamed | hTimed)
      · exact absurd hNamed hAlias
      · exact hTimed
    rw [hTimed, List.forall₂_iff_zip]
    dsimp only
    split
    · rename_i hCount
      constructor
      · intro hOk
        cases hOk
      · rintro ⟨hSame, _⟩
        exact absurd hSame hCount
    · rename_i hCount
      rw [forM_eq_ok_iff, and_iff_right (not_not.mp hCount),
        Prod.forall]
      refine forall₃_congr fun field bounds hPair => ?_
      exact checkField_eq_ok_iff
        (hSmall bounds (List.of_mem_zip hPair).2)

end Schedule

end BuildForm

------------------------------------------------------------
-- Characters That Schedules Lack
------------------------------------------------------------

namespace BuildForm

namespace Text

variable {c : Char}

theorem not_mem_intercalate
    {mark : List Char}
    {parts : List (List Char)}
    (hMark : c ∉ mark)
    (hParts : ∀ part ∈ parts, c ∉ part) :
    c ∉ mark.intercalate parts := by
  induction parts with
  | nil => simp
  | cons part parts ih =>
      rcases List.forall_mem_cons.mp hParts with ⟨hPart, hRest⟩
      by_cases hLast : parts = []
      · subst hLast
        rw [List.intercalate_singleton]
        exact hPart
      · rw [List.intercalate_cons_of_ne_nil hLast]
        simp [hPart, hMark, ih hRest]

/- A text has no characters but blanks and those of its words. -/
theorem not_mem_of_words
    {text : List Char}
    (hVisible : ¬isBlank c)
    (hWords : ∀ word ∈ words text, c ∉ word) :
    c ∉ text := by
  have hParts : ∀ part ∈ text.splitOnP isBlank, c ∉ part := by
    intro part hPart hChar
    refine hWords part ?_ hChar
    refine List.mem_filter.mpr ⟨hPart, ?_⟩
    simpa using List.ne_nil_of_mem hChar
  -- The induction needs the empty parts, which are no words.
  clear hWords
  induction text with
  | nil => simp
  | cons d rest ih =>
      rw [List.splitOnP_cons_eq_if_modifyHead] at hParts
      split at hParts
      · rename_i hBlank
        have hOther : c ≠ d := by
          rintro rfl
          exact hVisible hBlank
        exact List.not_mem_cons_of_ne_of_not_mem hOther
          (ih (List.forall_mem_cons.mp hParts).2)
      · rcases List.exists_cons_of_ne_nil
            (List.splitOnP_ne_nil isBlank rest) with
          ⟨part, parts, hSplit⟩
        rw [hSplit] at hParts ih
        rw [List.modifyHead_cons, List.forall_mem_cons,
          List.mem_cons, not_or] at hParts
        rcases hParts with ⟨⟨hOther, hPart⟩, hParts⟩
        exact List.not_mem_cons_of_ne_of_not_mem hOther
          (ih (List.forall_mem_cons.mpr ⟨hPart, hParts⟩))

end Text

namespace Schedule

variable {bounds : Nat × Nat}
variable {field line : List Char}

theorem IsField.not_mem
    (hField : IsField field bounds) :
    'E' ∉ field := by
  rcases hField with ⟨items, _, hItems, rfl⟩
  refine Text.not_mem_intercalate (by simp) ?_
  intro item hItem hChar
  have hMark := (hItems item hItem).isMark 'E' hChar
  exact absurd hMark (by simp [IsMark, Text.isAsciiDigit])

/- No schedule has the first letter of the error marker. -/
theorem IsSchedule.not_mem
    (hLine : IsSchedule line) :
    'E' ∉ line := by
  cases hLine with
  | named hAlias =>
      have hAliases : ∀ name ∈ aliases, 'E' ∉ name.toList := by
        decide
      simpa using hAliases (String.ofList line) hAlias
  | timed hFields =>
      apply Text.not_mem_of_words (by decide)
      have hBoth :
          List.Forall₂
            (fun field bounds =>
              'E' ∉ field ∧ IsField field bounds)
            (Text.words line) fieldBounds :=
        hFields.imp fun _ _ hField => ⟨hField.not_mem, hField⟩
      exact ((List.forall₂_and_left _ _).mp hBoth).1

end Schedule

end BuildForm

------------------------------------------------------------
-- Verdicts on Texts
------------------------------------------------------------

namespace BuildForm

namespace Schedule

theorem mem_scheduleLines_iff
    {text line : List Char} :
    line ∈ scheduleLines text ↔
      line ∈ (Text.lines text).map Text.trim ∧
        line ≠ [] ∧
        line.head? ≠ some '#' := by
  simp [scheduleLines]

theorem firstFault?_eq_none_iff
    {lines : List (List Char)} :
    firstFault? lines = none ↔
      ∀ line ∈ lines, checkLine line = .ok () := by
  induction lines with
  | nil => simp [firstFault?]
  | cons line rest ih =>
      rw [List.forall_mem_cons, ← ih]
      rw [firstFault?]
      cases checkLine line with
      | error fault => simp
      | ok _ => simp

/- An answer looks like an error exactly if it refuses. -/
theorem errorMarker_infix_text_iff
    {verdict : Verdict}
    (hAccepted :
      ∀ lines,
        verdict = .accepted lines →
        ∀ line ∈ lines, IsSchedule line) :
    TriggerCheck.errorMarker.toList <:+: verdict.text.toList ↔
      ∃ line fault, verdict = .refused line fault := by
  have hPlain :
      ∀ text : List Char,
        'E' ∉ text →
          ¬TriggerCheck.errorMarker.toList <:+: text := by
    intro text hText hMarker
    exact hText (hMarker.subset (by decide))
  cases verdict with
  | nothing =>
      refine iff_of_false (hPlain _ (by decide)) ?_
      rintro ⟨line, fault, hSame⟩
      cases hSame
  | accepted lines =>
      refine iff_of_false (hPlain _ ?_) ?_
      · have hLines :
            ∀ line ∈ (lines.map String.ofList).map String.toList,
              'E' ∉ line := by
          intro line hLine
          have hLine : line ∈ lines := by simpa using hLine
          exact (hAccepted lines rfl line hLine).not_mem
        have hJoined :
            'E' ∉ (Text.join " | "
              (lines.map String.ofList)).toList := by
          unfold Text.join
          rw [String.toList_intercalate]
          exact Text.not_mem_intercalate (by decide) hLines
        unfold Verdict.text
        rw [String.toList_append, List.mem_append, not_or]
        exact ⟨by decide, hJoined⟩
      · rintro ⟨line, fault, hSame⟩
        cases hSame
  | refused line fault =>
      refine iff_of_true ?_ ⟨line, fault, rfl⟩
      unfold Verdict.text
      simp only [String.toList_append, List.append_assoc]
      refine List.IsPrefix.isInfix ?_
      refine List.IsPrefix.trans ?_ (List.prefix_append _ _)
      decide

/- A text is refused exactly if one of its schedules is. -/
theorem judge_eq_refused_iff (expression : String) :
    (∃ line fault, judge expression = .refused line fault) ↔
      ¬∀ line ∈ scheduleLines expression.toList,
        IsSchedule line := by
  simp only [← checkLine_eq_ok_iff]
  rw [← firstFault?_eq_none_iff]
  unfold judge
  dsimp only
  split
  · rename_i hEmpty
    rw [List.isEmpty_iff.mp hEmpty]
    simp [firstFault?]
  · split
    · rename_i line fault hFault
      simp [hFault]
    · rename_i hNone
      simp [hNone]

/- Whatever is accepted is of the language. -/
theorem isSchedule_of_judge_eq_accepted
    {expression : String}
    {lines : List (List Char)}
    (hJudge : judge expression = .accepted lines) :
    ∀ line ∈ lines, IsSchedule line := by
  have hAll :
      ∀ line ∈ scheduleLines expression.toList,
        IsSchedule line := by
    by_contra hSome
    rcases (judge_eq_refused_iff expression).mpr hSome with
      ⟨line, fault, hRefused⟩
    rw [hJudge] at hRefused
    cases hRefused
  have hLines : lines = scheduleLines expression.toList := by
    unfold judge at hJudge
    dsimp only at hJudge
    split at hJudge
    · cases hJudge
    · split at hJudge
      · cases hJudge
      · cases hJudge
        rfl
  rw [hLines]
  exact hAll

/-
  A text is judged valid exactly if each line with a schedule
  is of the language; the answer echoes accepted lines, but
  none of them looks like an error.
-/
theorem verdict_is_exact (expression : String) :
    (TriggerCheck.ofAnswer (describe expression)).valid ↔
      ∀ line ∈ (Text.lines expression.toList).map Text.trim,
        line ≠ [] →
        line.head? ≠ some '#' →
        IsSchedule line := by
  have hLines :
      (∀ line ∈ (Text.lines expression.toList).map Text.trim,
        line ≠ [] → line.head? ≠ some '#' → IsSchedule line) ↔
        ∀ line ∈ scheduleLines expression.toList,
          IsSchedule line := by
    simp only [mem_scheduleLines_iff, and_imp]
  unfold describe
  rw [hLines, TriggerCheck.ofAnswer_valid_iff,
    errorMarker_infix_text_iff fun _ hJudge =>
      isSchedule_of_judge_eq_accepted hJudge,
    judge_eq_refused_iff, not_not]

end Schedule

end BuildForm
