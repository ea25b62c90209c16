import BuildForm.Proofs.Page.Arising
import BuildForm.Screen.Lines

/-
  Where on the screen there is something out of the ordinary.

  Most of what is on the screen is ordinary text: titles,
  labels and values, errors and verdicts. Whoever looks for
  something else finds it on the line of a field that can be
  compared, of a machine or of a view that is gone, and in the
  order of these lines.

  Main declarations:
    * `Screen.Overlooks`
    * `DiffField.label`
    * `Screen.fieldLine`
    * `Screen.found_formLines`
-/

------------------------------------------------------------
-- Ordinary Text
------------------------------------------------------------

namespace BuildForm

/- Whether there is something sought on a line. -/
def Line.shows (line : Line) (sought : Span → Bool) : Bool :=
  line.any sought

namespace Screen

/- The labels of what cannot be compared, as they are shown. -/
def otherLabels : List String :=
  ["Project name: ", "Script type: ", "Comments:", "E-mail ",
   "Build machines", "Local directory: ", "Repository URL: ",
   "Branch: ", "File to build: ", "Artifact path: ",
   "Version file path: ", "Configuration: ", "User access",
   "Reason of rejection: "]

/- To seek something that ordinary text is not. -/
structure Overlooks (sought : Span → Bool) : Prop where
  plain : ∀ text, sought { text } = false
  error :
    ∀ text, sought { text, style := errorStyle } = false
  gray :
    ∀ text, sought { text, style := colored .gray } = false
  darkGray :
    ∀ text, sought { text, style := colored .darkGray } = false
  title :
    ∀ text, sought { text, style := boldColored .white } = false
  project :
    ∀ text, sought { text, style := boldColored .green } = false
  banner :
    sought
      { text := "Read-only view", style := colored .yellow } =
        false
  label :
    ∀ text ∈ otherLabels,
      sought { text, style := labelStyle } = false

end Screen

end BuildForm

------------------------------------------------------------
-- Lines of Ordinary Text
------------------------------------------------------------

namespace BuildForm

namespace Screen

variable {sought : Span → Bool}

/- The lines on which there is something sought. -/
def found
    (sought : Span → Bool)
    (lines : List Line) : List Line :=
  lines.filter (Line.shows · sought)

theorem found_nil : found sought [] = [] :=
  rfl

theorem found_append (first second : List Line) :
    found sought (first ++ second) =
      found sought first ++ found sought second :=
  List.filter_append first second

theorem found_cons (line : Line) (lines : List Line) :
    found sought (line :: lines) =
      found sought [line] ++ found sought lines :=
  found_append [line] lines

theorem found_single
    {line : Line}
    (hLine : line.shows sought = false) :
    found sought [line] = [] := by
  simp [found, hLine]

/- Nothing is found but on the first line. -/
theorem found_first
    {line : Line}
    {lines : List Line}
    (hLines : found sought lines = []) :
    found sought (line :: lines) = found sought [line] := by
  rw [found_cons, hLines, List.append_nil]

theorem found_flatMap
    {α : Type}
    {write : α → List Line}
    (hWrite : ∀ item, found sought (write item) = [])
    (items : List α) :
    found sought (items.flatMap write) = [] := by
  induction items with
  | nil => rfl
  | cons item items ih =>
      rw [List.flatMap_cons, found_append, hWrite, ih]
      rfl

theorem found_map
    {α : Type}
    {write : α → Line}
    (hWrite : ∀ item, (write item).shows sought = false)
    (items : List α) :
    found sought (items.map write) = [] := by
  rw [List.map_eq_flatMap]
  apply found_flatMap
  intro item
  exact found_single (hWrite item)

theorem shows_styled
    {text : String}
    {style : Style}
    (hSpan : sought { text, style } = false) :
    (Line.styled text style).shows sought = false := by
  unfold Line.shows Line.styled
  simp [hSpan]

/- The first line of an input. -/
def inputLine
    (indent label : String)
    (field : Field)
    (old : Option String) : Line :=
  { text := indent } ::
    { text := label ++ ": ", style := labelStyle } ::
    { text := field.value
      style :=
        if field.enabled then {} else colored .darkGray } ::
    was old

/- The line above a wrapped value. -/
def headingLine (label : String) (old : Option String) : Line :=
  { text := label ++ ":", style := labelStyle } :: was old

namespace Overlooks

theorem shows_plain
    (hSought : Overlooks sought)
    (text : String) :
    (Line.plain text).shows sought = false := by
  unfold Line.shows Line.plain
  simp [hSought.plain]

theorem shows_plainLine
    (hSought : Overlooks sought)
    {label : String}
    (hLabel : label ++ ": " ∈ otherLabels)
    (value : String) :
    (plainLine label value none).shows sought = false := by
  unfold Line.shows plainLine was
  simp [hSought.label _ hLabel, hSought.plain]

theorem shows_checkboxLine
    (hSought : Overlooks sought)
    {label : String}
    (hLabel : label ++ " " ∈ otherLabels)
    (checked : Bool) :
    (checkboxLine label checked none).shows sought = false := by
  unfold Line.shows checkboxLine was
  simp [hSought.label _ hLabel, hSought.plain]

theorem shows_headingLine
    (hSought : Overlooks sought)
    {label : String}
    (hLabel : label ++ ":" ∈ otherLabels) :
    (headingLine label none).shows sought = false := by
  unfold Line.shows headingLine was
  simp [hSought.label _ hLabel]

theorem shows_inputLine
    (hSought : Overlooks sought)
    (indent : String)
    {label : String}
    (hLabel : label ++ ": " ∈ otherLabels)
    (field : Field) :
    (inputLine indent label field none).shows sought = false := by
  unfold Line.shows inputLine was
  cases field.enabled <;>
    simp [hSought.label _ hLabel, hSought.plain,
      hSought.darkGray]

/- Nothing is found below the first line of a value. -/
theorem found_wrappedLines
    (hSought : Overlooks sought)
    (width : Nat)
    (label value : String)
    (old : Option String) :
    found sought (wrappedLines width label value old) =
      found sought [headingLine label old] := by
  apply found_first
  exact found_map (fun _ => hSought.shows_plain _) _

theorem found_triggerLines
    (hSought : Overlooks sought)
    (label name : String)
    (trigger : Trigger)
    (help : HelpPanel)
    (old : Option String) :
    found sought (triggerLines label name trigger help old) =
      found sought [plainLine label trigger.field.value old] := by
  apply found_first
  apply (found_append _ _).trans
  apply List.append_eq_nil_iff.mpr
  constructor
  · split
    · exact found_nil
    · apply found_single
      apply shows_styled
      split
      · exact hSought.gray _
      · exact hSought.error _
  · split
    · exact found_nil
    · exact found_single (shows_styled (hSought.darkGray _))

theorem found_fieldLines
    (hSought : Overlooks sought)
    (indent label : String)
    (old : Option String)
    {field : Field}
    (hVisible : field.visible) :
    found sought (fieldLines indent label field old) =
      found sought [inputLine indent label field old] := by
  unfold fieldLines
  rw [hVisible]
  cases field.fault with
  | none => rfl
  | some fault =>
      apply found_first
      exact found_single (shows_styled (hSought.error _))

theorem found_otherFieldLines
    (hSought : Overlooks sought)
    (indent : String)
    {label : String}
    (hLabel : label ++ ": " ∈ otherLabels)
    (field : Field) :
    found sought (fieldLines indent label field none) = [] := by
  cases hVisible : field.visible with
  | false =>
      unfold fieldLines
      rw [hVisible]
      rfl
  | true =>
      rw [hSought.found_fieldLines indent label none hVisible]
      apply found_single
      exact hSought.shows_inputLine indent hLabel field

end Overlooks

end Screen

end BuildForm

------------------------------------------------------------
-- Sections of Ordinary Text
------------------------------------------------------------

namespace BuildForm

namespace Screen

namespace Overlooks

variable {sought : Span → Bool}

theorem found_headLines
    (hSought : Overlooks sought)
    (form : Form) :
    found sought (headLines form) = [] := by
  unfold headLines
  simp only [found_append, List.append_eq_nil_iff, and_assoc]
  refine ⟨?_, ?_, ?_, ?_⟩
  · exact found_single (shows_styled (hSought.title _))
  · split
    · exact found_single (shows_styled hSought.banner)
    · exact found_nil
  · apply found_map
    intro text
    exact shows_styled (hSought.plain text)
  · split
    · exact found_nil
    · exact found_single (shows_styled (hSought.error _))

theorem found_boxLines
    (hSought : Overlooks sought)
    (box : SelectionBox) :
    found sought (boxLines box) = [] := by
  unfold boxLines
  split
  · exact found_nil
  · split
    · exact found_single (hSought.shows_plain _)
    · rw [found_cons, found_single (hSought.shows_plain _)]
      exact found_single (shows_styled (hSought.error _))

theorem found_builderLines
    (hSought : Overlooks sought)
    (builder : Builder) :
    found sought (builderLines builder) = [] := by
  have hLabel : "Configuration" ++ ": " ∈ otherLabels := by
    decide
  unfold builderLines
  rw [found_cons, found_single (hSought.shows_plain _)]
  exact hSought.found_otherFieldLines _ hLabel _

theorem found_viewLines
    (hSought : Overlooks sought)
    (view : View) :
    found sought (viewLines view) = [] := by
  have hInput :
      ∀ label field, label ++ ": " ∈ otherLabels →
        found sought (fieldLines "  " label field none) = [] :=
    fun _ field hLabel =>
      hSought.found_otherFieldLines "  " hLabel field
  unfold viewLines
  simp only [found_append, List.append_eq_nil_iff, and_assoc]
  refine ⟨?_, ?_, ?_, ?_, ?_, ?_, ?_, ?_, ?_, ?_, ?_⟩
  · exact found_single (shows_styled (hSought.project _))
  · exact hInput _ _ (by decide)
  · exact hInput _ _ (by decide)
  · exact hInput _ _ (by decide)
  · exact hInput _ _ (by decide)
  · exact hInput _ _ (by decide)
  · exact hSought.found_boxLines _
  · exact hSought.found_boxLines _
  · split
    · exact hInput _ _ (by decide)
    · exact found_nil
  · split
    · exact found_nil
    · exact found_single (hSought.shows_plain _)
  · exact found_flatMap hSought.found_builderLines _

theorem found_userLines
    (hSought : Overlooks sought)
    (form : Form) :
    found sought (userLines form) = [] := by
  have hLabel : "User access" ∈ otherLabels := by decide
  unfold userLines
  split
  · exact found_nil
  · rw [found_cons,
      found_single (shows_styled (hSought.label _ hLabel))]
    exact found_map (fun _ => hSought.shows_plain _) _

theorem found_rejectLines
    (hSought : Overlooks sought)
    (form : Form) :
    found sought (rejectLines form) = [] := by
  have hLabel :
      "Reason of rejection" ++ ": " ∈ otherLabels := by
    decide
  unfold rejectLines
  split
  · rw [found_cons, found_single rfl]
    exact hSought.found_otherFieldLines "" hLabel _
  · exact found_nil

end Overlooks

end Screen

end BuildForm

------------------------------------------------------------
-- Where There Is Something Else
------------------------------------------------------------

namespace BuildForm

/- The fields that are compared, from top to bottom. -/
def DiffField.onScreen : List DiffField :=
  [.scm, .preScript, .postScript, .regExp, .pollScmTrigger,
   .buildPeriodicallyTrigger, .buildOnCommitTrigger,
   .cleanWorkspace, .email, .configEmail]

open Screen (labelStyle) in
/- The label of a field that can be compared. -/
def DiffField.label (field : DiffField) : Span where
  style := labelStyle
  text :=
    match field with
    | .scm => "SCM: "
    | .email => "Recipients: "
    | .configEmail => "Configuration e-mail: "
    | .preScript => "Pre-build script:"
    | .postScript => "Post-build script:"
    | .regExp => "Version tag pattern: "
    | .cleanWorkspace => "Clean workspace "
    | .buildOnCommitTrigger => "Build on commit "
    | .pollScmTrigger => "Poll SCM: "
    | .buildPeriodicallyTrigger => "Build periodically: "

namespace Screen

/- The line on which a field shows that can be compared. -/
def fieldLine (form : Form) (field : DiffField) : Line :=
  let old := form.difference.oldText? field
  match field with
  | .scm => plainLine "SCM" form.scm old
  | .email => inputLine "" "Recipients" form.email old
  | .configEmail =>
      inputLine "" "Configuration e-mail" form.configEmail old
  | .preScript => headingLine "Pre-build script" old
  | .postScript => headingLine "Post-build script" old
  | .regExp => plainLine "Version tag pattern" form.regExp old
  | .cleanWorkspace =>
      checkboxLine "Clean workspace" form.cleanWorkspace old
  | .buildOnCommitTrigger =>
      checkboxLine "Build on commit" form.buildOnCommitTrigger old
  | .pollScmTrigger =>
      plainLine "Poll SCM" form.pollScmTrigger.field.value old
  | .buildPeriodicallyTrigger =>
      plainLine "Build periodically"
        form.buildPeriodicallyTrigger.field.value old

/- The line of a machine. -/
def machineLine
    (form : Form)
    (entry : String × Bool) : Line :=
  Line.styled
    ("  " ++ checkbox entry.2 ++ " " ++ entry.1)
    (if form.difference.machineChanged entry.1 then
      colored brown
    else
      {})

variable {sought : Span → Bool}
variable {form : Form}

/- A value, bright or dimmed. -/
def isValue (span : Span) : Prop :=
  span.style = {} ∨ span.style = colored .darkGray

/-
  Beside its label and its old value there are only values on
  the line of a field.
-/
theorem exists_fieldLine_eq
    (form : Form)
    (field : DiffField) :
    ∃ before after,
      fieldLine form field =
          before ++ field.label ::
            (after ++ was (form.difference.oldText? field)) ∧
        ∀ span ∈ before ++ after, isValue span := by
  have hInput :
      ∀ input : Field, ∀ span ∈
        ([{ text := "" }] ++
          [{ text := input.value
             style :=
               if input.enabled then
                 {}
               else
                 colored .darkGray }] : Line),
        isValue span := by
    intro input span hSpan
    rcases List.mem_cons.mp hSpan with rfl | hSpan
    · exact Or.inl rfl
    · rw [List.mem_singleton.mp hSpan]
      unfold isValue
      cases input.enabled <;> simp
  cases field with
  | email =>
      exact ⟨[{ text := "" }], [_], rfl, hInput form.email⟩
  | configEmail =>
      exact
        ⟨[{ text := "" }], [_], rfl, hInput form.configEmail⟩
  | preScript => exact ⟨[], [], rfl, by simp⟩
  | postScript => exact ⟨[], [], rfl, by simp⟩
  | _ => exact ⟨[], [_], rfl, by simp [isValue]⟩

theorem Overlooks.value
    (hSought : Overlooks sought)
    {span : Span}
    (hValue : isValue span) :
    sought span = false := by
  rcases span with ⟨text, style⟩
  rcases hValue with hStyle | hStyle
  · cases hStyle
    exact hSought.plain text
  · cases hStyle
    exact hSought.darkGray text

/- What is found on the line of a field is one of these two. -/
theorem filter_fieldLine
    (hSought : Overlooks sought)
    (form : Form)
    (field : DiffField) :
    (fieldLine form field).filter sought =
      [field.label].filter sought ++
        (was (form.difference.oldText? field)).filter sought := by
  rcases exists_fieldLine_eq form field with
    ⟨before, after, hLine, hValues⟩
  have hNone :
      ∀ spans : Line,
        (∀ span ∈ spans, span ∈ before ++ after) →
          spans.filter sought = [] := by
    intro spans hSpans
    rw [List.filter_eq_nil_iff]
    intro span hSpan
    simp [hSought.value (hValues span (hSpans span hSpan))]
  have hBefore := hNone before (by simp +contextual)
  have hAfter := hNone after (by simp +contextual)
  have hLabel :
      ∀ spans : Line,
        (field.label :: spans).filter sought =
          [field.label].filter sought ++ spans.filter sought :=
    fun spans => List.filter_append [field.label] spans
  rw [hLine, List.filter_append, hBefore, hLabel,
    List.filter_append, hAfter]
  rfl

/- Nothing is found on it without a search for either. -/
theorem shows_fieldLine
    (hSought : Overlooks sought)
    (form : Form)
    (field : DiffField) :
    (fieldLine form field).shows sought =
      (sought field.label ||
        (was (form.difference.oldText? field)).any sought) := by
  have hFilter :
      ∀ line : Line,
        line.shows sought = (line.filter sought).any sought := by
    intro line
    unfold Line.shows
    simp [List.any_filter]
  rw [hFilter, filter_fieldLine hSought]
  simp [List.any_append, List.any_filter]

theorem found_generalLines
    (hSought : Overlooks sought)
    (hShows : form.ShowsMail)
    (width : Nat) :
    found sought (generalLines form width) =
      found sought (DiffField.onScreen.map (fieldLine form)) := by
  have hName :
      found sought
        (fieldLines "" "Project name" form.projectName none) =
          [] :=
    hSought.found_otherFieldLines "" (by decide) _
  have hScript :
      ∀ scriptType,
        found sought [plainLine "Script type" scriptType none] =
          [] :=
    fun _ => found_single (hSought.shows_plainLine (by decide) _)
  have hComments :
      found sought
        (if form.commentsEnabled then
          wrappedLines width "Comments" form.comments none
        else
          []) = [] := by
    split
    · rw [hSought.found_wrappedLines]
      exact found_single (hSought.shows_headingLine (by decide))
    · exact found_nil
  have hMail :
      found sought
        [checkboxLine "E-mail" form.emailEnabled none] = [] :=
    found_single (hSought.shows_checkboxLine (by decide) _)
  have hOrder :
      DiffField.onScreen.map (fieldLine form) =
        [fieldLine form .scm] ++ [fieldLine form .preScript] ++
          [fieldLine form .postScript] ++
          [fieldLine form .regExp] ++
          [fieldLine form .pollScmTrigger] ++
          [fieldLine form .buildPeriodicallyTrigger] ++
          ([fieldLine form .buildOnCommitTrigger] ++
            [fieldLine form .cleanWorkspace]) ++
          [fieldLine form .email] ++
          [fieldLine form .configEmail] :=
    rfl
  have hBoxes :
      ∀ commit clean mail : Line,
        [commit, clean, mail] = [commit] ++ [clean] ++ [mail] :=
    fun _ _ _ => rfl
  rw [hOrder]
  unfold generalLines
  cases form.scriptType <;>
    simp only [found_append, hName, hScript, hComments, hMail,
      hBoxes, hSought.found_wrappedLines,
      hSought.found_triggerLines,
      hSought.found_fieldLines _ _ _ hShows.email,
      hSought.found_fieldLines _ _ _ hShows.configEmail,
      List.nil_append, List.append_nil, fieldLine]

theorem found_machineLines
    (hSought : Overlooks sought)
    (form : Form) :
    found sought (machineLines form) =
      found sought
        (form.machines.nodes.entries.map (machineLine form)) := by
  have hLabel : "Build machines" ∈ otherLabels := by decide
  unfold machineLines
  rw [found_cons,
    found_single (shows_styled (hSought.label _ hLabel))]
  rfl

theorem found_projectLines
    (hSought : Overlooks sought)
    (form : Form) :
    found sought (projectLines form) =
      found sought (form.views.deleted.map deletedLine) := by
  have hPrompt :
      found sought
        (if form.addViewPrompt then
          [Line.styled "Add at least one project to build"
            errorStyle]
        else
          []) = [] := by
    split
    · exact found_single (shows_styled (hSought.error _))
    · exact found_nil
  unfold projectLines
  rw [found_append, found_append, hPrompt,
    found_flatMap hSought.found_viewLines]
  rfl

/-
  Whatever is sought that is no ordinary text is found on the
  lines of fields, machines and views that are gone.
-/
theorem found_formLines
    (hSought : Overlooks sought)
    (hShows : form.ShowsMail)
    (width : Nat) :
    found sought (formLines form width) =
      found sought (DiffField.onScreen.map (fieldLine form)) ++
        found sought
          (form.machines.nodes.entries.map (machineLine form)) ++
        found sought (form.views.deleted.map deletedLine) := by
  have hEmpty : found sought [[]] = [] := found_single rfl
  unfold formLines
  simp only [found_append, hSought.found_headLines, hEmpty,
    found_generalLines hSought hShows,
    found_machineLines hSought, found_projectLines hSought,
    hSought.found_userLines, hSought.found_rejectLines,
    List.nil_append, List.append_nil]

end Screen

end BuildForm
