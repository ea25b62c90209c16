import BuildForm.Form.Basic
import BuildForm.Screen.Style
import BuildForm.Screen.Wrap

/-
  The form as lines of styled text, from top to bottom.

  Key definitions include:
    * `Screen.was`
    * `Screen.fieldLines`
    * `Screen.viewLines`
    * `Screen.formLines`
-/

namespace BuildForm

namespace Screen

------------------------------------------------------------
-- Styles
------------------------------------------------------------

def labelStyle : Style :=
  { color := some .cyan, bold := true }

def errorStyle : Style :=
  { color := some .red, bold := true }

def colored (color : Color) : Style :=
  { color := some color }

def boldColored (color : Color) : Style :=
  { color := some color, bold := true }

/- The color of machines that changed. -/
def brown : Color := .rgb 165 42 42

def dimmedStyle : Style :=
  { color := some .darkGray, crossed := true }

def checkbox (checked : Bool) : String :=
  if checked then "[x]" else "[ ]"

------------------------------------------------------------
-- Kinds of Lines
------------------------------------------------------------

/- The approved value of a field that changed. -/
def was (old : Option String) : Line :=
  match old with
  | none => []
  | some old =>
      [{ text := "  was: " ++ old, style := colored .yellow }]

/- A label and a value. -/
def plainLine
    (label value : String)
    (old : Option String) : Line :=
  { text := label ++ ": ", style := labelStyle } ::
    { text := value } :: was old

/- A label and a checkbox. -/
def checkboxLine
    (label : String)
    (checked : Bool)
    (old : Option String) : Line :=
  { text := label ++ " ", style := labelStyle } ::
    { text := checkbox checked } :: was old

/- A label, and the wrapped value below it. -/
def wrappedLines
    (width : Nat)
    (label value : String)
    (old : Option String) : List Line :=
  ({ text := label ++ ":", style := labelStyle } ::
      was old) ::
    (Wrap.wrap (width - 2) value).map fun part =>
      Line.plain ("  " ++ part)

/- An error without the blanks at its start. -/
def errorText (indent message : String) : String :=
  indent ++ " " ++
    String.ofList (Text.trimStart message.toList)

/- An input, and its error below it. A hidden one is left out. -/
def fieldLines
    (indent label : String)
    (field : Field)
    (old : Option String) : List Line :=
  if !field.visible then
    []
  else
    let valueStyle : Style :=
      if field.enabled then {} else colored .darkGray
    let line : Line :=
      { text := indent } ::
        { text := label ++ ": ", style := labelStyle } ::
        { text := field.value, style := valueStyle } ::
        was old
    match field.fault with
    | none => [line]
    | some fault =>
        [line,
          Line.styled (errorText indent fault.message)
            errorStyle]

------------------------------------------------------------
-- Sections
------------------------------------------------------------

/- A trigger with its verdict and its help. -/
def triggerLines
    (label name : String)
    (trigger : Trigger)
    (help : HelpPanel)
    (old : Option String) : List Line :=
  let verdict : List Line := match trigger.check with
    | none => []
    | some check =>
        [Line.styled ("  " ++ check.message)
          (if check.valid then colored .gray else errorStyle)]
  let helpText : List Line := match help.triggerText? name with
    | none => []
    | some text =>
        [Line.styled ("  " ++ text) (colored .darkGray)]
  plainLine label trigger.field.value old ::
    verdict ++ helpText

/- A selection box with its error. -/
def boxLines (box : SelectionBox) : List Line :=
  if !box.visible then
    []
  else
    let line := Line.plain
      ("  " ++ box.kind.hiddenName ++ ": " ++
        Text.join ", " box.options)
    match box.fault with
    | none => [line]
    | some fault =>
        [line,
          Line.styled (errorText "  " fault.message)
            errorStyle]

/- A builder and its override. -/
def builderLines (builder : Builder) : List Line :=
  Line.plain
      ("    Builder " ++ builder.id.domId ++
        " other config " ++ checkbox builder.otherConfig) ::
    fieldLines "      " "Configuration" builder.userConfig none

/- A project view. -/
def viewLines (view : View) : List Line :=
  [Line.styled
      ("Project to build (" ++ view.id.domId ++ ")")
      (boldColored .green)] ++
  fieldLines "  " "Local directory" view.localDirectoryPath
    none ++
  fieldLines "  " "Repository URL" view.projectUrl none ++
  fieldLines "  " "Branch" view.branchName none ++
  fieldLines "  " "File to build" view.fileToBuild none ++
  fieldLines "  " "Artifact path" view.pathToArtifacts none ++
  boxLines view.artifacts ++
  boxLines view.versionFiles ++
  (if view.versionFilesEnabled then
    fieldLines "  " "Version file path" view.versionFilesPath
      none
  else
    []) ++
  (match view.credentials.value? with
  | none => []
  | some value => [Line.plain ("  Credentials: " ++ value)]) ++
  view.builders.flatMap builderLines

/- A view that only the approved configuration has. -/
def deletedLine (record : ViewRecord) : Line :=
  Line.styled
    ("Removed project: " ++ record.projectUrl ++ " (" ++
      record.localDirectoryPath ++ ")")
    dimmedStyle

/- The title and what is said about the whole form. -/
def headLines (form : Form) : List Line :=
  [Line.styled form.chrome.title (boldColored .white)] ++
  (if form.chrome.readOnlyBanner then
    [Line.styled "Read-only view" (colored .yellow)]
  else
    []) ++
  ([form.reasonLabel, form.creatorLabel].filterMap id).map
    (Line.styled · {}) ++
  (match form.formMessage with
  | none => []
  | some message => [Line.styled message errorStyle])

/- The machines, those that changed in a color of their own. -/
def machineLines (form : Form) : List Line :=
  Line.styled "Build machines" labelStyle ::
    form.machines.nodes.entries.map fun (node, checked) =>
      Line.styled ("  " ++ checkbox checked ++ " " ++ node)
        (if form.difference.machineChanged node then
          colored brown
        else
          {})

/- The users, if there are any. -/
def userLines (form : Form) : List Line :=
  if form.users.isEmpty then
    []
  else
    Line.styled "User access" labelStyle ::
      form.users.rows.map fun row =>
        Line.plain ("  " ++ row.name)

/- The project views, and those that are gone. -/
def projectLines (form : Form) : List Line :=
  (if form.addViewPrompt then
    [Line.styled "Add at least one project to build" errorStyle]
  else
    []) ++
  form.views.items.flatMap viewLines ++
  form.views.deleted.map deletedLine

/- The dialog that asks for the reason of a rejection. -/
def rejectLines (form : Form) : List Line :=
  if form.rejectDialog.visible then
    [] :: fieldLines "" "Reason of rejection"
      form.rejectDialog.reason none
  else
    []

/- The fields of the configuration itself. -/
def generalLines (form : Form) (width : Nat) : List Line :=
  let old (field : DiffField) := form.difference.oldText? field
  fieldLines "" "Project name" form.projectName none ++
  [plainLine "SCM" form.scm (old .scm)] ++
  (match form.scriptType with
  | none => []
  | some scriptType =>
      [plainLine "Script type" scriptType none]) ++
  wrappedLines width "Pre-build script" form.preScript
    (old .preScript) ++
  wrappedLines width "Post-build script" form.postScript
    (old .postScript) ++
  (if form.commentsEnabled then
    wrappedLines width "Comments" form.comments none
  else
    []) ++
  [plainLine "Version tag pattern" form.regExp (old .regExp)] ++
  triggerLines "Poll SCM" FieldPath.pollScmTrigger.elementName
    form.pollScmTrigger form.help (old .pollScmTrigger) ++
  triggerLines "Build periodically"
    FieldPath.buildPeriodicallyTrigger.elementName
    form.buildPeriodicallyTrigger form.help
    (old .buildPeriodicallyTrigger) ++
  [checkboxLine "Build on commit" form.buildOnCommitTrigger
      (old .buildOnCommitTrigger),
    checkboxLine "Clean workspace" form.cleanWorkspace
      (old .cleanWorkspace),
    checkboxLine "E-mail" form.emailEnabled none] ++
  fieldLines "" "Recipients" form.email (old .email) ++
  fieldLines "" "Configuration e-mail" form.configEmail
    (old .configEmail)

/-
  The lines of a form. Scripts and comments are wrapped to
  the width, but never to fewer than 20 columns.
-/
def formLines (form : Form) (width : Nat) : List Line :=
  headLines form ++ [[]] ++
  generalLines form (max width 20) ++
  machineLines form ++ [[]] ++
  projectLines form ++
  userLines form ++
  rejectLines form

end Screen

end BuildForm
