import BuildForm.Form.Field
import BuildForm.Form.Selection
import BuildForm.Record.Configuration

/-
  One "project to build" section of the page.

  Key definitions include:
    * `Credentials`
    * `Builder`
    * `View`
    * `View.blank`
    * `View.ofRecord`
    * `View.toRecord`
    * `View.addPath`
    * `View.setVersionFiles`
-/

namespace BuildForm

------------------------------------------------------------
-- Credentials
------------------------------------------------------------

/- A drop-down of credentials. -/
structure Credentials where
  options : List String := []
  selected : Option Nat := none
deriving DecidableEq, Repr, Inhabited

namespace Credentials

/- A drop-down in which the first option is selected. -/
def ofOptions (options : List String) : Credentials where
  options := options
  selected := if options.isEmpty then none else some 0

def value? (credentials : Credentials) : Option String :=
  credentials.selected.bind fun index =>
    credentials.options[index]?

/- Select an option; an unknown value changes nothing. -/
def select
    (credentials : Credentials)
    (value : String) : Bool × Credentials :=
  match credentials.options.idxOf? value with
  | some index =>
      (true, { credentials with selected := some index })
  | none => (false, credentials)

end Credentials

------------------------------------------------------------
-- Builders
------------------------------------------------------------

/- A builder and the configuration that may override its own. -/
structure Builder where
  id : BuilderId
  html : String
  otherConfig : Bool := false
  userConfig : Field :=
    { Field.blank .userConfig with visible := false }
deriving DecidableEq, Repr

namespace Builder

/-
  The checkbox of the override. Unchecking hides the input
  and clears it.
-/
def setOtherConfig
    (builder : Builder)
    (checked : Bool) : Builder :=
  { builder with
    otherConfig := checked
    userConfig :=
      { builder.userConfig with
        visible := checked
        value :=
          if checked then builder.userConfig.value else "" } }

/- Only a checked and non-empty override is kept. -/
def toRecord (builder : Builder) : BuilderRecord where
  userConfig :=
    if builder.otherConfig ∧ builder.userConfig.value ≠ "" then
      some builder.userConfig.value
    else
      none

/- The builder of a stored record. -/
def ofRecord
    (id : BuilderId)
    (record : BuilderRecord) : Builder :=
  let builder : Builder := { id, html := "" }
  match record.userConfig with
  | none => builder
  | some value =>
      let shown := builder.setOtherConfig true
      { shown with
        userConfig := shown.userConfig.setValue value }

end Builder

------------------------------------------------------------
-- Views
------------------------------------------------------------

/- A project view. -/
structure View where
  id : ViewId
  html : String
  localDirectoryPath : Field := Field.blank .localDirectory
  projectUrl : Field := Field.blank .url
  branchName : Field := Field.blank .free
  fileToBuild : Field := Field.blank .fileToBuild
  pathToArtifacts : Field := Field.blank .artifact
  artifacts : SelectionBox
  versionFilesEnabled : Bool := false
  versionFilesPath : Field :=
    { Field.blank .versionFile with visible := false }
  versionFiles : SelectionBox
  credentials : Credentials
  builders : List Builder := []
  nextBuilder : UInt32 := 0
deriving DecidableEq, Repr

namespace View

/- A fresh view, its version files switched off. -/
def blank
    (id : ViewId)
    (html : String)
    (credentials : List String) : View where
  id := id
  html := html
  artifacts := .blank id .artifacts
  versionFiles :=
    { SelectionBox.blank id .versionFiles with
      visible := false }
  credentials := .ofOptions credentials

------------------------------------------------------------
-- Builders of a View
------------------------------------------------------------

def builder? (view : View) (id : BuilderId) : Option Builder :=
  view.builders.find? fun builder => builder.id = id

/- Append a builder; its identity is returned. -/
def pushBuilder
    (view : View)
    (html : String) : BuilderId × View :=
  let id : BuilderId := ⟨view.nextBuilder⟩
  (id,
    { view with
      builders := view.builders ++ [{ id, html }]
      nextBuilder := view.nextBuilder + 1 })

/- Remove a builder; the flag tells whether there was one. -/
def removeBuilder
    (view : View)
    (id : BuilderId) : Bool × View :=
  (view.builders.any fun builder => builder.id = id,
    { view with
      builders :=
        view.builders.filter fun builder => builder.id ≠ id })

/- Change the builder with an identity in its place. -/
def mapBuilder
    (view : View)
    (id : BuilderId)
    (change : Builder → Builder) : View :=
  { view with
    builders := view.builders.map fun builder =>
      if builder.id = id then change builder else builder }

------------------------------------------------------------
-- Inputs of a View
------------------------------------------------------------

/- The input with a name; not every name is one. -/
def field? (view : View) : ViewField → Option Field
  | .localDirectoryPath => some view.localDirectoryPath
  | .projectUrl => some view.projectUrl
  | .branchName => some view.branchName
  | .fileToBuild => some view.fileToBuild
  | .pathToArtifacts => some view.pathToArtifacts
  | .versionFilesPath => some view.versionFilesPath
  | .credentials => none
  | .userConfig => none

/- Change the input with a name, if there is one. -/
def mapField
    (view : View)
    (name : ViewField)
    (change : Field → Field) : View :=
  match name with
  | .localDirectoryPath =>
      { view with
        localDirectoryPath := change view.localDirectoryPath }
  | .projectUrl =>
      { view with projectUrl := change view.projectUrl }
  | .branchName =>
      { view with branchName := change view.branchName }
  | .fileToBuild =>
      { view with fileToBuild := change view.fileToBuild }
  | .pathToArtifacts =>
      { view with
        pathToArtifacts := change view.pathToArtifacts }
  | .versionFilesPath =>
      { view with
        versionFilesPath := change view.versionFilesPath }
  | .credentials => view
  | .userConfig => view

/- The box of a kind. -/
def box (view : View) : SelectionKind → SelectionBox
  | .artifacts => view.artifacts
  | .versionFiles => view.versionFiles

def setBox
    (view : View)
    (kind : SelectionKind)
    (box : SelectionBox) : View :=
  match kind with
  | .artifacts => { view with artifacts := box }
  | .versionFiles => { view with versionFiles := box }

/- The input whose text is added to the box of a kind. -/
def pathInput (view : View) : SelectionKind → Field
  | .artifacts => view.pathToArtifacts
  | .versionFiles => view.versionFilesPath

/-
  Move the typed path into its box. The input is cleared only
  if the box takes the path.
-/
def addPath
    (view : View)
    (kind : SelectionKind) : Except FormError Unit × View :=
  let (result, box) :=
    (view.box kind).add (view.pathInput kind).value
  let view := view.setBox kind box
  match result with
  | .ok () => (.ok (), view.mapField kind.inputField Field.clear)
  | .error error => (.error error, view)

/-
  The checkbox of the version files: either way their input
  and their box start over empty.
-/
def setVersionFiles (view : View) (enabled : Bool) : View :=
  { view with
    versionFilesEnabled := enabled
    versionFilesPath :=
      { view.versionFilesPath with
        visible := enabled
        value := ""
        fault := none }
    versionFiles := view.versionFiles.setEnabled enabled }

/- Run the rule of every path input and every override. -/
def revalidate (view : View) : View :=
  { view with
    localDirectoryPath := view.localDirectoryPath.blur
    projectUrl := view.projectUrl.blur
    fileToBuild := view.fileToBuild.blur
    pathToArtifacts := view.pathToArtifacts.blur
    versionFilesPath := view.versionFilesPath.blur
    builders := view.builders.map fun builder =>
      { builder with userConfig := builder.userConfig.blur } }

------------------------------------------------------------
-- Records
------------------------------------------------------------

/- The builders of stored records, numbered from an ordinal. -/
def buildersOf :
    UInt32 → List BuilderRecord → List Builder
  | _, [] => []
  | ordinal, record :: rest =>
      Builder.ofRecord ⟨ordinal⟩ record ::
        buildersOf (ordinal + 1) rest

/-
  The view of a stored record. Stored version files switch
  their section on, and stored credentials are selected if
  they are offered.
-/
def ofRecord
    (id : ViewId)
    (html : String)
    (credentials : List String)
    (record : ViewRecord) : View :=
  let view := blank id html credentials
  let hasVersionFiles := !record.versionFiles.isEmpty
  { view with
    localDirectoryPath :=
      view.localDirectoryPath.setValue record.localDirectoryPath
    projectUrl := view.projectUrl.setValue record.projectUrl
    branchName := view.branchName.setValue record.branchName
    fileToBuild := view.fileToBuild.setValue record.fileToBuild
    artifacts := .ofEntries id .artifacts record.artifacts
    versionFilesEnabled := hasVersionFiles
    versionFilesPath :=
      { view.versionFilesPath with visible := hasVersionFiles }
    versionFiles :=
      if hasVersionFiles then
        .ofEntries id .versionFiles record.versionFiles
      else
        view.versionFiles
    credentials :=
      match record.credentials with
      | none => view.credentials
      | some value => (view.credentials.select value).2
    builders := buildersOf 0 record.builders
    nextBuilder := UInt32.ofNat record.builders.length }

/- The record of a view as it stands. -/
def toRecord (view : View) : ViewRecord where
  localDirectoryPath := view.localDirectoryPath.value
  projectUrl := view.projectUrl.value
  branchName := view.branchName.value
  fileToBuild := view.fileToBuild.value
  artifacts := view.artifacts.options
  versionFiles := view.versionFiles.options
  credentials := view.credentials.value?
  builders := view.builders.map Builder.toRecord

end View

end BuildForm
