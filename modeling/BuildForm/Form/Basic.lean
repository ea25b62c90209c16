import BuildForm.Form.Difference
import BuildForm.Form.Machines
import BuildForm.Form.Users
import BuildForm.Form.Views

/-
  The whole form of a page: everything that is shown, checked
  and submitted.

  Key definitions include:
    * `Trigger`
    * `Chrome`
    * `RejectDialog`
    * `HelpPanel`
    * `Form`
    * `Form.blank`
    * `Form.field?`
    * `Form.mapField`
    * `Form.edit`
    * `Form.applyConfiguration`
    * `Form.toConfiguration`
    * `Form.toSubmission`
-/

namespace BuildForm

------------------------------------------------------------
-- Parts of the Form
------------------------------------------------------------

/- A schedule input and the last verdict on it. -/
structure Trigger where
  field : Field := Field.blank .trigger
  check : Option TriggerCheck := none
deriving DecidableEq, Repr, Inhabited

/- Whether the last verdict was that the schedule is invalid. -/
def Trigger.isError (trigger : Trigger) : Bool :=
  trigger.check.any fun check => !check.valid

/- Titles and buttons around the form. -/
structure Chrome where
  title : String := "Build configuration"
  saveLabel : String := "Save"
  saveVisible : Bool := true
  rejectVisible : Bool := false
  readOnlyBanner : Bool := false
deriving DecidableEq, Repr, Inhabited

/- The titles and buttons of each mode. -/
def Chrome.ofMode : PageMode → Chrome
  | .create => { title := "Create build configuration" }
  | .edit => { title := "Edit build configuration" }
  | .view => { saveVisible := false, readOnlyBanner := true }
  | .approveReject =>
      { title := "Approve/reject build configuration"
        saveLabel := "Approve"
        rejectVisible := true }

/- The dialog that asks for the reason of a rejection. -/
structure RejectDialog where
  visible : Bool := false
  reason : Field := Field.blank .free
deriving DecidableEq, Repr, Inhabited

/- The help blocks that are open, and the trigger help shown. -/
structure HelpPanel where
  blocks : List String := []
  triggers : Table String := Table.empty
deriving DecidableEq, Repr, Inhabited

namespace HelpPanel

def isOpen (help : HelpPanel) (name : String) : Bool :=
  help.blocks.contains name

/- Open or close a block; the flag tells whether it is open. -/
def toggle
    (help : HelpPanel)
    (name : String) : Bool × HelpPanel :=
  if help.isOpen name then
    (false,
      { help with
        blocks := help.blocks.filter (· ≠ name) })
  else
    (true, { help with blocks := help.blocks ++ [name] })

/- The help shown for a trigger. -/
def triggerText? (help : HelpPanel) (name : String) :
    Option String :=
  help.triggers.find? name

def showTrigger
    (help : HelpPanel)
    (name message : String) : HelpPanel :=
  { help with triggers := help.triggers.put name message }

def hideTrigger
    (help : HelpPanel)
    (name : String) : HelpPanel :=
  { help with triggers := help.triggers.erase name }

end HelpPanel

------------------------------------------------------------
-- The Form
------------------------------------------------------------

/- The form. Checking and showing read nothing else. -/
structure Form where
  mode : PageMode
  formType : FormType
  formResult : Option FormResult := none
  projectName : Field := Field.blank .projectName
  nameLocked : Bool
  scm : String := ""
  scriptType : Option String := none
  preScript : String := ""
  postScript : String := ""
  commentsEnabled : Bool
  comments : String := ""
  regExp : String := ""
  pollScmTrigger : Trigger := {}
  buildPeriodicallyTrigger : Trigger := {}
  buildOnCommitTrigger : Bool := true
  emailEnabled : Bool := false
  email : Field :=
    { Field.blank .email with enabled := false }
  configEmail : Field := Field.blank .email
  cleanWorkspace : Bool := true
  machines : Machines := {}
  views : Views := {}
  users : Users := {}
  addUser : Field := Field.blank .free
  rejectionReason : String := ""
  rejectDialog : RejectDialog := {}
  addViewPrompt : Bool := false
  formMessage : Option String := none
  reasonLabel : Option String := none
  creatorLabel : Option String := none
  creator : Option String := none
  standing : Standing := .new
  difference : Difference := {}
  chrome : Chrome
  help : HelpPanel := {}
  focus : Option FieldPath := none
  isAdmin : Bool := false
deriving DecidableEq, Repr

namespace Form

/- The form of a page before anything is loaded. -/
def blank (mode : PageMode) : Form where
  mode := mode
  formType := mode.formType
  nameLocked := mode ≠ .create
  commentsEnabled := mode ≠ .create
  chrome := Chrome.ofMode mode

/- The source control that the form names. -/
def scmKind (form : Form) : Scm :=
  Scm.ofLabel form.scm

def focusOn (form : Form) (path : FieldPath) : Form :=
  { form with focus := some path }

------------------------------------------------------------
-- Inputs by Address
------------------------------------------------------------

/- The trigger at an address. -/
def trigger? (form : Form) : FieldPath → Option Trigger
  | .pollScmTrigger => some form.pollScmTrigger
  | .buildPeriodicallyTrigger =>
      some form.buildPeriodicallyTrigger
  | _ => none

/- Change the trigger at an address, if there is one. -/
def mapTrigger
    (form : Form)
    (path : FieldPath)
    (change : Trigger → Trigger) : Form :=
  match path with
  | .pollScmTrigger =>
      { form with
        pollScmTrigger := change form.pollScmTrigger }
  | .buildPeriodicallyTrigger =>
      { form with
        buildPeriodicallyTrigger :=
          change form.buildPeriodicallyTrigger }
  | _ => form

/- The input at an address. -/
def field? (form : Form) : FieldPath → Option Field
  | .projectName => some form.projectName
  | .email => some form.email
  | .configEmail => some form.configEmail
  | .pollScmTrigger => some form.pollScmTrigger.field
  | .buildPeriodicallyTrigger =>
      some form.buildPeriodicallyTrigger.field
  | .rejectionReason => some form.rejectDialog.reason
  | .addUser => some form.addUser
  | .view id field =>
      (form.views.view? id).bind (·.field? field)
  | .builder id builder =>
      ((form.views.view? id).bind
        (·.builder? builder)).map Builder.userConfig

/- Change the input at an address, if there is one. -/
def mapField
    (form : Form)
    (path : FieldPath)
    (change : Field → Field) : Form :=
  match path with
  | .projectName =>
      { form with projectName := change form.projectName }
  | .email => { form with email := change form.email }
  | .configEmail =>
      { form with configEmail := change form.configEmail }
  | .pollScmTrigger | .buildPeriodicallyTrigger =>
      form.mapTrigger path fun trigger =>
        { trigger with field := change trigger.field }
  | .rejectionReason =>
      { form with
        rejectDialog :=
          { form.rejectDialog with
            reason := change form.rejectDialog.reason } }
  | .addUser => { form with addUser := change form.addUser }
  | .view id field =>
      { form with
        views := form.views.modify id fun view =>
          view.mapField field change }
  | .builder id builder =>
      { form with
        views := form.views.modify id fun view =>
          view.mapBuilder builder fun entry =>
            { entry with
              userConfig := change entry.userConfig } }

/- Whether the mode lets the user type into an input. -/
def isEditable (form : Form) : FieldPath → Bool
  | .rejectionReason => form.mode = .approveReject
  | _ => form.mode.isMutable

/-
  What typing into an input undoes: the message of the form
  for the project name, the verdict for a trigger.
-/
def forget (form : Form) (path : FieldPath) : Form :=
  let form :=
    if path = .projectName then
      { form with formMessage := none }
    else
      form
  form.mapTrigger path fun trigger =>
    { trigger with check := none }

/-
  Type a value into an input. With `validate` set its rule is
  run, and the flag is the verdict.
-/
def edit
    (form : Form)
    (path : FieldPath)
    (value : String)
    (validate : Bool) : Except FormError Bool × Form :=
  if !form.isEditable path then
    (.error .readOnly, form)
  else if path = .projectName ∧ form.nameLocked then
    (.error .readOnly, form)
  else
    let form := form.forget path
    match form.field? path with
    | none => (.error (.invalid path .noSuchField), form)
    | some field =>
        if !field.enabled then
          (.error .readOnly, form)
        else
          let typed := field.setValue value
          let left := if validate then typed.blur else typed
          (.ok (!validate || left.passes),
            form.mapField path fun _ => left)

------------------------------------------------------------
-- Checkboxes
------------------------------------------------------------

/- Switch the e-mail input on, or off and empty. -/
def showEmail (form : Form) (enabled : Bool) : Form :=
  { form with
    emailEnabled := enabled
    email :=
      if enabled then
        { form.email with enabled := true }
      else
        { form.email with
          enabled := false
          value := ""
          fault := none } }

/- The e-mail checkbox; the flag tells whether it was free. -/
def setEmailEnabled
    (form : Form)
    (enabled : Bool) : Bool × Form :=
  if form.mode.isMutable then
    (true, form.showEmail enabled)
  else
    (false, form)

/- The comments checkbox; unchecking clears the comments. -/
def setCommentsEnabled
    (form : Form)
    (enabled : Bool) : Bool × Form :=
  if form.mode.isMutable then
    (true,
      { form with
        commentsEnabled := enabled
        comments := if enabled then form.comments else "" })
  else
    (false, form)

/- The checkbox of a machine. -/
def toggleMachine
    (form : Form)
    (node : String)
    (checked : Bool) : Bool × Form :=
  if form.mode.isMutable then
    (true,
      { form with
        machines := form.machines.toggle node checked })
  else
    (false, form)

------------------------------------------------------------
-- Loading and Saving
------------------------------------------------------------

/-
  Copy a stored configuration into the form, its views and
  users aside. A missing reason or e-mail address leaves what
  is shown, and only a workspace that is stored as not to be
  cleaned unchecks its box.
-/
def applyConfiguration
    (form : Form)
    (config : Configuration) : Form :=
  let withEmail :=
    match config.email with
    | none => form
    | some address =>
        if address = "" then
          form
        else
          let shown := form.showEmail true
          { shown with email := shown.email.setValue address }
  { withEmail with
    projectName := form.projectName.setValue config.projectName
    scm := config.scm.getD ""
    scriptType := config.scriptType
    preScript := config.preScript.getD ""
    postScript := config.postScript.getD ""
    comments := config.comments.getD ""
    regExp := config.regExp.getD ""
    pollScmTrigger :=
      { form.pollScmTrigger with
        field := form.pollScmTrigger.field.setValue
          (config.pollScmTrigger.getD "") }
    buildPeriodicallyTrigger :=
      { form.buildPeriodicallyTrigger with
        field := form.buildPeriodicallyTrigger.field.setValue
          (config.buildPeriodicallyTrigger.getD "") }
    reasonLabel :=
      if config.rejectionReason = "" then
        form.reasonLabel
      else
        some ("Reason of rejection:  " ++
          config.rejectionReason)
    machines := form.machines.load config.buildMachines
    configEmail := form.configEmail.setValue
      (config.configEmail.getD "")
    cleanWorkspace :=
      if config.cleanWorkspace = some false then
        false
      else
        form.cleanWorkspace
    buildOnCommitTrigger :=
      config.buildOnCommitTrigger.getD true
    creator := config.creator
    standing := config.standing
    rejectionReason := config.rejectionReason }

def setCreatorName (form : Form) (fullName : String) : Form :=
  { form with
    creatorLabel := some ("Created by:  " ++ fullName) }

/- A text, or nothing in the place of an empty one. -/
def textOrNone (value : String) : Option String :=
  if value = "" then none else some value

/- The form as a configuration. -/
def toConfiguration (form : Form) : Configuration where
  projectName := form.projectName.value
  scm := textOrNone form.scm
  scriptType := form.scriptType
  preScript := textOrNone form.preScript
  postScript := textOrNone form.postScript
  comments :=
    if form.commentsEnabled then
      textOrNone form.comments
    else
      none
  regExp := textOrNone form.regExp
  pollScmTrigger := textOrNone form.pollScmTrigger.field.value
  buildPeriodicallyTrigger :=
    textOrNone form.buildPeriodicallyTrigger.field.value
  buildOnCommitTrigger := some form.buildOnCommitTrigger
  email :=
    some (if form.emailEnabled then form.email.value else "")
  configEmail := textOrNone form.configEmail.value
  cleanWorkspace := some form.cleanWorkspace
  buildMachines := form.machines.nodes
  users := form.users.names
  views := form.views.records
  standing := form.standing
  rejectionReason := form.rejectionReason
  creator := form.creator

/- The hidden inputs of a view with their element names. -/
def hiddenFieldsOf (view : View) : List (String × String) :=
  [SelectionKind.artifacts, .versionFiles].map fun kind =>
    (view.id.domId ++ "/" ++ kind.hiddenName,
      (view.box kind).hidden.raw)

/- The raw strings of all hidden inputs. -/
def hiddenFields (form : Form) : Table String :=
  Table.ofList
    (("build_machine_configuration",
        form.machines.hidden.raw) ::
      form.views.items.flatMap hiddenFieldsOf)

/- What the form hands to the service. -/
def toSubmission (form : Form) : Submission where
  formType := form.formType
  rejectionReason := form.rejectionReason
  formResult := form.formResult
  configuration := form.toConfiguration
  hiddenFields := form.hiddenFields

end Form

end BuildForm
