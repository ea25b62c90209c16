import BuildForm.Record.Table
import BuildForm.Record.Mode

/-
  The records that pages and the configuration service
  exchange.

  Key definitions include:
    * `BuilderRecord`
    * `ViewRecord`
    * `ViewRecord.sameSource`
    * `Standing`
    * `Configuration`
    * `NewDefaults`
    * `Submission`
-/

namespace BuildForm

------------------------------------------------------------
-- Project Views
------------------------------------------------------------

/- A builder with the configuration that overrides its own. -/
structure BuilderRecord where
  userConfig : Option String := none
deriving DecidableEq, Repr, Inhabited

/- One project to build. -/
structure ViewRecord where
  localDirectoryPath : String := ""
  projectUrl : String := ""
  branchName : String := ""
  fileToBuild : String := ""
  artifacts : List String := []
  versionFiles : List String := []
  credentials : Option String := none
  builders : List BuilderRecord := []
deriving DecidableEq, Repr, Inhabited

namespace ViewRecord

/- Two views are the same project if source and folder are. -/
def sameSource (left right : ViewRecord) : Bool :=
  left.projectUrl = right.projectUrl &&
    left.localDirectoryPath = right.localDirectoryPath

end ViewRecord

------------------------------------------------------------
-- Configurations
------------------------------------------------------------

/- Where a stored configuration stands. -/
inductive Standing where
  | new
  | updated
  | approved
  | rejected
  | forDeletion
deriving DecidableEq, Repr, Inhabited

namespace Standing

def label : Standing → String
  | .new => "NEW"
  | .updated => "UPDATED"
  | .approved => "APPROVED"
  | .rejected => "REJECTED"
  | .forDeletion => "FOR_DELETION"

def all : List Standing :=
  [.new, .updated, .approved, .rejected, .forDeletion]

/- The standing with the given label. -/
def ofLabel? (label : String) : Option Standing :=
  all.find? fun standing => standing.label = label

end Standing

/- A build configuration. -/
structure Configuration where
  projectName : String := ""
  scm : Option String := none
  scriptType : Option String := none
  preScript : Option String := none
  postScript : Option String := none
  comments : Option String := none
  regExp : Option String := none
  pollScmTrigger : Option String := none
  buildPeriodicallyTrigger : Option String := none
  buildOnCommitTrigger : Option Bool := none
  email : Option String := none
  configEmail : Option String := none
  cleanWorkspace : Option Bool := none
  buildMachines : Table Bool := Table.empty
  users : List String := []
  views : List ViewRecord := []
  standing : Standing := .new
  rejectionReason : String := ""
  creator : Option String := none
deriving DecidableEq, Repr, Inhabited

namespace Configuration

def isApproved (config : Configuration) : Bool :=
  config.standing = .approved

end Configuration

------------------------------------------------------------
-- Defaults and Submissions
------------------------------------------------------------

/- What a new configuration starts from. -/
structure NewDefaults where
  scm : Option String := none
  defaultCredentials : Option String := none
  credentials : List String := []
  nodes : List String := []
deriving DecidableEq, Repr, Inhabited

/- What a page hands to the service. -/
structure Submission where
  formType : FormType
  rejectionReason : String
  formResult : Option FormResult
  configuration : Configuration
  hiddenFields : Table String
deriving DecidableEq, Repr

end BuildForm
