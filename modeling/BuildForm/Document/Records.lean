import BuildForm.Document.Value
import BuildForm.Record.Configuration

/-
  Records as document values, and the values that are read
  as records.

  A record is read from a table of its fields or from a list
  of their values in declaration order. Unknown fields are
  ignored, and no value is converted to another type.

  Key definitions include:
    * `Value.labelled?`
    * `Value.field?`
    * `ViewRecord.toValue` and `ViewRecord.ofValue?`
    * `Configuration.toValue` and `Configuration.ofValue?`
    * `NewDefaults.toValue` and `NewDefaults.ofValue?`
    * `Submission.toValue` and `Submission.ofValue?`
-/

namespace BuildForm

------------------------------------------------------------
-- Reading Parts
------------------------------------------------------------

namespace Value

variable {α : Type}

def asText? : Value → Option String
  | .text value => some value
  | _ => none

def asFlag? : Value → Option Bool
  | .flag value => some value
  | _ => none

/- A list whose items can all be read. -/
def asList?
    (read? : Value → Option α) : Value → Option (List α)
  | .list items => items.mapM read?
  | _ => none

/- Entries whose values can all be read. -/
def readEntries?
    (read? : Value → Option α) :
    List (String × Value) → Option (List (String × α))
  | [] => some []
  | (key, value) :: rest => do
      let item ← read? value
      let items ← readEntries? read? rest
      some ((key, item) :: items)

/- A table whose values can all be read. -/
def asTable?
    (read? : Value → Option α) : Value → Option (Table α)
  | .table fields =>
      (readEntries? read? fields).map Table.ofList
  | _ => none

/- Null or a value that can be read. -/
def orNull?
    (read? : Value → Option α) : Value → Option (Option α)
  | .null => some none
  | value => (read? value).map some

/- A label, alone or as the only key of a table over null. -/
def asLabel?
    (ofLabel? : String → Option α) : Value → Option α
  | .text label => ofLabel? label
  | .table [(label, .null)] => ofLabel? label
  | _ => none

/-
  The fields of a record with the given field names: those
  of a table, or the items of a list that is not too long.
-/
def labelled?
    (names : List String) :
    Value → Option (List (String × Value))
  | .table fields => some fields
  | .list items =>
      if items.length ≤ names.length then
        some (names.zip items)
      else
        none
  | _ => none

/- A field that may be missing. -/
def field?
    (fields : List (String × Value))
    (name : String)
    (missing : α)
    (read? : Value → Option α) : Option α :=
  match fields.lookup name with
  | none => some missing
  | some value => read? value

/- A field that has to be there. -/
def required?
    (fields : List (String × Value))
    (name : String)
    (read? : Value → Option α) : Option α :=
  (fields.lookup name).bind read?

/- Every value of a table written. -/
def ofTable (write : α → Value) (table : Table α) : Value :=
  .table (table.entries.map fun (key, item) =>
    (key, write item))

end Value

------------------------------------------------------------
-- Project Views
------------------------------------------------------------

namespace BuilderRecord

def toValue (builder : BuilderRecord) : Value :=
  .table [("userConfig", .textOrNull builder.userConfig)]

def ofValue? (value : Value) : Option BuilderRecord := do
  let fields ← value.labelled? ["userConfig"]
  let userConfig ←
    Value.field? fields "userConfig" none
      (Value.orNull? Value.asText?)
  some { userConfig }

end BuilderRecord

namespace ViewRecord

def fieldNames : List String :=
  ["localDirectoryPath", "projectUrl", "branchName",
   "fileToBuild", "artifacts", "versionFiles",
   "credentials", "builders"]

def toValue (view : ViewRecord) : Value :=
  .table
    [("localDirectoryPath", .text view.localDirectoryPath),
     ("projectUrl", .text view.projectUrl),
     ("branchName", .text view.branchName),
     ("fileToBuild", .text view.fileToBuild),
     ("artifacts", .texts view.artifacts),
     ("versionFiles", .texts view.versionFiles),
     ("credentials", .textOrNull view.credentials),
     ("builders",
       .list (view.builders.map BuilderRecord.toValue))]

def ofValue? (value : Value) : Option ViewRecord := do
  let fields ← value.labelled? fieldNames
  let text (name : String) :=
    Value.field? fields name "" Value.asText?
  let texts (name : String) :=
    Value.field? fields name [] (Value.asList? Value.asText?)
  let localDirectoryPath ← text "localDirectoryPath"
  let projectUrl ← text "projectUrl"
  let branchName ← text "branchName"
  let fileToBuild ← text "fileToBuild"
  let artifacts ← texts "artifacts"
  let versionFiles ← texts "versionFiles"
  let credentials ←
    Value.field? fields "credentials" none
      (Value.orNull? Value.asText?)
  let builders ←
    Value.field? fields "builders" []
      (Value.asList? BuilderRecord.ofValue?)
  some
    { localDirectoryPath, projectUrl, branchName,
      fileToBuild, artifacts, versionFiles, credentials,
      builders }

end ViewRecord

------------------------------------------------------------
-- Configurations
------------------------------------------------------------

namespace Configuration

def fieldNames : List String :=
  ["projectName", "scm", "scriptType", "preScript",
   "postScript", "comments", "regExp", "pollSCMTrigger",
   "buildPeriodicallyTrigger", "buildOnCommitTrigger",
   "email", "configEmail", "cleanWorkspace",
   "buildMachineConfiguration", "usersList",
   "projectToBuild", "state", "rejectionReason", "creator"]

def toValue (config : Configuration) : Value :=
  .table
    [("projectName", .text config.projectName),
     ("scm", .textOrNull config.scm),
     ("scriptType", .textOrNull config.scriptType),
     ("preScript", .textOrNull config.preScript),
     ("postScript", .textOrNull config.postScript),
     ("comments", .textOrNull config.comments),
     ("regExp", .textOrNull config.regExp),
     ("pollSCMTrigger", .textOrNull config.pollScmTrigger),
     ("buildPeriodicallyTrigger",
       .textOrNull config.buildPeriodicallyTrigger),
     ("buildOnCommitTrigger",
       .flagOrNull config.buildOnCommitTrigger),
     ("email", .textOrNull config.email),
     ("configEmail", .textOrNull config.configEmail),
     ("cleanWorkspace", .flagOrNull config.cleanWorkspace),
     ("buildMachineConfiguration",
       .ofTable .flag config.buildMachines),
     ("usersList", .texts config.users),
     ("projectToBuild",
       .list (config.views.map ViewRecord.toValue)),
     ("state", .text config.standing.label),
     ("rejectionReason", .text config.rejectionReason),
     ("creator", .textOrNull config.creator)]

def ofValue? (value : Value) : Option Configuration := do
  let fields ← value.labelled? fieldNames
  let text (name : String) :=
    Value.field? fields name "" Value.asText?
  let text? (name : String) :=
    Value.field? fields name none
      (Value.orNull? Value.asText?)
  let flag? (name : String) :=
    Value.field? fields name none
      (Value.orNull? Value.asFlag?)
  let projectName ← text "projectName"
  let scm ← text? "scm"
  let scriptType ← text? "scriptType"
  let preScript ← text? "preScript"
  let postScript ← text? "postScript"
  let comments ← text? "comments"
  let regExp ← text? "regExp"
  let pollScmTrigger ← text? "pollSCMTrigger"
  let buildPeriodicallyTrigger ←
    text? "buildPeriodicallyTrigger"
  let buildOnCommitTrigger ← flag? "buildOnCommitTrigger"
  let email ← text? "email"
  let configEmail ← text? "configEmail"
  let cleanWorkspace ← flag? "cleanWorkspace"
  let buildMachines ←
    Value.field? fields "buildMachineConfiguration"
      Table.empty (Value.asTable? Value.asFlag?)
  let users ←
    Value.field? fields "usersList" []
      (Value.asList? Value.asText?)
  let views ←
    Value.field? fields "projectToBuild" []
      (Value.asList? ViewRecord.ofValue?)
  let standing ←
    Value.field? fields "state" .new
      (Value.asLabel? Standing.ofLabel?)
  let rejectionReason ← text "rejectionReason"
  let creator ← text? "creator"
  some
    { projectName, scm, scriptType, preScript, postScript,
      comments, regExp, pollScmTrigger,
      buildPeriodicallyTrigger, buildOnCommitTrigger, email,
      configEmail, cleanWorkspace, buildMachines, users,
      views, standing, rejectionReason, creator }

end Configuration

------------------------------------------------------------
-- Defaults and Submissions
------------------------------------------------------------

namespace NewDefaults

def fieldNames : List String :=
  ["scm", "defaultCredentials", "credentials", "nodes"]

def toValue (defaults : NewDefaults) : Value :=
  .table
    [("scm", .textOrNull defaults.scm),
     ("defaultCredentials",
       .textOrNull defaults.defaultCredentials),
     ("credentials", .texts defaults.credentials),
     ("nodes", .texts defaults.nodes)]

def ofValue? (value : Value) : Option NewDefaults := do
  let fields ← value.labelled? fieldNames
  let text? (name : String) :=
    Value.field? fields name none
      (Value.orNull? Value.asText?)
  let texts (name : String) :=
    Value.field? fields name [] (Value.asList? Value.asText?)
  let scm ← text? "scm"
  let defaultCredentials ← text? "defaultCredentials"
  let credentials ← texts "credentials"
  let nodes ← texts "nodes"
  some { scm, defaultCredentials, credentials, nodes }

end NewDefaults

namespace Submission

def fieldNames : List String :=
  ["formType", "rejectionReason", "formResultHidden",
   "configuration", "hiddenFields"]

def toValue (submission : Submission) : Value :=
  .table
    [("formType", .text submission.formType.label),
     ("rejectionReason", .text submission.rejectionReason),
     ("formResultHidden",
       .textOrNull
         (submission.formResult.map FormResult.label)),
     ("configuration", submission.configuration.toValue),
     ("hiddenFields",
       .ofTable .text submission.hiddenFields)]

/- Of a submission only the form result may be missing. -/
def ofValue? (value : Value) : Option Submission := do
  let fields ← value.labelled? fieldNames
  let formType ←
    Value.required? fields "formType"
      (Value.asLabel? FormType.ofLabel?)
  let rejectionReason ←
    Value.required? fields "rejectionReason" Value.asText?
  let formResult ←
    Value.field? fields "formResultHidden" none
      (Value.orNull? (Value.asLabel? FormResult.ofLabel?))
  let configuration ←
    Value.required? fields "configuration"
      Configuration.ofValue?
  let hiddenFields ←
    Value.required? fields "hiddenFields"
      (Value.asTable? Value.asText?)
  some
    { formType, rejectionReason, formResult, configuration,
      hiddenFields }

end Submission

/- A table of texts from a document. -/
def Table.ofTexts? (value : Value) : Option (Table String) :=
  value.asTable? Value.asText?

end BuildForm
