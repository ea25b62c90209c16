import BuildForm.Text.Numeral
import BuildForm.Text.Search

/-
  The addresses of the inputs of a page and their element
  names.

  Key definitions include:
    * `ViewId`
    * `BuilderId`
    * `ViewField`
    * `FieldPath`
    * `FieldPath.elementName`
    * `FieldPath.parse?`
-/

namespace BuildForm

------------------------------------------------------------
-- Identities
------------------------------------------------------------

/-
  The identity of a project view. Its ordinal is given out
  once in a session and stays with the view.
-/
structure ViewId where
  ordinal : UInt32
deriving DecidableEq, Repr

namespace ViewId

def lead : String := "projectToBuild_"

/- The element id of a view. -/
def domId (id : ViewId) : String :=
  lead ++ String.ofList (Text.digits id.ordinal.toNat)

/- The view with an element id. -/
def ofDomId? (text : List Char) : Option ViewId := do
  let ordinal ← Text.dropLead? lead.toList text
  (Text.readWord? ordinal).map ViewId.mk

end ViewId

/- The identity of a builder within its view. -/
structure BuilderId where
  ordinal : UInt32
deriving DecidableEq, Repr

namespace BuilderId

def lead : String := "builders_"

/- The element id of a builder. -/
def domId (id : BuilderId) : String :=
  lead ++ String.ofList (Text.digits id.ordinal.toNat)

/- The builder with an element id. -/
def ofDomId? (text : List Char) : Option BuilderId := do
  let ordinal ← Text.dropLead? lead.toList text
  (Text.readWord? ordinal).map BuilderId.mk

end BuilderId

------------------------------------------------------------
-- Names of View Fields
------------------------------------------------------------

/- The names that address something inside a view. -/
inductive ViewField where
  | localDirectoryPath
  | projectUrl
  | branchName
  | fileToBuild
  | pathToArtifacts
  | versionFilesPath
  | credentials
  | userConfig
deriving DecidableEq, Repr

namespace ViewField

def all : List ViewField :=
  [.localDirectoryPath, .projectUrl, .branchName,
   .fileToBuild, .pathToArtifacts, .versionFilesPath,
   .credentials, .userConfig]

def name : ViewField → String
  | .localDirectoryPath => "localDirectoryPath"
  | .projectUrl => "projectUrl"
  | .branchName => "branchName"
  | .fileToBuild => "fileToBuild"
  | .pathToArtifacts => "pathToArtifacts"
  | .versionFilesPath => "versionFilesPath"
  | .credentials => "credentials"
  | .userConfig => "userConfig"

/- The view field with a name. -/
def ofName? (name : String) : Option ViewField :=
  all.find? fun field => field.name = name

end ViewField

------------------------------------------------------------
-- Field Paths
------------------------------------------------------------

/- The address of an input anywhere on the page. -/
inductive FieldPath where
  | projectName
  | email
  | configEmail
  | pollScmTrigger
  | buildPeriodicallyTrigger
  | rejectionReason
  | addUser
  | view (view : ViewId) (field : ViewField)
  | builder (view : ViewId) (builder : BuilderId)
deriving DecidableEq, Repr

namespace FieldPath

/- The inputs outside of the project views, by name. -/
def pageFields : List (String × FieldPath) :=
  [("projectName", .projectName),
   ("email", .email),
   ("configEmail", .configEmail),
   ("pollSCMTrigger", .pollScmTrigger),
   ("buildPeriodicallyTrigger", .buildPeriodicallyTrigger),
   ("textReject", .rejectionReason),
   ("addUserField", .addUser)]

/- The element name of an input. -/
def elementName : FieldPath → String
  | .projectName => "projectName"
  | .email => "email"
  | .configEmail => "configEmail"
  | .pollScmTrigger => "pollSCMTrigger"
  | .buildPeriodicallyTrigger => "buildPeriodicallyTrigger"
  | .rejectionReason => "textReject"
  | .addUser => "addUserField"
  | .view owner field => owner.domId ++ "/" ++ field.name
  | .builder owner id =>
      owner.domId ++ "/" ++ id.domId ++ "/userConfig"

/- The input with an element name. -/
def parse? (name : String) : Option FieldPath :=
  match pageFields.lookup name with
  | some path => some path
  | none =>
      match name.toList.splitOn '/' with
      | [owner, leaf] => do
          let owner ← ViewId.ofDomId? owner
          let field ← ViewField.ofName? (String.ofList leaf)
          some (.view owner field)
      | [owner, id, leaf] => do
          let owner ← ViewId.ofDomId? owner
          let id ← BuilderId.ofDomId? id
          if leaf = "userConfig".toList then
            some (.builder owner id)
          else
            none
      | _ => none

/- What is said of a name that addresses no input. -/
def unknownMessage (name : String) : String :=
  "unknown field '" ++ name ++ "'"

end FieldPath

end BuildForm
