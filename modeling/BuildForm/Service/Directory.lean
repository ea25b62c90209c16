import BuildForm.Document.Basic
import BuildForm.Document.Records
import BuildForm.Schedule.Basic
import BuildForm.Service.Request
import BuildForm.Service.Tree

/-
  The configuration service over a directory tree.

  The root holds the documents `defaults`, `users` and
  `help`, and a directory for each configuration. That holds
  the live record in `config`, and the last approved copy in
  `diff/config`.

  Key definitions include:
    * `Directory`
    * `Directory.find?`
    * `Directory.live`
    * `Directory.approved`
    * `Directory.update`
    * `Directory.submit`
    * `Directory.service`
-/

namespace BuildForm

/-
  What the service knows besides the tree: the path of the
  root, the current user, the administrators, and the format
  of documents that do not exist yet.
-/
structure Directory where
  root : String
  user : String := "anonymous"
  administrators : List String := []
  format : Format := .json
deriving DecidableEq, Repr

namespace Directory

------------------------------------------------------------
-- Documents
------------------------------------------------------------

/- A document: its directory, its stem and its format. -/
structure Location where
  folder : List String
  stem : String
  format : Format
deriving DecidableEq, Repr

namespace Location

def fileName (location : Location) : String :=
  location.stem ++ "." ++ location.format.extension

def path (location : Location) : List String :=
  location.folder ++ [location.fileName]

end Location

/- A path below the root as it is shown. -/
def display
    (directory : Directory)
    (path : List String) : String :=
  Text.join "/" (directory.root :: path)

/- The first document of a stem in the order of formats. -/
def find?
    (tree : Tree)
    (folder : List String)
    (stem : String) : Option Location :=
  (Format.available.map fun format =>
    { folder, stem, format : Location }).find? fun location =>
      tree.isFile location.path

/- The record of a document. -/
def read
    {α : Type}
    (directory : Directory)
    (ofValue? : Value → Option α)
    (tree : Tree)
    (location : Location) : Except ServiceError α :=
  let shown := directory.display location.path
  match tree.read? location.path with
  | some (.text text) =>
      (Document.readAs ofValue? location.format text).mapError
        (.badDocument shown)
  | _ => .error (.inaccessible shown .notText)

/- The record of a document that may be missing. -/
def readOptional
    {α : Type}
    (directory : Directory)
    (ofValue? : Value → Option α)
    (tree : Tree)
    (folder : List String)
    (stem : String) : Except ServiceError (Option α) :=
  match find? tree folder stem with
  | none => .ok none
  | some location =>
      (directory.read ofValue? tree location).map some

/- A record of the root, or the default one. -/
def readRoot
    {α : Type}
    (directory : Directory)
    (ofValue? : Value → Option α)
    (missing : α)
    (tree : Tree)
    (stem : String) : Except ServiceError α :=
  (directory.readOptional ofValue? tree [] stem).map
    (·.getD missing)

------------------------------------------------------------
-- Configurations
------------------------------------------------------------

def configStem : String := "config"

def approvedFolder : String := "diff"

/-
  The directory of a configuration. Only a project name
  stands for one, so that no name leads out of the root.
-/
def folderOf (name : String) :
    Except ServiceError (List String) :=
  match FieldKind.projectName.fault? name with
  | some fault => .error (.refused (.badName name fault))
  | none => .ok [name]

/- The live record of a configuration, if there is one. -/
def live?
    (directory : Directory)
    (tree : Tree)
    (name : String) :
    Except ServiceError (Option Configuration) := do
  let folder ← folderOf name
  directory.readOptional Configuration.ofValue? tree folder
    configStem

/- The live record of a configuration. -/
def live
    (directory : Directory)
    (tree : Tree)
    (name : String) : Except ServiceError Configuration := do
  match ← directory.live? tree name with
  | some config => .ok config
  | none => .error (.notFound name)

/- The last approved record of a configuration. -/
def approved
    (directory : Directory)
    (tree : Tree)
    (name : String) :
    Except ServiceError (Option Configuration) := do
  let folder ← folderOf name
  directory.readOptional Configuration.ofValue? tree
    (folder ++ [approvedFolder]) configStem

/- Whether no configuration has the name. -/
def isNameFree (tree : Tree) (name : String) :
    Except ServiceError Bool := do
  let folder ← folderOf name
  return (find? tree folder configStem).isNone

def defaults
    (directory : Directory)
    (tree : Tree) : Except ServiceError NewDefaults :=
  directory.readRoot NewDefaults.ofValue? {} tree "defaults"

/- A text of a root document, by its key. -/
def textOf?
    (directory : Directory)
    (tree : Tree)
    (stem key : String) :
    Except ServiceError (Option String) :=
  (directory.readRoot Table.ofTexts? Table.empty tree stem).map
    (·.find? key)

------------------------------------------------------------
-- Markup
------------------------------------------------------------

/- One element a view, numbered from zero. -/
def viewsMarkup (name : String) (count : Nat) : String :=
  String.join ((List.range count).map fun index =>
    "<div name=\"" ++ name ++ "\" id=\"" ++ name ++ "_" ++
      String.ofList (Text.digits index) ++ "\"></div>")

def usersMarkup (users : List String) : String :=
  String.join (users.map fun user =>
    "<div class=\"userDiv\"><input name=\"userName\" " ++
      "value=\"" ++ user ++ "\"/></div>")

/- The views of a configuration with the credentials offered. -/
def views
    (directory : Directory)
    (tree : Tree)
    (name : String) : Except ServiceError LoadedViews := do
  let config ← directory.live tree name
  let defaults ← directory.defaults tree
  return {
    html := viewsMarkup "projectToBuild" config.views.length
    credentials := defaults.credentials
    views := config.views }

/- The approved views that the live record no longer has. -/
def deletedViews
    (directory : Directory)
    (tree : Tree)
    (name : String) : Except ServiceError LoadedViews := do
  let draft ← directory.live tree name
  match ← directory.approved tree name with
  | none => return {}
  | some approved =>
      let deleted := approved.views.filter fun old =>
        !draft.views.any fun view => view.sameSource old
      return {
        html :=
          viewsMarkup "projectToBuildDeleted" deleted.length
        views := deleted }

def users
    (directory : Directory)
    (tree : Tree)
    (name : String) : Except ServiceError LoadedUsers := do
  let config ← directory.live tree name
  return {
    html := usersMarkup config.users
    users := config.users }

------------------------------------------------------------
-- Submitting
------------------------------------------------------------

/-
  Store a record as the document of a folder: in the place of
  the one that is there, or in the format for new ones.
-/
def store
    (directory : Directory)
    (tree : Tree)
    (folder : List String)
    (record : Configuration) : Except ServiceError Tree :=
  let location :=
    (find? tree folder configStem).getD
      { folder, stem := configStem, format := directory.format }
  let shown := directory.display location.path
  match Document.renderRecord location.format true
      record.toValue with
  | .error fault => .error (.badDocument shown fault)
  | .ok text =>
      match tree.write (.text text) folder
          location.fileName with
      | .ok changed => .ok changed
      | .error .parent =>
          .error (.inaccessible (directory.display folder)
            .notDirectory)
      | .error .isDirectory =>
          .error (.inaccessible shown .isDirectory)

/-
  What a submission stores: the record of the live document
  and, for an approval, that of the approved copy as well.
-/
structure Update where
  liveRecord : Configuration
  approvedRecord : Option Configuration := none
deriving DecidableEq, Repr

/-
  The update that a submission makes to the record there was
  before. A new record belongs to the current user and an
  edited one to its creator; a rejection changes only the
  standing and the reason of the record that is there.
-/
def update
    (directory : Directory)
    (submission : Submission)
    (previous : Option Configuration) :
    Except ServiceError Update :=
  let record := submission.configuration
  let name := record.projectName
  match submission.formType, previous with
  | .create, some _ => .error (.refused (.nameTaken name))
  | .create, none =>
      .ok
        { liveRecord :=
            { record with
              standing := .new
              creator := some directory.user
              rejectionReason := "" } }
  | .edit, some before =>
      .ok
        { liveRecord :=
            { record with
              standing := .updated
              creator := before.creator
              rejectionReason := "" } }
  | .approved, some _ =>
      let accepted :=
        { record with
          standing := .approved
          rejectionReason := "" }
      .ok
        { liveRecord := accepted
          approvedRecord := some accepted }
  | .reject, some before =>
      .ok
        { liveRecord :=
            { before with
              standing := .rejected
              rejectionReason := submission.rejectionReason } }
  | .edit, none | .approved, none | .reject, none =>
      .error (.notFound name)
  | .view, _ | .approveReject, _ =>
      .error (.refused (.unsubmittable submission.formType))

/-
  Store the records of an update, the approved copy first. A
  copy that was stored stays if the live record cannot be.
-/
def apply
    (directory : Directory)
    (tree : Tree)
    (folder : List String)
    (update : Update) : Except ServiceError Unit × Tree :=
  let afterCopy : Except ServiceError Tree :=
    match update.approvedRecord with
    | none => .ok tree
    | some record =>
        directory.store tree (folder ++ [approvedFolder]) record
  match afterCopy with
  | .error error => (.error error, tree)
  | .ok tree =>
      match directory.store tree folder update.liveRecord with
      | .error error => (.error error, tree)
      | .ok tree => (.ok (), tree)

/- The update of a submission, and the folder that it is for. -/
def updateOf
    (directory : Directory)
    (tree : Tree)
    (submission : Submission) :
    Except ServiceError (List String × Update) := do
  let name := submission.configuration.projectName
  if name = "" then
    throw (.refused .namelessRecord)
  let folder ← folderOf name
  let previous ← directory.live? tree name
  let update ← directory.update submission previous
  return (folder, update)

/- The answer to a submission and the tree after it. -/
def submit
    (directory : Directory)
    (tree : Tree)
    (submission : Submission) :
    Except ServiceError Unit × Tree :=
  match directory.updateOf tree submission with
  | .error error => (.error error, tree)
  | .ok (folder, update) => directory.apply tree folder update

------------------------------------------------------------
-- The Service
------------------------------------------------------------

/- The answer to a request. -/
def answer
    (directory : Directory)
    (tree : Tree) :
    (request : Request) → Except ServiceError request.Answer
  | .newDefaults => directory.defaults tree
  | .configuration name => directory.live tree name
  | .approved name => directory.approved tree name
  | .isAdministrator =>
      .ok (directory.administrators.contains directory.user)
  | .fullName user =>
      (directory.textOf? tree "users" user).map (·.getD user)
  | .views name => directory.views tree name
  | .deletedViews name => directory.deletedViews tree name
  | .users name => directory.users tree name
  | .freshView =>
      (directory.defaults tree).map fun defaults =>
        { html := "<div name=\"projectToBuild\"></div>"
          credentials := defaults.credentials }
  | .freshBuilder =>
      .ok { html := "<div name=\"builders\"></div>" }
  | .freshUser =>
      .ok
        { html :=
            "<div class=\"userDiv\">" ++
            "<input name=\"userName\"/></div>" }
  | .isNameFree name => isNameFree tree name
  | .help field =>
      (directory.textOf? tree "help" field).map (·.getD "")
  | .judgeTrigger expression =>
      .ok (Schedule.describe expression)
  | .submit submission => (directory.submit tree submission).1

/- The tree after a request: only a submission changes it. -/
def afterwards
    (directory : Directory)
    (tree : Tree) : Request → Tree
  | .submit submission => (directory.submit tree submission).2
  | _ => tree

/- The service, whose state is the tree. -/
def service (directory : Directory) : Service Tree :=
  fun request tree =>
    (directory.answer tree request,
      directory.afterwards tree request)

end Directory

end BuildForm
