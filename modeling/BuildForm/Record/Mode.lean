import BuildForm.Text.Blank

/-
  The modes of a page, and the marks that a submission bears.

  Key definitions include:
    * `PageMode`
    * `PageMode.ofLabel?`
    * `PageMode.isMutable`
    * `FormType`
    * `FormType.label`
    * `FormResult`
    * `PageMode.formType`
-/

namespace BuildForm

------------------------------------------------------------
-- Submission Marks
------------------------------------------------------------

/- What a submission asks for. -/
inductive FormType where
  | create
  | edit
  | view
  | approveReject
  | approved
  | reject
deriving DecidableEq, Repr

namespace FormType

def label : FormType → String
  | .create => "CREATE"
  | .edit => "EDIT"
  | .view => "VIEW"
  | .approveReject => "APPROVEREJECT"
  | .approved => "APPROVED"
  | .reject => "REJECT"

def all : List FormType :=
  [.create, .edit, .view, .approveReject, .approved, .reject]

/- The form type with the given label. -/
def ofLabel? (label : String) : Option FormType :=
  all.find? fun type => type.label = label

end FormType

/- Which way the page takes after a submission. -/
inductive FormResult where
  | create
  | other
deriving DecidableEq, Repr

namespace FormResult

def label : FormResult → String
  | .create => "create"
  | .other => "other"

/- The form result with the given label. -/
def ofLabel? (label : String) : Option FormResult :=
  [FormResult.create, .other].find? fun result =>
    result.label = label

end FormResult

------------------------------------------------------------
-- Modes
------------------------------------------------------------

/- What a page is opened for. -/
inductive PageMode where
  | create
  | edit
  | view
  | approveReject
deriving DecidableEq, Repr

namespace PageMode

def all : List PageMode :=
  [.create, .edit, .view, .approveReject]

/- The label of a mode in lower case. -/
def label : PageMode → String
  | .create => "create"
  | .edit => "edit"
  | .view => "view"
  | .approveReject => "approvereject"

/- The name of a mode in a report. -/
def name : PageMode → String
  | .create => "Create"
  | .edit => "Edit"
  | .view => "View"
  | .approveReject => "ApproveReject"

/- The text with its ASCII capital letters made small. -/
def lowerAscii (text : List Char) : List Char :=
  text.map Char.toLower

/-
  The mode with the given label, white space around it and
  the case of ASCII letters aside.
-/
def ofLabel? (text : List Char) : Option PageMode :=
  all.find? fun mode =>
    lowerAscii (Text.trim text) = mode.label.toList

/- Whether the user may edit the fields of the form. -/
def isMutable : PageMode → Bool
  | .create | .edit => true
  | .view | .approveReject => false

/- The form type that a page of the mode starts with. -/
def formType : PageMode → FormType
  | .create => .create
  | .edit => .edit
  | .view => .view
  | .approveReject => .approveReject

end PageMode

end BuildForm
