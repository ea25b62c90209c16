import BuildForm.Form.FieldPath
import BuildForm.Service.Error

/-
  What can stop a user action on the page.

  Key definitions include:
    * `Reason`
    * `FormError`
    * `FormError.message`
    * `FormError.path?`
-/

namespace BuildForm

/-
  Why an input is refused: its value breaks its rule, its
  schedule was judged invalid with a message, it is an empty
  path to add, or the action does not apply to it.
-/
inductive Reason where
  | rule (fault : Rule.Fault)
  | schedule (message : String)
  | emptyPath
  | noSuchField
  | notTrigger
deriving DecidableEq, Repr

def Reason.message : Reason → String
  | .rule fault => fault.message
  | .schedule message => message
  | .emptyPath => "empty path"
  | .noSuchField => "no such field"
  | .notTrigger => "not a trigger field"

/- Why an action fails; the page stays usable after it. -/
inductive FormError where
  | invalid (path : FieldPath) (reason : Reason)
  | duplicate (path : FieldPath) (value : String)
  | nameConflict (name : String)
  | missingView
  | unknownView (view : ViewId)
  | readOnly
  | alreadySubmitted
  | service (error : ServiceError)
deriving DecidableEq, Repr

namespace FormError

def message : FormError → String
  | .invalid path reason =>
      path.elementName ++ ":" ++ reason.message
  | .duplicate path value =>
      path.elementName ++ ": '" ++ value ++
      "' is already in the list"
  | .nameConflict name =>
      "Configuration with name '" ++ name ++
      "' already exists. Please use another name."
  | .missingView => "add at least one project to build"
  | .unknownView view =>
      "project view " ++ view.domId ++ " no longer exists"
  | .readOnly => "the page is read-only in this mode"
  | .alreadySubmitted =>
      "the form has already been submitted"
  | .service error => error.message

/- The input that the error points at. -/
def path? : FormError → Option FieldPath
  | .invalid path _ => some path
  | .duplicate path _ => some path
  | _ => none

end FormError

end BuildForm
