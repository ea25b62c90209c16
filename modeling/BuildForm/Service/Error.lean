import BuildForm.Document.Fault
import BuildForm.Record.Mode
import BuildForm.Rule.Basic

/-
  Why the configuration service does not answer.

  Key definitions include:
    * `AccessFault`
    * `Refusal`
    * `ServiceError`
    * `ServiceError.message`
-/

namespace BuildForm

/- Why a path cannot be read or written. -/
inductive AccessFault where
  | isDirectory
  | notDirectory
  | notText
deriving DecidableEq, Repr

def AccessFault.message : AccessFault → String
  | .isDirectory => "is a directory"
  | .notDirectory => "not a directory"
  | .notText => "not valid UTF-8 text"

/- Why a request is turned down. -/
inductive Refusal where
  | badName (name : String) (fault : Rule.Fault)
  | namelessRecord
  | nameTaken (name : String)
  | unsubmittable (formType : FormType)
deriving DecidableEq, Repr

def Refusal.message : Refusal → String
  | .badName name fault => "'" ++ name ++ "': " ++ fault.message
  | .namelessRecord => "project name is empty"
  | .nameTaken name =>
      "configuration '" ++ name ++ "' already exists"
  | .unsubmittable formType =>
      "form type " ++ formType.label ++ " cannot be submitted"

/- An answer that the service fails to give. -/
inductive ServiceError where
  | notFound (name : String)
  | inaccessible (path : String) (fault : AccessFault)
  | badDocument (path : String) (fault : DocumentFault)
  | unavailable (message : String)
  | refused (refusal : Refusal)
deriving DecidableEq, Repr

def ServiceError.message : ServiceError → String
  | .notFound name => "configuration '" ++ name ++ "' not found"
  | .inaccessible path fault =>
      "failed to access " ++ path ++ ": " ++ fault.message
  | .badDocument path fault =>
      "failed to parse " ++ path ++ ": " ++ fault.message
  | .unavailable message =>
      "configuration service unavailable: " ++ message
  | .refused refusal => "request refused: " ++ refusal.message

end BuildForm
