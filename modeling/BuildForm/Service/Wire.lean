import BuildForm.Document.Records
import BuildForm.Service.Request

/-
  Answers of the configuration service as document values.

  Key definitions include:
    * `Fragment.toValue` and `ViewFragment.toValue`
    * `LoadedViews.toValue` and `LoadedUsers.toValue`
    * `Request.answerValue`
-/

namespace BuildForm

------------------------------------------------------------
-- Markup
------------------------------------------------------------

def Fragment.toValue (fragment : Fragment) : Value :=
  .table [("html", .text fragment.html)]

def ViewFragment.toValue (fragment : ViewFragment) : Value :=
  .table
    [("html", .text fragment.html),
     ("credentials", .texts fragment.credentials)]

def LoadedViews.toValue (loaded : LoadedViews) : Value :=
  .table
    [("html", .text loaded.html),
     ("credentials", .texts loaded.credentials),
     ("views", .list (loaded.views.map ViewRecord.toValue))]

def LoadedUsers.toValue (loaded : LoadedUsers) : Value :=
  .table
    [("html", .text loaded.html),
     ("users", .texts loaded.users)]

------------------------------------------------------------
-- Answers
------------------------------------------------------------

/- The answer to a request; nothing to tell is null. -/
def Request.answerValue :
    (request : Request) → request.Answer → Value
  | .newDefaults, defaults => NewDefaults.toValue defaults
  | .configuration _, config => Configuration.toValue config
  | .approved _, none => .null
  | .approved _, some config => Configuration.toValue config
  | .isAdministrator, result => .flag result
  | .fullName _, name => .text name
  | .views _, loaded => LoadedViews.toValue loaded
  | .deletedViews _, loaded => LoadedViews.toValue loaded
  | .users _, loaded => LoadedUsers.toValue loaded
  | .freshView, fragment => ViewFragment.toValue fragment
  | .freshBuilder, fragment => Fragment.toValue fragment
  | .freshUser, fragment => Fragment.toValue fragment
  | .isNameFree _, result => .flag result
  | .help _, message => .text message
  | .judgeTrigger _, message => .text message
  | .submit _, _ => .null

end BuildForm
