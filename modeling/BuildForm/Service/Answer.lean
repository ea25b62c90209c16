import BuildForm.Record.Configuration
import BuildForm.Text.Search

/-
  What the configuration service answers besides records.

  Key definitions include:
    * `Fragment`
    * `ViewFragment`
    * `LoadedViews`
    * `LoadedUsers`
    * `TriggerCheck`
    * `TriggerCheck.ofAnswer`
-/

namespace BuildForm

/- Ready-made markup. -/
structure Fragment where
  html : String := ""
deriving DecidableEq, Repr, Inhabited

/- Markup of a new project view and the credentials it offers. -/
structure ViewFragment where
  html : String := ""
  credentials : List String := []
deriving DecidableEq, Repr, Inhabited

/- The project views of a stored configuration. -/
structure LoadedViews where
  html : String := ""
  credentials : List String := []
  views : List ViewRecord := []
deriving DecidableEq, Repr, Inhabited

/- The users of a stored configuration. -/
structure LoadedUsers where
  html : String := ""
  users : List String := []
deriving DecidableEq, Repr, Inhabited

/- The verdict on a trigger. -/
structure TriggerCheck where
  valid : Bool
  message : String
deriving DecidableEq, Repr

namespace TriggerCheck

/- What an answer about an invalid trigger contains. -/
def errorMarker : String := "ERROR"

/- The verdict of an answer, which is written for the user. -/
def ofAnswer (message : String) : TriggerCheck where
  valid := !Text.occursIn errorMarker.toList message.toList
  message := message

end TriggerCheck

end BuildForm
