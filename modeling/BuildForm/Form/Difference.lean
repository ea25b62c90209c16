import BuildForm.Record.Configuration

/-
  What a draft changes against the approved configuration.

  Key definitions include:
    * `DiffField`
    * `DiffField.elementId`
    * `Difference`
    * `Difference.oldText?`
    * `Difference.between`
-/

namespace BuildForm

/- The fields that have an element for their old text. -/
inductive DiffField where
  | scm
  | email
  | configEmail
  | preScript
  | postScript
  | regExp
  | cleanWorkspace
  | buildOnCommitTrigger
  | pollScmTrigger
  | buildPeriodicallyTrigger
deriving DecidableEq, Repr

/- The id of the element that shows the approved value. -/
def DiffField.elementId : DiffField → String
  | .scm => "typeSCM_old"
  | .email => "isEmail_old"
  | .configEmail => "configEmail_old"
  | .preScript => "preScript_old"
  | .postScript => "postScript_old"
  | .regExp => "regExp_old"
  | .cleanWorkspace => "cleanWorkspace_old"
  | .buildOnCommitTrigger => "buildOnCommitTrigger_old"
  | .pollScmTrigger => "pollSCMTrigger_old"
  | .buildPeriodicallyTrigger =>
      "buildPeriodicallyTrigger_old"

/- A field that changed, with the text of its old value. -/
structure FieldChange where
  field : DiffField
  oldText : String
deriving DecidableEq, Repr

/-
  The changes against an approved configuration, and whether
  there was one.
-/
structure Difference where
  changes : List FieldChange := []
  machines : List String := []
  hasApproved : Bool := false
deriving DecidableEq, Repr, Inhabited

namespace Difference

def isEmpty (difference : Difference) : Bool :=
  difference.changes.isEmpty && difference.machines.isEmpty

/- The old text of a field that changed. -/
def oldText?
    (difference : Difference)
    (field : DiffField) : Option String :=
  (difference.changes.find? fun change =>
    change.field = field).map FieldChange.oldText

def machineChanged
    (difference : Difference)
    (node : String) : Bool :=
  difference.machines.contains node

/- How many fields and machines changed. -/
def count (difference : Difference) : Nat :=
  difference.changes.length + difference.machines.length

------------------------------------------------------------
-- Comparing
------------------------------------------------------------

def quoted (value : String) : String :=
  "\"" ++ value ++ "\""

def checkedText (value : Bool) : String :=
  if value then "checked" else "unchecked"

/-
  The change of one field, if its approved value is there and
  the draft has another one or none.
-/
def changed
    {α : Type}
    [DecidableEq α]
    (field : DiffField)
    (old new : Option α)
    (write : α → String) : List FieldChange :=
  match old with
  | none => []
  | some value =>
      if new = some value then
        []
      else
        [{ field, oldText := write value }]

/- The changed fields, in the order in which they are shown. -/
def fieldChanges
    (draft approved : Configuration) : List FieldChange :=
  changed .scm approved.scm draft.scm quoted ++
  changed .email approved.email draft.email quoted ++
  changed .configEmail approved.configEmail draft.configEmail
    quoted ++
  changed .preScript approved.preScript draft.preScript id ++
  changed .postScript approved.postScript draft.postScript
    id ++
  changed .regExp approved.regExp draft.regExp quoted ++
  -- A workspace that was not cleaned is no old value.
  changed .cleanWorkspace
    (approved.cleanWorkspace.filter (· = true))
    draft.cleanWorkspace checkedText ++
  changed .buildOnCommitTrigger approved.buildOnCommitTrigger
    draft.buildOnCommitTrigger checkedText ++
  changed .pollScmTrigger approved.pollScmTrigger
    draft.pollScmTrigger id ++
  changed .buildPeriodicallyTrigger
    approved.buildPeriodicallyTrigger
    draft.buildPeriodicallyTrigger id

/-
  The approved machines that the draft does not know or has
  in another state.
-/
def machineChanges
    (draft approved : Configuration) : List String :=
  (approved.buildMachines.entries.filter
    fun (node, selected) =>
      draft.buildMachines.find? node ≠ some selected).map
    Prod.fst

/-
  Compare a draft with the approved configuration. Without
  one, or with a nameless one, there is nothing to compare.
-/
def between
    (draft : Configuration)
    (approved : Option Configuration) : Difference :=
  match approved with
  | none => {}
  | some approved =>
      if approved.projectName = "" then
        {}
      else
        { changes := fieldChanges draft approved
          machines := machineChanges draft approved
          hasApproved := true }

end Difference

end BuildForm
