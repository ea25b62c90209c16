import BuildForm.Rule.Basic

/-
  A text input of the page with its live error indicator.

  Key definitions include:
    * `Field`
    * `Field.blank`
    * `Field.blur`
    * `Field.passes`
-/

namespace BuildForm

/- A text input: its rule, its text and how it shows. -/
structure Field where
  kind : FieldKind
  value : String := ""
  enabled : Bool := true
  visible : Bool := true
  fault : Option Rule.Fault := none
deriving DecidableEq, Repr

namespace Field

/- An empty input of a kind. -/
def blank (kind : FieldKind) : Field :=
  { kind }

def setValue (field : Field) (value : String) : Field :=
  { field with value }

def clear (field : Field) : Field :=
  { field with value := "" }

def clearFault (field : Field) : Field :=
  { field with fault := none }

def setFault (field : Field) (fault : Rule.Fault) : Field :=
  { field with fault := some fault }

/- Run the rule of the input as when it loses focus. -/
def blur (field : Field) : Field :=
  { field with fault := field.kind.fault? field.value }

/- Whether the indicator is off. -/
def passes (field : Field) : Bool :=
  field.fault.isNone

end Field

end BuildForm
