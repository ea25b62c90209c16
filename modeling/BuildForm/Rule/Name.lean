import BuildForm.Pattern.Basic

/-
  The rules for a project name and for the configuration
  override of a builder.

  Key definitions include:
    * `Rule.nameChars`
    * `Rule.isProjectName`
    * `Rule.isOverride`
-/

namespace BuildForm

namespace Rule

/- ASCII letters, digits, the underscore and the hyphen. -/
def nameChars : CharSet :=
  CharSet.alphanumerics.union (CharSet.ofChars ['_', '-'])

/- A project name is a non-empty row of name characters. -/
def isProjectName (value : String) : Bool :=
  value ≠ "" && value.toList.all nameChars.contains

/- An override is a row of name characters, maybe empty. -/
def isOverride (value : String) : Bool :=
  value.toList.all nameChars.contains

end Rule

end BuildForm
