import BuildForm.Rule.Name
import BuildForm.Rule.Remote
import BuildForm.Rule.Paths
import BuildForm.Rule.Mail

/-
  The kinds of text fields, the rule that a field of each
  kind has to keep, and what is wrong with one that does not.

  Key definitions include:
    * `FieldKind`
    * `FieldKind.accepts`
    * `Rule.Fault`
    * `Rule.Fault.message`
    * `FieldKind.fault?`
    * `FieldKind.fault?_eq_none_iff`
-/

namespace BuildForm

------------------------------------------------------------
-- Kinds of Fields
------------------------------------------------------------

/-
  Which rule a text field is subject to. A trigger is judged
  by the configuration service alone.
-/
inductive FieldKind where
  | projectName
  | email
  | url
  | fileToBuild
  | localDirectory
  | artifact
  | versionFile
  | userConfig
  | trigger
  | free
deriving DecidableEq, Repr

namespace FieldKind

/- Whether a value keeps the rule of the kind. -/
def accepts : FieldKind → String → Bool
  | .projectName, value => Rule.isProjectName value
  | .email, value => Rule.isMailList value
  | .url, value => Rule.isRemote value
  | .fileToBuild, value => Rule.isFileToBuild value
  | .localDirectory, value => Rule.isLocalDirectory value
  | .artifact, value => Rule.isAntPath value
  | .versionFile, value => Rule.isAntPath value
  | .userConfig, value => Rule.isOverride value
  | .trigger, _ => true
  | .free, _ => true

end FieldKind

------------------------------------------------------------
-- Faults
------------------------------------------------------------

namespace Rule

/-
  Why a value is refused: a project name is missing, or the
  value breaks the rule of its kind.
-/
inductive Fault where
  | nameMissing
  | malformed (kind : FieldKind)
deriving DecidableEq, Repr

/- The text shown next to a field with the fault. -/
def Fault.message : Fault → String
  | .nameMissing => " Please enter your project name"
  | .malformed .projectName =>
      " This field may only contain alphanumeric " ++
      "characters, underscores or hyphens, " ++
      "and can't be empty."
  | .malformed .email => " Invalid e-mail address"
  | .malformed .url => " Invalid repository URL"
  | .malformed .fileToBuild =>
      " Expected a file name with a 3 to 5 letter extension"
  | .malformed .localDirectory =>
      " Expected '.', '.name' or a relative folder path"
  | .malformed .artifact =>
      " Invalid path. Wildcards are allowed only after a " ++
      "folder separator"
  | .malformed .versionFile =>
      " Invalid path. Wildcards are allowed only after a " ++
      "folder separator"
  | .malformed .userConfig =>
      " Only alphanumeric characters, underscores or " ++
      "hyphens are allowed"
  | .malformed .trigger => ""
  | .malformed .free => ""

end Rule

/- What is wrong with a value of the kind, if anything. -/
def FieldKind.fault?
    (kind : FieldKind)
    (value : String) : Option Rule.Fault :=
  if kind.accepts value then
    none
  else if kind = .projectName ∧ value = "" then
    some .nameMissing
  else
    some (.malformed kind)

/- A value has no fault exactly if its kind accepts it. -/
theorem FieldKind.fault?_eq_none_iff
    (kind : FieldKind)
    (value : String) :
    kind.fault? value = none ↔ kind.accepts value := by
  unfold fault?
  by_cases hAccepts : kind.accepts value
  · simp [hAccepts]
  · rw [if_neg hAccepts]
    split <;> simp [hAccepts]

end BuildForm
