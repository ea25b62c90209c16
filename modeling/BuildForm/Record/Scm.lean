import BuildForm.Text.Numeral

/-
  Source control of a configuration, as far as it decides
  the folder of a fresh project view.

  Key definitions include:
    * `Scm`
    * `Scm.ofLabel`
    * `Scm.label`
    * `Scm.baseFolder`
    * `Scm.freshFolder`
-/

namespace BuildForm

/- The source control that a label names. -/
inductive Scm where
  | unset
  | git
  | subversion
  | other (label : String)
deriving DecidableEq, Repr

namespace Scm

def ofLabel (label : String) : Scm :=
  if label ∈ ["", "None", "none"] then
    .unset
  else if label = "Git" then
    .git
  else if label = "Subversion" then
    .subversion
  else
    .other label

def label : Scm → String
  | .unset => "None"
  | .git => "Git"
  | .subversion => "Subversion"
  | .other label => label

/- What the checkout folder of a fresh view starts with. -/
def baseFolder : Scm → String
  | .git => "."
  | .subversion => "Development"
  | .unset => ""
  | .other _ => ""

/-
  The checkout folder of a fresh view: every view but the
  one with ordinal zero adds its ordinal.
-/
def freshFolder (scm : Scm) (ordinal : UInt32) : String :=
  if ordinal = 0 then
    scm.baseFolder
  else
    scm.baseFolder ++
      String.ofList (Text.digits ordinal.toNat)

end Scm

end BuildForm
