import BuildForm.Form.HiddenList
import BuildForm.Record.Table

/-
  The checkboxes of the build machines and the hidden input
  that lists the checked ones.

  Key definitions include:
    * `Machines`
    * `Machines.ofNodes`
    * `Machines.toggle`
    * `Machines.load`
    * `Machines.isChecked`
-/

namespace BuildForm

/- The machines in the order in which they became known. -/
structure Machines where
  nodes : Table Bool := Table.empty
  hidden : HiddenList := {}
deriving DecidableEq, Repr, Inhabited

namespace Machines

/- The given machines, none of them checked. -/
def ofNodes (nodes : List String) : Machines :=
  { nodes := Table.ofList (nodes.map fun node =>
      (node, false)) }

def isChecked (machines : Machines) (node : String) : Bool :=
  (machines.nodes.find? node).getD false

/-
  Check or uncheck a machine, which becomes known by that. A
  box that is in the state asked for is left alone.
-/
def toggle
    (machines : Machines)
    (node : String)
    (checked : Bool) : Machines :=
  if machines.isChecked node = checked then
    { machines with
      nodes := machines.nodes.putNew node false }
  else
    { nodes := machines.nodes.put node checked
      hidden :=
        if checked then
          machines.hidden.push node
        else
          machines.hidden.remove node }

/- Set one box as a stored record has it. -/
def loadNode
    (machines : Machines)
    (node : String)
    (selected : Bool) : Machines :=
  if selected then
    { nodes := machines.nodes.put node true
      hidden := machines.hidden.push node }
  else
    { machines with
      nodes := machines.nodes.putNew node false }

/- Uncheck every box, then set those of a stored record. -/
def load
    (machines : Machines)
    (stored : Table Bool) : Machines :=
  stored.entries.foldl
    (fun machines (node, selected) =>
      machines.loadNode node selected)
    { nodes := machines.nodes.mapValues fun _ => false }

end Machines

end BuildForm
