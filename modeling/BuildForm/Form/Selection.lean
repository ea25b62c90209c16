import BuildForm.Form.Error
import BuildForm.Form.HiddenList

/-
  The list of paths of a project view, shown as options and
  kept in a hidden input besides.

  Key definitions include:
    * `SelectionKind`
    * `Key`
    * `SelectionBox`
    * `SelectionBox.ofEntries`
    * `SelectionBox.add`
    * `SelectionBox.select`
    * `SelectionBox.removeSelected`
    * `SelectionBox.press`
    * `SelectionBox.setEnabled`
-/

namespace BuildForm

------------------------------------------------------------
-- Kinds of Boxes
------------------------------------------------------------

/- The two path lists of a view. -/
inductive SelectionKind where
  | artifacts
  | versionFiles
deriving DecidableEq, Repr

namespace SelectionKind

/- The name of the hidden input of a box. -/
def hiddenName : SelectionKind → String
  | .artifacts => "artifacts"
  | .versionFiles => "versionFiles"

/- The input whose text is added to a box. -/
def inputField : SelectionKind → ViewField
  | .artifacts => .pathToArtifacts
  | .versionFiles => .versionFilesPath

/- The rule for the entries of a box. -/
def fieldKind : SelectionKind → FieldKind
  | .artifacts => .artifact
  | .versionFiles => .versionFile

end SelectionKind

/- A key that is pressed while a box has the focus. -/
inductive Key where
  | up
  | down
  | delete
  | backspace
  | enter
  | left
  | char (c : Char)
deriving DecidableEq, Repr

------------------------------------------------------------
-- Boxes
------------------------------------------------------------

/- Why an entry is not taken, as shown next to the box. -/
inductive EntryFault where
  | rule (fault : Rule.Fault)
  | listed
deriving DecidableEq, Repr

def EntryFault.message : EntryFault → String
  | .rule fault => fault.message
  | .listed => " This path already exists"

/-
  A box of one view: its options, the position of the
  highlighted one, and the hidden input that goes with them.
-/
structure SelectionBox where
  owner : ViewId
  kind : SelectionKind
  options : List String := []
  selected : Option Nat := none
  hidden : HiddenList := {}
  visible : Bool := true
  fault : Option EntryFault := none
deriving DecidableEq, Repr

namespace SelectionBox

/- An empty box. -/
def blank (owner : ViewId) (kind : SelectionKind) :
    SelectionBox :=
  { owner, kind }

def contains (box : SelectionBox) (value : String) : Bool :=
  box.options.contains value

/- Take an entry as the last option. -/
def append
    (box : SelectionBox)
    (value : String) : SelectionBox :=
  { box with
    options := box.options ++ [value]
    hidden := box.hidden.push value }

/- The box of stored entries, each taken once. -/
def ofEntries
    (owner : ViewId)
    (kind : SelectionKind)
    (entries : List String) : SelectionBox :=
  entries.foldl
    (fun box entry =>
      if box.contains entry then box else box.append entry)
    (blank owner kind)

/- The highlighted option. -/
def selectedValue? (box : SelectionBox) : Option String :=
  box.selected.bind fun index => box.options[index]?

/- The input whose text is added to the box. -/
def inputPath (box : SelectionBox) : FieldPath :=
  .view box.owner box.kind.inputField

/-
  Take a candidate that is not empty, keeps the path rule and
  is not listed yet. A refusal of the latter two kinds stays
  visible next to the box.
-/
def add
    (box : SelectionBox)
    (candidate : String) :
    Except FormError Unit × SelectionBox :=
  if candidate = "" then
    (.error (.invalid box.inputPath .emptyPath), box)
  else
    match box.kind.fieldKind.fault? candidate with
    | some fault =>
        (.error (.invalid box.inputPath (.rule fault)),
          { box with fault := some (.rule fault) })
    | none =>
        if box.contains candidate then
          (.error (.duplicate box.inputPath candidate),
            { box with fault := some .listed })
        else
          (.ok (),
            { box.append candidate with fault := none })

/-
  The position that is `delta` away from another one, kept
  within `count` positions.
-/
def clamp (count : Nat) (position : Int) : Nat :=
  (max 0 (min position ((count : Int) - 1))).toNat

/-
  Move the highlight; without one, start at the end that the
  move comes from. The flag tells whether it moved.
-/
def select
    (box : SelectionBox)
    (delta : Int) : Bool × SelectionBox :=
  if box.options.isEmpty then
    (false, box)
  else
    let count := box.options.length
    let next := match box.selected with
      | some current => clamp count (current + delta)
      | none => if delta < 0 then count - 1 else 0
    (box.selected ≠ some next,
      { box with selected := some next })

/- Highlight an option by its text. -/
def selectValue
    (box : SelectionBox)
    (value : String) : Bool × SelectionBox :=
  match box.options.idxOf? value with
  | some index => (true, { box with selected := some index })
  | none => (false, box)

/-
  Remove the highlighted option and cut its text out of the
  hidden input. The highlight stays in place, or moves to the
  last option if its place is gone.
-/
def removeSelected
    (box : SelectionBox) : Option String × SelectionBox :=
  match box.selected with
  | none => (none, box)
  | some index =>
      match box.options[index]? with
      | none => (none, { box with selected := none })
      | some removed =>
          let options := box.options.eraseIdx index
          let selected :=
            if options.isEmpty then
              none
            else
              some (min index (options.length - 1))
          (some removed,
            { box with
              options
              selected
              hidden := box.hidden.remove removed })

/-
  The arrow keys move the highlight, and of the other keys
  only `deleteKey` removes. The flag tells whether the key
  did anything.
-/
def press
    (box : SelectionBox)
    (key deleteKey : Key) : Bool × SelectionBox :=
  match key with
  | .up => box.select (-1)
  | .down => box.select 1
  | _ =>
      if key = deleteKey then
        let (removed, box) := box.removeSelected
        (removed.isSome, box)
      else
        (false, box)

/- Show or hide the box; either way it starts over empty. -/
def setEnabled
    (box : SelectionBox)
    (enabled : Bool) : SelectionBox :=
  { box with
    options := []
    selected := none
    hidden := HiddenList.empty
    visible := enabled
    fault := none }

end SelectionBox

end BuildForm
