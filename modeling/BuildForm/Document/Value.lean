import BuildForm.Document.Binary64
import BuildForm.Record.Table

/-
  The values that documents hold, whatever their format.

  Key definitions include:
    * `Number`
    * `Value`
    * `Value.object`
    * `Value.withoutNulls`
-/

namespace BuildForm

/- A whole number or a floating-point one. -/
inductive Number where
  | int (value : Int)
  | real (value : Binary64)
deriving DecidableEq, Repr

/-
  A value. The fields of a table keep their order; readers
  never put a key twice.
-/
inductive Value where
  | null
  | flag (value : Bool)
  | number (value : Number)
  | text (value : String)
  | list (items : List Value)
  | table (fields : List (String × Value))
deriving Repr, Inhabited

namespace Value

/-
  A table of fields as they were read: a repeated key keeps
  its first place and its last value.
-/
def object (fields : List (String × Value)) : Value :=
  .table
    (fields.foldl
      (fun entries (key, value) =>
        Entries.put key value entries)
      [])

/- A list of texts. -/
def texts (items : List String) : Value :=
  .list (items.map .text)

/- A text, or null if there is none. -/
def textOrNull : Option String → Value
  | none => .null
  | some value => .text value

/- A flag, or null if there is none. -/
def flagOrNull : Option Bool → Value
  | none => .null
  | some value => .flag value

mutual

/- The value without the fields that are null. -/
def withoutNulls : Value → Value
  | .list items => .list (itemsWithoutNulls items)
  | .table fields => .table (fieldsWithoutNulls fields)
  | .null => .null
  | .flag value => .flag value
  | .number value => .number value
  | .text value => .text value

def itemsWithoutNulls : List Value → List Value
  | [] => []
  | item :: rest =>
      withoutNulls item :: itemsWithoutNulls rest

def fieldsWithoutNulls :
    List (String × Value) → List (String × Value)
  | [] => []
  | (_, .null) :: rest => fieldsWithoutNulls rest
  | (key, value) :: rest =>
      (key, withoutNulls value) :: fieldsWithoutNulls rest

end

end Value

end BuildForm
