import BuildForm.Document.Value

/-
  Tables under construction: which keys and tables a document
  may still add to what it has defined before.

  Key definitions include:
    * `Toml.Item`
    * `Toml.addField?`
    * `Toml.addTable?`
    * `Toml.addArrayTable?`
    * `Toml.Item.toValue`
-/

namespace BuildForm

namespace Toml

------------------------------------------------------------
-- Items
------------------------------------------------------------

/-
  What a key stands for: a value, a table, or the tables of
  an array. A table is implicit until its own header comes,
  and dotted if a dotted key made it.
-/
inductive Item where
  | value (value : Value)
  | table
      (implicit dotted : Bool)
      (fields : List (String × Item))
  | tables (tables : List (List (String × Item)))

abbrev Fields := List (String × Item)

/-
  Change the item of a key in place, or append the first item
  of a new key.
-/
def alter?
    (key : String)
    (change : Option Item → Option Item) :
    Fields → Option Fields
  | [] => (change none).map fun item => [(key, item)]
  | (k, item) :: rest =>
      if k = key then
        (change (some item)).map fun item => (k, item) :: rest
      else
        (alter? key change rest).map fun rest =>
          (k, item) :: rest

/- Change the last of some tables. -/
def alterLast?
    (change : Fields → Option Fields) :
    List Fields → Option (List Fields)
  | [] => none
  | [table] => (change table).map fun table => [table]
  | table :: rest =>
      (alterLast? change rest).map fun rest => table :: rest

------------------------------------------------------------
-- Fields
------------------------------------------------------------

/-
  Add a value under a key that is not taken. The parts before
  the last one name tables: the last of them is one that only
  dotted keys have made, the others may be implicit or the
  last tables of arrays as well.
-/
def addField?
    (value : Value) :
    (key : List String) → Fields → Option Fields
  | [], _ => none
  | [part], fields =>
      alter? part
        (fun item? =>
          match item? with
          | none => some (.value value)
          | some _ => none)
        fields
  | part :: rest, fields =>
      let isLast := rest.length = 1
      alter? part
        (fun item? =>
          match item? with
          | none =>
              (addField? value rest []).map (.table true true)
          | some (.table true dotted inner) =>
              if isLast ∧ !dotted then
                none
              else
                (addField? value rest inner).map
                  (.table true dotted)
          | some (.tables tables) =>
              if isLast then
                none
              else
                (alterLast? (addField? value rest) tables).map
                  .tables
          | _ => none)
        fields

------------------------------------------------------------
-- Tables
------------------------------------------------------------

/-
  Change the table at a path; missing tables are made, and of
  an array the last table is meant.
-/
def atTable?
    (change : Fields → Option Fields) :
    (path : List String) → Fields → Option Fields
  | [], fields => change fields
  | part :: rest, fields =>
      alter? part
        (fun item? =>
          match item? with
          | none =>
              (atTable? change rest []).map (.table true false)
          | some (.table implicit dotted inner) =>
              (atTable? change rest inner).map
                (.table implicit dotted)
          | some (.tables tables) =>
              (alterLast? (atTable? change rest) tables).map
                .tables
          | some (.value _) => none)
        fields

/- Define the table at a path, which may be implicit so far. -/
def addTable?
    (path : List String)
    (fields : Fields) : Option Fields :=
  match path.getLast? with
  | none => none
  | some key =>
      atTable?
        (alter? key fun item? =>
          match item? with
          | none => some (.table false false [])
          | some (.table true false inner) =>
              some (.table false false inner)
          | _ => none)
        path.dropLast fields

/- Append a table to the array of tables at a path. -/
def addArrayTable?
    (path : List String)
    (fields : Fields) : Option Fields :=
  match path.getLast? with
  | none => none
  | some key =>
      atTable?
        (alter? key fun item? =>
          match item? with
          | none => some (.tables [[]])
          | some (.tables tables) =>
              some (.tables (tables ++ [[]]))
          | _ => none)
        path.dropLast fields

------------------------------------------------------------
-- Values
------------------------------------------------------------

/- Fields in the order of their keys. -/
def sorted
    (fields : List (String × Value)) :
    List (String × Value) :=
  fields.mergeSort fun left right => left.1 ≤ right.1

mutual

/- The value of an item, its keys in order. -/
def Item.toValue : Item → Value
  | .value value => value
  | .table _ _ fields => .table (sorted (fieldValues fields))
  | .tables tables => .list (tableValues tables)

def fieldValues : Fields → List (String × Value)
  | [] => []
  | (key, item) :: rest =>
      (key, item.toValue) :: fieldValues rest

def tableValues : List Fields → List Value
  | [] => []
  | fields :: rest =>
      .table (sorted (fieldValues fields)) :: tableValues rest

end

end Toml

end BuildForm
