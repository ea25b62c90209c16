/-
  The users with access to a configuration, a row each.

  Key definitions include:
    * `UserRow`
    * `Users`
    * `Users.push`
    * `Users.remove`
    * `Users.load`
    * `Users.names`
-/

namespace BuildForm

/- A row: its identity, the user, and its markup. -/
structure UserRow where
  id : UInt32
  name : String
  html : String
deriving DecidableEq, Repr

/- The rows in order, and the identity of the next one. -/
structure Users where
  rows : List UserRow := []
  nextRow : UInt32 := 0
deriving DecidableEq, Repr, Inhabited

namespace Users

def isEmpty (users : Users) : Bool :=
  users.rows.isEmpty

/- Append a row; its identity is returned. -/
def push
    (users : Users)
    (name html : String) : UInt32 × Users :=
  (users.nextRow,
    { rows :=
        users.rows ++ [{ id := users.nextRow, name, html }]
      nextRow := users.nextRow + 1 })

/- Remove a row; it is returned if there was one. -/
def remove
    (users : Users)
    (id : UInt32) : Option UserRow × Users :=
  match users.rows.find? fun row => row.id = id with
  | none => (none, users)
  | some row =>
      (some row,
        { users with
          rows := users.rows.eraseP fun row => row.id = id })

/-
  Append a row for each stored user. Empty markup means that
  there is nothing to show.
-/
def load
    (users : Users)
    (html : String)
    (names : List String) : Users :=
  if html = "" then
    users
  else
    names.foldl (fun users name => (users.push name "").2)
      users

def names (users : Users) : List String :=
  users.rows.map UserRow.name

end Users

end BuildForm
