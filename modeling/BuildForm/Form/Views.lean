import BuildForm.Form.View
import BuildForm.Record.Scm
import BuildForm.Service.Answer

/-
  The project views of one page session, in order.

  Key definitions include:
    * `Views`
    * `Views.view?`
    * `Views.amend`
    * `Views.insert`
    * `Views.load`
    * `Views.loadDeleted`
    * `Views.remove`
    * `Views.rememberCredentials`
    * `Views.records`
-/

namespace BuildForm

/-
  The views, the ordinal of the next one, the credentials
  that new views start with, and the records of the views
  that only the approved configuration has.
-/
structure Views where
  items : List View := []
  deleted : List ViewRecord := []
  deletedHtml : String := ""
  nextOrdinal : UInt32 := 0
  defaultCredentials : Option String := none
deriving DecidableEq, Repr, Inhabited

namespace Views

------------------------------------------------------------
-- Access
------------------------------------------------------------

def isEmpty (views : Views) : Bool :=
  views.items.isEmpty

/- The view with an identity. -/
def view? (views : Views) (id : ViewId) : Option View :=
  views.items.find? fun view => view.id = id

/- Change the first view with an identity. -/
def amendItems
    {α : Type}
    (id : ViewId)
    (change : View → α × View) :
    List View → Option (α × List View)
  | [] => none
  | view :: rest =>
      if view.id = id then
        let (result, view) := change view
        some (result, view :: rest)
      else
        (amendItems id change rest).map
          fun (result, rest) => (result, view :: rest)

/-
  Change the view with an identity and return what the change
  returns; none if there is no such view.
-/
def amend
    {α : Type}
    (views : Views)
    (id : ViewId)
    (change : View → α × View) : Option (α × Views) :=
  (amendItems id change views.items).map
    fun (result, items) => (result, { views with items })

/- Change the view with an identity, if there is one. -/
def modify
    (views : Views)
    (id : ViewId)
    (change : View → View) : Views :=
  match views.amend id fun view => ((), change view) with
  | some (_, changed) => changed
  | none => views

------------------------------------------------------------
-- Adding and Removing
------------------------------------------------------------

/-
  Select the default credentials of the session in a view;
  the flag tells whether they were selected.
-/
def applyDefault (views : Views) (id : ViewId) : Bool × Views :=
  match views.defaultCredentials with
  | none => (false, views)
  | some value =>
      match views.amend id fun view =>
        let (found, credentials) := view.credentials.select value
        (found, { view with credentials }) with
      | some result => result
      | none => (false, views)

/-
  Append a fresh view under the next ordinal, with a folder
  of its own and the default credentials of the session.
-/
def insert
    (views : Views)
    (fragment : ViewFragment)
    (scm : Scm) : ViewId × Views :=
  let id : ViewId := ⟨views.nextOrdinal⟩
  let fresh := View.blank id fragment.html fragment.credentials
  let view := fresh.mapField .localDirectoryPath
    (·.setValue (scm.freshFolder views.nextOrdinal))
  let appended : Views :=
    { views with items := views.items ++ [view] }
  let (_, selected) := appended.applyDefault id
  (id,
    { selected with nextOrdinal := views.nextOrdinal + 1 })

/- Close a view; the others keep their identities. -/
def remove (views : Views) (id : ViewId) : Bool × Views :=
  (views.items.any fun view => view.id = id,
    { views with
      items := views.items.filter fun view => view.id ≠ id })

/- Forget every view; the default credentials stay. -/
def reset (views : Views) : Views :=
  { views with
    items := []
    deleted := []
    deletedHtml := ""
    nextOrdinal := 0 }

------------------------------------------------------------
-- Loading
------------------------------------------------------------

/-
  The views of stored records, numbered from an ordinal; the
  markup goes with the first one.
-/
def itemsOf
    (credentials : List String) :
    UInt32 → String → List ViewRecord → List View
  | _, _, [] => []
  | ordinal, html, record :: rest =>
      View.ofRecord ⟨ordinal⟩ html credentials record ::
        itemsOf credentials (ordinal + 1) "" rest

/-
  Put the views of a stored configuration in the place of all
  others. Nothing loaded changes nothing.
-/
def load (views : Views) (loaded : LoadedViews) : Views :=
  if loaded.html = "" ∧ loaded.views = [] then
    views
  else
    { views with
      items := itemsOf loaded.credentials 0 loaded.html
        loaded.views
      nextOrdinal := UInt32.ofNat loaded.views.length }

/- Show views that are gone; they take no ordinal. -/
def loadDeleted
    (views : Views)
    (html : String)
    (records : List ViewRecord) : Views :=
  { views with deleted := records, deletedHtml := html }

------------------------------------------------------------
-- Builders and Credentials
------------------------------------------------------------

/- Append a builder to a view; none if there is no such view. -/
def addBuilder
    (views : Views)
    (id : ViewId)
    (fragment : Fragment) : Option (BuilderId × Views) :=
  views.amend id fun view => view.pushBuilder fragment.html

/- Remove a builder; the flag tells whether there was one. -/
def removeBuilder
    (views : Views)
    (id : ViewId)
    (builder : BuilderId) : Bool × Views :=
  (views.amend id fun view => view.removeBuilder builder).getD
    (false, views)

/- Select credentials in a view; false if that fails. -/
def selectCredentials
    (views : Views)
    (id : ViewId)
    (value : String) : Bool × Views :=
  (views.amend id fun view =>
    let (found, credentials) := view.credentials.select value
    (found, { view with credentials })).getD (false, views)

/-
  Make the credentials chosen in a view those that later
  views start with.
-/
def rememberCredentials
    (views : Views)
    (id : ViewId) : Option String × Views :=
  match (views.view? id).bind (·.credentials.value?) with
  | some value =>
      (some value,
        { views with defaultCredentials := some value })
  | none => (none, views)

/- The records of the views, in order. -/
def records (views : Views) : List ViewRecord :=
  views.items.map View.toRecord

end Views

end BuildForm
