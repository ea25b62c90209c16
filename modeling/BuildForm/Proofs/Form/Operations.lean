import BuildForm.Form.Basic

/-
  Runs of operations on what a form numbers.

  A form hands out identities to its views, to the builders of
  each view and to its rows of users. Its operations are those
  on its views and on its rows, and each tells which
  identities it hands out and which go with what it closes.

  Main declarations:
    * `Identity`
    * `Form.identities`
    * `View.Edit`
    * `Form.Operation`
    * `Form.perform`
    * `Form.handsOut`
    * `Form.run`
    * `Form.handedOut`
    * `Form.loadsFirst`
-/

------------------------------------------------------------
-- Identities
------------------------------------------------------------

namespace BuildForm

/- What a form numbers: a view, a builder of it, or a row. -/
inductive Identity where
  | view (id : ViewId)
  | builder (view : ViewId) (id : BuilderId)
  | row (id : UInt32)
deriving DecidableEq, Repr

namespace Identity

inductive Kind where
  | view
  | builder
  | row
deriving DecidableEq, Repr

/- The view to which an identity belongs. -/
def owner? : Identity → Option ViewId
  | .view id => some id
  | .builder id _ => some id
  | .row _ => none

def kind : Identity → Kind
  | .view _ => .view
  | .builder _ _ => .builder
  | .row _ => .row

/- How many identities of a kind are listed. -/
def count (kind : Kind) (identities : List Identity) : Nat :=
  identities.countP fun identity => identity.kind = kind

@[simp]
theorem count_append
    (kind : Kind)
    (first second : List Identity) :
    count kind (first ++ second) =
      count kind first + count kind second :=
  List.countP_append

end Identity

def View.identities (view : View) : List Identity :=
  .view view.id ::
    view.builders.map fun builder =>
      .builder view.id builder.id

def Views.identities (views : Views) : List Identity :=
  views.items.flatMap View.identities

def Users.identities (users : Users) : List Identity :=
  users.rows.map fun row => .row row.id

/- The identities on a form, in the order of the page. -/
def Form.identities (form : Form) : List Identity :=
  form.views.identities ++ form.users.identities

end BuildForm

------------------------------------------------------------
-- Operations
------------------------------------------------------------

namespace BuildForm

/- An edit of one view. -/
inductive View.Edit where
  | input (name : ViewField) (change : Field → Field)
  | credentials (value : String)
  | addPath (kind : SelectionKind)
  | box
      (kind : SelectionKind)
      (change : SelectionBox → SelectionBox)
  | versionFiles (enabled : Bool)
  | override (builder : BuilderId) (checked : Bool)
  | overrideText
      (builder : BuilderId)
      (change : Field → Field)
  | revalidate

def View.applyEdit (view : View) : View.Edit → View
  | .input name change => view.mapField name change
  | .credentials value =>
      { view with
        credentials := (view.credentials.select value).2 }
  | .addPath kind => (view.addPath kind).2
  | .box kind change => view.setBox kind (change (view.box kind))
  | .versionFiles enabled => view.setVersionFiles enabled
  | .override builder checked =>
      view.mapBuilder builder (·.setOtherConfig checked)
  | .overrideText builder change =>
      view.mapBuilder builder fun entry =>
        { entry with userConfig := change entry.userConfig }
  | .revalidate => view.revalidate

/- An operation on the views of a form. -/
inductive Views.Operation where
  | load (loaded : LoadedViews)
  | insert (fragment : ViewFragment) (scm : Scm)
  | remove (id : ViewId)
  | addBuilder (id : ViewId) (fragment : Fragment)
  | removeBuilder (id : ViewId) (builder : BuilderId)
  | edit (id : ViewId) (edit : View.Edit)
  | applyDefault (id : ViewId)
  | rememberCredentials (id : ViewId)
  | setDefault (credentials : Option String)
  | loadDeleted (html : String) (records : List ViewRecord)

namespace Views

def perform (views : Views) : Operation → Views
  | .load loaded => views.load loaded
  | .insert fragment scm => (views.insert fragment scm).2
  | .remove id => (views.remove id).2
  | .addBuilder id fragment =>
      match views.addBuilder id fragment with
      | some (_, changed) => changed
      | none => views
  | .removeBuilder id builder =>
      (views.removeBuilder id builder).2
  | .edit id edit => views.modify id (·.applyEdit edit)
  | .applyDefault id => (views.applyDefault id).2
  | .rememberCredentials id => (views.rememberCredentials id).2
  | .setDefault credentials =>
      { views with defaultCredentials := credentials }
  | .loadDeleted html records => views.loadDeleted html records

/- The identities that an operation hands out. -/
def handsOut (views : Views) : Operation → List Identity
  | .load loaded =>
      (itemsOf loaded.credentials 0 loaded.html
        loaded.views).flatMap View.identities
  | .insert fragment scm =>
      [.view (views.insert fragment scm).1]
  | .addBuilder id fragment =>
      match views.addBuilder id fragment with
      | some (builder, _) => [.builder id builder]
      | none => []
  | _ => []

/- The identities that go with what an operation closes. -/
def Operation.closes : Operation → Identity → Bool
  | .remove id, .view view => view = id
  | .remove id, .builder view _ => view = id
  | .removeBuilder id builder, identity =>
      identity = .builder id builder
  | _, _ => false

end Views

/- An operation on the rows of users of a form. -/
inductive Users.Operation where
  | push (name html : String)
  | remove (id : UInt32)
  | load (html : String) (names : List String)

namespace Users

def perform (users : Users) : Operation → Users
  | .push name html => (users.push name html).2
  | .remove id => (users.remove id).2
  | .load html names => users.load html names

def handsOut (users : Users) : Operation → List Identity
  | .push name html => [.row (users.push name html).1]
  | .remove _ => []
  | .load html names =>
      ((users.load html names).rows.drop
        users.rows.length).map fun row => .row row.id

def Operation.closes : Operation → Identity → Bool
  | .remove id, .row row => row = id
  | _, _ => false

end Users

/- An operation on what a form numbers. -/
inductive Form.Operation where
  | views (operation : Views.Operation)
  | users (operation : Users.Operation)

namespace Form

def perform (form : Form) : Operation → Form
  | .views operation =>
      { form with views := form.views.perform operation }
  | .users operation =>
      { form with users := form.users.perform operation }

def handsOut (form : Form) : Operation → List Identity
  | .views operation => form.views.handsOut operation
  | .users operation => form.users.handsOut operation

def Operation.closes : Operation → Identity → Bool
  | .views operation => operation.closes
  | .users operation => operation.closes

def run (form : Form) (operations : List Operation) : Form :=
  operations.foldl perform form

/- All identities that a run of operations hands out. -/
def handedOut (form : Form) : List Operation → List Identity
  | [] => []
  | operation :: rest =>
      form.handsOut operation ++
        (form.perform operation).handedOut rest

def Operation.isLoad : Operation → Bool
  | .views (.load _) => true
  | _ => false

/-
  Stored views are loaded at most once, and before anything
  else happens to the views.
-/
def loadsFirst : List Operation → Bool
  | [] => true
  | .users _ :: rest => loadsFirst rest
  | .views _ :: rest => rest.all fun operation =>
      !operation.isLoad

end Form

end BuildForm
