import BuildForm.Form.Gate
import BuildForm.Page.Query
import BuildForm.Service.Request

/-
  A page session: the form, the status line, and what has
  become of the page.

  Key definitions include:
    * `PageOptions`
    * `StatusLine`
    * `Page`
    * `Page.start`
    * `Session`
    * `PageM`
    * `PageM.ask`
    * `PageM.reported`
-/

namespace BuildForm

------------------------------------------------------------
-- Options and Status
------------------------------------------------------------

/-
  How a page behaves: the poll trigger of new configurations,
  where "cancel" leads, the only key that removes an entry of
  a selection box, and whether typing runs the rules.
-/
structure PageOptions where
  defaultPollTrigger : String := "H * * * *"
  cancelTarget : String := "./"
  deleteKey : Key := .delete
  autoValidate : Bool := true
deriving DecidableEq, Repr, Inhabited

/- The line that reports what happened last. -/
structure StatusLine where
  message : String := "Ready."
  isError : Bool := false
deriving DecidableEq, Repr, Inhabited

namespace StatusLine

def ready : StatusLine := {}

def loaded (name : String) : StatusLine :=
  { message := "Loaded configuration '" ++ name ++ "'" }

def viewAdded (count : Nat) : StatusLine :=
  { message :=
      String.ofList (Text.digits count) ++
      " project(s) to build" }

def submitted (name : String) : StatusLine :=
  { message := "Configuration '" ++ name ++ "' submitted" }

def cancelled (target : String) : StatusLine :=
  { message := "Cancelled, returning to " ++ target }

def failed (error : FormError) : StatusLine :=
  { message := error.message, isError := true }

end StatusLine

------------------------------------------------------------
-- Pages
------------------------------------------------------------

/- A page that was opened by a request. -/
structure Page where
  options : PageOptions
  request : PageRequest
  form : Form
  status : StatusLine := .ready
  submitted : Bool := false
  redirect : Option String := none
deriving DecidableEq, Repr

namespace Page

/- The page of a request before it asks the service. -/
def start
    (request : PageRequest)
    (options : PageOptions) : Page where
  options := options
  request := request
  form := Form.blank request.mode

/- Whether the user may edit the form. -/
def isMutable (page : Page) : Bool :=
  page.request.mode.isMutable

end Page

------------------------------------------------------------
-- Sessions
------------------------------------------------------------

/- A page and the state of the service that it talks to. -/
structure Session (σ : Type) where
  page : Page
  state : σ

/-
  An action on a session. What it did before a failure stays
  done.
-/
abbrev PageM (σ : Type) :=
  ExceptT FormError (StateM (Session σ))

namespace PageM

variable {σ α : Type}

/- Ask the service; its failure is the failure of the action. -/
def ask
    (service : Service σ)
    (request : Request) : PageM σ request.Answer :=
  ExceptT.mk fun session =>
    let (outcome, state) := service request session.state
    (outcome.mapError .service, { session with state })

def getPage : PageM σ Page := do
  return (← get).page

def getForm : PageM σ Form := do
  return (← get).page.form

def modifyPage (change : Page → Page) : PageM σ Unit :=
  modify fun session =>
    { session with page := change session.page }

def modifyForm (change : Form → Form) : PageM σ Unit :=
  modifyPage fun page =>
    { page with form := change page.form }

def setStatus (status : StatusLine) : PageM σ Unit :=
  modifyPage fun page => { page with status }

/- Fail unless the user may edit the form. -/
def requireMutable : PageM σ Unit := do
  if !(← getPage).isMutable then
    throw .readOnly

/- The action, a failure of which is put on the status line. -/
def reported (action : PageM σ α) : PageM σ α :=
  tryCatch action fun error => do
    setStatus (.failed error)
    throw error

/- The action of a form function that may fail. -/
def onForm
    (change : Form → Except FormError α × Form) :
    PageM σ α :=
  ExceptT.mk fun session =>
    let (result, form) := change session.page.form
    (result,
      { session with page := { session.page with form } })

/- The result of an action and the session after it. -/
def perform
    (action : PageM σ α)
    (session : Session σ) :
    Except FormError α × Session σ :=
  action.run.run session

end PageM

end BuildForm
