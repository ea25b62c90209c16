import BuildForm.Page.Basic

/-
  Opening a page and adding project views to it.

  Key definitions include:
    * `Page.addBuilder`
    * `Page.addView`
    * `Page.loadContent`
    * `Page.openStored`
    * `Page.openNew`
    * `Page.init`
-/

namespace BuildForm

namespace Page

open PageM

variable {σ : Type}

------------------------------------------------------------
-- Adding Views and Builders
------------------------------------------------------------

/- Ask for a builder and append it to a view. -/
def addBuilder
    (service : Service σ)
    (view : ViewId) : PageM σ BuilderId := do
  requireMutable
  let fragment : Fragment ← ask service .freshBuilder
  let form ← getForm
  match form.views.addBuilder view fragment with
  | some (builder, views) =>
      modifyForm fun form => { form with views }
      return builder
  | none => throw (.unknownView view)

/- Ask for a view, append it, and add a builder to it. -/
def addView (service : Service σ) : PageM σ ViewId := do
  requireMutable
  modifyForm fun form => { form with addViewPrompt := false }
  let fragment : ViewFragment ← ask service .freshView
  let before ← getForm
  let (view, views) :=
    before.views.insert fragment before.scmKind
  modifyForm fun form => { form with views }
  let _ ← addBuilder service view
  let after ← getForm
  setStatus (.viewAdded after.views.items.length)
  return view

------------------------------------------------------------
-- Loading a Stored Configuration
------------------------------------------------------------

def loadViews
    (service : Service σ)
    (name : String) : PageM σ Unit := do
  let loaded : LoadedViews ← ask service (.views name)
  modifyForm fun form =>
    { form with views := form.views.load loaded }

def loadUsers
    (service : Service σ)
    (name : String) : PageM σ Unit := do
  let loaded : LoadedUsers ← ask service (.users name)
  modifyForm fun form =>
    { form with
      users := form.users.load loaded.html loaded.users }

/-
  Compare with the approved configuration. If there is one,
  the views that only it has are shown as well.
-/
def loadDifference
    (service : Service σ)
    (name : String)
    (current : Configuration) : PageM σ Unit := do
  let approved : Option Configuration ←
    ask service (.approved name)
  let difference := Difference.between current approved
  if difference.hasApproved then
    let deleted : LoadedViews ←
      ask service (.deletedViews name)
    modifyForm fun form =>
      { form with
        views :=
          form.views.loadDeleted deleted.html deleted.views }
  modifyForm fun form => { form with difference }

/-
  Load the record with the full name of its creator, and
  unless it is approved compare it with the approved one.
-/
def loadContent
    (service : Service σ)
    (name : String) : PageM σ Unit := do
  let config : Configuration ←
    ask service (.configuration name)
  modifyForm (·.applyConfiguration config)
  if let some creator := config.creator then
    let fullName : String ← ask service (.fullName creator)
    modifyForm (·.setCreatorName fullName)
  if !config.isApproved then
    loadDifference service name config

------------------------------------------------------------
-- Opening
------------------------------------------------------------

/- Open a stored configuration. -/
def openStored
    (service : Service σ)
    (name : String) : PageM σ Unit := do
  loadViews service name
  loadUsers service name
  loadContent service name
  modifyForm fun form =>
    { form with nameLocked := true, commentsEnabled := true }
  setStatus (.loaded name)

/- Start a new configuration from the defaults. -/
def openNew (service : Service σ) : PageM σ Unit := do
  let page ← getPage
  modifyForm fun form =>
    { form with
      formType := .create
      views := form.views.reset }
  modifyForm fun form => (form.setCommentsEnabled false).2
  modifyForm fun form =>
    form.mapField .pollScmTrigger
      (·.setValue page.options.defaultPollTrigger)
  let defaults : NewDefaults ← ask service .newDefaults
  modifyForm fun form =>
    { form with
      scm := defaults.scm.getD form.scm
      machines := Machines.ofNodes defaults.nodes
      views :=
        { form.views with
          defaultCredentials := defaults.defaultCredentials } }
  let _ ← addView service
  setStatus .ready

/- Open the page that was requested. -/
def init (service : Service σ) : PageM σ Unit := do
  let page ← getPage
  match page.request.name with
  | some name => openStored service name
  | none => openNew service
  let isAdmin : Bool ← ask service .isAdministrator
  modifyForm fun form => { form with isAdmin }

end Page

end BuildForm
