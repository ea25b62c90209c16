import BuildForm.Page.Opening
import BuildForm.Page.Sending

/-
  What the user can do on a page, and runs of it.

  Key definitions include:
    * `Action`
    * `Reply`
    * `Page.act`
    * `Session.step`
    * `Session.run`
-/

namespace BuildForm

/- An action of the user. -/
inductive Action where
  | init
  | addView
  | addBuilder (view : ViewId)
  | removeView (view : ViewId)
  | removeBuilder (view : ViewId) (builder : BuilderId)
  | selectCredentials (view : ViewId) (value : String)
  | rememberCredentials (view : ViewId)
  | edit (path : FieldPath) (value : String)
  | addPath (view : ViewId) (kind : SelectionKind)
  | press (view : ViewId) (kind : SelectionKind) (key : Key)
  | setVersionFiles (view : ViewId) (enabled : Bool)
  | setOtherConfig
      (view : ViewId) (builder : BuilderId) (checked : Bool)
  | checkTrigger (path : FieldPath)
  | toggleHelp (name : String)
  | toggleTriggerHelp (name : String)
  | addUser
  | deleteUser (row : UInt32)
  | submit
  | openReject
  | confirmReject
  | cancelReject
  | cancel
deriving DecidableEq, Repr

/- What an action answers. -/
inductive Reply where
  | done
  | flag (value : Bool)
  | view (id : ViewId)
  | builder (id : BuilderId)
  | credentials (value : Option String)
  | check (check : TriggerCheck)
  | row (id : Option UInt32)
  | submission (submission : Option Submission)
  | target (target : String)
deriving DecidableEq, Repr

namespace Page

open PageM

variable {σ : Type}

------------------------------------------------------------
-- Views
------------------------------------------------------------

/-
  Change the views of a form that the user may edit; otherwise
  nothing happens and the answer is `refused`.
-/
def onViews
    {α : Type}
    (refused : α)
    (change : Views → α × Views) : PageM σ α := do
  if (← getPage).isMutable then
    onForm fun form =>
      let (result, views) := change form.views
      (.ok result, { form with views })
  else
    return refused

/- Change one view; false if there is no such view. -/
def onView
    (id : ViewId)
    (change : View → Bool × View) : PageM σ Bool :=
  onViews false fun views =>
    (views.amend id change).getD (false, views)

/- Move the typed path of a view into its box. -/
def addPath
    (id : ViewId)
    (kind : SelectionKind) : PageM σ Unit := do
  requireMutable
  onForm fun form =>
    match form.views.amend id fun view => view.addPath kind with
    | some (result, views) => (result, { form with views })
    | none => (.error (.unknownView id), form)

/- A key press while a box of a view has the focus. -/
def press
    (id : ViewId)
    (kind : SelectionKind)
    (key : Key) : PageM σ Bool := do
  let deleteKey := (← getPage).options.deleteKey
  onView id fun view =>
    let (acted, box) := (view.box kind).press key deleteKey
    (acted, view.setBox kind box)

/- The checkbox of the version files of a view. -/
def setVersionFiles
    (id : ViewId)
    (enabled : Bool) : PageM σ Bool :=
  onView id fun view => (true, view.setVersionFiles enabled)

/- The checkbox of the override of a builder. -/
def setOtherConfig
    (id : ViewId)
    (builder : BuilderId)
    (checked : Bool) : PageM σ Bool :=
  onView id fun view =>
    match view.builder? builder with
    | some _ =>
        (true,
          view.mapBuilder builder
            (·.setOtherConfig checked))
    | none => (false, view)

------------------------------------------------------------
-- Help and Users
------------------------------------------------------------

/- Open or close a help block. -/
def toggleHelp (name : String) : PageM σ Bool :=
  onForm fun form =>
    let (shown, help) := form.help.toggle name
    (.ok shown, { form with help })

/- Hide the help of a trigger, or ask for it and show it. -/
def toggleTriggerHelp
    (service : Service σ)
    (name : String) : PageM σ Bool := do
  let form ← getForm
  if (form.help.triggerText? name).isSome then
    modifyForm fun form =>
      { form with help := form.help.hideTrigger name }
    return false
  else
    let message : String ← reported (ask service (.help name))
    modifyForm fun form =>
      { form with help := form.help.showTrigger name message }
    return true

/-
  Take the name out of the "add user" input and append a row
  for it. An empty input does nothing. The guard and the call
  report their failures apart.
-/
def addUser
    (service : Service σ) : PageM σ (Option UInt32) := do
  reported requireMutable
  let before ← getForm
  let name := before.addUser.value
  modifyForm fun form =>
    { form with addUser := form.addUser.clear }
  if name = "" then
    return none
  else
    let fragment : Fragment ← reported (ask service .freshUser)
    onForm fun form =>
      let (row, users) := form.users.push name fragment.html
      (.ok (some row), { form with users })

/- Delete the row of a user. -/
def deleteUser (row : UInt32) : PageM σ Bool := do
  if (← getPage).isMutable then
    onForm fun form =>
      let (removed, users) := form.users.remove row
      (.ok removed.isSome, { form with users })
  else
    return false

------------------------------------------------------------
-- Leaving
------------------------------------------------------------

/- Close the dialog and drop the reason typed into it. -/
def cancelReject : PageM σ Unit :=
  modifyForm fun form =>
    { form with
      rejectDialog :=
        { visible := false
          reason := form.rejectDialog.reason.clear } }

/- Leave the page. -/
def cancel : PageM σ String := do
  let target := (← getPage).options.cancelTarget
  modifyPage fun page =>
    { page with
      status := .cancelled target
      redirect := some target }
  return target

------------------------------------------------------------
-- Actions
------------------------------------------------------------

/-
  What an action does. Most that may fail report the failure of
  the whole; four report by themselves, where a failure can
  occur, and the rest never fail.
-/
def act (service : Service σ) : Action → PageM σ Reply
  | .init => do
      reported (init service)
      return .done
  | .addView => return .view (← reported (addView service))
  | .addBuilder view =>
      return .builder (← reported (addBuilder service view))
  | .removeView view =>
      return .flag (← onViews false (·.remove view))
  | .removeBuilder view builder =>
      return .flag
        (← onViews false (·.removeBuilder view builder))
  | .selectCredentials view value =>
      return .flag
        (← onViews false (·.selectCredentials view value))
  | .rememberCredentials view =>
      return .credentials
        (← onViews none (·.rememberCredentials view))
  | .edit path value => do
      let validate := (← getPage).options.autoValidate
      return .flag
        (← reported (onForm (·.edit path value validate)))
  | .addPath view kind => do
      reported (addPath view kind)
      return .done
  | .press view kind key =>
      return .flag (← press view kind key)
  | .setVersionFiles view enabled =>
      return .flag (← setVersionFiles view enabled)
  | .setOtherConfig view builder checked =>
      return .flag (← setOtherConfig view builder checked)
  | .checkTrigger path =>
      return .check (← reported (checkTrigger service path))
  | .toggleHelp name => return .flag (← toggleHelp name)
  | .toggleTriggerHelp name =>
      return .flag (← toggleTriggerHelp service name)
  | .addUser => return .row (← addUser service)
  | .deleteUser row => return .flag (← deleteUser row)
  | .submit =>
      return .submission (some (← reported (submit service)))
  | .openReject => do
      openReject
      return .done
  | .confirmReject =>
      return .submission (← confirmReject service)
  | .cancelReject => do
      cancelReject
      return .done
  | .cancel => return .target (← cancel)

end Page

------------------------------------------------------------
-- Runs
------------------------------------------------------------

namespace Session

variable {σ : Type}

/- The session of a request before any action. -/
def start
    (request : PageRequest)
    (options : PageOptions)
    (state : σ) : Session σ where
  page := Page.start request options
  state := state

/- The answer to an action and the session after it. -/
def step
    (service : Service σ)
    (session : Session σ)
    (action : Action) : Except FormError Reply × Session σ :=
  (Page.act service action).perform session

/- The session after some actions in order. -/
def run
    (service : Service σ)
    (session : Session σ)
    (actions : List Action) : Session σ :=
  actions.foldl
    (fun session action => (step service session action).2)
    session

end Session

end BuildForm
