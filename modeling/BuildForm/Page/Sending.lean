import BuildForm.Page.Basic

/-
  Judging triggers and submitting, approving or rejecting.

  Key definitions include:
    * `Page.checkTrigger`
    * `Page.recheckTriggers`
    * `Page.send`
    * `Page.submit`
    * `Page.reject`
    * `Page.confirmReject`
-/

namespace BuildForm

namespace Page

open PageM

variable {σ : Type}

------------------------------------------------------------
-- Triggers
------------------------------------------------------------

/- Have the schedule of a trigger judged; keep the verdict. -/
def checkTrigger
    (service : Service σ)
    (path : FieldPath) : PageM σ TriggerCheck := do
  let form ← getForm
  match form.trigger? path with
  | none => throw (.invalid path .notTrigger)
  | some trigger =>
      let answer : String ←
        ask service (.judgeTrigger trigger.field.value)
      let check := TriggerCheck.ofAnswer answer
      modifyForm fun form =>
        form.mapTrigger path fun trigger =>
          { trigger with check := some check }
      return check

/- Whether a trigger holds a schedule without a verdict. -/
def isStale (trigger : Trigger) : Bool :=
  trigger.check.isNone && trigger.field.value ≠ ""

/- Have a trigger judged if it lacks a verdict. -/
def recheckTrigger
    (service : Service σ)
    (path : FieldPath) : PageM σ Unit := do
  let form ← getForm
  if (form.trigger? path).any isStale then
    let _ ← checkTrigger service path

/- Have both triggers judged that lack a verdict. -/
def recheckTriggers (service : Service σ) : PageM σ Unit := do
  recheckTrigger service .pollScmTrigger
  recheckTrigger service .buildPeriodicallyTrigger

------------------------------------------------------------
-- Sending
------------------------------------------------------------

def setSubmitted (submitted : Bool) : PageM σ Unit :=
  modifyPage fun page => { page with submitted }

/-
  Hand the form to the service. The page counts as submitted
  from then on, unless the service fails.
-/
def send (service : Service σ) : PageM σ Submission := do
  setSubmitted true
  let form ← getForm
  let submission := form.toSubmission
  tryCatch (ask service (.submit submission)) fun error => do
    setSubmitted false
    throw error
  setStatus
    (.submitted submission.configuration.projectName)
  return submission

/- Send a form with a result. -/
def sendWith
    (service : Service σ)
    (result : FormResult) : PageM σ Submission := do
  modifyForm fun form =>
    { form with formResult := some result }
  send service

/- Fail if the page was submitted before. -/
def requireUnsubmitted : PageM σ Unit := do
  if (← getPage).submitted then
    throw .alreadySubmitted

/-
  Save, or approve. The form is checked first, and the name
  of a new configuration has to be free.
-/
def submit (service : Service σ) : PageM σ Submission := do
  requireUnsubmitted
  if (← getPage).isMutable then
    recheckTriggers service
  let outcome ← onForm fun form =>
    let (outcome, form) := form.check
    (.ok outcome, form)
  match outcome with
  | .blocked error => throw error
  | .ready => sendWith service .other
  | .nameCheckRequired =>
      let form ← getForm
      let name := form.projectName.value
      let isFree : Bool ← ask service (.isNameFree name)
      if isFree then
        modifyForm fun form =>
          { form with formMessage := none }
        sendWith service .create
      else
        let error := FormError.nameConflict name
        modifyForm fun form =>
          { form with formMessage := some error.message }
        throw error

------------------------------------------------------------
-- Rejecting
------------------------------------------------------------

/- Fail unless the page is one to approve or reject. -/
def requireApproveReject : PageM σ Unit := do
  if (← getPage).request.mode ≠ .approveReject then
    throw .readOnly

/- Show the dialog that asks for a reason. -/
def openReject : PageM σ Unit := do
  reported requireApproveReject
  modifyForm fun form =>
    { form with
      rejectDialog := { form.rejectDialog with visible := true }
      focus := some .rejectionReason }

/- Send the form unchecked, as rejected for a reason. -/
def reject
    (service : Service σ)
    (reason : String) : PageM σ Submission := do
  requireUnsubmitted
  modifyForm fun form =>
    { form with
      rejectionReason := reason
      formType := .reject }
  send service

/-
  Confirm a rejection: without a reason only the focus moves.
  The guard and the sending report their failures apart.
-/
def confirmReject
    (service : Service σ) : PageM σ (Option Submission) := do
  reported requireApproveReject
  let form ← getForm
  let reason := form.rejectDialog.reason.value
  if reason = "" then
    modifyForm (·.focusOn .rejectionReason)
    return none
  else
    return some (← reported (reject service reason))

end Page

end BuildForm
