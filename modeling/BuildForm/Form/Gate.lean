import BuildForm.Form.Basic

/-
  The check of a form before it is submitted.

  Key definitions include:
    * `FormCheck`
    * `Form.viewOffence?`
    * `Form.check`
    * `Form.isValid`
-/

namespace BuildForm

/-
  The outcome of the check. A new configuration passes only
  if its name is confirmed to be free besides.
-/
inductive FormCheck where
  | ready
  | nameCheckRequired
  | blocked (error : FormError)
deriving DecidableEq, Repr

namespace Form

------------------------------------------------------------
-- Offending Inputs
------------------------------------------------------------

/-
  The path inputs in the order in which they are looked at;
  each of them is looked at in all views first.
-/
def pathGroups : List ViewField :=
  [.projectUrl, .localDirectoryPath, .pathToArtifacts,
   .versionFilesPath, .fileToBuild]

/- The first of the page's e-mail inputs with a fault. -/
def mailOffence? (form : Form) : Option (FieldPath × Reason) :=
  [FieldPath.email, .configEmail].findSome? fun path =>
    (form.field? path).bind fun field =>
      field.fault.map fun fault => (path, .rule fault)

/- The first trigger whose last verdict is that it is wrong. -/
def triggerOffence?
    (form : Form) : Option (FieldPath × Reason) :=
  [FieldPath.pollScmTrigger, .buildPeriodicallyTrigger].findSome?
    fun path =>
      (form.trigger? path).bind fun trigger =>
        trigger.check.bind fun check =>
          if check.valid then
            none
          else
            some (path, .schedule check.message)

/- The first view with a fault in the input of a name. -/
def groupOffence?
    (views : List View)
    (name : ViewField) : Option (FieldPath × Reason) :=
  views.findSome? fun view =>
    (view.field? name).bind fun field =>
      field.fault.map fun fault =>
        (.view view.id name, .rule fault)

/- The first builder with a fault in its override. -/
def builderOffence?
    (views : List View) : Option (FieldPath × Reason) :=
  views.findSome? fun view =>
    view.builders.findSome? fun builder =>
      builder.userConfig.fault.map fun fault =>
        (.builder view.id builder.id, .rule fault)

/- The first fault in the path inputs and overrides. -/
def viewOffence?
    (form : Form) : Option (FieldPath × Reason) :=
  match pathGroups.findSome?
      (groupOffence? form.views.items) with
  | some offence => some offence
  | none => builderOffence? form.views.items

------------------------------------------------------------
-- The Check
------------------------------------------------------------

/- Block the form at an input, which gets the focus. -/
def blockAt
    (form : Form)
    (offence : FieldPath × Reason) : FormCheck × Form :=
  (.blocked (.invalid offence.1 offence.2),
    form.focusOn offence.1)

/- Run the rules of all views, touched or not. -/
def revalidateViews (form : Form) : Form :=
  { form with
    views :=
      { form.views with
        items := form.views.items.map View.revalidate } }

/- What a form without a fault is ready for. -/
def pass (form : Form) : FormCheck × Form :=
  match form.mode with
  | .edit => (.ready, form)
  | .approveReject =>
      (.ready, { form with formType := .approved })
  | .create => (.nameCheckRequired, form)
  | .view => (.blocked .readOnly, form)

/-
  Check the project name, that there is a view, the e-mail
  and trigger indicators, and then every path input and every
  override anew. The first fault blocks the form.
-/
def check (form : Form) : FormCheck × Form :=
  if form.mode = .view then
    (.blocked .readOnly, form)
  else
    let fault :=
      FieldKind.projectName.fault? form.projectName.value
    let form :=
      { form with
        formMessage := none
        projectName := { form.projectName with fault } }
    match fault with
    | some fault => form.blockAt (.projectName, .rule fault)
    | none =>
        if form.views.isEmpty then
          (.blocked .missingView,
            { form with addViewPrompt := true })
        else
          let form := { form with addViewPrompt := false }
          match form.mailOffence?.or form.triggerOffence? with
          | some offence => form.blockAt offence
          | none =>
              let form := form.revalidateViews
              match form.viewOffence? with
              | some offence => form.blockAt offence
              | none => form.pass

/- Whether the form may be submitted without further ado. -/
def isValid (form : Form) : Bool × Form :=
  let (outcome, form) := form.check
  (outcome = .ready, form)

end Form

end BuildForm
