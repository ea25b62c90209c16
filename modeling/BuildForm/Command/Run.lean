import BuildForm.Command.Arguments
import BuildForm.Page.Action
import BuildForm.Screen.Draw
import BuildForm.Service.Directory

/-
  Runs of the command over a directory tree.

  Key definitions include:
    * `Command.Outcome`
    * `Command.Sink`
    * `Command.Fault`
    * `Command.Outcome.printed`
    * `Command.edit?`
    * `Command.applyEdit`
    * `Command.conclude`
    * `Command.report`
    * `Command.directory`
    * `Command.run`
    * `Command.answer`
-/

namespace BuildForm

namespace Command

open PageM

------------------------------------------------------------
-- Outcomes
------------------------------------------------------------

/-
  What a run leaves behind. Its output is what it hands to
  standard output, whether that takes it or not.
-/
structure Outcome where
  code : UInt32 := 0
  output : String := ""
  review : List String := []
  complaint : Option String := none
  tree : Tree

/- Why a report does not get out. -/
inductive PrintFault where
  | write
  | flush
deriving DecidableEq, Repr

def PrintFault.message : PrintFault → String
  | .write => "failed to write report"
  | .flush => "failed to flush report"

/- Standard output: whether it takes a text that is printed. -/
def Sink : Type :=
  String → Except PrintFault Unit

/- One that takes every text. -/
def Sink.ready : Sink :=
  fun _ => .ok ()

/- Why a run fails. -/
inductive Fault where
  | query (fault : PageRequest.Fault)
  | nothingToApprove
  | opening (store : String) (error : FormError)
  | acting (error : FormError)
  | printing (fault : PrintFault)
deriving DecidableEq, Repr

def Fault.message : Fault → String
  | .query fault => fault.message
  | .nothingToApprove =>
      "--approve needs a query with type=ApproveReject"
  | .opening store error =>
      "failed to open page from " ++ store ++ ": " ++
      error.message
  | .acting error => error.message
  | .printing fault => fault.message

namespace Outcome

/- The outcome of a run that fails before its report. -/
def failed (tree : Tree) (fault : Fault) : Outcome where
  code := 1
  complaint := some fault.message
  tree := tree

/-
  What is left of an outcome once its report is printed. If
  that fails, nothing else is complained about, and what the
  run did to the tree stays done.
-/
def printed (outcome : Outcome) (sink : Sink) : Outcome :=
  match sink outcome.output with
  | .ok _ => outcome
  | .error fault =>
      { outcome with
        code := 1
        complaint := some (Fault.printing fault).message }

end Outcome

------------------------------------------------------------
-- Edits and Conclusions
------------------------------------------------------------

variable {σ : Type}

/- The input and the value of an edit, `FIELD=VALUE`. -/
def edit? (text : String) : Option (FieldPath × String) :=
  match Text.cutAt? '=' text.toList with
  | none => none
  | some (name, value) =>
      (FieldPath.parse? (String.ofList name)).map fun path =>
        (path, String.ofList value)

/-
  Make an edit and have a trigger judged at once. An edit
  without an equals sign or of an unknown field is passed
  over.
-/
def applyEdit
    (service : Service σ)
    (text : String) : PageM σ Unit :=
  match edit? text with
  | none => pure ()
  | some (path, value) => do
      let _ ← Page.act service (.edit path value)
      match path with
      | .pollScmTrigger | .buildPeriodicallyTrigger =>
          let _ ← Page.act service (.checkTrigger path)
      | _ => pure ()

/- Submit or reject the form, if that was asked for. -/
def conclude
    (service : Service σ) :
    Conclusion → PageM σ (Option Submission)
  | .keep => return none
  | .submit | .approve =>
      return some (← reported (Page.submit service))
  | .reject reason => do
      let _ ← Page.act service .openReject
      let _ ← Page.act service (.edit .rejectionReason reason)
      Page.confirmReject service

/- All edits in order and then the conclusion. -/
def work
    (service : Service σ)
    (arguments : Arguments) : PageM σ (Option Submission) := do
  arguments.edits.forM (applyEdit service)
  conclude service arguments.conclusion

------------------------------------------------------------
-- Reports
------------------------------------------------------------

def changeValue (change : FieldChange) : Value :=
  .table
    [("field", .text change.field.elementId),
     ("was", .text change.oldText)]

/- The report on a page and on what it submitted. -/
def report
    (page : Page)
    (submission : Option Submission) : Value :=
  let form := page.form
  .table
    [("mode", .text page.request.mode.name),
     ("status", .text page.status.message),
     ("isError", .flag page.status.isError),
     ("focus",
       .textOrNull (form.focus.map FieldPath.elementName)),
     ("configuration", form.toConfiguration.toValue),
     ("changes",
       .list (form.difference.changes.map changeValue)),
     ("changedMachines", .texts form.difference.machines),
     ("submission",
       match submission with
       | none => .null
       | some submission => submission.toValue)]

/- A report as it is printed. -/
def reportText (pretty : Bool) (report : Value) : String :=
  let text :=
    if pretty then Json.pretty report else Json.compact report
  String.ofList (text ++ ['\n'])

------------------------------------------------------------
-- Runs
------------------------------------------------------------

/- The screen on which a page is shown for review. -/
def reviewRows (page : Page) : List String :=
  Screen.draw page.form page.status 80 24 0

/- The directory that a run works on, as its arguments say. -/
def directory (arguments : Arguments) : Directory where
  root := arguments.store
  user := arguments.user
  administrators := arguments.administrators

/-
  Open the page of a request, edit it, conclude, and print a
  report. A failure after the page is open is reported as
  well, and the report comes last, after all that is stored.
-/
def runPage
    (arguments : Arguments)
    (request : PageRequest)
    (tree : Tree)
    (sink : Sink) : Outcome :=
  let service := (directory arguments).service
  let fresh := Session.start request {} tree
  match (Page.act service .init).perform fresh with
  | (.error error, after) =>
      .failed after.state (.opening arguments.store error)
  | (.ok _, opened) =>
      let (result, session) :=
        (work service arguments).perform opened
      let submission := match result with
        | .ok submission => submission
        | .error _ => none
      let complaint := match result with
        | .ok _ => none
        | .error error => some (Fault.acting error).message
      let outcome : Outcome :=
        { code := if complaint.isNone then 0 else 1
          output := reportText arguments.pretty
            (report session.page submission)
          review :=
            if arguments.review then
              reviewRows session.page
            else
              []
          complaint
          tree := session.state }
      outcome.printed sink

/- Run the command on the tree of its store. -/
def run
    (arguments : Arguments)
    (tree : Tree)
    (sink : Sink) : Outcome :=
  match PageRequest.parse arguments.query with
  | .error fault => .failed tree (.query fault)
  | .ok request =>
      if arguments.conclusion = .approve ∧
          request.mode ≠ .approveReject then
        .failed tree .nothingToApprove
      else
        runPage arguments request tree sink

------------------------------------------------------------
-- The Command Line
------------------------------------------------------------

def versionText : String :=
  "configurator 0.1.0\n"

def helpText : String :=
  "Open, edit and submit CI build configurations stored in " ++
  "a directory\n\n" ++
  "Usage: configurator [OPTIONS] --store <DIR>\n\n" ++
  "Options:\n" ++
  "  -s, --store <DIR>        Directory holding defaults, " ++
  "users and one folder per configuration\n" ++
  "  -q, --query <QUERY>      Page query, e.g. " ++
  "\"name=core&type=edit\"; empty starts a new " ++
  "configuration [default: ]\n" ++
  "  -u, --user <ID>          Id of the acting user " ++
  "[default: anonymous]\n" ++
  "      --admin <ID>         User ids treated as " ++
  "administrators\n" ++
  "      --set <FIELD=VALUE>  Field edits applied after " ++
  "loading, as FIELD=VALUE (e.g. " ++
  "projectToBuild_0/projectUrl=...)\n" ++
  "      --submit             Validate and save the form\n" ++
  "      --approve            Approve the pending " ++
  "configuration (approve-reject pages only)\n" ++
  "      --reject <REASON>    Reject the pending " ++
  "configuration with the given reason\n" ++
  "      --review             Show the resulting page in " ++
  "the terminal before printing the report\n" ++
  "      --pretty             Pretty-print the JSON report\n" ++
  "  -h, --help               Print help\n" ++
  "  -V, --version            Print version\n"

/-
  The outcome of what the arguments read as. Refused
  arguments have a code of their own and, like requests for
  help, leave the tree alone. Help is not missed if it cannot
  be printed.
-/
def answer
    (reading : Except Arguments.Fault Arguments.Reading)
    (tree : Tree)
    (sink : Sink := Sink.ready) : Outcome :=
  match reading with
  | .error fault =>
      { code := 2, complaint := some fault.message, tree }
  | .ok .help => { output := helpText, tree }
  | .ok .version => { output := versionText, tree }
  | .ok (.run arguments) => run arguments tree sink

end Command

end BuildForm
