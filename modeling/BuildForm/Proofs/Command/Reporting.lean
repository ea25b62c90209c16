import Mathlib.Data.Prod.Basic
import BuildForm.Command.Run
import BuildForm.Proofs.Command.Editing
import BuildForm.Proofs.Command.Flags
import BuildForm.Proofs.Document.RecordValues
import BuildForm.Proofs.Page.Storing

/-
  The command changes its store only when it hands out a
  report of a submission.

  Nothing is stored while the page is opened and edited. The
  form leaves the page once at the most, at the end, and all
  that can fail from there on is printing the report: what
  was stored is what the report tells, whether it gets out or
  not.

  Main declarations:
    * `Command.conclude_spec`
    * `Command.parse?_reportText`
    * `Command.Outcome.IsPrinted`
    * `Command.Outcome.LosesReport`
    * `Command.Reports`
    * `Command.run_reports`
    * `Command.run_of_endsInvalid`
    * `Command.changes_are_reported`
-/

------------------------------------------------------------
-- Edits and Conclusions
------------------------------------------------------------

namespace BuildForm

namespace Command

open PageM

/- Only where it was asked for is a submission reported. -/
theorem conclude_spec
    (directory : Directory)
    (request : PageRequest)
    (tree : Tree)
    (conclusion : Conclusion) :
    Triple (Session.IsAt request tree)
      (conclude directory.service conclusion)
      (fun submission session =>
        directory.HasStored tree session submission ∧
          (conclusion = .keep → submission = none))
      (fun _ => Session.IsAt request tree) := by
  have hAct := directory.keeps_act request tree
  have hSubmit :
      ∀ conclusion : Conclusion,
        conclusion ≠ .keep →
        Triple (Session.IsAt request tree)
          (do
            let submission ←
              reported (Page.submit directory.service)
            return some submission)
          (fun submission session =>
            directory.HasStored tree session submission ∧
              (conclusion = .keep → submission = none))
          (fun _ => Session.IsAt request tree) := by
    intro conclusion hConclusion
    apply Triple.bind
      (Directory.reported_spec
        (directory.submit_spec request tree))
    intro submission
    apply Triple.pure
    intro session hSession
    exact ⟨hSession, fun hKeep => absurd hKeep hConclusion⟩
  cases conclusion with
  | keep =>
      apply Triple.pure
      intro session hSession
      exact ⟨hSession.tree, fun _ => rfl⟩
  | submit => exact hSubmit .submit (by simp)
  | approve => exact hSubmit .approve (by simp)
  | reject reason =>
      apply Triple.bind (hAct .openReject (by simp) (by simp))
      intro _
      apply Triple.bind
        (hAct (.edit .rejectionReason reason) (by simp) (by simp))
      intro _
      apply Triple.weaken
        (directory.confirmReject_spec request tree)
      · exact fun _ hSession => hSession
      · intro submission session hSession
        exact ⟨hSession, by simp⟩

theorem work_spec
    (directory : Directory)
    (request : PageRequest)
    (tree : Tree)
    (arguments : Arguments) :
    Triple (Session.IsAt request tree)
      (work directory.service arguments)
      (fun submission session =>
        directory.HasStored tree session submission ∧
          (arguments.conclusion = .keep → submission = none))
      (fun _ => Session.IsAt request tree) := by
  have hAct := directory.keeps_act request tree
  have hEdits :
      Keeps (Session.IsAt request tree)
        (arguments.edits.forM (applyEdit directory.service)) :=
    keeps_edits fun edit _ =>
      keeps_applyEdit fun _ _ _ =>
        ⟨hAct _ (by simp) (by simp), hAct _ (by simp) (by simp)⟩
  apply Triple.bind hEdits
  intro _
  exact conclude_spec directory request tree _

end Command

end BuildForm

------------------------------------------------------------
-- Reports
------------------------------------------------------------

namespace BuildForm

theorem Submission.plain_toValue
    (submission : Submission)
    (depth : Nat) :
    submission.toValue.Plain (depth + 6) := by
  have hConfiguration :=
    submission.configuration.plain_toValue depth
  have hHidden :
      (Value.ofTable .text submission.hiddenFields).Plain
        (depth + 5) :=
    Value.plain_ofTable .text submission.hiddenFields
      fun _ => Value.Plain.text
  exact Value.Plain.table (by simp [Entries.keys])
    (by simp [hConfiguration, hHidden])

namespace Command

/- Seven levels hold every report. -/
theorem plain_report
    (page : Page)
    (submission : Option Submission)
    (depth : Nat) :
    (report page submission).Plain (depth + 7) := by
  have hConfiguration :=
    page.form.toConfiguration.plain_toValue (depth + 1)
  have hChange :
      ∀ change : FieldChange,
        (changeValue change).Plain (depth + 5) :=
    fun _ => Value.Plain.table (by simp [Entries.keys]) (by simp)
  have hChanges :=
    Value.plain_map changeValue page.form.difference.changes
      hChange
  apply Value.Plain.table (by simp [Entries.keys])
  cases submission with
  | none => simp [hConfiguration, hChanges]
  | some submission =>
      have hSubmission := submission.plain_toValue depth
      simp [hConfiguration, hChanges, hSubmission]

/- A report that is printed can be read back. -/
theorem parse?_reportText
    (pretty : Bool)
    (page : Page)
    (submission : Option Submission) :
    Json.parse? (reportText pretty (report page submission)) =
      some (report page submission) := by
  have hPlain := plain_report page submission 120
  have hBreak : Json.IsGap ['\n'] := by
    simp [Json.IsGap, Json.isSpace]
  unfold reportText
  cases pretty with
  | true =>
      exact
        Json.parse?_of_spells_append
          (Json.spells_prettyAt hPlain 0) hBreak
  | false =>
      exact
        Json.parse?_of_spells_append
          (Json.spells_compact hPlain) hBreak

end Command

end BuildForm

------------------------------------------------------------
-- What Outcomes Tell
------------------------------------------------------------

namespace BuildForm

namespace Command

/- What is printed tells of no submission. -/
def TellsNone (output : String) : Prop :=
  ∀ fields,
    Json.parse? output = some (.table fields) →
      fields.lookup "submission" = some .null

/- What is printed tells of a submission and its record. -/
def Tells (output : String) (submission : Submission) : Prop :=
  ∃ fields,
    Json.parse? output = some (.table fields) ∧
      fields.lookup "submission" = some submission.toValue ∧
      fields.lookup "configuration" =
        some submission.configuration.toValue

variable {tree : Tree}

theorem tellsNone_empty : TellsNone "" := by
  intro fields hParse
  cases hParse

theorem tellsNone_report (pretty : Bool) (page : Page) :
    TellsNone (reportText pretty (report page none)) := by
  intro fields hParse
  rw [parse?_reportText] at hParse
  cases hParse
  rfl

/- A form that was sent is told along with itself. -/
theorem tells_report
    (pretty : Bool)
    {page : Page}
    {submission : Submission}
    (hForm : submission = page.form.toSubmission) :
    Tells (reportText pretty (report page (some submission)))
      submission := by
  refine ⟨_, parse?_reportText pretty page _, rfl, ?_⟩
  rw [hForm]
  rfl

/- The report got out, and nothing is complained about. -/
def Outcome.IsPrinted (outcome : Outcome) (sink : Sink) : Prop :=
  sink outcome.output = .ok () ∧
    outcome.code = 0 ∧
    outcome.complaint = none

/- The report did not get out, and that is the complaint. -/
def Outcome.LosesReport
    (outcome : Outcome)
    (sink : Sink) : Prop :=
  ∃ fault,
    sink outcome.output = .error fault ∧
      outcome.code = 1 ∧
      outcome.complaint = some (Fault.printing fault).message

/- A run that fails, on the tree there was. -/
structure Outcome.Fails (outcome : Outcome) (tree : Tree) :
    Prop where
  code : outcome.code = 1
  tree : outcome.tree = tree
  tells : TellsNone outcome.output

namespace Outcome

variable (outcome : Outcome)
variable (sink : Sink)

@[simp]
theorem tree_printed :
    (outcome.printed sink).tree = outcome.tree := by
  unfold printed
  split <;> rfl

@[simp]
theorem output_printed :
    (outcome.printed sink).output = outcome.output := by
  unfold printed
  split <;> rfl

/- Printing makes no failure good. -/
theorem Fails.printed
    {outcome : Outcome}
    (hFails : outcome.Fails tree) :
    (outcome.printed sink).Fails tree where
  code := by
    unfold Outcome.printed
    split
    · exact hFails.code
    · rfl
  tree := (outcome.tree_printed sink).trans hFails.tree
  tells := by
    rw [output_printed]
    exact hFails.tells

/- What is done ends well if its report gets out. -/
theorem isPrinted_or_losesReport
    (hCode : outcome.code = 0)
    (hComplaint : outcome.complaint = none) :
    (outcome.printed sink).IsPrinted sink ∨
      (outcome.printed sink).LosesReport sink := by
  unfold IsPrinted LosesReport
  rw [output_printed]
  unfold printed
  cases sink outcome.output with
  | ok _ => exact .inl ⟨rfl, hCode, hComplaint⟩
  | error fault => exact .inr ⟨fault, rfl, rfl, rfl⟩

theorem fails_failed (tree : Tree) (fault : Fault) :
    (failed tree fault).Fails tree :=
  ⟨rfl, rfl, tellsNone_empty⟩

end Outcome

end Command

end BuildForm

------------------------------------------------------------
-- Runs
------------------------------------------------------------

namespace BuildForm

namespace Command

open PageM

variable {request : PageRequest}
variable {tree : Tree}

/-
  What comes of a run: a failure, on the tree there was; no
  submission, on that tree as well; or one that was asked
  for and stored. The report on it is handed to standard
  output, and that it does not get out is the only failure
  there may be.
-/
inductive Reports
    (directory : Directory)
    (conclusion : Conclusion)
    (tree : Tree)
    (sink : Sink)
    (outcome : Outcome) : Prop where
  | failed :
      outcome.Fails tree →
      Reports directory conclusion tree sink outcome
  | kept :
      outcome.IsPrinted sink ∨ outcome.LosesReport sink →
      outcome.tree = tree →
      TellsNone outcome.output →
      Reports directory conclusion tree sink outcome
  | stored (submission : Submission) :
      outcome.IsPrinted sink ∨ outcome.LosesReport sink →
      conclusion ≠ .keep →
      directory.submit tree submission =
        (.ok (), outcome.tree) →
      Tells outcome.output submission →
      Reports directory conclusion tree sink outcome

variable {arguments : Arguments}
variable {opened session : Session Tree}
variable {reply : Reply}

/- A page that is open and whose work fails. -/
theorem runPage_fails
    (sink : Sink)
    {error : FormError}
    (hInit :
      (Page.act (directory arguments).service .init).perform
          (Session.start request {} tree) =
        (.ok reply, opened))
    (hWork :
      (work (directory arguments).service arguments).perform
          opened =
        (.error error, session))
    (hTree : session.state = tree) :
    (runPage arguments request tree sink).Fails tree := by
  unfold runPage
  dsimp only
  rw [hInit]
  dsimp only
  rw [hWork]
  apply Outcome.Fails.printed
  exact
    ⟨rfl, hTree,
      tellsNone_report arguments.pretty session.page⟩

/- A page that is open and whose work is done. -/
theorem runPage_done
    (sink : Sink)
    {submission : Option Submission}
    (hInit :
      (Page.act (directory arguments).service .init).perform
          (Session.start request {} tree) =
        (.ok reply, opened))
    (hWork :
      (work (directory arguments).service arguments).perform
          opened =
        (.ok submission, session)) :
    let outcome := runPage arguments request tree sink
    (outcome.IsPrinted sink ∨ outcome.LosesReport sink) ∧
      outcome.tree = session.state ∧
      outcome.output =
        reportText arguments.pretty
          (report session.page submission) := by
  unfold runPage
  dsimp only
  rw [hInit]
  dsimp only
  rw [hWork, Outcome.tree_printed, Outcome.output_printed]
  exact
    ⟨Outcome.isPrinted_or_losesReport _ sink rfl rfl, rfl, rfl⟩

/-
  A page that does not open leaves the tree alone, and so does
  one that opens, up to its work.
-/
theorem runPage_cases
    (arguments : Arguments)
    (request : PageRequest)
    (tree : Tree)
    (sink : Sink) :
    (runPage arguments request tree sink).Fails tree ∨
      ∃ reply opened,
        (Page.act (directory arguments).service .init).perform
            (Session.start request {} tree) =
          (.ok reply, opened) ∧
          opened.Works request tree fun _ => True := by
  have hOpening :
      PageM.Keeps (Session.Works request tree fun _ => True)
        (Page.act (directory arguments).service .init) :=
    (directory arguments).keeps_works request tree (by simp)
      (by simp) fun _ _ _ _ => trivial
  have hOpened :=
    hOpening _ (Session.works_start request tree)
  rcases
    hInit :
      (Page.act (directory arguments).service .init).perform
        (Session.start request {} tree) with
    ⟨_ | reply, opened⟩
  · rw [hInit] at hOpened
    left
    unfold runPage
    dsimp only
    rw [hInit]
    dsimp only
    rw [hOpened.1.tree]
    exact Outcome.fails_failed _ _
  · rw [hInit] at hOpened
    exact .inr ⟨reply, opened, rfl, hOpened⟩

theorem runPage_reports
    (arguments : Arguments)
    (request : PageRequest)
    (tree : Tree)
    (sink : Sink) :
    Reports (directory arguments) arguments.conclusion tree sink
      (runPage arguments request tree sink) := by
  rcases runPage_cases arguments request tree sink with
    hFails | ⟨reply, opened, hInit, hOpened⟩
  · exact .failed hFails
  · have hWork :=
      work_spec (directory arguments) request tree arguments
        opened hOpened.1
    rcases
      hPerform :
        (work (directory arguments).service arguments).perform
          opened with
      ⟨_ | submission, session⟩
    · rw [hPerform] at hWork
      exact .failed (runPage_fails sink hInit hPerform hWork.tree)
    · rw [hPerform] at hWork
      rcases hWork with ⟨hStored, hKeep⟩
      rcases runPage_done sink hInit hPerform with
        ⟨hEnds, hTree, hOutput⟩
      cases submission with
      | none =>
          refine .kept hEnds (hTree.trans hStored) ?_
          rw [hOutput]
          exact tellsNone_report arguments.pretty session.page
      | some submission =>
          rcases hStored with ⟨hForm, hSubmit⟩
          refine .stored submission hEnds ?_ ?_ ?_
          · intro hConclusion
            cases hKeep hConclusion
          · rw [hTree]
            exact hSubmit
          · rw [hOutput]
            exact tells_report arguments.pretty hForm

/- A request is refused, or its page is opened. -/
theorem run_cases
    (arguments : Arguments)
    (tree : Tree)
    (sink : Sink) :
    (run arguments tree sink).Fails tree ∨
      ∃ request,
        PageRequest.parse arguments.query = .ok request ∧
          run arguments tree sink =
            runPage arguments request tree sink := by
  unfold run
  split
  · exact .inl (Outcome.fails_failed _ _)
  · rename_i request hRequest
    split
    · exact .inl (Outcome.fails_failed _ _)
    · exact .inr ⟨request, hRequest, rfl⟩

theorem run_reports
    (arguments : Arguments)
    (tree : Tree)
    (sink : Sink) :
    Reports (directory arguments) arguments.conclusion tree sink
      (run arguments tree sink) := by
  rcases run_cases arguments tree sink with
    hFails | ⟨request, _, hRun⟩
  · exact .failed hFails
  · rw [hRun]
    exact runPage_reports arguments request tree sink

end Command

end BuildForm

------------------------------------------------------------
-- Changes of the Tree
------------------------------------------------------------

namespace BuildForm

namespace Command

open PageM

variable {tree : Tree}
variable {sink : Sink}

/-
  The arguments are those of a run, and its page opens on a
  session.
-/
def Opens
    (arguments : List String)
    (tree : Tree)
    (parsed : Arguments)
    (opened : Session Tree) : Prop :=
  Arguments.read arguments = .ok (.run parsed) ∧
    ∃ request reply,
      PageRequest.parse parsed.query = .ok request ∧
        (Page.act (directory parsed).service .init).perform
            (Session.start request {} tree) =
          (.ok reply, opened)

/- Only a run changes a file, and it tells what it stored. -/
theorem exists_stored_of_changed
    {reading : Except Arguments.Fault Arguments.Reading}
    {path : List String}
    (hChanged :
      (answer reading tree sink).tree.read? path ≠
        tree.read? path) :
    let outcome := answer reading tree sink
    ∃ parsed,
      reading = .ok (.run parsed) ∧
        parsed.conclusion ≠ .keep ∧
        (outcome.IsPrinted sink ∨ outcome.LosesReport sink) ∧
        ∃ submission live copy,
          Tells outcome.output submission ∧
            Directory.StoredAs submission tree outcome.tree
              live copy := by
  rcases reading with fault | parsed | _ | _
  · exact absurd rfl hChanged
  · have hSame : (run parsed tree sink).tree ≠ tree := by
      intro hTree
      change (run parsed tree sink).tree.read? path ≠ _
        at hChanged
      rw [hTree] at hChanged
      exact hChanged rfl
    cases run_reports parsed tree sink with
    | failed hFails => exact absurd hFails.tree hSame
    | kept _ hTree _ => exact absurd hTree hSame
    | stored submission hEnds hConclusion hSubmit hTells =>
        rcases Directory.exists_storedAs_of_submit hSubmit with
          ⟨live, copy, hStored⟩
        exact
          ⟨parsed, rfl, hConclusion, hEnds, submission, live,
            copy, hTells, hStored⟩
  · exact absurd rfl hChanged
  · exact absurd rfl hChanged

/- A run does not get past an edit that fails. -/
theorem fails_of_editFails
    {arguments : List String}
    {parsed : Arguments}
    {opened : Session Tree}
    (sink : Sink)
    (hOpens : Opens arguments tree parsed opened)
    (hFails :
      EditFails (directory parsed).service parsed.edits
        opened) :
    (run parsed tree sink).Fails tree := by
  rcases hOpens with ⟨_, request, reply, hRequest, hInit⟩
  rcases run_cases parsed tree sink with
    hFailed | ⟨other, hOther, hRun⟩
  · exact hFailed
  · rw [hRequest] at hOther
    cases hOther
    rcases hFails.exists_error with ⟨error, after, hError⟩
    have hWork :
        (work (directory parsed).service parsed).perform
            opened =
          (.error error, after) := by
      unfold work
      rw [perform_bind, hError]
    rw [hRun]
    rcases runPage_cases parsed request tree sink with
      hFailed | ⟨_, same, hSame, hOpened⟩
    · exact hFailed
    · rw [hInit] at hSame
      cases hSame
      have hAfter :=
        work_spec (directory parsed) request tree parsed opened
          hOpened.1
      rw [hWork] at hAfter
      exact runPage_fails sink hInit hWork hAfter.tree

/-
  A run whose edits end with a trigger that holds no schedule
  sends nothing, and it fails if it was to send something.
-/
theorem run_of_endsInvalid
    {arguments : Arguments}
    (hEnds : EndsInvalid arguments.edits)
    (tree : Tree)
    (sink : Sink) :
    let outcome := run arguments tree sink
    outcome.Fails tree ∨
      arguments.conclusion = .keep ∧
        outcome.tree = tree ∧
        TellsNone outcome.output := by
  rcases run_cases arguments tree sink with
    hFailed | ⟨request, _, hRun⟩
  · exact .inl hFailed
  · rw [hRun]
    rcases runPage_cases arguments request tree sink with
      hFailed | ⟨reply, opened, hInit, hOpened⟩
    · exact .inl hFailed
    · have hWork :=
        work_spec_of_endsInvalid (directory arguments) request
          tree hEnds opened hOpened
      rcases
        hPerform :
          (work (directory arguments).service
            arguments).perform opened with
        ⟨_ | submission, session⟩
      · rw [hPerform] at hWork
        exact
          .inl (runPage_fails sink hInit hPerform hWork.tree)
      · rw [hPerform] at hWork
        rcases hWork with ⟨hAt, hConclusion, rfl⟩
        rcases runPage_done sink hInit hPerform with
          ⟨_, hTree, hOutput⟩
        refine
          .inr ⟨hConclusion, hTree.trans hAt.tree, ?_⟩
        rw [hOutput]
        exact tellsNone_report arguments.pretty session.page

/-
  Whatever the arguments and whatever becomes of the report,
  the command changes a file only if it was told to send the
  form and hands a report of what it sent to standard output,
  with the record that the form shows, and then only the
  documents of that record. It ends well unless that report
  gets lost, which nothing undoes: any other failure leaves
  every file alone. An edit that fails, or a schedule that
  cannot be judged, keeps it from sending, and so does one
  that is judged invalid unless another edit replaces it.
-/
theorem changes_are_reported
    (arguments : List String)
    (tree : Tree)
    (sink : Sink) :
    let outcome := answer (Arguments.read arguments) tree sink
    (outcome.code ≠ 0 →
      (∀ path, outcome.tree.read? path = tree.read? path) ∨
        outcome.LosesReport sink) ∧
    ((∃ path, outcome.tree.read? path ≠ tree.read? path) →
      (outcome.IsPrinted sink ∨ outcome.LosesReport sink) ∧
        (∃ argument ∈ arguments,
          Arguments.Concludes argument) ∧
        ∃ submission live copy,
          Tells outcome.output submission ∧
            Directory.StoredAs submission tree outcome.tree
              live copy) ∧
    (∀ parsed opened,
      Opens arguments tree parsed opened →
      EditFails (directory parsed).service parsed.edits
        opened →
      outcome.code ≠ 0 ∧
        (∀ path, outcome.tree.read? path = tree.read? path) ∧
        TellsNone outcome.output) ∧
    ∀ parsed,
      Arguments.read arguments = .ok (.run parsed) →
      EndsInvalid parsed.edits →
      (parsed.conclusion ≠ .keep → outcome.code ≠ 0) ∧
        (∀ path, outcome.tree.read? path = tree.read? path) ∧
        TellsNone outcome.output := by
  intro outcome
  have hChange
      (hChanged :
        ∃ path, outcome.tree.read? path ≠ tree.read? path) :
      (outcome.IsPrinted sink ∨ outcome.LosesReport sink) ∧
        (∃ argument ∈ arguments,
          Arguments.Concludes argument) ∧
        ∃ submission live copy,
          Tells outcome.output submission ∧
            Directory.StoredAs submission tree outcome.tree
              live copy := by
    rcases hChanged with ⟨path, hChanged⟩
    rcases exists_stored_of_changed hChanged with
      ⟨parsed, hRead, hConclusion, hEnds, hStored⟩
    exact
      ⟨hEnds, Arguments.exists_concludes hRead hConclusion,
        hStored⟩
  have hOutcome
      {parsed : Arguments}
      (hRead : Arguments.read arguments = .ok (.run parsed)) :
      outcome = run parsed tree sink := by
    change answer (Arguments.read arguments) tree sink = _
    rw [hRead]
    rfl
  refine ⟨?_, hChange, ?_, ?_⟩
  · intro hCode
    by_cases hChanged :
        ∃ path, outcome.tree.read? path ≠ tree.read? path
    · right
      rcases (hChange hChanged).1 with hPrinted | hLost
      · exact absurd hPrinted.2.1 hCode
      · exact hLost
    · left
      intro path
      by_contra hPath
      exact hChanged ⟨path, hPath⟩
  · intro parsed opened hOpens hFails
    have hFailed := fails_of_editFails sink hOpens hFails
    rw [hOutcome hOpens.1]
    exact
      ⟨by simp [hFailed.code],
        fun path => by rw [hFailed.tree], hFailed.tells⟩
  · intro parsed hRead hEnds
    rw [hOutcome hRead]
    rcases run_of_endsInvalid hEnds tree sink with
      hFailed | ⟨hKeep, hTree, hNone⟩
    · exact
        ⟨fun _ => by simp [hFailed.code],
          fun path => by rw [hFailed.tree], hFailed.tells⟩
    · exact
        ⟨fun hConclusion => absurd hKeep hConclusion,
          fun path => by rw [hTree], hNone⟩

/-
  A new configuration that is named, located and saved, with
  and without its report; one that is given an address while
  its page asks for none; and one with a text for a schedule.
-/
theorem changes_are_reported_saved :
    let naming : List String :=
      ["--store", "builds", "--set", "projectName=core",
        "--set", "projectToBuild_0/projectUrl=ssh://git/core"]
    let saving := naming ++ ["--submit"]
    let saved := answer (Arguments.read saving) Tree.empty
    let refusing : Sink := fun _ => .error .write
    let lost :=
      answer (Arguments.read saving) Tree.empty refusing
    let failing : List String :=
      ["--store", "builds", "--set", "email=ann@host",
        "--submit"]
    let failed := answer (Arguments.read failing) Tree.empty
    let misleading :=
      naming ++
        ["--set", "pollSCMTrigger=every day", "--submit"]
    let misled := answer (Arguments.read misleading) Tree.empty
    (saved.code = 0 ∧
      ∃ submission live copy,
        Tells saved.output submission ∧
          Directory.StoredAs submission Tree.empty saved.tree
            live copy) ∧
      (lost.code = 1 ∧
        lost.complaint = some "failed to write report" ∧
        ∃ submission live copy,
          Tells lost.output submission ∧
            Directory.StoredAs submission Tree.empty lost.tree
              live copy) ∧
      (failed.code ≠ 0 ∧
        ∀ path,
          failed.tree.read? path = Tree.empty.read? path) ∧
      misled.code ≠ 0 ∧
      ∀ path,
        misled.tree.read? path = Tree.empty.read? path := by
  intro naming saving saved refusing lost failing failed
    misleading misled
  have hChanged :
      saved.tree.read? ["core", "config.json"] ≠
        Tree.empty.read? ["core", "config.json"] := by
    decide +kernel
  have hStored :
      lost.tree.read? ["core", "config.json"] ≠
        Tree.empty.read? ["core", "config.json"] := by
    decide +kernel
  let parsed : Arguments :=
    { store := "builds"
      edits := ["email=ann@host"]
      conclusion := .submit }
  let opening : Except FormError Reply × Session Tree :=
    (Page.act (directory parsed).service .init).perform
      (Session.start .create {} Tree.empty)
  have hOpens : Opens failing Tree.empty parsed opening.2 := by
    have hRead :
        Arguments.read failing = .ok (.run parsed) := by
      decide +kernel
    have hInit : opening.1 = .ok .done := by
      decide +kernel
    exact
      ⟨hRead, .create, .done, rfl, Prod.fst_eq_iff.mp hInit⟩
  have hFails :
      EditFails (directory parsed).service parsed.edits
        opening.2 := by
    have hError :
        ((applyEdit (directory parsed).service
          "email=ann@host").perform opening.2).1 =
            .error .readOnly := by
      decide +kernel
    exact .first (Prod.fst_eq_iff.mp hError)
  let named : List String :=
    ["projectName=core",
      "projectToBuild_0/projectUrl=ssh://git/core"]
  let misread : Arguments :=
    { store := "builds"
      edits := named ++ ["pollSCMTrigger=every day"]
      conclusion := .submit }
  have hMisread :
      Arguments.read misleading = .ok (.run misread) := by
    decide +kernel
  have hEnds : EndsInvalid misread.edits := by
    refine
      ⟨named, "pollSCMTrigger=every day", [], .pollScmTrigger,
        "every day", rfl, ?_, .inl rfl, ?_, by simp⟩
    · decide +kernel
    · decide +kernel
  -- The theorem is about any arguments, so these stay closed.
  clear_value saving failing misleading
  have hSaved :=
    (changes_are_reported saving Tree.empty .ready).2.1
      ⟨_, hChanged⟩
  have hLost :=
    (changes_are_reported saving Tree.empty refusing).2.1
      ⟨_, hStored⟩
  have hFailed :=
    (changes_are_reported failing Tree.empty .ready).2.2.1
      parsed opening.2 hOpens hFails
  have hMisled :=
    (changes_are_reported misleading Tree.empty .ready).2.2.2
      misread hMisread hEnds
  have hCode : saved.code = 0 := by
    rcases hSaved.1 with hPrinted | ⟨fault, hFault, _⟩
    · exact hPrinted.2.1
    · cases hFault
  rcases hLost with ⟨⟨hTaken, _⟩ | hReport, _, hTold⟩
  · cases hTaken
  · rcases hReport with ⟨fault, hFault, hLostCode, hComplaint⟩
    cases hFault
    exact
      ⟨⟨hCode, hSaved.2.2⟩, ⟨hLostCode, hComplaint, hTold⟩,
        ⟨hFailed.1, hFailed.2.1⟩,
        hMisled.1 (by simp [misread]), hMisled.2.1⟩

/-
  The form is sent before its report is printed; a text that
  was judged to be no schedule may be replaced by one; and an
  edit of a field that the form does not have is passed over.
-/
theorem not_failure_keeps_files :
    let naming : List String :=
      ["--store", "builds", "--set", "projectName=core",
        "--set", "projectToBuild_0/projectUrl=ssh://git/core"]
    let file := ["core", "config.json"]
    let lost :=
      answer (Arguments.read (naming ++ ["--submit"]))
        Tree.empty fun _ => .error .write
    let replaced :=
      answer
        (Arguments.read
          (naming ++
            ["--set", "pollSCMTrigger=every day",
              "--set", "pollSCMTrigger=H 0 * * *",
              "--submit"]))
        Tree.empty
    let mistaken :=
      answer
        (Arguments.read
          (naming ++ ["--set", "noSuchField=1", "--submit"]))
        Tree.empty
    (lost.code ≠ 0 ∧
      lost.tree.read? file ≠ Tree.empty.read? file) ∧
      ((TriggerCheck.ofAnswer
        (Schedule.describe "every day")).valid = false ∧
        replaced.code = 0 ∧
        replaced.tree.read? file ≠ Tree.empty.read? file) ∧
      edit? "noSuchField=1" = none ∧
      mistaken.code = 0 ∧
      mistaken.tree.read? file ≠ Tree.empty.read? file := by
  decide +kernel

end Command

end BuildForm
