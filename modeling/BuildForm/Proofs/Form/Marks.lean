import BuildForm.Proofs.Form.Check
import BuildForm.Proofs.Form.Content

/-
  The marks that an attempt to send a form leaves in it.

  To approve or to reject writes marks into the form before it
  is sent: its type, its result and the reason of a rejection.
  The next attempt sets all the marks that it needs if it is
  of the same kind. To approve leaves the reason as it is, and
  to reject leaves the result, so that after an attempt of the
  other kind a form is sent with a mark of that one.

  Main declarations:
    * `Form.core`
    * `Decision`
    * `Decision.toSubmission_sent`
    * `Talk`
    * `Decision.traced`
    * `Decision.toSubmission_sent_again`
-/

------------------------------------------------------------
-- What Sending Leaves Alone
------------------------------------------------------------

namespace BuildForm

/- A submission with marks of its own. -/
def Submission.stamped
    (submission : Submission)
    (formType : FormType)
    (formResult : Option FormResult)
    (reason : String) : Submission :=
  { submission with
    formType
    formResult
    rejectionReason := reason
    configuration :=
      { submission.configuration with
        rejectionReason := reason } }

namespace Form

/-
  The form without the marks of an attempt to send it, the
  indicators of its name and views, messages and the focus.
-/
def core (form : Form) : Form :=
  { form.revalidateViews with
    formType := .approved
    formResult := none
    projectName := form.projectName.clearFault
    rejectionReason := ""
    addViewPrompt := false
    formMessage := none
    focus := none }

theorem rejectDialog_core (form : Form) :
    form.core.rejectDialog = form.rejectDialog :=
  rfl

theorem revalidateViews_revalidateViews (form : Form) :
    form.revalidateViews.revalidateViews =
      form.revalidateViews := by
  have hViews :
      View.revalidate ∘ View.revalidate = View.revalidate :=
    funext View.isCurrent_revalidate
  unfold revalidateViews
  dsimp only
  rw [List.map_map, hViews]

/- What a check comes to, the form that it leaves aside. -/
def outcome (form : Form) : FormCheck :=
  if form.mode = .view then
    .blocked .readOnly
  else
    match FieldKind.projectName.fault? form.projectName.value with
    | some fault => .blocked (.invalid .projectName (.rule fault))
    | none =>
        if form.views.isEmpty then
          .blocked .missingView
        else
          match form.mailOffence?.or form.triggerOffence? with
          | some offence =>
              .blocked (.invalid offence.1 offence.2)
          | none =>
              match form.revalidateViews.viewOffence? with
              | some offence =>
                  .blocked (.invalid offence.1 offence.2)
              | none => form.pass.1

theorem fst_check (form : Form) :
    form.check.1 = form.outcome := by
  unfold check outcome
  by_cases hView : form.mode = .view
  · rw [if_pos hView, if_pos hView]
  · rw [if_neg hView, if_neg hView]
    dsimp only
    cases hFault :
        FieldKind.projectName.fault? form.projectName.value with
    | some fault => rfl
    | none =>
        dsimp only
        by_cases hEmpty : form.views.isEmpty
        · rw [if_pos hEmpty, if_pos hEmpty]
        · rw [if_neg hEmpty, if_neg hEmpty]
          split
          · rename_i offence hFound
            have hOffence :
                form.mailOffence?.or form.triggerOffence? =
                  some offence := hFound
            rw [hOffence]
            rfl
          · rename_i hFound
            have hNone :
                form.mailOffence?.or form.triggerOffence? =
                  none := hFound
            rw [hNone]
            dsimp only
            split
            · rename_i offence hFound
              have hOffence :
                  form.revalidateViews.viewOffence? =
                    some offence := hFound
              rw [hOffence]
              rfl
            · rename_i hFound
              have hClean :
                  form.revalidateViews.viewOffence? = none :=
                hFound
              rw [hClean]
              unfold pass revalidateViews
              cases form.mode <;> rfl

/- What is wrong with a form is not that the service fails. -/
theorem outcome_ne_service
    (form : Form)
    (error : ServiceError) :
    form.outcome ≠ .blocked (.service error) := by
  unfold outcome
  split
  · nofun
  · split
    · nofun
    · split
      · nofun
      · split
        · nofun
        · split
          · nofun
          · unfold pass
            cases form.mode <;> nofun

/- A check comes to the same without marks and indicators. -/
theorem check_core (form : Form) :
    form.core.check.1 = form.check.1 := by
  have hEmpty : form.core.views.isEmpty = form.views.isEmpty := by
    simp [core, revalidateViews, Views.isEmpty]
  have hViews :
      form.core.revalidateViews.viewOffence? =
        form.revalidateViews.viewOffence? := by
    change
      form.revalidateViews.revalidateViews.viewOffence? = _
    rw [revalidateViews_revalidateViews]
  have hPass : form.core.pass.1 = form.pass.1 := by
    unfold pass core revalidateViews
    cases form.mode <;> rfl
  rw [fst_check, fst_check]
  unfold outcome
  rw [hEmpty, hViews, hPass]
  rfl

theorem core_revalidateViews (form : Form) :
    form.revalidateViews.core = form.core := by
  unfold core
  rw [revalidateViews_revalidateViews]
  rfl

theorem core_pass (form : Form) :
    form.pass.2.core = form.core := by
  unfold pass
  split <;> rfl

theorem core_blockAt
    (form : Form)
    (offence : FieldPath × Reason) :
    (form.blockAt offence).2.core = form.core :=
  rfl

/- A check changes nothing but marks and indicators. -/
theorem core_check (form : Form) :
    form.check.2.core = form.core := by
  unfold check
  split
  · rfl
  · dsimp only
    split
    · rfl
    · split
      · rfl
      · split
        · rfl
        · split
          · rw [core_blockAt, core_revalidateViews]
            rfl
          · rw [core_pass, core_revalidateViews]
            rfl

theorem rejectionReason_check (form : Form) :
    form.check.2.rejectionReason = form.rejectionReason := by
  rcases form.exists_check_eq with ⟨_, _, _, _, _, _, _, hEq⟩
  rw [hEq]

/- What is handed over is the core of a form and its marks. -/
theorem toSubmission_eq_stamped (form : Form) :
    form.toSubmission =
      form.core.toSubmission.stamped form.formType
        form.formResult form.rejectionReason := by
  have hShows := showsSame_revalidateViews form
  have hHidden : form.core.hiddenFields = form.hiddenFields :=
    congrArg Table.ofList hShows.hidden
  have hRecords :
      form.core.views.records = form.views.records :=
    congrArg Configuration.views hShows.reviewed
  unfold toSubmission Submission.stamped
  dsimp only
  rw [hHidden]
  unfold toConfiguration
  rw [hRecords]
  rfl

end Form

end BuildForm

------------------------------------------------------------
-- Approving or Rejecting
------------------------------------------------------------

namespace BuildForm

/- The form as it is sent to reject its configuration. -/
def Form.rejected (form : Form) : Form :=
  { form with
    rejectionReason := form.rejectDialog.reason.value
    formType := .reject }

/- The two ways to send a form that is to be decided on. -/
inductive Decision where
  | approve
  | reject
deriving DecidableEq, Repr

namespace Decision

/- Whether a form is sent at all. -/
def Sends : Decision → Form → Prop
  | .approve, form => form.check.1 = .ready
  | .reject, form => form.rejectDialog.reason.value ≠ ""

/- The form as it is sent. -/
def sent : Decision → Form → Form
  | .approve, form =>
      { form.check.2 with formResult := some .other }
  | .reject, form => form.rejected

/- The form type that is sent. -/
def formType : Decision → FormType
  | .approve => .approved
  | .reject => .reject

/- The result that is sent. To reject sets none. -/
def result
    (decision : Decision)
    (earlier : Option FormResult) : Option FormResult :=
  match decision with
  | .approve => some .other
  | .reject => earlier

/- The reason that is sent. To approve sets none. -/
def reason
    (decision : Decision)
    (earlier typed : String) : String :=
  match decision with
  | .approve => earlier
  | .reject => typed

variable (decision : Decision)
variable (form : Form)

theorem core_sent :
    (decision.sent form).core = form.core := by
  cases decision with
  | approve => exact form.core_check
  | reject => rfl

theorem formResult_sent :
    (decision.sent form).formResult =
      decision.result form.formResult := by
  cases decision <;> rfl

theorem rejectionReason_sent :
    (decision.sent form).rejectionReason =
      decision.reason form.rejectionReason
        form.rejectDialog.reason.value := by
  cases decision with
  | approve => exact form.rejectionReason_check
  | reject => rfl

variable {decision} {form}

/- A check that passes the form approves it. -/
theorem formType_sent
    (hMode : form.mode = .approveReject)
    (hSends : decision.Sends form) :
    (decision.sent form).formType = decision.formType := by
  cases decision with
  | reject => rfl
  | approve =>
      have hReady : form.check = (.ready, form.check.2) :=
        Prod.ext hSends rfl
      rcases Form.clears_of_check hReady with
        ⟨_, hEdit | ⟨_, hApproved⟩⟩
      · rw [form.showsSame_check.mode, hMode] at hEdit
        cases hEdit
      · exact hApproved

/- What is sent of a form is its core, with marks. -/
theorem toSubmission_sent
    (hMode : form.mode = .approveReject)
    (hSends : decision.Sends form) :
    (decision.sent form).toSubmission =
      form.core.toSubmission.stamped decision.formType
        (decision.result form.formResult)
        (decision.reason form.rejectionReason
          form.rejectDialog.reason.value) := by
  rw [Form.toSubmission_eq_stamped, core_sent,
    formType_sent hMode hSends, formResult_sent,
    rejectionReason_sent]

/- Whether a form is sent is up to its core. -/
theorem sends_congr
    {other : Form}
    (hCore : form.core = other.core) :
    decision.Sends form ↔ decision.Sends other := by
  cases decision with
  | approve =>
      unfold Sends
      dsimp only
      rw [← form.check_core, ← other.check_core, hCore]
  | reject =>
      unfold Sends
      dsimp only
      rw [← form.rejectDialog_core, hCore]
      rfl

end Decision

end BuildForm

------------------------------------------------------------
-- The Dialog in Between
------------------------------------------------------------

namespace BuildForm

/- A reason is typed where the input takes one. -/
theorem Form.snd_edit_rejectionReason
    (form : Form)
    (reason : String)
    (validate : Bool) :
    (form.edit .rejectionReason reason validate).2 =
      if form.isEditable .rejectionReason ∧
          form.rejectDialog.reason.enabled then
        let typed := form.rejectDialog.reason.setValue reason
        { form with
          rejectDialog :=
            { form.rejectDialog with
              reason := if validate then typed.blur else typed } }
      else
        form := by
  have hForget : form.forget .rejectionReason = form := rfl
  unfold edit
  rw [hForget]
  cases form.isEditable .rejectionReason with
  | false => rfl
  | true =>
      cases hEnabled : form.rejectDialog.reason.enabled <;>
        simp [field?, mapField, hEnabled]

/- What the user does with the dialog of a rejection. -/
inductive Talk where
  | type (reason : String)
  | ask
  | cancel
deriving DecidableEq, Repr

namespace Talk

/- What becomes of the form of a page to approve or reject. -/
def change (validate : Bool) : Talk → Form → Form
  | .type reason, form =>
      (form.edit .rejectionReason reason validate).2
  | .ask, form =>
      { form with
        rejectDialog :=
          { form.rejectDialog with visible := true }
        focus := some .rejectionReason }
  | .cancel, form =>
      { form with
        rejectDialog :=
          { visible := false
            reason := form.rejectDialog.reason.clear } }

/- What becomes of it by all that the user does. -/
def changes
    (validate : Bool)
    (talks : List Talk)
    (form : Form) : Form :=
  talks.foldl (fun form talk => talk.change validate form) form

variable (validate : Bool)

/- The dialog alone changes, in a way that is up to the core. -/
theorem exists_change_eq
    (talk : Talk)
    (form : Form) :
    ∃ focus,
      talk.change validate form =
        { form with
          rejectDialog :=
            (talk.change validate form.core).rejectDialog
          focus } := by
  cases talk with
  | type reason =>
      refine ⟨form.focus, ?_⟩
      unfold change
      dsimp only
      rw [Form.snd_edit_rejectionReason,
        Form.snd_edit_rejectionReason]
      by_cases hTyped :
          form.isEditable .rejectionReason ∧
            form.rejectDialog.reason.enabled
      · have hCore :
            form.core.isEditable .rejectionReason ∧
              form.core.rejectDialog.reason.enabled := hTyped
        rw [if_pos hTyped, if_pos hCore]
        rfl
      · have hCore :
            ¬(form.core.isEditable .rejectionReason ∧
              form.core.rejectDialog.reason.enabled) := hTyped
        rw [if_neg hTyped, if_neg hCore]
        rfl
  | ask => exact ⟨_, rfl⟩
  | cancel => exact ⟨_, rfl⟩

theorem core_change
    (talk : Talk)
    {form other : Form}
    (hCore : form.core = other.core) :
    (talk.change validate form).core =
      (talk.change validate other).core := by
  rcases talk.exists_change_eq validate form with
    ⟨focus, hForm⟩
  rcases talk.exists_change_eq validate other with
    ⟨otherFocus, hOther⟩
  rw [hForm, hOther]
  change
    { form.core with
      rejectDialog :=
        (talk.change validate form.core).rejectDialog } =
      { other.core with
        rejectDialog :=
          (talk.change validate other.core).rejectDialog }
  rw [hCore]

theorem core_changes
    (talks : List Talk)
    {form other : Form}
    (hCore : form.core = other.core) :
    (changes validate talks form).core =
      (changes validate talks other).core := by
  induction talks generalizing form other with
  | nil => exact hCore
  | cons talk talks ih =>
      exact ih (talk.core_change validate hCore)

/- All that changes are the dialog and the focus. -/
theorem exists_changes_eq
    (talks : List Talk)
    (form : Form) :
    ∃ rejectDialog focus,
      changes validate talks form =
        { form with rejectDialog, focus } := by
  induction talks generalizing form with
  | nil => exact ⟨_, _, rfl⟩
  | cons talk talks ih =>
      rcases talk.exists_change_eq validate form with
        ⟨focus, hForm⟩
      rcases ih (talk.change validate form) with
        ⟨lastDialog, lastFocus, hLast⟩
      refine ⟨lastDialog, lastFocus, ?_⟩
      change changes validate talks _ = _
      rw [hLast, hForm]

/- The mode and the marks of a form stay as they are. -/
theorem mode_changes
    (talks : List Talk)
    (form : Form) :
    (changes validate talks form).mode = form.mode := by
  rcases exists_changes_eq validate talks form with ⟨_, _, hEq⟩
  rw [hEq]

theorem formResult_changes
    (talks : List Talk)
    (form : Form) :
    (changes validate talks form).formResult =
      form.formResult := by
  rcases exists_changes_eq validate talks form with ⟨_, _, hEq⟩
  rw [hEq]

theorem rejectionReason_changes
    (talks : List Talk)
    (form : Form) :
    (changes validate talks form).rejectionReason =
      form.rejectionReason := by
  rcases exists_changes_eq validate talks form with ⟨_, _, hEq⟩
  rw [hEq]

end Talk

end BuildForm

------------------------------------------------------------
-- Sending Again
------------------------------------------------------------

namespace BuildForm

/-
  What becomes of a submission after an attempt that failed.
  To reject after approving takes over the result, to approve
  after rejecting the reason.
-/
def Decision.traced
    (failed next : Decision)
    (reason : String)
    (submission : Submission) : Submission :=
  match failed, next with
  | .approve, .reject =>
      { submission with formResult := some .other }
  | .reject, .approve =>
      submission.stamped submission.formType
        submission.formResult reason
  | .approve, .approve => submission
  | .reject, .reject => submission

/-
  A form that is sent again is what it would have been, but
  for marks of the attempt before.
-/
theorem Decision.toSubmission_sent_again
    (first next : Decision)
    (validate : Bool)
    (talks : List Talk)
    {form : Form}
    (hMode : form.mode = .approveReject)
    (hSends :
      next.Sends
        (Talk.changes validate talks (first.sent form))) :
    let tried := Talk.changes validate talks (first.sent form)
    let untried := Talk.changes validate talks form
    next.Sends untried ∧
      (next.sent tried).toSubmission =
        first.traced next form.rejectDialog.reason.value
          (next.sent untried).toSubmission := by
  intro tried untried
  have hCore : tried.core = untried.core :=
    Talk.core_changes validate talks (first.core_sent form)
  have hUntried : next.Sends untried :=
    (sends_congr hCore).mp hSends
  have hUntriedMode : untried.mode = .approveReject :=
    (Talk.mode_changes validate talks form).trans hMode
  have hTriedMode : tried.mode = .approveReject :=
    (congrArg Form.mode hCore).trans hUntriedMode
  have hDialog : tried.rejectDialog = untried.rejectDialog := by
    rw [← tried.rejectDialog_core, hCore]
    rfl
  have hPlain :
      (next.sent untried).toSubmission =
        untried.core.toSubmission.stamped next.formType
          (next.result form.formResult)
          (next.reason form.rejectionReason
            untried.rejectDialog.reason.value) := by
    rw [toSubmission_sent hUntriedMode hUntried,
      Talk.formResult_changes, Talk.rejectionReason_changes]
  have hAgain :
      (next.sent tried).toSubmission =
        untried.core.toSubmission.stamped next.formType
          (next.result (first.result form.formResult))
          (next.reason
            (first.reason form.rejectionReason
              form.rejectDialog.reason.value)
            untried.rejectDialog.reason.value) := by
    rw [toSubmission_sent hTriedMode hSends, hCore, hDialog,
      Talk.formResult_changes, Talk.rejectionReason_changes,
      formResult_sent, rejectionReason_sent]
  refine ⟨hUntried, ?_⟩
  rw [hAgain, hPlain]
  cases first <;> cases next <;> rfl

end BuildForm
