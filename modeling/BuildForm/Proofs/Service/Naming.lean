import BuildForm.Proofs.Service.Refinement
import BuildForm.Proofs.Service.Sharing

/-
  Names that are taken.

  A name is taken once a record was stored under it, and no
  call of any client sets it free again. A new configuration
  is accepted only under a name that is not taken, and under
  one that is it is refused for that very reason.

  Main declarations:
    * `Call.storedName?`
    * `Directory.IsTaken`
    * `Directory.Served.unique`
    * `Directory.Served.isTaken`
    * `Directory.Holds.submit_new`
-/

------------------------------------------------------------
-- Taken Names
------------------------------------------------------------

namespace BuildForm

/- The name of a submission that a call had accepted. -/
def Call.storedName? : Call → Option String
  | ⟨.submit submission, .ok _⟩ =>
      some submission.configuration.projectName
  | _ => none

theorem Call.exists_of_storedName?
    {call : Call}
    {name : String}
    (hStored : call.storedName? = some name) :
    ∃ submission : Submission,
      submission.configuration.projectName = name ∧
        call = ⟨.submit submission, .ok ()⟩ := by
  rcases call with ⟨request, outcome⟩
  cases request with
  | submit submission =>
      cases outcome with
      | error error => cases hStored
      | ok => exact ⟨submission, Option.some.inj hStored, rfl⟩
  | _ => cases hStored

namespace Directory

/- A name under which there is a live document. -/
def IsTaken
    (tree : Tree)
    (name : String) : Prop :=
  find? tree [name] configStem ≠ none

variable {directory : Directory}
variable {blocked : Slot → Option ServiceError}
variable {tree after : Tree}
variable {ledger : Ledger}
variable {name : String}
variable {submission : Submission}
variable {outcome : Except ServiceError Unit}

/- The names that are taken are those of a ledger's entries. -/
theorem Holds.isTaken_iff
    (hHolds : Holds directory blocked tree ledger)
    (hName : Rule.isProjectName name) :
    IsTaken tree name ↔ ledger name ≠ none := by
  have hLive := hHolds.slots (.live name) hName
  cases hEntry : ledger name with
  | none =>
      have hNone : ledger.record? (.live name) = none := by
        simp [Ledger.record?, hEntry]
      rw [hNone] at hLive
      have hFind : find? tree [name] configStem = none := hLive
      simp [IsTaken, hFind]
  | some entry =>
      have hSome :
          ledger.record? (.live name) = some entry.live := by
        simp [Ledger.record?, hEntry]
      rw [hSome] at hLive
      have hFind :
          find? tree [name] configStem =
            some (directory.location (.live name)) :=
        hLive.1
      simp [IsTaken, hFind]

theorem answer_isNameFree
    (directory : Directory)
    (hName : Rule.isProjectName name) :
    directory.answer tree (.isNameFree name) =
      .ok (find? tree [name] configStem).isNone := by
  have hFolder := folderOf_eq_ok_iff.mpr ⟨hName, rfl⟩
  change isNameFree tree name = _
  unfold isNameFree
  rw [hFolder]
  rfl

/- What was accepted under a name leaves it taken. -/
theorem isTaken_of_submit
    (hSubmit :
      directory.submit tree submission = (.ok (), after)) :
    IsTaken after submission.configuration.projectName := by
  have hEffect := directory.submit_effect tree submission
  rw [hSubmit] at hEffect
  unfold IsTaken
  cases hEffect with
  | stored record _ _ hStore =>
      rw [find?_store hStore]
      simp
  | approved record copied _ _ _ hStore =>
      rw [find?_store hStore]
      simp

/- A name that is taken stays so, whatever is submitted. -/
theorem IsTaken.submit
    (hTaken : IsTaken tree name)
    (hSubmit :
      directory.submit tree submission = (outcome, after)) :
    IsTaken after name := by
  rcases Option.ne_none_iff_exists'.mp hTaken with
    ⟨location, hFind⟩
  have hAfter := find?_submit_of_find? hSubmit hFind
  unfold IsTaken
  simp [hAfter]

theorem IsTaken.service
    (hTaken : IsTaken tree name)
    {request : Request}
    {answer : Except ServiceError request.Answer}
    (hCall : directory.service request tree = (answer, after)) :
    IsTaken after name := by
  cases request with
  | submit submission => exact hTaken.submit hCall
  | _ =>
      cases hCall
      exact hTaken

/-
  A new configuration is accepted only under a name that was
  free, and a name that was taken is what is wrong with it.
-/
theorem Holds.submit_new
    (hFormat : directory.format = .json)
    (hHolds : Holds directory blocked tree ledger)
    (hNew : submission.formType = .create)
    {user : String}
    (hSubmit :
      submit { directory with user } tree submission =
        (outcome, after)) :
    let name := submission.configuration.projectName
    match outcome with
    | .ok _ => Rule.isProjectName name ∧ ¬IsTaken tree name
    | .error error =>
        Rule.isProjectName name →
        IsTaken tree name →
        error = .refused (.nameTaken name) := by
  let posting : Posting := ⟨user, submission⟩
  have hOutcome :
      outcome = (ledger.post blocked posting).1 := by
    rw [← (hHolds.post hFormat posting).outcomes]
    exact (congrArg Prod.fst hSubmit).symm
  dsimp only
  cases outcome with
  | ok =>
      have hLedger :
          ∃ changed,
            ledger.submit blocked posting = .ok changed := by
        unfold Ledger.post at hOutcome
        split at hOutcome
        · cases hOutcome
        · rename_i changed hChanged
          exact ⟨changed, hChanged⟩
      rcases hLedger with ⟨changed, hChanged⟩
      rcases Ledger.submit_ok hChanged with
        ⟨hName, entry, hRule, _⟩
      have hProper :
          Rule.isProjectName
            submission.configuration.projectName :=
        hName
      refine ⟨hProper, ?_⟩
      rw [hHolds.isTaken_iff hProper, not_not]
      cases hEntry :
          ledger submission.configuration.projectName with
      | none => rfl
      | some before =>
          have hThere : ledger posting.name = some before :=
            hEntry
          rw [hThere] at hRule
          unfold Ledger.rule at hRule
          rw [hNew] at hRule
          cases hRule
  | error error =>
      intro hName hTaken
      rw [hHolds.isTaken_iff hName] at hTaken
      rcases Option.ne_none_iff_exists'.mp hTaken with
        ⟨before, hEntry⟩
      have hPosted : Rule.isProjectName posting.name := hName
      have hThere : ledger posting.name = some before := hEntry
      rw [Ledger.post_of_name blocked ledger hPosted,
        hThere] at hOutcome
      unfold Ledger.rule at hOutcome
      rw [hNew] at hOutcome
      cases hOutcome
      rfl

end Directory

end BuildForm

------------------------------------------------------------
-- Served Calls
------------------------------------------------------------

namespace BuildForm

namespace Directory

variable {ι : Type}
variable {directory : Directory}
variable {users : ι → String}
variable {blocked : Slot → Option ServiceError}
variable {ledger : Ledger}
variable {first tree other : Tree}
variable {trace later earlier : List (ι × Call)}
variable {client : ι}
variable {call : Call}
variable {name : String}

/- The calls that were answered lead to one tree only. -/
theorem Served.unique
    (hServed : directory.Served users first trace tree)
    (hOther : directory.Served users first trace other) :
    tree = other := by
  induction hServed generalizing other with
  | start =>
      cases hOther
      rfl
  | call client request outcome hBefore hCall ih =>
      rcases hOther.exists_before with ⟨before, hSame, hAgain⟩
      cases ih hSame
      have hBoth := hCall.symm.trans hAgain
      exact (Prod.mk.inj hBoth).2

/- Before the last calls there was a tree, too. -/
theorem Served.exists_earlier
    (hServed :
      directory.Served users first (later ++ earlier) tree) :
    ∃ before, directory.Served users first earlier before := by
  induction later generalizing tree with
  | nil => exact ⟨tree, hServed⟩
  | cons entry later ih =>
      rcases hServed.exists_before with ⟨before, hBefore, _⟩
      exact ih hBefore

/- A store that holds a ledger goes on to hold one. -/
theorem Served.exists_holds
    (hFormat : directory.format = .json)
    (hHolds : Holds directory blocked first ledger)
    (hServed : directory.Served users first trace tree) :
    ∃ ledger, Holds directory blocked tree ledger := by
  induction hServed with
  | start => exact ⟨ledger, hHolds⟩
  | call client request outcome hBefore hCall ih =>
      rcases ih with ⟨before, hBefore⟩
      cases request with
      | submit submission =>
          have hPost :=
            (hBefore.post hFormat
              ⟨users client, submission⟩).holds
          unfold Directory.post at hPost
          rw [hCall] at hPost
          exact ⟨_, hPost⟩
      | _ =>
          cases hCall
          exact ⟨before, hBefore⟩

/- A name under which something was accepted is taken. -/
theorem Served.isTaken
    (hServed : directory.Served users first trace tree)
    (hEntry : (client, call) ∈ trace)
    (hStored : call.storedName? = some name) :
    IsTaken tree name := by
  rcases List.append_of_mem hEntry with ⟨later, earlier, rfl⟩
  induction later generalizing tree with
  | nil =>
      rcases hServed.exists_before with ⟨before, _, hCall⟩
      rcases Call.exists_of_storedName? hStored with
        ⟨submission, rfl, rfl⟩
      exact isTaken_of_submit hCall
  | cons entry later ih =>
      rcases hServed.exists_before with
        ⟨before, hBefore, hCall⟩
      exact (ih hBefore (by simp)).service hCall

end Directory

end BuildForm
