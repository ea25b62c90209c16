import BuildForm.Proofs.Form.Difference
import BuildForm.Proofs.Service.Refinement

/-
  What submissions make of approvals.

  Main declarations:
    * `Entry.IsSound`
    * `Ledger.isSound_run`
    * `Directory.IsConsistent`
    * `Directory.Shows.isConsistent`
    * `Directory.run_isConsistent`
    * `Directory.find?_root_run`
-/

------------------------------------------------------------
-- Sound Entries
------------------------------------------------------------

namespace BuildForm

open Directory (Slot)

/-
  An entry as submissions leave it under a name: both records
  bear the name, the approved one is approved without a
  reason, and a live record that is approved is that one.
-/
structure Entry.IsSound
    (name : String)
    (entry : Entry) : Prop where
  liveName : entry.live.projectName = name
  copy :
    ∀ record, entry.approved = some record →
      record.projectName = name ∧
        record.standing = .approved ∧
        record.rejectionReason = ""
  approved :
    entry.live.standing = .approved →
      entry.approved = some entry.live

namespace Ledger

/- A ledger of sound entries under project names. -/
def IsSound (ledger : Ledger) : Prop :=
  ∀ name entry, ledger name = some entry →
    Rule.isProjectName name ∧ entry.IsSound name

variable {blocked : Slot → Option ServiceError}
variable {posting : Posting}
variable {previous : Option Entry}
variable {entry : Entry}
variable {ledger : Ledger}

theorem isSound_empty : empty.IsSound := by
  intro name entry hEntry
  cases hEntry

/- Each rule leaves a sound entry in place of one. -/
theorem isSound_of_rule
    (hBefore :
      ∀ before, previous = some before →
        before.IsSound posting.name)
    (hRule : rule blocked posting previous = .ok entry) :
    entry.IsSound posting.name := by
  unfold rule at hRule
  dsimp only at hRule
  cases hType : posting.submission.formType with
  | create =>
      simp only [hType] at hRule
      split at hRule
      · simp at hRule
      · split at hRule
        · simp at hRule
        · cases hRule
          exact ⟨rfl, by simp, by simp⟩
  | edit =>
      simp only [hType] at hRule
      split at hRule
      · simp at hRule
      · rename_i before
        cases hRule
        exact ⟨rfl, (hBefore before rfl).copy, by simp⟩
  | approved =>
      simp only [hType] at hRule
      split at hRule
      · simp at hRule
      · split at hRule
        · simp at hRule
        · cases hRule
          refine ⟨rfl, ?_, fun _ => rfl⟩
          intro record hRecord
          cases hRecord
          exact ⟨rfl, rfl, rfl⟩
  | reject =>
      simp only [hType] at hRule
      split at hRule
      · simp at hRule
      · rename_i before
        cases hRule
        have hSound := hBefore before rfl
        exact ⟨hSound.liveName, hSound.copy, by simp⟩
  | view => simp [hType] at hRule
  | approveReject => simp [hType] at hRule

theorem isSound_put
    (hSound : ledger.IsSound)
    {name : String}
    (hName : Rule.isProjectName name)
    (hEntry : entry.IsSound name) :
    (ledger.put name entry).IsSound := by
  intro other found hFound
  by_cases hOther : other = name
  · subst hOther
    rw [put_self] at hFound
    cases hFound
    exact ⟨hName, hEntry⟩
  · rw [ledger.put_of_ne entry hOther] at hFound
    exact hSound other found hFound

theorem isSound_post
    (hSound : ledger.IsSound)
    (posting : Posting) :
    (ledger.post blocked posting).2.IsSound := by
  unfold post
  cases hSubmit : ledger.submit blocked posting with
  | error error => exact hSound
  | ok changed =>
      rcases submit_ok hSubmit with ⟨hName, entry, hRule, rfl⟩
      apply isSound_put hSound hName
      apply isSound_of_rule _ hRule
      intro before hBefore
      exact (hSound posting.name before hBefore).2

/- However it is posted to, a sound ledger stays sound. -/
theorem isSound_run
    (blocked : Slot → Option ServiceError)
    (hSound : ledger.IsSound)
    (postings : List Posting) :
    (Posting.run (post blocked) ledger postings).IsSound := by
  induction postings generalizing ledger with
  | nil => exact hSound
  | cons posting postings ih => exact ih (isSound_post hSound posting)

end Ledger

end BuildForm

------------------------------------------------------------
-- Consistent Answers
------------------------------------------------------------

namespace BuildForm

namespace Directory

/-
  Answers about a name that fit together: an approved copy
  only exists beside a live record, and a live record that is
  approved is the copy, with nothing to show as changed.
-/
structure IsConsistent
    (directory : Directory)
    (tree : Tree)
    (name : String) : Prop where
  liveName :
    ∀ live,
      directory.answer tree (.configuration name) = .ok live →
        live.projectName = name
  copy :
    ∀ copy,
      directory.answer tree (.approved name) =
          .ok (some copy) →
        (∃ live,
            directory.answer tree (.configuration name) =
              .ok live) ∧
          copy.projectName = name ∧
          copy.standing = .approved ∧
          copy.rejectionReason = ""
  approved :
    ∀ live,
      directory.answer tree (.configuration name) = .ok live →
      live.standing = .approved →
        directory.answer tree (.approved name) =
            .ok (some live) ∧
          (Difference.between live (some live)).isEmpty ∧
          ∃ loaded,
            directory.answer tree (.deletedViews name) =
                .ok loaded ∧
              loaded.views = []

variable {directory : Directory}
variable {tree : Tree}
variable {ledger : Ledger}
variable {name : String}
variable {entry : Entry}
variable {live copy : Configuration}

/- Only a project name has records. -/
theorem isProjectName_of_live
    (hLive : directory.live tree name = .ok live) :
    Rule.isProjectName name := by
  cases hFolder : folderOf name with
  | error error =>
      simp [Directory.live, live?, hFolder, bind, Except.bind]
        at hLive
  | ok folder => exact (folderOf_eq_ok_iff.mp hFolder).1

theorem isProjectName_of_approved
    {copy : Option Configuration}
    (hCopy : directory.approved tree name = .ok copy) :
    Rule.isProjectName name := by
  cases hFolder : folderOf name with
  | error error =>
      simp [Directory.approved, hFolder, bind, Except.bind]
        at hCopy
  | ok folder => exact (folderOf_eq_ok_iff.mp hFolder).1

/- Without a copy there are no views that only it has. -/
theorem deletedViews_of_none
    (hLive : directory.live tree name = .ok live)
    (hCopy : directory.approved tree name = .ok none) :
    directory.deletedViews tree name = .ok {} := by
  unfold Directory.deletedViews
  rw [hLive, hCopy]
  rfl

/- A copy that is the live record has no other views. -/
theorem deletedViews_of_same
    (hLive : directory.live tree name = .ok live)
    (hCopy : directory.approved tree name = .ok (some live)) :
    ∃ loaded,
      directory.deletedViews tree name = .ok loaded ∧
        loaded.views = [] := by
  unfold Directory.deletedViews
  rw [hLive, hCopy]
  refine ⟨_, rfl, ?_⟩
  rw [List.filter_eq_nil_iff]
  intro view hView
  have hKept :
      live.views.any fun other => other.sameSource view :=
    List.any_eq_true.mpr
      ⟨view, hView, by simp [ViewRecord.sameSource]⟩
  simp [hKept]

/- A live record that is answered is that of an entry. -/
theorem Shows.exists_entry
    (hShows : directory.Shows tree ledger)
    (hLive :
      directory.answer tree (.configuration name) =
        .ok live) :
    ∃ entry, ledger name = some entry ∧ entry.live = live := by
  have hName := isProjectName_of_live hLive
  have hAnswer := hShows.configuration name hName
  cases hEntry : ledger name with
  | none =>
      rw [hEntry] at hAnswer
      cases hLive.symm.trans hAnswer
  | some entry =>
      rw [hEntry] at hAnswer
      cases hLive.symm.trans hAnswer
      exact ⟨entry, rfl, rfl⟩

/- So is an approved copy. -/
theorem Shows.exists_copy
    (hShows : directory.Shows tree ledger)
    (hCopy :
      directory.answer tree (.approved name) =
        .ok (some copy)) :
    ∃ entry,
      ledger name = some entry ∧
        entry.approved = some copy := by
  have hName := isProjectName_of_approved hCopy
  have hAnswer := hShows.approved name hName
  have hBoth := Except.ok.inj (hAnswer.symm.trans hCopy)
  exact Option.bind_eq_some_iff.mp hBoth

/- The records of an entry are the answers about its name. -/
theorem Shows.answers
    (hShows : directory.Shows tree ledger)
    (hName : Rule.isProjectName name)
    (hEntry : ledger name = some entry) :
    directory.answer tree (.configuration name) =
        .ok entry.live ∧
      directory.answer tree (.approved name) =
        .ok entry.approved := by
  have hLive := hShows.configuration name hName
  have hCopy := hShows.approved name hName
  rw [hEntry] at hLive hCopy
  exact ⟨hLive, hCopy⟩

/- Sound entries make for answers that fit together. -/
theorem Shows.isConsistent
    (hShows : directory.Shows tree ledger)
    (hSound : ledger.IsSound)
    (name : String) :
    directory.IsConsistent tree name where
  liveName := by
    intro live hLive
    rcases hShows.exists_entry hLive with
      ⟨entry, hEntry, rfl⟩
    exact (hSound name entry hEntry).2.liveName
  copy := by
    intro copy hCopy
    rcases hShows.exists_copy hCopy with
      ⟨entry, hEntry, hApproved⟩
    rcases hSound name entry hEntry with ⟨hName, hRecords⟩
    exact
      ⟨⟨_, (hShows.answers hName hEntry).1⟩,
        hRecords.copy copy hApproved⟩
  approved := by
    intro live hLive hStanding
    rcases hShows.exists_entry hLive with
      ⟨entry, hEntry, rfl⟩
    rcases hSound name entry hEntry with ⟨hName, hRecords⟩
    have hCopy := hShows.approved name hName
    rw [hEntry] at hCopy
    have hSame :
        directory.answer tree (.approved name) =
          .ok (some entry.live) :=
      hCopy.trans
        (congrArg Except.ok (hRecords.approved hStanding))
    exact
      ⟨hSame, Difference.isEmpty_between_self entry.live,
        deletedViews_of_same hLive hSame⟩

/-
  After any postings to a tree without configurations the
  answers about every name fit together.
-/
theorem run_isConsistent
    (hFormat : directory.format = .json)
    (hVacant : IsVacant tree)
    (postings : List Posting)
    (name : String) :
    directory.IsConsistent
      (Posting.run directory.post tree postings) name := by
  have hHolds :=
    (hVacant.holds directory).run hFormat postings
  have hSound :=
    Ledger.isSound_run (directory.blocked tree)
      Ledger.isSound_empty postings
  exact (hHolds.shows hFormat).isConsistent hSound name

end Directory

end BuildForm

------------------------------------------------------------
-- Documents of the Root
------------------------------------------------------------

namespace BuildForm

namespace Directory

variable {directory : Directory}
variable {tree : Tree}

/- Where none says otherwise, the defaults are empty. -/
theorem newDefaults_of_none
    (hNone : find? tree [] "defaults" = none) :
    directory.answer tree .newDefaults = .ok {} := by
  unfold answer defaults readRoot readOptional
  dsimp only
  rw [hNone]
  rfl

/- And users are called what they are. -/
theorem fullName_of_none
    (hNone : find? tree [] "users" = none)
    (user : String) :
    directory.answer tree (.fullName user) = .ok user := by
  unfold answer textOf? readRoot readOptional
  dsimp only
  rw [hNone]
  rfl

/- A posting writes into folders, not beside them. -/
theorem read?_root_post
    (directory : Directory)
    (tree : Tree)
    (posting : Posting)
    (fileName : String) :
    (directory.post tree posting).2.read? [fileName] =
      tree.read? [fileName] := by
  let acting : Directory :=
    { directory with user := posting.user }
  change
    (acting.submit tree posting.submission).2.read? [fileName] =
      tree.read? [fileName]
  rcases hSubmit : acting.submit tree posting.submission with
    ⟨_ | _, after⟩
  · rw [tree_of_submit_error hSubmit]
  · rcases exists_storedAs_of_submit hSubmit with
      ⟨live, copy, hStored⟩
    by_contra hChanged
    rcases hStored.changed [fileName] hChanged with
      hLive | ⟨_, hCopy⟩
    · simp at hLive
    · simp at hCopy

/- So its own documents are the same after any postings. -/
theorem find?_root_run
    (directory : Directory)
    (tree : Tree)
    (postings : List Posting)
    (stem : String) :
    find? (Posting.run directory.post tree postings) [] stem =
      find? tree [] stem := by
  induction postings generalizing tree with
  | nil => rfl
  | cons posting postings ih =>
      apply (ih _).trans
      apply find?_congr
      intro format
      unfold Tree.isFile
      rw [show
        (Location.mk [] stem format).path =
          [(Location.mk [] stem format).fileName] from rfl]
      rw [read?_root_post]

end Directory

end BuildForm
