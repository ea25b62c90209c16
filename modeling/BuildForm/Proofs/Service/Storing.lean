import BuildForm.Proofs.Document.Writing
import BuildForm.Proofs.Service.TreeWrite
import BuildForm.Service.Directory

/-
  How the directory service stores records.

  A record goes to the place of the document there is, its
  *target*. Storing one finds the document there afterwards
  and leaves every other file alone. A submission that fails
  stores nothing, an approval included: the live document
  that it replaces was read before, so that nothing can be in
  the way of the second of its two documents.

  Main declarations:
    * `Directory.find?_store`
    * `Directory.read?_store`
    * `Directory.exists_store_of_find?`
    * `Directory.submit_effect`
    * `Directory.exists_storedAs_of_submit`
    * `Directory.submit_changes_documents`
-/

------------------------------------------------------------
-- Finding Documents
------------------------------------------------------------

namespace BuildForm

namespace Directory

theorem Location.fileName_config_inj
    (format otherFormat : Format)
    (hName :
      configStem ++ "." ++ format.extension =
        configStem ++ "." ++ otherFormat.extension) :
    format = otherFormat := by
  revert hName
  cases format <;> cases otherFormat <;> decide

/- Paths tell the folder and the format of a document. -/
theorem Location.path_config_inj
    {folder otherFolder : List String}
    {format otherFormat : Format} :
    (Location.mk folder configStem format).path =
        (Location.mk otherFolder configStem
          otherFormat).path ↔
      folder = otherFolder ∧ format = otherFormat := by
  constructor
  · intro hPath
    rcases List.append_inj' hPath rfl with ⟨hFolder, hName⟩
    exact
      ⟨hFolder, fileName_config_inj format otherFormat
        (List.singleton_inj.mp hName)⟩
  · rintro ⟨rfl, rfl⟩
    rfl

variable {tree : Tree}
variable {folder : List String}
variable {stem : String}
variable {location : Location}

theorem find?_eq_some
    (hFind : find? tree folder stem = some location) :
    location.folder = folder ∧
      location.stem = stem ∧
      tree.isFile location.path := by
  unfold find? at hFind
  have hFile := List.find?_some hFind
  have hMember := List.mem_of_find?_eq_some hFind
  rcases List.mem_map.mp hMember with ⟨format, _, rfl⟩
  exact ⟨rfl, rfl, hFile⟩

theorem find?_eq_none_iff :
    find? tree folder stem = none ↔
      ∀ format,
        tree.isFile (Location.mk folder stem format).path =
          false := by
  unfold find?
  rw [List.find?_eq_none]
  simp only [List.mem_map, forall_exists_index, and_imp,
    forall_apply_eq_imp_iff₂, Bool.not_eq_true]
  constructor
  · intro hEach format
    exact hEach format (by cases format <;> decide)
  · intro hEach format _
    exact hEach format

/- Only the files of the folder matter. -/
theorem find?_congr
    {left right : Tree}
    (hFiles :
      ∀ format,
        left.isFile (Location.mk folder stem format).path =
          right.isFile
            (Location.mk folder stem format).path) :
    find? left folder stem = find? right folder stem := by
  unfold find?
  simp [Format.available, List.find?, hFiles]

end Directory

end BuildForm

------------------------------------------------------------
-- Storing One Record
------------------------------------------------------------

namespace BuildForm

namespace Directory

/- Where a record of a folder is stored. -/
def target
    (directory : Directory)
    (tree : Tree)
    (folder : List String) : Location :=
  (find? tree folder configStem).getD
    { folder, stem := configStem, format := directory.format }

variable {directory : Directory}
variable {tree changed : Tree}
variable {folder : List String}
variable {record : Configuration}

theorem target_eq
    (directory : Directory)
    (tree : Tree)
    (folder : List String) :
    directory.target tree folder =
      Location.mk folder configStem
        (directory.target tree folder).format := by
  unfold target
  cases hFind : find? tree folder configStem with
  | none => rfl
  | some location =>
      rcases find?_eq_some hFind with ⟨hFolder, hStem, _⟩
      cases location
      simp_all

theorem target_folder
    (directory : Directory)
    (tree : Tree)
    (folder : List String) :
    (directory.target tree folder).folder = folder := by
  rw [target_eq]

theorem target_path
    (directory : Directory)
    (tree : Tree)
    (folder : List String) :
    (directory.target tree folder).path =
      folder ++ [(directory.target tree folder).fileName] := by
  unfold Location.path
  rw [target_folder]

/- A store that succeeds writes the text of the record. -/
theorem store_ok
    (hStore : directory.store tree folder record = .ok changed) :
    ∃ text,
      Document.renderRecord
          (directory.target tree folder).format true
          record.toValue = .ok text ∧
      tree.write (.text text) folder
          (directory.target tree folder).fileName =
        .ok changed := by
  unfold store at hStore
  dsimp only at hStore
  split at hStore
  · simp at hStore
  · rename_i text hText
    refine ⟨text, hText, ?_⟩
    split at hStore
    · rename_i written hWrite
      cases hStore
      exact hWrite
    · simp at hStore
    · simp at hStore

theorem read?_store_target
    (hStore : directory.store tree folder record = .ok changed) :
    ∃ text,
      Document.renderRecord
          (directory.target tree folder).format true
          record.toValue = .ok text ∧
      changed.read? (directory.target tree folder).path =
        some (.text text) := by
  rcases store_ok hStore with ⟨text, hText, hWrite⟩
  refine ⟨text, hText, ?_⟩
  rw [Tree.read?_write hWrite, target_path, if_pos rfl]

theorem read?_store
    (hStore : directory.store tree folder record = .ok changed)
    {path : List String}
    (hPath : path ≠ (directory.target tree folder).path) :
    changed.read? path = tree.read? path := by
  rcases store_ok hStore with ⟨text, _, hWrite⟩
  rw [target_path] at hPath
  rw [Tree.read?_write hWrite, if_neg hPath]

/- Only the document itself is another one afterwards. -/
theorem path_of_store
    (hStore : directory.store tree folder record = .ok changed)
    {path : List String}
    (hChanged : changed.read? path ≠ tree.read? path) :
    path = (directory.target tree folder).path := by
  by_contra hPath
  exact hChanged (read?_store hStore hPath)

theorem isFile_store
    (hStore : directory.store tree folder record = .ok changed)
    (path : List String) :
    changed.isFile path =
      (path = (directory.target tree folder).path ||
        tree.isFile path) := by
  rcases store_ok hStore with ⟨text, _, hWrite⟩
  rw [Tree.isFile_write hWrite, target_path]

/- The document is found in its place afterwards. -/
theorem find?_store
    (hStore :
      directory.store tree folder record = .ok changed) :
    find? changed folder configStem =
      some (directory.target tree folder) := by
  cases hFind : find? tree folder configStem with
  | some location =>
      have hTarget :
          directory.target tree folder = location := by
        unfold target
        rw [hFind]
        rfl
      rcases find?_eq_some hFind with ⟨_, _, hFile⟩
      rw [hTarget, ← hFind]
      apply find?_congr
      intro format
      rw [isFile_store hStore, hTarget]
      by_cases hPath :
          (Location.mk folder configStem format).path =
            location.path
      · simp [hPath, hFile]
      · simp [hPath]
  | none =>
      have hFree := find?_eq_none_iff.mp hFind
      have hTarget :
          directory.target tree folder =
            Location.mk folder configStem
              directory.format := by
        unfold target
        rw [hFind]
        rfl
      have hFiles :
          ∀ format,
            changed.isFile
                (Location.mk folder configStem
                  format).path =
              decide (format = directory.format) := by
        intro format
        rw [isFile_store hStore, hTarget, hFree format,
          Bool.or_false, decide_eq_decide,
          Location.path_config_inj]
        simp
      rw [hTarget]
      unfold find?
      cases hFormat : directory.format <;>
        simp [Format.available, List.find?, hFiles, hFormat]

/- Documents of other folders stay as they were. -/
theorem find?_store_other
    (hStore :
      directory.store tree folder record = .ok changed)
    {otherFolder : List String}
    (hOther : otherFolder ≠ folder) :
    find? changed otherFolder configStem =
      find? tree otherFolder configStem := by
  apply find?_congr
  intro format
  have hPath :
      (Location.mk otherFolder configStem format).path ≠
        (directory.target tree folder).path := by
    rw [target_eq]
    intro hSame
    exact hOther (Location.path_config_inj.mp hSame).1
  rw [isFile_store hStore]
  simp [hPath]

/- A document that is there can be replaced. -/
theorem exists_store_of_find?
    (directory : Directory)
    {location : Location}
    (hFind : find? tree folder configStem = some location)
    (record : Configuration) :
    ∃ changed,
      directory.store tree folder record = .ok changed := by
  have hTarget : directory.target tree folder = location := by
    unfold target
    rw [hFind]
    rfl
  rcases find?_eq_some hFind with ⟨hFolder, _, hFile⟩
  rcases Document.exists_renderRecord location.format
    record with ⟨text, hText⟩
  have hFree :
      tree.obstacle? folder location.fileName = none := by
    apply Tree.obstacle?_of_isFile
    rw [← hFolder]
    exact hFile
  rcases Tree.exists_write (.text text) hFree with
    ⟨changed, hWrite⟩
  refine ⟨changed, ?_⟩
  unfold store
  rw [hFind]
  simp [hText, hWrite]

end Directory

end BuildForm

------------------------------------------------------------
-- Folders of Configurations
------------------------------------------------------------

namespace BuildForm

namespace Directory

variable {directory : Directory}
variable {tree : Tree}
variable {name : String}

theorem folderOf_eq_ok_iff {folder : List String} :
    folderOf name = .ok folder ↔
      Rule.isProjectName name ∧ folder = [name] := by
  have hAccepts :=
    FieldKind.fault?_eq_none_iff .projectName name
  unfold folderOf
  cases hFault : FieldKind.projectName.fault? name with
  | none =>
      have hName : Rule.isProjectName name :=
        hAccepts.mp hFault
      simp [hName, eq_comm]
  | some fault =>
      have hName : ¬Rule.isProjectName name := by
        intro hName
        simp [hAccepts.mpr hName] at hFault
      simp [hName]

/- A live record that is read has a document. -/
theorem live?_eq_some
    {config : Configuration}
    (hLive :
      directory.live? tree name = .ok (some config)) :
    ∃ location,
      find? tree [name] configStem = some location := by
  unfold live? at hLive
  cases hFolder : folderOf name with
  | error error => simp [hFolder, bind, Except.bind] at hLive
  | ok folder =>
      rcases folderOf_eq_ok_iff.mp hFolder with ⟨_, rfl⟩
      simp only [hFolder, bind, Except.bind,
        readOptional] at hLive
      cases hFind : find? tree [name] configStem with
      | none => simp [hFind] at hLive
      | some location => exact ⟨location, rfl⟩

end Directory

end BuildForm

------------------------------------------------------------
-- Submissions
------------------------------------------------------------

namespace BuildForm

namespace Directory

/-
  What a submission may do to a tree: nothing, with an error;
  store a live record; or, if it approves, store one record
  as the approved copy and as the live document.
-/
inductive Effect
    (directory : Directory)
    (tree : Tree)
    (submission : Submission) :
    Except ServiceError Unit × Tree → Prop where
  | failed (error : ServiceError) :
      Effect directory tree submission (.error error, tree)
  | stored (record : Configuration) (changed : Tree) :
      submission.formType ≠ .approved →
      directory.store tree
        [submission.configuration.projectName] record =
          .ok changed →
      Effect directory tree submission (.ok (), changed)
  | approved (record : Configuration) (copied changed : Tree) :
      submission.formType = .approved →
      directory.store tree
        [submission.configuration.projectName,
          approvedFolder] record = .ok copied →
      directory.store copied
        [submission.configuration.projectName] record =
          .ok changed →
      Effect directory tree submission (.ok (), changed)

variable {directory : Directory}
variable {tree : Tree}
variable {submission : Submission}
variable {folder : List String}
variable {update : Update}

/- Only an approval stores a copy, and it needs a record. -/
theorem update_ok
    {previous : Option Configuration}
    (hUpdate :
      directory.update submission previous = .ok update) :
    (submission.formType ≠ .approved ∧
        update.approvedRecord = none) ∨
      (submission.formType = .approved ∧
        previous ≠ none ∧
        update.approvedRecord = some update.liveRecord) := by
  unfold Directory.update at hUpdate
  dsimp only at hUpdate
  split at hUpdate <;> simp at hUpdate
  all_goals
    subst hUpdate
    simp [*]

theorem updateOf_ok
    (hUpdate :
      directory.updateOf tree submission =
        .ok (folder, update)) :
    folder = [submission.configuration.projectName] ∧
      ∃ previous,
        directory.live? tree
            submission.configuration.projectName =
          .ok previous ∧
        directory.update submission previous =
          .ok update := by
  unfold updateOf at hUpdate
  simp only [bind, Except.bind, pure, Except.pure, throw,
    throwThe, MonadExceptOf.throw] at hUpdate
  split at hUpdate
  · simp at hUpdate
  · split at hUpdate
    · simp at hUpdate
    · rename_i folder hFolder
      split at hUpdate
      · simp at hUpdate
      · rename_i previous hPrevious
        split at hUpdate
        · simp at hUpdate
        · rename_i update hUpdated
          cases hUpdate
          exact
            ⟨(folderOf_eq_ok_iff.mp hFolder).2, previous,
              hPrevious, hUpdated⟩

/- Behind a submission that succeeds stands an update. -/
theorem exists_apply_of_submit
    {after : Tree}
    (hSubmit :
      directory.submit tree submission = (.ok (), after)) :
    ∃ previous update,
      directory.update submission previous = .ok update ∧
        directory.apply tree
            [submission.configuration.projectName] update =
          (.ok (), after) := by
  unfold submit at hSubmit
  split at hSubmit
  · cases hSubmit
  · rename_i folder update hUpdate
    rcases updateOf_ok hUpdate with
      ⟨rfl, previous, _, hUpdated⟩
    exact ⟨previous, update, hUpdated, hSubmit⟩

/- The update of a name that is none, or that is no name. -/
theorem submit_of_namelessRecord
    (directory : Directory)
    (tree : Tree)
    (hName : submission.configuration.projectName = "") :
    directory.submit tree submission =
      (.error (.refused .namelessRecord), tree) := by
  have hUpdate :
      directory.updateOf tree submission =
        .error (.refused .namelessRecord) := by
    unfold updateOf
    simp only [hName, if_true]
    rfl
  unfold submit
  rw [hUpdate]

theorem submit_of_badName
    (directory : Directory)
    (tree : Tree)
    (hName : submission.configuration.projectName ≠ "")
    {fault : Rule.Fault}
    (hFault :
      FieldKind.projectName.fault?
          submission.configuration.projectName =
        some fault) :
    directory.submit tree submission =
      (.error (.refused
        (.badName submission.configuration.projectName
          fault)), tree) := by
  have hUpdate :
      directory.updateOf tree submission =
        .error (.refused
          (.badName submission.configuration.projectName
            fault)) := by
    unfold updateOf folderOf
    simp only [hName, if_false, hFault]
    rfl
  unfold submit
  rw [hUpdate]

/- Behind a name and the record under it stands an update. -/
theorem submit_of_live?
    (directory : Directory)
    (tree : Tree)
    (hName :
      Rule.isProjectName submission.configuration.projectName)
    {previous : Option Configuration}
    (hLive :
      directory.live? tree
          submission.configuration.projectName =
        .ok previous) :
    directory.submit tree submission =
      match directory.update submission previous with
      | .error error => (.error error, tree)
      | .ok update =>
          directory.apply tree
            [submission.configuration.projectName] update := by
  have hFolder := folderOf_eq_ok_iff.mpr ⟨hName, rfl⟩
  have hFull :
      submission.configuration.projectName ≠ "" := by
    intro hEmpty
    rw [hEmpty] at hName
    simp [Rule.isProjectName] at hName
  have hUpdate :
      directory.updateOf tree submission =
        (directory.update submission previous).map
          fun update =>
            ([submission.configuration.projectName],
              update) := by
    unfold updateOf
    simp only [hFull, if_false, hFolder, hLive]
    change
      (directory.update submission previous).bind _ = _
    cases directory.update submission previous <;> rfl
  unfold submit
  rw [hUpdate]
  cases directory.update submission previous <;> rfl

/- Without a copy, the live record is all that is stored. -/
theorem apply_of_none
    (hNone : update.approvedRecord = none) :
    directory.apply tree folder update =
      match directory.store tree folder update.liveRecord with
      | .error error => (.error error, tree)
      | .ok changed => (.ok (), changed) := by
  rcases update with ⟨record, copy⟩
  cases hNone
  rfl

/- Where the copy cannot be stored, nothing is. -/
theorem apply_of_copy_error
    {record : Configuration}
    {error : ServiceError}
    (hSome : update.approvedRecord = some record)
    (hCopy :
      directory.store tree (folder ++ [approvedFolder])
          record =
        .error error) :
    directory.apply tree folder update =
      (.error error, tree) := by
  unfold apply
  simp [hSome, hCopy]

/-
  With a live document there already, a copy that is stored
  is followed by the live record.
-/
theorem apply_of_copy
    (update : Update)
    {record : Configuration}
    {location : Location}
    {copied : Tree}
    (hSome : update.approvedRecord = some record)
    (hFind : find? tree folder configStem = some location)
    (hCopy :
      directory.store tree (folder ++ [approvedFolder])
          record =
        .ok copied) :
    ∃ changed,
      directory.store copied folder update.liveRecord =
          .ok changed ∧
        directory.apply tree folder update =
          (.ok (), changed) := by
  have hKept :
      find? copied folder configStem = some location := by
    rw [find?_store_other hCopy (by simp), hFind]
  rcases exists_store_of_find? directory hKept
    update.liveRecord with ⟨changed, hLive⟩
  refine ⟨changed, hLive, ?_⟩
  unfold apply
  simp [hSome, hCopy, hLive]

theorem submit_effect
    (directory : Directory)
    (tree : Tree)
    (submission : Submission) :
    Effect directory tree submission
      (directory.submit tree submission) := by
  unfold submit
  split
  · rename_i error _
    exact Effect.failed error
  · rename_i folder update hUpdate
    rcases updateOf_ok hUpdate with
      ⟨rfl, previous, hPrevious, hUpdated⟩
    rcases update_ok hUpdated with
      ⟨hType, hNone⟩ | ⟨hType, hBefore, hSome⟩
    · rw [apply_of_none hNone]
      split
      · rename_i error _
        exact Effect.failed error
      · rename_i changed hStore
        exact Effect.stored _ changed hType hStore
    · rcases Option.ne_none_iff_exists'.mp hBefore with
        ⟨config, rfl⟩
      rcases live?_eq_some hPrevious with ⟨location, hFind⟩
      cases hCopy :
          directory.store tree
            ([submission.configuration.projectName] ++
              [approvedFolder])
            update.liveRecord with
      | error error =>
          rw [apply_of_copy_error hSome hCopy]
          exact Effect.failed error
      | ok copied =>
          rcases apply_of_copy update hSome hFind hCopy with
            ⟨changed, hStore, hApply⟩
          rw [hApply]
          exact
            Effect.approved _ copied changed hType hCopy
              hStore

/-
  The tree after a submission that stored its documents: each
  is found in its place, and no other file is another one.
-/
structure StoredAs
    (submission : Submission)
    (before after : Tree)
    (live copy : Format) : Prop where
  finds :
    find? after [submission.configuration.projectName]
        configStem =
      some
        ⟨[submission.configuration.projectName], configStem,
          live⟩
  findsCopy :
    submission.formType = .approved →
      find? after
          [submission.configuration.projectName,
            approvedFolder]
          configStem =
        some
          ⟨[submission.configuration.projectName,
              approvedFolder],
            configStem, copy⟩
  changed :
    ∀ path, after.read? path ≠ before.read? path →
      path =
          [submission.configuration.projectName,
            configStem ++ "." ++ live.extension] ∨
        submission.formType = .approved ∧
          path =
            [submission.configuration.projectName,
              approvedFolder,
              configStem ++ "." ++ copy.extension]

/- What a submission comes to, where it found its documents. -/
theorem Effect.exists_storedAs
    {after : Tree}
    (hEffect :
      Effect directory tree submission (.ok (), after)) :
    ∃ live copy, StoredAs submission tree after live copy := by
  let name := submission.configuration.projectName
  cases hEffect with
  | stored record changed hType hStore =>
      refine
        ⟨(directory.target tree [name]).format, .json, ?_, ?_,
          ?_⟩
      · rw [find?_store hStore]
        exact congrArg some (target_eq directory tree [name])
      · intro hApproved
        exact absurd hApproved hType
      · intro path hChanged
        have hPath := path_of_store hStore hChanged
        rw [target_eq] at hPath
        exact Or.inl hPath
  | approved record copied changed hType hCopy hStore =>
      refine
        ⟨(directory.target copied [name]).format,
          (directory.target tree [name, approvedFolder]).format,
          ?_, ?_, ?_⟩
      · rw [find?_store hStore]
        exact congrArg some (target_eq directory copied [name])
      · intro _
        rw [find?_store_other hStore (by simp),
          find?_store hCopy]
        exact
          congrArg some
            (target_eq directory tree [name, approvedFolder])
      · intro path hChanged
        by_cases hLive : after.read? path = copied.read? path
        · rw [hLive] at hChanged
          have hPath := path_of_store hCopy hChanged
          rw [target_eq] at hPath
          exact Or.inr ⟨hType, hPath⟩
        · have hPath := path_of_store hStore hLive
          rw [target_eq] at hPath
          exact Or.inl hPath

theorem exists_storedAs_of_submit
    {after : Tree}
    (hSubmit :
      directory.submit tree submission = (.ok (), after)) :
    ∃ live copy, StoredAs submission tree after live copy := by
  have hEffect := submit_effect directory tree submission
  rw [hSubmit] at hEffect
  exact hEffect.exists_storedAs

theorem tree_of_submit_error
    {error : ServiceError}
    {after : Tree}
    (hSubmit :
      directory.submit tree submission = (.error error, after)) :
    after = tree := by
  have hEffect := submit_effect directory tree submission
  rw [hSubmit] at hEffect
  cases hEffect
  rfl

/-
  A submission that fails changes no file. One that succeeds
  changes at most the live document and, if it approves, the
  approved copy; both are the documents found afterwards.
-/
theorem submit_changes_documents
    (directory : Directory)
    (tree : Tree)
    (submission : Submission) :
    let name := submission.configuration.projectName
    match directory.service (.submit submission) tree with
    | (.error _, after) =>
        ∀ path, after.read? path = tree.read? path
    | (.ok _, after) =>
        ∃ live copy : Format,
          find? after [name] configStem =
              some ⟨[name], configStem, live⟩ ∧
            (submission.formType = .approved →
              find? after [name, approvedFolder] configStem =
                some
                  ⟨[name, approvedFolder], configStem,
                    copy⟩) ∧
            ∀ path, after.read? path ≠ tree.read? path →
              path =
                  [name, configStem ++ "." ++
                    live.extension] ∨
                submission.formType = .approved ∧
                  path =
                    [name, approvedFolder,
                      configStem ++ "." ++
                        copy.extension] := by
  intro name
  have hEffect :
      Effect directory tree submission
        (directory.service (.submit submission) tree) :=
    submit_effect directory tree submission
  rcases
    hAnswer : directory.service (.submit submission) tree with
    ⟨outcome, after⟩
  rw [hAnswer] at hEffect
  cases outcome with
  | error error =>
      cases hEffect
      intro path
      rfl
  | ok answer =>
      rcases hEffect.exists_storedAs with ⟨live, copy, hStored⟩
      exact
        ⟨live, copy, hStored.finds, hStored.findsCopy,
          hStored.changed⟩

end Directory

end BuildForm
