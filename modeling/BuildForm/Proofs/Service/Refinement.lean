import BuildForm.Proofs.Document.RecordValues
import BuildForm.Proofs.Service.Ledger
import BuildForm.Proofs.Service.Storing

/-
  The directory service as a plain map.

  Whatever is submitted, in any order and by any users, a
  directory of JSON documents answers as the ledger does that
  is kept by the same submissions. What was in the way of a
  document from the start stays in its way.

  Main declarations:
    * `Directory.blocked`
    * `Directory.Holds`
    * `Directory.Holds.post`
    * `Directory.Holds.run`
    * `Directory.Shows`
    * `Directory.run_refines_ledger`
-/

------------------------------------------------------------
-- Slots of a Tree
------------------------------------------------------------

namespace BuildForm

namespace Directory

/- The document of a slot in the format of new documents. -/
def location
    (directory : Directory)
    (slot : Slot) : Location :=
  { folder := slot.folder
    stem := configStem
    format := directory.format }

/- What keeps a new document out of a slot. -/
def blocked
    (directory : Directory)
    (tree : Tree)
    (slot : Slot) : Option ServiceError :=
  let location := directory.location slot
  match tree.obstacle? location.folder location.fileName with
  | none => none
  | some .parent =>
      some (.inaccessible (directory.display location.folder)
        .notDirectory)
  | some .isDirectory =>
      some (.inaccessible (directory.display location.path)
        .isDirectory)

/- A slot that holds a record, or none at all. -/
def HoldsAt
    (directory : Directory)
    (tree : Tree)
    (slot : Slot) : Option Configuration → Prop
  | none => find? tree slot.folder configStem = none
  | some record =>
      find? tree slot.folder configStem =
          some (directory.location slot) ∧
        ∃ text,
          Document.renderRecord directory.format true
              record.toValue = .ok text ∧
            tree.read? (directory.location slot).path =
              some (.text text)

variable {directory : Directory}
variable {tree changed : Tree}
variable {slot other : Slot}
variable {record? : Option Configuration}
variable {record : Configuration}

theorem Slot.folder_inj (hSame : slot.folder = other.folder) :
    slot = other := by
  cases slot <;> cases other <;> simp_all [folder]

theorem fileName_location_ne
    (directory : Directory)
    (slot : Slot) :
    (directory.location slot).fileName ≠ approvedFolder := by
  have hName :
      ∀ format : Format,
        configStem ++ "." ++ format.extension ≠
          approvedFolder := by
    intro format
    cases format <;> decide
  exact hName directory.format

/- The path of a document leads to no other slot. -/
theorem not_path_prefix_folder
    (directory : Directory)
    (slot other : Slot) :
    ¬slot.folder ++ [(directory.location slot).fileName] <+:
      other.folder := by
  have hName := fileName_location_ne directory slot
  cases slot <;> cases other <;>
    simp_all [Slot.folder, List.cons_prefix_cons]

/- A record is stored in the format of new documents. -/
theorem HoldsAt.target
    (hHolds : directory.HoldsAt tree slot record?) :
    directory.target tree slot.folder =
      directory.location slot := by
  unfold Directory.target
  cases record? with
  | none =>
      have hFind :
          find? tree slot.folder configStem = none := hHolds
      rw [hFind]
      rfl
  | some record =>
      rw [hHolds.1]
      rfl

/- The record of a slot is read back. -/
theorem HoldsAt.readOptional
    (hFormat : directory.format = .json)
    (hHolds : directory.HoldsAt tree slot record?) :
    directory.readOptional Configuration.ofValue? tree
        slot.folder configStem =
      .ok record? := by
  unfold Directory.readOptional
  cases record? with
  | none =>
      have hFind :
          find? tree slot.folder configStem = none := hHolds
      rw [hFind]
  | some record =>
      rcases hHolds with ⟨hFind, text, hText, hRead⟩
      have hBack :=
        Document.readAs_render_configuration record
      rw [hFormat] at hText
      rw [hText] at hBack
      have hFormatHere :
          (directory.location slot).format = .json := hFormat
      rw [hFind]
      unfold Directory.read
      simp only [hRead, hFormatHere]
      have hRecord :
          Document.readAs Configuration.ofValue? .json text =
            .ok record := hBack
      rw [hRecord]
      rfl

/- A record goes into its slot unless that is blocked. -/
theorem HoldsAt.store
    (hHolds : directory.HoldsAt tree slot record?)
    (record : Configuration) :
    match directory.blocked tree slot with
    | some error =>
        directory.store tree slot.folder record = .error error
    | none =>
        ∃ changed,
          directory.store tree slot.folder record =
            .ok changed := by
  rcases Document.exists_renderRecord directory.format record
    with ⟨text, hText⟩
  have hTarget := hHolds.target
  unfold Directory.target at hTarget
  have hFolder :
      (directory.location slot).folder = slot.folder := rfl
  have hFormat :
      (directory.location slot).format =
        directory.format := rfl
  have hWrite :=
    Tree.write_of_obstacle? (.text text) slot.folder
      (directory.location slot).fileName tree
  unfold blocked Directory.store
  simp only [hTarget, hFolder, hFormat, hText]
  split at hWrite
  · rename_i fault hObstacle
    rw [hObstacle, hWrite]
    cases fault <;> rfl
  · rename_i hObstacle
    rcases hWrite with ⟨changed, hWrite⟩
    rw [hObstacle, hWrite]
    exact ⟨changed, rfl⟩

/- A slot with a record can always be written again. -/
theorem HoldsAt.not_blocked
    (hHolds : directory.HoldsAt tree slot (some record)) :
    directory.blocked tree slot = none := by
  rcases find?_eq_some hHolds.1 with ⟨_, _, hFile⟩
  have hFree := Tree.obstacle?_of_isFile hFile
  unfold blocked
  simp only [hFree]

theorem HoldsAt.of_store
    (hHolds : directory.HoldsAt tree slot record?)
    (hStore :
      directory.store tree slot.folder record =
        .ok changed) :
    directory.HoldsAt changed slot (some record) := by
  have hFind := find?_store hStore
  have hRead := read?_store_target hStore
  rw [hHolds.target] at hFind hRead
  exact ⟨hFind, hRead⟩

theorem HoldsAt.of_store_other
    (hHolds : directory.HoldsAt tree other record?)
    (hStore :
      directory.store tree slot.folder record = .ok changed)
    (hOther : other ≠ slot) :
    directory.HoldsAt changed other record? := by
  have hFolder : other.folder ≠ slot.folder :=
    fun hSame => hOther (Slot.folder_inj hSame)
  have hFind := find?_store_other hStore hFolder
  cases record? with
  | none => exact hFind.trans hHolds
  | some record =>
      rcases hHolds with ⟨hThere, text, hText, hRead⟩
      refine ⟨hFind.trans hThere, text, hText, ?_⟩
      have hPath :
          (directory.location other).path ≠
            (directory.target tree slot.folder).path := by
        rw [target_eq]
        intro hSame
        exact hFolder (Location.path_config_inj.mp hSame).1
      rw [read?_store hStore hPath, hRead]

/- Storing a record blocks and unblocks no slot. -/
theorem HoldsAt.blocked_of_store
    (hHolds : directory.HoldsAt tree slot record?)
    (hStore :
      directory.store tree slot.folder record =
        .ok changed)
    (other : Slot) :
    directory.blocked changed other =
      directory.blocked tree other := by
  rcases store_ok hStore with ⟨text, _, hWrite⟩
  rw [hHolds.target] at hWrite
  have hSame :
      changed.obstacle? (directory.location other).folder
          (directory.location other).fileName =
        tree.obstacle? (directory.location other).folder
          (directory.location other).fileName :=
    Tree.obstacle?_write hWrite
      (not_path_prefix_folder directory slot other)
      (not_path_prefix_folder directory other slot)
  unfold blocked
  simp only [hSame]

end Directory

end BuildForm

------------------------------------------------------------
-- One Posting
------------------------------------------------------------

namespace BuildForm

namespace Directory

/-
  A tree that holds a ledger: each slot of a project name has
  the record of the ledger or none, and the blocked slots are
  those given.
-/
structure Holds
    (directory : Directory)
    (blocked : Slot → Option ServiceError)
    (tree : Tree)
    (ledger : Ledger) : Prop where
  slots :
    ∀ slot, Rule.isProjectName slot.name →
      directory.HoldsAt tree slot (ledger.record? slot)
  blocks : ∀ slot, directory.blocked tree slot = blocked slot

variable {directory : Directory}
variable {blocked : Slot → Option ServiceError}
variable {tree changed : Tree}
variable {ledger : Ledger}
variable {name : String}
variable {record : Configuration}

/- The entry of a name changes with one of its two slots. -/
theorem Holds.of_store
    (hHolds : Holds directory blocked tree ledger)
    (slot : Slot)
    (hName : Rule.isProjectName slot.name)
    (hStore :
      directory.store tree slot.folder record = .ok changed)
    {entry : Entry}
    (hSlot :
      (ledger.put slot.name entry).record? slot = some record)
    (hRest :
      ∀ other, other.name = slot.name → other ≠ slot →
        (ledger.put slot.name entry).record? other =
          ledger.record? other) :
    Holds directory blocked changed
      (ledger.put slot.name entry) where
  slots := by
    intro other hOther
    by_cases hSame : other = slot
    · subst hSame
      rw [hSlot]
      exact (hHolds.slots other hName).of_store hStore
    · have hKept :
          (ledger.put slot.name entry).record? other =
            ledger.record? other := by
        by_cases hNames : other.name = slot.name
        · exact hRest other hNames hSame
        · exact ledger.record?_put_of_ne entry hNames
      rw [hKept]
      exact
        (hHolds.slots other hOther).of_store_other hStore hSame
  blocks := by
    intro other
    rw [(hHolds.slots slot hName).blocked_of_store hStore]
    exact hHolds.blocks other

theorem Holds.of_store_live
    (hHolds : Holds directory blocked tree ledger)
    (hName : Rule.isProjectName name)
    (hStore :
      directory.store tree [name] record = .ok changed) :
    Holds directory blocked changed
      (ledger.put name
        { live := record
          approved := (ledger name).bind Entry.approved }) := by
  apply hHolds.of_store (.live name) hName hStore
  · simp [Slot.name, Ledger.record?]
  · intro other hNames hOther
    cases other with
    | live other => exact absurd (congrArg Slot.live hNames) hOther
    | copy other =>
        have hSame : other = name := hNames
        simp [Slot.name, Ledger.record?, hSame]

theorem Holds.of_store_copy
    (hHolds : Holds directory blocked tree ledger)
    (hName : Rule.isProjectName name)
    {entry : Entry}
    (hEntry : ledger name = some entry)
    (hStore :
      directory.store tree [name, approvedFolder] record =
        .ok changed) :
    Holds directory blocked changed
      (ledger.put name
        { entry with approved := some record }) := by
  apply hHolds.of_store (.copy name) hName hStore
  · simp [Slot.name, Ledger.record?]
  · intro other hNames hOther
    cases other with
    | copy other => exact absurd (congrArg Slot.copy hNames) hOther
    | live other =>
        have hSame : other = name := hNames
        simp [Slot.name, Ledger.record?, hSame, hEntry]

/- The live record under a project name is read back. -/
theorem Holds.live?_eq
    (hFormat : directory.format = .json)
    (hHolds : Holds directory blocked tree ledger)
    (hName : Rule.isProjectName name) :
    directory.live? tree name =
      .ok ((ledger name).map Entry.live) := by
  have hFolder := folderOf_eq_ok_iff.mpr ⟨hName, rfl⟩
  have hRead :=
    (hHolds.slots (.live name) hName).readOptional hFormat
  unfold live?
  rw [hFolder]
  exact hRead

/-
  An update without a copy is stored unless the live slot is
  blocked, and it replaces the live record of the entry.
-/
theorem Holds.apply_live
    (hHolds : Holds directory blocked tree ledger)
    (hName : Rule.isProjectName name)
    (record : Configuration) :
    match blocked (.live name) with
    | some error =>
        directory.apply tree [name] { liveRecord := record } =
          (.error error, tree)
    | none =>
        ∃ changed,
          directory.apply tree [name]
              { liveRecord := record } =
            (.ok (), changed) ∧
          Holds directory blocked changed
            (ledger.put name
              { live := record
                approved :=
                  (ledger name).bind Entry.approved }) := by
  have hStore :=
    (hHolds.slots (.live name) hName).store record
  rw [hHolds.blocks] at hStore
  rw [apply_of_none rfl]
  split at hStore
  · rename_i error _
    have hStore :
        directory.store tree [name] record = .error error :=
      hStore
    simp only [hStore]
  · rcases hStore with ⟨changed, hStore⟩
    have hStore :
        directory.store tree [name] record = .ok changed :=
      hStore
    simp only [hStore]
    exact ⟨changed, rfl, hHolds.of_store_live hName hStore⟩

/-
  An update with a copy replaces a whole entry unless the slot
  of the copy is blocked.
-/
theorem Holds.apply_copy
    (hHolds : Holds directory blocked tree ledger)
    (hName : Rule.isProjectName name)
    {entry : Entry}
    (hEntry : ledger name = some entry)
    (record : Configuration) :
    match blocked (.copy name) with
    | some error =>
        directory.apply tree [name]
            { liveRecord := record
              approvedRecord := some record } =
          (.error error, tree)
    | none =>
        ∃ changed,
          directory.apply tree [name]
              { liveRecord := record
                approvedRecord := some record } =
            (.ok (), changed) ∧
          Holds directory blocked changed
            (ledger.put name
              { live := record
                approved := some record }) := by
  have hLive := hHolds.slots (.live name) hName
  have hRecord :
      ledger.record? (.live name) = some entry.live := by
    simp [Ledger.record?, hEntry]
  rw [hRecord] at hLive
  have hStore :=
    (hHolds.slots (.copy name) hName).store record
  rw [hHolds.blocks] at hStore
  split at hStore
  · exact apply_of_copy_error rfl hStore
  · rcases hStore with ⟨copied, hStore⟩
    have hStore :
        directory.store tree [name, approvedFolder] record =
          .ok copied := hStore
    have hFind :
        find? tree [name] configStem =
          some (directory.location (.live name)) := hLive.1
    have hApply :
        ∃ changed,
          directory.store copied [name] record = .ok changed ∧
            directory.apply tree [name]
                { liveRecord := record
                  approvedRecord := some record } =
              (.ok (), changed) :=
      apply_of_copy ⟨record, some record⟩ rfl hFind hStore
    rcases hApply with ⟨changed, hLater, hApply⟩
    refine ⟨changed, hApply, ?_⟩
    have hCopied := hHolds.of_store_copy hName hEntry hStore
    have hBoth := hCopied.of_store_live hName hLater
    simpa [Ledger.put_put] using hBoth

/-
  An outcome and the tree after it, beside an outcome of a
  ledger: the outcomes are the same, and the tree holds the
  ledger.
-/
structure Agrees
    (directory : Directory)
    (blocked : Slot → Option ServiceError)
    (stored : Except ServiceError Unit × Tree)
    (mapped : Except ServiceError Unit × Ledger) : Prop where
  outcomes : stored.1 = mapped.1
  holds : Holds directory blocked stored.2 mapped.2

variable {posting : Posting}

/- What a posting does once its update is known. -/
theorem Holds.post_eq
    (hFormat : directory.format = .json)
    (hHolds : Holds directory blocked tree ledger)
    (hName : Rule.isProjectName posting.name) :
    directory.post tree posting =
      match
        ({ directory with user := posting.user }).update
          posting.submission
          ((ledger posting.name).map Entry.live) with
      | .error error => (.error error, tree)
      | .ok update =>
          directory.apply tree [posting.name] update := by
  have hLive := hHolds.live?_eq hFormat hName
  exact
    submit_of_live? { directory with user := posting.user }
      tree hName hLive

theorem Holds.post_refused
    (hFormat : directory.format = .json)
    (hHolds : Holds directory blocked tree ledger)
    (hName : Rule.isProjectName posting.name)
    (error : ServiceError)
    (hUpdate :
      ({ directory with user := posting.user }).update
          posting.submission
          ((ledger posting.name).map Entry.live) =
        .error error)
    (hRule :
      Ledger.rule blocked posting (ledger posting.name) =
        .error error) :
    Agrees directory blocked (directory.post tree posting)
      (ledger.post blocked posting) := by
  rw [hHolds.post_eq hFormat hName, hUpdate,
    Ledger.post_of_name blocked ledger hName, hRule]
  exact ⟨rfl, hHolds⟩

theorem Holds.post_live
    (hFormat : directory.format = .json)
    (hHolds : Holds directory blocked tree ledger)
    (hName : Rule.isProjectName posting.name)
    {record : Configuration}
    (hUpdate :
      ({ directory with user := posting.user }).update
          posting.submission
          ((ledger posting.name).map Entry.live) =
        .ok { liveRecord := record })
    (hRule :
      Ledger.rule blocked posting (ledger posting.name) =
        match blocked (.live posting.name) with
        | some error => .error error
        | none =>
            .ok
              { live := record
                approved :=
                  (ledger posting.name).bind
                    Entry.approved }) :
    Agrees directory blocked (directory.post tree posting)
      (ledger.post blocked posting) := by
  have hApply := hHolds.apply_live hName record
  rw [hHolds.post_eq hFormat hName, hUpdate,
    Ledger.post_of_name blocked ledger hName, hRule]
  split at hApply
  · simp only [hApply]
    exact ⟨rfl, hHolds⟩
  · rcases hApply with ⟨changed, hApply, hAfter⟩
    simp only [hApply]
    exact ⟨rfl, hAfter⟩

theorem Holds.post_copy
    (hFormat : directory.format = .json)
    (hHolds : Holds directory blocked tree ledger)
    (hName : Rule.isProjectName posting.name)
    {entry : Entry}
    (hEntry : ledger posting.name = some entry)
    {record : Configuration}
    (hUpdate :
      ({ directory with user := posting.user }).update
          posting.submission
          ((ledger posting.name).map Entry.live) =
        .ok
          { liveRecord := record
            approvedRecord := some record })
    (hRule :
      Ledger.rule blocked posting (ledger posting.name) =
        match blocked (.copy posting.name) with
        | some error => .error error
        | none =>
            .ok
              { live := record
                approved := some record }) :
    Agrees directory blocked (directory.post tree posting)
      (ledger.post blocked posting) := by
  have hApply := hHolds.apply_copy hName hEntry record
  rw [hHolds.post_eq hFormat hName, hUpdate,
    Ledger.post_of_name blocked ledger hName, hRule]
  split at hApply
  · simp only [hApply]
    exact ⟨rfl, hHolds⟩
  · rcases hApply with ⟨changed, hApply, hAfter⟩
    simp only [hApply]
    exact ⟨rfl, hAfter⟩

/- A live slot with a record is not blocked. -/
theorem Holds.not_blocked
    (hHolds : Holds directory blocked tree ledger)
    (hName : Rule.isProjectName name)
    {entry : Entry}
    (hEntry : ledger name = some entry) :
    blocked (.live name) = none := by
  have hLive := hHolds.slots (.live name) hName
  have hRecord :
      ledger.record? (.live name) = some entry.live := by
    simp [Ledger.record?, hEntry]
  rw [hRecord] at hLive
  rw [← hHolds.blocks]
  exact hLive.not_blocked

/-
  A posting under a project name is answered by the rule of
  its form type, whichever entry there is.
-/
theorem Holds.post_of_name
    (hFormat : directory.format = .json)
    (hHolds : Holds directory blocked tree ledger)
    (hName : Rule.isProjectName posting.name) :
    Agrees directory blocked (directory.post tree posting)
      (ledger.post blocked posting) := by
  cases hType : posting.submission.formType with
  | create =>
      cases hEntry : ledger posting.name with
      | some entry =>
          apply hHolds.post_refused hFormat hName
            (.refused (.nameTaken posting.name))
          · simp only [Directory.update, hType, hEntry]
            rfl
          · simp only [Ledger.rule, hType, hEntry]
      | none =>
          apply hHolds.post_live hFormat hName
          · simp only [Directory.update, hType, hEntry]
            rfl
          · simp only [Ledger.rule, hType, hEntry]
            rfl
  | edit =>
      cases hEntry : ledger posting.name with
      | none =>
          apply hHolds.post_refused hFormat hName
            (.notFound posting.name)
          · simp only [Directory.update, hType, hEntry]
            rfl
          · simp only [Ledger.rule, hType, hEntry]
      | some entry =>
          have hFree := hHolds.not_blocked hName hEntry
          apply hHolds.post_live hFormat hName
          · simp only [Directory.update, hType, hEntry]
            rfl
          · simp only [Ledger.rule, hType, hEntry, hFree]
            rfl
  | approved =>
      cases hEntry : ledger posting.name with
      | none =>
          apply hHolds.post_refused hFormat hName
            (.notFound posting.name)
          · simp only [Directory.update, hType, hEntry]
            rfl
          · simp only [Ledger.rule, hType, hEntry]
      | some entry =>
          apply hHolds.post_copy hFormat hName hEntry
          · simp only [Directory.update, hType, hEntry]
            rfl
          · rw [hEntry]
            exact Ledger.rule_of_approved blocked hType entry
  | reject =>
      cases hEntry : ledger posting.name with
      | none =>
          apply hHolds.post_refused hFormat hName
            (.notFound posting.name)
          · simp only [Directory.update, hType, hEntry]
            rfl
          · simp only [Ledger.rule, hType, hEntry]
      | some entry =>
          have hFree := hHolds.not_blocked hName hEntry
          apply hHolds.post_live hFormat hName
          · simp only [Directory.update, hType, hEntry]
            rfl
          · simp only [Ledger.rule, hType, hEntry, hFree]
            rfl
  | view =>
      apply hHolds.post_refused hFormat hName
        (.refused (.unsubmittable .view))
      · simp only [Directory.update, hType]
      · simp only [Ledger.rule, hType]
  | approveReject =>
      apply hHolds.post_refused hFormat hName
        (.refused (.unsubmittable .approveReject))
      · simp only [Directory.update, hType]
      · simp only [Ledger.rule, hType]

/-
  The answer to a posting is that of the ledger, and the tree
  after it holds the ledger after it.
-/
theorem Holds.post
    (hFormat : directory.format = .json)
    (hHolds : Holds directory blocked tree ledger)
    (posting : Posting) :
    Agrees directory blocked (directory.post tree posting)
      (ledger.post blocked posting) := by
  by_cases hEmpty : posting.name = ""
  · have hStored :=
      submit_of_namelessRecord
        { directory with user := posting.user } tree hEmpty
    have hPost :
        directory.post tree posting =
          (.error (.refused .namelessRecord), tree) := hStored
    have hLedger :
        ledger.post blocked posting =
          (.error (.refused .namelessRecord), ledger) := by
      unfold Ledger.post Ledger.submit
      simp only [hEmpty, if_true]
    rw [hPost, hLedger]
    exact ⟨rfl, hHolds⟩
  · cases hFault :
        FieldKind.projectName.fault? posting.name with
    | some fault =>
        have hStored :=
          submit_of_badName
            { directory with user := posting.user } tree
            hEmpty hFault
        have hPost :
            directory.post tree posting =
              (.error (.refused
                (.badName posting.name fault)), tree) :=
          hStored
        have hLedger :
            ledger.post blocked posting =
              (.error (.refused
                (.badName posting.name fault)), ledger) := by
          unfold Ledger.post Ledger.submit
          simp only [hEmpty, if_false, hFault]
        rw [hPost, hLedger]
        exact ⟨rfl, hHolds⟩
    | none =>
        exact hHolds.post_of_name hFormat
          ((FieldKind.fault?_eq_none_iff .projectName
            posting.name).mp hFault)

end Directory

end BuildForm

------------------------------------------------------------
-- Any Number of Postings
------------------------------------------------------------

namespace BuildForm

namespace Directory

/- A tree without a document of any configuration. -/
def IsVacant (tree : Tree) : Prop :=
  ∀ slot : Slot, Rule.isProjectName slot.name →
    find? tree slot.folder configStem = none

/-
  The answers about a project name are those of a ledger: the
  live record, the approved one, and whether there is none.
-/
structure Shows
    (directory : Directory)
    (tree : Tree)
    (ledger : Ledger) : Prop where
  configuration :
    ∀ name, Rule.isProjectName name →
      (directory.service (.configuration name) tree).1 =
        match ledger name with
        | some entry => .ok entry.live
        | none => .error (.notFound name)
  approved :
    ∀ name, Rule.isProjectName name →
      (directory.service (.approved name) tree).1 =
        .ok ((ledger name).bind Entry.approved)
  isNameFree :
    ∀ name, Rule.isProjectName name →
      (directory.service (.isNameFree name) tree).1 =
        .ok (ledger name).isNone

variable {directory : Directory}
variable {blocked : Slot → Option ServiceError}
variable {tree : Tree}
variable {ledger : Ledger}

theorem IsVacant.holds
    (directory : Directory)
    (hVacant : IsVacant tree) :
    Holds directory (directory.blocked tree) tree
      Ledger.empty where
  slots := by
    intro slot hName
    have hNone : Ledger.empty.record? slot = none := by
      cases slot <;> rfl
    rw [hNone]
    exact hVacant slot hName
  blocks := fun _ => rfl

theorem Holds.shows
    (hFormat : directory.format = .json)
    (hHolds : Holds directory blocked tree ledger) :
    directory.Shows tree ledger where
  configuration := by
    intro name hName
    have hLive := hHolds.live?_eq hFormat hName
    change directory.live tree name = _
    unfold Directory.live
    rw [hLive]
    cases ledger name <;> rfl
  approved := by
    intro name hName
    have hFolder := folderOf_eq_ok_iff.mpr ⟨hName, rfl⟩
    have hRead :=
      (hHolds.slots (.copy name) hName).readOptional hFormat
    change directory.approved tree name = _
    unfold Directory.approved
    rw [hFolder]
    exact hRead
  isNameFree := by
    intro name hName
    have hFolder := folderOf_eq_ok_iff.mpr ⟨hName, rfl⟩
    have hLive := hHolds.slots (.live name) hName
    change Directory.isNameFree tree name = _
    unfold Directory.isNameFree
    rw [hFolder]
    change
      Except.ok (find? tree (Slot.live name).folder
        configStem).isNone = _
    cases hEntry : ledger name with
    | none =>
        have hNone : ledger.record? (.live name) = none := by
          simp [Ledger.record?, hEntry]
        rw [hNone] at hLive
        have hFind :
            find? tree (Slot.live name).folder configStem =
              none := hLive
        rw [hFind]
        rfl
    | some entry =>
        have hSome :
            ledger.record? (.live name) =
              some entry.live := by
          simp [Ledger.record?, hEntry]
        rw [hSome] at hLive
        rw [hLive.1]
        rfl

/- Postings keep a tree and its ledger together. -/
theorem Holds.run
    (hFormat : directory.format = .json)
    (hHolds : Holds directory blocked tree ledger)
    (postings : List Posting) :
    Holds directory blocked
      (Posting.run directory.post tree postings)
      (Posting.run (Ledger.post blocked) ledger postings) := by
  induction postings generalizing tree ledger with
  | nil => exact hHolds
  | cons posting postings ih =>
      exact ih (hHolds.post hFormat posting).holds

/-
  From a tree without configurations, the outcome of every
  posting and the answers after any number of them are those
  of a ledger that starts out empty.
-/
theorem run_refines_ledger
    (directory : Directory)
    (hFormat : directory.format = .json)
    (tree : Tree)
    (hVacant : IsVacant tree)
    (postings : List Posting) :
    let blocked := directory.blocked tree
    let after := Posting.run directory.post tree postings
    let ledger :=
      Posting.run (Ledger.post blocked) Ledger.empty postings
    (∀ posting,
        (directory.post after posting).1 =
          (ledger.post blocked posting).1) ∧
      directory.Shows after ledger := by
  intro blocked after ledger
  have hHolds : Holds directory blocked after ledger :=
    (hVacant.holds directory).run hFormat postings
  exact
    ⟨fun posting => (hHolds.post hFormat posting).outcomes,
      hHolds.shows hFormat⟩

theorem isVacant_empty : IsVacant Tree.empty := by
  intro slot _
  rw [find?_eq_none_iff]
  intro format
  unfold Tree.isFile
  rw [Tree.read?_empty]
  rfl

/- A file beside the configurations is none of them. -/
theorem isVacant_file (name text : String) :
    IsVacant (.directory [(name, .file (.text text))]) := by
  intro slot _
  rw [find?_eq_none_iff]
  intro format
  have hPath :
      ∃ second rest,
        (Location.mk slot.folder configStem format).path =
          slot.name :: second :: rest := by
    cases slot <;> exact ⟨_, _, rfl⟩
  rcases hPath with ⟨second, rest, hPath⟩
  rw [hPath, Tree.isFile_cons]
  by_cases hName : slot.name = name
  · simp [hName, Tree.entries, Tree.isFile_cons]
  · simp [Tree.entries, List.lookup_cons,
      beq_eq_false_iff_ne.mpr hName]

/-
  A configuration that is created, edited, approved and
  rejected, and one that a file keeps out.
-/
theorem run_refines_ledger_from_empty :
    let directory : Directory := { root := "store" }
    let tree : Tree :=
      .directory [("README", .file (.text "read me"))]
    let postings :=
      [Posting.plain .create "ann" "core",
        Posting.plain .edit "bob" "core",
        Posting.plain .approved "root" "core",
        Posting.plain .reject "root" "core"]
    let after := Posting.run directory.post tree postings
    let ledger :=
      Posting.run (Ledger.post (directory.blocked tree))
        Ledger.empty postings
    directory.format = .json ∧
      IsVacant tree ∧
      ledger "core" =
        some
          { live :=
              { projectName := "core", standing := .rejected }
            approved :=
              some
                { projectName := "core"
                  standing := .approved } } ∧
      directory.Shows after ledger ∧
      (directory.post after
          (Posting.plain .create "ann" "README")).1 =
        .error
          (.inaccessible "store/README" .notDirectory) := by
  intro directory tree postings after ledger
  have hVacant : IsVacant tree :=
    isVacant_file "README" "read me"
  have hRefines :=
    run_refines_ledger directory rfl tree hVacant postings
  have hKept :
      (ledger.post (directory.blocked tree)
          (Posting.plain .create "ann" "README")).1 =
        .error
          (.inaccessible "store/README" .notDirectory) := rfl
  exact
    ⟨rfl, hVacant, rfl, hRefines.2,
      (hRefines.1 _).trans hKept⟩

/-
  A file in the place of a directory keeps a configuration
  out, which a map without blocked slots does not tell.
-/
theorem not_run_refines_plain_ledger :
    ¬∀ (directory : Directory) (tree : Tree),
      directory.format = .json →
      IsVacant tree →
      ∀ postings posting,
        (directory.post
            (Posting.run directory.post tree postings)
            posting).1 =
          (Ledger.post (fun _ => none)
            (Posting.run (Ledger.post fun _ => none)
              Ledger.empty postings)
            posting).1 := by
  intro hPlain
  have hSame :=
    hPlain { root := "store" } _ rfl
      (isVacant_file "README" "read me") []
      (Posting.plain .create "ann" "README")
  have hStored :
      (({ root := "store" } : Directory).post
          (.directory [("README", .file (.text "read me"))])
          (Posting.plain .create "ann" "README")).1 =
        .error
          (.inaccessible "store/README" .notDirectory) := rfl
  have hMapped :
      (Ledger.post (fun _ => none) Ledger.empty
          (Posting.plain .create "ann" "README")).1 =
        .ok () := rfl
  have hBoth := hStored.symm.trans (hSame.trans hMapped)
  cases hBoth

end Directory

end BuildForm
