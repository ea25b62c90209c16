import BuildForm.Proofs.Pattern.CharSet
import BuildForm.Proofs.Service.Storing

/-
  Configurations do not reach each other.

  Every request about a configuration turns its name into a
  folder first, and a name that is not plain stands for none.
  What is read under a name depends on the files below that
  folder alone, and what is submitted changes no others.

  Main declarations:
    * `Rule.IsPlainName`
    * `Tree.AgreeBelow`
    * `Directory.SameDocument`
    * `Request.Reads`
    * `Directory.answer_congr`
    * `Directory.isUnrefused_answer`
    * `Directory.configurations_isolated`
-/

------------------------------------------------------------
-- Plain Names
------------------------------------------------------------

namespace BuildForm

namespace Rule

/- ASCII letters, digits, underscores and hyphens only. -/
def IsPlainName (name : String) : Prop :=
  name ≠ "" ∧
    ∀ c ∈ name.toList, c.isAlphanum ∨ c = '_' ∨ c = '-'

theorem contains_nameChars_iff (c : Char) :
    nameChars.contains c ↔
      c.isAlphanum ∨ c = '_' ∨ c = '-' := by
  rw [nameChars, CharSet.contains_union_iff rfl rfl,
    CharSet.contains_alphanumerics_iff,
    CharSet.contains_ofChars_iff, List.mem_pair]

theorem isProjectName_iff (name : String) :
    isProjectName name ↔ IsPlainName name := by
  unfold isProjectName IsPlainName
  simp only [Bool.and_eq_true, decide_eq_true_eq,
    List.all_eq_true, contains_nameChars_iff]

/- The rule for project names decides which names are plain. -/
instance (name : String) : Decidable (IsPlainName name) :=
  decidable_of_iff (isProjectName name = true)
    (isProjectName_iff name)

end Rule

end BuildForm

------------------------------------------------------------
-- Trees that Agree
------------------------------------------------------------

namespace BuildForm

/- Two trees have the same files below a folder. -/
def Tree.AgreeBelow
    (folder : List String)
    (left right : Tree) : Prop :=
  ∀ path, path ≠ [] →
    left.read? (folder ++ path) = right.read? (folder ++ path)

namespace Directory

/-
  Two trees have the same document of a stem in a folder, in
  the same place and with the same content, or none.
-/
structure SameDocument
    (folder : List String)
    (stem : String)
    (left right : Tree) : Prop where
  place : find? left folder stem = find? right folder stem
  content :
    ∀ location, find? left folder stem = some location →
      left.read? location.path = right.read? location.path

variable {directory : Directory}
variable {left right : Tree}
variable {folder : List String}
variable {stem : String}

/- The documents of the folders below are the same ones. -/
theorem sameDocument_of_agreeBelow
    (hAgree : Tree.AgreeBelow folder left right)
    (inner : List String)
    (stem : String) :
    SameDocument (folder ++ inner) stem left right := by
  have hRead :
      ∀ format,
        left.read?
            (Location.mk (folder ++ inner) stem format).path =
          right.read?
            (Location.mk (folder ++ inner) stem
              format).path := by
    intro format
    unfold Location.path
    rw [List.append_assoc]
    exact hAgree _ (by simp)
  constructor
  · apply find?_congr
    intro format
    unfold Tree.isFile
    rw [hRead format]
  · intro location hFind
    rcases find?_eq_some hFind with ⟨hFolder, hStem, _⟩
    rcases location with ⟨folder, stem, format⟩
    cases hFolder
    cases hStem
    exact hRead format

/- What is read of a document does not depend on the rest. -/
theorem readOptional_congr
    {α : Type}
    (hSame : SameDocument folder stem left right)
    (ofValue? : Value → Option α) :
    directory.readOptional ofValue? left folder stem =
      directory.readOptional ofValue? right folder stem := by
  unfold readOptional
  rw [← hSame.place]
  cases hFind : find? left folder stem with
  | none => rfl
  | some location =>
      dsimp only
      unfold read
      rw [hSame.content location hFind]

end Directory

end BuildForm

------------------------------------------------------------
-- Reading a Configuration
------------------------------------------------------------

namespace BuildForm

/- A request that reads what is stored under a name. -/
inductive Request.Reads (name : String) : Request → Prop where
  | configuration : Reads name (.configuration name)
  | approved : Reads name (.approved name)
  | isNameFree : Reads name (.isNameFree name)
  | views : Reads name (.views name)
  | deletedViews : Reads name (.deletedViews name)
  | users : Reads name (.users name)

namespace Directory

variable {directory : Directory}
variable {tree left right : Tree}
variable {name : String}
variable {request : Request}

/- The folder of the name comes first in whatever is read. -/
theorem answer_of_folderOf_error
    {error : ServiceError}
    (hReads : request.Reads name)
    (hFolder : folderOf name = .error error) :
    directory.answer tree request = .error error := by
  have hLive : directory.live? tree name = .error error := by
    unfold live?
    rw [hFolder]
    rfl
  have hRecord : directory.live tree name = .error error := by
    unfold live
    rw [hLive]
    rfl
  cases hReads with
  | configuration => exact hRecord
  | approved =>
      change directory.approved tree name = _
      unfold approved
      rw [hFolder]
      rfl
  | isNameFree =>
      change isNameFree tree name = _
      unfold isNameFree
      rw [hFolder]
      rfl
  | views =>
      change directory.views tree name = _
      unfold views
      rw [hRecord]
      rfl
  | deletedViews =>
      change directory.deletedViews tree name = _
      unfold deletedViews
      rw [hRecord]
      rfl
  | users =>
      change directory.users tree name = _
      unfold users
      rw [hRecord]
      rfl

theorem live?_congr
    (hAgree : Tree.AgreeBelow [name] left right) :
    directory.live? left name = directory.live? right name := by
  unfold live?
  cases hFolder : folderOf name with
  | error error => rfl
  | ok folder =>
      rcases folderOf_eq_ok_iff.mp hFolder with ⟨_, rfl⟩
      exact
        readOptional_congr
          (sameDocument_of_agreeBelow hAgree [] configStem) _

theorem live_congr
    (hAgree : Tree.AgreeBelow [name] left right) :
    directory.live left name = directory.live right name := by
  unfold live
  rw [live?_congr hAgree]

theorem approved_congr
    (hAgree : Tree.AgreeBelow [name] left right) :
    directory.approved left name =
      directory.approved right name := by
  unfold approved
  cases hFolder : folderOf name with
  | error error => rfl
  | ok folder =>
      rcases folderOf_eq_ok_iff.mp hFolder with ⟨_, rfl⟩
      exact
        readOptional_congr
          (sameDocument_of_agreeBelow hAgree [approvedFolder]
            configStem) _

theorem isNameFree_congr
    (hAgree : Tree.AgreeBelow [name] left right) :
    isNameFree left name = isNameFree right name := by
  unfold isNameFree
  cases hFolder : folderOf name with
  | error error => rfl
  | ok folder =>
      rcases folderOf_eq_ok_iff.mp hFolder with ⟨_, rfl⟩
      have hPlace :=
        (sameDocument_of_agreeBelow hAgree [] configStem).place
      rw [List.append_nil] at hPlace
      dsimp only [bind, Except.bind]
      rw [hPlace]

/-
  What is read under a name is the same in trees that agree
  below its folder. The credentials that go with the views
  are read off the defaults, so these have to agree as well.
-/
theorem answer_congr
    (hReads : request.Reads name)
    (hAgree : Tree.AgreeBelow [name] left right)
    (hDefaults :
      request = .views name →
        SameDocument [] "defaults" left right) :
    directory.answer left request =
      directory.answer right request := by
  cases hReads with
  | configuration => exact live_congr hAgree
  | approved => exact approved_congr hAgree
  | isNameFree => exact isNameFree_congr hAgree
  | views =>
      have hOffered :
          directory.defaults left = directory.defaults right := by
        unfold defaults readRoot
        rw [readOptional_congr (hDefaults rfl)]
      change directory.views left name = _
      unfold views
      rw [live_congr hAgree, hOffered]
      rfl
  | deletedViews =>
      change directory.deletedViews left name = _
      unfold deletedViews
      rw [live_congr hAgree, approved_congr hAgree]
      rfl
  | users =>
      change directory.users left name = _
      unfold users
      rw [live_congr hAgree]
      rfl

/- Nothing that only reads changes the tree. -/
theorem afterwards_of_reads
    (hReads : request.Reads name) :
    directory.afterwards tree request = tree := by
  cases hReads <;> rfl

end Directory

end BuildForm

------------------------------------------------------------
-- Reading under a Plain Name
------------------------------------------------------------

namespace BuildForm

/- An outcome that is no refusal. -/
def ServiceError.IsUnrefused
    {α : Type}
    (outcome : Except ServiceError α) : Prop :=
  ∀ refusal, outcome ≠ .error (.refused refusal)

open ServiceError (IsUnrefused)

namespace ServiceError.IsUnrefused

variable {α β : Type}

theorem ok (value : α) :
    IsUnrefused (.ok value : Except ServiceError α) := by
  intro refusal hRefused
  cases hRefused

theorem bind
    {first : Except ServiceError α}
    {next : α → Except ServiceError β}
    (hFirst : IsUnrefused first)
    (hNext : ∀ value, IsUnrefused (next value)) :
    IsUnrefused (first >>= next) := by
  cases first with
  | ok value => exact hNext value
  | error error =>
      intro refusal hRefused
      cases hRefused
      exact hFirst refusal rfl

theorem map
    {outcome : Except ServiceError α}
    (hOutcome : IsUnrefused outcome)
    (change : α → β) :
    IsUnrefused (outcome.map change) :=
  bind hOutcome fun value => ok (change value)

end ServiceError.IsUnrefused

namespace Directory

variable {directory : Directory}
variable {tree : Tree}
variable {name : String}
variable {request : Request}

/- A document fails to be read, but nothing refuses to. -/
theorem isUnrefused_read
    {α : Type}
    (ofValue? : Value → Option α)
    (location : Location) :
    IsUnrefused (directory.read ofValue? tree location) := by
  intro refusal hRefused
  unfold read at hRefused
  dsimp only at hRefused
  split at hRefused
  · rename_i text _
    cases hText :
        Document.readAs ofValue? location.format text with
    | error fault =>
        rw [hText] at hRefused
        cases hRefused
    | ok value =>
        rw [hText] at hRefused
        cases hRefused
  · cases hRefused

theorem isUnrefused_readOptional
    {α : Type}
    (ofValue? : Value → Option α)
    (folder : List String)
    (stem : String) :
    IsUnrefused
      (directory.readOptional ofValue? tree folder stem) := by
  unfold readOptional
  split
  · exact .ok none
  · exact (isUnrefused_read ofValue? _).map some

/- A plain name stands for the folder that it names. -/
theorem folderOf_eq_of_plain
    (hPlain : Rule.IsPlainName name) :
    folderOf name = .ok [name] :=
  folderOf_eq_ok_iff.mpr
    ⟨(Rule.isProjectName_iff name).mpr hPlain, rfl⟩

theorem isUnrefused_live
    (hPlain : Rule.IsPlainName name) :
    IsUnrefused (directory.live tree name) := by
  unfold live live?
  rw [folderOf_eq_of_plain hPlain]
  apply IsUnrefused.bind
  · exact isUnrefused_readOptional _ _ _
  · intro found
    cases found with
    | some config => exact .ok config
    | none =>
        intro refusal hRefused
        cases hRefused

theorem isUnrefused_approved
    (hPlain : Rule.IsPlainName name) :
    IsUnrefused (directory.approved tree name) := by
  unfold approved
  rw [folderOf_eq_of_plain hPlain]
  exact isUnrefused_readOptional _ _ _

/- No request that reads is refused under a plain name. -/
theorem isUnrefused_answer
    (hPlain : Rule.IsPlainName name)
    (hReads : request.Reads name) :
    IsUnrefused (directory.answer tree request) := by
  have hLive : IsUnrefused (directory.live tree name) :=
    isUnrefused_live hPlain
  have hApproved :
      IsUnrefused (directory.approved tree name) :=
    isUnrefused_approved hPlain
  cases hReads with
  | configuration => exact hLive
  | approved => exact hApproved
  | isNameFree =>
      change IsUnrefused (isNameFree tree name)
      unfold isNameFree
      rw [folderOf_eq_of_plain hPlain]
      exact .ok _
  | views =>
      apply IsUnrefused.bind hLive
      intro config
      apply IsUnrefused.bind
      · exact (isUnrefused_readOptional _ _ _).map _
      · exact fun _ => .ok _
  | deletedViews =>
      apply IsUnrefused.bind hLive
      intro draft
      apply IsUnrefused.bind hApproved
      intro copy
      cases copy with
      | none => exact .ok _
      | some config => exact .ok _
  | users => exact hLive.bind fun _ => .ok _

end Directory

end BuildForm

------------------------------------------------------------
-- Isolation
------------------------------------------------------------

namespace BuildForm

namespace Directory

variable {directory : Directory}
variable {tree : Tree}
variable {name : String}
variable {submission : Submission}

/- A name that is not plain is refused a folder. -/
theorem exists_refusal_of_not_plain
    (hPlain : ¬Rule.IsPlainName name) :
    ∃ refusal, folderOf name = .error (.refused refusal) := by
  have hAccepts :=
    FieldKind.fault?_eq_none_iff .projectName name
  unfold folderOf
  cases hFault : FieldKind.projectName.fault? name with
  | some fault => exact ⟨.badName name fault, rfl⟩
  | none =>
      exact
        absurd
          ((Rule.isProjectName_iff name).mp
            (hAccepts.mp hFault))
          hPlain

/- A submission under such a name is refused, too. -/
theorem exists_refusal_of_submit
    (hName : submission.configuration.projectName = name)
    (hPlain : ¬Rule.IsPlainName name) :
    ∃ refusal,
      directory.submit tree submission =
        (.error (.refused refusal), tree) := by
  subst hName
  by_cases hEmpty : submission.configuration.projectName = ""
  · exact ⟨_, submit_of_namelessRecord directory tree hEmpty⟩
  · cases hFault :
        FieldKind.projectName.fault?
          submission.configuration.projectName with
    | some fault =>
        exact
          ⟨_, submit_of_badName directory tree hEmpty hFault⟩
    | none =>
        rcases exists_refusal_of_not_plain hPlain with
          ⟨refusal, hFolder⟩
        unfold folderOf at hFolder
        rw [hFault] at hFolder
        cases hFolder

/- A submission writes below the folder of its name only. -/
theorem exists_below_of_submit
    (hName : submission.configuration.projectName = name)
    {path : List String}
    (hChanged :
      (directory.submit tree submission).2.read? path ≠
        tree.read? path) :
    ∃ rest, rest ≠ [] ∧ path = name :: rest := by
  subst hName
  have hEffect := submit_effect directory tree submission
  rcases hSubmit : directory.submit tree submission with
    ⟨outcome, after⟩
  rw [hSubmit] at hEffect hChanged
  cases outcome with
  | error error =>
      cases hEffect
      exact absurd rfl hChanged
  | ok answer =>
      rcases hEffect.exists_storedAs with ⟨live, copy, hStored⟩
      rcases hStored.changed path hChanged with
        rfl | ⟨_, rfl⟩
      · exact ⟨_, by simp, rfl⟩
      · exact ⟨_, by simp, rfl⟩

/-
  A name that is not plain is refused by every request about
  a configuration, and nothing changes. Under a plain one the
  requests that read are not refused, but answered from the
  files below its folder alone, the views with the credentials
  of the default document as well, and a submission changes no
  other files.
-/
theorem configurations_isolated
    (directory : Directory)
    (name : String) :
    (¬Rule.IsPlainName name →
      ∀ tree : Tree,
        (∀ request : Request, request.Reads name →
          ∃ refusal,
            directory.service request tree =
              (.error (.refused refusal), tree)) ∧
        (∀ submission : Submission,
          submission.configuration.projectName = name →
          ∃ refusal,
            directory.service (.submit submission) tree =
              (.error (.refused refusal), tree))) ∧
    (Rule.IsPlainName name →
      (∀ (tree : Tree) (request : Request),
        request.Reads name →
        ∀ refusal,
          (directory.service request tree).1 ≠
            .error (.refused refusal)) ∧
      (∀ left right : Tree,
        Tree.AgreeBelow [name] left right →
        ∀ request : Request, request.Reads name →
          (request = .views name →
            SameDocument [] "defaults" left right) →
          (directory.service request left).1 =
            (directory.service request right).1) ∧
      (∀ (tree : Tree) (submission : Submission),
        submission.configuration.projectName = name →
        ∀ path,
          (directory.service (.submit submission) tree).2.read?
              path ≠
            tree.read? path →
          ∃ rest, rest ≠ [] ∧ path = name :: rest)) := by
  constructor
  · intro hPlain tree
    constructor
    · intro request hReads
      rcases exists_refusal_of_not_plain hPlain with
        ⟨refusal, hFolder⟩
      refine ⟨refusal, ?_⟩
      unfold service
      rw [answer_of_folderOf_error hReads hFolder,
        afterwards_of_reads hReads]
    · intro submission hName
      exact exists_refusal_of_submit hName hPlain
  · intro hPlain
    refine ⟨?_, ?_, ?_⟩
    · intro tree request hReads
      exact isUnrefused_answer hPlain hReads
    · intro left right hAgree request hReads hDefaults
      exact answer_congr hReads hAgree hDefaults
    · intro tree submission hName path hChanged
      exact exists_below_of_submit hName hChanged

/- Another configuration may come and go beside this one. -/
theorem configurations_isolated_core :
    let store : Directory := { root := "store" }
    let alone : Tree := .directory [("core", .empty)]
    let beside : Tree :=
      .directory
        [("lib", .directory
            [("config.json", .file (.text "\x7b\x7d"))]),
          ("core", .empty)]
    let submission : Submission :=
      { formType := .create
        rejectionReason := ""
        formResult := none
        configuration := { projectName := "core" }
        hiddenFields := .empty }
    ¬Rule.IsPlainName "../lib" ∧
      Rule.IsPlainName "core" ∧
      Tree.AgreeBelow ["core"] alone beside ∧
      SameDocument [] "defaults" alone beside ∧
      (∃ refusal,
        store.service (.configuration "../lib") beside =
          (.error (.refused refusal), beside)) ∧
      (store.service (.views "core") alone).1 =
        (store.service (.views "core") beside).1 ∧
      (store.service (.submit submission) beside).2.read?
          ["core", "config.json"] ≠
        beside.read? ["core", "config.json"] ∧
      ∃ rest, rest ≠ [] ∧
        ["core", "config.json"] = "core" :: rest := by
  intro store alone beside submission
  have hOutside : ¬Rule.IsPlainName "../lib" := by decide
  have hPlain : Rule.IsPlainName "core" := by decide
  have hAgree : Tree.AgreeBelow ["core"] alone beside := by
    intro path _
    rfl
  have hDefaults : SameDocument [] "defaults" alone beside := by
    constructor
    · decide
    · intro location hFind
      have hNone : find? alone [] "defaults" = none := by
        decide
      rw [hNone] at hFind
      cases hFind
  have hChanged :
      (store.service (.submit submission) beside).2.read?
          ["core", "config.json"] ≠
        beside.read? ["core", "config.json"] := by
    decide +kernel
  have hRefused :=
    (configurations_isolated store "../lib").1 hOutside beside
  have hAlike := (configurations_isolated store "core").2 hPlain
  exact
    ⟨hOutside, hPlain, hAgree, hDefaults,
      hRefused.1 _ .configuration,
      hAlike.2.1 alone beside hAgree _ .views
        (fun _ => hDefaults),
      hChanged, hAlike.2.2 beside submission rfl _ hChanged⟩

end Directory

end BuildForm
