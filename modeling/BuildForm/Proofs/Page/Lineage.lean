import Mathlib.Data.Prod.Basic
import BuildForm.Proofs.Page.Approving
import BuildForm.Proofs.Page.Folders
import BuildForm.Proofs.Page.Storing
import BuildForm.Proofs.Service.Sharing

/-
  The folders of a configuration over several pages.

  One page creates a configuration, and others edit what was
  saved. No two views of a page have the same folder as long
  as the folders that it opened on are those of the first
  ordinals. Where a view was closed in between and the others
  were saved, views added to the next page come to a folder
  that is taken.

  Main declarations:
    * `Directory.Opens`
    * `Directory.HasSaved`
    * `Directory.Saves`
    * `Directory.Saved`
    * `Directory.Saved.areDerived`
    * `Directory.folders_apart_iff_gapless`
-/

------------------------------------------------------------
-- Pages that Open
------------------------------------------------------------

namespace BuildForm

/- The source control that a record is of. -/
def Configuration.scmKind (config : Configuration) : Scm :=
  Scm.ofLabel (config.scm.getD "")

/- The folders of the views of a record, in order. -/
def Configuration.folders (config : Configuration) :
    List String :=
  config.views.map (·.localDirectoryPath)

theorem Form.getD_textOrNone (value : String) :
    (textOrNone value).getD "" = value := by
  unfold textOrNone
  split
  · rename_i hEmpty
    exact hEmpty.symm
  · rfl

namespace Directory

open PageM

/- The page of a request opens on a tree. -/
def Opens
    (directory : Directory)
    (request : PageRequest)
    (tree : Tree)
    (opened : Session Tree) : Prop :=
  ∃ options,
    Session.step directory.service
        (Session.start request options tree) .init =
      (.ok .done, opened)

/-
  A tree has under a name what was saved: a record of the
  source control and with the views of another.
-/
def HasSaved
    (directory : Directory)
    (tree : Tree)
    (name : String)
    (saved : Configuration) : Prop :=
  ∃ stored,
    directory.live tree name = .ok stored ∧
      stored.scm = saved.scm ∧ stored.views = saved.views

variable {directory : Directory}
variable {tree : Tree}
variable {opened : Session Tree}

/- What holds after opening holds of a page that opened. -/
theorem Opens.of_triple
    {request : PageRequest}
    (hOpens : directory.Opens request tree opened)
    {after : Session Tree → Prop}
    (hInit :
      Triple (Session.Shows request tree "" ⟨[], 0⟩ [])
        (Page.init directory.service) (fun _ => after)
        (fun _ _ => True)) :
    after opened := by
  rcases hOpens with ⟨options, hStep⟩
  have hAct :
      Triple (Session.Shows request tree "" ⟨[], 0⟩ [])
        (Page.act directory.service .init)
        (fun _ => after) (fun _ _ => True) :=
    Triple.bind hInit.reported fun _ =>
      Triple.pure fun _ hAfter => hAfter
  have hStart :
      (Session.start request options tree).Shows request tree ""
        ⟨[], 0⟩ [] :=
    ⟨⟨rfl, rfl⟩, rfl, rfl, rfl⟩
  have hAfter := hAct _ hStart
  unfold Session.step at hStep
  rw [hStep] at hAfter
  exact hAfter

/- A new page shows one view, in the first fresh folder. -/
theorem Opens.shows_create
    (hOpens : directory.Opens .create tree opened) :
    ∃ label,
      opened.Shows .create tree label (.ofCount 1)
        [(Scm.ofLabel label).freshFolder 0] :=
  hOpens.of_triple (triple_init_create directory rfl rfl "")

/- A page shows the views that were saved. -/
theorem Opens.shows_edit
    {name : String}
    {saved : Configuration}
    (hSaved : directory.HasSaved tree name saved)
    (hOpens : directory.Opens (.opening .edit name) tree opened) :
    (∃ defaults, directory.defaults tree = .ok defaults) ∧
      opened.Shows (.opening .edit name) tree
        (saved.scm.getD "") (.ofCount saved.folders.length)
        saved.folders := by
  rcases hSaved with ⟨stored, hLive, hScm, hViews⟩
  have hShows := hOpens.of_triple (triple_init_edit rfl hLive)
  rw [hScm, hViews] at hShows
  unfold Configuration.folders
  rw [List.length_map]
  exact hShows

/-
  Every request that opens a page is answered where there is a
  live record, no approved one, and the root can be read.
-/
theorem not_declines
    {name : String}
    {live : Configuration}
    {defaults : NewDefaults}
    {users : Table String}
    (hLive : directory.live tree name = .ok live)
    (hApproved : directory.approved tree name = .ok none)
    (hDefaults : directory.defaults tree = .ok defaults)
    (hUsers :
      directory.readRoot Table.ofTexts? Table.empty tree
          "users" =
        .ok users) :
    ¬directory.service.Declines (· = tree) name := by
  rintro ⟨request, state, error, after, hOpens, rfl, hError⟩
  have hAnswer : directory.answer state request = .error error := by
    cases hOpens <;> exact congrArg Prod.fst hError
  cases hOpens with
  | views =>
      simp [answer, Directory.views, hLive, hDefaults, bind,
        Except.bind, pure, Except.pure] at hAnswer
  | users =>
      simp [answer, Directory.users, hLive, bind, Except.bind,
        pure, Except.pure] at hAnswer
  | configuration => simp [answer, hLive] at hAnswer
  | approved => simp [answer, hApproved] at hAnswer
  | isAdministrator => simp [answer] at hAnswer
  | deletedViews =>
      simp [answer, Directory.deletedViews, hLive, hApproved,
        bind, Except.bind, pure, Except.pure] at hAnswer
  | fullName user =>
      simp [answer, textOf?, hUsers, Except.map] at hAnswer

/- Then a page to edit the record opens. -/
theorem exists_opens
    {name : String}
    {live : Configuration}
    {defaults : NewDefaults}
    {users : Table String}
    (hLive : directory.live tree name = .ok live)
    (hApproved : directory.approved tree name = .ok none)
    (hDefaults : directory.defaults tree = .ok defaults)
    (hUsers :
      directory.readRoot Table.ofTexts? Table.empty tree
          "users" =
        .ok users) :
    ∃ opened,
      directory.Opens (.opening .edit name) tree opened := by
  have hPresents :
      directory.service.Presents (· = tree) name live
        defaults.credentials :=
    presents hLive hDefaults
  rcases Session.step_init_presented hPresents .edit {} rfl with
    hDeclines | ⟨opened, hOpened, _⟩
  · exact
      absurd hDeclines
        (not_declines hLive hApproved hDefaults hUsers)
  · exact ⟨opened, {}, hOpened⟩

end Directory

end BuildForm

------------------------------------------------------------
-- Pages that Save
------------------------------------------------------------

namespace BuildForm

open PageM

/-
  A page saves a configuration: after some gestures it is
  submitted and taken. It was not opened anew and no folder
  was typed, and all its views, those shown at first included,
  have ordinals of their own.
-/
def Directory.Saves
    (directory : Directory)
    (opened : Session Tree)
    (shown : Nat)
    (config : Configuration) : Prop :=
  ∃ gestures submission last,
    (∀ gesture ∈ gestures, gesture.leavesFolders) ∧
      shown + Gesture.additions gestures < 2 ^ 32 ∧
      Session.step directory.service
          (Session.play directory.service opened gestures)
          .submit =
        (.ok (.submission (some submission)), last) ∧
      config = submission.configuration

/-
  A configuration that was saved by a page to create it, or
  by one to edit what was saved before.
-/
inductive Directory.Saved (directory : Directory) :
    Configuration → Prop where
  | created
      {tree : Tree}
      {opened : Session Tree}
      {config : Configuration} :
      directory.Opens .create tree opened →
      directory.Saves opened 1 config →
      Saved directory config
  | edited
      {before config : Configuration}
      {tree : Tree}
      {name : String}
      {opened : Session Tree} :
      Saved directory before →
      directory.HasSaved tree name before →
      directory.Opens (.opening .edit name) tree opened →
      directory.Saves opened before.folders.length config →
      Saved directory config

namespace Directory

variable {directory : Directory}
variable {request : PageRequest}
variable {label : String}
variable {stored : List String}
variable {opened : Session Tree}
variable {config : Configuration}

/- What a page saves is what its form says, and is stored. -/
theorem hasStored_of_step
    (hRequest : opened.page.request = request)
    {submission : Submission}
    {last : Session Tree}
    (hStep :
      Session.step directory.service opened .submit =
        (.ok (.submission (some submission)), last)) :
    directory.HasStored opened.state last (some submission) := by
  have hSubmit :=
    submit_spec directory request opened.state opened
      ⟨hRequest, rfl⟩
  rw [Session.step_submit] at hStep
  dsimp only at hStep
  rcases hPerform :
      (Page.submit directory.service).perform opened with
    ⟨_ | sent, after⟩
  · rw [hPerform] at hStep
    cases hStep
  · rw [hPerform] at hStep hSubmit
    cases hStep
    exact hSubmit

/- The folders that are saved were made as the others were. -/
theorem Saves.areDerived
    (hMutable : request.mode.isMutable)
    (hShows :
      opened.IsFoldered request label stored stored.length)
    (hDerived : (Scm.ofLabel label).AreDerived stored)
    (hSaves : directory.Saves opened stored.length config) :
    config.scmKind.AreDerived config.folders ∧
      config.folders.length < 2 ^ 32 := by
  rcases hSaves with
    ⟨gestures, submission, last, hLeaves, hRoom, hStep, rfl⟩
  have hPlayed :=
    Session.isFoldered_play directory hMutable hShows hLeaves
      hRoom
  have hLast :
      last.IsFoldered request label stored
        (stored.length + Gesture.additions gestures) := by
    have hSubmit :=
      Session.isFoldered_respond directory hMutable hPlayed
        (.act .submit) rfl hRoom
    change (Session.step _ _ _).2.IsFoldered _ _ _ _ at hSubmit
    rw [hStep] at hSubmit
    exact hSubmit
  have hForm :=
    (hasStored_of_step hPlayed.request hStep).1
  have hScm :
      submission.configuration.scmKind = Scm.ofLabel label := by
    rw [hForm, ← hLast.scm]
    unfold Configuration.scmKind
    exact congrArg Scm.ofLabel (Form.getD_textOrNone _)
  have hFolders :
      submission.configuration.folders =
        last.page.form.views.folders := by
    rw [hForm]
    exact last.page.form.views.folders_records
  rw [hScm, hFolders]
  exact
    ⟨hLast.views.areDerived_folders hDerived,
      hLast.views.length_lt⟩

/- A new page opens on the folder of its one view. -/
theorem Opens.isFoldered_create
    {tree : Tree}
    (hOpens : directory.Opens .create tree opened) :
    ∃ label,
      opened.IsFoldered .create label
          [(Scm.ofLabel label).freshFolder 0] 1 ∧
        (Scm.ofLabel label).AreDerived
          [(Scm.ofLabel label).freshFolder 0] := by
  rcases hOpens.shows_create with ⟨label, hShows⟩
  refine
    ⟨label, Session.IsFoldered.of_shows hShows (by simp), ?_⟩
  intro folder hFolder
  exact ⟨0, by decide, List.mem_singleton.mp hFolder⟩

/- All folders that are ever saved are made of ordinals. -/
theorem Saved.areDerived (hSaved : directory.Saved config) :
    config.scmKind.AreDerived config.folders ∧
      config.folders.length < 2 ^ 32 := by
  induction hSaved with
  | created hOpens hSaves =>
      rcases hOpens.isFoldered_create with
        ⟨label, hFoldered, hDerived⟩
      exact hSaves.areDerived rfl hFoldered hDerived
  | edited _ hHas hOpens hSaves ih =>
      have hShows := (hOpens.shows_edit hHas).2
      exact
        hSaves.areDerived rfl
          (Session.IsFoldered.of_shows hShows ih.2) ih.1

/- An update other than a rejection is about what was sent. -/
theorem record_of_update
    {submission : Submission}
    {previous : Option Configuration}
    {update : Update}
    (hUpdate :
      directory.update submission previous = .ok update)
    (hType : submission.formType ≠ .reject) :
    update.liveRecord.projectName =
        submission.configuration.projectName ∧
      update.liveRecord.scm = submission.configuration.scm ∧
      update.liveRecord.views =
        submission.configuration.views := by
  unfold Directory.update at hUpdate
  dsimp only at hUpdate
  split at hUpdate <;> simp_all
  all_goals
    subst hUpdate
    simp

/- What was taken has a project name. -/
theorem isProjectName_of_submit
    {tree after : Tree}
    {submission : Submission}
    (hSubmit :
      directory.submit tree submission = (.ok (), after)) :
    Rule.isProjectName
      submission.configuration.projectName := by
  unfold Directory.submit at hSubmit
  split at hSubmit
  · cases hSubmit
  · rename_i folder update hUpdate
    rcases (updateOf_ok hUpdate).2 with ⟨previous, hLive, _⟩
    cases hFolder :
        folderOf submission.configuration.projectName with
    | error error =>
        simp [live?, hFolder, bind, Except.bind] at hLive
    | ok folder => exact (folderOf_eq_ok_iff.mp hFolder).1

/- The live record is what an update stores last. -/
theorem exists_store_of_apply
    {tree after : Tree}
    {folder : List String}
    {update : Update}
    (hApply :
      directory.apply tree folder update = (.ok (), after)) :
    ∃ before,
      directory.store before folder update.liveRecord =
        .ok after := by
  unfold Directory.apply at hApply
  dsimp only at hApply
  split at hApply
  · cases hApply
  · rename_i before _
    split at hApply
    · cases hApply
    · rename_i changed hStore
      cases hApply
      exact ⟨before, hStore⟩

/-
  Where the live document is in JSON, what was sent is what
  the next page finds.
-/
theorem hasSaved_of_submit
    {tree after : Tree}
    {submission : Submission}
    (hSubmit :
      directory.submit tree submission = (.ok (), after))
    (hType : submission.formType ≠ .reject)
    (hFind :
      find? after [submission.configuration.projectName]
          configStem =
        some
          ⟨[submission.configuration.projectName], configStem,
            .json⟩) :
    directory.HasSaved after
      submission.configuration.projectName
      submission.configuration := by
  rcases exists_apply_of_submit hSubmit with
    ⟨previous, update, hUpdate, hApply⟩
  rcases record_of_update hUpdate hType with
    ⟨hName, hScm, hViews⟩
  rcases exists_store_of_apply hApply with ⟨before, hStore⟩
  have hValid := isProjectName_of_submit hSubmit
  rw [← hName] at hStore hFind hValid ⊢
  refine ⟨update.liveRecord, ?_, hScm, hViews⟩
  unfold Directory.live
  rw [(isLive_of_store hStore).live? hValid hFind directory]
  rfl

end Directory

end BuildForm

------------------------------------------------------------
-- Folders over Several Pages
------------------------------------------------------------

namespace BuildForm

namespace Directory

/-
  Where adding views brings no folder up again, those stored
  are apart: adding until an ordinal is given out shows that
  its folder is not stored.
-/
theorem keepsApart_of_adding
    {directory : Directory}
    {request : PageRequest}
    {tree : Tree}
    {opened : Session Tree}
    {label : String}
    {stored : List String}
    (hMutable : request.mode.isMutable)
    (hDefaults :
      ∃ defaults, directory.defaults tree = .ok defaults)
    (hShows :
      opened.Shows request tree label (.ofCount stored.length)
        stored)
    (hDerived : (Scm.ofLabel label).AreDerived stored)
    (hRoom : stored.length < 2 ^ 32)
    (hAdding :
      ∀ count, stored.length + count < 2 ^ 32 →
        (Session.play directory.service opened
          (Gesture.adding count)).page.form.views.folders.Nodup) :
    (Scm.ofLabel label).KeepsApart stored where
  nodup := by
    rw [← hShows.folders]
    exact hAdding 0 hRoom
  fresh := by
    intro ordinal hLater hStored
    rcases hDerived _ hStored with ⟨made, hMade, hFolder⟩
    cases (Scm.ofLabel label).freshFolder_injective hFolder
    let count := ordinal.toNat - stored.length + 1
    have hBound : stored.length + count = ordinal.toNat + 1 := by
      omega
    have hCounter :
        (UInt32.ofNat stored.length).toNat = stored.length :=
      UInt32.toNat_ofNat_of_lt' hRoom
    have hGiven :
        ordinal ∈
          Numbering.upward (UInt32.ofNat stored.length) count := by
      rw [Numbering.mem_upward (by omega)]
      omega
    have hNodup := hAdding count (by omega)
    rcases Session.exists_shows_play hMutable hDefaults hShows
        count with
      ⟨after, hAfter⟩
    rw [hAfter.folders, List.nodup_append] at hNodup
    exact
      hNodup.2.2 _ hStored _
        (List.mem_map_of_mem
          (f := (Scm.ofLabel label).freshFolder) hGiven) rfl

/-
  On a page to create a configuration no two views ever have
  the same folder. On one to edit what was saved by a page of
  the directory none do, whatever is done on it, exactly if
  those that were saved are the folders of the first ordinals:
  if they are not, it is enough to add views.
-/
theorem folders_apart_iff_gapless (directory : Directory) :
    (∀ tree opened gestures,
      directory.Opens .create tree opened →
      (∀ gesture ∈ gestures, gesture.leavesFolders) →
      1 + Gesture.additions gestures < 2 ^ 32 →
      (Session.play directory.service opened
        gestures).page.form.views.folders.Nodup) ∧
    ∀ config,
      directory.Saved config →
      ∀ tree name opened,
        directory.HasSaved tree name config →
        directory.Opens (.opening .edit name) tree opened →
        (config.scmKind.IsGapless config.folders →
          ∀ gestures,
            (∀ gesture ∈ gestures, gesture.leavesFolders) →
            config.folders.length +
                Gesture.additions gestures < 2 ^ 32 →
            (Session.play directory.service opened
              gestures).page.form.views.folders.Nodup) ∧
        (¬config.scmKind.IsGapless config.folders →
          ∃ count,
            config.folders.length + count < 2 ^ 32 ∧
              ¬(Session.play directory.service opened
                (Gesture.adding
                  count)).page.form.views.folders.Nodup) := by
  constructor
  · intro tree opened gestures hOpens hLeaves hRoom
    rcases hOpens.isFoldered_create with
      ⟨label, hFoldered, hDerived⟩
    have hPlayed :=
      Session.isFoldered_play directory rfl hFoldered hLeaves
        hRoom
    apply hPlayed.views.nodup_folders
    rw [Scm.keepsApart_iff_isGapless hDerived (by simp)]
    intro ordinal hFirst
    have hZero : ordinal = 0 := by
      rw [← UInt32.toNat_inj]
      simpa using hFirst
    rw [hZero]
    exact List.mem_singleton_self _
  · intro config hSaved tree name opened hHas hOpens
    rcases hSaved.areDerived with ⟨hDerived, hRoom⟩
    rcases hOpens.shows_edit hHas with ⟨hDefaults, hShows⟩
    rw [← Scm.keepsApart_iff_isGapless hDerived hRoom]
    constructor
    · intro hApart gestures hLeaves hBound
      have hFoldered :=
        Session.IsFoldered.of_shows hShows hRoom
      exact
        (Session.isFoldered_play directory rfl hFoldered hLeaves
          hBound).views.nodup_folders hApart
    · intro hTaken
      by_contra hNone
      apply hTaken
      apply keepsApart_of_adding rfl hDefaults hShows hDerived
        hRoom
      intro count hBound
      by_contra hTwice
      exact hNone ⟨count, hBound, hTwice⟩

namespace Gap

def store : Directory := { root := "store" }

/- No configuration, and Git to start from. -/
def first : Tree :=
  .directory
    [("defaults.json",
      .file (.text "\x7b\"scm\": \"Git\"\x7d"))]

def created : Except FormError Reply × Session Tree :=
  Session.step store.service
    (Session.start .create {} first) .init

/- The view of the page is closed once it has a second one. -/
def gestures : List Gesture :=
  [.act .addView, .act (.removeView ⟨0⟩),
    .act (.edit .projectName "core"),
    .act (.edit (.view ⟨1⟩ .projectUrl) "https://host/core.git")]

def sent : Except FormError Reply × Session Tree :=
  Session.step store.service
    (Session.play store.service created.2 gestures) .submit

def submission : Submission :=
  sent.2.page.form.toSubmission

theorem opens_created : store.Opens .create first created.2 := by
  have hDone : created.1 = .ok .done := by
    decide +kernel
  exact ⟨{}, Prod.fst_eq_iff.mp hDone⟩

theorem step_submit :
    Session.step store.service
        (Session.play store.service created.2 gestures)
        .submit =
      (.ok (.submission (some submission)), sent.2) := by
  have hSent : sent.1 = .ok (.submission (some submission)) := by
    decide +kernel
  exact Prod.fst_eq_iff.mp hSent

theorem sent_spec :
    submission.formType = .create ∧
      submission.configuration.projectName = "core" ∧
      submission.configuration.scmKind = .git ∧
      submission.configuration.folders = [".1"] := by
  decide +kernel

theorem find?_sent :
    Directory.find? sent.2.state ["core"] configStem =
      some ⟨["core"], configStem, .json⟩ := by
  decide +kernel

theorem saved : store.Saved submission.configuration := by
  refine
    .created opens_created
      ⟨gestures, submission, sent.2, ?_, by decide, step_submit,
        rfl⟩
  decide

theorem hasSaved :
    store.HasSaved sent.2.state "core"
      submission.configuration := by
  have hRequest :
      (Session.play store.service created.2
          gestures).page.request =
        .create := by
    decide +kernel
  have hStored := (hasStored_of_step hRequest step_submit).2
  rcases sent_spec with ⟨hType, hName, _⟩
  have hFind := find?_sent
  rw [← hName] at hFind ⊢
  exact hasSaved_of_submit hStored (by simp [hType]) hFind

theorem exists_opened :
    ∃ opened,
      store.Opens (.opening .edit "core") sent.2.state
        opened := by
  rcases hasSaved with ⟨stored, hLive, _⟩
  have hApproved :
      store.approved sent.2.state "core" = .ok none := by
    decide +kernel
  have hDefaults :
      store.defaults sent.2.state =
        .ok { scm := some "Git" } := by
    decide +kernel
  have hUsers :
      store.readRoot Table.ofTexts? Table.empty sent.2.state
          "users" =
        .ok Table.empty := by
    decide +kernel
  exact exists_opens hLive hApproved hDefaults hUsers

theorem not_isGapless :
    ¬submission.configuration.scmKind.IsGapless
      submission.configuration.folders := by
  rcases sent_spec with ⟨_, _, hScm, hFolders⟩
  rw [hScm, hFolders]
  intro hGapless
  have hFirst := hGapless 0 (by decide)
  revert hFirst
  decide

end Gap

/-
  A new page stays apart when its first view is closed, and
  the page that opens on what was saved then does not.
-/
theorem folders_apart_until_reopened :
    let gestures : List Gesture :=
      [.act .addView, .act (.removeView ⟨0⟩), .act .addView]
    Gap.store.Opens .create Gap.first Gap.created.2 ∧
      (Session.play Gap.store.service Gap.created.2
        gestures).page.form.views.folders.Nodup ∧
      ∃ opened count,
        Gap.store.Opens (.opening .edit "core")
            Gap.sent.2.state opened ∧
          ¬(Session.play Gap.store.service opened
            (Gesture.adding
              count)).page.form.views.folders.Nodup := by
  intro gestures
  rcases Gap.exists_opened with ⟨opened, hOpened⟩
  have hCreated :=
    (folders_apart_iff_gapless Gap.store).1 Gap.first
      Gap.created.2 gestures Gap.opens_created (by decide)
      (by decide)
  have hReopened :=
    ((folders_apart_iff_gapless Gap.store).2
      Gap.submission.configuration Gap.saved Gap.sent.2.state
      "core" opened Gap.hasSaved hOpened).2 Gap.not_isGapless
  rcases hReopened with ⟨count, _, hTwice⟩
  exact
    ⟨Gap.opens_created, hCreated, opened, count, hOpened,
      hTwice⟩

/-
  A view with the second ordinal is saved alone. The page that
  opens on it gives the next one that is added its folder.
-/
theorem not_folders_always_apart :
    Gap.store.Saved Gap.submission.configuration ∧
      Gap.store.HasSaved Gap.sent.2.state "core"
        Gap.submission.configuration ∧
      ∃ opened,
        Gap.store.Opens (.opening .edit "core")
          Gap.sent.2.state opened ∧
        ¬(Session.play Gap.store.service opened
          (Gesture.adding 1)).page.form.views.folders.Nodup := by
  rcases Gap.exists_opened with ⟨opened, hOpens⟩
  refine ⟨Gap.saved, Gap.hasSaved, opened, hOpens, ?_⟩
  rcases hOpens.shows_edit Gap.hasSaved with
    ⟨hDefaults, hShows⟩
  rcases Session.exists_shows_play rfl hDefaults hShows 1 with
    ⟨after, hAfter⟩
  rcases Gap.sent_spec with ⟨_, _, hScm, hFolders⟩
  change Scm.ofLabel _ = _ at hScm
  rw [hAfter.folders, hFolders, hScm]
  decide

end Directory

end BuildForm
