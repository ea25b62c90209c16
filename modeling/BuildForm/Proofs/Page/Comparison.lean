import BuildForm.Page.Action
import BuildForm.Proofs.Page.Steps
import BuildForm.Proofs.Service.Approval

/-
  What a page shows of the changes that wait for approval.

  Opening a page skips the comparison with the approved copy
  for a record that is approved. In a store that only
  submissions have written to this hides nothing.

  Main declarations:
    * `Form.Reveals`
    * `Directory.Refuses`
    * `Page.triple_init`
    * `Directory.run_approvals_consistent`
-/

------------------------------------------------------------
-- Revealed Changes
------------------------------------------------------------

namespace BuildForm

/-
  A form that shows what a record changes against a copy, and
  the views that only the copy has. The comparison with the
  copy is skipped exactly for an approved record.
-/
structure Form.Reveals
    (live : Configuration)
    (copy : Option Configuration)
    (deleted : List ViewRecord)
    (before : Difference)
    (form : Form) : Prop where
  compared :
    form.difference =
      if live.isApproved then
        before
      else
        Difference.between live copy
  changes :
    (Difference.between live copy).changes ⊆
      form.difference.changes
  machines :
    (Difference.between live copy).machines ⊆
      form.difference.machines
  deleted : deleted ⊆ form.views.deleted

namespace Directory

/- A form that reveals what a tree holds under a name. -/
def Reveals
    (directory : Directory)
    (tree : Tree)
    (name : String)
    (before : Difference)
    (form : Form) : Prop :=
  ∃ live copy loaded,
    directory.answer tree (.configuration name) = .ok live ∧
      directory.answer tree (.approved name) = .ok copy ∧
      directory.answer tree (.deletedViews name) =
        .ok loaded ∧
      form.Reveals live copy loaded.views before

variable {directory : Directory}
variable {tree : Tree}
variable {name : String}
variable {live : Configuration}
variable {copy : Option Configuration}

/- An approved record leaves nothing to show. -/
theorem IsConsistent.reveals_of_approved
    (hConsistent : directory.IsConsistent tree name)
    (hLive :
      directory.answer tree (.configuration name) = .ok live)
    (hApproved : live.isApproved)
    (form : Form) :
    directory.Reveals tree name form.difference form := by
  have hStanding : live.standing = .approved := by
    simpa [Configuration.isApproved] using hApproved
  rcases hConsistent.approved live hLive hStanding with
    ⟨hCopy, hEmpty, loaded, hLoaded, hNone⟩
  simp only [Difference.isEmpty, Bool.and_eq_true,
    List.isEmpty_iff] at hEmpty
  rcases hEmpty with ⟨hChanges, hMachines⟩
  refine ⟨live, some live, loaded, hLive, hCopy, hLoaded, ?_⟩
  exact
    { compared := by rw [if_pos hApproved]
      changes := by simp [hChanges]
      machines := by simp [hMachines]
      deleted := by simp [hNone] }

/- A comparison that is made shows all of its changes. -/
theorem reveals_of_compared
    {loaded : LoadedViews}
    (hLive :
      directory.answer tree (.configuration name) = .ok live)
    (hCopy : directory.answer tree (.approved name) = .ok copy)
    (hLoaded :
      directory.answer tree (.deletedViews name) = .ok loaded)
    (hPending : ¬live.isApproved)
    {form : Form}
    (hDifference :
      form.difference = Difference.between live copy)
    (hDeleted : loaded.views ⊆ form.views.deleted)
    (before : Difference) :
    directory.Reveals tree name before form := by
  refine ⟨live, copy, loaded, hLive, hCopy, hLoaded, ?_⟩
  exact
    { compared := by rw [if_neg hPending, hDifference]
      changes := by
        rw [hDifference]
        exact List.Subset.refl _
      machines := by
        rw [hDifference]
        exact List.Subset.refl _
      deleted := hDeleted }

/- Only the comparison and the deleted views matter. -/
theorem Reveals.congr
    {before : Difference}
    {form after : Form}
    (hReveals : directory.Reveals tree name before form)
    (hDifference : after.difference = form.difference)
    (hDeleted : after.views.deleted = form.views.deleted) :
    directory.Reveals tree name before after := by
  rcases hReveals with
    ⟨live, copy, loaded, hLive, hCopy, hLoaded, hForm⟩
  refine ⟨live, copy, loaded, hLive, hCopy, hLoaded, ?_⟩
  exact
    { compared := hDifference.trans hForm.compared
      changes := by
        rw [hDifference]
        exact hForm.changes
      machines := by
        rw [hDifference]
        exact hForm.machines
      deleted := by
        rw [hDeleted]
        exact hForm.deleted }

/- A copy with the name of its record is compared. -/
theorem IsConsistent.eq_none_of_not_hasApproved
    (hConsistent : directory.IsConsistent tree name)
    (hLive :
      directory.answer tree (.configuration name) = .ok live)
    (hCopy : directory.answer tree (.approved name) = .ok copy)
    (hCompared : ¬(Difference.between live copy).hasApproved) :
    copy = none := by
  cases copy with
  | none => rfl
  | some record =>
      have hName := isProjectName_of_live hLive
      rcases hConsistent.copy record hCopy with
        ⟨_, hRecord, _⟩
      have hFull : record.projectName ≠ "" := by
        intro hEmpty
        rw [← hRecord, hEmpty] at hName
        simp [Rule.isProjectName] at hName
      simp [Difference.between, hFull] at hCompared

end Directory

end BuildForm

------------------------------------------------------------
-- Refused Requests
------------------------------------------------------------

namespace BuildForm

namespace Directory

/- The error is that of a request that opens the page. -/
def Refuses
    (directory : Directory)
    (tree : Tree)
    (name : String)
    (error : FormError) : Prop :=
  ∃ request : Request, request.Opens name ∧
    ∃ fault,
      directory.answer tree request = .error fault ∧
        error = .service fault

/-
  Nothing is refused under a name with readable records in a
  store with readable defaults and user names.
-/
theorem not_refuses
    {directory : Directory}
    {tree : Tree}
    {name : String}
    {live : Configuration}
    {copy : Option Configuration}
    {defaults : NewDefaults}
    (hLive :
      directory.answer tree (.configuration name) = .ok live)
    (hCopy : directory.answer tree (.approved name) = .ok copy)
    (hDefaults :
      directory.answer tree .newDefaults = .ok defaults)
    (hUsers :
      ∀ user, ∃ fullName,
        directory.answer tree (.fullName user) = .ok fullName)
    (error : FormError) :
    ¬directory.Refuses tree name error := by
  rintro ⟨request, hOpens, fault, hFault, _⟩
  have hLive : directory.live tree name = .ok live := hLive
  have hCopy : directory.approved tree name = .ok copy := hCopy
  have hDefaults : directory.defaults tree = .ok defaults :=
    hDefaults
  cases hOpens with
  | configuration => cases hLive.symm.trans hFault
  | approved => cases hCopy.symm.trans hFault
  | views =>
      simp only [answer, Directory.views, hLive, hDefaults]
        at hFault
      cases hFault
  | deletedViews =>
      simp only [answer, Directory.deletedViews, hLive, hCopy]
        at hFault
      cases copy <;> cases hFault
  | users =>
      simp only [answer, Directory.users, hLive] at hFault
      cases hFault
  | isAdministrator => cases hFault
  | fullName user =>
      rcases hUsers user with ⟨fullName, hName⟩
      cases hName.symm.trans hFault

end Directory

end BuildForm

------------------------------------------------------------
-- Opening a Page on a Tree
------------------------------------------------------------

namespace BuildForm

/- Loading a record is no comparison. -/
theorem Form.difference_applyConfiguration
    (form : Form)
    (config : Configuration) :
    (form.applyConfiguration config).difference =
      form.difference := by
  unfold applyConfiguration
  cases config.email with
  | none => rfl
  | some address =>
      dsimp only
      split <;> rfl

theorem Form.difference_setCreatorName
    (form : Form)
    (fullName : String) :
    (form.setCreatorName fullName).difference =
      form.difference :=
  rfl

namespace Page

open PageM
open Directory (deletedViews_of_none reveals_of_compared)

variable {directory : Directory}
variable {tree : Tree}
variable {name : String}
variable {live : Configuration}

/- What is asked is answered from the tree or refused. -/
theorem triple_ask
    {before : Session Tree → Prop}
    {request : Request}
    (hOpens : request.Opens name)
    (hState :
      ∀ session, before session → session.state = tree) :
    Triple before (ask directory.service request)
      (fun answer session =>
        directory.answer tree request = .ok answer ∧
          before session)
      (fun error _ => directory.Refuses tree name error) := by
  have hKept :
      ∀ state,
        directory.afterwards state request = state := by
    intro state
    cases hOpens <;> rfl
  apply Triple.ask
  · intro session answer state hSession hService
    rcases Prod.ext_iff.mp hService with ⟨hAnswer, hAfter⟩
    have hSame : state = session.state :=
      hAfter.symm.trans (hKept session.state)
    subst hSame
    rw [← hState session hSession]
    exact ⟨hAnswer, hSession⟩
  · intro session fault state hSession hService
    rcases Prod.ext_iff.mp hService with ⟨hFault, _⟩
    rw [← hState session hSession]
    exact ⟨request, hOpens, fault, hFault, rfl⟩

/- A session on a tree whose form shows a comparison. -/
def IsOn
    (tree : Tree)
    (shown : Difference)
    (session : Session Tree) : Prop :=
  session.state = tree ∧ session.page.form.difference = shown

/- A session on a tree whose form reveals what it holds. -/
def IsRevealed
    (directory : Directory)
    (tree : Tree)
    (name : String)
    (before : Difference)
    (session : Session Tree) : Prop :=
  session.state = tree ∧
    directory.Reveals tree name before session.page.form

variable {before shown : Difference}
variable {failed : FormError → Session Tree → Prop}

/- What comes after a request may rely on its answer. -/
theorem triple_bind_ask
    {α : Type}
    {request : Request}
    (hOpens : request.Opens name)
    {next : request.Answer → PageM Tree α}
    {after : α → Session Tree → Prop}
    (hNext :
      ∀ answer,
        directory.answer tree request = .ok answer →
          Triple (IsOn tree shown) (next answer) after
            (fun error _ =>
              directory.Refuses tree name error)) :
    Triple (IsOn tree shown)
      (ask directory.service request >>= next) after
      (fun error _ => directory.Refuses tree name error) :=
  Triple.bind (triple_ask hOpens fun _ hSession => hSession.1)
    fun answer => Triple.given (hNext answer)

/- A change that leaves the comparison as it is. -/
theorem triple_modifyForm_isOn
    {change : Form → Form}
    (hChange :
      ∀ form, (change form).difference = form.difference) :
    Triple (IsOn tree shown) (modifyForm change)
      (fun _ => IsOn tree shown) failed := by
  apply Triple.modifyPage
  rintro session ⟨hState, hShown⟩
  exact ⟨hState, (hChange session.page.form).trans hShown⟩

/- A change after the comparison that leaves it as it is. -/
theorem triple_modifyForm_isRevealed
    {change : Form → Form}
    (hDifference :
      ∀ form, (change form).difference = form.difference)
    (hDeleted :
      ∀ form,
        (change form).views.deleted = form.views.deleted) :
    Triple (IsRevealed directory tree name before)
      (modifyForm change)
      (fun _ => IsRevealed directory tree name before)
      failed := by
  apply Triple.modifyPage
  rintro session ⟨hState, hReveals⟩
  exact
    ⟨hState,
      hReveals.congr (hDifference session.page.form)
        (hDeleted session.page.form)⟩

theorem triple_loadDifference
    (hConsistent : directory.IsConsistent tree name)
    (hLive :
      directory.answer tree (.configuration name) = .ok live)
    (hPending : ¬live.isApproved) :
    Triple (IsOn tree shown)
      (loadDifference directory.service name live)
      (fun _ => IsRevealed directory tree name before)
      (fun error _ => directory.Refuses tree name error) := by
  unfold loadDifference
  apply triple_bind_ask .approved
  intro copy hCopy
  dsimp only
  apply Triple.ite
  · intro _
    apply triple_bind_ask .deletedViews
    intro loaded hLoaded
    have hDeleted :
        Triple (IsOn tree shown)
          (modifyForm fun form =>
            { form with
              views :=
                form.views.loadDeleted loaded.html
                  loaded.views })
          (fun _ session =>
            session.state = tree ∧
              session.page.form.views.deleted =
                loaded.views)
          (fun error _ => directory.Refuses tree name error) :=
      Triple.modifyPage fun _ hSession => ⟨hSession.1, rfl⟩
    apply Triple.bind hDeleted
    intro _
    apply Triple.modifyPage
    rintro session ⟨hState, hViews⟩
    refine
      ⟨hState,
        reveals_of_compared hLive hCopy hLoaded hPending rfl ?_
          before⟩
    rw [← hViews]
    exact List.Subset.refl _
  · intro hCompared
    apply Triple.modifyPage
    intro session hSession
    have hNone :=
      hConsistent.eq_none_of_not_hasApproved hLive hCopy
        hCompared
    subst hNone
    exact
      ⟨hSession.1,
        reveals_of_compared hLive hCopy
          (deletedViews_of_none hLive hCopy) hPending rfl
          (List.nil_subset _) before⟩

/- The comparison is skipped only where nothing changed. -/
theorem triple_loadContent
    (hConsistent : directory.IsConsistent tree name) :
    Triple (IsOn tree before)
      (loadContent directory.service name)
      (fun _ => IsRevealed directory tree name before)
      (fun error _ => directory.Refuses tree name error) := by
  unfold loadContent
  apply triple_bind_ask .configuration
  intro live hLive
  have hRest :
      Triple (IsOn tree before)
        (if (!live.isApproved) = true then
          loadDifference directory.service name live
        else
          pure ())
        (fun _ => IsRevealed directory tree name before)
        (fun error _ => directory.Refuses tree name error) := by
    apply Triple.ite
    · intro hPending
      apply triple_loadDifference hConsistent hLive
      simpa using hPending
    · intro hSkipped
      have hApproved : live.isApproved := by
        simpa using hSkipped
      apply Triple.pure
      rintro session ⟨hState, hShown⟩
      refine ⟨hState, ?_⟩
      rw [← hShown]
      exact hConsistent.reveals_of_approved hLive hApproved _
  apply Triple.bind
    (triple_modifyForm_isOn fun form =>
      form.difference_applyConfiguration live)
  intro _
  dsimp only
  split
  · apply triple_bind_ask (.fullName _)
    intro fullName _
    apply Triple.bind
      (triple_modifyForm_isOn fun form =>
        form.difference_setCreatorName fullName)
    intro _
    exact hRest
  · exact hRest

/- What is loaded before and set afterwards hides nothing. -/
theorem triple_openStored
    (hConsistent : directory.IsConsistent tree name) :
    Triple (IsOn tree before)
      (openStored directory.service name)
      (fun _ => IsRevealed directory tree name before)
      (fun error _ => directory.Refuses tree name error) := by
  unfold openStored loadViews loadUsers
  apply Triple.bind
  · apply triple_bind_ask .views
    intro loaded _
    exact triple_modifyForm_isOn fun _ => rfl
  intro _
  apply Triple.bind
  · apply triple_bind_ask .users
    intro loaded _
    exact triple_modifyForm_isOn fun _ => rfl
  intro _
  apply Triple.bind (triple_loadContent hConsistent)
  intro _
  apply Triple.bind
  · exact
      triple_modifyForm_isRevealed (fun _ => rfl) fun _ => rfl
  intro _
  exact Triple.modifyPage fun _ hRevealed => hRevealed

/- Opening the page of a name reveals its changes. -/
theorem triple_init
    (hConsistent : directory.IsConsistent tree name) :
    Triple
      (fun session =>
        session.page.request.name = some name ∧
          IsOn tree before session)
      (init directory.service)
      (fun _ => IsRevealed directory tree name before)
      (fun error _ => directory.Refuses tree name error) := by
  have hPage :
      Triple
        (fun session =>
          session.page.request.name = some name ∧
            IsOn tree before session)
        getPage
        (fun page session =>
          page.request.name = some name ∧
            IsOn tree before session)
        (fun error _ => directory.Refuses tree name error) :=
    Triple.getPage fun _ hSession => hSession
  unfold init
  apply Triple.bind hPage
  intro page
  apply Triple.given
  intro hName
  dsimp only
  rw [hName]
  apply Triple.bind (triple_openStored hConsistent)
  intro _
  apply Triple.bind
    (triple_ask .isAdministrator fun _ hRevealed =>
      hRevealed.1)
  intro isAdmin
  apply Triple.given
  intro _
  exact
    triple_modifyForm_isRevealed (fun _ => rfl) fun _ => rfl

end Page

namespace Directory

/-
  After any postings to a tree without configurations, the
  answers about every name fit together. The page of a name
  that opens on them reveals what waits for approval, and one
  that does not was refused what it asked.
-/
theorem run_approvals_consistent
    (directory : Directory)
    (hFormat : directory.format = .json)
    (tree : Tree)
    (hVacant : IsVacant tree)
    (postings : List Posting)
    (name : String) :
    let after := Posting.run directory.post tree postings
    directory.IsConsistent after name ∧
      ∀ session,
        session.page.request.name = some name →
        session.state = after →
          (∀ opened,
              (Page.init directory.service).perform session =
                  (.ok (), opened) →
                directory.Reveals after name
                  session.page.form.difference
                  opened.page.form) ∧
            ∀ error last,
              (Page.init directory.service).perform session =
                  (.error error, last) →
                directory.Refuses after name error := by
  intro after
  have hConsistent : directory.IsConsistent after name :=
    run_isConsistent hFormat hVacant postings name
  refine ⟨hConsistent, ?_⟩
  intro session hName hState
  have hInit :=
    Page.triple_init hConsistent session
      ⟨hName, hState, rfl⟩
  constructor
  · intro opened hOpened
    rw [hOpened] at hInit
    exact hInit.2
  · intro error last hFailed
    rw [hFailed] at hInit
    exact hInit

/-
  A configuration that is approved, and then edited: its page
  opens on what waits for approval.
-/
theorem run_approvals_consistent_created :
    let directory : Directory := { root := "store" }
    let accepting :=
      [Posting.plain .create "ann" "core",
        Posting.plain .approved "root" "core"]
    let accepted :=
      Posting.run directory.post Tree.empty accepting
    let postings :=
      accepting ++ [Posting.plain .edit "ann" "core"]
    let after :=
      Posting.run directory.post Tree.empty postings
    let approved : Configuration :=
      { projectName := "core", standing := .approved }
    let session :=
      Session.start (.opening .view "core") {} after
    directory.format = .json ∧
      IsVacant Tree.empty ∧
      directory.IsConsistent accepted "core" ∧
      directory.answer accepted (.configuration "core") =
        .ok approved ∧
      directory.answer accepted (.approved "core") =
        .ok (some approved) ∧
      directory.IsConsistent after "core" ∧
      directory.answer after (.configuration "core") =
        .ok { approved with standing := .updated } ∧
      directory.answer after (.approved "core") =
        .ok (some approved) ∧
      ∃ opened,
        (Page.init directory.service).perform session =
            (.ok (), opened) ∧
          directory.Reveals after "core"
            session.page.form.difference
            opened.page.form := by
  intro directory accepting accepted postings after approved
    session
  have hName : Rule.isProjectName "core" := by decide
  have hShows (made : List Posting) :=
    ((isVacant_empty.holds directory).run rfl made).shows rfl
  have hSettled :
      directory.answer accepted (.configuration "core") =
          .ok approved ∧
        directory.answer accepted (.approved "core") =
          .ok (some approved) :=
    (hShows accepting).answers hName rfl
  have hWaiting :
      directory.answer after (.configuration "core") =
          .ok { approved with standing := .updated } ∧
        directory.answer after (.approved "core") =
          .ok (some approved) :=
    (hShows postings).answers hName rfl
  have hNoDefaults : find? after [] "defaults" = none := by
    apply (directory.find?_root_run Tree.empty _ _).trans
    decide
  have hNoUsers : find? after [] "users" = none := by
    apply (directory.find?_root_run Tree.empty _ _).trans
    decide
  have hConsistent (made : List Posting) :
      directory.IsConsistent
        (Posting.run directory.post Tree.empty made) "core" :=
    (run_approvals_consistent directory rfl Tree.empty
      isVacant_empty made "core").1
  have hState (tree : Tree) :
      (Session.start (.opening .view "core") {} tree).state =
        tree := rfl
  have hInit :
      (∀ opened,
          (Page.init directory.service).perform session =
              (.ok (), opened) →
            directory.Reveals after "core"
              session.page.form.difference
              opened.page.form) ∧
        ∀ error last,
          (Page.init directory.service).perform session =
              (.error error, last) →
            directory.Refuses after "core" error :=
    (run_approvals_consistent directory rfl Tree.empty
      isVacant_empty postings "core").2 session rfl
        (hState after)
  have hOpens :=
    not_refuses hWaiting.1 hWaiting.2
      (newDefaults_of_none hNoDefaults)
      fun user => ⟨user, fullName_of_none hNoUsers user⟩
  rcases hPerform :
      (Page.init directory.service).perform session with
    ⟨outcome, opened⟩
  cases outcome with
  | error error =>
      exact
        absurd (hInit.2 error opened hPerform) (hOpens error)
  | ok value =>
      exact
        ⟨rfl, isVacant_empty, hConsistent accepting,
          hSettled.1, hSettled.2, hConsistent postings,
          hWaiting.1, hWaiting.2, opened, rfl,
          hInit.1 opened hPerform⟩

end Directory

end BuildForm
