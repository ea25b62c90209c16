import BuildForm.Page.Gesture
import BuildForm.Proofs.Form.Folders
import BuildForm.Proofs.Page.Storing

/-
  Which views a page of a directory shows once it is open,
  and once views were added to it.

  A stored configuration is shown with its views under the
  first ordinals, each in the folder that was stored. A new
  one starts with a single view. From there on each view that
  is added has the next ordinal and the folder it makes, and
  adding fails only if there are no defaults to read.

  Main declarations:
    * `Session.Shows`
    * `Directory.triple_init_edit`
    * `Directory.triple_init_create`
    * `Directory.triple_addView`
-/

------------------------------------------------------------
-- Sessions that Show Views
------------------------------------------------------------

namespace BuildForm

/-
  A session on a tree whose form has a source control and
  views with certain numbers and folders.
-/
structure Session.Shows
    (request : PageRequest)
    (tree : Tree)
    (label : String)
    (numbering : Numbering)
    (folders : List String)
    (session : Session Tree) : Prop
    extends session.IsAt request tree where
  scm : session.page.form.scm = label
  numbering : session.page.form.views.numbering = numbering
  folders : session.page.form.views.folders = folders

namespace Directory

open PageM

variable {directory : Directory}
variable {request : PageRequest}
variable {tree : Tree}
variable {label : String}
variable {numbering : Numbering}
variable {folders : List String}

/- A question is answered from the tree, and changes nothing. -/
theorem shows_ask
    {query : Request}
    (hQuery : query.IsQuery) :
    Triple
      (Session.Shows request tree label numbering folders)
      (ask directory.service query)
      (fun answer session =>
        directory.answer tree query = .ok answer ∧
          session.Shows request tree label numbering folders)
      (fun _ session =>
        (∃ fault, directory.answer tree query = .error fault) ∧
          session.Shows request tree label numbering
            folders) := by
  have hAsked :
      ∀ (session : Session Tree) outcome state,
        session.Shows request tree label numbering folders →
        directory.service query session.state =
          (outcome, state) →
        directory.answer tree query = outcome ∧
          ({ session with state } : Session Tree).Shows request
            tree label numbering folders := by
    intro session outcome state hSession hCall
    have hAnswer := (Prod.ext_iff.mp hCall).1
    refine
      ⟨?_, isAt_asked hSession.toIsAt hQuery hCall,
        hSession.scm, hSession.numbering, hSession.folders⟩
    rw [← hSession.tree]
    exact hAnswer
  apply Triple.ask
  · intro session answer state hSession hCall
    exact hAsked session _ state hSession hCall
  · intro session fault state hSession hCall
    have hFault := hAsked session _ state hSession hCall
    exact ⟨⟨fault, hFault.1⟩, hFault.2⟩

/- Whatever is answered, nothing changes. -/
theorem keeps_shows_ask
    {query : Request}
    (hQuery : query.IsQuery) :
    Keeps (Session.Shows request tree label numbering folders)
      (ask directory.service query) := by
  apply
    ((shows_ask hQuery).weakenFailed
      fun _ _ hSession => hSession.2).weaken
  · exact fun _ hSession => hSession
  · exact fun _ _ hSession => hSession.2

/- A change of what is neither source control nor views. -/
theorem shows_modifyForm
    {change : Form → Form}
    (hScm : ∀ form, (change form).scm = form.scm)
    (hViews :
      ∀ form,
        (change form).views.numbering = form.views.numbering ∧
          (change form).views.folders = form.views.folders) :
    Keeps (Session.Shows request tree label numbering folders)
      (modifyForm change) := by
  apply Triple.modifyPage
  intro session hSession
  have hForm := hViews session.page.form
  exact
    ⟨⟨hSession.request, hSession.tree⟩,
      (hScm _).trans hSession.scm,
      hForm.1.trans hSession.numbering,
      hForm.2.trans hSession.folders⟩

theorem shows_setStatus (status : StatusLine) :
    Keeps (Session.Shows request tree label numbering folders)
      (setStatus status) :=
  Triple.modifyPage fun _ hSession =>
    ⟨⟨hSession.request, hSession.tree⟩, hSession.scm,
      hSession.numbering, hSession.folders⟩

theorem shows_getPage :
    Triple
      (Session.Shows request tree label numbering folders)
      getPage
      (fun page session =>
        page.request = request ∧
          session.Shows request tree label numbering folders)
      (fun _ _ => False) :=
  Triple.getPage fun _ hSession => ⟨hSession.request, hSession⟩

/- A failure may be of any kind. -/
theorem orAnything
    {α : Type}
    {inv : Session Tree → Prop}
    {action : PageM Tree α}
    (hKeeps : Keeps inv action) :
    Triple inv action (fun _ => inv) (fun _ _ => True) :=
  hKeeps.weakenFailed fun _ _ _ => trivial

end Directory

end BuildForm

------------------------------------------------------------
-- Adding a View
------------------------------------------------------------

namespace BuildForm

namespace Directory

open PageM

variable {directory : Directory}
variable {request : PageRequest}
variable {tree : Tree}
variable {label : String}
variable {numbering : Numbering}
variable {folders : List String}

theorem shows_requireMutable
    (hMutable : request.mode.isMutable) :
    Triple
      (Session.Shows request tree label numbering folders)
      requireMutable
      (fun _ =>
        Session.Shows request tree label numbering folders)
      (fun _ _ => False) := by
  apply Triple.readPage
  intro page
  apply Triple.ite
  · rintro hStatic session ⟨hSession, rfl⟩
    rw [Page.isMutable, hSession.request, hMutable] at hStatic
    cases hStatic
  · intro _
    exact Triple.pure fun _ hSession => hSession.1

/- A builder changes neither the numbers nor the folders. -/
theorem shows_addBuilder
    (hMutable : request.mode.isMutable)
    (view : ViewId) :
    Keeps (Session.Shows request tree label numbering folders)
      (Page.addBuilder directory.service view) := by
  unfold Page.addBuilder
  apply Triple.bind
    ((shows_requireMutable hMutable).weakenFailed
      fun _ _ hFalse => hFalse.elim)
  intro _
  apply Keeps.bind
    (keeps_shows_ask (by simp [Request.IsQuery]))
  intro fragment
  apply Triple.readForm
  intro form
  split
  · rename_i builder views hAdd
    have hNumbering :=
      Views.numbering_amend (fun _ => rfl) hAdd
    have hFolders :
        views.folders = form.views.folders :=
      (Views.map_amend (·.localDirectoryPath.value)
        (fun _ => rfl) hAdd).1
    have hModify :
        Triple
          (fun session =>
            session.Shows request tree label numbering
                folders ∧
              session.page.form = form)
          (modifyForm fun form => { form with views })
          (fun _ =>
            Session.Shows request tree label numbering folders)
          (fun _ =>
            Session.Shows request tree label numbering
              folders) := by
      apply Triple.modifyPage
      rintro session ⟨hSession, rfl⟩
      exact
        ⟨⟨hSession.request, hSession.tree⟩, hSession.scm,
          hNumbering.trans hSession.numbering,
          hFolders.trans hSession.folders⟩
    apply Triple.bind hModify
    intro _
    exact Keeps.pure builder
  · exact Triple.throw fun _ hSession => hSession.1

/- What a fresh view is rendered from is read off the defaults. -/
theorem shows_askFreshView :
    Triple
      (Session.Shows request tree label numbering folders)
      (ask directory.service .freshView)
      (fun _ =>
        Session.Shows request tree label numbering folders)
      (fun _ session =>
        (∃ fault, directory.defaults tree = .error fault) ∧
          session.Shows request tree label numbering
            folders) := by
  apply
    ((shows_ask (by simp [Request.IsQuery])).weakenFailed
      _).weaken
  · exact fun _ hSession => hSession
  · exact fun _ _ hSession => hSession.2
  · rintro _ session ⟨⟨fault, hFault⟩, hSession⟩
    refine ⟨?_, hSession⟩
    cases hDefaults : directory.defaults tree with
    | error fault => exact ⟨fault, rfl⟩
    | ok defaults =>
        simp only [Directory.answer, hDefaults] at hFault
        cases hFault

theorem shows_insert (form : Form) (fragment : ViewFragment) :
    Triple
      (fun session =>
        session.Shows request tree label numbering folders ∧
          session.page.form = form)
      (modifyForm fun current =>
        { current with
          views :=
            (form.views.insert fragment form.scmKind).2 })
      (fun _ =>
        Session.Shows request tree label numbering.appended
          (folders ++
            [(Scm.ofLabel label).freshFolder numbering.next]))
      (fun _ _ => False) := by
  apply Triple.modifyPage
  rintro session ⟨hSession, rfl⟩
  refine
    ⟨⟨hSession.request, hSession.tree⟩, hSession.scm, ?_, ?_⟩
  · change
      (session.page.form.views.insert fragment _).2.numbering = _
    rw [Views.numbering_insert, hSession.numbering]
  · change
      (session.page.form.views.insert fragment
        (Scm.ofLabel session.page.form.scm)).2.folders = _
    rw [Views.folders_insert, hSession.folders, hSession.scm,
      ← hSession.numbering]
    rfl

/-
  A view that is added has the next ordinal and its folder.
  If it cannot be, then for want of defaults.
-/
theorem triple_addView
    (directory : Directory)
    (hMutable : request.mode.isMutable) :
    Triple
      (Session.Shows request tree label numbering folders)
      (Page.addView directory.service)
      (fun _ =>
        Session.Shows request tree label numbering.appended
          (folders ++
            [(Scm.ofLabel label).freshFolder numbering.next]))
      (fun _ session =>
        (∃ fault, directory.defaults tree = .error fault) ∧
            session.Shows request tree label numbering
              folders ∨
          session.Shows request tree label numbering.appended
            (folders ++
              [(Scm.ofLabel label).freshFolder
                numbering.next])) := by
  unfold Page.addView
  apply Triple.bind
    ((shows_requireMutable hMutable).weakenFailed
      fun _ _ hFalse => hFalse.elim)
  intro _
  have hPrompt :
      Triple
        (Session.Shows request tree label numbering folders)
        (modifyForm fun form =>
          { form with addViewPrompt := false })
        (fun _ =>
          Session.Shows request tree label numbering folders)
        (fun _ _ => False) :=
    Triple.modifyPage fun session hSession =>
      ⟨⟨hSession.request, hSession.tree⟩, hSession.scm,
        hSession.numbering, hSession.folders⟩
  apply Triple.bind
    (hPrompt.weakenFailed fun _ _ hFalse => hFalse.elim)
  intro _
  apply Triple.bind
    (shows_askFreshView.weakenFailed
      fun _ _ hSession => Or.inl hSession)
  intro fragment
  apply Triple.readForm
  intro form
  apply Triple.bind
    ((shows_insert form fragment).weakenFailed
      fun _ _ hFalse => hFalse.elim)
  intro _
  apply Triple.weakenFailed _ fun _ _ hSession => Or.inr hSession
  apply Keeps.bind (shows_addBuilder hMutable _)
  intro _
  apply Keeps.bind Keeps.getForm
  intro after
  apply Keeps.bind (shows_setStatus _)
  intro _
  exact Keeps.pure _

end Directory

end BuildForm

------------------------------------------------------------
-- Opening a Page
------------------------------------------------------------

namespace BuildForm

namespace Directory

open PageM

variable {directory : Directory}
variable {request : PageRequest}
variable {tree : Tree}
variable {label name : String}
variable {stored : Configuration}
variable {numbering : Numbering}
variable {folders : List String}

/- Views are read along with a record and the defaults. -/
theorem exists_of_views
    {loaded : LoadedViews}
    (hViews : directory.views tree name = .ok loaded) :
    ∃ config defaults,
      directory.live tree name = .ok config ∧
        directory.defaults tree = .ok defaults ∧
        loaded.views = config.views := by
  unfold Directory.views at hViews
  cases hLive : directory.live tree name with
  | error fault =>
      rw [hLive] at hViews
      cases hViews
  | ok config =>
      cases hDefaults : directory.defaults tree with
      | error fault =>
          rw [hLive, hDefaults] at hViews
          cases hViews
      | ok defaults =>
          rw [hLive, hDefaults] at hViews
          cases hViews
          exact ⟨config, defaults, rfl, rfl, rfl⟩

theorem shows_loadViews
    (hLive : directory.live tree name = .ok stored) :
    Triple (Session.Shows request tree label ⟨[], 0⟩ [])
      (Page.loadViews directory.service name)
      (fun _ session =>
        (∃ defaults, directory.defaults tree = .ok defaults) ∧
          session.Shows request tree label
            (.ofCount stored.views.length)
            (stored.views.map (·.localDirectoryPath)))
      (fun _ _ => True) := by
  unfold Page.loadViews
  apply Triple.bind
    ((shows_ask (by simp [Request.IsQuery])).weakenFailed
      fun _ _ _ => trivial)
  intro loaded
  apply Triple.modifyPage
  rintro session ⟨hAnswer, hSession⟩
  rcases exists_of_views hAnswer with
    ⟨config, defaults, hConfig, hDefaults, hViews⟩
  rw [hLive] at hConfig
  cases hConfig
  have hItems : session.page.form.views.items = [] := by
    have hOrdinals :=
      congrArg Numbering.ordinals hSession.numbering
    exact List.map_eq_nil_iff.mp hOrdinals
  have hNext : session.page.form.views.nextOrdinal = 0 :=
    congrArg Numbering.next hSession.numbering
  have hNumbering :=
    Views.numbering_load_of_empty hItems hNext loaded
  have hFolders := Views.folders_load hItems loaded
  rw [hViews] at hNumbering hFolders
  exact
    ⟨⟨defaults, hDefaults⟩,
      ⟨hSession.request, hSession.tree⟩, hSession.scm,
      hNumbering, hFolders⟩

theorem shows_loadUsers :
    Keeps (Session.Shows request tree label numbering folders)
      (Page.loadUsers directory.service name) := by
  unfold Page.loadUsers
  apply Keeps.bind
    (keeps_shows_ask (by simp [Request.IsQuery]))
  intro loaded
  exact shows_modifyForm (fun _ => rfl) fun _ => ⟨rfl, rfl⟩

theorem shows_loadDifference (config : Configuration) :
    Keeps (Session.Shows request tree label numbering folders)
      (Page.loadDifference directory.service name config) := by
  unfold Page.loadDifference
  apply Keeps.bind
    (keeps_shows_ask (by simp [Request.IsQuery]))
  intro approved
  dsimp only
  apply Keeps.ite
  · apply Keeps.bind
      (keeps_shows_ask (by simp [Request.IsQuery]))
    intro deleted
    apply Keeps.bind
    · exact shows_modifyForm (fun _ => rfl) fun _ => ⟨rfl, rfl⟩
    · intro _
      exact shows_modifyForm (fun _ => rfl) fun _ => ⟨rfl, rfl⟩
  · exact shows_modifyForm (fun _ => rfl) fun _ => ⟨rfl, rfl⟩

/- The source control is that of the record. -/
theorem shows_loadContent
    (hLive : directory.live tree name = .ok stored) :
    Triple
      (Session.Shows request tree label numbering folders)
      (Page.loadContent directory.service name)
      (fun _ =>
        Session.Shows request tree (stored.scm.getD "")
          numbering folders)
      (fun _ _ => True) := by
  unfold Page.loadContent
  apply Triple.bind
    ((shows_ask (by simp [Request.IsQuery])).weakenFailed
      fun _ _ _ => trivial)
  intro config
  have hRecord :
      Triple
        (fun session =>
          directory.answer tree (.configuration name) =
              .ok config ∧
            session.Shows request tree label numbering folders)
        (modifyForm (·.applyConfiguration config))
        (fun _ =>
          Session.Shows request tree (stored.scm.getD "")
            numbering folders)
        (fun _ _ => True) := by
    apply Triple.modifyPage
    rintro session ⟨hAnswer, hSession⟩
    have hSame : stored = config :=
      Except.ok.inj (hLive.symm.trans hAnswer)
    subst hSame
    have hViews :=
      session.page.form.views_applyConfiguration stored
    refine
      ⟨⟨hSession.request, hSession.tree⟩, ?_, ?_, ?_⟩
    · rfl
    · exact
        (congrArg Views.numbering hViews).trans
          hSession.numbering
    · exact
        (congrArg Views.folders hViews).trans hSession.folders
  apply Triple.bind hRecord
  intro _
  apply orAnything
  have hRest :
      Keeps
        (Session.Shows request tree (stored.scm.getD "")
          numbering folders)
        (if (!config.isApproved) = true then
          Page.loadDifference directory.service name config
        else
          pure ()) :=
    Keeps.ite (shows_loadDifference config) (Keeps.pure ())
  dsimp only
  split
  · rename_i creator _
    apply Keeps.bind
      (keeps_shows_ask (by simp [Request.IsQuery]))
    intro fullName
    apply Keeps.bind
    · exact shows_modifyForm (fun _ => rfl) fun _ => ⟨rfl, rfl⟩
    · exact fun _ => hRest
  · exact hRest

/- Whether the user administers anything is asked last. -/
theorem shows_loadAdministrator :
    Keeps (Session.Shows request tree label numbering folders)
      (do
        let isAdmin : Bool ←
          ask directory.service .isAdministrator
        modifyForm fun form => { form with isAdmin }) := by
  apply Keeps.bind
    (keeps_shows_ask (by simp [Request.IsQuery]))
  intro isAdmin
  exact shows_modifyForm (fun _ => rfl) fun _ => ⟨rfl, rfl⟩

theorem shows_openStored
    (hLive : directory.live tree name = .ok stored) :
    Triple (Session.Shows request tree "" ⟨[], 0⟩ [])
      (Page.openStored directory.service name)
      (fun _ session =>
        (∃ defaults, directory.defaults tree = .ok defaults) ∧
          session.Shows request tree (stored.scm.getD "")
            (.ofCount stored.views.length)
            (stored.views.map (·.localDirectoryPath)))
      (fun _ _ => True) := by
  unfold Page.openStored
  apply Triple.bind (shows_loadViews hLive)
  intro _
  apply Triple.given
  intro hDefaults
  apply Triple.bind (orAnything shows_loadUsers)
  intro _
  apply Triple.bind (shows_loadContent hLive)
  intro _
  apply Triple.bind
  · apply orAnything
    exact shows_modifyForm (fun _ => rfl) fun _ => ⟨rfl, rfl⟩
  · intro _
    apply (orAnything (shows_setStatus _)).weaken
    · exact fun _ hSession => hSession
    · exact fun _ _ hSession => ⟨hDefaults, hSession⟩

/- The source control of a new page is that of the defaults. -/
theorem shows_openNew
    (directory : Directory)
    (hMutable : request.mode.isMutable)
    (label : String) :
    Triple (Session.Shows request tree label ⟨[], 0⟩ [])
      (Page.openNew directory.service)
      (fun _ session =>
        ∃ label,
          session.Shows request tree label (.ofCount 1)
            [(Scm.ofLabel label).freshFolder 0])
      (fun _ _ => True) := by
  unfold Page.openNew
  apply Triple.bind (shows_getPage.weakenFailed
    fun _ _ hFalse => hFalse.elim)
  intro page
  apply Triple.given
  intro hPage
  have hBlank :
      Triple (Session.Shows request tree label ⟨[], 0⟩ [])
        (modifyForm fun form =>
          { form with
            formType := .create
            views := form.views.reset })
        (fun _ => Session.Shows request tree label ⟨[], 0⟩ [])
        (fun _ _ => True) :=
    Triple.modifyPage fun session hSession =>
      ⟨⟨hSession.request, hSession.tree⟩, hSession.scm, rfl,
        rfl⟩
  apply Triple.bind hBlank
  intro _
  apply Triple.bind
  · apply orAnything
    apply shows_modifyForm
    · exact fun form =>
        Form.scm_tick (.comments form false)
    · intro form
      rw [Form.views_tick (.comments form false)]
      exact ⟨rfl, rfl⟩
  intro _
  apply Triple.bind
  · apply orAnything
    exact shows_modifyForm (fun _ => rfl) fun _ => ⟨rfl, rfl⟩
  intro _
  apply Triple.bind
    (orAnything (keeps_shows_ask (by simp [Request.IsQuery])))
  intro defaults
  let shown := defaults.scm.getD label
  have hDefaults :
      Triple (Session.Shows request tree label ⟨[], 0⟩ [])
        (modifyForm fun form =>
          { form with
            scm := defaults.scm.getD form.scm
            machines := Machines.ofNodes defaults.nodes
            views :=
              { form.views with
                defaultCredentials :=
                  defaults.defaultCredentials } })
        (fun _ => Session.Shows request tree shown ⟨[], 0⟩ [])
        (fun _ _ => True) :=
    Triple.modifyPage fun session hSession =>
      ⟨⟨hSession.request, hSession.tree⟩,
        congrArg defaults.scm.getD hSession.scm,
        hSession.numbering, hSession.folders⟩
  apply Triple.bind hDefaults
  intro _
  apply Triple.bind
    ((triple_addView directory hMutable).weakenFailed
      fun _ _ _ => trivial)
  intro _
  apply (orAnything (shows_setStatus _)).weaken
  · exact fun _ hSession => hSession
  · exact fun _ _ hSession => ⟨shown, hSession⟩

/- A stored configuration is shown as it was stored. -/
theorem triple_init_edit
    (hName : request.name = some name)
    (hLive : directory.live tree name = .ok stored) :
    Triple (Session.Shows request tree "" ⟨[], 0⟩ [])
      (Page.init directory.service)
      (fun _ session =>
        (∃ defaults, directory.defaults tree = .ok defaults) ∧
          session.Shows request tree (stored.scm.getD "")
            (.ofCount stored.views.length)
            (stored.views.map (·.localDirectoryPath)))
      (fun _ _ => True) := by
  unfold Page.init
  apply Triple.bind (shows_getPage.weakenFailed
    fun _ _ hFalse => hFalse.elim)
  intro page
  apply Triple.given
  intro hPage
  rw [hPage, hName]
  apply Triple.bind (shows_openStored hLive)
  intro _
  apply Triple.given
  intro hDefaults
  apply (orAnything shows_loadAdministrator).weaken
  · exact fun _ hSession => hSession
  · exact fun _ _ hSession => ⟨hDefaults, hSession⟩

/- A new configuration is shown with a single view. -/
theorem triple_init_create
    (directory : Directory)
    (hName : request.name = none)
    (hMutable : request.mode.isMutable)
    (label : String) :
    Triple (Session.Shows request tree label ⟨[], 0⟩ [])
      (Page.init directory.service)
      (fun _ session =>
        ∃ label,
          session.Shows request tree label (.ofCount 1)
            [(Scm.ofLabel label).freshFolder 0])
      (fun _ _ => True) := by
  unfold Page.init
  apply Triple.bind (shows_getPage.weakenFailed
    fun _ _ hFalse => hFalse.elim)
  intro page
  apply Triple.given
  intro hPage
  rw [hPage, hName]
  apply Triple.bind (shows_openNew directory hMutable label)
  intro _
  apply Triple.ofExists
  intro shown
  apply (orAnything shows_loadAdministrator).weaken
  · exact fun _ hSession => hSession
  · exact fun _ _ hSession => ⟨shown, hSession⟩

end Directory

end BuildForm
