import BuildForm.Proofs.Form.Reopen
import BuildForm.Proofs.Page.Steps

/-
  What the page of a stored configuration holds once it is
  open.

  A page that opens on a configuration is saved as that
  configuration reopened. It only does not open where one of
  its requests fails.

  Main declarations:
    * `Service.Presents`
    * `Service.Declines`
    * `Page.triple_init_presented`
    * `Session.step_init_presented`
-/

------------------------------------------------------------
-- Presented Configurations
------------------------------------------------------------

namespace BuildForm

namespace Service

variable {σ : Type}

/-
  A service that in some states presents a configuration under
  a name, with credentials to choose from: what it answers to
  the requests that open a page is that configuration.
-/
structure Presents
    (service : Service σ)
    (good : σ → Prop)
    (name : String)
    (config : Configuration)
    (offered : List String) : Prop where
  stays :
    ∀ request state outcome after,
      request.Opens name →
      good state →
      service request state = (outcome, after) →
      good after
  views :
    ∀ state loaded after, good state →
      service (.views name) state = (.ok loaded, after) →
      loaded.credentials = offered ∧
        loaded.views = config.views
  users :
    ∀ state loaded after, good state →
      service (.users name) state = (.ok loaded, after) →
      loaded.users = config.users ∧
        (loaded.html = "" → loaded.users = [])
  configuration :
    ∀ state stored after, good state →
      service (.configuration name) state =
          (.ok stored, after) →
      stored = config

/- A request that opens a page fails in one of the states. -/
def Declines
    (service : Service σ)
    (good : σ → Prop)
    (name : String) : Prop :=
  ∃ request state error after,
    Request.Opens name request ∧ good state ∧
      service request state = (.error error, after)

end Service

end BuildForm

------------------------------------------------------------
-- Opening
------------------------------------------------------------

namespace BuildForm

namespace Page

open PageM

variable {σ : Type}
variable {service : Service σ}
variable {good : σ → Prop}
variable {name : String}
variable {config : Configuration}
variable {offered : List String}

/- A session of which the state and the form are as told. -/
def IsAt
    (good : σ → Prop)
    (P : Form → Prop)
    (session : Session σ) : Prop :=
  good session.state ∧ P session.page.form

/- A form that shows a record, if its comments are shown. -/
def ShowsRecord
    (offered : List String)
    (config : Configuration)
    (form : Form) : Prop :=
  ({ form with
      commentsEnabled := true } : Form).toConfiguration =
    config.reopened offered

variable {P Q : Form → Prop}
variable {failed : FormError → Session σ → Prop}

/- What comes after a request may rely on its answer. -/
theorem triple_bind_opens
    {α : Type}
    (hPresents : service.Presents good name config offered)
    {request : Request}
    (hOpens : request.Opens name)
    {next : request.Answer → PageM σ α}
    {after : α → Session σ → Prop}
    (hNext :
      ∀ answer state last, good state →
        service request state = (.ok answer, last) →
        Triple (IsAt good P) (next answer) after
          (fun _ _ => service.Declines good name)) :
    Triple (IsAt good P) (ask service request >>= next) after
      (fun _ _ => service.Declines good name) := by
  have hAsk :
      Triple (IsAt good P) (ask service request)
        (fun answer session =>
          (∃ state last, good state ∧
            service request state = (.ok answer, last)) ∧
          IsAt good P session)
        (fun _ _ => service.Declines good name) := by
    apply Triple.ask
    · rintro session answer state ⟨hGood, hForm⟩ hAnswer
      have hAfter :=
        hPresents.stays _ _ _ _ hOpens hGood hAnswer
      exact ⟨⟨_, _, hGood, hAnswer⟩, hAfter, hForm⟩
    · rintro session error state ⟨hGood, _⟩ hError
      exact ⟨_, _, _, _, hOpens, hGood, hError⟩
  apply Triple.bind hAsk
  intro answer
  apply Triple.given
  rintro ⟨state, last, hGood, hAnswer⟩
  exact hNext answer state last hGood hAnswer

theorem triple_modifyForm
    {change : Form → Form}
    (hChange : ∀ form, P form → Q (change form)) :
    Triple (IsAt good P) (modifyForm change)
      (fun _ => IsAt good Q) failed :=
  Triple.modifyPage fun _ hSession =>
    ⟨hSession.1, hChange _ hSession.2⟩

theorem triple_loadViews
    (hPresents : service.Presents good name config offered) :
    Triple (IsAt good fun form => ∃ mode, form = .blank mode)
      (loadViews service name)
      (fun _ => IsAt good fun form =>
        ∃ mode views,
          form = { Form.blank mode with views } ∧
            views.records =
              config.views.map (·.reopened offered))
      (fun _ _ => service.Declines good name) := by
  unfold loadViews
  apply triple_bind_opens hPresents .views
  intro loaded state last hGood hLoaded
  rcases hPresents.views state loaded last hGood hLoaded with
    ⟨rfl, hViews⟩
  apply triple_modifyForm
  rintro form ⟨mode, rfl⟩
  refine ⟨mode, _, rfl, ?_⟩
  rw [← hViews]
  exact Views.records_load rfl loaded

theorem triple_loadUsers
    (hPresents : service.Presents good name config offered) :
    Triple
      (IsAt good fun form =>
        ∃ mode views,
          form = { Form.blank mode with views } ∧
            views.records =
              config.views.map (·.reopened offered))
      (loadUsers service name)
      (fun _ => IsAt good (Form.HasLoaded offered config))
      (fun _ _ => service.Declines good name) := by
  unfold loadUsers
  apply triple_bind_opens hPresents .users
  intro loaded state last hGood hLoaded
  rcases hPresents.users state loaded last hGood hLoaded with
    ⟨hUsers, hMarkup⟩
  apply triple_modifyForm
  rintro form ⟨mode, views, rfl, hViews⟩
  refine ⟨⟨mode, views, _, rfl⟩, hViews, ?_⟩
  rw [← hUsers]
  exact Users.names_load _ hMarkup

/- A comparison changes nothing of what is saved. -/
theorem triple_loadDifference_shown
    (hPresents : service.Presents good name config offered)
    (current : Configuration) :
    Triple (IsAt good (ShowsRecord offered config))
      (loadDifference service name current)
      (fun _ => IsAt good (ShowsRecord offered config))
      (fun _ _ => service.Declines good name) := by
  unfold loadDifference
  apply triple_bind_opens hPresents .approved
  intro approved _ _ _ _
  dsimp only
  apply Triple.ite
  · intro _
    apply triple_bind_opens hPresents .deletedViews
    intro deleted _ _ _ _
    have hDeleted :
        Triple (IsAt good (ShowsRecord offered config))
          (modifyForm fun form =>
            { form with
              views :=
                form.views.loadDeleted deleted.html
                  deleted.views })
          (fun _ => IsAt good (ShowsRecord offered config))
          (fun _ _ => service.Declines good name) :=
      triple_modifyForm fun _ hForm => hForm
    apply Triple.bind hDeleted
    intro _
    exact triple_modifyForm fun _ hForm => hForm
  · intro _
    exact triple_modifyForm fun _ hForm => hForm

theorem triple_loadContent_shown
    (hPresents : service.Presents good name config offered) :
    Triple (IsAt good (Form.HasLoaded offered config))
      (loadContent service name)
      (fun _ => IsAt good (ShowsRecord offered config))
      (fun _ _ => service.Declines good name) := by
  unfold loadContent
  apply triple_bind_opens hPresents .configuration
  intro stored state last hGood hStored
  have hSame :=
    hPresents.configuration state stored last hGood hStored
  subst hSame
  have hRest :
      Triple (IsAt good (ShowsRecord offered stored))
        (if (!stored.isApproved) = true then
          loadDifference service name stored
        else
          pure ())
        (fun _ => IsAt good (ShowsRecord offered stored))
        (fun _ _ => service.Declines good name) := by
    apply Triple.ite
    · intro _
      exact triple_loadDifference_shown hPresents stored
    · intro _
      exact Triple.pure fun _ hSession => hSession
  have hRecord :
      Triple (IsAt good (Form.HasLoaded offered stored))
        (modifyForm (·.applyConfiguration stored))
        (fun _ => IsAt good (ShowsRecord offered stored))
        (fun _ _ => service.Declines good name) :=
    triple_modifyForm fun _ hForm => hForm.toConfiguration
  apply Triple.bind hRecord
  intro _
  dsimp only
  split
  · apply triple_bind_opens hPresents (.fullName _)
    intro fullName _ _ _ _
    have hCreator :
        Triple (IsAt good (ShowsRecord offered stored))
          (modifyForm (·.setCreatorName fullName))
          (fun _ => IsAt good (ShowsRecord offered stored))
          (fun _ _ => service.Declines good name) :=
      triple_modifyForm fun _ hForm => hForm
    apply Triple.bind hCreator
    intro _
    exact hRest
  · exact hRest

/- A page that opens is saved as the record reopened. -/
theorem triple_init_presented
    (hPresents : service.Presents good name config offered) :
    Triple
      (fun session =>
        session.page.request.name = some name ∧
          IsAt good (fun form => ∃ mode, form = .blank mode)
            session)
      (init service)
      (fun _ => IsAt good fun form =>
        form.toConfiguration = config.reopened offered)
      (fun _ _ => service.Declines good name) := by
  have hPage :
      Triple
        (fun session =>
          session.page.request.name = some name ∧
            IsAt good (fun form => ∃ mode, form = .blank mode)
              session)
        getPage
        (fun page session =>
          page.request.name = some name ∧
            IsAt good (fun form => ∃ mode, form = .blank mode)
              session)
        (fun _ _ => service.Declines good name) :=
    Triple.getPage fun _ hSession => hSession
  unfold init
  apply Triple.bind hPage
  intro page
  apply Triple.given
  intro hName
  dsimp only
  rw [hName]
  have hStored :
      Triple
        (IsAt good fun form => ∃ mode, form = .blank mode)
        (openStored service name)
        (fun _ => IsAt good fun form =>
          form.toConfiguration = config.reopened offered)
        (fun _ _ => service.Declines good name) := by
    unfold openStored
    apply Triple.bind (triple_loadViews hPresents)
    intro _
    apply Triple.bind (triple_loadUsers hPresents)
    intro _
    apply Triple.bind (triple_loadContent_shown hPresents)
    intro _
    have hComments :
        Triple (IsAt good (ShowsRecord offered config))
          (modifyForm fun form =>
            { form with
              nameLocked := true
              commentsEnabled := true })
          (fun _ => IsAt good fun form =>
            form.toConfiguration = config.reopened offered)
          (fun _ _ => service.Declines good name) :=
      triple_modifyForm fun _ hForm => hForm
    apply Triple.bind hComments
    intro _
    exact Triple.modifyPage fun _ hSession => hSession
  apply Triple.bind hStored
  intro _
  apply triple_bind_opens hPresents .isAdministrator
  intro isAdmin _ _ _ _
  exact triple_modifyForm fun _ hForm => hForm

/- The same of the action that opens the page. -/
theorem triple_act_init
    (hPresents : service.Presents good name config offered) :
    Triple
      (fun session =>
        session.page.request.name = some name ∧
          IsAt good (fun form => ∃ mode, form = .blank mode)
            session)
      (act service .init)
      (fun reply session =>
        reply = .done ∧
          IsAt good
            (fun form =>
              form.toConfiguration = config.reopened offered)
            session)
      (fun _ _ => service.Declines good name) := by
  have hInit := (triple_init_presented hPresents).reported
  exact
    Triple.bind hInit fun _ =>
      Triple.pure fun _ hSession => ⟨rfl, hSession⟩

end Page

namespace Session

open Page

variable {σ : Type}
variable {service : Service σ}
variable {good : σ → Prop}
variable {name : String}
variable {config : Configuration}
variable {offered : List String}

/-
  The page of a presented configuration opens, unless one of
  its requests fails, and then is saved as that reopened.
-/
theorem step_init_presented
    (hPresents : service.Presents good name config offered)
    (mode : PageMode)
    (options : PageOptions)
    {state : σ}
    (hState : good state) :
    service.Declines good name ∨
      ∃ opened,
        step service
            (start (.opening mode name) options state) .init =
          (.ok .done, opened) ∧
        opened.page.form.toConfiguration =
          config.reopened offered := by
  have hStart := triple_act_init hPresents
    (start (.opening mode name) options state)
    ⟨rfl, hState, mode, rfl⟩
  unfold step
  rcases hPerform :
      (act service .init).perform
        (start (.opening mode name) options state) with
    ⟨result, opened⟩
  rw [hPerform] at hStart
  cases result with
  | error error => exact Or.inl hStart
  | ok reply =>
      rcases hStart with ⟨rfl, hOpened⟩
      exact Or.inr ⟨opened, rfl, hOpened.2⟩

end Session

end BuildForm
