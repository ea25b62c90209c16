import BuildForm.Proofs.Page.Moves

/-
  What opening a page keeps.

  A page that is opened with a name asks for the parts of the
  stored configuration and loads them one by one, its record
  among them. One without a name starts a new configuration.
  What each of these moves keeps is kept by the opening, also
  where a part is missing.

  Main declarations:
    * `Page.Receives.openStored`
    * `Page.Receives.openNew`
    * `Page.Receives.act`
    * `Page.Admits.act`
-/

------------------------------------------------------------
-- Opening a Page
------------------------------------------------------------

namespace BuildForm

namespace Page

open PageM

variable {σ : Type}
variable {service : Service σ}
variable {mode : PageMode}
variable {action : Action}
variable {name : Option String}
variable {stored : String}
variable {inv : Session σ → Prop}

namespace Receives

theorem query
    (hInv : Receives service name inv)
    {request : Request}
    (hPrepares : request.Prepares name)
    (hOther : ∀ stored, request ≠ .views stored) :
    Keeps inv (PageM.ask service request) := by
  apply Triple.ask
  · intro session answer state hSession hAnswer
    exact
      hInv.queries session request _ state hSession hPrepares
        hOther hAnswer
  · intro session error state hSession hError
    exact
      hInv.queries session request _ state hSession hPrepares
        hOther hError

theorem part
    (hInv : Receives service (some stored) inv)
    {change : Form → Form}
    (hLoad : ∀ form, Form.LoadStored form (change form))
    (hRetains :
      ∀ form : Form,
        form.views.Retains (change form).views) :
    Keeps inv (modifyForm change) :=
  Triple.modifyPage fun session hSession =>
    hInv.parts session _ hSession (by simp)
      (hLoad session.page.form) (hRetains session.page.form)

theorem start
    (hInv : Receives service none inv)
    {change : Form → Form}
    (hLoad : ∀ form, Form.LoadNew form (change form)) :
    Keeps inv (modifyForm change) :=
  Triple.modifyPage fun session hSession =>
    hInv.starts session _ hSession rfl
      (hLoad session.page.form)

theorem loadViews
    (hInv : Receives service (some stored) inv) :
    Keeps inv (Page.loadViews service stored) := by
  have hAsk :
      Triple inv (PageM.ask service (.views stored))
        (fun loaded session =>
          inv
            (session.withForm
              { session.page.form with
                views :=
                  session.page.form.views.load loaded }))
        (fun _ => inv) := by
    apply Triple.ask
    · intro session loaded state hSession hAnswer
      exact
        hInv.views session stored _ state hSession rfl hAnswer
    · intro session error state hSession hError
      exact
        hInv.views session stored _ state hSession rfl hError
  apply Triple.bind hAsk
  intro loaded
  exact Triple.modifyPage fun _ hSession => hSession

theorem loadDifference
    (hInv : Receives service (some stored) inv)
    (current : Configuration) :
    Keeps inv (Page.loadDifference service stored current) := by
  have hDifference :
      ∀ difference : Difference,
        Keeps inv
          (modifyForm fun form => { form with difference }) := by
    intro difference
    exact
      hInv.part (fun form => .difference form difference)
        fun form => .refl form.views
  unfold Page.loadDifference
  apply Keeps.bind (hInv.query (.approved stored) (by simp))
  intro approved
  dsimp only
  apply Keeps.ite
  · apply Keeps.bind
      (hInv.query (.deletedViews stored) (by simp))
    intro deleted
    apply Keeps.bind
    · apply hInv.part
      · exact fun form => .deletedViews form _ _
      · exact fun _ => ⟨List.Sublist.refl _, rfl⟩
    · intro _
      exact hDifference _
  · exact hDifference _

/- A record that is there is asked for to be loaded. -/
theorem askRecord
    (hInv : Receives service (some stored) inv) :
    Triple inv (PageM.ask service (.configuration stored))
      (fun config session =>
        inv
          (session.withForm
            (session.page.form.applyConfiguration config)))
      (fun _ => inv) := by
  apply Triple.ask
  · intro session config state hSession hAnswer
    exact
      hInv.records session stored _ state hSession rfl hAnswer
  · intro session error state hSession hError
    exact
      hInv.records session stored _ state hSession rfl hError

theorem loadContent
    (hInv : Receives service (some stored) inv) :
    Keeps inv (Page.loadContent service stored) := by
  unfold Page.loadContent
  apply Triple.bind hInv.askRecord
  intro config
  have hLoad :
      Triple
        (fun session =>
          inv
            (session.withForm
              (session.page.form.applyConfiguration config)))
        (modifyForm (·.applyConfiguration config))
        (fun _ => inv) (fun _ => inv) :=
    Triple.modifyPage fun _ hSession => hSession
  apply Triple.bind hLoad
  intro _
  have hRest :
      Keeps inv
        (if (!config.isApproved) = true then
          Page.loadDifference service stored config
        else
          pure ()) :=
    Keeps.ite (hInv.loadDifference config) (Keeps.pure ())
  dsimp only
  split
  · rename_i creator _
    apply Keeps.bind
      (hInv.query (.fullName stored creator) (by simp))
    intro fullName
    apply Keeps.bind
      (hInv.part (fun form => .creatorName form fullName)
        fun form => .refl form.views)
    intro _
    exact hRest
  · exact hRest

theorem openStored
    (hSteady : Steady service mode action inv)
    (hInv : Receives service (some stored) inv) :
    Keeps inv (Page.openStored service stored) := by
  unfold Page.openStored Page.loadUsers
  apply Keeps.bind hInv.loadViews
  intro _
  apply Keeps.bind
  · apply Keeps.bind (hInv.query (.users stored) (by simp))
    intro loaded
    apply hInv.part
    · exact fun form => .users form _ _
    · exact fun form => .refl form.views
  · intro _
    apply Keeps.bind hInv.loadContent
    intro _
    apply Keeps.bind
      (hInv.part (fun form => .shown form)
        fun form => .refl form.views)
    intro _
    exact hSteady.setStatus _

theorem openNew
    (hSteady : Steady service mode action inv)
    (hInv : Receives service none inv) :
    Keeps inv (Page.openNew service) := by
  unfold Page.openNew
  apply Keeps.bind Keeps.getPage
  intro page
  apply Keeps.bind (hInv.start fun form => .blank form)
  intro _
  apply Keeps.bind (hInv.start fun form => .comments form)
  intro _
  apply Keeps.bind (hInv.start fun form => .trigger form _)
  intro _
  apply Keeps.bind (hInv.query .newDefaults (by simp))
  intro defaults
  apply Keeps.bind
    (hInv.start fun form => .defaults form defaults)
  intro _
  apply Keeps.bind hInv.adds
  intro _
  exact hSteady.setStatus _

/- Whether the user administers anything is asked last. -/
theorem loadAdministrator (hInv : Receives service name inv) :
    Keeps inv (do
      let isAdmin : Bool ← PageM.ask service .isAdministrator
      modifyForm fun form => { form with isAdmin }) := by
  apply Keeps.bind
    (hInv.query (.isAdministrator name) (by simp))
  intro isAdmin
  cases name with
  | none =>
      exact hInv.start fun form => .administrator form isAdmin
  | some stored =>
      exact
        hInv.part (fun form => .administrator form isAdmin)
          fun form => .refl form.views

theorem init
    (hSteady : Steady service mode action inv)
    (hInv : Receives service name inv) :
    Keeps inv (Page.init service) := by
  have hPage :
      Triple inv PageM.getPage
        (fun page session =>
          page.request.name = name ∧ inv session)
        (fun _ => inv) :=
    Triple.getPage fun session hSession =>
      ⟨hInv.names session hSession, hSession⟩
  unfold Page.init
  apply Triple.bind hPage
  intro page
  apply Triple.given
  intro hName
  dsimp only
  rw [hName]
  cases name with
  | some stored =>
      apply Keeps.bind (hInv.openStored hSteady)
      intro _
      exact hInv.loadAdministrator
  | none =>
      apply Keeps.bind (hInv.openNew hSteady)
      intro _
      exact hInv.loadAdministrator

/- What is kept while a page opens, its failure included. -/
theorem act
    (hInv : Receives service name inv)
    (hSteady : Steady service mode action inv) :
    Keeps inv (Page.act service .init) :=
  (hSteady.reported (hInv.init hSteady)).map fun _ => Reply.done

end Receives

namespace Admits

/- What any views that are loaded keep, those handed out do. -/
theorem receives
    (hInv : Admits service name inv)
    (hSteady : Steady service mode .init inv) :
    Receives service name inv where
  names := hInv.names
  queries := by
    intro session request outcome state hSession hPrepares _
    exact
      hInv.queries session request outcome state hSession
        hPrepares
  views := by
    rintro session stored outcome state hSession rfl hCall
    have hAsked :=
      hInv.queries session _ outcome state hSession
        (.views stored) hCall
    cases outcome with
    | error error => exact hAsked
    | ok loaded =>
        exact
          hInv.parts { session with state } _ hAsked (by simp)
            (.views session.page.form loaded)
  records := hInv.records
  parts := by
    intro session form hSession hName hLoad _
    exact hInv.parts session form hSession hName hLoad
  starts := hInv.starts
  adds := hSteady.addView rfl

theorem act
    (hInv : Admits service name inv)
    (hSteady : Steady service mode .init inv) :
    Keeps inv (Page.act service .init) :=
  (hInv.receives hSteady).act hSteady

end Admits

end Page

end BuildForm
