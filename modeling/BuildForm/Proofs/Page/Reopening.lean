import BuildForm.Proofs.Form.Settled
import BuildForm.Proofs.Page.Gestures
import BuildForm.Proofs.Page.Opening

/-
  Saving and reopening is the identity on saved records.

  However a form was filled in, its views are settled. So the
  record that it is saved as, shown by a fresh page, is saved
  as the same record again.

  Main declarations:
    * `Session.Reached`
    * `Session.Reached.isSettled`
    * `Session.reopen_saved`
-/

------------------------------------------------------------
-- Sessions that Are Reached
------------------------------------------------------------

namespace BuildForm

namespace Session

variable {σ : Type}

/-
  The sessions that a session can become: by gestures, by
  changing an input, and by changing what has no address, the
  views aside, in any way.
-/
inductive Reached
    (service : Service σ)
    (first : Session σ) : Session σ → Prop where
  | first : Reached service first first
  | gesture {session : Session σ} (gesture : Gesture) :
      Reached service first session →
      Reached service first
        ((Page.respond service gesture).perform session).2
  | input
      {session : Session σ}
      (path : FieldPath)
      (change : Field → Field) :
      Reached service first session →
      Reached service first
        (session.withForm
          (session.page.form.mapField path change))
  | other {session : Session σ} (form : Form) :
      Reached service first session →
      form.views.items = session.page.form.views.items →
      Reached service first (session.withForm form)

theorem reached_play
    (service : Service σ)
    {first session : Session σ}
    (hReached : Reached service first session)
    (gestures : List Gesture) :
    Reached service first (play service session gestures) := by
  induction gestures generalizing session with
  | nil => exact hReached
  | cons gesture gestures ih =>
      exact ih (.gesture gesture hReached)

/- A session of a mode each view of which is settled. -/
structure IsSettled
    (mode : PageMode)
    (session : Session σ) : Prop where
  mode : session.page.request.mode = mode
  views : session.page.form.EachView View.IsSettled

theorem isSettled_survives
    (service : Service σ)
    (mode : PageMode) :
    Page.Survives service mode (IsSettled mode) where
  modes := fun _ hSession => hSession.mode
  marks := by
    intro session page hSession hRequest hForm
    refine ⟨?_, ?_⟩
    · rw [← hSession.mode, ← hRequest]
    · have hViews := hSession.views
      rw [← hForm] at hViews
      exact hViews
  loads := by
    intro session form hSession hLoad
    exact
      ⟨hSession.mode,
        hSession.views.load View.lasting_isSettled.toInnate
          hLoad⟩
  steps := by
    intro session form hSession hStep
    exact
      ⟨hSession.mode,
        hSession.views.step View.lasting_isSettled hStep⟩
  asks := fun _ _ _ _ hSession _ _ =>
    ⟨hSession.mode, hSession.views⟩
  sends := fun _ _ _ hSession _ _ =>
    ⟨hSession.mode, hSession.views⟩

theorem isSettled_survivesTicks (mode : PageMode) :
    Page.SurvivesTicks
      (IsSettled mode : Session σ → Prop) := by
  intro session form hSession hTick
  exact ⟨hSession.mode, hSession.views.tick hTick⟩

/- The views of a page are settled at any time. -/
theorem Reached.isSettled
    {service : Service σ}
    {request : PageRequest}
    {options : PageOptions}
    {state : σ}
    {session : Session σ}
    (hReached :
      Reached service (start request options state) session) :
    session.IsSettled request.mode := by
  induction hReached with
  | first =>
      refine ⟨rfl, ?_⟩
      intro view hView
      cases hView
  | gesture gesture _ ih =>
      have hInv := isSettled_survives service request.mode
      have hRespond :
          PageM.Keeps (IsSettled request.mode)
            (Page.respond service gesture) :=
        (isSettled_survivesTicks request.mode).respond
          fun action _ => hInv.act action
      exact hRespond.perform ih
  | input path change _ ih =>
      exact
        ⟨ih.mode,
          ih.views.mapField path
            (fun view name =>
              View.lasting_isSettled.mapField view name change)
            (fun view id =>
              View.lasting_isSettled.mapBuilder view id _)⟩
  | other form _ hSame ih =>
      refine ⟨ih.mode, ?_⟩
      intro view hView
      exact ih.views view (hSame ▸ hView)

end Session

end BuildForm

------------------------------------------------------------
-- Saved and Reopened Pages
------------------------------------------------------------

namespace BuildForm

namespace Service

variable {config : Configuration}
variable {offered : List String}

/- The service that holds one configuration under any name. -/
def holding
    (config : Configuration)
    (offered : List String) : Service Unit :=
  fun request state =>
    (match request with
      | .configuration _ => .ok config
      | .approved _ => .ok none
      | .isAdministrator => .ok false
      | .fullName user => .ok user
      | .views _ =>
          .ok { credentials := offered, views := config.views }
      | .deletedViews _ => .ok {}
      | .users _ =>
          .ok
            { html :=
                if config.users = [] then "" else "<div></div>"
              users := config.users }
      | .newDefaults => .ok { credentials := offered }
      | _ => .error (.notFound config.projectName), state)

theorem presents_holding (name : String) :
    (holding config offered).Presents (fun _ => True) name
      config offered where
  stays := fun _ _ _ _ _ _ _ => trivial
  views := by
    intro state loaded after _ hLoaded
    cases hLoaded
    exact ⟨rfl, rfl⟩
  users := by
    intro state loaded after _ hLoaded
    cases hLoaded
    refine ⟨rfl, ?_⟩
    intro hMarkup
    by_contra hUsers
    simp only [if_neg hUsers] at hMarkup
    exact absurd hMarkup (by decide)
  configuration := by
    intro state stored after _ hStored
    cases hStored
    rfl

theorem not_declines_holding (name : String) :
    ¬(holding config offered).Declines (fun _ => True) name := by
  rintro ⟨request, state, error, after, hOpens, _, hError⟩
  cases hOpens <;> cases hError

end Service

namespace Session

/-
  For every session that a page reaches and whose views all
  offer the same credentials, and every service that presents
  what the session is saved as: a fresh page for editing opens
  on it, unless a request fails, and is saved as the same.
-/
theorem reopen_saved
    {σ τ : Type}
    (service : Service σ)
    (request : PageRequest)
    (options : PageOptions)
    (state : σ)
    (session : Session σ)
    (hReached :
      Reached service (start request options state) session)
    (offered : List String)
    (hOffered :
      session.page.form.EachView fun view =>
        view.credentials.options = offered)
    (store : Service τ)
    (good : τ → Prop)
    (name : String)
    (hPresents :
      store.Presents good name
        session.page.form.toConfiguration offered)
    (hAnswers : ¬store.Declines good name)
    (freshOptions : PageOptions)
    (fresh : τ)
    (hFresh : good fresh) :
    ∃ opened,
      step store (start (.opening .edit name) freshOptions fresh)
          .init =
        (.ok .done, opened) ∧
      opened.page.form.toConfiguration =
        session.page.form.toConfiguration := by
  have hSame :
      session.page.form.toConfiguration.reopened offered =
        session.page.form.toConfiguration :=
    Form.reopened_toConfiguration hReached.isSettled.views
      hOffered
  rcases step_init_presented hPresents .edit freshOptions hFresh
    with hDeclines | ⟨opened, hOpened, hSaved⟩
  · exact absurd hDeclines hAnswers
  · exact ⟨opened, hOpened, hSaved.trans hSame⟩

/- A new configuration that is filled in, saved and reopened. -/
theorem reopen_saved_new :
    let defaults : NewDefaults :=
      { defaultCredentials := some "deploy"
        credentials := ["build", "deploy"]
        nodes := ["linux", "windows"] }
    let service : Service Unit :=
      fun request state =>
        (match request with
          | .newDefaults => .ok defaults
          | .freshView =>
              .ok { credentials := defaults.credentials }
          | .freshBuilder => .ok {}
          | .freshUser => .ok {}
          | .isAdministrator => .ok false
          | _ => .error (.unavailable "closed"), state)
    let gestures :=
      [Gesture.act .init, .setEmailEnabled true,
        .act (.edit .email "ann@host"),
        .toggleMachine "windows" true,
        .act .addView,
        .act (.selectCredentials ⟨1⟩ "build"),
        .act (.edit (.view ⟨0⟩ .pathToArtifacts) "bin"),
        .act (.addPath ⟨0⟩ .artifacts),
        .act (.setOtherConfig ⟨0⟩ ⟨0⟩ true),
        .act (.edit (.builder ⟨0⟩ ⟨0⟩) "Release")]
    let session :=
      play service (start .create {} ()) gestures
    let config := session.page.form.toConfiguration
    let offered := defaults.credentials
    let store := Service.holding config offered
    Reached service (start .create {} ()) session ∧
      (session.page.form.EachView fun view =>
        view.credentials.options = offered) ∧
      config.views.length = 2 ∧
      store.Presents (fun _ => True) "core" config offered ∧
      ¬store.Declines (fun _ => True) "core" ∧
      ∃ opened,
        step store (start (.opening .edit "core") {} ()) .init =
          (.ok .done, opened) ∧
        opened.page.form.toConfiguration = config := by
  intro defaults service gestures session config offered store
  have hReached : Reached service (start .create {} ()) session :=
    reached_play service .first gestures
  have hOffered :
      session.page.form.EachView fun view =>
        view.credentials.options = offered := by
    unfold Form.EachView
    decide +kernel
  have hViews : config.views.length = 2 := by
    decide +kernel
  have hPresents :
      store.Presents (fun _ => True) "core" config offered :=
    Service.presents_holding "core"
  have hAnswers :
      ¬store.Declines (fun _ => True) "core" :=
    Service.not_declines_holding "core"
  clear_value defaults service gestures
  exact
    ⟨hReached, hOffered, hViews, hPresents, hAnswers,
      reopen_saved service .create {} () session hReached offered
        hOffered store (fun _ => True) "core" hPresents hAnswers
        {} () trivial⟩

end Session

end BuildForm
