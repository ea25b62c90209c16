import BuildForm.Page.Gesture
import BuildForm.Proofs.Page.Steps

/-
  What runs of gestures keep.

  A gesture is an action or ticks a box, so that a property
  of sessions that survives the actions and the ticking of
  boxes survives every run of gestures.

  Main declarations:
    * `Page.SurvivesTicks`
    * `Page.keeps_respond`
    * `Page.Endures.play`
    * `Page.Survives.play`
-/

------------------------------------------------------------
-- Ticking Boxes
------------------------------------------------------------

namespace BuildForm

/- A property of sessions that ticking a box keeps. -/
def Page.SurvivesTicks
    {σ : Type}
    (inv : Session σ → Prop) : Prop :=
  ∀ session form, inv session →
    Form.Tick session.page.form form →
    inv (session.withForm form)

end BuildForm

------------------------------------------------------------
-- Gestures
------------------------------------------------------------

namespace BuildForm

namespace Page

open PageM

variable {σ : Type}
variable {service : Service σ}
variable {mode : PageMode}
variable {inv : Session σ → Prop}

theorem SurvivesTicks.tick
    (hTicks : SurvivesTicks inv)
    {change : Form → Bool × Form}
    (hChange : ∀ form, Form.Tick form (change form).2) :
    Keeps inv (Page.tick change) := by
  apply Triple.onForm
  · intro session reply form hSession hForm
    have hAfter :=
      hTicks session _ hSession (hChange session.page.form)
    cases hForm
    exact hAfter
  · intro session error form hSession hForm
    cases hForm

/- A gesture keeps what its action keeps, if it is one. -/
theorem SurvivesTicks.respond
    (hTicks : SurvivesTicks inv)
    {gesture : Gesture}
    (hAct :
      ∀ action, gesture = .act action →
        Keeps inv (Page.act service action)) :
    Keeps inv (Page.respond service gesture) := by
  cases gesture with
  | act action => exact hAct action rfl
  | setEmailEnabled enabled =>
      exact hTicks.tick fun form => .email form enabled
  | setCommentsEnabled enabled =>
      exact hTicks.tick fun form => .comments form enabled
  | toggleMachine node checked =>
      exact hTicks.tick fun form => .machine form node checked

/- What every gesture of a run keeps, the run keeps. -/
theorem play_of_keeps
    {gestures : List Gesture}
    (hKeeps :
      ∀ gesture ∈ gestures,
        Keeps inv (Page.respond service gesture))
    {session : Session σ}
    (hSession : inv session) :
    inv (Session.play service session gestures) := by
  induction gestures generalizing session with
  | nil => exact hSession
  | cons gesture gestures ih =>
      have hFirst := hKeeps gesture (by simp)
      apply ih
      · intro later hLater
        exact hKeeps later (by simp [hLater])
      · exact hFirst.perform hSession

/- A gesture keeps what all actions and the boxes do. -/
theorem keeps_respond
    {name : Option String}
    (hCarries : ∀ action, Carries service mode action inv)
    (hAdmits : Admits service name inv)
    (hTicks : SurvivesTicks inv)
    (gesture : Gesture) :
    Keeps inv (Page.respond service gesture) := by
  apply hTicks.respond
  intro action _
  by_cases hInit : action = .init
  · rw [hInit]
    exact hAdmits.act (hCarries .init).toSteady
  · exact (hCarries action).act hInit

/- A run of an open page, which is not opened anew. -/
theorem Endures.play
    (hInv : Endures service mode inv)
    (hTicks : SurvivesTicks inv)
    {gestures : List Gesture}
    (hOpened : ∀ gesture ∈ gestures, gesture ≠ .act .init)
    {session : Session σ}
    (hSession : inv session) :
    inv (Session.play service session gestures) := by
  apply play_of_keeps _ hSession
  intro gesture hGesture
  apply hTicks.respond
  rintro action rfl
  apply hInv.act
  rintro rfl
  exact hOpened _ hGesture rfl

theorem Survives.play
    (hInv : Survives service mode inv)
    (hTicks : SurvivesTicks inv)
    {session : Session σ}
    (hSession : inv session)
    (gestures : List Gesture) :
    inv (Session.play service session gestures) := by
  apply play_of_keeps _ hSession
  intro gesture _
  exact hTicks.respond fun action _ => hInv.act action

end Page

end BuildForm
