import BuildForm.Page.Action

/-
  All that the user does on a page: its actions, and ticking
  the boxes of the form that have no action of their own.

  Key definitions include:
    * `Gesture`
    * `Page.tick`
    * `Page.respond`
    * `Session.play`
-/

namespace BuildForm

/- Something that the user does on a page. -/
inductive Gesture where
  | act (action : Action)
  | setEmailEnabled (enabled : Bool)
  | setCommentsEnabled (enabled : Bool)
  | toggleMachine (node : String) (checked : Bool)
deriving DecidableEq, Repr

namespace Page

open PageM

variable {σ : Type}

/- Tick or untick a box; the flag tells whether it was free. -/
def tick (change : Form → Bool × Form) : PageM σ Reply :=
  onForm fun form =>
    let (free, form) := change form
    (.ok (.flag free), form)

/- What a page does when the user does something. -/
def respond (service : Service σ) : Gesture → PageM σ Reply
  | .act action => act service action
  | .setEmailEnabled enabled =>
      tick (·.setEmailEnabled enabled)
  | .setCommentsEnabled enabled =>
      tick (·.setCommentsEnabled enabled)
  | .toggleMachine node checked =>
      tick (·.toggleMachine node checked)

end Page

/- The session after some gestures in order. -/
def Session.play
    {σ : Type}
    (service : Service σ)
    (session : Session σ)
    (gestures : List Gesture) : Session σ :=
  gestures.foldl
    (fun session gesture =>
      ((Page.respond service gesture).perform session).2)
    session

end BuildForm
