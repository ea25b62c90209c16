import BuildForm.Proofs.Form.Independence
import BuildForm.Proofs.Page.Altering
import BuildForm.Proofs.Page.HandedViews
import BuildForm.Proofs.Page.Outcomes

/-
  What is left on a page when adding to it fails.

  A view is on the page before its builder is asked for, and
  the name of a user is out of the input before the row is.
  Where that second call fails, what was done by then stays.

  Main declarations:
    * `Page.perform_addBuilder`
    * `Page.perform_addView`
    * `Session.AddsWholly`
    * `Session.addView_whole_iff`
    * `Page.perform_addUser`
    * `Form.KeepsTyped`
    * `Session.addUser_keeps_typed_iff`
-/

------------------------------------------------------------
-- Performing the Actions
------------------------------------------------------------

namespace BuildForm

/- A view is announced once its builder is on the page. -/
def Session.announced
    {σ : Type}
    (view : ViewId)
    (result : Except FormError BuilderId × Session σ) :
    Except FormError ViewId × Session σ :=
  match result with
  | (.error error, after) => (.error error, after)
  | (.ok _, after) =>
      let count := after.page.form.views.items.length
      (.ok view,
        { after with
          page :=
            { after.page with status := .viewAdded count } })

namespace Page

open PageM

variable {σ : Type}

/- A builder is appended to the view if both are there. -/
theorem perform_addBuilder
    (service : Service σ)
    (view : ViewId)
    (session : Session σ) :
    (addBuilder service view).perform session =
      let answer := service .freshBuilder session.state
      let asked := { session with state := answer.2 }
      if session.page.isMutable then
        match answer.1 with
        | .error error => (.error (.service error), asked)
        | .ok fragment =>
            match
              session.page.form.views.addBuilder view fragment
            with
            | some (builder, views) =>
                (.ok builder,
                  asked.withForm { session.page.form with views })
            | none => (.error (.unknownView view), asked)
      else
        (.error .readOnly, session) := by
  have hForm (asked : Session σ) :
      (getForm : PageM σ Form).perform asked =
        (.ok asked.page.form, asked) := rfl
  unfold addBuilder
  rw [perform_bind, perform_requireMutable]
  by_cases hMutable : session.page.isMutable
  · rw [if_pos hMutable, if_pos hMutable]
    dsimp only
    rw [perform_bind, perform_ask]
    rcases service .freshBuilder session.state with
      ⟨outcome, state⟩
    cases outcome with
    | error error => rfl
    | ok fragment =>
        dsimp only [Except.mapError]
        rw [perform_bind, hForm]
        dsimp only
        cases session.page.form.views.addBuilder view
            fragment with
        | none => rfl
        | some added => rfl
  · rw [if_neg hMutable, if_neg hMutable]

theorem perform_announced
    (service : Service σ)
    (view : ViewId)
    (session : Session σ) :
    (addBuilder service view >>= fun _ =>
        getForm >>= fun form =>
          setStatus (.viewAdded form.views.items.length) >>=
            fun _ => pure view : PageM σ ViewId).perform
        session =
      Session.announced view
        ((addBuilder service view).perform session) := by
  rw [perform_bind]
  rcases (addBuilder service view).perform session with
    ⟨outcome, after⟩
  cases outcome <;> rfl

/- A view is inserted before a builder for it is asked for. -/
theorem perform_addView
    (service : Service σ)
    {session : Session σ}
    (hMutable : session.page.isMutable) :
    (addView service).perform session =
      let form := session.page.form
      let answer := service .freshView session.state
      let asked := { session with state := answer.2 }
      match answer.1 with
      | .error error =>
          (.error (.service error),
            asked.withForm { form with addViewPrompt := false })
      | .ok fragment =>
          let inserted := form.views.insert fragment form.scmKind
          Session.announced inserted.1
            ((addBuilder service inserted.1).perform
              (asked.withForm
                { form with
                  addViewPrompt := false
                  views := inserted.2 })) := by
  let form := { session.page.form with addViewPrompt := false }
  have hPrompt :
      (modifyForm fun form =>
          { form with addViewPrompt := false } :
            PageM σ Unit).perform session =
        (.ok (), session.withForm form) :=
    rfl
  have hState : (session.withForm form).state = session.state :=
    rfl
  unfold addView
  rw [perform_bind, perform_requireMutable, if_pos hMutable]
  dsimp only
  rw [perform_bind, hPrompt]
  dsimp only
  rw [perform_bind, perform_ask, hState]
  rcases service .freshView session.state with ⟨outcome, state⟩
  cases outcome with
  | error error => rfl
  | ok fragment =>
      let inserted := form.views.insert fragment form.scmKind
      change
        ((addBuilder service inserted.1 >>= fun _ =>
            getForm >>= fun after =>
              setStatus (.viewAdded after.views.items.length) >>=
                fun _ => pure inserted.1 : PageM σ ViewId).perform
          (({ session with state }.withForm form).withForm
            { form with views := inserted.2 })) = _
      exact perform_announced service inserted.1 _

end Page

end BuildForm

------------------------------------------------------------
-- Adding a View
------------------------------------------------------------

namespace BuildForm

namespace Form

/- The form with one view more, which takes the next ordinal. -/
def withView (form : Form) (view : View) : Form :=
  { form with
    addViewPrompt := false
    views :=
      { form.views with
        items := form.views.items ++ [view]
        nextOrdinal := form.views.nextOrdinal + 1 } }

/-
  What is answered, and what becomes of a form to which a view
  is added, given what is answered for the view and for the
  builder.
-/
def addView
    (form : Form)
    (fresh : Except ServiceError ViewFragment)
    (built : Except ServiceError Fragment) :
    Except FormError ViewId × Form :=
  match fresh with
  | .error error =>
      (.error (.service error),
        { form with addViewPrompt := false })
  | .ok fragment =>
      let view := form.views.started fragment form.scmKind
      match built with
      | .error error =>
          (.error (.service error), form.withView view)
      | .ok builder =>
          (.ok view.id,
            form.withView (view.pushBuilder builder.html).2)

/-
  Whether adding a view came to the whole of it or to nothing:
  one view more with one builder, or the views and all hidden
  strings as before.
-/
def AddsWholly
    (before after : Form)
    (result : Except FormError Reply) : Prop :=
  match result with
  | .error _ =>
      after.views = before.views ∧
        after.hiddenFields = before.hiddenFields
  | .ok reply =>
      ∃ view builder,
        reply = .view view.id ∧
        view.builders = [builder] ∧
        after.views.items = before.views.items ++ [view]

/- It did unless the builder alone was refused. -/
theorem addsWholly_addView_iff
    (form : Form)
    (fresh : Except ServiceError ViewFragment)
    (built : Except ServiceError Fragment) :
    let result := form.addView fresh built
    AddsWholly form result.2 (result.1.map .view) ↔
      (fresh.isOk → built.isOk) := by
  cases fresh with
  | error error =>
      constructor
      · intro _ hOk
        cases hOk
      · intro _
        exact ⟨rfl, rfl⟩
  | ok fragment =>
      let view := form.views.started fragment form.scmKind
      cases built with
      | error error =>
          have hLonger :
              (form.withView view).views ≠ form.views := by
            intro hSame
            have hItems := congrArg Views.items hSame
            simp [withView] at hItems
          constructor
          · intro hSame
            exact absurd hSame.1 hLonger
          · intro hOk
            cases hOk rfl
      | ok builder =>
          constructor
          · intro _ _
            rfl
          · intro _
            exact
              ⟨(view.pushBuilder builder.html).2, _, rfl, rfl,
                rfl⟩

theorem isOk_addView_iff
    (form : Form)
    (fresh : Except ServiceError ViewFragment)
    (built : Except ServiceError Fragment) :
    ((form.addView fresh built).1.map Reply.view).isOk ↔
      fresh.isOk ∧ built.isOk := by
  cases fresh with
  | error error =>
      change false ↔ false ∧ built.isOk
      simp
  | ok fragment =>
      cases built with
      | error error =>
          change false ↔ true ∧ false
          simp
      | ok builder =>
          change true ↔ true ∧ true
          simp

variable {form : Form}
variable {view : View}

/- The last view is the one that its identity finds. -/
theorem addBuilder_withView
    (hOthers :
      ∀ other ∈ form.views.items, other.id ≠ view.id)
    (builder : Fragment) :
    (form.withView view).views.addBuilder view.id builder =
      let pushed := view.pushBuilder builder.html
      some (pushed.1, (form.withView pushed.2).views) := by
  unfold Views.addBuilder Views.amend withView
  dsimp only
  rw [Views.amendItems_append hOthers rfl]
  rfl

/- A fresh view is one view more, if its ordinal is free. -/
theorem insert_eq_withView
    (hFree : form.views.NextIsFree)
    (fragment : ViewFragment) :
    let view := form.views.started fragment form.scmKind
    form.views.insert fragment form.scmKind =
      (view.id, (form.withView view).views) :=
  Views.insert_of_free hFree fragment form.scmKind

end Form

namespace Page

open PageM

variable {σ : Type}

/- The view that came last gets its builder, or is without. -/
theorem announced_addBuilder
    (service : Service σ)
    {session : Session σ}
    {form : Form}
    {view : View}
    (hMutable : session.page.isMutable)
    (hForm : session.page.form = form.withView view)
    (hOthers :
      ∀ other ∈ form.views.items, other.id ≠ view.id) :
    let result :=
      Session.announced view.id
        ((addBuilder service view.id).perform session)
    (result.1, result.2.page.form) =
      match (service .freshBuilder session.state).1 with
      | .error error =>
          (.error (.service error), form.withView view)
      | .ok builder =>
          (.ok view.id,
            form.withView (view.pushBuilder builder.html).2) := by
  rw [perform_addBuilder, if_pos hMutable]
  rcases service .freshBuilder session.state with
    ⟨outcome, state⟩
  cases outcome with
  | error error =>
      exact congrArg (Prod.mk _) hForm
  | ok builder =>
      have hAdded := Form.addBuilder_withView hOthers builder
      rw [← hForm] at hAdded
      dsimp only
      rw [hAdded, hForm]
      rfl

theorem form_addView
    (service : Service σ)
    {session : Session σ}
    (hMutable : session.page.isMutable)
    (hFree : session.page.form.views.NextIsFree) :
    let result := (addView service).perform session
    let fresh := service .freshView session.state
    let built := service .freshBuilder fresh.2
    (result.1, result.2.page.form) =
      session.page.form.addView fresh.1 built.1 := by
  dsimp only
  rw [perform_addView service hMutable]
  unfold Form.addView
  rcases service .freshView session.state with ⟨outcome, state⟩
  cases outcome with
  | error error => rfl
  | ok fragment =>
      let form := session.page.form
      let view := form.views.started fragment form.scmKind
      have hInserted := Form.insert_eq_withView hFree fragment
      let inserted :=
        { session with state }.withForm (form.withView view)
      have hForm : inserted.page.form = form.withView view := rfl
      dsimp only at hInserted ⊢
      rw [hInserted]
      exact announced_addBuilder service hMutable hForm hFree

end Page

namespace Session

variable {σ : Type}

/- A failure that is reported says so on the status line. -/
theorem outcome_reported
    {α : Type}
    (result : Except FormError α × Session σ) :
    ((reported result).1, (reported result).2.page.form) =
      (result.1, result.2.page.form) := by
  rcases result with ⟨outcome, after⟩
  cases outcome <;> rfl

theorem form_step_addView
    (service : Service σ)
    {session : Session σ}
    (hMutable : session.page.isMutable)
    (hFree : session.page.form.views.NextIsFree) :
    let result := step service session .addView
    let fresh := service .freshView session.state
    let built := service .freshBuilder fresh.2
    let added := session.page.form.addView fresh.1 built.1
    (result.1, result.2.page.form) =
      (added.1.map .view, added.2) := by
  have hAdded := Page.form_addView service hMutable hFree
  unfold step Page.act
  dsimp only at hAdded ⊢
  rw [Page.perform_map, Page.perform_reported, map_reported,
    outcome_reported, ← hAdded]

/-
  Adding a view to a new page or one to edit, whatever was done
  on it and whatever the service answers: the view is added
  with one builder, or nothing is added, unless the service
  hands out the view and refuses the builder. The action fails
  then all the same, and a view without builders is left, which
  has taken the ordinal.
-/
theorem addView_whole_iff
    (service : Service σ)
    (request : PageRequest)
    (options : PageOptions)
    (state : σ)
    (gestures : List Gesture)
    (hMutable : request.mode.isMutable)
    (hHanded :
      Call.allViewsHanded
          (play service.recorded
            (start request options ([], state))
            gestures).state.1 < 2 ^ 32) :
    let before :=
      play service.recorded
        (start request options ([], state)) gestures
    let form := before.page.form
    let fresh := service .freshView before.state.2
    let built := service .freshBuilder fresh.2
    let result := step service.recorded before .addView
    let after := result.2.page.form
    (form.AddsWholly after result.1 ↔
      (fresh.1.isOk → built.1.isOk)) ∧
    (result.1.isOk ↔ fresh.1.isOk ∧ built.1.isOk) ∧
    (∀ error, fresh.1 = .error error →
      after = { form with addViewPrompt := false }) ∧
    (∀ fragment error, fresh.1 = .ok fragment →
      built.1 = .error error →
      ∃ view,
        view.id = ⟨form.views.nextOrdinal⟩ ∧
        view.builders = [] ∧
        after = form.withView view) := by
  intro before form fresh built result after
  have hNumbered :=
    isNumbered_play service request options state gestures
  have hFree : form.views.NextIsFree :=
    Views.nextIsFree_of_sound (hNumbered.numbers hHanded).1
  have hPage : before.page.isMutable := by
    unfold Page.isMutable
    rw [hNumbered.request]
    exact hMutable
  have hStep :
      (result.1, after) =
        ((form.addView fresh.1 built.1).1.map .view,
          (form.addView fresh.1 built.1).2) :=
    form_step_addView service.recorded hPage hFree
  rcases Prod.mk.inj hStep with ⟨hResult, hAfter⟩
  rw [hResult, hAfter]
  refine
    ⟨form.addsWholly_addView_iff fresh.1 built.1,
      form.isOk_addView_iff fresh.1 built.1, ?_, ?_⟩
  · intro error hFresh
    rw [hFresh]
    rfl
  · intro fragment error hFresh hBuilt
    rw [hFresh, hBuilt]
    exact
      ⟨form.views.started fragment form.scmKind, rfl, rfl, rfl⟩

/- A service that hands out views, but one builder only. -/
def givesOneBuilder : Service Nat := fun request given =>
  match request with
  | .newDefaults => (.ok {}, given)
  | .isAdministrator => (.ok false, given)
  | .freshView => (.ok {}, given)
  | .freshBuilder =>
      if given = 0 then
        (.ok {}, 1)
      else
        (.error (.unavailable "down"), given)
  | _ => (.error (.unavailable "down"), given)

/- The builder of the second view is refused. -/
theorem addView_whole_iff_half :
    let service := givesOneBuilder
    let gestures : List Gesture := [.act .init]
    let before :=
      play service.recorded (start .create {} ([], 0)) gestures
    let result := step service.recorded before .addView
    let after := result.2.page.form
    PageRequest.create.mode.isMutable ∧
      Call.allViewsHanded before.state.1 < 2 ^ 32 ∧
      ¬before.page.form.AddsWholly after result.1 ∧
      result.1 =
        .error (.service (.unavailable "down")) ∧
      after.views.items.map (·.builders.length) = [1, 0] := by
  intro service gestures before result after
  have hHanded :
      Call.allViewsHanded before.state.1 < 2 ^ 32 := by
    decide +kernel
  have hShown :
      (service .freshView before.state.2).1.isOk ∧
        ¬(service .freshBuilder before.state.2).1.isOk ∧
        result.1 = .error (.service (.unavailable "down")) ∧
        after.views.items.map (·.builders.length) = [1, 0] := by
    decide +kernel
  rcases hShown with ⟨hFresh, hRefused, hShown⟩
  refine ⟨rfl, hHanded, ?_, hShown⟩
  have hWhole :=
    (addView_whole_iff service .create {} 0 gestures rfl
      hHanded).1
  exact fun hAdded => hRefused (hWhole.mp hAdded hFresh)

/- Of a view that was not added, the view itself is left. -/
theorem not_addView_always_whole :
    ¬∀ (service : Service Nat) (gestures : List Gesture),
      let before := play service (start .create {} 0) gestures
      let result := step service before .addView
      before.page.form.AddsWholly result.2.page.form
        result.1 := by
  intro hAlways
  let before :=
    play givesOneBuilder (start .create {} 0) [.act .init]
  let result := step givesOneBuilder before .addView
  have hWhole :
      before.page.form.AddsWholly result.2.page.form result.1 :=
    hAlways givesOneBuilder [.act .init]
  have hFails :
      result.1 = .error (.service (.unavailable "down")) ∧
        result.2.page.form.views ≠ before.page.form.views := by
    decide +kernel
  rw [hFails.1] at hWhole
  exact hFails.2 hWhole.1

end Session

end BuildForm

------------------------------------------------------------
-- Adding a User
------------------------------------------------------------

namespace BuildForm

theorem Field.clear_of_empty
    {field : Field}
    (hEmpty : field.value = "") :
    field.clear = field := by
  cases field
  cases hEmpty
  rfl

/-
  Whether the name that was typed is still there: in the row
  that it got, with its input empty, or in its input, with the
  rows as before.
-/
def Form.KeepsTyped (before after : Form) : Prop :=
  (after.addUser = before.addUser.clear ∧
    ∃ row,
      row.name = before.addUser.value ∧
      after.users.rows = before.users.rows ++ [row]) ∨
  (after.addUser = before.addUser ∧
    after.users.rows = before.users.rows)

/- It is gone where it was taken out of the input only. -/
theorem Form.not_keepsTyped_of_cleared
    {form : Form}
    (hName : form.addUser.value ≠ "") :
    ¬form.KeepsTyped
      { form with addUser := form.addUser.clear } := by
  rintro (⟨_, row, _, hRows⟩ | ⟨hInput, _⟩)
  · simp at hRows
  · exact hName (congrArg Field.value hInput).symm

namespace Page

open PageM

variable {σ : Type}

/- The input is empty by the time that the row is asked for. -/
theorem perform_addUser
    (service : Service σ)
    {session : Session σ}
    (hMutable : session.page.isMutable) :
    (addUser service).perform session =
      let form := session.page.form
      let name := form.addUser.value
      let cleared := { form with addUser := form.addUser.clear }
      let answer := service .freshUser session.state
      let asked := { session with state := answer.2 }
      if name = "" then
        (.ok none, session)
      else
        match answer.1 with
        | .error error =>
            Session.reported
              (.error (.service error), asked.withForm cleared)
        | .ok fragment =>
            let pushed := form.users.push name fragment.html
            (.ok (some pushed.1),
              asked.withForm
                { cleared with users := pushed.2 }) := by
  let form := session.page.form
  let cleared :=
    session.withForm { form with addUser := form.addUser.clear }
  have hForm :
      (getForm : PageM σ Form).perform session =
        (.ok form, session) := rfl
  have hClear :
      (modifyForm fun form =>
          { form with addUser := form.addUser.clear } :
            PageM σ Unit).perform session =
        (.ok (), cleared) := rfl
  unfold addUser
  rw [perform_bind, perform_reported, perform_requireMutable,
    if_pos hMutable]
  dsimp only [Session.reported]
  rw [perform_bind, hForm]
  dsimp only
  rw [perform_bind, hClear]
  dsimp only
  by_cases hName : form.addUser.value = ""
  · rw [if_pos hName, if_pos hName]
    have hSame : cleared = session := by
      change
        session.withForm
          { form with addUser := form.addUser.clear } = _
      rw [Field.clear_of_empty hName]
      rfl
    rw [hSame]
    rfl
  · rw [if_neg hName, if_neg hName]
    have hState : cleared.state = session.state := rfl
    rw [perform_bind, perform_reported, perform_ask, hState]
    rcases service .freshUser session.state with
      ⟨outcome, state⟩
    cases outcome <;> rfl

end Page

namespace Session

variable {σ : Type}

/-
  Adding a user to a new page or one to edit, whatever is typed
  and whatever the service answers: a name is in its row or in
  its input afterwards, unless the service refuses the row. In
  that case the input is empty and the rows are as before.
-/
theorem addUser_keeps_typed_iff
    (service : Service σ)
    (session : Session σ)
    (hMutable : session.page.isMutable) :
    let form := session.page.form
    let name := form.addUser.value
    let cleared := { form with addUser := form.addUser.clear }
    let answer := service .freshUser session.state
    let result := step service session .addUser
    let after := result.2.page.form
    (form.KeepsTyped after ↔ name = "" ∨ answer.1.isOk) ∧
    (name = "" → result = (.ok (.row none), session)) ∧
    (∀ fragment, name ≠ "" → answer.1 = .ok fragment →
      let pushed := form.users.push name fragment.html
      result.1 = .ok (.row (some pushed.1)) ∧
        after = { cleared with users := pushed.2 }) ∧
    (∀ error, name ≠ "" → answer.1 = .error error →
      result.1 = .error (.service error) ∧ after = cleared) := by
  intro form name cleared answer result after
  have hStep :
      result =
        let added := (Page.addUser service).perform session
        (added.1.map .row, added.2) := by
    change (Page.act service .addUser).perform session = _
    unfold Page.act
    rw [Page.perform_map]
  rw [Page.perform_addUser service hMutable] at hStep
  have hNothing :
      name = "" → result = (.ok (.row none), session) := by
    intro hName
    rw [hStep, if_pos hName]
    rfl
  have hGiven :
      ∀ fragment, name ≠ "" → answer.1 = .ok fragment →
        let pushed := form.users.push name fragment.html
        result.1 = .ok (.row (some pushed.1)) ∧
          after = { cleared with users := pushed.2 } := by
    intro fragment hName hAnswer
    change _ ∧ result.2.page.form = _
    rw [hStep, if_neg hName, hAnswer]
    exact ⟨rfl, rfl⟩
  have hRefused :
      ∀ error, name ≠ "" → answer.1 = .error error →
        result.1 = .error (.service error) ∧
          after = cleared := by
    intro error hName hAnswer
    change _ ∧ result.2.page.form = _
    rw [hStep, if_neg hName, hAnswer]
    exact ⟨rfl, rfl⟩
  refine ⟨?_, hNothing, hGiven, hRefused⟩
  by_cases hName : name = ""
  · have hSame : after = form :=
      congrArg (·.2.page.form) (hNothing hName)
    rw [hSame]
    exact ⟨fun _ => .inl hName, fun _ => .inr ⟨rfl, rfl⟩⟩
  · cases hAnswer : answer.1 with
    | error error =>
        have hLost := Form.not_keepsTyped_of_cleared hName
        rw [(hRefused error hName hAnswer).2]
        constructor
        · intro hKeeps
          exact absurd hKeeps hLost
        · rintro (hEmpty | hOk)
          · exact absurd hEmpty hName
          · cases hOk
    | ok fragment =>
        rw [(hGiven fragment hName hAnswer).2]
        exact
          ⟨fun _ => .inr rfl,
            fun _ => .inl ⟨rfl, _, rfl, rfl⟩⟩

/- A name is typed, and the row for it is refused. -/
theorem addUser_keeps_typed_iff_lost :
    let service : Service Unit := fun _ state =>
      (.error (.unavailable "down"), state)
    let session :=
      play service (start .create {} ())
        [.act (.edit .addUser "ann")]
    let result := step service session .addUser
    let after := result.2.page.form
    session.page.isMutable ∧
      session.page.form.addUser.value = "ann" ∧
      ¬session.page.form.KeepsTyped after ∧
      result.1 = .error (.service (.unavailable "down")) ∧
      after.addUser.value = "" ∧ after.users.rows = [] := by
  intro service session result after
  have hShown :
      session.page.isMutable ∧
        session.page.form.addUser.value = "ann" ∧
        result.1 = .error (.service (.unavailable "down")) ∧
        after.addUser.value = "" ∧ after.users.rows = [] := by
    decide +kernel
  rcases hShown with ⟨hMutable, hName, hShown⟩
  refine ⟨hMutable, hName, ?_, hShown⟩
  have hKeeps :=
    (addUser_keeps_typed_iff service session hMutable).1
  intro hTyped
  rcases hKeeps.mp hTyped with hEmpty | hAnswered
  · rw [hName] at hEmpty
    exact absurd hEmpty (by decide)
  · cases hAnswered

/- A name that was typed is neither in its input nor a row. -/
theorem not_addUser_always_keeps_typed :
    ¬∀ (service : Service Unit) (gestures : List Gesture),
      let before := play service (start .create {} ()) gestures
      let result := step service before .addUser
      before.page.form.KeepsTyped result.2.page.form := by
  intro hAlways
  let service : Service Unit := fun _ state =>
    (.error (.unavailable "down"), state)
  let gestures : List Gesture :=
    [.act (.edit .addUser "ann")]
  have hTyped := hAlways service gestures
  let before := play service (start .create {} ()) gestures
  let after := (step service before .addUser).2.page.form
  have hLost :
      after.addUser ≠ before.page.form.addUser ∧
        after.users.rows = [] := by
    decide +kernel
  rcases hTyped with ⟨_, row, _, hRows⟩ | ⟨hInput, _⟩
  · change after.users.rows = _ at hRows
    rw [hLost.2] at hRows
    simp at hRows
  · exact hLost.1 hInput

end Session

end BuildForm
