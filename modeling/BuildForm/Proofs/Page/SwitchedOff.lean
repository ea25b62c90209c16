import BuildForm.Proofs.Form.Boxes
import BuildForm.Proofs.Page.Closed
import BuildForm.Service.Directory

/-
  What a form sends of sections that are switched off.

  An override and an e-mail address are looked at together
  with their checkbox. The version files are not: a section
  that is switched off is emptied, and stays empty until a
  path is added to it all the same. So no version files are
  sent unseen exactly if no path is ever added to a box that
  is switched off and takes it.

  Main declarations:
    * `View.HidesNothing`
    * `View.hidesNothing_change_iff`
    * `Page.AddsHidden`
    * `Session.sends_nothing_switched_off_iff`
-/

------------------------------------------------------------
-- Empty Boxes
------------------------------------------------------------

namespace BuildForm

/- A box without options whose hidden input is empty. -/
structure SelectionBox.IsEmpty (box : SelectionBox) : Prop where
  options : box.options = []
  hidden : box.hidden.raw = ""

/- A view with its version files switched on, or with none. -/
def View.HidesNothing (view : View) : Prop :=
  view.versionFilesEnabled = false → view.versionFiles.IsEmpty

namespace SelectionBox

variable {box : SelectionBox}

theorem isEmpty_setEnabled (box : SelectionBox) (enabled : Bool) :
    (box.setEnabled enabled).IsEmpty :=
  ⟨rfl, rfl⟩

/- There is nothing that a key could remove. -/
theorem IsEmpty.press
    (hEmpty : box.IsEmpty)
    (key deleteKey : Key) :
    (box.press key deleteKey).2.IsEmpty := by
  by_cases hRemoval : (Change.press key deleteKey).isRemoval
  · have hNone : box.selectedValue? = none := by
      unfold selectedValue?
      rw [hEmpty.options]
      cases box.selected <;> rfl
    have hRemoved := box.change_of_isRemoval hRemoval
    rw [removeSelected_of_none hNone] at hRemoved
    change (box.change (.press key deleteKey)).IsEmpty
    rw [hRemoved]
    exact ⟨hEmpty.options, hEmpty.hidden⟩
  · rcases box.press_of_not_isRemoval hRemoval with
      ⟨selected, hPress⟩
    rw [hPress]
    exact ⟨hEmpty.options, hEmpty.hidden⟩

/- A box stays empty exactly if it does not take the path. -/
theorem IsEmpty.add_iff
    (hEmpty : box.IsEmpty)
    (candidate : String) :
    (box.add candidate).2.IsEmpty ↔ ¬box.Takes candidate := by
  by_cases hTakes : box.Takes candidate
  · rw [add_of_takes hTakes]
    refine iff_of_false ?_ (not_not_intro hTakes)
    intro hAfter
    exact absurd hAfter.options (by simp [append])
  · rcases add_of_not_takes hTakes with ⟨fault, hAdd⟩
    rw [hAdd]
    exact iff_of_true ⟨hEmpty.options, hEmpty.hidden⟩ hTakes

end SelectionBox

end BuildForm

------------------------------------------------------------
-- Views with Nothing Hidden
------------------------------------------------------------

namespace BuildForm

namespace View

variable {view : View}

theorem standing_hidesNothing : Standing HidesNothing where
  fresh := fun _ _ _ _ _ => ⟨rfl, rfl⟩
  ofRecord := by
    intro id html credentials record hOff
    have hNone : record.versionFiles.isEmpty := by
      simpa [ofRecord] using hOff
    simp only [ofRecord, hNone]
    exact ⟨rfl, rfl⟩
  pushBuilder := fun _ _ hView => hView
  select := fun _ _ hView => hView
  mapField := by
    intro view name change hView
    cases name <;> exact hView
  mapBuilder := fun _ _ _ hView => hView
  revalidate := fun _ hView => hView

/- A path goes into its box, and into no other. -/
theorem versionFiles_addPath
    (view : View)
    (kind : SelectionKind) :
    (view.addPath kind).2.versionFilesEnabled =
        view.versionFilesEnabled ∧
      (view.addPath kind).2.versionFiles =
        match kind with
        | .artifacts => view.versionFiles
        | .versionFiles =>
            (view.versionFiles.add
              view.versionFilesPath.value).2 := by
  rw [snd_addPath]
  dsimp only
  split
  · cases kind <;> exact ⟨rfl, rfl⟩
  · cases kind <;> exact ⟨rfl, rfl⟩

/-
  Whatever is done to a view, nothing is hidden after that
  unless its box takes a path while it is switched off.
-/
theorem hidesNothing_change_iff
    {options : PageOptions}
    {action : Action}
    {id : ViewId}
    {change : View → View}
    (hChange : action.change? options = some (id, change))
    (hView : view.HidesNothing) :
    (change view).HidesNothing ↔
      ¬(action = .addPath id .versionFiles ∧
        view.versionFilesEnabled = false ∧
        view.versionFiles.Takes view.versionFilesPath.value) := by
  have hOther :
      ∀ after : View,
        action ≠ .addPath id .versionFiles →
        after.HidesNothing →
        (after.HidesNothing ↔
          ¬(action = .addPath id .versionFiles ∧
            view.versionFilesEnabled = false ∧
            view.versionFiles.Takes
              view.versionFilesPath.value)) :=
    fun _ hAction hAfter =>
      iff_of_true hAfter fun hAdds => hAction hAdds.1
  cases action with
  | removeBuilder other builder =>
      cases hChange
      exact hOther _ (by simp) hView
  | selectCredentials other value =>
      cases hChange
      exact hOther _ (by simp) hView
  | addPath other kind =>
      cases hChange
      rcases view.versionFiles_addPath kind with
        ⟨hEnabled, hBox⟩
      cases kind with
      | artifacts =>
          apply hOther _ (by simp)
          unfold HidesNothing
          rw [hEnabled, hBox]
          exact hView
      | versionFiles =>
          unfold HidesNothing
          rw [hEnabled, hBox, not_and, not_and]
          constructor
          · intro hAfter _ hOff
            exact ((hView hOff).add_iff _).mp (hAfter hOff)
          · intro hRefused hOff
            exact
              ((hView hOff).add_iff _).mpr (hRefused rfl hOff)
  | press other kind key =>
      cases hChange
      cases kind with
      | artifacts => exact hOther _ (by simp) hView
      | versionFiles =>
          apply hOther _ (by simp)
          exact fun hOff => (hView hOff).press key _
  | setVersionFiles other enabled =>
      cases hChange
      apply hOther _ (by simp)
      exact fun _ => view.versionFiles.isEmpty_setEnabled enabled
  | setOtherConfig other builder checked =>
      cases hChange
      exact hOther _ (by simp) hView
  | _ => cases hChange

end View

end BuildForm

------------------------------------------------------------
-- Runs of a Page
------------------------------------------------------------

namespace BuildForm

/-
  A gesture that adds a path to the version files of a view
  in which they are switched off.
-/
def Page.AddsHidden (gesture : Gesture) (page : Page) : Prop :=
  ∃ id view,
    gesture = .act (.addPath id .versionFiles) ∧
      page.isMutable ∧
      page.form.views.view? id = some view ∧
      view.versionFilesEnabled = false ∧
      view.versionFiles.Takes view.versionFilesPath.value

namespace Session

open Page

variable {σ : Type}
variable {service : Service σ}
variable {session : Session σ}

/- A gesture hides something exactly if it adds it hidden. -/
theorem hidesNothing_respond_iff
    (gesture : Gesture)
    (hViews : session.page.form.EachView View.HidesNothing) :
    ((Page.respond service gesture).perform
        session).2.page.form.EachView View.HidesNothing ↔
      ¬AddsHidden gesture session.page := by
  have hOld :
      ∀ id view, session.page.form.views.view? id = some view →
        view.HidesNothing :=
    fun _ view hView =>
      hViews view (List.mem_of_find?_eq_some hView)
  have hStanding := View.standing_hidesNothing
  rw [eachView_respond_iff hStanding.toInnate
    (fun _ path value hEach =>
      hEach.edit path value _
        (fun view name _ => hStanding.mapField view name _)
        (fun view id _ => hStanding.mapBuilder view id _))
    gesture hViews]
  constructor
  · rintro hAfter
      ⟨id, view, rfl, hMutable, hView, hOff, hTakes⟩
    have hChange :
        (Action.addPath id .versionFiles).change?
            session.page.options =
          some (id, fun view => (view.addPath .versionFiles).2) :=
      rfl
    have hChanged :=
      hAfter view _
        ⟨_, id, _, rfl, hChange, hMutable, hView, rfl⟩
    exact
      (View.hidesNothing_change_iff hChange
        (hOld id view hView)).mp hChanged ⟨rfl, hOff, hTakes⟩
  · rintro hNot view _
      ⟨action, id, change, rfl, hChange, hMutable, hView, rfl⟩
    refine
      (View.hidesNothing_change_iff hChange
        (hOld id view hView)).mpr ?_
    rintro ⟨rfl, hOff, hTakes⟩
    exact hNot ⟨id, view, rfl, hMutable, hView, hOff, hTakes⟩

/-
  Nothing that is switched off is sent at any moment exactly
  if no path goes to a box that is switched off. Overrides and
  the address are never sent without their checkbox.
-/
theorem sends_nothing_switched_off_iff
    (service : Service σ)
    (request : PageRequest)
    (options : PageOptions)
    (state : σ)
    (gestures : List Gesture) :
    let first := start request options state
    ((∀ before after, gestures = before ++ after →
        ∀ view ∈
          (play service first before).page.form.views.items,
          view.versionFilesEnabled = false →
          view.toRecord.versionFiles = [] ∧
            view.versionFiles.hidden.raw = "") ↔
      ∀ before gesture after,
        gestures = before ++ gesture :: after →
        ¬AddsHidden gesture (play service first before).page) ∧
      ∀ before after, gestures = before ++ after →
        let form := (play service first before).page.form
        (∀ view ∈ form.views.items,
          ∀ builder ∈ view.builders,
            builder.otherConfig = false →
            builder.toRecord.userConfig = none) ∧
          (form.emailEnabled = false →
            form.toConfiguration.email = some "") := by
  intro first
  have hFirst : first.page.form.EachView View.HidesNothing :=
    fun _ hView => absurd hView List.not_mem_nil
  have hMoments :
      (∀ before after, gestures = before ++ after →
          (play service first before).page.form.EachView
            View.HidesNothing) ↔
        ∀ before gesture after,
          gestures = before ++ gesture :: after →
          ¬AddsHidden gesture
            (play service first before).page :=
    forall_moments_iff (fun _ => True)
      (fun session =>
        session.page.form.EachView View.HidesNothing)
      (fun gesture session => AddsHidden gesture session.page)
      (fun _ _ _ _ => trivial)
      (fun gesture _ _ _ hViews =>
        hidesNothing_respond_iff gesture hViews)
      trivial hFirst
  have hReads :
      ∀ view : View,
        view.HidesNothing ↔
          (view.versionFilesEnabled = false →
            view.toRecord.versionFiles = [] ∧
              view.versionFiles.hidden.raw = "") := by
    intro view
    refine forall_congr' fun _ => ?_
    exact
      ⟨fun hEmpty => ⟨hEmpty.options, hEmpty.hidden⟩,
        fun hEmpty => ⟨hEmpty.1, hEmpty.2⟩⟩
  refine ⟨?_, ?_⟩
  · simp only [← hReads]
    exact hMoments
  · intro before after _ form
    refine ⟨?_, ?_⟩
    · intro view _ builder _ hOff
      simp [Builder.toRecord, hOff]
    · intro hOff
      simp [Form.toConfiguration, hOff]

/- Version files that are switched on, filled, and off again. -/
theorem sends_nothing_switched_off_iff_again :
    let service : Service Tree :=
      Directory.service { root := "store" }
    let first := start .create {} Tree.empty
    let before :=
      [Gesture.act .init,
        .act (.setVersionFiles ⟨0⟩ true),
        .act
          (.edit (.view ⟨0⟩ .versionFilesPath) "Version.cs")]
    let adds := Gesture.act (.addPath ⟨0⟩ .versionFiles)
    ¬AddsHidden adds (play service first before).page := by
  intro service first before adds
  let after := [Gesture.act (.setVersionFiles ⟨0⟩ false)]
  let gestures := before ++ adds :: after
  have hMoments :
      ∀ count ≤ gestures.length,
        ∀ view ∈
          (play service first
            (gestures.take count)).page.form.views.items,
          view.versionFilesEnabled = false →
          view.toRecord.versionFiles = [] ∧
            view.versionFiles.hidden.raw = "" := by
    decide +kernel
  have hIff :=
    (sends_nothing_switched_off_iff service .create {} Tree.empty
      gestures).1
  exact
    hIff.mp (forall_moments_of_take hMoments) before adds after
      rfl

/- A path goes to version files that were never switched on. -/
theorem not_always_sends_nothing_switched_off :
    let service : Service Tree :=
      Directory.service { root := "store" }
    let first := start .create {} Tree.empty
    ¬∀ gestures : List Gesture,
      ∀ view ∈
        (play service first gestures).page.form.views.items,
        view.versionFilesEnabled = false →
        view.toRecord.versionFiles = [] ∧
          view.versionFiles.hidden.raw = "" := by
  intro service first hAlways
  let gestures :=
    [Gesture.act .init,
      .act
        (.edit (.view ⟨0⟩ .versionFilesPath) "AssemblyInfo.cs"),
      .act (.addPath ⟨0⟩ .versionFiles)]
  have hSent :
      ∃ view ∈
        (play service first gestures).page.form.views.items,
        view.versionFilesEnabled = false ∧
          view.toRecord.versionFiles = ["AssemblyInfo.cs"] := by
    decide +kernel
  rcases hSent with ⟨view, hView, hOff, hFiles⟩
  have hNone := (hAlways gestures view hView hOff).1
  rw [hFiles] at hNone
  cases hNone

end Session

end BuildForm
