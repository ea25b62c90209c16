import BuildForm.Proofs.Form.Folders
import BuildForm.Proofs.Page.Gestures
import BuildForm.Proofs.Page.Placing

/-
  The folders of the views while a page is worked on.

  A page opens with the folders that were stored. Views that
  are added get those of their ordinals, and whatever else is
  done leaves the folders of the views that stay alone, as
  long as none is typed.

  Main declarations:
    * `Gesture.leavesFolders`
    * `Session.IsFoldered`
    * `Session.isFoldered_play`
    * `Session.exists_shows_play`
-/

------------------------------------------------------------
-- Gestures
------------------------------------------------------------

namespace BuildForm

namespace Gesture

/- Whether a gesture neither opens the page anew nor types the
   folder of a view. -/
def leavesFolders : Gesture → Bool
  | .act .init => false
  | .act (.edit (.view _ .localDirectoryPath) _) => false
  | _ => true

/- Whether a gesture adds a view. -/
def addsView : Gesture → Bool
  | .act .addView => true
  | _ => false

/- How many views some gestures may add. -/
def additions (gestures : List Gesture) : Nat :=
  gestures.countP addsView

/- Gestures that add views and do nothing else. -/
def adding (count : Nat) : List Gesture :=
  List.replicate count (.act .addView)

end Gesture

end BuildForm

------------------------------------------------------------
-- One Page
------------------------------------------------------------

namespace BuildForm

namespace Session

open PageM

/-
  A session whose views have the folders that were stored or
  those of their ordinals, which lie below a bound.
-/
structure IsFoldered
    (request : PageRequest)
    (label : String)
    (stored : List String)
    (bound : Nat)
    (session : Session Tree) : Prop where
  request : session.page.request = request
  scm : session.page.form.scm = label
  views :
    session.page.form.views.AreFoldered (Scm.ofLabel label)
      stored
  most : session.page.form.views.nextOrdinal.toNat ≤ bound

variable {directory : Directory}
variable {request : PageRequest}
variable {label : String}
variable {stored : List String}
variable {bound : Nat}
variable {session : Session Tree}

namespace IsFoldered

/- Only the request, the source control and the views matter. -/
theorem of_page
    (hSession : session.IsFoldered request label stored bound)
    {after : Session Tree}
    (hRequest : after.page.request = session.page.request)
    (hScm : after.page.form.scm = session.page.form.scm)
    (hViews :
      session.page.form.views.Retains after.page.form.views) :
    after.IsFoldered request label stored bound where
  request := hRequest.trans hSession.request
  scm := hScm.trans hSession.scm
  views := hSession.views.retained hViews
  most := by
    rw [hViews.next]
    exact hSession.most

/- The same numbers and folders, and maybe a higher bound. -/
theorem of_same
    (hSession : session.IsFoldered request label stored bound)
    {tree : Tree}
    {after : Session Tree}
    (hShows :
      after.Shows request tree label
        session.page.form.views.numbering
        session.page.form.views.folders)
    {higher : Nat}
    (hHigher : bound ≤ higher) :
    after.IsFoldered request label stored higher where
  request := hShows.request
  scm := hShows.scm
  views := hSession.views.of_same hShows.numbering hShows.folders
  most := by
    have hNext := congrArg Numbering.next hShows.numbering
    change after.page.form.views.nextOrdinal = _ at hNext
    rw [hNext]
    exact hSession.most.trans hHigher

/- A fresh view at the end raises the bound by one. -/
theorem appended
    (hSession : session.IsFoldered request label stored bound)
    (hRoom : bound + 1 < 2 ^ 32)
    {tree : Tree}
    {after : Session Tree}
    (hShows :
      after.Shows request tree label
        session.page.form.views.numbering.appended
        (session.page.form.views.folders ++
          [(Scm.ofLabel label).freshFolder
            session.page.form.views.nextOrdinal])) :
    after.IsFoldered request label stored (bound + 1) := by
  have hCounter :
      session.page.form.views.nextOrdinal.toNat + 1 < 2 ^ 32 :=
    (Nat.succ_le_succ hSession.most).trans_lt hRoom
  refine
    ⟨hShows.request, hShows.scm,
      hSession.views.appended hShows.numbering hShows.folders
        hCounter, ?_⟩
  have hNext := congrArg Numbering.next hShows.numbering
  change after.page.form.views.nextOrdinal = _ at hNext
  rw [hNext]
  change (session.page.form.views.nextOrdinal + 1).toNat ≤ _
  rw [Numbering.toNat_add_one hCounter]
  exact Nat.succ_le_succ hSession.most

/- What a page shows right after it opened is what is stored. -/
theorem of_shows
    {tree : Tree}
    (hShows :
      session.Shows request tree label
        (.ofCount stored.length) stored)
    (hRoom : stored.length < 2 ^ 32) :
    session.IsFoldered request label stored stored.length where
  request := hShows.request
  scm := hShows.scm
  views :=
    Views.areFoldered_of_loaded _ hShows.numbering hShows.folders
      hRoom
  most := by
    have hNext := congrArg Numbering.next hShows.numbering
    change session.page.form.views.nextOrdinal = _ at hNext
    rw [hNext]
    exact (UInt32.toNat_ofNat_of_lt' hRoom).le

end IsFoldered

/- What is no adding and no typing of a folder keeps them all. -/
theorem isFoldered_carries
    (directory : Directory)
    (request : PageRequest)
    (label : String)
    (stored : List String)
    (bound : Nat)
    {action : Action}
    (hAdds : action.addsView = false)
    (hTyped :
      ∀ id value,
        action ≠ .edit (.view id .localDirectoryPath) value) :
    Page.Carries directory.service request.mode action
      (IsFoldered request label stored bound) where
  modes := by
    intro session hSession
    rw [hSession.request]
  marks := by
    intro session page hSession hRequest hForm _
    apply hSession.of_page hRequest
    · change page.form.scm = _
      rw [hForm]
    · change session.page.form.views.Retains page.form.views
      rw [hForm]
      exact .refl _
  steps := by
    intro session form hSession hStep hSpared
    rcases hSpared.views with hAdding | hRetains
    · rw [hAdds] at hAdding
      cases hAdding
    · exact
        hSession.of_page rfl (Form.scm_step hStep) hRetains
  edits := by
    rintro session path value validate hSession rfl
    refine hSession.of_page rfl ?_ ?_
    · exact session.page.form.scm_edit path value validate
    · apply session.page.form.viewsRetained_edit
      rintro id rfl
      exact hTyped id value rfl
  asks := fun _ _ _ _ hSession _ _ _ =>
    hSession.of_page rfl rfl (.refl _)
  judges := by
    intro session path trigger outcome state hSession _ _ _
    cases outcome with
    | error error =>
        exact hSession.of_page rfl rfl (.refl _)
    | ok answer =>
        refine hSession.of_page rfl ?_ ?_
        · exact session.page.form.scm_mapTrigger path _
        · change
            session.page.form.views.Retains
              (session.page.form.mapTrigger path _).views
          rw [Form.views_mapTrigger]
          exact .refl _
  sends := fun _ _ _ hSession _ _ _ =>
    hSession.of_page rfl rfl (.refl _)

theorem isFoldered_survivesTicks
    (request : PageRequest)
    (label : String)
    (stored : List String)
    (bound : Nat) :
    Page.SurvivesTicks
      (IsFoldered request label stored bound) := by
  intro session form hSession hTick
  refine hSession.of_page rfl (Form.scm_tick hTick) ?_
  change session.page.form.views.Retains form.views
  rw [Form.views_tick hTick]
  exact .refl _

/- A view that is added, on a page that shows some views. -/
theorem triple_act_addView
    (directory : Directory)
    (hMutable : request.mode.isMutable)
    (tree : Tree)
    (numbering : Numbering)
    (folders : List String) :
    let appended :=
      Session.Shows request tree label numbering.appended
        (folders ++
          [(Scm.ofLabel label).freshFolder numbering.next])
    Triple
      (Session.Shows request tree label numbering folders)
      (Page.act directory.service .addView)
      (fun _ => appended)
      (fun _ session =>
        (∃ fault, directory.defaults tree = .error fault) ∧
            session.Shows request tree label numbering
              folders ∨
          appended session) := by
  intro appended
  refine Triple.bind ?_ fun _ => Triple.pure fun _ hSession =>
    hSession
  apply (Directory.triple_addView directory hMutable).reportedAs
  rintro error session (⟨hFault, hSession⟩ | hSession)
  · exact
      Or.inl
        ⟨hFault, ⟨hSession.request, hSession.tree⟩,
          hSession.scm, hSession.numbering, hSession.folders⟩
  · exact
      Or.inr
        ⟨⟨hSession.request, hSession.tree⟩, hSession.scm,
          hSession.numbering, hSession.folders⟩

/- Either the view is added, or nothing that is shown changes. -/
theorem shows_addView
    (hMutable : request.mode.isMutable)
    {tree : Tree}
    {numbering : Numbering}
    {folders : List String}
    (hShows :
      session.Shows request tree label numbering folders) :
    let after :=
      ((Page.act directory.service .addView).perform session).2
    (∃ fault, directory.defaults tree = .error fault) ∧
        after.Shows request tree label numbering folders ∨
      after.Shows request tree label numbering.appended
        (folders ++
          [(Scm.ofLabel label).freshFolder numbering.next]) := by
  have hAct :=
    triple_act_addView directory hMutable tree numbering folders
      session hShows
  dsimp only
  revert hAct
  generalize
    (Page.act directory.service .addView).perform session =
      performed
  intro hAct
  rcases performed with ⟨_ | reply, after⟩
  · exact hAct
  · exact Or.inr hAct

/- A view that is added raises the bound by one. -/
theorem isFoldered_addView
    (directory : Directory)
    (hMutable : request.mode.isMutable)
    (hSession : session.IsFoldered request label stored bound)
    (hRoom : bound + 1 < 2 ^ 32) :
    ((Page.act directory.service .addView).perform
      session).2.IsFoldered request label stored (bound + 1) := by
  have hShows :
      session.Shows request session.state label
        session.page.form.views.numbering
        session.page.form.views.folders :=
    ⟨⟨hSession.request, rfl⟩, hSession.scm, rfl, rfl⟩
  rcases shows_addView hMutable hShows with
    ⟨_, hSame⟩ | hAppended
  · exact hSession.of_same hSame (Nat.le_succ bound)
  · exact hSession.appended hRoom hAppended

/- A gesture raises the bound by the view that it may add. -/
theorem isFoldered_respond
    (directory : Directory)
    (hMutable : request.mode.isMutable)
    (hSession : session.IsFoldered request label stored bound)
    (gesture : Gesture)
    (hLeaves : gesture.leavesFolders)
    (hRoom : bound + Gesture.additions [gesture] < 2 ^ 32) :
    ((Page.respond directory.service gesture).perform
      session).2.IsFoldered request label stored
        (bound + Gesture.additions [gesture]) := by
  by_cases hAdds : gesture = .act .addView
  · subst hAdds
    exact isFoldered_addView directory hMutable hSession hRoom
  · have hNone : Gesture.additions [gesture] = 0 := by
      cases gesture with
      | act action =>
          cases action with
          | addView => exact absurd rfl hAdds
          | _ => rfl
      | _ => rfl
    rw [hNone]
    refine Keeps.perform ?_ hSession
    apply (isFoldered_survivesTicks _ _ _ _).respond
    rintro action rfl
    have hOther : action.addsView = false := by
      cases action with
      | init => cases hLeaves
      | addView => exact absurd rfl hAdds
      | _ => rfl
    apply
      (isFoldered_carries directory request label stored bound
        hOther _).act
    · rintro rfl
      cases hLeaves
    · rintro id value rfl
      cases hLeaves

/- Over a run the bound is raised by the views it may add. -/
theorem isFoldered_play
    (directory : Directory)
    (hMutable : request.mode.isMutable)
    (hSession : session.IsFoldered request label stored bound)
    {gestures : List Gesture}
    (hLeaves : ∀ gesture ∈ gestures, gesture.leavesFolders)
    (hRoom : bound + Gesture.additions gestures < 2 ^ 32) :
    (play directory.service session gestures).IsFoldered request
      label stored (bound + Gesture.additions gestures) := by
  induction gestures generalizing session bound with
  | nil => exact hSession
  | cons gesture gestures ih =>
      have hSplit :
          Gesture.additions (gesture :: gestures) =
            Gesture.additions [gesture] +
              Gesture.additions gestures := by
        unfold Gesture.additions
        rw [← List.countP_append]
        rfl
      rw [hSplit, ← Nat.add_assoc] at hRoom ⊢
      have hFirst :=
        isFoldered_respond directory hMutable hSession gesture
          (hLeaves gesture List.mem_cons_self) (by omega)
      apply ih hFirst _ hRoom
      intro later hLater
      exact hLeaves later (List.mem_cons_of_mem gesture hLater)

/- Views that are added have the ordinals that come next. -/
theorem exists_shows_play
    (hMutable : request.mode.isMutable)
    {tree : Tree}
    (hDefaults :
      ∃ defaults, directory.defaults tree = .ok defaults)
    {numbering : Numbering}
    {folders : List String}
    (hShows :
      session.Shows request tree label numbering folders)
    (count : Nat) :
    ∃ after : Numbering,
      (play directory.service session
          (Gesture.adding count)).Shows request tree label after
        (folders ++
          (Numbering.upward numbering.next count).map
            (Scm.ofLabel label).freshFolder) := by
  induction count generalizing session numbering folders with
  | zero =>
      refine ⟨numbering, ?_⟩
      rw [Numbering.upward, List.map_nil, List.append_nil]
      exact hShows
  | succ count ih =>
      rcases shows_addView hMutable hShows with
        ⟨⟨fault, hFault⟩, _⟩ | hFirst
      · rcases hDefaults with ⟨defaults, hDefaults⟩
        rw [hDefaults] at hFault
        cases hFault
      rcases ih hFirst with ⟨after, hAfter⟩
      refine ⟨after, ?_⟩
      rw [List.append_assoc] at hAfter
      exact hAfter

end Session

end BuildForm
