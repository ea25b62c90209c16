import Mathlib.Data.List.Lookmap
import BuildForm.Proofs.Form.Advancing
import BuildForm.Proofs.Form.Reopen

/-
  Views that do not meddle with each other.

  Whatever is asked of one view is looked up by its identity,
  answered from that view and the default credentials alone,
  and done in its place. So what is asked of two views can be
  asked in either order. The default credentials are looked at
  by views that are new, and by the command to apply them.

  Main declarations:
    * `View.Command`
    * `Views.carryOut`
    * `Views.Reachable`
    * `Views.carryOut_comm`
    * `Views.insert_of_free`
    * `Views.views_are_independent`
-/

------------------------------------------------------------
-- What Is Asked of One View
------------------------------------------------------------

namespace BuildForm

/-
  What may be asked of one view. A change of an input answers
  by a flag, such as the verdict of its rule.
-/
inductive View.Command where
  | close
  | addBuilder (fragment : Fragment)
  | removeBuilder (builder : BuilderId)
  | selectCredentials (value : String)
  | applyDefault
  | addPath (kind : SelectionKind)
  | press (kind : SelectionKind) (key deleteKey : Key)
  | setVersionFiles (enabled : Bool)
  | setOtherConfig (builder : BuilderId) (checked : Bool)
  | setInput
      (name : ViewField)
      (change : Field → Bool × Field)
  | setOverride
      (builder : BuilderId)
      (change : Field → Bool × Field)

/- What is answered to it. -/
inductive View.Answer where
  | flag (value : Bool)
  | builder (id : Option BuilderId)
  | added (result : Except FormError Unit)

namespace View

/- Change an input that there is. -/
def setInput
    (view : View)
    (name : ViewField)
    (change : Field → Bool × Field) : Bool × View :=
  ((view.field? name).any fun field => (change field).1,
    view.mapField name fun field => (change field).2)

/- Change the override of a builder that there is. -/
def setOverride
    (view : View)
    (builder : BuilderId)
    (change : Field → Bool × Field) : Bool × View :=
  ((view.builder? builder).any fun entry =>
      (change entry.userConfig).1,
    view.mapBuilder builder fun entry =>
      { entry with userConfig := (change entry.userConfig).2 })

end View

namespace Views

/- Change one view; the flag is off if there is no such view. -/
def flagged
    (views : Views)
    (id : ViewId)
    (change : View → Bool × View) : View.Answer × Views :=
  let (flag, views) :=
    (views.amend id change).getD (false, views)
  (.flag flag, views)

/- What is answered for what became of a view, if of one. -/
def answered
    {α : Type}
    (views : Views)
    (refusal : View.Answer)
    (answer : α → View.Answer) :
    Option (α × Views) → View.Answer × Views
  | some (result, views) => (answer result, views)
  | none => (refusal, views)

/- What is answered, and what becomes of the views. -/
def carryOut
    (views : Views)
    (id : ViewId) : View.Command → View.Answer × Views
  | .close =>
      let (closed, views) := views.remove id
      (.flag closed, views)
  | .addBuilder fragment =>
      views.answered (.builder none) (.builder ∘ some)
        (views.addBuilder id fragment)
  | .removeBuilder builder =>
      let (removed, views) := views.removeBuilder id builder
      (.flag removed, views)
  | .selectCredentials value =>
      let (found, views) := views.selectCredentials id value
      (.flag found, views)
  | .applyDefault =>
      let (found, views) := views.applyDefault id
      (.flag found, views)
  | .addPath kind =>
      views.answered (.added (.error (.unknownView id))) .added
        (views.amend id fun view => view.addPath kind)
  | .press kind key deleteKey =>
      views.flagged id fun view =>
        let (acted, box) := (view.box kind).press key deleteKey
        (acted, view.setBox kind box)
  | .setVersionFiles enabled =>
      views.flagged id fun view =>
        (true, view.setVersionFiles enabled)
  | .setOtherConfig builder checked =>
      views.flagged id fun view =>
        match view.builder? builder with
        | some _ =>
            (true,
              view.mapBuilder builder
                (·.setOtherConfig checked))
        | none => (false, view)
  | .setInput name change =>
      views.flagged id fun view => view.setInput name change
  | .setOverride builder change =>
      views.flagged id fun view =>
        view.setOverride builder change

end Views

end BuildForm

------------------------------------------------------------
-- Replacing One Item of a List
------------------------------------------------------------

namespace BuildForm

variable {α : Type}
variable {f g : α → Option α}
variable {p : α → Bool}

/- Two replacements that do not see each other commute. -/
theorem lookmap_comm
    (hFirst :
      ∀ a b, f a = some b → g a = none ∧ g b = none)
    (hSecond :
      ∀ a b, g a = some b → f a = none ∧ f b = none)
    (items : List α) :
    (items.lookmap f).lookmap g =
      (items.lookmap g).lookmap f := by
  induction items with
  | nil => rfl
  | cons item items ih =>
      cases hF : f item with
      | some after =>
          have hG := hFirst item after hF
          rw [List.lookmap_cons_some _ _ hF,
            List.lookmap_cons_none _ _ hG.2,
            List.lookmap_cons_none _ _ hG.1,
            List.lookmap_cons_some _ _ hF]
      | none =>
          rw [List.lookmap_cons_none _ _ hF]
          cases hG : g item with
          | some after =>
              have hAfter := (hSecond item after hG).2
              rw [List.lookmap_cons_some _ _ hG,
                List.lookmap_cons_some _ _ hG,
                List.lookmap_cons_none _ _ hAfter]
          | none =>
              rw [List.lookmap_cons_none _ _ hG,
                List.lookmap_cons_none _ _ hG,
                List.lookmap_cons_none _ _ hF, ih]

/- Items that pass a test are not replaced unless seen by it. -/
theorem find?_lookmap
    (hUnseen :
      ∀ a b, f a = some b → p a = false ∧ p b = false)
    (items : List α) :
    (items.lookmap f).find? p = items.find? p := by
  induction items with
  | nil => rfl
  | cons item items ih =>
      cases hF : f item with
      | some after =>
          have hP := hUnseen item after hF
          rw [List.lookmap_cons_some _ _ hF]
          simp [hP.1, hP.2]
      | none =>
          rw [List.lookmap_cons_none _ _ hF, List.find?_cons, ih,
            List.find?_cons]

theorem filter_lookmap
    (hUnseen :
      ∀ a b, f a = some b → p a = false ∧ p b = false)
    (items : List α) :
    (items.lookmap f).filter p = items.filter p := by
  induction items with
  | nil => rfl
  | cons item items ih =>
      cases hF : f item with
      | some after =>
          have hP := hUnseen item after hF
          rw [List.lookmap_cons_some _ _ hF]
          simp [hP.1, hP.2]
      | none =>
          rw [List.lookmap_cons_none _ _ hF, List.filter_cons,
            ih, List.filter_cons]

theorem lookmap_filter
    (hSeen :
      ∀ a b, f a = some b → p a = true ∧ p b = true)
    (items : List α) :
    (items.filter p).lookmap f =
      (items.lookmap f).filter p := by
  induction items with
  | nil => rfl
  | cons item items ih =>
      cases hF : f item with
      | some after =>
          have hP := hSeen item after hF
          rw [List.lookmap_cons_some _ _ hF,
            List.filter_cons_of_pos hP.1,
            List.filter_cons_of_pos hP.2,
            List.lookmap_cons_some _ _ hF]
      | none =>
          rw [List.lookmap_cons_none _ _ hF]
          cases hP : p item with
          | true =>
              rw [List.filter_cons_of_pos hP,
                List.filter_cons_of_pos hP,
                List.lookmap_cons_none _ _ hF, ih]
          | false =>
              rw [List.filter_cons_of_neg (by simp [hP]),
                List.filter_cons_of_neg (by simp [hP]), ih]

end BuildForm

------------------------------------------------------------
-- Changing Views in Their Places
------------------------------------------------------------

namespace BuildForm

namespace Views

variable {α : Type}
variable {views : Views}
variable {first second id other : ViewId}
variable {change another : View → View}

/- What a change of the view with an identity makes of one. -/
def changed?
    (id : ViewId)
    (change : View → View)
    (view : View) : Option View :=
  if view.id = id then some (change view) else none

theorem amendItems_eq
    (id : ViewId)
    (change : View → α × View)
    (items : List View) :
    amendItems id change items =
      (items.find? fun view => view.id = id).map fun view =>
        ((change view).1,
          items.lookmap (changed? id fun view =>
            (change view).2)) := by
  induction items with
  | nil => rfl
  | cons view items ih =>
      unfold amendItems
      by_cases hId : view.id = id
      · have hChanged :
            changed? id (fun view => (change view).2) view =
              some (change view).2 :=
          if_pos hId
        rw [if_pos hId, List.lookmap_cons_some _ _ hChanged,
          List.find?_cons_of_pos (by simpa using hId)]
        rfl
      · have hSame :
            changed? id (fun view => (change view).2) view =
              none :=
          if_neg hId
        rw [if_neg hId, List.lookmap_cons_none _ _ hSame,
          List.find?_cons_of_neg (by simpa using hId), ih,
          Option.map_map]
        rfl

/- The view that is found is changed in its place. -/
theorem modify_eq_lookmap
    (views : Views)
    (id : ViewId)
    (change : View → View) :
    views.modify id change =
      { views with
        items := views.items.lookmap (changed? id change) } := by
  unfold modify amend
  rw [amendItems_eq]
  cases hFound : views.items.find? fun view => view.id = id with
  | some view => rfl
  | none =>
      have hNone :
          ∀ view ∈ views.items,
            changed? id change view = none := by
        intro view hView
        have hOther := List.find?_eq_none.mp hFound view hView
        exact if_neg (by simpa using hOther)
      rw [List.lookmap_of_forall_not _ hNone]
      rfl

theorem amend_eq
    (views : Views)
    (id : ViewId)
    (change : View → α × View) :
    views.amend id change =
      (views.view? id).map fun view =>
        ((change view).1,
          views.modify id fun view => (change view).2) := by
  unfold amend view?
  rw [amendItems_eq, Option.map_map, modify_eq_lookmap]
  rfl

variable {refused : α}

/- What is answered if there is no such view is a default. -/
theorem getD_amend
    (refused : α)
    (id : ViewId)
    (change : View → α × View) :
    (views.amend id change).getD (refused, views) =
      ((views.view? id).elim refused fun view =>
          (change view).1,
        views.modify id fun view => (change view).2) := by
  rw [amend_eq]
  cases hFound : views.view? id with
  | none =>
      rw [modify_of_view?_eq_none hFound]
      rfl
  | some view => rfl

theorem flagged_eq
    (views : Views)
    (id : ViewId)
    (change : View → Bool × View) :
    views.flagged id change =
      ((views.view? id).elim (.flag false) fun view =>
          .flag (change view).1,
        views.modify id fun view => (change view).2) := by
  unfold flagged
  rw [getD_amend]
  cases views.view? id <;> rfl

theorem answered_amend
    (refusal : View.Answer)
    (answer : α → View.Answer)
    (views : Views)
    (id : ViewId)
    (change : View → α × View) :
    views.answered refusal answer (views.amend id change) =
      ((views.view? id).elim refusal fun view =>
          answer (change view).1,
        views.modify id fun view => (change view).2) := by
  rw [amend_eq]
  cases hFound : views.view? id with
  | none =>
      rw [modify_of_view?_eq_none hFound]
      rfl
  | some view => rfl

theorem modify_same
    (views : Views)
    (id : ViewId) :
    (views.modify id fun view => view) = views := by
  rw [modify_eq_lookmap, List.lookmap_id']
  intro view after hAfter
  unfold changed? at hAfter
  split at hAfter
  · cases hAfter
    rfl
  · cases hAfter

theorem remove_eq
    (views : Views)
    (id : ViewId) :
    views.remove id =
      ((views.view? id).isSome,
        { views with
          items :=
            views.items.filter fun view => view.id ≠ id }) := by
  unfold remove view?
  rw [List.isSome_find?]

/- A view that is changed keeps its identity. -/
theorem id_of_changed?
    (hChange : ∀ view, (change view).id = view.id)
    {view after : View}
    (hAfter : changed? id change view = some after) :
    view.id = id ∧ after.id = id := by
  unfold changed? at hAfter
  split at hAfter
  · rename_i hId
    cases hAfter
    exact ⟨hId, (hChange view).trans hId⟩
  · cases hAfter

theorem changed?_of_ne
    {view : View}
    (hOther : view.id ≠ id)
    (change : View → View) :
    changed? id change view = none :=
  if_neg hOther

section
variable (hChange : ∀ view, (change view).id = view.id)
include hChange

/- A change of one view is seen by no test of another one. -/
theorem view?_modify_of_ne
    (hOther : id ≠ other)
    (views : Views) :
    (views.modify id change).view? other =
      views.view? other := by
  rw [modify_eq_lookmap]
  apply find?_lookmap
  intro view after hAfter
  rcases id_of_changed? hChange hAfter with ⟨hView, hId⟩
  simp [hView, hId, hOther]

/- The views with other identities stay as they are. -/
theorem others_modify
    (views : Views)
    (id : ViewId) :
    ((views.modify id change).items.filter fun view =>
        view.id ≠ id) =
      views.items.filter fun view => view.id ≠ id := by
  rw [modify_eq_lookmap]
  apply filter_lookmap
  intro view after hAfter
  rcases id_of_changed? hChange hAfter with ⟨hView, hId⟩
  simp [hView, hId]

theorem modify_remove
    (hOther : id ≠ other)
    (views : Views) :
    (views.remove other).2.modify id change =
      ((views.modify id change).remove other).2 := by
  rw [modify_eq_lookmap, modify_eq_lookmap]
  unfold remove
  dsimp only
  rw [lookmap_filter]
  intro view after hAfter
  rcases id_of_changed? hChange hAfter with ⟨hView, hId⟩
  simp [hView, hId, hOther]

/- Changes of two views can be made in either order. -/
theorem modify_comm
    (hAnother : ∀ view, (another view).id = view.id)
    (hOther : first ≠ second)
    (views : Views) :
    (views.modify first change).modify second another =
      (views.modify second another).modify first change := by
  simp only [modify_eq_lookmap]
  rw [lookmap_comm]
  · intro view after hAfter
    rcases id_of_changed? hChange hAfter with ⟨hView, hId⟩
    exact
      ⟨changed?_of_ne (hView ▸ hOther) _,
        changed?_of_ne (hId ▸ hOther) _⟩
  · intro view after hAfter
    rcases id_of_changed? hAnother hAfter with ⟨hView, hId⟩
    exact
      ⟨changed?_of_ne (hView ▸ hOther.symm) _,
        changed?_of_ne (hId ▸ hOther.symm) _⟩

end

theorem view?_remove_of_ne
    (hOther : id ≠ other)
    (views : Views) :
    (views.remove id).2.view? other = views.view? other := by
  unfold remove view?
  dsimp only
  rw [List.find?_filter]
  congr
  funext view
  by_cases hView : view.id = other
  · simp [hView, hOther.symm]
  · simp [hView]

theorem remove_comm
    (first second : ViewId)
    (views : Views) :
    ((views.remove first).2.remove second).2 =
      ((views.remove second).2.remove first).2 := by
  unfold remove
  dsimp only
  rw [List.filter_comm]

end Views

end BuildForm

------------------------------------------------------------
-- Carrying Out a Command
------------------------------------------------------------

namespace BuildForm

/-
  How a command to a view is carried out: what is answered if
  there is no such view, and what a view answers that is there
  and what it becomes, given the default credentials.
-/
structure View.Conduct
    (id : ViewId)
    (command : View.Command)
    (default : Option String) where
  refusal : View.Answer
  obey : View → View.Answer × View
  id_obey : ∀ view, (obey view).2.id = view.id
  carryOut_eq :
    ∀ views : Views,
      views.defaultCredentials = default →
      views.carryOut id command =
        ((views.view? id).elim refusal fun view =>
            (obey view).1,
          views.modify id fun view => (obey view).2)

namespace View

variable {id : ViewId}
variable {command : Command}
variable {default : Option String}

/- A command that is answered by a flag. -/
def Conduct.flagged
    (change : View → Bool × View)
    (hId : ∀ view, (change view).2.id = view.id)
    (hCarry :
      ∀ views : Views,
        views.defaultCredentials = default →
        views.carryOut id command = views.flagged id change) :
    Conduct id command default where
  refusal := .flag false
  obey := fun view =>
    (.flag (change view).1, (change view).2)
  id_obey := hId
  carryOut_eq := by
    intro views hDefault
    rw [hCarry views hDefault, Views.flagged_eq]

/- The default is selected if there is one. -/
def selectDefault
    (default : Option String)
    (view : View) : Bool × View :=
  match default with
  | none => (false, view)
  | some value =>
      let (found, credentials) := view.credentials.select value
      (found, { view with credentials })

theorem carryOut_applyDefault
    (id : ViewId)
    (views : Views) :
    views.carryOut id .applyDefault =
      views.flagged id
        (selectDefault views.defaultCredentials) := by
  unfold Views.carryOut Views.applyDefault
  rw [Views.flagged_eq]
  cases views.defaultCredentials with
  | none =>
      dsimp only [selectDefault]
      rw [Views.modify_same]
      cases views.view? id <;> rfl
  | some value =>
      dsimp only [selectDefault]
      rw [Views.amend_eq]
      cases hFound : views.view? id with
      | none =>
          rw [Views.modify_of_view?_eq_none hFound]
          rfl
      | some view => rfl

/- Every command but that to close is carried out in place. -/
def conduct
    (id : ViewId)
    (default : Option String) :
    (command : Command) →
      command ≠ .close → Conduct id command default
  | .close, hOpen => absurd rfl hOpen
  | .addBuilder fragment, _ =>
      { refusal := .builder none
        obey := fun view =>
          (.builder (some (view.pushBuilder fragment.html).1),
            (view.pushBuilder fragment.html).2)
        id_obey := fun _ => rfl
        carryOut_eq := fun views _ =>
          views.answered_amend (.builder none)
            (.builder ∘ some) id
            fun view => view.pushBuilder fragment.html }
  | .removeBuilder builder, _ =>
      .flagged (fun view => view.removeBuilder builder)
        (fun _ => rfl) fun _ _ => rfl
  | .selectCredentials value, _ =>
      .flagged
        (fun view =>
          let (found, credentials) :=
            view.credentials.select value
          (found, { view with credentials }))
        (fun _ => rfl) fun _ _ => rfl
  | .applyDefault, _ =>
      .flagged (selectDefault default)
        (by
          intro view
          cases default <;> rfl)
        (by
          rintro views rfl
          exact carryOut_applyDefault id views)
  | .addPath kind, _ =>
      { refusal := .added (.error (.unknownView id))
        obey := fun view =>
          (.added (view.addPath kind).1, (view.addPath kind).2)
        id_obey := fun view => (view.numbering_addPath kind).1
        carryOut_eq := fun views _ =>
          views.answered_amend
            (.added (.error (.unknownView id))) .added id
            fun view => view.addPath kind }
  | .press kind key deleteKey, _ =>
      .flagged
        (fun view =>
          let (acted, box) := (view.box kind).press key deleteKey
          (acted, view.setBox kind box))
        (fun view => (view.numbering_setBox kind _).1)
        fun _ _ => rfl
  | .setVersionFiles enabled, _ =>
      .flagged (fun view => (true, view.setVersionFiles enabled))
        (fun _ => rfl) fun _ _ => rfl
  | .setOtherConfig builder checked, _ =>
      .flagged
        (fun view =>
          match view.builder? builder with
          | some _ =>
              (true,
                view.mapBuilder builder
                  (·.setOtherConfig checked))
          | none => (false, view))
        (by
          intro view
          cases view.builder? builder <;> rfl)
        fun _ _ => rfl
  | .setInput name change, _ =>
      .flagged (fun view => view.setInput name change)
        (fun view => (view.numbering_mapField name _).1)
        fun _ _ => rfl
  | .setOverride builder change, _ =>
      .flagged (fun view => view.setOverride builder change)
        (fun _ => rfl) fun _ _ => rfl

/- Only the command to apply the default looks at it. -/
theorem conduct_eq
    (id : ViewId)
    (hOpen : command ≠ .close)
    (hApply : command ≠ .applyDefault)
    (default other : Option String) :
    (conduct id default command hOpen).refusal =
        (conduct id other command hOpen).refusal ∧
      (conduct id default command hOpen).obey =
        (conduct id other command hOpen).obey := by
  cases command with
  | close => exact absurd rfl hOpen
  | applyDefault => exact absurd rfl hApply
  | _ => exact ⟨rfl, rfl⟩

end View

end BuildForm

------------------------------------------------------------
-- Two Views
------------------------------------------------------------

namespace BuildForm

namespace Views

variable {views : Views}
variable {first second id other : ViewId}

/- A command closes its view, or changes it in its place. -/
theorem snd_carryOut
    (views : Views)
    (id : ViewId)
    (command : View.Command) :
    (views.carryOut id command).2 = (views.remove id).2 ∨
      ∃ change : View → View,
        (∀ view, (change view).id = view.id) ∧
          (views.carryOut id command).2 =
            views.modify id change := by
  by_cases hClose : command = .close
  · rw [hClose]
    exact .inl rfl
  · let conduct :=
      View.conduct id views.defaultCredentials command hClose
    rw [conduct.carryOut_eq views rfl]
    exact .inr ⟨_, conduct.id_obey, rfl⟩

/- Nothing but the views themselves changes. -/
theorem carryOut_rest
    (views : Views)
    (id : ViewId)
    (command : View.Command) :
    (views.carryOut id command).2 =
      { views with
        items := (views.carryOut id command).2.items } := by
  rcases views.snd_carryOut id command with
    hGone | ⟨change, _, hChanged⟩
  · rw [hGone]
    rfl
  · rw [hChanged, modify_eq_lookmap]

/- The views with other identities stay as they are. -/
theorem others_carryOut
    (views : Views)
    (id : ViewId)
    (command : View.Command) :
    ((views.carryOut id command).2.items.filter fun view =>
        view.id ≠ id) =
      views.items.filter fun view => view.id ≠ id := by
  rcases views.snd_carryOut id command with
    hGone | ⟨change, hChange, hChanged⟩
  · rw [hGone]
    change List.filter _ (List.filter _ views.items) = _
    rw [List.filter_filter]
    simp
  · rw [hChanged]
    exact others_modify hChange views id

theorem view?_carryOut_of_ne
    (hOther : id ≠ other)
    (views : Views)
    (command : View.Command) :
    (views.carryOut id command).2.view? other =
      views.view? other := by
  rcases views.snd_carryOut id command with
    hGone | ⟨change, hChange, hChanged⟩
  · rw [hGone]
    exact view?_remove_of_ne hOther views
  · rw [hChanged]
    exact view?_modify_of_ne hChange hOther views

theorem defaultCredentials_carryOut
    (views : Views)
    (id : ViewId)
    (command : View.Command) :
    (views.carryOut id command).2.defaultCredentials =
      views.defaultCredentials := by
  rw [carryOut_rest]

theorem snd_carryOut_comm_of_open
    (hOther : first ≠ second)
    (views : Views)
    (one : View.Command)
    {another : View.Command}
    (hOpen : another ≠ .close) :
    ((views.carryOut first one).2.carryOut second another).2 =
      ((views.carryOut second another).2.carryOut first
        one).2 := by
  let later :=
    View.conduct second views.defaultCredentials another hOpen
  rw [later.carryOut_eq _
      (views.defaultCredentials_carryOut first one),
    later.carryOut_eq views rfl]
  dsimp only
  by_cases hClose : one = .close
  · rw [hClose]
    exact modify_remove later.id_obey hOther.symm views
  · let sooner :=
      View.conduct first views.defaultCredentials one hClose
    rw [sooner.carryOut_eq views rfl,
      sooner.carryOut_eq _ (by rw [modify_eq_lookmap])]
    exact
      modify_comm sooner.id_obey later.id_obey hOther views

/-
  What was done to one view is not seen by a command to
  another one, and the two can be carried out in either order.
-/
theorem carryOut_comm
    (hOther : first ≠ second)
    (views : Views)
    (one another : View.Command) :
    (views.carryOut first one).2.carryOut second another =
      ((views.carryOut second another).1,
        ((views.carryOut second another).2.carryOut first
          one).2) := by
  -- Closing is the one command that is not done in place, and
  -- all that it answers is whether the view is found.
  have hSeen := view?_carryOut_of_ne hOther views one
  by_cases hClose : another = .close
  · rw [hClose]
    have hFlag :
        ((views.carryOut first one).2.carryOut second .close).1 =
          (views.carryOut second .close).1 := by
      change
        View.Answer.flag
            ((views.carryOut first one).2.remove second).1 =
          .flag (views.remove second).1
      rw [remove_eq, remove_eq, hSeen]
    refine Prod.ext hFlag ?_
    by_cases hBoth : one = .close
    · rw [hBoth]
      exact remove_comm first second views
    · exact
        (snd_carryOut_comm_of_open hOther.symm views .close
          hBoth).symm
  · refine Prod.ext ?_
      (snd_carryOut_comm_of_open hOther views one hClose)
    let conduct :=
      View.conduct second views.defaultCredentials another hClose
    rw [conduct.carryOut_eq _
        (views.defaultCredentials_carryOut first one),
      conduct.carryOut_eq views rfl, hSeen]

end Views

end BuildForm

------------------------------------------------------------
-- New Views and Their Credentials
------------------------------------------------------------

namespace BuildForm

namespace Views

variable {views : Views}

/- No view has the ordinal that is given out next. -/
def NextIsFree (views : Views) : Prop :=
  ∀ view ∈ views.items, view.id ≠ ⟨views.nextOrdinal⟩

theorem nextIsFree_of_sound
    (hSound : views.numbering.Sound) :
    views.NextIsFree := by
  intro view hView hId
  have hOrdinal :
      view.id.ordinal ∈ views.numbering.ordinals :=
    List.mem_map_of_mem hView
  have hBelow := hSound.below view.id.ordinal hOrdinal
  rw [hId] at hBelow
  exact UInt32.lt_irrefl _ hBelow

/- A fresh view as it is appended, with the default selected. -/
def started
    (views : Views)
    (fragment : ViewFragment)
    (scm : Scm) : View :=
  { views.fresh fragment scm with
    credentials :=
      match views.defaultCredentials with
      | none => .ofOptions fragment.credentials
      | some value =>
          ((Credentials.ofOptions fragment.credentials).select
            value).2 }

/- It shows the default if that is among what it offers. -/
theorem value?_started
    (views : Views)
    (fragment : ViewFragment)
    (scm : Scm) :
    (views.started fragment scm).credentials.value? =
      Credentials.chosen fragment.credentials
        views.defaultCredentials :=
  Credentials.value?_ofStored fragment.credentials
    views.defaultCredentials

/-
  A fresh view is appended, and all others stay as they are
  unless one of them has its identity.
-/
theorem insert_of_free
    (hFree : views.NextIsFree)
    (fragment : ViewFragment)
    (scm : Scm) :
    views.insert fragment scm =
      (⟨views.nextOrdinal⟩,
        { views with
          items := views.items ++ [views.started fragment scm]
          nextOrdinal := views.nextOrdinal + 1 }) := by
  -- The default is selected by way of the identity, which is
  -- why no other view may have it.
  unfold insert applyDefault
  dsimp only
  cases hDefault : views.defaultCredentials with
  | none =>
      dsimp only
      unfold started
      rw [hDefault]
      rfl
  | some value =>
      dsimp only
      unfold amend
      rw [amendItems_append hFree rfl]
      unfold started
      rw [hDefault]
      rfl

end Views

end BuildForm

------------------------------------------------------------
-- Views That Can Be Reached
------------------------------------------------------------

namespace BuildForm

namespace Views

/- An operation for which there are ordinals left. -/
def Operation.HasRoom (views : Views) : Operation → Prop
  | .load loaded => loaded.views.length < 2 ^ 32
  | .insert _ _ => views.nextOrdinal.toNat + 1 < 2 ^ 32
  | _ => True

/-
  Views that come from none by operations on them, without
  the counter of the views having wrapped around.
-/
inductive Reachable : Views → Prop where
  | none : Reachable {}
  | reset {views : Views} :
      Reachable views → Reachable views.reset
  | step {views : Views} (operation : Operation) :
      Reachable views →
      operation.HasRoom views →
      Reachable (views.perform operation)

variable {views : Views}

/- Remembering credentials changes the default and no view. -/
theorem rememberCredentials_rest
    (views : Views)
    (id : ViewId) :
    let remembered := (views.rememberCredentials id).2
    let chosen := remembered.defaultCredentials
    remembered = { views with defaultCredentials := chosen } := by
  unfold rememberCredentials
  split
  · rfl
  · rfl

theorem sound_carryOut
    (hSound : views.numbering.Sound)
    (id : ViewId)
    (command : View.Command) :
    (views.carryOut id command).2.numbering.Sound := by
  rcases views.snd_carryOut id command with
    hGone | ⟨change, hChange, hChanged⟩
  · rw [hGone]
    exact
      (step_remove views id).sound views.nextOrdinal.toNat_lt
        hSound
  · rw [hChanged, numbering_modify hChange]
    exact hSound

theorem sound_perform
    (hSound : views.numbering.Sound)
    {operation : Operation}
    (hRoom : operation.HasRoom views) :
    (views.perform operation).numbering.Sound := by
  cases operation with
  | load loaded =>
      rcases views.numbering_load loaded with hSame | hFresh
      · exact hSame ▸ hSound
      · exact hFresh ▸ Numbering.sound_ofCount hRoom
  | insert fragment scm =>
      exact (views.step_insert fragment scm).sound hRoom hSound
  | remove id => exact sound_carryOut hSound id .close
  | addBuilder id fragment =>
      have hAdded :=
        sound_carryOut hSound id (.addBuilder fragment)
      unfold carryOut answered at hAdded
      unfold perform
      dsimp only at hAdded ⊢
      split at hAdded
      · rename_i hSome
        rw [hSome]
        exact hAdded
      · rename_i hNone
        rw [hNone]
        exact hAdded
  | removeBuilder id builder =>
      exact sound_carryOut hSound id (.removeBuilder builder)
  | edit id edit =>
      have hSame :=
        numbering_modify
          (fun view => (view.numbering_applyEdit edit).1) views id
      exact hSame ▸ hSound
  | applyDefault id =>
      exact sound_carryOut hSound id .applyDefault
  | rememberCredentials id =>
      have hSame := views.rememberCredentials_rest id
      change (views.rememberCredentials id).2.numbering.Sound
      rw [hSame]
      exact hSound
  | setDefault _ => exact hSound
  | loadDeleted _ _ => exact hSound

/- Views that can be reached keep apart, by their ordinals. -/
theorem Reachable.sound (hReach : Reachable views) :
    views.numbering.Sound := by
  induction hReach with
  | none => exact Numbering.sound_empty
  | reset => exact Numbering.sound_empty
  | step _ _ hRoom ih => exact sound_perform ih hRoom

end Views

end BuildForm

------------------------------------------------------------
-- Independence
------------------------------------------------------------

namespace BuildForm

namespace Views

variable {views : Views}
variable {first second : ViewId}

/- Another default changes nothing for the other commands. -/
theorem carryOut_withDefault
    (views : Views)
    (id : ViewId)
    {command : View.Command}
    (hApply : command ≠ .applyDefault)
    (defaultCredentials : Option String) :
    { views with defaultCredentials }.carryOut id command =
      ((views.carryOut id command).1,
        { (views.carryOut id command).2 with
          defaultCredentials }) := by
  by_cases hClose : command = .close
  · rw [hClose]
    rfl
  · have hConduct :=
      View.conduct_eq id hClose hApply defaultCredentials
        views.defaultCredentials
    rw [(View.conduct id _ command hClose).carryOut_eq _ rfl,
      (View.conduct id _ command hClose).carryOut_eq views rfl,
      hConduct.1, hConduct.2, modify_eq_lookmap,
      modify_eq_lookmap]
    rfl

/-
  What is asked of two views is answered alike and comes to
  the same in either order, and leaves all others as they are.
  A view that is inserted, and credentials that are made the
  default, leave every view as it is. The default shows in
  views that are inserted later; of the commands, only that
  to apply it takes notice of it.
-/
theorem views_are_independent
    (hReach : Reachable views)
    (hOther : first ≠ second)
    (one another : View.Command) :
    let sooner := views.carryOut first one
    let later := views.carryOut second another
    (sooner.2.carryOut second another =
        (later.1, (later.2.carryOut first one).2) ∧
      later.2.carryOut first one =
        (sooner.1, (sooner.2.carryOut second another).2)) ∧
    (sooner.2 = { views with items := sooner.2.items } ∧
      (sooner.2.items.filter fun view => view.id ≠ first) =
        views.items.filter fun view => view.id ≠ first) ∧
    (∀ fragment scm,
      let inserted := views.insert fragment scm
      ∃ view,
        view.id = inserted.1 ∧
        view.credentials.value? =
          Credentials.chosen fragment.credentials
            views.defaultCredentials ∧
        inserted.2 =
          { views with
            items := views.items ++ [view]
            nextOrdinal := views.nextOrdinal + 1 }) ∧
    (∀ id,
      let remembered := (views.rememberCredentials id).2
      let chosen := remembered.defaultCredentials
      remembered = { views with defaultCredentials := chosen }) ∧
    (one ≠ .applyDefault →
      ∀ defaultCredentials,
        { views with defaultCredentials }.carryOut first one =
          (sooner.1, { sooner.2 with defaultCredentials })) := by
  dsimp only
  refine ⟨⟨carryOut_comm hOther views one another,
    carryOut_comm hOther.symm views another one⟩,
    ⟨carryOut_rest views first one,
      others_carryOut views first one⟩, ?_,
    rememberCredentials_rest views,
    carryOut_withDefault views first⟩
  intro fragment scm
  have hFree := nextIsFree_of_sound hReach.sound
  rw [insert_of_free hFree fragment scm]
  exact ⟨views.started fragment scm, rfl,
    views.value?_started fragment scm, rfl⟩

/- Credentials of one view, and the branch of another one. -/
theorem views_are_independent_of_two :
    let fragment : ViewFragment :=
      { credentials := ["none", "key"] }
    let views : Views :=
      ((insert {} fragment .git).2.insert fragment .git).2
    let one : View.Command := .selectCredentials "key"
    let another : View.Command :=
      .setInput .branchName fun field =>
        (true, field.setValue "main")
    let both :=
      ((views.carryOut ⟨0⟩ one).2.carryOut ⟨1⟩ another).2
    views.Reachable ∧
      (⟨0⟩ : ViewId) ≠ ⟨1⟩ ∧
      both =
        ((views.carryOut ⟨1⟩ another).2.carryOut ⟨0⟩
          one).2 ∧
      both.items.map (fun view =>
          (view.credentials.value?, view.branchName.value)) =
        [(some "key", ""), (some "none", "main")] := by
  intro fragment views one another both
  have hReach : views.Reachable :=
    .step (.insert fragment .git)
      (.step (.insert fragment .git) .none
        (show (0 : UInt32).toNat + 1 < 2 ^ 32 by decide))
      (show (1 : UInt32).toNat + 1 < 2 ^ 32 by decide)
  have hOther : (⟨0⟩ : ViewId) ≠ ⟨1⟩ := by decide
  have hEither :=
    views_are_independent hReach hOther one another
  refine ⟨hReach, hOther, ?_, by decide +kernel⟩
  exact congrArg Prod.snd hEither.1.1

end Views

end BuildForm
