import BuildForm.Proofs.Form.Numbering
import BuildForm.Proofs.Form.Operations
import BuildForm.Proofs.Form.Typed

/-
  What an operation makes of identities.

  An identity is known to be used up by a counter that has
  passed it, also after what had it is gone. An operation on
  the views of a form or on its rows of users puts what it
  hands out in one place, removes what it closes, and leaves
  all else as it was and in its order.

  Main declarations:
    * `Form.Sound`
    * `Form.HasPassed`
    * `Identity.Advance`
    * `Views.advances_amend`
    * `Views.advances_load`
    * `Views.advances_perform`
    * `Users.advances_perform`
-/

------------------------------------------------------------
-- Identities that Are Used Up
------------------------------------------------------------

namespace BuildForm

/- The ordinals of views, and of the builders of each. -/
structure Views.Sound (views : Views) : Prop where
  numbering : views.numbering.Sound
  builders : ∀ view ∈ views.items, view.numbering.Sound

/- The ordinals on a form are ascending, below their counters. -/
structure Form.Sound (form : Form) : Prop where
  views : form.views.Sound
  users : form.users.numbering.Sound

/- A counter of the views has passed an identity. -/
def Views.HasPassed (views : Views) : Identity → Prop
  | .view id => id.ordinal < views.nextOrdinal
  | .builder id builder =>
      id.ordinal < views.nextOrdinal ∧
        ∀ view ∈ views.items,
          view.id = id → builder.ordinal < view.nextBuilder
  | .row _ => True

def Users.HasPassed (users : Users) : Identity → Prop
  | .row id => id < users.nextRow
  | _ => True

/- The counter of its kind has passed an identity. -/
def Form.HasPassed (form : Form) (identity : Identity) : Prop :=
  form.views.HasPassed identity ∧ form.users.HasPassed identity

theorem Views.Sound.hasPassed
    {views : Views}
    (hSound : views.Sound)
    {identity : Identity}
    (hPresent : identity ∈ views.identities) :
    views.HasPassed identity := by
  rcases List.mem_flatMap.mp hPresent with
    ⟨view, hView, hIdentity⟩
  have hOrdinal : view.id.ordinal < views.nextOrdinal :=
    hSound.numbering.below _ (List.mem_map_of_mem hView)
  rcases List.mem_cons.mp hIdentity with rfl | hBuilder
  · exact hOrdinal
  · rcases List.mem_map.mp hBuilder with ⟨builder, hMember, rfl⟩
    refine ⟨hOrdinal, ?_⟩
    intro other hOther hId
    -- No two views have the same ordinal.
    have hSame : other = view :=
      List.inj_on_of_nodup_map hSound.numbering.nodup hOther
        hView (congrArg ViewId.ordinal hId)
    rw [hSame]
    exact (hSound.builders view hView).below _
      (List.mem_map_of_mem hMember)

theorem Users.hasPassed
    {users : Users}
    (hSound : users.numbering.Sound)
    {identity : Identity}
    (hPresent : identity ∈ users.identities) :
    users.HasPassed identity := by
  rcases List.mem_map.mp hPresent with ⟨row, hRow, rfl⟩
  exact hSound.below _ (List.mem_map_of_mem hRow)

theorem Views.not_row_mem_identities
    (views : Views)
    (id : UInt32) :
    Identity.row id ∉ views.identities := by
  simp [Views.identities, View.identities]

theorem Users.exists_row_of_mem
    {users : Users}
    {identity : Identity}
    (hPresent : identity ∈ users.identities) :
    ∃ id, identity = .row id := by
  rcases List.mem_map.mp hPresent with ⟨row, _, rfl⟩
  exact ⟨row.id, rfl⟩

/- What is on a form has been given out. -/
theorem Form.Sound.hasPassed
    {form : Form}
    (hSound : form.Sound)
    {identity : Identity}
    (hPresent : identity ∈ form.identities) :
    form.HasPassed identity := by
  rcases List.mem_append.mp hPresent with hView | hRow
  · refine ⟨hSound.views.hasPassed hView, ?_⟩
    cases identity with
    | row id =>
        exact absurd hView
          (form.views.not_row_mem_identities id)
    | view | builder => trivial
  · refine ⟨?_, Users.hasPassed hSound.users hRow⟩
    rcases Users.exists_row_of_mem hRow with ⟨id, rfl⟩
    trivial

/-
  What an operation makes of identities: it puts those that it
  gives out in one place, takes away those that it closes, and
  leaves the others as they are. No identity that it gives out
  was given out before.
-/
structure Identity.Advance
    (closes : Identity → Bool)
    (given : List Identity)
    (before after : List Identity)
    (passed passes : Identity → Prop) : Prop where
  inserted :
    ∃ front back,
      after = front ++ given ++ back ∧
        front ++ back =
          before.filter fun identity => !closes identity
  fresh : ∀ identity ∈ given, ¬passed identity
  passed : ∀ identity, passed identity → passes identity

end BuildForm

------------------------------------------------------------
-- One Operation on the Views
------------------------------------------------------------

namespace BuildForm

namespace View

theorem identities_eq (view : View) :
    view.identities =
      .view view.id ::
        view.numbering.ordinals.map fun ordinal =>
          Identity.builder view.id ⟨ordinal⟩ := by
  simp [identities, numbering]

theorem owner?_of_mem_identities
    {view : View}
    {identity : Identity}
    (hIdentity : identity ∈ view.identities) :
    identity.owner? = some view.id := by
  rcases List.mem_cons.mp hIdentity with rfl | hBuilder
  · rfl
  · rcases List.mem_map.mp hBuilder with ⟨_, _, rfl⟩
    rfl

theorem count_view_identities (view : View) :
    Identity.count .view view.identities = 1 := by
  simp [Identity.count, identities, Identity.kind]

theorem count_builder_identities (view : View) :
    Identity.count .builder view.identities =
      view.builders.length := by
  simp [Identity.count, identities, Identity.kind,
    List.countP_map, Function.comp_def]

theorem numbering_applyEdit (view : View) (edit : View.Edit) :
    (view.applyEdit edit).id = view.id ∧
      (view.applyEdit edit).numbering = view.numbering := by
  cases edit with
  | input name change => exact view.numbering_mapField name change
  | addPath kind => exact view.numbering_addPath kind
  | box kind change =>
      exact view.numbering_setBox kind (change (view.box kind))
  | override builder checked =>
      exact ⟨rfl, view.numbering_mapBuilder builder fun _ => rfl⟩
  | overrideText builder change =>
      exact ⟨rfl, view.numbering_mapBuilder builder fun _ => rfl⟩
  | revalidate => exact ⟨rfl, view.numbering_revalidate⟩
  | credentials | versionFiles => exact ⟨rfl, rfl⟩

end View

/- Closing a view takes all its identities, or none. -/
theorem View.filter_closes_remove (view : View) (id : ViewId) :
    (view.identities.filter fun identity =>
        !(Views.Operation.remove id).closes identity) =
      if view.id = id then [] else view.identities := by
  by_cases hId : view.id = id
  · simp [View.identities, Views.Operation.closes, hId,
      List.filter_map, Function.comp_def]
  · simp [View.identities, Views.Operation.closes, hId,
      List.filter_map, Function.comp_def]

namespace Views

/- The identities are read off the numbers of the views. -/
theorem identities_eq (views : Views) :
    views.identities =
      (views.items.map fun view =>
        (view.id, view.numbering)).flatMap
          fun (id, numbering) =>
            .view id ::
              numbering.ordinals.map fun ordinal =>
                Identity.builder id ⟨ordinal⟩ := by
  rw [identities, List.flatMap_map]
  congr 1
  funext view
  exact view.identities_eq

/- No counter of the views is above what was given out. -/
structure Within
    (views : Views)
    (used : Identity.Kind → Nat) : Prop where
  ordinals : views.nextOrdinal.toNat ≤ used .view
  builders :
    ∀ view ∈ views.items, view.nextBuilder.toNat ≤ used .builder

/- An operation on the views, given what was used before it. -/
structure Advances
    (closes : Identity → Bool)
    (given : List Identity)
    (used : Identity.Kind → Nat)
    (views after : Views) : Prop where
  sound : after.Sound
  within :
    after.Within fun kind =>
      used kind + Identity.count kind given
  advance :
    Identity.Advance closes given views.identities
      after.identities views.HasPassed after.HasPassed

variable {views after : Views}
variable {used : Identity.Kind → Nat}

/- What changes no item and no counter, and closes nothing. -/
theorem advances_of_same
    {closes : Identity → Bool}
    (hSound : views.Sound)
    (hWithin : views.Within used)
    (hItems : after.items = views.items)
    (hNext : after.nextOrdinal = views.nextOrdinal)
    (hCloses :
      ∀ identity ∈ views.identities, closes identity = false) :
    Advances closes [] used views after := by
  have hPassed : after.HasPassed = views.HasPassed := by
    funext identity
    cases identity with
    | _ => simp only [HasPassed, hItems, hNext]
  refine ⟨⟨?_, ?_⟩, ⟨?_, ?_⟩, ⟨?_, ?_, ?_⟩⟩
  · unfold numbering
    rw [hItems, hNext]
    exact hSound.numbering
  · rw [hItems]
    exact hSound.builders
  · rw [hNext]
    exact hWithin.ordinals
  · rw [hItems]
    exact hWithin.builders
  · refine ⟨views.identities, [], ?_, ?_⟩
    · simp [identities, hItems]
    · rw [List.append_nil, eq_comm, List.filter_eq_self]
      intro identity hIdentity
      rw [hCloses identity hIdentity]
      rfl
  · simp
  · rw [hPassed]
    exact fun _ hIdentity => hIdentity

/-
  A view that is appended has no builders yet. Selecting
  credentials in it leaves the numbers of all views alone.
-/
theorem mem_insert
    {view : View}
    {fragment : ViewFragment}
    {scm : Scm}
    (hView : view ∈ (views.insert fragment scm).2.items) :
    (∃ old ∈ views.items,
      old.id = view.id ∧ old.numbering = view.numbering) ∨
      view.id = ⟨views.nextOrdinal⟩ ∧
        view.numbering = ⟨[], 0⟩ := by
  have hRead :
      (view.id, view.numbering) ∈
        (views.insert fragment scm).2.items.map
          fun view => (view.id, view.numbering) :=
    List.mem_map_of_mem hView
  rw [map_insert (fun view => (view.id, view.numbering))
      (fun _ _ => rfl) views fragment scm,
    List.mem_append, List.mem_map] at hRead
  rcases hRead with ⟨old, hOld, hSame⟩ | hNew
  · rw [Prod.mk.injEq] at hSame
    exact Or.inl ⟨old, hOld, hSame⟩
  · rw [List.mem_singleton, Prod.mk.injEq] at hNew
    exact Or.inr hNew

theorem identities_insert
    (views : Views)
    (fragment : ViewFragment)
    (scm : Scm) :
    (views.insert fragment scm).2.identities =
      views.identities ++ [.view ⟨views.nextOrdinal⟩] := by
  rw [identities_eq,
    map_insert (fun view => (view.id, view.numbering))
      (fun _ _ => rfl) views fragment scm,
    List.flatMap_append, ← identities_eq]
  rfl

/- What has been passed stays so when a view is appended. -/
theorem hasPassed_insert
    {fragment : ViewFragment}
    {scm : Scm}
    (hNext :
      views.nextOrdinal ≤
        (views.insert fragment scm).2.nextOrdinal)
    {identity : Identity}
    (hPassed : views.HasPassed identity) :
    (views.insert fragment scm).2.HasPassed identity := by
  cases identity with
  | view id => exact UInt32.lt_of_lt_of_le hPassed hNext
  | row id => trivial
  | builder id builder =>
      refine ⟨UInt32.lt_of_lt_of_le hPassed.1 hNext, ?_⟩
      intro view hView hId
      rcases mem_insert hView with
        ⟨old, hOld, hSame, hNumbers⟩ | ⟨hNew, _⟩
      · have hCounter : old.nextBuilder = view.nextBuilder :=
          congrArg Numbering.next hNumbers
        rw [← hCounter]
        exact hPassed.2 old hOld (hSame.trans hId)
      · have hBelow := hPassed.1
        rw [← hId, hNew] at hBelow
        exact absurd hBelow (UInt32.lt_irrefl _)

/- A view that is appended takes the next ordinal. -/
theorem advances_insert
    (hSound : views.Sound)
    (hWithin : views.Within used)
    (hRoom : used .view + 1 < 2 ^ 32)
    (fragment : ViewFragment)
    (scm : Scm) :
    Advances (fun _ => false) [.view ⟨views.nextOrdinal⟩] used
      views (views.insert fragment scm).2 := by
  have hBound := hWithin.ordinals
  have hCounter :
      views.numbering.next.toNat + [views.nextOrdinal].length <
        2 ^ 32 := by
    simp only [numbering, List.length_singleton]
    omega
  have hStep := views.step_insert fragment scm
  have hNext := hStep.toNat_next hCounter
  refine ⟨⟨?_, ?_⟩, ⟨?_, ?_⟩, ⟨?_, ?_, ?_⟩⟩
  · exact hStep.sound hCounter hSound.numbering
  · intro view hView
    rcases mem_insert hView with
      ⟨old, hOld, _, hSame⟩ | ⟨_, hBlank⟩
    · rw [← hSame]
      exact hSound.builders old hOld
    · rw [hBlank]
      exact Numbering.sound_empty
  · simp only [numbering, List.length_singleton] at hNext
    rw [hNext]
    simp [Identity.count, Identity.kind]
    omega
  · intro view hView
    rcases mem_insert hView with
      ⟨old, hOld, _, hSame⟩ | ⟨_, hBlank⟩
    · have hBuilder : old.nextBuilder = view.nextBuilder :=
        congrArg Numbering.next hSame
      rw [← hBuilder]
      exact Nat.le_add_right_of_le (hWithin.builders old hOld)
    · have hZero : view.nextBuilder = 0 :=
        congrArg Numbering.next hBlank
      rw [hZero]
      exact Nat.zero_le _
  · refine ⟨views.identities, [], ?_, by simp⟩
    rw [identities_insert, List.append_nil]
  · intro identity hGiven hPassed
    rw [List.mem_singleton.mp hGiven] at hPassed
    exact UInt32.lt_irrefl _ hPassed
  · exact fun _ => hasPassed_insert (hStep.le_next hCounter)

/- A view that is closed takes its identities with it. -/
theorem advances_remove
    (hSound : views.Sound)
    (hWithin : views.Within used)
    (id : ViewId) :
    Advances (Operation.remove id).closes [] used views
      (views.remove id).2 := by
  have hMember :
      ∀ view ∈ (views.remove id).2.items, view ∈ views.items :=
    fun view hView => (List.mem_filter.mp hView).1
  have hCounter :
      views.numbering.next.toNat + ([] : List UInt32).length <
        2 ^ 32 :=
    views.nextOrdinal.toNat_lt
  have hNumbered :=
    (views.step_remove id).sound hCounter hSound.numbering
  refine ⟨⟨hNumbered, ?_⟩, ⟨hWithin.ordinals, ?_⟩, ⟨?_, ?_, ?_⟩⟩
  · exact fun view hView =>
      hSound.builders view (hMember view hView)
  · exact fun view hView =>
      hWithin.builders view (hMember view hView)
  · refine ⟨(views.remove id).2.identities, [], by simp, ?_⟩
    rw [List.append_nil]
    unfold identities remove
    dsimp only
    induction views.items with
    | nil => rfl
    | cons view rest ih =>
        rw [List.flatMap_cons, List.filter_append, ← ih,
          view.filter_closes_remove]
        by_cases hId : view.id = id
        · simp [hId]
        · simp [hId]
  · simp
  · intro identity hPassed
    cases identity with
    | view id => exact hPassed
    | row id => trivial
    | builder view builder =>
        exact ⟨hPassed.1, fun other hOther =>
          hPassed.2 other (hMember other hOther)⟩

/-
  A change of one view among the others, which closes some of
  its builders and gives out new ones.
-/
structure Amends
    (closes : Identity → Bool)
    (closed : UInt32 → Bool)
    (given : List UInt32)
    (front back : List View)
    (view changed : View)
    (views after : Views) : Prop where
  split : views.items = front ++ view :: back
  after : after = { views with items := front ++ changed :: back }
  id : changed.id = view.id
  step :
    Numbering.Step closed given view.numbering changed.numbering
  closes :
    ∀ identity, closes identity ↔
      ∃ ordinal, identity = .builder view.id ⟨ordinal⟩ ∧
        closed ordinal

section
variable {closes : Identity → Bool}
variable {closed : UInt32 → Bool}
variable {given : List UInt32}
variable {front back : List View}
variable {view changed : View}

namespace Amends

variable
  (hAmends :
    Amends closes closed given front back view changed views
      after)
include hAmends

theorem view_mem : view ∈ views.items := by
  rw [hAmends.split]
  simp

theorem mem_after
    {other : View}
    (hOther : other ∈ after.items) :
    other ∈ views.items ∨ other = changed := by
  rw [hAmends.after, List.mem_append, List.mem_cons] at hOther
  rw [hAmends.split, List.mem_append, List.mem_cons]
  tauto

theorem nextOrdinal_eq : after.nextOrdinal = views.nextOrdinal := by
  rw [hAmends.after]

theorem numbering_eq : after.numbering = views.numbering := by
  simp [numbering, hAmends.after, hAmends.split, hAmends.id]

/- No other view has the ordinal of the one that changes. -/
theorem id_ne
    (hSound : views.Sound)
    {other : View}
    (hOther : other ∈ front ++ back) :
    other.id ≠ view.id := by
  have hNodup := hSound.numbering.nodup
  rw [numbering, hAmends.split, List.map_append, List.map_cons,
    List.nodup_middle, List.nodup_cons, ← List.map_append]
    at hNodup
  intro hSame
  exact hNodup.1
    (List.mem_map.mpr
      ⟨other, hOther, congrArg ViewId.ordinal hSame⟩)

/- So none of the others has a builder that is closed. -/
theorem filter_others
    (hSound : views.Sound)
    {others : List View}
    (hOthers : others ⊆ front ++ back) :
    ((others.flatMap View.identities).filter fun identity =>
        !closes identity) =
      others.flatMap View.identities := by
  rw [List.filter_eq_self]
  intro identity hIdentity
  rcases List.mem_flatMap.mp hIdentity with
    ⟨other, hOther, hMember⟩
  rw [Bool.not_eq_true', Bool.eq_false_iff]
  intro hClosed
  rcases (hAmends.closes identity).mp hClosed with ⟨_, rfl, _⟩
  have hOwner := View.owner?_of_mem_identities hMember
  rw [Identity.owner?, Option.some.injEq] at hOwner
  exact hAmends.id_ne hSound (hOthers hOther) hOwner.symm

/- Of the view itself those that stay come before the new. -/
theorem identities_changed :
    changed.identities =
      (view.identities.filter fun identity =>
        !closes identity) ++
        given.map fun ordinal => .builder view.id ⟨ordinal⟩ := by
  have hSection : closes (.view view.id) = false := by
    rw [Bool.eq_false_iff]
    intro hClosed
    rcases (hAmends.closes _).mp hClosed with ⟨_, hSame, _⟩
    cases hSame
  have hBuilder (ordinal : UInt32) :
      closes (.builder view.id ⟨ordinal⟩) = closed ordinal := by
    rw [Bool.eq_iff_iff, hAmends.closes]
    simp
  rw [changed.identities_eq, view.identities_eq,
    List.filter_cons, hSection, hAmends.id,
    hAmends.step.ordinals]
  simp [List.filter_map, Function.comp_def, hBuilder]

theorem inserted
    (hSound : views.Sound) :
    ∃ first last,
      after.identities =
          first ++
              (given.map fun ordinal =>
                Identity.builder view.id ⟨ordinal⟩) ++
            last ∧
        first ++ last =
          views.identities.filter fun identity =>
            !closes identity := by
  refine
    ⟨front.flatMap View.identities ++
        view.identities.filter fun identity =>
          !closes identity,
      back.flatMap View.identities, ?_, ?_⟩
  · rw [identities, hAmends.after]
    simp [hAmends.identities_changed]
  · rw [identities, hAmends.split, List.flatMap_append,
      List.flatMap_cons, List.filter_append, List.filter_append,
      hAmends.filter_others hSound
        (List.subset_append_left front back),
      hAmends.filter_others hSound
        (List.subset_append_right front back),
      List.append_assoc]

/- The counter of the builders of the view only grows. -/
theorem hasPassed
    (hNext : view.nextBuilder ≤ changed.nextBuilder)
    {identity : Identity}
    (hPassed : views.HasPassed identity) :
    after.HasPassed identity := by
  cases identity with
  | view id =>
      change id.ordinal < after.nextOrdinal
      rw [hAmends.nextOrdinal_eq]
      exact hPassed
  | row id => trivial
  | builder id builder =>
      refine ⟨?_, ?_⟩
      · rw [hAmends.nextOrdinal_eq]
        exact hPassed.1
      · intro other hOther hSame
        rcases hAmends.mem_after hOther with hOld | rfl
        · exact hPassed.2 other hOld hSame
        · have hBelow :=
            hPassed.2 view hAmends.view_mem
              (hAmends.id.symm.trans hSame)
          exact UInt32.lt_of_lt_of_le hBelow hNext

end Amends

theorem count_builder_map (id : ViewId) (given : List UInt32) :
    Identity.count .builder
        (given.map fun ordinal =>
          Identity.builder id ⟨ordinal⟩) =
      given.length := by
  simp [Identity.count, Identity.kind, Function.comp_def,
    List.countP_map]

/- A change of one view closes and gives out its builders. -/
theorem advances_amend
    (hSound : views.Sound)
    (hWithin : views.Within used)
    (hAmends :
      Amends closes closed given front back view changed views
        after)
    (hRoom : used .builder + given.length < 2 ^ 32) :
    Advances closes
      (given.map fun ordinal => .builder view.id ⟨ordinal⟩)
      used views after := by
  have hView := hAmends.view_mem
  have hBound := hWithin.builders view hView
  have hStep := hAmends.step
  have hCounter :
      view.numbering.next.toNat + given.length < 2 ^ 32 :=
    Nat.lt_of_le_of_lt (Nat.add_le_add_right hBound _) hRoom
  refine
    ⟨⟨?_, ?_⟩, ⟨?_, ?_⟩, ⟨hAmends.inserted hSound, ?_, ?_⟩⟩
  · rw [hAmends.numbering_eq]
    exact hSound.numbering
  · intro other hOther
    rcases hAmends.mem_after hOther with hOld | rfl
    · exact hSound.builders other hOld
    · exact hStep.sound hCounter (hSound.builders view hView)
  · rw [hAmends.nextOrdinal_eq]
    exact Nat.le_add_right_of_le hWithin.ordinals
  · intro other hOther
    rcases hAmends.mem_after hOther with hOld | rfl
    · exact Nat.le_add_right_of_le
        (hWithin.builders other hOld)
    · have hNext := hStep.toNat_next hCounter
      simp only [View.numbering] at hNext
      rw [hNext, count_builder_map]
      omega
  · intro identity hGiven hPassed
    rcases List.mem_map.mp hGiven with ⟨ordinal, hMember, rfl⟩
    have hBelow := hPassed.2 view hView rfl
    have hAbove := (hStep.bounds_given hCounter hMember).1
    exact UInt32.lt_irrefl _
      (UInt32.lt_of_lt_of_le hBelow hAbove)
  · exact fun _ => hAmends.hasPassed (hStep.le_next hCounter)

end

/- A change that leaves the numbers of each view alone. -/
theorem advances_edit
    {α : Type}
    {id : ViewId}
    {change : View → α × View}
    {result : α}
    (hSound : views.Sound)
    (hWithin : views.Within used)
    (hRoom : used .builder < 2 ^ 32)
    (hChange :
      ∀ view, (change view).2.id = view.id ∧
        (change view).2.numbering = view.numbering)
    (hAmend : views.amend id change = some (result, after)) :
    Advances (fun _ => false) [] used views after := by
  rcases exists_of_amend hAmend with
    ⟨front, view, back, hSplit, _, _, hAfter⟩
  have hStep :
      Numbering.Step (fun _ => false) [] view.numbering
        (change view).2.numbering := by
    rw [(hChange view).2]
    exact .refl view.numbering
  exact
    advances_amend hSound hWithin
      ⟨hSplit, hAfter, (hChange view).1, hStep, by simp⟩ hRoom

theorem count_view_identities (views : Views) :
    Identity.count .view views.identities =
      views.items.length := by
  unfold identities
  induction views.items with
  | nil => rfl
  | cons view rest ih =>
      rw [List.flatMap_cons, Identity.count_append, ih,
        view.count_view_identities, List.length_cons,
        Nat.add_comm]

theorem builders_le_count
    {view : View}
    (hView : view ∈ views.items) :
    view.builders.length ≤
      Identity.count .builder views.identities := by
  rcases List.append_of_mem hView with ⟨front, back, hSplit⟩
  unfold identities
  rw [hSplit, List.flatMap_append, List.flatMap_cons,
    Identity.count_append, Identity.count_append,
    view.count_builder_identities]
  omega

/- Without a number given out, only rows have been passed. -/
theorem exists_row_of_hasPassed
    (hZero : views.nextOrdinal = 0)
    {identity : Identity}
    (hPassed : views.HasPassed identity) :
    ∃ id, identity = .row id := by
  cases identity with
  | view id =>
      rw [HasPassed, hZero] at hPassed
      exact absurd hPassed UInt32.not_lt_zero
  | builder id builder =>
      rw [HasPassed, hZero] at hPassed
      exact absurd hPassed.1 UInt32.not_lt_zero
  | row id => exact ⟨id, rfl⟩

section
variable (hNone : views.items = [])
variable (hZero : views.nextOrdinal = 0)
include hNone hZero

/- All that is on a form after loading was handed out by it. -/
theorem handsOut_load (loaded : LoadedViews) :
    views.handsOut (.load loaded) =
      (views.load loaded).identities := by
  rw [load_of_empty hNone hZero]
  rfl

theorem length_load (loaded : LoadedViews) :
    (views.load loaded).items.length = loaded.views.length := by
  have hOrdinals :=
    ordinals_itemsOf loaded.credentials 0 loaded.html
      loaded.views
  rw [load_of_empty hNone hZero, ← List.length_map, hOrdinals,
    Numbering.length_upward]

theorem numbering_of_mem_load
    {loaded : LoadedViews}
    {view : View}
    (hView : view ∈ (views.load loaded).items) :
    view.numbering = Numbering.ofCount view.builders.length := by
  rw [load_of_empty hNone hZero] at hView
  rcases mem_itemsOf hView with ⟨id, html, record, _, rfl⟩
  exact View.numbering_ofRecord id html _ record

/- Stored views are numbered with their builders. -/
theorem advances_load
    (loaded : LoadedViews)
    (hRoom :
      ∀ kind,
        used kind +
          Identity.count kind
            (views.handsOut (.load loaded)) < 2 ^ 32) :
    Advances (fun _ => false) (views.handsOut (.load loaded))
      used views (views.load loaded) := by
  have hNumbering := numbering_load_of_empty hNone hZero loaded
  rw [handsOut_load hNone hZero] at hRoom ⊢
  have hViews : loaded.views.length < 2 ^ 32 := by
    have hBound := hRoom .view
    rw [count_view_identities, length_load hNone hZero] at hBound
    omega
  have hBuilders :
      ∀ view ∈ (views.load loaded).items,
        view.builders.length < 2 ^ 32 := by
    intro view hView
    have hCount := builders_le_count hView
    have hBound := hRoom .builder
    omega
  refine ⟨⟨?_, ?_⟩, ⟨?_, ?_⟩, ⟨?_, ?_, ?_⟩⟩
  · rw [hNumbering]
    exact Numbering.sound_ofCount hViews
  · intro view hView
    rw [numbering_of_mem_load hNone hZero hView]
    exact Numbering.sound_ofCount (hBuilders view hView)
  · have hNext : (views.load loaded).nextOrdinal = _ :=
      congrArg Numbering.next hNumbering
    rw [hNext, count_view_identities, length_load hNone hZero]
    dsimp only [Numbering.ofCount]
    rw [UInt32.toNat_ofNat_of_lt' hViews]
    exact Nat.le_add_left _ _
  · intro view hView
    have hNext : view.nextBuilder = _ :=
      congrArg Numbering.next
        (numbering_of_mem_load hNone hZero hView)
    rw [hNext]
    dsimp only [Numbering.ofCount]
    rw [UInt32.toNat_ofNat_of_lt' (hBuilders view hView)]
    exact Nat.le_add_left_of_le (builders_le_count hView)
  · exact ⟨[], [], by simp, by simp [identities, hNone]⟩
  · intro identity hIdentity hPassed
    rcases exists_row_of_hasPassed hZero hPassed with ⟨id, rfl⟩
    exact not_row_mem_identities _ id hIdentity
  · intro identity hPassed
    rcases exists_row_of_hasPassed hZero hPassed with ⟨id, rfl⟩
    trivial

end

/- An operation on the views advances their identities. -/
theorem advances_perform
    (hSound : views.Sound)
    (hWithin : views.Within used)
    (operation : Operation)
    (hLoad :
      ∀ loaded, operation = .load loaded →
        views.items = [] ∧ views.nextOrdinal = 0)
    (hRoom :
      ∀ kind,
        used kind +
          Identity.count kind (views.handsOut operation) <
            2 ^ 32) :
    Advances operation.closes (views.handsOut operation) used
      views (views.perform operation) := by
  have hBuilders : used .builder < 2 ^ 32 :=
    Nat.lt_of_le_of_lt (Nat.le_add_right _ _) (hRoom .builder)
  have hSame
      (closes : Identity → Bool)
      (hCloses :
        ∀ identity ∈ views.identities, closes identity = false) :
      Advances closes [] used views views :=
    advances_of_same hSound hWithin rfl rfl hCloses
  cases operation with
  | load loaded =>
      rcases hLoad loaded rfl with ⟨hNone, hZero⟩
      exact advances_load hNone hZero loaded hRoom
  | insert fragment scm =>
      exact advances_insert hSound hWithin (hRoom .view)
        fragment scm
  | remove id => exact advances_remove hSound hWithin id
  | addBuilder id fragment =>
      have hRoom := hRoom .builder
      unfold perform handsOut at *
      dsimp only at hRoom ⊢
      cases hAdd : views.addBuilder id fragment with
      | none => exact hSame _ fun _ _ => rfl
      | some pair =>
          rcases pair with ⟨builder, changed⟩
          rw [hAdd] at hRoom
          rcases exists_of_amend hAdd with
            ⟨front, view, back, hSplit, rfl, rfl, hAfter⟩
          exact
            advances_amend hSound hWithin
              ⟨hSplit, hAfter, rfl,
                view.step_pushBuilder fragment.html,
                by simp [Operation.closes]⟩
              hRoom
  | removeBuilder id builder =>
      unfold perform removeBuilder
      dsimp only
      cases hRemove : views.amend id fun view =>
        view.removeBuilder builder with
      | none =>
          apply hSame
          intro identity hIdentity
          rcases List.mem_flatMap.mp hIdentity with
            ⟨view, hView, hMember⟩
          have hOther := ne_of_amend_eq_none hRemove view hView
          rcases List.mem_cons.mp hMember with rfl | hBuilder
          · simp [Operation.closes]
          · rcases List.mem_map.mp hBuilder with ⟨_, _, rfl⟩
            simp [Operation.closes, hOther]
      | some pair =>
          rcases exists_of_amend hRemove with
            ⟨front, view, back, hSplit, rfl, _, hAfter⟩
          exact
            advances_amend hSound hWithin
              ⟨hSplit, hAfter, rfl,
                view.step_removeBuilder builder,
                by simp [Operation.closes]⟩
              hBuilders
  | edit id edit =>
      unfold perform modify
      dsimp only
      split
      · rename_i hAmend
        exact advances_edit hSound hWithin hBuilders
          (fun view => view.numbering_applyEdit edit) hAmend
      · exact hSame _ fun _ _ => rfl
  | applyDefault id =>
      unfold perform applyDefault
      dsimp only
      split
      · exact hSame _ fun _ _ => rfl
      · split
        · rename_i hAmend
          exact advances_edit hSound hWithin hBuilders
            (fun view => ⟨rfl, rfl⟩) hAmend
        · exact hSame _ fun _ _ => rfl
  | rememberCredentials id =>
      unfold perform rememberCredentials
      dsimp only
      split
      · exact advances_of_same hSound hWithin rfl rfl
          fun _ _ => rfl
      · exact hSame _ fun _ _ => rfl
  | setDefault | loadDeleted =>
      exact advances_of_same hSound hWithin rfl rfl
        fun _ _ => rfl

end Views

end BuildForm

------------------------------------------------------------
-- One Operation on the Rows of Users
------------------------------------------------------------

namespace BuildForm

namespace Users

variable {users after : Users}
variable {used : Nat}

theorem identities_eq (users : Users) :
    users.identities =
      users.numbering.ordinals.map Identity.row := by
  simp [identities, numbering]

theorem count_row_map (given : List UInt32) :
    Identity.count .row (given.map Identity.row) =
      given.length := by
  simp [Identity.count, Identity.kind, List.countP_map,
    Function.comp_def]

/- An operation on the rows, given how many were used. -/
structure Advances
    (closes : Identity → Bool)
    (given : List Identity)
    (used : Nat)
    (users after : Users) : Prop where
  sound : after.numbering.Sound
  within : after.nextRow.toNat ≤ used + Identity.count .row given
  advance :
    Identity.Advance closes given users.identities
      after.identities users.HasPassed after.HasPassed

theorem advances_step
    {closes : Identity → Bool}
    {closed : UInt32 → Bool}
    {given : List UInt32}
    (hSound : users.numbering.Sound)
    (hWithin : users.nextRow.toNat ≤ used)
    (hStep :
      Numbering.Step closed given users.numbering
        after.numbering)
    (hCloses : ∀ id, closes (.row id) = closed id)
    (hRoom : used + given.length < 2 ^ 32) :
    Advances closes (given.map Identity.row) used users
      after := by
  have hCounter :
      users.numbering.next.toNat + given.length < 2 ^ 32 :=
    Nat.lt_of_le_of_lt (Nat.add_le_add_right hWithin _) hRoom
  have hNext := hStep.toNat_next hCounter
  refine ⟨hStep.sound hCounter hSound, ?_, ⟨?_, ?_, ?_⟩⟩
  · simp only [numbering] at hNext
    rw [hNext, count_row_map]
    exact Nat.add_le_add_right hWithin _
  · refine
      ⟨users.identities.filter fun identity => !closes identity,
        [], ?_, by simp⟩
    rw [identities_eq, identities_eq, hStep.ordinals]
    simp [List.filter_map, Function.comp_def, hCloses]
  · intro identity hGiven hPassed
    rcases List.mem_map.mp hGiven with ⟨id, hMember, rfl⟩
    have hAbove := (hStep.bounds_given hCounter hMember).1
    exact UInt32.lt_irrefl _
      (UInt32.lt_of_lt_of_le hPassed hAbove)
  · intro identity hPassed
    cases identity with
    | row id =>
        exact UInt32.lt_of_lt_of_le hPassed
          (hStep.le_next hCounter)
    | view | builder => trivial

theorem advances_perform
    (hSound : users.numbering.Sound)
    (hWithin : users.nextRow.toNat ≤ used)
    (operation : Operation)
    (hRoom :
      used + Identity.count .row (users.handsOut operation) <
        2 ^ 32) :
    Advances operation.closes (users.handsOut operation) used
      users (users.perform operation) := by
  cases operation with
  | push name html =>
      apply advances_step hSound hWithin
        (users.step_push name html)
      · exact fun _ => rfl
      · exact hRoom
  | remove id =>
      apply advances_step hSound hWithin
        (step_remove hSound id)
      · exact fun _ => rfl
      · exact hRoom
  | load html names =>
      rcases users.exists_step_load html names with
        ⟨given, hStep⟩
      have hGiven :
          users.handsOut (.load html names) =
            given.map Identity.row := by
        have hRows :
            (users.load html names).rows.map (·.id) =
              users.rows.map (·.id) ++ given := by
          simpa [numbering] using hStep.ordinals
        have hDrop :=
          congrArg (List.drop users.rows.length) hRows
        rw [← List.map_drop, List.drop_left' (by simp)] at hDrop
        rw [← hDrop, List.map_map]
        rfl
      rw [hGiven] at hRoom ⊢
      rw [count_row_map] at hRoom
      apply advances_step hSound hWithin hStep
      · exact fun _ => rfl
      · exact hRoom

end Users

end BuildForm
