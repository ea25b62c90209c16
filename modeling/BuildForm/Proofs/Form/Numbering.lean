import Mathlib.Algebra.GroupWithZero.Nat
import Mathlib.Data.List.Basic
import Mathlib.Data.List.Nodup
import Mathlib.Data.List.Range
import BuildForm.Form.Basic
import BuildForm.Proofs.Form.Step

/-
  How a form numbers what is on it.

  The views of a form, the builders of each view and the rows
  of users are numbered in the same way: a counter gives out
  the next ordinal, what is appended takes it, and what is
  closed takes its ordinal with it. As long as a counter does
  not wrap around, the ordinals are ascending and below it.

  Main declarations:
    * `Numbering`
    * `Numbering.Sound`
    * `Numbering.Step`
    * `Numbering.Step.sound`
    * `View.numbering`
    * `Views.numbering`
    * `Users.numbering`
    * `Views.step_insert`
-/

------------------------------------------------------------
-- Numberings
------------------------------------------------------------

namespace BuildForm

/- Ordinals in order, and the one that is given out next. -/
structure Numbering where
  ordinals : List UInt32
  next : UInt32

namespace Numbering

/- The first ordinals that are given out from one on. -/
def upward (first : UInt32) : Nat → List UInt32
  | 0 => []
  | count + 1 => first :: upward (first + 1) count

@[simp]
theorem length_upward (first : UInt32) (count : Nat) :
    (upward first count).length = count := by
  induction count generalizing first with
  | zero => rfl
  | succ count ih => rw [upward, List.length_cons, ih]

theorem toNat_add_one
    {ordinal : UInt32}
    (hRoom : ordinal.toNat + 1 < 2 ^ 32) :
    (ordinal + 1).toNat = ordinal.toNat + 1 := by
  rw [UInt32.toNat_add]
  exact Nat.mod_eq_of_lt hRoom

/- Without wrapping around, these are consecutive numbers. -/
theorem map_toNat_upward
    {first : UInt32}
    {count : Nat}
    (hRoom : first.toNat + count < 2 ^ 32) :
    (upward first count).map UInt32.toNat =
      List.range' first.toNat count := by
  induction count generalizing first with
  | zero => rfl
  | succ count ih =>
      have hNext : (first + 1).toNat = first.toNat + 1 :=
        toNat_add_one (by omega)
      rw [upward, List.map_cons, ih (by omega), hNext,
        List.range'_succ]

theorem mem_upward
    {first ordinal : UInt32}
    {count : Nat}
    (hRoom : first.toNat + count < 2 ^ 32) :
    ordinal ∈ upward first count ↔
      first.toNat ≤ ordinal.toNat ∧
        ordinal.toNat < first.toNat + count := by
  have hInjective : Function.Injective UInt32.toNat :=
    fun _ _ hSame => UInt32.toNat_inj.mp hSame
  rw [← List.mem_map_of_injective hInjective,
    map_toNat_upward hRoom, List.mem_range'_1]

/- The numbering of what was given out at once. -/
def ofCount (count : Nat) : Numbering where
  ordinals := upward 0 count
  next := UInt32.ofNat count

/- What keeps the ordinals of a form apart. -/
structure Sound (numbering : Numbering) : Prop where
  ascending : numbering.ordinals.Pairwise (· < ·)
  below :
    ∀ ordinal ∈ numbering.ordinals, ordinal < numbering.next

theorem Sound.nodup
    {numbering : Numbering}
    (hSound : numbering.Sound) :
    numbering.ordinals.Nodup :=
  hSound.ascending.imp fun hLess hSame =>
    UInt32.ne_of_lt hLess hSame

/-
  What closing some ordinals and giving out others makes of a
  numbering: those that stay keep their order, and those that
  are given out follow them.
-/
structure Step
    (closed : UInt32 → Bool)
    (given : List UInt32)
    (before after : Numbering) : Prop where
  ordinals :
    after.ordinals =
      before.ordinals.filter (fun ordinal => !closed ordinal) ++
        given
  consecutive : given = upward before.next given.length
  next : after.next = before.next + UInt32.ofNat given.length

section
variable {closed : UInt32 → Bool}
variable {given : List UInt32}
variable {before after : Numbering}

theorem Step.refl (numbering : Numbering) :
    Step (fun _ => false) [] numbering numbering where
  ordinals := by simp
  consecutive := rfl
  next := by simp

theorem Step.toNat_next
    (hStep : Step closed given before after)
    (hRoom : before.next.toNat + given.length < 2 ^ 32) :
    after.next.toNat = before.next.toNat + given.length := by
  rw [hStep.next, UInt32.toNat_add, UInt32.toNat_ofNat']
  omega

/- What is given out lies between the counters. -/
theorem Step.bounds_given
    (hStep : Step closed given before after)
    (hRoom : before.next.toNat + given.length < 2 ^ 32)
    {ordinal : UInt32}
    (hGiven : ordinal ∈ given) :
    before.next ≤ ordinal ∧ ordinal < after.next := by
  rw [hStep.consecutive, mem_upward hRoom] at hGiven
  rw [UInt32.le_iff_toNat_le, UInt32.lt_iff_toNat_lt,
    hStep.toNat_next hRoom]
  exact hGiven

theorem Step.le_next
    (hStep : Step closed given before after)
    (hRoom : before.next.toNat + given.length < 2 ^ 32) :
    before.next ≤ after.next := by
  rw [UInt32.le_iff_toNat_le, hStep.toNat_next hRoom]
  omega

theorem Step.ascending_given
    (hStep : Step closed given before after)
    (hRoom : before.next.toNat + given.length < 2 ^ 32) :
    given.Pairwise (· < ·) := by
  have hNumbers :
      (given.map UInt32.toNat).Pairwise (· < ·) := by
    rw [hStep.consecutive, map_toNat_upward hRoom]
    exact List.pairwise_lt_range'
  rw [List.pairwise_map] at hNumbers
  exact hNumbers.imp UInt32.lt_iff_toNat_lt.mpr

/- A numbering stays sound until its counter wraps around. -/
theorem Step.sound
    (hStep : Step closed given before after)
    (hRoom : before.next.toNat + given.length < 2 ^ 32)
    (hSound : before.Sound) :
    after.Sound := by
  refine ⟨?_, ?_⟩
  · rw [hStep.ordinals, List.pairwise_append]
    refine ⟨hSound.ascending.filter _,
      hStep.ascending_given hRoom, ?_⟩
    intro old hOld new hNew
    have hBelow :=
      hSound.below old (List.mem_filter.mp hOld).1
    exact UInt32.lt_of_lt_of_le hBelow
      (hStep.bounds_given hRoom hNew).1
  · intro ordinal hOrdinal
    rw [hStep.ordinals, List.mem_append] at hOrdinal
    rcases hOrdinal with hOld | hNew
    · have hBelow :=
        hSound.below ordinal (List.mem_filter.mp hOld).1
      exact UInt32.lt_of_lt_of_le hBelow (hStep.le_next hRoom)
    · exact (hStep.bounds_given hRoom hNew).2

end

/- The numbering after one more was given out. -/
def appended (numbering : Numbering) : Numbering where
  ordinals := numbering.ordinals ++ [numbering.next]
  next := numbering.next + 1

theorem step_appended (numbering : Numbering) :
    Step (fun _ => false) [numbering.next] numbering
      numbering.appended where
  ordinals := by simp [appended]
  consecutive := rfl
  next := rfl

/- What is given out at once is a step from nothing. -/
theorem step_ofCount (count : Nat) :
    Step (fun _ => false) (upward 0 count) ⟨[], 0⟩
      (ofCount count) where
  ordinals := rfl
  consecutive := by rw [length_upward]
  next := by simp [ofCount]

theorem sound_empty : Sound ⟨[], 0⟩ :=
  ⟨List.Pairwise.nil, by simp⟩

theorem sound_ofCount
    {count : Nat}
    (hRoom : count < 2 ^ 32) :
    (ofCount count).Sound := by
  apply (step_ofCount count).sound _ sound_empty
  simpa using hRoom

end Numbering

end BuildForm

------------------------------------------------------------
-- Builders of a View
------------------------------------------------------------

namespace BuildForm

namespace View

/- How a view numbers its builders. -/
def numbering (view : View) : Numbering where
  ordinals := view.builders.map (·.id.ordinal)
  next := view.nextBuilder

theorem step_pushBuilder (view : View) (html : String) :
    Numbering.Step (fun _ => false) [view.nextBuilder]
      view.numbering (view.pushBuilder html).2.numbering where
  ordinals := by simp [numbering, pushBuilder]
  consecutive := rfl
  next := rfl

theorem step_removeBuilder
    (view : View)
    (builder : BuilderId) :
    Numbering.Step (fun ordinal => ordinal = builder.ordinal) []
      view.numbering
      (view.removeBuilder builder).2.numbering where
  ordinals := by
    have hSame (entry : Builder) :
        (entry.id = builder) =
          (entry.id.ordinal = builder.ordinal) := by
      rcases builder with ⟨ordinal⟩
      rcases hId : entry.id with ⟨other⟩
      simp
    simp [numbering, removeBuilder, List.filter_map,
      Function.comp_def, hSame]
  consecutive := rfl
  next := by simp [numbering, removeBuilder]

theorem numbering_mapBuilder
    (view : View)
    (id : BuilderId)
    {change : Builder → Builder}
    (hChange : ∀ builder, (change builder).id = builder.id) :
    (view.mapBuilder id change).numbering = view.numbering := by
  have hSame (builder : Builder) :
      (if builder.id = id then
        change builder else builder).id = builder.id := by
    split
    · exact hChange builder
    · rfl
  simp only [numbering, mapBuilder, List.map_map,
    Function.comp_def, hSame]

theorem numbering_mapField
    (view : View)
    (name : ViewField)
    (change : Field → Field) :
    (view.mapField name change).id = view.id ∧
      (view.mapField name change).numbering =
        view.numbering := by
  cases name with
  | _ => exact ⟨rfl, rfl⟩

theorem numbering_setBox
    (view : View)
    (kind : SelectionKind)
    (box : SelectionBox) :
    (view.setBox kind box).id = view.id ∧
      (view.setBox kind box).numbering = view.numbering := by
  cases kind with
  | artifacts => exact ⟨rfl, rfl⟩
  | versionFiles => exact ⟨rfl, rfl⟩

theorem numbering_addPath
    (view : View)
    (kind : SelectionKind) :
    (view.addPath kind).2.id = view.id ∧
      (view.addPath kind).2.numbering = view.numbering := by
  unfold addPath
  rcases (view.box kind).add (view.pathInput kind).value with
    ⟨result, box⟩
  have hBox := view.numbering_setBox kind box
  cases result with
  | ok =>
      have hClear :=
        (view.setBox kind box).numbering_mapField
          kind.inputField Field.clear
      exact ⟨hClear.1.trans hBox.1, hClear.2.trans hBox.2⟩
  | error => exact hBox

theorem numbering_revalidate (view : View) :
    view.revalidate.numbering = view.numbering := by
  simp [numbering, revalidate, Function.comp_def]

theorem ordinals_buildersOf
    (first : UInt32)
    (records : List BuilderRecord) :
    (buildersOf first records).map (·.id.ordinal) =
      Numbering.upward first records.length := by
  induction records generalizing first with
  | nil => rfl
  | cons record records ih =>
      have hId :
          (Builder.ofRecord ⟨first⟩ record).id = ⟨first⟩ := by
        unfold Builder.ofRecord
        cases record.userConfig with
        | none => rfl
        | some value => rfl
      rw [buildersOf, List.map_cons, ih, hId, List.length_cons,
        Numbering.upward]

/- The builders of a stored view are numbered from zero. -/
theorem numbering_ofRecord
    (id : ViewId)
    (html : String)
    (credentials : List String)
    (record : ViewRecord) :
    let view := ofRecord id html credentials record
    view.numbering = Numbering.ofCount view.builders.length := by
  have hOrdinals := ordinals_buildersOf 0 record.builders
  have hLength := congrArg List.length hOrdinals
  rw [List.length_map, Numbering.length_upward] at hLength
  dsimp only [numbering, Numbering.ofCount, ofRecord]
  rw [hOrdinals, hLength]

end View

end BuildForm

------------------------------------------------------------
-- Views
------------------------------------------------------------

namespace BuildForm

namespace Views

/- How a form numbers its views. -/
def numbering (views : Views) : Numbering where
  ordinals := views.items.map (·.id.ordinal)
  next := views.nextOrdinal

variable {α : Type}
variable {id : ViewId}
variable {views changed : Views}
variable {change : View → α × View}
variable {result : α}

theorem numbering_amend
    (hChange : ∀ view, (change view).2.id = view.id)
    (hAmend : views.amend id change = some (result, changed)) :
    changed.numbering = views.numbering := by
  have hMap :=
    map_amend (·.id.ordinal)
      (fun view => congrArg ViewId.ordinal (hChange view))
      hAmend
  unfold numbering
  rw [hMap.1, hMap.2]

/- Views of which some are gone are numbered soundly as well. -/
theorem Retains.sound
    (hRetains : views.Retains changed)
    (hSound : views.numbering.Sound) :
    changed.numbering.Sound := by
  have hOrdinals :
      changed.numbering.ordinals.Sublist
        views.numbering.ordinals := by
    have hPlaces :=
      hRetains.places.map fun place => place.1.ordinal
    rw [List.map_map, List.map_map] at hPlaces
    exact hPlaces
  refine ⟨hSound.ascending.sublist hOrdinals, ?_⟩
  intro ordinal hOrdinal
  change ordinal < changed.nextOrdinal
  rw [hRetains.next]
  exact hSound.below ordinal (hOrdinals.subset hOrdinal)

theorem numbering_modify
    {change : View → View}
    (hChange : ∀ view, (change view).id = view.id)
    (views : Views)
    (id : ViewId) :
    (views.modify id change).numbering = views.numbering := by
  unfold modify
  split
  · rename_i hAmend
    exact numbering_amend hChange hAmend
  · rfl

/- A fresh view is numbered after those there are. -/
theorem numbering_insert
    (views : Views)
    (fragment : ViewFragment)
    (scm : Scm) :
    (views.insert fragment scm).2.numbering =
      views.numbering.appended := by
  have hOrdinals :=
    map_insert (·.id.ordinal) (fun _ _ => rfl) views fragment scm
  unfold numbering Numbering.appended
  rw [hOrdinals]
  rfl

theorem step_insert
    (views : Views)
    (fragment : ViewFragment)
    (scm : Scm) :
    Numbering.Step (fun _ => false) [views.nextOrdinal]
      views.numbering
      (views.insert fragment scm).2.numbering := by
  rw [numbering_insert]
  exact views.numbering.step_appended

theorem step_remove (views : Views) (id : ViewId) :
    Numbering.Step (fun ordinal => ordinal = id.ordinal) []
      views.numbering (views.remove id).2.numbering where
  ordinals := by
    have hSame (view : View) :
        (view.id = id) = (view.id.ordinal = id.ordinal) := by
      rcases id with ⟨ordinal⟩
      rcases hId : view.id with ⟨other⟩
      simp
    simp [numbering, remove, List.filter_map,
      Function.comp_def, hSame]
  consecutive := rfl
  next := by simp [numbering, remove]

theorem ordinals_itemsOf
    (credentials : List String)
    (first : UInt32)
    (html : String)
    (records : List ViewRecord) :
    (itemsOf credentials first html records).map
        (·.id.ordinal) =
      Numbering.upward first records.length := by
  induction records generalizing first html with
  | nil => rfl
  | cons record records ih =>
      rw [itemsOf, List.map_cons, ih, List.length_cons,
        Numbering.upward]
      rfl

/- Stored views are numbered from zero. -/
theorem numbering_load
    (views : Views)
    (loaded : LoadedViews) :
    (views.load loaded).numbering = views.numbering ∨
      (views.load loaded).numbering =
        Numbering.ofCount loaded.views.length := by
  unfold load
  split
  · exact Or.inl rfl
  · right
    unfold numbering Numbering.ofCount
    rw [← ordinals_itemsOf]

section
variable {views : Views}
variable (hItems : views.items = [])
variable (hNext : views.nextOrdinal = 0)
include hItems hNext

/- Stored views come in the place of none, also if none are. -/
theorem load_of_empty (loaded : LoadedViews) :
    views.load loaded =
      { views with
        items :=
          itemsOf loaded.credentials 0 loaded.html loaded.views
        nextOrdinal := UInt32.ofNat loaded.views.length } := by
  unfold load
  split
  · rename_i hEmpty
    rw [hEmpty.2]
    rcases views with ⟨items, _, _, next, _⟩
    cases hItems
    cases hNext
    rfl
  · rfl

theorem numbering_load_of_empty (loaded : LoadedViews) :
    (views.load loaded).numbering =
      Numbering.ofCount loaded.views.length := by
  rw [load_of_empty hItems hNext]
  unfold numbering Numbering.ofCount
  rw [← ordinals_itemsOf]

end

end Views

end BuildForm

------------------------------------------------------------
-- Rows of Users
------------------------------------------------------------

namespace BuildForm

namespace Users

/- How a form numbers its rows of users. -/
def numbering (users : Users) : Numbering where
  ordinals := users.rows.map (·.id)
  next := users.nextRow

theorem step_push (users : Users) (name html : String) :
    Numbering.Step (fun _ => false) [users.nextRow]
      users.numbering (users.push name html).2.numbering where
  ordinals := by simp [numbering, push]
  consecutive := rfl
  next := rfl

/- At most one row has an identity, and that one is removed. -/
theorem step_remove
    {users : Users}
    (hSound : users.numbering.Sound)
    (id : UInt32) :
    Numbering.Step (fun ordinal => ordinal = id) []
      users.numbering (users.remove id).2.numbering := by
  have hErase :
      (users.rows.eraseP fun row => row.id = id).map (·.id) =
        users.numbering.ordinals.filter fun ordinal =>
          !decide (ordinal = id) := by
    have hFilter := hSound.nodup.erase_eq_filter id
    rw [List.erase_eq_eraseP', numbering, List.eraseP_map]
      at hFilter
    exact hFilter
  unfold remove
  cases hFind : users.rows.find? fun row => row.id = id with
  | none =>
      refine ⟨?_, rfl, by simp⟩
      rw [← hErase, List.eraseP_of_forall_not]
      · simp [numbering]
      · simpa using hFind
  | some row =>
      refine ⟨?_, rfl, by simp [numbering]⟩
      rw [← hErase]
      simp [numbering]

theorem step_pushAll
    (users : Users)
    (names : List String) :
    Numbering.Step (fun _ => false)
      (Numbering.upward users.nextRow names.length)
      users.numbering
      (names.foldl (fun users name => (users.push name "").2)
        users).numbering := by
  induction names generalizing users with
  | nil => exact Numbering.Step.refl users.numbering
  | cons name names ih =>
      have hRest := ih (users.push name "").2
      refine ⟨?_, ?_, ?_⟩
      · rw [List.foldl_cons, hRest.ordinals]
        simp [numbering, push, Numbering.upward]
      · rw [Numbering.length_upward]
        rfl
      · rw [List.foldl_cons, hRest.next]
        simp only [numbering, push, Numbering.length_upward,
          List.length_cons]
        rw [Nat.add_comm names.length 1, UInt32.ofNat_add,
          UInt32.add_assoc]
        rfl

theorem exists_step_load
    (users : Users)
    (html : String)
    (names : List String) :
    ∃ given,
      Numbering.Step (fun _ => false) given users.numbering
        (users.load html names).numbering := by
  unfold load
  split
  · exact ⟨[], .refl users.numbering⟩
  · exact ⟨_, users.step_pushAll names⟩

end Users

end BuildForm

------------------------------------------------------------
-- Views and the Rest of a Form
------------------------------------------------------------

namespace BuildForm

namespace Form

theorem numbering_mapField
    (form : Form)
    (path : FieldPath)
    (change : Field → Field) :
    (form.mapField path change).views.numbering =
      form.views.numbering := by
  cases path with
  | view id name =>
      apply Views.numbering_modify
      exact fun view => (view.numbering_mapField name change).1
  | builder id builder =>
      apply Views.numbering_modify
      exact fun view => rfl
  | _ => rfl

theorem views_forget (form : Form) (path : FieldPath) :
    (form.forget path).views = form.views := by
  cases path with
  | _ => rfl

/- Nothing that is typed changes the numbers of the views. -/
theorem numbering_edit
    (form : Form)
    (path : FieldPath)
    (value : String)
    (validate : Bool) :
    (form.edit path value validate).2.views.numbering =
      form.views.numbering := by
  have hForget :
      (form.forget path).views.numbering =
        form.views.numbering := by
    rw [form.views_forget]
  rcases form.snd_edit path value validate with
    hSame | hOnly | ⟨field, _, hEdit⟩
  · rw [hSame]
  · rw [hOnly, hForget]
  · rw [hEdit, numbering_mapField, hForget]

theorem views_mapTrigger
    (form : Form)
    (path : FieldPath)
    (change : Trigger → Trigger) :
    (form.mapTrigger path change).views = form.views := by
  cases path with
  | _ => rfl

/- A record that is loaded leaves the views aside. -/
theorem views_applyConfiguration
    (form : Form)
    (config : Configuration) :
    (form.applyConfiguration config).views = form.views := by
  unfold applyConfiguration
  cases config.email with
  | none => rfl
  | some address =>
      dsimp only
      split
      · rfl
      · rfl

theorem views_tick
    {form after : Form}
    (hTick : Form.Tick form after) :
    after.views = form.views := by
  cases hTick with
  | email enabled =>
      unfold setEmailEnabled
      split
      · rfl
      · rfl
  | comments enabled =>
      unfold setCommentsEnabled
      split
      · rfl
      · rfl
  | machine node checked =>
      unfold toggleMachine
      split
      · rfl
      · rfl

/- A new configuration starts without views, or goes on. -/
theorem numbering_loadNew
    {form after : Form}
    (hLoad : Form.LoadNew form after) :
    after.views.numbering = form.views.numbering ∨
      after.views.numbering = ⟨[], 0⟩ := by
  cases hLoad with
  | blank => exact Or.inr rfl
  | comments =>
      left
      unfold setCommentsEnabled
      split
      · rfl
      · rfl
  | _ => exact Or.inl rfl

end Form

end BuildForm
