import BuildForm.Proofs.Form.Advancing

/-
  Identities that are given out once.

  On the way through a run of operations on a form, no counter
  is above what was handed out. As long as that is little
  enough for a counter, each operation advances the identities
  of the form, and one that a counter has passed does not come
  back.

  Main declarations:
    * `Form.AwaitsLoad`
    * `Form.OnWay`
    * `Form.advance_perform`
    * `Form.exists_onWay_run`
    * `Form.identities_never_reused`
-/

------------------------------------------------------------
-- One Operation on a Form
------------------------------------------------------------

namespace BuildForm

namespace Identity.Advance

variable {closes : Identity → Bool}
variable {given : List Identity}

/- What happens to the views of a form leaves its rows alone. -/
theorem onViews
    {form : Form}
    {views : Views}
    (hAdvance :
      Advance closes given form.views.identities
        views.identities form.views.HasPassed views.HasPassed)
    (hRows : ∀ id, closes (.row id) = false) :
    let after := { form with views }
    Advance closes given form.identities after.identities
      form.HasPassed after.HasPassed := by
  refine ⟨?_, ?_, ?_⟩
  · rcases hAdvance.inserted with ⟨front, back, hAfter, hKept⟩
    refine ⟨front, back ++ form.users.identities, ?_, ?_⟩
    · rw [Form.identities, hAfter]
      exact List.append_assoc _ _ _
    · have hStay :
          (form.users.identities.filter fun identity =>
            !closes identity) = form.users.identities := by
        rw [List.filter_eq_self]
        intro identity hIdentity
        rcases Users.exists_row_of_mem hIdentity with ⟨id, rfl⟩
        rw [hRows]
        rfl
      rw [Form.identities, List.filter_append, ← hKept, hStay,
        List.append_assoc]
  · intro identity hGiven hPassed
    exact hAdvance.fresh identity hGiven hPassed.1
  · intro identity hPassed
    exact ⟨hAdvance.passed identity hPassed.1, hPassed.2⟩

theorem onUsers
    {form : Form}
    {users : Users}
    (hAdvance :
      Advance closes given form.users.identities
        users.identities form.users.HasPassed users.HasPassed)
    (hViews :
      ∀ identity ∈ form.views.identities,
        closes identity = false) :
    let after := { form with users }
    Advance closes given form.identities after.identities
      form.HasPassed after.HasPassed := by
  refine ⟨?_, ?_, ?_⟩
  · rcases hAdvance.inserted with ⟨front, back, hAfter, hKept⟩
    refine ⟨form.views.identities ++ front, back, ?_, ?_⟩
    · rw [Form.identities, hAfter]
      simp
    · have hStay :
          (form.views.identities.filter fun identity =>
            !closes identity) = form.views.identities := by
        rw [List.filter_eq_self]
        intro identity hIdentity
        rw [hViews identity hIdentity]
        rfl
      rw [Form.identities, List.filter_append, ← hKept, hStay,
        List.append_assoc]
  · intro identity hGiven hPassed
    exact hAdvance.fresh identity hGiven hPassed.2
  · intro identity hPassed
    exact ⟨hPassed.1, hAdvance.passed identity hPassed.2⟩

end Identity.Advance

namespace Form

/- Stored views may be loaded only before there are any. -/
def AwaitsLoad
    (form : Form)
    (operations : List Operation) : Prop :=
  (form.views.items = [] ∧ form.views.nextOrdinal = 0 ∧
      loadsFirst operations) ∨
    ∀ operation ∈ operations, operation.isLoad = false

/-
  A form on the way through a run: so many identities of each
  kind are used, and so many operations are to come.
-/
structure OnWay
    (form : Form)
    (used : Identity.Kind → Nat)
    (rest : List Operation) : Prop where
  sound : form.Sound
  views : form.views.Within used
  users : form.users.nextRow.toNat ≤ used .row
  awaits : form.AwaitsLoad rest
  room :
    ∀ kind,
      used kind + Identity.count kind (form.handedOut rest) <
        2 ^ 32

variable {form : Form}
variable {used : Identity.Kind → Nat}
variable {operation : Operation}
variable {rest : List Operation}

theorem OnWay.blank
    {mode : PageMode}
    (hLoads : loadsFirst rest)
    (hRoom :
      ∀ kind,
        Identity.count kind ((Form.blank mode).handedOut rest) <
          2 ^ 32) :
    (Form.blank mode).OnWay (fun _ => 0) rest where
  sound :=
    ⟨⟨Numbering.sound_empty, by simp [Form.blank]⟩,
      Numbering.sound_empty⟩
  views := ⟨Nat.le_refl 0, by simp [Form.blank]⟩
  users := Nat.le_refl 0
  awaits := Or.inl ⟨rfl, rfl, hLoads⟩
  room := by
    intro kind
    rw [Nat.zero_add]
    exact hRoom kind

theorem AwaitsLoad.perform
    (hAwaits : form.AwaitsLoad (operation :: rest)) :
    (form.perform operation).AwaitsLoad rest := by
  rcases hAwaits with ⟨hNone, hZero, hLoads⟩ | hNever
  · cases operation with
    | users => exact Or.inl ⟨hNone, hZero, hLoads⟩
    | views =>
        right
        intro later hLater
        have hOther := List.all_eq_true.mp hLoads later hLater
        simpa using hOther
  · right
    intro later hLater
    exact hNever later (List.mem_cons_of_mem operation hLater)

theorem room_first
    (hWay : form.OnWay used (operation :: rest))
    (kind : Identity.Kind) :
    used kind +
        Identity.count kind (form.handsOut operation) <
      2 ^ 32 := by
  have hRoom := hWay.room kind
  rw [handedOut, Identity.count_append] at hRoom
  omega

/-
  An operation keeps the ordinals of a form sound, and what it
  hands out was never handed out before.
-/
theorem advance_perform
    (hWay : form.OnWay used (operation :: rest)) :
    (form.perform operation).OnWay
        (fun kind =>
          used kind +
            Identity.count kind (form.handsOut operation))
        rest ∧
      Identity.Advance operation.closes
        (form.handsOut operation) form.identities
        (form.perform operation).identities form.HasPassed
        (form.perform operation).HasPassed := by
  have hRoom := room_first hWay
  have hRest :
      ∀ kind,
        used kind +
              Identity.count kind (form.handsOut operation) +
            Identity.count kind
              ((form.perform operation).handedOut rest) <
          2 ^ 32 := by
    intro kind
    have hAll := hWay.room kind
    rw [handedOut, Identity.count_append] at hAll
    omega
  have hAwaits := hWay.awaits.perform
  cases operation with
  | views change =>
      have hLoad :
          ∀ loaded, change = .load loaded →
            form.views.items = [] ∧
              form.views.nextOrdinal = 0 := by
        rintro loaded rfl
        rcases hWay.awaits with ⟨hNone, hZero, _⟩ | hNever
        · exact ⟨hNone, hZero⟩
        · cases hNever _ List.mem_cons_self
      have hChange :=
        Views.advances_perform hWay.sound.views hWay.views
          change hLoad hRoom
      refine
        ⟨⟨⟨hChange.sound, hWay.sound.users⟩, hChange.within,
          Nat.le_add_right_of_le hWay.users, hAwaits, hRest⟩,
          hChange.advance.onViews ?_⟩
      intro id
      cases change with
      | _ => rfl
  | users change =>
      have hChange :=
        Users.advances_perform hWay.sound.users hWay.users
          change (hRoom .row)
      refine
        ⟨⟨⟨hWay.sound.views, hChange.sound⟩, ⟨?_, ?_⟩,
          hChange.within, hAwaits, hRest⟩,
          hChange.advance.onUsers ?_⟩
      · exact Nat.le_add_right_of_le hWay.views.ordinals
      · exact fun view hView =>
          Nat.le_add_right_of_le
            (hWay.views.builders view hView)
      · intro identity hIdentity
        cases identity with
        | row id =>
            exact absurd hIdentity
              (form.views.not_row_mem_identities id)
        | view | builder =>
            cases change with
            | _ => rfl

end Form

end BuildForm

------------------------------------------------------------
-- Runs of Operations
------------------------------------------------------------

namespace BuildForm

namespace Form

/- A counter that has passed an identity never goes back. -/
theorem exists_onWay_run
    {form : Form}
    {used : Identity.Kind → Nat}
    {before rest : List Operation}
    (hWay : form.OnWay used (before ++ rest)) :
    (∃ used, (form.run before).OnWay used rest) ∧
      ∀ identity, form.HasPassed identity →
        (form.run before).HasPassed identity := by
  induction before generalizing form used with
  | nil => exact ⟨⟨used, hWay⟩, fun _ hPassed => hPassed⟩
  | cons operation before ih =>
      rcases advance_perform hWay with ⟨hNext, hAdvance⟩
      rcases ih hNext with ⟨hLast, hPassed⟩
      exact ⟨hLast, fun identity hIdentity =>
        hPassed identity (hAdvance.passed identity hIdentity)⟩

theorem Sound.nodup_identities
    {form : Form}
    (hSound : form.Sound) :
    form.identities.Nodup := by
  have hViews : form.views.identities.Nodup := by
    unfold Views.identities
    rw [List.nodup_flatMap]
    refine ⟨?_, ?_⟩
    · intro view hView
      rw [view.identities_eq, List.nodup_cons]
      refine ⟨by simp, ?_⟩
      apply (hSound.views.builders view hView).nodup.map
      intro first second hSame
      cases hSame
      rfl
    · have hIds := hSound.views.numbering.nodup
      apply (List.pairwise_map.mp hIds).imp
      intro first second hOther identity hFirst hSecond
      have hSame :=
        (View.owner?_of_mem_identities hFirst).symm.trans
          (View.owner?_of_mem_identities hSecond)
      rw [Option.some.injEq] at hSame
      exact hOther (congrArg ViewId.ordinal hSame)
  have hRows : form.users.identities.Nodup := by
    rw [Users.identities_eq]
    apply hSound.users.nodup.map
    intro first second hSame
    cases hSame
    rfl
  apply hViews.append hRows
  intro identity hView hRow
  rcases Users.exists_row_of_mem hRow with ⟨id, rfl⟩
  exact form.views.not_row_mem_identities id hView

theorem run_append
    (form : Form)
    (first second : List Operation) :
    form.run (first ++ second) = (form.run first).run second :=
  List.foldl_append

/-
  For every run of operations that loads stored views at most
  once and first and wraps no counter around: at every moment
  the ordinals of the views, of the builders of each view and
  of the rows of users are ascending and below their counters.
  The next operation puts what it hands out in one place,
  keeps all others but those that it closes, and their order,
  and hands out nothing that was ever on the form. Deleted
  views that are shown take nothing.
-/
theorem identities_never_reused
    {mode : PageMode}
    {operations before after : List Operation}
    (hLoads : loadsFirst operations)
    (hRoom :
      ∀ kind,
        Identity.count kind
          ((blank mode).handedOut operations) < 2 ^ 32)
    (hSplit : operations = before ++ after) :
    let form := (blank mode).run before
    form.Sound ∧
      (∀ operation rest, after = operation :: rest →
        let next := form.perform operation
        let given := form.handsOut operation
        (∃ front back,
          next.identities = front ++ given ++ back ∧
            front ++ back =
              form.identities.filter fun identity =>
                !operation.closes identity) ∧
          given.Nodup ∧
          ∀ earlier, earlier <+: before →
            ∀ identity ∈ given,
              identity ∉
                ((blank mode).run earlier).identities) ∧
      ∀ html records,
        let shown :=
          form.perform (.views (.loadDeleted html records))
        shown.identities = form.identities ∧
          shown.views.nextOrdinal = form.views.nextOrdinal := by
  intro form
  have hStart := OnWay.blank hLoads hRoom
  rw [hSplit] at hStart
  rcases exists_onWay_run hStart with ⟨⟨used, hWay⟩, _⟩
  refine ⟨hWay.sound, ?_, fun html records => ⟨rfl, rfl⟩⟩
  rintro operation rest rfl next given
  rcases advance_perform hWay with ⟨hNext, hAdvance⟩
  refine ⟨hAdvance.inserted, ?_, ?_⟩
  · rcases hAdvance.inserted with ⟨front, back, hAfter, _⟩
    have hNodup := hNext.sound.nodup_identities
    rw [hAfter] at hNodup
    exact hNodup.of_append_left.of_append_right
  · rintro earlier ⟨between, rfl⟩ identity hGiven hPresent
    rw [List.append_assoc] at hStart
    rcases exists_onWay_run hStart with ⟨⟨_, hEarlier⟩, _⟩
    have hPassed := hEarlier.sound.hasPassed hPresent
    have hLater := (exists_onWay_run hEarlier).2 identity hPassed
    rw [← run_append] at hLater
    exact hAdvance.fresh identity hGiven hLater

/-
  A builder that is added after builders, views and rows were
  removed, and deleted views were shown.
-/
theorem identities_never_reused_after_removals :
    let before : List Operation :=
      [.users (.push "ann" ""),
        .views (.load
          { html := "<section>"
            views :=
              [{ projectUrl := "https://host/core.git" },
                { projectUrl := "https://host/tools.git"
                  builders := [{}] }] }),
        .users (.load "<table>" ["bob"]),
        .users (.remove 0),
        .views (.remove ⟨0⟩),
        .views (.insert {} .git),
        .views (.addBuilder ⟨1⟩ {}),
        .views (.removeBuilder ⟨1⟩ ⟨1⟩),
        .views (.edit ⟨2⟩ (.credentials "deploy")),
        .views (.loadDeleted "<hr>" [{}])]
    let operation : Operation := .views (.addBuilder ⟨1⟩ {})
    let rest : List Operation := [.users (.push "cleo" "")]
    let form := (blank .edit).run before
    let next := form.perform operation
    form.identities =
        [.view ⟨1⟩, .builder ⟨1⟩ ⟨0⟩, .view ⟨2⟩, .row 1] ∧
      form.handsOut operation = [.builder ⟨1⟩ ⟨2⟩] ∧
      form.Sound ∧
      (∃ front back,
        next.identities =
            front ++ [.builder ⟨1⟩ ⟨2⟩] ++ back ∧
          front ++ back =
            form.identities.filter fun identity =>
              !operation.closes identity) ∧
      (∀ earlier, earlier <+: before →
        .builder ⟨1⟩ ⟨2⟩ ∉
          ((blank .edit).run earlier).identities) ∧
      loadsFirst (before ++ operation :: rest) ∧
      ∀ kind,
        Identity.count kind
          ((blank .edit).handedOut
            (before ++ operation :: rest)) < 2 ^ 32 := by
  intro before operation rest form next
  have hLoads : loadsFirst (before ++ operation :: rest) := by
    decide
  have hRoom :
      ∀ kind,
        Identity.count kind
          ((blank .edit).handedOut
            (before ++ operation :: rest)) < 2 ^ 32 := by
    intro kind
    cases kind with
    | _ => decide +kernel
  have hShown :
      form.identities =
        [.view ⟨1⟩, .builder ⟨1⟩ ⟨0⟩, .view ⟨2⟩, .row 1] := by
    decide +kernel
  have hGiven :
      form.handsOut operation = [.builder ⟨1⟩ ⟨2⟩] := by
    decide +kernel
  rcases identities_never_reused hLoads hRoom rfl with
    ⟨hSound, hNext, _⟩
  rcases hNext operation rest rfl with ⟨hInserted, _, hFresh⟩
  refine ⟨hShown, hGiven, hSound, ?_, ?_, hLoads, hRoom⟩
  · rw [← hGiven]
    exact hInserted
  · intro earlier hEarlier
    apply hFresh earlier hEarlier
    have hMember := List.mem_singleton_self
      (Identity.builder ⟨1⟩ ⟨2⟩)
    rw [← hGiven] at hMember
    exact hMember

end Form

end BuildForm
