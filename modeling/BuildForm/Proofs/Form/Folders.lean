import Mathlib.Data.List.Perm.Subperm
import BuildForm.Proofs.Form.Check
import BuildForm.Proofs.Form.HiddenFields
import BuildForm.Proofs.Form.Numbering
import BuildForm.Proofs.Form.Reopen

/-
  The folders of the views of a form.

  A view of a stored configuration has the folder that was
  stored, and a fresh one a folder made of its ordinal. A page
  that opens on stored views numbers them anew, from zero, so
  that a folder of an earlier page can come up again: the
  folders are apart as long as those stored are the ones that
  the first ordinals make.

  Main declarations:
    * `Scm.freshFolder_injective`
    * `Scm.folderAt`
    * `Scm.IsGapless`
    * `Scm.keepsApart_iff_isGapless`
    * `Views.AreFoldered`
    * `Views.AreFoldered.nodup_folders`
    * `Views.AreFoldered.areDerived_folders`
-/

------------------------------------------------------------
-- Folders of Fresh Views
------------------------------------------------------------

namespace BuildForm

namespace Scm

/- Fresh views with different ordinals have folders apart. -/
theorem freshFolder_injective (scm : Scm) :
    Function.Injective scm.freshFolder := by
  have hText :
      ∀ ordinal : UInt32,
        (scm.freshFolder ordinal).toList =
          scm.baseFolder.toList ++
            if ordinal = 0 then
              []
            else
              Text.digits ordinal.toNat := by
    intro ordinal
    unfold freshFolder
    split
    · rw [List.append_nil]
    · rw [String.toList_append, String.toList_ofList]
  intro first second hSame
  have hSuffix := congrArg String.toList hSame
  rw [hText, hText, List.append_cancel_left_eq] at hSuffix
  split_ifs at hSuffix with hFirst hSecond hSecond
  · rw [hFirst, hSecond]
  · exact absurd hSuffix.symm Nat.toDigits_ne_nil
  · exact absurd hSuffix Nat.toDigits_ne_nil
  · exact UInt32.toNat_inj.mp (Text.digits_injective hSuffix)

/-
  The folder of the view with an ordinal, on a page that was
  opened on some stored folders.
-/
def folderAt
    (scm : Scm)
    (stored : List String)
    (ordinal : UInt32) : String :=
  stored[ordinal.toNat]?.getD (scm.freshFolder ordinal)

/- On a page that was just opened these are all there are. -/
theorem map_folderAt_upward
    (scm : Scm)
    {stored : List String}
    (hRoom : stored.length < 2 ^ 32) :
    (Numbering.upward 0 stored.length).map
        (scm.folderAt stored) =
      stored := by
  have hOrdinals :
      (Numbering.upward 0 stored.length).map UInt32.toNat =
        List.range' 0 stored.length :=
    Numbering.map_toNat_upward (by simpa using hRoom)
  apply List.ext_getElem
  · simp
  · intro index _ hIndex
    have hOrdinal :=
      List.getElem_of_eq hOrdinals
        (i := index) (by simpa using hIndex)
    rw [List.getElem_map, List.getElem_range'] at hOrdinal
    rw [List.getElem_map]
    unfold folderAt
    rw [hOrdinal]
    simp [hIndex]

/-
  Stored folders that stay apart from those of fresh views:
  they differ, and no later ordinal makes one of them.
-/
structure KeepsApart
    (scm : Scm)
    (stored : List String) : Prop where
  nodup : stored.Nodup
  fresh :
    ∀ ordinal : UInt32,
      stored.length ≤ ordinal.toNat →
      scm.freshFolder ordinal ∉ stored

/- Stored folders that were made of ordinals on some page. -/
def AreDerived (scm : Scm) (stored : List String) : Prop :=
  ∀ folder ∈ stored,
    ∃ ordinal : UInt32,
      ordinal.toNat + 1 < 2 ^ 32 ∧
        folder = scm.freshFolder ordinal

/- As many stored folders as the ordinals they are made of. -/
def IsGapless (scm : Scm) (stored : List String) : Prop :=
  ∀ ordinal : UInt32,
    ordinal.toNat < stored.length →
    scm.freshFolder ordinal ∈ stored

/- With folders apart, so are those of all ordinals. -/
theorem KeepsApart.injective_folderAt
    {scm : Scm}
    {stored : List String}
    (hApart : scm.KeepsApart stored) :
    Function.Injective (scm.folderAt stored) := by
  have hFresh :
      ∀ ordinal : UInt32,
        stored.length ≤ ordinal.toNat →
        scm.folderAt stored ordinal =
          scm.freshFolder ordinal := by
    intro ordinal hLater
    unfold folderAt
    rw [List.getElem?_eq_none hLater]
    rfl
  have hStored :
      ∀ (ordinal : UInt32)
        (hEarlier : ordinal.toNat < stored.length),
        scm.folderAt stored ordinal =
          stored[ordinal.toNat] := by
    intro ordinal hEarlier
    unfold folderAt
    rw [List.getElem?_eq_getElem hEarlier]
    rfl
  intro first second hSame
  rcases Nat.lt_or_ge first.toNat stored.length with
    hFirst | hFirst <;>
  rcases Nat.lt_or_ge second.toNat stored.length with
    hSecond | hSecond
  · rw [hStored first hFirst, hStored second hSecond] at hSame
    exact
      UInt32.toNat_inj.mp
        ((hApart.nodup.getElem_inj_iff).mp hSame)
  · rw [hStored first hFirst, hFresh second hSecond] at hSame
    refine absurd ?_ (hApart.fresh second hSecond)
    rw [← hSame]
    exact List.getElem_mem hFirst
  · rw [hFresh first hFirst, hStored second hSecond] at hSame
    refine absurd ?_ (hApart.fresh first hFirst)
    rw [hSame]
    exact List.getElem_mem hSecond
  · rw [hFresh first hFirst, hFresh second hSecond] at hSame
    exact scm.freshFolder_injective hSame

/-
  Folders that pages made stay apart from fresh ones exactly
  if they are those of the first ordinals.
-/
theorem keepsApart_iff_isGapless
    {scm : Scm}
    {stored : List String}
    (hDerived : scm.AreDerived stored)
    (hRoom : stored.length < 2 ^ 32) :
    scm.KeepsApart stored ↔ scm.IsGapless stored := by
  let first :=
    (Numbering.upward 0 stored.length).map scm.freshFolder
  have hSound := Numbering.sound_ofCount hRoom
  have hNodup : first.Nodup :=
    hSound.nodup.map scm.freshFolder_injective
  have hLength : first.length = stored.length := by
    simp [first]
  have hMember :
      ∀ ordinal : UInt32,
        ordinal.toNat < stored.length ↔
          scm.freshFolder ordinal ∈ first := by
    intro ordinal
    rw [List.mem_map_of_injective scm.freshFolder_injective,
      Numbering.mem_upward (by simpa using hRoom)]
    simp
  constructor
  · intro hApart ordinal hEarlier
    have hSubset : stored ⊆ first := by
      intro folder hFolder
      rcases hDerived folder hFolder with ⟨made, _, rfl⟩
      rw [← hMember]
      by_contra hLater
      exact hApart.fresh made (Nat.not_lt.mp hLater) hFolder
    have hPerm :=
      (List.subperm_of_subset hApart.nodup
        hSubset).perm_of_length_le hLength.le
    exact hPerm.symm.subset ((hMember ordinal).mp hEarlier)
  · intro hGapless
    have hSubset : first ⊆ stored := by
      intro folder hFolder
      rcases List.mem_map.mp hFolder with ⟨made, _, rfl⟩
      exact hGapless made ((hMember made).mpr hFolder)
    have hPerm :=
      (List.subperm_of_subset hNodup
        hSubset).perm_of_length_le hLength.ge
    refine ⟨hPerm.nodup_iff.mp hNodup, ?_⟩
    intro ordinal hLater hStored
    exact
      absurd ((hMember ordinal).mpr (hPerm.symm.subset hStored))
        (Nat.not_lt.mpr hLater)

end Scm

end BuildForm

------------------------------------------------------------
-- Folders of Views
------------------------------------------------------------

namespace BuildForm

/- The ordinals that were given out are no more than these. -/
theorem Numbering.Sound.length_le
    {numbering : Numbering}
    (hSound : numbering.Sound) :
    numbering.ordinals.length ≤ numbering.next.toNat := by
  have hNodup :
      (numbering.ordinals.map UInt32.toNat).Nodup :=
    hSound.nodup.map fun _ _ hSame => UInt32.toNat_inj.mp hSame
  have hSubset :
      numbering.ordinals.map UInt32.toNat ⊆
        List.range numbering.next.toNat := by
    intro value hValue
    rcases List.mem_map.mp hValue with ⟨ordinal, hOrdinal, rfl⟩
    rw [List.mem_range, ← UInt32.lt_iff_toNat_lt]
    exact hSound.below ordinal hOrdinal
  simpa using (List.subperm_of_subset hNodup hSubset).length_le

namespace Views

/- The folders of the views, in order. -/
def folders (views : Views) : List String :=
  views.items.map (·.localDirectoryPath.value)

theorem folders_records (views : Views) :
    views.records.map (·.localDirectoryPath) =
      views.folders := by
  simp [records, folders, Function.comp_def, View.toRecord]

/-
  Views of a page that was opened on some stored folders. No
  folder was typed: each is the one of its ordinal.
-/
structure AreFoldered
    (scm : Scm)
    (stored : List String)
    (views : Views) : Prop where
  sound : views.numbering.Sound
  least : stored.length ≤ views.nextOrdinal.toNat
  each :
    ∀ view ∈ views.items,
      view.localDirectoryPath.value =
        scm.folderAt stored view.id.ordinal

variable {scm : Scm}
variable {stored : List String}
variable {views after : Views}

namespace AreFoldered

theorem folders_eq
    (hViews : views.AreFoldered scm stored) :
    views.folders =
      views.numbering.ordinals.map (scm.folderAt stored) := by
  unfold folders numbering
  rw [List.map_map]
  exact List.map_congr_left hViews.each

/- Where those stored are kept apart, all folders are. -/
theorem nodup_folders
    (hViews : views.AreFoldered scm stored)
    (hApart : scm.KeepsApart stored) :
    views.folders.Nodup := by
  rw [hViews.folders_eq]
  exact hViews.sound.nodup.map hApart.injective_folderAt

/- What is saved is made of ordinals, if what was stored is. -/
theorem areDerived_folders
    (hViews : views.AreFoldered scm stored)
    (hDerived : scm.AreDerived stored) :
    scm.AreDerived views.folders := by
  intro folder hFolder
  rw [hViews.folders_eq, List.mem_map] at hFolder
  rcases hFolder with ⟨ordinal, hOrdinal, rfl⟩
  unfold Scm.folderAt
  rcases Nat.lt_or_ge ordinal.toNat stored.length with
    hEarlier | hLater
  · rw [List.getElem?_eq_getElem hEarlier]
    exact hDerived _ (List.getElem_mem hEarlier)
  · rw [List.getElem?_eq_none hLater]
    refine ⟨ordinal, ?_, rfl⟩
    have hBelow :=
      UInt32.lt_iff_toNat_lt.mp
        (hViews.sound.below ordinal hOrdinal)
    have hNext := views.numbering.next.toNat_lt
    omega

theorem length_lt (hViews : views.AreFoldered scm stored) :
    views.folders.length < 2 ^ 32 := by
  have hLength := hViews.sound.length_le
  have hNext := views.numbering.next.toNat_lt
  unfold folders
  rw [List.length_map]
  unfold numbering at hLength hNext
  rw [List.length_map] at hLength
  omega

theorem retained
    (hViews : views.AreFoldered scm stored)
    (hRetains : views.Retains after) :
    after.AreFoldered scm stored where
  sound := hRetains.sound hViews.sound
  least := by
    rw [hRetains.next]
    exact hViews.least
  each := by
    intro view hView
    have hPlace :=
      hRetains.places.subset (List.mem_map_of_mem hView)
    rcases List.mem_map.mp hPlace with ⟨old, hOld, hSame⟩
    rcases Prod.mk.inj hSame with ⟨hId, hFolder⟩
    rw [← hId, ← hFolder]
    exact hViews.each old hOld

end AreFoldered

/- Folders that are those of the ordinals in order. -/
theorem areFoldered_of_folders
    (hSound : views.numbering.Sound)
    (hLeast : stored.length ≤ views.nextOrdinal.toNat)
    (hFolders :
      views.folders =
        views.numbering.ordinals.map (scm.folderAt stored)) :
    views.AreFoldered scm stored where
  sound := hSound
  least := hLeast
  each := by
    unfold folders numbering at hFolders
    rw [List.map_map] at hFolders
    exact List.map_inj_left.mp hFolders

/- Only the numbers and the folders matter. -/
theorem AreFoldered.of_same
    (hViews : views.AreFoldered scm stored)
    (hNumbering : after.numbering = views.numbering)
    (hFolders : after.folders = views.folders) :
    after.AreFoldered scm stored := by
  have hNext : after.nextOrdinal = views.nextOrdinal :=
    congrArg Numbering.next hNumbering
  apply areFoldered_of_folders
  · rw [hNumbering]
    exact hViews.sound
  · rw [hNext]
    exact hViews.least
  · rw [hFolders, hNumbering]
    exact hViews.folders_eq

/- Views that were just loaded have the folders stored. -/
theorem areFoldered_of_loaded
    (scm : Scm)
    (hNumbering :
      views.numbering = Numbering.ofCount stored.length)
    (hFolders : views.folders = stored)
    (hRoom : stored.length < 2 ^ 32) :
    views.AreFoldered scm stored := by
  apply areFoldered_of_folders
  · rw [hNumbering]
    exact Numbering.sound_ofCount hRoom
  · change stored.length ≤ views.numbering.next.toNat
    rw [hNumbering]
    exact (UInt32.toNat_ofNat_of_lt' hRoom).ge
  · rw [hNumbering, hFolders]
    exact (scm.map_folderAt_upward hRoom).symm

/- A fresh view that is appended has that of its ordinal. -/
theorem AreFoldered.appended
    (hViews : views.AreFoldered scm stored)
    (hNumbering : after.numbering = views.numbering.appended)
    (hFolders :
      after.folders =
        views.folders ++ [scm.freshFolder views.nextOrdinal])
    (hRoom : views.nextOrdinal.toNat + 1 < 2 ^ 32) :
    after.AreFoldered scm stored := by
  have hStep := views.numbering.step_appended
  have hNext :
      after.nextOrdinal.toNat = views.nextOrdinal.toNat + 1 := by
    change after.numbering.next.toNat = _
    rw [hNumbering]
    exact hStep.toNat_next hRoom
  have hLast :
      scm.folderAt stored views.nextOrdinal =
        scm.freshFolder views.nextOrdinal := by
    unfold Scm.folderAt
    rw [List.getElem?_eq_none hViews.least]
    rfl
  apply areFoldered_of_folders
  · rw [hNumbering]
    exact hStep.sound hRoom hViews.sound
  · have hLeast := hViews.least
    omega
  · rw [hFolders, hNumbering, hViews.folders_eq]
    unfold Numbering.appended
    rw [List.map_append]
    change _ = _ ++ [scm.folderAt stored views.nextOrdinal]
    rw [hLast]

/- A fresh view is appended with the folder of its ordinal. -/
theorem folders_insert
    (views : Views)
    (fragment : ViewFragment)
    (scm : Scm) :
    (views.insert fragment scm).2.folders =
      views.folders ++ [scm.freshFolder views.nextOrdinal] :=
  map_insert (·.localDirectoryPath.value) (fun _ _ => rfl) views
    fragment scm

/- Stored views have the folders that were stored. -/
theorem folders_load
    {views : Views}
    (hItems : views.items = [])
    (loaded : LoadedViews) :
    (views.load loaded).folders =
      loaded.views.map (·.localDirectoryPath) := by
  rw [← folders_records, records_load hItems, List.map_map]
  rfl

/- A change that leaves the places of all views alone. -/
theorem retains_modify
    {change : View → View}
    (hChange : ∀ view, (change view).place = view.place)
    (views : Views)
    (id : ViewId) :
    views.Retains (views.modify id change) := by
  unfold modify
  split
  · rename_i changed hAmend
    rcases map_amend View.place hChange hAmend with
      ⟨hItems, hNext⟩
    exact .of_map_place hItems hNext
  · exact .refl views

end Views

end BuildForm

------------------------------------------------------------
-- Folders and the Rest of a Form
------------------------------------------------------------

namespace BuildForm

namespace Form

/- Only typing a folder gives a view another one. -/
theorem viewsRetained_edit
    (form : Form)
    {path : FieldPath}
    (hPath : ∀ id, path ≠ .view id .localDirectoryPath)
    (value : String)
    (validate : Bool) :
    form.views.Retains
      (form.edit path value validate).2.views := by
  have hForget :
      form.views.Retains (form.forget path).views := by
    rw [form.views_forget]
    exact .refl form.views
  have hMap :
      ∀ change : Field → Field,
        form.views.Retains
          ((form.forget path).mapField path change).views := by
    intro change
    rw [← form.views_forget path]
    cases path with
    | view id name =>
        apply Views.retains_modify
        intro view
        cases name with
        | localDirectoryPath => exact absurd rfl (hPath id)
        | _ => rfl
    | builder id builder =>
        apply Views.retains_modify
        exact fun view => rfl
    | _ => exact .refl _
  rcases form.snd_edit path value validate with
    hSame | hOnly | ⟨field, _, hEdit⟩
  · rw [hSame]
    exact .refl form.views
  · rw [hOnly]
    exact hForget
  · rw [hEdit]
    exact hMap _

theorem scm_mapField
    (form : Form)
    (path : FieldPath)
    (change : Field → Field) :
    (form.mapField path change).scm = form.scm := by
  cases path with
  | _ => rfl

theorem scm_forget (form : Form) (path : FieldPath) :
    (form.forget path).scm = form.scm := by
  cases path with
  | _ => rfl

theorem scm_edit
    (form : Form)
    (path : FieldPath)
    (value : String)
    (validate : Bool) :
    (form.edit path value validate).2.scm = form.scm := by
  rcases form.snd_edit path value validate with
    hSame | hOnly | ⟨field, _, hEdit⟩
  · rw [hSame]
  · rw [hOnly, scm_forget]
  · rw [hEdit, scm_mapField, scm_forget]

theorem scm_mapTrigger
    (form : Form)
    (path : FieldPath)
    (change : Trigger → Trigger) :
    (form.mapTrigger path change).scm = form.scm := by
  cases path with
  | _ => rfl

/- The source control is the one that the page opened with. -/
theorem scm_step
    {mode : PageMode}
    {form after : Form}
    (hStep : Form.Step mode form after) :
    after.scm = form.scm := by
  cases hStep with
  | edit path value validate =>
      exact form.scm_edit path value validate
  | judge path check => exact form.scm_mapTrigger path _
  | check =>
      rcases form.exists_check_eq with
        ⟨_, _, _, _, _, _, _, hCheck⟩
      rw [hCheck]
  | _ => rfl

theorem scm_tick
    {form after : Form}
    (hTick : Form.Tick form after) :
    after.scm = form.scm := by
  cases hTick with
  | email enabled =>
      unfold setEmailEnabled
      split
      · rfl
      · rfl
  | comments enabled =>
      unfold setCommentsEnabled
      split
      · rfl
      · rfl
  | machine node checked =>
      unfold toggleMachine
      split
      · rfl
      · rfl

end Form

end BuildForm
