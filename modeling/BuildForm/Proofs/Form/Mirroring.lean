import BuildForm.Proofs.Form.Settled
import BuildForm.Proofs.Form.Stripping

/-
  The options of a box and the hidden input that goes with
  them.

  Options are added and removed as entries of a list, while
  the hidden input is edited as a text. Both agree as long as
  every text that is taken is one entry and no option is
  removed that lies within one listed before it: such an
  option is cut out of the earlier one and stays where it was.

  Main declarations:
    * `SelectionBox.Mirrors`
    * `SelectionBox.Severs`
    * `SelectionBox.mirrors_until_severed`
    * `SelectionBox.added_paths_spell_options`
-/

------------------------------------------------------------
-- Options and Entries
------------------------------------------------------------

namespace BuildForm

namespace SelectionBox

open HiddenList (IsEntry CutOut)

variable {box : SelectionBox}

/- The entries of the hidden input are the options. -/
structure Mirrors (box : SelectionBox) : Prop where
  entries : box.hidden.entries = box.options
  nodup : box.options.Nodup

/-
  The change removes an option whose text lies within one
  listed before it.
-/
def Severs (box : SelectionBox) (next : Change) : Prop :=
  next.isRemoval ∧
    ∃ index ∈ box.selected,
      ∃ value ∈ box.options[index]?,
        ∃ option ∈ box.options.take index,
          value.toList <:+: option.toList

instance (box : SelectionBox) (next : Change) :
    Decidable (box.Severs next) := by
  unfold Severs
  infer_instance

/- The options around one of them. -/
theorem split_of_getElem?
    {options : List String}
    {index : Nat}
    {value : String}
    (hValue : value ∈ options[index]?) :
    options =
      options.take index ++
        value :: options.drop (index + 1) := by
  rcases List.getElem?_eq_some_iff.mp hValue with
    ⟨hBound, hSame⟩
  rw [← hSame, ← List.drop_eq_getElem_cons hBound,
    List.take_append_drop]

namespace Mirrors

/- A text that is one entry may be appended. -/
theorem append
    (hMirrors : box.Mirrors)
    {value : String}
    (hEntry : IsEntry value.toList)
    (hNew : ¬box.contains value) :
    (box.append value).Mirrors where
  entries := by
    change (box.hidden.push value).entries = _
    rw [HiddenList.entries_push, hEntry.decode,
      hMirrors.entries]
    rfl
  nodup := nodup_append hMirrors.nodup hNew

theorem add
    (hMirrors : box.Mirrors)
    {candidate : String}
    (hPlain : HiddenList.separator ∉ candidate.toList) :
    (box.add candidate).2.Mirrors := by
  by_cases hTakes : box.Takes candidate
  · have hEntry : IsEntry candidate.toList := by
      refine ⟨?_, hPlain⟩
      rw [Ne, String.toList_eq_nil_iff]
      exact (of_decide_eq_true hTakes.1).1
    have hNew : ¬box.contains candidate := by
      simpa [contains] using hTakes.2
    rw [add_of_takes hTakes]
    exact { hMirrors.append hEntry hNew with }
  · rcases add_of_not_takes hTakes with ⟨fault, hSame⟩
    rw [hSame]
    exact { hMirrors with }

/- The highlight does not matter. -/
theorem highlight
    (hMirrors : box.Mirrors)
    {after : SelectionBox}
    (hAfter :
      ∃ selected, after = { box with selected := selected }) :
    after.Mirrors := by
  rcases hAfter with ⟨selected, rfl⟩
  exact { hMirrors with }

/- To remove an option cuts it out of the options. -/
theorem cutOut_iff
    (hMirrors : box.Mirrors)
    {value : String}
    (hMember : value ∈ box.options)
    {result : List String} :
    CutOut value box.options result ↔
      (box.hidden.remove value).entries = result := by
  have hDecoded :
      HiddenList.decode box.hidden.raw = box.options :=
    hMirrors.entries
  rw [← hDecoded] at hMember ⊢
  exact
    HiddenList.cutOut_iff
      (HiddenList.isEntry_of_mem_decode hMember) box.hidden.raw

/- An option that lies within no earlier one may be removed. -/
theorem removeSelected
    (hMirrors : box.Mirrors)
    (hApart :
      ∀ index ∈ box.selected,
        ∀ value ∈ box.options[index]?,
          ∀ option ∈ box.options.take index,
            ¬value.toList <:+: option.toList) :
    box.removeSelected.2.Mirrors := by
  refine ⟨?_, nodup_removeSelected hMirrors.nodup⟩
  cases hFound : box.selectedValue? with
  | none =>
      rw [removeSelected_of_none hFound]
      exact hMirrors.entries
  | some value =>
      rcases Option.bind_eq_some_iff.mp hFound with
        ⟨index, hIndex, hValue⟩
      rw [removeSelected_of_selected hIndex hValue]
      apply (hMirrors.cutOut_iff
        (List.mem_of_getElem? hValue)).mp
      have hCut :=
        HiddenList.cutOut_middle
          (hApart index hIndex value hValue)
          (box.options.drop (index + 1))
      rwa [← split_of_getElem? hValue,
        ← List.eraseIdx_eq_take_drop_succ] at hCut

/- One case for each change, if it severs nothing. -/
theorem change
    (hMirrors : box.Mirrors)
    {next : Change}
    (hPlain :
      ∀ candidate,
        next = .add candidate →
        HiddenList.separator ∉ candidate.toList)
    (hWhole : ¬box.Severs next) :
    (box.change next).Mirrors := by
  have hRemoved :
      next.isRemoval → box.removeSelected.2.Mirrors := by
    intro hRemoval
    apply hMirrors.removeSelected
    intro index hIndex value hValue option hOption hWithin
    exact hWhole
      ⟨hRemoval, index, hIndex, value, hValue, option, hOption,
        hWithin⟩
  cases next with
  | add candidate => exact hMirrors.add (hPlain candidate rfl)
  | select delta => exact hMirrors.highlight (box.select_eq delta)
  | selectValue value =>
      exact hMirrors.highlight (box.selectValue_eq value)
  | press key deleteKey =>
      by_cases hRemoval : (Change.press key deleteKey).isRemoval
      · rw [change_of_isRemoval box hRemoval]
        exact hRemoved hRemoval
      · exact hMirrors.highlight
          (box.press_of_not_isRemoval hRemoval)
  | removeSelected => exact hRemoved rfl
  | setEnabled enabled =>
      exact ⟨HiddenList.entries_empty, List.nodup_nil⟩

/-
  A removal that severs an earlier option leaves as many
  entries as before, and one option less.
-/
theorem entries_ne_of_severs
    (hMirrors : box.Mirrors)
    {next : Change}
    (hSevers : box.Severs next) :
    (box.change next).hidden.entries ≠
      (box.change next).options := by
  rcases hSevers with
    ⟨hRemoval, index, hIndex, value, hValue, hWithin⟩
  have hSplit := split_of_getElem? hValue
  have hNew : value ∉ box.options.take index := by
    have hNodup := hMirrors.nodup
    rw [hSplit] at hNodup
    intro hMember
    exact
      (List.nodup_append.mp hNodup).2.2 value hMember value
        List.mem_cons_self rfl
  -- The cut hits an earlier option, so that no entry is gone.
  have hCut :=
    (hMirrors.cutOut_iff (List.mem_of_getElem? hValue)).mpr rfl
  rw [hSplit] at hCut
  have hLength := hCut.length_eq hNew hWithin
  rw [← hSplit] at hLength
  have hBound := (List.getElem?_eq_some_iff.mp hValue).1
  rw [change_of_isRemoval box hRemoval,
    removeSelected_of_selected hIndex hValue]
  intro hSame
  rw [hSame, List.length_eraseIdx_of_lt hBound] at hLength
  omega

end Mirrors

/- The box of entries mirrors them. -/
theorem mirrors_ofEntries
    (owner : ViewId)
    (kind : SelectionKind)
    {entries : List String}
    (hEntries : ∀ entry ∈ entries, IsEntry entry.toList) :
    (ofEntries owner kind entries).Mirrors := by
  induction entries using List.reverseRecOn with
  | nil => exact ⟨HiddenList.entries_empty, List.nodup_nil⟩
  | append_singleton entries entry ih =>
      have hMirrors := ih fun other hOther =>
        hEntries other (List.mem_append_left [entry] hOther)
      rw [ofEntries_append]
      dsimp only
      split
      · exact hMirrors
      · rename_i hNew
        exact hMirrors.append (hEntries entry (by simp)) hNew

end SelectionBox

end BuildForm

------------------------------------------------------------
-- Runs of Changes
------------------------------------------------------------

namespace BuildForm

namespace SelectionBox

open HiddenList (IsEntry)

/- The box after so many of the changes. -/
def afterFirst
    (box : SelectionBox)
    (count : Nat)
    (changes : List Change) : SelectionBox :=
  box.changeAll (changes.take count)

variable {box : SelectionBox}
variable {changes : List Change}

theorem afterFirst_succ
    {count : Nat}
    {next : Change}
    (hNext : changes[count]? = some next) :
    box.afterFirst (count + 1) changes =
      (box.afterFirst count changes).change next := by
  unfold afterFirst changeAll
  rw [List.take_add_one, hNext, Option.toList_some,
    List.foldl_append]
  rfl

/- After the last change nothing changes. -/
theorem afterFirst_succ_of_none
    {count : Nat}
    (hNext : changes[count]? = none) :
    box.afterFirst (count + 1) changes =
      box.afterFirst count changes := by
  unfold afterFirst
  rw [List.take_add_one, hNext, Option.toList_none,
    List.append_nil]

/- A box keeps mirroring as long as nothing is severed. -/
theorem Mirrors.afterFirst
    (hMirrors : box.Mirrors)
    (hPlain :
      ∀ candidate,
        .add candidate ∈ changes →
        HiddenList.separator ∉ candidate.toList)
    {count : Nat}
    (hWhole :
      ∀ earlier < count,
        ∀ next,
          changes[earlier]? = some next →
          ¬(box.afterFirst earlier changes).Severs next) :
    (box.afterFirst count changes).Mirrors := by
  induction count with
  | zero => exact hMirrors
  | succ count ih =>
      have hBefore := ih fun earlier hEarlier =>
        hWhole earlier (Nat.lt_succ_of_lt hEarlier)
      cases hNext : changes[count]? with
      | none =>
          rw [afterFirst_succ_of_none hNext]
          exact hBefore
      | some next =>
          rw [afterFirst_succ hNext]
          apply hBefore.change
          · rintro candidate rfl
            exact hPlain candidate (List.mem_of_getElem? hNext)
          · exact hWhole count (Nat.lt_succ_self count) next
              hNext

/-
  From a box of entries on, with candidates that have no
  separator, the entries of the hidden input are the options
  after every change up to the first that severs an option,
  and they are not after that one.
-/
theorem mirrors_until_severed
    (owner : ViewId)
    (kind : SelectionKind)
    {entries : List String}
    {changes : List Change}
    (hEntries : ∀ entry ∈ entries, IsEntry entry.toList)
    (hPlain :
      ∀ candidate,
        .add candidate ∈ changes →
        HiddenList.separator ∉ candidate.toList) :
    let box (count : Nat) :=
      (ofEntries owner kind entries).afterFirst count changes
    ∀ count,
      (∀ earlier < count,
        ∀ next,
          changes[earlier]? = some next →
          ¬(box earlier).Severs next) →
      (box count).hidden.entries = (box count).options ∧
        ∀ next,
          changes[count]? = some next →
          (box count).Severs next →
          (box (count + 1)).hidden.entries ≠
            (box (count + 1)).options := by
  intro box count hWhole
  have hMirrors :=
    (mirrors_ofEntries owner kind hEntries).afterFirst hPlain
      hWhole
  refine ⟨hMirrors.entries, ?_⟩
  intro next hNext hSevers
  have hStep : box (count + 1) = (box count).change next :=
    afterFirst_succ hNext
  rw [hStep]
  exact hMirrors.entries_ne_of_severs hSevers

/- A whole option is removed first, then one within another. -/
theorem mirrors_until_severed_within :
    let start :=
      ofEntries ⟨0⟩ .artifacts ["lib/core", "bin", "core"]
    let changes : List Change :=
      [.selectValue "bin", .removeSelected,
        .press .delete .delete]
    (start.afterFirst 2 changes).hidden.entries =
        ["lib/core", "core"] ∧
      (start.afterFirst 2 changes).options =
        ["lib/core", "core"] ∧
      (start.afterFirst 2 changes).Severs
        (.press .delete .delete) ∧
      (start.afterFirst 3 changes).hidden.entries ≠
        (start.afterFirst 3 changes).options := by
  intro start changes
  have hEntries :
      ∀ entry ∈ ["lib/core", "bin", "core"],
        IsEntry entry.toList := by
    intro entry hEntry
    simp only [List.mem_cons, List.not_mem_nil,
      or_false] at hEntry
    rcases hEntry with rfl | rfl | rfl <;>
      exact ⟨by decide, by decide⟩
  have hWhole :
      ∀ earlier < 2,
        ∀ next,
          changes[earlier]? = some next →
          ¬(start.afterFirst earlier changes).Severs next := by
    intro earlier hEarlier next hNext
    have hCases : earlier = 0 ∨ earlier = 1 := by omega
    rcases hCases with rfl | rfl
    · cases hNext
      decide
    · cases hNext
      decide
  have hPlain :
      ∀ candidate,
        .add candidate ∈ changes →
        HiddenList.separator ∉ candidate.toList := by
    intro candidate hMember
    simp [changes] at hMember
  have hMirrors :=
    mirrors_until_severed ⟨0⟩ .artifacts hEntries hPlain 2
      hWhole
  have hOptions :
      (start.afterFirst 2 changes).options =
        ["lib/core", "core"] := by
    decide
  have hSevers :
      (start.afterFirst 2 changes).Severs
        (.press .delete .delete) := by
    decide
  exact
    ⟨hMirrors.1.trans hOptions, hOptions, hSevers,
      hMirrors.2 _ rfl hSevers⟩

end SelectionBox

end BuildForm

------------------------------------------------------------
-- Paths as They Are Taken
------------------------------------------------------------

namespace BuildForm

namespace SelectionBox

open HiddenList (IsEntry)

/- The box after the candidates are added in turn. -/
def addAll
    (box : SelectionBox)
    (candidates : List String) : SelectionBox :=
  box.changeAll (candidates.map .add)

variable {box : SelectionBox}

theorem addAll_concat
    (box : SelectionBox)
    (candidates : List String)
    (candidate : String) :
    box.addAll (candidates ++ [candidate]) =
      ((box.addAll candidates).add candidate).2 := by
  unfold addAll changeAll
  rw [List.map_append, List.foldl_append]
  rfl

/- Adding does not change the kind of a box. -/
theorem kind_addAll
    (box : SelectionBox)
    (candidates : List String) :
    (box.addAll candidates).kind = box.kind := by
  induction candidates using List.reverseRecOn with
  | nil => rfl
  | append_singleton candidates candidate ih =>
      rw [addAll_concat, ← ih]
      exact kind_change _ (.add candidate)

/- The options are the paths that were taken, each once. -/
theorem options_addAll
    (owner : ViewId)
    (kind : SelectionKind)
    (candidates : List String) :
    ((blank owner kind).addAll candidates).options =
      (candidates.filter kind.takes).eraseDups := by
  induction candidates using List.reverseRecOn with
  | nil => rfl
  | append_singleton candidates candidate ih =>
      have hKind :
          ((blank owner kind).addAll candidates).kind = kind :=
        (blank owner kind).kind_addAll candidates
      have hTakes :
          ((blank owner kind).addAll candidates).Takes
              candidate ↔
            kind.takes candidate ∧
              candidate ∉ candidates.filter kind.takes := by
        rw [Takes, hKind, ih, List.mem_eraseDups]
      rw [addAll_concat, List.filter_append]
      by_cases hTaken :
          ((blank owner kind).addAll candidates).Takes
            candidate
      · rcases hTakes.mp hTaken with ⟨hKept, hNew⟩
        rw [add_of_takes hTaken, List.filter_cons_of_pos hKept,
          List.filter_nil, eraseDups_concat, if_neg hNew, ← ih]
        rfl
      · rcases add_of_not_takes hTaken with ⟨fault, hSame⟩
        rw [hSame]
        change ((blank owner kind).addAll candidates).options = _
        rw [ih]
        by_cases hKept : kind.takes candidate
        · have hListed :
              candidate ∈ candidates.filter kind.takes := by
            by_contra hNew
            exact hTaken (hTakes.mpr ⟨hKept, hNew⟩)
          rw [List.filter_cons_of_pos hKept, List.filter_nil,
            eraseDups_concat, if_pos hListed]
        · rw [List.filter_cons_of_neg hKept, List.filter_nil,
            List.append_nil]

/- The hidden input spells out the options one by one. -/
theorem entries_addAll
    (owner : ViewId)
    (kind : SelectionKind)
    (candidates : List String) :
    ((blank owner kind).addAll candidates).hidden.entries =
      ((blank owner kind).addAll candidates).options.flatMap
        HiddenList.decode := by
  induction candidates using List.reverseRecOn with
  | nil => exact HiddenList.entries_empty
  | append_singleton candidates candidate ih =>
      rw [addAll_concat]
      by_cases hTakes :
          ((blank owner kind).addAll candidates).Takes
            candidate
      · rw [add_of_takes hTakes]
        change (HiddenList.push _ candidate).entries = _
        rw [HiddenList.entries_push, ih]
        simp [append]
      · rcases add_of_not_takes hTakes with ⟨fault, hSame⟩
        rw [hSame]
        exact ih

/-
  From an empty box on, the options are the paths that were
  taken, and the hidden input has the entries of each in turn.
  These are the options exactly if no path that the rule lets
  through has a separator.
-/
theorem added_paths_spell_options
    (owner : ViewId)
    (kind : SelectionKind)
    (candidates : List String) :
    let box := (blank owner kind).addAll candidates
    box.options =
        (candidates.filter kind.takes).eraseDups ∧
      box.hidden.entries =
        box.options.flatMap HiddenList.decode ∧
      (box.hidden.entries = box.options ↔
        ∀ candidate ∈ candidates,
          kind.takes candidate →
          HiddenList.separator ∉ candidate.toList) := by
  intro box
  have hOptions : box.options = _ :=
    options_addAll owner kind candidates
  have hEntries : box.hidden.entries = _ :=
    entries_addAll owner kind candidates
  refine ⟨hOptions, hEntries, ?_, ?_⟩
  · intro hSame candidate hCandidate hTakes
    have hListed : candidate ∈ box.hidden.entries := by
      rw [hSame, hOptions, List.mem_eraseDups]
      exact List.mem_filter.mpr ⟨hCandidate, hTakes⟩
    exact (HiddenList.isEntry_of_mem_decode hListed).plain
  · intro hPlain
    rw [hEntries]
    apply HiddenList.flatMap_decode
    intro option hOption
    rw [hOptions, List.mem_eraseDups] at hOption
    rcases List.mem_filter.mp hOption with
      ⟨hCandidate, hTakes⟩
    refine ⟨?_, hPlain option hCandidate hTakes⟩
    have hNonempty : option ≠ "" := by
      have hBoth := of_decide_eq_true hTakes
      exact hBoth.1
    rwa [Ne, String.toList_eq_nil_iff]

/- A path with a separator in it is taken and splits in two. -/
theorem not_added_paths_spell_themselves :
    ¬∀ (owner : ViewId) (kind : SelectionKind)
        (candidates : List String),
      ((blank owner kind).addAll candidates).hidden.entries =
        ((blank owner kind).addAll candidates).options := by
  intro hSame
  exact absurd (hSame ⟨0⟩ .artifacts ["bin;obj"]) (by decide)

end SelectionBox

end BuildForm
