import Mathlib.Data.List.Nodup
import BuildForm.Form.Basic
import BuildForm.Proofs.Form.Numbering
import BuildForm.Proofs.Record.Table
import BuildForm.Proofs.Text.Numeral

/-
  The hidden inputs that a form is sent with.

  They go into a table under their element names, so that two
  inputs of one name would be one. The name of an input is
  made of the ordinal of its view and of its kind, and tells
  both, so that no input is lost as long as no two views have
  the same ordinal.

  Main declarations:
    * `Form.hiddenName_injective`
    * `Form.entries_hiddenFields`
-/

------------------------------------------------------------
-- Names of Hidden Inputs
------------------------------------------------------------

namespace BuildForm

theorem ViewId.toList_domId (id : ViewId) :
    id.domId.toList =
      lead.toList ++ Text.digits id.ordinal.toNat := by
  simp [domId]

/- A view can be told from the digits of its ordinal. -/
theorem ViewId.eq_of_digits
    {first second : ViewId}
    (hDigits :
      Text.digits first.ordinal.toNat =
        Text.digits second.ordinal.toNat) :
    first = second := by
  have hOrdinal : first.ordinal = second.ordinal :=
    UInt32.toNat_inj.mp (Text.digits_injective hDigits)
  rcases first with ⟨ordinal⟩
  exact congrArg mk hOrdinal

namespace Form

/- The element name of a hidden input. -/
def hiddenName (id : ViewId) (kind : SelectionKind) : String :=
  id.domId ++ "/" ++ kind.hiddenName

theorem toList_hiddenName (id : ViewId) (kind : SelectionKind) :
    (hiddenName id kind).toList =
      ViewId.lead.toList ++
        (Text.digits id.ordinal.toNat ++
          '/' :: kind.hiddenName.toList) := by
  simp [hiddenName, ViewId.toList_domId]

/- The name of a hidden input tells its view and its kind. -/
theorem hiddenName_injective
    {first second : ViewId}
    {kind other : SelectionKind}
    (hName : hiddenName first kind = hiddenName second other) :
    first = second ∧ kind = other := by
  have hList := congrArg String.toList hName
  rw [toList_hiddenName, toList_hiddenName,
    List.append_cancel_left_eq] at hList
  have hOther : '/' ∉ kind.hiddenName.toList := by
    cases kind with
    | artifacts => decide
    | versionFiles => decide
  rcases
    (List.append_cons_inj_of_notMem
      (Text.slash_not_mem_digits first.ordinal.toNat)
      hOther).mp hList with ⟨hDigits, _, hKind⟩
  refine ⟨ViewId.eq_of_digits hDigits, ?_⟩
  cases kind with
  | artifacts =>
      cases other with
      | artifacts => rfl
      | versionFiles => exact absurd hKind (by decide)
  | versionFiles =>
      cases other with
      | artifacts => exact absurd hKind (by decide)
      | versionFiles => rfl

/- No input of a view is called like that of the machines. -/
theorem hiddenName_ne_machines
    (id : ViewId)
    (kind : SelectionKind) :
    hiddenName id kind ≠ "build_machine_configuration" := by
  intro hName
  have hFirst :=
    congrArg (fun name => name.toList.head?) hName
  rw [toList_hiddenName] at hFirst
  simp [ViewId.lead] at hFirst

/- The hidden inputs of a view, by their element names. -/
theorem keys_hiddenFieldsOf (view : View) :
    Entries.keys (hiddenFieldsOf view) =
      [hiddenName view.id .artifacts,
        hiddenName view.id .versionFiles] :=
  rfl

theorem keys_flatMap_hiddenFieldsOf (views : List View) :
    Entries.keys (views.flatMap hiddenFieldsOf) =
      views.flatMap fun view =>
        Entries.keys (hiddenFieldsOf view) :=
  List.map_flatMap

/- Views of different ordinals have no name in common. -/
theorem nodup_keys
    {views : List View}
    (hOrdinals : (views.map (·.id.ordinal)).Nodup)
    (machines : String) :
    (Entries.keys
      (("build_machine_configuration", machines) ::
        views.flatMap hiddenFieldsOf)).Nodup := by
  rw [Entries.keys, List.map_cons, List.nodup_cons]
  change
    _ ∉ Entries.keys (views.flatMap hiddenFieldsOf) ∧
      (Entries.keys (views.flatMap hiddenFieldsOf)).Nodup
  rw [keys_flatMap_hiddenFieldsOf]
  refine ⟨?_, ?_⟩
  · intro hMember
    rcases List.mem_flatMap.mp hMember with ⟨view, _, hName⟩
    rw [keys_hiddenFieldsOf] at hName
    rcases List.mem_pair.mp hName with hSame | hSame
    · exact hiddenName_ne_machines _ _ hSame.symm
    · exact hiddenName_ne_machines _ _ hSame.symm
  · rw [List.nodup_flatMap]
    refine ⟨?_, ?_⟩
    · intro view _
      rw [keys_hiddenFieldsOf, List.nodup_cons]
      refine ⟨?_, List.nodup_singleton _⟩
      intro hMember
      have hKinds :=
        hiddenName_injective (List.mem_singleton.mp hMember)
      cases hKinds.2
    · apply (List.pairwise_map.mp hOrdinals).imp
      intro first second hOther name hFirst hSecond
      have hOwner :
          ∀ view : View,
            name ∈ Entries.keys (hiddenFieldsOf view) →
            ∃ kind, name = hiddenName view.id kind := by
        intro view hName
        rw [keys_hiddenFieldsOf] at hName
        rcases List.mem_pair.mp hName with hSame | hSame
        · exact ⟨_, hSame⟩
        · exact ⟨_, hSame⟩
      rcases hOwner first hFirst with ⟨kind, hName⟩
      rcases hOwner second hSecond with ⟨other, hSame⟩
      rw [hName] at hSame
      exact hOther
        (congrArg ViewId.ordinal (hiddenName_injective hSame).1)

/- No hidden input takes the place of another one. -/
theorem entries_hiddenFields
    {form : Form}
    (hOrdinals : form.views.numbering.ordinals.Nodup) :
    form.hiddenFields.entries =
      ("build_machine_configuration",
          form.machines.hidden.raw) ::
        form.views.items.flatMap hiddenFieldsOf := by
  let table : Table String :=
    { entries :=
        ("build_machine_configuration",
            form.machines.hidden.raw) ::
          form.views.items.flatMap hiddenFieldsOf
      nodup := nodup_keys hOrdinals form.machines.hidden.raw }
  exact congrArg Table.entries (Table.ofList_entries table)

theorem length_flatMap_hiddenFieldsOf (views : List View) :
    (views.flatMap hiddenFieldsOf).length =
      2 * views.length := by
  induction views with
  | nil => rfl
  | cons view views ih =>
      rw [List.flatMap_cons, List.length_append, ih,
        List.length_cons]
      simp [hiddenFieldsOf]
      omega

end Form

end BuildForm
