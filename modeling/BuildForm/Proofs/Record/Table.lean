import BuildForm.Record.Table

/-
  Tables and the lists of entries that they are made of.

  Main declarations:
    * `Entries.foldl_put`
    * `Entries.lookup_put`
    * `Table.ofList_entries`
    * `Table.find?_of_mem`
    * `Table.find?_eq_some_iff`
    * `Table.filter_key`
    * `Table.find?_put`
-/

------------------------------------------------------------
-- Entries
------------------------------------------------------------

namespace BuildForm

namespace Entries

variable {α : Type}

/- A key that is not there yet comes last. -/
theorem put_of_not_mem
    (key : String)
    (value : α)
    (entries : List (String × α))
    (hNew : key ∉ keys entries) :
    put key value entries = entries ++ [(key, value)] := by
  induction entries with
  | nil => rfl
  | cons entry rest ih =>
      simp only [keys, List.map_cons, List.mem_cons,
        not_or] at hNew
      have hOther : ¬entry.1 = key := Ne.symm hNew.1
      simp [put, hOther, ih hNew.2]

/- Entries without a repeated key are put one by one. -/
theorem foldl_put
    (entries before : List (String × α))
    (hNodup : (keys (before ++ entries)).Nodup) :
    entries.foldl
        (fun entries entry => put entry.1 entry.2 entries)
        before =
      before ++ entries := by
  induction entries generalizing before with
  | nil => simp
  | cons entry rest ih =>
      have hNew : entry.1 ∉ keys before := by
        intro hMember
        simp only [keys, List.map_append, List.map_cons,
          List.nodup_append] at hNodup
        exact hNodup.2.2 _ hMember _ (by simp) rfl
      rw [List.foldl_cons,
        put_of_not_mem entry.1 entry.2 before hNew, ih]
      · simp
      · simpa using hNodup

/- What is put under a key is found there. -/
theorem lookup_put
    (key : String)
    (value : α)
    (entries : List (String × α))
    (other : String) :
    (put key value entries).lookup other =
      if other = key then
        some value
      else
        entries.lookup other := by
  induction entries with
  | nil => by_cases hKey : other = key <;> simp [put, hKey]
  | cons entry rest ih =>
      rcases entry with ⟨first, item⟩
      by_cases hFirst : first = key
      · subst hFirst
        rw [put, if_pos rfl, List.lookup_cons, List.lookup_cons]
        by_cases hKey : other = first
        · simp [hKey]
        · simp [beq_eq_false_iff_ne.mpr hKey, hKey]
      · rw [put, if_neg hFirst, List.lookup_cons, ih,
          List.lookup_cons]
        by_cases hKey : other = key
        · subst hKey
          simp [beq_eq_false_iff_ne.mpr (Ne.symm hFirst)]
        · simp [hKey]

end Entries

end BuildForm

------------------------------------------------------------
-- Tables
------------------------------------------------------------

namespace BuildForm

namespace Table

variable {α : Type}

/- A table is put together again from its entries. -/
theorem ofList_entries (table : Table α) :
    ofList table.entries = table := by
  have hFold :
      ∀ (entries : List (String × α)) (before : Table α),
        (entries.foldl
            (fun table entry => table.put entry.1 entry.2)
            before).entries =
          entries.foldl
            (fun entries entry =>
              Entries.put entry.1 entry.2 entries)
            before.entries := by
    intro entries
    induction entries with
    | nil => intro before; rfl
    | cons entry entries ih => intro before; exact ih _
  apply Table.ext
  exact
    (hFold table.entries empty).trans
      (Entries.foldl_put table.entries [] table.nodup)

/- Each entry of a table is the one found under its key. -/
theorem find?_of_mem
    (table : Table α)
    {key : String}
    {value : α}
    (hEntry : (key, value) ∈ table.entries) :
    table.find? key = some value := by
  have hNodup := table.nodup
  unfold find?
  revert hEntry hNodup
  induction table.entries with
  | nil => simp
  | cons entry entries ih =>
      intro hEntry hNodup
      rcases entry with ⟨first, item⟩
      rcases List.nodup_cons.mp hNodup with ⟨hNew, hRest⟩
      rcases List.mem_cons.mp hEntry with hSame | hMember
      · cases hSame
        simp
      · have hOther : key ≠ first := by
          rintro rfl
          exact hNew (List.mem_map.mpr ⟨_, hMember, rfl⟩)
        simp only [List.lookup_cons, beq_eq_false_iff_ne.mpr hOther]
        exact ih hMember hRest

theorem find?_eq_some_iff
    (table : Table α)
    {key : String}
    {value : α} :
    table.find? key = some value ↔
      (key, value) ∈ table.entries := by
  constructor
  · intro hFind
    rcases List.lookup_eq_some_iff.mp hFind with
      ⟨before, after, hEntries, _⟩
    simp [hEntries]
  · exact table.find?_of_mem

/- The entry of a key is the only one with it. -/
theorem filter_key
    (table : Table α)
    (key : String) :
    table.entries.filter (fun entry => entry.1 = key) =
      ((table.find? key).map fun value =>
        (key, value)).toList := by
  have hNodup := table.nodup
  unfold find?
  revert hNodup
  induction table.entries with
  | nil => exact fun _ => rfl
  | cons entry entries ih =>
      intro hNodup
      rcases entry with ⟨first, value⟩
      rcases List.nodup_cons.mp hNodup with ⟨hNew, hRest⟩
      by_cases hKey : first = key
      · subst hKey
        have hNone :
            entries.filter (fun entry => entry.1 = first) =
              [] := by
          rw [List.filter_eq_nil_iff]
          intro entry hEntry hSame
          apply hNew
          refine List.mem_map.mpr ⟨entry, hEntry, ?_⟩
          simpa using hSame
        simp [hNone]
      · have hOther : key ≠ first := Ne.symm hKey
        rw [List.filter_cons_of_neg (by simpa using hKey),
          List.lookup_cons, beq_eq_false_iff_ne.mpr hOther]
        exact ih hRest

theorem find?_put
    (table : Table α)
    (key : String)
    (value : α)
    (other : String) :
    (table.put key value).find? other =
      if other = key then
        some value
      else
        table.find? other :=
  Entries.lookup_put key value table.entries other

/- A key that is not known has no value. -/
theorem find?_of_not_mem
    (table : Table α)
    {key : String}
    (hNew : key ∉ table.keys) :
    table.find? key = none := by
  rw [Option.eq_none_iff_forall_ne_some]
  intro value hFound
  apply hNew
  exact
    List.mem_map.mpr ⟨_, table.find?_eq_some_iff.mp hFound, rfl⟩

theorem keys_putNew
    (table : Table α)
    (key : String)
    (value : α) :
    (table.putNew key value).keys =
      (table.put key value).keys := by
  unfold putNew
  split
  · rename_i hKnown
    rw [keys_put, if_pos hKnown]
  · rfl

/- Values that are replaced stay under their keys. -/
theorem keys_mapValues
    {β : Type}
    (table : Table α)
    (f : α → β) :
    (table.mapValues f).keys = table.keys := by
  simp [keys, Entries.keys, mapValues]

end Table

end BuildForm
