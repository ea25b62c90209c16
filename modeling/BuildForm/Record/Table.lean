/-
  Tables that keep their keys in the order in which they were
  first put.

  Key definitions include:
    * `Table`
    * `Table.find?`
    * `Table.put`
    * `Table.erase`
    * `Table.ofList`
    * `Table.keys_put`
-/

namespace BuildForm

------------------------------------------------------------
-- Entries
------------------------------------------------------------

namespace Entries

variable {α : Type}

/- The keys of a list of entries, in order. -/
def keys (entries : List (String × α)) : List String :=
  entries.map Prod.fst

/-
  Replace the value of a key in its place, or append the key
  if it is new.
-/
def put
    (key : String)
    (value : α) :
    List (String × α) → List (String × α)
  | [] => [(key, value)]
  | (k, v) :: rest =>
      if k = key then
        (k, value) :: rest
      else
        (k, v) :: put key value rest

theorem keys_put
    (key : String)
    (value : α)
    (entries : List (String × α)) :
    keys (put key value entries) =
      if key ∈ keys entries then
        keys entries
      else
        keys entries ++ [key] := by
  induction entries with
  | nil => simp [put, keys]
  | cons entry rest ih =>
      obtain ⟨k, v⟩ := entry
      by_cases hk : k = key
      · simp [put, keys, hk]
      · have hk' : key ≠ k := fun h => hk h.symm
        simp only [keys] at ih
        by_cases hm : key ∈ List.map Prod.fst rest
        · simp [put, keys, hk, ih, hm]
        · simp [put, keys, hk, hk', ih, hm]

theorem nodup_put
    (key : String)
    (value : α)
    (entries : List (String × α))
    (hNodup : (keys entries).Nodup) :
    (keys (put key value entries)).Nodup := by
  rw [keys_put]
  split
  · exact hNodup
  · rename_i hNew
    rw [List.nodup_append]
    refine ⟨hNodup, by simp, ?_⟩
    intro a ha b hb hab
    simp only [List.mem_singleton] at hb
    subst hb
    subst hab
    exact hNew ha

end Entries

------------------------------------------------------------
-- Tables
------------------------------------------------------------

/- Entries in order, with no key twice. -/
structure Table (α : Type) where
  entries : List (String × α)
  nodup : (Entries.keys entries).Nodup

namespace Table

variable {α : Type}

@[ext] theorem ext
    {left right : Table α}
    (h : left.entries = right.entries) : left = right := by
  cases left
  cases right
  cases h
  rfl

instance [DecidableEq α] : DecidableEq (Table α) :=
  fun left right =>
    decidable_of_iff (left.entries = right.entries)
      ⟨Table.ext, fun h => h ▸ rfl⟩

instance [Repr α] : Repr (Table α) where
  reprPrec table _ := repr table.entries

/- The table without entries. -/
def empty : Table α where
  entries := []
  nodup := by simp [Entries.keys]

instance : Inhabited (Table α) where
  default := empty

/- The keys in order. -/
def keys (table : Table α) : List String :=
  Entries.keys table.entries

/- The value of a key. -/
def find? (table : Table α) (key : String) : Option α :=
  table.entries.lookup key

/- Replace the value of a key in place, or append the key. -/
def put
    (table : Table α)
    (key : String)
    (value : α) : Table α where
  entries := Entries.put key value table.entries
  nodup := Entries.nodup_put key value _ table.nodup

/- Append a key with a value unless it is known already. -/
def putNew
    (table : Table α)
    (key : String)
    (value : α) : Table α :=
  if key ∈ table.keys then table else table.put key value

/- The table without a key; the others keep their order. -/
def erase (table : Table α) (key : String) : Table α where
  entries := table.entries.filter fun entry => entry.1 ≠ key
  nodup :=
    (List.filter_sublist.map Prod.fst).nodup table.nodup

/- Every value replaced; the keys stay. -/
def mapValues
    {β : Type}
    (table : Table α)
    (f : α → β) : Table β where
  entries := table.entries.map fun (key, value) =>
    (key, f value)
  nodup := by
    have h := table.nodup
    simpa [Entries.keys, Function.comp_def] using h

/-
  The table of a list of entries: a repeated key keeps its
  first place and its last value.
-/
def ofList (entries : List (String × α)) : Table α :=
  entries.foldl (fun table (key, value) => table.put key value)
    empty

/- The keys after a value is put. -/
theorem keys_put
    (table : Table α)
    (key : String)
    (value : α) :
    (table.put key value).keys =
      if key ∈ table.keys then
        table.keys
      else
        table.keys ++ [key] :=
  Entries.keys_put key value table.entries

end Table

end BuildForm
