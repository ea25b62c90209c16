import Mathlib.Data.List.Infix
import BuildForm.Service.Tree

/-
  What writing a file does to a tree.

  A write that succeeds changes what is read at one path and
  makes the directories on the way to it. Whether it succeeds
  depends on what is in the way, its *obstacle*, and a write
  elsewhere neither makes nor removes one.

  Main declarations:
    * `Tree.read?_write`
    * `Tree.isDirectory_write`
    * `Tree.obstacle?`
    * `Tree.write_of_obstacle?`
    * `Tree.obstacle?_write`
-/

------------------------------------------------------------
-- Entries
------------------------------------------------------------

namespace BuildForm

namespace Tree

variable {name : String} {tree : Tree}

theorem lookup_putEntry
    (entries : List (String × Tree))
    (other : String) :
    (putEntry name tree entries).lookup other =
      if other = name then
        some tree
      else
        entries.lookup other := by
  induction entries with
  | nil =>
      by_cases hName : other = name
      · simp [putEntry, hName]
      · simp [putEntry, hName, List.lookup_cons,
          beq_eq_false_iff_ne.mpr hName]
  | cons entry entries ih =>
      rcases entry with ⟨key, below⟩
      by_cases hKey : key = name
      · subst hKey
        by_cases hOther : other = key
        · simp [putEntry, hOther]
        · simp [putEntry, hOther, List.lookup_cons,
            beq_eq_false_iff_ne.mpr hOther]
      · by_cases hOther : other = key
        · subst hOther
          simp [putEntry, hKey]
        · simp only [putEntry, hKey, if_false, List.lookup_cons,
            beq_eq_false_iff_ne.mpr hOther]
          exact ih

end Tree

end BuildForm

------------------------------------------------------------
-- Files and Directories
------------------------------------------------------------

namespace BuildForm

namespace Tree

/- Whether there is a directory at a path. -/
def isDirectory (path : List String) (tree : Tree) : Bool :=
  match tree.at? path with
  | some (.directory _) => true
  | _ => false

variable (name : String) (rest : List String) (tree : Tree)

@[simp] theorem at?_nil : tree.at? [] = some tree := rfl

@[simp] theorem at?_cons :
    tree.at? (name :: rest) =
      (tree.entries.lookup name).bind (at? rest) := rfl

theorem at?_append (path : List String) :
    tree.at? (path ++ rest) =
      (tree.at? path).bind (at? rest) := by
  induction path generalizing tree with
  | nil => rfl
  | cons first path ih =>
      simp only [List.cons_append, at?_cons,
        Option.bind_assoc]
      congr 1
      funext below
      exact ih below

theorem read?_cons :
    tree.read? (name :: rest) =
      (tree.entries.lookup name).bind (read? rest) := by
  unfold read?
  cases hLookup : tree.entries.lookup name with
  | none => simp [hLookup]
  | some below => simp [hLookup]

theorem isFile_cons :
    tree.isFile (name :: rest) =
      (tree.entries.lookup name).any (isFile rest) := by
  unfold isFile
  rw [read?_cons]
  cases tree.entries.lookup name <;> rfl

theorem isDirectory_cons :
    tree.isDirectory (name :: rest) =
      (tree.entries.lookup name).any (isDirectory rest) := by
  unfold isDirectory
  cases hLookup : tree.entries.lookup name with
  | none => simp [hLookup]
  | some below => simp [hLookup]

@[simp] theorem read?_empty (path : List String) :
    empty.read? path = none := by
  cases path with
  | nil => rfl
  | cons name rest => rw [read?_cons]; rfl

@[simp] theorem read?_nil_directory
    (entries : List (String × Tree)) :
    (directory entries).read? [] = none := rfl

/- A path below a file leads nowhere. -/
theorem at?_append_of_isFile
    {path : List String}
    (hFile : tree.isFile path)
    (hRest : rest ≠ []) :
    tree.at? (path ++ rest) = none := by
  rw [at?_append]
  unfold isFile read? at hFile
  cases hAt : tree.at? path with
  | none => rfl
  | some below =>
      rw [hAt] at hFile
      cases below with
      | directory entries => simp at hFile
      | file content =>
          cases rest with
          | nil => exact absurd rfl hRest
          | cons name rest => rfl

end Tree

end BuildForm

------------------------------------------------------------
-- What a Write Changes
------------------------------------------------------------

namespace BuildForm

namespace Tree

variable {content : Content}
variable {folder : List String} {name : String}
variable {tree changed : Tree}

theorem write_nil_ok
    (hWrite : tree.write content [] name = .ok changed) :
    ∃ entries,
      tree = .directory entries ∧
      (∀ inner, entries.lookup name ≠ some (.directory inner)) ∧
      changed =
        .directory (putEntry name (.file content) entries) := by
  cases tree with
  | file old => simp [write] at hWrite
  | directory entries =>
      unfold write at hWrite
      split at hWrite
      · simp at hWrite
      · rename_i hOther
        cases hWrite
        exact ⟨entries, rfl, hOther, rfl⟩

theorem write_cons_ok
    {first : String}
    (hWrite :
      tree.write content (first :: folder) name =
        .ok changed) :
    ∃ entries below,
      tree = .directory entries ∧
      ((entries.lookup first).getD empty).write content folder
        name = .ok below ∧
      changed = .directory (putEntry first below entries) := by
  cases tree with
  | file old => simp [write] at hWrite
  | directory entries =>
      unfold write at hWrite
      dsimp only at hWrite
      split at hWrite
      · simp at hWrite
      · rename_i below hBelow
        cases hWrite
        exact ⟨entries, below, rfl, hBelow, rfl⟩

/- A file that is written can be read, and no other changes. -/
theorem read?_write
    (hWrite :
      tree.write content folder name = .ok changed)
    (path : List String) :
    changed.read? path =
      if path = folder ++ [name] then
        some content
      else
        tree.read? path := by
  induction folder generalizing tree changed path with
  | nil =>
      rcases write_nil_ok hWrite with
        ⟨entries, rfl, hOther, rfl⟩
      cases path with
      | nil => simp
      | cons first rest =>
          rw [read?_cons, read?_cons]
          simp only [Tree.entries, lookup_putEntry]
          by_cases hFirst : first = name
          · cases rest with
            | nil => simp [hFirst, read?]
            | cons second rest =>
                have hOld :
                    (entries.lookup name).bind
                        (read? (second :: rest)) =
                      none := by
                  cases hLookup : entries.lookup name with
                  | none => rfl
                  | some below =>
                      cases below with
                      | file old => rfl
                      | directory inner =>
                          exact absurd hLookup (hOther inner)
                simp [hFirst, hOld, read?, Tree.entries]
          · simp [hFirst]
  | cons first folder ih =>
      rcases write_cons_ok hWrite with
        ⟨entries, below, rfl, hBelow, rfl⟩
      cases path with
      | nil => simp
      | cons head rest =>
          rw [read?_cons, read?_cons]
          simp only [Tree.entries, lookup_putEntry]
          by_cases hHead : head = first
          · subst hHead
            have hOld :
                ((entries.lookup head).getD empty).read? rest =
                  (entries.lookup head).bind (read? rest) := by
              cases entries.lookup head <;> simp
            rw [if_pos rfl, Option.bind_some,
              ih hBelow rest, hOld]
            simp
          · simp [hHead]

theorem isFile_write
    (hWrite :
      tree.write content folder name = .ok changed)
    (path : List String) :
    changed.isFile path =
      (path = folder ++ [name] || tree.isFile path) := by
  unfold isFile
  rw [read?_write hWrite]
  by_cases hPath : path = folder ++ [name]
  · simp [hPath]
  · simp [hPath]

/-
  The directories after a write are those there were, and
  those that lead to the file.
-/
theorem isDirectory_write
    (hWrite :
      tree.write content folder name = .ok changed)
    (path : List String) :
    changed.isDirectory path ↔
      tree.isDirectory path ∨ path <+: folder := by
  induction folder generalizing tree changed path with
  | nil =>
      rcases write_nil_ok hWrite with
        ⟨entries, rfl, hOther, rfl⟩
      cases path with
      | nil => simp [isDirectory]
      | cons first rest =>
          rw [isDirectory_cons, isDirectory_cons]
          simp only [Tree.entries, lookup_putEntry]
          by_cases hFirst : first = name
          · have hOld :
                (entries.lookup name).any
                    (isDirectory rest) =
                  false := by
              cases hLookup : entries.lookup name with
              | none => rfl
              | some below =>
                  cases below with
                  | file old => cases rest <;> rfl
                  | directory inner =>
                      exact absurd hLookup (hOther inner)
            have hNew :
                (file content).isDirectory rest = false := by
              cases rest <;> rfl
            simp [hFirst, hOld, hNew]
          · simp [hFirst]
  | cons first folder ih =>
      rcases write_cons_ok hWrite with
        ⟨entries, below, rfl, hBelow, rfl⟩
      cases path with
      | nil => simp [isDirectory]
      | cons head rest =>
          rw [isDirectory_cons, isDirectory_cons]
          simp only [Tree.entries, lookup_putEntry]
          by_cases hHead : head = first
          · subst hHead
            rw [if_pos rfl, Option.any_some,
              ih hBelow rest, List.cons_prefix_cons]
            cases entries.lookup head with
            | some old => simp
            | none =>
                cases rest with
                | nil => simp [isDirectory]
                | cons second rest =>
                    simp [isDirectory, Tree.entries, empty]
          · simp [hHead, List.cons_prefix_cons]

end Tree

end BuildForm

------------------------------------------------------------
-- Obstacles
------------------------------------------------------------

namespace BuildForm

namespace Tree

/-
  What is in the way of a file: another file where one of its
  directories has to be, or a directory at its own path.
-/
def obstacle?
    (folder : List String)
    (name : String)
    (tree : Tree) : Option WriteFault :=
  if folder.inits.any fun path => tree.isFile path then
    some .parent
  else if tree.isDirectory (folder ++ [name]) then
    some .isDirectory
  else
    none

variable {content : Content}
variable {folder : List String} {name : String}
variable {tree changed : Tree}

theorem obstacle?_file (content : Content) :
    (file content).obstacle? folder name = some .parent := by
  have hFile :
      folder.inits.any fun path =>
        (file content).isFile path := by
    rw [List.any_eq_true]
    exact ⟨[], by simp, rfl⟩
  unfold obstacle?
  rw [if_pos hFile]

theorem obstacle?_nil_directory
    (entries : List (String × Tree)) :
    (directory entries).obstacle? [] name =
      if (entries.lookup name).any (isDirectory []) then
        some .isDirectory
      else
        none := by
  unfold obstacle?
  simp [isFile, isDirectory_cons, Tree.entries]

theorem obstacle?_cons_directory
    (first : String)
    (entries : List (String × Tree)) :
    (directory entries).obstacle? (first :: folder) name =
      ((entries.lookup first).getD empty).obstacle? folder
        name := by
  have hFile : ∀ path : List String,
      (directory entries).isFile (first :: path) =
        ((entries.lookup first).getD empty).isFile path := by
    intro path
    rw [isFile_cons]
    cases hLookup : entries.lookup first with
    | none => simp [Tree.entries, hLookup, isFile]
    | some below => simp [Tree.entries, hLookup]
  have hWay :
      ((first :: folder).inits.any fun path =>
          (directory entries).isFile path) =
        folder.inits.any fun path =>
          ((entries.lookup first).getD empty).isFile path := by
    rw [List.inits_cons, List.any_cons, List.any_map]
    simp only [Function.comp_def, hFile]
    rfl
  have hPlace :
      (directory entries).isDirectory
          (first :: folder ++ [name]) =
        ((entries.lookup first).getD empty).isDirectory
          (folder ++ [name]) := by
    rw [List.cons_append, isDirectory_cons]
    cases hLookup : entries.lookup first with
    | none => cases folder <;> simp [Tree.entries, hLookup] <;> rfl
    | some below => simp [Tree.entries, hLookup]
  unfold obstacle?
  rw [hWay, hPlace]

/- A write either finds an obstacle or succeeds. -/
theorem write_of_obstacle?
    (content : Content)
    (folder : List String)
    (name : String)
    (tree : Tree) :
    match tree.obstacle? folder name with
    | some fault =>
        tree.write content folder name = .error fault
    | none =>
        ∃ changed,
          tree.write content folder name = .ok changed := by
  induction folder generalizing tree with
  | nil =>
      cases tree with
      | file old => simp [obstacle?_file, write]
      | directory entries =>
          rw [obstacle?_nil_directory]
          unfold write
          cases entries.lookup name with
          | none => exact ⟨_, rfl⟩
          | some below =>
              cases below with
              | file old => exact ⟨_, rfl⟩
              | directory inner => simp [isDirectory]
  | cons first folder ih =>
      cases tree with
      | file old => simp [obstacle?_file, write]
      | directory entries =>
          rw [obstacle?_cons_directory]
          have hBelow :=
            ih ((entries.lookup first).getD empty)
          unfold write
          dsimp only
          split at hBelow
          · rw [hBelow]
          · rcases hBelow with ⟨below, hBelow⟩
            rw [hBelow]
            exact ⟨_, rfl⟩

theorem exists_write
    (content : Content)
    (hFree : tree.obstacle? folder name = none) :
    ∃ changed,
      tree.write content folder name = .ok changed := by
  have hWrite := write_of_obstacle? content folder name tree
  rw [hFree] at hWrite
  exact hWrite

/- A file that is there can be written again. -/
theorem obstacle?_of_isFile
    (hFile : tree.isFile (folder ++ [name])) :
    tree.obstacle? folder name = none := by
  have hWay :
      ¬(folder.inits.any fun path => tree.isFile path) := by
    rw [List.any_eq_true]
    rintro ⟨path, hPath, hOther⟩
    rcases (List.mem_inits _ _).mp hPath with ⟨rest, rfl⟩
    have hNothing :=
      at?_append_of_isFile (rest ++ [name]) tree hOther
        (by simp)
    unfold isFile read? at hFile
    rw [List.append_assoc, hNothing] at hFile
    simp at hFile
  have hPlace : ¬tree.isDirectory (folder ++ [name]) := by
    unfold isFile read? at hFile
    unfold isDirectory
    split at hFile
    · rename_i hAt
      simp [hAt]
    · simp at hFile
  unfold obstacle?
  rw [if_neg hWay, if_neg hPlace]

/-
  A write leaves the obstacles of another place alone if its
  file is not on the way there, nor that place on the way to
  its file.
-/
theorem obstacle?_write
    (hWrite :
      tree.write content folder name = .ok changed)
    {otherFolder : List String}
    {otherName : String}
    (hWay : ¬folder ++ [name] <+: otherFolder)
    (hPlace : ¬otherFolder ++ [otherName] <+: folder) :
    changed.obstacle? otherFolder otherName =
      tree.obstacle? otherFolder otherName := by
  have hFiles :
      (otherFolder.inits.any fun path =>
          changed.isFile path) =
        otherFolder.inits.any fun path => tree.isFile path := by
    rw [Bool.eq_iff_iff, List.any_eq_true, List.any_eq_true]
    apply exists_congr
    intro path
    apply and_congr_right
    intro hPath
    have hOther : path ≠ folder ++ [name] := by
      rintro rfl
      exact hWay ((List.mem_inits _ _).mp hPath)
    rw [isFile_write hWrite]
    simp [hOther]
  have hDirectory :
      changed.isDirectory (otherFolder ++ [otherName]) =
        tree.isDirectory (otherFolder ++ [otherName]) := by
    rw [Bool.eq_iff_iff, isDirectory_write hWrite]
    simp [hPlace]
  unfold obstacle?
  rw [hFiles, hDirectory]

end Tree

end BuildForm
