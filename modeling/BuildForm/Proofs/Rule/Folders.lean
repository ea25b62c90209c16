import BuildForm.Record.Scm
import BuildForm.Rule.Paths
import BuildForm.Proofs.Pattern.Derived
import BuildForm.Proofs.Text.Numeral

/-
  The local directories that the rule for them accepts.

  Such a directory is a name after a dot, or a row of folder
  names. The rule lets a name fall into several parts, and
  these are put together again when they are read one by one.
  A directory like that is below the one it starts from.

  Main declarations:
    * `Rule.IsFolderName`
    * `Rule.IsFolder`
    * `Rule.isRelative_flatten`
    * `Rule.IsRelative.exists_parts`
    * `Rule.isLocalDirectory_iff`
    * `Rule.StaysBelow`
    * `Rule.local_directory_stays_below`
-/

------------------------------------------------------------
-- Names of Folders
------------------------------------------------------------

namespace BuildForm

namespace Rule

/- The characters of a segment of a path. -/
def IsSegmentChar (c : Char) : Prop :=
  c ∉ ['\\', '/', ':', '"', '*', '?', '<', '>', '|', '\r', '\n']

/- A segment of a path that is not hidden. -/
structure IsFolderName (name : List Char) : Prop where
  nonempty : name ≠ []
  undotted : name.head? ≠ some '.'
  plain : ∀ c ∈ name, IsSegmentChar c

variable {c : Char}
variable {name rest : List Char}

theorem contains_segmentChars_iff :
    segmentChars.contains c ↔ IsSegmentChar c :=
  CharSet.contains_without_iff

theorem contains_folderStartChars_iff :
    folderStartChars.contains c ↔ c ≠ '.' ∧ IsSegmentChar c := by
  have hPerm :
      List.Perm
        ['.', '\\', '/', ':', '*', '?', '"', '<', '>', '|',
          '\r', '\n']
        ['.', '\\', '/', ':', '"', '*', '?', '<', '>', '|',
          '\r', '\n'] := by
    decide
  rw [folderStartChars, CharSet.contains_without_iff,
    hPerm.mem_iff, List.mem_cons, not_or, IsSegmentChar]

theorem isFolderName_cons_iff :
    IsFolderName (c :: rest) ↔
      (c ≠ '.' ∧ IsSegmentChar c) ∧ ∀ d ∈ rest, IsSegmentChar d := by
  constructor
  · rintro ⟨_, hDot, hPlain⟩
    rcases List.forall_mem_cons.mp hPlain with ⟨hFirst, hRest⟩
    exact ⟨⟨by simpa using hDot, hFirst⟩, hRest⟩
  · rintro ⟨⟨hDot, hFirst⟩, hRest⟩
    exact
      ⟨List.cons_ne_nil c rest, by simpa using hDot,
        List.forall_mem_cons.mpr ⟨hFirst, hRest⟩⟩

theorem IsFolderName.slash_not_mem
    (hName : IsFolderName name) :
    '/' ∉ name :=
  fun hSlash => hName.plain '/' hSlash (by decide)

/- A name may go on with a name. -/
theorem IsFolderName.append
    {other : List Char}
    (hName : IsFolderName name)
    (hOther : IsFolderName other) :
    IsFolderName (name ++ other) where
  nonempty := by simp [hName.nonempty]
  undotted := by
    rw [List.head?_append_of_ne_nil _ hName.nonempty]
    exact hName.undotted
  plain := List.forall_mem_append.mpr ⟨hName.plain, hOther.plain⟩

/- A row of letters and digits is a name. -/
theorem isFolderName_of_alphanumeric
    (hNonempty : name ≠ [])
    (hName : ∀ c ∈ name, c.isAlphanum) :
    IsFolderName name where
  nonempty := hNonempty
  undotted := by
    intro hDot
    exact absurd (hName '.' (List.mem_of_mem_head? hDot)) (by decide)
  plain := by
    intro c hChar hReserved
    have hNone :
        ∀ d ∈ ['\\', '/', ':', '"', '*', '?', '<', '>', '|',
          '\r', '\n'], ¬d.isAlphanum := by
      simp
    exact hNone c hReserved (hName c hChar)

end Rule

end BuildForm

------------------------------------------------------------
-- Rows of Folders
------------------------------------------------------------

namespace BuildForm

namespace Rule

/- What may stand after the last of several folders. -/
def IsClosing (closing : List Char) : Prop :=
  closing = [] ∨ closing = ['/']

/-
  Names of folders with one slash between neighbours, and
  maybe one more at the end.
-/
def IsRelative (path : List Char) : Prop :=
  ∃ names closing,
    names ≠ [] ∧
      (∀ name ∈ names, IsFolderName name) ∧
      IsClosing closing ∧
      path = ['/'].intercalate names ++ closing

/- What the rule takes of such a row at a time. -/
def IsFolderPart (part : List Char) : Prop :=
  ∃ name closing,
    IsFolderName name ∧
      IsClosing closing ∧
      part = name ++ closing

variable {name path : List Char}
variable {parts : List (List Char)}

theorem IsFolderName.isRelative
    {closing : List Char}
    (hName : IsFolderName name)
    (hClosing : IsClosing closing) :
    IsRelative (name ++ closing) :=
  ⟨[name], closing, List.cons_ne_nil name [], by simpa using hName,
    hClosing, by rw [List.intercalate_singleton]⟩

/- A name in front is put together with the first name. -/
theorem IsRelative.extend
    (hPath : IsRelative path)
    (hName : IsFolderName name) :
    IsRelative (name ++ path) := by
  rcases hPath with ⟨names, closing, hSome, hNames, hClosing, rfl⟩
  cases names with
  | nil => exact absurd rfl hSome
  | cons first names =>
      rcases List.forall_mem_cons.mp hNames with ⟨hFirst, hNames⟩
      refine
        ⟨(name ++ first) :: names, closing,
          List.cons_ne_nil _ names, ?_, hClosing, ?_⟩
      · exact
          List.forall_mem_cons.mpr ⟨hName.append hFirst, hNames⟩
      · cases names with
        | nil => simp
        | cons second names => simp

/- A name with a slash in front is one more name. -/
theorem IsRelative.cons
    (hPath : IsRelative path)
    (hName : IsFolderName name) :
    IsRelative (name ++ '/' :: path) := by
  rcases hPath with ⟨names, closing, hSome, hNames, hClosing, rfl⟩
  refine
    ⟨name :: names, closing, List.cons_ne_nil name names,
      List.forall_mem_cons.mpr ⟨hName, hNames⟩, hClosing, ?_⟩
  rw [List.intercalate_cons_of_ne_nil hSome]
  simp

/- What falls into parts is empty or a row of folders. -/
theorem isRelative_flatten
    (hParts : ∀ part ∈ parts, IsFolderPart part) :
    parts.flatten = [] ∨ IsRelative parts.flatten := by
  induction parts with
  | nil => exact .inl rfl
  | cons part parts ih =>
      rcases List.forall_mem_cons.mp hParts with
        ⟨⟨name, closing, hName, hClosing, rfl⟩, hOthers⟩
      right
      rw [List.flatten_cons]
      rcases ih hOthers with hEmpty | hRest
      · rw [hEmpty, List.append_nil]
        exact hName.isRelative hClosing
      · rcases hClosing with rfl | rfl
        · rw [List.append_nil]
          exact hRest.extend hName
        · rw [List.append_assoc]
          exact hRest.cons hName

/- A row of folders falls into parts at its slashes. -/
theorem IsRelative.exists_parts (hPath : IsRelative path) :
    ∃ parts : List (List Char),
      (∀ part ∈ parts, IsFolderPart part) ∧
        path = parts.flatten := by
  rcases hPath with ⟨names, closing, hSome, hNames, hClosing, rfl⟩
  induction names with
  | nil => exact absurd rfl hSome
  | cons name names ih =>
      rcases List.forall_mem_cons.mp hNames with ⟨hName, hNames⟩
      by_cases hLast : names = []
      · subst hLast
        refine ⟨[name ++ closing], ?_, by simp⟩
        simpa using ⟨name, closing, hName, hClosing, rfl⟩
      · rcases ih hLast hNames with ⟨parts, hParts, hPath⟩
        refine ⟨(name ++ ['/']) :: parts, ?_, ?_⟩
        · refine List.forall_mem_cons.mpr ⟨?_, hParts⟩
          exact ⟨name, ['/'], hName, .inr rfl, rfl⟩
        · rw [List.intercalate_cons_of_ne_nil hLast,
            List.flatten_cons, ← hPath, List.append_assoc]

end Rule

end BuildForm

------------------------------------------------------------
-- Accepted Directories
------------------------------------------------------------

namespace BuildForm

namespace Rule

open Pattern

variable {text after : List Char}

/- A name after a dot, nothing at all, or a row of folders. -/
inductive IsFolder : List Char → Prop where
  | dotted {name : List Char} :
      (∀ c ∈ name, c.isAlphanum) → IsFolder ('.' :: name)
  | empty : IsFolder []
  | relative {path : List Char} :
      IsRelative path → IsFolder path

theorem isFolder_of_alphanumeric
    {name : List Char}
    (hName : ∀ c ∈ name, c.isAlphanum) :
    IsFolder name := by
  by_cases hEmpty : name = []
  · subst hEmpty
    exact .empty
  · have hFolder := isFolderName_of_alphanumeric hEmpty hName
    have hClosing : IsClosing [] := .inl rfl
    have hRelative := hFolder.isRelative hClosing
    rw [List.append_nil] at hRelative
    exact .relative hRelative

/- The part of the pattern that is repeated. -/
def folderPattern : Pattern :=
  .inOrder
    [.one folderStartChars,
     .many (.one segmentChars),
     .optional (.exactly "/")]

theorem matches_folderPattern_iff :
    Matches folderPattern text after ↔ IsFolderPart text := by
  simp only [folderPattern, inOrder, matches_seq_iff,
    matches_one_iff, matches_many_one_iff, matches_optional_iff,
    matches_exactly_iff, contains_segmentChars_iff,
    contains_folderStartChars_iff]
  constructor
  · rintro ⟨_, _, rfl, ⟨c, hFirst, rfl⟩, rest, closing, rfl,
      hRest, hClosing⟩
    have hName := isFolderName_cons_iff.mpr ⟨hFirst, hRest⟩
    exact ⟨c :: rest, closing, hName, hClosing.symm, rfl⟩
  · rintro ⟨name, closing, hName, hClosing, rfl⟩
    cases name with
    | nil => exact absurd rfl hName.nonempty
    | cons c rest =>
        rcases isFolderName_cons_iff.mp hName with
          ⟨hFirst, hRest⟩
        refine
          ⟨[c], rest ++ closing, rfl, ⟨c, hFirst, rfl⟩, ?_⟩
        exact ⟨rest, closing, rfl, hRest, hClosing.symm⟩

theorem matches_many_folderPattern_iff :
    Matches (.many folderPattern) text after ↔
      text = [] ∨ IsRelative text := by
  rw [matches_many_iff matches_folderPattern_iff]
  constructor
  · rintro ⟨parts, hParts, rfl⟩
    exact isRelative_flatten hParts
  · rintro (rfl | hPath)
    · exact ⟨[], by simp, rfl⟩
    · exact hPath.exists_parts

theorem matches_directoryPattern_iff :
    Matches directoryPattern text [] ↔ IsFolder text := by
  have hPattern :
      directoryPattern =
        .alt
          (.seq (.exactly ".")
            (.seq (.many (.one CharSet.alphanumerics)) .textEnd))
          (.seq (.many folderPattern) .textEnd) := rfl
  simp only [hPattern, matches_alt_iff, matches_seq_exactly_iff,
    ↓matches_seq_textEnd_iff, matches_many_one_iff,
    matches_many_folderPattern_iff,
    CharSet.contains_alphanumerics_iff, and_true]
  constructor
  · rintro (⟨name, rfl, hName⟩ | rfl | hRelative)
    · exact .dotted hName
    · exact .empty
    · exact .relative hRelative
  · intro hFolder
    cases hFolder with
    | @dotted name hName => exact .inl ⟨name, rfl, hName⟩
    | empty => exact .inr (.inl rfl)
    | relative hPath => exact .inr (.inr hPath)

theorem isLocalDirectory_iff (value : String) :
    isLocalDirectory value ↔ IsFolder value.toList := by
  rw [isLocalDirectory, accepts_iff, matches_directoryPattern_iff]

end Rule

end BuildForm

------------------------------------------------------------
-- Staying Below
------------------------------------------------------------

namespace BuildForm

namespace Rule

/-
  A path that leads below the folder it starts from: it is
  not absolute, no segment of it leads back up, and none is
  missing before a slash.
-/
structure StaysBelow (path : List Char) : Prop where
  unrooted : path.head? ≠ some '/'
  driveless : ':' ∉ path ∧ '\\' ∉ path
  parentless : "..".toList ∉ path.splitOn '/'
  gapless : [] ∉ (path.splitOn '/').dropLast

variable {name path : List Char}

/- The names are read back from a row of folders. -/
theorem IsRelative.splitOn_eq (hPath : IsRelative path) :
    ∃ names,
      (∀ name ∈ names, IsFolderName name) ∧
        (path.splitOn '/' = names ∨
          path.splitOn '/' = names ++ [[]]) := by
  rcases hPath with ⟨names, closing, hSome, hNames, hClosing, rfl⟩
  have hSplit :
      (['/'].intercalate names).splitOn '/' = names :=
    List.splitOn_intercalate '/'
      (fun name hName => (hNames name hName).slash_not_mem) hSome
  refine ⟨names, hNames, ?_⟩
  rcases hClosing with rfl | rfl
  · left
    rw [List.append_nil, hSplit]
  · right
    rw [List.splitOn_eq_splitOnP,
      List.splitOnP_append_cons _ [] (by simp),
      ← List.splitOn_eq_splitOnP, hSplit]
    simp

theorem IsRelative.mem
    (hPath : IsRelative path)
    {c : Char}
    (hChar : c ∈ path) :
    IsSegmentChar c ∨ c = '/' := by
  rcases hPath.exists_parts with ⟨parts, hParts, rfl⟩
  rcases List.mem_flatten.mp hChar with ⟨part, hPart, hInside⟩
  rcases hParts part hPart with ⟨name, closing, hName, hClosing, rfl⟩
  rcases List.mem_append.mp hInside with hLeft | hRight
  · exact .inl (hName.plain c hLeft)
  · rcases hClosing with rfl | rfl
    · exact absurd hRight List.not_mem_nil
    · exact .inr (List.mem_singleton.mp hRight)

/- A path that starts with a slash misses its first segment. -/
theorem head?_ne_of_gapless
    (hGapless : [] ∉ (path.splitOn '/').dropLast) :
    path.head? ≠ some '/' := by
  intro hRooted
  rcases List.head?_eq_some_iff.mp hRooted with ⟨rest, rfl⟩
  apply hGapless
  have hSplit :
      ('/' :: rest).splitOn '/' = [] :: rest.splitOn '/' := by
    simp [List.splitOn_eq_splitOnP,
      List.splitOnP_cons_eq_if_modifyHead]
  rw [hSplit, List.dropLast_cons_of_ne_nil
    (List.splitOn_ne_nil '/' rest)]
  exact List.mem_cons_self

/- A name after a dot has neither slashes nor a second dot. -/
theorem staysBelow_of_dotted
    (hName : ∀ c ∈ name, c.isAlphanum) :
    StaysBelow ('.' :: name) := by
  have hNone :
      ∀ c ∈ ['.', '/', ':', '\\'], c ∉ name := by
    intro c hMark hChar
    have hOther :
        ∀ d ∈ ['.', '/', ':', '\\'], ¬d.isAlphanum := by
      simp
    exact hOther c hMark (hName c hChar)
  have hSplit :
      ('.' :: name).splitOn '/' = ['.' :: name] := by
    apply List.splitOn_eq_singleton
    simp [hNone]
  refine ⟨by simp, ?_, ?_, ?_⟩
  · simp [hNone]
  · rw [hSplit, List.mem_singleton]
    intro hParent
    have hRest : ['.'] = name := List.tail_eq_of_cons_eq hParent
    exact hNone '.' (by simp) (by simp [← hRest])
  · rw [hSplit]
    simp

theorem IsRelative.staysBelow (hPath : IsRelative path) :
    StaysBelow path := by
  rcases hPath.splitOn_eq with ⟨names, hNames, hSplit⟩
  have hMember :
      ∀ segment ∈ path.splitOn '/',
        IsFolderName segment ∨ segment = [] := by
    intro segment hSegment
    rcases hSplit with hSplit | hSplit
    · rw [hSplit] at hSegment
      exact .inl (hNames segment hSegment)
    · rw [hSplit, List.mem_append, List.mem_singleton] at hSegment
      exact hSegment.imp_left (hNames segment)
  have hGapless : [] ∉ (path.splitOn '/').dropLast := by
    have hSome : ∀ segment ∈ names, segment ≠ [] :=
      fun segment hSegment => (hNames segment hSegment).nonempty
    rcases hSplit with hSplit | hSplit
    · rw [hSplit]
      exact fun hGap => hSome [] (List.dropLast_subset names hGap) rfl
    · rw [hSplit, List.dropLast_concat]
      exact fun hGap => hSome [] hGap rfl
  refine ⟨head?_ne_of_gapless hGapless, ?_, ?_, hGapless⟩
  · refine ⟨fun hColon => ?_, fun hSlash => ?_⟩
    · exact absurd (hPath.mem hColon) (by simp [IsSegmentChar])
    · exact absurd (hPath.mem hSlash) (by simp [IsSegmentChar])
  · intro hParent
    rcases hMember _ hParent with hName | hEmpty
    · exact hName.undotted rfl
    · exact absurd hEmpty (by decide)

theorem IsFolder.staysBelow (hPath : IsFolder path) :
    StaysBelow path := by
  cases hPath with
  | dotted hName => exact staysBelow_of_dotted hName
  | empty => exact ⟨by simp, by simp, by simp, by simp⟩
  | relative hRelative => exact hRelative.staysBelow

end Rule

end BuildForm

------------------------------------------------------------
-- Folders of Fresh Views
------------------------------------------------------------

namespace BuildForm

namespace Scm

open Rule (IsFolder)

/- The folder of a fresh view is one that the rule accepts. -/
theorem isFolder_freshFolder (scm : Scm) (ordinal : UInt32) :
    IsFolder (scm.freshFolder ordinal).toList := by
  have hFolder :
      ∃ suffix : List Char,
        (∀ c ∈ suffix, c.isAlphanum) ∧
          (scm.freshFolder ordinal).toList =
            scm.baseFolder.toList ++ suffix := by
    unfold freshFolder
    split
    · exact ⟨[], by simp, (List.append_nil _).symm⟩
    · refine ⟨Text.digits ordinal.toNat, ?_, ?_⟩
      · intro c hChar
        simp [Char.isAlphanum, Text.isDigit_of_mem_digits hChar]
      · rw [String.toList_append, String.toList_ofList]
  rcases hFolder with ⟨suffix, hSuffix, hFolder⟩
  rw [hFolder]
  cases scm with
  | git => exact .dotted hSuffix
  | subversion =>
      apply Rule.isFolder_of_alphanumeric
      refine List.forall_mem_append.mpr ⟨?_, hSuffix⟩
      simp [baseFolder]
  | unset => exact Rule.isFolder_of_alphanumeric hSuffix
  | other _ => exact Rule.isFolder_of_alphanumeric hSuffix

end Scm

namespace Rule

/-
  A local directory is a name after a dot, nothing at all, or
  a row of folder names. None leads out of the folder that it
  starts from, and the folder of every fresh view is one.
-/
theorem local_directory_stays_below :
    (∀ value, isLocalDirectory value ↔ IsFolder value.toList) ∧
      (∀ value,
        isLocalDirectory value → StaysBelow value.toList) ∧
      ∀ (scm : Scm) (ordinal : UInt32),
        isLocalDirectory (scm.freshFolder ordinal) := by
  refine ⟨isLocalDirectory_iff, ?_, ?_⟩
  · intro value hValue
    exact ((isLocalDirectory_iff value).mp hValue).staysBelow
  · intro scm ordinal
    exact
      (isLocalDirectory_iff _).mpr
        (scm.isFolder_freshFolder ordinal)

/- Two folders, the second one with a slash after it. -/
theorem local_directory_stays_below_module :
    isLocalDirectory "src/module/" ∧
      StaysBelow "src/module/".toList := by
  have hFolder : IsFolder "src/module/".toList := by
    refine .relative ⟨["src".toList, "module".toList], ['/'], ?_⟩
    refine ⟨by decide, ?_, .inr rfl, by decide⟩
    refine List.forall_mem_cons.mpr ⟨?_, ?_⟩
    · exact isFolderName_of_alphanumeric (by decide) (by simp)
    · rw [List.forall_mem_singleton]
      exact isFolderName_of_alphanumeric (by decide) (by simp)
  have hAccepted : isLocalDirectory "src/module/" :=
    (local_directory_stays_below.1 _).mpr hFolder
  exact ⟨hAccepted, local_directory_stays_below.2.1 _ hAccepted⟩

end Rule

end BuildForm
