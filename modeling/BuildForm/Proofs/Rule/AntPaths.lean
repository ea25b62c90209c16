import Mathlib.Data.List.Induction
import BuildForm.Rule.Paths
import BuildForm.Proofs.Rule.Folders

/-
  The paths with wildcards that the rule for them accepts.

  An asterisk follows a slash, or one that does. This says of
  every run of asterisks that it is short and follows a slash,
  and it is kept when a path grows by one piece at its end: a
  character of a segment, or a slash with its asterisks. The
  rule takes a path as rows of segments and such pieces.

  Main declarations:
    * `Rule.IsRun`
    * `Rule.RunsFollowSlash`
    * `Rule.runsFollowSlash_iff`
    * `Rule.IsWildPath`
    * `Rule.IsWildPath.pieces_induction`
    * `Rule.ant_path_language`
-/

------------------------------------------------------------
-- Runs of Asterisks
------------------------------------------------------------

namespace BuildForm

namespace Rule

/- A row of asterisks that goes on neither before nor after. -/
structure IsRun
    (before : List Char)
    (count : Nat)
    (after : List Char) : Prop where
  nonempty : 0 < count
  left : before.getLast? ≠ some '*'
  right : after.head? ≠ some '*'

/- Every run is one or two asterisks long and after a slash. -/
def RunsFollowSlash (path : List Char) : Prop :=
  ∀ before count after,
    path = before ++ List.replicate count '*' ++ after →
    IsRun before count after →
    count ≤ 2 ∧ before.getLast? = some '/'

/- Every asterisk is the first or the second one after a slash. -/
def StarsFollowSlash (path : List Char) : Prop :=
  ∀ before after,
    path = before ++ '*' :: after →
    ['/'] <:+ before ∨ ['/', '*'] <:+ before

variable {path : List Char}

theorem exists_run_after (after : List Char) :
    ∃ count rest,
      after = List.replicate count '*' ++ rest ∧
        rest.head? ≠ some '*' := by
  induction after with
  | nil => exact ⟨0, [], rfl, by simp⟩
  | cons c after ih =>
      by_cases hStar : c = '*'
      · subst hStar
        rcases ih with ⟨count, rest, rfl, hRest⟩
        exact ⟨count + 1, rest, by simp [List.replicate_succ], hRest⟩
      · exact ⟨0, c :: after, rfl, by simpa using hStar⟩

theorem exists_run_before (before : List Char) :
    ∃ rest count,
      before = rest ++ List.replicate count '*' ∧
        rest.getLast? ≠ some '*' := by
  rcases exists_run_after before.reverse with
    ⟨count, rest, hReverse, hRest⟩
  refine ⟨rest.reverse, count, ?_, by simpa using hRest⟩
  rw [← List.reverse_reverse before, hReverse]
  simp

/- An asterisk belongs to a run, which is short. -/
theorem RunsFollowSlash.stars
    (hRuns : RunsFollowSlash path) :
    StarsFollowSlash path := by
  intro before after hPath
  rcases exists_run_before before with ⟨rest, earlier, rfl, hRest⟩
  rcases exists_run_after after with ⟨later, tail, rfl, hTail⟩
  have hRun :
      path =
        rest ++ List.replicate (earlier + (1 + later)) '*' ++
          tail := by
    rw [hPath, List.replicate_add, List.replicate_add]
    simp
  rcases hRuns rest _ tail hRun ⟨by omega, hRest, hTail⟩ with
    ⟨hShort, hSlash⟩
  rcases List.getLast?_eq_some_iff.mp hSlash with ⟨lead, rfl⟩
  have hEarlier : earlier = 0 ∨ earlier = 1 := by omega
  rcases hEarlier with rfl | rfl
  · left
    exact ⟨lead, by simp⟩
  · right
    exact ⟨lead, by simp⟩

/- The first asterisk of a run follows a slash. -/
theorem StarsFollowSlash.slash_before
    {before after : List Char}
    {count : Nat}
    (hStars : StarsFollowSlash path)
    (hPath : path = before ++ List.replicate count '*' ++ after)
    (hRun : IsRun before count after) :
    before.getLast? = some '/' := by
  obtain ⟨more, rfl⟩ := Nat.exists_eq_add_of_lt hRun.nonempty
  have hFirst :
      path =
        before ++ '*' :: (List.replicate more '*' ++ after) := by
    rw [hPath, Nat.zero_add, List.replicate_succ]
    simp
  rcases hStars before _ hFirst with ⟨lead, rfl⟩ | ⟨lead, rfl⟩
  · simp
  · exact absurd (by simp) hRun.left

/- A third asterisk would follow neither of the two. -/
theorem StarsFollowSlash.count_le
    {before after : List Char}
    {count : Nat}
    (hStars : StarsFollowSlash path)
    (hPath : path = before ++ List.replicate count '*' ++ after) :
    count ≤ 2 := by
  by_contra hLong
  obtain ⟨more, rfl⟩ := Nat.exists_eq_add_of_le
    (Nat.lt_of_not_le hLong)
  have hThird :
      path =
        (before ++ ['*', '*']) ++
          '*' :: (List.replicate more '*' ++ after) := by
    rw [hPath, List.replicate_add]
    simp [List.replicate_succ]
  rcases hStars _ _ hThird with ⟨lead, hLead⟩ | ⟨lead, hLead⟩
  · simpa using congrArg List.getLast? hLead
  · simpa using congrArg List.reverse hLead

/- What is said of runs can be said of single asterisks. -/
theorem runsFollowSlash_iff :
    RunsFollowSlash path ↔ StarsFollowSlash path := by
  constructor
  · exact RunsFollowSlash.stars
  · intro hStars before count after hPath hRun
    exact
      ⟨hStars.count_le hPath, hStars.slash_before hPath hRun⟩

end Rule

end BuildForm

------------------------------------------------------------
-- Asterisks in Longer Paths
------------------------------------------------------------

namespace BuildForm

namespace Rule

variable {path first second : List Char}

theorem starsFollowSlash_of_not_mem
    (hPath : '*' ∉ path) :
    StarsFollowSlash path := by
  intro before after hSame
  exact absurd (by simp [hSame]) hPath

/- A slash with at most two asterisks. -/
theorem starsFollowSlash_slash
    {count : Nat}
    (hCount : count ≤ 2) :
    StarsFollowSlash ('/' :: List.replicate count '*') := by
  intro before after hSame
  cases before with
  | nil => exact absurd hSame (by simp)
  | cons c before =>
      simp only [List.cons_append, List.cons.injEq] at hSame
      rcases hSame with ⟨rfl, hSame⟩
      rcases List.append_eq_replicate_iff.mp hSame.symm with
        ⟨hLength, hBefore, _⟩
      have hShort : before.length = 0 ∨ before.length = 1 := by
        simp only [List.length_cons] at hLength
        omega
      rw [hBefore]
      rcases hShort with hLength | hLength
      · left
        simp [hLength]
      · right
        simp [hLength]

theorem StarsFollowSlash.append
    (hFirst : StarsFollowSlash first)
    (hSecond : StarsFollowSlash second) :
    StarsFollowSlash (first ++ second) := by
  intro before after hSame
  rcases List.append_eq_append_iff.mp hSame with
    ⟨rest, rfl, hRest⟩ | ⟨rest, hBefore, hRest⟩
  · exact
      (hSecond rest after hRest).imp
        (fun hSlash => hSlash.trans (List.suffix_append _ _))
        (fun hSlash => hSlash.trans (List.suffix_append _ _))
  · cases rest with
    | nil =>
        -- The second path would start with an asterisk.
        have hNone := hSecond [] after (by simpa using hRest.symm)
        simp at hNone
    | cons c rest =>
        simp only [List.cons_append, List.cons.injEq] at hRest
        rcases hRest with ⟨rfl, _⟩
        exact hFirst before rest hBefore

/- What a path starts with has no more asterisks than it. -/
theorem StarsFollowSlash.of_append
    (hBoth : StarsFollowSlash (first ++ second)) :
    StarsFollowSlash first := by
  rintro before after rfl
  exact hBoth before (after ++ second) (by simp)

end Rule

end BuildForm

------------------------------------------------------------
-- Paths with Wildcards
------------------------------------------------------------

namespace BuildForm

namespace Rule

/-
  A path that starts with a segment, has no reserved
  characters, and has asterisks only after slashes.
-/
structure IsWildPath (path : List Char) : Prop where
  start : path.head? ≠ some '/' ∧ path.head? ≠ some '*'
  plain :
    ∀ c ∈ path,
      c ∉ ['\\', ':', '"', '?', '<', '>', '|', '\r', '\n']
  runs : RunsFollowSlash path

/- A slash and at most two asterisks after it. -/
def IsSeparator (text : List Char) : Prop :=
  ∃ count, count ≤ 2 ∧ text = '/' :: List.replicate count '*'

variable {c : Char}
variable {path rest separator : List Char}

/- A character that is not reserved is one of three kinds. -/
theorem not_reserved_iff :
    c ∉ ['\\', ':', '"', '?', '<', '>', '|', '\r', '\n'] ↔
      IsSegmentChar c ∨ c = '/' ∨ c = '*' := by
  by_cases hSlash : c = '/'
  · subst hSlash
    simp
  · by_cases hStar : c = '*'
    · subst hStar
      simp
    · simp [IsSegmentChar, hSlash, hStar]

theorem IsSegmentChar.ne
    (hChar : IsSegmentChar c) :
    c ≠ '/' ∧ c ≠ '*' := by
  constructor
  · rintro rfl
    exact hChar (by decide)
  · rintro rfl
    exact hChar (by decide)

theorem isWildPath_nil : IsWildPath [] where
  start := by simp
  plain := by simp
  runs :=
    runsFollowSlash_iff.mpr
      (starsFollowSlash_of_not_mem List.not_mem_nil)

/- A path goes on with a character of a segment. -/
theorem IsWildPath.concat
    (hPath : IsWildPath path)
    (hChar : IsSegmentChar c) :
    IsWildPath (path ++ [c]) where
  start := by
    cases path with
    | nil => simpa using hChar.ne
    | cons first path => simpa using hPath.start
  plain := by
    refine List.forall_mem_append.mpr ⟨hPath.plain, ?_⟩
    simpa using not_reserved_iff.mpr (.inl hChar)
  runs := by
    have hStars := runsFollowSlash_iff.mp hPath.runs
    refine
      runsFollowSlash_iff.mpr
        (hStars.append (starsFollowSlash_of_not_mem ?_))
    simpa using hChar.ne.2.symm

/- A path that is not empty goes on with a slash. -/
theorem IsWildPath.append_separator
    (hPath : IsWildPath path)
    (hSome : path ≠ [])
    (hSeparator : IsSeparator separator) :
    IsWildPath (path ++ separator) := by
  rcases hSeparator with ⟨count, hCount, rfl⟩
  refine ⟨?_, ?_, ?_⟩
  · rw [List.head?_append_of_ne_nil _ hSome]
    exact hPath.start
  · refine List.forall_mem_append.mpr ⟨hPath.plain, ?_⟩
    intro c hChar
    apply not_reserved_iff.mpr
    rcases List.mem_cons.mp hChar with rfl | hStar
    · exact .inr (.inl rfl)
    · exact .inr (.inr (List.eq_of_mem_replicate hStar))
  · have hStars := runsFollowSlash_iff.mp hPath.runs
    exact
      runsFollowSlash_iff.mpr
        (hStars.append (starsFollowSlash_slash hCount))

theorem IsWildPath.of_append
    (hPath : IsWildPath (path ++ rest)) :
    IsWildPath path where
  start := by
    cases path with
    | nil => simp
    | cons first path => simpa using hPath.start
  plain := (List.forall_mem_append.mp hPath.plain).1
  runs := by
    have hStars := runsFollowSlash_iff.mp hPath.runs
    exact runsFollowSlash_iff.mpr hStars.of_append

/- No path starts with a separator. -/
theorem IsWildPath.ne_nil_of_append
    (hPath : IsWildPath (path ++ separator))
    (hSeparator : IsSeparator separator) :
    path ≠ [] := by
  rintro rfl
  rcases hSeparator with ⟨count, _, rfl⟩
  exact hPath.start.1 rfl

/-
  A path that is not empty ends with a character of a segment
  or with a separator.
-/
theorem IsWildPath.cases_end
    (hPath : IsWildPath path)
    (hSome : path ≠ []) :
    (∃ rest c, IsSegmentChar c ∧ path = rest ++ [c]) ∨
      ∃ rest separator,
        IsSeparator separator ∧ path = rest ++ separator := by
  rcases List.eq_nil_or_concat' path with rfl | ⟨rest, c, rfl⟩
  · exact absurd rfl hSome
  · have hChar := hPath.plain c (by simp)
    rcases not_reserved_iff.mp hChar with hChar | rfl | rfl
    · exact .inl ⟨rest, c, hChar, rfl⟩
    · exact .inr ⟨rest, ['/'], ⟨0, by omega, rfl⟩, rfl⟩
    · have hStars := runsFollowSlash_iff.mp hPath.runs
      right
      rcases hStars rest [] rfl with ⟨lead, rfl⟩ | ⟨lead, rfl⟩
      · exact ⟨lead, ['/', '*'], ⟨1, by omega, rfl⟩, by simp⟩
      · exact ⟨lead, ['/', '*', '*'], ⟨2, by omega, rfl⟩, by simp⟩

/-
  A property of all paths with wildcards may be shown piece
  by piece, from the left.
-/
@[elab_as_elim]
theorem IsWildPath.pieces_induction
    {motive : List Char → Prop}
    (empty : motive [])
    (char :
      ∀ path c,
        motive path →
        IsSegmentChar c →
        motive (path ++ [c]))
    (separator :
      ∀ path separator,
        path ≠ [] →
        motive path →
        IsSeparator separator →
        motive (path ++ separator))
    {path : List Char}
    (hPath : IsWildPath path) :
    motive path := by
  induction hLength : path.length using Nat.strong_induction_on
    generalizing path with
  | h length ih =>
      by_cases hEmpty : path = []
      · rw [hEmpty]
        exact empty
      · rcases hPath.cases_end hEmpty with
          ⟨rest, c, hChar, rfl⟩ | ⟨rest, piece, hPiece, rfl⟩
        · have hShorter : rest.length < length := by
            simp [← hLength]
          exact
            char rest c (ih _ hShorter hPath.of_append rfl) hChar
        · have hShorter : rest.length < length := by
            rcases hPiece with ⟨count, _, rfl⟩
            simp [← hLength]
          exact
            separator rest piece (hPath.ne_nil_of_append hPiece)
              (ih _ hShorter hPath.of_append rfl) hPiece

end Rule

end BuildForm

------------------------------------------------------------
-- Blocks
------------------------------------------------------------

namespace BuildForm

namespace Rule

/- What the rule takes at a time: a segment and slashes. -/
def IsBlock (block : List Char) : Prop :=
  ∃ (segment : List Char) (separators : List (List Char)),
    segment ≠ [] ∧
      (∀ c ∈ segment, IsSegmentChar c) ∧
      (∀ part ∈ separators, IsSeparator part ∨ part = []) ∧
      block = segment ++ separators.flatten

variable {path block separator : List Char}
variable {blocks : List (List Char)}

theorem isBlock_singleton
    {c : Char}
    (hChar : IsSegmentChar c) :
    IsBlock [c] :=
  ⟨[c], [], by simp, by simpa using hChar, by simp, rfl⟩

theorem IsBlock.append_separator
    (hBlock : IsBlock block)
    (hSeparator : IsSeparator separator) :
    IsBlock (block ++ separator) := by
  rcases hBlock with
    ⟨segment, separators, hSome, hSegment, hSeparators, rfl⟩
  refine
    ⟨segment, separators ++ [separator], hSome, hSegment, ?_,
      by simp⟩
  refine List.forall_mem_append.mpr ⟨hSeparators, ?_⟩
  simpa using Or.inl hSeparator

theorem IsWildPath.append_segment
    (hPath : IsWildPath path)
    {segment : List Char}
    (hSegment : ∀ c ∈ segment, IsSegmentChar c) :
    IsWildPath (path ++ segment) := by
  induction segment generalizing path with
  | nil => simpa using hPath
  | cons c segment ih =>
      rcases List.forall_mem_cons.mp hSegment with ⟨hChar, hRest⟩
      simpa using ih (hPath.concat hChar) hRest

theorem IsWildPath.append_separators
    (hPath : IsWildPath path)
    (hSome : path ≠ [])
    {separators : List (List Char)}
    (hSeparators :
      ∀ part ∈ separators, IsSeparator part ∨ part = []) :
    IsWildPath (path ++ separators.flatten) := by
  induction separators generalizing path with
  | nil => simpa using hPath
  | cons part separators ih =>
      rcases List.forall_mem_cons.mp hSeparators with
        ⟨hPart, hRest⟩
      rw [List.flatten_cons, ← List.append_assoc]
      rcases hPart with hPart | rfl
      · exact
          ih (hPath.append_separator hSome hPart) (by simp [hSome])
            hRest
      · rw [List.append_nil]
        exact ih hPath hSome hRest

theorem IsWildPath.append_blocks
    (hPath : IsWildPath path)
    (hBlocks : ∀ block ∈ blocks, IsBlock block) :
    IsWildPath (path ++ blocks.flatten) := by
  induction blocks generalizing path with
  | nil => simpa using hPath
  | cons block blocks ih =>
      rcases List.forall_mem_cons.mp hBlocks with
        ⟨⟨segment, separators, hSome, hSegment, hSeparators, rfl⟩,
          hRest⟩
      have hSegments := hPath.append_segment hSegment
      have hBlock :=
        hSegments.append_separators (by simp [hSome]) hSeparators
      simpa using ih hBlock hRest

/- The paths with wildcards are those that fall into blocks. -/
theorem isWildPath_iff :
    IsWildPath path ↔
      ∃ blocks : List (List Char),
        (∀ block ∈ blocks, IsBlock block) ∧
          path = blocks.flatten := by
  constructor
  · intro hPath
    refine hPath.pieces_induction ?empty ?char ?separator
    case empty => exact ⟨[], by simp, rfl⟩
    case char =>
      rintro _ c ⟨blocks, hBlocks, rfl⟩ hChar
      refine ⟨blocks ++ [[c]], ?_, by simp⟩
      refine List.forall_mem_append.mpr ⟨hBlocks, ?_⟩
      simpa using isBlock_singleton hChar
    case separator =>
      -- A separator belongs to the block before it.
      rintro _ separator hSome ⟨blocks, hBlocks, rfl⟩ hSeparator
      rcases List.eq_nil_or_concat' blocks with
        rfl | ⟨earlier, last, rfl⟩
      · exact absurd rfl hSome
      · rcases List.forall_mem_append.mp hBlocks with
          ⟨hEarlier, hLast⟩
        refine ⟨earlier ++ [last ++ separator], ?_, by simp⟩
        refine List.forall_mem_append.mpr ⟨hEarlier, ?_⟩
        have hLast : IsBlock last := by simpa using hLast
        simpa using hLast.append_separator hSeparator
  · rintro ⟨blocks, hBlocks, rfl⟩
    simpa using isWildPath_nil.append_blocks hBlocks

end Rule

end BuildForm

------------------------------------------------------------
-- Accepted Paths
------------------------------------------------------------

namespace BuildForm

namespace Rule

open Pattern

variable {text after : List Char}

def separatorPattern : Pattern :=
  .alt
    (.optional (.exactly "/"))
    (.seq (.exactly "/") (.atMost (.exactly "*") 2))

def blockPattern : Pattern :=
  .seq (.oneOrMore (.one segmentChars)) (.many separatorPattern)

theorem antPattern_eq :
    antPattern =
      .seq
        (.many
          (.alt blockPattern
            (.seq (.exactly "/*.*") .textEnd)))
        .textEnd :=
  rfl

theorem matches_separatorPattern_iff :
    Matches separatorPattern text after ↔
      IsSeparator text ∨ text = [] := by
  have hStars : exactly "*" = .one (.ofChars ['*']) := rfl
  simp only [separatorPattern, hStars, matches_alt_iff,
    matches_optional_iff, matches_seq_exactly_iff,
    matches_exactly_iff, matches_atMost_one_iff,
    CharSet.contains_ofChars_iff, List.mem_singleton]
  constructor
  · rintro ((rfl | rfl) | ⟨stars, rfl, hCount, hStars⟩)
    · exact .inl ⟨0, Nat.zero_le 2, rfl⟩
    · exact .inr rfl
    · left
      refine ⟨stars.length, hCount, ?_⟩
      rw [← List.eq_replicate_of_mem hStars]
      rfl
  · rintro (⟨count, hCount, rfl⟩ | rfl)
    · right
      refine ⟨List.replicate count '*', rfl, ?_, ?_⟩
      · simpa using hCount
      · exact fun _ hStar => List.eq_of_mem_replicate hStar
    · exact .inl (.inr rfl)

theorem matches_blockPattern_iff :
    Matches blockPattern text after ↔ IsBlock text := by
  simp only [blockPattern, matches_seq_iff,
    matches_oneOrMore_one_iff, contains_segmentChars_iff,
    matches_many_iff matches_separatorPattern_iff]
  constructor
  · rintro ⟨segment, _, rfl, ⟨hSome, hSegment⟩, separators,
      hSeparators, rfl⟩
    exact
      ⟨segment, separators, hSome, hSegment, hSeparators, rfl⟩
  · rintro
      ⟨segment, separators, hSome, hSegment, hSeparators, rfl⟩
    exact
      ⟨segment, separators.flatten, rfl, ⟨hSome, hSegment⟩,
        separators, hSeparators, rfl⟩

theorem matches_closing_iff :
    Matches (.seq (.exactly "/*.*") .textEnd) text after ↔
      text = "/*.*".toList ∧ after = [] := by
  rw [matches_seq_textEnd_iff, matches_exactly_iff]

/-
  The paths with wildcards are accepted, with and without a
  final wildcard for all files, and no others are.
-/
theorem ant_path_language (value : String) :
    isAntPath value ↔
      ∃ path,
        IsWildPath path ∧
          (value.toList = path ∨
            value.toList = path ++ "/*.*".toList) := by
  have hMany :
      isAntPath value ↔
        ∃ (blocks : List (List Char)) (ending : List Char),
          (∀ block ∈ blocks, IsBlock block) ∧
            (ending = [] ∨ ending = "/*.*".toList) ∧
            value.toList = blocks.flatten ++ ending := by
    rw [isAntPath, accepts_iff, antPattern_eq,
      matches_seq_textEnd_iff, and_iff_left rfl,
      matches_many_alt_end_iff matches_blockPattern_iff
        matches_closing_iff]
  rw [hMany]
  constructor
  · rintro ⟨blocks, ending, hBlocks, hEnding, hValue⟩
    refine
      ⟨blocks.flatten, isWildPath_iff.mpr ⟨blocks, hBlocks, rfl⟩,
        ?_⟩
    rcases hEnding with rfl | rfl
    · exact .inl (hValue.trans (List.append_nil _))
    · exact .inr hValue
  · rintro ⟨path, hPath, hValue⟩
    rcases isWildPath_iff.mp hPath with ⟨blocks, hBlocks, rfl⟩
    rcases hValue with hValue | hValue
    · exact
        ⟨blocks, [], hBlocks, .inl rfl,
          hValue.trans (List.append_nil _).symm⟩
    · exact ⟨blocks, _, hBlocks, .inr rfl, hValue⟩

end Rule

end BuildForm
