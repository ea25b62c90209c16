import Mathlib.Data.List.Chain
import Mathlib.Data.List.Infix
import BuildForm.Form.HiddenList

/-
  The entries of a hidden input, and the strings that are
  put together from entries.

  A separator cuts the entries before it from those after it,
  so that separators at the ends and doubled ones do not show
  in the entries, and so that encoding appends. Strings made
  of entries with single separators between them are those
  that neither start with a separator nor have two in a row.

  Main declarations:
    * `HiddenList.decodeChars_append_cons`
    * `HiddenList.decode_encode`
    * `HiddenList.entries_ofEntries`
    * `HiddenList.IsTidy`
    * `HiddenList.IsTidy.encodeChars`
    * `HiddenList.isWellFormed_iff`
-/

------------------------------------------------------------
-- Entries
------------------------------------------------------------

namespace BuildForm

namespace HiddenList

/- What can be an entry: some text without a separator. -/
structure IsEntry (text : List Char) : Prop where
  nonempty : text ≠ []
  plain : separator ∉ text

variable {text : List Char}

/- A separator cuts the entries in two. -/
theorem decodeChars_append_cons (first rest : List Char) :
    decodeChars (first ++ separator :: rest) =
      decodeChars first ++ decodeChars rest := by
  unfold decodeChars
  simp only [List.splitOn_eq_splitOnP]
  rw [List.splitOnP_append_cons first rest (by simp),
    List.filter_append]

theorem decodeChars_nil : decodeChars [] = [] := by
  simp [decodeChars]

/- A separator at the start is no part of an entry. -/
theorem decodeChars_cons (rest : List Char) :
    decodeChars (separator :: rest) = decodeChars rest :=
  decodeChars_append_cons [] rest

/- A separator at the end is no part of an entry. -/
theorem decodeChars_concat (first : List Char) :
    decodeChars (first ++ [separator]) = decodeChars first := by
  rw [decodeChars_append_cons, decodeChars_nil, List.append_nil]

/- Without a separator there is at most one entry. -/
theorem decodeChars_of_plain (hPlain : separator ∉ text) :
    decodeChars text = if text = [] then [] else [text] := by
  have hWhole : text.splitOn separator = [text] := by
    rw [List.splitOn_eq_splitOnP]
    apply List.splitOnP_eq_singleton
    intro c hMember
    have hOther : c ≠ separator := by
      rintro rfl
      exact hPlain hMember
    simpa using hOther
  unfold decodeChars
  rw [hWhole]
  by_cases hEmpty : text = []
  · simp [hEmpty]
  · simp [hEmpty]

theorem IsEntry.decodeChars (hEntry : IsEntry text) :
    decodeChars text = [text] := by
  rw [decodeChars_of_plain hEntry.plain,
    if_neg hEntry.nonempty]

/-
  A property of all strings may be shown part by part: of a
  part without separators, and of one with a separator and
  more after it.
-/
theorem parts_induction
    {motive : List Char → Prop}
    (last : ∀ part, separator ∉ part → motive part)
    (more :
      ∀ part rest,
        separator ∉ part →
        motive rest →
        motive (part ++ separator :: rest))
    (raw : List Char) :
    motive raw := by
  -- The induction is on what is left to read; the part that
  -- was read before it grows until a separator ends it.
  have hFrom :
      ∀ part, separator ∉ part → motive (part ++ raw) := by
    induction raw with
    | nil =>
        intro part hPart
        rw [List.append_nil]
        exact last part hPart
    | cons c rest ih =>
        intro part hPart
        by_cases hMark : c = separator
        · subst hMark
          exact more part rest hPart (ih [] List.not_mem_nil)
        · have hLonger : separator ∉ part ++ [c] := by
            simp [hPart, Ne.symm hMark]
          have hNext := ih (part ++ [c]) hLonger
          rwa [List.append_assoc] at hNext
  exact hFrom [] List.not_mem_nil

/- Every entry of a string is one. -/
theorem isEntry_of_mem_decodeChars
    {raw entry : List Char}
    (hMember : entry ∈ decodeChars raw) :
    IsEntry entry := by
  have hPart :
      ∀ part,
        separator ∉ part →
        entry ∈ decodeChars part →
        IsEntry entry := by
    intro part hPlain hEntry
    rw [decodeChars_of_plain hPlain] at hEntry
    split at hEntry
    · exact absurd hEntry List.not_mem_nil
    · rename_i hNonempty
      rw [List.mem_singleton.mp hEntry]
      exact ⟨hNonempty, hPlain⟩
  induction raw using parts_induction with
  | last part hPlain => exact hPart part hPlain hMember
  | more part rest hPlain ih =>
      rw [decodeChars_append_cons] at hMember
      rcases List.mem_append.mp hMember with hFirst | hRest
      · exact hPart part hPlain hFirst
      · exact ih hRest

theorem isEntry_of_mem_decode
    {raw entry : String}
    (hMember : entry ∈ decode raw) :
    IsEntry entry.toList := by
  rcases List.mem_map.mp hMember with ⟨chars, hChars, rfl⟩
  rw [String.toList_ofList]
  exact isEntry_of_mem_decodeChars hChars

theorem IsEntry.decode
    {value : String}
    (hEntry : IsEntry value.toList) :
    decode value = [value] := by
  unfold HiddenList.decode
  rw [hEntry.decodeChars]
  simp

/- Entries are what they decode to. -/
theorem flatMap_decode
    {entries : List String}
    (hEntries : ∀ entry ∈ entries, IsEntry entry.toList) :
    entries.flatMap decode = entries := by
  induction entries with
  | nil => rfl
  | cons entry rest ih =>
      rw [List.flatMap_cons,
        (hEntries entry List.mem_cons_self).decode,
        ih fun other hOther =>
          hEntries other (List.mem_cons_of_mem entry hOther)]
      rfl

end HiddenList

end BuildForm

------------------------------------------------------------
-- Encoding
------------------------------------------------------------

namespace BuildForm

namespace HiddenList

theorem decodeChars_encodeChars
    (existing value : List Char) :
    decodeChars (encodeChars existing value) =
      decodeChars existing ++ decodeChars value := by
  unfold encodeChars
  dsimp only
  rw [decodeChars_concat]
  split
  · rename_i hOpen
    rw [List.append_nil]
    rcases hOpen with rfl | hEnds
    · rfl
    · rcases List.getLast?_eq_some_iff.mp hEnds with
        ⟨first, rfl⟩
      rw [List.append_assoc, List.singleton_append,
        decodeChars_append_cons, decodeChars_concat]
  · rw [List.append_assoc, List.singleton_append,
      decodeChars_append_cons]

/- What is encoded last is decoded last. -/
theorem decode_encode (existing value : String) :
    decode (encode existing value) =
      decode existing ++ decode value := by
  unfold decode encode
  rw [String.toList_ofList, decodeChars_encodeChars,
    List.map_append]

theorem entries_push (list : HiddenList) (value : String) :
    (list.push value).entries =
      list.entries ++ decode value :=
  decode_encode list.raw value

theorem entries_foldl_push
    (list : HiddenList)
    (values : List String) :
    (values.foldl push list).entries =
      list.entries ++ values.flatMap decode := by
  induction values generalizing list with
  | nil => simp
  | cons value values ih =>
      rw [List.foldl_cons, ih, entries_push,
        List.flatMap_cons, List.append_assoc]

theorem entries_empty : empty.entries = [] := by
  simp [entries, decode, empty, decodeChars_nil]

/- Pushed in turn, texts are decoded in turn. -/
theorem entries_ofEntries (values : List String) :
    (ofEntries values).entries = values.flatMap decode := by
  unfold ofEntries
  rw [entries_foldl_push, entries_empty, List.nil_append]

/- The entries of a string are kept by encoding them again. -/
theorem entries_ofEntries_decode (raw : String) :
    (ofEntries (decode raw)).entries = decode raw := by
  rw [entries_ofEntries]
  exact flatMap_decode fun _ => isEntry_of_mem_decode

end HiddenList

end BuildForm

------------------------------------------------------------
-- Tidy Strings
------------------------------------------------------------

namespace BuildForm

namespace HiddenList

variable {raw value first rest : List Char}

/- No separator at the start and no two in a row. -/
structure IsTidy (raw : List Char) : Prop where
  noLead : raw.head? ≠ some separator
  noDouble : ¬[separator, separator] <:+: raw

/- A tidy string without a separator at the end. -/
structure IsTrimmed (raw : List Char) : Prop
    extends IsTidy raw where
  noEnd : raw.getLast? ≠ some separator

/- A separator is not followed by another one. -/
def Apart (before after : Char) : Prop :=
  before = separator → after ≠ separator

theorem noDouble_iff :
    ¬[separator, separator] <:+: raw ↔ raw.IsChain Apart := by
  rw [List.isChain_iff_forall_rel_of_append_cons_cons]
  refine ⟨?_, ?_⟩
  · rintro hNone before after lead tail rfl rfl rfl
    exact hNone ⟨lead, tail, by simp⟩
  · rintro hApart ⟨lead, tail, hRaw⟩
    rw [List.append_assoc] at hRaw
    exact hApart hRaw.symm rfl rfl

theorem isChain_of_plain (hPlain : separator ∉ raw) :
    raw.IsChain Apart := by
  rw [← noDouble_iff]
  intro hDouble
  exact hPlain (hDouble.subset List.mem_cons_self)

/- A part without separators may be followed by one. -/
theorem isChain_append_cons
    (hPlain : separator ∉ first)
    (hRest : (separator :: rest).IsChain Apart) :
    (first ++ separator :: rest).IsChain Apart := by
  refine List.isChain_append.mpr
    ⟨isChain_of_plain hPlain, hRest, ?_⟩
  rintro last hLast _ _ rfl
  exact absurd (List.mem_of_getLast? hLast) hPlain

theorem IsEntry.head?_ne (hEntry : IsEntry value) :
    value.head? ≠ some separator :=
  fun hHead => hEntry.plain (List.mem_of_head? hHead)

theorem IsEntry.getLast?_ne (hEntry : IsEntry value) :
    value.getLast? ≠ some separator :=
  fun hLast => hEntry.plain (List.mem_of_getLast? hLast)

/- A separator may stand before an entry and after it. -/
theorem IsEntry.isChain_cons (hEntry : IsEntry value) :
    (separator :: (value ++ [separator])).IsChain Apart := by
  rw [List.isChain_cons]
  refine ⟨?_, isChain_append_cons hEntry.plain (by simp)⟩
  rintro c hHead _ rfl
  rw [List.head?_append_of_ne_nil _ hEntry.nonempty] at hHead
  exact hEntry.head?_ne hHead

/- What is encoded comes after a separator or at the start. -/
theorem isChain_encodeChars
    (hRaw : raw.IsChain Apart)
    (hEntry : IsEntry value) :
    (encodeChars raw value).IsChain Apart := by
  have hLast : ([separator] : List Char).IsChain Apart :=
    List.isChain_singleton separator
  unfold encodeChars
  dsimp only
  split
  · rename_i hOpen
    rw [List.append_nil]
    rcases hOpen with rfl | hEnds
    · exact isChain_append_cons hEntry.plain hLast
    · rcases List.getLast?_eq_some_iff.mp hEnds with
        ⟨first, rfl⟩
      rw [List.append_assoc, List.append_assoc,
        List.singleton_append, List.isChain_split]
      exact ⟨hRaw, hEntry.isChain_cons⟩
  · rename_i hClosed
    rw [List.append_assoc, List.append_assoc,
      List.singleton_append, List.isChain_split]
    refine ⟨List.isChain_append.mpr ⟨hRaw, hLast, ?_⟩,
      hEntry.isChain_cons⟩
    rintro last hEnds _ _ rfl
    exact absurd (Or.inr hEnds) hClosed

/- A tidy string stays tidy if an entry is encoded. -/
theorem IsTidy.encodeChars
    (hTidy : IsTidy raw)
    (hEntry : IsEntry value) :
    IsTidy (encodeChars raw value) where
  noLead := by
    unfold HiddenList.encodeChars
    dsimp only
    rw [List.append_assoc, List.append_assoc]
    by_cases hEmpty : raw = []
    · rw [if_pos (Or.inl hEmpty), hEmpty, List.nil_append,
        List.nil_append,
        List.head?_append_of_ne_nil _ hEntry.nonempty]
      exact hEntry.head?_ne
    · rw [List.head?_append_of_ne_nil _ hEmpty]
      exact hTidy.noLead
  noDouble :=
    noDouble_iff.mpr
      (isChain_encodeChars (noDouble_iff.mp hTidy.noDouble)
        hEntry)

/- After an entry is encoded there is one separator at the end. -/
theorem IsEntry.encodeChars_end
    (hEntry : IsEntry value)
    (raw : List Char) :
    ∃ body,
      HiddenList.encodeChars raw value = body ++ [separator] ∧
      body.getLast? ≠ some separator := by
  refine ⟨_, rfl, ?_⟩
  rw [List.getLast?_append_of_ne_nil _ hEntry.nonempty]
  exact hEntry.getLast?_ne

end HiddenList

end BuildForm

------------------------------------------------------------
-- Well-Formed Strings
------------------------------------------------------------

namespace BuildForm

namespace HiddenList

variable {raw : List Char}

/-
  Entries with single separators between them, and possibly
  with one at the end.
-/
def IsWellFormed (raw : List Char) : Prop :=
  ∃ entries : List (List Char),
    (∀ entry ∈ entries, IsEntry entry) ∧
    (raw = [separator].intercalate entries ∨
      entries ≠ [] ∧
        raw = [separator].intercalate entries ++ [separator])

/- An entry may be put before a well-formed string. -/
theorem IsWellFormed.cons
    (hRaw : IsWellFormed raw)
    {entry : List Char}
    (hEntry : IsEntry entry) :
    IsWellFormed (entry ++ separator :: raw) := by
  rcases hRaw with ⟨entries, hEntries, hJoined⟩
  have hMore : ∀ other ∈ entry :: entries, IsEntry other :=
    List.forall_mem_cons.mpr ⟨hEntry, hEntries⟩
  by_cases hEmpty : entries = []
  · subst hEmpty
    refine ⟨[entry], hMore, Or.inr ⟨by simp, ?_⟩⟩
    rcases hJoined with rfl | ⟨hNonempty, _⟩
    · simp
    · exact absurd rfl hNonempty
  · refine ⟨entry :: entries, hMore, ?_⟩
    rw [List.intercalate_cons_of_ne_nil hEmpty]
    rcases hJoined with rfl | ⟨_, rfl⟩
    · exact Or.inl (by simp)
    · exact Or.inr ⟨by simp, by simp⟩

theorem IsEntry.isWellFormed
    (hEntry : IsEntry raw) :
    IsWellFormed raw :=
  ⟨[raw], by simpa using hEntry, Or.inl (by simp)⟩

theorem isWellFormed_nil : IsWellFormed [] :=
  ⟨[], by simp, Or.inl rfl⟩

theorem isTidy_nil : IsTidy [] where
  noLead := by simp
  noDouble := noDouble_iff.mpr List.isChain_nil

theorem IsEntry.isTidy (hEntry : IsEntry raw) : IsTidy raw where
  noLead := hEntry.head?_ne
  noDouble := noDouble_iff.mpr (isChain_of_plain hEntry.plain)

/- An entry may be put before a tidy string, and only that. -/
theorem isTidy_append_cons_iff
    {part : List Char}
    (hPlain : separator ∉ part)
    (rest : List Char) :
    IsTidy (part ++ separator :: rest) ↔
      part ≠ [] ∧ IsTidy rest := by
  refine ⟨?_, ?_⟩
  · intro hTidy
    have hChain := noDouble_iff.mp hTidy.noDouble
    rw [List.isChain_split, List.isChain_cons] at hChain
    refine ⟨?_, ?_, noDouble_iff.mpr hChain.2.2⟩
    · rintro rfl
      exact hTidy.noLead rfl
    · intro hHead
      exact hChain.2.1 separator hHead rfl rfl
  · rintro ⟨hNonempty, hRest⟩
    have hEntry : IsEntry part := ⟨hNonempty, hPlain⟩
    refine ⟨?_, noDouble_iff.mpr ?_⟩
    · rw [List.head?_append_of_ne_nil _ hNonempty]
      exact hEntry.head?_ne
    · apply isChain_append_cons hPlain
      rw [List.isChain_cons]
      refine ⟨?_, noDouble_iff.mp hRest.noDouble⟩
      rintro c hHead _ rfl
      exact hRest.noLead hHead

theorem IsEntry.isTidy_append_cons
    {entry rest : List Char}
    (hEntry : IsEntry entry)
    (hRest : IsTidy rest) :
    IsTidy (entry ++ separator :: rest) :=
  (isTidy_append_cons_iff hEntry.plain rest).mpr
    ⟨hEntry.nonempty, hRest⟩

/- Joined entries are tidy, with a separator at the end too. -/
theorem isTidy_intercalate
    {entries : List (List Char)}
    (hEntries : ∀ entry ∈ entries, IsEntry entry) :
    IsTidy ([separator].intercalate entries) ∧
      (entries ≠ [] →
        IsTidy
          ([separator].intercalate entries ++ [separator])) := by
  induction entries with
  | nil => exact ⟨isTidy_nil, fun hEmpty => absurd rfl hEmpty⟩
  | cons entry entries ih =>
      rcases List.forall_mem_cons.mp hEntries with
        ⟨hEntry, hOthers⟩
      rcases ih hOthers with ⟨hJoined, hEnded⟩
      by_cases hEmpty : entries = []
      · subst hEmpty
        refine ⟨by simpa using hEntry.isTidy, fun _ => ?_⟩
        simpa using hEntry.isTidy_append_cons isTidy_nil
      · rw [List.intercalate_cons_of_ne_nil hEmpty]
        refine ⟨?_, fun _ => ?_⟩
        · simpa using hEntry.isTidy_append_cons hJoined
        · simpa using
            hEntry.isTidy_append_cons (hEnded hEmpty)

/- The well-formed strings are the tidy ones. -/
theorem isWellFormed_iff :
    IsWellFormed raw ↔ IsTidy raw := by
  refine ⟨?_, ?_⟩
  · rintro ⟨entries, hEntries, rfl | ⟨hNonempty, rfl⟩⟩
    · exact (isTidy_intercalate hEntries).1
    · exact (isTidy_intercalate hEntries).2 hNonempty
  · induction raw using parts_induction with
    | last part hPlain =>
        intro _
        by_cases hEmpty : part = []
        · rw [hEmpty]
          exact isWellFormed_nil
        · exact IsEntry.isWellFormed ⟨hEmpty, hPlain⟩
    | more part rest hPlain ih =>
        intro hTidy
        rcases (isTidy_append_cons_iff hPlain rest).mp hTidy
          with ⟨hNonempty, hRest⟩
        exact (ih hRest).cons ⟨hNonempty, hPlain⟩

end HiddenList

end BuildForm
