import BuildForm.Proofs.Form.HiddenList
import BuildForm.Proofs.Text.Search

/-
  What stripping a value does to the entries of a string.

  Stripping cuts the first occurrence of the value out of the
  text and then removes separators that are left over, which
  no entry shows. The occurrence lies within one entry, the
  first that contains the value. Only where the cut joins two
  separators are there two in a row, and of these one is
  removed.

  Main declarations:
    * `HiddenList.decodeChars_stripChars`
    * `HiddenList.isTrimmed_stripChars`
    * `HiddenList.CutOut`
    * `HiddenList.cutOut_iff`
    * `HiddenList.strip_cuts_first_occurrence`
    * `HiddenList.encoding_is_canonical`
-/

------------------------------------------------------------
-- Left-Over Separators
------------------------------------------------------------

namespace BuildForm

namespace HiddenList

variable {raw value lead tail : List Char}

/- A doubled separator that is made single shows nowhere. -/
theorem decodeChars_collapse (raw : List Char) :
    decodeChars
        (Text.replaceFirst [separator, separator] [separator]
          raw) =
      decodeChars raw := by
  rcases Text.replaceFirst_cases
      (List.cons_ne_nil separator [separator])
      [separator] raw with
    ⟨_, hSame⟩ | ⟨lead, tail, rfl, _, hReplaced⟩
  · rw [hSame]
  · rw [hReplaced]
    simp [decodeChars_append_cons, decodeChars_cons]

/- A separator that is dropped at the start shows nowhere. -/
theorem decodeChars_dropLead (raw : List Char) :
    decodeChars
        ((Text.dropLead? [separator] raw).getD raw) =
      decodeChars raw := by
  unfold Text.dropLead?
  split
  · rename_i hLead
    rcases List.isPrefixOf_iff_prefix.mp hLead with
      ⟨rest, rfl⟩
    exact (decodeChars_cons rest).symm
  · rfl

/- A separator that is dropped at the end shows nowhere. -/
theorem decodeChars_dropEnd (raw : List Char) :
    decodeChars
        ((Text.dropEnd? separator raw).getD raw) =
      decodeChars raw := by
  unfold Text.dropEnd?
  split
  · rename_i hEnds
    rcases List.getLast?_eq_some_iff.mp hEnds with
      ⟨first, rfl⟩
    rw [List.dropLast_concat]
    exact (decodeChars_concat first).symm
  · rfl

/- Of all that stripping does, only the cut shows. -/
theorem decodeChars_stripChars (raw value : List Char) :
    decodeChars (stripChars raw value) =
      decodeChars (Text.replaceFirst value [] raw) := by
  unfold stripChars
  dsimp only
  rw [decodeChars_dropEnd, decodeChars_dropLead,
    decodeChars_collapse]

theorem not_isChain_double (first rest : List Char) :
    ¬(first ++ separator :: separator :: rest).IsChain
      Apart := by
  intro hChain
  exact (List.isChain_append_cons_cons.mp hChain).2.1 rfl rfl

/-
  Two strings without doubled separators have at most one
  where they meet, and none once that one is made single.
-/
theorem isChain_collapse
    (hLead : lead.IsChain Apart)
    (hTail : tail.IsChain Apart) :
    (Text.replaceFirst [separator, separator] [separator]
      (lead ++ tail)).IsChain Apart := by
  rcases Text.replaceFirst_cases
      (List.cons_ne_nil separator [separator])
      [separator] (lead ++ tail) with
    ⟨hNone, hSame⟩ | ⟨before, after, hText, _, hReplaced⟩
  · rw [hSame]
    exact noDouble_iff.mp hNone
  · rw [hReplaced, List.append_assoc, List.singleton_append,
      List.isChain_split]
    rw [List.append_assoc] at hText
    -- The two separators are the ends that meet: neither
    -- string has both of them.
    rcases List.append_eq_append_iff.mp hText with
      ⟨more, rfl, rfl⟩ | ⟨more, rfl, hAfter⟩
    · exact absurd hTail (not_isChain_double more after)
    · match more, hAfter with
      | [], hAfter =>
          rw [List.nil_append] at hAfter
          rw [← hAfter] at hTail
          exact absurd hTail (not_isChain_double [] after)
      | [c], hAfter =>
          simp only [List.cons_append, List.nil_append,
            List.cons.injEq] at hAfter
          rcases hAfter with ⟨rfl, rfl⟩
          exact ⟨hLead, hTail⟩
      | c :: d :: more, hAfter =>
          simp only [List.cons_append, List.nil_append,
            List.cons.injEq] at hAfter
          rcases hAfter with ⟨rfl, rfl, _⟩
          exact absurd hLead (not_isChain_double before more)

/- What is cut out leaves nothing doubled but where it was. -/
theorem isChain_collapse_cut
    (hRaw : raw.IsChain Apart)
    (hValue : value ≠ []) :
    (Text.replaceFirst [separator, separator] [separator]
      (Text.replaceFirst value [] raw)).IsChain Apart := by
  rcases Text.replaceFirst_cases hValue [] raw with
    ⟨_, hSame⟩ | ⟨lead, tail, rfl, _, hReplaced⟩
  · rw [hSame]
    have hCollapse := isChain_collapse hRaw List.isChain_nil
    rwa [List.append_nil] at hCollapse
  · rw [hReplaced, List.append_nil]
    exact isChain_collapse hRaw.left_of_append.left_of_append
      hRaw.right_of_append

theorem isTidy_dropLead (hRaw : raw.IsChain Apart) :
    IsTidy ((Text.dropLead? [separator] raw).getD raw) := by
  unfold Text.dropLead?
  split
  · rename_i hLead
    rcases List.isPrefixOf_iff_prefix.mp hLead with
      ⟨rest, rfl⟩
    rw [List.singleton_append, List.isChain_cons] at hRaw
    exact
      { noLead := fun hHead =>
          hRaw.1 separator hHead rfl rfl
        noDouble := noDouble_iff.mpr hRaw.2 }
  · rename_i hLead
    refine ⟨?_, noDouble_iff.mpr hRaw⟩
    intro hHead
    rcases List.head?_eq_some_iff.mp hHead with ⟨rest, rfl⟩
    exact hLead (by simp)

theorem IsTidy.isTrimmed_dropEnd (hRaw : IsTidy raw) :
    IsTrimmed ((Text.dropEnd? separator raw).getD raw) := by
  have hChain := noDouble_iff.mp hRaw.noDouble
  unfold Text.dropEnd?
  split
  · rename_i hEnds
    rcases List.getLast?_eq_some_iff.mp hEnds with
      ⟨first, rfl⟩
    rw [List.dropLast_concat]
    rw [List.isChain_append] at hChain
    refine ⟨⟨?_, noDouble_iff.mpr hChain.1⟩, ?_⟩
    · intro hHead
      rw [Option.getD_some] at hHead
      apply hRaw.noLead
      rw [List.head?_append, hHead]
      rfl
    · intro hLast
      exact hChain.2.2 separator hLast separator rfl rfl rfl
  · rename_i hEnds
    exact ⟨hRaw, hEnds⟩

/-
  A string without doubled separators is trimmed once a value
  is stripped from it.
-/
theorem isTrimmed_stripChars
    (hRaw : raw.IsChain Apart)
    (hValue : value ≠ []) :
    IsTrimmed (stripChars raw value) :=
  (isTidy_dropLead
    (isChain_collapse_cut hRaw hValue)).isTrimmed_dropEnd

end HiddenList

end BuildForm

------------------------------------------------------------
-- Cutting a Value Out of the Entries
------------------------------------------------------------

namespace BuildForm

namespace HiddenList

/-
  The first occurrence of a value is cut out of the first
  entry that contains it. The entry is gone if it was the
  value itself, and all others are kept.
-/
inductive CutOut (value : String) :
    List String → List String → Prop where
  | absent : CutOut value [] []
  | later {entry : String} {entries result : List String} :
      ¬value.toList <:+: entry.toList →
      CutOut value entries result →
      CutOut value (entry :: entries) (entry :: result)
  | whole {entries : List String} :
      CutOut value (value :: entries) entries
  | part {entry lead tail : String} {entries : List String} :
      entry = lead ++ value ++ tail →
      Text.IsFirst value.toList lead.toList tail.toList →
      lead ++ tail ≠ "" →
      CutOut value (entry :: entries)
        ((lead ++ tail) :: entries)

variable {value : String}
variable {entries result other : List String}

theorem infix_toList (lead value tail : String) :
    value.toList <:+: (lead ++ value ++ tail).toList :=
  ⟨lead.toList, tail.toList, by simp⟩

/- There is only one way to cut a value out. -/
theorem CutOut.unique
    (hResult : CutOut value entries result)
    (hOther : CutOut value entries other) :
    result = other := by
  -- An entry that is longer than the value is not the value.
  have hProper :
      ∀ {lead tail : String},
        value = lead ++ value ++ tail →
        lead ++ tail = "" := by
    intro lead tail hSame
    have hLength := congrArg String.length hSame
    simp only [String.length_append] at hLength
    apply String.length_eq_zero_iff.mp
    rw [String.length_append]
    omega
  induction hResult generalizing other with
  | absent =>
      cases hOther
      rfl
  | later hNone _ ih =>
      cases hOther with
      | later _ hRest => rw [ih hRest]
      | whole => exact absurd (List.infix_refl _) hNone
      | part hEntry _ _ =>
          rw [hEntry] at hNone
          exact absurd (infix_toList _ _ _) hNone
  | whole =>
      cases hOther with
      | later hNone _ => exact absurd (List.infix_refl _) hNone
      | whole => rfl
      | part hEntry _ hRest => exact absurd (hProper hEntry) hRest
  | part hEntry hFirst hRest =>
      cases hOther with
      | later hNone _ =>
          rw [hEntry] at hNone
          exact absurd (infix_toList _ _ _) hNone
      | whole => exact absurd (hProper hEntry) hRest
      | part hSame hSecond _ =>
          have hText := congrArg String.toList
            (hEntry.symm.trans hSame)
          simp only [String.toList_append] at hText
          rcases hFirst.unique hSecond hText with
            ⟨hLead, hTail⟩
          rw [String.toList_inj.mp hLead,
            String.toList_inj.mp hTail]

variable {part : List Char}

/- A part that lacks the value is passed over. -/
theorem CutOut.append
    (hPlain : separator ∉ part)
    (hNone : ¬value.toList <:+: part)
    (hRest : CutOut value entries result) :
    CutOut value
      ((decodeChars part).map String.ofList ++ entries)
      ((decodeChars part).map String.ofList ++ result) := by
  rw [decodeChars_of_plain hPlain]
  split
  · exact hRest
  · apply CutOut.later
    · rwa [String.toList_ofList]
    · exact hRest

/- The first part that has the value loses it. -/
theorem cutOut_append
    (hValue : value.toList ≠ [])
    (hPlain : separator ∉ part)
    (hOccurs : value.toList <:+: part)
    (entries : List String) :
    CutOut value
      ((decodeChars part).map String.ofList ++ entries)
      ((decodeChars
        (Text.replaceFirst value.toList [] part)).map
          String.ofList ++ entries) := by
  rcases Text.replaceFirst_cases hValue [] part with
    ⟨hNone, _⟩ | ⟨lead, tail, rfl, hFirst, hReplaced⟩
  · exact absurd hOccurs hNone
  · have hEntry : IsEntry (lead ++ value.toList ++ tail) :=
      ⟨by simp [hValue], hPlain⟩
    have hRest : separator ∉ lead ++ tail := by
      intro hMember
      apply hPlain
      rcases List.mem_append.mp hMember with hLead | hTail
      · simp [hLead]
      · simp [hTail]
    rw [hReplaced, List.append_nil, hEntry.decodeChars,
      decodeChars_of_plain hRest]
    split
    · rename_i hGone
      rcases List.append_eq_nil_iff.mp hGone with ⟨rfl, rfl⟩
      simpa using CutOut.whole
    · rename_i hLeft
      have hText :
          String.ofList (lead ++ value.toList ++ tail) =
            String.ofList lead ++ value ++
              String.ofList tail := by
        rw [String.ofList_append, String.ofList_append,
          String.ofList_toList]
      have hPart :
          CutOut value
            (String.ofList (lead ++ value.toList ++ tail) ::
              entries)
            ((String.ofList lead ++ String.ofList tail) ::
              entries) :=
        CutOut.part hText (by simpa using hFirst)
          (by simpa using hLeft)
      simpa using hPart

/- The entries of a string after a value is cut out of it. -/
theorem cutOut_decodeChars
    (hValue : IsEntry value.toList)
    (raw : List Char) :
    CutOut value
      ((decodeChars raw).map String.ofList)
      ((decodeChars
        (Text.replaceFirst value.toList [] raw)).map
        String.ofList) := by
  induction raw using parts_induction with
  | last part hPlain =>
      by_cases hOccurs : value.toList <:+: part
      · have hCut :=
          cutOut_append hValue.nonempty hPlain hOccurs []
        rwa [List.append_nil, List.append_nil] at hCut
      · have hCut := CutOut.absent.append hPlain hOccurs
        rw [List.append_nil] at hCut
        rwa [Text.replaceFirst_of_not_infix hOccurs]
  | more part rest hPlain ih =>
      rw [decodeChars_append_cons, List.map_append]
      by_cases hOccurs : value.toList <:+: part
      · rw [Text.replaceFirst_append_of_infix hOccurs,
          decodeChars_append_cons, List.map_append]
        exact cutOut_append hValue.nonempty hPlain hOccurs _
      · rw [Text.replaceFirst_append_cons hValue.nonempty
            hValue.plain hOccurs,
          decodeChars_append_cons, List.map_append]
        exact ih.append hPlain hOccurs

/-
  To strip a value cuts it out of the entries, whatever the
  string looks like.
-/
theorem cutOut_iff
    (hValue : IsEntry value.toList)
    (raw : String) :
    CutOut value (decode raw) result ↔
      decode (strip raw value) = result := by
  have hCut :
      CutOut value (decode raw) (decode (strip raw value)) := by
    unfold decode strip
    rw [String.toList_ofList, decodeChars_stripChars]
    exact cutOut_decodeChars hValue raw.toList
  refine ⟨hCut.unique, ?_⟩
  rintro rfl
  exact hCut

/- An entry within no earlier one is dropped. -/
theorem cutOut_middle
    {before : List String}
    (hNone :
      ∀ entry ∈ before, ¬value.toList <:+: entry.toList)
    (after : List String) :
    CutOut value (before ++ value :: after)
      (before ++ after) := by
  induction before with
  | nil => exact CutOut.whole
  | cons entry before ih =>
      rcases List.forall_mem_cons.mp hNone with
        ⟨hEntry, hOthers⟩
      exact CutOut.later hEntry (ih hOthers)

/- If the value lies within another entry, none is dropped. -/
theorem CutOut.length_eq
    {before after : List String}
    (hCut : CutOut value (before ++ after) result)
    (hNew : value ∉ before)
    (hWithin :
      ∃ entry ∈ before, value.toList <:+: entry.toList) :
    result.length = (before ++ after).length := by
  induction before generalizing result with
  | nil =>
      rcases hWithin with ⟨entry, hMember, _⟩
      exact absurd hMember List.not_mem_nil
  | cons first before ih =>
      rcases not_or.mp (List.mem_cons.not.mp hNew) with
        ⟨hOther, hRest⟩
      cases hCut with
      | later hNone hLater =>
          rcases hWithin with ⟨entry, hMember, hOccurs⟩
          rcases List.mem_cons.mp hMember with rfl | hIn
          · exact absurd hOccurs hNone
          · have hLength :=
              ih hLater hRest ⟨entry, hIn, hOccurs⟩
            simp [hLength]
      | whole => exact absurd rfl hOther
      | part _ _ _ => simp

/-
  To strip a value from a well-formed string leaves neither
  separators at the ends nor doubled ones, and of the entries
  all but the first occurrence of the value.
-/
theorem strip_cuts_first_occurrence
    {raw value : String}
    (hRaw : IsWellFormed raw.toList)
    (hValue : IsEntry value.toList) :
    IsTrimmed (strip raw value).toList ∧
      ∀ result,
        CutOut value (decode raw) result ↔
          decode (strip raw value) = result := by
  refine ⟨?_, fun result => cutOut_iff hValue raw⟩
  unfold strip
  rw [String.toList_ofList]
  exact isTrimmed_stripChars
    (noDouble_iff.mp (isWellFormed_iff.mp hRaw).noDouble)
    hValue.nonempty

/- A value that lies within an earlier entry is cut out there. -/
theorem strip_cuts_first_occurrence_inside :
    IsWellFormed "ab;c;a;".toList ∧
      IsEntry "a".toList ∧
      CutOut "a" (decode "ab;c;a;") ["b", "c", "a"] ∧
      IsTrimmed (strip "ab;c;a;" "a").toList := by
  have hRaw : IsWellFormed "ab;c;a;".toList :=
    ⟨[['a', 'b'], ['c'], ['a']],
      by
        intro entry hEntry
        simp only [List.mem_cons, List.not_mem_nil,
          or_false] at hEntry
        rcases hEntry with rfl | rfl | rfl <;>
          exact ⟨by decide, by decide⟩,
      Or.inr ⟨by decide, by decide⟩⟩
  have hValue : IsEntry "a".toList := ⟨by decide, by decide⟩
  have hStrip := strip_cuts_first_occurrence hRaw hValue
  exact
    ⟨hRaw, hValue, (hStrip.2 _).mpr (by decide), hStrip.1⟩

end HiddenList

end BuildForm

------------------------------------------------------------
-- Runs of Pushing and Removing
------------------------------------------------------------

namespace BuildForm

namespace HiddenList

/- A change of a hidden input by one value. -/
inductive Edit where
  | push (value : String)
  | remove (value : String)

/- The value that is pushed or removed. -/
def Edit.value : Edit → String
  | .push value => value
  | .remove value => value

def edit (list : HiddenList) : Edit → HiddenList
  | .push value => list.push value
  | .remove value => list.remove value

/- The input after the edits in turn. -/
def editAll
    (list : HiddenList)
    (edits : List Edit) : HiddenList :=
  edits.foldl edit list

variable {list : HiddenList}

/- One case for each kind of edit. -/
theorem IsTidy.edit
    (hTidy : IsTidy list.raw.toList)
    {change : Edit}
    (hValue : IsEntry change.value.toList) :
    IsTidy (list.edit change).raw.toList := by
  cases change with
  | push value =>
      change IsTidy (String.toList (String.ofList _))
      rw [String.toList_ofList]
      exact hTidy.encodeChars hValue
  | remove value =>
      change IsTidy (String.toList (String.ofList _))
      rw [String.toList_ofList]
      exact
        (isTrimmed_stripChars (noDouble_iff.mp hTidy.noDouble)
          hValue.nonempty).toIsTidy

/- Edits by entries keep a hidden input tidy. -/
theorem IsTidy.editAll
    (hTidy : IsTidy list.raw.toList)
    {edits : List Edit}
    (hValues :
      ∀ change ∈ edits, IsEntry change.value.toList) :
    IsTidy (list.editAll edits).raw.toList := by
  induction edits generalizing list with
  | nil => exact hTidy
  | cons change edits ih =>
      rcases List.forall_mem_cons.mp hValues with
        ⟨hValue, hOthers⟩
      exact ih (hTidy.edit hValue) hOthers

theorem isTidy_empty : IsTidy empty.raw.toList :=
  isTidy_nil

/-
  Encoding appends to the entries and leaves a tidy string
  with one separator at the end. Decoding and encoding again
  keeps the entries, and the string too from the second time
  on. No run of edits by entries makes an empty hidden input
  untidy.
-/
theorem encoding_is_canonical :
    (∀ existing value : String,
      decode (encode existing value) =
        decode existing ++ decode value) ∧
    (∀ existing value : String,
      IsTidy existing.toList →
      IsEntry value.toList →
      IsTidy (encode existing value).toList ∧
        ∃ body,
          (encode existing value).toList =
            body ++ [separator] ∧
          body.getLast? ≠ some separator) ∧
    (∀ raw : String,
      (ofEntries (decode raw)).entries = decode raw ∧
        ofEntries (ofEntries (decode raw)).entries =
          ofEntries (decode raw)) ∧
    (∀ edits : List Edit,
      (∀ change ∈ edits, IsEntry change.value.toList) →
      IsTidy (empty.editAll edits).raw.toList) := by
  refine ⟨decode_encode, ?_, ?_, ?_⟩
  · intro existing value hTidy hValue
    unfold encode
    rw [String.toList_ofList]
    exact
      ⟨hTidy.encodeChars hValue,
        hValue.encodeChars_end existing.toList⟩
  · intro raw
    have hEntries := entries_ofEntries_decode raw
    exact ⟨hEntries, by rw [hEntries]⟩
  · intro edits hValues
    exact isTidy_empty.editAll hValues

/- An entry after an open end, and edits with a cut inside. -/
theorem encoding_is_canonical_open :
    (IsTidy "a;b".toList ∧
      IsEntry "c".toList ∧
      IsTidy (encode "a;b" "c").toList) ∧
    (IsEntry "ab".toList ∧
      IsEntry "a".toList ∧
      IsTidy
        (empty.editAll
          [.push "ab", .push "a", .remove "a",
            .push "ab"]).raw.toList) := by
  have hCanonical := encoding_is_canonical
  have hShort : IsEntry "a".toList := ⟨by decide, by decide⟩
  have hLong : IsEntry "ab".toList := ⟨by decide, by decide⟩
  have hNew : IsEntry "c".toList := ⟨by decide, by decide⟩
  have hTidy : IsTidy "a;b".toList :=
    { noLead := by decide
      noDouble := noDouble_iff.mpr (by
        simp [Apart, separator]) }
  refine
    ⟨⟨hTidy, hNew,
      (hCanonical.2.1 "a;b" "c" hTidy hNew).1⟩,
      hLong, hShort, ?_⟩
  apply hCanonical.2.2.2
  intro change hChange
  simp only [List.mem_cons, List.not_mem_nil,
    or_false] at hChange
  rcases hChange with rfl | rfl | rfl | rfl
  · exact hLong
  · exact hShort
  · exact hShort
  · exact hLong

end HiddenList

end BuildForm
