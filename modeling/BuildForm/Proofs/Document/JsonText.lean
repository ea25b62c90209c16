import BuildForm.Document.Json.Reader
import BuildForm.Document.Json.Writer
import BuildForm.Proofs.Record.Table

/-
  Reading back what is written as JSON.

  The reader is followed rule by rule: `Spells` says of a text
  that the reader takes it for a value whatever comes after
  it, and there is one lemma for each way to build a text.
  A writer is then read back because it builds its texts by
  these rules alone.

  Main declarations:
    * `Json.readString?_flatMap_escape`
    * `Json.Spells` and its rules
    * `Value.Plain`
    * `Json.spells_prettyAt` and `Json.spells_compact`
    * `Json.parse?_pretty` and `Json.parse?_compact`
-/

------------------------------------------------------------
-- Strings
------------------------------------------------------------

namespace BuildForm

namespace Json

/- The two last digits of an escape spell a control code. -/
theorem hexUnit?_hexDigit :
    ∀ code, code < 0x20 →
      hexUnit? '0' '0' (hexDigit (code / 16))
        (hexDigit (code % 16)) = some code := by
  decide

/- One written character is read as that character. -/
theorem readString?_escape
    (c : Char)
    (tail : List Char) :
    readString? (escape c ++ tail) =
      (readString? tail).map fun (chars, rest) =>
        (c :: chars, rest) := by
  unfold escape
  split
  · rename_i hQuote
    simp [readString?, shortEscape?, hQuote]
  split
  · rename_i hBackslash
    simp [readString?, shortEscape?, hBackslash]
  split
  · rename_i hBackspace
    simp [readString?, shortEscape?, hBackspace]
  split
  · rename_i hFormFeed
    simp [readString?, shortEscape?, hFormFeed]
  split
  · rename_i hLineFeed
    simp [readString?, shortEscape?, hLineFeed]
  split
  · rename_i hReturn
    simp [readString?, shortEscape?, hReturn]
  split
  · rename_i hTab
    simp [readString?, shortEscape?, hTab]
  split
  · rename_i hControl
    have hUnit := hexUnit?_hexDigit c.toNat hControl
    have hLow : isLowSurrogate c.toNat = false := by
      simp only [isLowSurrogate, Bool.and_eq_false_iff,
        decide_eq_false_iff_not]
      omega
    have hHigh : isHighSurrogate c.toNat = false := by
      simp only [isHighSurrogate, Bool.and_eq_false_iff,
        decide_eq_false_iff_not]
      omega
    simp [readString?, hUnit, hLow, hHigh]
  · rename_i hBackslash _ _ _ _ _ hControl
    simp [readString?, hBackslash, hControl]

/- A written text is read up to its closing quote. -/
theorem readString?_flatMap_escape
    (text rest : List Char) :
    readString? (text.flatMap escape ++ '"' :: rest) =
      some (text, rest) := by
  induction text with
  | nil => simp [readString?]
  | cons c text ih =>
      rw [List.flatMap_cons, List.append_assoc,
        readString?_escape, ih]
      rfl

/- A quoted text, its opening quote already read. -/
theorem readString?_quote
    (text : String)
    (rest : List Char) :
    ∃ tail,
      quote text ++ rest = '"' :: tail ∧
        readString? tail = some (text.toList, rest) := by
  refine ⟨text.toList.flatMap escape ++ '"' :: rest, ?_, ?_⟩
  · simp [quote]
  · exact readString?_flatMap_escape text.toList rest

end Json

end BuildForm

------------------------------------------------------------
-- Gaps
------------------------------------------------------------

namespace BuildForm

namespace Json

/- A row of characters that may stand between tokens. -/
def IsGap (gap : List Char) : Prop :=
  ∀ c ∈ gap, isSpace c = true

theorem isGap_nil : IsGap [] := by
  simp [IsGap]

theorem isGap_newline (depth : Nat) :
    IsGap (newline depth) := by
  intro c hMember
  simp only [newline, List.mem_cons,
    List.mem_replicate] at hMember
  rcases hMember with hBreak | hBlank
  · subst hBreak
    rfl
  · rw [hBlank.2]
    rfl

theorem skipSpace_gap_append
    {gap : List Char}
    (hGap : IsGap gap)
    (text : List Char) :
    skipSpace (gap ++ text) = skipSpace text := by
  unfold skipSpace
  exact List.dropWhile_append_of_pos hGap

theorem skipSpace_cons
    {c : Char}
    (hToken : isSpace c = false)
    (text : List Char) :
    skipSpace (c :: text) = c :: text := by
  simp [skipSpace, hToken]

/- A gap before a value does not matter to the reader. -/
theorem readValue?_gap_append
    (fuel depth : Nat)
    {gap : List Char}
    (hGap : IsGap gap)
    (text : List Char) :
    readValue? fuel depth (gap ++ text) =
      readValue? fuel depth text := by
  cases fuel with
  | zero => simp only [readValue?]
  | succ fuel =>
      rw [readValue?.eq_2, readValue?.eq_2,
        skipSpace_gap_append hGap]

/- The first token of a text does not begin with `mark`. -/
def Opens (mark : Char) (text : List Char) : Prop :=
  ∃ c tail, skipSpace text = c :: tail ∧ c ≠ mark

namespace Opens

variable {mark : Char}
variable {text : List Char}

theorem of_cons
    {c : Char}
    (hToken : isSpace c = false)
    (hMark : c ≠ mark) :
    Opens mark (c :: text) :=
  ⟨c, text, skipSpace_cons hToken text, hMark⟩

theorem gap_append
    (hOpens : Opens mark text)
    {gap : List Char}
    (hGap : IsGap gap) :
    Opens mark (gap ++ text) := by
  rcases hOpens with ⟨c, tail, hSkip, hMark⟩
  exact
    ⟨c, tail,
      (skipSpace_gap_append hGap text).trans hSkip, hMark⟩

theorem append
    (hOpens : Opens mark text)
    (rest : List Char) :
    Opens mark (text ++ rest) := by
  rcases hOpens with ⟨c, tail, hSkip, hMark⟩
  refine ⟨c, tail ++ rest, ?_, hMark⟩
  unfold skipSpace at hSkip ⊢
  rw [List.dropWhile_append, hSkip]
  rfl

end Opens

end Json

end BuildForm

------------------------------------------------------------
-- Values
------------------------------------------------------------

namespace BuildForm

namespace Json

/-
  The text is read as the value whatever follows it, with a
  fuel of two steps a character.
-/
structure Spells
    (depth : Nat)
    (text : List Char)
    (value : Value) : Prop where
  opens : Opens ']' text
  reads : ∀ fuel rest,
    2 * text.length ≤ fuel →
      readValue? fuel depth (text ++ rest) =
        some (value, rest)

/- The text is read as the items of a list and its end. -/
structure SpellsItems
    (depth : Nat)
    (text : List Char)
    (items : List Value) : Prop where
  opens : Opens ']' text
  reads : ∀ fuel rest,
    2 * text.length + 1 ≤ fuel →
      readItems? fuel depth (text ++ rest) =
        some (items, rest)

/- The text is read as the fields of a table and its end. -/
structure SpellsFields
    (depth : Nat)
    (text : List Char)
    (fields : List (String × Value)) : Prop where
  opens : Opens '}' text
  reads : ∀ fuel rest,
    2 * text.length + 1 ≤ fuel →
      readFields? fuel depth (text ++ rest) =
        some (fields, rest)

------------------------------------------------------------
-- Single Tokens
------------------------------------------------------------

namespace Spells

variable {depth : Nat}

theorem null : Spells depth "null".toList .null where
  opens := Opens.of_cons rfl (by decide)
  reads := by
    intro fuel rest hFuel
    cases fuel with
    | zero => simp at hFuel
    | succ fuel => rfl

theorem flag
    (value : Bool) :
    Spells depth
      (if value then "true".toList else "false".toList)
      (.flag value) where
  opens := by
    cases value with
    | true => exact Opens.of_cons rfl (by decide)
    | false => exact Opens.of_cons rfl (by decide)
  reads := by
    intro fuel rest hFuel
    cases fuel with
    | zero => cases value <;> simp at hFuel
    | succ fuel => cases value <;> rfl

theorem text (value : String) :
    Spells depth (quote value) (.text value) where
  opens := Opens.of_cons rfl (by decide)
  reads := by
    intro fuel rest hFuel
    cases fuel with
    | zero => simp [quote] at hFuel
    | succ fuel =>
        rcases readString?_quote value rest with
          ⟨tail, hText, hRead⟩
        have hSkip :
            skipSpace ('"' :: tail) = '"' :: tail :=
          skipSpace_cons rfl tail
        rw [hText, readValue?.eq_2, hSkip]
        simp [hRead]

theorem emptyList :
    Spells (depth + 1) ['[', ']'] (.list []) where
  opens := Opens.of_cons rfl (by decide)
  reads := by
    intro fuel rest hFuel
    cases fuel with
    | zero => simp at hFuel
    | succ fuel => rfl

theorem emptyTable :
    Spells (depth + 1) ['{', '}'] (.table []) where
  opens := Opens.of_cons rfl (by decide)
  reads := by
    intro fuel rest hFuel
    cases fuel with
    | zero => simp at hFuel
    | succ fuel => rfl

end Spells

end Json

end BuildForm

------------------------------------------------------------
-- Lists
------------------------------------------------------------

namespace BuildForm

namespace Json

variable {depth : Nat}
variable {text before after body : List Char}
variable {item : Value}
variable {items : List Value}

/- What the reader finds behind an item. -/
theorem readItems?_item
    (hItem : Spells depth text item)
    (hBefore : IsGap before)
    (hAfter : IsGap after)
    (mark : Char)
    (hMark : isSpace mark = false)
    (fuel : Nat)
    (hFuel : 2 * text.length ≤ fuel)
    (rest : List Char) :
    ∃ tail,
      readValue? fuel depth
          (before ++ text ++ after ++ mark :: rest) =
        some (item, tail) ∧
      skipSpace tail = mark :: rest := by
  refine ⟨after ++ mark :: rest, ?_, ?_⟩
  · rw [List.append_assoc, List.append_assoc,
      readValue?_gap_append fuel depth hBefore]
    exact hItem.reads fuel _ hFuel
  · rw [skipSpace_gap_append hAfter]
    exact skipSpace_cons hMark rest

namespace SpellsItems

/- The last item of a list and the end of the list. -/
theorem last
    (hItem : Spells depth text item)
    (hBefore : IsGap before)
    (hAfter : IsGap after) :
    SpellsItems depth
      (before ++ text ++ after ++ [']']) [item] where
  opens := by
    rw [List.append_assoc, List.append_assoc]
    exact (hItem.opens.append _).gap_append hBefore
  reads := by
    intro fuel rest hFuel
    cases fuel with
    | zero => omega
    | succ fuel =>
        have hEnough : 2 * text.length ≤ fuel := by
          simp only [List.length_append] at hFuel
          omega
        rcases readItems?_item hItem hBefore hAfter
            ']' rfl fuel hEnough rest with
          ⟨tail, hRead, hSkip⟩
        have hText :
            before ++ text ++ after ++ [']'] ++ rest =
              before ++ text ++ after ++ ']' :: rest := by
          simp
        rw [hText, readItems?.eq_2, hRead]
        simp [hSkip]

/- An item of a list with more items after it. -/
theorem more
    (hItem : Spells depth text item)
    (hBefore : IsGap before)
    (hAfter : IsGap after)
    (hItems : SpellsItems depth body items) :
    SpellsItems depth
      (before ++ text ++ after ++ ',' :: body)
      (item :: items) where
  opens := by
    rw [List.append_assoc, List.append_assoc]
    exact (hItem.opens.append _).gap_append hBefore
  reads := by
    intro fuel rest hFuel
    cases fuel with
    | zero => omega
    | succ fuel =>
        simp only [List.length_append,
          List.length_cons] at hFuel
        rcases readItems?_item hItem hBefore hAfter
            ',' rfl fuel (by omega)
            (body ++ rest) with
          ⟨tail, hRead, hSkip⟩
        have hBody := hItems.reads fuel rest (by omega)
        have hText :
            before ++ text ++ after ++ ',' :: body ++ rest =
              before ++ text ++ after ++
                ',' :: (body ++ rest) := by
          simp
        rw [hText, readItems?.eq_2, hRead]
        simp [hSkip, hBody]

end SpellsItems

/- A list is its opening bracket and its items. -/
theorem Spells.list
    (hItems : SpellsItems depth body items) :
    Spells (depth + 1) ('[' :: body) (.list items) where
  opens := Opens.of_cons rfl (by decide)
  reads := by
    intro fuel rest hFuel
    cases fuel with
    | zero => simp at hFuel
    | succ fuel =>
        have hBody := hItems.reads fuel rest (by
          simp only [List.length_cons] at hFuel
          omega)
        rcases hItems.opens.append rest with
          ⟨c, tail, hSkip, hMark⟩
        rw [List.cons_append, readValue?.eq_2,
          skipSpace_cons rfl]
        simp [hSkip, hMark, hBody]

end Json

end BuildForm

------------------------------------------------------------
-- Tables
------------------------------------------------------------

namespace BuildForm

namespace Json

variable {depth : Nat}
variable {text before colon after body : List Char}
variable (key : String)
variable {value : Value}
variable {fields : List (String × Value)}

/- The text of a field up to what comes after its value. -/
def fieldText
    (before : List Char)
    (key : String)
    (colon text after : List Char) : List Char :=
  before ++ quote key ++ ':' :: colon ++ text ++ after

/- What the reader finds behind the quotes of a key. -/
theorem readFields?_field
    (hValue : Spells depth text value)
    (hBefore : IsGap before)
    (hColon : IsGap colon)
    (hAfter : IsGap after)
    (mark : Char)
    (hMark : isSpace mark = false)
    (fuel : Nat)
    (hFuel : 2 * text.length ≤ fuel)
    (rest : List Char) :
    ∃ keyTail valueText tail,
      skipSpace
          (fieldText before key colon text after ++
            mark :: rest) = '"' :: keyTail ∧
        readString? keyTail =
          some (key.toList, ':' :: valueText) ∧
        readValue? fuel depth valueText =
          some (value, tail) ∧
        skipSpace tail = mark :: rest := by
  rcases readString?_quote key
      (':' :: (colon ++ (text ++ (after ++ mark :: rest)))) with
    ⟨keyTail, hText, hKey⟩
  refine
    ⟨keyTail, colon ++ (text ++ (after ++ mark :: rest)),
      after ++ mark :: rest, ?_, hKey, ?_, ?_⟩
  · have hField :
        fieldText before key colon text after ++
            mark :: rest =
          before ++ (quote key ++
            ':' :: (colon ++ (text ++
              (after ++ mark :: rest)))) := by
      simp [fieldText]
    rw [hField, skipSpace_gap_append hBefore, hText]
    exact skipSpace_cons rfl keyTail
  · rw [readValue?_gap_append fuel depth hColon]
    exact hValue.reads fuel _ hFuel
  · rw [skipSpace_gap_append hAfter]
    exact skipSpace_cons hMark rest

/- A field opens with the quote of its key. -/
theorem opens_fieldText
    (hBefore : IsGap before)
    (rest : List Char) :
    Opens '}'
      (fieldText before key colon text after ++ rest) := by
  have hField :
      fieldText before key colon text after ++ rest =
        before ++ ('"' :: (key.toList.flatMap escape ++
          ('"' :: ':' :: (colon ++ (text ++
            (after ++ rest)))))) := by
    simp [fieldText, quote]
  rw [hField]
  exact
    (Opens.of_cons rfl (by decide)).gap_append hBefore

namespace SpellsFields

/- The last field of a table and the end of the table. -/
theorem last
    (hValue : Spells depth text value)
    (hBefore : IsGap before)
    (hColon : IsGap colon)
    (hAfter : IsGap after) :
    SpellsFields depth
      (fieldText before key colon text after ++ ['}'])
      [(key, value)] where
  opens := opens_fieldText key hBefore _
  reads := by
    intro fuel rest hFuel
    cases fuel with
    | zero => omega
    | succ fuel =>
        simp only [fieldText, List.length_append,
          List.length_cons] at hFuel
        rcases readFields?_field key hValue hBefore hColon
            hAfter '}' rfl fuel (by omega)
            rest with
          ⟨keyTail, valueText, tail, hSkip, hKey, hRead,
            hEnd⟩
        have hAfterKey :
            skipSpace (':' :: valueText) =
              ':' :: valueText :=
          skipSpace_cons rfl valueText
        rw [List.append_assoc, List.singleton_append]
        simp [readFields?, hSkip, hKey, hAfterKey, hRead,
          hEnd]

/- A field of a table with more fields after it. -/
theorem more
    (hValue : Spells depth text value)
    (hBefore : IsGap before)
    (hColon : IsGap colon)
    (hAfter : IsGap after)
    (hFields : SpellsFields depth body fields) :
    SpellsFields depth
      (fieldText before key colon text after ++ ',' :: body)
      ((key, value) :: fields) where
  opens := opens_fieldText key hBefore _
  reads := by
    intro fuel rest hFuel
    cases fuel with
    | zero => omega
    | succ fuel =>
        simp only [fieldText, List.length_append,
          List.length_cons] at hFuel
        rcases readFields?_field key hValue hBefore hColon
            hAfter ',' rfl fuel (by omega)
            (body ++ rest) with
          ⟨keyTail, valueText, tail, hSkip, hKey, hRead,
            hEnd⟩
        have hAfterKey :
            skipSpace (':' :: valueText) =
              ':' :: valueText :=
          skipSpace_cons rfl valueText
        have hBody := hFields.reads fuel rest (by omega)
        rw [List.append_assoc, List.cons_append]
        simp [readFields?, hSkip, hKey, hAfterKey, hRead,
          hEnd, hBody]

end SpellsFields

/- A table is its opening brace and its fields. -/
theorem Spells.table
    (hFields : SpellsFields depth body fields) :
    Spells (depth + 1) ('{' :: body)
      (Value.object fields) where
  opens := Opens.of_cons rfl (by decide)
  reads := by
    intro fuel rest hFuel
    cases fuel with
    | zero => simp at hFuel
    | succ fuel =>
        have hBody := hFields.reads fuel rest (by
          simp only [List.length_cons] at hFuel
          omega)
        rcases hFields.opens.append rest with
          ⟨c, tail, hSkip, hMark⟩
        rw [List.cons_append, readValue?.eq_2,
          skipSpace_cons rfl]
        simp [hSkip, hMark, hBody]

end Json

end BuildForm

------------------------------------------------------------
-- Plain Values
------------------------------------------------------------

namespace BuildForm

namespace Value

/-
  A value without numbers whose lists and tables are nested
  no deeper than `depth`, and that puts no key twice. The
  values of records are plain.
-/
inductive Plain : (depth : Nat) → Value → Prop where
  | null {depth} : Plain depth .null
  | flag {depth value} : Plain depth (.flag value)
  | text {depth value} : Plain depth (.text value)
  | list {depth items} :
      (∀ item ∈ items, Plain depth item) →
      Plain (depth + 1) (.list items)
  | table {depth fields} :
      (Entries.keys fields).Nodup →
      (∀ field ∈ fields, Plain depth field.2) →
      Plain (depth + 1) (.table fields)

end Value

/- A table whose keys differ is read as it is written. -/
theorem Value.object_eq_table
    (fields : List (String × Value))
    (hNodup : (Entries.keys fields).Nodup) :
    Value.object fields = .table fields := by
  unfold Value.object
  congr 1
  exact Entries.foldl_put fields [] hNodup

end BuildForm

------------------------------------------------------------
-- Values on Many Lines
------------------------------------------------------------

namespace BuildForm

namespace Json

/- The written items and the end of their list are read. -/
theorem spellsItems_prettyItems
    {depth : Nat}
    (indent : Nat)
    {close : List Char}
    (hClose : IsGap close)
    (item : Value)
    (items : List Value)
    (hEach :
      ∀ member ∈ item :: items,
        Spells depth (prettyAt indent member) member) :
    SpellsItems depth
      (prettyItems indent (item :: items) ++ close ++ [']'])
      (item :: items) := by
  induction items generalizing item with
  | nil =>
      exact SpellsItems.last (hEach item (by simp))
        (isGap_newline indent) hClose
  | cons next items ih =>
      have hRest := ih next (fun member hMember =>
        hEach member (by simp [hMember]))
      have hMore :=
        SpellsItems.more (hEach item (by simp))
          (isGap_newline indent) isGap_nil hRest
      simpa [prettyItems] using hMore

/- The written fields and the end of their table are read. -/
theorem spellsFields_prettyFields
    {depth : Nat}
    (indent : Nat)
    {close : List Char}
    (hClose : IsGap close)
    (field : String × Value)
    (fields : List (String × Value))
    (hEach :
      ∀ member ∈ field :: fields,
        Spells depth (prettyAt indent member.2) member.2) :
    SpellsFields depth
      (prettyFields indent (field :: fields) ++ close ++
        ['}'])
      (field :: fields) := by
  have hBlank : IsGap [' '] := by
    intro c hMember
    rw [List.mem_singleton.mp hMember]
    rfl
  induction fields generalizing field with
  | nil =>
      have hLast :=
        SpellsFields.last field.1
          (hEach field (by simp)) (isGap_newline indent)
          hBlank hClose
      simpa [prettyFields, fieldText] using hLast
  | cons next fields ih =>
      have hRest := ih next (fun member hMember =>
        hEach member (by simp [hMember]))
      have hMore :=
        SpellsFields.more field.1
          (hEach field (by simp)) (isGap_newline indent)
          hBlank isGap_nil hRest
      simpa [prettyFields, fieldText] using hMore

/- A plain value is read from its lines. -/
theorem spells_prettyAt
    {depth : Nat}
    {value : Value}
    (hPlain : value.Plain depth)
    (indent : Nat) :
    Spells depth (prettyAt indent value) value := by
  induction hPlain generalizing indent with
  | null => exact Spells.null
  | @flag _ value =>
      cases value with
      | true => exact Spells.flag true
      | false => exact Spells.flag false
  | text => exact Spells.text _
  | @list _ items _ ih =>
      cases items with
      | nil => exact Spells.emptyList
      | cons item items =>
          have hItems :=
            spellsItems_prettyItems (indent + 1)
              (isGap_newline indent) item items
              (fun member hMember =>
                ih member hMember (indent + 1))
          simpa [prettyAt] using Spells.list hItems
  | @table _ fields hNodup _ ih =>
      cases fields with
      | nil => exact Spells.emptyTable
      | cons field fields =>
          have hFields :=
            spellsFields_prettyFields (indent + 1)
              (isGap_newline indent) field fields
              (fun member hMember =>
                ih member hMember (indent + 1))
          have hTable := Spells.table hFields
          rw [Value.object_eq_table _ hNodup] at hTable
          simpa [prettyAt] using hTable

end Json

end BuildForm

------------------------------------------------------------
-- Values on One Line
------------------------------------------------------------

namespace BuildForm

namespace Json

/- The items on one line and the end of their list are read. -/
theorem spellsItems_compactItems
    {depth : Nat}
    (item : Value)
    (items : List Value)
    (hEach :
      ∀ member ∈ item :: items,
        Spells depth (compact member) member) :
    SpellsItems depth (compactItems (item :: items))
      (item :: items) := by
  induction items generalizing item with
  | nil =>
      have hLast :=
        SpellsItems.last (hEach item (by simp)) isGap_nil
          isGap_nil
      simpa [compactItems] using hLast
  | cons next items ih =>
      have hRest := ih next (fun member hMember =>
        hEach member (by simp [hMember]))
      have hMore :=
        SpellsItems.more (hEach item (by simp)) isGap_nil
          isGap_nil hRest
      simpa [compactItems] using hMore

/- The fields on one line and the end of their table are read. -/
theorem spellsFields_compactFields
    {depth : Nat}
    (field : String × Value)
    (fields : List (String × Value))
    (hEach :
      ∀ member ∈ field :: fields,
        Spells depth (compact member.2) member.2) :
    SpellsFields depth (compactFields (field :: fields))
      (field :: fields) := by
  induction fields generalizing field with
  | nil =>
      have hLast :=
        SpellsFields.last field.1 (hEach field (by simp))
          isGap_nil isGap_nil isGap_nil
      simpa [compactFields, fieldText] using hLast
  | cons next fields ih =>
      have hRest := ih next (fun member hMember =>
        hEach member (by simp [hMember]))
      have hMore :=
        SpellsFields.more field.1 (hEach field (by simp))
          isGap_nil isGap_nil isGap_nil hRest
      simpa [compactFields, fieldText] using hMore

/- A plain value is read from its line. -/
theorem spells_compact
    {depth : Nat}
    {value : Value}
    (hPlain : value.Plain depth) :
    Spells depth (compact value) value := by
  induction hPlain with
  | null => exact Spells.null
  | @flag _ value =>
      cases value with
      | true => exact Spells.flag true
      | false => exact Spells.flag false
  | text => exact Spells.text _
  | @list _ items _ ih =>
      cases items with
      | nil => exact Spells.emptyList
      | cons item items =>
          exact
            Spells.list (spellsItems_compactItems item items ih)
  | @table _ fields hNodup _ ih =>
      cases fields with
      | nil => exact Spells.emptyTable
      | cons field fields =>
          have hTable :=
            Spells.table
              (spellsFields_compactFields field fields ih)
          rw [Value.object_eq_table _ hNodup] at hTable
          exact hTable

end Json

end BuildForm

------------------------------------------------------------
-- Documents
------------------------------------------------------------

namespace BuildForm

namespace Json

/- A document that spells a value may end with a gap. -/
theorem parse?_of_spells_append
    {text gap : List Char}
    {value : Value}
    (hSpells : Spells maxDepth text value)
    (hGap : IsGap gap) :
    parse? (String.ofList (text ++ gap)) = some value := by
  have hFuel : 2 * text.length ≤ 2 * (text ++ gap).length + 2 := by
    rw [List.length_append]
    omega
  have hSkip : skipSpace gap = [] := by
    rw [← List.append_nil gap, skipSpace_gap_append hGap]
    rfl
  unfold parse? parseWithin?
  rw [String.toList_ofList, hSpells.reads _ gap hFuel]
  simp [hSkip]

/- A document that spells a value is parsed to it. -/
theorem parse?_of_spells
    {text : List Char}
    {value : Value}
    (hSpells : Spells maxDepth text value) :
    parse? (String.ofList text) = some value := by
  have hParse := parse?_of_spells_append hSpells isGap_nil
  rwa [List.append_nil] at hParse

/- A plain value survives being written on many lines. -/
theorem parse?_pretty
    {value : Value}
    (hPlain : value.Plain maxDepth) :
    parse? (String.ofList (pretty value)) = some value :=
  parse?_of_spells (spells_prettyAt hPlain 0)

/- So does one that is written on one line. -/
theorem parse?_compact
    {value : Value}
    (hPlain : value.Plain maxDepth) :
    parse? (String.ofList (compact value)) = some value :=
  parse?_of_spells (spells_compact hPlain)

end Json

end BuildForm
