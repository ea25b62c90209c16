import Mathlib.Data.List.Basic
import Mathlib.Data.List.TakeDrop
import Mathlib.Data.List.TakeWhile
import BuildForm.Schedule.Item
import BuildForm.Proofs.Text.Numeral

/-
  The items of a schedule that are accepted.

  An item is described by how it is written and which numbers
  it names. What is read of it are rows of digits of any
  script, and nothing of its text is left out; of these rows
  only the ASCII ones have a value, which is then held against
  the bounds of the field.

  Main declarations:
    * `Schedule.IsItem`
    * `Schedule.Item.BaseReads`
    * `Schedule.Item.read?_of_baseReads`
    * `Schedule.Item.exists_baseReads`
    * `Schedule.Item.Fits`
    * `Schedule.checkItem_eq_ok_iff`
-/

------------------------------------------------------------
-- The Items of the Language
------------------------------------------------------------

namespace BuildForm

namespace Schedule

/- A number as it is written in ASCII digits. -/
structure IsNumeral (text : List Char) : Prop where
  nonempty : text ≠ []
  digits : ∀ c ∈ text, Text.isAsciiDigit c

/- A number that lies within inclusive bounds. -/
structure IsWithin
    (bounds : Nat × Nat)
    (text : List Char) : Prop where
  numeral : IsNumeral text
  low_le : bounds.1 ≤ Text.natOfDigits text
  le_high : Text.natOfDigits text ≤ bounds.2

/- A positive number that fits in 32 bits. -/
structure IsStep (text : List Char) : Prop where
  numeral : IsNumeral text
  one_le : 1 ≤ Text.natOfDigits text
  lt_wordSize : Text.natOfDigits text < Text.wordSize 32

/- An item without a step. -/
inductive IsBase (bounds : Nat × Nat) : List Char → Prop where
  | any : IsBase bounds ['*']
  | hash : IsBase bounds ['H']
  | hashRange {low high : List Char} :
      IsWithin bounds low →
      IsWithin bounds high →
      Text.natOfDigits low ≤ Text.natOfDigits high →
      IsBase bounds
        ('H' :: '(' :: (low ++ '-' :: (high ++ [')'])))
  | single {text : List Char} :
      IsWithin bounds text →
      IsBase bounds text
  | range {low high : List Char} :
      IsWithin bounds low →
      IsWithin bounds high →
      Text.natOfDigits low ≤ Text.natOfDigits high →
      IsBase bounds (low ++ '-' :: high)

/- An item of a field, possibly with a step. -/
inductive IsItem (bounds : Nat × Nat) : List Char → Prop where
  | plain {base : List Char} :
      IsBase bounds base →
      IsItem bounds base
  | stepped {base step : List Char} :
      IsBase bounds base →
      IsStep step →
      IsItem bounds (base ++ '/' :: step)

end Schedule

end BuildForm

------------------------------------------------------------
-- Reading Items
------------------------------------------------------------

namespace BuildForm

namespace Schedule

/- A row of digits of any script. -/
structure IsRow (text : List Char) : Prop where
  nonempty : text ≠ []
  digits : ∀ c ∈ text, Text.isDigit c

variable {text row rest : List Char}

theorem isDigit_of_isAsciiDigit
    {c : Char}
    (hDigit : Text.isAsciiDigit c) :
    Text.isDigit c := by
  have hCode := Text.isAsciiDigit_iff.mp hDigit
  refine List.any_eq_true.mpr
    ⟨0x30, by simp [Text.digitZeros], ?_⟩
  simpa using hCode

theorem IsNumeral.isRow
    (hNumeral : IsNumeral text) :
    IsRow text where
  nonempty := hNumeral.nonempty
  digits c hChar :=
    isDigit_of_isAsciiDigit (hNumeral.digits c hChar)

namespace Item

/- A row ends where no digit follows. -/
theorem readRow?_append
    (hRow : IsRow row)
    (hRest : ∀ c ∈ rest.head?, ¬Text.isDigit c) :
    readRow? (row ++ rest) = some (row, rest) := by
  have hTake : (row ++ rest).takeWhile Text.isDigit = row := by
    rw [List.takeWhile_append_of_pos hRow.digits]
    cases rest with
    | nil => simp
    | cons c rest =>
        rw [List.takeWhile_cons_of_neg (hRest c rfl),
          List.append_nil]
  have hDrop : (row ++ rest).dropWhile Text.isDigit = rest := by
    rw [List.dropWhile_append_of_pos hRow.digits]
    cases rest with
    | nil => rfl
    | cons c rest =>
        exact List.dropWhile_cons_of_neg (hRest c rfl)
  unfold readRow?
  rw [List.span_eq_takeWhile_dropWhile, hTake, hDrop]
  split
  · rename_i hEmpty
    exact absurd (Prod.mk.inj hEmpty).1 hRow.nonempty
  · rename_i hSame
    rw [(Prod.mk.inj hSame).1, (Prod.mk.inj hSame).2]

/- What is read is a row, and nothing is lost. -/
theorem of_readRow?_eq_some
    (hRead : readRow? text = some (row, rest)) :
    IsRow row ∧ text = row ++ rest := by
  unfold readRow? at hRead
  rw [List.span_eq_takeWhile_dropWhile] at hRead
  split at hRead
  · exact absurd hRead (by simp)
  · rename_i first second hNonempty hSpan
    rcases Prod.mk.inj hSpan with ⟨hTake, hDrop⟩
    rcases Prod.mk.inj (Option.some.inj hRead) with ⟨rfl, rfl⟩
    refine ⟨⟨?_, ?_⟩, ?_⟩
    · intro hEmpty
      exact hNonempty hEmpty
    · intro c hChar
      rw [← hTake] at hChar
      exact List.mem_takeWhile_imp hChar
    · rw [← hTake, ← hDrop, List.takeWhile_append_dropWhile]

/- What is written where an item has a step, or may have one. -/
inductive StepReads (base : Item) : Item → List Char → Prop where
  | plain : StepReads base base []
  | stepped {row : List Char} :
      IsRow row →
      StepReads base { base with step := some row } ('/' :: row)

/- What an item without a step is read from. -/
inductive BaseReads : Item → List Char → Prop where
  | any : BaseReads {} ['*']
  | hash : BaseReads {} ['H']
  | hashRange {low high : List Char} :
      IsRow low →
      IsRow high →
      BaseReads { low := some low, high := some high }
        ('H' :: '(' :: (low ++ '-' :: (high ++ [')'])))
  | single {row : List Char} :
      IsRow row → BaseReads { low := some row } row
  | range {low high : List Char} :
      IsRow low →
      IsRow high →
      BaseReads { low := some low, high := some high }
        (low ++ '-' :: high)

variable {base item : Item}

theorem readStep?_eq_some_iff :
    readStep? base rest = some item ↔
      StepReads base item rest := by
  constructor
  · intro hRead
    unfold readStep? at hRead
    split at hRead
    · cases hRead
      exact .plain
    · split at hRead
      · rename_i row hRow
        rcases of_readRow?_eq_some hRow with ⟨hDigits, rfl⟩
        cases hRead
        rw [List.append_nil]
        exact .stepped hDigits
      · cases hRead
    · cases hRead
  · intro hStep
    cases hStep with
    | plain => rfl
    | @stepped row hRow =>
        have hRead : readRow? (row ++ []) = some (row, []) :=
          readRow?_append hRow (by simp)
        rw [List.append_nil] at hRead
        simp [readStep?, hRead]

/- No step starts with a digit. -/
theorem StepReads.not_isDigit
    (hStep : StepReads base item rest) :
    ∀ c ∈ rest.head?, ¬Text.isDigit c := by
  cases hStep with
  | plain => simp
  | stepped _ =>
      intro c hHead
      rcases Option.some.inj hHead with rfl
      decide

/- After a first row there is a second one or the step. -/
def readAfter?
    (row : List Char) : List Char → Option Item
  | '-' :: text =>
      (readRow? text).bind fun (high, stepText) =>
        readStep?
          { low := some row, high := some high } stepText
  | stepText => readStep? { low := some row } stepText

theorem read?_append
    (hRow : IsRow row)
    (hRest : ∀ c ∈ rest.head?, ¬Text.isDigit c) :
    read? (row ++ rest) = readAfter? row rest := by
  have hMark :
      ∀ mark, ¬Text.isDigit mark →
        (row ++ rest).head? ≠ some mark := by
    intro mark hMark hHead
    rw [List.head?_append_of_ne_nil _ hRow.nonempty] at hHead
    exact hMark (hRow.digits mark (List.mem_of_head? hHead))
  have hAny := hMark '*' (by decide)
  have hHash := hMark 'H' (by decide)
  have hRead := readRow?_append hRow hRest
  unfold read?
  split
  · rename_i hText
    exact absurd (by rw [hText]; rfl) hAny
  · rename_i hText
    exact absurd (by rw [hText]; rfl) hHash
  · rename_i hText
    exact absurd (by rw [hText]; rfl) hHash
  · rw [hRead, Option.bind_eq_bind, Option.bind_some]
    dsimp only
    split
    · rfl
    · rename_i hOther
      rw [readAfter?]
      exact hOther

theorem read?_of_baseReads
    {head : List Char}
    (hBase : BaseReads base head)
    (hStep : StepReads base item rest) :
    read? (head ++ rest) = some item := by
  have hRead := readStep?_eq_some_iff.mpr hStep
  cases hBase with
  | any => exact hRead
  | hash =>
      cases hStep with
      | plain => rfl
      | stepped _ => exact hRead
  | @hashRange low high hLow hHigh =>
      have hLowRead :
          readRow? (low ++ '-' :: (high ++ ')' :: rest)) =
            some (low, '-' :: (high ++ ')' :: rest)) :=
        readRow?_append hLow (by simp; decide)
      have hHighRead :
          readRow? (high ++ ')' :: rest) =
            some (high, ')' :: rest) :=
        readRow?_append hHigh (by simp; decide)
      simp [read?, hLowRead, hHighRead, hRead]
  | single hRow =>
      rw [read?_append hRow hStep.not_isDigit]
      cases hStep with
      | plain => exact hRead
      | stepped _ => exact hRead
  | range hLow hHigh =>
      have hHighRead := readRow?_append hHigh hStep.not_isDigit
      rw [List.append_assoc, List.cons_append,
        read?_append hLow (by simp; decide)]
      simp [readAfter?, hHighRead, hRead]

/- What is read of an item is its parts, with nothing left. -/
theorem exists_baseReads
    (hRead : read? text = some item) :
    ∃ base head rest,
      BaseReads base head ∧
        StepReads base item rest ∧
        text = head ++ rest := by
  unfold read? at hRead
  split at hRead
  · rename_i rest
    exact ⟨_, _, rest, .any, readStep?_eq_some_iff.mp hRead, rfl⟩
  · rcases Option.bind_eq_some_iff.mp hRead with
      ⟨⟨low, afterLow⟩, hLow, hMore⟩
    dsimp only at hMore
    split at hMore
    · rcases Option.bind_eq_some_iff.mp hMore with
        ⟨⟨high, afterHigh⟩, hHigh, hStep⟩
      dsimp only at hStep
      split at hStep
      · rename_i stepText
        rcases of_readRow?_eq_some hLow with ⟨hLowRow, rfl⟩
        rcases of_readRow?_eq_some hHigh with ⟨hHighRow, rfl⟩
        refine ⟨_, _, stepText, .hashRange hLowRow hHighRow,
          readStep?_eq_some_iff.mp hStep, ?_⟩
        simp
      · cases hStep
    · cases hMore
  · rename_i rest _
    exact ⟨_, _, rest, .hash, readStep?_eq_some_iff.mp hRead, rfl⟩
  · rcases Option.bind_eq_some_iff.mp hRead with
      ⟨⟨low, afterLow⟩, hLow, hMore⟩
    dsimp only at hMore
    split at hMore
    · rcases Option.bind_eq_some_iff.mp hMore with
        ⟨⟨high, stepText⟩, hHigh, hStep⟩
      rcases of_readRow?_eq_some hLow with ⟨hLowRow, rfl⟩
      rcases of_readRow?_eq_some hHigh with ⟨hHighRow, rfl⟩
      refine ⟨_, _, stepText, .range hLowRow hHighRow,
        readStep?_eq_some_iff.mp hStep, ?_⟩
      simp
    · rcases of_readRow?_eq_some hLow with ⟨hLowRow, rfl⟩
      exact ⟨_, _, afterLow, .single hLowRow,
        readStep?_eq_some_iff.mp hMore, rfl⟩

end Item

end Schedule

end BuildForm

------------------------------------------------------------
-- Checking Items
------------------------------------------------------------

namespace BuildForm

namespace Schedule

variable {bounds : Nat × Nat}
variable {text row : List Char}
variable {item : Item}

/- What follows a check is only done if the check succeeds. -/
theorem bind_eq_ok_iff
    {ε α β : Type}
    {first : Except ε α}
    {next : α → Except ε β}
    {value : β} :
    first >>= next = .ok value ↔
      ∃ found, first = .ok found ∧ next found = .ok value := by
  cases first with
  | error fault =>
      constructor
      · intro hOk
        cases hOk
      · rintro ⟨found, hFound, _⟩
        cases hFound
  | ok found =>
      constructor
      · intro hOk
        exact ⟨found, rfl, hOk⟩
      · rintro ⟨_, hFound, hOk⟩
        cases hFound
        exact hOk

/- Of two checks in a row both succeed. -/
theorem andThen_eq_ok_iff
    {ε : Type}
    {first next : Except ε Unit} :
    (do first; next) = .ok () ↔
      first = .ok () ∧ next = .ok () := by
  rw [bind_eq_ok_iff]
  exact ⟨fun ⟨_, hFirst, hNext⟩ => ⟨hFirst, hNext⟩,
    fun ⟨hFirst, hNext⟩ => ⟨(), hFirst, hNext⟩⟩

theorem isNumeral_iff :
    IsNumeral text ↔ text ≠ [] ∧ text.all Text.isAsciiDigit := by
  rw [List.all_eq_true]
  exact ⟨fun hNumeral => ⟨hNumeral.nonempty, hNumeral.digits⟩,
    fun ⟨hNonempty, hDigits⟩ => ⟨hNonempty, hDigits⟩⟩

/- Only ASCII digits have a value, and only in 32 bits. -/
theorem number_eq_ok_iff
    {value : Nat} :
    number row = .ok value ↔
      IsNumeral row ∧
        Text.natOfDigits row < Text.wordSize 32 ∧
        Text.natOfDigits row = value := by
  rw [isNumeral_iff]
  unfold number Text.readNat?
  by_cases hDigits : row ≠ [] ∧ row.all Text.isAsciiDigit
  · rw [if_pos hDigits]
    by_cases hSmall :
        Text.natOfDigits row < Text.wordSize 32
    · simp [hSmall, hDigits]
    · simp [hSmall]
  · rw [if_neg hDigits]
    constructor
    · intro hOk
      cases hOk
    · rintro ⟨hNumeral, _⟩
      exact absurd hNumeral hDigits

theorem number?_eq_ok_iff
    {numeral : Option (List Char)}
    {value : Option Nat} :
    number? numeral = .ok value ↔
      (∀ row ∈ numeral,
        IsNumeral row ∧
          Text.natOfDigits row < Text.wordSize 32) ∧
        numeral.map Text.natOfDigits = value := by
  cases numeral with
  | none => simp [number?]
  | some row =>
      have hMap :
          number? (some row) = .ok value ↔
            ∃ found,
              number row = .ok found ∧ some found = value := by
        simp only [number?]
        cases number row <;> simp [Except.map]
      rw [hMap]
      simp [number_eq_ok_iff, and_assoc]

theorem checkBounds_eq_ok_iff
    {value : Option Nat} :
    checkBounds bounds value = .ok () ↔
      ∀ found ∈ value, bounds.1 ≤ found ∧ found ≤ bounds.2 := by
  cases value with
  | none => simp [checkBounds]
  | some found => simp [checkBounds]

/- A number is read and lies within the bounds. -/
theorem forall_isWithin_iff
    {numeral : Option (List Char)}
    (hBounds : bounds.2 < Text.wordSize 32) :
    (∀ row ∈ numeral, IsWithin bounds row) ↔
      number? numeral =
          .ok (numeral.map Text.natOfDigits) ∧
        checkBounds bounds (numeral.map Text.natOfDigits) =
          .ok () := by
  rw [number?_eq_ok_iff, checkBounds_eq_ok_iff]
  cases numeral with
  | none => simp
  | some row =>
      simp only [Option.map_some, Option.mem_some_iff,
        forall_eq', and_true]
      constructor
      · rintro ⟨hNumeral, hLow, hHigh⟩
        exact ⟨⟨hNumeral, hHigh.trans_lt hBounds⟩, hLow, hHigh⟩
      · rintro ⟨⟨hNumeral, _⟩, hLow, hHigh⟩
        exact ⟨hNumeral, hLow, hHigh⟩

/- The low end of a range is not above the high end. -/
def checkOrder
    (low high : Option Nat) : Except ItemFault Unit :=
  match low, high with
  | some a, some b =>
      if b < a then .error (.reversed a b) else .ok ()
  | _, _ => .ok ()

theorem checkOrder_eq_ok_iff
    {low high : Option (List Char)} :
    checkOrder (low.map Text.natOfDigits)
        (high.map Text.natOfDigits) = .ok () ↔
      ∀ a ∈ low,
        ∀ b ∈ high,
          Text.natOfDigits a ≤ Text.natOfDigits b := by
  cases low with
  | none => simp [checkOrder]
  | some a =>
      cases high with
      | none => simp [checkOrder]
      | some b => simp [checkOrder]

/- A step is positive. -/
def checkStep
    (numeral : Option (List Char)) : Except ItemFault Unit := do
  if let some step ← number? numeral then
    if step = 0 then
      throw .stepZero

theorem checkStep_eq_ok_iff
    {numeral : Option (List Char)} :
    checkStep numeral = .ok () ↔
      ∀ row ∈ numeral, IsStep row := by
  cases numeral with
  | none =>
      simp [checkStep, number?, pure, Except.pure, bind,
        Except.bind]
  | some row =>
      constructor
      · intro hOk
        rcases bind_eq_ok_iff.mp hOk with ⟨value, hRead, hStep⟩
        rcases number?_eq_ok_iff.mp hRead with ⟨hRow, rfl⟩
        rcases hRow row rfl with ⟨hNumeral, hSmall⟩
        dsimp only [Option.map_some] at hStep
        split at hStep
        · cases hStep
        · rename_i hPositive
          rintro _ ⟨⟩
          exact ⟨hNumeral, Nat.one_le_iff_ne_zero.mpr hPositive,
            hSmall⟩
      · intro hRow
        have hStep := hRow row rfl
        refine bind_eq_ok_iff.mpr
          ⟨some (Text.natOfDigits row),
            number?_eq_ok_iff.mpr ⟨?_, rfl⟩, ?_⟩
        · rintro _ ⟨⟩
          exact ⟨hStep.numeral, hStep.lt_wordSize⟩
        · dsimp only
          rw [if_neg (Nat.one_le_iff_ne_zero.mp hStep.one_le)]
          rfl

/- An item is checked part by part. -/
theorem checkItem_of_read?
    (hRead : Item.read? text = some item)
    (bounds : Nat × Nat) :
    checkItem bounds text = (do
      let low ← number? item.low
      let high ← number? item.high
      checkBounds bounds low
      checkBounds bounds high
      checkOrder low high
      checkStep item.step) := by
  unfold checkItem
  rw [hRead]
  refine bind_congr fun low => bind_congr fun high => ?_
  refine bind_congr fun _ => bind_congr fun _ => ?_
  cases low with
  | none => rfl
  | some a =>
      cases high with
      | none => rfl
      | some b =>
          unfold checkOrder
          dsimp only
          split
          · rfl
          · rfl

/- The numbers of an item are right for a field. -/
structure Item.Fits
    (item : Item)
    (bounds : Nat × Nat) : Prop where
  low : ∀ row ∈ item.low, IsWithin bounds row
  high : ∀ row ∈ item.high, IsWithin bounds row
  ordered :
    ∀ low ∈ item.low,
      ∀ high ∈ item.high,
        Text.natOfDigits low ≤ Text.natOfDigits high
  step : ∀ row ∈ item.step, IsStep row

theorem checkItem_eq_ok_iff_fits
    (hRead : Item.read? text = some item)
    (hBounds : bounds.2 < Text.wordSize 32) :
    checkItem bounds text = .ok () ↔ item.Fits bounds := by
  rw [checkItem_of_read? hRead]
  constructor
  · intro hOk
    rcases bind_eq_ok_iff.mp hOk with ⟨low, hLow, hOk⟩
    rcases bind_eq_ok_iff.mp hOk with ⟨high, hHigh, hOk⟩
    rcases andThen_eq_ok_iff.mp hOk with ⟨hLowBounds, hOk⟩
    rcases andThen_eq_ok_iff.mp hOk with ⟨hHighBounds, hOk⟩
    rcases andThen_eq_ok_iff.mp hOk with ⟨hOrder, hStep⟩
    rcases (number?_eq_ok_iff.mp hLow).2 with rfl
    rcases (number?_eq_ok_iff.mp hHigh).2 with rfl
    exact
      { low := (forall_isWithin_iff hBounds).mpr
          ⟨hLow, hLowBounds⟩
        high := (forall_isWithin_iff hBounds).mpr
          ⟨hHigh, hHighBounds⟩
        ordered := checkOrder_eq_ok_iff.mp hOrder
        step := checkStep_eq_ok_iff.mp hStep }
  · intro hFits
    rcases (forall_isWithin_iff hBounds).mp hFits.low with
      ⟨hLow, hLowBounds⟩
    rcases (forall_isWithin_iff hBounds).mp hFits.high with
      ⟨hHigh, hHighBounds⟩
    have hOrder := checkOrder_eq_ok_iff.mpr hFits.ordered
    have hStep := checkStep_eq_ok_iff.mpr hFits.step
    exact bind_eq_ok_iff.mpr ⟨_, hLow,
      bind_eq_ok_iff.mpr ⟨_, hHigh,
        andThen_eq_ok_iff.mpr ⟨hLowBounds,
          andThen_eq_ok_iff.mpr ⟨hHighBounds,
            andThen_eq_ok_iff.mpr ⟨hOrder, hStep⟩⟩⟩⟩⟩

end Schedule

end BuildForm

------------------------------------------------------------
-- Accepted Items
------------------------------------------------------------

namespace BuildForm

namespace Schedule

variable {bounds : Nat × Nat}
variable {text : List Char}
variable {base : Item}

theorem Item.BaseReads.step_eq_none
    (hBase : base.BaseReads text) :
    base.step = none := by
  cases hBase <;> rfl

/- What is read of an item and fits is of the language. -/
theorem Item.BaseReads.isBase
    (hBase : base.BaseReads text)
    (hFits : base.Fits bounds) :
    IsBase bounds text := by
  cases hBase with
  | any => exact .any
  | hash => exact .hash
  | hashRange _ _ =>
      exact .hashRange (hFits.low _ rfl) (hFits.high _ rfl)
        (hFits.ordered _ rfl _ rfl)
  | single _ => exact .single (hFits.low _ rfl)
  | range _ _ =>
      exact .range (hFits.low _ rfl) (hFits.high _ rfl)
        (hFits.ordered _ rfl _ rfl)

/- What is of the language is read as an item that fits. -/
theorem IsBase.exists_baseReads
    (hBase : IsBase bounds text) :
    ∃ base : Item, base.BaseReads text ∧ base.Fits bounds := by
  cases hBase with
  | any =>
      exact ⟨_, .any, by constructor <;> simp⟩
  | hash =>
      exact ⟨_, .hash, by constructor <;> simp⟩
  | hashRange hLow hHigh hOrdered =>
      refine ⟨_,
        .hashRange hLow.numeral.isRow hHigh.numeral.isRow, ?_⟩
      constructor <;> simp [hLow, hHigh, hOrdered]
  | single hText =>
      refine ⟨_, .single hText.numeral.isRow, ?_⟩
      constructor <;> simp [hText]
  | range hLow hHigh hOrdered =>
      refine ⟨_, .range hLow.numeral.isRow hHigh.numeral.isRow,
        ?_⟩
      constructor <;> simp [hLow, hHigh, hOrdered]

/- The items that are accepted are those of the language. -/
theorem checkItem_eq_ok_iff
    (hBounds : bounds.2 < Text.wordSize 32) :
    checkItem bounds text = .ok () ↔ IsItem bounds text := by
  constructor
  · intro hOk
    cases hRead : Item.read? text with
    | none =>
        unfold checkItem at hOk
        rw [hRead] at hOk
        cases hOk
    | some item =>
        have hFits :=
          (checkItem_eq_ok_iff_fits hRead hBounds).mp hOk
        rcases Item.exists_baseReads hRead with
          ⟨base, head, rest, hBase, hStep, rfl⟩
        cases hStep with
        | plain =>
            rw [List.append_nil]
            exact .plain (hBase.isBase hFits)
        | stepped _ =>
            -- The step is all that the base lacks.
            have hBaseFits : base.Fits bounds :=
              { low := hFits.low
                high := hFits.high
                ordered := hFits.ordered
                step := by simp [hBase.step_eq_none] }
            exact .stepped (hBase.isBase hBaseFits)
              (hFits.step _ rfl)
  · intro hItem
    cases hItem with
    | plain hBase =>
        rcases hBase.exists_baseReads with ⟨base, hBase, hFits⟩
        have hRead := Item.read?_of_baseReads hBase .plain
        rw [List.append_nil] at hRead
        exact (checkItem_eq_ok_iff_fits hRead hBounds).mpr hFits
    | stepped hBase hStep =>
        rcases hBase.exists_baseReads with ⟨base, hBase, hFits⟩
        have hRead := Item.read?_of_baseReads hBase
          (.stepped hStep.numeral.isRow)
        refine (checkItem_eq_ok_iff_fits hRead hBounds).mpr ?_
        exact
          { low := hFits.low
            high := hFits.high
            ordered := hFits.ordered
            step := by simp [hStep] }

end Schedule

end BuildForm

------------------------------------------------------------
-- Characters of Items
------------------------------------------------------------

namespace BuildForm

namespace Schedule

variable {bounds : Nat × Nat}
variable {text : List Char}

/- A character of a field. -/
def IsMark (c : Char) : Prop :=
  Text.isAsciiDigit c ∨ c ∈ ['*', 'H', '(', ')', '-', '/']

theorem IsNumeral.isMark
    (hNumeral : IsNumeral text) :
    ∀ c ∈ text, IsMark c :=
  fun c hChar => .inl (hNumeral.digits c hChar)

/- The parts on either side of a mark have marks only. -/
theorem isMark_append_cons
    {first second : List Char}
    {mark : Char}
    (hMark : mark ∈ ['*', 'H', '(', ')', '-', '/'])
    (hFirst : ∀ c ∈ first, IsMark c)
    (hSecond : ∀ c ∈ second, IsMark c) :
    ∀ c ∈ first ++ mark :: second, IsMark c :=
  List.forall_mem_append.mpr
    ⟨hFirst, List.forall_mem_cons.mpr ⟨.inr hMark, hSecond⟩⟩

theorem IsBase.isMark
    (hBase : IsBase bounds text) :
    ∀ c ∈ text, IsMark c := by
  have hNone : ∀ c ∈ ([] : List Char), IsMark c := by simp
  cases hBase with
  | any => exact isMark_append_cons (by simp) hNone hNone
  | hash => exact isMark_append_cons (by simp) hNone hNone
  | @hashRange low high hLow hHigh _ =>
      have hClosed : ∀ c ∈ high ++ [')'], IsMark c :=
        isMark_append_cons (by simp) hHigh.numeral.isMark hNone
      have hRange :
          ∀ c ∈ low ++ '-' :: (high ++ [')']), IsMark c :=
        isMark_append_cons (by simp) hLow.numeral.isMark hClosed
      have hOpened :
          ∀ c ∈ '(' :: (low ++ '-' :: (high ++ [')'])),
            IsMark c :=
        isMark_append_cons (by simp) hNone hRange
      exact isMark_append_cons (by simp) hNone hOpened
  | single hText => exact hText.numeral.isMark
  | range hLow hHigh _ =>
      exact isMark_append_cons (by simp) hLow.numeral.isMark
        hHigh.numeral.isMark

theorem IsItem.isMark
    (hItem : IsItem bounds text) :
    ∀ c ∈ text, IsMark c := by
  cases hItem with
  | plain hBase => exact hBase.isMark
  | stepped hBase hStep =>
      exact isMark_append_cons (by simp) hBase.isMark
        hStep.numeral.isMark

end Schedule

end BuildForm
