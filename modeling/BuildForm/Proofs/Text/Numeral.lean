import Mathlib.Data.List.Induction
import BuildForm.Text.Numeral

/-
  Decimal numerals that are read back as the number that they
  were written for.

  A row of digits is the numeral of its value with zeros in
  front, as one more digit at the end shows. A number of 32
  bits may have a plus sign in front of these.

  Main declarations:
    * `Text.digits_injective`
    * `Text.exists_zeros`
    * `Text.readNat?_eq_some_iff`
    * `Text.IsPadded`
    * `Text.readWord?_eq_some_iff`
-/

------------------------------------------------------------
-- Rows of Digits
------------------------------------------------------------

namespace BuildForm

namespace Text

variable {c : Char}
variable {row : List Char}
variable {value : Nat}

theorem isAsciiDigit_iff :
    isAsciiDigit c ↔ 48 ≤ c.toNat ∧ c.toNat ≤ 57 := by
  simp [isAsciiDigit, Char.le_def, UInt32.le_iff_toNat_le]

theorem isAlpha_iff :
    c.isAlpha ↔
      65 ≤ c.toNat ∧ c.toNat ≤ 90 ∨
        97 ≤ c.toNat ∧ c.toNat ≤ 122 := by
  have hAlpha :
      c.isAlpha =
        (decide ('A' ≤ c ∧ c ≤ 'Z') ||
          decide ('a' ≤ c) && decide (c ≤ 'z')) := rfl
  simp [hAlpha, Char.le_def, UInt32.le_iff_toNat_le]

theorem isDigit_of_mem_digits
    (hChar : c ∈ digits value) :
    c.isDigit :=
  Nat.isDigit_of_mem_toDigits (by decide) (by decide) hChar

theorem isAsciiDigit_of_mem_digits
    (hChar : c ∈ digits value) :
    isAsciiDigit c := by
  have hDigit := isDigit_of_mem_digits hChar
  simpa [isAsciiDigit_iff, Char.isDigit,
    UInt32.le_iff_toNat_le] using hDigit

/- Zeros in front of a numeral are digits too. -/
theorem isAsciiDigit_of_mem_zeros
    {zeros : Nat}
    (hChar : c ∈ List.replicate zeros '0' ++ digits value) :
    isAsciiDigit c := by
  rcases List.mem_append.mp hChar with hZero | hDigit
  · rw [List.eq_of_mem_replicate hZero]
    rfl
  · exact isAsciiDigit_of_mem_digits hDigit

theorem slash_not_mem_digits (value : Nat) :
    '/' ∉ digits value :=
  fun hSlash =>
    absurd (isDigit_of_mem_digits hSlash) (by decide)

/- A number can be told from its digits. -/
theorem digits_injective : Function.Injective digits := by
  intro first second hDigits
  have hValue :=
    congrArg (fun row => Nat.ofDigitChars 10 row 0) hDigits
  simpa [digits, Nat.ofDigitChars_ten_toDigits] using hValue

/- A digit is the numeral of its value. -/
theorem digits_digitValue (hDigit : isAsciiDigit c) :
    digitValue c < 10 ∧ digits (digitValue c) = [c] := by
  rcases isAsciiDigit_iff.mp hDigit with ⟨hLow, hHigh⟩
  have hValue : digitValue c = c.toNat - 48 := rfl
  have hSmall : digitValue c < 10 := by omega
  refine ⟨hSmall, ?_⟩
  rw [digits, Nat.toDigits_of_lt_base hSmall]
  refine congrArg (fun d => [d]) (Char.toNat_inj.mp ?_)
  rw [Nat.toNat_digitChar_of_lt_ten hSmall]
  omega

/- A digit is told from the others by its value. -/
theorem digitValue_inj_iff
    {d : Char}
    (hFirst : isAsciiDigit c)
    (hSecond : isAsciiDigit d) :
    digitValue c = digitValue d ↔ c = d := by
  constructor
  · intro hValue
    have hDigits := congrArg digits hValue
    rw [(digits_digitValue hFirst).2,
      (digits_digitValue hSecond).2] at hDigits
    exact List.singleton_inj.mp hDigits
  · exact congrArg digitValue

/- One more digit at the end of a numeral that is not zero. -/
theorem digits_concat
    (hPositive : 0 < value)
    (hDigit : isAsciiDigit c) :
    digits (10 * value + digitValue c) = digits value ++ [c] := by
  rcases digits_digitValue hDigit with ⟨hSmall, hLast⟩
  rw [← hLast]
  exact
    (Nat.toDigits_append_toDigits (by decide) hPositive
      hSmall).symm

theorem natOfDigits_concat (row : List Char) (c : Char) :
    natOfDigits (row ++ [c]) =
      10 * natOfDigits row + digitValue c := by
  simp [natOfDigits]

/- Zeros in front of a numeral do not change its value. -/
theorem natOfDigits_replicate_append (zeros value : Nat) :
    natOfDigits (List.replicate zeros '0' ++ digits value) =
      value := by
  have hRow :
      ∀ row : List Char,
        natOfDigits row = Nat.ofDigitChars 10 row 0 :=
    fun _ => rfl
  rw [hRow, Nat.ofDigitChars_append,
    Nat.ofDigitChars_replicate_zero]
  exact Nat.ofDigitChars_ten_toDigits

/- A row of digits is the numeral of its value behind zeros. -/
theorem exists_zeros
    (hNonempty : row ≠ [])
    (hDigits : ∀ c ∈ row, isAsciiDigit c) :
    ∃ zeros,
      row =
        List.replicate zeros '0' ++ digits (natOfDigits row) := by
  induction row using List.reverseRecOn with
  | nil => exact absurd rfl hNonempty
  | append_singleton row c ih =>
      rcases List.forall_mem_append.mp hDigits with
        ⟨hRow, hChar⟩
      have hDigit : isAsciiDigit c := hChar c (by simp)
      have hLast := (digits_digitValue hDigit).2
      rw [natOfDigits_concat]
      by_cases hFirst : row = []
      · subst hFirst
        exact ⟨0, by simp [natOfDigits, hLast]⟩
      · rcases ih hFirst hRow with ⟨zeros, hZeros⟩
        rcases Nat.eq_zero_or_pos (natOfDigits row) with
          hZero | hPositive
        · -- The row has zeros only, which stay in front.
          rw [hZero, digits, Nat.toDigits_zero,
            ← List.replicate_succ'] at hZeros
          refine ⟨zeros + 1, ?_⟩
          rw [hZero, Nat.mul_zero, Nat.zero_add, hLast, ← hZeros]
        · refine ⟨zeros, ?_⟩
          rw [digits_concat hPositive hDigit, ← List.append_assoc,
            ← hZeros]

/- What is read as a number are its numerals behind zeros. -/
theorem readNat?_eq_some_iff :
    readNat? row = some value ↔
      ∃ zeros,
        row = List.replicate zeros '0' ++ digits value := by
  unfold readNat?
  constructor
  · intro hRead
    split at hRead
    · rename_i hRow
      cases hRead
      exact exists_zeros hRow.1 (List.all_eq_true.mp hRow.2)
    · cases hRead
  · rintro ⟨zeros, rfl⟩
    rw [if_pos, natOfDigits_replicate_append]
    rw [List.all_eq_true]
    refine ⟨?_, fun c hChar => isAsciiDigit_of_mem_zeros hChar⟩
    simp [digits, Nat.toDigits_ne_nil]

end Text

end BuildForm

------------------------------------------------------------
-- Numbers of 32 Bits
------------------------------------------------------------

namespace BuildForm

namespace Text

variable {text : List Char}

/- A numeral that may have zeros and a plus sign in front. -/
def IsPadded (text : List Char) (value : Nat) : Prop :=
  ∃ sign zeros,
    (sign = [] ∨ sign = ['+']) ∧
      text =
        sign ++ List.replicate zeros '0' ++ digits value

theorem isPadded_digits (value : Nat) :
    IsPadded (digits value) value :=
  ⟨[], 0, .inl rfl, rfl⟩

/- Nothing but a sign and digits stands in a numeral. -/
theorem IsPadded.slash_not_mem
    {value : Nat}
    (hText : IsPadded text value) :
    '/' ∉ text := by
  rcases hText with ⟨sign, zeros, hSign, rfl⟩
  rw [List.append_assoc, List.mem_append]
  rintro (hMark | hRow)
  · rcases hSign with rfl | rfl
    · exact absurd hMark List.not_mem_nil
    · exact absurd hMark (by decide)
  · exact absurd (isAsciiDigit_of_mem_zeros hRow) (by decide)

/- The text without a plus sign in front. -/
def unsigned (text : List Char) : List Char :=
  match text with
  | '+' :: rest => rest
  | _ => text

theorem unsigned_of_ne
    (hPlus : ∀ rest, text ≠ '+' :: rest) :
    unsigned text = text := by
  unfold unsigned
  split
  · exact absurd rfl (hPlus _)
  · rfl

theorem isPadded_iff {value : Nat} :
    IsPadded text value ↔
      ∃ zeros,
        unsigned text =
          List.replicate zeros '0' ++ digits value := by
  constructor
  · rintro ⟨sign, zeros, hSign, rfl⟩
    refine ⟨zeros, ?_⟩
    rcases hSign with rfl | rfl
    · apply unsigned_of_ne
      intro rest hRow
      have hPlus : isAsciiDigit '+' := by
        apply isAsciiDigit_of_mem_zeros
        rw [List.nil_append] at hRow
        rw [hRow]
        exact List.mem_cons_self
      exact absurd hPlus (by decide)
    · rfl
  · rintro ⟨zeros, hText⟩
    unfold unsigned at hText
    split at hText
    · exact ⟨['+'], zeros, .inr rfl, by rw [hText]; rfl⟩
    · exact ⟨[], zeros, .inl rfl, hText⟩

theorem readWord?_eq (text : List Char) :
    readWord? text =
      (readNat? (unsigned text)).bind fun value =>
        if value < wordSize 32 then
          some (UInt32.ofNat value)
        else
          none := by
  unfold readWord?
  split
  · rename_i rest
    have hRest : unsigned ('+' :: rest) = rest := rfl
    rw [hRest]
    dsimp only
    cases readNat? rest with
    | none => rfl
    | some value => rfl
  · rename_i hUnsigned
    rw [unsigned_of_ne hUnsigned]
    dsimp only
    cases readNat? text with
    | none => rfl
    | some value => rfl

/- What is read as 32 bits are the padded numerals in range. -/
theorem readWord?_eq_some_iff {value : UInt32} :
    readWord? text = some value ↔
      IsPadded text value.toNat := by
  rw [isPadded_iff, ← readNat?_eq_some_iff, readWord?_eq,
    Option.bind_eq_some_iff]
  constructor
  · rintro ⟨number, hNumber, hWord⟩
    split at hWord
    · rename_i hSmall
      cases hWord
      rw [hNumber, UInt32.toNat_ofNat_of_lt' hSmall]
    · cases hWord
  · intro hNumber
    have hSmall : value.toNat < wordSize 32 := value.toNat_lt
    refine ⟨value.toNat, hNumber, ?_⟩
    rw [if_pos hSmall, UInt32.ofNat_toNat]

end Text

end BuildForm
