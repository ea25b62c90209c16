import Mathlib.Data.Char
import BuildForm.Pattern.CharSet

/-
  What the sets of characters contain.

  Main declarations:
    * `CharSet.contains_ofChars_iff`
    * `CharSet.contains_without_iff`
    * `CharSet.contains_union_iff`
    * `CharSet.contains_alphanumerics_iff`
-/

------------------------------------------------------------
-- Members of Sets
------------------------------------------------------------

namespace BuildForm

namespace CharSet

variable {chars : List Char}
variable {c : Char}

/- A range from a character to itself holds that one alone. -/
theorem any_single_iff :
    (chars.map fun other => (other, other)).any
        (fun (low, high) => low ≤ c && c ≤ high) ↔
      c ∈ chars := by
  simp only [List.any_map, List.any_eq_true, Function.comp_apply,
    Bool.and_eq_true, decide_eq_true_eq]
  constructor
  · rintro ⟨other, hOther, hLow, hHigh⟩
    rwa [Char.le_antisymm hHigh hLow]
  · intro hChar
    exact ⟨c, hChar, Char.le_refl c, Char.le_refl c⟩

theorem contains_ofChars_iff :
    (ofChars chars).contains c ↔ c ∈ chars := by
  rw [← any_single_iff]
  simp [contains, ofChars]

theorem contains_without_iff :
    (without chars).contains c ↔ c ∉ chars := by
  rw [← any_single_iff]
  simp [contains, without]

/- Ranges are put together, which leaves-out sets have none of. -/
theorem contains_union_iff
    {left right : CharSet}
    (hLeft : left.negated = false)
    (hRight : right.negated = false) :
    (left.union right).contains c ↔
      left.contains c ∨ right.contains c := by
  simp [contains, union, hLeft, hRight]

theorem contains_all (c : Char) : all.contains c :=
  rfl

theorem contains_letters_iff :
    letters.contains c ↔ c.isAlpha := by
  have hAlpha :
      c.isAlpha =
        (decide ('A' ≤ c ∧ c ≤ 'Z') ||
          decide ('a' ≤ c) && decide (c ≤ 'z')) := rfl
  simp [letters, contains, hAlpha, or_comm]

theorem contains_digits_iff : digits.contains c ↔ c.isDigit := by
  have hDigit :
      c.isDigit = (decide ('0' ≤ c) && decide (c ≤ '9')) := rfl
  simp [digits, contains, hDigit]

theorem contains_alphanumerics_iff :
    alphanumerics.contains c ↔ c.isAlphanum := by
  rw [alphanumerics, contains_union_iff rfl rfl,
    contains_letters_iff, contains_digits_iff, Char.isAlphanum,
    Bool.or_eq_true]

end CharSet

end BuildForm
