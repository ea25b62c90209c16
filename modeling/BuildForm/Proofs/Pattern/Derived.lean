import BuildForm.Proofs.Pattern.CharSet
import BuildForm.Proofs.Pattern.Matching

/-
  What the derived patterns match.

  Most patterns look at nothing but the text that they match.
  Such a pattern, repeated, matches the texts that fall into
  parts which it matches.

  Main declarations:
    * `Pattern.matches_inOrder_cons_iff`
    * `Pattern.matches_exactly_iff`
    * `Pattern.matches_seq_assoc_iff`
    * `Pattern.matches_seq_exactly_iff`
    * `Pattern.matches_seq_textEnd_iff`
    * `Pattern.matches_many_iff`
    * `Pattern.matches_many_alt_end_iff`
    * `Pattern.matches_many_one_iff`
    * `Pattern.matches_oneOrMore_one_iff`
    * `Pattern.matches_atMost_one_iff`
    * `Pattern.matches_between_one_iff`
    * `Pattern.matches_atEndOf_iff`
-/

------------------------------------------------------------
-- Rows and Words
------------------------------------------------------------

namespace BuildForm

namespace Pattern

variable {first body : Pattern}
variable {rest : List Pattern}
variable {text after : List Char}

theorem matches_inOrder_nil_iff :
    Matches (inOrder []) text after ↔ text = [] :=
  matches_empty_iff

theorem matches_inOrder_cons_iff :
    Matches (inOrder (first :: rest)) text after ↔
      ∃ head tail,
        text = head ++ tail ∧
          Matches first head (tail ++ after) ∧
          Matches (inOrder rest) tail after := by
  cases rest with
  | nil => simp [inOrder, matches_empty_iff]
  | cons next rest => exact matches_seq_iff

theorem matches_exactly_iff (word : String) :
    Matches (exactly word) text after ↔ text = word.toList := by
  unfold exactly
  induction word.toList generalizing text with
  | nil => exact matches_inOrder_nil_iff
  | cons c word ih =>
      simp [matches_inOrder_cons_iff, ih, matches_one_iff,
        CharSet.contains_ofChars_iff]

theorem matches_optional_iff :
    Matches (optional body) text after ↔
      Matches body text after ∨ text = [] := by
  rw [optional, matches_alt_iff, matches_empty_iff]

/- Patterns in a row may be put together from the left. -/
theorem matches_seq_assoc_iff {second third : Pattern} :
    Matches (.seq (.seq first second) third) text after ↔
      Matches (.seq first (.seq second third)) text after := by
  simp only [matches_seq_iff]
  constructor
  · rintro ⟨_, tail, rfl, ⟨head, middle, rfl, hHead, hMiddle⟩, hTail⟩
    refine
      ⟨head, middle ++ tail, by simp, ?_, middle, tail, rfl, hMiddle,
        hTail⟩
    rwa [List.append_assoc]
  · rintro ⟨head, _, rfl, hHead, middle, tail, rfl, hMiddle, hTail⟩
    refine
      ⟨head ++ middle, tail, by simp, ⟨head, middle, rfl, ?_, hMiddle⟩,
        hTail⟩
    rwa [← List.append_assoc]

/- A word in front is cut off from the text. -/
theorem matches_seq_exactly_iff {word : String} :
    Matches (.seq (exactly word) body) text after ↔
      ∃ tail,
        text = word.toList ++ tail ∧
          Matches body tail after := by
  simp only [matches_seq_iff, matches_exactly_iff]
  constructor
  · rintro ⟨_, tail, rfl, rfl, hTail⟩
    exact ⟨tail, rfl, hTail⟩
  · rintro ⟨tail, rfl, hTail⟩
    exact ⟨word.toList, tail, rfl, rfl, hTail⟩

/- What stands before the end takes all of the text. -/
theorem matches_seq_textEnd_iff :
    Matches (.seq body .textEnd) text after ↔
      Matches body text [] ∧ after = [] := by
  simp only [matches_seq_iff, matches_textEnd_iff]
  constructor
  · rintro ⟨head, _, rfl, hHead, rfl, rfl⟩
    rw [List.append_nil]
    exact ⟨hHead, rfl⟩
  · rintro ⟨hText, rfl⟩
    exact ⟨text, [], by simp, hText, rfl, rfl⟩

end Pattern

end BuildForm

------------------------------------------------------------
-- Repetitions
------------------------------------------------------------

namespace BuildForm

namespace Pattern

variable {body : Pattern}
variable {set : CharSet}
variable {text after : List Char}

/-
  A repetition matches the texts that fall into parts if what
  is repeated does not look at what follows it.
-/
theorem matches_many_iff
    {IsPart : List Char → Prop}
    (hBody :
      ∀ {text after}, Matches body text after ↔ IsPart text) :
    Matches (.many body) text after ↔
      ∃ parts : List (List Char),
        (∀ part ∈ parts, IsPart part) ∧
          text = parts.flatten := by
  constructor
  · intro hMatches
    generalize hPattern : Pattern.many body = pattern at hMatches
    induction hMatches with
    | done => exact ⟨[], by simp, rfl⟩
    | more hPart _ _ ih =>
        cases hPattern
        rcases ih rfl with ⟨parts, hParts, rfl⟩
        refine ⟨_ :: parts, ?_, rfl⟩
        exact List.forall_mem_cons.mpr ⟨hBody.mp hPart, hParts⟩
    | _ => cases hPattern
  · rintro ⟨parts, hParts, rfl⟩
    induction parts with
    | nil => exact .done
    | cons part parts ih =>
        rcases List.forall_mem_cons.mp hParts with
          ⟨hPart, hParts⟩
        exact .more (hBody.mpr hPart) (ih hParts)

/-
  The same, where what is repeated may also be something that
  only stands at the end.
-/
theorem matches_many_alt_end_iff
    {last : Pattern}
    {IsPart IsLast : List Char → Prop}
    (hBody :
      ∀ {text after}, Matches body text after ↔ IsPart text)
    (hLast :
      ∀ {text after},
        Matches last text after ↔ IsLast text ∧ after = []) :
    Matches (.many (.alt body last)) text [] ↔
      ∃ (parts : List (List Char)) (ending : List Char),
        (∀ part ∈ parts, IsPart part) ∧
          (ending = [] ∨ IsLast ending) ∧
          text = parts.flatten ++ ending := by
  constructor
  · intro hMatches
    generalize hPattern : Pattern.many (.alt body last) = pattern
      at hMatches
    obtain ⟨after, hAfter⟩ : ∃ after : List Char, after = [] :=
      ⟨[], rfl⟩
    rw [← hAfter] at hMatches
    induction hMatches with
    | done => exact ⟨[], [], by simp, .inl rfl, rfl⟩
    | @more _ head _ _ hPart _ _ ih =>
        cases hPattern
        rcases ih rfl hAfter with
          ⟨parts, ending, hParts, hEnding, rfl⟩
        rcases matches_alt_iff.mp hPart with hPart | hPart
        · refine ⟨head :: parts, ending, ?_, hEnding, by simp⟩
          exact
            List.forall_mem_cons.mpr ⟨hBody.mp hPart, hParts⟩
        · -- Nothing comes after what stands at the end.
          rcases hLast.mp hPart with ⟨hHead, hTail⟩
          rw [(List.append_eq_nil_iff.mp hTail).1,
            List.append_nil]
          exact ⟨[], _, by simp, .inr hHead, rfl⟩
    | _ => cases hPattern
  · rintro ⟨parts, ending, hParts, hEnding, rfl⟩
    induction parts with
    | nil =>
        rcases hEnding with rfl | hEnding
        · exact .done
        · have hRound :
              Matches (.alt body last) ending ([] ++ []) :=
            .right (hLast.mpr ⟨hEnding, rfl⟩)
          simpa using Matches.more hRound .done
    | cons part parts ih =>
        rcases List.forall_mem_cons.mp hParts with
          ⟨hPart, hParts⟩
        rw [List.flatten_cons, List.append_assoc]
        exact .more (.left (hBody.mpr hPart)) (ih hParts)

theorem matches_many_one_iff :
    Matches (.many (.one set)) text after ↔
      ∀ c ∈ text, set.contains c := by
  induction text with
  | nil => exact iff_of_true .done (by simp)
  | cons c text ih =>
      simp [matches_many_cons_iff, matches_one_iff, ih]

theorem matches_oneOrMore_one_iff :
    Matches (oneOrMore (.one set)) text after ↔
      text ≠ [] ∧ ∀ c ∈ text, set.contains c := by
  rw [oneOrMore, matches_seq_iff]
  cases text with
  | nil => simp [matches_one_iff]
  | cons c text =>
      simp [matches_one_iff, matches_many_one_iff]

theorem matches_atMost_one_iff {count : Nat} :
    Matches (atMost (.one set) count) text after ↔
      text.length ≤ count ∧ ∀ c ∈ text, set.contains c := by
  induction count generalizing text with
  | zero =>
      rw [atMost, matches_empty_iff, Nat.le_zero,
        List.length_eq_zero_iff, iff_self_and]
      rintro rfl
      simp
  | succ count ih =>
      rw [atMost, matches_optional_iff, matches_seq_iff]
      cases text with
      | nil => simp [matches_one_iff]
      | cons c text =>
          simp [matches_one_iff, ih, and_left_comm]

theorem matches_times_one_iff {count : Nat} :
    Matches (times (.one set) count) text after ↔
      text.length = count ∧ ∀ c ∈ text, set.contains c := by
  induction count generalizing text with
  | zero =>
      rw [times, matches_empty_iff, List.length_eq_zero_iff,
        iff_self_and]
      rintro rfl
      simp
  | succ count ih =>
      rw [times, matches_seq_iff]
      cases text with
      | nil => simp [matches_one_iff]
      | cons c text =>
          simp [matches_one_iff, ih, and_left_comm]

theorem matches_between_one_iff {low extra : Nat} :
    Matches (between (.one set) low extra) text after ↔
      low ≤ text.length ∧ text.length ≤ low + extra ∧
        ∀ c ∈ text, set.contains c := by
  simp only [between, matches_seq_iff, matches_times_one_iff,
    matches_atMost_one_iff]
  constructor
  · rintro ⟨head, tail, rfl, ⟨rfl, hHead⟩, hShort, hTail⟩
    rw [List.length_append]
    refine ⟨by omega, by omega, ?_⟩
    exact List.forall_mem_append.mpr ⟨hHead, hTail⟩
  · rintro ⟨hLow, hHigh, hText⟩
    refine
      ⟨text.take low, text.drop low,
        (List.take_append_drop low text).symm, ⟨?_, ?_⟩, ?_, ?_⟩
    · rw [List.length_take, Nat.min_eq_left hLow]
    · exact fun c hChar => hText c (List.mem_of_mem_take hChar)
    · rw [List.length_drop]
      omega
    · exact fun c hChar => hText c (List.mem_of_mem_drop hChar)

theorem matches_atEndOf_iff :
    Matches (atEndOf body) text after ↔
      ∃ before rest,
        text = before ++ rest ∧ Matches body rest after := by
  simp [atEndOf, matches_seq_iff, matches_many_one_iff,
    CharSet.contains_all]

end Pattern

end BuildForm
