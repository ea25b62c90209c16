import Mathlib.Data.List.Basic
import BuildForm.Pattern.Basic

/-
  The matcher of patterns decides what a pattern means.

  What is left to match after one character is again a list of
  patterns, and between them they match what the pattern
  matches after that character. Stepping through a text leaves
  patterns that must match nothing at its end.

  Main declarations:
    * `Pattern.matches_seq_iff`
    * `Pattern.matches_many_cons_iff`
    * `Pattern.nullable_iff`
    * `Pattern.matches_cons_iff`
    * `Pattern.accepts_iff`
-/

------------------------------------------------------------
-- Meaning of the Constructors
------------------------------------------------------------

namespace BuildForm

namespace Pattern

variable {first second left right body : Pattern}
variable {set : CharSet}
variable {text after : List Char}

theorem matches_empty_iff :
    Matches .empty text after ↔ text = [] := by
  constructor
  · intro hMatches
    cases hMatches
    rfl
  · rintro rfl
    exact .empty

theorem matches_textEnd_iff :
    Matches .textEnd text after ↔ text = [] ∧ after = [] := by
  constructor
  · intro hMatches
    cases hMatches
    exact ⟨rfl, rfl⟩
  · rintro ⟨rfl, rfl⟩
    exact .textEnd

theorem matches_one_iff :
    Matches (.one set) text after ↔
      ∃ c, set.contains c ∧ text = [c] := by
  constructor
  · intro hMatches
    cases hMatches with
    | one hChar => exact ⟨_, hChar, rfl⟩
  · rintro ⟨c, hChar, rfl⟩
    exact .one hChar

theorem matches_seq_iff :
    Matches (.seq first second) text after ↔
      ∃ head tail,
        text = head ++ tail ∧
          Matches first head (tail ++ after) ∧
          Matches second tail after := by
  constructor
  · intro hMatches
    cases hMatches with
    | seq hFirst hSecond => exact ⟨_, _, rfl, hFirst, hSecond⟩
  · rintro ⟨head, tail, rfl, hFirst, hSecond⟩
    exact .seq hFirst hSecond

theorem matches_alt_iff :
    Matches (.alt left right) text after ↔
      Matches left text after ∨ Matches right text after := by
  constructor
  · intro hMatches
    cases hMatches with
    | left hLeft => exact .inl hLeft
    | right hRight => exact .inr hRight
  · rintro (hLeft | hRight)
    · exact .left hLeft
    · exact .right hRight

/- The character is taken by the second pattern or the first. -/
theorem matches_seq_cons_iff {c : Char} :
    Matches (.seq first second) (c :: text) after ↔
      Matches first [] (c :: text ++ after) ∧
          Matches second (c :: text) after ∨
        ∃ head tail,
          text = head ++ tail ∧
            Matches first (c :: head) (tail ++ after) ∧
            Matches second tail after := by
  rw [matches_seq_iff]
  constructor
  · rintro ⟨head, tail, hText, hFirst, hSecond⟩
    rcases List.cons_eq_append_iff.mp hText with
      ⟨rfl, rfl⟩ | ⟨rest, rfl, rfl⟩
    · exact .inl ⟨hFirst, hSecond⟩
    · exact .inr ⟨rest, tail, rfl, hFirst, hSecond⟩
  · rintro (⟨hFirst, hSecond⟩ | ⟨head, tail, rfl, hRest⟩)
    · exact ⟨[], c :: text, rfl, hFirst, hSecond⟩
    · exact ⟨c :: head, tail, rfl, hRest⟩

/- The first round that takes something takes the character. -/
theorem matches_many_cons_iff {c : Char} :
    Matches (.many body) (c :: text) after ↔
      ∃ head tail,
        text = head ++ tail ∧
          Matches body (c :: head) (tail ++ after) ∧
          Matches (.many body) tail after := by
  constructor
  · intro hMatches
    generalize hPattern : Pattern.many body = pattern at hMatches
    generalize hText : c :: text = whole at hMatches
    -- Rounds that take nothing are passed over.
    induction hMatches with
    | more hBody hMany _ ih =>
        cases hPattern
        rcases List.cons_eq_append_iff.mp hText with
          ⟨rfl, hTail⟩ | ⟨head, rfl, rfl⟩
        · exact ih rfl hTail.symm
        · exact ⟨head, _, rfl, hBody, hMany⟩
    | done => cases hText
    | _ => cases hPattern
  · rintro ⟨head, tail, rfl, hBody, hMany⟩
    exact .more hBody hMany

end Pattern

end BuildForm

------------------------------------------------------------
-- Matching Nothing
------------------------------------------------------------

namespace BuildForm

namespace Pattern

/-
  Whether a pattern matches nothing depends on what follows
  only in so far as that may be the end.
-/
theorem nullable_iff (pattern : Pattern) (after : List Char) :
    pattern.nullable after.isEmpty ↔
      Matches pattern [] after := by
  induction pattern with
  | empty => simp [nullable, matches_empty_iff]
  | textEnd => simp [nullable, matches_textEnd_iff]
  | one set => simp [nullable, matches_one_iff]
  | seq first second ihFirst ihSecond =>
      simp [nullable, matches_seq_iff, ihFirst, ihSecond]
  | alt left right ihLeft ihRight =>
      simp [nullable, matches_alt_iff, ihLeft, ihRight]
  | many body _ => exact iff_of_true rfl .done

end Pattern

end BuildForm

------------------------------------------------------------
-- Matching a Character
------------------------------------------------------------

namespace BuildForm

namespace Pattern

variable {first second : Pattern}
variable {text after : List Char}
variable {c : Char}

/- What is left and then another pattern. -/
def followedBy (second rest : Pattern) : Pattern :=
  match rest with
  | .empty => second
  | _ => .seq rest second

theorem matches_followedBy_iff {rest : Pattern} :
    Matches (followedBy second rest) text after ↔
      Matches (.seq rest second) text after := by
  unfold followedBy
  split
  · simp [matches_seq_iff, matches_empty_iff]
  · rfl

theorem residues_seq (c : Char) (first second : Pattern) :
    residues c (.seq first second) =
      if first.nullable false then
        (residues c first).map (followedBy second) ++
          residues c second
      else
        (residues c first).map (followedBy second) :=
  rfl

theorem residues_many (c : Char) (body : Pattern) :
    residues c (.many body) =
      (residues c body).map (followedBy (.many body)) :=
  rfl

/- The residues of a pattern with another one after it. -/
theorem exists_followedBy_iff
    (hFirst :
      ∀ {text after},
        Matches first (c :: text) after ↔
          ∃ rest ∈ residues c first, Matches rest text after) :
    (∃ rest ∈ (residues c first).map (followedBy second),
        Matches rest text after) ↔
      ∃ head tail,
        text = head ++ tail ∧
          Matches first (c :: head) (tail ++ after) ∧
          Matches second tail after := by
  simp only [List.mem_map, exists_exists_and_eq_and, matches_followedBy_iff,
    matches_seq_iff, hFirst]
  constructor
  · rintro ⟨rest, hRest, head, tail, rfl, hHead, hTail⟩
    exact ⟨head, tail, rfl, ⟨rest, hRest, hHead⟩, hTail⟩
  · rintro ⟨head, tail, rfl, ⟨rest, hRest, hHead⟩, hTail⟩
    exact ⟨rest, hRest, head, tail, rfl, hHead, hTail⟩

/-
  A pattern matches a text that starts with a character
  exactly if a residue of it matches the rest.
-/
theorem matches_cons_iff {pattern : Pattern} :
    Matches pattern (c :: text) after ↔
      ∃ rest ∈ residues c pattern, Matches rest text after := by
  induction pattern generalizing text after with
  | empty => simp [residues, matches_empty_iff]
  | textEnd => simp [residues, matches_textEnd_iff]
  | one set =>
      by_cases hChar : set.contains c
      · simp [residues, matches_one_iff, matches_empty_iff, hChar]
      · simp [residues, matches_one_iff, hChar]
  | seq first second ihFirst ihSecond =>
      have hNullable :
          first.nullable false ↔
            Matches first [] (c :: text ++ after) :=
        nullable_iff first (c :: text ++ after)
      rw [matches_seq_cons_iff, ← hNullable, ihSecond,
        ← exists_followedBy_iff ihFirst, residues_seq]
      split
      · rename_i hNothing
        simp only [hNothing, true_and, List.mem_append,
          or_and_right, exists_or]
        exact or_comm
      · rename_i hNothing
        simp only [hNothing, Bool.false_eq_true, false_and,
          false_or]
  | alt left right ihLeft ihRight =>
      rw [matches_alt_iff, ihLeft, ihRight, residues]
      simp only [List.mem_append, or_and_right, exists_or]
  | many body ih =>
      rw [matches_many_cons_iff, ← exists_followedBy_iff ih,
        residues_many]

end Pattern

end BuildForm

------------------------------------------------------------
-- Stepping Through a Text
------------------------------------------------------------

namespace BuildForm

namespace Pattern

variable {text : List Char}

theorem mem_stepAll_iff
    {c : Char}
    {patterns : List Pattern}
    {rest : Pattern} :
    rest ∈ stepAll c patterns ↔
      ∃ pattern ∈ patterns, rest ∈ residues c pattern := by
  rw [stepAll, List.mem_eraseDups, List.mem_flatMap]

theorem acceptsAny_iff {patterns : List Pattern} :
    acceptsAny patterns text ↔
      ∃ pattern ∈ patterns, Matches pattern text [] := by
  induction text generalizing patterns with
  | nil =>
      rw [acceptsAny, List.any_eq_true]
      exact exists_congr fun pattern =>
        and_congr_right fun _ => nullable_iff pattern []
  | cons c text ih =>
      rw [acceptsAny, ih]
      simp only [mem_stepAll_iff, matches_cons_iff]
      constructor
      · rintro ⟨rest, ⟨pattern, hPattern, hRest⟩, hText⟩
        exact ⟨pattern, hPattern, rest, hRest, hText⟩
      · rintro ⟨pattern, hPattern, rest, hRest, hText⟩
        exact ⟨rest, ⟨pattern, hPattern, hRest⟩, hText⟩

/- The matcher accepts exactly the texts a pattern matches. -/
theorem accepts_iff {pattern : Pattern} :
    pattern.accepts text ↔ Matches pattern text [] := by
  rw [accepts, acceptsAny_iff]
  simp

end Pattern

end BuildForm
