import Mathlib.Data.List.Infix
import BuildForm.Text.Search

/-
  What replacing the first occurrence of a text does, and
  where a text cannot occur.

  An occurrence is given by what stands before and after it.
  It is the first one if no other starts further left, which
  determines both, and this is the one that is replaced.

  Main declarations:
    * `Text.IsFirst`
    * `Text.IsFirst.unique`
    * `Text.replaceFirst_cases`
    * `Text.replaceFirst_append_cons`
    * `Text.replaceAll_of_not_mem`
    * `Text.infix_append_iff_of_not_mem`
    * `Text.dropLead?_eq_some_iff`
-/

------------------------------------------------------------
-- First Occurrences
------------------------------------------------------------

namespace BuildForm

namespace Text

variable {old lead tail : List Char}

/-
  The occurrence of `old` between `lead` and `tail` is the
  first one in the text that the three make up.
-/
def IsFirst (old lead tail : List Char) : Prop :=
  ∀ before after,
    lead ++ old ++ tail = before ++ old ++ after →
    lead.length ≤ before.length

/- What the text starts with is its first occurrence. -/
theorem isFirst_nil (old tail : List Char) :
    IsFirst old [] tail :=
  fun before _ _ => Nat.zero_le before.length

/- A character before the first occurrence, if it starts none. -/
theorem IsFirst.cons
    (hFirst : IsFirst old lead tail)
    {c : Char}
    (hStart : ¬old <+: c :: (lead ++ old ++ tail)) :
    IsFirst old (c :: lead) tail := by
  intro before after hSame
  cases before with
  | nil =>
      rw [List.cons_append, List.cons_append,
        List.nil_append] at hSame
      exact absurd ⟨after, hSame.symm⟩ hStart
  | cons other before =>
      simp only [List.cons_append, List.cons.injEq] at hSame
      exact Nat.succ_le_succ (hFirst before after hSame.2)

/- No two occurrences are the first one. -/
theorem IsFirst.unique
    {before after : List Char}
    (hFirst : IsFirst old lead tail)
    (hOther : IsFirst old before after)
    (hSame : lead ++ old ++ tail = before ++ old ++ after) :
    lead = before ∧ tail = after := by
  have hLength : lead.length = before.length :=
    Nat.le_antisymm (hFirst before after hSame)
      (hOther lead tail hSame.symm)
  rw [List.append_assoc, List.append_assoc] at hSame
  rcases List.append_inj hSame hLength with ⟨hLead, hRest⟩
  exact ⟨hLead, List.append_cancel_left hRest⟩

end Text

end BuildForm

------------------------------------------------------------
-- Replacing
------------------------------------------------------------

namespace BuildForm

namespace Text

variable {old lead tail text : List Char}

/-
  Either the text does not occur and nothing is replaced, or
  its first occurrence is.
-/
theorem replaceFirst_cases
    (hOld : old ≠ [])
    (new text : List Char) :
    (¬old <:+: text ∧ replaceFirst old new text = text) ∨
      ∃ lead tail,
        text = lead ++ old ++ tail ∧
        IsFirst old lead tail ∧
        replaceFirst old new text = lead ++ new ++ tail := by
  induction text with
  | nil =>
      left
      simp [replaceFirst, hOld]
  | cons c rest ih =>
      by_cases hStart : old <+: c :: rest
      · right
        rcases hStart with ⟨tail, hText⟩
        refine ⟨[], tail, hText.symm, isFirst_nil old tail, ?_⟩
        simp [replaceFirst, ← hText]
      · have hStep :
            replaceFirst old new (c :: rest) =
              c :: replaceFirst old new rest := by
          rw [replaceFirst,
            if_neg (List.isPrefixOf_iff_prefix.not.mpr hStart)]
        rw [hStep]
        rcases ih with ⟨hNone, hSame⟩ | ⟨lead, tail, hText,
          hFirst, hReplaced⟩
        · left
          rw [List.infix_cons_iff, hSame]
          exact ⟨not_or.mpr ⟨hStart, hNone⟩, rfl⟩
        · right
          subst hText
          refine ⟨c :: lead, tail, rfl, hFirst.cons hStart, ?_⟩
          rw [hReplaced]
          rfl

/- A text that does not occur is not replaced. -/
theorem replaceFirst_of_not_infix
    (hNone : ¬old <:+: text)
    (new : List Char) :
    replaceFirst old new text = text := by
  have hOld : old ≠ [] := by
    rintro rfl
    exact hNone List.nil_infix
  rcases replaceFirst_cases hOld new text with
    ⟨_, hSame⟩ | ⟨lead, tail, rfl, _⟩
  · exact hSame
  · exact absurd ⟨lead, tail, rfl⟩ hNone

/- What stands after an occurrence has no part in replacing. -/
theorem replaceFirst_append_of_infix
    {part : List Char}
    (hPart : old <:+: part)
    (new tail : List Char) :
    replaceFirst old new (part ++ tail) =
      replaceFirst old new part ++ tail := by
  induction part with
  | nil =>
      have hOld : old = [] := List.infix_nil.mp hPart
      subst hOld
      cases tail with
      | nil => simp [replaceFirst]
      | cons c tail => simp [replaceFirst]
  | cons c part ih =>
      by_cases hStart : old <+: c :: part
      · rcases hStart with ⟨rest, hRest⟩
        rw [List.cons_append]
        simp [replaceFirst, ← List.cons_append, ← hRest]
      · have hWhole : ¬old <+: c :: (part ++ tail) := by
          intro hWhole
          exact hStart
            (List.prefix_of_prefix_length_le hWhole
              (List.prefix_append (c :: part) tail)
              hPart.length_le)
        have hLater : old <:+: part :=
          (List.infix_cons_iff.mp hPart).resolve_left hStart
        rw [List.cons_append, replaceFirst, replaceFirst,
          if_neg (List.isPrefixOf_iff_prefix.not.mpr hWhole),
          if_neg (List.isPrefixOf_iff_prefix.not.mpr hStart),
          ih hLater]
        rfl

/- A text does not start before a character that it lacks. -/
theorem prefix_append_cons_iff
    {mark : Char}
    (hMark : mark ∉ old)
    (part rest : List Char) :
    old <+: part ++ mark :: rest ↔ old <+: part := by
  refine ⟨?_, fun hPart => hPart.trans (List.prefix_append _ _)⟩
  intro hWhole
  rcases List.prefix_or_prefix_of_prefix hWhole
      (List.prefix_append part (mark :: rest)) with
    hPart | ⟨more, rfl⟩
  · exact hPart
  · have hMore : more <+: mark :: rest :=
      (List.prefix_append_right_inj part).mp hWhole
    rcases List.prefix_cons_iff.mp hMore with
      rfl | ⟨more, rfl, _⟩
    · simp
    · exact absurd (by simp) hMark

/-
  Replacing passes over a part without an occurrence and the
  character after it, if no occurrence has that character.
-/
theorem replaceFirst_append_cons
    {part : List Char}
    {mark : Char}
    (hOld : old ≠ [])
    (hMark : mark ∉ old)
    (hPart : ¬old <:+: part)
    (new rest : List Char) :
    replaceFirst old new (part ++ mark :: rest) =
      part ++ mark :: replaceFirst old new rest := by
  induction part with
  | nil =>
      have hStart : ¬old <+: mark :: rest := by
        intro hStart
        have hNil := prefix_append_cons_iff hMark [] rest
        exact hOld (List.prefix_nil.mp (hNil.mp hStart))
      rw [List.nil_append, List.nil_append, replaceFirst,
        if_neg (List.isPrefixOf_iff_prefix.not.mpr hStart)]
  | cons c part ih =>
      rcases not_or.mp (List.infix_cons_iff.not.mp hPart) with
        ⟨hStart, hLater⟩
      have hWhole : ¬old <+: c :: (part ++ mark :: rest) :=
        (prefix_append_cons_iff hMark (c :: part) rest).not.mpr
          hStart
      rw [List.cons_append, replaceFirst,
        if_neg (List.isPrefixOf_iff_prefix.not.mpr hWhole),
        ih hLater]
      rfl

end Text

end BuildForm

------------------------------------------------------------
-- Texts Without Occurrences
------------------------------------------------------------

namespace BuildForm

namespace Text

variable {first : Char}
variable {text : List Char}

/- What starts with a character that the text lacks is kept. -/
theorem replaceAll_of_not_mem
    (hFirst : first ∉ text)
    (old new : List Char) :
    replaceAll (first :: old) new text = text := by
  unfold replaceAll
  induction text with
  | nil => rfl
  | cons c rest ih =>
      rcases not_or.mp (List.mem_cons.not.mp hFirst) with
        ⟨hOther, hRest⟩
      rw [replaceAllFrom, List.isPrefixOf_cons_cons,
        beq_eq_false_iff_ne.mpr hOther, Bool.false_and,
        if_neg Bool.false_ne_true, ih hRest]

/- It occurs only after a part that lacks its first character. -/
theorem infix_append_iff_of_not_mem
    {lead : List Char}
    (hFirst : first ∉ lead)
    (needle text : List Char) :
    first :: needle <:+: lead ++ text ↔
      first :: needle <:+: text := by
  induction lead with
  | nil => rfl
  | cons c lead ih =>
      rcases not_or.mp (List.mem_cons.not.mp hFirst) with
        ⟨hOther, hRest⟩
      have hStart :
          ¬first :: needle <+: c :: (lead ++ text) := by
        intro hStart
        exact hOther (List.cons_prefix_cons.mp hStart).1
      rw [List.cons_append, List.infix_cons_iff, ih hRest]
      exact or_iff_right hStart

end Text

end BuildForm

------------------------------------------------------------
-- Leads
------------------------------------------------------------

namespace BuildForm

namespace Text

theorem dropLead?_eq_some_iff
    {lead text rest : List Char} :
    dropLead? lead text = some rest ↔ text = lead ++ rest := by
  unfold dropLead?
  constructor
  · intro hDrop
    split at hDrop
    · rename_i hLead
      cases hDrop
      exact
        (List.prefix_iff_eq_append.mp
          (List.isPrefixOf_iff_prefix.mp hLead)).symm
    · cases hDrop
  · rintro rfl
    simp

end Text

end BuildForm
