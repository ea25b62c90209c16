import BuildForm.Rule.Mail
import BuildForm.Proofs.Pattern.Derived
import BuildForm.Proofs.Text.Numeral

/-
  The e-mail addresses that the rule for them accepts.

  An address at a named domain has a local part: words with
  dots between them, a text in quotes, or one after the other.
  Of an address at a numeric host only the end is looked at,
  so that anything may stand before it, and also nothing. A
  text has one reading, as neither kind of domain holds the
  sign between the two parts.

  Main declarations:
    * `Rule.IsLocalPart`
    * `Rule.IsDomainName`
    * `Rule.IsNumericHost`
    * `Rule.matches_octet_iff`
    * `Rule.isMail_iff`
    * `Rule.local_parts_at_named_domains`
-/

------------------------------------------------------------
-- Characters
------------------------------------------------------------

namespace BuildForm

namespace Rule

/-
  A letter up to case folding, which takes the long s and the
  Kelvin sign for ASCII letters.
-/
def IsLetter (c : Char) : Prop :=
  c.isAlpha ∨ c ∈ ['\u017F', '\u212A']

/- The characters of a word. -/
def IsWordChar (c : Char) : Prop :=
  (IsLetter c ∨ c.isDigit) ∨ c ∈ ['_', '-']

variable {c : Char}

theorem contains_foldedLetters_iff :
    CharSet.foldedLetters.contains c ↔ IsLetter c := by
  rw [CharSet.foldedLetters, CharSet.contains_union_iff rfl rfl,
    CharSet.contains_letters_iff, CharSet.contains_ofChars_iff,
    IsLetter]

theorem contains_wordChars_iff :
    wordChars.contains c ↔ IsWordChar c := by
  rw [wordChars, labelStartChars,
    CharSet.contains_union_iff rfl rfl,
    CharSet.contains_union_iff rfl rfl,
    CharSet.contains_union_iff rfl rfl,
    contains_foldedLetters_iff, CharSet.contains_digits_iff,
    CharSet.contains_ofChars_iff, CharSet.contains_ofChars_iff,
    or_assoc, ← List.mem_append, IsWordChar]
  rfl

/- A label starts with any character of a word but a hyphen. -/
theorem contains_labelStartChars_iff :
    labelStartChars.contains c ↔ IsWordChar c ∧ c ≠ '-' := by
  rw [labelStartChars, CharSet.contains_union_iff rfl rfl,
    CharSet.contains_union_iff rfl rfl,
    contains_foldedLetters_iff, CharSet.contains_digits_iff,
    CharSet.contains_ofChars_iff, IsWordChar]
  by_cases hHyphen : c = '-'
  · subst hHyphen
    simp [IsLetter]
  · simp [hHyphen]

theorem contains_blanks_iff :
    CharSet.contains
        { ranges := Text.blankRanges.map fun (low, high) =>
            (Char.ofNat low, Char.ofNat high) } c ↔
      Text.isBlank c := by
  simp [CharSet.contains, Text.isBlank, Text.blankRanges,
    Char.le_def, UInt32.le_iff_toNat_le]

theorem contains_quotedChars_iff :
    quotedChars.contains c ↔ IsWordChar c ∨ Text.isBlank c := by
  rw [quotedChars, CharSet.contains_union_iff rfl rfl,
    contains_wordChars_iff, contains_blanks_iff]

/- Some characters that no word has in it. -/
theorem IsWordChar.not_mem
    (hChar : IsWordChar c) :
    c ∉ ['@', '.', '"', ' ', ']'] := by
  intro hOther
  have hNone :
      ∀ d ∈ ['@', '.', '"', ' ', ']'], ¬IsWordChar d := by
    simp [IsWordChar, IsLetter]
  exact hNone c hOther hChar

/- Neither the sign nor a space is in words with dots. -/
theorem not_mem_of_plain
    {text : List Char}
    (hText : ∀ d ∈ text, IsWordChar d ∨ d = '.')
    (hOther : c ∈ ['@', ' ']) :
    c ∉ text := by
  intro hChar
  rcases hText c hChar with hWord | rfl
  · apply hWord.not_mem
    rcases List.mem_pair.mp hOther with rfl | rfl
    · simp
    · simp
  · exact absurd hOther (by decide)

end Rule

end BuildForm

------------------------------------------------------------
-- Parts before the Sign
------------------------------------------------------------

namespace BuildForm

namespace Rule

open Pattern

/- A word is not empty. -/
structure IsWord (text : List Char) : Prop where
  nonempty : text ≠ []
  plain : ∀ c ∈ text, IsWordChar c

/- Words with a single dot between neighbours. -/
inductive IsDotted : List Char → Prop where
  | word {word : List Char} : IsWord word → IsDotted word
  | dot {word rest : List Char} :
      IsWord word → IsDotted rest → IsDotted (word ++ '.' :: rest)

/- Characters of words and white space, in quotes. -/
def IsQuoted (text : List Char) : Prop :=
  ∃ inner,
    (inner ≠ [] ∧ ∀ c ∈ inner, IsWordChar c ∨ Text.isBlank c) ∧
      text = '"' :: inner ++ ['"']

/- What stands before the sign of an address. -/
inductive IsLocalPart : List Char → Prop where
  | dotted {dotted : List Char} :
      IsDotted dotted → IsLocalPart dotted
  | quoted {quoted : List Char} :
      IsQuoted quoted → IsLocalPart quoted
  | both {quoted dotted : List Char} :
      IsQuoted quoted →
      IsDotted dotted →
      IsLocalPart (quoted ++ dotted)

variable {text after : List Char}

theorem matches_word_iff :
    Matches (.oneOrMore (.one wordChars)) text after ↔
      IsWord text := by
  simp only [matches_oneOrMore_one_iff, contains_wordChars_iff]
  exact ⟨fun hWord => ⟨hWord.1, hWord.2⟩,
    fun hWord => ⟨hWord.nonempty, hWord.plain⟩⟩

theorem quotedPart_eq :
    quotedPart =
      .seq (.exactly "\"")
        (.seq (.oneOrMore (.one quotedChars)) (.exactly "\"")) :=
  rfl

theorem matches_quotedPart_iff :
    Matches quotedPart text after ↔ IsQuoted text := by
  rw [quotedPart_eq, matches_seq_exactly_iff]
  simp only [matches_seq_iff, matches_oneOrMore_one_iff,
    matches_exactly_iff, contains_quotedChars_iff]
  constructor
  · rintro ⟨_, rfl, inner, _, rfl, hInner, rfl⟩
    exact ⟨inner, hInner, rfl⟩
  · rintro ⟨inner, hInner, rfl⟩
    exact ⟨inner ++ ['"'], rfl, inner, ['"'], rfl, hInner, rfl⟩

/- Words that each come after a dot go on with a word. -/
theorem isDotted_flatten
    {word : List Char}
    {parts : List (List Char)}
    (hWord : IsWord word)
    (hParts :
      ∀ part ∈ parts, ∃ word, IsWord word ∧ part = '.' :: word) :
    IsDotted (word ++ parts.flatten) := by
  induction parts generalizing word with
  | nil =>
      rw [List.flatten_nil, List.append_nil]
      exact .word hWord
  | cons part parts ih =>
      rcases List.forall_mem_cons.mp hParts with
        ⟨⟨next, hNext, rfl⟩, hOthers⟩
      exact .dot hWord (ih hNext hOthers)

theorem IsDotted.exists_parts (hDotted : IsDotted text) :
    ∃ (word : List Char) (parts : List (List Char)),
      IsWord word ∧
        (∀ part ∈ parts, ∃ word, IsWord word ∧ part = '.' :: word) ∧
        text = word ++ parts.flatten := by
  induction hDotted with
  | @word word hWord => exact ⟨word, [], hWord, by simp, by simp⟩
  | @dot word _ hWord _ ih =>
      rcases ih with ⟨next, parts, hNext, hParts, rfl⟩
      refine ⟨word, ('.' :: next) :: parts, hWord, ?_, by simp⟩
      exact List.forall_mem_cons.mpr ⟨⟨next, hNext, rfl⟩, hParts⟩

theorem matches_dottedPart_iff :
    Matches dottedPart text after ↔ IsDotted text := by
  have hPart :
      ∀ {text after},
        Matches
            (.seq (.exactly ".") (.oneOrMore (.one wordChars)))
            text after ↔
          ∃ word, IsWord word ∧ text = '.' :: word := by
    intro text after
    simp only [matches_seq_exactly_iff, matches_word_iff]
    exact exists_congr fun word => and_comm
  simp only [dottedPart, matches_seq_iff, matches_word_iff,
    matches_many_iff hPart]
  constructor
  · rintro ⟨word, _, rfl, hWord, parts, hParts, rfl⟩
    exact isDotted_flatten hWord hParts
  · intro hDotted
    rcases hDotted.exists_parts with
      ⟨word, parts, hWord, hParts, rfl⟩
    exact ⟨word, parts.flatten, rfl, hWord, parts, hParts, rfl⟩

theorem matches_localPart_iff :
    Matches localPart text after ↔ IsLocalPart text := by
  simp only [localPart, oneOf, matches_alt_iff, matches_seq_iff,
    matches_quotedPart_iff, matches_dottedPart_iff]
  constructor
  · rintro (hQuoted | hDotted | ⟨_, _, rfl, hQuoted, hDotted⟩)
    · exact .quoted hQuoted
    · exact .dotted hDotted
    · exact .both hQuoted hDotted
  · intro hLocal
    cases hLocal with
    | dotted hDotted => exact .inr (.inl hDotted)
    | quoted hQuoted => exact .inl hQuoted
    | both hQuoted hDotted =>
        exact .inr (.inr ⟨_, _, rfl, hQuoted, hDotted⟩)

/- Words and dots are all that there is without quotes. -/
theorem IsDotted.plain
    (hDotted : IsDotted text) :
    ∀ c ∈ text, IsWordChar c ∨ c = '.' := by
  induction hDotted with
  | word hWord => exact fun c hChar => .inl (hWord.plain c hChar)
  | dot hWord _ ih =>
      refine List.forall_mem_append.mpr ⟨?_, ?_⟩
      · exact fun c hChar => .inl (hWord.plain c hChar)
      · exact List.forall_mem_cons.mpr ⟨.inr rfl, ih⟩

theorem IsQuoted.at_not_mem (hQuoted : IsQuoted text) :
    '@' ∉ text := by
  rcases hQuoted with ⟨inner, ⟨_, hInner⟩, rfl⟩
  have hNone : '@' ∉ inner := by
    intro hSign
    rcases hInner '@' hSign with hWord | hBlank
    · exact hWord.not_mem (by simp)
    · exact absurd hBlank (by decide)
  simpa using hNone

theorem IsLocalPart.at_not_mem (hLocal : IsLocalPart text) :
    '@' ∉ text := by
  cases hLocal with
  | dotted hDotted => exact not_mem_of_plain hDotted.plain (by simp)
  | quoted hQuoted => exact hQuoted.at_not_mem
  | both hQuoted hDotted =>
      rw [List.mem_append, not_or]
      refine ⟨hQuoted.at_not_mem, ?_⟩
      exact not_mem_of_plain hDotted.plain (by simp)

theorem IsDotted.nonempty (hDotted : IsDotted text) :
    text ≠ [] := by
  cases hDotted with
  | word hWord => exact hWord.nonempty
  | dot _ _ => simp

theorem IsLocalPart.nonempty (hLocal : IsLocalPart text) :
    text ≠ [] := by
  cases hLocal with
  | dotted hDotted => exact hDotted.nonempty
  | quoted hQuoted =>
      rcases hQuoted with ⟨_, _, rfl⟩
      simp
  | both _ hDotted => simp [hDotted.nonempty]

end Rule

end BuildForm

------------------------------------------------------------
-- Named Domains
------------------------------------------------------------

namespace BuildForm

namespace Rule

open Pattern

/- Letters, from `low` up to `high` of them. -/
structure IsLetters
    (low high : Nat)
    (text : List Char) : Prop where
  letters : ∀ c ∈ text, IsLetter c
  long : low ≤ text.length
  short : text.length ≤ high

/- What a named domain ends with. -/
inductive IsTopLevel : List Char → Prop where
  | plain {top : List Char} : IsLetters 2 6 top → IsTopLevel top
  | country {top country : List Char} :
      IsLetters 2 6 top →
      IsLetters 2 2 country →
      IsTopLevel (top ++ '.' :: country)

/- The last label before the top level. -/
structure IsLastLabel (text : List Char) : Prop
    extends IsWord text where
  start : text.head? ≠ some '-'
  short : text.length ≤ 67

/- Labels and a top level, with dots between them. -/
inductive IsDomainName : List Char → Prop where
  | last {label top : List Char} :
      IsLastLabel label →
      IsTopLevel top →
      IsDomainName (label ++ '.' :: top)
  | label {label rest : List Char} :
      IsWord label →
      IsDomainName rest →
      IsDomainName (label ++ '.' :: rest)

variable {text after : List Char}

theorem matches_letters_iff {low extra : Nat} :
    Matches (.between (.one CharSet.foldedLetters) low extra)
        text after ↔
      IsLetters low (low + extra) text := by
  simp only [matches_between_one_iff, contains_foldedLetters_iff]
  constructor
  · rintro ⟨hLong, hShort, hLetters⟩
    exact ⟨hLetters, hLong, hShort⟩
  · rintro ⟨hLetters, hLong, hShort⟩
    exact ⟨hLong, hShort, hLetters⟩

theorem matches_countryLetters_iff :
    Matches (.times (.one CharSet.foldedLetters) 2) text after ↔
      IsLetters 2 2 text := by
  simp only [matches_times_one_iff, contains_foldedLetters_iff]
  constructor
  · rintro ⟨hLength, hLetters⟩
    exact ⟨hLetters, by omega, by omega⟩
  · rintro ⟨hLetters, hLong, hShort⟩
    exact ⟨by omega, hLetters⟩

/- The pattern of the last two labels and what follows them. -/
def topPattern : Pattern :=
  .seq (.between (.one CharSet.foldedLetters) 2 4)
    (.optional
      (.seq (.exactly ".")
        (.times (.one CharSet.foldedLetters) 2)))

def lastLabelPattern : Pattern :=
  .seq (.one labelStartChars) (.atMost (.one wordChars) 66)

theorem matches_topPattern_iff :
    Matches topPattern text after ↔ IsTopLevel text := by
  simp only [topPattern, matches_seq_iff, matches_letters_iff,
    matches_optional_iff, ↓matches_seq_exactly_iff,
    matches_countryLetters_iff]
  constructor
  · rintro ⟨top, _, rfl, hTop, ⟨country, rfl, hCountry⟩ | rfl⟩
    · exact .country hTop hCountry
    · rw [List.append_nil]
      exact .plain hTop
  · intro hLevel
    cases hLevel with
    | plain hTop => exact ⟨text, [], by simp, hTop, .inr rfl⟩
    | @country top country hTop hCountry =>
        exact
          ⟨top, '.' :: country, rfl, hTop,
            .inl ⟨country, rfl, hCountry⟩⟩

theorem isLastLabel_cons_iff {c : Char} :
    IsLastLabel (c :: text) ↔
      (IsWordChar c ∧ c ≠ '-') ∧
        text.length ≤ 66 ∧ ∀ d ∈ text, IsWordChar d := by
  constructor
  · rintro ⟨⟨_, hPlain⟩, hStart, hShort⟩
    rcases List.forall_mem_cons.mp hPlain with ⟨hFirst, hRest⟩
    rw [List.length_cons] at hShort
    exact
      ⟨⟨hFirst, by simpa using hStart⟩, by omega, hRest⟩
  · rintro ⟨⟨hFirst, hStart⟩, hShort, hRest⟩
    exact
      { nonempty := List.cons_ne_nil c text
        plain := List.forall_mem_cons.mpr ⟨hFirst, hRest⟩
        start := by simpa using hStart
        short := by
          rw [List.length_cons]
          omega }

theorem matches_lastLabelPattern_iff :
    Matches lastLabelPattern text after ↔ IsLastLabel text := by
  simp only [lastLabelPattern, matches_seq_iff, matches_one_iff,
    matches_atMost_one_iff, contains_labelStartChars_iff,
    contains_wordChars_iff]
  constructor
  · rintro ⟨_, rest, rfl, ⟨c, hStart, rfl⟩, hRest⟩
    exact isLastLabel_cons_iff.mpr ⟨hStart, hRest⟩
  · intro hLabel
    cases text with
    | nil => exact absurd rfl hLabel.nonempty
    | cons c text =>
        rcases isLastLabel_cons_iff.mp hLabel with ⟨hStart, hRest⟩
        exact ⟨[c], text, rfl, ⟨c, hStart, rfl⟩, hRest⟩

/- The labels before the last one fall into parts. -/
theorem isDomainName_flatten
    {label top : List Char}
    {parts : List (List Char)}
    (hParts :
      ∀ part ∈ parts, ∃ word, IsWord word ∧ part = word ++ ['.'])
    (hLabel : IsLastLabel label)
    (hTop : IsTopLevel top) :
    IsDomainName (parts.flatten ++ (label ++ '.' :: top)) := by
  induction parts with
  | nil => exact .last hLabel hTop
  | cons part parts ih =>
      rcases List.forall_mem_cons.mp hParts with
        ⟨⟨word, hWord, rfl⟩, hOthers⟩
      simpa using IsDomainName.label hWord (ih hOthers)

theorem IsDomainName.exists_parts (hDomain : IsDomainName text) :
    ∃ (parts : List (List Char)) (label top : List Char),
      (∀ part ∈ parts, ∃ word, IsWord word ∧ part = word ++ ['.']) ∧
        IsLastLabel label ∧
        IsTopLevel top ∧
        text = parts.flatten ++ (label ++ '.' :: top) := by
  induction hDomain with
  | last hLabel hTop =>
      exact ⟨[], _, _, by simp, hLabel, hTop, rfl⟩
  | @label word _ hWord _ ih =>
      rcases ih with ⟨parts, label, top, hParts, hLabel, hTop, rfl⟩
      refine
        ⟨(word ++ ['.']) :: parts, label, top, ?_, hLabel, hTop,
          by simp⟩
      exact List.forall_mem_cons.mpr ⟨⟨word, hWord, rfl⟩, hParts⟩

theorem domainName_eq :
    domainName =
      .seq
        (.many
          (.seq (.oneOrMore (.one wordChars)) (.exactly ".")))
        (.seq (.one labelStartChars)
          (.seq (.atMost (.one wordChars) 66)
            (.seq (.exactly ".") topPattern))) :=
  rfl

theorem matches_domainName_iff :
    Matches domainName text after ↔ IsDomainName text := by
  have hPart :
      ∀ {text after},
        Matches
            (.seq (.oneOrMore (.one wordChars)) (.exactly "."))
            text after ↔
          ∃ word, IsWord word ∧ text = word ++ ['.'] := by
    intro text after
    simp only [matches_seq_iff, matches_word_iff,
      matches_exactly_iff]
    constructor
    · rintro ⟨word, _, rfl, hWord, rfl⟩
      exact ⟨word, hWord, rfl⟩
    · rintro ⟨word, hWord, rfl⟩
      exact ⟨word, ['.'], rfl, hWord, rfl⟩
  have hLast :
      ∀ {text after},
        Matches
            (.seq (.one labelStartChars)
              (.seq (.atMost (.one wordChars) 66)
                (.seq (.exactly ".") topPattern)))
            text after ↔
          ∃ label top,
            text = label ++ '.' :: top ∧
              IsLastLabel label ∧ IsTopLevel top := by
    intro text after
    rw [← matches_seq_assoc_iff, matches_seq_iff]
    simp only [matches_seq_exactly_iff, matches_topPattern_iff]
    constructor
    · rintro ⟨label, _, rfl, hLabel, top, rfl, hTop⟩
      exact
        ⟨label, top, rfl, matches_lastLabelPattern_iff.mp hLabel,
          hTop⟩
    · rintro ⟨label, top, rfl, hLabel, hTop⟩
      exact
        ⟨label, '.' :: top, rfl,
          matches_lastLabelPattern_iff.mpr hLabel, top, rfl, hTop⟩
  rw [domainName_eq, matches_seq_iff]
  simp only [matches_many_iff hPart, hLast]
  constructor
  · rintro ⟨_, _, rfl, ⟨parts, hParts, rfl⟩, label, top, rfl,
      hLabel, hTop⟩
    exact isDomainName_flatten hParts hLabel hTop
  · intro hName
    rcases hName.exists_parts with
      ⟨parts, label, top, hParts, hLabel, hTop, rfl⟩
    exact
      ⟨_, _, rfl, ⟨parts, hParts, rfl⟩, label, top, rfl, hLabel,
        hTop⟩

/- A named domain is made of words and dots. -/
theorem IsDomainName.plain
    (hDomain : IsDomainName text) :
    ∀ c ∈ text, IsWordChar c ∨ c = '.' := by
  have hJoined :
      ∀ label rest : List Char,
        (∀ c ∈ label, IsWordChar c) →
        (∀ c ∈ rest, IsWordChar c ∨ c = '.') →
        ∀ c ∈ label ++ '.' :: rest, IsWordChar c ∨ c = '.' := by
    intro label rest hLabel hRest
    refine List.forall_mem_append.mpr ⟨?_, ?_⟩
    · exact fun c hChar => .inl (hLabel c hChar)
    · exact List.forall_mem_cons.mpr ⟨.inr rfl, hRest⟩
  have hLetters :
      ∀ low high (text : List Char),
        IsLetters low high text → ∀ c ∈ text, IsWordChar c :=
    fun _ _ _ hText c hChar => .inl (.inl (hText.letters c hChar))
  induction hDomain with
  | last hLabel hTop =>
      apply hJoined _ _ hLabel.plain
      cases hTop with
      | plain hTop =>
          exact fun c hChar => .inl (hLetters _ _ _ hTop c hChar)
      | country hTop hCountry =>
          apply hJoined _ _ (hLetters _ _ _ hTop)
          exact fun c hChar => .inl (hLetters _ _ _ hCountry c hChar)
  | label hLabel _ ih => exact hJoined _ _ hLabel.plain ih

/- A letter stands in its top level. -/
theorem IsDomainName.exists_letter
    (hDomain : IsDomainName text) :
    ∃ c ∈ text, IsLetter c := by
  have hSome :
      ∀ text : List Char,
        IsLetters 2 6 text → ∃ c ∈ text, IsLetter c := by
    rintro text ⟨hLetters, hLong, _⟩
    cases text with
    | nil => exact absurd hLong (by simp)
    | cons c text => exact ⟨c, by simp, hLetters c (by simp)⟩
  induction hDomain with
  | last _ hTop =>
      cases hTop with
      | plain hTop =>
          rcases hSome _ hTop with ⟨c, hChar, hLetter⟩
          exact ⟨c, by simp [hChar], hLetter⟩
      | country hTop _ =>
          rcases hSome _ hTop with ⟨c, hChar, hLetter⟩
          exact ⟨c, by simp [hChar], hLetter⟩
  | label _ _ ih =>
      rcases ih with ⟨c, hChar, hLetter⟩
      exact ⟨c, by simp [hChar], hLetter⟩

end Rule

end BuildForm

------------------------------------------------------------
-- Numeric Hosts
------------------------------------------------------------

namespace BuildForm

namespace Rule

open Pattern

/-
  A number up to 255 of at most three digits, of which a
  number of three has no zero in front.
-/
structure IsOctet (text : List Char) : Prop where
  nonempty : text ≠ []
  digits : ∀ c ∈ text, Text.isAsciiDigit c
  short : text.length ≤ 3
  bounded : Text.natOfDigits text ≤ 255
  unpadded : text.length = 3 → text.head? ≠ some '0'

/- Four numbers, in brackets that may each be left out. -/
def IsNumericHost (text : List Char) : Prop :=
  ∃ front first second third fourth back,
    (front = ['['] ∨ front = []) ∧
      IsOctet first ∧ IsOctet second ∧
      IsOctet third ∧ IsOctet fourth ∧
      (back = [']'] ∨ back = []) ∧
      text =
        front ++
          (first ++ '.' ::
            (second ++ '.' :: (third ++ '.' :: (fourth ++ back))))

variable {text after : List Char}

theorem matches_digitFrom_iff {low high : Char} :
    Matches (digitFrom low high) text after ↔
      ∃ c, (low ≤ c ∧ c ≤ high) ∧ text = [c] := by
  simp [digitFrom, matches_one_iff, CharSet.contains]

theorem natOfDigits_triple (a b c : Char) :
    Text.natOfDigits [a, b, c] =
      100 * Text.digitValue a + 10 * Text.digitValue b +
        Text.digitValue c := by
  simp only [Text.natOfDigits, List.foldl_cons, List.foldl_nil]
  omega

theorem octet_eq :
    octet =
      .alt (.seq (.exactly "25") (digitFrom '0' '5'))
        (.alt
          (.seq (.exactly "2")
            (.seq (digitFrom '0' '4') (digitFrom '0' '9')))
          (.alt
            (.seq (.exactly "1")
              (.times (.one { ranges := [('0', '9')] }) 2))
            (.between (.one { ranges := [('0', '9')] }) 1 1))) :=
  rfl

theorem contains_digitRange_iff {c : Char} :
    CharSet.contains { ranges := [('0', '9')] } c ↔
      Text.isAsciiDigit c := by
  simp [CharSet.contains, Text.isAsciiDigit]

/- Two characters of which each is of a kind of its own. -/
theorem exists_pair_iff {IsFirst IsSecond : Char → Prop} :
    (∃ head tail,
        text = head ++ tail ∧
          (∃ c, IsFirst c ∧ head = [c]) ∧
          ∃ c, IsSecond c ∧ tail = [c]) ↔
      ∃ a b, (IsFirst a ∧ IsSecond b) ∧ text = [a, b] := by
  constructor
  · rintro ⟨_, _, rfl, ⟨a, hFirst, rfl⟩, b, hSecond, rfl⟩
    exact ⟨a, b, ⟨hFirst, hSecond⟩, rfl⟩
  · rintro ⟨a, b, ⟨hFirst, hSecond⟩, rfl⟩
    exact ⟨[a], [b], rfl, ⟨a, hFirst, rfl⟩, b, hSecond, rfl⟩

theorem le_digit_iff
    {high c : Char}
    (hHigh : Text.isAsciiDigit high) :
    ('0' ≤ c ∧ c ≤ high) ↔
      Text.isAsciiDigit c ∧
        Text.digitValue c ≤ Text.digitValue high := by
  rcases Text.isAsciiDigit_iff.mp hHigh with ⟨hLow, hTop⟩
  have hZero : '0'.toNat = 48 := rfl
  simp only [Text.isAsciiDigit_iff, Text.digitValue, Char.le_def,
    UInt32.le_iff_toNat_le, Char.toNat_val, hZero]
  omega

/- What makes three digits a number that an octet may be. -/
theorem isOctet_triple_iff {a b c : Char} :
    IsOctet [a, b, c] ↔
      (Text.isAsciiDigit a ∧ Text.isAsciiDigit b ∧
          Text.isAsciiDigit c) ∧
        a ≠ '0' ∧
        100 * Text.digitValue a + 10 * Text.digitValue b +
          Text.digitValue c ≤ 255 := by
  rw [← natOfDigits_triple]
  constructor
  · intro hOctet
    exact
      ⟨by simpa using hOctet.digits,
        by simpa using hOctet.unpadded rfl, hOctet.bounded⟩
  · rintro ⟨hDigits, hStart, hBound⟩
    exact
      { nonempty := by simp
        digits := by simpa using hDigits
        short := by simp
        bounded := hBound
        unpadded := fun _ => by simpa using hStart }

/- The bound, digit by digit. -/
theorem isOctet_triple_iff_cases {a b c : Char} :
    IsOctet [a, b, c] ↔
      (Text.isAsciiDigit a ∧ Text.isAsciiDigit b ∧
          Text.isAsciiDigit c) ∧
        (a = '1' ∨
          a = '2' ∧ Text.digitValue b ≤ 4 ∨
          a = '2' ∧ b = '5' ∧ Text.digitValue c ≤ 5) := by
  rw [isOctet_triple_iff, and_congr_right_iff]
  rintro ⟨hFirst, hSecond, hThird⟩
  have hMiddle := (Text.digits_digitValue hSecond).1
  have hLast := (Text.digits_digitValue hThird).1
  rw [ne_eq, ← Text.digitValue_inj_iff hFirst rfl,
    ← Text.digitValue_inj_iff hFirst rfl,
    ← Text.digitValue_inj_iff hFirst rfl,
    ← Text.digitValue_inj_iff hSecond rfl]
  have hValues :
      Text.digitValue '0' = 0 ∧ Text.digitValue '1' = 1 ∧
        Text.digitValue '2' = 2 ∧ Text.digitValue '5' = 5 :=
    ⟨rfl, rfl, rfl, rfl⟩
  omega

/- Fewer digits than three are always one. -/
theorem isOctet_of_short
    (hNonempty : text ≠ [])
    (hDigits : ∀ c ∈ text, Text.isAsciiDigit c)
    (hShort : text.length ≤ 2) :
    IsOctet text := by
  have hBound : Text.natOfDigits text ≤ 255 := by
    have hSmall :
        ∀ c ∈ text, Text.digitValue c < 10 :=
      fun c hChar => (Text.digits_digitValue (hDigits c hChar)).1
    match text, hShort with
    | [], _ => exact Nat.zero_le _
    | [a], _ =>
        simp only [List.forall_mem_singleton] at hSmall
        simp only [Text.natOfDigits, List.foldl_cons, List.foldl_nil]
        omega
    | [a, b], _ =>
        have hFirst := hSmall a (by simp)
        have hSecond := hSmall b (by simp)
        simp only [Text.natOfDigits, List.foldl_cons, List.foldl_nil]
        omega
  exact
    { nonempty := hNonempty
      digits := hDigits
      short := by omega
      bounded := hBound
      unpadded := fun hLength => by omega }

theorem matches_octet_iff :
    Matches octet text after ↔ IsOctet text := by
  have hDigits :
      Text.isAsciiDigit '5' ∧ Text.isAsciiDigit '4' ∧
        Text.isAsciiDigit '9' :=
    ⟨rfl, rfl, rfl⟩
  simp only [octet_eq, matches_alt_iff, ↓matches_seq_exactly_iff,
    matches_digitFrom_iff, matches_seq_iff, exists_pair_iff,
    matches_times_one_iff, matches_between_one_iff,
    contains_digitRange_iff, le_digit_iff hDigits.1,
    le_digit_iff hDigits.2.1, le_digit_iff hDigits.2.2]
  constructor
  · rintro (⟨_, rfl, c, ⟨hThird, hLast⟩, rfl⟩ |
      ⟨_, rfl, b, c, ⟨⟨hSecond, hMiddle⟩, hThird, -⟩, rfl⟩ |
      ⟨tail, rfl, hLength, hTail⟩ | ⟨hLong, hShort, hText⟩)
    · exact
        isOctet_triple_iff_cases.mpr
          ⟨⟨rfl, rfl, hThird⟩, .inr (.inr ⟨rfl, rfl, hLast⟩)⟩
    · exact
        isOctet_triple_iff_cases.mpr
          ⟨⟨rfl, hSecond, hThird⟩, .inr (.inl ⟨rfl, hMiddle⟩)⟩
    · rcases List.length_eq_two.mp hLength with ⟨b, c, rfl⟩
      exact
        isOctet_triple_iff_cases.mpr
          ⟨⟨rfl, hTail b (by simp), hTail c (by simp)⟩, .inl rfl⟩
    · have hNonempty := List.length_pos_iff.mp hLong
      exact isOctet_of_short hNonempty hText hShort
  · intro hOctet
    by_cases hShort : text.length ≤ 2
    · have hLong := List.length_pos_iff.mpr hOctet.nonempty
      exact .inr (.inr (.inr ⟨hLong, hShort, hOctet.digits⟩))
    · have hLength : text.length = 3 := by
        have hBound := hOctet.short
        omega
      rcases List.length_eq_three.mp hLength with ⟨a, b, c, rfl⟩
      rcases isOctet_triple_iff_cases.mp hOctet with
        ⟨⟨-, hSecond, hThird⟩, rfl | ⟨rfl, hMiddle⟩ |
          ⟨rfl, rfl, hLast⟩⟩
      · refine .inr (.inr (.inl ⟨[b, c], rfl, rfl, ?_⟩))
        simpa using ⟨hSecond, hThird⟩
      · have hSmall := (Text.digits_digitValue hThird).1
        exact
          .inr (.inl ⟨[b, c], rfl, b, c,
            ⟨⟨hSecond, hMiddle⟩, hThird, Nat.le_of_lt_succ hSmall⟩,
            rfl⟩)
      · exact .inl ⟨[c], rfl, c, ⟨hThird, hLast⟩, rfl⟩

theorem numericHost_eq :
    numericHost =
      .seq (.optional (.exactly "["))
        (.seq (.seq octet (.exactly "."))
          (.seq
            (.seq (.seq octet (.exactly "."))
              (.seq (.seq octet (.exactly ".")) .empty))
            (.seq octet (.optional (.exactly "]"))))) :=
  rfl

theorem matches_numericHost_iff :
    Matches numericHost text after ↔ IsNumericHost text := by
  simp only [numericHost_eq, matches_seq_iff, matches_optional_iff,
    matches_exactly_iff, matches_octet_iff, matches_empty_iff]
  constructor
  · rintro ⟨front, _, rfl, hFront, _, _, rfl,
      ⟨first, _, rfl, hFirst, rfl⟩, _, _, rfl,
      ⟨_, _, rfl, ⟨second, _, rfl, hSecond, rfl⟩, _, _, rfl,
        ⟨third, _, rfl, hThird, rfl⟩, rfl⟩,
      fourth, back, rfl, hFourth, hBack⟩
    exact
      ⟨front, first, second, third, fourth, back, hFront, hFirst,
        hSecond, hThird, hFourth, hBack, by simp⟩
  · rintro ⟨front, first, second, third, fourth, back, hFront,
      hFirst, hSecond, hThird, hFourth, hBack, rfl⟩
    exact
      ⟨front, _, rfl, hFront, first ++ ['.'],
        (second ++ ['.'] ++ (third ++ ['.'])) ++ (fourth ++ back),
        by simp, ⟨first, _, rfl, hFirst, rfl⟩,
        second ++ ['.'] ++ (third ++ ['.']), fourth ++ back, rfl,
        ⟨second ++ ['.'], third ++ ['.'], rfl,
          ⟨second, _, rfl, hSecond, rfl⟩, third ++ ['.'], [],
          by simp, ⟨third, _, rfl, hThird, rfl⟩, rfl⟩,
        fourth, back, rfl, hFourth, hBack⟩

/- Digits, dots and brackets are all that a host has. -/
theorem IsNumericHost.plain
    (hHost : IsNumericHost text) :
    ∀ c ∈ text, Text.isAsciiDigit c ∨ c ∈ ['.', '[', ']'] := by
  rcases hHost with
    ⟨front, first, second, third, fourth, back, hFront, hFirst,
      hSecond, hThird, hFourth, hBack, rfl⟩
  have hNumber :
      ∀ number,
        IsOctet number →
        ∀ c ∈ number, Text.isAsciiDigit c ∨ c ∈ ['.', '[', ']'] :=
    fun _ hNumber c hChar => .inl (hNumber.digits c hChar)
  simp only [List.forall_mem_append, List.forall_mem_cons]
  refine
    ⟨?_, hNumber _ hFirst, by simp, hNumber _ hSecond, by simp,
      hNumber _ hThird, by simp, hNumber _ hFourth, ?_⟩
  · rcases hFront with rfl | rfl
    · simp
    · simp
  · rcases hBack with rfl | rfl
    · simp
    · simp

theorem IsNumericHost.at_not_mem (hHost : IsNumericHost text) :
    '@' ∉ text := by
  intro hSign
  rcases hHost.plain '@' hSign with hDigit | hOther
  · exact absurd hDigit (by decide)
  · exact absurd hOther (by decide)

/- A numeric host is no domain with a name. -/
theorem IsNumericHost.not_isDomainName
    (hHost : IsNumericHost text) :
    ¬IsDomainName text := by
  intro hDomain
  rcases hDomain.exists_letter with ⟨c, hChar, hLetter⟩
  rcases hHost.plain c hChar with hDigit | hOther
  · rcases Text.isAsciiDigit_iff.mp hDigit with ⟨hLow, hHigh⟩
    rcases hLetter with hAlpha | hFolded
    · rcases Text.isAlpha_iff.mp hAlpha with hUpper | hLower
      · omega
      · omega
    · rcases List.mem_pair.mp hFolded with rfl | rfl
      · exact absurd hHigh (by decide)
      · exact absurd hHigh (by decide)
  · have hNone : ∀ d ∈ ['.', '[', ']'], ¬IsLetter d := by
      simp [IsLetter]
    exact hNone c hOther hLetter

end Rule

end BuildForm

------------------------------------------------------------
-- Addresses
------------------------------------------------------------

namespace BuildForm

namespace Rule

open Pattern

variable {before domain : List Char}

/- An address is a local part at a name, or ends in a host. -/
theorem isMail_iff (value : String) :
    isMail value ↔
      ∃ before domain,
        value.toList = before ++ '@' :: domain ∧
          (IsLocalPart before ∧ IsDomainName domain ∨
            IsNumericHost domain) := by
  have hNamed :
      Matches namedMail value.toList [] ↔
        ∃ before domain,
          value.toList = before ++ '@' :: domain ∧
            IsLocalPart before ∧ IsDomainName domain := by
    simp only [namedMail, inOrder, matches_seq_iff,
      ↓matches_seq_exactly_iff, ↓matches_seq_textEnd_iff,
      matches_localPart_iff, matches_domainName_iff, and_true]
    constructor
    · rintro ⟨before, _, hValue, hLocal, domain, rfl, hDomain⟩
      exact ⟨before, domain, hValue, hLocal, hDomain⟩
    · rintro ⟨before, domain, hValue, hLocal, hDomain⟩
      exact ⟨before, _, hValue, hLocal, domain, rfl, hDomain⟩
  have hNumbered :
      Matches numberedMail value.toList [] ↔
        ∃ before host,
          value.toList = before ++ '@' :: host ∧
            IsNumericHost host := by
    simp only [numberedMail, inOrder, matches_atEndOf_iff,
      ↓matches_seq_exactly_iff, ↓matches_seq_textEnd_iff,
      matches_numericHost_iff, and_true]
    constructor
    · rintro ⟨before, _, hValue, host, rfl, hHost⟩
      exact ⟨before, host, hValue, hHost⟩
    · rintro ⟨before, host, hValue, hHost⟩
      exact ⟨before, _, hValue, host, rfl, hHost⟩
  rw [isMail, accepts_iff, matches_alt_iff, hNamed, hNumbered]
  simp only [and_or_left, exists_or]

/- A text has one reading with the sign only in front. -/
theorem split_at_last_sign
    {other rest : List Char}
    (hDomain : '@' ∉ domain)
    (hRest : '@' ∉ rest)
    (hSame : before ++ '@' :: domain = other ++ '@' :: rest) :
    before = other ∧ domain = rest := by
  -- What one reading has more in front would hold the sign.
  rcases List.append_eq_append_iff.mp hSame with
    ⟨middle, rfl, hMiddle⟩ | ⟨middle, rfl, hMiddle⟩
  · rcases List.cons_eq_append_iff.mp hMiddle with
      ⟨rfl, hEnd⟩ | ⟨middle, rfl, rfl⟩
    · exact ⟨by simp, (List.cons_inj_right '@').mp hEnd.symm⟩
    · exact absurd (by simp) hDomain
  · rcases List.cons_eq_append_iff.mp hMiddle with
      ⟨rfl, hEnd⟩ | ⟨middle, rfl, rfl⟩
    · exact ⟨by simp, (List.cons_inj_right '@').mp hEnd⟩
    · exact absurd (by simp) hRest

theorem IsDomainName.at_not_mem (hDomain : IsDomainName domain) :
    '@' ∉ domain :=
  not_mem_of_plain hDomain.plain (by simp)

/- At a named domain, what stands before the sign counts. -/
theorem isMail_at_domain_iff
    {value : String}
    (hText : value.toList = before ++ '@' :: domain)
    (hDomain : IsDomainName domain) :
    isMail value ↔ IsLocalPart before := by
  rw [isMail_iff, hText]
  constructor
  · rintro ⟨other, rest, hSame, ⟨hLocal, hRest⟩ | hHost⟩
    · rcases split_at_last_sign hDomain.at_not_mem hRest.at_not_mem
        hSame with ⟨rfl, rfl⟩
      exact hLocal
    · rcases split_at_last_sign hDomain.at_not_mem hHost.at_not_mem
        hSame with ⟨rfl, rfl⟩
      exact absurd hDomain hHost.not_isDomainName
  · intro hLocal
    exact ⟨before, domain, rfl, .inl ⟨hLocal, hDomain⟩⟩

/-
  An address is a text with the sign in it and a domain behind
  its last one. At a named domain the whole text in front is
  a local part. At a numeric host any text may stand in front,
  so that an address has a local part, which is not empty,
  exactly unless it is at such a host without one.
-/
theorem local_parts_at_named_domains (value : String) :
    (isMail value ↔
        ∃ before domain,
          value.toList = before ++ '@' :: domain ∧
            (IsLocalPart before ∧ IsDomainName domain ∨
              IsNumericHost domain)) ∧
      (∀ before domain,
        value.toList = before ++ '@' :: domain →
        IsDomainName domain →
        (isMail value ↔ IsLocalPart before)) ∧
      ((isMail value →
          ∃ before domain,
            value.toList = before ++ '@' :: domain ∧
              (IsLocalPart before ∧ before ≠ []) ∧
              (IsDomainName domain ∨ IsNumericHost domain)) ↔
        ∀ before host,
          value.toList = before ++ '@' :: host →
          IsNumericHost host →
          IsLocalPart before) := by
  refine
    ⟨isMail_iff value, fun _ _ => isMail_at_domain_iff, ?_⟩
  constructor
  · intro hParted before host hText hHost
    have hMail : isMail value :=
      (isMail_iff value).mpr ⟨before, host, hText, .inr hHost⟩
    rcases hParted hMail with
      ⟨other, domain, hOther, ⟨hLocal, -⟩, hDomain⟩
    have hSign : '@' ∉ domain := by
      rcases hDomain with hNamed | hNumeric
      · exact hNamed.at_not_mem
      · exact hNumeric.at_not_mem
    have hSame := hText.symm.trans hOther
    rw [(split_at_last_sign hHost.at_not_mem hSign hSame).1]
    exact hLocal
  · intro hHosts hMail
    rcases (isMail_iff value).mp hMail with
      ⟨before, domain, hText, ⟨hLocal, hNamed⟩ | hHost⟩
    · exact
        ⟨before, domain, hText, ⟨hLocal, hLocal.nonempty⟩,
          .inl hNamed⟩
    · have hLocal := hHosts before domain hText hHost
      exact
        ⟨before, domain, hText, ⟨hLocal, hLocal.nonempty⟩,
          .inr hHost⟩

/- A quoted name at a domain, and nothing at a host. -/
theorem local_parts_at_named_domains_both :
    isMail "\"john doe\"@example.com" ∧ isMail "@1.2.3.4" := by
  have hDomain : IsDomainName "example.com".toList := by
    have hLabel : IsLastLabel "example".toList :=
      { nonempty := by simp
        plain := by simp [IsWordChar, IsLetter]
        start := by simp
        short := by simp }
    have hTop : IsLetters 2 6 "com".toList :=
      ⟨by simp [IsLetter], by simp, by simp⟩
    exact .last hLabel (.plain hTop)
  have hHost : IsNumericHost "1.2.3.4".toList := by
    have hOctet :
        ∀ c, Text.isAsciiDigit c → IsOctet [c] :=
      fun c hDigit => isOctet_of_short (by simp) (by simpa) (by simp)
    exact
      ⟨[], ['1'], ['2'], ['3'], ['4'], [], .inr rfl, hOctet _ rfl,
        hOctet _ rfl, hOctet _ rfl, hOctet _ rfl, .inr rfl, rfl⟩
  have hInner :
      ∀ c ∈ "john doe".toList, IsWordChar c ∨ Text.isBlank c := by
    simp [IsWordChar, IsLetter, Text.isBlank, Text.blankRanges]
  have hLocal : IsLocalPart "\"john doe\"".toList :=
    .quoted ⟨"john doe".toList, ⟨by simp, hInner⟩, rfl⟩
  have hQuoted :=
    local_parts_at_named_domains "\"john doe\"@example.com"
  have hBare := local_parts_at_named_domains "@1.2.3.4"
  exact
    ⟨(hQuoted.2.1 _ _ (by decide) hDomain).mpr hLocal,
      hBare.1.mpr ⟨[], _, rfl, .inr hHost⟩⟩

/- Not every address has a local part. -/
theorem not_every_mail_has_local_part :
    ¬∀ value,
      isMail value →
      ∃ before domain,
        value.toList = before ++ '@' :: domain ∧
          IsLocalPart before := by
  intro hEvery
  have hMail : isMail "@1.2.3.4" := by decide
  rcases hEvery "@1.2.3.4" hMail with
    ⟨before, domain, hValue, hLocal⟩
  have hFront :
      [] ++ '@' :: "1.2.3.4".toList = before ++ '@' :: domain :=
    hValue
  rw [List.append_cons_inj_of_notMem (by simp) (by simp)] at hFront
  exact hLocal.nonempty hFront.1.symm

end Rule

end BuildForm
