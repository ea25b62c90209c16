import BuildForm.Text.Search

/-
  Wrapping ASCII text into lines of a width so that the gaps
  at the line ends are as even as possible.

  Key definitions include:
    * `Wrap.BreakClass`
    * `Wrap.mayBreak`
    * `Wrap.Word`
    * `Wrap.words`
    * `Wrap.lineCost`
    * `Wrap.bestBreaks`
    * `Wrap.wrap`
-/

namespace BuildForm

namespace Wrap

------------------------------------------------------------
-- Line Breaking Classes
------------------------------------------------------------

/- Classes of characters for breaking lines, after UAX #14. -/
inductive BreakClass where
  | alphabetic
  | numeric
  | opening
  | closing
  | closingParenthesis
  | exclamation
  | infixSeparator
  | slash
  | quotation
  | hyphen
  | breakAfter
  | numberBefore
  | numberAfter
  | combining
  | hardBreak
  | space
deriving DecidableEq, Repr

/- The class of an ASCII character; others are alphabetic. -/
def breakClass (c : Char) : BreakClass :=
  if '0' ≤ c ∧ c ≤ '9' then .numeric
  else if c = ' ' then .space
  else if c = '\t' ∨ c = '|' then .breakAfter
  else if c = '\x0b' ∨ c = '\x0c' ∨ c = '\r' then .hardBreak
  else if c.toNat < 0x20 ∨ c.toNat = 0x7F then .combining
  else if c = '!' ∨ c = '?' then .exclamation
  else if c = '"' ∨ c = '\'' then .quotation
  else if c = '$' ∨ c = '+' ∨ c = '\\' then .numberBefore
  else if c = '%' then .numberAfter
  else if c = '(' ∨ c = '[' ∨ c = '{' then .opening
  else if c = ')' ∨ c = ']' then .closingParenthesis
  else if c = '}' then .closing
  else if c = ',' ∨ c = '.' ∨ c = ':' ∨ c = ';' then
    .infixSeparator
  else if c = '-' then .hyphen
  else if c = '/' then .slash
  else .alphabetic

/- Classes before which no line begins, even after spaces. -/
def neverLeads : BreakClass → Bool
  | .closing | .closingParenthesis | .exclamation
  | .infixSeparator | .slash => true
  | _ => false

/- Neighbours that stay together as a word or a number. -/
def holdTogether :
    BreakClass → BreakClass → Bool
  | .quotation, _ => true
  | _, .quotation => true
  | _, .breakAfter => true
  | _, .hyphen => true
  | .alphabetic, .alphabetic => true
  | .alphabetic, .numeric => true
  | .numeric, .alphabetic => true
  | .numberBefore, .alphabetic => true
  | .numberAfter, .alphabetic => true
  | .alphabetic, .numberBefore => true
  | .alphabetic, .numberAfter => true
  | .closing, .numberAfter => true
  | .closing, .numberBefore => true
  | .closingParenthesis, .numberAfter => true
  | .closingParenthesis, .numberBefore => true
  | .numeric, .numberAfter => true
  | .numeric, .numberBefore => true
  | .numberAfter, .opening => true
  | .numberAfter, .numeric => true
  | .numberBefore, .opening => true
  | .numberBefore, .numeric => true
  | .hyphen, .numeric => true
  | .infixSeparator, .numeric => true
  | .numeric, .numeric => true
  | .slash, .numeric => true
  | .infixSeparator, .alphabetic => true
  | .alphabetic, .opening => true
  | .numeric, .opening => true
  | .closingParenthesis, .alphabetic => true
  | .closingParenthesis, .numeric => true
  | _, _ => false

/-
  Whether a line may end before a character. `before` is the
  class of the last character that is no space, if there is
  one, and `spaced` tells whether spaces follow it.
-/
def mayBreak
    (before : Option BreakClass)
    (spaced : Bool)
    (after : BreakClass) : Bool :=
  match before with
  | none => spaced && !neverLeads after
  | some before =>
      if after = .space ∨ after = .hardBreak then
        false
      else if before = .hardBreak then
        true
      else if neverLeads after then
        false
      else if before = .opening then
        false
      else if before = .quotation ∧ after = .opening then
        false
      else
        spaced || !holdTogether before after

------------------------------------------------------------
-- Words
------------------------------------------------------------

/- A part of a line that stays together, and spaces after it. -/
structure Word where
  chars : List Char
  spaces : Nat
deriving DecidableEq, Repr, Inhabited

/- How many columns a character takes. -/
def charWidth (c : Char) : Nat :=
  if c.toNat < 0x20 ∨ c.toNat = 0x7F then 0 else 1

def width (chars : List Char) : Nat :=
  chars.foldr (charWidth · + ·) 0

def Word.width (word : Word) : Nat :=
  Wrap.width word.chars

/-
  Cut a line where it may break, hyphens aside. `part` is what
  was read since the last cut, reversed.
-/
def segmentsFrom :
    (part : List Char) →
    (before : Option BreakClass) →
    (spaced : Bool) →
    List Char → List (List Char)
  | part, _, _, [] =>
      if part.isEmpty then [] else [part.reverse]
  | part, before, spaced, c :: rest =>
      let actual := breakClass c
      let attached :=
        actual = .combining && before.isSome && !spaced
      let after :=
        if actual = .combining then .alphabetic else actual
      if attached then
        segmentsFrom (c :: part) before false rest
      else if after = .space then
        segmentsFrom (c :: part) before true rest
      else if mayBreak before spaced after ∧
          part.head? ≠ some '-' then
        part.reverse ::
          segmentsFrom [c] (some after) false rest
      else
        segmentsFrom (c :: part) (some after) false rest

/- A segment with the spaces at its end apart. -/
def wordOf (segment : List Char) : Word :=
  let chars :=
    (segment.reverse.dropWhile (· = ' ')).reverse
  { chars, spaces := segment.length - chars.length }

/- One of the ASCII letters and digits. -/
def isAlphanumeric (c : Char) : Bool :=
  ('a' ≤ c && c ≤ 'z') || ('A' ≤ c && c ≤ 'Z') ||
    ('0' ≤ c && c ≤ '9')

/-
  Cut a word after each hyphen between two letters or digits.
  `part` is what was read since the last cut, reversed.
-/
def hyphenParts : List Char → List Char → List (List Char)
  | part, [] => [part.reverse]
  | part, '-' :: c :: rest =>
      let between :=
        part.head?.any isAlphanumeric && isAlphanumeric c
      if between then
        ('-' :: part).reverse :: hyphenParts [] (c :: rest)
      else
        hyphenParts ('-' :: part) (c :: rest)
  | part, c :: rest => hyphenParts (c :: part) rest

/-
  Cut a word into parts of at most `limit` columns. `part` is
  what was read since the last cut, reversed.
-/
def columnParts
    (limit : Nat) :
    (part : List Char) → Nat → List Char → List (List Char)
  | part, _, [] => [part.reverse]
  | part, used, c :: rest =>
      if 0 < used ∧ limit < used + charWidth c then
        part.reverse :: columnParts limit [c] (charWidth c) rest
      else
        columnParts limit (c :: part) (used + charWidth c) rest

/- Parts of a word, the spaces after it with the last one. -/
def withSpaces
    (spaces : Nat) : List (List Char) → List Word
  | [] => []
  | [chars] => [{ chars, spaces }]
  | chars :: rest =>
      { chars, spaces := 0 } :: withSpaces spaces rest

/- The words of a line, none of them wider than `limit`. -/
def words (limit : Nat) (line : List Char) : List Word :=
  let segments := segmentsFrom [] none false line
  let split := (segments.map wordOf).flatMap fun word =>
    withSpaces word.spaces (hyphenParts [] word.chars)
  split.flatMap fun word =>
    if limit < word.width then
      withSpaces word.spaces (columnParts limit [] 0 word.chars)
    else
      [word]

------------------------------------------------------------
-- Choosing the Breaks
------------------------------------------------------------

/-
  The cost of one more line that fills `used` of `limit`
  columns. Too wide a line is costly; a gap costs its square,
  but none at the end of the text, where only a very short
  line of a single word counts.
-/
def lineCost
    (limit used : Nat)
    (isLast isSingle : Bool) : Nat :=
  1000 +
    if limit < used then
      (used - limit) * 2500
    else if !isLast then
      (limit - used) * (limit - used)
    else if isSingle ∧ 4 * used < limit then
      25
    else
      0

/- A start of a last line and the cost of all lines with it. -/
structure Choice where
  start : Nat
  cost : Nat
deriving DecidableEq, Repr, Inhabited

/-
  The cheapest start of a line that ends before word `stop`.
  Of equal ones the earliest start wins.
-/
def bestStart
    (limit total : Nat)
    (offsets : Array Nat)
    (spaces : Nat)
    (choices : Array Choice)
    (stop : Nat) : Choice :=
  let costOf (start : Nat) : Choice :=
    let used :=
      offsets.getD stop 0 - offsets.getD start 0 - spaces
    let before := (choices.getD start ⟨0, 0⟩).cost
    { start
      cost := before +
        lineCost limit used (stop = total) (start + 1 = stop) }
  (List.range stop).foldl
    (fun best start =>
      let next := costOf start
      if next.cost < best.cost then next else best)
    (costOf 0)

/-
  The best start for every number of words, the empty text
  included.
-/
def bestBreaks
    (limit : Nat)
    (words : List Word) : Array Choice :=
  let offsets := words.foldl
    (fun (offsets : Array Nat) word =>
      offsets.push
        (offsets.back?.getD 0 + word.width + word.spaces))
    #[0]
  let total := words.length
  let step (choices : Array Choice) (word : Word) :=
    choices.push
      (bestStart limit total offsets word.spaces choices
        choices.size)
  words.foldl step #[⟨0, 0⟩]

/-
  The lines of words that end before word `stop`, latest line
  last. Each line starts earlier, so `stop` bounds the steps.
-/
def linesTo
    (words : List Word)
    (choices : Array Choice) :
    (steps stop : Nat) → List (List Word)
  | 0, _ => []
  | steps + 1, stop =>
      if stop = 0 then
        []
      else
        let start := (choices.getD stop ⟨0, 0⟩).start
        linesTo words choices steps start ++
          [(words.take stop).drop start]

/- The text of a line, without the spaces at its end. -/
def lineText : List Word → List Char
  | [] => []
  | [word] => word.chars
  | word :: rest =>
      word.chars ++ List.replicate word.spaces ' ' ++
        lineText rest

------------------------------------------------------------
-- Wrapping
------------------------------------------------------------

/- The bytes that a text takes in UTF-8. -/
def byteLength (chars : List Char) : Nat :=
  chars.foldr (Char.utf8Size · + ·) 0

/- The lines that one line is wrapped into. -/
def wrapLine
    (limit : Nat)
    (line : List Char) : List (List Char) :=
  if byteLength line < limit then
    [(line.reverse.dropWhile (· = ' ')).reverse]
  else
    let words := words limit line
    let choices := bestBreaks (max limit 1) words
    match linesTo words choices words.length words.length with
    | [] => [[]]
    | lines => lines.map lineText

/- The lines that a text is wrapped into. -/
def wrap (limit : Nat) (text : String) : List String :=
  ((text.toList.splitOn '\n').flatMap (wrapLine limit)).map
    String.ofList

end Wrap

end BuildForm
