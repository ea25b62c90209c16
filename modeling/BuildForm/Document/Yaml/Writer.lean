import BuildForm.Document.Json.Number
import BuildForm.Document.Yaml.Layout
import BuildForm.Document.Yaml.Scalar

/-
  Writing YAML text in block style.

  Key definitions include:
    * `Yaml.ScalarStyle`
    * `Yaml.styleOf`
    * `Yaml.scalarText`
    * `Yaml.fieldsText`
    * `Yaml.render`
-/

namespace BuildForm

namespace Yaml

------------------------------------------------------------
-- Styles of Scalars
------------------------------------------------------------

/- How a text is written. -/
inductive ScalarStyle where
  | plain
  | singleQuoted
  | doubleQuoted
  | literal
deriving DecidableEq, Repr

def startsWith
    (accepts : Char → Bool)
    (text : List Char) : Bool :=
  text.head?.any accepts

def endsWith
    (accepts : Char → Bool)
    (text : List Char) : Bool :=
  text.getLast?.any accepts

/- Whether two neighbours pass a test each. -/
def hasNeighbours
    (first second : Char → Bool) : List Char → Bool
  | c :: d :: rest =>
      (first c && second d) ||
        hasNeighbours first second (d :: rest)
  | _ => false

def isSpace (c : Char) : Bool :=
  c = ' '

/- Whether a line end directly follows a space. -/
def hasSpaceBeforeLineEnd (text : List Char) : Bool :=
  hasNeighbours isSpace isLineEnd text

/- Whether a space directly follows a line end. -/
def hasSpaceAfterLineEnd (text : List Char) : Bool :=
  hasNeighbours isLineEnd isSpace text

/- Whether some character has to be escaped. -/
def isSpecial (text : List Char) : Bool :=
  text.any fun c => !isPrintable c

/- Whether the first character would be an indicator. -/
def startsAsIndicator : List Char → Bool
  | [] => false
  | c :: rest =>
      ['#', ',', '[', ']', '\x7b', '\x7d', '&', '*', '!', '|',
       '>', '\'', '"', '%', '@', '\x60'].contains c ||
        (['?', ':', '-'].contains c && endsToken rest)

/- Whether a colon or a number sign would be an indicator. -/
def hasInnerIndicator : List Char → Bool
  | [] => false
  | c :: rest =>
      (c = ':' && endsToken rest) ||
        (isSpacing c && rest.head? = some '#') ||
        hasInnerIndicator rest

/- Whether a text would be read as something else. -/
def hasIndicators (text : List Char) : Bool :=
  "---".toList.isPrefixOf text ||
    "...".toList.isPrefixOf text ||
    startsAsIndicator text || hasInnerIndicator text

/- Whether a text can go without quotes. -/
def fitsPlain (text : List Char) : Bool :=
  !(startsWith isSpace text || endsWith isSpace text ||
    text.any isLineEnd || isSpecial text || hasIndicators text)

/- Whether single quotes will do. -/
def fitsSingleQuotes (text : List Char) : Bool :=
  !(hasSpaceBeforeLineEnd text || hasSpaceAfterLineEnd text ||
    isSpecial text)

/- Whether the lines of a text can stand as they are. -/
def fitsLiteral (text : List Char) : Bool :=
  !(endsWith isSpace text || hasSpaceBeforeLineEnd text ||
    isSpecial text)

/- Whether a text without quotes would be no text. -/
def isAmbiguous (text : List Char) : Bool :=
  Scalar.ofPlain text ≠ .text || hasLeadingZero text

/-
  The plainest style that keeps a text: lines stand as they
  are, a text on one line goes without quotes if it can.
-/
def styleOf (text : List Char) : ScalarStyle :=
  if '\n' ∈ text then
    if fitsLiteral text then .literal else .doubleQuoted
  else if !isAmbiguous text ∧ fitsPlain text then
    .plain
  else if fitsSingleQuotes text then
    .singleQuoted
  else
    .doubleQuoted

------------------------------------------------------------
-- Quotes
------------------------------------------------------------

def spaces (count : Nat) : List Char :=
  List.replicate count ' '

/-
  The inside of single quotes, where quotes are doubled and
  further lines indented. `fresh` tells that a line starts.
-/
def quotedLines
    (indent : Nat) : (fresh : Bool) → List Char → List Char
  | fresh, [] => if fresh then spaces indent else []
  | fresh, c :: rest =>
      if isLineEnd c then
        c :: quotedLines indent true rest
      else
        (if fresh then spaces indent else []) ++
          (if c = '\'' then ['\'', '\''] else [c]) ++
            quotedLines indent false rest

/- A text in single quotes. -/
def singleQuoted (indent : Nat) (text : List Char) : List Char :=
  '\'' :: quotedLines indent false text ++ ['\'']

/- The escapes with a letter of their own. -/
def writtenEscapes : List (Char × Char) :=
  [('\x00', '0'), ('\x07', 'a'), ('\x08', 'b'), ('\t', 't'),
   ('\n', 'n'), ('\x0b', 'v'), ('\x0c', 'f'), ('\r', 'r'),
   ('\x1b', 'e'), ('"', '"'), ('\\', '\\'), ('\u0085', 'N'),
   ('\u00a0', '_'), ('\u2028', 'L'), ('\u2029', 'P')]

/- Some upper-case hexadecimal digits of a value. -/
def hexRow : (length value : Nat) → List Char
  | 0, _ => []
  | length + 1, value =>
      hexRow length (value / 16) ++
        [(Nat.digitChar (value % 16)).toUpper]

/- A character inside of double quotes. -/
def escape (c : Char) : List Char :=
  if isPrintable c ∧ !isLineEnd c ∧ c ≠ '"' ∧ c ≠ '\\' then
    [c]
  else
    match writtenEscapes.lookup c with
    | some letter => ['\\', letter]
    | none =>
        if c.toNat ≤ 0xFF then
          '\\' :: 'x' :: hexRow 2 c.toNat
        else if c.toNat ≤ 0xFFFF then
          '\\' :: 'u' :: hexRow 4 c.toNat
        else
          '\\' :: 'U' :: hexRow 8 c.toNat

/- A text in double quotes. -/
def doubleQuoted (text : List Char) : List Char :=
  '"' :: text.flatMap escape ++ ['"']

------------------------------------------------------------
-- Literal Text
------------------------------------------------------------

/-
  The marks behind the indicator of literal text: an
  indentation where the text does not show it, and whether
  the text ends without a line end or with several.
-/
def literalMarks (text : List Char) : List Char :=
  let indentation :=
    if startsWith (fun c => isSpace c || isLineEnd c) text then
      ['2']
    else
      []
  let chomping :=
    match text.reverse.takeWhile isLineEnd, text.reverse with
    | [], _ => ['-']
    | [_], _ :: _ :: _ => []
    | _, _ => ['+']
  indentation ++ chomping

/-
  The lines of a text; empty ones are not indented. `fresh`
  tells that a line starts.
-/
def literalLines
    (indent : Nat) : (fresh : Bool) → List Char → List Char
  | _, [] => []
  | fresh, c :: rest =>
      if isLineEnd c then
        c :: literalLines indent true rest
      else
        (if fresh then spaces indent else []) ++
          c :: literalLines indent false rest

/- A text as literal lines, up to the last line end. -/
def literal (indent : Nat) (text : List Char) : List Char :=
  '|' :: literalMarks text ++ '\n' ::
    literalLines indent true text ++
      (if endsWith isLineEnd text then [] else ['\n'])

------------------------------------------------------------
-- Values
------------------------------------------------------------

/-
  A text up to the end of its last line, lines but the first
  one indented.
-/
def textLines (indent : Nat) (text : List Char) : List Char :=
  match styleOf text with
  | .plain => text ++ ['\n']
  | .singleQuoted => singleQuoted indent text ++ ['\n']
  | .doubleQuoted => doubleQuoted text ++ ['\n']
  | .literal => literal indent text

/-
  What is written of a value that is no text and opens no
  lines of its own.
-/
def inlineText? : Value → Option (List Char)
  | .null => some "null".toList
  | .flag true => some "true".toList
  | .flag false => some "false".toList
  | .number value => some (Json.numberText value)
  | .list [] => some ['[', ']']
  | .table [] => some ['\x7b', '\x7d']
  | _ => none

/-
  A key can stand before its value on one line if it has a
  single line itself and at most 128 bytes.
-/
def isSimpleKey (key : String) : Bool :=
  !key.toList.any isLineEnd && key.utf8ByteSize ≤ 128

mutual

/-
  A value behind an indicator, its inner lines indented by
  `indent`. Collections start on the same line.
-/
def besideIndicator (indent : Nat) : Value → List Char
  | .text text => ' ' :: textLines indent text.toList
  | .list (item :: rest) =>
      ' ' :: (itemsText indent (item :: rest)).drop indent
  | .table (field :: rest) =>
      ' ' :: (fieldsText indent (field :: rest)).drop indent
  | value =>
      ' ' :: (inlineText? value).getD [] ++ ['\n']

/-
  A value behind a simple key in a table at an indentation.
  Collections start on the next line, and lists are not
  indented more than the table.
-/
def besideKey (indent : Nat) : Value → List Char
  | .text text => ' ' :: textLines (indent + 2) text.toList
  | .list (item :: rest) =>
      '\n' :: itemsText indent (item :: rest)
  | .table (field :: rest) =>
      '\n' :: fieldsText (indent + 2) (field :: rest)
  | value =>
      ' ' :: (inlineText? value).getD [] ++ ['\n']

/- The items of a list, a line or more each. -/
def itemsText (indent : Nat) : List Value → List Char
  | [] => []
  | item :: rest =>
      spaces indent ++ '-' ::
        besideIndicator (indent + 2) item ++
          itemsText indent rest

/- The fields of a table, a line or more each. -/
def fieldsText
    (indent : Nat) : List (String × Value) → List Char
  | [] => []
  | (key, value) :: rest =>
      (if isSimpleKey key then
        spaces indent ++
          (textLines (indent + 2) key.toList).dropLast ++
            ':' :: besideKey indent value
      else
        spaces indent ++ '?' :: ' ' ::
          textLines (indent + 2) key.toList ++
            spaces indent ++
              ':' :: besideIndicator (indent + 2) value) ++
        fieldsText indent rest

end

/- A value as a document. -/
def render : Value → List Char
  | .text text => textLines 2 text.toList
  | .list (item :: rest) => itemsText 0 (item :: rest)
  | .table (field :: rest) => fieldsText 0 (field :: rest)
  | value => (inlineText? value).getD [] ++ ['\n']

end Yaml

end BuildForm
