import BuildForm.Document.Value
import BuildForm.Text.Search

/-
  The tokens of a TOML text: blanks, strings, keys and
  numbers.

  Key definitions include:
    * `Toml.isPlainChar`
    * `Toml.skipLines`
    * `Toml.readString?`
    * `Toml.readKey?`
    * `Toml.readNumber?`
-/

namespace BuildForm

namespace Toml

------------------------------------------------------------
-- Blanks and Comments
------------------------------------------------------------

/- A space or a tab. -/
def isGap (c : Char) : Bool :=
  c = ' ' || c = '\t'

/- A tab or a character that is no control character. -/
def isPlainChar (c : Char) : Bool :=
  c = '\t' || (0x20 ≤ c.toNat && c.toNat ≠ 0x7F)

def skipGap (text : List Char) : List Char :=
  text.dropWhile isGap

/- Blanks and a comment up to the end of the line. -/
def skipComment (text : List Char) : List Char :=
  match skipGap text with
  | '#' :: rest => rest.dropWhile isPlainChar
  | rest => rest

/- Blanks, comments and line ends. -/
def skipLines : (fuel : Nat) → List Char → List Char
  | 0, text => text
  | fuel + 1, text =>
      match skipComment text with
      | '\n' :: rest => skipLines fuel rest
      | rest => rest

------------------------------------------------------------
-- Strings
------------------------------------------------------------

/- The escapes that stand for one character each. -/
def shortEscapes : List (Char × Char) :=
  [('b', '\x08'), ('t', '\t'), ('n', '\n'), ('f', '\x0c'),
   ('r', '\r'), ('"', '"'), ('\\', '\\')]

/- The character that a number of hexadecimal digits write. -/
def readHex? (row : List Char) (length : Nat) : Option Char := do
  let value ← (row.take length).foldlM
    (fun value c => do
      let digit ← Text.hexValue? c
      some (16 * value + digit))
    0
  if row.length < length then
    none
  else if Nat.isValidChar value then
    some (Char.ofNat value)
  else
    none

/- The character of an escape, read behind the backslash. -/
def readEscape? :
    List Char → Option (Char × List Char)
  | 'u' :: rest =>
      (readHex? rest 4).map fun c => (c, rest.drop 4)
  | 'U' :: rest =>
      (readHex? rest 8).map fun c => (c, rest.drop 8)
  | c :: rest =>
      (shortEscapes.lookup c).map fun char => (char, rest)
  | [] => none

/- The rest of a string in double quotes on one line. -/
def readBasic? :
    (fuel : Nat) →
    List Char → Option (List Char × List Char)
  | 0, _ => none
  | _, [] => none
  | _, '"' :: rest => some ([], rest)
  | fuel + 1, '\\' :: rest => do
      let (char, rest) ← readEscape? rest
      let (text, rest) ← readBasic? fuel rest
      some (char :: text, rest)
  | fuel + 1, c :: rest =>
      if isPlainChar c then
        (readBasic? fuel rest).map fun (text, rest) =>
          (c :: text, rest)
      else
        none

/- The rest of a string in single quotes on one line. -/
def readLiteral? :
    List Char → Option (List Char × List Char)
  | [] => none
  | '\'' :: rest => some ([], rest)
  | c :: rest =>
      if isPlainChar c then
        (readLiteral? rest).map fun (text, rest) =>
          (c :: text, rest)
      else
        none

/-
  The quotes at the end of a string of many lines: three end
  it, and up to two before them belong to it.
-/
def closing?
    (quote : Char)
    (text : List Char) : Option (List Char × List Char) :=
  let quotes := text.takeWhile (· = quote)
  let count := min 5 quotes.length
  if count < 3 then
    none
  else
    some (quotes.take (count - 3), text.drop count)

/- Whether a line end follows, blanks before it aside. -/
def endsLine (text : List Char) : Bool :=
  (skipGap text).head? = some '\n'

/- The rest of a string in three double quotes. -/
def readLongBasic? :
    (fuel : Nat) →
    List Char → Option (List Char × List Char)
  | 0, _ => none
  | _, [] => none
  | fuel + 1, '\\' :: rest =>
      if endsLine rest then
        readLongBasic? fuel
          (rest.dropWhile fun c => isGap c || c = '\n')
      else do
        let (char, rest) ← readEscape? rest
        let (text, rest) ← readLongBasic? fuel rest
        some (char :: text, rest)
  | fuel + 1, c :: rest =>
      match closing? '"' (c :: rest) with
      | some result => some result
      | none =>
          if isPlainChar c ∨ c = '\n' then
            (readLongBasic? fuel rest).map fun (text, rest) =>
              (c :: text, rest)
          else
            none

/- The rest of a string in three single quotes. -/
def readLongLiteral? :
    List Char → Option (List Char × List Char)
  | [] => none
  | c :: rest =>
      match closing? '\'' (c :: rest) with
      | some result => some result
      | none =>
          if isPlainChar c ∨ c = '\n' then
            (readLongLiteral? rest).map fun (text, rest) =>
              (c :: text, rest)
          else
            none

/- The text without a line end at its start. -/
def dropLineEnd (text : List Char) : List Char :=
  (Text.dropLead? ['\n'] text).getD text

/- A string of one of the four kinds. -/
def readString? (text : List Char) :
    Option (List Char × List Char) :=
  match text with
  | '"' :: '"' :: '"' :: rest =>
      readLongBasic? (rest.length + 1) (dropLineEnd rest)
  | '\'' :: '\'' :: '\'' :: rest =>
      readLongLiteral? (dropLineEnd rest)
  | '"' :: rest => readBasic? (rest.length + 1) rest
  | '\'' :: rest => readLiteral? rest
  | _ => none

------------------------------------------------------------
-- Keys
------------------------------------------------------------

/- A character of a key without quotes. -/
def isBareChar (c : Char) : Bool :=
  c.isAlphanum || c = '_' || c = '-'

/- One part of a key. -/
def readKeyPart?
    (text : List Char) : Option (String × List Char) :=
  match text with
  | '"' :: rest =>
      (readBasic? (rest.length + 1) rest).map
        fun (part, rest) => (String.ofList part, rest)
  | '\'' :: rest =>
      (readLiteral? rest).map fun (part, rest) =>
        (String.ofList part, rest)
  | _ =>
      match text.takeWhile isBareChar with
      | [] => none
      | part =>
          some (String.ofList part, text.dropWhile isBareChar)

/- A key: parts with dots between them, and what follows. -/
def readKey? :
    (fuel : Nat) →
    List Char → Option (List String × List Char)
  | 0, _ => none
  | fuel + 1, text => do
      let (part, rest) ← readKeyPart? (skipGap text)
      match skipGap rest with
      | '.' :: rest =>
          let (parts, rest) ← readKey? fuel rest
          some (part :: parts, rest)
      | rest => some ([part], rest)

------------------------------------------------------------
-- Numbers
------------------------------------------------------------

/-
  The digits of a row in which single underscores may stand
  between digits.
-/
def digitsOf?
    (accepts : Char → Bool)
    (row : List Char) : Option (List Char) :=
  if (row.splitOn '_').all fun part =>
      part ≠ [] && part.all accepts then
    some (row.filter (· ≠ '_'))
  else
    none

/- The value of digits of a base, at most `2 ^ 63 - 1`. -/
def readBase?
    (base : Nat)
    (row : List Char) : Option Value := do
  let accepts (c : Char) :=
    (Text.hexValue? c).any (· < base)
  let digits ← digitsOf? accepts row
  let value := digits.foldl
    (fun value c => base * value + (Text.hexValue? c).getD 0)
    0
  if value < Text.wordSize 63 then
    some (.number (.int value))
  else
    none

/- Digits without a zero before others. -/
def readWhole? (row : List Char) : Option (List Char) := do
  let digits ← digitsOf? Text.isAsciiDigit row
  if 1 < row.length ∧ row.head? = some '0' then
    none
  else
    some digits

/- An exponent with an optional sign. -/
def readPower? (row : List Char) : Option Int :=
  let (negative, row) := match row with
    | '-' :: row => (true, row)
    | '+' :: row => (false, row)
    | row => (false, row)
  (digitsOf? Text.isAsciiDigit row).map fun digits =>
    let size : Int := Text.natOfDigits digits
    if negative then -size else size

/- The row before and after an exponent letter. -/
def splitPower (row : List Char) :
    List Char × Option (List Char) :=
  let isLetter (c : Char) := c = 'e' || c = 'E'
  match row.dropWhile (fun c => !isLetter c) with
  | [] => (row, none)
  | _ :: power =>
      (row.takeWhile (fun c => !isLetter c), some power)

/-
  A number with a fraction or an exponent. One that is too
  large is refused, but one that is too small is infinite.
-/
def readReal?
    (negative : Bool)
    (row : List Char) : Option Value := do
  let (significand, power) := splitPower row
  let exponent ← match power with
    | none => some 0
    | some power => readPower? power
  let (whole, fraction) ←
    match Text.cutAt? '.' significand with
    | none => (readWhole? significand).map fun whole => (whole, [])
    | some (whole, fraction) => do
        let whole ← readWhole? whole
        let fraction ← digitsOf? Text.isAsciiDigit fraction
        some (whole, fraction)
  match Binary64.nearestDecimal?
      (Text.natOfDigits (whole ++ fraction))
      (exponent - fraction.length) with
  | some x => some (.number (.real (x.withSign negative)))
  | none => if negative then some .null else none

/- A number without its sign. -/
def readUnsigned?
    (negative : Bool)
    (row : List Char) : Option Value :=
  if row ∈ ["inf".toList, "nan".toList] then
    some .null
  else if row.any fun c => c = '.' || c = 'e' || c = 'E' then
    readReal? negative row
  else do
    let digits ← readWhole? row
    let value : Int := Text.natOfDigits digits
    let signed := if negative then -value else value
    let bound : Int := Text.wordSize 63
    if -bound ≤ signed ∧ signed < bound then
      some (.number (.int signed))
    else
      none

/-
  A number: decimal with an optional sign, or in base 16, 8
  or 2. What is not finite is null as a document value.
-/
def readNumber? : List Char → Option Value
  | '0' :: 'x' :: row => readBase? 16 row
  | '0' :: 'o' :: row => readBase? 8 row
  | '0' :: 'b' :: row => readBase? 2 row
  | '-' :: row => readUnsigned? true row
  | '+' :: row => readUnsigned? false row
  | row => readUnsigned? false row

/- A word that is a truth value or a number. -/
def readWord? (word : List Char) : Option Value :=
  if word = "true".toList then
    some (.flag true)
  else if word = "false".toList then
    some (.flag false)
  else
    readNumber? word

/- A character that a truth value or a number may hold. -/
def isWordChar (c : Char) : Bool :=
  isBareChar c || c = '+' || c = '.'

end Toml

end BuildForm
