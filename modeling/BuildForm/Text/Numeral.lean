/-
  Decimal numerals in ASCII, read with a bound and written,
  and hexadecimal digits.

  Key definitions include:
    * `Text.natOfDigits`
    * `Text.readNat?`
    * `Text.readWord?`
    * `Text.hexValue?`
    * `Text.wordSize`
    * `Text.digits`
-/

namespace BuildForm

namespace Text

/- One of the ten ASCII digits. -/
def isAsciiDigit (c : Char) : Bool :=
  '0' ≤ c && c ≤ '9'

/- The value of an ASCII digit. -/
def digitValue (c : Char) : Nat :=
  c.toNat - '0'.toNat

/- The value of a row of digits, most significant first. -/
def natOfDigits (row : List Char) : Nat :=
  row.foldl (fun value c => 10 * value + digitValue c) 0

/- A non-empty row of ASCII digits as a number. -/
def readNat? (text : List Char) : Option Nat :=
  if text ≠ [] ∧ text.all isAsciiDigit then
    some (natOfDigits text)
  else
    none

/- How many numbers are written with so many bits. -/
def wordSize (bits : Nat) : Nat :=
  Nat.pow 2 bits

/-
  An unsigned 32-bit numeral: one optional plus sign, then
  digits whose value is below `2 ^ 32`.
-/
def readWord? (text : List Char) : Option UInt32 :=
  let row := match text with
    | '+' :: rest => rest
    | _ => text
  match readNat? row with
  | some value =>
      if value < wordSize 32 then
        some (UInt32.ofNat value)
      else
        none
  | none => none

/- The value of a hexadecimal digit. -/
def hexValue? (c : Char) : Option Nat :=
  if '0' ≤ c ∧ c ≤ '9' then
    some (c.toNat - '0'.toNat)
  else if 'a' ≤ c ∧ c ≤ 'f' then
    some (c.toNat - 'a'.toNat + 10)
  else if 'A' ≤ c ∧ c ≤ 'F' then
    some (c.toNat - 'A'.toNat + 10)
  else
    none

/- The decimal digits of a number without leading zeros. -/
def digits (value : Nat) : List Char :=
  Nat.toDigits 10 value

end Text

end BuildForm
