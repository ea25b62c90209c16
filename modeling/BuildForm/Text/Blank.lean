/-
  White space and decimal digits as Unicode defines them.

  Key definitions include:
    * `Text.isBlank`
    * `Text.isDigit`
    * `Text.trim`
    * `Text.trimStart`
    * `Text.words`
-/

namespace BuildForm

namespace Text

------------------------------------------------------------
-- Tables
------------------------------------------------------------

/- Code point ranges of the property White_Space. -/
def blankRanges : List (Nat × Nat) :=
  [(0x09, 0x0D), (0x20, 0x20), (0x85, 0x85), (0xA0, 0xA0),
   (0x1680, 0x1680), (0x2000, 0x200A), (0x2028, 0x2029),
   (0x202F, 0x202F), (0x205F, 0x205F), (0x3000, 0x3000)]

/-
  First code points of the runs of ten decimal digits, that
  is, of the characters of general category Nd. The five
  mathematical alphabets of digits are adjacent.
-/
def digitZeros : List Nat :=
  [0x30, 0x660, 0x6F0, 0x7C0, 0x966, 0x9E6, 0xA66, 0xAE6,
   0xB66, 0xBE6, 0xC66, 0xCE6, 0xD66, 0xDE6, 0xE50, 0xED0,
   0xF20, 0x1040, 0x1090, 0x17E0, 0x1810, 0x1946, 0x19D0,
   0x1A80, 0x1A90, 0x1B50, 0x1BB0, 0x1C40, 0x1C50, 0xA620,
   0xA8D0, 0xA900, 0xA9D0, 0xA9F0, 0xAA50, 0xABF0, 0xFF10,
   0x104A0, 0x10D30, 0x10D40, 0x11066, 0x110F0, 0x11136,
   0x111D0, 0x112F0, 0x11450, 0x114D0, 0x11650, 0x116C0,
   0x116D0, 0x116DA, 0x11730, 0x118E0, 0x11950, 0x11BF0,
   0x11C50, 0x11D50, 0x11DA0, 0x11F50, 0x16130, 0x16A60,
   0x16AC0, 0x16B50, 0x16D70, 0x1CCF0, 0x1D7CE, 0x1D7D8,
   0x1D7E2, 0x1D7EC, 0x1D7F6, 0x1E140, 0x1E2F0, 0x1E4F0,
   0x1E5F1, 0x1E950, 0x1FBF0]

------------------------------------------------------------
-- Character Classes
------------------------------------------------------------

/- White space, non-ASCII white space included. -/
def isBlank (c : Char) : Bool :=
  blankRanges.any fun (low, high) =>
    low ≤ c.toNat && c.toNat ≤ high

/- A decimal digit of any script. -/
def isDigit (c : Char) : Bool :=
  digitZeros.any fun first =>
    first ≤ c.toNat && c.toNat ≤ first + 9

------------------------------------------------------------
-- Trimming and Words
------------------------------------------------------------

/- The text without leading white space. -/
def trimStart (text : List Char) : List Char :=
  text.dropWhile isBlank

/- The text without white space at either end. -/
def trim (text : List Char) : List Char :=
  (trimStart (trimStart text).reverse).reverse

/- The maximal runs of characters that are not blank. -/
def words (text : List Char) : List (List Char) :=
  (text.splitOnP isBlank).filter (· ≠ [])

end Text

end BuildForm
