/-
  Sets of characters given by ranges or by the ranges that
  they leave out.

  Key definitions include:
    * `CharSet`
    * `CharSet.contains`
    * `CharSet.ofChars`
    * `CharSet.union`
-/

namespace BuildForm

/-
  The characters within one of the ranges, or, if the set is
  `negated`, those within none of them.
-/
structure CharSet where
  ranges : List (Char × Char)
  negated : Bool := false
deriving DecidableEq, Repr

namespace CharSet

def contains (set : CharSet) (c : Char) : Bool :=
  let listed := set.ranges.any fun (low, high) =>
    low ≤ c && c ≤ high
  listed != set.negated

/- Every character. -/
def all : CharSet :=
  { ranges := [], negated := true }

/- The listed characters. -/
def ofChars (chars : List Char) : CharSet :=
  { ranges := chars.map fun c => (c, c) }

/- All characters but the listed ones. -/
def without (chars : List Char) : CharSet :=
  { ranges := chars.map fun c => (c, c), negated := true }

/- The union of two sets that are given by their ranges. -/
def union (left right : CharSet) : CharSet :=
  { ranges := left.ranges ++ right.ranges }

/- The ASCII letters. -/
def letters : CharSet :=
  { ranges := [('a', 'z'), ('A', 'Z')] }

/- The ASCII digits. -/
def digits : CharSet :=
  { ranges := [('0', '9')] }

/- The ASCII letters and digits. -/
def alphanumerics : CharSet :=
  letters.union digits

/-
  The letters under case folding: besides the ASCII letters
  the long s and the Kelvin sign, which fold to `s` and `k`.
-/
def foldedLetters : CharSet :=
  letters.union (ofChars ['\u017F', '\u212A'])

end CharSet

end BuildForm
