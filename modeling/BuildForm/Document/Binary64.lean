import BuildForm.Text.Numeral

/-
  Finite binary floating-point numbers of 64 bits, rounding
  to them, and their shortest decimals.

  Key definitions include:
    * `Binary64`
    * `Binary64.ofRatio?`
    * `Binary64.ofDecimal?`
    * `Binary64.shortest`
    * `Binary64.positional`
-/

namespace BuildForm

/-
  The number `mantissa * 2 ^ exponent` with a sign. Numbers
  made by `ofRatio?` have a mantissa below `2 ^ 53` and the
  least exponent from -1074 on that this allows.
-/
structure Binary64 where
  negative : Bool := false
  mantissa : Nat
  exponent : Int
deriving DecidableEq, Repr, Inhabited

namespace Binary64

------------------------------------------------------------
-- Rounding
------------------------------------------------------------

/- The powers of two and of ten. -/
def twoTo (k : Nat) : Nat :=
  Nat.pow 2 k

def tenTo (k : Nat) : Nat :=
  Nat.pow 10 k

/- Zero with a sign. -/
def signedZero (negative : Bool) : Binary64 :=
  { negative, mantissa := 0, exponent := -1074 }

/- The same number with the given sign. -/
def withSign (x : Binary64) (negative : Bool) : Binary64 :=
  { x with negative }

/- The absolute value as a quotient. -/
def ratio (x : Binary64) : Nat × Nat :=
  if 0 ≤ x.exponent then
    (x.mantissa * twoTo x.exponent.toNat, 1)
  else
    (x.mantissa, twoTo (-x.exponent).toNat)

/- The quotient divided by `2 ^ exponent`, as a quotient. -/
def scaleDown
    (num den : Nat)
    (exponent : Int) : Nat × Nat :=
  if 0 ≤ exponent then
    (num, den * twoTo exponent.toNat)
  else
    (num * twoTo (-exponent).toNat, den)

/- The nearest natural number; a half goes to the even one. -/
def roundEven (num den : Nat) : Nat :=
  let floor := num / den
  let double := 2 * (num % den)
  if den < double ∨ (double = den ∧ floor % 2 = 1) then
    floor + 1
  else
    floor

/-
  The exponent at which a positive quotient has 53 binary
  digits before the point, or -1074 if that is greater.
-/
def exponentOf (num den : Nat) : Int :=
  let guess : Int := (num.log2 : Int) - (den.log2 : Int) - 53
  let (n, d) := scaleDown num den guess
  max (-1074) (if d * twoTo 53 ≤ n then guess + 1 else guess)

/-
  The nearest number to a quotient, a tie going to the even
  mantissa; none if it exceeds every finite number.
-/
def ofRatio? (num den : Nat) : Option Binary64 :=
  if num = 0 then
    some (signedZero false)
  else
    let exponent := exponentOf num den
    let (n, d) := scaleDown num den exponent
    let rounded := roundEven n d
    let x : Binary64 :=
      if rounded = twoTo 53 then
        { mantissa := twoTo 52, exponent := exponent + 1 }
      else
        { mantissa := rounded, exponent }
    if x.exponent ≤ 971 then some x else none

/- The nearest number to the product. -/
def mul? (x y : Binary64) : Option Binary64 :=
  let (a, b) := x.ratio
  let (c, d) := y.ratio
  ofRatio? (a * c) (b * d)

/- The nearest number to the quotient by a positive number. -/
def div? (x y : Binary64) : Option Binary64 :=
  let (a, b) := x.ratio
  let (c, d) := y.ratio
  ofRatio? (a * d) (b * c)

------------------------------------------------------------
-- Reading Decimals
------------------------------------------------------------

/- The nearest number to a power of ten up to `10 ^ 308`. -/
def powerOfTen (k : Nat) : Binary64 :=
  (ofRatio? (tenTo k) 1).getD (signedZero false)

/-
  Divide by `10 ^ k` in steps of at most 308 places, each of
  which rounds; `steps` bounds their number. A quotient that
  has become zero stays zero.
-/
def divPowerOfTen :
    (steps : Nat) → Binary64 → Nat → Option Binary64
  | 0, _, _ => some (signedZero false)
  | steps + 1, x, k =>
      if x.mantissa = 0 then
        some x
      else if k ≤ 308 then
        x.div? (powerOfTen k)
      else do
        let smaller ← x.div? (powerOfTen 308)
        divPowerOfTen steps smaller (k - 308)

/-
  The number `significand * 10 ^ exponent` computed from the
  nearest numbers to both factors; none if it is out of range.
  Four divisions by `10 ^ 308` take every number to zero.
-/
def ofDecimal?
    (significand : Nat)
    (exponent : Int) : Option Binary64 := do
  let x ← ofRatio? significand 1
  if exponent < 0 then
    divPowerOfTen 4 x (-exponent).toNat
  else if x.mantissa = 0 then
    some x
  else if exponent ≤ 308 then
    x.mul? (powerOfTen exponent.toNat)
  else
    none

/-
  The number nearest to `significand * 10 ^ exponent`; none if
  it is out of range. Outside of the exponents looked at, the
  number is zero or out of range for every significand of the
  given length.
-/
def nearestDecimal?
    (significand : Nat)
    (exponent : Int) : Option Binary64 :=
  let length := (Text.digits significand).length
  if significand = 0 then
    some (signedZero false)
  else if exponent + length < -400 then
    some (signedZero false)
  else if 400 < exponent + length then
    none
  else if exponent < 0 then
    ofRatio? significand (tenTo (-exponent).toNat)
  else
    ofRatio? (significand * tenTo exponent.toNat) 1

------------------------------------------------------------
-- Shortest Decimals
------------------------------------------------------------

/- A decimal `digits * 10 ^ exponent`. -/
structure Decimal where
  digits : Nat
  exponent : Int
deriving DecidableEq, Repr

/-
  The greatest `p` with `10 ^ p` not above a positive
  quotient.
-/
def decimalExponent (num den : Nat) : Int :=
  if den ≤ num then
    ((Text.digits (num / den)).length : Int) - 1
  else
    let length := (Text.digits (den / num)).length
    if den ≤ num * tenTo (length - 1) then
      1 - (length : Int)
    else
      -(length : Int)

/-
  Whether `digits * 10 ^ exponent` rounds to the number. All
  quantities are compared over one denominator; the lower gap
  is half as wide at a power of two.
-/
def readsBack (x : Binary64) (decimal : Decimal) : Bool :=
  let quarter : Int := x.exponent - 2
  let low : Nat :=
    if x.mantissa = twoTo 52 ∧ -1074 < x.exponent then
      4 * x.mantissa - 1
    else
      4 * x.mantissa - 2
  let high : Nat := 4 * x.mantissa + 2
  let (dNum, dDen) : Nat × Nat :=
    if 0 ≤ decimal.exponent then
      (decimal.digits * tenTo decimal.exponent.toNat, 1)
    else
      (decimal.digits, tenTo (-decimal.exponent).toNat)
  let (n, d) := scaleDown dNum dDen quarter
  if x.mantissa % 2 = 0 then
    low * d ≤ n && n ≤ high * d
  else
    low * d < n && n < high * d

/-
  The decimal with `count` digits that is nearest to the
  number among those that read back, if there is one.
-/
def withDigits?
    (x : Binary64)
    (count : Nat) : Option Decimal :=
  let (num, den) := x.ratio
  let place := decimalExponent num den - count + 1
  let (n, d) : Nat × Nat :=
    if 0 ≤ place then
      (num, den * tenTo place.toNat)
    else
      (num * tenTo (-place).toNat, den)
  let below : Decimal := ⟨n / d, place⟩
  let above : Decimal := ⟨n / d + 1, place⟩
  let nearest : Decimal := ⟨roundEven n d, place⟩
  [nearest, below, above].find? (readsBack x)

/- Drop the zeros at the end of a decimal's digits. -/
def Decimal.trimmed : (steps : Nat) → Decimal → Decimal
  | 0, decimal => decimal
  | steps + 1, decimal =>
      if decimal.digits % 10 = 0 ∧ decimal.digits ≠ 0 then
        trimmed steps
          ⟨decimal.digits / 10, decimal.exponent + 1⟩
      else
        decimal

/-
  The decimal with the fewest digits that reads back as the
  absolute value of the number.
-/
def shortest (x : Binary64) : Decimal :=
  if x.mantissa = 0 then
    ⟨0, 0⟩
  else
    match (List.range' 1 17).findSome? (withDigits? x) with
    | some decimal => decimal.trimmed 20
    | none => ⟨0, 0⟩

------------------------------------------------------------
-- Writing
------------------------------------------------------------

/- A row of zeros. -/
def zeros (count : Nat) : List Char :=
  List.replicate count '0'

def sign (x : Binary64) : List Char :=
  if x.negative then ['-'] else []

/-
  The shortest decimal with a point and without an exponent;
  at least one digit stands on either side of the point.
-/
def positional (x : Binary64) : List Char :=
  let decimal := x.shortest
  let row := Text.digits decimal.digits
  let point : Int := row.length + decimal.exponent
  x.sign ++
    if 0 ≤ decimal.exponent then
      row ++ zeros decimal.exponent.toNat ++ ['.', '0']
    else if 0 < point then
      row.take point.toNat ++ '.' :: row.drop point.toNat
    else
      '0' :: '.' :: zeros (-point).toNat ++ row

/-
  The shortest decimal with an exponent: one digit, the other
  digits after a point, and the exponent.
-/
def scientific (x : Binary64) : List Char :=
  let decimal := x.shortest
  let row := Text.digits decimal.digits
  let exponent : Int := row.length + decimal.exponent - 1
  let fraction := match row.drop 1 with
    | [] => []
    | rest => '.' :: rest
  x.sign ++ row.take 1 ++ fraction ++
    'e' :: (toString exponent).toList

end Binary64

end BuildForm
