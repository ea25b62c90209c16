import BuildForm.Document.Value
import BuildForm.Text.Search

/-
  What an unquoted YAML scalar stands for.

  Key definitions include:
    * `Yaml.hasLeadingZero`
    * `Yaml.readInteger?`
    * `Yaml.readReal?`
    * `Yaml.Scalar`
    * `Yaml.Scalar.ofPlain`
    * `Yaml.Scalar.value?`
-/

namespace BuildForm

namespace Yaml

------------------------------------------------------------
-- Whole Numbers
------------------------------------------------------------

/- The value of a non-empty row of digits of a base. -/
def readBase? (base : Nat) (row : List Char) : Option Nat :=
  if row = [] then
    none
  else
    row.foldlM
      (fun value c => do
        let digit ← Text.hexValue? c
        if digit < base then
          some (base * value + digit)
        else
          none)
      0

/- The text without one sign at its start. -/
def dropSign : List Char → List Char
  | '+' :: rest => rest
  | '-' :: rest => rest
  | text => text

/-
  Several digits that start with a zero, behind a sign or
  not; they are no number.
-/
def hasLeadingZero (text : List Char) : Bool :=
  match dropSign text with
  | '0' :: c :: rest => (c :: rest).all Text.isAsciiDigit
  | _ => false

/- The value of a row of digits behind the mark of its base. -/
def readMagnitude? : List Char → Option Nat
  | '0' :: 'x' :: row => readBase? 16 row
  | '0' :: 'o' :: row => readBase? 8 row
  | '0' :: 'b' :: row => readBase? 2 row
  | row => readBase? 10 row

/-
  A whole number of at most 128 bits, with an optional sign
  and possibly in base 16, 8 or 2.
-/
def readInteger? (text : List Char) : Option Int :=
  if hasLeadingZero text then
    none
  else
    match text with
    | '-' :: row =>
        match readMagnitude? row with
        | some value =>
            if value ≤ Text.wordSize 127 then
              some (-value)
            else
              none
        | none => none
    | _ =>
        let row := (Text.dropLead? ['+'] text).getD text
        match readMagnitude? row with
        | some value =>
            if value < Text.wordSize 128 then
              some value
            else
              none
        | none => none

------------------------------------------------------------
-- Floating-Point Numbers
------------------------------------------------------------

/- An exponent and its sign, read after the letter. -/
def readExponent? (text : List Char) : Option Int :=
  match text with
  | '-' :: row =>
      (Text.readNat? row).map fun size => -(size : Int)
  | '+' :: row => (Text.readNat? row).map fun size => size
  | row => (Text.readNat? row).map fun size => size

/- Digits, a point or an exponent among them; no sign. -/
def readUnsigned? (text : List Char) : Option Binary64 :=
  let whole := text.takeWhile Text.isAsciiDigit
  let afterWhole := text.dropWhile Text.isAsciiDigit
  let (fraction, rest) := match afterWhole with
    | '.' :: row =>
        (row.takeWhile Text.isAsciiDigit,
         row.dropWhile Text.isAsciiDigit)
    | _ => ([], afterWhole)
  let exponent? := match rest with
    | [] => some 0
    | 'e' :: row | 'E' :: row => readExponent? row
    | _ => none
  if whole = [] ∧ fraction = [] then
    none
  else
    exponent?.bind fun exponent =>
      Binary64.nearestDecimal?
        (Text.natOfDigits (whole ++ fraction))
        (exponent - fraction.length)

/- A finite number with an optional sign. -/
def readReal? : List Char → Option Binary64
  | '-' :: row => (readUnsigned? row).map (·.withSign true)
  | '+' :: row => readUnsigned? row
  | row => readUnsigned? row

/- The spellings of infinities and of what is no number. -/
def notFinite : List String :=
  [".inf", ".Inf", ".INF", "+.inf", "+.Inf", "+.INF",
   "-.inf", "-.Inf", "-.INF", ".nan", ".NaN", ".NAN"]

------------------------------------------------------------
-- Scalars
------------------------------------------------------------

/-
  A scalar by its spelling: null, a truth value, a number, a
  number that no document value can hold because it is too
  wide or not finite, or a text.
-/
inductive Scalar where
  | null
  | flag (value : Bool)
  | number (value : Number)
  | wide
  | notFinite
  | text
deriving DecidableEq, Repr

namespace Scalar

/- What an unquoted text stands for. -/
def ofPlain (text : List Char) : Scalar :=
  let spelled := String.ofList text
  if spelled ∈ ["", "null", "Null", "NULL", "~"] then
    .null
  else if spelled ∈ ["true", "True", "TRUE"] then
    .flag true
  else if spelled ∈ ["false", "False", "FALSE"] then
    .flag false
  else
    match readInteger? text with
    | some value =>
        let least : Int := -Text.wordSize 63
        let bound : Int := Text.wordSize 64
        if least ≤ value ∧ value < bound then
          .number (.int value)
        else
          .wide
    | none =>
        if hasLeadingZero text then
          .text
        else if spelled ∈ Yaml.notFinite then
          .notFinite
        else
          match readReal? text with
          | some value => .number (.real value)
          | none => .text

/-
  The document value of a scalar with a spelling. What is not
  finite becomes null; a whole number that is too wide is
  refused.
-/
def value? (text : List Char) : Scalar → Option Value
  | .null => some .null
  | .flag value => some (.flag value)
  | .number value => some (.number value)
  | .wide => none
  | .notFinite => some .null
  | .text => some (.text (String.ofList text))

end Scalar

end Yaml

end BuildForm
