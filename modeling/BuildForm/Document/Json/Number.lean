import BuildForm.Document.Value

/-
  Numbers in JSON text.

  Key definitions include:
    * `Json.readNumber?`
    * `Json.numberText`
-/

namespace BuildForm

namespace Json

------------------------------------------------------------
-- Reading
------------------------------------------------------------

/- The number of digits before a 64-bit word would overflow. -/
def takeWord : (value : Nat) → List Char → Nat × List Char
  | value, c :: rest =>
      let next := 10 * value + Text.digitValue c
      if Text.isAsciiDigit c ∧ next < Text.wordSize 64 then
        takeWord next rest
      else
        (value, c :: rest)
  | value, [] => (value, [])

/- Digits whose value is passed over, and what follows. -/
def skipDigits (text : List Char) : Nat × List Char :=
  ((text.takeWhile Text.isAsciiDigit).length,
   text.dropWhile Text.isAsciiDigit)

/- A value with the sign that was read before it. -/
def signed
    (negative : Bool)
    (x : Option Binary64) : Option Number :=
  x.map fun x => .real (x.withSign negative)

/-
  The exponent, read after its letter. An exponent that is
  out of the range of 32-bit integers is as good as the
  nearest one in it: zero stays zero, and anything else
  vanishes or is refused.
-/
def readExponent?
    (negative : Bool)
    (significand : Nat)
    (scale : Int)
    (text : List Char) : Option (Number × List Char) :=
  let (down, row) := match text with
    | '+' :: rest => (false, rest)
    | '-' :: rest => (true, rest)
    | _ => (false, text)
  let digits := row.takeWhile Text.isAsciiDigit
  if digits = [] then
    none
  else
    let size : Int := Text.natOfDigits digits
    let exponent := if down then scale - size else scale + size
    (signed negative
      (Binary64.ofDecimal? significand exponent)).map
      fun number => (number, row.dropWhile Text.isAsciiDigit)

/- An exponent if there is one, else the number as it is. -/
def readScaled?
    (negative : Bool)
    (significand : Nat)
    (scale : Int)
    (text : List Char) : Option (Number × List Char) :=
  match text with
  | 'e' :: rest | 'E' :: rest =>
      readExponent? negative significand scale rest
  | _ =>
      (signed negative
        (Binary64.ofDecimal? significand scale)).map
        fun number => (number, text)

/-
  The fraction, read after its point. Digits beyond a 64-bit
  significand are passed over.
-/
def readFraction?
    (negative : Bool)
    (significand : Nat)
    (scale : Int)
    (text : List Char) : Option (Number × List Char) :=
  let (value, rest) := takeWord significand text
  let used := text.length - rest.length
  let beyond := (skipDigits rest).2
  if used = 0 ∧ beyond.length = rest.length then
    none
  else
    readScaled? negative value (scale - used) beyond

/-
  A number. Whole numbers within 64 bits are kept as they
  are; a leading zero stands alone, and minus zero is a
  floating-point number.
-/
def readNumber?
    (text : List Char) : Option (Number × List Char) :=
  let (negative, row) := match text with
    | '-' :: rest => (true, rest)
    | _ => (false, text)
  match row with
  | [] => none
  | c :: afterFirst =>
      if !Text.isAsciiDigit c then
        none
      else if c = '0' ∧
          (afterFirst.head?.any Text.isAsciiDigit) then
        none
      else
        let (value, rest) :=
          if c = '0' then (0, afterFirst) else takeWord 0 row
        let (skipped, after) := skipDigits rest
        match after with
        | '.' :: fraction =>
            readFraction? negative value skipped fraction
        | 'e' :: exponent | 'E' :: exponent =>
            readExponent? negative value skipped exponent
        | _ =>
            if skipped ≠ 0 then
              readScaled? negative value skipped after
            else if !negative then
              some (.int value, after)
            else if value = 0 ∨ Text.wordSize 63 < value then
              (signed true (Binary64.ofRatio? value 1)).map
                fun number => (number, after)
            else
              some (.int (-value), after)

------------------------------------------------------------
-- Writing
------------------------------------------------------------

/-
  A floating-point number in the shortest digits that read
  back: positional with up to 16 digits before the point and
  up to four zeros after it, else with an exponent.
-/
def realText (x : Binary64) : List Char :=
  let decimal := x.shortest
  let point : Int :=
    (Text.digits decimal.digits).length + decimal.exponent
  if x.mantissa = 0 ∨ (-5 < point ∧ point ≤ 16) then
    x.positional
  else
    x.scientific

def numberText : Number → List Char
  | .int value => (toString value).toList
  | .real value => realText value

end Json

end BuildForm
