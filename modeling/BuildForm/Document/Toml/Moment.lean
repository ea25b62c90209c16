import BuildForm.Document.Value
import BuildForm.Text.Numeral
import BuildForm.Text.Search

/-
  Dates and times in a TOML text.

  Key definitions include:
    * `Toml.Date`
    * `Toml.Time`
    * `Toml.Offset`
    * `Toml.Moment`
    * `Toml.Moment.read?`
    * `Toml.Moment.text`
-/

namespace BuildForm

namespace Toml

------------------------------------------------------------
-- Moments
------------------------------------------------------------

structure Date where
  year : Nat
  month : Nat
  day : Nat
deriving DecidableEq, Repr

/- A time of day; the fraction is in billionths of a second. -/
structure Time where
  hour : Nat
  minute : Nat
  second : Nat
  fraction : Nat := 0
deriving DecidableEq, Repr

/- The distance from universal time, which has its own sign. -/
inductive Offset where
  | universal
  | minutes (negative : Bool) (size : Nat)
deriving DecidableEq, Repr

/- A date, a time of day, or both. -/
structure Moment where
  date : Option Date := none
  time : Option Time := none
  offset : Option Offset := none
deriving DecidableEq, Repr

/- The number of days of a month. -/
def daysOf (year month : Nat) : Nat :=
  if month = 2 then
    if year % 4 = 0 ∧ (year % 100 ≠ 0 ∨ year % 400 = 0) then
      29
    else
      28
  else if month ∈ [4, 6, 9, 11] then
    30
  else
    31

------------------------------------------------------------
-- Reading
------------------------------------------------------------

/- A number of exactly `length` digits within two bounds. -/
def readPart?
    (length low high : Nat)
    (text : List Char) : Option (Nat × List Char) :=
  if (text.take length).length < length then
    none
  else
    match Text.readNat? (text.take length) with
    | some value =>
        if low ≤ value ∧ value ≤ high then
          some (value, text.drop length)
        else
          none
    | none => none

/- The text behind a mark. -/
def readMark?
    (mark : Char)
    (text : List Char) : Option (List Char) :=
  Text.dropLead? [mark] text

def Date.read?
    (text : List Char) : Option (Date × List Char) := do
  let (year, rest) ← readPart? 4 0 9999 text
  let (month, rest) ← readPart? 2 1 12 (← readMark? '-' rest)
  let (day, rest) ←
    readPart? 2 1 (daysOf year month) (← readMark? '-' rest)
  some ({ year, month, day }, rest)

/-
  The billionths that a row of digits behind the point makes;
  digits after the ninth do not count.
-/
def billionths (row : List Char) : Nat :=
  Text.natOfDigits ((row ++ List.replicate 9 '0').take 9)

/- A fraction of a second, if there is one. -/
def readFraction (text : List Char) : Nat × List Char :=
  match text with
  | '.' :: rest =>
      match rest.takeWhile Text.isAsciiDigit with
      | [] => (0, text)
      | row =>
          (billionths row, rest.dropWhile Text.isAsciiDigit)
  | _ => (0, text)

/- Hours and minutes. -/
def readClock?
    (text : List Char) : Option ((Nat × Nat) × List Char) := do
  let (hour, rest) ← readPart? 2 0 23 text
  let (minute, rest) ← readPart? 2 0 59 (← readMark? ':' rest)
  some ((hour, minute), rest)

/- A time of day, in which a second may be a leap second. -/
def Time.read?
    (text : List Char) : Option (Time × List Char) := do
  let ((hour, minute), rest) ← readClock? text
  let (second, rest) ← readPart? 2 0 60 (← readMark? ':' rest)
  let (fraction, rest) := readFraction rest
  some ({ hour, minute, second, fraction }, rest)

def Offset.read?
    (text : List Char) : Option (Offset × List Char) :=
  match text with
  | [] => none
  | c :: rest =>
      if c = 'Z' ∨ c = 'z' then
        some (.universal, rest)
      else if c = '+' ∨ c = '-' then
        (readClock? rest).map fun ((hour, minute), rest) =>
          (.minutes (c = '-') (60 * hour + minute), rest)
      else
        none

/- The time behind a date, if there is one. -/
def readTimeOfDate?
    (text : List Char) : Option (Time × List Char) :=
  match text with
  | [] => none
  | c :: rest =>
      if ['T', 't', ' '].contains c then Time.read? rest else none

/-
  A date, which a time of day and then an offset may follow,
  or a time of day.
-/
def Moment.read?
    (text : List Char) : Option (Moment × List Char) :=
  match Date.read? text with
  | none =>
      (Time.read? text).map fun (time, rest) =>
        ({ time := some time }, rest)
  | some (date, rest) =>
      match readTimeOfDate? rest with
      | none => some ({ date := some date }, rest)
      | some (time, rest) =>
          match Offset.read? rest with
          | none =>
              some ({ date := some date, time := some time }, rest)
          | some (offset, rest) =>
              some
                ({ date := some date
                   time := some time
                   offset := some offset },
                  rest)

------------------------------------------------------------
-- Writing
------------------------------------------------------------

/- The digits of a number after zeros up to a length. -/
def padded (length value : Nat) : List Char :=
  let row := Text.digits value
  List.replicate (length - row.length) '0' ++ row

def Date.text (date : Date) : List Char :=
  padded 4 date.year ++ '-' :: padded 2 date.month ++
    '-' :: padded 2 date.day

/- The fraction behind its point, without zeros at its end. -/
def fractionText (fraction : Nat) : List Char :=
  if fraction = 0 then
    []
  else
    '.' ::
      ((padded 9 fraction).reverse.dropWhile (· = '0')).reverse

def Time.text (time : Time) : List Char :=
  padded 2 time.hour ++ ':' :: padded 2 time.minute ++
    ':' :: padded 2 time.second ++ fractionText time.fraction

/- An offset of zero has a plus sign. -/
def Offset.text : Offset → List Char
  | .universal => ['Z']
  | .minutes negative size =>
      (if negative ∧ size ≠ 0 then '-' else '+') ::
        padded 2 (size / 60) ++ ':' :: padded 2 (size % 60)

def Moment.text (moment : Moment) : List Char :=
  (moment.date.map Date.text).getD [] ++
    (if moment.date.isSome ∧ moment.time.isSome then
      ['T']
    else
      []) ++
    (moment.time.map Time.text).getD [] ++
    (moment.offset.map Offset.text).getD []

/- The document value of a moment: a table with its text. -/
def Moment.toValue (moment : Moment) : Value :=
  .table
    [("$__toml_private_datetime",
      .text (String.ofList moment.text))]

end Toml

end BuildForm
