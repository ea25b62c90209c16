import BuildForm.Text.Blank
import BuildForm.Text.Numeral
import BuildForm.Text.Search

/-
  One item of a schedule field: how it is read and when its
  numbers are fine.

  Key definitions include:
    * `Schedule.Item`
    * `Schedule.Item.read?`
    * `Schedule.ItemFault`
    * `Schedule.checkItem`
-/

namespace BuildForm

namespace Schedule

------------------------------------------------------------
-- Reading
------------------------------------------------------------

/-
  The numerals of an item as they are written: the single
  number or the low end of its range, the high end, and the
  step.
-/
structure Item where
  low : Option (List Char) := none
  high : Option (List Char) := none
  step : Option (List Char) := none
deriving DecidableEq, Repr

namespace Item

/- A non-empty row of digits and what follows it. -/
def readRow?
    (text : List Char) : Option (List Char × List Char) :=
  match text.span Text.isDigit with
  | ([], _) => none
  | (row, rest) => some (row, rest)

/- An optional step, up to the end of the item. -/
def readStep?
    (item : Item)
    (text : List Char) : Option Item :=
  match text with
  | [] => some item
  | '/' :: rest =>
      match readRow? rest with
      | some (row, []) => some { item with step := some row }
      | _ => none
  | _ => none

/-
  The forms of an item: an asterisk, an `H` that a range in
  parentheses may follow, a number or a range, each with an
  optional step.
-/
def read? (text : List Char) : Option Item :=
  match text with
  | '*' :: rest => readStep? {} rest
  | 'H' :: '(' :: rest => do
      let (low, afterLow) ← readRow? rest
      let '-' :: highText := afterLow | none
      let (high, afterHigh) ← readRow? highText
      let ')' :: stepText := afterHigh | none
      readStep? { low := some low, high := some high } stepText
  | 'H' :: rest => readStep? {} rest
  | _ => do
      let (low, afterLow) ← readRow? text
      match afterLow with
      | '-' :: highText =>
          let (high, stepText) ← readRow? highText
          readStep?
            { low := some low, high := some high } stepText
      | _ => readStep? { low := some low } afterLow

end Item

------------------------------------------------------------
-- Checking
------------------------------------------------------------

/- Why an item is refused. -/
inductive ItemFault where
  | unreadable (item : List Char)
  | tooBig (numeral : List Char)
  | outside (value low high : Nat)
  | reversed (low high : Nat)
  | stepZero
deriving DecidableEq, Repr

/- The value of a numeral; only 32-bit ASCII ones have one. -/
def number
    (numeral : List Char) : Except ItemFault Nat :=
  match Text.readNat? numeral with
  | some value =>
      if value < Text.wordSize 32 then
        .ok value
      else
        .error (.tooBig numeral)
  | none => .error (.tooBig numeral)

/- The value of a numeral that may be missing. -/
def number?
    (numeral : Option (List Char)) :
    Except ItemFault (Option Nat) :=
  match numeral with
  | none => .ok none
  | some row => (number row).map some

/- A value that is given lies within the bounds. -/
def checkBounds
    (bounds : Nat × Nat) : Option Nat → Except ItemFault Unit
  | none => .ok ()
  | some value =>
      if value < bounds.1 ∨ bounds.2 < value then
        .error (.outside value bounds.1 bounds.2)
      else
        .ok ()

/-
  Check an item against the inclusive bounds of its field:
  its numbers are 32-bit, within the bounds and in order, and
  its step is positive.
-/
def checkItem
    (bounds : Nat × Nat)
    (text : List Char) : Except ItemFault Unit :=
  match Item.read? text with
  | none => .error (.unreadable text)
  | some item => do
      let low ← number? item.low
      let high ← number? item.high
      checkBounds bounds low
      checkBounds bounds high
      if let (some a, some b) := (low, high) then
        if b < a then
          throw (.reversed a b)
      if let some step ← number? item.step then
        if step = 0 then
          throw .stepZero

end Schedule

end BuildForm
