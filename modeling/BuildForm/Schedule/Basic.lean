import BuildForm.Schedule.Item

/-
  Schedules in cron notation: one schedule a line, blank
  lines and comments aside.

  Key definitions include:
    * `Schedule.aliases`
    * `Schedule.fieldBounds`
    * `Schedule.checkLine`
    * `Schedule.Verdict`
    * `Schedule.judge`
    * `Schedule.Verdict.text`
    * `Schedule.describe`
-/

namespace BuildForm

namespace Schedule

------------------------------------------------------------
-- Lines
------------------------------------------------------------

/- The named schedules. -/
def aliases : List String :=
  ["@yearly", "@annually", "@monthly", "@weekly", "@daily",
   "@midnight", "@hourly"]

/-
  Inclusive bounds of minute, hour, day of month, month and
  day of week.
-/
def fieldBounds : List (Nat × Nat) :=
  [(0, 59), (0, 23), (1, 31), (1, 12), (0, 7)]

/- Why a line is refused. -/
inductive LineFault where
  | fieldCount (found : Nat)
  | item (fault : ItemFault)
deriving DecidableEq, Repr

/- Check the comma-separated items of one field. -/
def checkField
    (bounds : Nat × Nat)
    (field : List Char) : Except LineFault Unit :=
  (field.splitOn ',').forM fun text =>
    (checkItem bounds text).mapError .item

/-
  A line is an alias, or it has one field for each pair of
  bounds.
-/
def checkLine (line : List Char) : Except LineFault Unit :=
  if String.ofList line ∈ aliases then
    .ok ()
  else
    let fields := Text.words line
    if fields.length ≠ fieldBounds.length then
      .error (.fieldCount fields.length)
    else
      (fields.zip fieldBounds).forM fun (field, bounds) =>
        checkField bounds field

/-
  The lines of a text that hold a schedule, trimmed: neither
  blank ones nor comments.
-/
def scheduleLines (text : List Char) : List (List Char) :=
  ((Text.lines text).map Text.trim).filter fun line =>
    line ≠ [] && line.head? ≠ some '#'

------------------------------------------------------------
-- Verdicts
------------------------------------------------------------

/-
  What is said about a text: it holds no schedule, or all its
  lines are fine, or it names the first line that is not.
-/
inductive Verdict where
  | nothing
  | accepted (lines : List (List Char))
  | refused (line : List Char) (fault : LineFault)
deriving DecidableEq, Repr

/- The first of the lines that is refused, if any. -/
def firstFault? :
    List (List Char) → Option (List Char × LineFault)
  | [] => none
  | line :: rest =>
      match checkLine line with
      | .error fault => some (line, fault)
      | .ok () => firstFault? rest

/- The verdict on a text. -/
def judge (expression : String) : Verdict :=
  let lines := scheduleLines expression.toList
  if lines.isEmpty then
    .nothing
  else
    match firstFault? lines with
    | some (line, fault) => .refused line fault
    | none => .accepted lines

------------------------------------------------------------
-- Wording
------------------------------------------------------------

def ItemFault.message : ItemFault → String
  | .unreadable item =>
      "'" ++ String.ofList item ++ "' is not a cron token"
  | .tooBig numeral =>
      "'" ++ String.ofList numeral ++ "' is out of range"
  | .outside value low high =>
      toString value ++ " is not in " ++ toString low ++
      "-" ++ toString high
  | .reversed low high =>
      "range " ++ toString low ++ "-" ++ toString high ++
      " is reversed"
  | .stepZero => "step must be positive"

def LineFault.message : LineFault → String
  | .fieldCount found =>
      "expected " ++ toString fieldBounds.length ++
      " fields, found " ++ toString found
  | .item fault => fault.message

/- The verdict as a sentence for the user. -/
def Verdict.text : Verdict → String
  | .nothing =>
      "No schedules so will only run due to SCM changes " ++
      "if triggered by a post-commit hook"
  | .accepted lines =>
      "Schedule accepted: " ++
      Text.join " | " (lines.map String.ofList)
  | .refused line fault =>
      "ERROR: Invalid input: \"" ++ String.ofList line ++
      "\": " ++ fault.message

/- What is said about the schedules of a text. -/
def describe (expression : String) : String :=
  (judge expression).text

end Schedule

end BuildForm
