/-
  Searching, cutting and replacing in text, and the lines of
  a text.

  Key definitions include:
    * `Text.occursIn`
    * `Text.replaceFirst`
    * `Text.replaceAll`
    * `Text.cutAt?`
    * `Text.dropLead?`
    * `Text.dropEnd?`
    * `Text.lines`
    * `Text.join`
-/

namespace BuildForm

namespace Text

------------------------------------------------------------
-- Occurrences
------------------------------------------------------------

/- Whether the needle is a contiguous part of the text. -/
def occursIn
    (needle : List Char) : List Char → Bool
  | [] => needle.isEmpty
  | c :: rest =>
      needle.isPrefixOf (c :: rest) || occursIn needle rest

/-
  Replace the leftmost occurrence of `old`; a text without
  one is kept.
-/
def replaceFirst
    (old new : List Char) : List Char → List Char
  | [] => if old = [] then new else []
  | c :: rest =>
      if old.isPrefixOf (c :: rest) then
        new ++ (c :: rest).drop old.length
      else
        c :: replaceFirst old new rest

/-
  Replace every occurrence of a non-empty `old`, leftmost
  first and without overlaps. The counter is the number of
  characters of the last occurrence still to be passed over.
-/
def replaceAllFrom
    (old new : List Char) : Nat → List Char → List Char
  | _, [] => []
  | n + 1, _ :: rest => replaceAllFrom old new n rest
  | 0, c :: rest =>
      if old.isPrefixOf (c :: rest) then
        new ++ replaceAllFrom old new (old.length - 1) rest
      else
        c :: replaceAllFrom old new 0 rest

/- Replace every occurrence of a non-empty `old`. -/
def replaceAll
    (old new text : List Char) : List Char :=
  replaceAllFrom old new 0 text

------------------------------------------------------------
-- Cutting
------------------------------------------------------------

/- The parts before and after the first `mark`. -/
def cutAt?
    (mark : Char) :
    List Char → Option (List Char × List Char)
  | [] => none
  | c :: rest =>
      if c = mark then
        some ([], rest)
      else
        (cutAt? mark rest).map fun (before, after) =>
          (c :: before, after)

/- What follows `lead` in a text that starts with it. -/
def dropLead?
    (lead text : List Char) : Option (List Char) :=
  if lead.isPrefixOf text then
    some (text.drop lead.length)
  else
    none

/- The text without its last character if that is `mark`. -/
def dropEnd?
    (mark : Char)
    (text : List Char) : Option (List Char) :=
  if text.getLast? = some mark then
    some text.dropLast
  else
    none

------------------------------------------------------------
-- Lines
------------------------------------------------------------

/-
  The lines of a text. A line ends with a line feed, and one
  carriage return directly before it belongs to the line end.
  A text that ends with a line feed has no empty line after
  it.
-/
def lines (text : List Char) : List (List Char) :=
  let parts := text.splitOn '\n'
  let ended := parts.dropLast.map fun line =>
    (dropEnd? '\r' line).getD line
  match parts.getLast? with
  | some [] | none => ended
  | some last => ended ++ [last]

/- The texts in order with `mark` between neighbours. -/
def join (mark : String) (texts : List String) : String :=
  String.intercalate mark texts

end Text

end BuildForm
