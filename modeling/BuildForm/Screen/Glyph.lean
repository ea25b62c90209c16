import BuildForm.Screen.Style

/-
  What fills the cells of a screen row, and breaking a row of
  it into rows of a width.

  Key definitions include:
    * `Glyph`
    * `Glyph.ofText`
    * `Glyph.truncate`
    * `Glyph.fill`
    * `Wrapping`
    * `Wrapping.rows`
-/

namespace BuildForm

/- A symbol, the columns it takes, and whether it is blank. -/
structure Glyph where
  symbol : List Char
  width : Nat
  blank : Bool
deriving DecidableEq, Repr

namespace Glyph

------------------------------------------------------------
-- Widths
------------------------------------------------------------

/- Code point ranges of characters that take two columns. -/
def wideRanges : List (Nat × Nat) :=
  [(0x1100, 0x115F), (0x2E80, 0x303E), (0x3041, 0x33FF),
   (0x3400, 0x4DBF), (0x4E00, 0x9FFF), (0xA000, 0xA4CF),
   (0xA960, 0xA97F), (0xAC00, 0xD7A3), (0xF900, 0xFAFF),
   (0xFE30, 0xFE6F), (0xFF01, 0xFF60), (0xFFE0, 0xFFE6),
   (0x1F300, 0x1F64F), (0x1F680, 0x1F6FF),
   (0x1F900, 0x1F9FF), (0x20000, 0x3FFFD)]

/- Code point ranges of marks that join what they follow. -/
def markRanges : List (Nat × Nat) :=
  [(0x300, 0x36F), (0x483, 0x489), (0x591, 0x5BD),
   (0x610, 0x61A), (0x64B, 0x65F), (0x1AB0, 0x1AFF),
   (0x1DC0, 0x1DFF), (0x200C, 0x200D), (0x20D0, 0x20FF),
   (0xFE00, 0xFE0F), (0xFE20, 0xFE2F)]

def within (ranges : List (Nat × Nat)) (c : Char) : Bool :=
  ranges.any fun (low, high) =>
    low ≤ c.toNat && c.toNat ≤ high

/- The zero-width space, the soft hyphen and the joiner. -/
def isInvisible (c : Char) : Bool :=
  c.toNat = 0x200B || c.toNat = 0xAD || c.toNat = 0x2060

def charWidth (c : Char) : Nat :=
  if isInvisible c || within markRanges c then 0
  else if within wideRanges c then 2
  else 1

/-
  White space counts as blank except for the no-break space;
  the zero-width space counts as well.
-/
def isBlankChar (c : Char) : Bool :=
  c.toNat = 0x200B || (Text.isBlank c && c.toNat ≠ 0xA0)

/- The glyph of one character. -/
def ofChar (c : Char) : Glyph where
  symbol := [c]
  width := charWidth c
  blank := isBlankChar c

/- A glyph with a mark that joins it. -/
def addMark (glyph : Glyph) (c : Char) : Glyph :=
  { glyph with symbol := glyph.symbol ++ [c], blank := false }

/-
  The glyphs of a text. Marks join the glyph before them, a
  line end of two characters is one glyph, and a line feed of
  its own is left out. `last` is the glyph being read.
-/
def glyphsFrom : Option Glyph → List Char → List Glyph
  | last, [] => last.toList
  | last, '\r' :: '\n' :: rest =>
      last.toList ++
        glyphsFrom
          (some
            { symbol := ['\r', '\n'], width := 1, blank := true })
          rest
  | last, '\n' :: rest => last.toList ++ glyphsFrom none rest
  | some glyph, c :: rest =>
      if within markRanges c then
        glyphsFrom (some (glyph.addMark c)) rest
      else
        glyph :: glyphsFrom (some (ofChar c)) rest
  | none, c :: rest => glyphsFrom (some (ofChar c)) rest

def ofText (text : String) : List Glyph :=
  glyphsFrom none text.toList

/- The glyphs of a line, whose spans do not join. -/
def ofLine (line : Line) : List Glyph :=
  line.flatMap fun span => ofText span.text

------------------------------------------------------------
-- Rows
------------------------------------------------------------

/-
  The glyphs at the start of a line that fit into a width. A
  glyph that is wider than a whole row is passed over.
-/
def truncate
    (limit : Nat) :
    (used : Nat) → List Glyph → List Glyph
  | _, [] => []
  | used, glyph :: rest =>
      if limit < glyph.width then
        truncate limit used rest
      else if limit < used + glyph.width then
        []
      else
        glyph :: truncate limit (used + glyph.width) rest

/- The cells that a glyph takes. -/
def cells (glyph : Glyph) : List (List Char) :=
  if glyph.width = 0 then
    []
  else
    glyph.symbol :: List.replicate (glyph.width - 1) [' ']

/- The columns that glyphs take. -/
def totalWidth (glyphs : List Glyph) : Nat :=
  glyphs.foldr (Glyph.width · + ·) 0

/- A row of `limit` cells that starts with the glyphs. -/
def fill
    (limit : Nat)
    (glyphs : List Glyph) : List (List Char) :=
  let used := glyphs.flatMap cells
  (used ++ List.replicate (limit - used.length) [' ']).take
    limit

end Glyph

------------------------------------------------------------
-- Breaking Rows
------------------------------------------------------------

/-
  A row being filled: its glyphs and columns, then the spaces
  and the word that are read but not yet part of it.
-/
structure Wrapping where
  rows : List (List Glyph) := []
  row : List Glyph := []
  rowWidth : Nat := 0
  spaces : List Glyph := []
  spacesWidth : Nat := 0
  word : List Glyph := []
  wordWidth : Nat := 0
  afterWord : Bool := false

namespace Wrapping

/-
  Drop spaces that the rest of a finished row has room for.
-/
def dropSpaces :
    (room : Nat) → List Glyph → List Glyph
  | _, [] => []
  | room, glyph :: rest =>
      if room < glyph.width then
        glyph :: rest
      else
        dropSpaces (room - glyph.width) rest

/- Take the word that was read into the row. -/
def takeWord (w : Wrapping) : Wrapping :=
  let spaces := if w.row.isEmpty then [] else w.spaces
  let spacesWidth := if w.row.isEmpty then 0 else w.spacesWidth
  { w with
    row := w.row ++ spaces ++ w.word
    rowWidth := w.rowWidth + spacesWidth + w.wordWidth
    spaces := []
    spacesWidth := 0
    word := []
    wordWidth := 0 }

/- Finish the row and start the next one. -/
def finishRow (limit : Nat) (w : Wrapping) : Wrapping :=
  let spaces := dropSpaces (limit - w.rowWidth) w.spaces
  { w with
    rows := w.rows ++ [w.row]
    row := []
    rowWidth := 0
    spaces
    spacesWidth := Glyph.totalWidth spaces }

/- Read one more glyph. -/
def push
    (limit : Nat)
    (w : Wrapping)
    (glyph : Glyph) : Wrapping :=
  if limit < glyph.width then
    w
  else
    let overflows :=
      w.row.isEmpty &&
        (limit < w.wordWidth + glyph.width ||
          limit < w.spacesWidth + glyph.width)
    let w :=
      if (w.afterWord && glyph.blank) || overflows then
        w.takeWord
      else
        w
    let isFull :=
      limit ≤ w.rowWidth ||
        (0 < glyph.width &&
          limit ≤ w.rowWidth + w.spacesWidth + w.wordWidth)
    let w := if isFull then w.finishRow limit else w
    if isFull && glyph.blank && w.spaces.isEmpty then
      w
    else if glyph.blank then
      { w with
        spaces := w.spaces ++ [glyph]
        spacesWidth := w.spacesWidth + glyph.width
        afterWord := false }
    else
      { w with
        word := w.word ++ [glyph]
        wordWidth := w.wordWidth + glyph.width
        afterWord := true }

/- All rows after the last glyph. -/
def close (w : Wrapping) : List (List Glyph) :=
  let blankOnly :=
    w.row.isEmpty && w.word.isEmpty && !w.spaces.isEmpty
  let rows := if blankOnly then w.rows ++ [[]] else w.rows
  let last := w.takeWord.row
  if !last.isEmpty then rows ++ [last]
  else if rows.isEmpty then [[]]
  else rows

/- The rows of a line within a width. -/
def rowsOf
    (limit : Nat)
    (glyphs : List Glyph) : List (List Glyph) :=
  (glyphs.foldl (push limit) {}).close

end Wrapping

end BuildForm
