import BuildForm.Page.Basic
import BuildForm.Screen.Glyph
import BuildForm.Screen.Lines

/-
  The screen of a page: its form in a frame, and below it the
  keys and the status.

  Key definitions include:
    * `Screen.bodyHeight`
    * `Screen.frameRow`
    * `Screen.statusLine`
    * `Screen.draw`
-/

namespace BuildForm

namespace Screen

/- The rows of the frame: all but three, but at least five. -/
def bodyHeight (height : Nat) : Nat :=
  min height (max 5 (height - 3))

------------------------------------------------------------
-- The Frame
------------------------------------------------------------

/- A row of cells between two edges, cut to the width. -/
def edged
    (width : Nat)
    (left right : Char)
    (inner : List (List Char)) : List (List Char) :=
  match width with
  | 0 => []
  | 1 => [[left]]
  | _ => [left] :: inner ++ [[right]]

/- A row of the upper or lower edge with a title on it. -/
def edgeRow
    (width : Nat)
    (left right : Char)
    (title : String) : List (List Char) :=
  let inner := width - 2
  let glyphs :=
    Glyph.truncate inner 0 (Glyph.ofText title)
  let used := (glyphs.flatMap Glyph.cells).length
  edged width left right
    (glyphs.flatMap Glyph.cells ++
      List.replicate (inner - used) ['─'])

/-
  Row `y` of a frame of `height` rows with lines inside.
-/
def frameRow
    (width height : Nat)
    (title : String)
    (lines : List Line)
    (y : Nat) : List (List Char) :=
  if y = 0 then
    edgeRow width '┌' '┐' title
  else if y + 1 = height then
    edgeRow width '└' '┘' ""
  else
    let line := (lines[y - 1]?).getD []
    let inner := width - 2
    edged width '│' '│'
      (Glyph.fill inner
        (Glyph.truncate inner 0 (Glyph.ofLine line)))

------------------------------------------------------------
-- The Footer
------------------------------------------------------------

def actionsText : String :=
  "Actions: Up/Down scroll • PgUp/PgDn page • " ++
  "Enter/Esc/q close"

/- What the status line says about a page. -/
def statusText (form : Form) (status : StatusLine) : String :=
  let focus := match form.focus with
    | none => ""
    | some path => " • focus: " ++ path.elementName
  let changed :=
    if form.difference.isEmpty then
      ""
    else
      " • changed since approval: " ++
        String.ofList (Text.digits form.difference.count)
  status.message ++ focus ++ changed

/- The status with a badge for success or failure. -/
def statusSpans (form : Form) (status : StatusLine) : Line :=
  [{ text := "Status: " },
   { text := statusText form status },
   { text := " " },
   if status.isError then
    { text := "[!]", style := colored .red }
   else
    { text := "[ok]", style := colored .green }]

/- The rows below the frame. -/
def footerRows
    (width height : Nat)
    (form : Form)
    (status : StatusLine) : List (List (List Char)) :=
  let actions := Glyph.fill width
    (Glyph.truncate width 0 (Glyph.ofText actionsText))
  let rows := Wrapping.rowsOf width
    (Glyph.ofLine (statusSpans form status))
  let statusRows := (List.range 2).map fun y =>
    Glyph.fill width ((rows[y]?).getD [])
  (actions :: statusRows).take height

------------------------------------------------------------
-- The Screen
------------------------------------------------------------

/-
  The rows of a screen, whose frame shows the lines of the
  form from line `scroll` on.
-/
def draw
    (form : Form)
    (status : StatusLine)
    (width height scroll : Nat) : List String :=
  let body := bodyHeight height
  let lines := (formLines form (width - 2)).drop scroll
  let frame := (List.range body).map
    (frameRow width body form.chrome.title lines)
  let footer := footerRows width (height - body) form status
  (frame ++ footer).map fun cells =>
    String.ofList cells.flatten

end Screen

end BuildForm
