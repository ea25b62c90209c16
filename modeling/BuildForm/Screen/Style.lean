import BuildForm.Text.Blank
import BuildForm.Text.Search

/-
  Styled text on the screen.

  Key definitions include:
    * `Color`
    * `Style`
    * `Span`
    * `Line`
-/

namespace BuildForm

inductive Color where
  | white
  | cyan
  | red
  | yellow
  | green
  | gray
  | darkGray
  | rgb (red green blue : UInt8)
deriving DecidableEq, Repr

/- How a text shows. -/
structure Style where
  color : Option Color := none
  bold : Bool := false
  crossed : Bool := false
deriving DecidableEq, Repr, Inhabited

/- A text of one style. -/
structure Span where
  text : String
  style : Style := {}
deriving DecidableEq, Repr

abbrev Line := List Span

namespace Line

/- A line of one text in a style. -/
def styled (text : String) (style : Style) : Line :=
  [{ text, style }]

/- A line of a plain text, a span for each line of the text. -/
def plain (text : String) : Line :=
  (Text.lines text.toList).map fun part =>
    { text := String.ofList part }

end Line

end BuildForm
