import BuildForm.Text.Numeral
import BuildForm.Text.Search

/-
  Places in a YAML text and what lies between its tokens.

  Key definitions include:
    * `Yaml.isPrintable`
    * `Yaml.isLineEnd`
    * `Yaml.Cursor`
    * `Yaml.Cursor.advance`
    * `Yaml.Cursor.skip`
    * `Yaml.Cursor.atEnd`
-/

namespace BuildForm

namespace Yaml

------------------------------------------------------------
-- Characters
------------------------------------------------------------

/- A character that a text may hold without an escape. -/
def isPrintable (c : Char) : Bool :=
  c = '\n' || (' ' ≤ c && c ≤ '~') ||
    (0xA0 ≤ c.toNat && c.toNat ≠ 0xFEFF &&
      c.toNat ≠ 0xFFFE && c.toNat ≠ 0xFFFF)

/- A character that may stand anywhere in a text. -/
def isAllowed (c : Char) : Bool :=
  isPrintable c || c = '\t' || c = '\ufeff'

/- A space or a tab. -/
def isGap (c : Char) : Bool :=
  c = ' ' || c = '\t'

/- A line feed, or a separator of lines or paragraphs. -/
def isLineEnd (c : Char) : Bool :=
  c = '\n' || c = '\u2028' || c = '\u2029'

/- A blank or a line end. -/
def isSpacing (c : Char) : Bool :=
  isGap c || isLineEnd c

/- Whether spacing or the end of the text follows. -/
def endsToken : List Char → Bool
  | [] => true
  | c :: _ => isSpacing c

/- The characters with a meaning of their own inside brackets. -/
def isBracketing (c : Char) : Bool :=
  [',', '[', ']', '{', '}'].contains c

/- A mark of the start or the end of a document. -/
def isDocumentMark : List Char → Bool
  | '-' :: '-' :: '-' :: rest => endsToken rest
  | '.' :: '.' :: '.' :: rest => endsToken rest
  | _ => false

/- The indicator of an item of a block list. -/
def isItem : List Char → Bool
  | '-' :: rest => endsToken rest
  | _ => false

------------------------------------------------------------
-- Cursors
------------------------------------------------------------

/-
  A place in a text: what follows, the column, and whether
  nothing but blanks stands before it on its line.
-/
structure Cursor where
  rest : List Char
  column : Nat := 0
  fresh : Bool := true
deriving DecidableEq, Repr

namespace Cursor

/- The column after some characters. -/
def columnAfter : (column : Nat) → List Char → Nat
  | column, [] => column
  | column, c :: rest =>
      columnAfter (if isLineEnd c then 0 else column + 1) rest

/- What lies between the place and a later rest. -/
def upTo (cursor : Cursor) (rest : List Char) : List Char :=
  cursor.rest.take (cursor.rest.length - rest.length)

/- The place after a token. -/
def advance (cursor : Cursor) (rest : List Char) : Cursor where
  rest := rest
  column := columnAfter cursor.column (cursor.upTo rest)
  fresh := false

/-
  Pass over blanks, comments and line ends. Tabs count as
  blanks inside of brackets, and elsewhere only behind a
  token of the same line, which `tabs` tells.
-/
def skipFrom
    (brackets : Bool) :
    (tabs : Bool) → Cursor → (fuel : Nat) → Cursor
  | _, cursor, 0 => cursor
  | tabs, cursor, fuel + 1 =>
      match cursor.rest with
      | [] => cursor
      | c :: rest =>
          if c = ' ' ∨ (c = '\t' ∧ tabs) then
            skipFrom brackets tabs
              { cursor with
                rest, column := cursor.column + 1 }
              fuel
          else if isLineEnd c then
            skipFrom brackets brackets { rest } fuel
          else if c = '#' then
            skipFrom brackets tabs
              { cursor with rest := rest.dropWhile (!isLineEnd ·) }
              fuel
          else
            cursor

/- The place of the next token. -/
def skip (brackets tabs : Bool) (cursor : Cursor) : Cursor :=
  skipFrom brackets (brackets || tabs) cursor
    (cursor.rest.length + 1)

/- Whether the document ends here. -/
def atEnd (cursor : Cursor) : Bool :=
  cursor.rest = [] ||
    (cursor.column = 0 && isDocumentMark cursor.rest)

end Cursor

end Yaml

end BuildForm
