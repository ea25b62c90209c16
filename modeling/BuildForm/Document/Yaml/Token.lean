import BuildForm.Document.Yaml.Layout

/-
  The scalars of a YAML text, read from a place.

  Key definitions include:
    * `Yaml.readPlain?`
    * `Yaml.readSingleQuoted?`
    * `Yaml.readDoubleQuoted?`
    * `Yaml.readBlockScalar?`
-/

namespace BuildForm

namespace Yaml

------------------------------------------------------------
-- Folding
------------------------------------------------------------

/-
  What a run of blanks and line ends between two parts of a
  scalar stands for: a single line feed is a space, and in
  front of other line ends it is dropped.
-/
def foldGap (gap : List Char) : List Char :=
  match gap.filter isLineEnd with
  | [] => gap
  | ['\n'] => [' ']
  | '\n' :: ends => ends
  | ends => ends

------------------------------------------------------------
-- Plain Scalars
------------------------------------------------------------

/- Whether a plain scalar may start here. -/
def startsPlain (brackets : Bool) : List Char → Bool
  | [] => false
  | '-' :: rest =>
      !endsToken rest
  | '?' :: rest | ':' :: rest =>
      !brackets && !endsToken rest
  | c :: _ =>
      !(isSpacing c || isBracketing c ||
        ['#', '&', '*', '!', '|', '>', '\'', '"', '%', '@',
         '\x60'].contains c)

/-
  The part of a plain scalar on one line, blanks before a
  comment or the line end possibly included. The flag tells
  that a blank came before.
-/
def takePlain
    (brackets : Bool) :
    (afterGap : Bool) → List Char → List Char
  | _, [] => []
  | afterGap, c :: rest =>
      if isLineEnd c then
        []
      else if c = ':' ∧ (endsToken rest ∨
          (brackets ∧
            rest.head?.any fun d =>
              isBracketing d || d = '?')) then
        []
      else if c = '#' ∧ afterGap then
        []
      else if brackets ∧ isBracketing c then
        []
      else
        c :: takePlain brackets (isGap c) rest

/- A text without blanks at its end. -/
def dropTrailingGap (text : List Char) : List Char :=
  (text.reverse.dropWhile isGap).reverse

/-
  Whether a tab stands before column `indent` on a line that
  starts within a gap. `column` is none on the first line.
-/
def hasEarlyTab
    (indent : Nat) :
    (column : Option Nat) → List Char → Bool
  | _, [] => false
  | column, c :: rest =>
      if isLineEnd c then
        hasEarlyTab indent (some 0) rest
      else
        (c = '\t' && column.any (· < indent)) ||
          hasEarlyTab indent (column.map (· + 1)) rest

/-
  A plain scalar and the place after it. Its further lines
  have to be indented to `indent` columns outside of
  brackets; a line that would start with something else ends
  it, and so does a comment.
-/
def readPlain?
    (brackets : Bool)
    (indent : Nat) :
    (fuel : Nat) → Cursor → Option (List Char × Cursor)
  | 0, _ => none
  | fuel + 1, cursor =>
      let part :=
        dropTrailingGap (takePlain brackets false cursor.rest)
      let after := cursor.advance
        (cursor.rest.drop part.length)
      let gap := after.rest.takeWhile isSpacing
      let next := after.advance
        (after.rest.drop gap.length)
      let more := takePlain brackets true next.rest
      if hasEarlyTab indent none gap then
        none
      else if brackets ∧ after.rest.head? = some ':' ∧
          !endsToken (after.rest.drop 1) then
        none
      else if !gap.any isLineEnd ∨ next.atEnd ∨ more = [] then
        some (part, after)
      else if !brackets ∧ next.column < indent then
        some (part, after)
      else
        (readPlain? brackets indent fuel next).map
          fun (text, place) =>
            (part ++ foldGap gap ++ text, place)

------------------------------------------------------------
-- Quoted Scalars
------------------------------------------------------------

/-
  The spacing at the start of a text and what follows it; no
  document may end within a quoted scalar.
-/
def takeGap? (text : List Char) :
    Option (List Char × List Char) :=
  let gap := text.takeWhile isSpacing
  let rest := text.dropWhile isSpacing
  if gap.getLast?.any isLineEnd ∧ isDocumentMark rest then
    none
  else
    some (gap, rest)

/- The rest of a scalar in single quotes. -/
def readSingleQuoted? :
    (fuel : Nat) →
    List Char → Option (List Char × List Char)
  | 0, _ => none
  | _, [] => none
  | fuel + 1, '\'' :: '\'' :: rest =>
      (readSingleQuoted? fuel rest).map
        fun (text, rest) => ('\'' :: text, rest)
  | _, '\'' :: rest => some ([], rest)
  | fuel + 1, c :: rest =>
      if isSpacing c then do
        let (gap, rest) ← takeGap? (c :: rest)
        let (text, rest) ← readSingleQuoted? fuel rest
        some (foldGap gap ++ text, rest)
      else
        (readSingleQuoted? fuel rest).map
          fun (text, rest) => (c :: text, rest)

/- The escapes that stand for one character each. -/
def shortEscapes : List (Char × Char) :=
  [('0', '\x00'), ('a', '\x07'), ('b', '\x08'),
   ('t', '\t'), ('\t', '\t'), ('n', '\n'), ('v', '\x0b'),
   ('f', '\x0c'), ('r', '\r'), ('e', '\x1b'), (' ', ' '),
   ('"', '"'), ('/', '/'), ('\\', '\\'), ('N', '\u0085'),
   ('_', '\u00a0'), ('L', '\u2028'), ('P', '\u2029')]

/- How many hexadecimal digits follow the letter of an escape. -/
def escapeLength? : Char → Option Nat
  | 'x' => some 2
  | 'u' => some 4
  | 'U' => some 8
  | _ => none

/- The character of a number of hexadecimal digits. -/
def readHex? (row : List Char) (length : Nat) : Option Char := do
  let value ← (row.take length).foldlM
    (fun value c => do
      let digit ← Text.hexValue? c
      some (16 * value + digit))
    0
  if row.length < length then
    none
  else if Nat.isValidChar value then
    some (Char.ofNat value)
  else
    none

/-
  What an escape stands for and what follows it, read behind
  the backslash. A line end is dropped together with the
  blanks after it.
-/
def readEscape? :
    List Char → Option (List Char × List Char)
  | [] => none
  | c :: rest =>
      if isLineEnd c then
        (takeGap? (c :: rest)).map fun (gap, rest) =>
          ((gap.filter isLineEnd).drop 1, rest)
      else
        match shortEscapes.lookup c, escapeLength? c with
        | some char, _ => some ([char], rest)
        | none, some length =>
            (readHex? rest length).map fun char =>
              ([char], rest.drop length)
        | none, none => none

/- The rest of a scalar in double quotes. -/
def readDoubleQuoted? :
    (fuel : Nat) →
    List Char → Option (List Char × List Char)
  | 0, _ => none
  | _, [] => none
  | _, '"' :: rest => some ([], rest)
  | fuel + 1, '\\' :: rest => do
      let (part, rest) ← readEscape? rest
      let (text, rest) ← readDoubleQuoted? fuel rest
      some (part ++ text, rest)
  | fuel + 1, c :: rest =>
      if isSpacing c then do
        let (gap, rest) ← takeGap? (c :: rest)
        let (text, rest) ← readDoubleQuoted? fuel rest
        some (foldGap gap ++ text, rest)
      else
        (readDoubleQuoted? fuel rest).map
          fun (text, rest) => (c :: text, rest)

------------------------------------------------------------
-- Block Scalars
------------------------------------------------------------

/- What becomes of the line ends after a block scalar. -/
inductive Chomping where
  | strip
  | clip
  | keep
deriving DecidableEq, Repr

/- The header of a block scalar. -/
structure BlockHeader where
  folded : Bool
  chomping : Chomping := .clip
  increment : Option Nat := none
deriving DecidableEq, Repr

/-
  Read the two marks that may follow the indicator of a block
  scalar, in either order.
-/
def readMarks
    (header : BlockHeader) :
    (count : Nat) → List Char → BlockHeader × List Char
  | 0, text => (header, text)
  | count + 1, c :: rest =>
      if c = '-' ∧ header.chomping = .clip then
        readMarks { header with chomping := .strip } count rest
      else if c = '+' ∧ header.chomping = .clip then
        readMarks { header with chomping := .keep } count rest
      else if '1' ≤ c ∧ c ≤ '9' ∧ header.increment = none then
        readMarks
          { header with increment := some (Text.digitValue c) }
          count rest
      else
        (header, c :: rest)
  | _ + 1, [] => (header, [])

/-
  A header and the lines after it. Only a comment may follow
  the marks.
-/
def readHeader?
    (folded : Bool)
    (text : List Char) : Option (BlockHeader × List Char) :=
  let (header, rest) := readMarks { folded } 2 text
  let after := rest.dropWhile isGap
  let rest := match after with
    | '#' :: comment => comment.dropWhile (!isLineEnd ·)
    | _ => after
  match rest with
  | [] => some (header, [])
  | c :: lines =>
      if isLineEnd c then some (header, lines) else none

/- How many spaces a text starts with. -/
def leadingSpaces (text : List Char) : Nat :=
  (text.takeWhile (· = ' ')).length

/-
  The indentation of a block scalar: that of its first line
  with something on it, or of a longer blank line before. No
  tab may follow it.
-/
def detectIndent? : (fuel : Nat) → List Char → Option Nat
  | 0, _ => none
  | fuel + 1, text =>
      let spaces := leadingSpaces text
      match text.drop spaces with
      | [] => some spaces
      | c :: rest =>
          if c = '\t' then
            none
          else if isLineEnd c then
            (detectIndent? fuel rest).map (max spaces)
          else
            some spaces

/-
  A line of a block scalar and the line end behind it, which
  the last line may lack.
-/
inductive BlockLine where
  | blank (ending : Char)
  | content (text : List Char) (ending : Option Char)
deriving DecidableEq, Repr

/-
  The lines of a block scalar and what follows them: the
  first line that is indented less and not blank. No tab may
  be part of the indentation.
-/
def takeBlock?
    (indent : Nat) :
    (fuel : Nat) →
    List Char → Option (List BlockLine × List Char)
  | 0, _ => none
  | fuel + 1, text =>
      let spaces := min indent (leadingSpaces text)
      match text.drop spaces with
      | [] => some ([], [])
      | c :: rest =>
          if isLineEnd c then
            (takeBlock? indent fuel rest).map
              fun (lines, after) => (.blank c :: lines, after)
          else if spaces < indent then
            if c = '\t' then none else some ([], text)
          else
            let line := c :: rest.takeWhile (!isLineEnd ·)
            match rest.dropWhile (!isLineEnd ·) with
            | [] => some ([.content line none], [])
            | ending :: rest =>
                (takeBlock? indent fuel rest).map
                  fun (lines, after) =>
                    (.content line (some ending) :: lines, after)

/-
  What stands between two lines of a block scalar: the end of
  the first one and those of blank lines. Folding makes a
  space of a single line feed and drops it before others,
  unless one of the lines starts with a blank.
-/
def blockJoint
    (folded : Bool)
    (before after : List Char)
    (ending : Option Char)
    (blanks : List Char) : List Char :=
  let isIndented (line : List Char) := line.head?.any isGap
  if folded ∧ ending = some '\n' ∧
      !isIndented before ∧ !isIndented after then
    if blanks = [] then [' '] else blanks
  else
    ending.toList ++ blanks

/-
  The text of the lines that follow a line, some blank ones
  already seen.
-/
def blockRest
    (header : BlockHeader)
    (before : List Char)
    (ending : Option Char) :
    (blanks : List Char) → List BlockLine → List Char
  | blanks, [] =>
      match header.chomping with
      | .strip => []
      | .clip => ending.toList
      | .keep => ending.toList ++ blanks
  | blanks, .blank c :: lines =>
      blockRest header before ending (blanks ++ [c]) lines
  | blanks, .content line next :: lines =>
      blockJoint header.folded before line ending blanks ++
        line ++ blockRest header line next [] lines

/- The text of a block scalar, some blank lines already seen. -/
def blockText
    (header : BlockHeader) :
    (blanks : List Char) → List BlockLine → List Char
  | blanks, [] =>
      if header.chomping = .keep then blanks else []
  | blanks, .blank c :: lines =>
      blockText header (blanks ++ [c]) lines
  | blanks, .content line ending :: lines =>
      blanks ++ line ++ blockRest header line ending [] lines

/-
  A block scalar inside of a collection at column `parent`,
  read behind its indicator, and the place after it.
-/
def readBlockScalar?
    (folded : Bool)
    (parent : Int)
    (cursor : Cursor) : Option (List Char × Cursor) := do
  let (header, lines) ← readHeader? folded cursor.rest
  let fuel := lines.length + 1
  let indent ← match header.increment with
    | some increment =>
        some (max parent 0 + increment).toNat
    | none =>
        (detectIndent? fuel lines).map
          (max (max (parent + 1) 1).toNat)
  let (content, rest) ← takeBlock? indent fuel lines
  some (blockText header [] content, { rest })

end Yaml

end BuildForm
