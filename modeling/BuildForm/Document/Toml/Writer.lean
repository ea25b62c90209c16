import BuildForm.Document.Toml.Token

/-
  Writing TOML text.

  Key definitions include:
    * `Toml.stringText`
    * `Toml.keyText`
    * `Toml.inlineText?`
    * `Toml.tableText?`
    * `Toml.render?`
-/

namespace BuildForm

namespace Toml

------------------------------------------------------------
-- Strings
------------------------------------------------------------

/- The length of the longest run of a character. -/
def longestRun (mark : Char) : (run : Nat) → List Char → Nat
  | run, [] => run
  | run, c :: rest =>
      if c = mark then
        longestRun mark (run + 1) rest
      else
        max run (longestRun mark 0 rest)

/- Whether a control character has to be escaped. -/
def needsEscapes (text : List Char) : Bool :=
  text.any fun c => !isPlainChar c && c ≠ '\n'

/- An upper-case hexadecimal digit. -/
def hexDigit (value : Nat) : Char :=
  (Nat.digitChar value).toUpper

/- The escapes with a letter of their own. -/
def writtenEscapes : List (Char × Char) :=
  [('\x08', 'b'), ('\t', 't'), ('\n', 'n'), ('\x0c', 'f'),
   ('\r', 'r'), ('\\', '\\')]

/-
  A character other than the double quote inside of double
  quotes; a text of many lines keeps its line ends.
-/
def escape (long : Bool) (c : Char) : List Char :=
  if c = '\n' ∧ long then
    [c]
  else
    match writtenEscapes.lookup c with
    | some letter => ['\\', letter]
    | none =>
        if isPlainChar c then
          [c]
        else
          ['\\', 'u', '0', '0', hexDigit (c.toNat / 16),
           hexDigit (c.toNat % 16)]

/-
  A text inside of double quotes. At most `most` of them stand
  in a row; a further one is escaped and starts a new row.
-/
def escaped
    (long : Bool)
    (most : Nat) : (run : Nat) → List Char → List Char
  | _, [] => []
  | run, c :: rest =>
      if c = '"' then
        if run < most then
          '"' :: escaped long most (run + 1) rest
        else
          '\\' :: '"' :: escaped long most 0 rest
      else
        escape long c ++ escaped long most 0 rest

/- A text on one line in double quotes. -/
def basic (text : List Char) : List Char :=
  '"' :: escaped false 0 0 text ++ ['"']

/- A text on one line in single quotes. -/
def literal (text : List Char) : List Char :=
  '\'' :: text ++ ['\'']

/- A line end before a text of many lines, which drops it. -/
def opening (text : List Char) : List Char :=
  if '\n' ∈ text then ['\n'] else []

/- A text in three double quotes. -/
def longBasic (text : List Char) : List Char :=
  "\"\"\"".toList ++ opening text ++ escaped true 2 0 text ++
    "\"\"\"".toList

/- A text in three single quotes. -/
def longLiteral (text : List Char) : List Char :=
  "'''".toList ++ opening text ++ text ++ "'''".toList

/- Whether a text can be written without any escape. -/
def fitsBasic (text : List Char) : Bool :=
  !(needsEscapes text || text.contains '\\' ||
    text.contains '"' || text.contains '\n')

def fitsLiteral (text : List Char) : Bool :=
  !(needsEscapes text || text.contains '\'' ||
    text.contains '\n')

def fitsLongBasic (text : List Char) : Bool :=
  !(needsEscapes text || text.contains '\\' ||
    2 < longestRun '"' 0 text)

def fitsLongLiteral (text : List Char) : Bool :=
  !(needsEscapes text || 2 < longestRun '\'' 0 text)

/-
  A text in the first of the four kinds of quotes that needs
  no escape, or in double quotes with escapes.
-/
def stringText (text : List Char) : List Char :=
  if fitsBasic text then basic text
  else if fitsLiteral text then literal text
  else if fitsLongBasic text then longBasic text
  else if fitsLongLiteral text then longLiteral text
  else if '\n' ∈ text then longBasic text
  else basic text

/- A part of a key, in quotes only if it needs them. -/
def keyText (key : String) : List Char :=
  let text := key.toList
  if text ≠ [] ∧ text.all isBareChar then text
  else if fitsBasic text then basic text
  else if fitsLiteral text then literal text
  else basic text

/- The parts of a key with dots between them. -/
def pathText (path : List String) : List Char :=
  ['.'].intercalate (path.map keyText)

------------------------------------------------------------
-- Inline Values
------------------------------------------------------------

/- A number within 64 bits with a sign. -/
def numberText? : Number → Option (List Char)
  | .int value =>
      if value < Text.wordSize 63 then
        some (toString value).toList
      else
        none
  | .real value => some value.positional

/-
  The written items of an array: on one line, or with a line
  each if there are several and `pretty` is set.
-/
def arrayText
    (pretty : Bool)
    (items : List (List Char)) : List Char :=
  if pretty ∧ 1 < items.length then
    '[' ::
      (items.flatMap fun item =>
        '\n' :: List.replicate 4 ' ' ++ item ++ [',']) ++
      ['\n', ']']
  else
    '[' :: [',', ' '].intercalate items ++ [']']

/- The written fields of an inline table. -/
def inlineTableText (fields : List (List Char)) : List Char :=
  if fields = [] then
    ['\x7b', '\x7d']
  else
    '\x7b' :: ' ' :: [',', ' '].intercalate fields ++
      [' ', '\x7d']

mutual

/- A value behind an equals sign; null cannot be written. -/
def inlineText?
    (pretty : Bool) : Value → Option (List Char)
  | .null => none
  | .flag true => some "true".toList
  | .flag false => some "false".toList
  | .number value => numberText? value
  | .text text => some (stringText text.toList)
  | .list items =>
      (inlineItems? pretty items).map (arrayText pretty)
  | .table fields =>
      (inlineFields? pretty fields).map inlineTableText

def inlineItems?
    (pretty : Bool) :
    List Value → Option (List (List Char))
  | [] => some []
  | item :: rest => do
      let text ← inlineText? pretty item
      let texts ← inlineItems? pretty rest
      some (text :: texts)

def inlineFields?
    (pretty : Bool) :
    List (String × Value) → Option (List (List Char))
  | [] => some []
  | (key, value) :: rest => do
      let text ← inlineText? pretty value
      let texts ← inlineFields? pretty rest
      some ((keyText key ++ " = ".toList ++ text) :: texts)

end

------------------------------------------------------------
-- Tables
------------------------------------------------------------

def isTable : Value → Bool
  | .table _ => true
  | _ => false

/- Whether a value gets a header or headers of its own. -/
def hasHeader : Value → Bool
  | .table _ => true
  | .list items => !items.isEmpty && items.all isTable
  | _ => false

/- The fields that are written as lines of a table. -/
def lineFields
    (fields : List (String × Value)) :
    List (String × Value) :=
  fields.filter fun (_, value) => !hasHeader value

/- The lines of the fields that have no header. -/
def linesText?
    (pretty : Bool) :
    List (String × Value) → Option (List Char)
  | [] => some []
  | (key, value) :: rest => do
      let text ← inlineText? pretty value
      let lines ← linesText? pretty rest
      some (keyText key ++ " = ".toList ++ text ++
        '\n' :: lines)

/-
  A section of a document: the header of a table if it shows,
  and the lines of its own fields.
-/
structure Section where
  header : Option (List Char)
  lines : List Char
deriving DecidableEq, Repr

/-
  The section of a table with fields. A table that holds
  nothing but other tables needs no header.
-/
def tableSection?
    (pretty : Bool)
    (path : List String)
    (fields : List (String × Value)) : Option Section :=
  let own := lineFields fields
  (linesText? pretty own).map fun lines =>
    { header :=
        if own = [] ∧ fields ≠ [] then
          none
        else
          some ('[' :: pathText path ++ [']'])
      lines }

/- The section of a table of an array. -/
def arrayTableSection?
    (pretty : Bool)
    (path : List String)
    (fields : List (String × Value)) : Option Section :=
  (linesText? pretty (lineFields fields)).map fun lines =>
    { header :=
        some ('[' :: '[' :: pathText path ++ [']', ']'])
      lines }

mutual

/- The sections of a value with headers at a path. -/
def sections?
    (pretty : Bool)
    (path : List String) : Value → Option (List Section)
  | .table fields => do
      let own ← tableSection? pretty path fields
      let inner ← innerSections? pretty path fields
      some (own :: inner)
  | .list items =>
      if items.all isTable then
        arraySections? pretty path items
      else
        some []
  | _ => some []

/- The sections of the fields of a table with headers. -/
def innerSections?
    (pretty : Bool)
    (path : List String) :
    List (String × Value) → Option (List Section)
  | [] => some []
  | (key, value) :: rest => do
      let first ← sections? pretty (path ++ [key]) value
      let others ← innerSections? pretty path rest
      some (first ++ others)

/- The sections of the tables of an array. -/
def arraySections?
    (pretty : Bool)
    (path : List String) :
    List Value → Option (List Section)
  | [] => some []
  | .table fields :: rest => do
      let own ← arrayTableSection? pretty path fields
      let inner ← innerSections? pretty path fields
      let others ← arraySections? pretty path rest
      some (own :: inner ++ others)
  | _ :: rest => arraySections? pretty path rest

end

/-
  The sections one after the other. An empty line goes before
  a header unless nothing was written before.
-/
def joinSections :
    (first : Bool) → List Section → List Char
  | _, [] => []
  | first, ⟨none, lines⟩ :: rest =>
      lines ++ joinSections first rest
  | first, ⟨some header, lines⟩ :: rest =>
      (if first then [] else ['\n']) ++ header ++
        '\n' :: lines ++ joinSections false rest

/-
  A value as a document; only a table is one. The lines of
  the outermost table have no header.
-/
def render?
    (pretty : Bool) : Value → Option (List Char)
  | .table fields => do
      let lines ← linesText? pretty (lineFields fields)
      let inner ← innerSections? pretty [] fields
      some (lines ++ joinSections lines.isEmpty inner)
  | _ => none

end Toml

end BuildForm
