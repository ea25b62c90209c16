import BuildForm.Document.Json.Number

/-
  Writing JSON text, on one line or indented by two spaces.

  Key definitions include:
    * `Json.quote`
    * `Json.compact`
    * `Json.pretty`
-/

namespace BuildForm

namespace Json

------------------------------------------------------------
-- Strings
------------------------------------------------------------

/- The lower-case hexadecimal digit of a value below 16. -/
def hexDigit (value : Nat) : Char :=
  Nat.digitChar value

/-
  A character inside quotes: the quote, the backslash and
  control characters are escaped, all else stands for itself.
-/
def escape (c : Char) : List Char :=
  if c = '"' then ['\\', '"']
  else if c = '\\' then ['\\', '\\']
  else if c = '\x08' then ['\\', 'b']
  else if c = '\x0c' then ['\\', 'f']
  else if c = '\n' then ['\\', 'n']
  else if c = '\r' then ['\\', 'r']
  else if c = '\t' then ['\\', 't']
  else if c.toNat < 0x20 then
    ['\\', 'u', '0', '0', hexDigit (c.toNat / 16),
     hexDigit (c.toNat % 16)]
  else [c]

/- A text in quotes. -/
def quote (text : String) : List Char :=
  '"' :: text.toList.flatMap escape ++ ['"']

------------------------------------------------------------
-- Values on One Line
------------------------------------------------------------

mutual

/- A value without any space. -/
def compact : Value → List Char
  | .null => "null".toList
  | .flag true => "true".toList
  | .flag false => "false".toList
  | .number value => numberText value
  | .text value => quote value
  | .list items => '[' :: compactItems items
  | .table fields => '{' :: compactFields fields

/- The items of a list and its end. -/
def compactItems : List Value → List Char
  | [] => [']']
  | [item] => compact item ++ [']']
  | item :: rest => compact item ++ ',' :: compactItems rest

/- The fields of a table and its end. -/
def compactFields : List (String × Value) → List Char
  | [] => ['}']
  | [(key, value)] => quote key ++ ':' :: compact value ++ ['}']
  | (key, value) :: rest =>
      quote key ++ ':' :: compact value ++
        ',' :: compactFields rest

end

------------------------------------------------------------
-- Values on Many Lines
------------------------------------------------------------

/- A line break and the indentation of a depth. -/
def newline (depth : Nat) : List Char :=
  '\n' :: List.replicate (2 * depth) ' '

mutual

/-
  A value whose first character stands at the given depth,
  with a line for each item and each field.
-/
def prettyAt (depth : Nat) : Value → List Char
  | .null => "null".toList
  | .flag true => "true".toList
  | .flag false => "false".toList
  | .number value => numberText value
  | .text value => quote value
  | .list [] => ['[', ']']
  | .list (item :: rest) =>
      '[' :: prettyItems (depth + 1) (item :: rest) ++
        newline depth ++ [']']
  | .table [] => ['{', '}']
  | .table (field :: rest) =>
      '{' :: prettyFields (depth + 1) (field :: rest) ++
        newline depth ++ ['}']

/- The items of a list, each on a line of its own. -/
def prettyItems (depth : Nat) : List Value → List Char
  | [] => []
  | [item] => newline depth ++ prettyAt depth item
  | item :: rest =>
      newline depth ++ prettyAt depth item ++
        ',' :: prettyItems depth rest

/- The fields of a table, each on a line of its own. -/
def prettyFields
    (depth : Nat) : List (String × Value) → List Char
  | [] => []
  | [(key, value)] =>
      newline depth ++ quote key ++ ':' :: ' ' ::
        prettyAt depth value
  | (key, value) :: rest =>
      newline depth ++ quote key ++ ':' :: ' ' ::
        prettyAt depth value ++
        ',' :: prettyFields depth rest

end

/- A value on many lines. -/
def pretty (value : Value) : List Char :=
  prettyAt 0 value

end Json

end BuildForm
