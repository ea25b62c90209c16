import BuildForm.Document.Toml.Moment
import BuildForm.Document.Toml.Tables
import BuildForm.Document.Toml.Token

/-
  Reading TOML text.

  Key definitions include:
    * `Toml.readValue?`
    * `Toml.Statement`
    * `Toml.readStatements?`
    * `Toml.Draft.add?`
    * `Toml.parse?`
-/

namespace BuildForm

namespace Toml

------------------------------------------------------------
-- Values
------------------------------------------------------------

/- How many arrays and inline tables may be open at once. -/
def maxDepth : Nat := 79

mutual

/-
  A value, in which `depth` arrays and inline tables may
  still be opened.
-/
def readValue? :
    (fuel depth : Nat) →
    List Char → Option (Value × List Char)
  | 0, _, _ => none
  | fuel + 1, depth, text =>
      match text with
      | '[' :: rest =>
          match depth with
          | 0 => none
          | depth + 1 =>
              (readItems? fuel depth rest).map
                fun (items, rest) => (.list items, rest)
      | '\x7b' :: rest =>
          match depth with
          | 0 => none
          | depth + 1 =>
              match skipGap rest with
              | '\x7d' :: rest => some (.table [], rest)
              | _ =>
                  (readInline? fuel depth [] rest).map
                    fun (fields, rest) =>
                      ((Item.table false false fields).toValue,
                        rest)
      | '"' :: _ | '\'' :: _ =>
          (readString? text).map fun (chars, rest) =>
            (.text (String.ofList chars), rest)
      | _ =>
          match Moment.read? text with
          | some (moment, rest) => some (moment.toValue, rest)
          | none =>
              (readWord? (text.takeWhile isWordChar)).map
                fun value => (value, text.dropWhile isWordChar)

/- The items of an array up to its end. -/
def readItems? :
    (fuel depth : Nat) →
    List Char → Option (List Value × List Char)
  | 0, _, _ => none
  | fuel + 1, depth, text =>
      match skipLines (text.length + 1) text with
      | ']' :: rest => some ([], rest)
      | text =>
          match readValue? fuel depth text with
          | none => none
          | some (item, rest) =>
              match skipLines (rest.length + 1) rest with
              | ']' :: rest => some ([item], rest)
              | ',' :: rest =>
                  (readItems? fuel depth rest).map
                    fun (items, rest) => (item :: items, rest)
              | _ => none

/-
  One field or more of an inline table up to its end, added
  to those before.
-/
def readInline? :
    (fuel depth : Nat) →
    Fields → List Char → Option (Fields × List Char)
  | 0, _, _, _ => none
  | fuel + 1, depth, fields, text =>
      match readKey? (text.length + 1) text with
      | some (key, '=' :: rest) =>
          match readValue? fuel depth (skipGap rest) with
          | none => none
          | some (value, rest) =>
              match addField? value key fields with
              | none => none
              | some fields =>
                  match skipGap rest with
                  | '\x7d' :: rest => some (fields, rest)
                  | ',' :: rest =>
                      readInline? fuel depth fields rest
                  | _ => none
      | _ => none

end

------------------------------------------------------------
-- Statements
------------------------------------------------------------

/- A line of a document that says something. -/
inductive Statement where
  | field (key : List String) (value : Value)
  | table (path : List String)
  | arrayTable (path : List String)

/- A statement and what follows it on its line. -/
def readStatement?
    (text : List Char) : Option (Statement × List Char) :=
  let fuel := text.length + 1
  match text with
  | '[' :: '[' :: rest =>
      match readKey? fuel rest with
      | some (path, ']' :: ']' :: rest) =>
          some (.arrayTable path, rest)
      | _ => none
  | '[' :: rest =>
      match readKey? fuel rest with
      | some (path, ']' :: rest) => some (.table path, rest)
      | _ => none
  | _ =>
      match readKey? fuel text with
      | some (key, '=' :: rest) =>
          (readValue? (2 * fuel) maxDepth (skipGap rest)).map
            fun (value, rest) => (.field key value, rest)
      | _ => none

/- The statements of a document, each on a line of its own. -/
def readStatements? :
    (fuel : Nat) → List Char → Option (List Statement)
  | 0, _ => none
  | fuel + 1, text =>
      match skipLines (text.length + 1) text with
      | [] => some []
      | text =>
          match readStatement? text with
          | none => none
          | some (statement, rest) =>
              match skipComment rest with
              | [] => some [statement]
              | '\n' :: rest =>
                  (readStatements? fuel rest).map
                    fun statements => statement :: statements
              | _ => none

------------------------------------------------------------
-- Documents
------------------------------------------------------------

/- The tables so far and the path of the open one. -/
structure Draft where
  root : Fields := []
  here : List String := []

/- Make the addition of a statement. -/
def Draft.add?
    (draft : Draft) : Statement → Option Draft
  | .field key value =>
      (atTable? (addField? value key) draft.here draft.root).map
        fun root => { draft with root }
  | .table path =>
      (addTable? path draft.root).map fun root =>
        { root, here := path }
  | .arrayTable path =>
      (addArrayTable? path draft.root).map fun root =>
        { root, here := path }

/- Make a line feed of a carriage return before one. -/
def unifyLineEnds : List Char → List Char
  | [] => []
  | '\r' :: '\n' :: rest => '\n' :: unifyLineEnds rest
  | c :: rest => c :: unifyLineEnds rest

/- The value of a document, every table in the order of keys. -/
def parse? (text : String) : Option Value := do
  let chars := unifyLineEnds
    ((Text.dropLead? ['\ufeff'] text.toList).getD text.toList)
  let statements ← readStatements? (chars.length + 1) chars
  let draft ← statements.foldlM Draft.add? {}
  some (Item.table false false draft.root).toValue

end Toml

end BuildForm
