import BuildForm.Document.Yaml.Scalar
import BuildForm.Document.Yaml.Token

/-
  Reading YAML text: block and flow collections and scalars
  of every style, without anchors, tags and explicit keys.

  Key definitions include:
    * `Yaml.readAtom?`
    * `Yaml.readFlow?`
    * `Yaml.readNode?`
    * `Yaml.maxDepth`
    * `Yaml.parse?`
-/

namespace BuildForm

namespace Yaml

------------------------------------------------------------
-- Atoms
------------------------------------------------------------

/- A scalar as it was written, with or without quotes. -/
structure Atom where
  text : List Char
  quoted : Bool
deriving DecidableEq, Repr

/- The value of a scalar; one in quotes is a text. -/
def Atom.value? (atom : Atom) : Option Value :=
  if atom.quoted then
    some (.text (String.ofList atom.text))
  else
    (Scalar.ofPlain atom.text).value? atom.text

/- The key that a scalar makes, whatever it stands for. -/
def Atom.key (atom : Atom) : String :=
  String.ofList atom.text

/- A plain or quoted scalar and the place after it. -/
def readAtom?
    (brackets : Bool)
    (indent : Nat)
    (cursor : Cursor) : Option (Atom × Cursor) :=
  let fuel := cursor.rest.length + 1
  match cursor.rest with
  | '\'' :: rest =>
      (readSingleQuoted? fuel rest).map fun (text, rest) =>
        ({ text, quoted := true }, cursor.advance rest)
  | '"' :: rest =>
      (readDoubleQuoted? fuel rest).map fun (text, rest) =>
        ({ text, quoted := true }, cursor.advance rest)
  | _ =>
      if startsPlain brackets cursor.rest then
        (readPlain? brackets indent fuel cursor).map
          fun (text, place) =>
            ({ text, quoted := false }, place)
      else
        none

/- How long a key may be, its quotes included. -/
def maxKeyLength : Nat := 1024

/-
  The place behind the colon, if a scalar is the key of a
  field. The colon is on the same line as the whole key.
-/
def afterKey?
    (brackets : Bool)
    (start stop : Cursor) : Option Cursor :=
  let next := stop.skip brackets true
  let key := start.upTo next.rest
  if key.any isLineEnd ∨ maxKeyLength < key.length then
    none
  else
    match next.rest with
    | ':' :: rest =>
        if brackets ∨ endsToken rest then
          some (next.advance rest)
        else
          none
    | _ => none

------------------------------------------------------------
-- Flow Collections
------------------------------------------------------------

/- The separator of items, or the end of their collection. -/
inductive Separator where
  | comma
  | close
deriving DecidableEq, Repr

/- The separator behind an item. -/
def readSeparator?
    (closing : Char)
    (cursor : Cursor) : Option (Separator × Cursor) :=
  let next := cursor.skip true true
  match next.rest with
  | c :: rest =>
      if c = ',' then
        some (.comma, next.advance rest)
      else if c = closing then
        some (.close, next.advance rest)
      else
        none
  | [] => none

/- The place behind a closing bracket, if that comes next. -/
def readClosing?
    (closing : Char)
    (cursor : Cursor) : Option Cursor :=
  let next := cursor.skip true true
  match next.rest with
  | c :: rest =>
      if c = closing then some (next.advance rest) else none
  | [] => none

mutual

/-
  A value inside of brackets, `depth` of which may still be
  opened; tabs do not reach below column `indent`.
-/
def readFlow?
    (indent : Nat) :
    (fuel depth : Nat) → Cursor → Option (Value × Cursor)
  | 0, _, _ => none
  | fuel + 1, depth, cursor =>
      match cursor.rest with
      | '[' :: rest =>
          match depth with
          | 0 => none
          | depth + 1 =>
              (readItems? indent fuel depth
                (cursor.advance rest)).map
                fun (items, place) => (.list items, place)
      | '{' :: rest =>
          match depth with
          | 0 => none
          | depth + 1 =>
              (readFields? indent fuel depth
                (cursor.advance rest)).map
                fun (fields, place) =>
                  (Value.object fields, place)
      | _ => do
          let (atom, place) ← readAtom? true indent cursor
          let value ← atom.value?
          some (value, place)

/- The value behind a colon inside of brackets; it may lack. -/
def readFlowField?
    (indent : Nat) :
    (fuel depth : Nat) → Cursor → Option (Value × Cursor)
  | 0, _, _ => none
  | fuel + 1, depth, cursor =>
      let next := cursor.skip true true
      match next.rest with
      | ',' :: _ | ']' :: _ | '}' :: _ => some (.null, next)
      | _ => readFlow? indent fuel depth next

/- An item of a flow list: a value or a single field. -/
def readItem?
    (indent : Nat) :
    (fuel depth : Nat) → Cursor → Option (Value × Cursor)
  | 0, _, _ => none
  | fuel + 1, depth, cursor =>
      match readFlow? indent fuel depth cursor with
      | none => none
      | some (value, stop) =>
          match readAtom? true indent cursor,
              afterKey? true cursor stop with
          | some (atom, _), some place =>
              (readFlowField? indent fuel depth place).map
                fun (value, place) =>
                  (.table [(atom.key, value)], place)
          | none, some _ => none
          | _, none => some (value, stop)

/- The items of a flow list up to its end. -/
def readItems?
    (indent : Nat) :
    (fuel depth : Nat) →
    Cursor → Option (List Value × Cursor)
  | 0, _, _ => none
  | fuel + 1, depth, cursor =>
      match readClosing? ']' cursor with
      | some place => some ([], place)
      | none =>
          match readItem? indent fuel depth
              (cursor.skip true true) with
          | none => none
          | some (item, place) =>
              match readSeparator? ']' place with
              | none => none
              | some (.close, place) => some ([item], place)
              | some (.comma, place) =>
                  (readItems? indent fuel depth place).map
                    fun (items, place) =>
                      (item :: items, place)

/- The fields of a flow table up to its end. -/
def readFields?
    (indent : Nat) :
    (fuel depth : Nat) →
    Cursor → Option (List (String × Value) × Cursor)
  | 0, _, _ => none
  | fuel + 1, depth, cursor =>
      match readClosing? '}' cursor with
      | some place => some ([], place)
      | none =>
          let start := cursor.skip true true
          match readAtom? true indent start with
          | none => none
          | some (atom, stop) =>
              let field? :=
                match afterKey? true start stop with
                | none => some (.null, stop)
                | some place => readFlowField? indent fuel depth place
              match field? with
              | none => none
              | some (value, place) =>
                  match readSeparator? '}' place with
                  | none => none
                  | some (.close, place) =>
                      some ([(atom.key, value)], place)
                  | some (.comma, place) =>
                      (readFields? indent fuel depth place).map
                        fun (fields, place) =>
                          ((atom.key, value) :: fields, place)

end

------------------------------------------------------------
-- Block Collections
------------------------------------------------------------

/- The place of the next token of a block collection. -/
def nextLine? (cursor : Cursor) : Option Cursor :=
  let next := cursor.skip false (!cursor.fresh)
  if next.fresh ∨ next.rest = [] then some next else none

mutual

/-
  The value of the token at a place, inside of a collection
  at column `parent`. `blocks` tells whether a block
  collection may start here.
-/
def readNode? :
    (fuel depth : Nat) →
    (parent : Int) → (blocks : Bool) →
    Cursor → Option (Value × Cursor)
  | 0, _, _, _, _ => none
  | fuel + 1, depth, parent, blocks, cursor =>
      match cursor.rest with
      | '|' :: rest =>
          (readBlockScalar? false parent
            (cursor.advance rest)).map fun (text, place) =>
              (.text (String.ofList text), place)
      | '>' :: rest =>
          (readBlockScalar? true parent
            (cursor.advance rest)).map fun (text, place) =>
              (.text (String.ofList text), place)
      | '[' :: _ | '{' :: _ =>
          readFlow? (parent + 1).toNat fuel depth cursor
      | _ =>
          if isItem cursor.rest then
            if blocks then
              readList? fuel depth cursor
            else
              none
          else
            match readAtom? false (parent + 1).toNat cursor with
            | none => none
            | some (atom, stop) =>
                match afterKey? false cursor stop with
                | some place =>
                    if blocks then
                      readTable? fuel depth cursor.column
                        atom.key place
                    else
                      none
                | none =>
                    atom.value?.map fun value => (value, stop)

/- A block list whose first indicator stands at the place. -/
def readList? :
    (fuel depth : Nat) → Cursor → Option (Value × Cursor)
  | 0, _, _ => none
  | fuel + 1, depth, cursor =>
      match depth with
      | 0 => none
      | depth + 1 =>
          (readEntries? fuel depth cursor).map
            fun (items, place) => (.list items, place)

/- The items of a block list from an indicator on. -/
def readEntries? :
    (fuel depth : Nat) →
    Cursor → Option (List Value × Cursor)
  | 0, _, _ => none
  | fuel + 1, depth, cursor =>
      let next :=
        (cursor.advance (cursor.rest.drop 1)).skip false false
      let entry? :=
        if next.atEnd ∨
            (next.fresh ∧ next.column ≤ cursor.column) then
          some (.null, next)
        else
          readNode? fuel depth cursor.column true next
      match entry? with
      | none => none
      | some (item, stop) =>
          match nextLine? stop with
          | none => none
          | some place =>
              if !place.atEnd ∧ place.column = cursor.column ∧
                  isItem place.rest then
                (readEntries? fuel depth place).map
                  fun (items, place) => (item :: items, place)
              else
                some ([item], place)

/- A block table whose first key has been read. -/
def readTable? :
    (fuel depth column : Nat) →
    (key : String) → Cursor → Option (Value × Cursor)
  | 0, _, _, _, _ => none
  | fuel + 1, depth, column, key, cursor =>
      match depth with
      | 0 => none
      | depth + 1 =>
          (readBlockFields? fuel depth column key cursor).map
            fun (fields, place) => (Value.object fields, place)

/-
  The fields of a block table at a column, from the place
  behind the colon of a key on.
-/
def readBlockFields? :
    (fuel depth column : Nat) →
    (key : String) →
    Cursor → Option (List (String × Value) × Cursor)
  | 0, _, _, _, _ => none
  | fuel + 1, depth, column, key, cursor =>
      match readBlockField? fuel depth column cursor with
      | none => none
      | some (value, stop) =>
          match nextLine? stop with
          | none => none
          | some place =>
              if place.atEnd ∨ place.column < column then
                some ([(key, value)], place)
              else if column < place.column then
                none
              else
                match readAtom? false (column + 1) place with
                | none => none
                | some (atom, stop) =>
                    match afterKey? false place stop with
                    | none => none
                    | some after =>
                        (readBlockFields? fuel depth column
                          atom.key after).map
                          fun (fields, place) =>
                            ((key, value) :: fields, place)

/-
  The value behind a colon in a block table at a column: on
  the same line, on a line that is indented more, or a list
  at the column of the table. It may lack.
-/
def readBlockField? :
    (fuel depth column : Nat) →
    Cursor → Option (Value × Cursor)
  | 0, _, _, _ => none
  | fuel + 1, depth, column, cursor =>
      let next := cursor.skip false true
      if next.atEnd then
        some (.null, next)
      else if !next.fresh then
        readNode? fuel depth column false next
      else if column < next.column then
        readNode? fuel depth column true next
      else if next.column = column ∧ isItem next.rest then
        readList? fuel depth next
      else
        some (.null, next)

end

------------------------------------------------------------
-- Documents
------------------------------------------------------------

/- How many collections may be open at once. -/
def maxDepth : Nat := 128

/- Make a line feed of every kind of line end. -/
def unifyLineEnds : List Char → List Char
  | [] => []
  | '\r' :: '\n' :: rest => '\n' :: unifyLineEnds rest
  | c :: rest =>
      (if c = '\r' ∨ c = '\u0085' then '\n' else c) ::
        unifyLineEnds rest

/- The first place of a text; a byte order mark fills a column. -/
def skipByteOrderMark (text : List Char) : Cursor :=
  match text with
  | '\ufeff' :: rest => { rest, column := 1 }
  | _ => { rest := text }

/- The mark of the start of a document, passed over. -/
def skipStart (cursor : Cursor) : Cursor :=
  match cursor.rest with
  | '-' :: '-' :: '-' :: rest =>
      if cursor.column = 0 ∧ endsToken rest then
        (cursor.advance rest).skip false true
      else
        cursor
  | _ => cursor

/- Whether nothing but the end of a document follows. -/
def isFinished (cursor : Cursor) : Bool :=
  match (cursor.skip false true).rest with
  | [] => true
  | '.' :: '.' :: '.' :: rest =>
      (Cursor.skip false true { rest }).rest = [] &&
        endsToken rest
  | _ => false

/- The value of a text with a single document or none. -/
def parse? (text : String) : Option Value :=
  let chars := unifyLineEnds text.toList
  if chars.all isAllowed then
    let start := skipStart
      ((skipByteOrderMark chars).skip false false)
    if start.atEnd then
      if isFinished start then some .null else none
    else
      match readNode? (4 * chars.length + 8) maxDepth (-1)
          start.fresh start with
      | none => none
      | some (value, stop) =>
          match nextLine? stop with
          | none => none
          | some place =>
              if isFinished place then some value else none
  else
    none

end Yaml

end BuildForm
