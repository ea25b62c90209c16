import BuildForm.Document.Json.Number

/-
  Reading JSON text.

  Key definitions include:
    * `Json.readString?`
    * `Json.readValue?`
    * `Json.maxDepth`
    * `Json.parse?`
-/

namespace BuildForm

namespace Json

------------------------------------------------------------
-- Blanks and Strings
------------------------------------------------------------

/- The four characters that may stand between tokens. -/
def isSpace (c : Char) : Bool :=
  c = ' ' || c = '\n' || c = '\t' || c = '\r'

def skipSpace (text : List Char) : List Char :=
  text.dropWhile isSpace

/- The unit that four hexadecimal digits write. -/
def hexUnit? (a b c d : Char) : Option Nat := do
  let a ← Text.hexValue? a
  let b ← Text.hexValue? b
  let c ← Text.hexValue? c
  let d ← Text.hexValue? d
  some (((a * 16 + b) * 16 + c) * 16 + d)

/- The character of an escape with a single letter. -/
def shortEscape? : Char → Option Char
  | '"' => some '"'
  | '\\' => some '\\'
  | '/' => some '/'
  | 'b' => some '\x08'
  | 'f' => some '\x0c'
  | 'n' => some '\n'
  | 'r' => some '\r'
  | 't' => some '\t'
  | _ => none

def isHighSurrogate (unit : Nat) : Bool :=
  0xD800 ≤ unit && unit < 0xDC00

def isLowSurrogate (unit : Nat) : Bool :=
  0xDC00 ≤ unit && unit < 0xE000

/- The character of a pair of surrogates. -/
def pairChar (high low : Nat) : Char :=
  Char.ofNat
    ((high - 0xD800) * 0x400 + (low - 0xDC00) + 0x10000)

/-
  The rest of a string after its opening quote, up to the
  closing one. Control characters have to be escaped, and a
  surrogate counts only as half of a pair.
-/
def readString? :
    List Char → Option (List Char × List Char)
  | [] => none
  | '"' :: rest => some ([], rest)
  | '\\' :: 'u' :: a :: b :: c :: d :: rest =>
      match hexUnit? a b c d with
      | none => none
      | some unit =>
          if isLowSurrogate unit then
            none
          else if isHighSurrogate unit then
            match rest with
            | '\\' :: 'u' :: a :: b :: c :: d :: after =>
                match hexUnit? a b c d with
                | none => none
                | some low =>
                    if isLowSurrogate low then
                      (readString? after).map
                        fun (chars, rest) =>
                          (pairChar unit low :: chars, rest)
                    else
                      none
            | _ => none
          else
            (readString? rest).map fun (chars, rest) =>
              (Char.ofNat unit :: chars, rest)
  | '\\' :: c :: rest =>
      match shortEscape? c with
      | none => none
      | some char =>
          (readString? rest).map fun (chars, rest) =>
            (char :: chars, rest)
  | c :: rest =>
      if c = '\\' ∨ c.toNat < 0x20 then
        none
      else
        (readString? rest).map fun (chars, rest) =>
          (c :: chars, rest)

------------------------------------------------------------
-- Values
------------------------------------------------------------

/- How many lists and tables may be open at once. -/
def maxDepth : Nat := 127

mutual

/-
  A value at the head of the text. `fuel` bounds the steps,
  `depth` the lists and tables that may still be opened.
-/
def readValue? :
    (fuel depth : Nat) →
    List Char → Option (Value × List Char)
  | 0, _, _ => none
  | fuel + 1, depth, text =>
      match skipSpace text with
      | 'n' :: 'u' :: 'l' :: 'l' :: rest =>
          some (.null, rest)
      | 't' :: 'r' :: 'u' :: 'e' :: rest =>
          some (.flag true, rest)
      | 'f' :: 'a' :: 'l' :: 's' :: 'e' :: rest =>
          some (.flag false, rest)
      | '"' :: rest =>
          (readString? rest).map fun (chars, rest) =>
            (.text (String.ofList chars), rest)
      | '[' :: rest =>
          match depth with
          | 0 => none
          | depth + 1 =>
              match skipSpace rest with
              | ']' :: rest => some (.list [], rest)
              | _ =>
                  (readItems? fuel depth rest).map
                    fun (items, rest) => (.list items, rest)
      | '{' :: rest =>
          match depth with
          | 0 => none
          | depth + 1 =>
              match skipSpace rest with
              | '}' :: rest => some (.table [], rest)
              | _ =>
                  (readFields? fuel depth rest).map
                    fun (fields, rest) =>
                      (Value.object fields, rest)
      | text =>
          (readNumber? text).map fun (number, rest) =>
            (.number number, rest)

/- One item or more of a list, up to its end. -/
def readItems? :
    (fuel depth : Nat) →
    List Char → Option (List Value × List Char)
  | 0, _, _ => none
  | fuel + 1, depth, text =>
      match readValue? fuel depth text with
      | none => none
      | some (item, rest) =>
          match skipSpace rest with
          | ']' :: rest => some ([item], rest)
          | ',' :: rest =>
              (readItems? fuel depth rest).map
                fun (items, rest) => (item :: items, rest)
          | _ => none

/- One field or more of a table, up to its end. -/
def readFields? :
    (fuel depth : Nat) →
    List Char →
    Option (List (String × Value) × List Char)
  | 0, _, _ => none
  | fuel + 1, depth, text =>
      match skipSpace text with
      | '"' :: rest =>
          match readString? rest with
          | none => none
          | some (chars, rest) =>
              match skipSpace rest with
              | ':' :: rest =>
                  match readValue? fuel depth rest with
                  | none => none
                  | some (value, rest) =>
                      let field :=
                        (String.ofList chars, value)
                      match skipSpace rest with
                      | '}' :: rest => some ([field], rest)
                      | ',' :: rest =>
                          (readFields? fuel depth rest).map
                            fun (fields, rest) =>
                              (field :: fields, rest)
                      | _ => none
              | _ => none
      | _ => none

end

/-
  The value of a whole JSON text that opens at most `depth`
  lists and tables at once. Every step uses up a character,
  so the length of the text bounds them.
-/
def parseWithin?
    (depth : Nat)
    (text : List Char) : Option Value :=
  match readValue? (2 * text.length + 2) depth text with
  | some (value, rest) =>
      if (skipSpace rest).isEmpty then some value else none
  | none => none

/- The value of a JSON document. -/
def parse? (text : String) : Option Value :=
  parseWithin? maxDepth text.toList

end Json

end BuildForm
