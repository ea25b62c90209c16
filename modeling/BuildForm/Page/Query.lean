import BuildForm.Record.Mode
import BuildForm.Text.Numeral
import BuildForm.Text.Search
import BuildForm.Text.Utf8

/-
  The query that opens a page.

  Key definitions include:
    * `Query.percentDecode`
    * `PageRequest`
    * `PageRequest.parameter?`
    * `PageRequest.Fault`
    * `PageRequest.parse`
-/

namespace BuildForm

------------------------------------------------------------
-- Percent Decoding
------------------------------------------------------------

namespace Query

/- The value of a byte that is an ASCII hexadecimal digit. -/
def hexByte? (byte : UInt8) : Option Nat :=
  Text.hexValue? (Char.ofNat byte.toNat)

/-
  Put one byte in the place of each percent sign that two
  hexadecimal digits follow.
-/
def decodeBytes : List UInt8 → List UInt8
  | 0x25 :: high :: low :: rest =>
      match hexByte? high, hexByte? low with
      | some h, some l =>
          UInt8.ofNat (16 * h + l) :: decodeBytes rest
      | _, _ => 0x25 :: decodeBytes (high :: low :: rest)
  | byte :: rest => byte :: decodeBytes rest
  | [] => []

/-
  The text that a percent-encoded text stands for; bytes that
  make no character become U+FFFD.
-/
def percentDecode (text : List Char) : List Char :=
  Utf8.decodeLossy (decodeBytes (Utf8.encode text))

end Query

------------------------------------------------------------
-- Requests
------------------------------------------------------------

/- The mode of a page and the configuration it opens. -/
structure PageRequest where
  mode : PageMode
  name : Option String
deriving DecidableEq, Repr

namespace PageRequest

/- The request for a new configuration. -/
def create : PageRequest :=
  { mode := .create, name := none }

/- The request for a stored configuration. -/
def opening (mode : PageMode) (name : String) : PageRequest :=
  { mode, name := some name }

/- Why a query opens no page. -/
inductive Fault where
  | nameless (query : String)
  | typeless (query : String)
  | unknownType (type : String)
deriving DecidableEq, Repr

def Fault.message : Fault → String
  | .nameless query =>
      "query '" ++ query ++ "' does not name a configuration"
  | .typeless query =>
      "query '" ++ query ++ "' has no page type"
  | .unknownType type => "unknown page type '" ++ type ++ "'"

/-
  The value of a parameter. Of the first two pairs the first
  one that holds the parameter name anywhere is taken, and
  its value lies between the first two equals signs.
-/
def parameter?
    (pairs : List (List Char))
    (parameter : String) : Option (List Char) := do
  let pair ← (pairs.take 2).find?
    (Text.occursIn parameter.toList)
  (pair.splitOn '=')[1]?

/- The pairs of a query, percent encoding undone. -/
def pairs (query : List Char) : List (List Char) :=
  (Text.replaceAll "%20".toList [' ']
    (Query.percentDecode query)).splitOn '&'

/-
  The request of a query, of which one leading question mark
  is ignored. An empty query and the type `create` start a
  new configuration.
-/
def parse (query : String) : Except Fault PageRequest :=
  let text :=
    (Text.dropLead? ['?'] query.toList).getD query.toList
  if text.isEmpty then
    .ok create
  else
    let pairs := pairs text
    match parameter? pairs "name" with
    | none => .error (.nameless (String.ofList text))
    | some name =>
        match parameter? pairs "type" with
        | none => .error (.typeless (String.ofList text))
        | some type =>
            match PageMode.ofLabel? type with
            | none =>
                .error (.unknownType (String.ofList type))
            | some .create => .ok create
            | some mode =>
                .ok (opening mode (String.ofList name))

end PageRequest

end BuildForm
