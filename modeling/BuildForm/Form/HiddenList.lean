import BuildForm.Text.Search

/-
  Lists of texts that are kept in one string, each entry with
  a semicolon after it.

  Key definitions include:
    * `HiddenList.encode`
    * `HiddenList.strip`
    * `HiddenList.decode`
    * `HiddenList`
    * `HiddenList.push`
    * `HiddenList.remove`
-/

namespace BuildForm

/- A hidden input: its raw string. -/
structure HiddenList where
  raw : String := ""
deriving DecidableEq, Repr, Inhabited

namespace HiddenList

------------------------------------------------------------
-- Raw Strings
------------------------------------------------------------

def separator : Char := ';'

/-
  Append a value and a separator. A separator goes before the
  value only where the string lacks one at its end.
-/
def encodeChars (existing value : List Char) : List Char :=
  let joint :=
    if existing = [] ∨ existing.getLast? = some separator then
      []
    else
      [separator]
  existing ++ joint ++ value ++ [separator]

/-
  Cut the first occurrence of a text, wherever it lies, then
  make the first doubled separator single, then drop one
  separator at the start and one at the end.
-/
def stripChars (existing value : List Char) : List Char :=
  let cut := Text.replaceFirst value [] existing
  let single :=
    Text.replaceFirst
      [separator, separator] [separator] cut
  let noLead := (Text.dropLead? [separator] single).getD single
  (Text.dropEnd? separator noLead).getD noLead

/- The entries between separators, the empty ones left out. -/
def decodeChars (raw : List Char) : List (List Char) :=
  (raw.splitOn separator).filter (· ≠ [])

def encode (existing value : String) : String :=
  String.ofList (encodeChars existing.toList value.toList)

def strip (existing value : String) : String :=
  String.ofList (stripChars existing.toList value.toList)

def decode (raw : String) : List String :=
  (decodeChars raw.toList).map String.ofList

------------------------------------------------------------
-- Hidden Inputs
------------------------------------------------------------

def empty : HiddenList := {}

def push (list : HiddenList) (value : String) : HiddenList :=
  { raw := encode list.raw value }

def remove (list : HiddenList) (value : String) : HiddenList :=
  { raw := strip list.raw value }

/- The entries of a hidden input. -/
def entries (list : HiddenList) : List String :=
  decode list.raw

def contains (list : HiddenList) (value : String) : Bool :=
  list.entries.contains value

def isEmpty (list : HiddenList) : Bool :=
  list.raw = ""

/- The hidden input to which the entries are pushed in turn. -/
def ofEntries (entries : List String) : HiddenList :=
  entries.foldl push empty

end HiddenList

end BuildForm
