import BuildForm.Record.Mode
import BuildForm.Text.Search

/-
  The formats of documents and how a file name tells them.

  Key definitions include:
    * `Format`
    * `Format.available`
    * `Format.extension`
    * `Format.ofExtension?`
    * `Format.extensionOf?`
    * `Format.ofPath?`
-/

namespace BuildForm

/- A document format. -/
inductive Format where
  | json
  | yaml
  | toml
deriving DecidableEq, Repr, Inhabited

namespace Format

/- The formats in the order in which files are looked for. -/
def available : List Format :=
  [.json, .yaml, .toml]

def extension : Format → String
  | .json => "json"
  | .yaml => "yaml"
  | .toml => "toml"

/- The name of a format in capital letters. -/
def title : Format → String
  | .json => "JSON"
  | .yaml => "YAML"
  | .toml => "TOML"

/- The format of an extension, its ASCII case aside. -/
def ofExtension? (extension : List Char) : Option Format :=
  match String.ofList (PageMode.lowerAscii extension) with
  | "json" => some .json
  | "yaml" | "yml" => some .yaml
  | "toml" => some .toml
  | _ => none

/-
  The last component of a path. Empty components and single
  dots do not count, and two dots name no file.
-/
def fileName? (path : List Char) : Option (List Char) :=
  let parts := (path.splitOn '/').filter fun part =>
    part ≠ [] && part ≠ ['.']
  match parts.getLast? with
  | some ['.', '.'] | none => none
  | some name => some name

/-
  The extension of a path: what follows the last dot of the
  file name, unless that is its first character.
-/
def extensionOf? (path : List Char) : Option (List Char) := do
  let name ← fileName? path
  let (reversed, stem) ← Text.cutAt? '.' name.reverse
  if stem.isEmpty then
    none
  else
    some reversed.reverse

/- The format that the extension of a path names. -/
def ofPath? (path : List Char) : Option Format := do
  let extension ← extensionOf? path
  ofExtension? extension

end Format

end BuildForm
