import BuildForm.Document.Fault
import BuildForm.Document.Json.Reader
import BuildForm.Document.Json.Writer
import BuildForm.Document.Toml.Reader
import BuildForm.Document.Toml.Writer
import BuildForm.Document.Yaml.Reader
import BuildForm.Document.Yaml.Writer

/-
  Documents of any format, read and written.

  Key definitions include:
    * `Document.parse`
    * `Document.readAs`
    * `Document.render`
    * `Document.renderRecord`
-/

namespace BuildForm

namespace Document

/- The value of a document. -/
def parse
    (format : Format)
    (text : String) : Except DocumentFault Value :=
  let value? := match format with
    | .json => Json.parse? text
    | .yaml => Yaml.parse? text
    | .toml => Toml.parse? text
  match value? with
  | some value => .ok value
  | none => .error (.unreadable format)

/- The record that a document holds. -/
def readAs
    {α : Type}
    (ofValue? : Value → Option α)
    (format : Format)
    (text : String) : Except DocumentFault α :=
  match parse format text with
  | .error fault => .error fault
  | .ok value =>
      match ofValue? value with
      | some record => .ok record
      | none => .error (.misshapen format)

/- A value as a document, on as few or on many lines. -/
def render
    (format : Format)
    (pretty : Bool)
    (value : Value) : Except DocumentFault String :=
  let text? := match format with
    | .json =>
        some (if pretty then
          Json.pretty value
        else
          Json.compact value)
    | .yaml => some (Yaml.render value)
    | .toml => Toml.render? pretty value
  match text? with
  | some text => .ok (String.ofList text)
  | none => .error (.unwritable format)

/-
  A record as a document. A format without null leaves out
  the fields that are not set.
-/
def renderRecord
    (format : Format)
    (pretty : Bool)
    (record : Value) : Except DocumentFault String :=
  render format pretty
    (if format = .toml then record.withoutNulls else record)

end Document

end BuildForm
