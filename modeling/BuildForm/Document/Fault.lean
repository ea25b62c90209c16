import BuildForm.Document.Format

/-
  What can be wrong with a document.

  Key definitions include:
    * `DocumentFault`
    * `DocumentFault.message`
-/

namespace BuildForm

/-
  A text that is no document of its format, a document that
  does not hold the record asked for, or a value that the
  format cannot write.
-/
inductive DocumentFault where
  | unreadable (format : Format)
  | misshapen (format : Format)
  | unwritable (format : Format)
deriving DecidableEq, Repr

def DocumentFault.message : DocumentFault → String
  | .unreadable format =>
      "failed to parse " ++ format.title ++ " document"
  | .misshapen format =>
      "unexpected " ++ format.extension ++ " document shape"
  | .unwritable format =>
      "failed to serialize " ++ format.title

end BuildForm
