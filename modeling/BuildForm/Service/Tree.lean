import BuildForm.Service.Error
import BuildForm.Text.Utf8

/-
  Directory trees.

  Key definitions include:
    * `Content`
    * `Tree`
    * `Tree.at?`
    * `Tree.isFile`
    * `Tree.write`
    * `Tree.files`
-/

namespace BuildForm

/- What a file holds: text, or bytes that are no UTF-8. -/
inductive Content where
  | text (value : String)
  | bytes (value : List UInt8)
deriving DecidableEq, Repr

/- The content of a file with the given bytes. -/
def Content.ofBytes (value : List UInt8) : Content :=
  match Utf8.decode? value with
  | some chars => .text (String.ofList chars)
  | none => .bytes value

/- A file, or a directory with named entries. -/
inductive Tree where
  | file (content : Content)
  | directory (entries : List (String × Tree))
deriving Repr, Inhabited

namespace Tree

/- The empty directory. -/
def empty : Tree :=
  .directory []

/- The entries of a directory; a file has none. -/
def entries : Tree → List (String × Tree)
  | .file _ => []
  | .directory entries => entries

/- The tree at a path. -/
def at? : List String → Tree → Option Tree
  | [], tree => some tree
  | name :: rest, tree =>
      (tree.entries.lookup name).bind (at? rest)

/- The content of the file at a path. -/
def read? (path : List String) (tree : Tree) :
    Option Content :=
  match tree.at? path with
  | some (.file content) => some content
  | _ => none

def isFile (path : List String) (tree : Tree) : Bool :=
  (tree.read? path).isSome

/- Replace a named entry in its place, or append it. -/
def putEntry
    (name : String)
    (tree : Tree) :
    List (String × Tree) → List (String × Tree)
  | [] => [(name, tree)]
  | (n, t) :: rest =>
      if n = name then
        (n, tree) :: rest
      else
        (n, t) :: putEntry name tree rest

/-
  Why a file cannot be written: a directory on the way to it
  cannot be made because a file is there, or its own path is
  a directory.
-/
inductive WriteFault where
  | parent
  | isDirectory
deriving DecidableEq, Repr

/-
  Write a file, its directories made where they are missing.
  The path is its directories and its name.
-/
def write
    (content : Content) :
    List String → String → Tree → Except WriteFault Tree
  | _, _, .file _ => .error .parent
  | [], name, .directory entries =>
      match entries.lookup name with
      | some (.directory _) => .error .isDirectory
      | _ =>
          .ok (.directory
            (putEntry name (.file content) entries))
  | first :: rest, name, .directory entries =>
      let below := (entries.lookup first).getD empty
      match write content rest name below with
      | .error fault => .error fault
      | .ok changed =>
          .ok (.directory (putEntry first changed entries))

/- The tree without what is at a path. -/
def remove : List String → Tree → Tree
  | _, .file content => .file content
  | [], tree => tree
  | [name], .directory entries =>
      .directory (entries.filter fun entry => entry.1 ≠ name)
  | first :: rest, .directory entries =>
      match entries.lookup first with
      | some below =>
          .directory
            (putEntry first (remove rest below) entries)
      | none => .directory entries

mutual

/- Every file with its path, the entries of a path in order. -/
def files : Tree → List (List String × Content)
  | .file content => [([], content)]
  | .directory entries => filesOf entries

/- Every file below the entries of a directory. -/
def filesOf :
    List (String × Tree) → List (List String × Content)
  | [] => []
  | (name, tree) :: rest =>
      (files tree).map (fun (path, content) =>
        (name :: path, content)) ++ filesOf rest

end

end Tree

end BuildForm
