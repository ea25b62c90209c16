import BuildForm.Command.Run

/-
  The command line program. It reads the store from the disk,
  runs the command, and writes the files that changed.
-/

namespace BuildForm

namespace Command

/- The tree of a directory on the disk. -/
partial def loadDirectory (path : String) : IO Tree := do
  let folder := (← IO.currentDir) / path
  if ← folder.isDir then
    let entries ← (← folder.readDir).toList.mapM fun entry => do
      let below := path ++ "/" ++ entry.fileName
      let file := (← IO.currentDir) / below
      if ← file.isDir then
        return (entry.fileName, ← loadDirectory below)
      else
        let bytes ← IO.FS.readBinFile file
        return (entry.fileName,
          Tree.file (Content.ofBytes bytes.toList))
    return .directory entries
  else
    return .empty

/- Write a file below a directory of the disk. -/
def saveFile
    (path : String)
    (folder : List String)
    (content : Content) : IO Unit := do
  let file :=
    (← IO.currentDir) / Text.join "/" (path :: folder)
  if let some parent := file.parent then
    IO.FS.createDirAll parent
  match content with
  | .text text => IO.FS.writeFile file text
  | .bytes bytes =>
      IO.FS.writeBinFile file (ByteArray.mk bytes.toArray)

/- Write every file that is new or has changed. -/
def saveChanges
    (path : String)
    (before after : Tree) : IO Unit :=
  after.files.forM fun (file, content) =>
    if before.read? file = some content then
      pure ()
    else
      saveFile path file content

/-
  Print a text and tell whether standard output took it. There
  is nothing to take of an empty one.
-/
def printText
    (text : String) : IO (Except PrintFault Unit) := do
  if text = "" then
    return .ok ()
  let output ← IO.getStdout
  match ← EIO.toBaseIO (output.putStr text) with
  | .error _ => return .error .write
  | .ok _ =>
      match ← EIO.toBaseIO output.flush with
      | .error _ => return .error .flush
      | .ok _ => return .ok ()

/- Run the command with arguments; the code is returned. -/
def execute (arguments : List String) : IO UInt32 := do
  let reading := Arguments.read arguments
  let store? := match reading with
    | .ok (.run arguments) => some arguments.store
    | _ => none
  let before ← match store? with
    | some store => loadDirectory store
    | none => pure Tree.empty
  let outcome := answer reading before
  if let some store := store? then
    saveChanges store before outcome.tree
  outcome.review.forM IO.eprintln
  let taken ← printText outcome.output
  let outcome := match store? with
    | some _ => outcome.printed fun _ => taken
    | none => outcome
  if let some complaint := outcome.complaint then
    IO.eprintln ("error: " ++ complaint)
  return outcome.code

end Command

end BuildForm

def main (arguments : List String) : IO UInt32 :=
  BuildForm.Command.execute arguments
