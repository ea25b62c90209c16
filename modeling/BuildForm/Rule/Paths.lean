import BuildForm.Pattern.Basic

/-
  The rules for the file to build, for paths with Ant
  wildcards and for local directories.

  Key definitions include:
    * `Rule.isFileToBuild`
    * `Rule.isAntPath`
    * `Rule.isLocalDirectory`
-/

namespace BuildForm

namespace Rule

------------------------------------------------------------
-- File to Build
------------------------------------------------------------

/- No control characters, quotes, wildcards or slashes. -/
def fileNameChars : CharSet :=
  { ranges :=
      ('\x00', '\x1F') ::
        ['"', '<', '>', '|', ':', '*', '?', '/'].map
          fun c => (c, c)
    negated := true }

/-
  A file name with an extension of three to five letters, and
  possibly a drive before it. Letters are taken up to case
  folding.
-/
def filePattern : Pattern :=
  .inOrder
    [.optional
      (.inOrder
        [.one CharSet.foldedLetters, .exactly ":\\"]),
     .oneOrMore (.one fileNameChars),
     .exactly ".",
     .between (.one CharSet.foldedLetters) 3 2,
     .textEnd]

/- A file to build is a file name or left empty. -/
def isFileToBuild (value : String) : Bool :=
  value = "" || filePattern.accepts value.toList

------------------------------------------------------------
-- Ant Paths
------------------------------------------------------------

/- The characters of a folder or file segment. -/
def segmentChars : CharSet :=
  CharSet.without
    ['\\', '/', ':', '"', '*', '?', '<', '>', '|',
     '\r', '\n']

/-
  Segments, each of which is followed by slashes with at most
  two asterisks after each; a final `/*.*` may close the path.
-/
def antPattern : Pattern :=
  .seq
    (.many
      (.alt
        (.seq
          (.oneOrMore (.one segmentChars))
          (.many
            (.alt
              (.optional (.exactly "/"))
              (.seq (.exactly "/")
                (.atMost (.exactly "*") 2)))))
        (.seq (.exactly "/*.*") .textEnd)))
    .textEnd

/- A path that may carry wildcards after a separator. -/
def isAntPath (value : String) : Bool :=
  antPattern.accepts value.toList

------------------------------------------------------------
-- Local Directories
------------------------------------------------------------

/- The characters that may start a folder segment. -/
def folderStartChars : CharSet :=
  CharSet.without
    ['.', '\\', '/', ':', '*', '?', '"', '<', '>', '|',
     '\r', '\n']

/-
  A lone name after a dot, or relative segments none of which
  starts with a dot.
-/
def directoryPattern : Pattern :=
  .alt
    (.inOrder
      [.exactly ".",
       .many (.one CharSet.alphanumerics),
       .textEnd])
    (.seq
      (.many
        (.inOrder
          [.one folderStartChars,
           .many (.one segmentChars),
           .optional (.exactly "/")]))
      .textEnd)

/- A folder below the workspace. -/
def isLocalDirectory (value : String) : Bool :=
  directoryPattern.accepts value.toList

end Rule

end BuildForm
