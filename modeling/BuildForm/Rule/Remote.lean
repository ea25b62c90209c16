import BuildForm.Pattern.Basic

/-
  The rule for the address of a repository.

  Key definitions include:
    * `Rule.remotePattern`
    * `Rule.isRemote`
-/

namespace BuildForm

namespace Rule

/- The characters of the host of an scp-like address. -/
def hostChars : CharSet :=
  CharSet.alphanumerics.union (CharSet.ofChars ['_', '.'])

/- The characters after the colon of an address. -/
def remoteChars : CharSet :=
  CharSet.alphanumerics.union
    (CharSet.ofChars ['_', '.', '@', ':', '/', '-', '~'])

/-
  A scheme or `git@` with a host, a colon that a slash may
  follow, the path, and possibly a final `.git`.
-/
def remotePattern : Pattern :=
  .inOrder
    [.oneOf (.exactly "git")
      [.exactly "ssh",
       .seq (.exactly "http") (.optional (.exactly "s")),
       .seq (.exactly "git@")
         (.oneOrMore (.one hostChars))],
     .exactly ":",
     .optional (.exactly "/"),
     .oneOrMore (.one remoteChars),
     .optional (.exactly ".git"),
     .textEnd]

/-
  An address is any text that ends in a recognisable remote;
  what stands before the remote is free.
-/
def isRemote (value : String) : Bool :=
  remotePattern.atEndOf.accepts value.toList

end Rule

end BuildForm
