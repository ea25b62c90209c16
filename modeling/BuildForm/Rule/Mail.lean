import BuildForm.Pattern.Basic
import BuildForm.Text.Blank

/-
  The rules for one e-mail address and for a list of them.

  Key definitions include:
    * `Rule.namedMail`
    * `Rule.numberedMail`
    * `Rule.isMail`
    * `Rule.isMailList`
-/

namespace BuildForm

namespace Rule

------------------------------------------------------------
-- Parts of an Address
------------------------------------------------------------

/- Digits, the underscore, and letters up to case folding. -/
def labelStartChars : CharSet :=
  (CharSet.foldedLetters.union CharSet.digits).union
    (CharSet.ofChars ['_'])

/- The characters of a word: those of a label and a hyphen. -/
def wordChars : CharSet :=
  labelStartChars.union (CharSet.ofChars ['-'])

/- The characters that a quoted local part may hold. -/
def quotedChars : CharSet :=
  wordChars.union
    { ranges := Text.blankRanges.map fun (low, high) =>
        (Char.ofNat low, Char.ofNat high) }

def quotedPart : Pattern :=
  .inOrder
    [.exactly "\"", .oneOrMore (.one quotedChars),
     .exactly "\""]

/- Words with a single dot between neighbours. -/
def dottedPart : Pattern :=
  .seq
    (.oneOrMore (.one wordChars))
    (.many
      (.seq (.exactly ".")
        (.oneOrMore (.one wordChars))))

/- A quoted part, a dotted part, or one after the other. -/
def localPart : Pattern :=
  .oneOf quotedPart
    [dottedPart, .seq quotedPart dottedPart]

/-
  Labels, a last label of at most 67 characters, and a top
  level of two to six letters, possibly with a further one of
  two letters.
-/
def domainName : Pattern :=
  .inOrder
    [.many
      (.seq (.oneOrMore (.one wordChars)) (.exactly ".")),
     .one labelStartChars,
     .atMost (.one wordChars) 66,
     .exactly ".",
     .between (.one CharSet.foldedLetters) 2 4,
     .optional
       (.seq (.exactly ".")
         (.times (.one CharSet.foldedLetters) 2))]

/- A digit from `low` up to `high`. -/
def digitFrom (low high : Char) : Pattern :=
  .one { ranges := [(low, high)] }

/- A number up to 255 of at most three digits. -/
def octet : Pattern :=
  .oneOf
    (.seq (.exactly "25") (digitFrom '0' '5'))
    [.inOrder
      [.exactly "2", digitFrom '0' '4', digitFrom '0' '9'],
     .seq (.exactly "1") (.times (digitFrom '0' '9') 2),
     .between (digitFrom '0' '9') 1 1]

/- Four octets, in brackets that may each be left out. -/
def numericHost : Pattern :=
  .inOrder
    [.optional (.exactly "["),
     .seq octet (.exactly "."),
     .times (.seq octet (.exactly ".")) 2,
     octet,
     .optional (.exactly "]")]

------------------------------------------------------------
-- Addresses
------------------------------------------------------------

/- A local part at a named domain. -/
def namedMail : Pattern :=
  .inOrder [localPart, .exactly "@", domainName, .textEnd]

/-
  Any text at a numeric host: only the end of the address is
  looked at.
-/
def numberedMail : Pattern :=
  Pattern.atEndOf
    (.inOrder [.exactly "@", numericHost, .textEnd])

/- A single address. -/
def isMail (value : String) : Bool :=
  (Pattern.alt namedMail numberedMail).accepts value.toList

/-
  Addresses with one space between neighbours; an empty list
  is fine.
-/
def isMailList (value : String) : Bool :=
  value = "" ||
    (value.toList.splitOn ' ').all fun part =>
      isMail (String.ofList part)

end Rule

end BuildForm
