import BuildForm.Pattern.CharSet

/-
  Text patterns, the texts that they match, and a matcher
  that steps through a text one character at a time.

  Key definitions include:
    * `Pattern`
    * `Pattern.Matches`
    * `Pattern.residues`
    * `Pattern.accepts`
    * `Pattern.atEndOf`
-/

namespace BuildForm

/-
  A pattern describes texts. `textEnd` holds only where
  nothing follows.
-/
inductive Pattern where
  | empty
  | textEnd
  | one (set : CharSet)
  | seq (first second : Pattern)
  | alt (left right : Pattern)
  | many (body : Pattern)
deriving DecidableEq, Repr

namespace Pattern

------------------------------------------------------------
-- Meaning
------------------------------------------------------------

/-
  `Matches p text after` says that `p` matches `text` where
  `after` is what follows it.
-/
inductive Matches :
    Pattern → List Char → List Char → Prop where
  | empty {after} : Matches .empty [] after
  | textEnd : Matches .textEnd [] []
  | one {set c after} :
      set.contains c = true →
      Matches (.one set) [c] after
  | seq {first second head tail after} :
      Matches first head (tail ++ after) →
      Matches second tail after →
      Matches (.seq first second) (head ++ tail) after
  | left {left right text after} :
      Matches left text after →
      Matches (.alt left right) text after
  | right {left right text after} :
      Matches right text after →
      Matches (.alt left right) text after
  | done {body after} : Matches (.many body) [] after
  | more {body head tail after} :
      Matches body head (tail ++ after) →
      Matches (.many body) tail after →
      Matches (.many body) (head ++ tail) after

------------------------------------------------------------
-- Derived Patterns
------------------------------------------------------------

/- The patterns one after the other. -/
def inOrder : List Pattern → Pattern
  | [] => .empty
  | [last] => last
  | first :: rest => .seq first (inOrder rest)

/- One of the patterns; the first one is given apart. -/
def oneOf (first : Pattern) : List Pattern → Pattern
  | [] => first
  | next :: rest => .alt first (oneOf next rest)

/- Exactly the given text. -/
def exactly (text : String) : Pattern :=
  inOrder (text.toList.map fun c =>
    .one (CharSet.ofChars [c]))

/- The pattern or nothing. -/
def optional (body : Pattern) : Pattern :=
  .alt body .empty

/- The pattern once or more often. -/
def oneOrMore (body : Pattern) : Pattern :=
  .seq body (.many body)

/- The pattern exactly `count` times. -/
def times (body : Pattern) : Nat → Pattern
  | 0 => .empty
  | count + 1 => .seq body (times body count)

/- The pattern at most `count` times. -/
def atMost (body : Pattern) : Nat → Pattern
  | 0 => .empty
  | count + 1 => optional (.seq body (atMost body count))

/- The pattern from `low` up to `low + extra` times. -/
def between
    (body : Pattern)
    (low extra : Nat) : Pattern :=
  .seq (times body low) (atMost body extra)

------------------------------------------------------------
-- Matching
------------------------------------------------------------

/-
  Whether the pattern matches the empty text, at the end of
  the whole text or before it.
-/
def nullable (atEnd : Bool) : Pattern → Bool
  | .empty => true
  | .textEnd => atEnd
  | .one _ => false
  | .seq first second =>
      first.nullable atEnd && second.nullable atEnd
  | .alt left right =>
      left.nullable atEnd || right.nullable atEnd
  | .many _ => true

/-
  What is left to match after the character `c`: the pattern
  matches `c :: text` if and only if one of its residues
  matches `text`.
-/
def residues (c : Char) : Pattern → List Pattern
  | .empty => []
  | .textEnd => []
  | .one set => if set.contains c then [.empty] else []
  | .seq first second =>
      let inFirst := (first.residues c).map fun rest =>
        match rest with
        | .empty => second
        | _ => .seq rest second
      if first.nullable false then
        inFirst ++ second.residues c
      else
        inFirst
  | .alt left right => left.residues c ++ right.residues c
  | .many body =>
      (body.residues c).map fun rest =>
        match rest with
        | .empty => .many body
        | _ => .seq rest (.many body)

/- Residues of all the patterns, each listed once. -/
def stepAll
    (c : Char)
    (patterns : List Pattern) : List Pattern :=
  (patterns.flatMap (residues c)).eraseDups

/- Whether one of the patterns matches the whole text. -/
def acceptsAny :
    List Pattern → List Char → Bool
  | patterns, [] => patterns.any (nullable true)
  | patterns, c :: text =>
      acceptsAny (stepAll c patterns) text

/- Whether the pattern matches the whole text. -/
def accepts (pattern : Pattern) (text : List Char) : Bool :=
  acceptsAny [pattern] text

/-
  The pattern with anything before it: it matches a whole
  text if and only if the pattern matches an end of it.
-/
def atEndOf (pattern : Pattern) : Pattern :=
  .seq (.many (.one CharSet.all)) pattern

end Pattern

end BuildForm
