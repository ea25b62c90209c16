import BuildForm.Rule.Remote
import BuildForm.Proofs.Pattern.Derived

/-
  The addresses that the rule for repositories accepts.

  Only the end of an address is looked at: a scheme or a host
  after `git@`, a colon, and a path. The slash and the `.git`
  of the rule are made of characters of a path, so that they
  admit nothing more.

  Main declarations:
    * `Rule.IsScheme`
    * `Rule.IsRemotePath`
    * `Rule.matches_tailPattern_iff`
    * `Rule.isRemote_iff`
    * `Rule.remote_ends_in_an_address`
-/

------------------------------------------------------------
-- Parts of an Address
------------------------------------------------------------

namespace BuildForm

namespace Rule

/- What stands before the colon: a scheme, or a user and host. -/
inductive IsScheme : List Char → Prop where
  | git : IsScheme "git".toList
  | ssh : IsScheme "ssh".toList
  | http : IsScheme "http".toList
  | https : IsScheme "https".toList
  | host {name : List Char} :
      name ≠ [] →
      (∀ c ∈ name, c.isAlphanum ∨ c ∈ ['_', '.']) →
      IsScheme ("git@".toList ++ name)

/- What stands after the colon. -/
structure IsRemotePath (path : List Char) : Prop where
  nonempty : path ≠ []
  plain :
    ∀ c ∈ path,
      c.isAlphanum ∨ c ∈ ['_', '.', '@', ':', '/', '-', '~']

theorem contains_hostChars_iff (c : Char) :
    hostChars.contains c ↔ c.isAlphanum ∨ c ∈ ['_', '.'] := by
  rw [hostChars, CharSet.contains_union_iff rfl rfl,
    CharSet.contains_alphanumerics_iff,
    CharSet.contains_ofChars_iff]

theorem contains_remoteChars_iff (c : Char) :
    remoteChars.contains c ↔
      c.isAlphanum ∨
        c ∈ ['_', '.', '@', ':', '/', '-', '~'] := by
  rw [remoteChars, CharSet.contains_union_iff rfl rfl,
    CharSet.contains_alphanumerics_iff,
    CharSet.contains_ofChars_iff]

end Rule

end BuildForm

------------------------------------------------------------
-- Parts of the Pattern
------------------------------------------------------------

namespace BuildForm

namespace Rule

open Pattern

variable {text after : List Char}

/- The part of the pattern before the colon. -/
def schemePattern : Pattern :=
  .oneOf (.exactly "git")
    [.exactly "ssh",
     .seq (.exactly "http") (.optional (.exactly "s")),
     .seq (.exactly "git@") (.oneOrMore (.one hostChars))]

/- The part of the pattern after the colon. -/
def tailPattern : Pattern :=
  .inOrder
    [.optional (.exactly "/"),
     .oneOrMore (.one remoteChars),
     .optional (.exactly ".git"),
     .textEnd]

theorem remotePattern_eq :
    remotePattern =
      .seq schemePattern (.seq (.exactly ":") tailPattern) :=
  rfl

theorem matches_schemePattern_iff :
    Matches schemePattern text after ↔ IsScheme text := by
  simp only [schemePattern, oneOf, matches_alt_iff,
    matches_exactly_iff, matches_seq_exactly_iff,
    matches_optional_iff, matches_oneOrMore_one_iff,
    contains_hostChars_iff]
  constructor
  · rintro (rfl | rfl | ⟨ending, rfl, hEnding⟩ |
      ⟨name, rfl, hNonempty, hName⟩)
    · exact .git
    · exact .ssh
    · rcases hEnding with rfl | rfl
      · exact .https
      · exact .http
    · exact .host hNonempty hName
  · intro hScheme
    cases hScheme with
    | git => exact .inl rfl
    | ssh => exact .inr (.inl rfl)
    | http => exact .inr (.inr (.inl ⟨[], rfl, .inr rfl⟩))
    | https =>
        exact .inr (.inr (.inl ⟨"s".toList, rfl, .inl rfl⟩))
    | @host name hNonempty hName =>
        exact .inr (.inr (.inr ⟨name, rfl, hNonempty, hName⟩))

/- Neither the slash nor the ending admits anything new. -/
theorem matches_tailPattern_iff :
    Matches tailPattern text [] ↔ IsRemotePath text := by
  simp only [tailPattern, inOrder, matches_seq_iff,
    ↓matches_seq_textEnd_iff, matches_optional_iff,
    matches_exactly_iff, matches_oneOrMore_one_iff,
    contains_remoteChars_iff, and_true]
  constructor
  · rintro ⟨slash, _, rfl, hSlash, path, ending, rfl,
      ⟨hNonempty, hPath⟩, hEnding⟩
    have hPlain :
        ∀ word ∈ ["/".toList, ".git".toList, []],
          ∀ c ∈ word,
            c.isAlphanum ∨
              c ∈ ['_', '.', '@', ':', '/', '-', '~'] := by
      simp
    refine ⟨by simp [hNonempty], ?_⟩
    simp only [List.forall_mem_append]
    refine ⟨hPlain slash ?_, hPath, hPlain ending ?_⟩
    · rcases hSlash with rfl | rfl
      · simp
      · simp
    · rcases hEnding with rfl | rfl
      · simp
      · simp
  · rintro ⟨hNonempty, hPlain⟩
    refine ⟨[], text, rfl, .inr rfl, text, [], by simp, ?_⟩
    exact ⟨⟨hNonempty, hPlain⟩, .inr rfl⟩

end Rule

end BuildForm

------------------------------------------------------------
-- Accepted Addresses
------------------------------------------------------------

namespace BuildForm

namespace Rule

open Pattern

theorem isRemote_iff (value : String) :
    isRemote value ↔
      ∃ before scheme path,
        value.toList = before ++ scheme ++ ':' :: path ∧
          IsScheme scheme ∧
          IsRemotePath path := by
  simp only [isRemote, accepts_iff, matches_atEndOf_iff,
    remotePattern_eq, matches_seq_iff,
    ↓matches_seq_exactly_iff, matches_schemePattern_iff,
    matches_tailPattern_iff]
  constructor
  · rintro ⟨before, _, hValue, scheme, _, rfl, hScheme, path, rfl,
      hPath⟩
    exact ⟨before, scheme, path, by simp [hValue], hScheme, hPath⟩
  · rintro ⟨before, scheme, path, hValue, hScheme, hPath⟩
    refine
      ⟨before, scheme ++ ':' :: path, by simp [hValue], scheme,
        ':' :: path, rfl, hScheme, ?_⟩
    exact ⟨path, rfl, hPath⟩

/-
  An address is any text, then a scheme or a host, a colon and
  a path. So it stays one whatever is put in front of it.
-/
theorem remote_ends_in_an_address :
    (∀ value,
      isRemote value ↔
        ∃ before scheme path,
          value.toList = before ++ scheme ++ ':' :: path ∧
            IsScheme scheme ∧
            IsRemotePath path) ∧
      ∀ lead value, isRemote value → isRemote (lead ++ value) := by
  refine ⟨isRemote_iff, ?_⟩
  intro lead value hRemote
  rcases (isRemote_iff value).mp hRemote with
    ⟨before, scheme, path, hValue, hParts⟩
  refine
    (isRemote_iff (lead ++ value)).mpr
      ⟨lead.toList ++ before, scheme, path, ?_, hParts⟩
  simp [String.toList_append, hValue]

/- An address with a port, alone and with text before it. -/
theorem remote_ends_in_an_address_port :
    isRemote "ssh://git@host:22/repo" ∧
      isRemote ("svn+" ++ "ssh://git@host:22/repo") := by
  have hRemote : isRemote "ssh://git@host:22/repo" := by
    refine (remote_ends_in_an_address.1 _).mpr ?_
    refine
      ⟨[], "ssh".toList, "//git@host:22/repo".toList, by decide,
        .ssh, ?_⟩
    exact ⟨by simp, by simp⟩
  exact ⟨hRemote, remote_ends_in_an_address.2 "svn+" _ hRemote⟩

end Rule

end BuildForm
