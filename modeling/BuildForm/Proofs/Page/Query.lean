import BuildForm.Page.Query
import BuildForm.Proofs.Form.Schedules
import BuildForm.Proofs.Service.Isolation
import BuildForm.Proofs.Text.Search

/-
  Queries that open a page for a project by its name.

  Names and types of pages are plain text, which survives the
  undoing of the percent encoding. A parameter is found by
  its name anywhere in a pair, so that a project whose name
  has the word `type` in it is opened only where the type
  comes first.

  Main declarations:
    * `Query.IsPlain`
    * `Query.percentDecode_of_plain`
    * `PageRequest.Spells`
    * `PageRequest.parse_type_first`
    * `PageRequest.parse_name_first`
    * `PageRequest.opens_by_query_unless_mistaken`
-/

------------------------------------------------------------
-- Plain Text
------------------------------------------------------------

namespace BuildForm

namespace Utf8

variable {text : List Char}

theorem utf8EncodeChar_of_lt
    {c : Char}
    (hAscii : c.toNat < 128) :
    String.utf8EncodeChar c = [UInt8.ofNat c.toNat] := by
  have hBound : c.val.toNat ≤ 127 := Nat.le_of_lt_succ hAscii
  unfold String.utf8EncodeChar
  exact if_pos hBound

/- An ASCII text has one byte for each character. -/
theorem encode_of_ascii
    (hAscii : ∀ c ∈ text, c.toNat < 128) :
    encode text = text.map fun c => UInt8.ofNat c.toNat := by
  induction text with
  | nil => rfl
  | cons c rest ih =>
      rcases List.forall_mem_cons.mp hAscii with
        ⟨hFirst, hRest⟩
      unfold encode
      rw [List.flatMap_cons, utf8EncodeChar_of_lt hFirst]
      exact congrArg _ (ih hRest)

theorem toNat_byte
    {c : Char}
    (hAscii : c.toNat < 128) :
    (UInt8.ofNat c.toNat).toNat = c.toNat := by
  rw [UInt8.toNat_ofNat']
  omega

/- The byte of an ASCII character stands for it alone. -/
theorem step_of_ascii
    {c : Char}
    (hAscii : c.toNat < 128)
    (rest : List UInt8) :
    step (UInt8.ofNat c.toNat) rest = .char c 1 := by
  have hBound : UInt8.ofNat c.toNat < 0x80 := by
    rw [UInt8.lt_iff_toNat_lt, toNat_byte hAscii]
    exact hAscii
  unfold step
  dsimp only
  rw [if_pos hBound, toNat_byte hAscii, Char.ofNat_toNat]

theorem decodeLossy_of_ascii
    (hAscii : ∀ c ∈ text, c.toNat < 128) :
    decodeLossy (text.map fun c => UInt8.ofNat c.toNat) =
      text := by
  induction text with
  | nil => rfl
  | cons c rest ih =>
      rcases List.forall_mem_cons.mp hAscii with
        ⟨hFirst, hRest⟩
      unfold decodeLossy
      rw [List.map_cons, piecesFrom, step_of_ascii hFirst]
      exact congrArg (c :: ·) (ih hRest)

end Utf8

namespace Query

/- ASCII text that has nothing to decode or to split. -/
structure IsPlain (text : List Char) : Prop where
  ascii : ∀ c ∈ text, c.toNat < 128
  unmarked : ∀ c ∈ text, c ≠ '%' ∧ c ≠ '&' ∧ c ≠ '='

variable {text : List Char}

/- Bytes without a percent sign stand for themselves. -/
theorem decodeBytes_of_not_mem
    {bytes : List UInt8}
    (hPercent : 0x25 ∉ bytes) :
    decodeBytes bytes = bytes := by
  induction bytes with
  | nil => simp [decodeBytes]
  | cons byte rest ih =>
      rcases not_or.mp (List.mem_cons.not.mp hPercent) with
        ⟨hOther, hRest⟩
      simp [decodeBytes, Ne.symm hOther, ih hRest]

theorem percentDecode_of_ascii
    (hAscii : ∀ c ∈ text, c.toNat < 128)
    (hPercent : '%' ∉ text) :
    percentDecode text = text := by
  unfold percentDecode
  rw [Utf8.encode_of_ascii hAscii, decodeBytes_of_not_mem,
    Utf8.decodeLossy_of_ascii hAscii]
  intro hMember
  rcases List.mem_map.mp hMember with ⟨c, hChar, hByte⟩
  have hCode : c.toNat = '%'.toNat := by
    rw [← Utf8.toNat_byte (hAscii c hChar), hByte]
    rfl
  rw [Char.toNat_inj.mp hCode] at hChar
  exact hPercent hChar

end Query

end BuildForm

------------------------------------------------------------
-- Names and Types
------------------------------------------------------------

namespace BuildForm

namespace Query

variable {text : List Char}

/- The codes of ASCII letters and digits. -/
theorem toNat_of_isAlphanum
    {c : Char}
    (hAlphanum : c.isAlphanum) :
    48 ≤ c.toNat ∧ c.toNat ≤ 57 ∨
      65 ≤ c.toNat ∧ c.toNat ≤ 90 ∨
        97 ≤ c.toNat ∧ c.toNat ≤ 122 := by
  have hCases :
      (c.isUpper || c.isLower || c.isDigit) = true :=
    hAlphanum
  rw [Bool.or_eq_true, Bool.or_eq_true] at hCases
  rcases hCases with (hUpper | hLower) | hDigit
  · exact Or.inr (Or.inl (of_decide_eq_true hUpper))
  · rcases Bool.and_eq_true_iff.mp hLower with ⟨hLow, hHigh⟩
    exact Or.inr (Or.inr
      ⟨of_decide_eq_true hLow, of_decide_eq_true hHigh⟩)
  · rcases Bool.and_eq_true_iff.mp hDigit with ⟨hLow, hHigh⟩
    exact Or.inl
      ⟨of_decide_eq_true hLow, of_decide_eq_true hHigh⟩

/- Letters, digits, underscores and hyphens are plain. -/
theorem isPlain_of_alphanumeric
    (hText : ∀ c ∈ text, c.isAlphanum ∨ c = '_' ∨ c = '-') :
    IsPlain text where
  ascii c hChar := by
    rcases hText c hChar with hAlphanum | rfl | rfl
    · have hCode := toNat_of_isAlphanum hAlphanum
      omega
    · decide
    · decide
  unmarked c hChar := by
    refine ⟨?_, ?_, ?_⟩ <;>
      · rintro rfl
        exact absurd (hText _ hChar) (by decide)

theorem isPlain_of_isProjectName
    {name : String}
    (hName : Rule.isProjectName name) :
    IsPlain name.toList :=
  isPlain_of_alphanumeric ((Rule.isProjectName_iff name).mp hName).2

/- What is a small letter in lower case is a letter. -/
theorem isAlphanum_of_toLower
    {c : Char}
    (hLower : c.toLower.isLower) :
    c.isAlphanum := by
  change (c.isUpper || c.isLower || c.isDigit) = true
  unfold Char.toLower at hLower
  split at hLower
  · rename_i hUpper
    have hUpper : c.isUpper = true := decide_eq_true hUpper
    simp [hUpper]
  · simp [hLower]

end Query

namespace PageMode

/- A text spells a mode if it is the label but for the case. -/
def IsSpelledBy (mode : PageMode) (type : String) : Prop :=
  lowerAscii type.toList = mode.label.toList

instance (mode : PageMode) (type : String) :
    Decidable (mode.IsSpelledBy type) := by
  unfold IsSpelledBy
  infer_instance

variable {mode : PageMode}
variable {type : String}

theorem isLower_of_mem_label
    {c : Char}
    (hChar : c ∈ mode.label.toList) :
    c.isLower := by
  have hLower : mode.label.toList.all Char.isLower := by
    cases mode <;> decide
  exact List.all_eq_true.mp hLower c hChar

theorem IsSpelledBy.isAlphanum
    (hType : mode.IsSpelledBy type)
    {c : Char}
    (hChar : c ∈ type.toList) :
    c.isAlphanum := by
  apply Query.isAlphanum_of_toLower
  apply isLower_of_mem_label
  rw [← hType]
  exact List.mem_map_of_mem hChar

theorem IsSpelledBy.isPlain
    (hType : mode.IsSpelledBy type) :
    Query.IsPlain type.toList :=
  Query.isPlain_of_alphanumeric fun _ hChar =>
    Or.inl (hType.isAlphanum hChar)

/- A letter of no label is in no spelling of a mode either. -/
theorem IsSpelledBy.not_mem
    (hType : mode.IsSpelledBy type)
    {c : Char}
    (hChar : c.toLower ∉ mode.label.toList) :
    c ∉ type.toList := by
  intro hMember
  apply hChar
  rw [← hType]
  exact List.mem_map_of_mem hMember

end PageMode

namespace Text

/- Nothing is trimmed off a text without white space. -/
theorem trim_of_not_blank
    {text : List Char}
    (hText : ∀ c ∈ text, ¬isBlank c) :
    trim text = text := by
  have hStart :
      ∀ text : List Char,
        (∀ c ∈ text, ¬isBlank c) → trimStart text = text := by
    intro text hText
    unfold trimStart
    cases text with
    | nil => rfl
    | cons c rest =>
        rw [List.dropWhile_cons_of_neg (hText c (by simp))]
  unfold trim
  rw [hStart text hText, hStart text.reverse (by simpa using hText),
    List.reverse_reverse]

/- Letters, digits, underscores and hyphens are no blanks. -/
theorem not_isBlank_of_alphanumeric
    {c : Char}
    (hChar : c.isAlphanum ∨ c = '_' ∨ c = '-') :
    ¬isBlank c := by
  rcases hChar with hAlphanum | rfl | rfl
  · have hCode := Query.toNat_of_isAlphanum hAlphanum
    simp only [isBlank, blankRanges, List.any_cons,
      List.any_nil, Bool.or_false, Bool.or_eq_true,
      Bool.and_eq_true, decide_eq_true_eq]
    omega
  · decide
  · decide

end Text

end BuildForm

------------------------------------------------------------
-- Parameters
------------------------------------------------------------

namespace BuildForm

namespace PageRequest

open Query (IsPlain)

/- The pair of a query that gives a parameter its value. -/
def pair (parameter value : String) : List Char :=
  parameter.toList ++ '=' :: value.toList

variable {first second : List Char}
variable {parameter value : String}

theorem infix_pair (parameter value : String) :
    parameter.toList <:+: pair parameter value :=
  (List.prefix_append _ _).isInfix

theorem splitOn_pair
    (hParameter : IsPlain parameter.toList)
    (hValue : IsPlain value.toList) :
    (pair parameter value).splitOn '=' =
      [parameter.toList, value.toList] := by
  have hParts :
      ∀ part ∈ [parameter.toList, value.toList], '=' ∉ part := by
    intro part hPart hMember
    simp only [List.mem_cons, List.not_mem_nil,
      or_false] at hPart
    rcases hPart with rfl | rfl
    · exact (hParameter.unmarked _ hMember).2.2 rfl
    · exact (hValue.unmarked _ hMember).2.2 rfl
  have hSplit := List.splitOn_intercalate '=' hParts (by simp)
  simpa [pair] using hSplit

/- A pair of plain texts has nothing but the equals sign. -/
theorem mem_pair
    (hParameter : IsPlain parameter.toList)
    (hValue : IsPlain value.toList)
    {c : Char}
    (hChar : c ∈ pair parameter value) :
    c.toNat < 128 ∧ c ≠ '%' ∧ c ≠ '&' := by
  rcases List.mem_append.mp hChar with hLeft | hRight
  · have hPlain := hParameter.unmarked c hLeft
    exact ⟨hParameter.ascii c hLeft, hPlain.1, hPlain.2.1⟩
  · rcases List.mem_cons.mp hRight with rfl | hRest
    · decide
    · have hPlain := hValue.unmarked c hRest
      exact ⟨hValue.ascii c hRest, hPlain.1, hPlain.2.1⟩

/- Two pairs of plain texts are taken apart again. -/
theorem pairs_of_plain
    (hFirst : ∀ c ∈ first, c.toNat < 128 ∧ c ≠ '%' ∧ c ≠ '&')
    (hSecond : ∀ c ∈ second, c.toNat < 128 ∧ c ≠ '%' ∧ c ≠ '&') :
    pairs (first ++ '&' :: second) = [first, second] := by
  have hText :
      ∀ c ∈ first ++ '&' :: second, c.toNat < 128 ∧ c ≠ '%' := by
    intro c hChar
    rcases List.mem_append.mp hChar with hLeft | hRight
    · exact ⟨(hFirst c hLeft).1, (hFirst c hLeft).2.1⟩
    · rcases List.mem_cons.mp hRight with rfl | hRest
      · decide
      · exact ⟨(hSecond c hRest).1, (hSecond c hRest).2.1⟩
  have hPercent : '%' ∉ first ++ '&' :: second :=
    fun hMember => (hText _ hMember).2 rfl
  have hParts : ∀ part ∈ [first, second], '&' ∉ part := by
    intro part hPart hMember
    simp only [List.mem_cons, List.not_mem_nil,
      or_false] at hPart
    rcases hPart with rfl | rfl
    · exact (hFirst _ hMember).2.2 rfl
    · exact (hSecond _ hMember).2.2 rfl
  have hSplit := List.splitOn_intercalate '&' hParts (by simp)
  unfold pairs
  rw [Query.percentDecode_of_ascii
      (fun c hChar => (hText c hChar).1) hPercent]
  change (Text.replaceAll ('%' :: ['2', '0']) _ _).splitOn _ = _
  rw [Text.replaceAll_of_not_mem hPercent]
  simpa using hSplit

/- The first pair that has the name of a parameter gives it. -/
theorem parameter?_first
    (hFirst : parameter.toList <:+: first)
    (second : List Char) :
    parameter? [first, second] parameter =
      (first.splitOn '=')[1]? := by
  have hOccurs : Text.occursIn parameter.toList first :=
    (Text.occursIn_iff _ _).mpr hFirst
  simp [parameter?, hOccurs]

theorem parameter?_second
    (hFirst : ¬parameter.toList <:+: first)
    (hSecond : parameter.toList <:+: second) :
    parameter? [first, second] parameter =
      (second.splitOn '=')[1]? := by
  have hOccurs : Text.occursIn parameter.toList second :=
    (Text.occursIn_iff _ _).mpr hSecond
  have hNone : ¬Text.occursIn parameter.toList first :=
    (Text.occursIn_iff _ _).not.mpr hFirst
  simp [parameter?, hOccurs, hNone]

theorem parameter?_pair_first
    (hParameter : IsPlain parameter.toList)
    (hValue : IsPlain value.toList)
    (second : List Char) :
    parameter? [pair parameter value, second] parameter =
      some value.toList := by
  rw [parameter?_first (infix_pair parameter value),
    splitOn_pair hParameter hValue]
  rfl

theorem parameter?_pair_second
    (hFirst : ¬parameter.toList <:+: first)
    (hParameter : IsPlain parameter.toList)
    (hValue : IsPlain value.toList) :
    parameter? [first, pair parameter value] parameter =
      some value.toList := by
  rw [parameter?_second hFirst (infix_pair parameter value),
    splitOn_pair hParameter hValue]
  rfl

/- The page that a name and a type open. -/
def openingAs (name type : String) : Except Fault PageRequest :=
  match PageMode.ofLabel? type.toList with
  | none => .error (.unknownType type)
  | some .create => .ok create
  | some mode => .ok (opening mode name)

/- A leading question mark does not matter. -/
theorem parse_of_parameters
    {query name type : String}
    {lead : String}
    {text : List Char}
    (hLead : lead = "" ∨ lead = "?")
    (hQuery : query.toList = lead.toList ++ text)
    (hHead : text.head? ≠ some '?')
    (hText : text ≠ [])
    (hName : parameter? (pairs text) "name" = some name.toList)
    (hType : parameter? (pairs text) "type" = some type.toList) :
    parse query = openingAs name type := by
  have hBare :
      (Text.dropLead? ['?'] query.toList).getD query.toList =
        text := by
    rcases hLead with rfl | rfl
    · have hStart : ¬['?'] <+: text := by
        rintro ⟨rest, rfl⟩
        exact hHead rfl
      rw [hQuery]
      simp [Text.dropLead?, hStart]
    · rw [hQuery]
      simp [Text.dropLead?]
  have hSome : text.isEmpty = false := by
    simpa using hText
  unfold parse
  dsimp only
  rw [hBare, hSome]
  simp only [Bool.false_eq_true, if_false, hName, hType,
    String.ofList_toList]
  rfl

end PageRequest

end BuildForm

------------------------------------------------------------
-- Pages of Named Projects
------------------------------------------------------------

namespace BuildForm

namespace PageRequest

open Query (IsPlain)
open PageMode (IsSpelledBy)

variable {mode : PageMode}
variable {name type : String}
variable {lead : String}

theorem isPlain_parameter :
    IsPlain "name".toList ∧ IsPlain "type".toList := by
  have hLetters :
      ∀ parameter ∈ ["name".toList, "type".toList],
        parameter.all Char.isAlphanum := by
    decide
  have hPlain :
      ∀ parameter ∈ ["name".toList, "type".toList],
        IsPlain parameter := by
    intro parameter hParameter
    have hLetters := hLetters parameter hParameter
    exact Query.isPlain_of_alphanumeric fun c hChar =>
      .inl (List.all_eq_true.mp hLetters c hChar)
  exact ⟨hPlain _ (by simp), hPlain _ (by simp)⟩

/- A spelling of a mode opens the page of that mode. -/
theorem openingAs_of_isSpelledBy
    (hMode : mode ≠ .create)
    (hType : mode.IsSpelledBy type)
    (name : String) :
    openingAs name type = .ok (opening mode name) := by
  have hTrim : Text.trim type.toList = type.toList :=
    Text.trim_of_not_blank fun c hChar =>
      Text.not_isBlank_of_alphanumeric
        (Or.inl (hType.isAlphanum hChar))
  have hLabel : PageMode.ofLabel? type.toList = some mode := by
    unfold PageMode.ofLabel?
    rw [hTrim, hType]
    cases mode <;> decide
  unfold openingAs
  rw [hLabel]
  cases mode with
  | create => exact absurd rfl hMode
  | _ => rfl

/- The name of a project with this word in it is no type. -/
theorem openingAs_self
    (hName : Rule.isProjectName name)
    (hWord : "type".toList <:+: name.toList) :
    openingAs name name = .error (.unknownType name) := by
  have hPlain := (Rule.isProjectName_iff name).mp hName
  have hTrim : Text.trim name.toList = name.toList :=
    Text.trim_of_not_blank fun c hChar =>
      Text.not_isBlank_of_alphanumeric (hPlain.2 c hChar)
  have hLetter : 'y' ∈ name.toList := hWord.subset (by decide)
  have hLabel : PageMode.ofLabel? name.toList = none := by
    unfold PageMode.ofLabel?
    rw [hTrim, List.find?_eq_none]
    intro mode _ hSame
    have hSpelled : mode.IsSpelledBy name :=
      of_decide_eq_true hSame
    exact hSpelled.not_mem (by cases mode <;> decide) hLetter
  unfold openingAs
  rw [hLabel]

/- No type of a page has the name of the other parameter in it. -/
theorem not_infix_pair_type
    (hType : mode.IsSpelledBy type) :
    ¬"name".toList <:+: pair "type" type := by
  intro hWord
  have hLetter : 'm' ∈ pair "type" type := hWord.subset (by decide)
  have hValue : 'm' ∈ type.toList := by
    rcases List.mem_append.mp hLetter with hLeft | hRight
    · exact absurd hLeft (by decide)
    · exact (List.mem_cons.mp hRight).resolve_left (by decide)
  exact hType.not_mem (by cases mode <;> decide) hValue

theorem infix_pair_name_iff (name : String) :
    "type".toList <:+: pair "name" name ↔
      "type".toList <:+: name.toList := by
  have hLetter : 't' ∉ "name=".toList := by
    decide
  exact
    Text.infix_append_iff_of_not_mem hLetter ['y', 'p', 'e']
      name.toList

/- Where the type comes first, both parameters are found. -/
theorem parse_type_first
    (hName : Rule.isProjectName name)
    (hType : mode.IsSpelledBy type)
    (hLead : lead = "" ∨ lead = "?") :
    parse (lead ++ "type=" ++ type ++ "&name=" ++ name) =
      openingAs name type := by
  have hPairs :
      pairs (pair "type" type ++ '&' :: pair "name" name) =
        [pair "type" type, pair "name" name] :=
    pairs_of_plain
      (fun _ => mem_pair isPlain_parameter.2 hType.isPlain)
      (fun _ => mem_pair isPlain_parameter.1
        (Query.isPlain_of_isProjectName hName))
  have hQuery :
      (lead ++ "type=" ++ type ++ "&name=" ++ name).toList =
        lead.toList ++
          (pair "type" type ++ '&' :: pair "name" name) := by
    simp [pair, String.toList_append]
  apply parse_of_parameters hLead hQuery
  · simp [pair]
  · simp [pair]
  · rw [hPairs]
    exact
      parameter?_pair_second (not_infix_pair_type hType)
        isPlain_parameter.1 (Query.isPlain_of_isProjectName hName)
  · rw [hPairs]
    exact
      parameter?_pair_first isPlain_parameter.2 hType.isPlain _

/-
  Where the name comes first, it is taken for the type if it
  has that word in it.
-/
theorem parse_name_first
    (hName : Rule.isProjectName name)
    (hType : mode.IsSpelledBy type)
    (hLead : lead = "" ∨ lead = "?") :
    parse (lead ++ "name=" ++ name ++ "&type=" ++ type) =
      openingAs name
        (if "type".toList <:+: name.toList then name else type) := by
  have hPlain := Query.isPlain_of_isProjectName hName
  have hPairs :
      pairs (pair "name" name ++ '&' :: pair "type" type) =
        [pair "name" name, pair "type" type] :=
    pairs_of_plain
      (fun _ => mem_pair isPlain_parameter.1 hPlain)
      (fun _ => mem_pair isPlain_parameter.2 hType.isPlain)
  have hQuery :
      (lead ++ "name=" ++ name ++ "&type=" ++ type).toList =
        lead.toList ++
          (pair "name" name ++ '&' :: pair "type" type) := by
    simp [pair, String.toList_append]
  apply parse_of_parameters hLead hQuery
  · simp [pair]
  · simp [pair]
  · rw [hPairs]
    exact parameter?_pair_first isPlain_parameter.1 hPlain _
  · rw [hPairs]
    split
    · rename_i hWord
      rw [parameter?_first ((infix_pair_name_iff name).mpr hWord),
        splitOn_pair isPlain_parameter.1 hPlain]
      rfl
    · rename_i hWord
      exact
        parameter?_pair_second
          ((infix_pair_name_iff name).not.mpr hWord)
          isPlain_parameter.2 hType.isPlain

/-
  A project is opened by its name in every mode, in every
  spelling of the type and with or without a question mark,
  if the type comes first. If the name comes first it is
  opened as well, unless the name has the word `type` in it.
  Then the name is taken for the type, and there is none like
  that.
-/
theorem opens_by_query_unless_mistaken
    {name type lead : String}
    {mode : PageMode}
    (hName : Rule.isProjectName name)
    (hMode : mode ≠ .create)
    (hType : mode.IsSpelledBy type)
    (hLead : lead = "" ∨ lead = "?") :
    parse (lead ++ "type=" ++ type ++ "&name=" ++ name) =
        .ok { mode := mode, name := some name } ∧
      (¬"type".toList <:+: name.toList →
        parse (lead ++ "name=" ++ name ++ "&type=" ++ type) =
          .ok { mode := mode, name := some name }) ∧
      ("type".toList <:+: name.toList →
        parse (lead ++ "name=" ++ name ++ "&type=" ++ type) =
          .error (.unknownType name)) := by
  refine ⟨?_, ?_, ?_⟩
  · rw [parse_type_first hName hType hLead]
    exact openingAs_of_isSpelledBy hMode hType name
  · intro hWord
    rw [parse_name_first hName hType hLead, if_neg hWord]
    exact openingAs_of_isSpelledBy hMode hType name
  · intro hWord
    rw [parse_name_first hName hType hLead, if_pos hWord]
    exact openingAs_self hName hWord

/- A project without the word in its name, and one with it. -/
theorem opens_by_query_unless_mistaken_approval :
    parse "?name=core-lib&type=ApproveReject" =
        .ok { mode := .approveReject, name := some "core-lib" } ∧
      parse "?type=EDIT&name=subtype" =
        .ok { mode := .edit, name := some "subtype" } ∧
      parse "?name=subtype&type=EDIT" =
        .error (.unknownType "subtype") := by
  have hOpens :=
    opens_by_query_unless_mistaken
      (show Rule.isProjectName "core-lib" by decide)
      (show PageMode.approveReject ≠ .create by decide)
      (show PageMode.approveReject.IsSpelledBy "ApproveReject" by
        decide)
      (Or.inr rfl)
  have hMistaken :=
    opens_by_query_unless_mistaken
      (show Rule.isProjectName "subtype" by decide)
      (show PageMode.edit ≠ .create by decide)
      (show PageMode.edit.IsSpelledBy "EDIT" by decide)
      (Or.inr rfl)
  exact
    ⟨hOpens.2.1 (by decide), hMistaken.1,
      hMistaken.2.2 (by decide)⟩

/- Not every project is opened where its name comes first. -/
theorem not_always_opens_by_query :
    ¬∀ (name type lead : String) (mode : PageMode),
      Rule.isProjectName name →
      mode ≠ .create →
      mode.IsSpelledBy type →
      lead = "" ∨ lead = "?" →
      parse (lead ++ "name=" ++ name ++ "&type=" ++ type) =
          .ok { mode := mode, name := some name } ∧
        parse (lead ++ "type=" ++ type ++ "&name=" ++ name) =
          .ok { mode := mode, name := some name } := by
  intro hOpens
  have hOpened :=
    (hOpens "subtype" "edit" "" .edit (by decide) (by decide)
      (by decide) (Or.inl rfl)).1
  have hMistaken :
      parse "name=subtype&type=edit" =
        openingAs "subtype" "subtype" :=
    parse_name_first
      (show Rule.isProjectName "subtype" by decide)
      (show PageMode.edit.IsSpelledBy "edit" by decide)
      (Or.inl rfl)
  have hRefused :
      openingAs "subtype" "subtype" =
        .error (.unknownType "subtype") :=
    openingAs_self (by decide) (by decide)
  have hBoth :
      (Except.error (.unknownType "subtype") :
          Except Fault PageRequest) =
        .ok { mode := .edit, name := some "subtype" } :=
    hRefused.symm.trans (hMistaken.symm.trans hOpened)
  cases hBoth

end PageRequest

end BuildForm
