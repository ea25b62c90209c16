import BuildForm.Proofs.Form.HiddenFields
import BuildForm.Proofs.Text.Numeral
import BuildForm.Proofs.Text.Search

/-
  The element names that address the inputs of a page.

  The name of an input of a view or of a builder has their
  ordinals in it. It is read back as that input, also where an
  ordinal has zeros or a plus sign in front, and no other text
  is read as an input.

  Main declarations:
    * `ViewId.ofDomId?_eq_some_iff`
    * `ViewField.ofName?_eq_some_iff`
    * `FieldPath.IsSpelledBy`
    * `FieldPath.parse?_eq_some_iff`
    * `FieldPath.element_names_are_addresses`
-/

------------------------------------------------------------
-- Parts of Names
------------------------------------------------------------

namespace BuildForm

/- A number that is read after a lead, as the ordinal of an id. -/
theorem Text.bind_readWord?_eq_some_iff
    {α : Type}
    {make : UInt32 → α}
    {lead text : List Char}
    {id : α} :
    ((Text.dropLead? lead text).bind fun rest =>
        (Text.readWord? rest).map make) = some id ↔
      ∃ padded value,
        Text.IsPadded padded value.toNat ∧
          text = lead ++ padded ∧
          make value = id := by
  simp only [Option.bind_eq_some_iff, Option.map_eq_some_iff,
    Text.dropLead?_eq_some_iff, Text.readWord?_eq_some_iff]
  constructor
  · rintro ⟨padded, hText, value, hPadded, hMake⟩
    exact ⟨padded, value, hPadded, hText, hMake⟩
  · rintro ⟨padded, value, hPadded, hText, hMake⟩
    exact ⟨padded, hText, value, hPadded, hMake⟩

theorem ViewId.ofDomId?_eq_some_iff
    {text : List Char}
    {id : ViewId} :
    ViewId.ofDomId? text = some id ↔
      ∃ padded,
        Text.IsPadded padded id.ordinal.toNat ∧
          text = lead.toList ++ padded := by
  refine Text.bind_readWord?_eq_some_iff.trans ?_
  constructor
  · rintro ⟨padded, value, hPadded, hText, rfl⟩
    exact ⟨padded, hPadded, hText⟩
  · rintro ⟨padded, hPadded, hText⟩
    exact ⟨padded, id.ordinal, hPadded, hText, rfl⟩

theorem BuilderId.ofDomId?_eq_some_iff
    {text : List Char}
    {id : BuilderId} :
    BuilderId.ofDomId? text = some id ↔
      ∃ padded,
        Text.IsPadded padded id.ordinal.toNat ∧
          text = lead.toList ++ padded := by
  refine Text.bind_readWord?_eq_some_iff.trans ?_
  constructor
  · rintro ⟨padded, value, hPadded, hText, rfl⟩
    exact ⟨padded, hPadded, hText⟩
  · rintro ⟨padded, hPadded, hText⟩
    exact ⟨padded, id.ordinal, hPadded, hText, rfl⟩

/- The names of the fields of a view differ. -/
theorem ViewField.ofName?_eq_some_iff
    {name : String}
    {field : ViewField} :
    ViewField.ofName? name = some field ↔
      field.name = name := by
  constructor
  · intro hFind
    simpa using List.find?_some hFind
  · rintro rfl
    cases field <;> rfl

end BuildForm

------------------------------------------------------------
-- Names of Inputs
------------------------------------------------------------

namespace BuildForm

namespace FieldPath

/-
  The texts that name an input: its element name, and those
  that have zeros or a plus sign in front of an ordinal.
-/
inductive IsSpelledBy : FieldPath → String → Prop where
  | plain (path : FieldPath) : IsSpelledBy path path.elementName
  | view {owner : ViewId} {padded : String} (field : ViewField) :
      Text.IsPadded padded.toList owner.ordinal.toNat →
      IsSpelledBy (.view owner field)
        (ViewId.lead ++ padded ++ "/" ++ field.name)
  | builder
      {owner : ViewId}
      {id : BuilderId}
      {padded other : String} :
      Text.IsPadded padded.toList owner.ordinal.toNat →
      Text.IsPadded other.toList id.ordinal.toNat →
      IsSpelledBy (.builder owner id)
        (ViewId.lead ++ padded ++ "/" ++
          (BuilderId.lead ++ other) ++ "/userConfig")

/- The input of a view or builder with parts of a name. -/
def ofParts? : List (List Char) → Option FieldPath
  | [owner, leaf] => do
      let owner ← ViewId.ofDomId? owner
      let field ← ViewField.ofName? (String.ofList leaf)
      some (.view owner field)
  | [owner, id, leaf] => do
      let owner ← ViewId.ofDomId? owner
      let id ← BuilderId.ofDomId? id
      if leaf = "userConfig".toList then
        some (.builder owner id)
      else
        none
  | _ => none

theorem parse?_eq (name : String) :
    parse? name =
      (pageFields.lookup name).or
        (ofParts? (name.toList.splitOn '/')) := by
  unfold parse?
  cases pageFields.lookup name <;> rfl

variable {owner : ViewId}
variable {id : BuilderId}
variable {padded other : List Char}

theorem ofParts?_view
    (hOwner : Text.IsPadded padded owner.ordinal.toNat)
    (field : ViewField) :
    ofParts?
        [ViewId.lead.toList ++ padded, field.name.toList] =
      some (.view owner field) := by
  have hId := ViewId.ofDomId?_eq_some_iff.mpr ⟨padded, hOwner, rfl⟩
  have hField := ViewField.ofName?_eq_some_iff.mpr
    (rfl : field.name = field.name)
  simp [ofParts?, hId, hField]

theorem ofParts?_builder
    (hOwner : Text.IsPadded padded owner.ordinal.toNat)
    (hId : Text.IsPadded other id.ordinal.toNat) :
    ofParts?
        [ViewId.lead.toList ++ padded,
          BuilderId.lead.toList ++ other,
          "userConfig".toList] =
      some (.builder owner id) := by
  have hView :=
    ViewId.ofDomId?_eq_some_iff.mpr ⟨padded, hOwner, rfl⟩
  have hBuilder :=
    BuilderId.ofDomId?_eq_some_iff.mpr ⟨other, hId, rfl⟩
  simp [ofParts?, hView, hBuilder]

/- The parts that are read as an input spell it. -/
theorem isSpelledBy_of_ofParts?
    {name : String}
    {parts : List (List Char)}
    {path : FieldPath}
    (hName : name.toList = ['/'].intercalate parts)
    (hParts : ofParts? parts = some path) :
    path.IsSpelledBy name := by
  unfold ofParts? at hParts
  split at hParts
  · simp only [Option.bind_eq_bind, Option.bind_eq_some_iff,
      Option.some.injEq] at hParts
    rcases hParts with ⟨owner, hOwner, field, hField, rfl⟩
    rcases ViewId.ofDomId?_eq_some_iff.mp hOwner with
      ⟨padded, hPadded, rfl⟩
    have hSame :
        name =
          ViewId.lead ++ String.ofList padded ++ "/" ++
            field.name := by
      rw [ViewField.ofName?_eq_some_iff.mp hField,
        ← String.toList_inj, hName]
      simp
    rw [hSame]
    exact .view field (by simpa using hPadded)
  · simp only [Option.bind_eq_bind, Option.bind_eq_some_iff]
      at hParts
    rcases hParts with ⟨owner, hOwner, id, hId, hLeaf⟩
    split at hLeaf
    · rename_i hWord
      cases hLeaf
      rcases ViewId.ofDomId?_eq_some_iff.mp hOwner with
        ⟨padded, hPadded, rfl⟩
      rcases BuilderId.ofDomId?_eq_some_iff.mp hId with
        ⟨other, hOther, rfl⟩
      have hSame :
          name =
            ViewId.lead ++ String.ofList padded ++ "/" ++
              (BuilderId.lead ++ String.ofList other) ++
              "/userConfig" := by
        rw [← String.toList_inj, hName, hWord]
        simp
      rw [hSame]
      exact
        .builder (by simpa using hPadded) (by simpa using hOther)
    · cases hLeaf
  · cases hParts

end FieldPath

end BuildForm

------------------------------------------------------------
-- Reading Names
------------------------------------------------------------

namespace BuildForm

namespace FieldPath

variable {name : String}
variable {path : FieldPath}

theorem elementName_of_mem_pageFields
    (hEntry : (name, path) ∈ pageFields) :
    path.elementName = name := by
  have hAll :
      ∀ entry ∈ pageFields, entry.2.elementName = entry.1 := by
    decide
  exact hAll (name, path) hEntry

theorem mem_pageFields_of_lookup
    (hLookup : pageFields.lookup name = some path) :
    (name, path) ∈ pageFields := by
  rcases List.lookup_eq_some_iff.mp hLookup with
    ⟨before, after, hEntries, _⟩
  rw [hEntries]
  simp

/- No input outside of the views has a slash in its name. -/
theorem lookup_eq_none_of_slash
    (hSlash : '/' ∈ name.toList) :
    pageFields.lookup name = none := by
  have hPlain : ∀ entry ∈ pageFields, '/' ∉ entry.1.toList := by
    decide
  rw [List.lookup_eq_none_iff]
  intro entry hEntry
  have hOther : name ≠ entry.1 := by
    rintro rfl
    exact hPlain entry hEntry hSlash
  simpa using hOther

/- A name with slashes is read part by part. -/
theorem parse?_of_parts
    {first second : List Char}
    {rest : List (List Char)}
    (hName :
      name.toList = ['/'].intercalate (first :: second :: rest))
    (hParts : ∀ part ∈ first :: second :: rest, '/' ∉ part) :
    parse? name = ofParts? (first :: second :: rest) := by
  have hSlash : '/' ∈ name.toList := by
    rw [hName, List.intercalate_cons_of_ne_nil (by simp)]
    simp
  rw [parse?_eq, lookup_eq_none_of_slash hSlash, Option.none_or,
    hName, List.splitOn_intercalate '/' hParts (by simp)]

theorem parse?_view
    {owner : ViewId}
    {padded : String}
    (hOwner : Text.IsPadded padded.toList owner.ordinal.toNat)
    (field : ViewField) :
    parse? (ViewId.lead ++ padded ++ "/" ++ field.name) =
      some (.view owner field) := by
  have hLead : '/' ∉ ViewId.lead.toList := by
    decide
  have hField : '/' ∉ field.name.toList := by
    cases field <;> decide
  rw [← ofParts?_view hOwner field]
  apply parse?_of_parts
  · simp
  · simp [hLead, hField, hOwner.slash_not_mem]

theorem parse?_builder
    {owner : ViewId}
    {id : BuilderId}
    {padded other : String}
    (hOwner : Text.IsPadded padded.toList owner.ordinal.toNat)
    (hId : Text.IsPadded other.toList id.ordinal.toNat) :
    parse?
        (ViewId.lead ++ padded ++ "/" ++
          (BuilderId.lead ++ other) ++ "/userConfig") =
      some (.builder owner id) := by
  have hLeads :
      '/' ∉ ViewId.lead.toList ∧ '/' ∉ BuilderId.lead.toList := by
    decide
  rw [← ofParts?_builder hOwner hId]
  apply parse?_of_parts
  · simp
  · simp [hLeads, hOwner.slash_not_mem, hId.slash_not_mem]

theorem isPadded_ofList_digits (n : Nat) :
    Text.IsPadded (String.ofList (Text.digits n)).toList n := by
  rw [String.toList_ofList]
  exact Text.isPadded_digits n

theorem parse?_elementName (path : FieldPath) :
    parse? path.elementName = some path := by
  cases path with
  | view owner field =>
      exact parse?_view (isPadded_ofList_digits _) field
  | builder owner id =>
      exact
        parse?_builder (isPadded_ofList_digits _)
          (isPadded_ofList_digits _)
  | _ => decide

theorem parse?_of_isSpelledBy
    (hSpelled : path.IsSpelledBy name) :
    parse? name = some path := by
  cases hSpelled with
  | plain => exact parse?_elementName path
  | view field hOwner => exact parse?_view hOwner field
  | builder hOwner hId => exact parse?_builder hOwner hId

theorem parse?_eq_some_iff :
    parse? name = some path ↔ path.IsSpelledBy name := by
  refine ⟨?_, parse?_of_isSpelledBy⟩
  intro hParse
  rw [parse?_eq, Option.or_eq_some_iff] at hParse
  rcases hParse with hLookup | ⟨_, hParts⟩
  · rw [← elementName_of_mem_pageFields
      (mem_pageFields_of_lookup hLookup)]
    exact .plain path
  · exact
      isSpelledBy_of_ofParts? (List.intercalate_splitOn '/').symm
        hParts

/-
  Every element name is read back as its input, so that inputs
  with one name are the same. Besides it only the texts that
  pad an ordinal name an input, and all others name none.
-/
theorem element_names_are_addresses :
    (∀ path : FieldPath, parse? path.elementName = some path) ∧
      (∀ first second : FieldPath,
        first.elementName = second.elementName ↔
          first = second) ∧
      (∀ name path,
        parse? name = some path ↔ path.IsSpelledBy name) ∧
      ∀ name,
        parse? name = none ↔
          ∀ path : FieldPath, ¬path.IsSpelledBy name := by
  refine
    ⟨parse?_elementName, ?_, fun _ _ => parse?_eq_some_iff, ?_⟩
  · intro first second
    refine ⟨fun hSame => ?_, congrArg elementName⟩
    have hParse := congrArg parse? hSame
    rw [parse?_elementName, parse?_elementName] at hParse
    exact Option.some.inj hParse
  · intro name
    rw [Option.eq_none_iff_forall_ne_some]
    exact forall_congr' fun path => parse?_eq_some_iff.not

end FieldPath

end BuildForm
