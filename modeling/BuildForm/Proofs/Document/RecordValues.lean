import BuildForm.Document.Basic
import BuildForm.Document.Records
import BuildForm.Proofs.Document.JsonText

/-
  Reading back the records that are written as values.

  Main declarations:
    * `ViewRecord.ofValue?_toValue`
    * `Configuration.ofValue?_toValue`
    * `NewDefaults.ofValue?_toValue`
    * `Configuration.plain_toValue`
    * `Document.exists_readAs_of_plain`
    * `Document.json_records_round_trip`
-/

------------------------------------------------------------
-- Parts of Records
------------------------------------------------------------

namespace BuildForm

namespace Value

variable {α : Type}

@[simp] theorem orNull?_textOrNull
    (value : Option String) :
    orNull? asText? (textOrNull value) = some value := by
  cases value <;> rfl

@[simp] theorem orNull?_flagOrNull
    (value : Option Bool) :
    orNull? asFlag? (flagOrNull value) = some value := by
  cases value <;> rfl

/- A list is read back if each of its items is. -/
theorem asList?_map
    (write : α → Value)
    (read? : Value → Option α)
    (items : List α)
    (hEach : ∀ item ∈ items, read? (write item) = some item) :
    asList? read? (.list (items.map write)) = some items := by
  unfold asList?
  induction items with
  | nil => rfl
  | cons item items ih =>
      have hRest := ih fun member hMember =>
        hEach member (by simp [hMember])
      simp only at hRest
      simp [List.mapM_cons, hEach item (by simp), hRest]

@[simp] theorem asList?_texts (items : List String) :
    asList? asText? (texts items) = some items :=
  asList?_map .text asText? items fun _ _ => rfl

theorem readEntries?_map
    (write : α → Value)
    (read? : Value → Option α)
    (entries : List (String × α))
    (hEach : ∀ item, read? (write item) = some item) :
    readEntries? read?
        (entries.map fun (key, item) => (key, write item)) =
      some entries := by
  induction entries with
  | nil => rfl
  | cons entry entries ih =>
      simp [readEntries?, hEach, ih]

end Value

namespace Value

variable {α : Type}

theorem asTable?_ofTable
    (write : α → Value)
    (read? : Value → Option α)
    (table : Table α)
    (hEach : ∀ item, read? (write item) = some item) :
    asTable? read? (ofTable write table) = some table := by
  unfold asTable? ofTable
  simp [readEntries?_map write read? table.entries hEach,
    Table.ofList_entries]

end Value

@[simp] theorem Standing.ofLabel?_label
    (standing : Standing) :
    ofLabel? standing.label = some standing := by
  cases standing <;> decide

------------------------------------------------------------
-- Records
------------------------------------------------------------

theorem BuilderRecord.ofValue?_toValue
    (builder : BuilderRecord) :
    ofValue? builder.toValue = some builder := by
  change
    (do
      let userConfig ←
        Value.orNull? Value.asText?
          (.textOrNull builder.userConfig)
      some { builder with userConfig }) =
      some builder
  rw [Value.orNull?_textOrNull]
  rfl

theorem ViewRecord.ofValue?_toValue (view : ViewRecord) :
    ofValue? view.toValue = some view := by
  have hBuilders :=
    Value.asList?_map BuilderRecord.toValue
      BuilderRecord.ofValue? view.builders
      fun builder _ => builder.ofValue?_toValue
  change
    (do
      let artifacts ←
        Value.asList? Value.asText? (.texts view.artifacts)
      let versionFiles ←
        Value.asList? Value.asText? (.texts view.versionFiles)
      let credentials ←
        Value.orNull? Value.asText?
          (.textOrNull view.credentials)
      let builders ←
        Value.asList? BuilderRecord.ofValue?
          (.list (view.builders.map BuilderRecord.toValue))
      some
        { view with
          artifacts, versionFiles, credentials, builders }) =
      some view
  rw [Value.asList?_texts, Value.asList?_texts,
    Value.orNull?_textOrNull, hBuilders]
  rfl

/-
  A configuration is read from the value it is written as.
  Only the fields that are not plain texts take a lemma.
-/
theorem Configuration.ofValue?_toValue
    (config : Configuration) :
    ofValue? config.toValue = some config := by
  let text? (value : Option String) :=
    Value.orNull? Value.asText? (.textOrNull value)
  let flag? (value : Option Bool) :=
    Value.orNull? Value.asFlag? (.flagOrNull value)
  have hText : ∀ value, text? value = some value :=
    Value.orNull?_textOrNull
  have hFlag : ∀ value, flag? value = some value :=
    Value.orNull?_flagOrNull
  have hViews :=
    Value.asList?_map ViewRecord.toValue ViewRecord.ofValue?
      config.views fun view _ => view.ofValue?_toValue
  have hMachines :=
    Value.asTable?_ofTable Value.flag Value.asFlag?
      config.buildMachines fun _ => rfl
  change
    (do
      let scm ← text? config.scm
      let scriptType ← text? config.scriptType
      let preScript ← text? config.preScript
      let postScript ← text? config.postScript
      let comments ← text? config.comments
      let regExp ← text? config.regExp
      let pollScmTrigger ← text? config.pollScmTrigger
      let buildPeriodicallyTrigger ←
        text? config.buildPeriodicallyTrigger
      let buildOnCommitTrigger ←
        flag? config.buildOnCommitTrigger
      let email ← text? config.email
      let configEmail ← text? config.configEmail
      let cleanWorkspace ← flag? config.cleanWorkspace
      let buildMachines ←
        Value.asTable? Value.asFlag?
          (.ofTable .flag config.buildMachines)
      let users ←
        Value.asList? Value.asText? (.texts config.users)
      let views ←
        Value.asList? ViewRecord.ofValue?
          (.list (config.views.map ViewRecord.toValue))
      let standing ← Standing.ofLabel? config.standing.label
      let creator ← text? config.creator
      some
        { config with
          scm, scriptType, preScript, postScript, comments,
          regExp, pollScmTrigger, buildPeriodicallyTrigger,
          buildOnCommitTrigger, email, configEmail,
          cleanWorkspace, buildMachines, users, views,
          standing, creator }) =
      some config
  rw [hText, hText, hText, hText, hText, hText, hText, hText,
    hFlag, hText, hText, hFlag, hMachines,
    Value.asList?_texts, hViews, Standing.ofLabel?_label,
    hText]
  rfl

theorem NewDefaults.ofValue?_toValue
    (defaults : NewDefaults) :
    ofValue? defaults.toValue = some defaults := by
  change
    (do
      let scm ←
        Value.orNull? Value.asText? (.textOrNull defaults.scm)
      let defaultCredentials ←
        Value.orNull? Value.asText?
          (.textOrNull defaults.defaultCredentials)
      let credentials ←
        Value.asList? Value.asText?
          (.texts defaults.credentials)
      let nodes ←
        Value.asList? Value.asText? (.texts defaults.nodes)
      some
        { scm, defaultCredentials, credentials, nodes }) =
      some defaults
  rw [Value.orNull?_textOrNull, Value.orNull?_textOrNull,
    Value.asList?_texts, Value.asList?_texts]
  rfl

end BuildForm

------------------------------------------------------------
-- Nesting
------------------------------------------------------------

namespace BuildForm

namespace Value

variable {α : Type} {depth : Nat}

attribute [simp] Plain.null Plain.flag Plain.text

@[simp] theorem plain_textOrNull (value : Option String) :
    (textOrNull value).Plain depth := by
  cases value <;> simp [textOrNull]

@[simp] theorem plain_flagOrNull (value : Option Bool) :
    (flagOrNull value).Plain depth := by
  cases value <;> simp [flagOrNull]

theorem plain_map
    (write : α → Value)
    (items : List α)
    (hEach : ∀ item, (write item).Plain depth) :
    (list (items.map write)).Plain (depth + 1) := by
  apply Plain.list
  intro value hValue
  rcases List.mem_map.mp hValue with ⟨item, _, rfl⟩
  exact hEach item

@[simp] theorem plain_texts (items : List String) :
    (texts items).Plain (depth + 1) :=
  plain_map .text items fun _ => Plain.text

theorem plain_ofTable
    (write : α → Value)
    (table : Table α)
    (hEach : ∀ item, (write item).Plain depth) :
    (ofTable write table).Plain (depth + 1) := by
  apply Plain.table
  · have hKeys :
        (Entries.keys table.entries).Nodup := table.nodup
    simpa [Entries.keys, Function.comp_def] using hKeys
  · intro field hField
    rcases List.mem_map.mp hField with ⟨entry, _, rfl⟩
    exact hEach entry.2

end Value

theorem BuilderRecord.plain_toValue
    (builder : BuilderRecord)
    (depth : Nat) :
    builder.toValue.Plain (depth + 1) :=
  Value.Plain.table (by simp [Entries.keys]) (by simp)

theorem ViewRecord.plain_toValue
    (view : ViewRecord)
    (depth : Nat) :
    view.toValue.Plain (depth + 3) := by
  have hBuilders :=
    Value.plain_map BuilderRecord.toValue view.builders
      fun builder => builder.plain_toValue depth
  exact Value.Plain.table (by simp [Entries.keys])
    (by simp [hBuilders])

/- Five levels hold every configuration. -/
theorem Configuration.plain_toValue
    (config : Configuration)
    (depth : Nat) :
    config.toValue.Plain (depth + 5) := by
  have hViews :=
    Value.plain_map ViewRecord.toValue config.views
      fun view => view.plain_toValue depth
  have hMachines :
      (Value.ofTable Value.flag config.buildMachines).Plain
        (depth + 4) :=
    Value.plain_ofTable Value.flag config.buildMachines
      fun _ => Value.Plain.flag
  exact Value.Plain.table (by simp [Entries.keys])
    (by simp [hViews, hMachines])

theorem NewDefaults.plain_toValue
    (defaults : NewDefaults)
    (depth : Nat) :
    defaults.toValue.Plain (depth + 2) :=
  Value.Plain.table (by simp [Entries.keys]) (by simp)

end BuildForm

------------------------------------------------------------
-- Documents
------------------------------------------------------------

namespace BuildForm

namespace Document

/-
  A record that is written as a plain value is written to a
  JSON document of either layout and read back from it.
-/
theorem exists_readAs_of_plain
    {α : Type}
    {ofValue? : Value → Option α}
    {value : Value}
    {record : α}
    (hPlain : value.Plain Json.maxDepth)
    (hRead : ofValue? value = some record)
    (pretty : Bool) :
    ∃ text,
      renderRecord .json pretty value = .ok text ∧
        readAs ofValue? .json text = .ok record := by
  let text :=
    String.ofList
      (if pretty then Json.pretty value else Json.compact value)
  have hParse : Json.parse? text = some value := by
    cases pretty with
    | true => exact Json.parse?_pretty hPlain
    | false => exact Json.parse?_compact hPlain
  refine ⟨text, rfl, ?_⟩
  unfold readAs parse
  simp only [hParse, hRead]

/- A configuration survives being written to a document. -/
theorem readAs_render_configuration
    (config : Configuration) :
    (renderRecord .json true config.toValue).bind
        (readAs Configuration.ofValue? .json) =
      .ok config := by
  rcases exists_readAs_of_plain (config.plain_toValue 122)
      config.ofValue?_toValue true with
    ⟨text, hRender, hRead⟩
  rw [hRender]
  exact hRead

/-
  Every configuration, project view and set of defaults is
  read back, in every field and with the order of its
  entries, from the JSON document that it is written to, on
  many lines or on one.
-/
theorem json_records_round_trip (pretty : Bool) :
    (∀ config : Configuration,
      ∃ text,
        renderRecord .json pretty config.toValue = .ok text ∧
          readAs Configuration.ofValue? .json text =
            .ok config) ∧
    (∀ view : ViewRecord,
      ∃ text,
        renderRecord .json pretty view.toValue = .ok text ∧
          readAs ViewRecord.ofValue? .json text = .ok view) ∧
    ∀ defaults : NewDefaults,
      ∃ text,
        renderRecord .json pretty defaults.toValue =
            .ok text ∧
          readAs NewDefaults.ofValue? .json text =
            .ok defaults := by
  refine ⟨?_, ?_, ?_⟩
  · intro config
    exact
      exists_readAs_of_plain (config.plain_toValue 122)
        config.ofValue?_toValue pretty
  · intro view
    exact
      exists_readAs_of_plain (view.plain_toValue 124)
        view.ofValue?_toValue pretty
  · intro defaults
    exact
      exists_readAs_of_plain (defaults.plain_toValue 125)
        defaults.ofValue?_toValue pretty

end Document

end BuildForm
