import Mathlib.Data.List.Induction
import BuildForm.Form.Basic
import BuildForm.Proofs.Record.Table

/-
  What a page makes of a stored configuration.

  Opening takes a record apart into inputs, boxes, drop-downs
  and checkboxes, and saving puts it together again. What
  comes back is the record as the page can express it: an
  empty text is none, a repeated path is dropped, and of
  credentials those are chosen that are offered.

  Main declarations:
    * `Credentials.chosen`
    * `ViewRecord.reopened`
    * `Configuration.reopened`
    * `View.toRecord_ofRecord`
    * `Form.HasLoaded.toConfiguration`
-/

------------------------------------------------------------
-- Records that Are Opened and Saved
------------------------------------------------------------

namespace BuildForm

/-
  What a drop-down of credentials shows: those stored if they
  are offered, and otherwise the first ones.
-/
def Credentials.chosen
    (offered : List String)
    (stored : Option String) : Option String :=
  (stored.filter (· ∈ offered)).or offered.head?

/- A text that is there and not empty. -/
def textIfAny (text : Option String) : Option String :=
  text.filter (· ≠ "")

def BuilderRecord.reopened
    (builder : BuilderRecord) : BuilderRecord where
  userConfig := textIfAny builder.userConfig

/- A view as it is saved after it was opened. -/
def ViewRecord.reopened
    (offered : List String)
    (view : ViewRecord) : ViewRecord :=
  { view with
    artifacts := view.artifacts.eraseDups
    versionFiles := view.versionFiles.eraseDups
    credentials := Credentials.chosen offered view.credentials
    builders := view.builders.map BuilderRecord.reopened }

/- A configuration as it is saved after it was opened. -/
def Configuration.reopened
    (offered : List String)
    (config : Configuration) : Configuration :=
  { config with
    scm := textIfAny config.scm
    preScript := textIfAny config.preScript
    postScript := textIfAny config.postScript
    comments := textIfAny config.comments
    regExp := textIfAny config.regExp
    pollScmTrigger := textIfAny config.pollScmTrigger
    buildPeriodicallyTrigger :=
      textIfAny config.buildPeriodicallyTrigger
    buildOnCommitTrigger :=
      some (config.buildOnCommitTrigger.getD true)
    email := some (config.email.getD "")
    configEmail := textIfAny config.configEmail
    cleanWorkspace := some (config.cleanWorkspace.getD true)
    views := config.views.map (·.reopened offered) }

end BuildForm

------------------------------------------------------------
-- Views
------------------------------------------------------------

namespace BuildForm

/- A text after others is one more unless it is among them. -/
theorem eraseDups_concat
    (texts : List String)
    (text : String) :
    (texts ++ [text]).eraseDups =
      if text ∈ texts then
        texts.eraseDups
      else
        texts.eraseDups ++ [text] := by
  rw [List.eraseDups_append]
  split
  · rename_i hListed
    simp [List.removeAll, hListed]
  · rename_i hNew
    simp [List.removeAll, hNew, List.eraseDups_cons]

namespace SelectionBox

theorem ofEntries_append
    (owner : ViewId)
    (kind : SelectionKind)
    (entries : List String)
    (entry : String) :
    ofEntries owner kind (entries ++ [entry]) =
      let box := ofEntries owner kind entries
      if box.contains entry then box else box.append entry := by
  unfold ofEntries
  rw [List.foldl_append]
  rfl

/- The box of stored paths shows each of them once. -/
theorem options_ofEntries
    (owner : ViewId)
    (kind : SelectionKind)
    (entries : List String) :
    (ofEntries owner kind entries).options =
      entries.eraseDups := by
  induction entries using List.reverseRecOn with
  | nil => rfl
  | append_singleton entries entry ih =>
      rw [ofEntries_append, eraseDups_concat]
      dsimp only
      unfold contains
      rw [ih]
      by_cases hListed : entry ∈ entries
      · simp [List.mem_eraseDups, hListed, ih]
      · simp [List.mem_eraseDups, hListed, ih, append]

end SelectionBox

namespace Credentials

theorem value?_ofOptions (offered : List String) :
    (ofOptions offered).value? = offered.head? := by
  cases offered <;> rfl

/- Selecting what is not offered selects nothing else. -/
theorem value?_select
    (credentials : Credentials)
    (value : String) :
    (credentials.select value).2.value? =
      if value ∈ credentials.options then
        some value
      else
        credentials.value? := by
  unfold select
  cases hIndex : credentials.options.idxOf? value with
  | none =>
      rw [List.idxOf?_eq_none_iff] at hIndex
      rw [if_neg hIndex]
  | some index =>
      rcases List.idxOf?_eq_some_iff.mp hIndex with
        ⟨hBound, hValue, _⟩
      have hOffered : value ∈ credentials.options := by
        rw [← hValue]
        exact List.getElem_mem hBound
      rw [if_pos hOffered]
      simp [value?, hBound, hValue]

/- Stored credentials are shown if they are offered. -/
theorem value?_ofStored
    (offered : List String)
    (stored : Option String) :
    (match stored with
      | none => ofOptions offered
      | some value =>
          ((ofOptions offered).select value).2).value? =
      chosen offered stored := by
  cases stored with
  | none =>
      dsimp only
      rw [value?_ofOptions]
      rfl
  | some value =>
      dsimp only
      rw [value?_select, value?_ofOptions]
      unfold chosen
      by_cases hOffered : value ∈ offered
      · simp [ofOptions, Option.filter_some, hOffered]
      · simp [ofOptions, Option.filter_some, hOffered]

end Credentials

theorem Builder.toRecord_ofRecord
    (id : BuilderId)
    (record : BuilderRecord) :
    (Builder.ofRecord id record).toRecord = record.reopened := by
  rcases record with ⟨userConfig⟩
  cases userConfig with
  | none => rfl
  | some value =>
      unfold BuilderRecord.reopened textIfAny
      by_cases hEmpty : value = ""
      · simp [ofRecord, toRecord, setOtherConfig,
          Field.setValue, Option.filter_some, hEmpty]
      · simp [ofRecord, toRecord, setOtherConfig,
          Field.setValue, Option.filter_some, hEmpty]

namespace View

theorem records_buildersOf
    (ordinal : UInt32)
    (records : List BuilderRecord) :
    (buildersOf ordinal records).map Builder.toRecord =
      records.map BuilderRecord.reopened := by
  induction records generalizing ordinal with
  | nil => rfl
  | cons record records ih =>
      rw [buildersOf, List.map_cons, List.map_cons, ih,
        Builder.toRecord_ofRecord]

/- A stored view that is opened and saved. -/
theorem toRecord_ofRecord
    (id : ViewId)
    (html : String)
    (offered : List String)
    (record : ViewRecord) :
    (View.ofRecord id html offered record).toRecord =
      record.reopened offered := by
  have hVersionFiles :
      (if !record.versionFiles.isEmpty then
        SelectionBox.ofEntries id .versionFiles
          record.versionFiles
      else
        { SelectionBox.blank id .versionFiles with
          visible := false }).options =
        record.versionFiles.eraseDups := by
    cases record.versionFiles with
    | nil => rfl
    | cons first rest =>
        exact SelectionBox.options_ofEntries id _ _
  unfold View.ofRecord View.toRecord ViewRecord.reopened
  dsimp only
  rw [SelectionBox.options_ofEntries, records_buildersOf]
  congr 1
  · exact Credentials.value?_ofStored offered record.credentials

end View

/- Stored views take the place of the views of a new page. -/
theorem Views.records_load
    {views : Views}
    (hNew : views.items = [])
    (loaded : LoadedViews) :
    (views.load loaded).records =
      loaded.views.map (·.reopened loaded.credentials) := by
  have hItems :
      ∀ (ordinal : UInt32) (html : String)
        (records : List ViewRecord),
        (itemsOf loaded.credentials ordinal html records).map
            View.toRecord =
          records.map (·.reopened loaded.credentials) := by
    intro ordinal html records
    induction records generalizing ordinal html with
    | nil => rfl
    | cons record records ih =>
        rw [itemsOf, List.map_cons, List.map_cons, ih,
          View.toRecord_ofRecord]
  unfold load
  split
  · rename_i hNothing
    rw [hNothing.2]
    simp [records, hNew]
  · exact hItems 0 loaded.html loaded.views

end BuildForm

------------------------------------------------------------
-- Users and Machines
------------------------------------------------------------

namespace BuildForm

/- Users that are loaded come after those there are. -/
theorem Users.names_load
    (users : Users)
    {html : String}
    {names : List String}
    (hMarkup : html = "" → names = []) :
    (users.load html names).names = users.names ++ names := by
  have hAll :
      ∀ (names : List String) (users : Users),
        (names.foldl
            (fun users name => (users.push name "").2)
            users).names =
          users.names ++ names := by
    intro names
    induction names with
    | nil =>
        intro users
        simp
    | cons name names ih =>
        intro users
        rw [List.foldl_cons, ih]
        simp [push, Users.names]
  unfold load
  split
  · rename_i hEmpty
    simp [hMarkup hEmpty]
  · exact hAll names users

namespace Machines

theorem entries_loadNode
    (machines : Machines)
    {node : String}
    (selected : Bool)
    (hNew : node ∉ machines.nodes.keys) :
    (machines.loadNode node selected).nodes.entries =
      machines.nodes.entries ++ [(node, selected)] := by
  have hPut :
      ∀ checked,
        (machines.nodes.put node checked).entries =
          machines.nodes.entries ++ [(node, checked)] :=
    fun checked => Entries.put_of_not_mem node checked _ hNew
  unfold loadNode
  cases selected with
  | true => exact hPut true
  | false =>
      unfold Table.putNew
      simp only [Bool.false_eq_true, if_false, if_neg hNew]
      exact hPut false

/- Machines that are new are added in their order. -/
theorem entries_loadNodes
    (entries : List (String × Bool))
    (machines : Machines)
    (hNodup :
      (Entries.keys
        (machines.nodes.entries ++ entries)).Nodup) :
    (entries.foldl
        (fun machines entry =>
          machines.loadNode entry.1 entry.2)
        machines).nodes.entries =
      machines.nodes.entries ++ entries := by
  induction entries generalizing machines with
  | nil => simp
  | cons entry entries ih =>
      have hEntry : entry.1 ∉ machines.nodes.keys := by
        intro hKnown
        simp only [Entries.keys, List.map_append,
          List.map_cons, List.nodup_append] at hNodup
        exact hNodup.2.2 _ hKnown _ (by simp) rfl
      have hFirst :=
        machines.entries_loadNode entry.2 hEntry
      rw [List.foldl_cons, ih, hFirst]
      · simp
      · rw [hFirst]
        simpa using hNodup

/- Where no machine is known the stored ones are. -/
theorem nodes_load
    {machines : Machines}
    (hNew : machines.nodes = Table.empty)
    (stored : Table Bool) :
    (machines.load stored).nodes = stored := by
  apply Table.ext
  unfold load
  rw [hNew]
  exact entries_loadNodes stored.entries
    { nodes := Table.empty } stored.nodup

end Machines

end BuildForm

------------------------------------------------------------
-- The Form
------------------------------------------------------------

namespace BuildForm

namespace Form

/- A new form but for the views and users of a record. -/
structure HasLoaded
    (offered : List String)
    (config : Configuration)
    (form : Form) : Prop where
  fresh :
    ∃ mode views users,
      form = { Form.blank mode with views, users }
  views :
    form.views.records = config.views.map (·.reopened offered)
  users : form.users.names = config.users

/- What is saved by a form that shows an empty text. -/
theorem textOrNone_getD (text : Option String) :
    textOrNone (text.getD "") = textIfAny text := by
  unfold textOrNone textIfAny
  cases text with
  | none => rfl
  | some value =>
      by_cases hEmpty : value = ""
      · simp [Option.filter_some, hEmpty]
      · simp [Option.filter_some, hEmpty]

/-
  Once the record is applied and the comments are shown, the
  form is saved as the reopened record.
-/
theorem HasLoaded.toConfiguration
    {offered : List String}
    {config : Configuration}
    {form : Form}
    (hLoaded : form.HasLoaded offered config) :
    ({ form.applyConfiguration config with
        commentsEnabled := true } : Form).toConfiguration =
      config.reopened offered := by
  rcases hLoaded.fresh with ⟨mode, views, users, rfl⟩
  have hViews : views.records = _ := hLoaded.views
  have hUsers : users.names = _ := hLoaded.users
  have hMachines :
      (Machines.load {} config.buildMachines).nodes =
        config.buildMachines :=
    Machines.nodes_load rfl config.buildMachines
  have hClean :
      (if config.cleanWorkspace = some false then false
        else true) = config.cleanWorkspace.getD true := by
    rcases config.cleanWorkspace with _ | clean
    · rfl
    · cases clean <;> rfl
  unfold Configuration.reopened
  simp only [← textOrNone_getD, ← hViews]
  unfold Form.applyConfiguration
  cases hMail : config.email with
  | none =>
      unfold Form.toConfiguration
      dsimp only [Form.blank]
      rw [hUsers, hMachines, hClean]
      rfl
  | some address =>
      dsimp only
      split
      · rename_i hEmpty
        unfold Form.toConfiguration
        dsimp only [Form.blank]
        rw [hUsers, hMachines, hClean, hEmpty]
        rfl
      · unfold Form.toConfiguration
        dsimp only [Form.blank, showEmail]
        rw [hUsers, hMachines, hClean]
        rfl

end Form

end BuildForm
