import BuildForm.Proofs.Document.RecordValues
import BuildForm.Proofs.Page.Submitted
import BuildForm.Proofs.Service.Storing

/-
  A store that several clients call.

  The store answers one call after another, whoever makes it,
  and only submissions that it accepts change the tree. What
  it stores as a live record stands in a document of its name.

  Main declarations:
    * `Call.ofClient`
    * `Directory.Served`
    * `Directory.Served.of_unaccepted`
    * `Directory.IsLive`
    * `Directory.isLive_of_store`
-/

------------------------------------------------------------
-- Calls of Several Clients
------------------------------------------------------------

namespace BuildForm

instance Request.decidableEqAnswer :
    (request : Request) → DecidableEq request.Answer
  | .newDefaults => inferInstanceAs (DecidableEq NewDefaults)
  | .configuration _ =>
      inferInstanceAs (DecidableEq Configuration)
  | .approved _ =>
      inferInstanceAs (DecidableEq (Option Configuration))
  | .isAdministrator => inferInstanceAs (DecidableEq Bool)
  | .fullName _ => inferInstanceAs (DecidableEq String)
  | .views _ => inferInstanceAs (DecidableEq LoadedViews)
  | .deletedViews _ =>
      inferInstanceAs (DecidableEq LoadedViews)
  | .users _ => inferInstanceAs (DecidableEq LoadedUsers)
  | .freshView => inferInstanceAs (DecidableEq ViewFragment)
  | .freshBuilder => inferInstanceAs (DecidableEq Fragment)
  | .freshUser => inferInstanceAs (DecidableEq Fragment)
  | .isNameFree _ => inferInstanceAs (DecidableEq Bool)
  | .help _ => inferInstanceAs (DecidableEq String)
  | .judgeTrigger _ => inferInstanceAs (DecidableEq String)
  | .submit _ => inferInstanceAs (DecidableEq Unit)

deriving instance DecidableEq for Call

namespace Call

variable {ι : Type}
variable [DecidableEq ι]

/- The calls of one client among those of several. -/
def ofClient
    (client : ι)
    (trace : List (ι × Call)) : List Call :=
  trace.filterMap fun entry =>
    if entry.1 = client then some entry.2 else none

theorem ofClient_append
    (client : ι)
    (later earlier : List (ι × Call)) :
    ofClient client (later ++ earlier) =
      ofClient client later ++ ofClient client earlier :=
  List.filterMap_append

theorem ofClient_cons_self
    (client : ι)
    (call : Call)
    (trace : List (ι × Call)) :
    ofClient client ((client, call) :: trace) =
      call :: ofClient client trace := by
  simp [ofClient]

theorem ofClient_cons_other
    {client other : ι}
    (hOther : other ≠ client)
    (call : Call)
    (trace : List (ι × Call)) :
    ofClient client ((other, call) :: trace) =
      ofClient client trace := by
  simp [ofClient, hOther]

theorem mem_ofClient
    {client : ι}
    {call : Call}
    {trace : List (ι × Call)}
    (hEntry : (client, call) ∈ trace) :
    call ∈ ofClient client trace :=
  List.mem_filterMap.mpr ⟨(client, call), hEntry, if_pos rfl⟩

end Call

namespace Directory

variable {ι : Type}

/-
  The store answers some calls, the latest one first, and goes
  from a first tree to another. Each client is a user of it.
-/
inductive Served
    (directory : Directory)
    (users : ι → String)
    (first : Tree) : List (ι × Call) → Tree → Prop where
  | start : Served directory users first [] first
  | call
      {trace : List (ι × Call)}
      {tree after : Tree}
      (client : ι)
      (request : Request)
      (outcome : Except ServiceError request.Answer) :
      Served directory users first trace tree →
      service { directory with user := users client } request
          tree =
        (outcome, after) →
      Served directory users first
        ((client, ⟨request, outcome⟩) :: trace) after

variable {directory : Directory}
variable {users : ι → String}
variable {first tree after : Tree}
variable {trace later : List (ι × Call)}
variable {client : ι}
variable {call : Call}

/- The last call was answered in the tree that was there. -/
theorem Served.exists_before
    (hServed :
      directory.Served users first ((client, call) :: trace)
        after) :
    ∃ tree,
      directory.Served users first trace tree ∧
        service { directory with user := users client }
            call.request tree =
          (call.outcome, after) := by
  cases hServed with
  | call _ request outcome hBefore hCall =>
      exact ⟨_, hBefore, hCall⟩

/- A submission is answered in the tree that is there. -/
theorem Served.submitted
    (hServed : directory.Served users first trace tree)
    (client : ι)
    {submission : Submission}
    {outcome : Except ServiceError Unit}
    (hSubmit :
      submit { directory with user := users client } tree
          submission =
        (outcome, after)) :
    directory.Served users first
      ((client, ⟨.submit submission, outcome⟩) :: trace)
      after := by
  apply hServed.call client (.submit submission) outcome
  rw [← hSubmit]
  rfl

/- What a client is told that asks for something in a tree. -/
def asked
    (directory : Directory)
    (users : ι → String)
    (tree : Tree)
    (client : ι)
    (request : Request) : ι × Call :=
  (client,
    ⟨request,
      answer { directory with user := users client } tree
        request⟩)

/- Queries may be made at any time, the last one listed first. -/
theorem Served.queries
    (hServed : directory.Served users first trace tree)
    (client : ι)
    (requests : List Request)
    (hQueries : ∀ request ∈ requests, request.IsQuery) :
    directory.Served users first
      (requests.map (directory.asked users tree client) ++
        trace)
      tree := by
  induction requests with
  | nil => exact hServed
  | cons request requests ih =>
      have hBefore :=
        ih fun other hOther =>
          hQueries other (List.mem_cons_of_mem _ hOther)
      have hQuery := hQueries request List.mem_cons_self
      apply hBefore.call client request
      cases request with
      | submit submission => exact absurd rfl (hQuery submission)
      | _ => rfl

/- A call that is no accepted submission changes nothing. -/
theorem service_of_unaccepted
    (hUnaccepted : call.isAccepted = false)
    (hCall :
      directory.service call.request tree =
        (call.outcome, after)) :
    after = tree := by
  rcases call with ⟨request, outcome⟩
  cases request with
  | submit submission =>
      have hSubmit :
          directory.submit tree submission =
            (outcome, after) := hCall
      have hEffect := directory.submit_effect tree submission
      rw [hSubmit] at hEffect
      cases hEffect with
      | failed error => rfl
      | stored => cases hUnaccepted
      | approved => cases hUnaccepted
  | _ =>
      cases hCall
      rfl

theorem Served.of_unaccepted
    (hServed :
      directory.Served users first (later ++ trace) tree)
    (hUnaccepted :
      ∀ entry ∈ later, entry.2.isAccepted = false) :
    directory.Served users first trace tree := by
  induction later generalizing tree with
  | nil => exact hServed
  | cons entry later ih =>
      rcases hServed.exists_before with
        ⟨before, hBefore, hCall⟩
      have hSame : tree = before :=
        service_of_unaccepted
          (hUnaccepted entry List.mem_cons_self) hCall
      rw [hSame]
      apply ih hBefore
      exact fun other hOther =>
        hUnaccepted other (List.mem_cons_of_mem _ hOther)

end Directory

end BuildForm

------------------------------------------------------------
-- Live Records
------------------------------------------------------------

namespace BuildForm

namespace Directory

variable {directory : Directory}
variable {tree changed : Tree}
variable {record : Configuration}

/-
  The live document of the name of a record is its text, in
  whatever format that document is.
-/
def IsLive
    (tree : Tree)
    (record : Configuration) : Prop :=
  ∃ location text,
    find? tree [record.projectName] configStem =
        some location ∧
      Document.renderRecord location.format true
          record.toValue = .ok text ∧
      tree.read? location.path = some (.text text)

/- A record that was stored is live. -/
theorem isLive_of_store
    (hStore :
      directory.store tree [record.projectName] record =
        .ok changed) :
    IsLive changed record := by
  rcases read?_store_target hStore with ⟨text, hText, hRead⟩
  exact ⟨_, text, find?_store hStore, hText, hRead⟩

/- A live record is what is read if its document is in JSON. -/
theorem IsLive.live?
    (hLive : IsLive tree record)
    (hName : Rule.isProjectName record.projectName)
    (hFind :
      find? tree [record.projectName] configStem =
        some ⟨[record.projectName], configStem, .json⟩)
    (directory : Directory) :
    directory.live? tree record.projectName =
      .ok (some record) := by
  rcases hLive with ⟨location, text, hFound, hText, hRead⟩
  rw [hFind] at hFound
  cases hFound
  have hBack := Document.readAs_render_configuration record
  rw [hText] at hBack
  have hRecord :
      Document.readAs Configuration.ofValue? .json text =
        .ok record := hBack
  have hDocument :
      directory.read Configuration.ofValue? tree
          ⟨[record.projectName], configStem, .json⟩ =
        .ok record := by
    unfold Directory.read
    simp only [hRead, hRecord]
    rfl
  have hFolder := folderOf_eq_ok_iff.mpr ⟨hName, rfl⟩
  unfold Directory.live? readOptional
  rw [hFolder]
  change Except.bind (.ok [record.projectName]) _ = _
  simp only [Except.bind, hFind, hDocument]
  rfl

/- A document that is found stays where it is. -/
theorem find?_store_of_find?
    {folder otherFolder : List String}
    (hStore :
      directory.store tree folder record = .ok changed)
    {location : Location}
    (hFind :
      find? tree otherFolder configStem = some location) :
    find? changed otherFolder configStem = some location := by
  by_cases hFolder : otherFolder = folder
  · subst hFolder
    rw [find?_store hStore]
    unfold Directory.target
    rw [hFind]
    rfl
  · rw [find?_store_other hStore hFolder]
    exact hFind

theorem find?_submit_of_find?
    {submission : Submission}
    {outcome : Except ServiceError Unit}
    (hSubmit :
      directory.submit tree submission = (outcome, changed))
    {folder : List String}
    {location : Location}
    (hFind : find? tree folder configStem = some location) :
    find? changed folder configStem = some location := by
  have hEffect := directory.submit_effect tree submission
  rw [hSubmit] at hEffect
  cases hEffect with
  | failed error => exact hFind
  | stored record _ _ hStore =>
      exact find?_store_of_find? hStore hFind
  | approved record copied _ _ hCopy hStore =>
      exact
        find?_store_of_find? hStore
          (find?_store_of_find? hCopy hFind)

end Directory

end BuildForm
