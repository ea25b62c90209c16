import BuildForm.Service.Directory

/-
  A plain map from names to records, and what submissions
  make of it.

  A *ledger* maps a name to its live record and its approved
  one. It changes by one rule for each form type, and a slot
  that is blocked takes no record.

  Main declarations:
    * `Posting`
    * `Directory.Slot`
    * `Ledger`
    * `Ledger.rule`
    * `Ledger.post`
-/

------------------------------------------------------------
-- Postings
------------------------------------------------------------

namespace BuildForm

/- A submission and the user who makes it. -/
structure Posting where
  user : String
  submission : Submission

namespace Posting

/- The name that the submission is for. -/
def name (posting : Posting) : String :=
  posting.submission.configuration.projectName

/- A posting of a configuration with nothing but a name. -/
def plain
    (formType : FormType)
    (user name : String) : Posting where
  user := user
  submission :=
    { formType := formType
      rejectionReason := ""
      formResult := none
      configuration := { projectName := name }
      hiddenFields := Table.empty }

/- The state after postings, whatever their outcomes are. -/
def run
    {σ : Type}
    (post : σ → Posting → Except ServiceError Unit × σ)
    (state : σ)
    (postings : List Posting) : σ :=
  postings.foldl (fun state posting => (post state posting).2)
    state

end Posting

namespace Directory

/- The outcome of a posting and the tree after it. -/
def post
    (directory : Directory)
    (tree : Tree)
    (posting : Posting) : Except ServiceError Unit × Tree :=
  { directory with user := posting.user }.service
    (.submit posting.submission) tree

/- The places of the two documents of a configuration. -/
inductive Slot where
  | live (name : String)
  | copy (name : String)

namespace Slot

def name : Slot → String
  | .live name => name
  | .copy name => name

def folder : Slot → List String
  | .live name => [name]
  | .copy name => [name, approvedFolder]

end Slot

end Directory

end BuildForm

------------------------------------------------------------
-- Ledgers
------------------------------------------------------------

namespace BuildForm

/- The live record of a name and the last approved one. -/
structure Entry where
  live : Configuration
  approved : Option Configuration := none

/- A map from names to what is stored under them. -/
def Ledger : Type := String → Option Entry

namespace Ledger

open Directory (Slot)

def empty : Ledger :=
  fun _ => none

def put
    (ledger : Ledger)
    (name : String)
    (entry : Entry) : Ledger :=
  fun other => if other = name then some entry else ledger other

/- The record that belongs to a slot. -/
def record? (ledger : Ledger) : Slot → Option Configuration
  | .live name => (ledger name).map Entry.live
  | .copy name => (ledger name).bind Entry.approved

/-
  The entry that a posting leaves under its name. A slot that
  is blocked takes no record, and the posting fails with the
  error of the slot.
-/
def rule
    (blocked : Slot → Option ServiceError)
    (posting : Posting) :
    Option Entry → Except ServiceError Entry :=
  let name := posting.name
  let record := posting.submission.configuration
  match posting.submission.formType with
  | .create => fun
    | some _ => .error (.refused (.nameTaken name))
    | none =>
        match blocked (.live name) with
        | some error => .error error
        | none =>
            .ok
              { live :=
                  { record with
                    standing := .new
                    creator := some posting.user
                    rejectionReason := "" } }
  | .edit => fun
    | none => .error (.notFound name)
    | some entry =>
        .ok
          { entry with
            live :=
              { record with
                standing := .updated
                creator := entry.live.creator
                rejectionReason := "" } }
  | .approved => fun
    | none => .error (.notFound name)
    | some _ =>
        match blocked (.copy name) with
        | some error => .error error
        | none =>
            let accepted :=
              { record with
                standing := .approved
                rejectionReason := "" }
            .ok
              { live := accepted
                approved := some accepted }
  | .reject => fun
    | none => .error (.notFound name)
    | some entry =>
        .ok
          { entry with
            live :=
              { entry.live with
                standing := .rejected
                rejectionReason :=
                  posting.submission.rejectionReason } }
  | .view | .approveReject => fun _ =>
      .error (.refused
        (.unsubmittable posting.submission.formType))

/- An approval takes the place of a whole entry. -/
theorem rule_of_approved
    (blocked : Slot → Option ServiceError)
    {posting : Posting}
    (hType : posting.submission.formType = .approved)
    (entry : Entry) :
    rule blocked posting (some entry) =
      match blocked (.copy posting.name) with
      | some error => .error error
      | none =>
          let accepted :=
            { posting.submission.configuration with
              standing := .approved
              rejectionReason := "" }
          .ok
            { live := accepted
              approved := some accepted } := by
  unfold rule
  rw [hType]

/- The ledger after a posting under a name that is one. -/
def submit
    (blocked : Slot → Option ServiceError)
    (ledger : Ledger)
    (posting : Posting) : Except ServiceError Ledger :=
  let name := posting.name
  if name = "" then
    .error (.refused .namelessRecord)
  else
    match FieldKind.projectName.fault? name with
    | some fault => .error (.refused (.badName name fault))
    | none =>
        (rule blocked posting (ledger name)).map
          (ledger.put name)

/- The outcome of a posting and the ledger after it. -/
def post
    (blocked : Slot → Option ServiceError)
    (ledger : Ledger)
    (posting : Posting) : Except ServiceError Unit × Ledger :=
  match ledger.submit blocked posting with
  | .error error => (.error error, ledger)
  | .ok changed => (.ok (), changed)

/- A ledger only changes by the rule of a project name. -/
theorem submit_ok
    {blocked : Slot → Option ServiceError}
    {ledger changed : Ledger}
    {posting : Posting}
    (hSubmit : ledger.submit blocked posting = .ok changed) :
    Rule.isProjectName posting.name ∧
      ∃ entry,
        rule blocked posting (ledger posting.name) =
            .ok entry ∧
          changed = ledger.put posting.name entry := by
  unfold submit at hSubmit
  dsimp only at hSubmit
  split at hSubmit
  · simp at hSubmit
  · split at hSubmit
    · simp at hSubmit
    · rename_i hFault
      have hName : Rule.isProjectName posting.name :=
        (FieldKind.fault?_eq_none_iff .projectName
          posting.name).mp hFault
      cases hRule :
          rule blocked posting (ledger posting.name) with
      | error error => simp [hRule, Except.map] at hSubmit
      | ok entry =>
          simp only [hRule, Except.map,
            Except.ok.injEq] at hSubmit
          exact ⟨hName, entry, rfl, hSubmit.symm⟩

/- Under a name that is one, the rule of its entry decides. -/
theorem post_of_name
    (blocked : Slot → Option ServiceError)
    (ledger : Ledger)
    {posting : Posting}
    (hName : Rule.isProjectName posting.name) :
    ledger.post blocked posting =
      match rule blocked posting (ledger posting.name) with
      | .error error => (.error error, ledger)
      | .ok entry => (.ok (), ledger.put posting.name entry) := by
  have hFull : posting.name ≠ "" := by
    intro hEmpty
    rw [hEmpty] at hName
    simp [Rule.isProjectName] at hName
  have hFault :=
    (FieldKind.fault?_eq_none_iff .projectName
      posting.name).mpr hName
  unfold post submit
  simp only [hFull, if_false, hFault]
  cases rule blocked posting (ledger posting.name) <;> rfl

@[simp] theorem put_self
    (ledger : Ledger)
    (name : String)
    (entry : Entry) :
    ledger.put name entry name = some entry := by
  simp [put]

theorem put_put
    (ledger : Ledger)
    (name : String)
    (before after : Entry) :
    (ledger.put name before).put name after =
      ledger.put name after := by
  funext other
  by_cases hOther : other = name
  · simp [put, hOther]
  · simp [put, hOther]

theorem put_of_ne
    (ledger : Ledger)
    (entry : Entry)
    {name other : String}
    (hOther : other ≠ name) :
    ledger.put name entry other = ledger other := by
  simp [put, hOther]

theorem record?_put_of_ne
    (ledger : Ledger)
    (entry : Entry)
    {name : String}
    {slot : Slot}
    (hOther : slot.name ≠ name) :
    (ledger.put name entry).record? slot =
      ledger.record? slot := by
  cases slot with
  | live other =>
      have hLedger := put_of_ne ledger entry hOther
      exact congrArg (Option.map Entry.live) hLedger
  | copy other =>
      have hLedger := put_of_ne ledger entry hOther
      exact congrArg (Option.bind · Entry.approved) hLedger

end Ledger

end BuildForm
