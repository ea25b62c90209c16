import BuildForm.Page.Action
import BuildForm.Proofs.Form.Reopen
import BuildForm.Proofs.Form.Filling
import BuildForm.Proofs.Page.Moves
import BuildForm.Proofs.Screen.Reading
import BuildForm.Service.Directory

/-
  Which of the machines that changed are on the screen.

  The machines on the screen are those of the draft that was
  loaded, the ones that changed are some of the approved
  record. A machine that changed is there in the color of
  changes, once, if the draft has it, and not at all if only
  the approved record has it.

  Main declarations:
    * `Service.Compares`
    * `Page.opened_init`
    * `Screen.found_isBrown_formLines`
    * `Session.init_shows_machines`
    * `Session.not_init_shows_every_machine`
-/

------------------------------------------------------------
-- A Draft and an Approved Record
------------------------------------------------------------

namespace BuildForm

/-
  A service that tells of a draft and an approved record under
  a name, if it tells of anything, in some of its states. No
  request that opens the page of the name leaves these states.
-/
structure Service.Compares
    {σ : Type}
    (service : Service σ)
    (name : String)
    (draft approved : Configuration)
    (holds : σ → Prop) : Prop where
  stays :
    ∀ request state, Request.Opens name request →
      holds state → holds (service request state).2
  draft :
    ∀ state answer, holds state →
      (service (.configuration name) state).1 = .ok answer →
      answer = draft
  approved :
    ∀ state answer, holds state →
      (service (.approved name) state).1 = .ok answer →
      answer = some approved

end BuildForm

------------------------------------------------------------
-- Opening a Page on Them
------------------------------------------------------------

namespace BuildForm

namespace Page

open PageM

variable {σ : Type}
variable {service : Service σ}
variable {name : String}
variable {draft approved : Configuration}
variable {holds : σ → Prop}
variable {fact : Form → Prop}

/- A session with such a state and such a form. -/
def Has
    (holds : σ → Prop)
    (fact : Form → Prop)
    (session : Session σ) : Prop :=
  holds session.state ∧ fact session.page.form

/- Whether it opens is not asked here. -/
abbrev Opened
    (before : Session σ → Prop)
    {α : Type}
    (action : PageM σ α)
    (after : α → Session σ → Prop) : Prop :=
  Triple before action after fun _ _ => True

/- A form without machines. -/
def IsBare (form : Form) : Prop :=
  form.machines.nodes = Table.empty

/- The form with the machines of the draft. -/
def HasMachines (draft : Configuration) (form : Form) : Prop :=
  form.machines.nodes = draft.buildMachines

/- The form with the comparison as well. -/
def IsCompared
    (draft approved : Configuration)
    (form : Form) : Prop :=
  HasMachines draft form ∧
    form.difference = .between draft (some approved)

theorem opened_modifyForm
    {result : Form → Prop}
    {change : Form → Form}
    (hChange : ∀ form, fact form → result (change form)) :
    Opened (Has holds fact) (modifyForm change)
      (fun _ => Has holds result) :=
  Triple.modifyPage fun session hSession =>
    ⟨hSession.1, hChange session.page.form hSession.2⟩

/- What comes next starts from the form as it was changed. -/
theorem opened_bind_modifyForm
    {α : Type}
    {result : Form → Prop}
    {change : Form → Form}
    {next : Unit → PageM σ α}
    {after : α → Session σ → Prop}
    (hChange : ∀ form, fact form → result (change form))
    (hNext : Opened (Has holds result) (next ()) after) :
    Opened (Has holds fact) (modifyForm change >>= next) after :=
  Triple.bind (opened_modifyForm hChange) fun _ => hNext

/- What is answered may be relied on, and the form stays. -/
theorem opened_ask
    (hCompares : service.Compares name draft approved holds)
    {request : Request}
    (hOpens : Request.Opens name request)
    {told : request.Answer → Prop}
    (hTold :
      ∀ state answer, holds state →
        (service request state).1 = .ok answer → told answer) :
    Opened (Has holds fact) (ask service request)
      (fun answer session =>
        told answer ∧ Has holds fact session) := by
  apply Triple.ask
  · rintro session answer state ⟨hState, hForm⟩ hCall
    have hAfter := hCompares.stays request _ hOpens hState
    have hAnswer := hTold session.state answer hState
    rw [hCall] at hAfter hAnswer
    exact ⟨hAnswer rfl, hAfter, hForm⟩
  · intro _ _ _ _ _
    exact trivial

/- An answer that nothing is known about. -/
theorem opened_bind_ask
    (hCompares : service.Compares name draft approved holds)
    {α : Type}
    {request : Request}
    (hOpens : Request.Opens name request)
    {next : request.Answer → PageM σ α}
    {after : α → Session σ → Prop}
    (hNext :
      ∀ answer, Opened (Has holds fact) (next answer) after) :
    Opened (Has holds fact) (ask service request >>= next)
      after := by
  apply Triple.bind
    (opened_ask hCompares hOpens fun _ _ _ _ => trivial)
  intro answer
  apply Triple.given
  intro _
  exact hNext answer

theorem opened_loadDifference
    (hCompares : service.Compares name draft approved holds) :
    Opened (Has holds (HasMachines draft))
      (loadDifference service name draft)
      (fun _ => Has holds (IsCompared draft approved)) := by
  have hLast :
      Opened (Has holds (HasMachines draft))
        (modifyForm fun form =>
          { form with
            difference := .between draft (some approved) })
        (fun _ => Has holds (IsCompared draft approved)) :=
    opened_modifyForm fun _ hMachines => ⟨hMachines, rfl⟩
  unfold loadDifference
  apply Triple.bind
    (opened_ask hCompares .approved hCompares.approved)
  intro copy
  apply Triple.given
  rintro rfl
  dsimp only
  apply Triple.ite
  · intro _
    apply opened_bind_ask hCompares .deletedViews
    intro deleted
    exact opened_bind_modifyForm (fun _ hForm => hForm) hLast
  · intro _
    exact hLast

/- The draft is compared because it waits for approval. -/
theorem opened_loadContent
    (hCompares : service.Compares name draft approved holds)
    (hDraft : ¬draft.isApproved) :
    Opened (Has holds IsBare) (loadContent service name)
      (fun _ => Has holds (IsCompared draft approved)) := by
  have hRecord :
      ∀ form, IsBare form →
        HasMachines draft (form.applyConfiguration draft) := by
    intro form hBare
    unfold HasMachines
    rw [(form.leaves_applyConfiguration draft).machines]
    exact Machines.nodes_load hBare draft.buildMachines
  have hRest :
      Opened (Has holds (HasMachines draft))
        (if !draft.isApproved then
          loadDifference service name draft
        else
          pure ())
        (fun _ => Has holds (IsCompared draft approved)) := by
    apply Triple.ite
    · intro _
      exact opened_loadDifference hCompares
    · intro hApproved
      exact absurd (by simpa using hApproved) hDraft
  unfold loadContent
  apply Triple.bind
    (opened_ask hCompares .configuration hCompares.draft)
  intro config
  apply Triple.given
  rintro rfl
  apply opened_bind_modifyForm hRecord
  dsimp only
  split
  · apply opened_bind_ask hCompares (.fullName _)
    intro fullName
    exact opened_bind_modifyForm (fun _ hForm => hForm) hRest
  · exact hRest

theorem opened_loadViews
    (hCompares : service.Compares name draft approved holds) :
    Opened (Has holds IsBare) (loadViews service name)
      (fun _ => Has holds IsBare) := by
  unfold loadViews
  apply opened_bind_ask hCompares .views
  intro loaded
  exact opened_modifyForm fun _ hBare => hBare

theorem opened_loadUsers
    (hCompares : service.Compares name draft approved holds) :
    Opened (Has holds IsBare) (loadUsers service name)
      (fun _ => Has holds IsBare) := by
  unfold loadUsers
  apply opened_bind_ask hCompares .users
  intro loaded
  exact opened_modifyForm fun _ hBare => hBare

/- What is loaded before and set afterwards leaves both alone. -/
theorem opened_openStored
    (hCompares : service.Compares name draft approved holds)
    (hDraft : ¬draft.isApproved) :
    Opened (Has holds IsBare) (openStored service name)
      (fun _ => Has holds (IsCompared draft approved)) := by
  have hStatus :
      Opened (Has holds (IsCompared draft approved))
        (setStatus (.loaded name))
        (fun _ => Has holds (IsCompared draft approved)) :=
    Triple.modifyPage fun _ hSession => hSession
  unfold openStored
  apply Triple.bind (opened_loadViews hCompares)
  intro _
  apply Triple.bind (opened_loadUsers hCompares)
  intro _
  apply Triple.bind (opened_loadContent hCompares hDraft)
  intro _
  exact opened_bind_modifyForm (fun _ hForm => hForm) hStatus

/- A session of a page for a name whose form has no machines. -/
def IsNew
    (holds : σ → Prop)
    (name : String)
    (session : Session σ) : Prop :=
  session.page.request.name = some name ∧
    Has holds IsBare session

theorem opened_init
    (hCompares : service.Compares name draft approved holds)
    (hDraft : ¬draft.isApproved) :
    Opened (IsNew holds name) (init service)
      (fun _ => Has holds (IsCompared draft approved)) := by
  have hPage :
      Opened (IsNew holds name) getPage
        (fun page session =>
          page.request.name = some name ∧
            Has holds IsBare session) :=
    Triple.getPage fun _ hSession => hSession
  unfold init
  apply Triple.bind hPage
  intro page
  apply Triple.given
  intro hName
  dsimp only
  rw [hName]
  apply Triple.bind (opened_openStored hCompares hDraft)
  intro _
  apply opened_bind_ask hCompares .isAdministrator
  intro isAdmin
  exact opened_modifyForm fun _ hCompared => hCompared

theorem opened_act_init
    (hCompares : service.Compares name draft approved holds)
    (hDraft : ¬draft.isApproved) :
    Opened (IsNew holds name) (act service .init)
      (fun _ => Has holds (IsCompared draft approved)) := by
  have hInit := (opened_init hCompares hDraft).reported
  exact
    Triple.bind hInit fun _ =>
      Triple.pure fun _ hSession => hSession

end Page

end BuildForm

------------------------------------------------------------
-- Machines on the Screen
------------------------------------------------------------

namespace BuildForm

open Screen

/- Whether a text has the color of machines that changed. -/
def Span.isBrown (span : Span) : Bool :=
  span.style = colored brown

/- The line of a machine in the color of changes. -/
def Screen.changedLine (node : String) (checked : Bool) : Line :=
  Line.styled ("  " ++ checkbox checked ++ " " ++ node)
    (colored brown)

/- Whether a line shows a machine as one that changed. -/
def Line.isChanged (line : Line) (node : String) : Bool :=
  line = changedLine node true || line = changedLine node false

namespace Screen

theorem overlooks_isBrown : Overlooks Span.isBrown where
  plain := fun _ => rfl
  error := fun _ => rfl
  gray := fun _ => rfl
  darkGray := fun _ => rfl
  title := fun _ => rfl
  project := fun _ => rfl
  banner := rfl
  label := fun _ _ => rfl

variable {form : Form}

theorem shows_isBrown_fieldLine
    (form : Form)
    (field : DiffField) :
    (fieldLine form field).shows Span.isBrown = false := by
  rw [shows_fieldLine overlooks_isBrown]
  cases form.difference.oldText? field <;> rfl

theorem shows_isBrown_machineLine
    (form : Form)
    (entry : String × Bool) :
    (machineLine form entry).shows Span.isBrown =
      form.difference.machineChanged entry.1 := by
  unfold machineLine
  cases form.difference.machineChanged entry.1 <;> rfl

/- The machines that changed are all that is brown. -/
theorem found_isBrown_formLines
    (hShows : form.ShowsMail)
    (width : Nat) :
    found Span.isBrown (formLines form width) =
      (form.machines.nodes.entries.filter fun entry =>
        form.difference.machineChanged entry.1).map
          fun entry => changedLine entry.1 entry.2 := by
  have hFields :
      found Span.isBrown
        (DiffField.onScreen.map (fieldLine form)) = [] :=
    found_map (shows_isBrown_fieldLine form) _
  have hDeleted :
      found Span.isBrown (form.views.deleted.map deletedLine) =
        [] :=
    found_map (fun _ => rfl) _
  have hBrown :
      (Line.shows · Span.isBrown) ∘ machineLine form =
        fun entry => form.difference.machineChanged entry.1 := by
    funext entry
    exact shows_isBrown_machineLine form entry
  rw [found_formLines overlooks_isBrown hShows, hFields,
    hDeleted, List.append_nil, List.nil_append]
  unfold found
  rw [List.filter_map, hBrown]
  apply List.map_congr_left
  intro entry hEntry
  have hChanged := (List.mem_filter.mp hEntry).2
  unfold machineLine changedLine
  rw [if_pos hChanged]

theorem checkbox_inj
    {checked other : Bool}
    {node machine : String}
    (hText :
      "  " ++ checkbox checked ++ " " ++ node =
        "  " ++ checkbox other ++ " " ++ machine) :
    node = machine ∧ checked = other := by
  have hChars := congrArg String.toList hText
  cases checked <;> cases other <;> simp [checkbox] at hChars ⊢
  · exact String.toList_inj.mp hChars
  · exact String.toList_inj.mp hChars

theorem isChanged_changedLine
    (node machine : String)
    (checked : Bool) :
    (changedLine machine checked).isChanged node =
      decide (machine = node) := by
  have hSame :
      ∀ other,
        changedLine machine checked = changedLine node other ↔
          machine = node ∧ checked = other := by
    intro other
    constructor
    · intro hLine
      unfold changedLine Line.styled at hLine
      simp only [List.cons.injEq, Span.mk.injEq, and_true]
        at hLine
      exact checkbox_inj hLine
    · rintro ⟨rfl, rfl⟩
      rfl
  unfold Line.isChanged
  cases checked <;> simp [hSame]

/- What shows a machine as one that changed is brown. -/
theorem shows_of_isChanged
    {line : Line}
    {node : String}
    (hLine : line.isChanged node) :
    line.shows Span.isBrown := by
  unfold Line.isChanged at hLine
  rw [Bool.or_eq_true, decide_eq_true_eq, decide_eq_true_eq]
    at hLine
  rcases hLine with rfl | rfl <;> rfl

/- A machine that changed is there if it is on the form. -/
theorem filter_isChanged_formLines
    (hShows : form.ShowsMail)
    (width : Nat)
    {node : String}
    (hChanged : form.difference.machineChanged node) :
    (formLines form width).filter (Line.isChanged · node) =
      ((form.machines.nodes.find? node).map
        (changedLine node)).toList := by
  have hBrown :
      (formLines form width).filter (Line.isChanged · node) =
        (found Span.isBrown (formLines form width)).filter
          (Line.isChanged · node) := by
    unfold found
    rw [List.filter_filter]
    apply List.filter_congr
    intro line _
    cases hLine : line.isChanged node with
    | false => rfl
    | true =>
        rw [shows_of_isChanged hLine]
        rfl
  have hEntries :
      ((Line.isChanged · node) ∘ fun entry : String × Bool =>
        changedLine entry.1 entry.2) =
          fun entry => decide (entry.1 = node) := by
    funext entry
    exact isChanged_changedLine node entry.1 entry.2
  have hNode :
      (form.machines.nodes.entries.filter fun entry =>
          decide (entry.1 = node) &&
            form.difference.machineChanged entry.1) =
        form.machines.nodes.entries.filter fun entry =>
          entry.1 = node := by
    apply List.filter_congr
    intro entry _
    by_cases hSame : entry.1 = node
    · simp [hSame, hChanged]
    · simp [hSame]
  rw [hBrown, found_isBrown_formLines hShows, List.filter_map,
    hEntries, List.filter_filter, hNode, Table.filter_key]
  cases form.machines.nodes.find? node <;> rfl

end Screen

end BuildForm

------------------------------------------------------------
-- Machines that Changed
------------------------------------------------------------

namespace BuildForm

open Screen (changedLine formLines)

namespace Session

variable {σ : Type}

theorem isCompared_of_step
    {service : Service σ}
    {name : String}
    {draft approved : Configuration}
    {holds : σ → Prop}
    (hCompares : service.Compares name draft approved holds)
    (hDraft : ¬draft.isApproved)
    {session opened : Session σ}
    (hNew : Page.IsNew holds name session)
    {reply : Reply}
    (hOpened : step service session .init = (.ok reply, opened)) :
    Page.IsCompared draft approved opened.page.form := by
  have hInit := Page.opened_act_init hCompares hDraft session hNew
  unfold step at hOpened
  rw [hOpened] at hInit
  exact hInit.2

/-
  For every service, draft that waits for approval and copy of
  the approved record with a name: a page opened on them knows
  the machines that changed. Each of these that the draft has
  is on the screen in the color of changes once, as the draft
  has it, and one that the draft does not have is not. There
  is nothing else in that color.
-/
theorem init_shows_machines
    (service : Service σ)
    (name : String)
    (draft approved : Configuration)
    (holds : σ → Prop)
    (hCompares : service.Compares name draft approved holds)
    (hDraft : ¬draft.isApproved)
    (hNamed : approved.projectName ≠ "")
    (request : PageRequest)
    (hName : request.name = some name)
    (options : PageOptions)
    (state : σ)
    (hState : holds state)
    (reply : Reply)
    (opened : Session σ)
    (hOpened :
      step service (start request options state) .init =
        (.ok reply, opened))
    (width : Nat) :
    let form := opened.page.form
    let lines := formLines form width
    let flagged := Difference.machineChanges draft approved
    form.difference.machines = flagged ∧
      (∀ node ∈ flagged,
        lines.filter (Line.isChanged · node) =
          ((draft.buildMachines.find? node).map
            (changedLine node)).toList) ∧
      lines.filter (Line.shows · Span.isBrown) =
        (draft.buildMachines.entries.filter fun entry =>
          flagged.contains entry.1).map
            fun entry => changedLine entry.1 entry.2 := by
  intro form lines flagged
  have hShows : form.ShowsMail := by
    have hStart :
        (start request options state).HasArisen request.mode :=
      ⟨rfl, .blank request.mode⟩
    have hArisen := hStart.step service .init
    rw [hOpened] at hArisen
    exact hArisen.form.showsMail
  have hCompared : Page.IsCompared draft approved form := by
    have hNew :
        Page.IsNew holds name (start request options state) :=
      ⟨hName, hState, rfl⟩
    exact isCompared_of_step hCompares hDraft hNew hOpened
  have hFlagged : form.difference.machines = flagged := by
    rw [hCompared.2]
    unfold Difference.between
    dsimp only
    rw [if_neg hNamed]
  refine ⟨hFlagged, ?_, ?_⟩
  · intro node hNode
    have hChanged : form.difference.machineChanged node := by
      unfold Difference.machineChanged
      rw [hFlagged]
      exact List.contains_iff_mem.mpr hNode
    rw [← hCompared.1]
    exact Screen.filter_isChanged_formLines hShows width hChanged
  · rw [← hCompared.1, ← hFlagged]
    exact Screen.found_isBrown_formLines hShows width

end Session

/- A store tells of what is stored while it stays as it is. -/
theorem Directory.service_compares
    {directory : Directory}
    {tree : Tree}
    {name : String}
    {draft approved : Configuration}
    (hLive :
      directory.answer tree (.configuration name) = .ok draft)
    (hCopy :
      directory.answer tree (.approved name) =
        .ok (some approved)) :
    directory.service.Compares name draft approved
      (· = tree) where
  stays := by
    rintro request state hOpens rfl
    cases hOpens <;> rfl
  draft := by
    rintro state answer rfl hAnswer
    exact Except.ok.inj (hAnswer.symm.trans hLive)
  approved := by
    rintro state answer rfl hAnswer
    exact Except.ok.inj (hAnswer.symm.trans hCopy)

/- A draft without one of the approved machines. -/
namespace Flagged

def store : Directory := { root := "store" }

def document (machines : String) : Tree :=
  .file (.text
    ("\x7b\"projectName\": \"core\"," ++
      "\"buildMachineConfiguration\": \x7b" ++ machines ++
      "\x7d\x7d"))

def tree : Tree :=
  .directory
    [("core", .directory
      [("config.json",
          document "\"linux-01\": true, \"win-02\": true"),
        ("diff", .directory
          [("config.json",
            document
              ("\"linux-01\": true, \"win-02\": false," ++
                "\"mac-03\": false"))])])]

def draft : Configuration :=
  { projectName := "core"
    buildMachines :=
      Table.ofList [("linux-01", true), ("win-02", true)] }

def approved : Configuration :=
  { projectName := "core"
    buildMachines :=
      Table.ofList
        [("linux-01", true), ("win-02", false),
          ("mac-03", false)] }

end Flagged

namespace Session

/- The machine that was selected shows, the missing one not. -/
theorem init_shows_machines_missing :
    let request : PageRequest := .opening .edit "core"
    let session := start request {} Flagged.tree
    Flagged.store.service.Compares "core" Flagged.draft
        Flagged.approved (· = Flagged.tree) ∧
      ¬Flagged.draft.isApproved ∧
      Flagged.approved.projectName ≠ "" ∧
      request.name = some "core" ∧
      ∃ opened,
        step Flagged.store.service session .init =
            (.ok .done, opened) ∧
          let form := opened.page.form
          let lines := formLines form 80
          form.difference.machines = ["win-02", "mac-03"] ∧
            lines.filter (Line.isChanged · "win-02") =
              [changedLine "win-02" true] ∧
            lines.filter (Line.isChanged · "mac-03") = [] := by
  intro request session
  have hLive :
      Flagged.store.answer Flagged.tree (.configuration "core") =
        .ok Flagged.draft := by
    decide +kernel
  have hCopy :
      Flagged.store.answer Flagged.tree (.approved "core") =
        .ok (some Flagged.approved) := by
    decide +kernel
  have hCompares := Directory.service_compares hLive hCopy
  have hDraft : ¬Flagged.draft.isApproved := by decide +kernel
  have hNamed : Flagged.approved.projectName ≠ "" := by
    decide +kernel
  have hReply :
      (step Flagged.store.service session .init).1 =
        .ok .done := by
    decide +kernel
  have hFlagged :
      Difference.machineChanges Flagged.draft Flagged.approved =
        ["win-02", "mac-03"] := by
    decide +kernel
  have hOpens :
      ∃ opened,
        step Flagged.store.service session .init =
          (.ok .done, opened) := by
    -- A variable in its place is not computed again.
    generalize
      step Flagged.store.service session .init = result
      at hReply ⊢
    exact ⟨result.2, Prod.ext hReply rfl⟩
  rcases hOpens with ⟨opened, hOpened⟩
  rcases
      init_shows_machines Flagged.store.service "core"
        Flagged.draft Flagged.approved (· = Flagged.tree)
        hCompares hDraft hNamed request rfl {} Flagged.tree rfl
        .done opened hOpened 80 with
    ⟨hMachines, hLines, _⟩
  rw [hFlagged] at hMachines hLines
  exact
    ⟨hCompares, hDraft, hNamed, rfl, opened, hOpened, hMachines,
      hLines "win-02" (by simp), hLines "mac-03" (by simp)⟩

/- Not every machine that changed has a line. -/
theorem not_init_shows_every_machine :
    let opened :=
      step Flagged.store.service
        (start (.opening .edit "core") {} Flagged.tree) .init
    let form := opened.2.page.form
    opened.1 = .ok .done ∧
      ¬∀ node ∈ form.difference.machines, ∃ line,
        (formLines form 80).filter (Line.isChanged · node) =
          [line] := by
  intro opened form
  have hMissing :
      opened.1 = .ok .done ∧
        "mac-03" ∈ form.difference.machines ∧
        (formLines form 80).filter
          (Line.isChanged · "mac-03") = [] := by
    decide +kernel
  rcases hMissing with ⟨hOpened, hNode, hNone⟩
  refine ⟨hOpened, fun hEvery => ?_⟩
  rcases hEvery "mac-03" hNode with ⟨line, hLine⟩
  rw [hNone] at hLine
  cases hLine

end Session

end BuildForm
