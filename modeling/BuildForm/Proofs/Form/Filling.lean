import BuildForm.Proofs.Form.Content
import BuildForm.Proofs.Form.Reopen

/-
  Filling a form with a stored configuration, and filling one
  again that was filled in part.

  Most parts of a stored configuration take the place of what
  a form had, or leave it where there is nothing to take its
  place. Only users are added to those there are. A form that
  was filled in part is thus filled as a new one, but for its
  users.

  Main declarations:
    * `Stored`
    * `Form.filled`
    * `Form.FilledInPart`
    * `Form.IsPart`
    * `Form.IsPart.of_filledInPart`
    * `Form.IsPart.filled_congr`
-/

------------------------------------------------------------
-- Machines that Are Loaded Again
------------------------------------------------------------

namespace BuildForm

/- A key that is there already keeps its place. -/
theorem Entries.put_of_append
    {α : Type}
    {key : String}
    {before : List (String × α)}
    (hNew : key ∉ keys before)
    (old value : α)
    (after : List (String × α)) :
    put key value (before ++ (key, old) :: after) =
      before ++ (key, value) :: after := by
  induction before with
  | nil => simp [put]
  | cons entry before ih =>
      simp only [keys, List.map_cons, List.mem_cons,
        not_or] at hNew
      have hOther : ¬entry.1 = key := Ne.symm hNew.1
      simp [put, hOther, ih hNew.2]

namespace Machines

/- Unchecked machines are set one after the other. -/
theorem entries_reloadNodes
    (entries before : List (String × Bool))
    (machines : Machines)
    (hNodup : (Entries.keys (before ++ entries)).Nodup)
    (hMachines :
      machines.nodes.entries =
        before ++ entries.map fun entry => (entry.1, false)) :
    (entries.foldl
        (fun machines entry =>
          machines.loadNode entry.1 entry.2)
        machines).nodes.entries =
      before ++ entries := by
  induction entries generalizing machines before with
  | nil => simpa using hMachines
  | cons entry entries ih =>
      rcases entry with ⟨node, selected⟩
      have hNew : node ∉ Entries.keys before := by
        intro hKnown
        simp only [Entries.keys, List.map_append,
          List.map_cons, List.nodup_append] at hNodup
        exact hNodup.2.2 _ hKnown _ (by simp) rfl
      have hKnown : node ∈ machines.nodes.keys := by
        unfold Table.keys Entries.keys
        rw [hMachines]
        simp
      have hFirst :
          (machines.loadNode node selected).nodes.entries =
            (before ++ [(node, selected)]) ++
              entries.map fun entry => (entry.1, false) := by
        rw [List.map_cons] at hMachines
        unfold loadNode
        cases selected with
        | true =>
            change Entries.put node true _ = _
            rw [hMachines, Entries.put_of_append hNew]
            simp
        | false =>
            change (machines.nodes.putNew node false).entries = _
            unfold Table.putNew
            rw [if_pos hKnown, hMachines]
            simp
      have hRest :
          (Entries.keys
            ((before ++ [(node, selected)]) ++ entries)).Nodup := by
        simpa using hNodup
      rw [List.foldl_cons, ih _ _ hRest hFirst]
      simp

/- Loading the machines that are there changes none of them. -/
theorem nodes_reload
    {machines : Machines}
    {stored : Table Bool}
    (hSame : machines.nodes = stored) :
    (machines.load stored).nodes = stored := by
  apply Table.ext
  unfold load
  apply entries_reloadNodes stored.entries [] _ stored.nodup
  rw [hSame]
  rfl

/- What is checked is listed anew, whatever was before. -/
theorem hidden_load
    (machines other : Machines)
    (stored : Table Bool) :
    (machines.load stored).hidden =
      (other.load stored).hidden := by
  have hNode :
      ∀ (first second : Machines) (node : String) selected,
        first.hidden = second.hidden →
        (first.loadNode node selected).hidden =
          (second.loadNode node selected).hidden := by
    intro first second node selected hSame
    cases selected with
    | true =>
        change first.hidden.push node = second.hidden.push node
        rw [hSame]
    | false => exact hSame
  have hNodes :
      ∀ (entries : List (String × Bool))
        (first second : Machines),
        first.hidden = second.hidden →
        (entries.foldl
            (fun machines entry =>
              machines.loadNode entry.1 entry.2)
            first).hidden =
          (entries.foldl
            (fun machines entry =>
              machines.loadNode entry.1 entry.2)
            second).hidden := by
    intro entries
    induction entries with
    | nil => exact fun _ _ hSame => hSame
    | cons entry entries ih =>
        intro first second hSame
        exact ih _ _ (hNode first second _ _ hSame)
  unfold load
  exact hNodes stored.entries _ _ rfl

end Machines

end BuildForm

------------------------------------------------------------
-- Filling a Form
------------------------------------------------------------

namespace BuildForm

/- What there is to load about a stored configuration. -/
structure Stored where
  views : LoadedViews
  users : LoadedUsers
  record : Configuration
  fullName : String → String
  approved : Option Configuration
  deleted : LoadedViews
  isAdmin : Bool

namespace Stored

/- How the record differs from the approved one. -/
def difference (stored : Stored) : Difference :=
  .between stored.record stored.approved

/- Whether views are shown that only the approved one has. -/
def reveals (stored : Stored) : Bool :=
  !stored.record.isApproved && stored.difference.hasApproved

/- The users that are added to those there are. -/
def userNames (stored : Stored) : List String :=
  if stored.users.html = "" then [] else stored.users.users

end Stored

namespace Form

def withViews (stored : Stored) (form : Form) : Form :=
  { form with views := form.views.load stored.views }

def withUsers (stored : Stored) (form : Form) : Form :=
  { form with
    users :=
      form.users.load stored.users.html stored.users.users }

def withRecord (stored : Stored) (form : Form) : Form :=
  form.applyConfiguration stored.record

def withCreator (stored : Stored) (form : Form) : Form :=
  match stored.record.creator with
  | some creator => form.setCreatorName (stored.fullName creator)
  | none => form

def withDeleted (stored : Stored) (form : Form) : Form :=
  if stored.reveals then
    { form with
      views :=
        form.views.loadDeleted stored.deleted.html
          stored.deleted.views }
  else
    form

def withDifference (stored : Stored) (form : Form) : Form :=
  if stored.record.isApproved then
    form
  else
    { form with difference := stored.difference }

/- A form that is filled but for who looks at it. -/
def shown (stored : Stored) (form : Form) : Form :=
  { (form.withViews stored |>.withUsers stored
      |>.withRecord stored |>.withCreator stored
      |>.withDeleted stored |>.withDifference stored) with
    nameLocked := true
    commentsEnabled := true }

def filled (stored : Stored) (form : Form) : Form :=
  { form.shown stored with isAdmin := stored.isAdmin }

/-
  What a form is like that was being filled when something
  could not be loaded.
-/
inductive FilledInPart
    (stored : Stored)
    (form : Form) : Form → Prop where
  | nothing : FilledInPart stored form form
  | views : FilledInPart stored form (form.withViews stored)
  | users :
      FilledInPart stored form
        (form.withViews stored |>.withUsers stored)
  | record :
      FilledInPart stored form
        (form.withViews stored |>.withUsers stored
          |>.withRecord stored)
  | creator :
      FilledInPart stored form
        (form.withViews stored |>.withUsers stored
          |>.withRecord stored |>.withCreator stored)
  | shown : FilledInPart stored form (form.shown stored)

/-
  What a record that is applied to a form leaves as it was,
  because it is no matter of the record or is missing in it.
-/
structure Leaves
    (config : Configuration)
    (form after : Form) : Prop where
  views : after.views = form.views
  users : after.users = form.users
  machines :
    after.machines = form.machines.load config.buildMachines
  email :
    config.email.getD "" = "" →
    after.emailEnabled = form.emailEnabled ∧
      after.email = form.email
  workspace :
    config.cleanWorkspace ≠ some false →
    after.cleanWorkspace = form.cleanWorkspace
  difference : after.difference = form.difference

theorem leaves_applyConfiguration
    (form : Form)
    (config : Configuration) :
    Leaves config form (form.applyConfiguration config) := by
  have hWorkspace :
      config.cleanWorkspace ≠ some false →
      (if config.cleanWorkspace = some false then false
        else form.cleanWorkspace) = form.cleanWorkspace :=
    fun hClean => if_neg hClean
  unfold applyConfiguration
  cases hMail : config.email with
  | none =>
      exact
        ⟨rfl, rfl, rfl, fun _ => ⟨rfl, rfl⟩, hWorkspace, rfl⟩
  | some address =>
      dsimp only
      split
      · exact
          ⟨rfl, rfl, rfl, fun _ => ⟨rfl, rfl⟩, hWorkspace,
            rfl⟩
      · rename_i hGiven
        refine ⟨rfl, rfl, rfl, ?_, hWorkspace, rfl⟩
        intro hNone
        rw [hMail] at hNone
        exact absurd hNone hGiven

/-
  A form that has nothing but parts of a configuration: what
  is not replaced by that is what a new form has.
-/
structure IsPart (stored : Stored) (form : Form) : Prop where
  views :
    stored.views.html = "" ∧ stored.views.views = [] →
    form.views.items = []
  machines :
    form.machines.nodes = Table.empty ∨
      form.machines.nodes = stored.record.buildMachines
  email :
    stored.record.email.getD "" = "" →
    form.emailEnabled = false
  workspace :
    stored.record.cleanWorkspace ≠ some false →
    form.cleanWorkspace = true
  difference :
    stored.record.isApproved → form.difference = {}
  deleted :
    stored.reveals = false → form.views.deleted = []

theorem isPart_blank
    (stored : Stored)
    (mode : PageMode) :
    (blank mode).IsPart stored where
  views := fun _ => rfl
  machines := Or.inl rfl
  email := fun _ => rfl
  workspace := fun _ => rfl
  difference := fun _ => rfl
  deleted := fun _ => rfl

namespace IsPart

variable {stored : Stored}
variable {form : Form}

theorem withViews (hPart : form.IsPart stored) :
    (form.withViews stored).IsPart stored where
  views := by
    intro hNothing
    unfold Form.withViews Views.load
    rw [if_pos hNothing]
    exact hPart.views hNothing
  machines := hPart.machines
  email := hPart.email
  workspace := hPart.workspace
  difference := hPart.difference
  deleted := by
    intro hHidden
    unfold Form.withViews Views.load
    dsimp only
    split
    · exact hPart.deleted hHidden
    · exact hPart.deleted hHidden

theorem withUsers (hPart : form.IsPart stored) :
    (form.withUsers stored).IsPart stored :=
  ⟨hPart.views, hPart.machines, hPart.email, hPart.workspace,
    hPart.difference, hPart.deleted⟩

theorem nodes_load (hPart : form.IsPart stored) :
    (form.machines.load stored.record.buildMachines).nodes =
      stored.record.buildMachines := by
  rcases hPart.machines with hNew | hSame
  · exact Machines.nodes_load hNew _
  · exact Machines.nodes_reload hSame

theorem withRecord (hPart : form.IsPart stored) :
    (form.withRecord stored).IsPart stored := by
  have hAfter := form.leaves_applyConfiguration stored.record
  unfold Form.withRecord
  refine ⟨?_, ?_, ?_, ?_, ?_, ?_⟩
  · rw [hAfter.views]
    exact hPart.views
  · rw [hAfter.machines]
    exact Or.inr hPart.nodes_load
  · intro hNone
    exact (hAfter.email hNone).1.trans (hPart.email hNone)
  · intro hClean
    exact
      (hAfter.workspace hClean).trans (hPart.workspace hClean)
  · rw [hAfter.difference]
    exact hPart.difference
  · rw [hAfter.views]
    exact hPart.deleted

theorem withCreator (hPart : form.IsPart stored) :
    (form.withCreator stored).IsPart stored := by
  unfold Form.withCreator
  split
  · exact
      ⟨hPart.views, hPart.machines, hPart.email,
        hPart.workspace, hPart.difference, hPart.deleted⟩
  · exact hPart

theorem withDeleted (hPart : form.IsPart stored) :
    (form.withDeleted stored).IsPart stored := by
  unfold Form.withDeleted
  split
  · rename_i hReveals
    refine
      ⟨hPart.views, hPart.machines, hPart.email,
        hPart.workspace, hPart.difference, ?_⟩
    intro hHidden
    rw [hReveals] at hHidden
    cases hHidden
  · exact hPart

theorem withDifference (hPart : form.IsPart stored) :
    (form.withDifference stored).IsPart stored := by
  unfold Form.withDifference
  split
  · exact hPart
  · rename_i hApproved
    exact
      ⟨hPart.views, hPart.machines, hPart.email,
        hPart.workspace, fun hThere => absurd hThere hApproved,
        hPart.deleted⟩

theorem shown (hPart : form.IsPart stored) :
    (form.shown stored).IsPart stored := by
  have hFilled :=
    hPart.withViews.withUsers.withRecord.withCreator
      |>.withDeleted.withDifference
  exact
    ⟨hFilled.views, hFilled.machines, hFilled.email,
      hFilled.workspace, hFilled.difference, hFilled.deleted⟩

/- What is filled in part has only parts of what is stored. -/
theorem of_filledInPart
    (hPart : form.IsPart stored)
    {after : Form}
    (hFilled : FilledInPart stored form after) :
    after.IsPart stored := by
  cases hFilled with
  | nothing => exact hPart
  | views => exact hPart.withViews
  | users => exact hPart.withViews.withUsers
  | record => exact hPart.withViews.withUsers.withRecord
  | creator =>
      exact hPart.withViews.withUsers.withRecord.withCreator
  | shown => exact hPart.shown

end IsPart

/- The parts that a filled form has from what came before. -/
theorem parts_filled
    (stored : Stored)
    (form : Form) :
    (form.filled stored).users =
        form.users.load stored.users.html stored.users.users ∧
      (form.filled stored).machines =
        form.machines.load stored.record.buildMachines ∧
      (form.filled stored).views.items =
        (form.views.load stored.views).items := by
  have hRecord :=
    (form.withViews stored |>.withUsers
      stored).leaves_applyConfiguration stored.record
  have hViews := congrArg Views.items hRecord.views
  unfold filled shown withDifference withDeleted withCreator
  split <;> split <;> split <;>
    exact ⟨hRecord.users, hRecord.machines, hViews⟩

/- Users are added to those there are. -/
theorem names_withUsers
    (stored : Stored)
    (form : Form) :
    (form.withUsers stored).users.names =
      form.users.names ++ stored.userNames := by
  unfold withUsers Stored.userNames
  dsimp only
  split
  · rename_i hEmpty
    unfold Users.load
    rw [if_pos hEmpty]
    simp
  · rename_i hMarkup
    apply Users.names_load
    exact fun hEmpty => absurd hEmpty hMarkup

theorem names_filled
    (stored : Stored)
    (form : Form) :
    (form.filled stored).users.names =
      form.users.names ++ stored.userNames := by
  rw [(parts_filled stored form).1]
  exact form.names_withUsers stored

/- A form that was filled in part has these users or not yet. -/
theorem FilledInPart.names
    {stored : Stored}
    {form after : Form}
    (hFilled : FilledInPart stored form after) :
    after.users.names = form.users.names ∨
      after.users.names =
        form.users.names ++ stored.userNames := by
  have hUsers :
      (form.withViews stored |>.withUsers stored).users.names =
        form.users.names ++ stored.userNames :=
    (form.withViews stored).names_withUsers stored
  have hRecord :=
    (form.withViews stored |>.withUsers
      stored).leaves_applyConfiguration stored.record
  have hRecorded := congrArg Users.names hRecord.users
  cases hFilled with
  | nothing => exact Or.inl rfl
  | views => exact Or.inl rfl
  | users => exact Or.inr hUsers
  | record => exact Or.inr (hRecorded.trans hUsers)
  | creator =>
      right
      unfold withCreator
      split <;> exact hRecorded.trans hUsers
  | shown => exact Or.inr (form.names_filled stored)

theorem difference_filled
    (stored : Stored)
    (form : Form)
    (hDraft : ¬stored.record.isApproved) :
    (form.filled stored).difference = stored.difference := by
  unfold filled shown withDifference
  rw [if_neg hDraft]

theorem deleted_filled
    (stored : Stored)
    (form : Form)
    (hReveals : stored.reveals = true) :
    (form.filled stored).views.deleted =
      stored.deleted.views := by
  unfold filled shown withDifference withDeleted
  rw [if_pos hReveals]
  split <;> rfl

/- What is saved is settled once the record was applied. -/
theorem toConfiguration_filled
    (stored : Stored)
    (form : Form) :
    (form.filled stored).toConfiguration =
      ({ form.withViews stored |>.withUsers stored
          |>.withRecord stored with
          commentsEnabled := true } : Form).toConfiguration := by
  unfold filled shown withDifference withDeleted withCreator
  split <;> split <;> split <;> rfl

/-
  A record makes the same of two forms where it leaves the
  same, whatever users they have.
-/
theorem toConfiguration_applyConfiguration_congr
    {config : Configuration}
    {first second : Form}
    (hViews : first.views.records = second.views.records)
    (hMachines :
      (first.machines.load config.buildMachines).nodes =
        (second.machines.load config.buildMachines).nodes)
    (hEmail :
      config.email.getD "" = "" →
      first.emailEnabled = false ∧ second.emailEnabled = false)
    (hWorkspace :
      config.cleanWorkspace ≠ some false →
      first.cleanWorkspace = second.cleanWorkspace) :
    { ({ first.applyConfiguration config with
          commentsEnabled := true } : Form).toConfiguration with
        users := [] } =
      { ({ second.applyConfiguration config with
              commentsEnabled := true } : Form).toConfiguration with
          users := [] } := by
  have hClean :
      (if config.cleanWorkspace = some false then false
        else first.cleanWorkspace) =
        if config.cleanWorkspace = some false then false
        else second.cleanWorkspace := by
    split
    · rfl
    · rename_i hKept
      exact hWorkspace hKept
  unfold applyConfiguration
  cases hMail : config.email with
  | none =>
      rcases hEmail (by simp [hMail]) with ⟨hFirst, hSecond⟩
      unfold toConfiguration
      dsimp only
      rw [hViews, hMachines, hClean, hFirst, hSecond]
      rfl
  | some address =>
      dsimp only
      split
      · rename_i hEmpty
        rcases hEmail (by simp [hMail, hEmpty]) with
          ⟨hFirst, hSecond⟩
        unfold toConfiguration
        dsimp only
        rw [hViews, hMachines, hClean, hFirst, hSecond]
        rfl
      · unfold toConfiguration
        dsimp only [showEmail]
        rw [hViews, hMachines, hClean]
        rfl

namespace IsPart

variable {stored : Stored}
variable {first second : Form}

theorem filled
    {form : Form}
    (hPart : form.IsPart stored) :
    (form.filled stored).IsPart stored := by
  have hShown := hPart.shown
  exact
    ⟨hShown.views, hShown.machines, hShown.email,
      hShown.workspace, hShown.difference, hShown.deleted⟩

theorem items_load
    (hFirst : first.IsPart stored)
    (hSecond : second.IsPart stored) :
    (first.views.load stored.views).items =
      (second.views.load stored.views).items := by
  unfold Views.load
  split
  · rename_i hNothing
    rw [hFirst.views hNothing, hSecond.views hNothing]
  · rfl

/-
  Two forms with nothing but parts of a configuration are the
  same once they are filled, but for the users.
-/
theorem filled_congr
    (hFirst : first.IsPart stored)
    (hSecond : second.IsPart stored) :
    { (first.filled stored).toConfiguration with users := [] } =
        { (second.filled stored).toConfiguration with
          users := [] } ∧
      (first.filled stored).hiddenStrings =
        (second.filled stored).hiddenStrings ∧
      (first.filled stored).difference =
        (second.filled stored).difference ∧
      (first.filled stored).views.deleted =
        (second.filled stored).views.deleted := by
  rcases parts_filled stored first with
    ⟨_, hMachinesFirst, hViewsFirst⟩
  rcases parts_filled stored second with
    ⟨_, hMachinesSecond, hViewsSecond⟩
  refine ⟨?_, ?_, ?_, ?_⟩
  · rw [toConfiguration_filled, toConfiguration_filled]
    apply toConfiguration_applyConfiguration_congr
    · exact
        congrArg (List.map View.toRecord)
          (hFirst.items_load hSecond)
    · exact hFirst.nodes_load.trans hSecond.nodes_load.symm
    · exact fun hNone =>
        ⟨hFirst.email hNone, hSecond.email hNone⟩
    · exact fun hClean =>
        (hFirst.workspace hClean).trans
          (hSecond.workspace hClean).symm
  · unfold hiddenStrings
    rw [hMachinesFirst, hMachinesSecond, hViewsFirst,
      hViewsSecond, hFirst.items_load hSecond,
      Machines.hidden_load first.machines second.machines]
  · by_cases hApproved : stored.record.isApproved
    · exact
        (hFirst.filled.difference hApproved).trans
          (hSecond.filled.difference hApproved).symm
    · rw [difference_filled stored first hApproved,
        difference_filled stored second hApproved]
  · cases hReveals : stored.reveals with
    | true =>
        rw [deleted_filled stored first hReveals,
          deleted_filled stored second hReveals]
    | false =>
        exact
          (hFirst.filled.deleted hReveals).trans
            (hSecond.filled.deleted hReveals).symm

end IsPart

end Form

end BuildForm
