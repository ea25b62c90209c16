import BuildForm.Form.Difference
import BuildForm.Proofs.Record.Table

/-
  Comparing a draft with an approved configuration.

  A comparison goes through what the approved configuration
  has. It is empty exactly if the draft keeps all of that,
  and it tells nothing of what only the draft has.

  Main declarations:
    * `Configuration.KeptBy`
    * `Configuration.AgreesWith`
    * `Difference.isEmpty_between_self`
    * `Difference.kept_of_empty_comparison`
    * `Difference.not_agreesWith_of_additions`
-/

------------------------------------------------------------
-- Values that Are Kept
------------------------------------------------------------

namespace BuildForm

namespace Difference

/- A value that is there stays the same; one may be added. -/
def Kept
    {α : Type}
    (old new : Option α) : Prop :=
  ∀ value, old = some value → new = some value

namespace Kept

variable {α : Type}

theorem refl (value : Option α) : Kept value value :=
  fun _ hValue => hValue

/- Where nothing is added either, the values are the same. -/
theorem antisymm
    {old new : Option α}
    (hKept : Kept old new)
    (hAdded : Kept new old) : new = old := by
  cases hNew : new with
  | some value => exact (hAdded value hNew).symm
  | none =>
      cases hOld : old with
      | none => rfl
      | some value =>
          rw [hKept value hOld] at hNew
          cases hNew

end Kept

end Difference

open Difference (Kept)

/-
  A draft keeps every compared value of a configuration, and
  each of its machines in the same state. Whether workspaces
  are cleaned is left aside.
-/
structure Configuration.KeptBy
    (config draft : Configuration) : Prop where
  scm : Kept config.scm draft.scm
  email : Kept config.email draft.email
  configEmail : Kept config.configEmail draft.configEmail
  preScript : Kept config.preScript draft.preScript
  postScript : Kept config.postScript draft.postScript
  regExp : Kept config.regExp draft.regExp
  buildOnCommitTrigger :
    Kept config.buildOnCommitTrigger
      draft.buildOnCommitTrigger
  pollScmTrigger :
    Kept config.pollScmTrigger draft.pollScmTrigger
  buildPeriodicallyTrigger :
    Kept config.buildPeriodicallyTrigger
      draft.buildPeriodicallyTrigger
  machines :
    ∀ node,
      Kept (config.buildMachines.find? node)
        (draft.buildMachines.find? node)

/-
  A draft has the compared values of a configuration, and the
  same machines in the same states, in whatever order.
-/
structure Configuration.AgreesWith
    (draft config : Configuration) : Prop where
  scm : draft.scm = config.scm
  email : draft.email = config.email
  configEmail : draft.configEmail = config.configEmail
  preScript : draft.preScript = config.preScript
  postScript : draft.postScript = config.postScript
  regExp : draft.regExp = config.regExp
  buildOnCommitTrigger :
    draft.buildOnCommitTrigger = config.buildOnCommitTrigger
  pollScmTrigger :
    draft.pollScmTrigger = config.pollScmTrigger
  buildPeriodicallyTrigger :
    draft.buildPeriodicallyTrigger =
      config.buildPeriodicallyTrigger
  machines :
    ∀ node,
      draft.buildMachines.find? node =
        config.buildMachines.find? node

namespace Configuration

theorem KeptBy.refl (config : Configuration) :
    config.KeptBy config where
  scm := .refl _
  email := .refl _
  configEmail := .refl _
  preScript := .refl _
  postScript := .refl _
  regExp := .refl _
  buildOnCommitTrigger := .refl _
  pollScmTrigger := .refl _
  buildPeriodicallyTrigger := .refl _
  machines := fun _ => .refl _

/- A draft that keeps everything and adds nothing agrees. -/
theorem KeptBy.agreesWith
    {config draft : Configuration}
    (hKept : config.KeptBy draft)
    (hAdded : draft.KeptBy config) :
    draft.AgreesWith config where
  scm := hKept.scm.antisymm hAdded.scm
  email := hKept.email.antisymm hAdded.email
  configEmail := hKept.configEmail.antisymm hAdded.configEmail
  preScript := hKept.preScript.antisymm hAdded.preScript
  postScript := hKept.postScript.antisymm hAdded.postScript
  regExp := hKept.regExp.antisymm hAdded.regExp
  buildOnCommitTrigger :=
    hKept.buildOnCommitTrigger.antisymm
      hAdded.buildOnCommitTrigger
  pollScmTrigger :=
    hKept.pollScmTrigger.antisymm hAdded.pollScmTrigger
  buildPeriodicallyTrigger :=
    hKept.buildPeriodicallyTrigger.antisymm
      hAdded.buildPeriodicallyTrigger
  machines := fun node =>
    (hKept.machines node).antisymm (hAdded.machines node)

end Configuration

end BuildForm

------------------------------------------------------------
-- Empty Comparisons
------------------------------------------------------------

namespace BuildForm

namespace Difference

variable {α : Type} [DecidableEq α]

theorem changed_eq_nil_iff
    (field : DiffField)
    (old new : Option α)
    (write : α → String) :
    changed field old new write = [] ↔ Kept old new := by
  unfold Kept
  cases old with
  | none => simp [changed]
  | some value => simp [changed]

/- Of a workspace only that it was cleaned is compared. -/
theorem kept_filter_iff (old new : Option Bool) :
    Kept (old.filter (· = true)) new ↔
      (old = some true → new = some true) := by
  unfold Kept
  cases old with
  | none => simp
  | some value => cases value <;> simp [Option.filter]

variable {draft approved : Configuration}

theorem machineChanges_eq_nil_iff :
    machineChanges draft approved = [] ↔
      ∀ node,
        Kept (approved.buildMachines.find? node)
          (draft.buildMachines.find? node) := by
  unfold machineChanges Kept
  rw [List.map_eq_nil_iff, List.filter_eq_nil_iff]
  constructor
  · intro hEach node selected hFind
    have hEntry :=
      approved.buildMachines.find?_eq_some_iff.mp hFind
    simpa using hEach (node, selected) hEntry
  · rintro hKept ⟨node, selected⟩ hEntry
    have hFind :=
      approved.buildMachines.find?_eq_some_iff.mpr hEntry
    simpa using hKept node selected hFind

theorem isEmpty_between_iff
    (hName : approved.projectName ≠ "") :
    (between draft (some approved)).isEmpty ↔
      approved.KeptBy draft ∧
        (approved.cleanWorkspace = some true →
          draft.cleanWorkspace = some true) := by
  unfold between isEmpty fieldChanges
  simp only [hName, if_false, Bool.and_eq_true,
    List.isEmpty_iff, List.append_eq_nil_iff,
    changed_eq_nil_iff, kept_filter_iff,
    machineChanges_eq_nil_iff]
  constructor
  · rintro ⟨⟨⟨⟨⟨⟨⟨⟨⟨⟨hScm, hEmail⟩, hConfigEmail⟩, hPre⟩,
      hPost⟩, hRegExp⟩, hClean⟩, hCommit⟩, hPoll⟩, hPeriodic⟩,
      hMachines⟩
    exact
      ⟨⟨hScm, hEmail, hConfigEmail, hPre, hPost, hRegExp,
        hCommit, hPoll, hPeriodic, hMachines⟩, hClean⟩
  · rintro ⟨hKept, hClean⟩
    exact
      ⟨⟨⟨⟨⟨⟨⟨⟨⟨⟨hKept.scm, hKept.email⟩,
        hKept.configEmail⟩, hKept.preScript⟩,
        hKept.postScript⟩, hKept.regExp⟩, hClean⟩,
        hKept.buildOnCommitTrigger⟩, hKept.pollScmTrigger⟩,
        hKept.buildPeriodicallyTrigger⟩, hKept.machines⟩

/- Only a configuration with a name is compared with. -/
theorem hasApproved_between
    (draft : Configuration)
    (approved : Option Configuration) :
    (between draft approved).hasApproved =
      approved.any (·.projectName ≠ "") := by
  cases approved with
  | none => rfl
  | some config =>
      by_cases hName : config.projectName = "" <;>
        simp [between, hName]

/- Against itself a configuration has no changes. -/
theorem isEmpty_between_self (config : Configuration) :
    (between config (some config)).isEmpty := by
  by_cases hName : config.projectName = ""
  · simp [between, hName, isEmpty]
  · exact (isEmpty_between_iff hName).mpr ⟨.refl config, id⟩

/-
  A comparison with a named configuration is empty exactly if
  the draft keeps every value that is approved, every machine
  in its state, and that the workspace is cleaned, if it is.
  If the draft adds nothing to them, both then agree.
-/
theorem kept_of_empty_comparison
    (draft approved : Configuration)
    (hName : approved.projectName ≠ "") :
    ((between draft (some approved)).isEmpty ↔
      approved.KeptBy draft ∧
        (approved.cleanWorkspace = some true →
          draft.cleanWorkspace = some true)) ∧
      ((between draft (some approved)).isEmpty →
        draft.KeptBy approved → draft.AgreesWith approved) := by
  refine ⟨isEmpty_between_iff hName, ?_⟩
  intro hEmpty hAdded
  exact
    ((isEmpty_between_iff hName).mp hEmpty).1.agreesWith hAdded

/- The order of the machines does not matter. -/
theorem kept_of_empty_comparison_reordered :
    let approved : Configuration :=
      { projectName := "core"
        scm := some "Git"
        cleanWorkspace := some false
        buildMachines :=
          .ofList [("linux", true), ("mac", false)] }
    let draft : Configuration :=
      { approved with
        cleanWorkspace := some true
        buildMachines :=
          .ofList [("mac", false), ("linux", true)] }
    approved.projectName ≠ "" ∧
      (between draft (some approved)).isEmpty ∧
      draft.KeptBy approved ∧
      draft.AgreesWith approved := by
  intro approved draft
  have hName : approved.projectName ≠ "" := by decide
  have hEmpty : (between draft (some approved)).isEmpty := by
    decide
  have hMachines : machineChanges approved draft = [] := by
    decide
  have hAdded : draft.KeptBy approved :=
    { Configuration.KeptBy.refl approved with
      machines := machineChanges_eq_nil_iff.mp hMachines }
  exact
    ⟨hName, hEmpty, hAdded,
      (kept_of_empty_comparison draft approved hName).2 hEmpty
        hAdded⟩

/-
  What only the draft has is not compared: neither values
  that are approved to be none, nor machines.
-/
theorem not_agreesWith_of_additions :
    let approved : Configuration := { projectName := "core" }
    let draft : Configuration :=
      { projectName := "core"
        scm := some "Git"
        email := some "ann@host.org"
        configEmail := some "bob@host.org"
        preScript := some "make clean"
        postScript := some "make check"
        regExp := some "v[0-9]"
        buildOnCommitTrigger := some true
        pollScmTrigger := some "H * * * *"
        buildPeriodicallyTrigger := some "@daily" }
    let extended : Configuration :=
      { projectName := "core"
        buildMachines := .ofList [("linux", true)] }
    approved.projectName ≠ "" ∧
      ((between draft (some approved)).isEmpty ∧
        draft.scm ≠ approved.scm ∧
        draft.email ≠ approved.email ∧
        draft.configEmail ≠ approved.configEmail ∧
        draft.preScript ≠ approved.preScript ∧
        draft.postScript ≠ approved.postScript ∧
        draft.regExp ≠ approved.regExp ∧
        draft.buildOnCommitTrigger ≠
          approved.buildOnCommitTrigger ∧
        draft.pollScmTrigger ≠ approved.pollScmTrigger ∧
        draft.buildPeriodicallyTrigger ≠
          approved.buildPeriodicallyTrigger) ∧
      (between extended (some approved)).isEmpty ∧
      extended.buildMachines.find? "linux" ≠
        approved.buildMachines.find? "linux" := by
  decide

end Difference

end BuildForm
