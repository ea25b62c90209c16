import BuildForm.Form.Gate

/-
  What a page can do to its form, step by step.

  A form is loaded by `Load` steps when its page is opened:
  besides its record by those of `LoadStored`, or of `LoadNew`
  if it is new. From then on it changes by the `Step`
  relations of a view, of all views and of the form, and by
  the `Tick` of a box. An invariant of forms has one case for
  each constructor.

  Main declarations:
    * `View.Step`
    * `Views.Step`
    * `Form.Load`
    * `Form.LoadStored`
    * `Form.LoadNew`
    * `Form.Step`
    * `Form.Tick`
    * `Form.snd_edit`
    * `Views.Step.forall_items`
    * `Views.map_amend`
    * `Views.map_insert`
    * `Views.Retains`
-/

------------------------------------------------------------
-- One View
------------------------------------------------------------

namespace BuildForm

/- What may happen to a view that is there. -/
inductive View.Step : View → View → Prop where
  | addBuilder (view : View) (html : String) :
      Step view (view.pushBuilder html).2
  | removeBuilder (view : View) (builder : BuilderId) :
      Step view (view.removeBuilder builder).2
  | selectCredentials (view : View) (value : String) :
      Step view
        { view with
          credentials := (view.credentials.select value).2 }
  | addPath (view : View) (kind : SelectionKind) :
      Step view (view.addPath kind).2
  | press
      (view : View)
      (kind : SelectionKind)
      (key deleteKey : Key) :
      Step view
        (view.setBox kind
          ((view.box kind).press key deleteKey).2)
  | setVersionFiles (view : View) (enabled : Bool) :
      Step view (view.setVersionFiles enabled)
  | setOtherConfig
      (view : View)
      (builder : BuilderId)
      (checked : Bool) :
      Step view
        (view.mapBuilder builder (·.setOtherConfig checked))

------------------------------------------------------------
-- All Views
------------------------------------------------------------

/- What may happen to the views of a form. -/
inductive Views.Step : Views → Views → Prop where
  | insert
      (views : Views)
      (fragment : ViewFragment)
      (scm : Scm) :
      Step views (views.insert fragment scm).2
  | remove (views : Views) (id : ViewId) :
      Step views (views.remove id).2
  | rememberCredentials (views : Views) (id : ViewId) :
      Step views (views.rememberCredentials id).2
  | amend
      {α : Type}
      {views changed : Views}
      {id : ViewId}
      {change : View → α × View}
      {result : α} :
      (∀ view,
        (change view).2 = view ∨
          View.Step view (change view).2) →
      views.amend id change = some (result, changed) →
      Step views changed

------------------------------------------------------------
-- The Form
------------------------------------------------------------

/- What opening a page loads into its form. -/
inductive Form.Load : Form → Form → Prop where
  | views (form : Form) (loaded : LoadedViews) :
      Load form { form with views := form.views.load loaded }
  | users (form : Form) (html : String) (names : List String) :
      Load form
        { form with users := form.users.load html names }
  | record (form : Form) (config : Configuration) :
      Load form (form.applyConfiguration config)
  | creatorName (form : Form) (name : String) :
      Load form (form.setCreatorName name)
  | deletedViews
      (form : Form)
      (html : String)
      (records : List ViewRecord) :
      Load form
        { form with
          views := form.views.loadDeleted html records }
  | difference (form : Form) (difference : Difference) :
      Load form { form with difference }
  | stored (form : Form) :
      Load form
        { form with nameLocked := true, commentsEnabled := true }
  | new (form : Form) :
      Load form
        { form with
          formType := .create
          views := form.views.reset }
  | newComments (form : Form) :
      Load form (form.setCommentsEnabled false).2
  | newTrigger (form : Form) (value : String) :
      Load form
        (form.mapField .pollScmTrigger (·.setValue value))
  | defaults (form : Form) (defaults : NewDefaults) :
      Load form
        { form with
          scm := defaults.scm.getD form.scm
          machines := Machines.ofNodes defaults.nodes
          views :=
            { form.views with
              defaultCredentials :=
                defaults.defaultCredentials } }
  | administrator (form : Form) (isAdmin : Bool) :
      Load form { form with isAdmin }

/- What opening a stored configuration loads but its record. -/
inductive Form.LoadStored : Form → Form → Prop where
  | views (form : Form) (loaded : LoadedViews) :
      LoadStored form
        { form with views := form.views.load loaded }
  | users (form : Form) (html : String) (names : List String) :
      LoadStored form
        { form with users := form.users.load html names }
  | creatorName (form : Form) (name : String) :
      LoadStored form (form.setCreatorName name)
  | deletedViews
      (form : Form)
      (html : String)
      (records : List ViewRecord) :
      LoadStored form
        { form with
          views := form.views.loadDeleted html records }
  | difference (form : Form) (difference : Difference) :
      LoadStored form { form with difference }
  | shown (form : Form) :
      LoadStored form
        { form with nameLocked := true, commentsEnabled := true }
  | administrator (form : Form) (isAdmin : Bool) :
      LoadStored form { form with isAdmin }

/- What starting a new configuration loads. -/
inductive Form.LoadNew : Form → Form → Prop where
  | blank (form : Form) :
      LoadNew form
        { form with
          formType := .create
          views := form.views.reset }
  | comments (form : Form) :
      LoadNew form (form.setCommentsEnabled false).2
  | trigger (form : Form) (value : String) :
      LoadNew form
        (form.mapField .pollScmTrigger (·.setValue value))
  | defaults (form : Form) (defaults : NewDefaults) :
      LoadNew form
        { form with
          scm := defaults.scm.getD form.scm
          machines := Machines.ofNodes defaults.nodes
          views :=
            { form.views with
              defaultCredentials :=
                defaults.defaultCredentials } }
  | administrator (form : Form) (isAdmin : Bool) :
      LoadNew form { form with isAdmin }

theorem Form.LoadStored.load
    {form after : Form}
    (hLoad : Form.LoadStored form after) :
    Form.Load form after := by
  cases hLoad with
  | views loaded => exact .views form loaded
  | users html names => exact .users form html names
  | creatorName name => exact .creatorName form name
  | deletedViews html records =>
      exact .deletedViews form html records
  | difference difference => exact .difference form difference
  | shown => exact .stored form
  | administrator isAdmin => exact .administrator form isAdmin

theorem Form.LoadNew.load
    {form after : Form}
    (hLoad : Form.LoadNew form after) :
    Form.Load form after := by
  cases hLoad with
  | blank => exact .new form
  | comments => exact .newComments form
  | trigger value => exact .newTrigger form value
  | defaults defaults => exact .defaults form defaults
  | administrator isAdmin => exact .administrator form isAdmin

/-
  What else may happen to the form of a page in a mode. Only
  a page that may be edited has steps of its views and users,
  and only one to approve or reject has a dialog to confirm.
-/
inductive Form.Step (mode : PageMode) : Form → Form → Prop where
  | views {form : Form} {views : Views} :
      mode.isMutable →
      Views.Step form.views views →
      Step mode form { form with views }
  | dropPrompt (form : Form) :
      mode.isMutable →
      Step mode form { form with addViewPrompt := false }
  | edit
      (form : Form)
      (path : FieldPath)
      (value : String)
      (validate : Bool) :
      Step mode form (form.edit path value validate).2
  | judge
      (form : Form)
      (path : FieldPath)
      (check : TriggerCheck) :
      Step mode form
        (form.mapTrigger path fun trigger =>
          { trigger with check := some check })
  | help (form : Form) (help : HelpPanel) :
      Step mode form { form with help }
  | takeUser (form : Form) :
      mode.isMutable →
      Step mode form { form with addUser := form.addUser.clear }
  | addUser (form : Form) (name html : String) :
      mode.isMutable →
      Step mode form
        { form with users := (form.users.push name html).2 }
  | deleteUser (form : Form) (row : UInt32) :
      mode.isMutable →
      Step mode form
        { form with users := (form.users.remove row).2 }
  | check (form : Form) : Step mode form form.check.2
  | result (form : Form) (result : FormResult) :
      Step mode form { form with formResult := some result }
  | message (form : Form) (message : Option String) :
      Step mode form { form with formMessage := message }
  | openReject (form : Form) :
      mode = .approveReject →
      Step mode form
        { form with
          rejectDialog :=
            { form.rejectDialog with visible := true }
          focus := some .rejectionReason }
  | focusReason (form : Form) :
      mode = .approveReject →
      Step mode form (form.focusOn .rejectionReason)
  | reject (form : Form) (reason : String) :
      mode = .approveReject →
      Step mode form
        { form with
          rejectionReason := reason
          formType := .reject }
  | cancelReject (form : Form) :
      Step mode form
        { form with
          rejectDialog :=
            { visible := false
              reason := form.rejectDialog.reason.clear } }

/- What ticking a box of a form does to it. -/
inductive Form.Tick : Form → Form → Prop where
  | email (form : Form) (enabled : Bool) :
      Tick form (form.setEmailEnabled enabled).2
  | comments (form : Form) (enabled : Bool) :
      Tick form (form.setCommentsEnabled enabled).2
  | machine (form : Form) (node : String) (checked : Bool) :
      Tick form (form.toggleMachine node checked).2

end BuildForm

------------------------------------------------------------
-- Typing
------------------------------------------------------------

namespace BuildForm

/- An input after a value was typed into it. -/
def Field.typed
    (field : Field)
    (value : String)
    (validate : Bool) : Field :=
  if validate then
    (field.setValue value).blur
  else
    field.setValue value

/-
  Typing that is refused undoes at most what typing undoes;
  else the input at the address is set.
-/
theorem Form.snd_edit
    (form : Form)
    (path : FieldPath)
    (value : String)
    (validate : Bool) :
    (form.edit path value validate).2 = form ∨
      (form.edit path value validate).2 = form.forget path ∨
      ∃ field,
        (form.forget path).field? path = some field ∧
          (form.edit path value validate).2 =
            (form.forget path).mapField path fun _ =>
              field.typed value validate := by
  unfold edit
  split
  · exact .inl rfl
  · split
    · exact .inl rfl
    · dsimp only
      split
      · exact .inr (.inl rfl)
      · rename_i field hField
        split
        · exact .inr (.inl rfl)
        · exact .inr (.inr ⟨field, hField, rfl⟩)

end BuildForm

------------------------------------------------------------
-- Views after a Step
------------------------------------------------------------

namespace BuildForm

namespace Views

variable {α : Type}
variable {id : ViewId}
variable {views changed : Views}
variable {change : View → α × View}
variable {result : α}

/- A change of a view happens in its place among the others. -/
theorem exists_of_amendItems
    {items after : List View}
    (hAmend : amendItems id change items = some (result, after)) :
    ∃ front view back,
      items = front ++ view :: back ∧ view.id = id ∧
        result = (change view).1 ∧
        after = front ++ (change view).2 :: back := by
  induction items generalizing after with
  | nil => cases hAmend
  | cons view rest ih =>
      unfold amendItems at hAmend
      by_cases hId : view.id = id
      · rw [if_pos hId] at hAmend
        cases hAmend
        exact ⟨[], view, rest, rfl, hId, rfl, rfl⟩
      · rw [if_neg hId, Option.map_eq_some_iff] at hAmend
        rcases hAmend with ⟨⟨_, tail⟩, hRest, hPair⟩
        cases hPair
        rcases ih hRest with
          ⟨front, found, back, hSplit, hFound, hResult, hAfter⟩
        refine ⟨view :: front, found, back, ?_, hFound,
          hResult, ?_⟩
        · rw [hSplit]
          rfl
        · rw [hAfter]
          rfl

theorem exists_of_amend
    (hAmend : views.amend id change = some (result, changed)) :
    ∃ front view back,
      views.items = front ++ view :: back ∧ view.id = id ∧
        result = (change view).1 ∧
        changed =
          { views with
            items := front ++ (change view).2 :: back } := by
  unfold amend at hAmend
  rw [Option.map_eq_some_iff] at hAmend
  rcases hAmend with ⟨⟨_, items⟩, hItems, hPair⟩
  cases hPair
  rcases exists_of_amendItems hItems with
    ⟨front, view, back, hSplit, hId, hResult, hAfter⟩
  exact ⟨front, view, back, hSplit, hId, hResult, by rw [hAfter]⟩

theorem ne_of_amendItems_eq_none
    {items : List View}
    (hAmend : amendItems id change items = none) :
    ∀ view ∈ items, view.id ≠ id := by
  induction items with
  | nil => simp
  | cons view rest ih =>
      unfold amendItems at hAmend
      by_cases hId : view.id = id
      · rw [if_pos hId] at hAmend
        cases hAmend
      · rw [if_neg hId, Option.map_eq_none_iff] at hAmend
        intro other hOther
        rcases List.mem_cons.mp hOther with rfl | hRest
        · exact hId
        · exact ih hAmend other hRest

/- Nothing is changed only where there is no such view. -/
theorem ne_of_amend_eq_none
    (hAmend : views.amend id change = none) :
    ∀ view ∈ views.items, view.id ≠ id :=
  ne_of_amendItems_eq_none (Option.map_eq_none_iff.mp hAmend)

/- A change that keeps what is read of a view keeps it of all. -/
theorem map_amend
    {β : Type}
    (read : View → β)
    (hRead : ∀ view, read (change view).2 = read view)
    (hAmend : views.amend id change = some (result, changed)) :
    changed.items.map read = views.items.map read ∧
      changed.nextOrdinal = views.nextOrdinal := by
  rcases exists_of_amend hAmend with
    ⟨front, view, back, hSplit, _, _, rfl⟩
  simp [hSplit, hRead]

theorem map_applyDefault
    {β : Type}
    (read : View → β)
    (hRead :
      ∀ view credentials,
        read { view with credentials } = read view)
    (views : Views)
    (id : ViewId) :
    (views.applyDefault id).2.items.map read =
      views.items.map read := by
  unfold applyDefault
  split
  · rfl
  · split
    · rename_i hAmend
      exact (map_amend read (fun view => hRead view _) hAmend).1
    · rfl

/- A fresh view as it is appended, its credentials aside. -/
def fresh
    (views : Views)
    (fragment : ViewFragment)
    (scm : Scm) : View :=
  (View.blank ⟨views.nextOrdinal⟩ fragment.html
    fragment.credentials).mapField .localDirectoryPath
      (·.setValue (scm.freshFolder views.nextOrdinal))

/- What credentials do not matter for is that of a fresh view. -/
theorem map_insert
    {β : Type}
    (read : View → β)
    (hRead :
      ∀ view credentials,
        read { view with credentials } = read view)
    (views : Views)
    (fragment : ViewFragment)
    (scm : Scm) :
    (views.insert fragment scm).2.items.map read =
      views.items.map read ++
        [read (views.fresh fragment scm)] := by
  unfold insert
  dsimp only
  rw [map_applyDefault read hRead, List.map_append]
  rfl

/- A view that was inserted is there. -/
theorem exists_inserted
    (views : Views)
    (fragment : ViewFragment)
    (scm : Scm) :
    ∃ view ∈ (views.insert fragment scm).2.items,
      view.id = (views.insert fragment scm).1 := by
  have hIds :=
    map_insert View.id (fun _ _ => rfl) views fragment scm
  have hFresh :
      (views.fresh fragment scm).id ∈
        (views.insert fragment scm).2.items.map View.id := by
    rw [hIds]
    simp
  rcases List.mem_map.mp hFresh with ⟨view, hView, hId⟩
  exact ⟨view, hView, hId⟩

/- Each view after a change was there, or is the changed one. -/
theorem mem_amend
    (hAmend : views.amend id change = some (result, changed))
    {view : View}
    (hView : view ∈ changed.items) :
    view ∈ views.items ∨
      ∃ before ∈ views.items, view = (change before).2 := by
  rcases exists_of_amend hAmend with
    ⟨front, before, back, hSplit, _, _, rfl⟩
  rw [List.mem_append, List.mem_cons] at hView
  rw [hSplit]
  rcases hView with hFront | rfl | hBack
  · exact Or.inl (by simp [hFront])
  · exact Or.inr ⟨before, by simp, rfl⟩
  · exact Or.inl (by simp [hBack])

theorem amendItems_append
    {front back : List View}
    {view : View}
    (hFront : ∀ other ∈ front, other.id ≠ id)
    (hView : view.id = id)
    (change : View → α × View) :
    amendItems id change (front ++ view :: back) =
      some
        ((change view).1, front ++ (change view).2 :: back) := by
  induction front with
  | nil => simp [amendItems, hView]
  | cons other front ih =>
      rcases List.forall_mem_cons.mp hFront with
        ⟨hOther, hFront⟩
      simp [amendItems, hOther, ih hFront]

/- The view that is changed is the one that is found. -/
theorem modify_of_view?
    {view : View}
    (hView : views.view? id = some view)
    (change : View → View) :
    ∃ front back,
      views.items = front ++ view :: back ∧
        views.modify id change =
          { views with items := front ++ change view :: back } := by
  rcases List.find?_eq_some_iff_append.mp hView with
    ⟨hId, front, back, hSplit, hFront⟩
  refine ⟨front, back, hSplit, ?_⟩
  unfold modify amend
  rw [hSplit, amendItems_append _ (by simpa using hId)]
  · rfl
  · simpa using hFront

/- Where no view is found, none is changed. -/
theorem modify_of_view?_eq_none
    (hView : views.view? id = none)
    (change : View → View) :
    views.modify id change = views := by
  unfold modify
  split
  · rename_i hAmend
    rcases exists_of_amend hAmend with
      ⟨front, view, back, hSplit, hId, _⟩
    have hOther := List.find?_eq_none.mp hView view
    simp [hSplit, hId] at hOther
  · rfl

theorem mem_modify
    {change : View → View}
    {view : View}
    (hView : view ∈ (views.modify id change).items) :
    view ∈ views.items ∨
      ∃ before ∈ views.items, view = change before := by
  unfold modify at hView
  split at hView
  · rename_i hAmend
    exact mem_amend hAmend hView
  · exact Or.inl hView

variable {P : View → Prop}

theorem forall_applyDefault
    (hSelect :
      ∀ view value, P view →
        P { view with
          credentials := (view.credentials.select value).2 })
    (hAll : ∀ view ∈ views.items, P view)
    (id : ViewId) :
    ∀ view ∈ (views.applyDefault id).2.items, P view := by
  intro view hMember
  unfold applyDefault at hMember
  split at hMember
  · exact hAll view hMember
  · rename_i value _
    split at hMember
    · rename_i hAmend
      rcases mem_amend hAmend hMember with
        hOld | ⟨before, hBefore, rfl⟩
      · exact hAll view hOld
      · exact hSelect before value (hAll before hBefore)
    · exact hAll view hMember

/- A view that is inserted is fresh but for its credentials. -/
theorem forall_insert
    (hSelect :
      ∀ view value, P view →
        P { view with
          credentials := (view.credentials.select value).2 })
    (hAll : ∀ view ∈ views.items, P view)
    {fragment : ViewFragment}
    {scm : Scm}
    (hFresh : P (views.fresh fragment scm)) :
    ∀ view ∈ (views.insert fragment scm).2.items, P view := by
  unfold Views.insert
  apply forall_applyDefault hSelect
  intro view hMember
  rcases List.mem_append.mp hMember with hOld | hNew
  · exact hAll view hOld
  · rw [List.mem_singleton.mp hNew]
    exact hFresh

/-
  What holds of fresh views and is kept by what may happen to
  a view holds of all views after a step.
-/
theorem Step.forall_items
    (hStep : Views.Step views changed)
    (hFresh :
      ∀ id html credentials folder,
        P ((View.blank id html credentials).mapField
          .localDirectoryPath (·.setValue folder)))
    (hView :
      ∀ view after, P view → View.Step view after → P after)
    (hAll : ∀ view ∈ views.items, P view) :
    ∀ view ∈ changed.items, P view := by
  cases hStep with
  | insert _ fragment scm =>
      apply forall_insert _ hAll (hFresh _ _ _ _)
      intro view value hHolds
      exact hView view _ hHolds (.selectCredentials view value)
  | remove _ id =>
      intro view hMember
      exact hAll view (List.mem_filter.mp hMember).1
  | rememberCredentials _ id =>
      intro view hMember
      unfold Views.rememberCredentials at hMember
      split at hMember
      · exact hAll view hMember
      · exact hAll view hMember
  | amend hChange hAmend =>
      intro view hMember
      rcases mem_amend hAmend hMember with
        hOld | ⟨before, hBefore, rfl⟩
      · exact hAll view hOld
      · have hHolds := hAll before hBefore
        rcases hChange before with hSame | hStep
        · rw [hSame]
          exact hHolds
        · exact hView before _ hHolds hStep

end Views

end BuildForm

------------------------------------------------------------
-- Places of Views
------------------------------------------------------------

namespace BuildForm

namespace View

/- Where a view stands: its identity and its folder. -/
def place (view : View) : ViewId × String :=
  (view.id, view.localDirectoryPath.value)

theorem place_setBox
    (view : View)
    (kind : SelectionKind)
    (box : SelectionBox) :
    (view.setBox kind box).place = view.place := by
  cases kind with
  | artifacts => rfl
  | versionFiles => rfl

theorem place_addPath
    (view : View)
    (kind : SelectionKind) :
    (view.addPath kind).2.place = view.place := by
  unfold addPath
  rcases (view.box kind).add (view.pathInput kind).value with
    ⟨result, box⟩
  cases result with
  | error error => exact view.place_setBox kind box
  | ok =>
      -- The input that is cleared is none of the folder.
      cases kind with
      | artifacts => rfl
      | versionFiles => rfl

/- Whatever happens to a view, it stays in its place. -/
theorem Step.place_eq
    {view after : View}
    (hStep : View.Step view after) :
    after.place = view.place := by
  cases hStep with
  | addPath kind => exact view.place_addPath kind
  | press kind key deleteKey => exact view.place_setBox kind _
  | _ => rfl

end View

namespace Views

/- Views of which some may be gone, the others in place. -/
structure Retains (views after : Views) : Prop where
  places :
    (after.items.map View.place).Sublist
      (views.items.map View.place)
  next : after.nextOrdinal = views.nextOrdinal

theorem Retains.of_map_place
    {views after : Views}
    (hPlaces :
      after.items.map View.place = views.items.map View.place)
    (hNext : after.nextOrdinal = views.nextOrdinal) :
    views.Retains after :=
  ⟨hPlaces ▸ List.Sublist.refl _, hNext⟩

theorem Retains.refl (views : Views) : views.Retains views :=
  .of_map_place rfl rfl

theorem retains_amend
    {α : Type}
    {id : ViewId}
    {views changed : Views}
    {change : View → α × View}
    {result : α}
    (hChange :
      ∀ view,
        (change view).2 = view ∨
          View.Step view (change view).2)
    (hAmend : views.amend id change = some (result, changed)) :
    views.Retains changed := by
  have hPlace :
      ∀ view, (change view).2.place = view.place := by
    intro view
    rcases hChange view with hSame | hStep
    · rw [hSame]
    · exact hStep.place_eq
  rcases map_amend View.place hPlace hAmend with
    ⟨hItems, hNext⟩
  exact .of_map_place hItems hNext

theorem retains_remove (views : Views) (id : ViewId) :
    views.Retains (views.remove id).2 :=
  ⟨List.filter_sublist.map View.place, rfl⟩

theorem retains_rememberCredentials
    (views : Views)
    (id : ViewId) :
    views.Retains (views.rememberCredentials id).2 := by
  unfold rememberCredentials
  split
  · exact ⟨List.Sublist.refl _, rfl⟩
  · exact .refl views

end Views

end BuildForm
