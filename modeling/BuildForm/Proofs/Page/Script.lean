import Mathlib.Data.List.Infix
import BuildForm.Proofs.Form.Difference
import BuildForm.Proofs.Form.Step
import BuildForm.Proofs.Page.ByMode
import BuildForm.Proofs.Page.Outcomes

/-
  What a page asks of the service when it opens.

  The requests of an opening are a script, known as far as
  the record and its approved copy have been told. The calls
  of an opening follow the script and end with it, or at the
  first call that fails, of which the page gives the fault.

  Main declarations:
    * `PageRequest.script`
    * `PageRequest.Follows`
    * `Page.Asked`
    * `Page.triple_init_script`
    * `Session.step_init_follows_script`
-/

------------------------------------------------------------
-- What Calls Tell
------------------------------------------------------------

namespace BuildForm

namespace Call

/- The fault of a call that failed. -/
def fault? : Call → Option ServiceError
  | ⟨_, .ok _⟩ => none
  | ⟨_, .error fault⟩ => some fault

/- The record that a call tells. -/
def record? : Call → Option Configuration
  | ⟨.configuration _, .ok record⟩ => some record
  | _ => none

/- The approved copy, if there is one, that a call tells. -/
def copy? : Call → Option (Option Configuration)
  | ⟨.approved _, .ok copy⟩ => some copy
  | _ => none

end Call

end BuildForm

------------------------------------------------------------
-- Scripts
------------------------------------------------------------

namespace BuildForm

namespace PageRequest

/-
  What is asked for the comparison of a record with its copy:
  the deleted views only if there is a copy with a name.
-/
def comparisonScript
    (name : String)
    (copy? : Option (Option Configuration)) : List Request :=
  .approved name ::
    match copy? with
    | none => []
    | some copy =>
        if copy.any (·.projectName ≠ "") then
          [.deletedViews name, .isAdministrator]
        else
          [.isAdministrator]

/-
  What is asked once the record is there: the full name of
  its creator, if it has one, and the comparison, unless it
  is approved.
-/
def recordScript
    (name : String)
    (record : Configuration)
    (copy? : Option (Option Configuration)) : List Request :=
  record.creator.toList.map .fullName ++
    if record.isApproved then
      [.isAdministrator]
    else
      comparisonScript name copy?

/-
  What is asked to open a page, as far as it follows from the
  record and the copy that have been told.
-/
def script
    (request : PageRequest)
    (record? : Option Configuration)
    (copy? : Option (Option Configuration)) : List Request :=
  match request.name with
  | none =>
      [.newDefaults, .freshView, .freshBuilder,
        .isAdministrator]
  | some name =>
      [.views name, .users name, .configuration name] ++
        match record? with
        | none => []
        | some record => recordScript name record copy?

variable {request : PageRequest}
variable {name : String}

theorem script_of_new
    (hName : request.name = none)
    (record? : Option Configuration)
    (copy? : Option (Option Configuration)) :
    request.script record? copy? =
      [.newDefaults, .freshView, .freshBuilder,
        .isAdministrator] := by
  unfold script
  rw [hName]

theorem script_of_stored
    (hName : request.name = some name)
    (copy? : Option (Option Configuration)) :
    request.script none copy? =
      [.views name, .users name, .configuration name] := by
  unfold script
  rw [hName]
  rfl

theorem script_of_record
    (hName : request.name = some name)
    (record : Configuration)
    (copy? : Option (Option Configuration)) :
    request.script (some record) copy? =
      [.views name, .users name, .configuration name] ++
        recordScript name record copy? := by
  unfold script
  rw [hName]

theorem comparisonScript_sublist
    (name : String)
    (copy? : Option (Option Configuration)) :
    (comparisonScript name copy?).Sublist
      [.approved name, .deletedViews name,
        .isAdministrator] := by
  unfold comparisonScript
  apply List.Sublist.cons_cons
  cases copy? with
  | none => exact List.nil_sublist _
  | some copy =>
      dsimp only
      split
      · exact List.Sublist.refl _
      · exact List.sublist_cons_self _ _

theorem recordScript_sublist
    (name : String)
    (record : Configuration)
    (copy? : Option (Option Configuration)) :
    (recordScript name record copy?).Sublist
      (record.creator.toList.map .fullName ++
        [.approved name, .deletedViews name,
          .isAdministrator]) := by
  unfold recordScript
  apply List.Sublist.append (List.Sublist.refl _)
  split
  · simp
  · exact comparisonScript_sublist name copy?

/- No script asks the same twice. -/
theorem nodup_script
    (request : PageRequest)
    (record? : Option Configuration)
    (copy? : Option (Option Configuration)) :
    (request.script record? copy?).Nodup := by
  cases hName : request.name with
  | none =>
      rw [script_of_new hName]
      decide
  | some name =>
      cases record? with
      | none =>
          rw [script_of_stored hName]
          simp
      | some record =>
          rw [script_of_record hName]
          apply
            (List.Sublist.append (List.Sublist.refl _)
              (recordScript_sublist name record copy?)).nodup
          cases record.creator <;> simp

end PageRequest

end BuildForm

------------------------------------------------------------
-- Following a Script
------------------------------------------------------------

namespace BuildForm

namespace PageRequest

/-
  How calls, the first one first, follow the script, and what
  comes of it: all are answered and the page is open, or the
  last one is the first to fail, with the fault of the page.
-/
inductive Follows
    (request : PageRequest)
    (calls : List Call) : Except FormError Reply → Prop where
  | opened :
      (∀ call ∈ calls, call.fault? = none) →
      calls.map Call.request =
        request.script (calls.findSome? Call.record?)
          (calls.findSome? Call.copy?) →
      Follows request calls (.ok .done)
  | stopped
      (earlier : List Call)
      (last : Call)
      (fault : ServiceError) :
      calls = earlier ++ [last] →
      (∀ call ∈ earlier, call.fault? = none) →
      last.fault? = some fault →
      calls.map Call.request <+:
        request.script (calls.findSome? Call.record?)
          (calls.findSome? Call.copy?) →
      Follows request calls (.error (.service fault))

variable {request : PageRequest}
variable {calls : List Call}
variable {result : Except FormError Reply}

theorem Follows.isPrefix
    (hFollows : request.Follows calls result) :
    calls.map Call.request <+:
      request.script (calls.findSome? Call.record?)
        (calls.findSome? Call.copy?) := by
  cases hFollows with
  | opened _ hScript => rw [hScript]
  | stopped _ _ _ _ _ _ hPrefix => exact hPrefix

theorem Follows.nodup
    (hFollows : request.Follows calls result) :
    (calls.map Call.request).Nodup :=
  hFollows.isPrefix.sublist.nodup
    (nodup_script request _ _)

end PageRequest

end BuildForm

------------------------------------------------------------
-- Asking
------------------------------------------------------------

namespace BuildForm

namespace Page

open PageM

variable {σ : Type}
variable {service : Service σ}
variable {request : PageRequest}
variable {before : List Call}
variable {asked : List Request}
variable {record? : Option Configuration}
variable {copy? : Option (Option Configuration)}
variable {onPage : Page → Prop}

/-
  A session in which some requests were made since `before`,
  all of them answered, that told a record and a copy.
-/
structure Asked
    (before : List Call)
    (asked : List Request)
    (record? : Option Configuration)
    (copy? : Option (Option Configuration))
    (onPage : Page → Prop)
    (session : Session (List Call × σ)) : Prop where
  page : onPage session.page
  calls :
    ∃ made : List Call,
      session.state.1 = made.reverse ++ before ∧
        (∀ call ∈ made, call.fault? = none) ∧
        made.map Call.request = asked ∧
        made.findSome? Call.record? = record? ∧
        made.findSome? Call.copy? = copy?

/- A session in which the script was followed to some end. -/
def Ended
    (request : PageRequest)
    (before : List Call)
    (result : Except FormError Reply)
    (session : Session (List Call × σ)) : Prop :=
  ∃ made : List Call,
    session.state.1 = made.reverse ++ before ∧
      request.Follows made result

/- A session that was stopped on its way through the script. -/
abbrev Stopped
    (request : PageRequest)
    (before : List Call)
    (error : FormError) :
    Session (List Call × σ) → Prop :=
  Ended request before (.error error)

/-
  The next request of the script is made. If it is answered,
  the answer may tell the record or the copy.
-/
theorem Asked.triple_ask
    {next : Request}
    (hNext :
      asked ++ [next] <+: request.script record? copy?) :
    Triple (Asked before asked record? copy? onPage)
      (ask service.recorded next)
      (fun answer =>
        Asked before (asked ++ [next])
          (record?.or (Call.record? ⟨next, .ok answer⟩))
          (copy?.or (Call.copy? ⟨next, .ok answer⟩)) onPage)
      (Stopped request before) := by
  apply Triple.ask
  · rintro session answer state
      ⟨hPage, made, hCalls, hAnswered, rfl, rfl, rfl⟩ hAnswer
    refine ⟨hPage, made ++ [⟨next, .ok answer⟩], ?_, ?_⟩
    · rw [Service.calls_of_recorded hAnswer, hCalls]
      simp
    · refine ⟨?_, by simp, ?_, ?_⟩
      · intro call hCall
        rcases List.mem_append.mp hCall with hEarlier | hLast
        · exact hAnswered call hEarlier
        · rw [List.mem_singleton.mp hLast]
          rfl
      · rw [List.findSome?_append]
        simp
      · rw [List.findSome?_append]
        simp
  · rintro session error state
      ⟨_, made, hCalls, hAnswered, rfl, rfl, rfl⟩ hError
    refine ⟨made ++ [⟨next, .error error⟩], ?_, ?_⟩
    · rw [Service.calls_of_recorded hError, hCalls]
      simp
    · apply PageRequest.Follows.stopped made _ error rfl
        hAnswered rfl
      simpa [List.findSome?_append, Call.record?, Call.copy?]
        using hNext

/- A request the answer to which the script does not need. -/
theorem Asked.triple_ask_plain
    {next : Request}
    (hRecord :
      ∀ answer, Call.record? ⟨next, .ok answer⟩ = none)
    (hCopy : ∀ answer, Call.copy? ⟨next, .ok answer⟩ = none)
    (hNext :
      asked ++ [next] <+: request.script record? copy?) :
    Triple (Asked before asked record? copy? onPage)
      (ask service.recorded next)
      (fun _ =>
        Asked before (asked ++ [next]) record? copy? onPage)
      (Stopped request before) := by
  apply (Asked.triple_ask hNext).weaken
    (fun _ hSession => hSession)
  intro answer session hSession
  rw [hRecord, hCopy, Option.or_none, Option.or_none]
    at hSession
  exact hSession

/- The page of a request, whatever its form is like. -/
def IsFor (request : PageRequest) (page : Page) : Prop :=
  page.request = request

/- What is done to a form alone does not matter. -/
theorem Asked.triple_modifyForm
    {failed : FormError → Session (List Call × σ) → Prop}
    (change : Form → Form) :
    Triple
      (Asked before asked record? copy? (IsFor request))
      (modifyForm change)
      (fun _ =>
        Asked before asked record? copy? (IsFor request))
      failed :=
  Triple.modifyPage fun _ hSession =>
    ⟨hSession.page, hSession.calls⟩

/- A session that has only to ask for the rights of the user. -/
def Prepared
    (request : PageRequest)
    (before : List Call)
    (session : Session (List Call × σ)) : Prop :=
  ∃ asked record? copy?,
    request.script record? copy? = asked ++ [.isAdministrator] ∧
      Asked before asked record? copy? (IsFor request) session

theorem Prepared.triple_modifyPage
    {change : Page → Page}
    {failed : FormError → Session (List Call × σ) → Prop}
    (hChange : ∀ page, (change page).request = page.request) :
    Triple (Prepared request before) (modifyPage change)
      (fun _ => Prepared request before) failed := by
  apply Triple.modifyPage
  rintro session ⟨asked, record?, copy?, hScript, hSession⟩
  exact
    ⟨asked, record?, copy?, hScript,
      (hChange _).trans hSession.page, hSession.calls⟩

end Page

end BuildForm

------------------------------------------------------------
-- Loading a Stored Configuration
------------------------------------------------------------

namespace BuildForm

namespace Page

open PageM PageRequest

variable {σ : Type}
variable {service : Service σ}
variable {request : PageRequest}
variable {before : List Call}
variable {asked : List Request}
variable {name : String}
variable {record : Configuration}

/- A comparison asks what the script tells it to. -/
theorem triple_loadDifference_script
    (hScript :
      ∀ copy?,
        request.script (some record) copy? =
          asked ++ comparisonScript name copy?) :
    Triple
      (Asked before asked (some record) none (IsFor request))
      (loadDifference service.recorded name record)
      (fun _ => Prepared request before)
      (Stopped request before) := by
  have hApproved :
      asked ++ [.approved name] <+:
        request.script (some record) none := by
    rw [hScript]
    exact List.prefix_rfl
  unfold loadDifference
  apply Triple.bind (Asked.triple_ask hApproved)
  intro copy
  change
    Triple
      (Asked before (asked ++ [.approved name]) (some record)
        (some copy) (IsFor request))
      _ _ _
  dsimp only
  rw [Difference.hasApproved_between]
  apply Triple.ite
  · intro hNamed
    have hRest :
        request.script (some record) (some copy) =
          asked ++ [.approved name] ++ [.deletedViews name] ++
            [.isAdministrator] := by
      rw [hScript]
      dsimp only [comparisonScript]
      rw [if_pos hNamed]
      simp
    apply Triple.bind
      (Asked.triple_ask_plain (fun _ => rfl) (fun _ => rfl)
        (hRest ▸ List.prefix_append _ _))
    intro deleted
    apply Triple.bind (Asked.triple_modifyForm _)
    intro _
    apply Triple.modifyPage
    intro session hSession
    exact
      ⟨_, _, _, hRest, hSession.page, hSession.calls⟩
  · intro hNameless
    have hRest :
        request.script (some record) (some copy) =
          asked ++ [.approved name] ++ [.isAdministrator] := by
      rw [hScript]
      dsimp only [comparisonScript]
      rw [if_neg hNameless]
      simp
    apply Triple.modifyPage
    intro session hSession
    exact
      ⟨_, _, _, hRest, hSession.page, hSession.calls⟩

/- A record is compared unless it is approved. -/
theorem triple_compare_script
    (hScript :
      ∀ copy?,
        request.script (some record) copy? =
          asked ++
            if record.isApproved then
              [.isAdministrator]
            else
              comparisonScript name copy?) :
    Triple
      (Asked before asked (some record) none (IsFor request))
      (if (!record.isApproved) = true then
        loadDifference service.recorded name record
      else
        pure ())
      (fun _ => Prepared request before)
      (Stopped request before) := by
  apply Triple.ite
  · intro hPending
    apply triple_loadDifference_script
    intro copy?
    rw [hScript, if_neg (by simpa using hPending)]
  · intro hApproved
    apply Triple.pure
    intro session hSession
    refine ⟨_, _, _, ?_, hSession⟩
    rw [hScript, if_pos (by simpa using hApproved)]

theorem triple_loadContent_script
    (hName : request.name = some name) :
    Triple
      (Asked before [.views name, .users name] none none
        (IsFor request))
      (loadContent service.recorded name)
      (fun _ => Prepared request before)
      (Stopped request before) := by
  have hRecord :
      [.views name, .users name] ++ [.configuration name] <+:
        request.script none none := by
    rw [script_of_stored hName]
    exact List.prefix_rfl
  unfold loadContent
  apply Triple.bind (Asked.triple_ask hRecord)
  intro record
  change
    Triple
      (Asked before
        ([.views name, .users name] ++ [.configuration name])
        (some record) none (IsFor request))
      _ _ _
  apply Triple.bind (Asked.triple_modifyForm _)
  intro _
  cases hCreator : record.creator with
  | none =>
      apply triple_compare_script
      intro copy?
      rw [script_of_record hName, recordScript, hCreator]
      rfl
  | some creator =>
      have hScript :
          ∀ copy?,
            request.script (some record) copy? =
              [.views name, .users name] ++
                  [.configuration name] ++
                  [.fullName creator] ++
                if record.isApproved then
                  [.isAdministrator]
                else
                  comparisonScript name copy? := by
        intro copy?
        rw [script_of_record hName, recordScript, hCreator]
        rfl
      apply Triple.bind
        (Asked.triple_ask_plain (fun _ => rfl) (fun _ => rfl)
          (hScript none ▸ List.prefix_append _ _))
      intro fullName
      apply Triple.bind (Asked.triple_modifyForm _)
      intro _
      exact triple_compare_script hScript

/- The views and the users are asked for before the record. -/
theorem triple_openStored_script
    (hName : request.name = some name) :
    Triple (Asked before [] none none (IsFor request))
      (openStored service.recorded name)
      (fun _ => Prepared request before)
      (Stopped request before) := by
  have hScript := script_of_stored hName none
  have hViews :
      Triple (Asked before [] none none (IsFor request))
        (loadViews service.recorded name)
        (fun _ =>
          Asked before [.views name] none none (IsFor request))
        (Stopped request before) := by
    apply Triple.bind
      (Asked.triple_ask_plain (fun _ => rfl) (fun _ => rfl)
        (by simp [hScript]))
    intro loaded
    exact Asked.triple_modifyForm _
  have hUsers :
      Triple
        (Asked before [.views name] none none (IsFor request))
        (loadUsers service.recorded name)
        (fun _ =>
          Asked before [.views name, .users name] none none
            (IsFor request))
        (Stopped request before) := by
    apply Triple.bind
      (Asked.triple_ask_plain (fun _ => rfl) (fun _ => rfl)
        (by simp [hScript]))
    intro loaded
    exact Asked.triple_modifyForm _
  unfold openStored
  apply Triple.bind hViews
  intro _
  apply Triple.bind hUsers
  intro _
  apply Triple.bind (triple_loadContent_script hName)
  intro _
  refine Triple.bind (Prepared.triple_modifyPage ?_) ?_
  · exact fun _ => rfl
  · intro _
    exact Prepared.triple_modifyPage fun _ => rfl

end Page

end BuildForm

------------------------------------------------------------
-- Starting a New Configuration
------------------------------------------------------------

namespace BuildForm

namespace Page

open PageM PageRequest

variable {σ : Type}
variable {service : Service σ}
variable {request : PageRequest}
variable {before : List Call}
variable {asked : List Request}
variable {onPage : Page → Prop}
variable {failed : FormError → Session (List Call × σ) → Prop}

/- The page of a request, with a view among its views. -/
def HasView
    (request : PageRequest)
    (view : ViewId)
    (page : Page) : Prop :=
  page.request = request ∧
    ∃ shown ∈ page.form.views.items, shown.id = view

theorem Asked.triple_requireMutable
    (hMutable : request.mode.isMutable)
    (hPage : ∀ page, onPage page → page.request = request) :
    Triple (Asked before asked none none onPage)
      requireMutable
      (fun _ => Asked before asked none none onPage)
      failed := by
  apply Triple.readPage
  intro page
  apply Triple.ite
  · rintro hReadOnly session ⟨hSession, rfl⟩
    rw [Page.isMutable, hPage _ hSession.page, hMutable]
      at hReadOnly
    cases hReadOnly
  · intro _
    exact Triple.pure fun _ hSession => hSession.1

theorem Asked.triple_insertView
    {form : Form}
    (fragment : ViewFragment)
    (scm : Scm) :
    Triple
      (fun session =>
        Asked before asked none none (IsFor request) session ∧
          session.page.form = form)
      (modifyForm fun current =>
        { current with
          views := (form.views.insert fragment scm).2 })
      (fun _ =>
        Asked before asked none none
          (HasView request
            (form.views.insert fragment scm).1))
      failed := by
  apply Triple.modifyPage
  rintro session ⟨hSession, _⟩
  exact
    ⟨⟨hSession.page,
      Views.exists_inserted form.views fragment scm⟩,
      hSession.calls⟩

/- A view that is there gets its builder, if there is one. -/
theorem triple_addBuilder_script
    {view : ViewId}
    (hMutable : request.mode.isMutable)
    (hScript :
      request.script none none =
        asked ++ [.freshBuilder] ++ [.isAdministrator]) :
    Triple (Asked before asked none none (HasView request view))
      (addBuilder service.recorded view)
      (fun _ => Prepared request before)
      (Stopped request before) := by
  unfold addBuilder
  refine Triple.bind (Asked.triple_requireMutable hMutable ?_) ?_
  · exact fun _ hPage => hPage.1
  intro _
  apply Triple.bind
    (Asked.triple_ask_plain (fun _ => rfl) (fun _ => rfl)
      (hScript ▸ List.prefix_append _ _))
  intro fragment
  apply Triple.readForm
  intro form
  split
  · rename_i builder views _
    have hModify :
        Triple
          (fun session : Session (List Call × σ) =>
            Asked before (asked ++ [.freshBuilder]) none none
                (HasView request view) session ∧
              session.page.form = form)
          (modifyForm fun form => { form with views })
          (fun _ => Prepared request before)
          (Stopped request before) :=
      Triple.modifyPage fun _ hSession =>
        ⟨_, _, _, hScript, hSession.1.page.1,
          hSession.1.calls⟩
    apply Triple.bind hModify
    intro _
    exact Triple.pure fun _ hSession => hSession
  · rename_i hNone
    apply Triple.throw
    rintro session ⟨hSession, rfl⟩
    rcases hSession.page with ⟨_, shown, hShown, hId⟩
    exact
      absurd hId (Views.ne_of_amend_eq_none hNone shown hShown)

theorem triple_addView_script
    (hMutable : request.mode.isMutable)
    (hScript :
      request.script none none =
        asked ++ [.freshView] ++ [.freshBuilder] ++
          [.isAdministrator]) :
    Triple (Asked before asked none none (IsFor request))
      (addView service.recorded)
      (fun _ => Prepared request before)
      (Stopped request before) := by
  unfold addView
  refine Triple.bind (Asked.triple_requireMutable hMutable ?_) ?_
  · exact fun _ hPage => hPage
  intro _
  apply Triple.bind (Asked.triple_modifyForm _)
  intro _
  apply Triple.bind
    (Asked.triple_ask_plain (fun _ => rfl) (fun _ => rfl)
      (by simp [hScript]))
  intro fragment
  apply Triple.readForm
  intro form
  apply Triple.bind
    (Asked.triple_insertView fragment form.scmKind)
  intro _
  apply Triple.bind (triple_addBuilder_script hMutable hScript)
  intro builder session hPrepared
  rcases hPrepared with
    ⟨asked, record?, copy?, hScript, hSession⟩
  exact
    ⟨asked, record?, copy?, hScript, hSession.page,
      hSession.calls⟩

/- A new configuration gets its defaults and one view. -/
theorem triple_openNew_script
    (hName : request.name = none)
    (hMutable : request.mode.isMutable) :
    Triple (Asked before [] none none (IsFor request))
      (openNew service.recorded)
      (fun _ => Prepared request before)
      (Stopped request before) := by
  have hScript := script_of_new hName none none
  have hPage :
      Triple
        (Asked before [] none none (IsFor request))
        (getPage : PageM (List Call × σ) Page)
        (fun _ => Asked before [] none none (IsFor request))
        (Stopped request before) :=
    Triple.getPage fun _ hSession => hSession
  unfold openNew
  apply Triple.bind hPage
  intro page
  apply Triple.bind (Asked.triple_modifyForm _)
  intro _
  apply Triple.bind (Asked.triple_modifyForm _)
  intro _
  apply Triple.bind (Asked.triple_modifyForm _)
  intro _
  apply Triple.bind
    (Asked.triple_ask_plain (fun _ => rfl) (fun _ => rfl)
      (by simp [hScript]))
  intro defaults
  apply Triple.bind (Asked.triple_modifyForm _)
  intro _
  apply Triple.bind (triple_addView_script hMutable hScript)
  intro view
  exact Prepared.triple_modifyPage fun _ => rfl

end Page

end BuildForm

------------------------------------------------------------
-- Opening
------------------------------------------------------------

namespace BuildForm

namespace Page

open PageM PageRequest

variable {σ : Type}
variable {service : Service σ}
variable {request : PageRequest}
variable {before : List Call}

/- The rights of the user are asked for last. -/
theorem triple_rights_script :
    Triple (Prepared request before)
      (do
        let isAdmin : Bool ←
          ask service.recorded .isAdministrator
        modifyForm fun form => { form with isAdmin })
      (fun _ => Ended request before (.ok .done))
      (Stopped request before) := by
  apply Triple.ofExists
  intro asked
  apply Triple.ofExists
  intro record?
  apply Triple.ofExists
  intro copy?
  apply Triple.given
  intro hScript
  apply Triple.bind
    (Asked.triple_ask_plain (fun _ => rfl) (fun _ => rfl)
      (hScript ▸ List.prefix_rfl))
  intro isAdmin
  apply Triple.modifyPage
  intro session hSession
  rcases hSession.calls with
    ⟨made, hCalls, hAnswered, hMade, rfl, rfl⟩
  exact
    ⟨made, hCalls,
      .opened hAnswered (hMade.trans hScript.symm)⟩

theorem triple_init_script
    (hProper : request.IsProper) :
    Triple (Asked before [] none none (IsFor request))
      (init service.recorded)
      (fun _ => Ended request before (.ok .done))
      (Stopped request before) := by
  have hPage :
      Triple
        (Asked before [] none none (IsFor request))
        (getPage : PageM (List Call × σ) Page)
        (fun page session =>
          page.request = request ∧
            Asked before [] none none (IsFor request) session)
        (Stopped request before) :=
    Triple.getPage fun _ hSession => ⟨hSession.page, hSession⟩
  unfold init
  apply Triple.bind hPage
  intro page
  apply Triple.given
  rintro rfl
  dsimp only
  cases hName : page.request.name with
  | none =>
      have hMutable : page.request.mode.isMutable := by
        rw [hProper.mp hName]
        rfl
      apply Triple.bind (triple_openNew_script hName hMutable)
      intro _
      exact triple_rights_script
  | some name =>
      apply Triple.bind (triple_openStored_script hName)
      intro _
      exact triple_rights_script

end Page

namespace Session

open PageM Page

variable {σ : Type}

/-
  The calls that a page makes to open follow the script of
  its request, of which they ask nothing twice.
-/
theorem step_init_follows_script
    {query : String}
    {request : PageRequest}
    (hParse : PageRequest.parse query = .ok request)
    (service : Service σ)
    (session : Session (List Call × σ))
    (hRequest : session.page.request = request) :
    ∃ made : List Call,
      (step service.recorded session .init).2.state.1 =
          made.reverse ++ session.state.1 ∧
        request.Follows made
          (step service.recorded session .init).1 ∧
        (made.map Call.request).Nodup := by
  have hInit :
      Triple
        (Asked session.state.1 [] none none (IsFor request))
        (act service.recorded .init)
        (fun reply after =>
          reply = .done ∧
            Ended request session.state.1 (.ok .done) after)
        (Stopped request session.state.1) :=
    Triple.bind
      ((triple_init_script
          (PageRequest.isProper_of_parse hParse)).reportedAs
        fun _ _ hSession => hSession)
      fun _ => Triple.pure fun _ hSession => ⟨rfl, hSession⟩
  have hStart :=
    hInit session
      ⟨hRequest, [], rfl, by simp, rfl, rfl, rfl⟩
  unfold step
  rcases hPerform :
      (act service.recorded .init).perform session with
    ⟨result, after⟩
  rw [hPerform] at hStart
  cases result with
  | error error =>
      rcases hStart with ⟨made, hCalls, hFollows⟩
      exact ⟨made, hCalls, hFollows, hFollows.nodup⟩
  | ok reply =>
      rcases hStart with ⟨rfl, made, hCalls, hFollows⟩
      exact ⟨made, hCalls, hFollows, hFollows.nodup⟩

/- All is asked for a pending record with an approved copy. -/
theorem step_init_follows_script_pending :
    let store : Directory := { root := "store" }
    let pending : Tree :=
      .file (.text
        ("\x7b\"projectName\": \"core\"," ++
          "\"creator\": \"ann\"\x7d"))
    let copy : Tree :=
      .file (.text "\x7b\"projectName\": \"core\"\x7d")
    let tree : Tree :=
      .directory
        [("core", .directory
          [("config.json", pending),
            ("diff", .directory [("config.json", copy)])])]
    let request := PageRequest.opening .edit "core"
    let session := start request {} ([], tree)
    PageRequest.parse "?name=core&type=edit" = .ok request ∧
      session.page.request = request ∧
      (step store.service.recorded session
          .init).2.state.1.reverse.map Call.request =
        [.views "core", .users "core", .configuration "core",
          .fullName "ann", .approved "core",
          .deletedViews "core", .isAdministrator] ∧
      ∃ made : List Call,
        (step store.service.recorded session .init).2.state.1 =
            made.reverse ++ session.state.1 ∧
          request.Follows made
            (step store.service.recorded session .init).1 ∧
          (made.map Call.request).Nodup := by
  intro store pending copy tree request session
  have hParse :
      PageRequest.parse "?name=core&type=edit" =
        .ok request := by
    decide +kernel
  refine ⟨hParse, rfl, ?_, ?_⟩
  · decide +kernel
  · exact
      step_init_follows_script hParse store.service session rfl

end Session

end BuildForm
