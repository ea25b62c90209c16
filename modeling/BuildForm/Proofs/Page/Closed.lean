import BuildForm.Proofs.Form.Lasting
import BuildForm.Proofs.Page.Altering
import BuildForm.Proofs.Page.Gestures

/-
  Properties of forms that survive the changes of an action.

  Such a property survives the action itself, whether that
  returns or fails. The service and what a page shows around
  its form have no part in this.

  Main declarations:
    * `Session.Bears`
    * `Page.Closed`
    * `Page.Closed.act`
    * `Page.Closed.act`
    * `Page.bears_respond`
    * `Page.closed_eachView`
    * `Page.eachView_respond_iff`
    * `Session.forall_moments_iff`
    * `Session.forall_moments`
-/

------------------------------------------------------------
-- Properties that Survive the Changes
------------------------------------------------------------

namespace BuildForm

/- A page with its options and its mode, and what its form is. -/
structure Session.Bears
    {σ : Type}
    (options : PageOptions)
    (mode : PageMode)
    (P : Form → Prop)
    (session : Session σ) : Prop where
  options : session.page.options = options
  mode : session.page.request.mode = mode
  form : P session.page.form

/- A property of forms that the changes of an action keep. -/
def Page.Closed
    {σ : Type}
    (service : Service σ)
    (options : PageOptions)
    (mode : PageMode)
    (action : Action)
    (P : Form → Prop) : Prop :=
  ∀ form after, P form →
    Alters service options mode action form after → P after

namespace Page

open PageM

variable {σ α : Type}
variable {service : Service σ}
variable {options : PageOptions}
variable {mode : PageMode}
variable {action : Action}
variable {P : Form → Prop}

/- The service has no part in what the form is. -/
theorem bears_ask
    (service : Service σ)
    (request : Request) :
    Keeps (Session.Bears options mode P)
      (PageM.ask service request) := by
  apply Triple.ask
  · intro session answer state hSession _
    exact ⟨hSession.options, hSession.mode, hSession.form⟩
  · intro session error state hSession _
    exact ⟨hSession.options, hSession.mode, hSession.form⟩

/- Nor has what the page shows around it. -/
theorem bears_mark
    {change : Page → Page}
    (hSame :
      ∀ page,
        (change page).options = page.options ∧
          (change page).request = page.request ∧
          (change page).form = page.form) :
    Keeps (Session.Bears options mode P)
      (modifyPage change : PageM σ Unit) := by
  apply Triple.modifyPage
  intro session hSession
  rcases hSame session.page with ⟨hOptions, hRequest, hForm⟩
  constructor
  · exact hOptions.trans hSession.options
  · exact (congrArg PageRequest.mode hRequest).trans hSession.mode
  · change P (change session.page).form
    rw [hForm]
    exact hSession.form

theorem bears_setStatus (status : StatusLine) :
    Keeps (Session.Bears options mode P)
      (setStatus status : PageM σ Unit) :=
  bears_mark fun _ => ⟨rfl, rfl, rfl⟩

theorem bears_reportedTo
    {attempt : PageM σ α}
    {after : α → Session σ → Prop}
    (hAttempt :
      Triple (Session.Bears options mode P) attempt after
        (fun _ => Session.Bears options mode P)) :
    Triple (Session.Bears options mode P) (reported attempt)
      after (fun _ => Session.Bears options mode P) :=
  Triple.reportedAs hAttempt fun _ _ hSession =>
    ⟨hSession.options, hSession.mode, hSession.form⟩

theorem bears_reported
    {attempt : PageM σ α}
    (hAttempt : Keeps (Session.Bears options mode P) attempt) :
    Keeps (Session.Bears options mode P) (reported attempt) :=
  bears_reportedTo hAttempt

theorem bears_modifyForm
    {change : Form → Form}
    (hChange : ∀ form, P form → P (change form)) :
    Keeps (Session.Bears options mode P)
      (modifyForm change : PageM σ Unit) :=
  Triple.modifyPage fun _ hSession =>
    ⟨hSession.options, hSession.mode,
      hChange _ hSession.form⟩

/- The form that is changed may be the one that was read. -/
theorem bears_readForm
    {next : Form → PageM σ α}
    (hNext :
      ∀ form,
        P form →
        Triple
          (fun session =>
            Session.Bears options mode P session ∧
              session.page.form = form)
          (next form) (fun _ => Session.Bears options mode P)
          (fun _ => Session.Bears options mode P)) :
    Keeps (Session.Bears options mode P)
      (PageM.getForm >>= next) := by
  apply Triple.readForm
  rintro form session ⟨hSession, rfl⟩
  exact hNext _ hSession.form session ⟨hSession, rfl⟩

theorem bears_onForm
    {change : Form → Except FormError α × Form}
    (hChange : ∀ form, P form → P (change form).2) :
    Keeps (Session.Bears options mode P)
      (onForm change : PageM σ α) := by
  apply Triple.onForm
  · intro session value form hSession hForm
    have hAfter := hChange _ hSession.form
    rw [hForm] at hAfter
    exact ⟨hSession.options, hSession.mode, hAfter⟩
  · intro session error form hSession hForm
    have hAfter := hChange _ hSession.form
    rw [hForm] at hAfter
    exact ⟨hSession.options, hSession.mode, hAfter⟩

/- The page that is read has the options and the mode. -/
theorem bears_getPage
    {next : Page → PageM σ α}
    (hNext :
      ∀ page,
        page.options = options →
        page.request.mode = mode →
        Keeps (Session.Bears options mode P) (next page)) :
    Keeps (Session.Bears options mode P)
      (PageM.getPage >>= next) := by
  apply Triple.readPage
  rintro page session ⟨hSession, rfl⟩
  exact
    hNext _ hSession.options hSession.mode session hSession

theorem bears_requireMutable_spec :
    Triple (Session.Bears options mode P)
      (PageM.requireMutable : PageM σ Unit)
      (fun _ session =>
        mode.isMutable ∧ Session.Bears options mode P session)
      (fun _ => Session.Bears options mode P) := by
  apply Triple.readPage
  intro page
  apply Triple.ite
  · intro _
    exact Triple.throw fun _ hSession => hSession.1
  · intro hMutable
    apply Triple.pure
    rintro session ⟨hSession, rfl⟩
    refine ⟨?_, hSession⟩
    simpa [Page.isMutable, hSession.mode] using hMutable

theorem bears_requireMutable
    {next : Unit → PageM σ α}
    (hNext :
      mode.isMutable →
      Keeps (Session.Bears options mode P) (next ())) :
    Keeps (Session.Bears options mode P)
      (PageM.requireMutable >>= next) :=
  Triple.bind bears_requireMutable_spec fun _ =>
    Triple.given hNext

theorem bears_whenMutable
    {attempt otherwise : PageM σ α}
    (hAttempt :
      mode.isMutable →
      Keeps (Session.Bears options mode P) attempt)
    (hOtherwise :
      Keeps (Session.Bears options mode P) otherwise) :
    Keeps (Session.Bears options mode P) (do
      if (← PageM.getPage).isMutable then
        attempt
      else
        otherwise) := by
  apply bears_getPage
  intro page _ hMode
  apply Triple.ite
  · intro hMutable
    apply hAttempt
    rwa [Page.isMutable, hMode] at hMutable
  · exact fun _ => hOtherwise

theorem bears_requireApproveReject
    {next : Unit → PageM σ α}
    (hNext :
      mode = .approveReject →
      Keeps (Session.Bears options mode P) (next ())) :
    Keeps (Session.Bears options mode P)
      (reported Page.requireApproveReject >>= next) := by
  have hGuard :
      Triple (Session.Bears options mode P)
        Page.requireApproveReject
        (fun _ session =>
          mode = .approveReject ∧
            Session.Bears options mode P session)
        (fun _ => Session.Bears (σ := σ) options mode P) := by
    apply Triple.readPage
    intro page
    apply Triple.ite
    · intro _
      exact Triple.throw fun _ hSession => hSession.1
    · intro hMode
      apply Triple.pure
      rintro session ⟨hSession, rfl⟩
      refine ⟨?_, hSession⟩
      simpa [hSession.mode] using hMode
  exact
    Triple.bind (bears_reportedTo hGuard) fun _ =>
      Triple.given hNext

namespace Closed

/- A change that is none of the inputs' is a quiet one. -/
theorem quiet
    (hP : Closed service options mode action P)
    {change : Form → Form}
    (hStep : ∀ form, Form.Step mode form (change form))
    (hSame : ∀ form : Form, (change form).inputs = form.inputs) :
    ∀ form, P form → P (change form) :=
  fun form hForm =>
    hP form _ hForm (.quiet (hStep form) (.of_eq (hSame form)))

theorem modifyQuiet
    (hP : Closed service options mode action P)
    {change : Form → Form}
    (hStep : ∀ form, Form.Step mode form (change form))
    (hSame : ∀ form : Form, (change form).inputs = form.inputs) :
    Keeps (Session.Bears options mode P)
      (modifyForm change : PageM σ Unit) :=
  bears_modifyForm (hP.quiet hStep hSame)

end Closed

end Page

end BuildForm

------------------------------------------------------------
-- Opening a Page
------------------------------------------------------------

namespace BuildForm

namespace Page

open PageM

variable {σ : Type}
variable {service : Service σ}
variable {options : PageOptions}
variable {mode : PageMode}
variable {action : Action}
variable {P : Form → Prop}

namespace Closed

theorem addBuilder
    (hP : Closed service options mode action P)
    {view : ViewId}
    (hAction : action.addsView ∨ action = .addBuilder view) :
    Keeps (Session.Bears options mode P)
      (Page.addBuilder service view) := by
  unfold Page.addBuilder
  apply bears_requireMutable
  intro hMutable
  apply Keeps.bind (bears_ask service .freshBuilder)
  intro fragment
  apply bears_readForm
  intro form hForm
  split
  · rename_i builder views hAdd
    have hViews :
        views =
          form.views.modify view fun entry =>
            (entry.pushBuilder fragment.html).2 := by
      have hAmend :
          (form.views.amend view fun entry =>
            entry.pushBuilder fragment.html) =
            some (builder, views) := hAdd
      rw [Views.modify_eq, hAmend]
      rfl
    have hAfter : P { form with views } := by
      rw [hViews]
      exact hP form _ hForm (.pushBuilder form _ _ hMutable hAction)
    refine Triple.bind ?_ fun _ => Keeps.pure builder
    apply Triple.modifyPage
    rintro session ⟨hSession, rfl⟩
    exact ⟨hSession.options, hSession.mode, hAfter⟩
  · exact Triple.throw fun _ hSession => hSession.1

theorem addView
    (hP : Closed service options mode action P)
    (hAction : action.addsView) :
    Keeps (Session.Bears options mode P)
      (Page.addView service) := by
  unfold Page.addView
  apply bears_requireMutable
  intro hMutable
  apply Keeps.bind
    (hP.modifyQuiet (fun form => .dropPrompt form hMutable)
      fun _ => rfl)
  intro _
  apply Keeps.bind (bears_ask service .freshView)
  intro fragment
  apply bears_readForm
  intro form hForm
  have hAfter := hP form _ hForm
    (.insert form fragment hMutable hAction)
  have hInsert :
      Triple
        (fun session =>
          Session.Bears options mode P session ∧
            session.page.form = form)
        (modifyForm fun current =>
          { current with
            views :=
              (form.views.insert fragment form.scmKind).2 })
        (fun _ => Session.Bears options mode P)
        (fun _ => Session.Bears (σ := σ) options mode P) := by
    apply Triple.modifyPage
    rintro session ⟨hSession, rfl⟩
    exact ⟨hSession.options, hSession.mode, hAfter⟩
  apply Triple.bind hInsert
  intro _
  apply Keeps.bind (hP.addBuilder (.inl hAction))
  intro _
  apply Keeps.bind Keeps.getForm
  intro _
  apply Keeps.bind (bears_setStatus _)
  intro _
  exact Keeps.pure _

/- What is loaded is a change of opening the page. -/
theorem modifyLoad
    (hP : Closed service options mode .init P)
    {change : Form → Form}
    (hLoad : ∀ form, Form.Load form (change form)) :
    Keeps (Session.Bears options mode P)
      (modifyForm change : PageM σ Unit) :=
  bears_modifyForm fun form hForm =>
    hP form _ hForm (.load (hLoad form))

theorem loadDifference
    (hP : Closed service options mode .init P)
    (name : String)
    (current : Configuration) :
    Keeps (Session.Bears options mode P)
      (Page.loadDifference service name current) := by
  have hDifference :
      ∀ difference : Difference,
        Keeps (Session.Bears options mode P)
          (modifyForm fun form => { form with difference } :
            PageM σ Unit) :=
    fun difference =>
      hP.modifyLoad fun form => .difference form difference
  unfold Page.loadDifference
  apply Keeps.bind (bears_ask service (.approved name))
  intro approved
  dsimp only
  apply Keeps.ite
  · apply Keeps.bind (bears_ask service (.deletedViews name))
    intro deleted
    apply Keeps.bind
      (hP.modifyLoad fun form => .deletedViews form _ _)
    intro _
    exact hDifference _
  · exact hDifference _

theorem loadContent
    (hP : Closed service options mode .init P)
    (name : String) :
    Keeps (Session.Bears options mode P)
      (Page.loadContent service name) := by
  unfold Page.loadContent
  apply Keeps.bind (bears_ask service (.configuration name))
  intro config
  apply Keeps.bind (hP.modifyLoad fun form => .record form config)
  intro _
  have hRest :
      Keeps (Session.Bears options mode P)
        (if (!config.isApproved) = true then
          Page.loadDifference service name config
        else
          pure ()) :=
    Keeps.ite (hP.loadDifference name config) (Keeps.pure ())
  dsimp only
  split
  · rename_i creator _
    apply Keeps.bind (bears_ask service (.fullName creator))
    intro fullName
    apply Keeps.bind
      (hP.modifyLoad fun form => .creatorName form fullName)
    intro _
    exact hRest
  · exact hRest

theorem openStored
    (hP : Closed service options mode .init P)
    (name : String) :
    Keeps (Session.Bears options mode P)
      (Page.openStored service name) := by
  unfold Page.openStored Page.loadViews Page.loadUsers
  apply Keeps.bind
  · apply Keeps.bind (bears_ask service (.views name))
    intro loaded
    exact hP.modifyLoad fun form => .views form loaded
  · intro _
    apply Keeps.bind
    · apply Keeps.bind (bears_ask service (.users name))
      intro loaded
      exact hP.modifyLoad fun form => .users form _ _
    · intro _
      apply Keeps.bind (hP.loadContent name)
      intro _
      apply Keeps.bind (hP.modifyLoad fun form => .stored form)
      intro _
      exact bears_setStatus _

theorem openNew (hP : Closed service options mode .init P) :
    Keeps (Session.Bears options mode P)
      (Page.openNew service) := by
  unfold Page.openNew
  apply Keeps.bind Keeps.getPage
  intro page
  apply Keeps.bind (hP.modifyLoad fun form => .new form)
  intro _
  apply Keeps.bind (hP.modifyLoad fun form => .newComments form)
  intro _
  apply Keeps.bind (hP.modifyLoad fun form => .newTrigger form _)
  intro _
  apply Keeps.bind (bears_ask service .newDefaults)
  intro defaults
  apply Keeps.bind
    (hP.modifyLoad fun form => .defaults form defaults)
  intro _
  apply Keeps.bind (hP.addView rfl)
  intro _
  exact bears_setStatus _

theorem init (hP : Closed service options mode .init P) :
    Keeps (Session.Bears options mode P)
      (Page.init service) := by
  have hAdministrator :
      Keeps (Session.Bears options mode P) (do
        let isAdmin : Bool ←
          PageM.ask service .isAdministrator
        modifyForm fun form => { form with isAdmin }) := by
    apply Keeps.bind (bears_ask service .isAdministrator)
    intro isAdmin
    exact hP.modifyLoad fun form => .administrator form isAdmin
  unfold Page.init
  apply Keeps.bind Keeps.getPage
  intro page
  dsimp only
  split
  · rename_i name _
    apply Keeps.bind (hP.openStored name)
    intro _
    exact hAdministrator
  · apply Keeps.bind hP.openNew
    intro _
    exact hAdministrator

end Closed

end Page

end BuildForm

------------------------------------------------------------
-- Editing a Page
------------------------------------------------------------

namespace BuildForm

namespace Page

open PageM

variable {σ α : Type}
variable {service : Service σ}
variable {options : PageOptions}
variable {mode : PageMode}
variable {action : Action}
variable {P : Form → Prop}

theorem bears_onViews
    (refused : α)
    {change : Views → α × Views}
    (hChange :
      mode.isMutable →
      ∀ form : Form,
        P form → P { form with views := (change form.views).2 }) :
    Keeps (Session.Bears options mode P)
      (Page.onViews refused change : PageM σ α) := by
  apply bears_whenMutable _ (Keeps.pure refused)
  intro hMutable
  exact bears_onForm (hChange hMutable)

namespace Closed

/- What the action makes of a view is what is made of it. -/
theorem onView
    (hP : Closed service options mode action P)
    {id : ViewId}
    {change : View → Bool × View}
    (hAction :
      action.change? options =
        some (id, fun view => (change view).2)) :
    Keeps (Session.Bears options mode P)
      (Page.onView id change : PageM σ Bool) := by
  apply bears_onViews
  intro hMutable form hForm
  have hViews :
      ((form.views.amend id change).getD (false, form.views)).2 =
        form.views.modify id fun view => (change view).2 := by
    rw [Views.modify_eq]
    cases form.views.amend id change <;> rfl
  rw [hViews]
  exact hP form _ hForm (.change form hMutable hAction)

theorem addPath
    {id : ViewId}
    {kind : SelectionKind}
    (hP : Closed service options mode (.addPath id kind) P) :
    Keeps (Session.Bears options mode P)
      (Page.addPath id kind : PageM σ Unit) := by
  unfold Page.addPath
  apply bears_requireMutable
  intro hMutable
  apply bears_onForm
  intro form hForm
  have hAfter := hP form _ hForm (.change form hMutable rfl)
  rw [Views.modify_eq] at hAfter
  split
  · rename_i result views hAmend
    rw [hAmend] at hAfter
    exact hAfter
  · exact hForm

theorem setOtherConfig
    {id : ViewId}
    {builder : BuilderId}
    {checked : Bool}
    (hP :
      Closed service options mode
        (.setOtherConfig id builder checked) P) :
    Keeps (Session.Bears options mode P)
      (Page.setOtherConfig id builder checked :
        PageM σ Bool) := by
  unfold Page.setOtherConfig
  apply hP.onView
  exact congrArg some (Prod.ext rfl (View.setOtherConfig_eq _ _))

theorem checkTrigger
    (hP : Closed service options mode action P)
    {path : FieldPath}
    (hAction : action = .checkTrigger path ∨ action = .submit) :
    Keeps (Session.Bears options mode P)
      (Page.checkTrigger service path) := by
  unfold Page.checkTrigger
  apply bears_readForm
  intro form hForm
  split
  · exact Triple.throw fun _ hSession => hSession.1
  · rename_i trigger hTrigger
    have hAsk :
        Triple
          (fun session =>
            Session.Bears options mode P session ∧
              session.page.form = form)
          (PageM.ask service (.judgeTrigger trigger.field.value))
          (fun answer session =>
            Session.Bears options mode P
              (session.withForm
                (session.page.form.mapTrigger path
                  fun trigger =>
                    { trigger with
                      check := some (.ofAnswer answer) })))
          (fun _ => Session.Bears options mode P) := by
      apply Triple.ask
      · rintro session answer state ⟨hSession, rfl⟩ hAnswer
        exact
          ⟨hSession.options, hSession.mode,
            hP _ _ hForm (.judge hAction hTrigger hAnswer)⟩
      · rintro session error state ⟨hSession, rfl⟩ _
        exact ⟨hSession.options, hSession.mode, hSession.form⟩
    apply Triple.bind hAsk
    intro answer
    refine Triple.bind ?_ fun _ => Keeps.pure _
    exact Triple.modifyPage fun _ hSession => hSession

theorem recheckTriggers
    (hP : Closed service options mode .submit P) :
    Keeps (Session.Bears options mode P)
      (Page.recheckTriggers service) := by
  have hOne :
      ∀ path,
        Keeps (Session.Bears options mode P)
          (Page.recheckTrigger service path) := by
    intro path
    unfold Page.recheckTrigger
    apply Keeps.bind Keeps.getForm
    intro form
    apply Keeps.ite
    · apply Keeps.bind (hP.checkTrigger (.inr rfl))
      intro _
      exact Keeps.pure ()
    · exact Keeps.pure ()
  exact Keeps.bind (hOne _) fun _ => hOne _

theorem toggleTriggerHelp
    (hP : Closed service options mode action P)
    (name : String) :
    Keeps (Session.Bears options mode P)
      (Page.toggleTriggerHelp service name) := by
  have hHelp :
      ∀ change : Form → HelpPanel,
        Keeps (Session.Bears options mode P)
          (modifyForm fun form =>
            { form with help := change form } : PageM σ Unit) :=
    fun change =>
      hP.modifyQuiet (fun form => .help form (change form))
        fun _ => rfl
  unfold Page.toggleTriggerHelp
  apply Keeps.bind Keeps.getForm
  intro form
  apply Keeps.ite
  · apply Keeps.bind (hHelp fun form => form.help.hideTrigger name)
    intro _
    exact Keeps.pure false
  · apply Keeps.bind
      (bears_reported (bears_ask service (.help name)))
    intro message
    apply Keeps.bind
      (hHelp fun form => form.help.showTrigger name message)
    intro _
    exact Keeps.pure true

theorem addUser (hP : Closed service options mode action P) :
    Keeps (Session.Bears options mode P)
      (Page.addUser service) := by
  unfold Page.addUser
  apply Triple.bind (bears_reportedTo bears_requireMutable_spec)
  intro _
  apply Triple.given
  intro hMutable
  apply Keeps.bind Keeps.getForm
  intro before
  apply Keeps.bind
    (hP.modifyQuiet (fun form => .takeUser form hMutable)
      fun _ => rfl)
  intro _
  apply Keeps.ite
  · exact Keeps.pure none
  · apply Keeps.bind
      (bears_reported (bears_ask service .freshUser))
    intro fragment
    exact
      bears_onForm
        (hP.quiet (fun form => .addUser form _ _ hMutable)
          fun _ => rfl)

theorem deleteUser
    (hP : Closed service options mode action P)
    (row : UInt32) :
    Keeps (Session.Bears options mode P)
      (Page.deleteUser row : PageM σ Bool) := by
  apply bears_whenMutable _ (Keeps.pure false)
  intro hMutable
  exact
    bears_onForm
      (hP.quiet (fun form => .deleteUser form row hMutable)
        fun _ => rfl)

end Closed

end Page

end BuildForm

------------------------------------------------------------
-- Sending and Rejecting
------------------------------------------------------------

namespace BuildForm

namespace Page

open PageM

variable {σ α : Type}
variable {service : Service σ}
variable {options : PageOptions}
variable {mode : PageMode}
variable {action : Action}
variable {P : Form → Prop}

theorem bears_requireUnsubmitted :
    Keeps (Session.Bears options mode P)
      (Page.requireUnsubmitted : PageM σ Unit) := by
  apply Keeps.bind Keeps.getPage
  intro page
  exact Keeps.ite (Keeps.throw _) (Keeps.pure ())

theorem bears_send :
    Keeps (Session.Bears options mode P)
      (Page.send service) := by
  have hMark :
      ∀ submitted,
        Keeps (Session.Bears options mode P)
          (Page.setSubmitted submitted : PageM σ Unit) :=
    fun _ => bears_mark fun _ => ⟨rfl, rfl, rfl⟩
  unfold Page.send
  apply Keeps.bind (hMark true)
  intro _
  apply Keeps.bind Keeps.getForm
  intro form
  apply Keeps.bind
  · apply Triple.tryCatch (bears_ask service _)
    intro error
    apply Keeps.bind (hMark false)
    intro _
    exact Keeps.throw error
  · intro _
    apply Keeps.bind (bears_setStatus _)
    intro _
    exact Keeps.pure _

namespace Closed

theorem sendWith
    (hP : Closed service options mode action P)
    (result : FormResult) :
    Keeps (Session.Bears options mode P)
      (Page.sendWith service result) := by
  unfold Page.sendWith
  apply Keeps.bind
    (hP.modifyQuiet (fun form => .result form result)
      fun _ => rfl)
  exact fun _ => bears_send

theorem sendChecked
    (hP : Closed service options mode action P)
    (outcome : FormCheck) :
    Keeps (Session.Bears options mode P)
      (Page.sendChecked service outcome) := by
  have hMessage :
      ∀ message : Option String,
        Keeps (Session.Bears options mode P)
          (modifyForm fun form =>
            { form with formMessage := message } :
              PageM σ Unit) :=
    fun message =>
      hP.modifyQuiet (fun form => .message form message)
        fun _ => rfl
  cases outcome with
  | blocked error => exact Keeps.throw error
  | ready => exact hP.sendWith .other
  | nameCheckRequired =>
      unfold Page.sendChecked
      apply Keeps.bind Keeps.getForm
      intro form
      apply Keeps.bind (bears_ask service _)
      intro isFree
      apply Keeps.ite
      · apply Keeps.bind (hMessage none)
        exact fun _ => hP.sendWith .create
      · apply Keeps.bind (hMessage _)
        exact fun _ => Keeps.throw _

theorem submit (hP : Closed service options mode .submit P) :
    Keeps (Session.Bears options mode P)
      (Page.submit service) := by
  rw [Page.submit_eq]
  apply Keeps.bind bears_requireUnsubmitted
  intro _
  have hCheck :
      Keeps (Session.Bears options mode P) (do
        let outcome ← PageM.onForm fun form =>
          (.ok form.check.1, form.check.2)
        Page.sendChecked service outcome) := by
    apply Keeps.bind
    · exact bears_onForm fun form hForm =>
        hP form _ hForm (.check form)
    · exact hP.sendChecked
  apply Keeps.bind Keeps.getPage
  intro page
  apply Keeps.ite
  · apply Keeps.bind hP.recheckTriggers
    exact fun _ => hCheck
  · exact hCheck

theorem openReject (hP : Closed service options mode action P) :
    Keeps (Session.Bears options mode P)
      (Page.openReject : PageM σ Unit) := by
  unfold Page.openReject
  apply bears_requireApproveReject
  intro hMode
  exact
    hP.modifyQuiet (fun form => .openReject form hMode)
      fun _ => rfl

theorem confirmReject
    (hP : Closed service options mode action P) :
    Keeps (Session.Bears options mode P)
      (Page.confirmReject service) := by
  unfold Page.confirmReject
  apply bears_requireApproveReject
  intro hMode
  apply Keeps.bind Keeps.getForm
  intro form
  apply Keeps.ite
  · apply Keeps.bind
      (hP.modifyQuiet (fun form => .focusReason form hMode)
        fun _ => rfl)
    exact fun _ => Keeps.pure none
  · apply Keeps.map _ some
    apply bears_reported
    apply Keeps.bind bears_requireUnsubmitted
    intro _
    apply Keeps.bind
      (hP.modifyQuiet (fun form => .reject form _ hMode)
        fun _ => rfl)
    exact fun _ => bears_send

/- What the changes of an action keep, the action keeps. -/
theorem act (hP : Closed service options mode action P) :
    Keeps (Session.Bears options mode P)
      (Page.act service action) := by
  cases action with
  | init =>
      exact (bears_reported hP.init).map fun _ => Reply.done
  | addView =>
      exact (bears_reported (hP.addView rfl)).map Reply.view
  | addBuilder view =>
      exact
        (bears_reported (hP.addBuilder (.inr rfl))).map
          Reply.builder
  | removeView view =>
      apply Keeps.map _ Reply.flag
      apply bears_onViews
      intro hMutable form hForm
      exact hP form _ hForm (.remove form view hMutable)
  | removeBuilder view builder =>
      exact (hP.onView rfl).map Reply.flag
  | selectCredentials view value =>
      exact (hP.onView rfl).map Reply.flag
  | rememberCredentials view =>
      apply Keeps.map _ Reply.credentials
      apply bears_onViews
      intro hMutable form hForm
      exact hP form _ hForm (.remember form view hMutable)
  | edit path value =>
      apply bears_getPage
      rintro page rfl _
      apply Keeps.map _ Reply.flag
      apply bears_reported
      exact bears_onForm fun form hForm =>
        hP form _ hForm (.edit form path value)
  | addPath view kind =>
      exact (bears_reported hP.addPath).map fun _ => Reply.done
  | press view kind key =>
      apply Keeps.map _ Reply.flag
      apply bears_getPage
      rintro page rfl _
      exact hP.onView rfl
  | setVersionFiles view enabled =>
      exact (hP.onView rfl).map Reply.flag
  | setOtherConfig view builder checked =>
      exact hP.setOtherConfig.map Reply.flag
  | checkTrigger path =>
      exact
        (bears_reported (hP.checkTrigger (.inl rfl))).map
          Reply.check
  | toggleHelp name =>
      apply Keeps.map _ Reply.flag
      exact
        bears_onForm
          (hP.quiet (fun form => .help form _)
            fun _ => rfl)
  | toggleTriggerHelp name =>
      exact (hP.toggleTriggerHelp name).map Reply.flag
  | addUser => exact hP.addUser.map Reply.row
  | deleteUser row => exact (hP.deleteUser row).map Reply.flag
  | submit =>
      exact (bears_reported hP.submit).map fun submission =>
        Reply.submission (some submission)
  | openReject => exact hP.openReject.map fun _ => Reply.done
  | confirmReject => exact hP.confirmReject.map Reply.submission
  | cancelReject =>
      apply Keeps.map _ fun _ => Reply.done
      exact
        hP.modifyQuiet (fun form => .cancelReject form)
          fun _ => rfl
  | cancel =>
      apply Keeps.map _ Reply.target
      apply Keeps.bind Keeps.getPage
      intro page
      apply Keeps.bind
      · exact bears_mark fun _ => ⟨rfl, rfl, rfl⟩
      · exact fun _ => Keeps.pure _

end Closed

end Page

end BuildForm

------------------------------------------------------------
-- Gestures and Views
------------------------------------------------------------

namespace BuildForm

namespace Page

open PageM

variable {σ : Type}
variable {service : Service σ}
variable {options : PageOptions}
variable {mode : PageMode}
variable {action : Action}

theorem bears_respond
    {P : Form → Prop}
    {gesture : Gesture}
    (hAct :
      ∀ action, gesture = .act action →
        Closed service options mode action P)
    (hTick :
      ∀ form after, P form → Form.Tick form after → P after) :
    Keeps (Session.Bears options mode P)
      (Page.respond service gesture) := by
  apply SurvivesTicks.respond
  · intro session form hSession hStep
    exact
      ⟨hSession.options, hSession.mode,
        hTick _ _ hSession.form hStep⟩
  · intro action hAction
    exact (hAct action hAction).act

/-
  An action that names no view to change keeps what new and
  stored views have, if typing does not take it away.
-/
theorem closed_eachView
    {P : View → Prop}
    (hP : View.Innate P)
    (hEdit :
      ∀ (form : Form) path value, form.EachView P →
        (form.edit path value options.autoValidate).2.EachView P)
    (hOther : action.change? options = none) :
    Closed service options mode action (·.EachView P) := by
  intro form after hEach hAlters
  cases hAlters with
  | load hLoad => exact hEach.load hP hLoad
  | insert _ fragment _ _ =>
      exact
        Views.forall_insert hP.select hEach
          (hP.fresh _ _ _ _)
  | pushBuilder _ id html _ _ =>
      apply hEach.modify id
      exact fun view hView => hP.pushBuilder view html hView
  | remove _ id _ =>
      intro view hView
      exact hEach view (List.mem_filter.mp hView).1
  | remember _ id _ =>
      intro view hView
      unfold Views.rememberCredentials at hView
      split at hView
      · exact hEach view hView
      · exact hEach view hView
  | change _ _ hChange =>
      rw [hOther] at hChange
      cases hChange
  | edit _ path value => exact hEdit form path value hEach
  | judge _ _ _ => exact hEach.mapTrigger _ _
  | check _ => exact hEach.check hP
  | quiet _ hSame =>
      intro view hView
      rw [hSame.views] at hView
      exact hEach view hView

/- A gesture changes the view that it names into another one. -/
def Changes
    (gesture : Gesture)
    (page : Page)
    (view after : View) : Prop :=
  ∃ action id change,
    gesture = .act action ∧
      action.change? page.options = some (id, change) ∧
      page.isMutable ∧
      page.form.views.view? id = some view ∧
      after = change view

/-
  A gesture keeps such a property of all views exactly if it
  keeps that of the view which it names, if it names one.
-/
theorem eachView_respond_iff
    {P : View → Prop}
    {session : Session σ}
    (hP : View.Innate P)
    (hEdit :
      ∀ (form : Form) path value, form.EachView P →
        (form.edit path value
          session.page.options.autoValidate).2.EachView P)
    (gesture : Gesture)
    (hViews : session.page.form.EachView P) :
    ((Page.respond service gesture).perform
        session).2.page.form.EachView P ↔
      ∀ view after, Changes gesture session.page view after →
        P after := by
  have hKept :
      (∀ action, gesture = .act action →
        action.change? session.page.options = none) →
      (((Page.respond service gesture).perform
          session).2.page.form.EachView P ↔
        ∀ view after, Changes gesture session.page view after →
          P after) := by
    intro hOther
    have hKeeps :
        Keeps
          (Session.Bears session.page.options
            session.page.request.mode (·.EachView P))
          (Page.respond service gesture) := by
      apply bears_respond
      · intro action hAction
        exact
          closed_eachView hP hEdit (hOther action hAction)
      · exact fun _ _ hEach hTick => hEach.tick hTick
    refine iff_of_true (hKeeps.perform ⟨rfl, rfl, hViews⟩).form ?_
    rintro view after ⟨action, id, change, hAction, hChange, -⟩
    rw [hOther action hAction] at hChange
    cases hChange
  cases gesture with
  | act action =>
      cases hNamed : action.change? session.page.options with
      | none =>
          apply hKept
          rintro other ⟨⟩
          exact hNamed
      | some named =>
          rcases named with ⟨id, change⟩
          have hAct :
              ((Page.respond service (.act action)).perform
                session).2.page.form = _ :=
            Session.form_act_of_change? hNamed
          have hIff :
              (∀ view after,
                Changes (.act action) session.page view after →
                  P after) ↔
                (session.page.isMutable →
                  ∀ view,
                    session.page.form.views.view? id =
                      some view →
                    P (change view)) := by
            constructor
            · intro hAll hMutable view hView
              exact
                hAll view _
                  ⟨action, id, change, rfl, hNamed, hMutable,
                    hView, rfl⟩
            · rintro hAll view _
                ⟨_, _, _, hSame, hChange, hMutable, hView, rfl⟩
              cases hSame
              rw [hNamed] at hChange
              cases hChange
              exact hAll hMutable view hView
          rw [hAct, hIff]
          by_cases hMutable : session.page.isMutable
          · rw [if_pos hMutable, hViews.modify_iff,
              forall_prop_of_true hMutable]
          · rw [if_neg hMutable]
            exact
              iff_of_true hViews fun hOther =>
                absurd hOther hMutable
  | _ => exact hKept (by simp)

end Page

end BuildForm

------------------------------------------------------------
-- Moments of a Run
------------------------------------------------------------

namespace BuildForm

namespace Session

variable {σ : Type}
variable {service : Service σ}

/-
  If a gesture takes away what a session has exactly where it
  breaks it, then a session has it at every moment of a run
  exactly if no gesture of the run breaks it.
-/
theorem forall_moments_iff
    (base good : Session σ → Prop)
    (breaks : Gesture → Session σ → Prop)
    {gestures : List Gesture}
    (hBase :
      ∀ gesture ∈ gestures, ∀ session, base session →
        base ((Page.respond service gesture).perform session).2)
    (hStep :
      ∀ gesture ∈ gestures, ∀ session, base session →
        good session →
        (good
            ((Page.respond service gesture).perform
              session).2 ↔
          ¬breaks gesture session))
    {session : Session σ}
    (hSession : base session)
    (hGood : good session) :
    (∀ before after, gestures = before ++ after →
        good (play service session before)) ↔
      ∀ before gesture after,
        gestures = before ++ gesture :: after →
        ¬breaks gesture (play service session before) := by
  induction gestures generalizing session with
  | nil =>
      constructor
      · intro _ before gesture after hSplit
        simp at hSplit
      · intro _ before after hSplit
        rw [(List.nil_eq_append_iff.mp hSplit).1]
        exact hGood
  | cons gesture gestures ih =>
      have hFirst := hStep gesture (by simp) session hSession hGood
      have hNext := hBase gesture (by simp) session hSession
      have hRest :=
        ih (fun other hOther => hBase other (by simp [hOther]))
          (fun other hOther => hStep other (by simp [hOther]))
          hNext
      constructor
      · intro hMoments
        have hKept :=
          hMoments [gesture] gestures rfl
        intro before other after hSplit
        rcases List.cons_eq_append_iff.mp hSplit with
          ⟨rfl, hHead⟩ | ⟨before, rfl, hTail⟩
        · cases hHead
          exact hFirst.mp hKept
        · refine (hRest hKept).mp ?_ before other after hTail
          rintro first second rfl
          exact hMoments (gesture :: first) second rfl
      · intro hNone before after hSplit
        have hKept := hFirst.mpr (hNone [] gesture gestures rfl)
        rcases List.cons_eq_append_iff.mp hSplit with
          ⟨rfl, hHead⟩ | ⟨before, rfl, hTail⟩
        · exact hGood
        · refine (hRest hKept).mpr ?_ before after hTail
          rintro first other second rfl
          exact hNone (gesture :: first) other second rfl

/- What no gesture takes away is there at every moment. -/
theorem forall_moments
    (good : Session σ → Prop)
    {gestures : List Gesture}
    (hKept :
      ∀ gesture ∈ gestures, ∀ session, good session →
        good ((Page.respond service gesture).perform session).2)
    {session : Session σ}
    (hGood : good session) :
    ∀ before after, gestures = before ++ after →
      good (play service session before) := by
  have hNever :=
    forall_moments_iff good good
      (fun _ _ => False) hKept
      (fun gesture hGesture current hCurrent _ =>
        iff_of_true (hKept gesture hGesture current hCurrent)
          not_false)
      hGood hGood
  exact hNever.mpr fun _ _ _ _ => not_false

/- The moments of a run are counted by its gestures. -/
theorem forall_moments_of_take
    {gestures : List Gesture}
    {P : List Gesture → Prop}
    (hTake :
      ∀ count ≤ gestures.length, P (gestures.take count)) :
    ∀ before after, gestures = before ++ after → P before := by
  intro before after hSplit
  have hTaken := hTake before.length
  rw [hSplit, List.take_left, List.length_append] at hTaken
  exact hTaken (Nat.le_add_right _ _)

end Session

end BuildForm
