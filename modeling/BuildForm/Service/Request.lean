import BuildForm.Service.Answer
import BuildForm.Service.Error

/-
  The requests that a page makes to the configuration
  service, and services as functions on their own state.

  Key definitions include:
    * `Request`
    * `Request.Answer`
    * `Service`
    * `Call`
    * `Service.recorded`
-/

namespace BuildForm

------------------------------------------------------------
-- Requests
------------------------------------------------------------

/- What a page may ask the service. -/
inductive Request where
  | newDefaults
  | configuration (name : String)
  | approved (name : String)
  | isAdministrator
  | fullName (user : String)
  | views (name : String)
  | deletedViews (name : String)
  | users (name : String)
  | freshView
  | freshBuilder
  | freshUser
  | isNameFree (name : String)
  | help (field : String)
  | judgeTrigger (expression : String)
  | submit (submission : Submission)
deriving DecidableEq, Repr

/- The type of the answer to a request. -/
abbrev Request.Answer : Request → Type
  | .newDefaults => NewDefaults
  | .configuration _ => Configuration
  | .approved _ => Option Configuration
  | .isAdministrator => Bool
  | .fullName _ => String
  | .views _ => LoadedViews
  | .deletedViews _ => LoadedViews
  | .users _ => LoadedUsers
  | .freshView => ViewFragment
  | .freshBuilder => Fragment
  | .freshUser => Fragment
  | .isNameFree _ => Bool
  | .help _ => String
  | .judgeTrigger _ => String
  | .submit _ => Unit

------------------------------------------------------------
-- Services
------------------------------------------------------------

/-
  A service answers each request or fails, and either way
  goes on in a state of its own.
-/
def Service (σ : Type) : Type :=
  (request : Request) →
    σ → Except ServiceError request.Answer × σ

/- A request with the outcome that it had. -/
structure Call where
  request : Request
  outcome : Except ServiceError request.Answer

/-
  The service that keeps a list of its calls, the latest one
  first, besides its own state.
-/
def Service.recorded
    {σ : Type}
    (service : Service σ) : Service (List Call × σ) :=
  fun request (calls, state) =>
    let (outcome, state) := service request state
    (outcome, ({ request, outcome } :: calls, state))

end BuildForm
