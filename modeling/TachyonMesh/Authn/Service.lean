import TachyonMesh.Authn.Effects

/-! # The component with its history

`serviceMachine` is the component together with the calls it has answered. Every pending
enrolment and every personal access token in its directory comes from a call in the
history.
-/

namespace TachyonMesh.Authn
open Foundation List

/-- A call, the state it met and its reply. -/
structure Exchange where
  before : AuthState
  request : Request
  reply : Reply

/-- The state with all exchanges so far. -/
structure Service where
  auth : AuthState
  history : List Exchange

def Service.start (state : AuthState) : Service := ⟨state, []⟩

def Service.exchange (env : Env) (service : Service) (request : Request) : Exchange :=
  ⟨service.auth, request, (handle env request.now request.call service.auth).2⟩

def Service.serve (env : Env) (service : Service) (request : Request) : Service :=
  ⟨(handle env request.now request.call service.auth).1,
    service.history ++ [service.exchange env request]⟩

def serviceMachine (env : Env) : Machine Service Request where
  step service request := some (service.serve env request)

/-- Pending enrolments and personal access tokens come from calls in the history. -/
structure Service.Traced (env : Env) (service : Service) : Prop where
  pendings : ∀ file pending, service.auth.pendingEnrollments.find file = some (.ok pending) →
    ∃ exchange ∈ service.history, StagedBy env exchange.request pending
  pats : ∀ file record pat, service.auth.users.find file = some (.ok record) →
    pat ∈ record.pats → ∃ exchange ∈ service.history, IssuedBy env exchange.request pat

variable {env : Env}

end TachyonMesh.Authn
