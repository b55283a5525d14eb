import TachyonMesh.Dispatch.Execution
import TachyonMesh.Foundation.Outcome

/-! # What calls write

Whatever target, middleware, retry or buffer a call goes through, what it appends to
the journal is one of a few notes. The calls are followed here once, for any condition
`justified` on an entry and the entries before it: as long as the notes that a call may
make are justified, so is what the whole call leaves behind.
-/

namespace TachyonMesh.Dispatch
open Foundation Program

/-- What a forwarder sends to the peer. -/
def Call.message (call : Call) (destination : String) : OutboundRequest :=
  { url := destination
    method := call.request.method
    headers := forwardedHeaders call.request.headers call.hopLimit
    body := call.request.body }

/-- The notes of a call that gets as far as its guest or the buffer are justified. -/
structure Call.MayRun (host : Host) (justified : Journal → Entry → Prop) (call : Call)
    (journal : Journal) : Prop where
  microvm : call.route.microvm → ∀ module,
    justified journal ⟨call.ticket, .guestRan (call.guestRun module .microvm)⟩
  runner : ∀ module runner, runnerFor host call.route = .ok runner →
    justified journal ⟨call.ticket, .guestRan (call.guestRun module runner)⟩
  buffer : ∀ module, justified journal ⟨call.ticket, .enqueued
    { routePath := call.route.path, selectedModule := module, request := call.request,
      hopLimit := call.hopLimit }⟩

/-- The other notes of a call are justified whenever it makes them. -/
structure Call.MayNote (justified : Journal → Entry → Prop) (call : Call) : Prop where
  forwarded : ∀ journal destination,
    justified journal ⟨call.ticket, .forwarded call.hopLimit (call.message destination)⟩
  limiter : ∀ journal check reply, justified journal ⟨call.ticket, .limiterAnswered check reply⟩
  shadowed : ∀ journal event, justified journal ⟨call.ticket, .shadowed event⟩

def Call.toMiddleware (call : Call) (route : IntegrityRoute) : Call :=
  { call with ticket := { call.ticket with purpose := .middleware }, route }

/-- The middleware that the call's route names has answered with 200. -/
def Call.Answered (call : Call) (journal : Journal) : Prop :=
  ∀ name, call.route.middleware = some name →
    ⟨{ call.ticket with purpose := .middleware }, .middlewareAnswered name 200⟩ ∈ journal

/-- Calls to the route are put to the limiter: the route has a limit, and the limiter is
sealed. -/
def IntegrityRoute.limited (host : Host) (route : IntegrityRoute) : Bool :=
  route.distributedRateLimit.isSome && (host.config.sealedRoute systemDistLimiterRoute).isSome

/-- The limiter was asked about the call, under a key of the route, and did not refuse it. -/
def Passed (host : Host) (ticket : Ticket) (route : IntegrityRoute) (journal : Journal) : Prop :=
  route.limited host → ∃ headers check reply, limiterQuestion host route headers = some check ∧
    ⟨ticket, .limiterAnswered check reply⟩ ∈ journal ∧ reply.refuses = false

/-- The notes of a call and of the call to its middleware are justified; the call's guest may
count on the middleware's answer and on the limiter, the middleware's guest on the limiter. -/
structure Call.Endorsed (host : Host) (justified : Journal → Entry → Prop) (call : Call) :
    Prop where
  notes : call.MayNote justified
  target : ∀ journal, call.Answered journal → Passed host call.ticket call.route journal →
    call.MayRun host justified journal
  asks : ∀ route, (call.toMiddleware route).MayNote justified
  middleware : ∀ name route journal, call.route.middleware = some name →
    middlewareRoute host name = .ok route →
    Passed host { call.ticket with purpose := .middleware } route journal →
    (call.toMiddleware route).MayRun host justified journal
  answered : ∀ journal name status, justified journal
    ⟨{ call.ticket with purpose := .middleware }, .middlewareAnswered name status⟩

/-- Every attempt of the call is endorsed. -/
def Call.Retried (host : Host) (justified : Journal → Entry → Prop) (call : Call) : Prop :=
  ∀ attempt, ({ call with ticket := { call.ticket with attempt } } : Call).Endorsed host justified

section
variable {host : Host} {route : IntegrityRoute} {headers : HeaderMap} {reply : LimiterReply}

private theorem not_refuses_of_enforce {check : Body}
    (asked : limiterQuestion host route headers = some check)
    (allowed : enforceDistributedRateLimit host route headers reply = none) :
    reply.refuses = false := by
  unfold limiterQuestion at asked
  unfold enforceDistributedRateLimit at allowed
  split at asked
  · next policy _ limit sealed =>
    obtain ⟨key, named, -⟩ := Option.map_eq_some_iff.mp asked
    cases keyed : distributedRateLimitKey host policy headers route.path with
    | error => simp [keyed, Except.toOption] at named
    | ok =>
      rw [limit] at allowed
      dsimp only at allowed
      rw [sealed] at allowed
      dsimp only at allowed
      rw [keyed] at allowed
      cases reply with
      | answered status member =>
        cases member <;> simp_all [distributedRateLimitDecision, LimiterReply.refuses]
      | _ => rfl
  · cases asked

/-- A limited call whose limiter is not asked is refused: it has no key. -/
private theorem refused_of_not_asked (limited : route.limited host)
    (unasked : limiterQuestion host route headers = none) :
    ∃ rejection, enforceDistributedRateLimit host route headers reply = some rejection := by
  obtain ⟨limit, sealed⟩ := (Bool.and_eq_true _ _).mp limited
  obtain ⟨policy, limit⟩ := Option.isSome_iff_exists.mp limit
  obtain ⟨_, sealed⟩ := Option.isSome_iff_exists.mp sealed
  unfold limiterQuestion at unasked
  unfold enforceDistributedRateLimit
  rw [limit, sealed] at unasked
  rw [limit]
  dsimp only at unasked ⊢
  rw [sealed]
  dsimp only
  cases keyed : distributedRateLimitKey host policy headers route.path with
  | error message => exact ⟨_, rfl⟩
  | ok =>
    rw [keyed] at unasked
    cases unasked

end

variable {host : Host} {justified : Journal → Entry → Prop} {start journal : Journal}
  {call : Call} {ε α : Type} {module : String}

/-- However the program ends, the journal goes on from `start` with justified entries. -/
abbrev Adds (justified : Journal → Entry → Prop) (start : Journal) (program : Program Journal ε α)
    (journal : Journal) : Prop :=
  Ensures (Continues justified start) program journal

section
variable (held : Continues justified start journal)
include held

private theorem forward_adds {destination : String} (forwards : justified journal
      ⟨call.ticket, .forwarded call.hopLimit (call.message destination)⟩) (peer : PeerOutcome)
    (build : Nat → HeaderMap → String → GuestHttpResponse) (failure : String → Rejection)
    (timedOut : Rejection) :
    Adds justified start (forward call destination peer build failure timedOut) journal := by
  apply Ensures.note held forwards
  intro written
  cases peer with
  | replied => exact .pure written _
  | failed | handshakeTimedOut => exact .fail written _

section
variable (notes : call.MayNote justified)
include notes

private theorem forwardOverflow_adds (destination : String) (peer : PeerOutcome)
    (streaming : Bool) :
    Adds justified start (forwardOverflow call destination peer streaming) journal := by
  unfold forwardOverflow
  split <;> exact forward_adds held (notes.forwarded journal destination) peer _ _ _

private theorem enforceResourceAdmission_wp (outcomes : CallOutcomes) (streaming : Bool) :
    (enforceResourceAdmission outcomes call streaming).wp
      (fun admitted reached => Continues justified start reached ∧
        (admitted = none → reached = journal))
      (fun _ => Continues justified start) journal := by
  have goOn : ∀ admitted, (pure admitted : Action (Option GuestHttpResponse)).wp
      (fun admitted reached => Continues justified start reached ∧
        (admitted = none → reached = journal))
      (fun _ => Continues justified start) journal :=
    fun admitted => (wp_pure admitted).mpr ⟨held, fun _ => rfl⟩
  unfold enforceResourceAdmission
  split
  · exact goOn none
  dsimp only
  split
  · exact goOn none
  split
  · apply wp_ofExcept_bind (fun _ _ => held)
    intro _ _
    split
    · apply wp_bind_intro (forwardOverflow_adds held notes _ _ _)
      intro response reached kept
      exact (wp_pure _).mpr ⟨kept, by simp⟩
    · exact goOn _
  · exact goOn _

end

section
variable (outcomes : CallOutcomes) (may : call.MayRun host justified journal)
include outcomes may

private theorem runInMicrovm_adds (inMicrovm : call.route.microvm) (module : String) :
    Adds justified start (runInMicrovm outcomes call module) journal := by
  apply Ensures.check held
  intro _ _
  apply Ensures.note held (may.microvm inMicrovm module)
  intro written
  exact .done (.ofExcept written _)

private theorem runWithRunner_adds (module : String) :
    Adds justified start (runWithRunner host outcomes call module) journal := by
  apply Ensures.check held
  intro _ _
  apply Ensures.check held
  intro runner chosen
  apply Ensures.note held (may.runner module runner chosen)
  intro written
  apply Ensures.check written
  intro _ _
  exact .done (.ofExcept written _)

private theorem acquiredPermit_adds (module : String) :
    Adds justified start (executeRouteRequestWithAcquiredPermit host outcomes call module)
      journal := by
  apply Ensures.check held
  intro _ _
  apply Ensures.check held
  intro _ _
  split
  · next inMicrovm => exact runInMicrovm_adds held outcomes may inMicrovm module
  · exact runWithRunner_adds held outcomes may module

private theorem bufferRequest_adds (module : String) :
    Adds justified start (bufferRequest outcomes call module) journal := by
  apply Ensures.check held
  intro _ _
  apply Ensures.note held (may.buffer module)
  intro written
  split
  · exact .done (.ofExcept written _)
  · exact .fail written _
  · exact .fail written _

end

section
variable (notes : call.MayNote justified) (outcomes : CallOutcomes)
include notes

private theorem acquireAndRun_adds (may : call.MayRun host justified journal) (module : String)
    (streaming : Bool) :
    Adds justified start (acquireAndRun host outcomes call module streaming) journal := by
  unfold acquireAndRun
  split
  · exact .fail held _
  · exact acquiredPermit_adds held outcomes may module
  · exact .fail held _
  apply Ensures.check held
  intro destination _
  cases destination with
  | some destination => exact forwardOverflow_adds held notes destination _ streaming
  | none => exact .guard held fun _ => bufferRequest_adds held outcomes may module

/-- Behind the limiter, the limiter was asked if the route is limited, and did not refuse. -/
theorem passLimiter_wp :
    (passLimiter host outcomes call).wp
      (fun _ reached => Continues justified start reached ∧ journal ⊆ reached ∧
        Passed host call.ticket call.route reached)
      (fun _ => Continues justified start) journal := by
  have asks : (askLimiter host outcomes call).wp
      (fun _ reached => Continues justified start reached ∧ journal ⊆ reached ∧
        (enforceDistributedRateLimit host call.route call.request.headers outcomes.limiter =
          none → Passed host call.ticket call.route reached))
      (fun _ => Continues justified start) journal := by
    unfold askLimiter
    split
    · next check asked =>
      refine (wp_record _).mpr ⟨held.record (notes.limiter journal check _),
        List.subset_append_left _ _, fun allowed _ => ?_⟩
      exact ⟨_, check, _, asked, List.mem_append_right _ List.mem_cons_self,
        not_refuses_of_enforce asked allowed⟩
    · next unasked =>
      refine (wp_pure _).mpr ⟨held, List.Subset.refl _, fun allowed limited => ?_⟩
      obtain ⟨_, refused⟩ := refused_of_not_asked limited unasked
      cases refused.symm.trans allowed
  apply wp_bind_intro asks
  rintro _ reached ⟨held, grown, passed⟩
  split
  · exact (wp_fail _).mpr held
  · next allowed => exact (wp_pure _).mpr ⟨held, grown, passed allowed⟩

private theorem executeRouteRequest_adds
    (may : ∀ reached, journal ⊆ reached → Passed host call.ticket call.route reached →
      call.MayRun host justified reached)
    (selected : Option String) (streaming : Bool) :
    Adds justified start (executeRouteRequest host outcomes call selected streaming) journal := by
  apply Ensures.guard held
  intro _
  apply wp_bind_intro (passLimiter_wp held notes outcomes)
  rintro _ reached ⟨held, grown, passed⟩
  have may := may reached grown passed
  apply Ensures.check held
  intro module _
  apply wp_bind_intro (enforceResourceAdmission_wp held notes outcomes streaming)
  rintro admitted _ ⟨held, unchanged⟩
  cases admitted with
  | some response => exact Ensures.pure held response
  | none =>
    cases unchanged rfl
    dsimp only
    split
    · exact Ensures.pure held _
    · exact acquireAndRun_adds held notes outcomes may _ streaming

end

/-! ## Middleware and retries -/

private theorem shadowedRequest_adds (notes : call.MayNote justified) (outcomes : CallOutcomes)
    (may : ∀ reached, journal ⊆ reached → Passed host call.ticket call.route reached →
      call.MayRun host justified reached)
    (selected : Option String) (streaming : Bool) :
    Adds justified start (executeShadowedRequest host outcomes call selected streaming)
      journal := by
  apply Ensures.bind (executeRouteRequest_adds held notes outcomes may selected streaming)
  intro response reached held
  have copied : Adds justified start (spawnShadowTrafficTask host call response) reached := by
    unfold spawnShadowTrafficTask
    split
    · split
      · exact (wp_record _).mpr (held.record (notes.shadowed reached _))
      · exact .pure held _
    · exact .pure held _
  exact .done copied

private theorem middlewareInner_adds (outcomes : AttemptOutcomes)
    (endorsed : call.Endorsed host justified)
    (selected : Option String) (streaming : Bool) :
    Adds justified start (executeRouteWithMiddlewareInner host outcomes call selected streaming)
      journal := by
  unfold executeRouteWithMiddlewareInner
  split
  · next unguarded =>
    refine shadowedRequest_adds held endorsed.notes _ (fun reached _ passed => ?_) _ _
    exact endorsed.target reached (fun name named => by simp [unguarded] at named) passed
  · next name guarded =>
    apply Ensures.check held
    intro route found
    apply Ensures.bind (executeRouteRequest_adds held (endorsed.asks route) _
      (fun reached _ => endorsed.middleware name route reached guarded found) none false)
    intro response reached held
    apply Ensures.note held (endorsed.answered reached name response.status)
    intro held
    split
    · next accepted =>
      refine shadowedRequest_adds held endorsed.notes _ (fun later grown passed => ?_) _ _
      refine endorsed.target later (fun other same => ?_) passed
      cases guarded.symm.trans same
      rw [← accepted]
      exact grown (List.mem_append_right _ List.mem_cons_self)
    · exact .pure held response

section
variable (endorsed : call.Retried host justified)
  (outcomes : DispatchOutcomes) (selected : Option String) (streaming : Bool)
include endorsed

private theorem attemptRoute_adds (timeoutMs : Option Nat) (attempt : Nat) :
    Adds justified start (attemptRoute host outcomes call selected streaming timeoutMs attempt)
      journal := by
  have inner := middlewareInner_adds held (outcomes.attempts attempt) (endorsed attempt) selected
    streaming
  unfold attemptRoute
  split
  · exact .interrupt held inner _ _
  · exact inner

private theorem retryRoute_adds (timeoutMs : Option Nat) (retryOn : List Nat)
    (retries attempt : Nat) :
    Adds justified start (retryRoute host outcomes call selected streaming timeoutMs retryOn
      retries attempt) journal := by
  induction retries generalizing attempt journal with
  | zero => exact attemptRoute_adds held endorsed outcomes selected streaming timeoutMs attempt
  | succ _ ih =>
    apply Ensures.bind
      (attemptRoute_adds held endorsed outcomes selected streaming timeoutMs attempt)
    intro response reached held
    split
    · exact ih held (attempt + 1)
    · exact .pure held response

private theorem routeArc_adds :
    Adds justified start (executeRouteArcWithMiddleware host outcomes call selected streaming)
      journal := by
  unfold executeRouteArcWithMiddleware
  split
  · exact attemptRoute_adds held endorsed outcomes selected streaming none 0
  · exact retryRoute_adds held endorsed outcomes selected streaming _ _ _ 0

end

/-! ## Event streams and WebSockets -/

section
variable (notes : call.MayNote justified) (outcomes : DispatchOutcomes)
include notes

private theorem admitStream_adds (retryOn : List Nat) (retries round : Nat) :
    Adds justified start (admitStream outcomes call retryOn retries round) journal := by
  have checked : ∀ round {journal}, Continues justified start journal →
      Adds justified start (enforceResourceAdmission (outcomes.attempts round).route call true)
        journal :=
    fun round _ held => wp_mono (enforceResourceAdmission_wp held notes _ true)
      (fun _ _ kept => kept.1) (fun _ _ kept => kept)
  induction retries generalizing round journal with
  | zero => exact checked round held
  | succ _ ih =>
    apply Ensures.bind (checked round held)
    intro admitted reached held
    cases admitted with
    | none => exact .pure held none
    | some =>
      dsimp only
      split
      · exact ih held (round + 1)
      · exact .pure held _

private theorem overflowStream_adds (retryOn : List Nat) (retries round : Nat) :
    Adds justified start (overflowStream outcomes call retryOn retries round) journal := by
  induction retries generalizing round journal with
  | zero =>
    unfold overflowStream
    apply Ensures.check held
    intro _ _
    split
    · exact .fail held _
    · exact .done (forward_adds held (notes.forwarded _ _) _ _ _ _)
  | succ _ ih =>
    unfold overflowStream
    apply Ensures.check held
    intro _ _
    split
    · exact .fail held _
    apply Ensures.bind (forward_adds held (notes.forwarded _ _) _ _ _ _)
    intro response reached held
    dsimp only
    split
    · exact ih held (round + 1)
    · exact .pure held response

private theorem handleStreamingHttpRequest_adds
    (runs : ∀ journal, justified journal ⟨call.ticket, .guestRan (call.streamingRun module)⟩) :
    Adds justified start (handleStreamingHttpRequest host outcomes call module) journal := by
  apply Ensures.bind (admitStream_adds held notes outcomes _ _ 0)
  intro admitted reached held
  cases admitted with
  | some response => exact .pure held response
  | none =>
    apply Ensures.check held
    intro _ _
    split
    · exact .fail held _
    · exact .fail held _
    · split
      · exact overflowStream_adds held notes outcomes _ _ 0
      · exact .fail held _
    · apply Ensures.note held (runs reached)
      intro held
      exact .ofExcept held _

end

private theorem handleWebsocketConnection_adds (outcomes : CallOutcomes)
    (runs : ∀ journal, justified journal ⟨call.ticket, .guestRan (call.websocketRun module)⟩) :
    Adds justified start (handleWebsocketConnection outcomes call module) journal := by
  apply Ensures.check held
  intro _ _
  split
  · exact (wp_record _).mpr (held.record (runs journal))
  · exact .fail held _
  · exact .fail held _
  · exact .fail held _

end

/-! ## Arrivals and replays -/

/-- The call goes to the route that an override names. -/
def Call.overridden (call : Call) (route : IntegrityRoute) : Call :=
  { call with
    route
    request := { call.request with
      headers := cloneHeadersWithOriginalRoute call.request.headers call.route } }

/-- What the host writes for a decision is justified. -/
def FaasDecision.Endorsed (host : Host) (justified : Journal → Entry → Prop)
    (callTo : IntegrityRoute → Call) : FaasDecision → Prop
  | .reply _ | .inferenceJob => True
  | .overridden route destination => (callTo route).MayNote justified ∧ ∀ target,
      host.config.registeredRoute (normalizeRoutePath destination) = some target →
        ((callTo route).overridden target).Retried host justified
  | .websocket route module => ∀ journal,
      justified journal ⟨(callTo route).ticket, .guestRan ((callTo route).websocketRun module)⟩
  | .streaming route module => (callTo route).MayNote justified ∧ ∀ journal,
      justified journal ⟨(callTo route).ticket, .guestRan ((callTo route).streamingRun module)⟩
  | .buffered route _ => (callTo route).Retried host justified

/-- The run of the registry for an enrollment start. -/
def registryRun (body : Body) : GuestRun :=
  { route := nodeRegistryRoute
    module := nodeRegistryModule
    runner := .engine
    request := some { method := "POST", uri := enrollmentStartRoute, headers := .empty, body }
    contextHeaders := .empty
    localDispatch := false }

/-- The request is an enrollment start with the payload. -/
structure HttpRequest.Enrolls (request : HttpRequest) (payload : AdminEnrollmentStartRequest) :
    Prop where
  path : request.uri.path = enrollmentStartRoute
  method : request.method = "POST"
  body : AdminEnrollmentStartRequest.ofBody request.body = some payload
  keyed : trim payload.nodePublicKey ≠ ""

variable (held : Continues justified start journal) (outcomes : DispatchOutcomes) {id : Nat}
  {request : HttpRequest} {override : Option String}
include held

private theorem faasHandler_adds {hopLimit : Nat}
    (endorsed : (faasDecision host request override outcomes.roll).Endorsed host justified
      fun route => { ticket := ⟨id, 0, .target⟩, route, request, hopLimit }) :
    Adds justified start (faasHandler host outcomes id request override hopLimit) journal := by
  unfold faasHandler
  generalize faasDecision host request override outcomes.roll = decision at endorsed ⊢
  cases decision with
  | reply | inferenceJob => exact .pure held _
  | overridden =>
    apply Ensures.recover
    unfold executeRouteOverride
    split
    · exact forward_adds held (endorsed.1.forwarded _ _) _ _ _ _
    split
    · next target found => exact routeArc_adds held (endorsed.2 target found) outcomes none true
    · exact .fail held _
  | websocket =>
    exact .done (.recover (handleWebsocketConnection_adds held _ endorsed) _)
  | streaming =>
    exact .recover (handleStreamingHttpRequest_adds held endorsed.1 outcomes endorsed.2) _
  | buffered _ module =>
    exact .recover (routeArc_adds held endorsed outcomes (some module) true) _

theorem handleNetworkRequest_adds (starts : ∀ hopLimit payload,
      resolveIncomingHopLimit (customDomainRouting host request).headers = some hopLimit →
      request.Enrolls payload → justified journal ⟨⟨id, 0, .target⟩, .guestRan
        (registryRun (enrollmentForward host.config.enrollment payload))⟩)
    (decides : ∀ hopLimit,
      resolveIncomingHopLimit (customDomainRouting host request).headers = some hopLimit →
      request.uri.path ≠ enrollmentStartRoute → ∀ shown, shown =
        { customDomainRouting host request with
          headers := (customDomainRouting host request).headers.insert hopLimitHeader
            (toString hopLimit) } →
      (faasDecision host shown override outcomes.roll).Endorsed host justified fun route =>
        { ticket := ⟨id, 0, .target⟩, route, request := shown, hopLimit }) :
    Adds justified start (handleNetworkRequest host outcomes id request override) journal := by
  unfold handleNetworkRequest
  split
  · exact .pure held _
  dsimp only
  split
  · exact .pure held _
  · next hopLimit resolved =>
    split
    · next path =>
      split
      · next method =>
        unfold adminEnrollmentStartHandler
        split
        · exact .pure held _
        · next payload decoded =>
          split
          · exact .pure held _
          · next keyed =>
            apply Ensures.recover
            apply Ensures.note held
              (starts hopLimit payload resolved ⟨path, method, decoded, keyed⟩)
            exact fun held => .ofExcept held _
      · exact .pure held _
    · next other =>
      split
      · exact .pure held _
      · exact faasHandler_adds held outcomes (decides hopLimit resolved other _ rfl)

theorem dispatchMtlsGatewayRequest_adds
    (endorsed : ∀ route headers, host.config.registeredRoute systemGatewayRoute = some route →
      Call.Retried host justified
        { ticket := ⟨id, 0, .target⟩
          route
          request := { request with uri := .ofPath systemGatewayRoute, headers }
          hopLimit := defaultHopLimit }) :
    Adds justified start (dispatchMtlsGatewayRequest host outcomes id request) journal := by
  unfold dispatchMtlsGatewayRequest
  split
  · exact .pure held _
  · next route found =>
    dsimp only
    split
    · exact .recover (routeArc_adds held (endorsed route _ found) outcomes none true) _
    · exact .pure held _

theorem callSystemService_adds {service : SystemService} {body : Body}
    (endorsed : ∀ route, service.route host = some route → Call.Retried host justified
      { ticket := ⟨id, 0, .target⟩, route, request := service.request body
        hopLimit := defaultHopLimit }) :
    Adds justified start (callSystemService host outcomes id service body) journal := by
  unfold callSystemService
  split
  · exact .pure held _
  · next route found => exact .recover (routeArc_adds held (endorsed route found) outcomes _ _) _

variable (outcomes : CallOutcomes)

theorem tryDispatchLocalMeshRequest_adds {caller : Ticket} {fetch : LocalFetch}
    (forwards : ∀ message : OutboundRequest, 1 < fetch.hopLimit →
      message.headers = forwardedHeaders fetch.headers fetch.hopLimit →
      justified journal ⟨caller, .forwarded fetch.hopLimit message⟩)
    (calls : ∀ url route uri, 1 < fetch.hopLimit → host.parseUrl fetch.url = .ok url →
      host.config.registeredRoute (normalizeRoutePath url.path) = some route →
      host.parseUri (appendQuery (normalizeRoutePath url.path) url.query) = .ok uri →
      ∀ call : Call, call =
        { ticket := ⟨id, 0, .target⟩
          route
          request := { method := fetch.method, uri, headers := fetch.headers, body := fetch.body }
          hopLimit := fetch.hopLimit - 1 } →
      call.MayNote justified ∧ ∀ reached, journal ⊆ reached →
        Passed host call.ticket route reached → call.MayRun host justified reached) :
    Adds justified start (tryDispatchLocalMeshRequest host outcomes caller id fetch) journal := by
  unfold tryDispatchLocalMeshRequest
  split
  · exact .pure held _
  · next exhausted =>
    have remains : 1 < fetch.hopLimit := Nat.lt_of_not_le exhausted
    split
    · exact .pure held _
    apply Ensures.check held
    intro url parsed
    dsimp only
    split
    · exact .pure held _
    · next route found =>
      apply Ensures.check held
      intro target _
      split
      · exact .pure held _
      split
      · split
        · unfold tryPeerOverflowDispatch
          split
          · exact .pure held _
          · apply Ensures.done
            apply Ensures.mapError
            exact forward_adds held (forwards _ remains rfl) _ _ _ _
        · exact .pure held _
      · apply Ensures.check held
        intro uri rebuilt
        obtain ⟨notes, may⟩ := calls url route uri remains (mapError_eq_ok.mp parsed) found
          (mapError_eq_ok.mp rebuilt) _ rfl
        apply Ensures.done
        apply Ensures.mapError
        exact executeRouteRequest_adds held notes outcomes may _ _

theorem executeBufferedRouteRequest_adds {ticket : Ticket} {buffered : BufferedRouteRequest}
    (may : ∀ route headers, host.config.registeredRoute buffered.routePath = some route →
      Call.MayRun host justified
        { ticket, route, request := { buffered.request with headers },
          hopLimit := buffered.hopLimit } journal) :
    Adds justified start (executeBufferedRouteRequest host outcomes ticket buffered) journal := by
  unfold executeBufferedRouteRequest
  split
  · exact .fail held _
  · next route found =>
    split
    · exact .fail held _
    · apply Ensures.check held
      intro headers _
      exact acquiredPermit_adds held outcomes (may route headers found) _
    · exact .fail held _

end TachyonMesh.Dispatch
