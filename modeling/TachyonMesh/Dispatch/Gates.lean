import TachyonMesh.Dispatch.Calls

/-! # Gates in front of a guest

A route may ask for three things before its guest runs: that its middleware answers
the request with 200, that the distributed limiter lets it through, and that it runs
in the configured TEE backend.

The way through `execute_route_arc_with_middleware` passes all three, except that a
microVM is started before the TEE is asked for, and that a middleware's own middleware
is not asked. Event streams and WebSockets pass none, a mesh fetch inside the process
skips the middleware, and a replay checks nothing again: it relies on what the request
passed before it was buffered.
-/

namespace TachyonMesh.Dispatch
open Foundation Program List

/-- The route's middleware has answered the request with 200, and the limiter was asked about it
and did not refuse. -/
structure Cleared (host : Host) (earlier : Journal) (ticket : Ticket) (route : IntegrityRoute) :
    Prop where
  middleware : ∀ name, route.middleware = some name →
    ⟨{ ticket with purpose := .middleware }, .middlewareAnswered name 200⟩ ∈ earlier
  limiter : Passed host ticket route earlier

/-- A run behind all the gates of its route. -/
structure Gated (host : Host) (earlier : Journal) (ticket : Ticket) (run : GuestRun) : Prop
    extends Cleared host earlier ticket run.route where
  tee : run.route.requiresTee →
    ∃ backend, host.config.teeBackend = some backend ∧ run.runner = .tee backend

/-- Every run of a guest for the request, its middleware's included, was behind the gates of its
own route when it began. -/
def GatesHold (host : Host) (id : Nat) (journal : Journal) : Prop :=
  Chronicle (fun earlier entry => entry.ticket.request = id →
    ∀ run, entry.event = .guestRan run → Gated host earlier entry.ticket run) journal

/-! ## Guarded ways -/

/-- The route asks for no gate. -/
structure IntegrityRoute.Ungated (route : IntegrityRoute) : Prop where
  middleware : route.middleware = none
  limiter : route.distributedRateLimit = none
  tee : route.requiresTee = false

/-- No microVM takes the place of a TEE, and a lookup of the route's own path, as the replayer
makes it, finds the route. -/
structure IntegrityRoute.Settled (host : Host) (route : IntegrityRoute) : Prop where
  confined : route.requiresTee → route.microvm = false
  found : host.config.registeredRoute route.path = some route

/-- The route is settled, and so is the route of its middleware, which has none of its own. -/
structure IntegrityRoute.Arranged (host : Host) (route : IntegrityRoute) : Prop
    extends route.Settled host where
  middleware : ∀ name other, route.middleware = some name →
    middlewareRoute host name = .ok other → other.Settled host ∧ other.middleware = none

/-- The request as the public dispatcher gets it, unless its hop limit is used up. -/
def presented (host : Host) (request : HttpRequest) : Option HttpRequest :=
  let rewritten := customDomainRouting host request
  (resolveIncomingHopLimit rewritten.headers).map fun hopLimit =>
    { rewritten with headers := rewritten.headers.insert hopLimitHeader (toString hopLimit) }

/-- The decision leads to a guest on a guarded way only. -/
def FaasDecision.Guarded (host : Host) : FaasDecision → Prop
  | .reply _ => True
  | .inferenceJob => True
  | .overridden _ destination => ∀ route,
      host.config.registeredRoute (normalizeRoutePath destination) = some route →
        route.Arranged host
  | .websocket route _ => route.Ungated
  | .streaming route _ => route.Ungated
  | .buffered route _ => route.Arranged host

/-- What the arriving request asks for is reached on a guarded way only. -/
def Arrival.Guarded (host : Host) : Arrival → Prop
  | .network request override => ∀ shown ∈ presented host request, ∀ roll,
      (faasDecision host shown override roll).Guarded host
  | .mtls _ => ∀ route, host.config.registeredRoute systemGatewayRoute = some route →
      route.Arranged host
  | .system service _ => ∀ route, service.route host = some route → route.Arranged host
  | .mesh fetch => ∀ url route, host.parseUrl fetch.url = .ok url →
      host.config.registeredRoute (normalizeRoutePath url.path) = some route →
        route.Settled host ∧ route.middleware = none

/-! ## Justified entries -/

variable {earlier : Journal} {ticket : Ticket} {route : IntegrityRoute} {host : Host}
  {run : GuestRun} {request shown : HttpRequest}

private theorem Cleared.mono {later : Journal} (cleared : Cleared host earlier ticket route)
    (kept : earlier ⊆ later) : Cleared host later ticket route where
  middleware name named := kept (cleared.middleware name named)
  limiter limited := by
    obtain ⟨headers, check, reply, question, asked, allowed⟩ := cleared.limiter limited
    exact ⟨headers, check, reply, question, kept asked, allowed⟩

private theorem IntegrityRoute.Ungated.cleared (ungated : route.Ungated) (earlier : Journal)
    (ticket : Ticket) : Cleared host earlier ticket route where
  middleware name named := by simp [ungated.middleware] at named
  limiter limited := by simp [IntegrityRoute.limited, ungated.limiter] at limited

/-- What the entries of the request say about its gates: a run is gated, and a buffered call
has passed the gates that its replay will not ask for again. -/
def Justified (host : Host) (id : Nat) (earlier : Journal) (entry : Entry) : Prop :=
  entry.ticket.request = id →
    match entry.event with
    | .guestRan run => Gated host earlier entry.ticket run
    | .enqueued buffered => ∀ route,
        host.config.registeredRoute buffered.routePath = some route →
          Cleared host earlier entry.ticket route ∧ route.Settled host
    | _ => True

/-- The journal's entries for the request are justified. -/
def Sound (host : Host) (id : Nat) : Journal → Prop := Chronicle (Justified host id)

/-- The call may run its guest: it is none of the request's, or it passed the gates. -/
def Ready (host : Host) (id : Nat) (call : Call) (journal : Journal) : Prop :=
  call.ticket.request = id →
    Cleared host journal call.ticket call.route ∧ call.route.Settled host

section
variable {host : Host} {id : Nat} {journal : Journal} {call : Call}

/-! ## Calls keep the journal justified -/

private theorem Ready.mayRun (ready : Ready host id call journal) :
    call.MayRun host (Justified host id) journal where
  microvm inMicrovm module mine := by
    obtain ⟨cleared, settled⟩ := ready mine
    refine { cleared with tee := ?_ }
    intro required
    have outside := settled.confined required
    rw [inMicrovm] at outside
    cases outside
  runner module runner chosen mine := by
    refine { (ready mine).1 with tee := fun (required : call.route.requiresTee) => ?_ }
    unfold runnerFor at chosen
    rw [if_pos required] at chosen
    split at chosen
    · next backend configured =>
      cases chosen
      exact ⟨backend, configured, rfl⟩
    · cases chosen
  buffer module mine route again := by
    obtain ⟨cleared, settled⟩ := ready mine
    -- The replayer's lookup gives the route whose gates were passed.
    cases again.symm.trans settled.found
    exact ⟨cleared, settled⟩

private theorem mayNote (host : Host) (id : Nat) (call : Call) :
    call.MayNote (Justified host id) where
  forwarded _ _ _ := trivial
  limiter _ _ _ _ := trivial
  shadowed _ _ _ := trivial

/-- The request's target is an arranged route. -/
def Aimed (host : Host) (id : Nat) (call : Call) : Prop :=
  call.ticket.request = id → call.route.Arranged host

private theorem Aimed.endorsed (aimed : Aimed host id call) :
    call.Endorsed host (Justified host id) where
  notes := mayNote host id call
  target _ answered passed :=
    Ready.mayRun fun mine => ⟨⟨answered, passed⟩, (aimed mine).toSettled⟩
  asks _ := mayNote host id _
  -- The middleware's route has no middleware, so its limiter is all that it needs.
  middleware name other _ named found passed := Ready.mayRun fun mine => by
    obtain ⟨settled, alone⟩ := (aimed mine).middleware name other named found
    exact ⟨⟨fun _ nested => by simp [Call.toMiddleware, alone] at nested, passed⟩, settled⟩
  answered _ _ _ _ := trivial

private theorem Aimed.retried (aimed : Aimed host id call) :
    call.Retried host (Justified host id) := by
  intro attempt
  apply Aimed.endorsed
  exact aimed

private theorem Gated.of_ungated (ungated : run.route.Ungated) (earlier : Journal)
    (ticket : Ticket) : Gated host earlier ticket run :=
  { ungated.cleared earlier ticket with tee := by simp [ungated.tee] }

/-! ## Arrivals and replays -/

private theorem FaasDecision.Guarded.endorsed {decision : FaasDecision} {hopLimit : Nat}
    (guarded : ticket.request = id → decision.Guarded host) :
    decision.Endorsed host (Justified host id) fun route =>
      { ticket, route, request, hopLimit } := by
  cases decision with
  | reply | inferenceJob => trivial
  | overridden =>
    exact ⟨mayNote host id _, fun target found => Aimed.retried fun mine =>
      guarded mine target found⟩
  | websocket =>
    intro _ mine
    apply Gated.of_ungated
    exact guarded mine
  | streaming =>
    refine ⟨mayNote host id _, ?_⟩
    intro _ mine
    apply Gated.of_ungated
    exact guarded mine
  | buffered => exact Aimed.retried guarded

private theorem nodeRegistryRoute_ungated : nodeRegistryRoute.Ungated := ⟨rfl, rfl, rfl⟩

end

/-! ## Runs -/

private theorem dispatch_keeps {id number : Nat} {journal : Journal} (sound : Sound host id journal)
    (outcomes : DispatchOutcomes) (arrival : Arrival)
    (guarded : number = id → arrival.Guarded host) :
    Sound host id (dispatch host outcomes number arrival journal) := by
  have held : Continues (Justified host id) [] journal := continues_nil.mpr sound
  cases arrival with
  | network =>
    refine continues_nil.mp (of_wp (handleNetworkRequest_adds held outcomes ?_ ?_))
    · exact fun _ _ _ _ _ => .of_ungated nodeRegistryRoute_ungated _ _
    · rintro _ resolved _ _ rfl
      refine FaasDecision.Guarded.endorsed fun mine => guarded mine _ ?_ _
      unfold presented
      simp [resolved]
  | mtls =>
    refine continues_nil.mp (of_wp (dispatchMtlsGatewayRequest_adds held outcomes ?_))
    exact fun route _ found => Aimed.retried fun mine => guarded mine route found
  | mesh =>
    refine continues_nil.mp (of_wp (tryDispatchLocalMeshRequest_adds held _ ?_ ?_))
    · exact fun _ _ _ _ => trivial
    · rintro url route _ - parsed found - _ rfl
      refine ⟨mayNote host id _, fun _ _ passed => Ready.mayRun fun mine => ?_⟩
      obtain ⟨settled, unguarded⟩ := guarded mine url route parsed found
      exact ⟨⟨fun _ named => by simp [unguarded] at named, passed⟩, settled⟩
  | system =>
    refine continues_nil.mp (of_wp (callSystemService_adds held outcomes ?_))
    exact fun route found => Aimed.retried fun mine => guarded mine route found

namespace DispatchState

/-- The entries of the request are justified if it is guarded. -/
def Orderly (host : Host) (id : Nat) (state : DispatchState) : Prop :=
  (∀ arrival, state.arrivals[id]? = some arrival → arrival.Guarded host) →
    Sound host id state.journal

variable {host : Host} {id : Nat} {state next : DispatchState} (orderly : state.Orderly host id)
include orderly

private theorem Orderly.arrive (arrival : Arrival) (outcomes : DispatchOutcomes) :
    (state.arrive host arrival outcomes).Orderly host id := by
  intro guarded
  have before : Sound host id state.journal := by
    apply orderly
    intro other came
    apply guarded other
    exact getElem?_append_left (List.getElem?_eq_some_iff.mp came).1 ▸ came
  apply dispatch_keeps before
  intro mine
  apply guarded arrival
  rw [← mine]
  exact getElem?_concat_length

private theorem Orderly.replay {index : Nat} {outcomes : CallOutcomes}
    (replayed : state.replay host index outcomes = some next) : next.Orderly host id := by
  unfold DispatchState.replay at replayed
  split at replayed
  · next _ _ found =>
    split at replayed
    · cases replayed
    split at replayed
    · cases replayed
      exact orderly
    cases replayed
    intro guarded
    have sound := orderly guarded
    refine continues_nil.mp (of_wp (executeBufferedRouteRequest_adds (continues_nil.mpr sound)
      outcomes fun route _ again => Ready.mayRun fun mine => ?_))
    obtain ⟨cleared, settled⟩ := sound.of_getElem? found mine route again
    exact ⟨cleared.mono (take_subset _ _), settled⟩
  · cases replayed

private theorem Orderly.step {event : DispatchEvent}
    (stepped : (dispatchMachine host).step state event = some next) : next.Orderly host id := by
  cases event with
  | arrive arrival outcomes =>
    cases stepped
    exact orderly.arrive arrival outcomes
  | replay => exact orderly.replay stepped

end DispatchState

/-- **Gates.** In every run of a host, whatever its other requests are, a request that
arrives on a guarded way has every guest that runs for it, its middleware's included, run only
behind the middleware, the limiter and the TEE backend of the guest's route, also when it is
buffered first and replayed later. -/
theorem gates_hold_of_guarded (host : Host) {events : List DispatchEvent} {final : DispatchState}
    (reached : (dispatchMachine host).run .initial events = some final)
    {id : Nat} {arrival : Arrival} (came : final.arrivals[id]? = some arrival)
    (guarded : arrival.Guarded host) : GatesHold host id final.journal := by
  have start : DispatchState.initial.Orderly host id := fun _ => Chronicle.nil
  have orderly : final.Orderly host id :=
    Machine.invariant_run (fun orderly _ => orderly.step) start (Machine.along_true _ events)
      reached
  have sound : Sound host id final.journal := by
    apply orderly
    intro other same
    cases came.symm.trans same
    exact guarded
  refine .mono sound ?_
  intro earlier entry justified mine run ran
  have gated := justified mine
  rw [ran] at gated
  exact gated

/-! ## Sessions skip the gates -/

private theorem ResourcePolicy.requiredRamBytes_le (policy : ResourcePolicy) :
    policy.requiredRamBytes ≤ u64Max :=
  max_le (min_le_right _ _) (min_le_right _ _)

private theorem admitStream_of_memory {outcomes : DispatchOutcomes}
    (spare : (outcomes.attempts 0).route.availableRam = u64Max) (call : Call)
    (retryOn : List Nat) (retries : Nat) (journal : Journal) :
    admitStream outcomes call retryOn retries 0 journal = (journal, .ok none) := by
  have admitted : enforceResourceAdmission (outcomes.attempts 0).route call true journal =
      (journal, .ok none) := by
    unfold enforceResourceAdmission
    cases call.route.resourcePolicy with
    | none => rfl
    | some policy =>
      have enough : policy.requiredRamBytes = 0 ∨
          policy.requiredRamBytes ≤ (outcomes.attempts 0).route.availableRam :=
        .inr (spare ▸ policy.requiredRamBytes_le)
      dsimp only
      rw [if_pos enough]
      rfl
  cases retries with
  | zero => exact admitted
  | succ => exact Program.bind_of_ok admitted

/-- No gate stands in front of the route, a limiter that is not sealed included. -/
structure IntegrityRoute.Unasked (host : Host) (route : IntegrityRoute) : Prop where
  middleware : route.middleware = none
  limiter : route.limited host = false
  tee : route.requiresTee = false

private theorem Gated.unasked (gated : Gated host [] ticket run)
    (plain : ∀ backend, run.runner ≠ .tee backend) : run.route.Unasked host where
  middleware := by
    cases asked : run.route.middleware with
    | none => rfl
    | some name => exact absurd (gated.middleware name asked) not_mem_nil
  limiter := by
    cases limited : run.route.limited host with
    | false => rfl
    | true =>
      obtain ⟨_, _, _, -, asked, -⟩ := gated.limiter limited
      exact absurd asked not_mem_nil
  tee := by
    cases asked : run.route.requiresTee with
    | false => rfl
    | true =>
      obtain ⟨backend, -, used⟩ := gated.tee asked
      exact absurd used (plain backend)

section
variable (presents : presented host request = some shown)
  (unhandled : host.handles request.uri.path = false)
  (other : request.uri.path ≠ enrollmentStartRoute)
include presents unhandled other

private theorem handleNetworkRequest_of_presented (override : Option String) (roll id : Nat) :
    ∃ hopLimit, handleNetworkRequest host { roll } id request override =
      faasHandler host { roll } id shown override hopLimit := by
  obtain ⟨hopLimit, resolved, rfl⟩ := Option.map_eq_some_iff.mp presents
  refine ⟨hopLimit, ?_⟩
  unfold handleNetworkRequest
  dsimp only
  rw [resolved]
  simp [unhandled, other]

/-- For event streams and WebSockets the condition is exact: a route that asks for any gate
is run without it. -/
theorem session_skips_gates {override : Option String} {roll : Nat} {module : String}
    (decided : faasDecision host shown override roll = .streaming route module ∨
      faasDecision host shown override roll = .websocket route module)
    (asks : ¬route.Unasked host) :
    ¬GatesHold host 0 (dispatch host { roll } 0 (.network request override) []) := by
  obtain ⟨hopLimit, handled⟩ :=
    handleNetworkRequest_of_presented presents unhandled other override roll 0
  let call : Call := { ticket := ⟨0, 0, .target⟩, route, request := shown, hopLimit }
  have written : ∃ run : GuestRun, run.route = route ∧ (∀ backend, run.runner ≠ .tee backend) ∧
      dispatch host { roll } 0 (.network request override) [] = [⟨call.ticket, .guestRan run⟩] := by
    unfold dispatch
    dsimp only
    rw [handled]
    unfold faasHandler
    rcases decided with decided | decided
    · rw [decided]
      refine ⟨call.streamingRun module, rfl, by simp [Call.streamingRun, Call.guestRun], ?_⟩
      refine (Program.recover_fst _ _ _).trans ?_
      unfold handleStreamingHttpRequest
      rw [Program.bind_of_ok (admitStream_of_memory rfl call _ _ [])]
      rfl
    · rw [decided]
      exact ⟨call.websocketRun module, rfl, by simp [Call.websocketRun], rfl⟩
  obtain ⟨run, rfl, plain, journal⟩ := written
  intro holds
  rw [journal] at holds
  exact asks (Gated.unasked (holds [] _ [] rfl rfl run rfl) plain)

end

/-! ## One configuration -/

/-- A route behind all three gates. -/
def vaultRoute : IntegrityRoute :=
  { path := "/api/vault"
    name := "vault"
    middleware := some "guard"
    distributedRateLimit := some ⟨1, 60, .ip⟩
    requiresTee := true }

/-- A route that asks for a TEE and for a microVM. -/
def boxedRoute : IntegrityRoute :=
  { path := "/api/boxed", name := "boxed", requiresTee := true,
    runtime := some (.microvm "vm.img" 1 128) }

/-- A middleware that names a middleware. -/
def porterRoute : IntegrityRoute :=
  { path := "/api/porter", name := "porter", middleware := some "guard" }

def vaultConfig : IntegrityConfig :=
  { hostAddress := "127.0.0.1:8080"
    routes := [{ path := "/api/guard", name := "guard" }, vaultRoute, boxedRoute, porterRoute,
      { path := "/api/door", name := "door", middleware := some "porter" },
      { path := systemDistLimiterRoute, role := .system, name := "dist-limiter" }]
    teeBackend := some .localEnclave }

def eventStreamRequest : HttpRequest := getRequest "/api/vault" [("accept", "text/event-stream")]

def vaultFetch : LocalFetch :=
  { url := "/api/vault", method := "GET", headers := .empty, body := .bytes "", hopLimit := 10 }

/-- The request alone is enough to run a guest without one of its gates. -/
def Escapes (host : Host) (arrival : Arrival) : Prop :=
  ∃ final, (dispatchMachine host).run .initial [.arrive arrival {}] = some final ∧
    final.arrivals[0]? = some arrival ∧ ¬GatesHold host 0 final.journal

private theorem escapes_of_run {arrival : Arrival}
    {later : Journal}
    (written : dispatch host {} 0 arrival [] = earlier ++ ⟨ticket, .guestRan run⟩ :: later)
    (mine : ticket.request = 0) (ungated : ¬Gated host earlier ticket run) :
    Escapes host arrival := by
  refine ⟨_, rfl, rfl, fun holds => ungated ?_⟩
  exact holds earlier ⟨ticket, .guestRan run⟩ later written mine run rfl

/-- Under one valid configuration: the `Accept` header of an event stream takes all gates away,
a mesh fetch the middleware, a microVM the TEE, and a middleware runs without its own. -/
theorem gates_escaped :
    vaultConfig.validated ∧
    Escapes (plainHost vaultConfig) (.network eventStreamRequest none) ∧
    Escapes (plainHost vaultConfig) (.mesh vaultFetch) ∧
    Escapes (plainHost vaultConfig) (.network (getRequest "/api/boxed" []) none) ∧
    Escapes (plainHost vaultConfig) (.network (getRequest "/api/door" []) none) := by
  refine ⟨by decide +kernel, ⟨_, rfl, rfl, ?_⟩, ?_, ?_, ?_⟩
  · have presents : presented (plainHost vaultConfig) eventStreamRequest = some
        { eventStreamRequest with
          headers := eventStreamRequest.headers.insert hopLimitHeader "10" } := by decide +kernel
    have decided : faasDecision (plainHost vaultConfig)
        { eventStreamRequest with
          headers := eventStreamRequest.headers.insert hopLimitHeader "10" } none 0 =
        .streaming vaultRoute "vault" := by decide +kernel
    have asks : ¬vaultRoute.Unasked (plainHost vaultConfig) := fun unasked => by
      cases unasked.tee
    exact session_skips_gates presents (by decide +kernel) (by decide +kernel) (.inl decided) asks
  · let call : Call :=
      { ticket := ⟨0, 0, .target⟩, route := vaultRoute, request := getRequest "/api/vault" [],
        hopLimit := 9 }
    have written : dispatch (plainHost vaultConfig) {} 0 (.mesh vaultFetch) [] =
        [⟨call.ticket, .limiterAnswered (limiterCheck "ip:unknown:/api/vault")
          (.answered 200 (some true))⟩] ++
          [⟨call.ticket, .guestRan (call.guestRun "vault" (.tee .localEnclave))⟩] := by
      decide +kernel
    refine escapes_of_run written rfl fun gated => ?_
    exact absurd (gated.middleware "guard" rfl) (by decide +kernel)
  · let call : Call :=
      { ticket := ⟨0, 0, .target⟩, route := boxedRoute
        request := getRequest "/api/boxed" [(hopLimitHeader, "10")], hopLimit := 10 }
    have written : dispatch (plainHost vaultConfig) {} 0
        (.network (getRequest "/api/boxed" []) none) [] =
        [] ++ [⟨call.ticket, .guestRan (call.guestRun "boxed" .microvm)⟩] := by
      decide +kernel
    refine escapes_of_run written rfl fun gated => ?_
    obtain ⟨_, -, used⟩ := gated.tee rfl
    cases used
  · let call : Call :=
      { ticket := ⟨0, 0, .middleware⟩, route := porterRoute
        request := getRequest "/api/door" [(hopLimitHeader, "10")], hopLimit := 10 }
    have written : ∃ later, dispatch (plainHost vaultConfig) {} 0
        (.network (getRequest "/api/door" []) none) [] =
        [] ++ ⟨call.ticket, .guestRan (call.guestRun "porter" .engine)⟩ :: later :=
      ⟨_, by with_unfolding_all rfl⟩
    obtain ⟨_, written⟩ := written
    refine escapes_of_run written rfl fun gated => ?_
    exact absurd (gated.middleware "guard" rfl) not_mem_nil

/-- A plain request to the same route passes all its gates. -/
theorem gates_hold_of_plain_request :
    ∃ final, (dispatchMachine (plainHost vaultConfig)).run .initial
        [.arrive (.network (getRequest "/api/vault" []) none) {}] = some final ∧
      final.journal.length = 4 ∧ GatesHold (plainHost vaultConfig) 0 final.journal := by
  have presents : presented (plainHost vaultConfig) (getRequest "/api/vault" []) =
      some (getRequest "/api/vault" [(hopLimitHeader, "10")]) := by decide +kernel
  have reached : (dispatchMachine (plainHost vaultConfig)).run .initial
      [.arrive (.network (getRequest "/api/vault" []) none) {}] = some _ := rfl
  refine ⟨_, reached, by decide +kernel, gates_hold_of_guarded _ reached rfl ?_⟩
  intro shown shows roll
  cases Option.mem_unique shows presents
  have decided : faasDecision (plainHost vaultConfig)
      (getRequest "/api/vault" [(hopLimitHeader, "10")]) none roll =
        .buffered vaultRoute "vault" := by
    with_unfolding_all rfl
  rw [decided]
  refine ⟨⟨fun _ => rfl, by decide +kernel⟩, fun name other named found => ?_⟩
  cases named
  have guard : middlewareRoute (plainHost vaultConfig) "guard" =
      .ok { path := "/api/guard", name := "guard" } := by decide +kernel
  cases found.symm.trans guard
  exact ⟨⟨nofun, by decide +kernel⟩, rfl⟩

end TachyonMesh.Dispatch
