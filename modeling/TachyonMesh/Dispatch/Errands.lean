import TachyonMesh.Dispatch.Calls
import TachyonMesh.Dispatch.Outbound

/-! # What a request can leave in the journal

An errand is what the host does for one request: the request's number, the hop limit
it is handled with, and what a guest gets to see of it. Whatever route, target,
middleware, retry or buffer a request goes through, each entry that is written on the
way serves its errand: a guest that runs sees the errand's method, URI and body, a
forward carries the errand's hop limit, a buffered call keeps all of it. The only other
entry is the run of the node registry for an enrollment start.
-/

namespace TachyonMesh.Dispatch
open Foundation Program Arrival

/-- What stays the same from call to call of a request. -/
structure Errand where
  request : Nat
  hopLimit : Nat
  method : String
  uri : String
  body : Body

/-- The entry is one that the errand may leave behind. -/
def Entry.Serves (errand : Errand) (entry : Entry) : Prop :=
  entry.ticket.request = errand.request ∧
  match entry.event with
  | .guestRan run => ∀ request ∈ run.request,
      request.method = errand.method ∧ request.uri = errand.uri ∧ request.body = errand.body
  | .forwarded hopLimit message =>
      hopLimit = errand.hopLimit ∧
        ∃ headers, message.headers = forwardedHeaders headers errand.hopLimit
  | .enqueued buffered =>
      buffered.hopLimit = errand.hopLimit ∧ buffered.request.method = errand.method ∧
        buffered.request.uri.text = errand.uri ∧ buffered.request.body = errand.body
  | .sent _ => False
  | _ => True

/-- The call is made for the errand. -/
structure Call.Does (call : Call) (errand : Errand) : Prop where
  request : call.ticket.request = errand.request
  hopLimit : call.hopLimit = errand.hopLimit
  method : call.request.method = errand.method
  uri : call.request.uri.text = errand.uri
  body : call.request.body = errand.body

section
variable {errand : Errand} {call : Call}

private theorem Call.Does.guestRan (does : call.Does errand) {run : GuestRun}
    (shown : ∀ request ∈ run.request, request = call.guestRequest) :
    Entry.Serves errand ⟨call.ticket, .guestRan run⟩ := by
  refine ⟨does.request, ?_⟩
  intro request given
  rw [shown request given]
  exact ⟨does.method, does.uri, does.body⟩

variable (does : call.Does errand) {allowed : Entry → Prop}
  (allow : ∀ entry : Entry, entry.Serves errand → allowed entry)
include does allow

private theorem Call.Does.mayNote : call.MayNote fun _ => allowed where
  forwarded _ _ := by
    refine allow _ ⟨does.request, does.hopLimit, call.request.headers, ?_⟩
    rw [← does.hopLimit]
    rfl
  limiter _ _ _ := allow _ ⟨does.request, trivial⟩
  shadowed _ _ := allow _ ⟨does.request, trivial⟩

private theorem Call.Does.mayRun (host : Host) (journal : Journal) :
    call.MayRun host (fun _ => allowed) journal where
  microvm _ module := allow _ (does.guestRan (by simp [Call.guestRun]))
  runner module runner _ := allow _ (does.guestRan (by simp [Call.guestRun]))
  buffer _ := allow _ ⟨does.request, does.hopLimit, does.method, does.uri, does.body⟩

private theorem Call.Does.retried (host : Host) : call.Retried host fun _ => allowed := by
  intro attempt
  have again (purpose : Purpose) (route : IntegrityRoute) : Call.Does
      { call with ticket := { call.ticket with attempt, purpose }, route } errand :=
    ⟨does.request, does.hopLimit, does.method, does.uri, does.body⟩
  exact
    { notes := (again call.ticket.purpose call.route).mayNote allow
      target := fun _ _ _ => (again call.ticket.purpose call.route).mayRun allow host _
      asks := fun route => (again .middleware route).mayNote allow
      middleware := fun _ route _ _ _ _ => (again .middleware route).mayRun allow host _
      answered := fun _ _ _ => allow _ ⟨does.request, trivial⟩ }

end

/-! ## Arrivals -/

/-- The errand that the public dispatcher makes of a request. -/
def HttpRequest.errand (request : HttpRequest) (id hopLimit : Nat) : Errand :=
  { request := id
    hopLimit
    method := request.method
    uri := request.uri.text
    body := request.body }

private theorem FaasDecision.endorsed (host : Host) (decision : FaasDecision)
    {request : HttpRequest}
    {id hopLimit : Nat} {allowed : Entry → Prop}
    (allow : ∀ entry : Entry, entry.Serves (request.errand id hopLimit) → allowed entry) :
    decision.Endorsed host (fun _ => allowed) fun route =>
      { ticket := ⟨id, 0, .target⟩, route, request, hopLimit } := by
  have does : ∀ route, Call.Does { ticket := ⟨id, 0, .target⟩, route, request, hopLimit }
      (request.errand id hopLimit) := fun _ => ⟨rfl, rfl, rfl, rfl, rfl⟩
  cases decision with
  | reply | inferenceJob => trivial
  | overridden route =>
    exact ⟨(does route).mayNote allow, fun _ _ =>
      Call.Does.retried ⟨rfl, rfl, rfl, rfl, rfl⟩ allow host⟩
  | websocket route =>
    exact fun _ => allow _ ((does route).guestRan (by simp [Call.websocketRun]))
  | streaming route =>
    exact ⟨(does route).mayNote allow, fun _ =>
      allow _ ((does route).guestRan (by simp [Call.streamingRun, Call.guestRun]))⟩
  | buffered route => exact (does route).retried allow host

/-- The errands that the host may do for an arrival. -/
inductive Arrival.Asks (host : Host) (id : Nat) : Arrival → Errand → Prop
  | network {request override hopLimit}
      (resolved : resolveIncomingHopLimit request.headers = some hopLimit)
      (routed : request.uri.path ≠ enrollmentStartRoute)
      (unreserved : isReservedSystemPath
        (normalizeRoutePath (customDomainRouting host request).uri.path) = false) :
      Asks host id (.network request override)
        ((customDomainRouting host request).errand id hopLimit)
  | mtls {request} :
      Asks host id (.mtls request)
        ({ request with uri := .ofPath systemGatewayRoute }.errand id defaultHopLimit)
  | system {service body} :
      Asks host id (.system service body) ((service.request body).errand id defaultHopLimit)
  | mesh {fetch url uri} (remains : 1 < fetch.hopLimit)
      (parsed : host.parseUrl fetch.url = .ok url)
      (rebuilt : host.parseUri (appendQuery (normalizeRoutePath url.path) url.query) = .ok uri) :
      Asks host id (.mesh fetch)
        { request := id
          hopLimit := fetch.hopLimit - 1
          method := fetch.method
          uri := uri.text
          body := fetch.body }

variable {host : Host}

theorem Arrival.Asks.request {id : Nat} {arrival : Arrival} {errand : Errand}
    (asked : arrival.Asks host id errand) : errand.request = id := by
  cases asked <;> rfl

/-- What the handling of an arrival may write. -/
inductive Arrival.Leaves (host : Host) (id : Nat) (arrival : Arrival) (entry : Entry) : Prop
  | served {errand} (asked : arrival.Asks host id errand) (serves : entry.Serves errand)
  | enrolled {request override payload hopLimit}
      (same : arrival = .network request override)
      (resolved : resolveIncomingHopLimit request.headers = some hopLimit)
      (enrolls : request.Enrolls payload)
      (ran : entry = ⟨⟨id, 0, .target⟩,
        .guestRan (registryRun (enrollmentForward host.config.enrollment payload))⟩)

@[simp] theorem customDomainRouting_headers (host : Host) (request : HttpRequest) :
    (customDomainRouting host request).headers = request.headers := by
  unfold customDomainRouting
  dsimp only
  split <;> rfl

theorem handleNetworkRequest_leaves (host : Host) (outcomes : DispatchOutcomes) (id : Nat)
    (request : HttpRequest) (override : Option String) :
    (handleNetworkRequest host outcomes id request override).Writes
      ((network request override).Leaves host id) := by
  apply Writes.of_continues
  intro journal
  apply handleNetworkRequest_adds (.refl journal)
  · intro hopLimit payload resolved enrolls
    rw [customDomainRouting_headers] at resolved
    exact .enrolled rfl resolved enrolls rfl
  · rintro _ resolved other _ rfl
    rw [customDomainRouting_headers] at resolved
    cases reserved : isReservedSystemPath
        (normalizeRoutePath (customDomainRouting host request).uri.path) with
    | true =>
      unfold faasDecision
      rw [if_pos reserved]
      trivial
    | false =>
      apply FaasDecision.endorsed
      exact fun _ serves => .served (.network resolved other reserved) serves

theorem dispatchMtlsGatewayRequest_leaves (host : Host) (outcomes : DispatchOutcomes) (id : Nat)
    (request : HttpRequest) :
    (dispatchMtlsGatewayRequest host outcomes id request).Writes
      ((mtls request).Leaves host id) := by
  apply Writes.of_continues
  intro journal
  apply dispatchMtlsGatewayRequest_adds (.refl journal)
  intro route headers _
  refine Call.Does.retried ?_ (fun _ serves => .served .mtls serves) host
  exact ⟨rfl, rfl, rfl, rfl, rfl⟩

theorem callSystemService_leaves (host : Host) (outcomes : DispatchOutcomes) (id : Nat)
    (service : SystemService) (body : Body) :
    (callSystemService host outcomes id service body).Writes
      ((system service body).Leaves host id) := by
  apply Writes.of_continues
  intro journal
  apply callSystemService_adds (.refl journal)
  intro route _
  refine Call.Does.retried ?_ (fun _ serves => .served .system serves) host
  exact ⟨rfl, rfl, rfl, rfl, rfl⟩

/-! ## Fetches and replays -/

/-- What a guest's outbound call may write: the request over a socket, the forward of a fetch to
a peer, and what a fetch inside the process leaves. -/
inductive GuestRun.Leaves (host : Host) (run : GuestRun) (caller : Ticket) (id : Nat)
    (call : OutboundCall) (entry : Entry) : Prop
  | sent {prepared headers}
      (accepted : prepareOutbound host run call = .ok prepared)
      (encoded : guestFieldsToHeaderMap "outbound HTTP headers" prepared.headers = .ok headers)
      (wrote : entry = ⟨caller, .sent
        { url := rewriteOutboundHttpUrl host prepared.target.url
          method := prepared.method
          headers
          body := prepared.body }⟩)
  | overflowed {fetch message}
      (fetched : fetchOf host run call = some fetch) (remains : 1 < fetch.hopLimit)
      (shaped : message.headers = forwardedHeaders fetch.headers fetch.hopLimit)
      (wrote : entry = ⟨caller, .forwarded fetch.hopLimit message⟩)
  | dispatched {fetch errand}
      (fetched : fetchOf host run call = some fetch)
      (asked : (mesh fetch).Asks host id errand) (serves : entry.Serves errand)

private theorem tryDispatchLocalMeshRequest_leaves {run : GuestRun} {call : OutboundCall}
    {fetch : LocalFetch} (fetched : fetchOf host run call = some fetch) (outcomes : CallOutcomes)
    (caller : Ticket) (id : Nat) :
    (tryDispatchLocalMeshRequest host outcomes caller id fetch).Writes
      (run.Leaves host caller id call) := by
  apply Writes.of_continues
  intro journal
  apply tryDispatchLocalMeshRequest_adds (.refl journal)
  · exact fun _ remains shaped => .overflowed fetched remains shaped rfl
  · rintro _ _ _ remains parsed - rebuilt _ rfl
    have allow {errand : Errand} (asked : (mesh fetch).Asks host id errand) (entry : Entry)
        (serves : entry.Serves errand) : run.Leaves host caller id call entry :=
      .dispatched fetched asked serves
    have asked : Asks host id _ _ := .mesh remains parsed rebuilt
    exact ⟨Call.Does.mayNote ⟨rfl, rfl, rfl, rfl, rfl⟩ (allow asked), fun _ _ _ =>
      Call.Does.mayRun ⟨rfl, rfl, rfl, rfl, rfl⟩ (allow asked) host _⟩

theorem sendRequest_leaves (host : Host) (outcomes : CallOutcomes) (run : GuestRun)
    (caller : Ticket) (id : Nat) (call : OutboundCall) :
    (sendRequest host outcomes run caller id call).Writes (run.Leaves host caller id call) := by
  apply Writes.check
  intro prepared accepted
  apply Writes.check
  intro fetch chosen
  have fetched : fetchOf host run call = fetch := by
    unfold fetchOf
    rw [accepted]
    dsimp only
    rw [chosen]
  apply Writes.bind
  · cases fetch with
    | none => exact .pure _
    | some => exact tryDispatchLocalMeshRequest_leaves fetched outcomes caller id
  intro attempt
  cases attempt with
  | handled => exact .pure _
  | fallback =>
    apply Writes.check
    intro headers encoded
    apply Writes.bind
    · exact Writes.record (.sent accepted (mapError_eq_ok.mp encoded) rfl)
    intro _
    cases outcomes.peer with
    | replied => exact .pure _
    | failed | handshakeTimedOut => exact .fail _

def BufferedRouteRequest.errand (buffered : BufferedRouteRequest) (id : Nat) : Errand :=
  buffered.request.errand id buffered.hopLimit

theorem executeBufferedRouteRequest_serves (host : Host) (outcomes : CallOutcomes)
    (ticket : Ticket) (buffered : BufferedRouteRequest) :
    (executeBufferedRouteRequest host outcomes ticket buffered).Writes
      (Entry.Serves (buffered.errand ticket.request)) := by
  apply Writes.of_continues
  intro journal
  apply executeBufferedRouteRequest_adds (.refl journal)
  intro route headers _
  refine Call.Does.mayRun ?_ (fun _ serves => serves) host journal
  exact ⟨rfl, rfl, rfl, rfl, rfl⟩

/-- A buffered call keeps the errand of the entry it was put into. -/
theorem Entry.Serves.buffered {errand : Errand} {ticket : Ticket} {buffered : BufferedRouteRequest}
    (serves : Entry.Serves errand ⟨ticket, .enqueued buffered⟩) :
    buffered.errand ticket.request = errand := by
  obtain ⟨request, hopLimit, method, uri, body⟩ := serves
  unfold BufferedRouteRequest.errand HttpRequest.errand
  rw [hopLimit, method, uri, body]
  cases errand
  cases request
  rfl

end TachyonMesh.Dispatch
