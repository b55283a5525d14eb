import TachyonMesh.Dispatch.Errands

/-! # A mesh of hosts

Several hosts share one journal, in which every entry carries the number of the
request it was written for. Requests come in from outside, guests that run make
outbound calls of any kind, what was forwarded or sent over a socket arrives at any
host, once, repeatedly or never, so do the calls of a host to its limiter and its shadow
proxy, and buffered requests are replayed at any time. A visit is one request at one host,
with the journal entry that caused it.
-/

namespace TachyonMesh.Dispatch
open Foundation

/-- Where a request from the network comes in; the override table's answer goes with it. -/
inductive Door where
  | listener (override : Option String)
  | mtlsGateway

def Door.arrival (door : Door) (request : HttpRequest) : Arrival :=
  match door with
  | .listener override => .network request override
  | .mtlsGateway => .mtls request

/-- One request at one host, and the place of the entry that caused it. -/
structure Visit where
  node : Nat
  arrival : Arrival
  cause : Option Nat

def Entry.message (entry : Entry) : Option OutboundRequest :=
  match entry.event with
  | .forwarded _ message => some message
  | .sent message => some message
  | _ => none

/-- What the receiver reads of a message; the client names the host when the headers do not. -/
def OutboundRequest.received (message : OutboundRequest) (url : Url) : HttpRequest :=
  { method := message.method
    uri := { scheme := none, authority := none, path := url.path, query := url.query }
    headers :=
      if message.headers.containsKey "host" then message.headers
      else message.headers.append "host" (url.host.getD "")
    body := message.body }

/-- The requests of all hosts and what has been done for them. -/
structure MeshState where
  visits : List Visit
  journal : Journal
  replayed : List Nat

/-- What may happen in a mesh. -/
inductive MeshEvent where
  | enter (node : Nat) (door : Door) (request : HttpRequest) (outcomes : DispatchOutcomes)
  | fetch (index : Nat) (call : OutboundCall) (outcomes : CallOutcomes)
  | deliver (index node : Nat) (door : Door) (outcomes : DispatchOutcomes)
  | replay (index : Nat) (outcomes : CallOutcomes)
  | summon (index : Nat) (outcomes : DispatchOutcomes)

namespace MeshState

def initial : MeshState := { visits := [], journal := [], replayed := [] }

variable (mesh : Nat → Host) (state : MeshState)

/-- A request comes to a node and gets the next number. -/
def arrive (visit : Visit) (outcomes : DispatchOutcomes) : MeshState :=
  { state with
    visits := state.visits ++ [visit]
    journal := dispatch (mesh visit.node) outcomes state.visits.length visit.arrival state.journal }

/-- The guest of a run makes an outbound call. Code outside the host has no such call. -/
def fetch (index : Nat) (call : OutboundCall) (outcomes : CallOutcomes) : Option MeshState :=
  match state.journal[index]? with
  | some ⟨ticket, .guestRan run⟩ =>
      match state.visits[ticket.request]? with
      | none => none
      | some visit =>
          if run.runner.inHost then
            some
              { state with
                visits := state.visits ++
                  (fetchOf (mesh visit.node) run call).toList.map fun fetch =>
                    { node := visit.node, arrival := .mesh fetch, cause := some index }
                journal := (sendRequest (mesh visit.node) outcomes run ticket
                  state.visits.length call state.journal).1 }
          else none
  | _ => none

def deliver (index node : Nat) (door : Door) (outcomes : DispatchOutcomes) : Option MeshState := do
  let entry ← state.journal[index]?
  let message ← entry.message
  let sender ← state.visits[entry.ticket.request]?
  match (mesh sender.node).parseUrl message.url with
  | .error _ => none
  | .ok url => some (state.arrive mesh
      { node, arrival := door.arrival (message.received url), cause := some index } outcomes)

/-- The host that wrote the entry calls its system route. -/
def summon (index : Nat) (outcomes : DispatchOutcomes) : Option MeshState := do
  let entry ← state.journal[index]?
  let visit ← state.visits[entry.ticket.request]?
  let call ← entry.event.summons
  some (state.arrive mesh
    { node := visit.node, arrival := .system call.1 call.2, cause := some index } outcomes)

/-- The replayer of the request's node takes a buffered request; without a permit it puts it
back. -/
def replay (index : Nat) (outcomes : CallOutcomes) : Option MeshState :=
  match state.journal[index]? with
  | some ⟨ticket, .enqueued buffered⟩ =>
      match state.visits[ticket.request]? with
      | none => none
      | some visit =>
          if index ∈ state.replayed then none
          else if ((mesh visit.node).config.registeredRoute buffered.routePath).isSome &&
              outcomes.permit = some .timedOut then some state
          else some
            { state with
              journal := (executeBufferedRouteRequest (mesh visit.node) outcomes ticket buffered
                state.journal).1
              replayed := index :: state.replayed }
  | _ => none

end MeshState

def meshMachine (mesh : Nat → Host) : Machine MeshState MeshEvent where
  step state
    | .enter node door request outcomes => some (state.arrive mesh
        { node, arrival := door.arrival request, cause := none } outcomes)
    | .fetch index call outcomes => state.fetch mesh index call outcomes
    | .deliver index node door outcomes => state.deliver mesh index node door outcomes
    | .replay index outcomes => state.replay mesh index outcomes
    | .summon index outcomes => state.summon mesh index outcomes

/-! ## What a step can change -/

/-- The visits and entries that an event may add. -/
inductive MeshState.Effect (mesh : Nat → Host) (state : MeshState) :
    MeshEvent → List Visit → Journal → Prop
  | enter {node door request outcomes added}
      (leaves : ∀ entry ∈ added,
        (door.arrival request).Leaves (mesh node) state.visits.length entry) :
      Effect mesh state (.enter node door request outcomes)
        [{ node, arrival := door.arrival request, cause := none }] added
  | fetch {index call outcomes ticket run visit added}
      (ran : state.journal[index]? = some ⟨ticket, .guestRan run⟩)
      (within : state.visits[ticket.request]? = some visit)
      (leaves : ∀ entry ∈ added,
        run.Leaves (mesh visit.node) ticket state.visits.length call entry) :
      Effect mesh state (.fetch index call outcomes)
        ((fetchOf (mesh visit.node) run call).toList.map fun fetch =>
          { node := visit.node, arrival := .mesh fetch, cause := some index }) added
  | deliver {index node door outcomes entry message sender url added}
      (lies : state.journal[index]? = some entry) (carries : entry.message = some message)
      (within : state.visits[entry.ticket.request]? = some sender)
      (parsed : (mesh sender.node).parseUrl message.url = .ok url)
      (leaves : ∀ entry ∈ added,
        (door.arrival (message.received url)).Leaves (mesh node) state.visits.length entry) :
      Effect mesh state (.deliver index node door outcomes)
        [{ node, arrival := door.arrival (message.received url), cause := some index }] added
  | replay {index outcomes ticket buffered added}
      (queued : state.journal[index]? = some ⟨ticket, .enqueued buffered⟩)
      (serves : ∀ entry ∈ added, entry.Serves (buffered.errand ticket.request)) :
      Effect mesh state (.replay index outcomes) [] added
  | summon {index node service body outcomes added}
      (leaves : ∀ entry ∈ added,
        (Arrival.system service body).Leaves (mesh node) state.visits.length entry) :
      Effect mesh state (.summon index outcomes)
        [{ node, arrival := .system service body, cause := some index }] added

/-- The next state has what the event may add, behind everything there was. -/
def MeshState.Grows (mesh : Nat → Host) (state : MeshState) (event : MeshEvent)
    (next : MeshState) : Prop :=
  ∃ visits added, next.visits = state.visits ++ visits ∧
    next.journal = state.journal ++ added ∧ state.Effect mesh event visits added

private theorem dispatch_leaves (host : Host) (outcomes : DispatchOutcomes) (id : Nat) (door : Door)
    (request : HttpRequest) (journal : Journal) :
    ∃ added, dispatch host outcomes id (door.arrival request) journal = journal ++ added ∧
      ∀ entry ∈ added, (door.arrival request).Leaves host id entry := by
  cases door with
  | listener override => exact handleNetworkRequest_leaves host outcomes id request override journal
  | mtlsGateway => exact dispatchMtlsGatewayRequest_leaves host outcomes id request journal

variable {mesh : Nat → Host} {state next : MeshState} {index : Nat} {outcomes : CallOutcomes}

private theorem effect_of_fetch {call : OutboundCall}
    (stepped : state.fetch mesh index call outcomes = some next) :
    state.Grows mesh (.fetch index call outcomes) next := by
  unfold MeshState.fetch at stepped
  split at stepped
  · next ticket run ran =>
    split at stepped
    · cases stepped
    · next visit within =>
      split at stepped
      · obtain ⟨added, written, leaves⟩ := sendRequest_leaves (mesh visit.node) outcomes run
          ticket state.visits.length call state.journal
        cases stepped
        exact ⟨_, added, rfl, written, .fetch ran within leaves⟩
      · cases stepped
  · cases stepped

private theorem effect_of_deliver {node : Nat} {door : Door} {outcomes : DispatchOutcomes}
    (stepped : state.deliver mesh index node door outcomes = some next) :
    state.Grows mesh (.deliver index node door outcomes) next := by
  obtain ⟨_, lies, stepped⟩ := Option.bind_eq_some_iff.mp stepped
  obtain ⟨message, carries, stepped⟩ := Option.bind_eq_some_iff.mp stepped
  obtain ⟨_, within, stepped⟩ := Option.bind_eq_some_iff.mp stepped
  split at stepped
  · cases stepped
  · next url parsed =>
    obtain ⟨added, written, leaves⟩ := dispatch_leaves (mesh node) outcomes
      state.visits.length door (message.received url) state.journal
    cases stepped
    exact ⟨_, added, rfl, written, .deliver lies carries within parsed leaves⟩

private theorem effect_of_replay (stepped : state.replay mesh index outcomes = some next) :
    state.Grows mesh (.replay index outcomes) next := by
  unfold MeshState.replay at stepped
  split at stepped
  · next ticket buffered queued =>
    split at stepped
    · cases stepped
    · next visit _ =>
      split at stepped
      · cases stepped
      split at stepped
      · cases stepped
        exact ⟨[], [], (List.append_nil _).symm, (List.append_nil _).symm, .replay queued (by simp)⟩
      obtain ⟨added, written, serves⟩ := executeBufferedRouteRequest_serves
        (mesh visit.node) outcomes ticket buffered state.journal
      cases stepped
      exact ⟨[], added, (List.append_nil _).symm, written, .replay queued serves⟩
  · cases stepped

private theorem effect_of_summon {outcomes : DispatchOutcomes}
    (stepped : state.summon mesh index outcomes = some next) :
    state.Grows mesh (.summon index outcomes) next := by
  obtain ⟨_, -, stepped⟩ := Option.bind_eq_some_iff.mp stepped
  obtain ⟨visit, -, stepped⟩ := Option.bind_eq_some_iff.mp stepped
  obtain ⟨call, -, stepped⟩ := Option.bind_eq_some_iff.mp stepped
  obtain ⟨added, written, leaves⟩ := callSystemService_leaves (mesh visit.node) outcomes
    state.visits.length call.1 call.2 state.journal
  cases stepped
  exact ⟨_, added, rfl, written, .summon leaves⟩

theorem effect_of_step {event : MeshEvent}
    (stepped : (meshMachine mesh).step state event = some next) : state.Grows mesh event next := by
  cases event with
  | enter node door request outcomes =>
    obtain ⟨added, written, leaves⟩ := dispatch_leaves (mesh node) outcomes
      state.visits.length door request state.journal
    cases stepped
    exact ⟨_, added, rfl, written, .enter leaves⟩
  | fetch => exact effect_of_fetch stepped
  | deliver => exact effect_of_deliver stepped
  | replay => exact effect_of_replay stepped
  | summon => exact effect_of_summon stepped

end TachyonMesh.Dispatch
