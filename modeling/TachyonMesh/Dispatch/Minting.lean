import TachyonMesh.CertManager.Signer
import TachyonMesh.Dispatch.Mesh
import TachyonMesh.NodeRegistry.ZeroTouch

/-! # Node credentials and enrollment

A node gets a credential of the cluster's authority when its enrollment start carries a
machine identity that the policy of the configuration accepts: the node registry checks
the identity and then asks the signer, a route of the mesh like any other.

The signer trusts whoever asks, and nothing in the dispatcher keeps others from asking:
its path is not a reserved one.
-/

namespace TachyonMesh.Dispatch
open Foundation NodeRegistry CertManager List Option MeshState Entry

/-! ## The registry on the mesh -/

private theorem ofBody_enrollmentForward (enrollment : EnrollmentConfig)
    (payload : AdminEnrollmentStartRequest) :
    EnrollmentStartRequest.ofBody (enrollmentForward enrollment payload) = some
      { nodePublicKey := payload.nodePublicKey
        identityToken := payload.identityToken
        oidcIssuer := if enrollment.allowsZeroTouch then enrollment.oidcIssuer else none
        oidcAudience := if enrollment.allowsZeroTouch then enrollment.oidcAudience else none
        autoApproveTags := if enrollment.allowsZeroTouch then enrollment.autoApproveTags else []
        signerRoute :=
          if enrollment.allowsZeroTouch then some clusterCaSignerRoute else none } := by
  unfold enrollmentForward
  cases payload.identityToken <;> cases enrollment.allowsZeroTouch <;>
    cases enrollment.oidcIssuer <;> cases enrollment.oidcAudience <;> rfl

/-- The identity that came with a start passes the checks under the policy of a configuration. -/
structure ZeroTouchApproved (world : World) (enrollment : EnrollmentConfig)
    (payload : AdminEnrollmentStartRequest) : Prop where
  allowed : enrollment.allowsZeroTouch
  vouched : ∃ token issuer, stated payload.identityToken = some token ∧
    stated enrollment.oidcIssuer = some issuer ∧
    Vouches world issuer enrollment.oidcAudience enrollment.autoApproveTags token

private theorem registryCalls_of_start {world : World} {enrollment : EnrollmentConfig}
    {payload : AdminEnrollmentStartRequest} {request : GuestRequest} {call : OutboundCall}
    (handed : request ∈ (registryRun (enrollmentForward enrollment payload)).request)
    (made : call ∈ world.registryCalls request) :
    call.method = "GET" ∨ ZeroTouchApproved world enrollment payload ∧
      call.body = .object [("nodePublicKey", .text payload.nodePublicKey)] := by
  cases handed
  have start : eqIgnoreAsciiCase "POST" "POST" &&
      ((splitOnce '?' enrollmentStartRoute).map Prod.fst).getD enrollmentStartRoute ==
        enrollmentStartRoute := by decide +kernel
  unfold World.registryCalls at made
  rw [if_pos start, ofBody_enrollmentForward] at made
  cases tryZeroTouch_calls made with
  | get method => exact .inl method
  | credential approvable routed same =>
    right
    cases allowed : enrollment.allowsZeroTouch with
    | false =>
      rw [allowed] at routed
      cases routed
    | true =>
      refine ⟨⟨allowed, ?_⟩, congrArg OutboundCall.body same⟩
      obtain ⟨token, issuer, presented, named, vouches⟩ := approvable.vouched
      rw [allowed] at named vouches
      exact ⟨token, issuer, presented, named, vouches⟩

/-- Runs of the registry's module make the registry's calls. -/
def MeshState.registryActs (worlds : Nat → World) (state : MeshState) : MeshEvent → Bool
  | .fetch index call _ =>
      match state.journal[index]? with
      | some ⟨_, .guestRan run⟩ => run.module != nodeRegistryModule ||
          run.request.any fun request => decide (call ∈ (worlds index).registryCalls request)
      | _ => true
  | _ => true

/-- The mesh with the registry's own code: the run in the entry `index` meets the world
`worlds index`. All other guests call what they like. -/
def enrollmentMachine (mesh : Nat → Host) (worlds : Nat → World) :
    Machine MeshState MeshEvent where
  step state event :=
    if state.registryActs worlds event then (meshMachine mesh).step state event else none

/-! ## Requests to the signer -/

/-- A guest that gets to see the arrival takes it for a signing request. -/
def Arrival.asksToSign (host : Host) : Arrival → Bool
  | .network request _ =>
      CertManager.asksToSign request.method (customDomainRouting host request).uri.text
  | .mtls request => CertManager.asksToSign request.method (Uri.ofPath systemGatewayRoute).text
  | .system service _ => CertManager.asksToSign "POST" (Uri.ofPath service.path).text
  | .mesh fetch =>
      match host.parseUrl fetch.url with
      | .error _ => false
      | .ok url =>
          match host.parseUri (appendQuery (normalizeRoutePath url.path) url.query) with
          | .error _ => false
          | .ok uri => CertManager.asksToSign fetch.method uri.text

private theorem customDomainRouting_keeps (host : Host) (request : HttpRequest) :
    (customDomainRouting host request).method = request.method ∧
      (customDomainRouting host request).body = request.body := by
  unfold customDomainRouting
  dsimp only
  split <;> exact ⟨rfl, rfl⟩

variable {host : Host}

private theorem Arrival.Asks.asksToSign {id : Nat} {arrival : Arrival} {errand : Errand}
    (asked : arrival.Asks host id errand) :
    arrival.asksToSign host = CertManager.asksToSign errand.method errand.uri := by
  cases asked with
  | network =>
    change CertManager.asksToSign _ _ = CertManager.asksToSign _ _
    unfold HttpRequest.errand
    rw [(customDomainRouting_keeps _ _).1]
  | mtls | system => rfl
  | mesh _ parsed rebuilt =>
    unfold Arrival.asksToSign
    dsimp only
    rw [parsed]
    dsimp only
    rw [rebuilt]

private theorem asksToSign_mtls (host : Host) (request : HttpRequest) :
    (Arrival.mtls request).asksToSign host = false := by
  change (eqIgnoreAsciiCase request.method "POST" && _) = false
  have other : (requestPath (Uri.ofPath systemGatewayRoute).text == signNodeRoute) = false := by
    decide +kernel
  rw [other, Bool.and_false]

private theorem asksToSign_system (host : Host) (service : SystemService) (body : Body) :
    (Arrival.system service body).asksToSign host = false := by
  cases service with
  | distLimiter | shadowProxy =>
    change CertManager.asksToSign "POST" _ = false
    decide +kernel

def Visit.isStart (visit : Visit) : Bool :=
  match visit.arrival with
  | .network request _ => request.uri.path == enrollmentStartRoute
  | _ => false

def Entry.guest (entry : Entry) : Option GuestRun :=
  match entry.event with
  | .guestRan run => some run
  | _ => none

/-- The entry is a guest's call over a socket. -/
def Entry.isCall (entry : Entry) : Bool :=
  match entry.event with
  | .sent _ => true
  | _ => false

/-- The step lets nothing but an enrollment start ask the signer: no request from outside and no
fetch inside the process does, and a message that does is a call that was made while a start was
handled. -/
def MeshState.Guarded (mesh : Nat → Host) (state : MeshState) : MeshEvent → Prop
  | .enter node door request _ => (door.arrival request).asksToSign (mesh node) = false
  | .fetch index call _ =>
      ∀ entry ∈ state.journal[index]?, ∀ visit ∈ state.visits[entry.ticket.request]?,
        ∀ run ∈ entry.guest, ∀ fetch ∈ fetchOf (mesh visit.node) run call,
          (Arrival.mesh fetch).asksToSign (mesh visit.node) = false
  | .deliver index node door _ =>
      ∀ entry ∈ state.journal[index]?, ∀ sender ∈ state.visits[entry.ticket.request]?,
        (entry.isCall ∧ sender.isStart) ∨
          ∀ message ∈ entry.message, ∀ url ∈ ((mesh sender.node).parseUrl message.url).toOption,
            (door.arrival (message.received url)).asksToSign (mesh node) = false
  | .replay _ _ | .summon _ _ => True

instance MeshState.Guarded.decidable (mesh : Nat → Host) (state : MeshState) (event : MeshEvent) :
    Decidable (state.Guarded mesh event) := by
  unfold Guarded
  split <;> infer_instance

/-! ## Where entries and visits come from -/

section
variable (mesh : Nat → Host) (worlds : Nat → World) (state : MeshState)

/-- How an entry came about: it serves the errand of its visit, it is the registry's run for a
start, or it is a call that a guest of the same visit made. -/
inductive MeshState.Origin (entry : Entry) : Prop
  | served {visit errand}
      (within : state.visits[entry.ticket.request]? = some visit)
      (asked : visit.arrival.Asks (mesh visit.node) entry.ticket.request errand)
      (serves : entry.Serves errand)
  | enrolled {visit request override payload}
      (within : state.visits[entry.ticket.request]? = some visit)
      (same : visit.arrival = .network request override) (enrolls : request.Enrolls payload)
      (ran : entry.event = .guestRan
        (registryRun (enrollmentForward (mesh visit.node).config.enrollment payload)))
  | sent {index run call message}
      (ran : state.journal[index]? = some ⟨entry.ticket, .guestRan run⟩)
      (wrote : entry.event = .sent message)
      (method : message.method = trim call.method) (body : message.body = call.body)
      (own : run.module = nodeRegistryModule →
        ∃ request ∈ run.request, call ∈ (worlds index).registryCalls request)
  | overflowed {hopLimit message} (wrote : entry.event = .forwarded hopLimit message)

/-- The visit is the delivery of a message that was sent while an enrollment start was handled. -/
inductive MeshState.SentByStart (visit : Visit) : Prop
  | intro {index ticket message sender request override}
      (caused : visit.cause = some index)
      (sent : state.journal[index]? = some ⟨ticket, .sent message⟩)
      (within : state.visits[ticket.request]? = some sender)
      (start : sender.isStart)
      (same : visit.arrival = .network request override)
      (method : request.method = message.method) (body : request.body = message.body)

/-- Every entry has an origin, and only starts have sent requests to the signer. -/
structure MeshState.Traced : Prop where
  entries : ∀ entry ∈ state.journal, state.Origin mesh worlds entry
  visits : ∀ visit ∈ state.visits, visit.arrival.asksToSign (mesh visit.node) →
    state.SentByStart visit

end

section
variable {mesh : Nat → Host} {worlds : Nat → World} {state next : MeshState}
  {visits : List Visit} {added : Journal}

private theorem MeshState.traced_initial : initial.Traced mesh worlds where
  entries entry member := by cases member
  visits visit member := by cases member

variable {entry : Entry} {visit : Visit} {run : GuestRun} {call : OutboundCall} {index : Nat}
  {outcomes : CallOutcomes} {ticket : Ticket}

section
variable (grown : next.visits = state.visits ++ visits)
  (written : next.journal = state.journal ++ added)
include grown written

private theorem MeshState.Origin.grow (origin : state.Origin mesh worlds entry) :
    next.Origin mesh worlds entry := by
  cases origin with
  | served within asked serves =>
    exact .served (grown ▸ getElem?_append_of_some within) asked serves
  | enrolled within same enrolls ran =>
    exact .enrolled (grown ▸ getElem?_append_of_some within) same enrolls ran
  | sent ran wrote method body own =>
    exact .sent (written ▸ getElem?_append_of_some ran) wrote method body own
  | overflowed wrote => exact .overflowed wrote

private theorem MeshState.SentByStart.grow (sent : state.SentByStart visit) :
    next.SentByStart visit := by
  obtain ⟨caused, sent, within, start, same, method, body⟩ := sent
  exact .intro caused (written ▸ getElem?_append_of_some sent)
    (grown ▸ getElem?_append_of_some within)
    start same method body

end

private theorem MeshState.Traced.append (traced : state.Traced mesh worlds)
    (grown : next.visits = state.visits ++ visits)
    (written : next.journal = state.journal ++ added)
    (originated : ∀ entry ∈ added, next.Origin mesh worlds entry)
    (started : ∀ visit ∈ visits, visit.arrival.asksToSign (mesh visit.node) →
      state.SentByStart visit) : next.Traced mesh worlds where
  entries entry member := by
    rw [written] at member
    rcases mem_append.mp member with old | new
    · exact (traced.entries entry old).grow grown written
    · exact originated entry new
  visits visit member asks := by
    rw [grown] at member
    rcases mem_append.mp member with old | new
    · exact (traced.visits visit old asks).grow grown written
    · exact (started visit new asks).grow grown written

private theorem MeshState.origin_of_leaves (grown : next.visits = state.visits ++ [visit])
    (leaves : visit.arrival.Leaves (mesh visit.node) state.visits.length entry) :
    next.Origin mesh worlds entry := by
  have placed : next.visits[state.visits.length]? = some visit := by
    rw [grown, getElem?_concat_length]
  cases leaves with
  | served asked serves =>
    have mine : entry.ticket.request = state.visits.length := serves.1.trans asked.request
    exact .served (mine ▸ placed) (mine ▸ asked) serves
  | enrolled same _ enrolls ran =>
    subst ran
    exact .enrolled placed same enrolls rfl

private theorem prepareOutbound_eq_ok {prepared : PreparedRequest}
    (accepted : prepareOutbound host run call = .ok prepared) :
    prepared.method = trim call.method ∧ prepared.body = call.body := by
  unfold prepareOutbound at accepted
  split at accepted
  · cases accepted
  obtain ⟨method, parsed, accepted⟩ := bind_eq_ok.mp accepted
  have trimmed : trim call.method = method := by
    unfold parseMethod at parsed
    dsimp only at parsed
    split at parsed
    · cases parsed
    · exact Except.ok.inj parsed
  split at accepted
  · cases accepted
  · obtain ⟨_, -, finished⟩ := bind_eq_ok.mp accepted
    rw [← Except.ok.inj finished]
    exact ⟨trimmed.symm, rfl⟩

section
variable (acts : state.registryActs worlds (.fetch index call outcomes))
  (ran : state.journal[index]? = some ⟨ticket, .guestRan run⟩)
include acts ran

/-- A run of the registry that makes a call makes one of the registry's. -/
theorem MeshState.call_of_registryActs (registry : run.module = nodeRegistryModule) :
    ∃ request ∈ run.request, call ∈ (worlds index).registryCalls request := by
  simp only [registryActs, ran, registry, bne_self_eq_false, Bool.false_or] at acts
  obtain ⟨request, handed, listed⟩ := Option.any_eq_true _ _ |>.mp acts
  exact ⟨request, handed, of_decide_eq_true listed⟩

private theorem MeshState.origin_of_fetch
    (grown : next.visits = state.visits ++ (fetchOf (mesh visit.node) run call).toList.map fun
      fetch => { node := visit.node, arrival := .mesh fetch, cause := some index })
    (written : next.journal = state.journal ++ added)
    (leaves : run.Leaves (mesh visit.node) ticket state.visits.length call entry) :
    next.Origin mesh worlds entry := by
  cases leaves with
  | sent accepted _ wrote =>
    obtain ⟨method, body⟩ := prepareOutbound_eq_ok accepted
    subst wrote
    exact .sent (written ▸ getElem?_append_of_some ran) rfl method body
      (call_of_registryActs acts ran)
  | overflowed _ _ _ wrote =>
    subst wrote
    exact .overflowed rfl
  | dispatched fetched asked serves =>
    rw [fetched] at grown
    exact origin_of_leaves grown (.served asked serves)

end

/-- What a replay leaves serves the errand that was put into the buffer. -/
theorem MeshState.origin_of_replay (traced : state.Traced mesh worlds)
    {buffered : BufferedRouteRequest}
    (queued : state.journal[index]? = some ⟨ticket, .enqueued buffered⟩)
    (serves : entry.Serves (buffered.errand ticket.request)) : state.Origin mesh worlds entry := by
  cases traced.entries _ (mem_of_getElem? queued) with
  | served within asked served =>
    have mine : entry.ticket.request = ticket.request := serves.1
    rw [served.buffered] at serves
    exact .served (mine ▸ within) (mine ▸ asked) serves
  | enrolled _ _ _ ran | sent _ ran | overflowed ran => cases ran

/-- A guarded delivery that asks the signer brings a message that a start has sent. -/
theorem MeshState.sentByStart_of_deliver {node : Nat} {door : Door} {outcomes : DispatchOutcomes}
    {message : OutboundRequest} {sender : Visit} {url : Url}
    (lies : state.journal[index]? = some entry) (carries : entry.message = some message)
    (within : state.visits[entry.ticket.request]? = some sender)
    (parsed : (mesh sender.node).parseUrl message.url = .ok url)
    (guarded : state.Guarded mesh (.deliver index node door outcomes))
    (asks : (door.arrival (message.received url)).asksToSign (mesh node)) :
    state.SentByStart
      { node, arrival := door.arrival (message.received url), cause := some index } := by
  have received : url ∈ ((mesh sender.node).parseUrl message.url).toOption := by
    rw [parsed]
    rfl
  rcases guarded entry lies sender within with ⟨called, start⟩ | refused
  · obtain ⟨_, event⟩ := entry
    cases event with
    | sent =>
      cases carries
      cases door with
      | listener => exact .intro rfl lies within start rfl rfl rfl
      | mtlsGateway =>
        have refused := asksToSign_mtls (mesh node) (message.received url)
        exact absurd asks (Bool.not_eq_true _ ▸ refused)
    | _ => cases called
  · rw [refused message carries url received] at asks
    cases asks

private theorem MeshState.Traced.step (traced : state.Traced mesh worlds) {event : MeshEvent}
    (guarded : state.Guarded mesh event)
    (stepped : (enrollmentMachine mesh worlds).step state event = some next) :
    next.Traced mesh worlds := by
  obtain ⟨acts, stepped⟩ := ite_none_right_eq_some.mp stepped
  obtain ⟨_, _, grown, written, effect⟩ := effect_of_step stepped
  cases effect with
  | enter leaves =>
    refine traced.append grown written ?_ ?_
    · exact fun entry member => origin_of_leaves grown (leaves entry member)
    intro visit member asks
    rw [mem_singleton.mp member] at asks
    rw [guarded] at asks
    cases asks
  | fetch ran within leaves =>
    refine traced.append grown written ?_ ?_
    · exact fun entry member => origin_of_fetch acts ran grown written (leaves entry member)
    intro visit member asks
    obtain ⟨fetch, fetched, rfl⟩ := mem_map.mp member
    have refused := guarded _ ran _ within _ rfl fetch (mem_toList.mp fetched)
    rw [refused] at asks
    cases asks
  | deliver lies carries within parsed leaves =>
    refine traced.append grown written ?_ ?_
    · exact fun entry member => origin_of_leaves grown (leaves entry member)
    · intro visit member asks
      obtain rfl := mem_singleton.mp member
      exact sentByStart_of_deliver lies carries within parsed guarded asks
  | replay queued serves =>
    refine traced.append grown written ?_ (by simp)
    exact fun entry member =>
      (origin_of_replay traced queued (serves entry member)).grow grown written
  | @summon _ node service body _ _ leaves =>
    refine traced.append grown written ?_ ?_
    · exact fun entry member => origin_of_leaves grown (leaves entry member)
    intro visit member asks
    rw [mem_singleton.mp member, asksToSign_system] at asks
    cases asks

end

/-! ## Who mints for whom -/

/-- The run is one of the cert-manager for a signing request. -/
def GuestRun.reachesSigner (run : GuestRun) : Bool :=
  run.module == certManagerModule &&
    run.request.any fun request => asksToSign request.method request.uri

/-- The node credential that a run of the cert-manager issues. -/
def GuestRun.mints (signer : Signer) (run : GuestRun) : Option NodeCredential :=
  if run.module = certManagerModule then
    run.request.bind fun request => (signer.handleRequest request).issued
  else none

/-- The request is the call that the registry made for an enrollment start with the payload, after
the identity in the payload had passed the checks under the policy of the start's host. -/
inductive MeshState.ActsFor (mesh : Nat → Host) (worlds : Nat → World) (state : MeshState)
    (id : Nat) (payload : AdminEnrollmentStartRequest) : Prop
  | intro {visit start cause index ticket message request override}
      (visited : state.visits[id]? = some visit)
      (caused : visit.cause = some cause)
      (sent : state.journal[cause]? = some ⟨ticket, .sent message⟩)
      (handled : state.visits[ticket.request]? = some start)
      (started : start.arrival = .network request override)
      (enrolls : request.Enrolls payload)
      (ran : state.journal[index]? = some ⟨ticket, .guestRan
        (registryRun (enrollmentForward (mesh start.node).config.enrollment payload))⟩)
      (approved : ZeroTouchApproved (worlds index) (mesh start.node).config.enrollment payload)

/-- Whoever reaches the signer acts for an enrollment start, and every credential is for the key of
that start. -/
structure MeshState.MintsByStarts (mesh : Nat → Host) (worlds : Nat → World)
    (state : MeshState) : Prop where
  reached : ∀ ticket run, ⟨ticket, .guestRan run⟩ ∈ state.journal → run.reachesSigner →
    ∃ payload, state.ActsFor mesh worlds ticket.request payload
  minted : ∀ ticket run, ⟨ticket, .guestRan run⟩ ∈ state.journal → ∀ signer issued,
    run.mints signer = some issued → ∃ payload,
      state.ActsFor mesh worlds ticket.request payload ∧
        issued.nodePublicKey = trim payload.nodePublicKey

section
variable {mesh : Nat → Host} {worlds : Nat → World} {state : MeshState} {host : Host} {id : Nat}
  {request : HttpRequest} {override : Option String} {errand : Errand} {ticket : Ticket}
  {run : GuestRun} {start : Visit}

private theorem Arrival.Asks.body_of_network
    (asked : (Arrival.network request override).Asks host id errand) :
    errand.body = request.body := by
  cases asked with
  | network => exact (customDomainRouting_keeps _ _).2

private theorem Arrival.method_of_asksToSign
    (asks : (Arrival.network request override).asksToSign host) :
    request.method ≠ "GET" := by
  intro get
  have post : eqIgnoreAsciiCase request.method "POST" := ((Bool.and_eq_true _ _).mp asks).1
  rw [get] at post
  exact absurd post (by decide +kernel)

private theorem Visit.not_asks_of_isStart {visit : Visit}
    (start : visit.isStart) : ¬visit.arrival.Asks host id errand := by
  intro asked
  unfold Visit.isStart at start
  generalize visit.arrival = arrival at asked start
  cases asked with
  | network _ routed => exact routed (beq_iff_eq.mp start)
  | mtls | system | mesh => cases start

section
variable (traced : state.Traced mesh worlds)
include traced

private theorem MeshState.Traced.run_of_start {index : Nat}
    (ran : state.journal[index]? = some ⟨ticket, .guestRan run⟩)
    (within : state.visits[ticket.request]? = some start) (starts : start.isStart) :
    ∃ request override payload, start.arrival = .network request override ∧
      request.Enrolls payload ∧
      run = registryRun (enrollmentForward (mesh start.node).config.enrollment payload) := by
  cases traced.entries _ (mem_of_getElem? ran) with
  | served visited asked =>
    cases within.symm.trans visited
    exact absurd asked (Visit.not_asks_of_isStart starts)
  | enrolled visited same enrolls wrote =>
    cases within.symm.trans visited
    exact ⟨_, _, _, same, enrolls, JournalEvent.guestRan.inj wrote⟩
  | sent _ wrote | overflowed wrote => cases wrote

/-- A call other than a GET that was made for an enrollment start carries the key of the start, and
the checks have passed. -/
theorem MeshState.Traced.call_of_start {cause : Nat} {message : OutboundRequest}
    (sent : state.journal[cause]? = some ⟨ticket, .sent message⟩)
    (within : state.visits[ticket.request]? = some start) (starts : start.isStart)
    (other : message.method ≠ "GET") :
    ∃ index request override payload, start.arrival = .network request override ∧
      request.Enrolls payload ∧
      state.journal[index]? = some ⟨ticket, .guestRan
        (registryRun (enrollmentForward (mesh start.node).config.enrollment payload))⟩ ∧
      ZeroTouchApproved (worlds index) (mesh start.node).config.enrollment payload ∧
      message.body = .object [("nodePublicKey", .text payload.nodePublicKey)] := by
  cases traced.entries _ (mem_of_getElem? sent) with
  | served _ _ serves => exact serves.2.elim
  | enrolled _ _ _ wrote | overflowed wrote => cases wrote
  | sent ran wrote method body own =>
    cases wrote
    obtain ⟨request, override, payload, started, enrolls, rfl⟩ :=
      traced.run_of_start ran within starts
    obtain ⟨_, given, made⟩ := own rfl
    rcases registryCalls_of_start given made with get | ⟨approved, carried⟩
    · rw [get] at method
      exact absurd (method.trans (by decide +kernel)) other
    · exact ⟨_, request, override, payload, started, enrolls, ran, approved, body.trans carried⟩

private theorem MeshState.Traced.actsFor {request : GuestRequest}
    (ran : ⟨ticket, .guestRan run⟩ ∈ state.journal) (shown : run.request = some request)
    (asks : asksToSign request.method request.uri) :
    ∃ payload, state.ActsFor mesh worlds ticket.request payload ∧
      signNodeRequest request.body = some payload.nodePublicKey := by
  cases traced.entries _ ran with
  | sent _ wrote | overflowed wrote => cases wrote
  | enrolled _ _ _ wrote =>
    cases JournalEvent.guestRan.inj wrote
    cases shown
    have other : asksToSign "POST" enrollmentStartRoute = false := by decide +kernel
    rw [other] at asks
    cases asks
  | served visited asked serves =>
    obtain ⟨method, uri, body⟩ := serves.2 request shown
    rw [method, uri, ← asked.asksToSign] at asks
    cases traced.visits _ (mem_of_getElem? visited) asks with
    | intro caused sent within start same sameMethod sameBody =>
      rw [same] at asked asks
      have posted := Arrival.method_of_asksToSign asks
      rw [sameMethod] at posted
      obtain ⟨_, _, _, payload, started, enrolls, handled, approved, carried⟩ :=
        traced.call_of_start sent within start posted
      refine ⟨payload, .intro visited caused sent within started enrolls handled approved, ?_⟩
      rw [body, asked.body_of_network, sameBody, carried]
      rfl

private theorem MeshState.Traced.mintsByStarts : state.MintsByStarts mesh worlds where
  reached ticket run ran reaches := by
    obtain ⟨-, asks⟩ := (Bool.and_eq_true _ _).mp reaches
    obtain ⟨_, shown, asks⟩ := Option.any_eq_true _ _ |>.mp asks
    obtain ⟨payload, acts, -⟩ := traced.actsFor ran shown asks
    exact ⟨payload, acts⟩
  minted ticket run ran signer issued mints := by
    obtain ⟨-, mints⟩ := ite_none_right_eq_some.mp mints
    obtain ⟨_, shown, answered⟩ := bind_eq_some_iff.mp mints
    obtain ⟨asks, _, decoded, same⟩ := handleRequest_eq_credential (credential_of_issued answered)
    obtain ⟨payload, acts, carried⟩ := traced.actsFor ran shown asks
    cases decoded.symm.trans carried
    exact ⟨payload, acts, same⟩

end

/-- Node credentials are minted for enrollment starts only: in every run whose steps are all
guarded, each request that reaches the signer is the registry's call for a start whose identity has
passed the checks under the policy of the start's host, and the credential is for the key of that
start. -/
theorem credentials_minted_by_starts (mesh : Nat → Host) (worlds : Nat → World)
    {events : List MeshEvent} {final : MeshState}
    (reached : (enrollmentMachine mesh worlds).run .initial events = some final)
    (guarded : (enrollmentMachine mesh worlds).Along (Guarded mesh) .initial events) :
    final.MintsByStarts mesh worlds := by
  have traced : final.Traced mesh worlds :=
    Machine.invariant_run (fun traced => traced.step) traced_initial guarded reached
  exact traced.mintsByStarts

end

/-! ## A cluster with a signer -/

/-- The key of the credential that an entry's guest issues. -/
def Entry.issues (signer : Signer) (entry : Entry) : Option String :=
  (entry.guest.bind (GuestRun.mints signer)).map NodeCredential.nodePublicKey

variable {signer : Signer} {key : String}

private theorem Entry.run_of_issues {entry : Entry} (issues : entry.issues signer = some key) :
    ∃ run issued, entry = ⟨entry.ticket, .guestRan run⟩ ∧ run.mints signer = some issued ∧
      issued.nodePublicKey = key := by
  obtain ⟨issued, found, same⟩ := map_eq_some_iff.mp issues
  obtain ⟨run, guest, mints⟩ := bind_eq_some_iff.mp found
  obtain ⟨_, event⟩ := entry
  cases event with
  | guestRan =>
    cases guest
    exact ⟨run, issued, rfl, mints, same⟩
  | _ => cases guest

/-- The entry issues a credential, and its visit was not caused by a call over a socket. -/
def MeshState.bypassed (signer : Signer) (index : Nat) (key : String) (state : MeshState) : Bool :=
  match state.journal[index]? with
  | none => false
  | some entry => entry.issues signer == some key &&
      !((state.visits[entry.ticket.request]?).bind Visit.cause).any fun cause =>
        (state.journal[cause]?).any isCall

private theorem MeshState.not_mintsByStarts_of_bypassed {index : Nat} {state : MeshState}
    (bypassed : state.bypassed signer index key) (mesh : Nat → Host)
    (worlds : Nat → World) : ¬state.MintsByStarts mesh worlds := by
  intro mintsByStarts
  unfold MeshState.bypassed at bypassed
  split at bypassed
  · cases bypassed
  · next entry found =>
    obtain ⟨issues, uncalled⟩ := (Bool.and_eq_true _ _).mp bypassed
    obtain ⟨run, issued, same, mints, -⟩ := run_of_issues (beq_iff_eq.mp issues)
    have ran : ⟨entry.ticket, .guestRan run⟩ ∈ state.journal := same ▸ mem_of_getElem? found
    obtain ⟨_, acts, -⟩ := mintsByStarts.minted _ run ran signer issued mints
    obtain ⟨visited, caused, sent, -⟩ := acts
    rw [visited, bind_some, caused, any_some, sent, any_some] at uncalled
    cases uncalled

/-- The signer and the registry are sealed, enrollment is zero-touch, and the requests of a route
are shadowed by the signer. -/
def caConfig : IntegrityConfig :=
  { hostAddress := "127.0.0.1:8080"
    routes :=
      [{ path := clusterCaSignerRoute
         role := .system
         name := certManagerModule
         targets :=
           [{ module := certManagerModule, weight := 100, websocket := false, matchHeader := none,
              requires := [] }] },
        nodeRegistryRoute,
        { path := "/api/app", name := "app", shadowTarget := some clusterCaSignerRoute },
        { path := systemShadowProxyRoute, role := .system, name := "shadow-proxy" }]
    enrollment :=
      { mode := .zeroTouch
        oidcIssuer := some "https://issuer"
        autoApproveTags := ["namespace=tachyon"] } }

def caMesh : Nat → Host := fun _ => plainHost caConfig

def caSigner : Signer where
  caSigningKey := .ok { verifyingKey := "ca", sign := fun _ => "signed" }
  now := 0
  bodyError := fun _ => "missing field"

/-- An issuer that publishes one key, and libraries that know the texts of one token. -/
def issuerWorld : World where
  now := 100
  answer := fun _ call => .ok
    { status := 200
      headers := .empty
      body := if call.url = "https://issuer/keys" then "keys" else "discovery" }
  decodeBase64 := .ok
  parseJson := fun text =>
    if text = "discovery" then .ok (.object [("jwks_uri", .text "https://issuer/keys")])
    else if text = "keys" then
      .ok (.object [("keys", .array [.object [("e", .text "AQAB"), ("n", .text "AA")]])])
    else if text = "claims" then
      .ok (.object [("exp", .natural 1000),
        ("kubernetes.io", .object [("namespace", .text "tachyon")])])
    else .ok (.object [])
  verifyRs256 := fun _ signature _ _ =>
    if signature = "signature" then .ok () else .error "JWT signature verification failed"

def signBody : Body := .object [("nodePublicKey", .text "ab")]

/-- Anyone on the network asks the signer. -/
def networkMint : List MeshEvent :=
  [.enter 0 (.listener none)
    { method := "POST", uri := .ofPath clusterCaSignerRoute, headers := .empty,
      body := signBody } {}]

def signCall : OutboundCall :=
  { method := "POST", url := clusterCaSignerRoute, headers := [], body := signBody }

/-- A guest of a user's route asks the signer. -/
def guestMint : List MeshEvent :=
  [.enter 0 (.listener none) (getRequest "/api/app" []) {}, .fetch 0 signCall {}]

/-- The shadow proxy sends a request from the network again, to the shadow target of its route. -/
def shadowMint : List MeshEvent :=
  [.enter 0 (.listener none)
    { method := "POST", uri := .ofPath "/api/app", headers := .empty, body := signBody } {},
    .summon 1 {}, .fetch 2 { signCall with url := "http://mesh" ++ clusterCaSignerRoute } {}]

/-- The signer serves requests from the network, fetches of users' guests and requests that are
shadowed, with no enrollment start in sight. -/
theorem credentials_minted_without_start :
    caConfig.validated ∧ (caConfig.sealedRoute clusterCaSignerRoute).isSome ∧
    ∀ run ∈ [(networkMint, 0), (guestMint, 2), (shadowMint, 3)], ∃ final,
      (enrollmentMachine caMesh fun _ => issuerWorld).run .initial run.1 = some final ∧
        (final.journal[run.2]?).bind (issues caSigner) = some "ab" ∧
        ¬final.MintsByStarts caMesh fun _ => issuerWorld := by
  refine ⟨by decide +kernel, by decide +kernel, ?_⟩
  have bypasses : ∀ run ∈ [(networkMint, 0), (guestMint, 2), (shadowMint, 3)], ∃ final,
      (enrollmentMachine caMesh fun _ => issuerWorld).run .initial run.1 = some final ∧
        (final.journal[run.2]?).bind (issues caSigner) = some "ab" ∧
        final.bypassed caSigner run.2 "ab" := by decide +kernel
  intro run listed
  obtain ⟨final, reached, issued, bypassed⟩ := bypasses run listed
  exact ⟨final, reached, issued, not_mintsByStarts_of_bypassed bypassed _ _⟩

/-- An enrollment start, the registry's calls for it, and the delivery of the last one. -/
def zeroTouchRun : List MeshEvent :=
  [.enter 0 (.listener none)
    { method := "POST"
      uri := .ofPath enrollmentStartRoute
      headers := .empty
      body := .object
        [("nodePublicKey", .text "ab"), ("identityToken", .text "header.claims.signature")] } {},
    .fetch 0 (getCall "https://issuer/.well-known/openid-configuration") {},
    .fetch 0 (getCall "https://issuer/keys") {},
    .fetch 0 (credentialCall clusterCaSignerRoute "ab") {},
    .deliver 3 0 (.listener none) {}]

/-- A start with a valid token gets its credential. -/
theorem credential_minted_for_start :
    ∃ final, (enrollmentMachine caMesh fun _ => issuerWorld).run .initial zeroTouchRun =
        some final ∧ (final.journal[4]?).bind (issues caSigner) = some "ab" ∧
      final.MintsByStarts caMesh fun _ => issuerWorld := by
  obtain ⟨final, reached, issued⟩ : ∃ final,
      (enrollmentMachine caMesh fun _ => issuerWorld).run .initial zeroTouchRun = some final ∧
        (final.journal[4]?).bind (issues caSigner) = some "ab" := by decide +kernel
  exact ⟨final, reached, issued, credentials_minted_by_starts caMesh _ reached (by decide +kernel)⟩

end TachyonMesh.Dispatch
