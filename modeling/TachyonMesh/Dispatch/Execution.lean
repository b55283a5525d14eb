import TachyonMesh.Dispatch.Routes
import TachyonMesh.Foundation.Chronicle
import TachyonMesh.Foundation.Machine

/-! # Route execution

How the host takes a request to a guest: the middleware and the retries around a
route, the distributed limiter and the admission checks in front of it, the run
itself, the forwarding to a peer and the buffer for requests that find no permit.

A call is a program over the journal, to which it appends what other parts of the
system can see: what a middleware and the limiter answered, which guest ran where,
what was sent to a peer or to the shadow proxy and what was put into the buffer.
What the parts of the host that are not modelled answer during a call (permits,
memory, volumes, peers, the guest itself) is given by `CallOutcomes`.
-/

namespace TachyonMesh.Dispatch
open Foundation Program

/-! ## Answers -/

/-- An error answer: a status and a message. -/
structure Rejection where
  status : Nat
  message : String
deriving DecidableEq

/-- A body in full, or as a stream. -/
inductive RouteResponseBody where
  | buffered (content : String)
  | streaming
deriving DecidableEq

/-- What a guest answers. -/
structure GuestHttpResponse where
  status : Nat
  headers : HeaderMap
  body : RouteResponseBody
deriving DecidableEq

namespace GuestHttpResponse

def text (status : Nat) (content : String) : GuestHttpResponse :=
  { status, headers := .empty, body := .buffered content }

def withHeader (response : GuestHttpResponse) (name value : String) : GuestHttpResponse :=
  { response with headers := response.headers.append name value }

end GuestHttpResponse

open GuestHttpResponse

def Rejection.response (rejection : Rejection) : GuestHttpResponse :=
  .text rejection.status rejection.message

/-! ## Hop limits -/

def hopLimitHeader : String := "x-tachyon-hop-limit"

def defaultHopLimit : Nat := 10

/-- The value of a digit string that fits 32 bits. -/
def parseDigits (digits : List Char) : Option Nat :=
  if digits.isEmpty || !digits.all Char.isDigit then none
  else
    let value := digits.foldl (fun value c => value * 10 + (c.toNat - 48)) 0
    if value ≤ u32Max then some value else none

/-- `str::parse::<u32>`. -/
def parseU32 (text : String) : Option Nat :=
  match text.toList with
  | '+' :: rest => parseDigits rest
  | digits => parseDigits digits

/-- `resolve_incoming_hop_limit`: `none` when the limit is used up. -/
def resolveIncomingHopLimit (headers : HeaderMap) : Option Nat :=
  let hopLimit := ((headers.getStr hopLimitHeader).bind parseU32).getD defaultHopLimit
  if hopLimit = 0 then none else some hopLimit

def loopDetectedResponse : GuestHttpResponse :=
  .text 508 "Tachyon Mesh: Routing loop detected (Hop limit exceeded)"

/-! ## The journal -/

/-- A call runs the route's own guest, or its middleware's. -/
inductive Purpose where
  | target
  | middleware
deriving DecidableEq

/-- Which request a call belongs to, and which attempt at it. -/
structure Ticket where
  request : Nat
  attempt : Nat
  purpose : Purpose
deriving DecidableEq

/-- What executes a guest. -/
inductive Runner where
  | engine
  | tee (backend : TeeBackendConfig)
  | microvm
  | streaming
  | websocket
deriving DecidableEq

/-- What a guest's handler is called with. -/
structure GuestRequest where
  method : String
  uri : String
  headers : HeaderMap
  body : Body
deriving DecidableEq

/-- A guest's run: the route whose code it is, the module, and what the host keeps for the
guest's own calls (`contextHeaders`, and whether a mesh fetch may stay in the process). -/
structure GuestRun where
  route : IntegrityRoute
  module : String
  runner : Runner
  request : Option GuestRequest
  contextHeaders : HeaderMap
  localDispatch : Bool
deriving DecidableEq

/-- A request as it is buffered. -/
structure BufferedRouteRequest where
  routePath : String
  selectedModule : String
  request : HttpRequest
  hopLimit : Nat
deriving DecidableEq

/-- A request on the wire. -/
structure OutboundRequest where
  url : String
  method : String
  headers : HeaderMap
  body : Body
deriving DecidableEq

/-- The reply of the limiter's route; `allowed` is the boolean member of that name. -/
inductive LimiterReply where
  | timedOut
  | failed (rejection : Rejection)
  | answered (status : Nat) (allowed : Option Bool)
  | unreadable
deriving DecidableEq

/-- The limiter has answered, and not allowed the call. -/
def LimiterReply.refuses : LimiterReply → Bool
  | .answered status allowed => 200 ≤ status && status < 300 && allowed == some false
  | _ => false

/-- What a call leaves for others to see. The limiter's reply comes with the body of the request
that it answers, a shadowed call with the body for the shadow proxy. -/
inductive JournalEvent where
  | middlewareAnswered (name : String) (status : Nat)
  | limiterAnswered (check : Body) (reply : LimiterReply)
  | shadowed (event : Body)
  | guestRan (run : GuestRun)
  | forwarded (hopLimit : Nat) (request : OutboundRequest)
  | sent (request : OutboundRequest)
  | enqueued (buffered : BufferedRouteRequest)
deriving DecidableEq

/-- An event and the call it belongs to. -/
structure Entry where
  ticket : Ticket
  event : JournalEvent
deriving DecidableEq

/-- What calls have done, in order. -/
abbrev Journal := List Entry

/-- A call over the journal. -/
abbrev Action := Program Journal Rejection

/-- What a call to a route works on. -/
structure Call where
  ticket : Ticket
  route : IntegrityRoute
  request : HttpRequest
  hopLimit : Nat

def Call.note (call : Call) (event : JournalEvent) : Action Unit :=
  record ⟨call.ticket, event⟩

/-! ## Outcomes -/

/-- How the wait for a permit ends. -/
inductive PermitOutcome where
  | acquired
  | closed
  | timedOut
deriving DecidableEq

/-- Where a request is buffered. -/
inductive BufferedRequestTier where
  | ram
  | disk

/-- How the wait for a buffered answer ends. -/
inductive BufferedWait where
  | finished (result : Except Rejection GuestHttpResponse)
  | canceled
  | timedOut

/-- What comes of a request to a peer. -/
inductive PeerOutcome where
  | replied (status : Nat) (headers : HeaderMap) (body : String)
  | failed (error : String)
  | handshakeTimedOut

/-- What a microVM leaves behind. -/
structure MicroVmResult where
  status : Nat
  stdout : String
  stderr : String

/-- What the rest of the host answers during one call. `permit` is `none` for a route
without a limiter of its own. -/
structure CallOutcomes where
  shed : Bool := false
  limiter : LimiterReply := .answered 200 (some true)
  roll : Nat := 0
  canary : Option String := none
  availableRam : Nat := u64Max
  vramCritical : Option Nat := none
  admissionOverride : Option String := none
  overflowOverride : Option String := none
  peer : PeerOutcome := .failed "no route to host"
  permit : Option PermitOutcome := some .acquired
  saturated : Bool := false
  memoryCritical : Bool := false
  buffering : Except String BufferedRequestTier := .ok .ram
  wait : BufferedWait := .timedOut
  volumes : Except String Unit := .ok ()
  encryptedVolumes : Except String Unit := .ok ()
  microvmRunner : Except String Unit := .ok ()
  microvm : Except String MicroVmResult := .ok ⟨200, "", ""⟩
  admission : Except Rejection Unit := .ok ()
  guest : Except Rejection GuestHttpResponse := .ok (.text 200 "")
  sealing : Except String Unit := .ok ()

/-- One attempt: the middleware's call and the route's. When the route's timeout strikes,
`elapsed` says how many journal entries the attempt had written. -/
structure AttemptOutcomes where
  middleware : CallOutcomes := {}
  route : CallOutcomes := {}
  elapsed : Option Nat := none

/-- What the rest of the host answers while it handles one request. -/
structure DispatchOutcomes where
  rateLimited : Bool := false
  roll : Nat := 0
  attempts : Nat → AttemptOutcomes := fun _ => {}
  reply : GuestHttpResponse := .text 200 ""

/-! ## Distributed rate limit -/

def systemDistLimiterRoute : String := "/system/dist-limiter"

def distributedRateLimitKey (host : Host) (policy : DistributedRateLimitConfig)
    (headers : HeaderMap) (routePath : String) : Except String String :=
  let route := normalizeRoutePath routePath
  let forwardedFor := (headers.getStr "x-forwarded-for").bind fun value => (split ',' value).head?
  let ip := ((forwardedFor.map trim).filter (· != "")).getD "unknown"
  match policy.scope with
  | .ip => .ok ("ip:" ++ ip ++ ":" ++ route)
  | .tenant => (host.verifyHeader headers).map fun claims =>
      "tenant:" ++ (claims.tenantId.filter (trim · != "")).getD claims.routePath ++ ":" ++ route
  | .token => (host.verifyHeader headers).map fun claims =>
      "token:" ++ (claims.tokenId.filter (trim · != "")).getD claims.routePath ++ ":" ++ route

/-- Every answer that is not a refusal lets the call through. -/
def distributedRateLimitDecision (route : IntegrityRoute) (status : Nat) (allowed : Option Bool) :
    Option Rejection :=
  if !(200 ≤ status && status < 300) then none
  else if allowed.getD true then none
  else some ⟨429, "distributed rate limit exceeded for route `" ++ route.path ++ "`"⟩

/-- The body for the limiter's route; the limit of the policy goes with the key. -/
def limiterCheck (key : String) : Body :=
  .object [("key", .text key), ("threshold", .other), ("window_seconds", .other)]

/-- What the limiter's route is asked, when it is asked. -/
def limiterQuestion (host : Host) (route : IntegrityRoute) (headers : HeaderMap) : Option Body :=
  match route.distributedRateLimit, host.config.sealedRoute systemDistLimiterRoute with
  | some policy, some _ =>
      (distributedRateLimitKey host policy headers route.path).toOption.map limiterCheck
  | _, _ => none

def enforceDistributedRateLimit (host : Host) (route : IntegrityRoute) (headers : HeaderMap)
    (reply : LimiterReply) : Option Rejection :=
  match route.distributedRateLimit with
  | none => none
  | some policy =>
      match host.config.sealedRoute systemDistLimiterRoute with
      | none => none
      | some _ =>
          match distributedRateLimitKey host policy headers route.path with
          | .error message => some ⟨401, message⟩
          | .ok _ =>
              match reply with
              | .answered status allowed => distributedRateLimitDecision route status allowed
              | _ => none

/-! ## Forwarding -/

/-- The headers of a forward: all but the hop-by-hop ones, then the lowered hop limit. -/
def forwardedHeaders (headers : HeaderMap) (hopLimit : Nat) : HeaderMap :=
  HeaderMap.append
    ⟨headers.fields.filter fun field =>
      field.1 != "host" && field.1 != "content-length" && field.1 != "connection"⟩
    hopLimitHeader (toString (hopLimit - 1))

def withoutTransferHeaders (headers : HeaderMap) : HeaderMap :=
  ⟨headers.fields.filter fun field =>
    field.1 != "content-length" && field.1 != "connection" && field.1 != "transfer-encoding"⟩

section
variable (call : Call) (destination : String) (peer : PeerOutcome)

/-- What the three forwarders share: send the request, and build the answer from the reply. -/
def forward (build : (status : Nat) → HeaderMap → (body : String) → GuestHttpResponse)
    (failure : String → Rejection) (timedOut : Rejection) : Action GuestHttpResponse := do
  call.note (.forwarded call.hopLimit
    { url := destination
      method := call.request.method
      headers := forwardedHeaders call.request.headers call.hopLimit
      body := call.request.body })
  match peer with
  | .replied status headers body => pure (build status headers body)
  | .failed error => fail (failure error)
  | .handshakeTimedOut => fail timedOut

def streamedReply (status : Nat) (headers : HeaderMap) (_body : String) : GuestHttpResponse :=
  { status, headers := withoutTransferHeaders headers, body := .streaming }

def bufferedReply (status : Nat) (headers : HeaderMap) (body : String) : GuestHttpResponse :=
  { status, headers, body := .buffered body }

def overlayFailure (destination error : String) : Rejection :=
  ⟨502, "mesh-overlay forward to `" ++ destination ++ "` failed: " ++ error⟩

def forwardRequestToOverride : Action GuestHttpResponse :=
  let failure := fun error =>
    (⟨502, "route override forward to `" ++ destination ++ "` failed: " ++ error⟩ : Rejection)
  forward call destination peer streamedReply failure (failure "timed out")

def forwardRequestToOverrideAsGuestResponse : Action GuestHttpResponse :=
  forward call destination peer bufferedReply (overlayFailure destination)
    (overlayFailure destination "timed out")

def forwardRequestToOverrideAsStreamingResponse : Action GuestHttpResponse :=
  forward call destination peer streamedReply (overlayFailure destination)
    ⟨504, "route `" ++ call.route.path ++ "` peer handshake timed out"⟩

/-- A forward for a client, which may be streamed, or for a guest, which may not. -/
def forwardOverflow (allowStreamingOverflow : Bool) : Action GuestHttpResponse :=
  if allowStreamingOverflow then forwardRequestToOverrideAsStreamingResponse call destination peer
  else forwardRequestToOverrideAsGuestResponse call destination peer

end

def bufferReplayHeader : String := "x-tachyon-buffer-replay"

/-- `control_plane_override_destination`, where `answer` is what the override table and the
peers' capabilities give for the route. -/
def controlPlaneOverrideDestination (answer : Option String) (headers : HeaderMap) :
    Option String :=
  if headers.containsKey bufferReplayHeader then none else answer

/-! ## Admission -/

def ResourcePolicy.requiredRamBytes (policy : ResourcePolicy) : Nat :=
  max (min (policy.minRamGb.getD 0 * 1024 * 1024 * 1024) u64Max)
    (min (policy.minRamMb.getD 0 * 1024 * 1024) u64Max)

def insufficientRam (route : IntegrityRoute) (required available : Nat) : GuestHttpResponse :=
  (text 503 ("route `" ++ route.path ++ "` requires " ++ toString required ++
    " bytes of available RAM but only " ++ toString available ++ " bytes are available")).withHeader
    "x-tachyon-reason" "Insufficient-Cluster-Resources"

/-- An answer instead of a run, or `none` to go on. -/
def enforceResourceAdmission (outcomes : CallOutcomes) (call : Call)
    (allowStreamingOverflow : Bool) : Action (Option GuestHttpResponse) :=
  match call.route.resourcePolicy with
  | none => pure none
  | some policy =>
      let required := policy.requiredRamBytes
      if required = 0 ∨ required ≤ outcomes.availableRam then pure none
      else if policy.admissionStrategy = .meshRetry then do
        let _ ← ofExcept
          ((selectRouteTarget call.route call.request.headers outcomes.roll).mapError (⟨500, ·⟩))
        match controlPlaneOverrideDestination outcomes.admissionOverride call.request.headers with
        | some destination => do
            let response ← forwardOverflow call destination outcomes.peer allowStreamingOverflow
            pure (some response)
        | none => pure (some (insufficientRam call.route required outcomes.availableRam))
      else pure (some (insufficientRam call.route required outcomes.availableRam))

/-- `enforce_vram_admission`; `vramCritical` is the utilization when pressure is critical. -/
def enforceVramAdmission (outcomes : CallOutcomes) (route : IntegrityRoute) :
    Option GuestHttpResponse :=
  if route.inferenceComponents.isEmpty then none
  else outcomes.vramCritical.map fun utilization =>
    ((text 503 ("route `" ++ route.path ++
      "` inference deferred: VRAM utilization " ++ toString utilization ++
      "% exceeds critical threshold")).withHeader "retry-after" "5").withHeader
      "x-tachyon-reason" "vram-saturated"

/-! ## Running a guest -/

/-- What runs the route's guest when it does not run in a microVM. -/
def runnerFor (host : Host) (route : IntegrityRoute) : Except Rejection Runner :=
  if route.requiresTee then
    match host.config.teeBackend with
    | some backend => .ok (.tee backend)
    | none =>
        .error ⟨503, "route `" ++ route.path ++ "` requires a TEE backend but none is configured"⟩
  else .ok .engine

/-- An Enarx backend runs the guest outside the host. -/
def Runner.inHost : Runner → Bool
  | .tee (.enarx _) => false
  | .microvm => false
  | _ => true

def Call.guestRequest (call : Call) : GuestRequest :=
  { method := call.request.method
    uri := call.request.uri.text
    headers := call.request.headers
    body := call.request.body }

/-- The run of a guest for the call. -/
def Call.guestRun (call : Call) (module : String) (runner : Runner) : GuestRun :=
  { route := call.route
    module
    runner
    request := some call.guestRequest
    contextHeaders := call.request.headers
    localDispatch := runner.inHost }

def teeBackendHeaderValue : TeeBackendConfig → String
  | .localEnclave => "local-enclave"
  | .enarx _ => "enarx"

def annotateTeeResponse (response : GuestHttpResponse) (backend : String) : GuestHttpResponse :=
  let kept : HeaderMap := ⟨response.headers.fields.filter fun field =>
    field.1 != "x-tachyon-runtime" && field.1 != "x-tachyon-tee-backend"⟩
  { response with
    headers := (kept.append "x-tachyon-runtime" ("tee-" ++ backend)).append
      "x-tachyon-tee-backend" backend }

def annotateRunner (runner : Runner) (response : GuestHttpResponse) : GuestHttpResponse :=
  match runner with
  | .tee backend => annotateTeeResponse response (teeBackendHeaderValue backend)
  | _ => response

def microvmResponse (result : MicroVmResult) : GuestHttpResponse :=
  let status := if 100 ≤ result.status ∧ result.status < 1000 then result.status else 500
  let content := if result.stdout = "" then result.stderr else result.stdout
  let response := (text status content).withHeader "x-tachyon-runtime" "microvm"
  if result.stderr = "" then response
  else response.withHeader "x-tachyon-microvm-stderr" result.stderr

section
variable (host : Host) (outcomes : CallOutcomes) (call : Call) (module : String)

/-- No TEE is asked for. -/
def runInMicrovm : Action GuestHttpResponse := do
  ofExcept (outcomes.microvmRunner.mapError fun error =>
    ⟨503, "microvm runner rejected route `" ++ call.route.path ++ "`: " ++ error⟩)
  call.note (.guestRan (call.guestRun module .microvm))
  let result ← ofExcept (outcomes.microvm.mapError fun error =>
    ⟨502, "microvm runner failed for route `" ++ call.route.path ++ "`: " ++ error⟩)
  pure (microvmResponse result)

/-- Admission comes before the choice of a TEE. -/
def runWithRunner : Action GuestHttpResponse := do
  ofExcept outcomes.admission
  let runner ← ofExcept (runnerFor host call.route)
  call.note (.guestRan (call.guestRun module runner))
  ofExcept (outcomes.sealing.mapError (⟨500, ·⟩))
  let response ← ofExcept outcomes.guest
  pure (annotateRunner runner response)

/-- A microVM is asked for before the TEE. -/
def executeRouteRequestWithAcquiredPermit : Action GuestHttpResponse := do
  ofExcept (outcomes.volumes.mapError (⟨503, ·⟩))
  ofExcept (outcomes.encryptedVolumes.mapError (⟨500, ·⟩))
  if call.route.microvm then runInMicrovm outcomes call module
  else runWithRunner host outcomes call module

/-! ## Calls to a route -/

def BufferedRequestTier.name : BufferedRequestTier → String
  | .ram => "ram"
  | .disk => "disk"

/-- Put the call into the buffer and wait for its replay. -/
def bufferRequest : Action GuestHttpResponse := do
  let tier ← ofExcept (outcomes.buffering.mapError fun error =>
    ⟨503, "route `" ++ call.route.path ++ "` is saturated and buffering failed: " ++ error⟩)
  call.note (.enqueued
    { routePath := call.route.path
      selectedModule := module
      request := call.request
      hopLimit := call.hopLimit })
  match outcomes.wait with
  | .finished result => do
      let response ← ofExcept result
      pure (response.withHeader "x-tachyon-buffered" tier.name)
  | .canceled =>
      fail ⟨503, "route `" ++ call.route.path ++ "` buffered request was canceled"⟩
  | .timedOut =>
      fail ⟨503, "route `" ++ call.route.path ++ "` buffered request timed out"⟩

/-- The overflow of a call that got no permit in time: to a peer, or into the buffer. -/
def overflow (allowStreamingOverflow : Bool) : Action GuestHttpResponse := do
  let destination ← ofExcept
    (if call.route.allowOverflow then
      ((selectRouteTarget call.route call.request.headers outcomes.roll).mapError
        fun error => (⟨500, error⟩ : Rejection)).map fun _ =>
          controlPlaneOverrideDestination outcomes.overflowOverride call.request.headers
    else .ok none)
  match destination with
  | some destination => forwardOverflow call destination outcomes.peer allowStreamingOverflow
  | none => do
      rejectIf outcomes.memoryCritical (pure ()) ⟨503, "route `" ++ call.route.path ++
        "` is saturated and global memory pressure is critical"⟩
      bufferRequest outcomes call module

/-- The part of a call behind its admission checks. -/
def acquireAndRun (allowStreamingOverflow : Bool) : Action GuestHttpResponse :=
  match outcomes.permit with
  | none =>
      fail ⟨500, "route `" ++ call.route.path ++ "` is missing a concurrency limiter"⟩
  | some .acquired => executeRouteRequestWithAcquiredPermit host outcomes call module
  | some .closed =>
      fail ⟨503, "route `" ++ call.route.path ++ "` is currently unavailable"⟩
  | some .timedOut => overflow outcomes call module allowStreamingOverflow

/-- The limiter's answer is noted. -/
def askLimiter : Action Unit :=
  match limiterQuestion host call.route call.request.headers with
  | some check => call.note (.limiterAnswered check outcomes.limiter)
  | none => pure ()

/-- `enforce_distributed_rate_limit` in front of a call. -/
def passLimiter : Action Unit := do
  askLimiter host outcomes call
  match enforceDistributedRateLimit host call.route call.request.headers outcomes.limiter with
  | some rejection => fail rejection
  | none => pure ()

/-- A call to a route: limiter, target, memory, permit and run. -/
def executeRouteRequest (selectedModule : Option String) (allowStreamingOverflow : Bool) :
    Action GuestHttpResponse := do
  rejectIf (call.route.role = .system && outcomes.shed) (pure ())
    ⟨503, "system route `" ++ call.route.path ++ "` shed under load"⟩
  passLimiter host outcomes call
  let selected ← ofExcept
    (match selectedModule with
    | some module => .ok module
    | none =>
        (selectRouteModule call.route call.request.headers outcomes.roll).mapError (⟨500, ·⟩))
  -- A canary rollout that is stepping may send the call to its next version.
  let module := outcomes.canary.getD selected
  let admitted ← enforceResourceAdmission outcomes call allowStreamingOverflow
  match admitted with
  | some response => pure response
  | none =>
      match enforceVramAdmission outcomes call.route with
      | some response => pure response
      | none => acquireAndRun host outcomes call module allowStreamingOverflow

end

/-! ## Middleware and retries -/

/-- The sealed route that a middleware name stands for. -/
def middlewareRoute (host : Host) (name : String) : Except Rejection IntegrityRoute :=
  match host.config.resolveNamedRoute name with
  | .error error => .error ⟨500, error⟩
  | .ok resolved =>
      match host.config.registeredRoute resolved.path with
      | some route => .ok route
      | none => .error ⟨500, "route middleware `" ++ name ++ "` resolved to missing path `" ++
          resolved.path ++ "`"⟩

def systemShadowProxyRoute : String := "/system/shadow-proxy"

/-- What the shadow proxy is told about a call. -/
def shadowEvent (call : Call) (target : String) : Body :=
  .object
    [("route", .text call.route.path), ("shadow_target", .text target),
      ("method", .text call.request.method), ("uri", .text call.request.uri.text),
      ("headers", .other), ("trailers", .other), ("body_hex", .other), ("primary_status", .other),
      ("primary_headers", .other), ("primary_body_sha256", .other), ("trace_id", .other)]

/-- The primary answer has to be there as a whole, and the proxy has to be sealed. -/
def spawnShadowTrafficTask (host : Host) (call : Call) (primary : GuestHttpResponse) :
    Action Unit :=
  match call.route.shadowTarget, primary.body with
  | some target, .buffered _ =>
      if call.route.path ≠ systemShadowProxyRoute ∧
          (host.config.registeredRoute systemShadowProxyRoute).isSome then
        call.note (.shadowed (shadowEvent call target))
      else pure ()
  | _, _ => pure ()

/-- The route's own call, and its copy for the shadow proxy. -/
def executeShadowedRequest (host : Host) (outcomes : CallOutcomes) (call : Call)
    (selectedModule : Option String) (allowStreamingOverflow : Bool) :
    Action GuestHttpResponse := do
  let response ← executeRouteRequest host outcomes call selectedModule allowStreamingOverflow
  spawnShadowTrafficTask host call response
  pure response

/-- `execute_route_with_middleware_inner`, one attempt. -/
def executeRouteWithMiddlewareInner (host : Host) (outcomes : AttemptOutcomes) (call : Call)
    (selectedModule : Option String) (allowStreamingOverflow : Bool) :
    Action GuestHttpResponse :=
  match call.route.middleware with
  | none => executeShadowedRequest host outcomes.route call selectedModule allowStreamingOverflow
  | some name => do
      let route ← ofExcept (middlewareRoute host name)
      let middleware := { call with ticket := { call.ticket with purpose := .middleware }, route }
      let response ← executeRouteRequest host outcomes.middleware middleware none false
      middleware.note (.middlewareAnswered name response.status)
      if response.status = 200 then
        executeShadowedRequest host outcomes.route call selectedModule allowStreamingOverflow
      else pure response

section
variable (host : Host) (outcomes : DispatchOutcomes) (call : Call)
  (selectedModule : Option String) (allowStreamingOverflow : Bool)

/-- One attempt under the route's timeout. -/
def attemptRoute (timeoutMs : Option Nat) (attempt : Nat) : Action GuestHttpResponse :=
  let inner := executeRouteWithMiddlewareInner host (outcomes.attempts attempt)
    { call with ticket := { call.ticket with attempt } } selectedModule allowStreamingOverflow
  match timeoutMs, (outcomes.attempts attempt).elapsed with
  | some limit, some kept =>
      interrupt inner kept ⟨504, "route `" ++ call.route.path ++ "` timed out after " ++
        toString limit ++ "ms"⟩
  | _, _ => inner

/-- Attempts go on while the answer's status is one to retry on. -/
def retryRoute (timeoutMs : Option Nat) (retryOn : List Nat) :
    (retries attempt : Nat) → Action GuestHttpResponse
  | 0, attempt =>
      attemptRoute host outcomes call selectedModule allowStreamingOverflow timeoutMs attempt
  | retries + 1, attempt => do
      let response ←
        attemptRoute host outcomes call selectedModule allowStreamingOverflow timeoutMs attempt
      if response.status ∈ retryOn then retryRoute timeoutMs retryOn retries (attempt + 1)
      else pure response

/-- `execute_route_arc_with_middleware`, with the retries of `execute_route_with_resiliency`. -/
def executeRouteArcWithMiddleware : Action GuestHttpResponse :=
  match (if host.features.resiliency then call.route.resiliency else none) with
  | none => attemptRoute host outcomes call selectedModule allowStreamingOverflow none 0
  | some config =>
      let policy := config.retryPolicy.getD ⟨0, []⟩
      retryRoute host outcomes call selectedModule allowStreamingOverflow config.timeoutMs
        policy.retryOn policy.maxRetries 0

end

/-! ## Event streams and WebSockets -/

def routeStreamRetryBudget (host : Host) (route : IntegrityRoute) : RetryPolicy :=
  if host.features.resiliency then (route.resiliency.bind ResiliencyConfig.retryPolicy).getD ⟨0, []⟩
  else ⟨0, []⟩

/-- The memory check of an event stream, repeated while its answer may be retried. -/
def admitStream (outcomes : DispatchOutcomes) (call : Call) (retryOn : List Nat) :
    (retries round : Nat) → Action (Option GuestHttpResponse)
  | 0, round => enforceResourceAdmission (outcomes.attempts round).route call true
  | retries + 1, round => do
      let admitted ← enforceResourceAdmission (outcomes.attempts round).route call true
      match admitted with
      | none => pure none
      | some response =>
          if response.status ∈ retryOn then admitStream outcomes call retryOn retries (round + 1)
          else pure (some response)

def streamSaturated (route : IntegrityRoute) : Rejection :=
  ⟨429, "streaming route `" ++ route.path ++ "` is saturated"⟩

/-- The overflow of an event stream, repeated while the peer's answer may be retried. -/
def overflowStream (outcomes : DispatchOutcomes) (call : Call) (retryOn : List Nat) :
    (retries round : Nat) → Action GuestHttpResponse
  | retries, round => do
      let answers := (outcomes.attempts round).route
      let _ ← ofExcept
        ((selectRouteTarget call.route call.request.headers answers.roll).mapError (⟨500, ·⟩))
      match controlPlaneOverrideDestination answers.overflowOverride call.request.headers with
      | none => fail (streamSaturated call.route)
      | some destination => do
          let response ← forwardRequestToOverrideAsStreamingResponse call destination answers.peer
          match retries with
          | 0 => pure response
          | retries + 1 =>
              if response.status ∈ retryOn then
                overflowStream outcomes call retryOn retries (round + 1)
              else pure response

/-- The run of an event stream: the guest's own calls leave the process. -/
def Call.streamingRun (call : Call) (module : String) : GuestRun :=
  { call.guestRun module .streaming with
    contextHeaders := ⟨call.request.headers.fields.filter fun field => HeaderMap.visible field.2⟩
    localDispatch := false }

/-- An event stream asks neither middleware nor limiter nor TEE. -/
def handleStreamingHttpRequest (host : Host) (outcomes : DispatchOutcomes) (call : Call)
    (module : String) : Action GuestHttpResponse := do
  let budget := routeStreamRetryBudget host call.route
  let admitted ← admitStream outcomes call budget.retryOn budget.maxRetries 0
  match admitted with
  | some response => pure response
  | none => do
      let answers := (outcomes.attempts 0).route
      ofExcept (answers.volumes.mapError fun error =>
        ⟨500, "failed to acquire streaming route volumes: " ++ error⟩)
      match answers.permit with
      | none => fail ⟨500, "streaming route `" ++ call.route.path ++
          "` is missing a concurrency limiter"⟩
      | some .closed => fail ⟨503, "streaming route `" ++ call.route.path ++ "` is unavailable"⟩
      | some .timedOut =>
          if call.route.allowOverflow then
            overflowStream outcomes call budget.retryOn budget.maxRetries 0
          else fail (streamSaturated call.route)
      | some .acquired => do
          call.note (.guestRan (call.streamingRun module))
          ofExcept answers.guest

/-- The run of a WebSocket session: there is no request to hand over. -/
def Call.websocketRun (call : Call) (module : String) : GuestRun :=
  { route := call.route
    module
    runner := .websocket
    request := none
    contextHeaders := .empty
    localDispatch := true }

def handleWebsocketConnection (outcomes : CallOutcomes) (call : Call) (module : String) :
    Action Unit := do
  ofExcept (outcomes.volumes.mapError fun error =>
    ⟨500, "failed to acquire WebSocket route volumes: " ++ error⟩)
  match outcomes.permit with
  | some .acquired => call.note (.guestRan (call.websocketRun module))
  | none => fail ⟨500, "WebSocket route `" ++ call.route.path ++
      "` is missing a concurrency limiter"⟩
  | some .closed => fail ⟨503, "WebSocket route `" ++ call.route.path ++ "` is unavailable"⟩
  | some .timedOut => fail ⟨503, "WebSocket route `" ++ call.route.path ++ "` is saturated"⟩

/-! ## The public dispatcher -/

def isStreamingAcceptRequest (headers : HeaderMap) : Bool :=
  (headers.getStr "accept").any fun value =>
    value.toList.tails.any fun rest => "text/event-stream".toList.isPrefixOf rest

def isWebsocketUpgradeRequest (headers : HeaderMap) : Bool :=
  ((headers.getStr "connection").any fun value =>
    (split ',' value).any fun segment => toAsciiLowercase (trim segment) == "upgrade") &&
  (headers.getStr "upgrade").any fun value => toAsciiLowercase value == "websocket"

/-- What the public dispatcher does with a request. -/
inductive FaasDecision where
  | reply (response : GuestHttpResponse)
  | inferenceJob
  | overridden (route : IntegrityRoute) (destination : String)
  | websocket (route : IntegrityRoute) (module : String)
  | streaming (route : IntegrityRoute) (module : String)
  | buffered (route : IntegrityRoute) (module : String)
deriving DecidableEq

/-- The way to the guest of a target that this host can run. -/
def localDecision (host : Host) (request : HttpRequest) (route : IntegrityRoute)
    (target : SelectedRouteTarget) : FaasDecision :=
  let upgrade := isWebsocketUpgradeRequest request.headers
  if target.websocket then
    if host.features.websockets then
      if host.upgrades request then .websocket route target.module
      else .reply (.text (if upgrade then 400 else 426)
        ("route `" ++ route.path ++ "` requires a valid WebSocket upgrade request"))
    else .reply (.text (if upgrade then 501 else 426) ("route `" ++ route.path ++
      "` requires the `websockets` host feature to accept upgraded traffic"))
  else if upgrade then
    .reply (.text 400 ("route `" ++ route.path ++ "` is not configured for WebSocket upgrades"))
  else if host.features.aiInference && isStreamingAcceptRequest request.headers then
    .streaming route target.module
  else .buffered route target.module

/-- The decisions of `faas_handler`; `override` is what the override table answers. -/
def faasDecision (host : Host) (request : HttpRequest) (override : Option String) (roll : Nat) :
    FaasDecision :=
  let path := normalizeRoutePath request.uri.path
  if isReservedSystemPath path then
    .reply (.text 404 ("system route `" ++ path ++ "` is not registered in core-host"))
  else if (request.method = "POST" ∧ path = "/api/v1/generate") ∨
      (request.method = "GET" ∧ startsWith path "/api/v1/jobs/") then .inferenceJob
  else
    match host.config.registeredRoute path with
    | none => .reply (.text 404 ("route `" ++ path ++ "` is not sealed in `integrity.lock`"))
    | some route =>
        match selectRouteTarget route request.headers roll with
        | .error error => .reply (.text 500
            ("failed to resolve route target for `" ++ route.path ++ "`: " ++ error))
        | .ok target =>
            match controlPlaneOverrideDestination override request.headers with
            | some destination => .overridden route destination
            | none =>
                if host.supports target.requiredCapabilityMask then
                  localDecision host request route target
                else .reply (.text 503 ("Missing Capability: route `" ++ route.path ++
                  "` requires [" ++ host.missingNames target.requiredCapabilityMask ++
                  "] but no capable mesh peer is available"))

-- Proofs take the decision as it comes; unfolding it would compare texts.
attribute [irreducible] faasDecision

def originalRouteHeader : String := "x-tachyon-original-route"

def cloneHeadersWithOriginalRoute (headers : HeaderMap) (route : IntegrityRoute) : HeaderMap :=
  if headers.containsKey originalRouteHeader || !HeaderMap.visible route.path then headers
  else headers.insert originalRouteHeader route.path

/-- To a peer, or to another route of this host. -/
def executeRouteOverride (host : Host) (outcomes : DispatchOutcomes) (call : Call)
    (destination : String) : Action GuestHttpResponse :=
  if startsWith destination "http://" || startsWith destination "https://" then
    forwardRequestToOverride call destination (outcomes.attempts 0).route.peer
  else
    match host.config.registeredRoute (normalizeRoutePath destination) with
    | some route => executeRouteArcWithMiddleware host outcomes
        { call with
          route
          request := { call.request with
            headers := cloneHeadersWithOriginalRoute call.request.headers call.route } }
        none true
    | none => fail ⟨500, "route override for `" ++ call.route.path ++
        "` points to missing route `" ++ normalizeRoutePath destination ++ "`"⟩

/-- Answer a failed call with its status and message. -/
def answering (action : Action GuestHttpResponse) : Action GuestHttpResponse :=
  action.recover Rejection.response

/-- The public dispatcher. -/
def faasHandler (host : Host) (outcomes : DispatchOutcomes) (id : Nat) (request : HttpRequest)
    (override : Option String) (hopLimit : Nat) : Action GuestHttpResponse :=
  let callTo := fun route =>
    ({ ticket := ⟨id, 0, .target⟩, route, request, hopLimit } : Call)
  match faasDecision host request override outcomes.roll with
  | .reply response => pure response
  | .inferenceJob => pure outcomes.reply
  | .overridden route destination =>
      answering (executeRouteOverride host outcomes (callTo route) destination)
  | .websocket route module => do
      -- The upgrade is answered at once; the session's own failure is only logged.
      (handleWebsocketConnection (outcomes.attempts 0).route (callTo route) module).recover
        fun _ => ()
      pure (.text 101 "")
  | .streaming route module =>
      answering (handleStreamingHttpRequest host outcomes (callTo route) module)
  | .buffered route module =>
      answering (executeRouteArcWithMiddleware host outcomes (callTo route) (some module) true)

/-! ## Enrollment starts -/

def nodeRegistryModule : String := "system-faas-node-registry"

def enrollmentStartRoute : String := "/admin/enrollment/start"

def clusterCaSignerRoute : String := "/internal/cert-manager/sign-node"

/-- The route under which `forward_node_registry_faas` runs the registry. -/
def nodeRegistryRoute : IntegrityRoute :=
  { path := "/admin/node-registry", role := .system, name := nodeRegistryModule }

/-- The body of an enrolment start. -/
structure AdminEnrollmentStartRequest where
  nodePublicKey : String
  identityToken : Option String

def textField (fields : List (String × JsonValue)) (name : String) : Option String :=
  match fields.lookup name with
  | some (.text value) => some value
  | _ => none

/-- An optional text member: absent and null are `none`, other values do not decode. -/
def optionalTextField (fields : List (String × JsonValue)) (name : String) :
    Option (Option String) :=
  match fields.lookup name with
  | none => some none
  | some .null => some none
  | some (.text value) => some (some value)
  | some _ => none

def AdminEnrollmentStartRequest.ofBody : Body → Option AdminEnrollmentStartRequest
  | .bytes _ => none
  | .object fields => do
      let nodePublicKey ← textField fields "nodePublicKey"
      let identityToken ← optionalTextField fields "identityToken"
      pure { nodePublicKey, identityToken }

/-- The body for the registry: the payload and, when the configuration allows zero-touch
enrollment, its policy. -/
def enrollmentForward (enrollment : EnrollmentConfig) (payload : AdminEnrollmentStartRequest) :
    Body :=
  let member := fun name (value : Option String) =>
    (value.toList.map fun text => (name, JsonValue.text text) : List (String × JsonValue))
  .object (("nodePublicKey", JsonValue.text payload.nodePublicKey) ::
    member "identityToken" payload.identityToken ++
    if enrollment.allowsZeroTouch then
      member "oidcIssuer" enrollment.oidcIssuer ++
      member "oidcAudience" enrollment.oidcAudience ++
      [("autoApproveTags", .texts enrollment.autoApproveTags),
        ("signerRoute", .text clusterCaSignerRoute)]
    else [])

/-- `forward_node_registry_faas` for a start: run the registry outside the dispatcher. -/
def forwardNodeRegistryFaas (outcomes : CallOutcomes) (id : Nat) (body : Body) :
    Action GuestHttpResponse := do
  record ⟨⟨id, 0, .target⟩, .guestRan
    { route := nodeRegistryRoute
      module := nodeRegistryModule
      runner := .engine
      request := some { method := "POST", uri := enrollmentStartRoute, headers := .empty, body }
      contextHeaders := .empty
      localDispatch := false }⟩
  ofExcept outcomes.guest

def adminEnrollmentStartHandler (host : Host) (outcomes : DispatchOutcomes) (id : Nat)
    (body : Body) : Action GuestHttpResponse :=
  match AdminEnrollmentStartRequest.ofBody body with
  | none => pure (.text 422 "Failed to deserialize the JSON body into the target type")
  | some payload =>
      if trim payload.nodePublicKey = "" then pure (.text 400 "nodePublicKey is required")
      else answering (forwardNodeRegistryFaas (outcomes.attempts 0).route id
        (enrollmentForward host.config.enrollment payload))

/-! ## Arrivals -/

def routeDomainRequestPath (route : IntegrityRoute) (uri : Uri) : String :=
  let original := normalizeRoutePath uri.path
  if original = "/" then route.path
  else if original = route.path || startsWith original (route.path ++ "/") then original
  else route.path ++ original

/-- `custom_domain_routing_middleware`: a request to a route's domain gets the route's path. -/
def customDomainRouting (host : Host) (request : HttpRequest) : HttpRequest :=
  let hostName := ((request.headers.getStr "host").bind fun value => (split ':' value).head?).or
    (request.uri.authority.bind fun value => (split ':' value).head?)
  match hostName.bind host.config.routeForDomain with
  | none => request
  | some route =>
      { request with uri := { request.uri with path := routeDomainRequestPath route request.uri } }

/-- A request from the network, through the layers of `build_app`. The router matches the path
that was sent; the layers then rewrite it and set the hop limit. -/
def handleNetworkRequest (host : Host) (outcomes : DispatchOutcomes) (id : Nat)
    (request : HttpRequest) (override : Option String) : Action GuestHttpResponse :=
  if outcomes.rateLimited then pure (.text 429 "Too Many Requests")
  else
    let rewritten := customDomainRouting host request
    match resolveIncomingHopLimit rewritten.headers with
    | none => pure loopDetectedResponse
    | some hopLimit =>
        if request.uri.path = enrollmentStartRoute then
          if request.method = "POST" then
            adminEnrollmentStartHandler host outcomes id request.body
          else pure (.text 405 "")
        else if host.handles request.uri.path then pure outcomes.reply
        else faasHandler host outcomes id
          { rewritten with
            headers := rewritten.headers.insert hopLimitHeader (toString hopLimit) }
          override hopLimit

def systemGatewayRoute : String := "/system/gateway"

/-- Requests of the mTLS listener go to the gateway's route. -/
def dispatchMtlsGatewayRequest (host : Host) (outcomes : DispatchOutcomes) (id : Nat)
    (request : HttpRequest) : Action GuestHttpResponse :=
  match host.config.registeredRoute systemGatewayRoute with
  | none => pure (.text 503 "sealed manifest does not define `/system/gateway`")
  | some route =>
      let original := { request.uri with scheme := none, authority := none : Uri }.text
      if HeaderMap.visible original then
        answering (executeRouteArcWithMiddleware host outcomes
          { ticket := ⟨id, 0, .target⟩
            route
            request :=
              { request with
                uri := .ofPath systemGatewayRoute
                headers := request.headers.insert originalRouteHeader original }
            hopLimit := defaultHopLimit }
          none true)
      else pure (.text 400 ("invalid original route header value `" ++ original ++ "`"))

/-- A mesh fetch to a URL of this host, as the in-process dispatcher gets it. -/
structure LocalFetch where
  url : String
  method : String
  headers : HeaderMap
  body : Body
  hopLimit : Nat

/-- Whether a fetch stayed in the process. -/
inductive LocalMeshDispatchAttempt where
  | handled (response : GuestHttpResponse)
  | fallback

/-- Run the route of a mesh fetch in the process. -/
def dispatchInProcess (host : Host) (outcomes : CallOutcomes) (call : Call) (url module : String) :
    Program Journal String LocalMeshDispatchAttempt := do
  let response ← (executeRouteRequest host outcomes call (some module) false).mapError
    fun rejection => "in-process mesh fetch to `" ++ url ++ "` failed with " ++
      toString rejection.status ++ ": " ++ rejection.message
  pure (.handled response)

/-- Without an eligible peer the fetch leaves the process. -/
def tryPeerOverflowDispatch (outcomes : CallOutcomes) (call : Call) :
    Program Journal String LocalMeshDispatchAttempt :=
  match controlPlaneOverrideDestination outcomes.overflowOverride call.request.headers with
  | none => pure .fallback
  | some destination => do
      let response ← (forwardRequestToOverrideAsGuestResponse call destination
        outcomes.peer).mapError fun rejection => "mesh peer overflow forward to `" ++
          destination ++ "` failed with " ++ toString rejection.status ++ ": " ++ rejection.message
      pure (.handled response)

/-- `try_dispatch_local_mesh_request`. A fetch that goes to a peer is the caller's own forward;
one that stays in the process is a request of its own. -/
def tryDispatchLocalMeshRequest (host : Host) (outcomes : CallOutcomes) (caller : Ticket) (id : Nat)
    (fetch : LocalFetch) : Program Journal String LocalMeshDispatchAttempt :=
  if fetch.hopLimit ≤ 1 then pure (.handled (.text 508 "mesh hop limit exhausted"))
  else if host.forceMeshTransport then pure .fallback
  else do
    let url ← ofExcept ((host.parseUrl fetch.url).mapError fun error =>
      "internal mesh target `" ++ fetch.url ++ "` is invalid: " ++ error)
    let path := normalizeRoutePath url.path
    match host.config.registeredRoute path with
    | none => pure .fallback
    | some route => do
        let target ← ofExcept ((selectRouteTarget route .empty outcomes.roll).mapError
          fun error => "failed to resolve local mesh target `" ++ route.path ++ "`: " ++ error)
        let request : HttpRequest :=
          { method := fetch.method, uri := .ofPath path, headers := fetch.headers,
            body := fetch.body }
        let call : Call := { ticket := caller, route, request, hopLimit := fetch.hopLimit }
        if !host.supports target.requiredCapabilityMask || outcomes.permit.isNone then
          pure .fallback
        else if outcomes.memoryCritical || outcomes.saturated then
          if route.allowOverflow then tryPeerOverflowDispatch outcomes call else pure .fallback
        else do
          let uri ← ofExcept ((host.parseUri (appendQuery path url.query)).mapError
            fun error => "failed to build in-process mesh URI for `" ++ fetch.url ++ "`: " ++ error)
          dispatchInProcess host outcomes
            { call with
              ticket := ⟨id, 0, .target⟩
              request := { request with uri }
              hopLimit := fetch.hopLimit - 1 }
            fetch.url target.module

/-! ## Replays -/

/-- `execute_buffered_route_request`, with the lookups of the replayer. The route is looked
up again; nothing in front of the permit is checked again. -/
def executeBufferedRouteRequest (host : Host) (outcomes : CallOutcomes) (ticket : Ticket)
    (buffered : BufferedRouteRequest) : Action GuestHttpResponse :=
  match host.config.registeredRoute buffered.routePath with
  | none => fail ⟨503, "buffered route is no longer sealed"⟩
  | some route =>
      match outcomes.permit with
      | none => fail ⟨500, "buffered route is missing a concurrency limiter"⟩
      | some .acquired => do
          let headers ← ofExcept ((guestFieldsToHeaderMap "buffered request headers"
            buffered.request.headers.fields).mapError (⟨500, ·⟩))
          executeRouteRequestWithAcquiredPermit host outcomes
            { ticket, route, request := { buffered.request with headers },
              hopLimit := buffered.hopLimit }
            buffered.selectedModule
      | some _ =>
          fail ⟨503, "route `" ++ route.path ++ "` is currently unavailable"⟩

/-- The system routes that the host calls on its own for another request. -/
inductive SystemService where
  | distLimiter
  | shadowProxy

def SystemService.route (host : Host) : SystemService → Option IntegrityRoute
  | .distLimiter => host.config.sealedRoute systemDistLimiterRoute
  | .shadowProxy => host.config.registeredRoute systemShadowProxyRoute

def SystemService.path : SystemService → String
  | .distLimiter => "/system/dist-limiter/check"
  | .shadowProxy => systemShadowProxyRoute

def SystemService.request (service : SystemService) (body : Body) : HttpRequest :=
  { method := "POST", uri := .ofPath service.path, headers := .empty, body }

/-- The call to a system route that an entry stands for. -/
def JournalEvent.summons : JournalEvent → Option (SystemService × Body)
  | .limiterAnswered check _ => some (.distLimiter, check)
  | .shadowed event => some (.shadowProxy, event)
  | _ => none

/-- A call to a system route starts with a hop limit of its own. -/
def callSystemService (host : Host) (outcomes : DispatchOutcomes) (id : Nat)
    (service : SystemService) (body : Body) : Action GuestHttpResponse :=
  match service.route host with
  | none => pure (.text 404 "")
  | some route => answering (executeRouteArcWithMiddleware host outcomes
      { ticket := ⟨id, 0, .target⟩, route, request := service.request body
        hopLimit := defaultHopLimit }
      none false)

/-- How a request comes to a host: from the network, with what the override table answers for
it, over the mTLS gateway, as a mesh fetch of a guest on the host, or from the host itself. -/
inductive Arrival where
  | network (request : HttpRequest) (override : Option String)
  | mtls (request : HttpRequest)
  | mesh (fetch : LocalFetch)
  | system (service : SystemService) (body : Body)

/-- What an arriving request adds to the journal. -/
def dispatch (host : Host) (outcomes : DispatchOutcomes) (id : Nat) (arrival : Arrival)
    (journal : Journal) : Journal :=
  match arrival with
  | .network request override =>
      (handleNetworkRequest host outcomes id request override journal).1
  | .mtls request => (dispatchMtlsGatewayRequest host outcomes id request journal).1
  | .mesh fetch =>
      (tryDispatchLocalMeshRequest host (outcomes.attempts 0).route ⟨id, 0, .target⟩ id fetch
        journal).1
  | .system service body => (callSystemService host outcomes id service body journal).1

/-- The requests that came, what was journaled, and the buffered requests already replayed, by
their place in the journal. -/
structure DispatchState where
  arrivals : List Arrival
  journal : Journal
  replayed : List Nat

namespace DispatchState

def initial : DispatchState := { arrivals := [], journal := [], replayed := [] }

/-- The request gets the next number. -/
def arrive (host : Host) (state : DispatchState) (arrival : Arrival)
    (outcomes : DispatchOutcomes) : DispatchState :=
  { state with
    arrivals := state.arrivals ++ [arrival]
    journal := dispatch host outcomes state.arrivals.length arrival state.journal }

/-- The replayer takes a buffered request; without a permit it puts it back. -/
def replay (host : Host) (state : DispatchState) (index : Nat) (outcomes : CallOutcomes) :
    Option DispatchState :=
  match state.journal[index]? with
  | some ⟨ticket, .enqueued buffered⟩ =>
      if index ∈ state.replayed then none
      else if (host.config.registeredRoute buffered.routePath).isSome &&
          outcomes.permit = some .timedOut then some state
      else some
        { state with
          journal := (executeBufferedRouteRequest host outcomes ticket buffered state.journal).1
          replayed := index :: state.replayed }
  | _ => none

end DispatchState

/-- A request comes, or a buffered one is replayed. -/
inductive DispatchEvent where
  | arrive (arrival : Arrival) (outcomes : DispatchOutcomes)
  | replay (index : Nat) (outcomes : CallOutcomes)

/-- A host under any requests, in any order, with replays at any time. -/
def dispatchMachine (host : Host) : Machine DispatchState DispatchEvent where
  step state
    | .arrive arrival outcomes => some (state.arrive host arrival outcomes)
    | .replay index outcomes => state.replay host index outcomes

/-! ## A plain host -/

def plainUrl (text : String) : Url :=
  let rest := if startsWith text "http://" then text.toList.drop 7 else text.toList
  { host := some (String.ofList (rest.takeWhile (· != '/')))
    path := String.ofList (rest.dropWhile (· != '/'))
    query := none }

/-- A host whose libraries read plain texts only. -/
def plainHost (config : IntegrityConfig) : Host :=
  { config
    features := { websockets := true, aiInference := true, resiliency := true }
    capabilities := 2047
    forceMeshTransport := false
    handles := fun path => startsWith path "/auth/"
    upgrades := fun request => isWebsocketUpgradeRequest request.headers
    verifyHeader := fun _ => .error "missing host-signed caller identity"
    parseUrl := fun text => .ok (plainUrl text)
    parseUri := fun text => .ok (.ofPath text)
    parseSocketAddr := fun _ => none
    parseVersionReq := fun _ => .ok fun _ => true
    setPathAndQuery := fun _ path query => appendQuery path query
    mockK8sUrl := none
    checkHttp := fun _ _ => true }

def getRequest (path : String) (fields : List (String × String)) : HttpRequest :=
  { method := "GET", uri := .ofPath path, headers := ⟨fields⟩, body := .bytes "" }

end TachyonMesh.Dispatch
