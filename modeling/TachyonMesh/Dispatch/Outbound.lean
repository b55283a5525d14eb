import TachyonMesh.Dispatch.Execution

/-! # Outbound requests of guests

`send_request` as a guest calls it: the scope check, the resolution of the target
(a path, a sealed route, a resource alias or a declared dependency), the headers that
may leave, the attempt to stay in the process, and the request over a socket when the
attempt falls back. Secret placeholders are left out: outside the tests no secret is
ever registered, and an unresolved placeholder is sent as it is.
-/

namespace TachyonMesh.Dispatch
open Foundation Program

/-- What a guest passes to `send_request`. -/
structure OutboundCall where
  method : String
  url : String
  headers : List (String × String)
  body : Body
deriving DecidableEq

/-- What a fetch returns to the guest. -/
structure OutboundResponse where
  status : Nat
  headers : HeaderMap
  body : String

/-! ## Targets -/

/-- Whether a target belongs to the mesh. -/
inductive OutboundTargetKind where
  | internal
  | external
deriving DecidableEq

/-- Where a fetch goes. -/
structure ResolvedOutboundTarget where
  url : String
  kind : OutboundTargetKind

def isInternalMeshHost (host : String) : Bool :=
  toAsciiLowercase host == "tachyon" || toAsciiLowercase host == "mesh"

def clientConnectHost : IpAddr → String
  | .v4 text => if text = "0.0.0.0" then "127.0.0.1" else text
  | .v6 text => "[" ++ (if text = "::" then "::1" else text) ++ "]"

def internalMeshBaseUrl (host : Host) : Except String String :=
  let hostAddress := trim host.config.hostAddress
  if hostAddress = "" then
    .error "mesh fetch cannot resolve a relative route without a configured host address"
  else
    match host.parseSocketAddr hostAddress with
    | some address =>
        .ok ("http://" ++ clientConnectHost address.ip ++ ":" ++ toString address.port)
    | none => .ok ("http://" ++ trimEndMatches '/' hostAddress)

def Version.text (version : Version) : String :=
  toString version.major ++ "." ++ toString version.minor ++ "." ++ toString version.patch

def IntegrityRoute.label (route : IntegrityRoute) : String :=
  route.path ++ " (" ++ route.name ++ "@" ++ route.version.text ++ ")"

variable (host : Host)

/-- `resolve_dependency_route`, with `resolve_dependency_candidate`. -/
def resolveDependencyRoute (callerPath dependency : String) : Except String IntegrityRoute :=
  match host.config.byPath callerPath with
  | none => .error ("mesh fetch caller route `" ++ callerPath ++
      "` is missing from the sealed dependency registry")
  | some caller =>
      match caller.dependencies.lookup dependency with
      | none => .error ("route " ++ caller.label ++ " does not declare `" ++ dependency ++
          "` in its sealed dependencies")
      | some requirement => do
          let satisfies ← host.parseVersionReq requirement
          match (host.config.byName dependency).find? fun route => satisfies route.version with
          | some route => pure route
          | none => .error ("Dependency resolution failed: route " ++ caller.label ++
              " requires " ++ dependency ++ " matching " ++ requirement ++
              ", but no compatible version was loaded")

def normalizeServiceName (name : String) : Except String String :=
  let trimmed := trim name
  if trimmed = "" then .error "service names cannot be empty"
  else if trimmed.toList.any fun c => c = '/' || c = '\\' then
    .error "service names must not contain path separators"
  else .ok trimmed

def versionConstraint (requirement : String) : Except String (Version → Bool) :=
  (host.parseVersionReq requirement).mapError fun error =>
    "sealed resource version constraint `" ++ requirement ++ "` is invalid: " ++ error

def resolveInternalResourceTarget (target : String)
    (constraint : Option String) : Except String String :=
  if startsWith target "/" then do
    let normalized := normalizeRoutePath target
    match host.config.byPath normalized with
    | none => .error ("sealed resource target `" ++ normalized ++
        "` does not match any sealed route")
    | some route =>
        match constraint with
        | none => pure normalized
        | some requirement => do
            let satisfies ← versionConstraint host requirement
            if satisfies route.version then pure normalized
            else .error ("sealed resource target `" ++ normalized ++
              "` does not satisfy version constraint `" ++ requirement ++ "`")
  else do
    let name ← (normalizeServiceName target).mapError fun error =>
      "sealed resource target `" ++ target ++ "` is invalid: " ++ error
    match constraint with
    | none => (host.config.resolveNamedRoute name).map IntegrityRoute.path
    | some requirement => do
        let satisfies ← versionConstraint host requirement
        match (host.config.byName name).find? fun route => satisfies route.version with
        | some route => pure route.path
        | none => .error ("sealed resource `" ++ name ++ "` requires a route matching `" ++
            requirement ++ "`, but no compatible version was loaded")

def joinResourcePath (base suffix : String) : String :=
  if suffix = "" || suffix = "/" then base else trimEndMatches '/' base ++ suffix

def resolveResourceAlias (name : String) (resource : IntegrityResource) (suffix : String)
    (query : Option String) (method : String) : Except String ResolvedOutboundTarget :=
  match resource with
  | .internal target constraint => do
      let path ← resolveInternalResourceTarget host target constraint
      let base ← internalMeshBaseUrl host
      pure { url := base ++ appendQuery (joinResourcePath path suffix) query, kind := .internal }
  | .external target allowedMethods =>
      if allowedMethods.contains method then
        match host.parseUrl target with
        | .error error => .error ("sealed external resource target `" ++ target ++
            "` is not a valid URL: " ++ error)
        | .ok url =>
            .ok { url := host.setPathAndQuery target (joinResourcePath url.path suffix) query,
                  kind := .external }
      else .error ("sealed external resource `" ++ name ++ "` does not allow HTTP method `" ++
        method ++ "`")

def unidentifiedTarget (target : String) : String :=
  "internal mesh target `" ++ target ++
    "` must identify a sealed route path, resource alias, or a single dependency name"

/-- The target of a URL on an internal host name. -/
def resolveMeshTarget (caller : IntegrityRoute) (method target : String)
    (url : Url) : Except String ResolvedOutboundTarget := do
  let base ← internalMeshBaseUrl host
  let path := normalizeRoutePath url.path
  if (host.config.byPath path).isSome then
    pure { url := base ++ appendQuery path url.query, kind := .internal }
  else
    match (split '/' url.path).filter (· != "") with
    | [] => .error (unidentifiedTarget target)
    | first :: rest =>
        match host.config.resources.lookup first with
        | some resource =>
            resolveResourceAlias host first resource
              ((stripPrefix ("/" ++ first) url.path).getD "") url.query method
        | none =>
            if rest.isEmpty then do
              let route ← resolveDependencyRoute host caller.path first
              pure { url := base ++ appendQuery route.path url.query, kind := .internal }
            else .error (unidentifiedTarget target)

def resolveOutboundHttpTarget (caller : IntegrityRoute) (method target : String) :
    Except String ResolvedOutboundTarget :=
  if startsWith target "/" then
    (internalMeshBaseUrl host).map fun base => { url := base ++ target, kind := .internal }
  else if startsWith target "http://" || startsWith target "https://" then
    match host.parseUrl target with
    | .error error => .error ("mesh fetch target `" ++ target ++ "` is not a valid URL: " ++ error)
    | .ok url =>
        if url.host.any isInternalMeshHost then resolveMeshTarget host caller method target url
        else if caller.role = .system then .ok { url := target, kind := .external }
        else .error ("route `" ++ caller.path ++ "` is not allowed to call raw external URLs; " ++
          "seal an external resource alias in `integrity.lock` and use " ++
          "`http://mesh/<alias>` instead")
  else .error ("mesh fetch target `" ++ target ++
    "` must be an absolute URL or an absolute route path")

/-! ## Headers -/

def cohortHeader : String := "x-cohort"

def tachyonCohortHeader : String := "x-tachyon-cohort"

def extractPropagatedHeaders (headers : HeaderMap) : List (String × String) :=
  let value := ((headers.get tachyonCohortHeader).or (headers.get cohortHeader)).filter
    HeaderMap.visible
  match (value.map trim).filter (· != "") with
  | some value => [(cohortHeader, value), (tachyonCohortHeader, value)]
  | none => []

/-- Sessions have no headers to propagate. -/
def GuestRun.propagatedHeaders (run : GuestRun) : List (String × String) :=
  match run.runner with
  | .engine => extractPropagatedHeaders run.contextHeaders
  | .tee _ => extractPropagatedHeaders run.contextHeaders
  | _ => []

def allowExternalOutboundHeader (name : String) : Bool :=
  !([hopLimitHeader, cohortHeader, tachyonCohortHeader, "x-tachyon-identity", originalRouteHeader,
    bufferReplayHeader, "connection", "content-length", "host", "keep-alive", "proxy-connection",
    "te", "trailer", "transfer-encoding", "upgrade"].contains (toAsciiLowercase name))

def filteredOutboundHttpHeaders (headers propagated : List (String × String))
    (kind : OutboundTargetKind) : List (String × String) :=
  match kind with
  | .internal => headers ++ propagated
  | .external => headers.filter fun field => allowExternalOutboundHeader field.1

/-! ## Sending -/

def stripUrlQuery (url : String) : String :=
  String.ofList (url.toList.takeWhile (· != '?'))

/-- `Method::from_bytes` of the trimmed text. -/
def parseMethod (method : String) : Except String String :=
  let trimmed := trim method
  if trimmed.toList.isEmpty || !trimmed.toList.all headerNameChar then
    .error ("invalid outbound HTTP method `" ++ method ++ "`: invalid HTTP method")
  else .ok trimmed

/-- A guest's call after its checks. -/
structure PreparedRequest where
  method : String
  target : ResolvedOutboundTarget
  headers : List (String × String)
  body : Body

/-- The checks of `send_request` and what they make of the call. -/
def prepareOutbound (run : GuestRun) (call : OutboundCall) : Except String PreparedRequest :=
  if !host.checkHttp run.route (stripUrlQuery call.url) then
    .error ("permission denied: outbound HTTP URL `" ++ stripUrlQuery call.url ++
      "` not granted by deployment scopes")
  else do
    let method ← parseMethod call.method
    match host.config.sealedRoute run.route.path with
    | none => .error ("sealed caller route `" ++ run.route.path ++
        "` is not present in `integrity.lock`")
    | some caller => do
        let target ← resolveOutboundHttpTarget host caller method call.url
        pure
          { method
            target
            headers := filteredOutboundHttpHeaders call.headers run.propagatedHeaders target.kind
            body := call.body }

/-- The limit that the guest's own fetches inside the process start from. -/
def GuestRun.fetchLimit (run : GuestRun) : Nat :=
  (resolveIncomingHopLimit run.contextHeaders).getD defaultHopLimit

/-- The fetch that `try_send_in_process_outbound_request` hands to the in-process dispatcher. -/
def localFetch (run : GuestRun) (prepared : PreparedRequest) : Except String (Option LocalFetch) :=
  if prepared.target.kind = .internal ∧ run.localDispatch = true then
    (guestFieldsToHeaderMap "outbound HTTP headers" prepared.headers).map fun headers =>
      some
        { url := prepared.target.url
          method := prepared.method
          headers
          body := prepared.body
          hopLimit := run.fetchLimit }
  else .ok none

def loopbackHost : IpAddr → String
  | .v4 _ => "127.0.0.1"
  | .v6 _ => "[::1]"

def rewriteOutboundHttpUrl (url : String) : String :=
  match stripPrefix "http://mesh" url with
  | some path =>
      match host.parseSocketAddr host.config.hostAddress with
      | some address =>
          "http://" ++ loopbackHost address.ip ++ ":" ++ toString address.port ++ path
      | none => "http://" ++ host.config.hostAddress ++ path
  | none =>
      match (host.mockK8sUrl.map fun value => trimEndMatches '/' (trim value)).filter (· != ""),
        stripPrefix "https://kubernetes.default.svc" url with
      | some base, some suffix => base ++ suffix
      | _, _ => url

/-- The request over a socket. A header that the client cannot encode fails the request before
anything is sent. -/
def sendOverSocket (outcomes : CallOutcomes) (caller : Ticket)
    (prepared : PreparedRequest) : Program Journal String OutboundResponse := do
  let url := rewriteOutboundHttpUrl host prepared.target.url
  let failure := fun error => "failed to send outbound HTTP request to `" ++ url ++ "`: " ++ error
  let headers ← ofExcept
    ((guestFieldsToHeaderMap "outbound HTTP headers" prepared.headers).mapError
      fun _ => failure "builder error")
  record ⟨caller, .sent { url, method := prepared.method, headers, body := prepared.body }⟩
  match outcomes.peer with
  | .replied status headers body => pure { status, headers, body }
  | .failed error => fail (failure error)
  | .handshakeTimedOut => fail (failure "operation timed out")

def OutboundResponse.ofGuest (response : GuestHttpResponse) : OutboundResponse :=
  { status := response.status
    headers := response.headers
    body :=
      match response.body with
      | .buffered content => content
      | .streaming => "" }

/-- A fetch that is dispatched in the process becomes the request `id`. -/
def sendRequest (outcomes : CallOutcomes) (run : GuestRun) (caller : Ticket)
    (id : Nat) (call : OutboundCall) : Program Journal String OutboundResponse := do
  let prepared ← ofExcept (prepareOutbound host run call)
  let fetch ← ofExcept (localFetch run prepared)
  let attempt ←
    (match fetch with
    | some fetch => tryDispatchLocalMeshRequest host outcomes caller id fetch
    | none => pure .fallback)
  match attempt with
  | .handled response => pure (.ofGuest response)
  | .fallback => sendOverSocket host outcomes caller prepared

/-- The fetch of a guest's call that the in-process dispatcher gets, if any. -/
def fetchOf (run : GuestRun) (call : OutboundCall) : Option LocalFetch :=
  match prepareOutbound host run call with
  | .error _ => none
  | .ok prepared =>
      match localFetch run prepared with
      | .error _ => none
      | .ok fetch => fetch

end TachyonMesh.Dispatch
