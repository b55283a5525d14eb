import Mathlib.Algebra.GroupWithZero.Nat
import Mathlib.Order.Interval.Finset.Nat
import TachyonMesh.Foundation.Text

/-! # Sealed routes

The part of a sealed configuration that decides where a request goes: the routes
with their targets and gates, the lookups of the route registry, and the choice of
a guest module from a route's targets. A request is an HTTP request as the host
sees it after its connection was read. The outside libraries that read a URL, an
upgrade request or a signed identity are fields of `Host`.
-/

namespace TachyonMesh.Dispatch
open Foundation Finset

/-! ## Requests -/

/-- Header fields in the order in which they were appended; names are lower case. -/
structure HeaderMap where
  fields : List (String × String)
deriving DecidableEq

namespace HeaderMap

def empty : HeaderMap := ⟨[]⟩

variable (headers : HeaderMap)

def get (name : String) : Option String :=
  (headers.fields.find? fun field => field.1 == name).map Prod.snd

def containsKey (name : String) : Bool :=
  headers.fields.any fun field => field.1 == name

def insert (name value : String) : HeaderMap :=
  ⟨(headers.fields.filter fun field => field.1 != name) ++ [(name, value)]⟩

def append (name value : String) : HeaderMap :=
  ⟨headers.fields ++ [(name, value)]⟩

/-- Visible ASCII, spaces and tabs: the values that `to_str` reads. -/
def visible (value : String) : Bool :=
  value.toList.all fun c => (32 ≤ c.toNat && c.toNat < 127) || c.toNat == 9

/-- The first value under a name, when it is readable text. -/
def getStr (name : String) : Option String :=
  (headers.get name).filter visible

end HeaderMap

def headerNameChar (c : Char) : Bool :=
  c.isAlphanum || "!#$%&'*+-.^_`|~".toList.contains c

/-- Names are lowered; a bad name or value is an error. -/
def guestFieldsToHeaderMap (label : String) : List (String × String) → Except String HeaderMap
  | [] => .ok .empty
  | (name, value) :: rest =>
      if name.toList.isEmpty || !name.toList.all headerNameChar then
        .error ("guest returned an invalid " ++ label ++ " name `" ++ name ++ "`")
      else if !HeaderMap.visible value then
        .error ("guest returned an invalid " ++ label ++ " value for `" ++ name ++ "`")
      else
        (guestFieldsToHeaderMap label rest).map fun headers =>
          ⟨(toAsciiLowercase name, value) :: headers.fields⟩

/-- A URI by its parts. -/
structure Uri where
  scheme : Option String
  authority : Option String
  path : String
  query : Option String
deriving DecidableEq

/-- An empty query is dropped. -/
def appendQuery (path : String) (query : Option String) : String :=
  match query with
  | some query => if query = "" then path else path ++ "?" ++ query
  | none => path

namespace Uri

def ofPath (path : String) : Uri := { scheme := none, authority := none, path, query := none }

/-- The text of a URI, which is what a guest receives. -/
def text (uri : Uri) : String :=
  (match uri.scheme with
    | some scheme => scheme ++ "://"
    | none => "") ++ uri.authority.getD "" ++ uri.path ++
  (match uri.query with
    | some query => "?" ++ query
    | none => "")

end Uri

/-- The values that custom fields take here. -/
inductive JsonValue where
  | null
  | text (value : String)
  | texts (values : List String)
  | other
deriving DecidableEq

/-- A request body: a JSON object, or bytes that are none. -/
inductive Body where
  | object (fields : List (String × JsonValue))
  | bytes (content : String)
deriving DecidableEq

/-- A request as the host sees it. -/
structure HttpRequest where
  method : String
  uri : Uri
  headers : HeaderMap
  body : Body
deriving DecidableEq

/-! ## Configuration -/

/-- Whom a route serves. -/
inductive RouteRole where
  | user
  | system
deriving DecidableEq

/-- A header a target asks for. -/
structure HeaderMatch where
  name : String
  value : String
deriving DecidableEq

/-- A module a route may select. -/
structure RouteTarget where
  module : String
  weight : Nat
  websocket : Bool
  matchHeader : Option HeaderMatch
  requires : List String
deriving DecidableEq

/-- How a route's guest is run. -/
inductive FaaSRuntime where
  | wasm (source : Option String)
  | microvm (image : String) (vcpus memoryMb : Nat)
deriving DecidableEq

/-- The backend for confidential routes. -/
inductive TeeBackendConfig where
  | localEnclave
  | enarx (keepEndpoint : String)
deriving DecidableEq

/-- What a limit is counted per. -/
inductive DistributedRateLimitScope where
  | ip
  | tenant
  | token
deriving DecidableEq

/-- A limit that the mesh shares. -/
structure DistributedRateLimitConfig where
  threshold : Nat
  windowSeconds : Nat
  scope : DistributedRateLimitScope
deriving DecidableEq

/-- What becomes of a request for which RAM lacks. -/
inductive AdmissionStrategy where
  | failFast
  | meshRetry
deriving DecidableEq

/-- What a route needs of its host. -/
structure ResourcePolicy where
  minRamGb : Option Nat
  minRamMb : Option Nat
  admissionStrategy : AdmissionStrategy
deriving DecidableEq

/-- When a call is tried again. -/
structure RetryPolicy where
  maxRetries : Nat
  retryOn : List Nat
deriving DecidableEq

/-- Timeout and retries of a route. -/
structure ResiliencyConfig where
  timeoutMs : Option Nat
  retryPolicy : Option RetryPolicy
deriving DecidableEq

/-- The release part of a semantic version. -/
structure Version where
  major : Nat
  minor : Nat
  patch : Nat
deriving DecidableEq

/-- A sealed route. -/
structure IntegrityRoute where
  path : String
  role : RouteRole := .user
  name : String
  version : Version := ⟨0, 0, 0⟩
  dependencies : List (String × String) := []
  middleware : Option String := none
  targets : List RouteTarget := []
  resiliency : Option ResiliencyConfig := none
  inferenceComponents : List String := []
  domains : List String := []
  resourcePolicy : Option ResourcePolicy := none
  runtime : Option FaaSRuntime := none
  requiresTee : Bool := false
  allowOverflow : Bool := false
  distributedRateLimit : Option DistributedRateLimitConfig := none
  shadowTarget : Option String := none
deriving DecidableEq

def IntegrityRoute.microvm (route : IntegrityRoute) : Bool :=
  match route.runtime with
  | some (.microvm _ _ _) => true
  | _ => false

/-- How nodes may enrol. -/
inductive EnrollmentMode where
  | pin
  | zeroTouch
  | both
deriving DecidableEq

/-- The policy on enrolment. -/
structure EnrollmentConfig where
  mode : EnrollmentMode := .pin
  oidcIssuer : Option String := none
  oidcAudience : Option String := none
  autoApproveTags : List String := []

def EnrollmentConfig.allowsZeroTouch (enrollment : EnrollmentConfig) : Bool :=
  enrollment.mode = .zeroTouch || enrollment.mode = .both

/-- A name under which guests reach a route or an outside service. -/
inductive IntegrityResource where
  | internal (target : String) (versionConstraint : Option String)
  | external (target : String) (allowedMethods : List String)

/-- The sealed configuration. -/
structure IntegrityConfig where
  hostAddress : String
  routes : List IntegrityRoute
  resources : List (String × IntegrityResource) := []
  teeBackend : Option TeeBackendConfig := none
  enrollment : EnrollmentConfig := {}

/-! ## Paths -/

def trimEndMatches (c : Char) (text : String) : String :=
  String.ofList (text.toList.reverse.dropWhile (· == c)).reverse

def normalizeRoutePath (path : String) : String :=
  let trimmed := trim path
  let withLeadingSlash := if startsWith trimmed "/" then trimmed else "/" ++ trimmed
  let normalized := trimEndMatches '/' withLeadingSlash
  if normalized = "" then "/" else normalized

/-- The last segment other than `api`. -/
def resolveFunctionName (path : String) : Option String :=
  (split '/' path).reverse.find? fun segment => segment != "" && segment != "api"

def isReservedSystemPath (path : String) : Bool :=
  startsWith path "/auth/" || startsWith path "/admin/"

/-! ## The route registry -/

/-- Later versions come first, then earlier paths. -/
def IntegrityRoute.precedes (first second : IntegrityRoute) : Bool :=
  let left := (first.version.major, first.version.minor, first.version.patch)
  let right := (second.version.major, second.version.minor, second.version.patch)
  match compare left.1 right.1, compare left.2.1 right.2.1, compare left.2.2 right.2.2 with
  | .gt, _, _ => true
  | .eq, .gt, _ => true
  | .eq, .eq, .gt => true
  | .eq, .eq, .eq => decide (first.path ≤ second.path)
  | _, _, _ => false

namespace IntegrityConfig
variable (config : IntegrityConfig)

/-- `IntegrityConfig::sealed_route`: the first route with the path. -/
def sealedRoute (path : String) : Option IntegrityRoute :=
  config.routes.find? fun route => route.path == normalizeRoutePath path

/-- The registry keeps the last route with a path. -/
def byPath (path : String) : Option IntegrityRoute :=
  config.routes.reverse.find? fun route => route.path == path

/-- The routes with a name, in registry order. -/
def byName (name : String) : List IntegrityRoute :=
  (config.routes.filter fun route => route.name == name).insertionSort
    fun first second => first.precedes second

/-- `RouteRegistry::sealed_route`. -/
def registeredRoute (path : String) : Option IntegrityRoute :=
  config.byPath (normalizeRoutePath path)

def resolveNamedRoute (name : String) : Except String IntegrityRoute :=
  match (config.byName name).head? with
  | some route => .ok route
  | none => .error ("route middleware `" ++ name ++ "` does not match any sealed route name")

/-- `route_for_domain`; `normalize_domain` refuses separators and blanks. -/
def routeForDomain (domain : String) : Option IntegrityRoute :=
  let normalized := toAsciiLowercase (trimEndMatches '.' (trim domain))
  if normalized = "" || normalized.toList.any (fun c => c = '/' || c = '\\' || c = ' ') then none
  else config.routes.reverse.find? fun route => route.domains.contains normalized

end IntegrityConfig

/-! ## Targets -/

def coreWasi : Nat := 1

/-- The flags of `capability_flag`. -/
def capabilityFlags : List (String × Nat) :=
  [("core:wasi", coreWasi), ("legacy:oci", 2), ("accel:cuda", 4), ("accel:openvino", 8),
    ("accel:tpu", 16), ("net:layer4", 32), ("feature:websockets", 64), ("feature:http3", 128),
    ("feature:ai-inference", 256), ("os:linux", 512), ("os:windows", 1024)]

def capabilityFlag (value : String) : Except String Nat :=
  match capabilityFlags.lookup (toAsciiLowercase (trim value)) with
  | some flag => .ok flag
  | none => .error ("unknown capability `" ++ value ++ "`")

/-- `from_requirement_list`. -/
def requirementMask (requirements : List String) : Except String Nat :=
  (if requirements.isEmpty then ["core:wasi"] else requirements).foldlM
    (fun mask requirement => (capabilityFlag requirement).map (mask ||| ·)) 0

/-- The target a request selects. -/
structure SelectedRouteTarget where
  module : String
  websocket : Bool
  requiredCapabilityMask : Nat

def requestHeaderMatches (headers : HeaderMap) (matcher : HeaderMatch) : Bool :=
  (headers.getStr matcher.name).any fun value => trim value == matcher.value

def RouteTarget.select (target : RouteTarget) : Except String SelectedRouteTarget :=
  (requirementMask target.requires).map fun mask =>
    { module := target.module, websocket := target.websocket, requiredCapabilityMask := mask }

/-- The target whose share of the total weight contains the draw. -/
def drawTarget (draw : Nat) : (cumulative : Nat) → List RouteTarget → Option RouteTarget
  | _, [] => none
  | cumulative, target :: rest =>
      if target.weight = 0 then drawTarget draw cumulative rest
      else if draw < cumulative + target.weight then some target
      else drawTarget draw (cumulative + target.weight) rest

/-- `select_route_target_with_roll`; `roll` stands for the random draw. -/
def selectRouteTarget (route : IntegrityRoute) (headers : HeaderMap) (roll : Nat) :
    Except String SelectedRouteTarget :=
  if route.targets.isEmpty then
    (requirementMask []).map fun mask =>
      { module := route.name, websocket := false, requiredCapabilityMask := mask }
  else
    match route.targets.find? fun target =>
        target.matchHeader.any (requestHeaderMatches headers) with
    | some target => target.select
    | none =>
        match drawTarget (roll % (route.targets.map RouteTarget.weight).sum) 0 route.targets with
        | some target => target.select
        | none =>
            match resolveFunctionName route.path with
            | some module =>
                .ok { module, websocket := false, requiredCapabilityMask := coreWasi }
            | none =>
                .error ("route `" ++ route.path ++ "` does not define a routable guest target")

def selectRouteModule (route : IntegrityRoute) (headers : HeaderMap) (roll : Nat) :
    Except String String :=
  (selectRouteTarget route headers roll).map SelectedRouteTarget.module

/-! ### The draw -/

def totalWeight (targets : List RouteTarget) : Nat := (targets.map RouteTarget.weight).sum

/-- The position at which the walk of `drawTarget` stops. -/
def drawIndex (draw : Nat) : (cumulative : Nat) → List RouteTarget → Option Nat
  | _, [] => none
  | cumulative, target :: rest =>
      if draw < cumulative + target.weight then some 0
      else (drawIndex draw (cumulative + target.weight) rest).map (· + 1)

section
variable {draw cumulative index : Nat} {targets : List RouteTarget} {target : RouteTarget}

private theorem drawTarget_eq (above : cumulative ≤ draw) :
    drawTarget draw cumulative targets =
      (drawIndex draw cumulative targets).bind (targets[·]?) := by
  induction targets generalizing cumulative with
  | nil => rfl
  | cons target rest ih =>
    rw [drawTarget, drawIndex]
    split
    · next zero =>
      rw [zero, Nat.add_zero, if_neg (Nat.not_lt.mpr above), ih above]
      cases drawIndex draw cumulative rest <;> rfl
    · split
      · rfl
      · next beyond =>
        rw [ih (Nat.not_lt.mp beyond)]
        cases drawIndex draw (cumulative + target.weight) rest <;> rfl

/-- The walk stops at a target for the draws of its share of the total. -/
theorem drawIndex_eq_some (above : cumulative ≤ draw) (found : targets[index]? = some target) :
    drawIndex draw cumulative targets = some index ↔
      cumulative + totalWeight (targets.take index) ≤ draw ∧
        draw < cumulative + totalWeight (targets.take index) + target.weight := by
  induction targets generalizing cumulative index with
  | nil => cases found
  | cons _ _ ih =>
    rw [drawIndex]
    cases index with
    | zero =>
      cases found
      split <;> simp [totalWeight, *]
    | succ _ =>
      split
      · simp [totalWeight]
        omega
      · next beyond =>
        have step := ih (Nat.not_lt.mp beyond) found
        simp [totalWeight] at step ⊢
        rw [step]
        omega

private theorem exists_drawIndex (above : cumulative ≤ draw)
    (below : draw < cumulative + totalWeight targets) :
    ∃ index target, drawIndex draw cumulative targets = some index ∧
      targets[index]? = some target := by
  induction targets generalizing cumulative with
  | nil => exact absurd below (Nat.not_lt.mpr above)
  | cons first rest ih =>
    rw [drawIndex]
    split
    · exact ⟨0, first, rfl, rfl⟩
    · next beyond =>
      have later : draw < cumulative + first.weight + totalWeight rest := by
        simp [totalWeight] at below ⊢
        omega
      obtain ⟨index, target, stops, found⟩ := ih (Nat.not_lt.mp beyond) later
      exact ⟨index + 1, target, by rw [stops]; rfl, found⟩

private theorem totalWeight_take_le (found : targets[index]? = some target) :
    totalWeight (targets.take index) + target.weight ≤ totalWeight targets := by
  induction targets generalizing index with
  | nil => cases found
  | cons _ _ ih =>
    cases index with
    | zero =>
      cases found
      simp [totalWeight]
    | succ _ =>
      have step := ih found
      simp [totalWeight] at step ⊢
      omega

end

/-- The first target whose matcher matches is selected. When there is none, each target is
selected for as many of the draws below the total weight as its weight. -/
theorem selectRouteTarget_exact (route : IntegrityRoute) (headers : HeaderMap) :
    let first := route.targets.find? fun target =>
      target.matchHeader.any (requestHeaderMatches headers)
    (∀ target, first = some target → ∀ roll, selectRouteTarget route headers roll = target.select) ∧
    (first = none →
      (∀ draw < totalWeight route.targets, ∃ index target,
        drawIndex draw 0 route.targets = some index ∧ route.targets[index]? = some target ∧
        target.weight ≠ 0 ∧ selectRouteTarget route headers draw = target.select) ∧
      ∀ index target, route.targets[index]? = some target →
        ((range (totalWeight route.targets)).filter fun draw =>
          drawIndex draw 0 route.targets = some index).card = target.weight) := by
  refine ⟨fun target matched _ => ?_, fun unmatched => ⟨fun draw below => ?_, ?_⟩⟩
  · have given : route.targets ≠ [] := by rintro empty; simp [empty] at matched
    simp [selectRouteTarget, given, matched]
  · obtain ⟨index, target, stops, found⟩ := exists_drawIndex (Nat.zero_le draw)
      (Nat.zero_add (totalWeight route.targets) ▸ below)
    have given : route.targets ≠ [] := by rintro empty; simp [empty] at found
    have share := (drawIndex_eq_some (Nat.zero_le draw) found).mp stops
    refine ⟨index, target, stops, found, by omega, ?_⟩
    have drawn : drawTarget (draw % totalWeight route.targets) 0 route.targets = some target := by
      rw [Nat.mod_eq_of_lt below, drawTarget_eq (Nat.zero_le _), stops]
      exact found
    rw [totalWeight] at drawn
    simp [selectRouteTarget, given, unmatched, drawn]
  · intro index target found
    have within := totalWeight_take_le found
    have share : ((range (totalWeight route.targets)).filter fun draw =>
        drawIndex draw 0 route.targets = some index) =
        Ico (totalWeight (route.targets.take index))
          (totalWeight (route.targets.take index) + target.weight) := by
      ext draw
      rw [mem_filter, drawIndex_eq_some (Nat.zero_le draw) found, mem_Ico, mem_range]
      omega
    rw [share, Nat.card_Ico]
    omega

/-! ## Hosts -/

/-- The Cargo features that change how requests are dispatched. -/
structure Features where
  websockets : Bool
  aiInference : Bool
  resiliency : Bool

/-- What a caller's token says. -/
structure CallerIdentityClaims where
  routePath : String
  tenantId : Option String
  tokenId : Option String

/-- A parsed URL, as far as it is read. -/
structure Url where
  host : Option String
  path : String
  query : Option String

/-- An address as it is printed. -/
inductive IpAddr where
  | v4 (text : String)
  | v6 (text : String)

/-- An address with its port. -/
structure SocketAddr where
  ip : IpAddr
  port : Nat

/-- A running host. The functions stand for outside libraries: parsers of URLs, URIs, socket
addresses and version requirements, the change of a URL's path and query, the WebSocket upgrade
extractor, the verification of a host-signed identity. `handles` tells the paths that the
router gives to handlers of its own, `checkHttp` is a route's HTTP scope, `mockK8sUrl` an
environment variable. -/
structure Host where
  config : IntegrityConfig
  features : Features
  capabilities : Nat
  forceMeshTransport : Bool
  handles : String → Bool
  upgrades : HttpRequest → Bool
  verifyHeader : HeaderMap → Except String CallerIdentityClaims
  parseUrl : String → Except String Url
  parseUri : String → Except String Uri
  parseSocketAddr : String → Option SocketAddr
  parseVersionReq : String → Except String (Version → Bool)
  setPathAndQuery : String → (path : String) → (query : Option String) → String
  mockK8sUrl : Option String
  checkHttp : IntegrityRoute → String → Bool

/-- `Capabilities::supports`. -/
def Host.supports (host : Host) (mask : Nat) : Bool := host.capabilities &&& mask == mask

/-- The names of the capabilities that a mask asks for and the host lacks. -/
def Host.missingNames (host : Host) (mask : Nat) : String :=
  ", ".intercalate ((capabilityFlags.filter fun flag =>
    mask &&& flag.2 != 0 && host.capabilities &&& flag.2 == 0).map Prod.fst)

/-! ## Validation -/

def IntegrityRoute.validated (route : IntegrityRoute) : Bool :=
  route.path != "/" && (resolveFunctionName route.path).isSome &&
  route.name != "" && !route.name.toList.any (fun c => c = '/' || c = '\\') &&
  route.targets.all (fun target =>
    target.module != "" && target.weight ≤ 100 &&
    (match requirementMask target.requires with
      | .ok _ => true
      | .error _ => false)) &&
  (match route.runtime with
    | some (.microvm image vcpus memoryMb) => trim image != "" && vcpus != 0 && 64 ≤ memoryMb
    | _ => true)

/-- What `validate_integrity_config` has checked of the modelled fields: every route, distinct
paths, distinct versions of one name, a backend for routes that require one, and middlewares
that name another route. -/
def IntegrityConfig.validated (config : IntegrityConfig) : Bool :=
  trim config.hostAddress != "" && !config.routes.isEmpty &&
  config.routes.all IntegrityRoute.validated &&
  decide (config.routes.map IntegrityRoute.path).Nodup &&
  decide (config.routes.map fun route => (route.name, route.version)).Nodup &&
  (config.teeBackend.isSome || config.routes.all fun route => !route.requiresTee) &&
  (!config.enrollment.allowsZeroTouch || trim (config.enrollment.oidcIssuer.getD "") != "") &&
  config.routes.all fun route => route.middleware.all fun name =>
    match config.resolveNamedRoute name with
    | .ok middleware => middleware.path != route.path
    | .error _ => false

end TachyonMesh.Dispatch
