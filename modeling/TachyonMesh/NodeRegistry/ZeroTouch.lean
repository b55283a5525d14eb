import TachyonMesh.Dispatch.Outbound
import TachyonMesh.Foundation.Json
import TachyonMesh.Foundation.Outcome
import TachyonMesh.NodeRegistry.Enrollment

/-! # Zero-touch enrollment

What the node registry does with an enrollment start: it verifies the machine identity
that came with the start against the policy in the request body, and only then asks the
signer for a credential. The registry holds no configuration; the policy is part of the
body that the host hands to it.
-/

namespace TachyonMesh.NodeRegistry
open Foundation Dispatch Program

/-- What an attempt meets: the clock, what its outbound calls are answered with, given the calls
before, and the libraries for base64, JSON and RSA. -/
structure World where
  now : Nat
  answer : List OutboundCall → OutboundCall → Except String OutboundResponse
  decodeBase64 : String → Except String String
  parseJson : String → Except String Json
  verifyRs256 : (signingInput signature n e : String) → Except String Unit

/-! ## Tokens -/

/-- The parts of a compact token. -/
structure CompactJwt where
  signingInput : String
  signature : String
  payload : String

namespace World
variable (world : World)

def splitJwt (token : String) : Except String CompactJwt :=
  match split '.' (trim token) with
  | [header, claims, signature] => do
      let payload ← (world.decodeBase64 claims).mapError ("invalid JWT payload: " ++ ·)
      pure { signingInput := header ++ "." ++ claims, signature, payload }
  | _ => .error "token is not a compact JWT"

def headerKid (token : String) : Except String (Option String) := do
  let part := (split '.' token).head?.getD ""
  let header ← (world.decodeBase64 part).mapError ("invalid JWT header: " ++ ·)
  let header ← (world.parseJson header).mapError ("invalid JWT header json: " ++ ·)
  pure ((header.get "kid").bind Json.asText)

def claimsFromPayload (payload : String) : Except String Json :=
  (world.parseJson payload).mapError ("invalid JWT claims json: " ++ ·)

end World

def asArray : Json → Option (List Json)
  | .array items => some items
  | _ => none

def asU64 : Json → Option Nat
  | .natural value => some value.toNat
  | _ => none

def textMember (value : Json) (key : String) : Option String := (value.get key).bind Json.asText

/-- Modulus and exponent of the key with the id, or of the first key. -/
def selectJwk (jwks : Json) (kid : Option String) : Except String (String × String) := do
  let keys ← required "JWKS has no `keys` array" ((jwks.get "keys").bind asArray)
  let key ← required "no JWKS key matched the token `kid`" (keys.find? fun key =>
    match kid with
    | some kid => textMember key "kid" == some kid
    | none => true)
  let n ← required "JWKS key missing `n`" (textMember key "n")
  let e ← required "JWKS key missing `e`" (textMember key "e")
  pure (n, e)

def leewaySeconds : Nat := 60

/-- The `aud` claim names the audience. -/
def namesAudience (claims : Json) (audience : String) : Bool :=
  match claims.get "aud" with
  | some (.text value) => value == audience
  | some (.array items) => items.any fun item => item.asText == some audience
  | _ => false

/-- The sum of the expiry and the leeway wraps. -/
def checkAudExp (claims : Json) (audience : Option String) (now : Nat) : Except String Unit := do
  let exp ← required "token has no `exp`" ((claims.get "exp").bind asU64)
  if now > (exp + leewaySeconds) % 2 ^ 64 then .error "token is expired"
  else
    match audience with
    | none => .ok ()
    | some audience =>
        if namesAudience claims audience then .ok ()
        else .error ("token `aud` does not contain `" ++ audience ++ "`")

def subject (claims : Json) : String := (textMember claims "sub").getD ""

/-- Some keys stand for claims of a Kubernetes service account. -/
def resolveClaim (claims : Json) (key : String) : Option String :=
  let k8s := claims.get "kubernetes.io"
  if key = "namespace" then k8s.bind fun value => textMember value "namespace"
  else if key = "serviceaccount" then
    (k8s.bind (Json.get "serviceaccount")).bind fun value => textMember value "name"
  else if key = "pod" then (k8s.bind (Json.get "pod")).bind fun value => textMember value "name"
  else textMember claims key

/-- One round of the loop of `match_tags`. -/
def matchTag (claims : Json) (tag : String) : Except String Unit := do
  let (key, want) ← required ("auto_approve_tags entry `" ++ tag ++ "` is not key=value")
    (splitOnce '=' tag)
  if resolveClaim claims (trim key) ≠ some (trim want) then
    .error ("claim `" ++ trim key ++ "` did not match `" ++ trim want ++ "`")
  else .ok ()

/-- The loop of `match_tags`. -/
def matchEach (claims : Json) : List String → Except String Unit
  | [] => .ok ()
  | tag :: rest => do
      matchTag claims tag
      matchEach claims rest

def matchTags (claims : Json) (tags : List String) : Except String (List String) :=
  if tags.isEmpty then .error "no auto_approve_tags configured; refusing to auto-approve"
  else do
    matchEach claims tags
    pure tags

/-! ## Calls -/

/-- The call of `http_get`. -/
def getCall (url : String) : OutboundCall :=
  { method := "GET", url, headers := [], body := .bytes "" }

/-- The call of `request_credential`. -/
def credentialCall (signerRoute nodePublicKey : String) : OutboundCall :=
  { method := "POST"
    url := "http://mesh" ++ (if startsWith signerRoute "/" then signerRoute else "/" ++ signerRoute)
    headers := [("content-type", "application/json")]
    body := .object [("nodePublicKey", .text nodePublicKey)] }

namespace World
variable (world : World)

def sendRequest (call : OutboundCall) : Program (List OutboundCall) String OutboundResponse :=
  fun made => (made ++ [call], world.answer made call)

def httpGet (url : String) : Program (List OutboundCall) String String := do
  let response ← (world.sendRequest (getCall url)).mapError fun error =>
    "GET " ++ url ++ " failed: " ++ error
  if response.status ≠ 200 then
    fail ("GET " ++ url ++ " returned status " ++ toString response.status)
  else pure response.body

def oidcFetchJwks (issuer : String) : Program (List OutboundCall) String Json := do
  let base := trimEndMatches '/' issuer
  let discovery ← world.httpGet (base ++ "/.well-known/openid-configuration")
  let doc ← ofExcept
    ((world.parseJson discovery).mapError ("invalid OIDC discovery document: " ++ ·))
  let jwksUri ← ofExcept
    (required "OIDC discovery document has no `jwks_uri`" (textMember doc "jwks_uri"))
  let jwks ← world.httpGet jwksUri
  ofExcept ((world.parseJson jwks).mapError ("invalid JWKS: " ++ ·))

/-- The checks of `try_zero_touch`: the token's signature under the issuer's key, then audience,
expiry and tags. The result is the token's subject and the matched tags. -/
def verifyIdentity (issuer : String) (audience : Option String) (tags : List String)
    (token : String) : Program (List OutboundCall) String (String × List String) := do
  let jwt ← ofExcept (world.splitJwt token)
  let kid ← ofExcept (world.headerKid token)
  let jwks ← world.oidcFetchJwks issuer
  let key ← ofExcept (selectJwk jwks kid)
  ofExcept (world.verifyRs256 jwt.signingInput jwt.signature key.1 key.2)
  let claims ← ofExcept (world.claimsFromPayload jwt.payload)
  ofExcept (checkAudExp claims audience world.now)
  let matched ← ofExcept (matchTags claims tags)
  pure (subject claims, matched)

def requestCredential (signerRoute nodePublicKey : String) :
    Program (List OutboundCall) String String := do
  let response ← (world.sendRequest (credentialCall signerRoute nodePublicKey)).mapError
    ("signer call failed: " ++ ·)
  if response.status ≠ 200 ∧ response.status ≠ 201 then
    fail ("signer returned status " ++ toString response.status)
  else
    let credential := trim response.body
    match hexDecode credential with
    | .ok _ => pure credential
    | .error error => fail ("signer credential is not hex: " ++ error.text)

/-- The last part of `try_zero_touch`, for an identity that has been verified. -/
def approve (signerRoute nodePublicKey : String) (identity : String × List String) :
    Program (List OutboundCall) String (Option ApprovedCredential) := do
  let credentialHex ← world.requestCredential signerRoute nodePublicKey
  pure (some { credentialHex, subject := identity.1, matchedTags := identity.2 })

end World

def stated (value : Option String) : Option String := (value.map trim).filter (· != "")

/-- A start, with the host's policy. -/
structure EnrollmentStartRequest where
  nodePublicKey : String
  identityToken : Option String
  oidcIssuer : Option String
  oidcAudience : Option String
  autoApproveTags : List String
  signerRoute : Option String

def textsField (fields : List (String × JsonValue)) (name : String) : Option (List String) :=
  match fields.lookup name with
  | none => some []
  | some (.texts values) => some values
  | some _ => none

def EnrollmentStartRequest.ofBody : Body → Option EnrollmentStartRequest
  | .bytes _ => none
  | .object fields => do
      let nodePublicKey ← textField fields "nodePublicKey"
      let identityToken ← optionalTextField fields "identityToken"
      let oidcIssuer ← optionalTextField fields "oidcIssuer"
      let oidcAudience ← optionalTextField fields "oidcAudience"
      let autoApproveTags ← textsField fields "autoApproveTags"
      let signerRoute ← optionalTextField fields "signerRoute"
      pure { nodePublicKey, identityToken, oidcIssuer, oidcAudience, autoApproveTags, signerRoute }

def World.tryZeroTouch (world : World) (input : EnrollmentStartRequest) (nodePublicKey : String) :
    Program (List OutboundCall) String (Option ApprovedCredential) :=
  match stated input.identityToken with
  | none => pure none
  | some token =>
      match stated input.oidcIssuer with
      | none => pure none
      | some issuer =>
          match stated input.signerRoute with
          | none => fail "zero-touch enrollment requires a signer_route"
          | some signerRoute => do
              let identity ← world.verifyIdentity issuer input.oidcAudience input.autoApproveTags
                token
              world.approve signerRoute nodePublicKey identity

/-- The calls that the registry makes while it handles a request. Only starts make any. -/
def World.registryCalls (world : World) (request : GuestRequest) : List OutboundCall :=
  let path := ((splitOnce '?' request.uri).map Prod.fst).getD request.uri
  if eqIgnoreAsciiCase request.method "POST" && path == enrollmentStartRoute then
    match EnrollmentStartRequest.ofBody request.body with
    | none => []
    | some input => (world.tryZeroTouch input input.nodePublicKey []).1
  else []

/-! ## What the checks establish -/

/-- The claims carry what a tag asks for. -/
def Carries (claims : Json) (tag : String) : Prop :=
  ∃ key want, splitOnce '=' tag = some (key, want) ∧
    resolveClaim claims (trim key) = some (trim want)

/-- The token is signed by a key that the issuer publishes, has not expired, and has claims that
name the audience and carry every tag, of which there is at least one. -/
inductive Vouches (world : World) (issuer : String) (audience : Option String)
    (tags : List String) (token : String) : Prop
  | intro {jwt kid jwks claims key calls exp}
      (compact : world.splitJwt token = .ok jwt)
      (header : world.headerKid token = .ok kid)
      (published : world.oidcFetchJwks issuer [] = (calls, .ok jwks))
      (selected : selectJwk jwks kid = .ok key)
      (signed : world.verifyRs256 jwt.signingInput jwt.signature key.1 key.2 = .ok ())
      (claimed : world.claimsFromPayload jwt.payload = .ok claims)
      (expires : (claims.get "exp").bind asU64 = some exp)
      (fresh : world.now ≤ (exp + leewaySeconds) % 2 ^ 64)
      (addressed : ∀ name ∈ audience, namesAudience claims name)
      (asked : tags ≠ [])
      (carried : ∀ tag ∈ tags, Carries claims tag)

variable {claims : Json} {tags : List String}

private theorem checkAudExp_eq_ok {audience : Option String} {now : Nat}
    (checked : checkAudExp claims audience now = .ok ()) :
    ∃ exp, (claims.get "exp").bind asU64 = some exp ∧ now ≤ (exp + leewaySeconds) % 2 ^ 64 ∧
      ∀ name ∈ audience, namesAudience claims name := by
  obtain ⟨exp, found, rest⟩ := bind_eq_ok.mp checked
  refine ⟨exp, required_eq_ok.mp found, ?_⟩
  split at rest
  · cases rest
  · next fresh =>
    refine ⟨Nat.le_of_not_lt fresh, ?_⟩
    intro name wanted
    cases wanted
    dsimp only at rest
    split at rest
    · assumption
    · cases rest

private theorem matchTag_eq_ok {tag : String} (matched : matchTag claims tag = .ok ()) :
    Carries claims tag := by
  obtain ⟨⟨key, want⟩, parts, rest⟩ := bind_eq_ok.mp matched
  refine ⟨key, want, required_eq_ok.mp parts, ?_⟩
  dsimp only at rest
  split at rest
  · cases rest
  · next same => exact Decidable.not_not.mp same

private theorem matchEach_eq_ok
    (matched : matchEach claims tags = .ok ()) : ∀ tag ∈ tags, Carries claims tag := by
  induction tags with
  | nil => simp
  | cons _ _ ih =>
    obtain ⟨_, first, others⟩ := bind_eq_ok.mp matched
    intro other member
    rcases List.mem_cons.mp member with rfl | member
    · exact matchTag_eq_ok first
    · exact ih others other member

private theorem matchTags_eq_ok {matched : List String}
    (approved : matchTags claims tags = .ok matched) :
    tags ≠ [] ∧ ∀ tag ∈ tags, Carries claims tag := by
  unfold matchTags at approved
  split at approved
  · cases approved
  · next nonempty =>
    obtain ⟨_, each, -⟩ := bind_eq_ok.mp approved
    exact ⟨fun empty => nonempty (List.isEmpty_iff.mpr empty), matchEach_eq_ok each⟩

variable {world : World} {issuer token : String} {audience : Option String} {tags : List String}

private theorem verifyIdentity_eq_ok {calls : List OutboundCall} {identity : String × List String}
    (verified : world.verifyIdentity issuer audience tags token [] = (calls, .ok identity)) :
    Vouches world issuer audience tags token := by
  obtain ⟨_, _, first, verified⟩ := Program.bind_eq_ok.mp verified
  obtain ⟨compact, rfl⟩ := Program.ofExcept_eq_ok.mp first
  obtain ⟨_, _, second, verified⟩ := bind_eq_ok.mp verified
  obtain ⟨header, rfl⟩ := ofExcept_eq_ok.mp second
  obtain ⟨_, _, published, verified⟩ := bind_eq_ok.mp verified
  obtain ⟨_, _, selected, verified⟩ := bind_eq_ok.mp verified
  obtain ⟨_, _, signed, verified⟩ := bind_eq_ok.mp verified
  obtain ⟨_, _, claimed, verified⟩ := bind_eq_ok.mp verified
  obtain ⟨_, _, current, verified⟩ := bind_eq_ok.mp verified
  obtain ⟨_, _, approved, -⟩ := bind_eq_ok.mp verified
  obtain ⟨_, expires, fresh, addressed⟩ := checkAudExp_eq_ok (ofExcept_eq_ok.mp current).1
  obtain ⟨asked, carried⟩ := matchTags_eq_ok (ofExcept_eq_ok.mp approved).1
  exact .intro compact header published (ofExcept_eq_ok.mp selected).1
    (ofExcept_eq_ok.mp signed).1 (ofExcept_eq_ok.mp claimed).1 expires fresh
    addressed asked carried

/-! ## What the registry sends -/

private theorem sendRequest_writes (world : World) (call : OutboundCall) :
    (world.sendRequest call).Writes (· = call) := by
  intro made
  exact ⟨[call], rfl, by simp⟩

private theorem httpGet_writes (world : World) (url : String) :
    (world.httpGet url).Writes fun call => call.method = "GET" := by
  apply Writes.bind
  · apply Writes.mapError
    apply (sendRequest_writes world (getCall url)).mono
    rintro - rfl
    rfl
  intro response
  split
  · exact .fail _
  · exact .pure _

private theorem oidcFetchJwks_writes (world : World) (issuer : String) :
    (world.oidcFetchJwks issuer).Writes fun call => call.method = "GET" := by
  apply Writes.bind (httpGet_writes world _)
  intro discovery
  apply Writes.check
  intro doc _
  apply Writes.check
  intro jwksUri _
  apply Writes.bind (httpGet_writes world _)
  exact fun _ => Writes.ofExcept _

private theorem verifyIdentity_writes (world : World) (issuer : String) (audience : Option String)
    (tags : List String) (token : String) :
    (world.verifyIdentity issuer audience tags token).Writes fun call => call.method = "GET" := by
  apply Writes.check
  intro jwt _
  apply Writes.check
  intro kid _
  apply Writes.bind (oidcFetchJwks_writes world issuer)
  intro jwks
  apply Writes.check
  intro key _
  apply Writes.check
  intro _ _
  apply Writes.check
  intro claims _
  apply Writes.check
  intro _ _
  apply Writes.check
  exact fun _ _ => Writes.pure _

private theorem requestCredential_writes (world : World) (signerRoute nodePublicKey : String) :
    (world.requestCredential signerRoute nodePublicKey).Writes
      (· = credentialCall signerRoute nodePublicKey) := by
  apply Writes.bind
  · exact (sendRequest_writes world _).mapError _
  intro response
  split
  · exact .fail _
  dsimp only
  split
  · exact .pure _
  · exact .fail _

/-- The start asks for a zero-touch approval, and the policy's issuer vouches for it. -/
structure Approvable (world : World) (input : EnrollmentStartRequest) : Prop where
  vouched : ∃ token issuer, stated input.identityToken = some token ∧
    stated input.oidcIssuer = some issuer ∧
    Vouches world issuer input.oidcAudience input.autoApproveTags token

/-- The call is one for the issuer's keys, or the one for a credential, which is for the key of the
start and comes after the checks have passed. -/
inductive Permitted (world : World) (input : EnrollmentStartRequest) (nodePublicKey : String)
    (call : OutboundCall) : Prop
  | get (method : call.method = "GET")
  | credential {signerRoute : String} (approvable : Approvable world input)
      (routed : stated input.signerRoute = some signerRoute)
      (same : call = credentialCall signerRoute nodePublicKey)

variable {input : EnrollmentStartRequest}

theorem tryZeroTouch_calls {nodePublicKey : String} {call : OutboundCall}
    (made : call ∈ (world.tryZeroTouch input nodePublicKey []).1) :
    Permitted world input nodePublicKey call := by
  rcases presented : stated input.identityToken with _ | token
  · rw [World.tryZeroTouch, presented] at made
    cases made
  rcases named : stated input.oidcIssuer with _ | issuer
  · rw [World.tryZeroTouch, presented, named] at made
    cases made
  rcases routed : stated input.signerRoute with _ | signerRoute
  · rw [World.tryZeroTouch, presented, named, routed] at made
    cases made
  have both : world.tryZeroTouch input nodePublicKey =
      world.verifyIdentity issuer input.oidcAudience input.autoApproveTags token >>=
        world.approve signerRoute nodePublicKey := by
    rw [World.tryZeroTouch, presented, named, routed]
  rw [both] at made
  have credential (calls : List OutboundCall) (identity : String × List String)
      (verified : world.verifyIdentity issuer input.oidcAudience input.autoApproveTags token
        [] = (calls, .ok identity)) :
      (world.approve signerRoute nodePublicKey identity).Writes
        (Permitted world input nodePublicKey) := by
    have approvable : Approvable world input :=
      ⟨token, issuer, presented, named, verifyIdentity_eq_ok verified⟩
    apply Writes.bind
    · apply (requestCredential_writes world signerRoute nodePublicKey).mono
      exact fun call same => .credential approvable routed same
    · exact fun _ => .pure _
  obtain ⟨_, written, permitted⟩ := Writes.bind_from []
    ((verifyIdentity_writes world issuer input.oidcAudience input.autoApproveTags
      token).mono fun _ method => .get method) credential
  rw [written] at made
  exact permitted call made

end TachyonMesh.NodeRegistry
