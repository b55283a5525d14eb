import TachyonMesh.Dispatch.Execution
import TachyonMesh.Foundation.Outcome

/-! # Node credentials

The request handler of `system-faas-cert-manager`, as far as it mints node credentials.
The handler looks at the method, the path and the body of a request and at nothing
else: whoever gets a POST to `sign_node_route` through to it has the node key of the
body signed with the key of the cluster's authority.
-/

namespace TachyonMesh.CertManager
open Foundation Dispatch

def certManagerModule : String := "system-faas-cert-manager"

def signNodeRoute : String := "/internal/cert-manager/sign-node"

/-- The authority's ed25519 key: the public half as hexadecimal digits, and its signatures. -/
structure SigningKey where
  verifyingKey : String
  sign : List UInt8 → String

/-- What a call of the handler meets: the key that `load_ca_signing_key` finds, the clock, and
how its libraries describe a body that they cannot decode. -/
structure Signer where
  caSigningKey : Except (Nat × String) SigningKey
  now : Nat
  bodyError : Body → String

/-- The credential of a node. -/
structure NodeCredential where
  nodePublicKey : String
  caPublicKey : String
  issuedAt : Nat
  signature : String

/-- The node key in a `SignNodeRequest`. -/
def signNodeRequest : Body → Option String
  | .object fields => textField fields "nodePublicKey"
  | .bytes _ => none

namespace Signer
variable (signer : Signer)

/-- `sign_node_credential_with_key`. The handler answers with the hexadecimal digits of the
credential's JSON text. -/
def signNodeCredentialWithKey (key : SigningKey) (nodePublicKey : String) :
    Except (Nat × String) NodeCredential :=
  let nodePublicKey := trim nodePublicKey
  match hexDecode nodePublicKey with
  | .error error => .error (400, "nodePublicKey must be hex: " ++ error.text)
  | .ok bytes => .ok
      { nodePublicKey
        caPublicKey := key.verifyingKey
        issuedAt := signer.now
        signature := key.sign bytes }

def signNodeCredential (body : Body) : Except (Nat × String) NodeCredential :=
  match signNodeRequest body with
  | none => .error (400, "invalid sign-node request: " ++ signer.bodyError body)
  | some nodePublicKey => do
      let key ← signer.caSigningKey
      signer.signNodeCredentialWithKey key (trim nodePublicKey)

end Signer

/-- The path of a URI, without its query. -/
def requestPath (uri : String) : String := ((splitOnce '?' uri).map Prod.fst).getD uri

/-- The handler takes a request with this method and URI for a signing request. -/
def asksToSign (method uri : String) : Bool :=
  eqIgnoreAsciiCase method "POST" && requestPath uri == signNodeRoute

/-- What the component answers. -/
inductive Answer where
  | refused (status : Nat) (message : String)
  | credential (issued : NodeCredential)
  /-- The issuance of a leaf certificate for a domain, which signs no node key. -/
  | leafCertificate

def Answer.issued : Answer → Option NodeCredential
  | .credential issued => some issued
  | _ => none

def Signer.handleRequest (signer : Signer) (request : GuestRequest) : Answer :=
  if !eqIgnoreAsciiCase request.method "POST" then .refused 405 "Method Not Allowed"
  else if requestPath request.uri = signNodeRoute then
    match signer.signNodeCredential request.body with
    | .ok issued => .credential issued
    | .error (status, message) => .refused status message
  else .leafCertificate

variable {signer : Signer} {issued : NodeCredential}

theorem credential_of_issued {answer : Answer} (found : answer.issued = some issued) :
    answer = .credential issued := by
  cases answer with
  | credential => exact congrArg Answer.credential (Option.some.inj found)
  | refused | leafCertificate => cases found

private theorem signNodeCredentialWithKey_eq_ok {key : SigningKey} {nodePublicKey : String}
    (signed : signer.signNodeCredentialWithKey key nodePublicKey = .ok issued) :
    issued.nodePublicKey = trim nodePublicKey := by
  unfold Signer.signNodeCredentialWithKey at signed
  dsimp only at signed
  split at signed
  · cases signed
  · rw [← Except.ok.inj signed]

private theorem signNodeCredential_eq_ok {body : Body}
    (signed : signer.signNodeCredential body = .ok issued) :
    ∃ nodePublicKey, signNodeRequest body = some nodePublicKey ∧
      issued.nodePublicKey = trim nodePublicKey := by
  unfold Signer.signNodeCredential at signed
  split at signed
  · cases signed
  · next nodePublicKey decoded =>
    obtain ⟨_, -, withKey⟩ := bind_eq_ok.mp signed
    refine ⟨nodePublicKey, decoded, ?_⟩
    rw [signNodeCredentialWithKey_eq_ok withKey, trim_trim]

/-- A credential is for the key in the body of a signing request, whoever made it. -/
theorem handleRequest_eq_credential {request : GuestRequest}
    (answered : signer.handleRequest request = .credential issued) :
    asksToSign request.method request.uri ∧
      ∃ nodePublicKey, signNodeRequest request.body = some nodePublicKey ∧
        issued.nodePublicKey = trim nodePublicKey := by
  unfold Signer.handleRequest at answered
  split at answered
  · cases answered
  · next post =>
    split at answered
    · next path =>
      split at answered
      · next _ signed =>
        cases answered
        refine ⟨?_, signNodeCredential_eq_ok signed⟩
        unfold asksToSign
        simpa [path] using post
      · cases answered
    · cases answered

end TachyonMesh.CertManager
