import TachyonMesh.Authn.Operations

/-! # The authorization policy

The policy the host asks before it serves an administration request, and the requests
through which the host calls the authentication component.
-/

namespace TachyonMesh.Authz
open Foundation TachyonMesh.Authn

def normalize (values : List String) : List String :=
  sortDedup ((values.map fun value => toAsciiLowercase (trim value)).filter (· ≠ ""))

/-- The scopes that open a resource to identities without the `admin` role. Where there are
none, only administrators are admitted. -/
def requiredScopes (resource : String) : List String :=
  if trim resource = "/admin/status" then ["read:nodes"]
  else if trim resource = "/admin/assets" then ["deploy:wasm"]
  else if "/admin/artifacts/".toList.isPrefixOf (trim resource).toList then ["deploy:wasm"]
  else if trim resource = "/admin/security/pats" then ["manage:tokens"]
  else if trim resource = "/admin/security/recovery-codes" ∨
      trim resource = "/admin/security/2fa/regenerate" then ["manage:security"]
  else []

/-- The action takes no part in the decision. -/
def evaluatePolicy (identity : IdentityPayload) (_action resource : String) : Bool :=
  if (normalize identity.roles).any (· == "admin") then true
  else if (requiredScopes resource).isEmpty then false
  else (requiredScopes resource).all fun scope => (normalize identity.scopes).any (· == scope)

variable {resource : String} {identity : IdentityPayload} {call : Call}

end TachyonMesh.Authz
