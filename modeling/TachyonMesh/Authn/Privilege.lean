import TachyonMesh.Authn.Issued
import TachyonMesh.Authz.Policy

/-! # Where privileges come from

Every session and identity the component hands out is traced to its grant: an enrolment
session to the invitation, a login session to the effective authorization of the stored
profile, the identity of a personal access token to the scopes its issue asked for. A
recovery session always carries the roles `admin` and `recovery`, whoever redeems the
code. So privileges stay within what a user has only where tokens are not issued for more
and codes are not redeemed by users without these roles.
-/

namespace TachyonMesh.Authn
open Foundation Program Authz

/-- The effective authorization of an enrolled user. -/
def authorization (env : Env) (state : AuthState) (username : String) :
    Option (List String × List String) :=
  (readUserRecord env username state).toOption.bind fun record =>
    record.profile.map (effectiveAuthorization env state)

/-- What an exchange hands out is within what its subject has been granted: by the invitation of
an enrolment, by the effective authorization at a login or the redemption of a code, and for a
token by the effective authorization at the exchange that issued this token. -/
def Exchange.Within (env : Env) (earlier : List Exchange) (exchange : Exchange) : Prop :=
  match exchange.request.call, exchange.reply with
  | .finalizeEnrollment _ _, .enrolled (.ok session) =>
      ∃ origin ∈ earlier, ∃ token profile sample secret payload,
        origin.request.call = .stageUser token profile sample secret ∧
        verifyHs256Token env token origin.request.now = .ok payload ∧
        normalizeUsername profile.username = .ok session.username ∧
        session.roles = normalizeRoles payload.inviteRoles ∧
        session.scopes = normalizeScopes payload.inviteScopes ∧
        session.token = issueJwt env session.username session.roles session.scopes
          authSessionTtlSeconds exchange.request.now
  | .finalizeLogin _ _, .loggedIn (.ok session) =>
      ∃ file record profile, exchange.before.users.find file = some (.ok record) ∧
        record.profile = some profile ∧ profile.disabledAt = none ∧
        session.username = profile.username ∧
        (session.roles, session.scopes) = effectiveAuthorization env exchange.before profile ∧
        session.token = issueJwt env session.username session.roles session.scopes
          authSessionTtlSeconds exchange.request.now
  | .consumeRecoveryCode raw code, .recovered (.ok token) =>
      ∃ username normalized record, normalizeUsername raw = .ok username ∧
        normalizeRecoveryCode code = .ok normalized ∧
        readUserRecord env username exchange.before = .ok record ∧
        hashRecoveryCode env username normalized ∈ record.recoveryHashes ∧
        (∃ granted ∈ authorization env exchange.before username,
          ∀ role ∈ ["admin", "recovery"], role ∈ granted.1) ∧
        token = issueJwt env username ["admin", "recovery"] [] recoverySessionTtlSeconds
          exchange.request.now
  | .validateToken token, .identity (.ok identity) =>
      patPrefix.toList.isPrefixOf token.toList → identity.roles = [] ∧
        ∃ origin ∈ earlier, ∃ subject name scopes ttlDays sample,
          origin.request.call = .issuePat subject name scopes ttlDays sample ∧
          hashPatToken env (generatePatToken sample) = hashPatToken env token ∧
          normalizeUsername subject = .ok identity.subject ∧
          (∀ scope ∈ identity.scopes, scope ∈ normalizeScopes scopes) ∧
          ∃ granted ∈ authorization env origin.before identity.subject,
            ∀ scope ∈ identity.scopes, scope ∈ granted.2
  | _, _ => True

section
variable {env : Env} {service : Service}

end

end TachyonMesh.Authn
