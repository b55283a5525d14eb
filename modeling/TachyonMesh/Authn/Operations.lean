import TachyonMesh.Foundation.Machine
import TachyonMesh.Authn.Records

/-! # The operations of the authentication component

The calls the component exports, as programs over its state directory. The clock
reading and the random samples a call uses are inputs of the call. `handle` answers
one call, and `authnMachine` takes calls in any order.
-/

namespace TachyonMesh.Authn
open Foundation Program

def patPrefix : String := "tpat_"

def maxPatTtlDays : Nat := 365

def recoveryCodeCount : Nat := 10

def recoverySessionTtlSeconds : Nat := 300

def registrationTokenUse : String := "registration"

def registrationTokenTtlSeconds : Nat := 24 * 60 * 60

def authSessionTtlSeconds : Nat := 24 * 60 * 60

def loginSessionTtlSeconds : Nat := 5 * 60

/-- An identity as `validate_token` returns it. -/
structure IdentityPayload where
  subject : String
  roles : List String
  scopes : List String
  expiresAt : Option Nat

/-- What an invitation grants. -/
structure RegistrationTokenClaims where
  subject : String
  roles : List String
  scopes : List String
  expiresAt : Nat

/-- What a user states at sign-up. -/
structure SignupProfile where
  firstName : String
  lastName : String
  username : String
  password : String

/-- The answer to a staged enrolment. -/
structure StagedUserSession where
  sessionId : String
  username : String
  provisioningUri : String
  roles : List String
  scopes : List String
  expiresAt : Nat

/-- The answer to a staged login. -/
structure StagedLoginSession where
  sessionId : String
  username : String
  expiresAt : Nat

/-- A session that was issued. -/
structure AuthSession where
  token : String
  username : String
  roles : List String
  scopes : List String

/-- A change of a user's profile. -/
structure UserUpdate where
  disabled : Option Bool
  addGroups : Option (List String)
  removeGroups : Option (List String)
  addRoles : Option (List String)
  removeRoles : Option (List String)
  addScopes : Option (List String)
  removeScopes : Option (List String)

/-- A user as the listing shows it. -/
structure UserSummary where
  username : String
  firstName : String
  lastName : String
  roles : List String
  scopes : List String
  groups : List String
  disabledAt : Option Nat
  createdAt : Nat
  lastLoginAt : Option Nat

/-- A group as it is created. -/
structure GroupInput where
  name : String
  description : String
  roles : List String
  scopes : List String

/-- A group as the listing shows it. -/
structure GroupSummary where
  name : String
  description : String
  roles : List String
  scopes : List String
  memberCount : Nat
  createdAt : Nat
  updatedAt : Nat

section
variable (env : Env)

/-! ## Digests and generated values -/

def hashUserPassword (username password : String) : Except String String :=
  (normalizePassword password).map fun password =>
    env.sha256Hex (username ++ ":" ++ password)

def hashRegistrationToken (token : String) : String :=
  env.sha256Hex ("registration:" ++ token)

def hashRecoveryCode (username code : String) : String :=
  env.sha256Hex (username ++ ":" ++ code)

def hashPatToken (token : String) : String := env.sha256Hex token

def generatePatToken (sample : String) : String := patPrefix ++ toAsciiLowercase sample

def generatePendingSessionId (sample : String) : String := toAsciiLowercase sample

def generateTotpSecret (bytes : List Nat) : String := base32Encode bytes

def generateRecoveryCode (chunks : String × String) : String :=
  "TCHN-" ++ toAsciiUppercase chunks.1 ++ "-" ++ toAsciiUppercase chunks.2

/-! ## Signed tokens -/

def decodeJsonSegment {α : Type} (decode : List Nat → Except String α) (segment : String) :
    Except AuthnError α :=
  match env.base64Decode segment with
  | none => .error .invalidCredential
  | some bytes => (decode bytes).mapError fun error =>
      .internalError ("failed to decode JWT payload: " ++ error)

/-- The parts of a token between its dots, each without surrounding white space. -/
def tokenSegments (token : String) : List String := (split '.' token).map trim

/-- The payload of a token given by its three parts, if header, signature and expiry allow. -/
def verifySegments (now : Nat) (header payload signature : String) :
    Except AuthnError TokenPayload := do
  if header = "" ∨ payload = "" ∨ signature = "" then throw .invalidCredential
  else
    let alg ← decodeJsonSegment env env.decodeHeaderAlg header
    if alg ≠ "HS256" then throw .invalidCredential
    else
      let claims ← decodeJsonSegment env env.decodePayload payload
      match env.base64Decode signature with
      | none => throw .invalidCredential
      | some provided =>
          if env.hmacSha256 (header ++ "." ++ payload) ≠ provided then throw .invalidCredential
          else
            match claims.exp with
            | none => return claims
            | some exp => if exp ≤ now then throw .expired else return claims

def verifyHs256Token (token : String) (now : Nat) : Except AuthnError TokenPayload :=
  match tokenSegments token with
  | [header, payload, signature] => verifySegments env now header payload signature
  | _ => .error .invalidCredential

def issueJwt (subject : String) (roles scopes : List String) (ttl now : Nat) : String :=
  let signingInput := env.base64Encode env.headerJson ++ "." ++ env.base64Encode
    (env.sessionJson subject (normalizeRoles roles) (normalizeScopes scopes) (now + ttl))
  signingInput ++ "." ++ env.base64Encode (env.hmacSha256 signingInput)

def mapAuthnErrorToString : AuthnError → String
  | .expired => "token has expired"
  | .invalidCredential => "token is malformed, unknown, or has an invalid signature"
  | .internalError message => message

/-! ## Identities -/

/-- The personal access tokens that have not expired. -/
def livePats (now : Nat) (pats : List PersonalAccessTokenRecord) :
    List PersonalAccessTokenRecord :=
  pats.filter fun pat => now < pat.expiresAt

def patIdentity (pat : PersonalAccessTokenRecord) : IdentityPayload :=
  ⟨pat.owner, [], normalizeScopes pat.scopes, some pat.expiresAt⟩

/-- Write a record back without its expired tokens, if it has any. -/
def prunePats (now : Nat) (file : String) (record : UserSecurityRecord) :
    Program AuthState AuthnError Unit :=
  if (livePats now record.pats).length = record.pats.length then pure ()
  else
    match env.writeRefusal file with
    | some error => fail (.internalError
        ("failed to persist pruned auth state " ++ userRecordPath env file ++ ": " ++ error))
    | none => modify (writeUser file { record with pats := livePats now record.pats })

/-- Search the user files in order for a live token with the given hash. Each file visited
loses its expired tokens; a file that does not decode or cannot be written ends the search. -/
def scanPats (now : Nat) (tokenHash : String) :
    List (String × Stored UserSecurityRecord) → Program AuthState AuthnError IdentityPayload
  | [] => fail .invalidCredential
  | (file, .error error) :: _ => fail
      (.internalError ("failed to decode auth state " ++ userRecordPath env file ++ ": " ++ error))
  | (file, .ok record) :: rest => do
      prunePats env now file record
      match (livePats now record.pats).find? fun pat => pat.hash == tokenHash with
      | some pat =>
          if pat.expiresAt ≤ now then fail .expired else pure (patIdentity pat)
      | none => scanPats now tokenHash rest

def resolvePatIdentity (token : String) (now : Nat) :
    Program AuthState AuthnError IdentityPayload := do
  let files ← reads fun state => .ok state.users.files
  scanPats env now (hashPatToken env token) files

def payloadIdentity (payload : TokenPayload) : IdentityPayload :=
  ⟨payload.subject, normalizeRoles payload.roles, normalizeScopes payload.scopes, payload.exp⟩

def validateIdentityToken (token : String) (now : Nat) :
    Program AuthState AuthnError IdentityPayload :=
  if patPrefix.toList.isPrefixOf token.toList then resolvePatIdentity env token now
  else ofExcept ((verifyHs256Token env token now).map payloadIdentity)

/-! ## Enrolment -/

/-- The checks on the payload of an invitation, in the order of the source. -/
def registrationExpiry (payload : TokenPayload) (now : Nat) : Except String Nat :=
  match payload.iat with
  | none => .error "registration token must include `iat`"
  | some issuedAt =>
      match payload.exp with
      | none => .error "registration token must include `exp`"
      | some expiresAt =>
          if payload.tokenUse ≠ some registrationTokenUse then
            .error "registration token must declare `token_use=registration`"
          else if expiresAt ≤ issuedAt then
            .error "registration token expiry must be after issuance"
          else if expiresAt - issuedAt > registrationTokenTtlSeconds then
            .error "registration token TTL must not exceed 24 hours"
          else if expiresAt ≤ now then .error "registration token has expired"
          else .ok expiresAt

def validateRegistrationPayload (payload : TokenPayload) (token : String) (now : Nat) :
    Action RegistrationTokenClaims := do
  let expiresAt ← ofExcept (registrationExpiry payload now)
  let consumed ← registrationTokenIsConsumed env (hashRegistrationToken env token)
  rejectIf consumed (pure ()) "registration token has already been consumed"
  return ⟨payload.subject, normalizeRoles payload.inviteRoles,
    normalizeScopes payload.inviteScopes, expiresAt⟩

def validateRegistrationTokenClaims (token : String) (now : Nat) :
    Action RegistrationTokenClaims := do
  let payload ← ofExcept ((verifyHs256Token env token now).mapError mapAuthnErrorToString)
  validateRegistrationPayload env payload token now

def ensureUserIsNotEnrolled (username : String) : Action Unit := do
  let record ← loadUserRecord env username
  rejectIf record.profile.isSome (pure ()) "username is already enrolled"

def stagedSession (pending : PendingEnrollmentRecord) : StagedUserSession :=
  ⟨pending.sessionId, pending.username,
    buildTotpProvisioningUri pending.username pending.totpSecret, pending.roles, pending.scopes,
    pending.expiresAt⟩

/-- The same invitation, names, password and grants. -/
def sameSignup (existing pending : PendingEnrollmentRecord) : Bool :=
  existing.registrationTokenHash == pending.registrationTokenHash &&
    existing.firstName == pending.firstName && existing.lastName == pending.lastName &&
    existing.passwordHash == pending.passwordHash && existing.roles == pending.roles &&
    existing.scopes == pending.scopes

def newPendingEnrollment (token sample : String) (secret : List Nat) (now : Nat)
    (claims : RegistrationTokenClaims) (firstName lastName username passwordHash : String) :
    PendingEnrollmentRecord :=
  ⟨generatePendingSessionId sample, hashRegistrationToken env token, claims.subject, firstName,
    lastName, username, passwordHash, generateTotpSecret secret, claims.roles, claims.scopes, now,
    claims.expiresAt⟩

/-- Keep the active pending enrolment of the user if it is the same signup, and replace it
otherwise. -/
def stagePendingRecord (now : Nat) (pending : PendingEnrollmentRecord) :
    Action StagedUserSession := do
  match ← activePendingEnrollmentForUsername env pending.username now with
  | some existing =>
      if sameSignup existing pending then return stagedSession existing
      else
        deletePendingEnrollment existing.sessionId
        savePendingEnrollment pending
        return stagedSession pending
  | none =>
      savePendingEnrollment pending
      return stagedSession pending

/-- `stage_user`: the invitation is checked and a session is stored. -/
def stagePendingUser (token : String) (profile : SignupProfile) (sample : String)
    (secret : List Nat) (now : Nat) : Action StagedUserSession := do
  let claims ← validateRegistrationTokenClaims env token now
  rejectIf (claims.roles.isEmpty && claims.scopes.isEmpty) (pure ())
    "registration token does not grant any roles or scopes"
  let username ← ofExcept (normalizeUsername profile.username)
  let firstName ← ofExcept (normalizePersonName profile.firstName "first name")
  let lastName ← ofExcept (normalizePersonName profile.lastName "last name")
  let passwordHash ← ofExcept (hashUserPassword env username profile.password)
  pruneExpiredPendingEnrollments env now
  ensureUserIsNotEnrolled env username
  stagePendingRecord env now (newPendingEnrollment env token sample secret now claims firstName
    lastName username passwordHash)

def enrolledProfile (pending : PendingEnrollmentRecord) (now : Nat) : UserProfileRecord :=
  ⟨pending.firstName, pending.lastName, pending.username, pending.passwordHash, pending.totpSecret,
    pending.roles, pending.scopes, pending.createdAt, now, [], none, none⟩

/-- The part of `finalizePendingEnrollment` after the pending record is loaded. -/
def enrolPending (sessionId totpCode : String) (now : Nat) (pending : PendingEnrollmentRecord) :
    Action AuthSession := do
  rejectIf (pending.expiresAt ≤ now) (deletePendingEnrollment sessionId)
    "enrollment session has expired"
  let consumed ← registrationTokenIsConsumed env pending.registrationTokenHash
  rejectIf consumed (deletePendingEnrollment sessionId)
    "registration token has already been consumed"
  ofExcept (verifyTotpCode env.sha1 pending.totpSecret totpCode now)
  let record ← loadUserRecord env pending.username
  rejectIf record.profile.isSome (deletePendingEnrollment sessionId) "username is already enrolled"
  saveUserRecord pending.username { record with profile := some (enrolledProfile pending now) }
  consumeRegistrationToken env pending.registrationTokenHash
  deletePendingEnrollment sessionId
  return ⟨issueJwt env pending.username pending.roles pending.scopes authSessionTtlSeconds now,
    pending.username, pending.roles, pending.scopes⟩

/-- `finalize_enrollment`: the code is checked and the account is made. -/
def finalizePendingEnrollment (sessionId totpCode : String) (now : Nat) : Action AuthSession := do
  let sessionId ← ofExcept (normalizeSessionId sessionId)
  let pending ← loadPendingEnrollment env sessionId
  enrolPending env sessionId totpCode now pending

/-! ## Login -/

def requireProfile (record : UserSecurityRecord) (error : String) :
    Except String UserProfileRecord :=
  match record.profile with
  | none => .error error
  | some profile => .ok profile

/-- `stage_login`: the password is checked and a session is stored. -/
def stagePendingLogin (username password sample : String) (now : Nat) :
    Action StagedLoginSession := do
  let username ← ofExcept (normalizeUsername username)
  let passwordHash ← ofExcept (hashUserPassword env username password)
  let record ← loadUserRecord env username
  let profile ← ofExcept (requireProfile record "username or password is invalid")
  rejectIf (profile.passwordHash != passwordHash) (pure ()) "username or password is invalid"
  rejectIf profile.disabledAt.isSome (pure ()) "account is disabled"
  pruneExpiredPendingLogins env now
  let pending : PendingLoginRecord := ⟨generatePendingSessionId sample, profile.username, now,
    min (now + loginSessionTtlSeconds) u64Max⟩
  savePendingLogin pending
  return ⟨pending.sessionId, pending.username, pending.expiresAt⟩

/-- Append the values that are missing, in order. -/
def addMissing (existing values : List String) : List String :=
  values.foldl (fun existing value =>
    if existing.contains value then existing else existing ++ [value]) existing

/-- Add what one group entry of a profile grants; a group without a readable record
grants nothing. -/
def addGroupGrants (state : AuthState) (grants : List String × List String) (group : String) :
    List String × List String :=
  match readGroupRecord env group state with
  | .ok (some record) => (addMissing grants.1 record.roles, addMissing grants.2 record.scopes)
  | _ => grants

/-- Roles and scopes of the profile and of its groups. -/
def effectiveAuthorization (state : AuthState) (profile : UserProfileRecord) :
    List String × List String :=
  let grants := profile.groups.foldl (addGroupGrants env state) (profile.roles, profile.scopes)
  (normalizeRoles grants.1, normalizeScopes grants.2)

/-- The part of `finalizePendingLogin` after the pending record is loaded. -/
def loginPending (sessionId totpCode : String) (now : Nat) (pending : PendingLoginRecord) :
    Action AuthSession := do
  rejectIf (pending.expiresAt ≤ now) (deletePendingLogin sessionId) "login session has expired"
  let record ← loadUserRecord env pending.username
  let profile ← ofExcept (requireProfile record "username is not enrolled")
  rejectIf profile.disabledAt.isSome (deletePendingLogin sessionId) "account is disabled"
  ofExcept (verifyTotpCode env.sha1 profile.totpSecret totpCode now)
  deletePendingLogin sessionId
  let grants ← reads fun state => .ok (effectiveAuthorization env state profile)
  saveUserRecord pending.username
    { record with profile := some { profile with lastLoginAt := some now } }
  return ⟨issueJwt env profile.username grants.1 grants.2 authSessionTtlSeconds now,
    profile.username, grants.1, grants.2⟩

/-- `finalize_login`: the code is checked and a session is issued. -/
def finalizePendingLogin (sessionId totpCode : String) (now : Nat) : Action AuthSession := do
  let sessionId ← ofExcept (normalizeSessionId sessionId)
  let pending ← loadPendingLogin env sessionId
  loginPending env sessionId totpCode now pending

/-! ## Personal access tokens and recovery codes -/

/-- Only the hash of the token is stored. -/
def issuePatToken (subject name : String) (scopes : List String) (ttlDays : Nat)
    (sample : String) (now : Nat) : Action String := do
  let subject ← ofExcept (normalizeUsername subject)
  let name ← ofExcept (normalizePatName name)
  rejectIf (normalizeScopes scopes).isEmpty (pure ()) "PAT scopes must not be empty"
  rejectIf (ttlDays == 0 || maxPatTtlDays < ttlDays) (pure ())
    ("PAT TTL must be between 1 and " ++ toString maxPatTtlDays ++ " days")
  let record ← loadUserRecord env subject
  let pat : PersonalAccessTokenRecord := ⟨subject, name,
    hashPatToken env (generatePatToken sample), normalizeScopes scopes, now,
    min (now + ttlDays * 24 * 60 * 60) u64Max⟩
  saveUserRecord subject { record with pats := livePats now record.pats ++ [pat] }
  return generatePatToken sample

/-- New codes replace the old ones. -/
def generateRecoveryCodes (username : String)
    (samples : Fin recoveryCodeCount → String × String) : Action (List String) := do
  let username ← ofExcept (normalizeUsername username)
  let record ← loadUserRecord env username
  let codes := List.ofFn fun index => generateRecoveryCode (samples index)
  saveUserRecord username
    { record with recoveryHashes := codes.map (hashRecoveryCode env username) }
  return codes

/-- The code is used up, whatever roles the user has. -/
def consumeRecoveryCode (username code : String) (now : Nat) : Action String := do
  let username ← ofExcept (normalizeUsername username)
  let code ← ofExcept (normalizeRecoveryCode code)
  let record ← loadUserRecord env username
  rejectIf (!record.recoveryHashes.contains (hashRecoveryCode env username code)) (pure ())
    "recovery code is invalid or already used"
  saveUserRecord username
    { record with
      recoveryHashes := record.recoveryHashes.erase (hashRecoveryCode env username code) }
  return issueJwt env username ["admin", "recovery"] [] recoverySessionTtlSeconds now

/-! ## Users and groups -/

def userSummaryFrom (profile : UserProfileRecord) : UserSummary :=
  ⟨profile.username, profile.firstName, profile.lastName, profile.roles, profile.scopes,
    profile.groups, profile.disabledAt, profile.createdAt, profile.lastLoginAt⟩

def listUserSummaries (state : AuthState) : List UserSummary :=
  ((listUserRecords state).filterMap fun record => record.profile.map userSummaryFrom).insertionSort
    fun first second => decide (first.username ≤ second.username)

/-- The disabling part of an update; only this part can fail. -/
def updateDisabled (actor username : String) (now : Nat) (profile : UserProfileRecord) :
    Option Bool → Except String UserProfileRecord
  | none => .ok profile
  | some true =>
      if actor = username then .error "operators cannot disable their own account"
      else if profile.disabledAt = none then .ok { profile with disabledAt := some now }
      else .ok profile
  | some false => .ok { profile with disabledAt := none }

def nonEmptyTrimmed (values : List String) : List String := (values.map trim).filter (· ≠ "")

/-- The additions and removals of an update, in the order of the source. -/
def updateGrants (update : UserUpdate) (profile : UserProfileRecord) : UserProfileRecord :=
  let without (existing removed : List String) := existing.filter (!removed.contains ·)
  let given (values : Option (List String)) := values.getD []
  { profile with
    groups := without (addMissing profile.groups (nonEmptyTrimmed (given update.addGroups)))
      (nonEmptyTrimmed (given update.removeGroups))
    roles := without (addMissing profile.roles (normalizeRoles (given update.addRoles)))
      (normalizeRoles (given update.removeRoles))
    scopes := without (addMissing profile.scopes (normalizeScopes (given update.addScopes)))
      (normalizeScopes (given update.removeScopes)) }

/-- An update of an enrolled user. -/
def updateUserRecord (actor username : String) (update : UserUpdate) (now : Nat) :
    Action UserSummary := do
  let actor ← ofExcept (normalizeUsername actor)
  let username ← ofExcept (normalizeUsername username)
  let record ← loadUserRecord env username
  let profile ← ofExcept (requireProfile record ("user `" ++ username ++ "` is not enrolled"))
  let profile ← ofExcept (updateDisabled actor username now profile update.disabled)
  saveUserRecord username { record with profile := some (updateGrants update profile) }
  return userSummaryFrom (updateGrants update profile)

def removeUser (file : String) (state : AuthState) : AuthState :=
  { state with users := state.users.remove file }

/-- Delete a user who is not the operator. -/
def deleteUserRecord (actor username : String) : Action Unit := do
  let actor ← ofExcept (normalizeUsername actor)
  let username ← ofExcept (normalizeUsername username)
  rejectIf (actor == username) (pure ()) "operators cannot delete their own account"
  let file ← ofExcept (sanitizeFilename username)
  let found ← reads fun state => .ok (state.users.find file).isSome
  rejectIf (!found) (pure ()) ("user `" ++ username ++ "` does not exist")
  modify (removeUser file)

/-- Members are the users whose profile lists the name in exactly this spelling. -/
def countGroupMembers (group : String) (state : AuthState) : Nat :=
  min ((listUserRecords state).countP fun record =>
    record.profile.any fun profile => profile.groups.contains group) u32Max

def groupSummaryFrom (record : GroupRecord) (memberCount : Nat) : GroupSummary :=
  ⟨record.name, record.description, record.roles, record.scopes, memberCount, record.createdAt,
    record.updatedAt⟩

def listGroupSummaries (state : AuthState) : List GroupSummary :=
  (state.groups.files.filterMap fun file => file.2.toOption.map fun record =>
    groupSummaryFrom record (countGroupMembers record.name state)).insertionSort
    fun first second => decide (first.name ≤ second.name)

def upsertGroupRecord (input : GroupInput) (now : Nat) : Action GroupSummary := do
  let name ← ofExcept (normalizeGroupName input.name)
  let existing ← loadGroupRecord env name
  let record : GroupRecord := ⟨name, trim input.description, normalizeRoles input.roles,
    normalizeScopes input.scopes, (existing.map (·.createdAt)).getD now, now⟩
  saveGroupRecord record
  let count ← reads fun state => .ok (countGroupMembers name state)
  return groupSummaryFrom record count

def removeGroup (file : String) (state : AuthState) : AuthState :=
  { state with groups := state.groups.remove file }

def deleteGroupRecord (name : String) : Action Unit := do
  let name ← ofExcept (normalizeGroupName name)
  let file ← ofExcept (sanitizeFilename name)
  let found ← reads fun state => .ok (state.groups.find file).isSome
  rejectIf (!found) (pure ()) ("group `" ++ name ++ "` does not exist")
  modify (removeGroup file)

end

/-! ## Calls -/

/-- The exported functions, with what they draw at random. -/
inductive Call where
  | validateToken (token : String)
  | validateRegistrationToken (token : String)
  | stageUser (token : String) (profile : SignupProfile) (sample : String) (secret : List Nat)
  | finalizeEnrollment (sessionId totpCode : String)
  | stageLogin (username password sample : String)
  | finalizeLogin (sessionId totpCode : String)
  | issuePat (subject name : String) (scopes : List String) (ttlDays : Nat) (sample : String)
  | generateRecoveryCodes (username : String) (samples : Fin recoveryCodeCount → String × String)
  | consumeRecoveryCode (username code : String)
  | listUsers
  | updateUser (actor username : String) (update : UserUpdate)
  | deleteUser (actor username : String)
  | listGroups
  | upsertGroup (input : GroupInput)
  | deleteGroup (name : String)

/-- What the exported functions return. -/
inductive Reply where
  | identity (outcome : Except AuthnError IdentityPayload)
  | registration (outcome : Except String RegistrationTokenClaims)
  | stagedUser (outcome : Except String StagedUserSession)
  | enrolled (outcome : Except String AuthSession)
  | stagedLogin (outcome : Except String StagedLoginSession)
  | loggedIn (outcome : Except String AuthSession)
  | patIssued (outcome : Except String String)
  | recoveryCodes (outcome : Except String (List String))
  | recovered (outcome : Except String String)
  | users (summaries : List UserSummary)
  | userUpdated (outcome : Except String UserSummary)
  | userDeleted (outcome : Except String Unit)
  | groups (summaries : List GroupSummary)
  | groupUpserted (outcome : Except String GroupSummary)
  | groupDeleted (outcome : Except String Unit)

/-- Run a program and wrap its outcome. -/
def answer {ε α : Type} (wrap : Except ε α → Reply) (program : Program AuthState ε α)
    (state : AuthState) : AuthState × Reply :=
  ((program state).1, wrap (program state).2)

/-- Answer one call at the time `now`. -/
def handle (env : Env) (now : Nat) : Call → AuthState → AuthState × Reply
  | .validateToken token => answer .identity (validateIdentityToken env token now)
  | .validateRegistrationToken token =>
      answer .registration (validateRegistrationTokenClaims env token now)
  | .stageUser token profile sample secret =>
      answer .stagedUser (stagePendingUser env token profile sample secret now)
  | .finalizeEnrollment sessionId totpCode =>
      answer .enrolled (finalizePendingEnrollment env sessionId totpCode now)
  | .stageLogin username password sample =>
      answer .stagedLogin (stagePendingLogin env username password sample now)
  | .finalizeLogin sessionId totpCode =>
      answer .loggedIn (finalizePendingLogin env sessionId totpCode now)
  | .issuePat subject name scopes ttlDays sample =>
      answer .patIssued (issuePatToken env subject name scopes ttlDays sample now)
  | .generateRecoveryCodes username samples =>
      answer .recoveryCodes (generateRecoveryCodes env username samples)
  | .consumeRecoveryCode username code =>
      answer .recovered (consumeRecoveryCode env username code now)
  | .listUsers => fun state => (state, .users (listUserSummaries state))
  | .updateUser actor username update =>
      answer .userUpdated (updateUserRecord env actor username update now)
  | .deleteUser actor username => answer .userDeleted (deleteUserRecord actor username)
  | .listGroups => fun state => (state, .groups (listGroupSummaries state))
  | .upsertGroup input => answer .groupUpserted (upsertGroupRecord env input now)
  | .deleteGroup name => answer .groupDeleted (deleteGroupRecord name)

/-- A call with the time at which it is made. -/
structure Request where
  now : Nat
  call : Call

/-- The component serving one call after the other. -/
def authnMachine (env : Env) : Machine AuthState Request where
  step state request := some (handle env request.now request.call state).1

/-! ## A plain environment -/

/-- Surroundings to evaluate calls in: a digest is the text itself, every one-time code is
zero, base64 is the text's characters, and a token is signed when its signature is `s`.
Its payload is an invitation for the role `operator`. -/
def plainEnv : Env where
  stateDir := "."
  notFound := "No such file or directory"
  sha256Hex text := text
  sha1 _ := List.replicate 20 0
  hmacSha256 _ := ['s'.toNat]
  base64Encode bytes := String.ofList (bytes.map Char.ofNat)
  base64Decode text := some (text.toList.map Char.toNat)
  headerJson := ['h'.toNat]
  decodeHeaderAlg _ := .ok "HS256"
  sessionJson _ _ _ _ := ['j'.toNat]
  decodePayload _ := .ok ⟨"inviter", [], [], some 3600, some 0, some registrationTokenUse,
    ["operator"], []⟩

/-- An update that only disables or enables. -/
def UserUpdate.setDisabled (disabled : Bool) : UserUpdate :=
  ⟨some disabled, none, none, none, none, none, none⟩

/-- Enrol a user with an invitation, written as the token is presented. -/
def enrolRequests (token username sample : String) : List Request :=
  [⟨1, .stageUser token ⟨"First", "Last", username, "password"⟩ sample (List.replicate 20 0)⟩,
    ⟨2, .finalizeEnrollment sample "000000"⟩]

end TachyonMesh.Authn
