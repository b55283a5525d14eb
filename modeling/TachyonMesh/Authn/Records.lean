import TachyonMesh.Foundation.Directory
import TachyonMesh.Foundation.Program
import TachyonMesh.Authn.Names
import TachyonMesh.Authn.Totp

/-! # Records and the state directory

The records the authentication component stores and the directory it stores them
in. A file is modelled by what decoding its bytes gives: a record, or the decoder's
message when the bytes are no record. The names of the files are without their
extension.
-/

namespace TachyonMesh.Authn
open Foundation Program

/-- Why a credential is refused. -/
inductive AuthnError where
  | expired
  | invalidCredential
  | internalError (message : String)

/-- What a signed token carries. -/
structure TokenPayload where
  subject : String
  roles : List String
  scopes : List String
  exp : Option Nat
  iat : Option Nat
  tokenUse : Option String
  inviteRoles : List String
  inviteScopes : List String

/-- A stored token: its hash and what it stands for. -/
structure PersonalAccessTokenRecord where
  owner : String
  name : String
  hash : String
  scopes : List String
  createdAt : Nat
  expiresAt : Nat

/-- A stored profile. -/
structure UserProfileRecord where
  firstName : String
  lastName : String
  username : String
  passwordHash : String
  totpSecret : String
  roles : List String
  scopes : List String
  createdAt : Nat
  activatedAt : Nat
  groups : List String
  disabledAt : Option Nat
  lastLoginAt : Option Nat
deriving DecidableEq

/-- What is stored of one user. -/
structure UserSecurityRecord where
  recoveryHashes : List String
  pats : List PersonalAccessTokenRecord
  profile : Option UserProfileRecord

/-- The record of a user without a file. -/
def UserSecurityRecord.default : UserSecurityRecord := ⟨[], [], none⟩

/-- A stored group. -/
structure GroupRecord where
  name : String
  description : String
  roles : List String
  scopes : List String
  createdAt : Nat
  updatedAt : Nat

/-- An enrolment that waits for its first code. -/
structure PendingEnrollmentRecord where
  sessionId : String
  registrationTokenHash : String
  inviteSubject : String
  firstName : String
  lastName : String
  username : String
  passwordHash : String
  totpSecret : String
  roles : List String
  scopes : List String
  createdAt : Nat
  expiresAt : Nat

/-- A login that waits for its code. -/
structure PendingLoginRecord where
  sessionId : String
  username : String
  createdAt : Nat
  expiresAt : Nat

/-- What decoding a file gives. -/
abbrev Stored (α : Type) := Except String α

/-- The state directory: user records at its root, and one directory each for groups,
pending enrolments and pending logins; last the file of consumed registration tokens. -/
structure AuthState where
  users : Directory (Stored UserSecurityRecord)
  groups : Directory (Stored GroupRecord)
  pendingEnrollments : Directory (Stored PendingEnrollmentRecord)
  pendingLogins : Directory (Stored PendingLoginRecord)
  consumedTokens : Option (Stored (List String))

def AuthState.empty : AuthState := ⟨.empty, .empty, .empty, .empty, none⟩

/-- The surroundings of the component: the path of its state directory, the system's
message for a missing file, the keyed and unkeyed digests, and the encodings of tokens. -/
structure Env where
  stateDir : String
  notFound : String
  sha256Hex : String → String
  sha1 : List Nat → List Nat
  hmacSha256 : String → List Nat
  base64Encode : List Nat → String
  base64Decode : String → Option (List Nat)
  headerJson : List Nat
  decodeHeaderAlg : List Nat → Except String String
  sessionJson : (subject : String) → (roles scopes : List String) → (exp : Nat) → List Nat
  decodePayload : List Nat → Except String TokenPayload
  /-- The error with which the file system refuses to write a user's file. -/
  writeRefusal : String → Option String := fun _ => none

abbrev Action := Program AuthState String

/-! ## Paths -/

variable (env : Env) (file : String)

def userRecordPath : String := env.stateDir ++ "/" ++ file ++ ".json"

def groupRecordPath : String := env.stateDir ++ "/groups/" ++ file ++ ".json"

def pendingEnrollmentPath : String :=
  env.stateDir ++ "/pending-enrollments/" ++ file ++ ".json"

def pendingLoginPath : String :=
  env.stateDir ++ "/pending-logins/" ++ file ++ ".json"

def registrationTokenStorePath : String :=
  env.stateDir ++ "/registration-tokens/consumed.json"

/-! ## User records -/

def readUserRecord (username : String) (state : AuthState) : Except String UserSecurityRecord :=
  match sanitizeFilename username with
  | .error error => .error error
  | .ok file =>
      match state.users.find file with
      | none => .ok .default
      | some (.ok record) => .ok record
      | some (.error error) => .error
          ("failed to decode auth state from " ++ userRecordPath env file ++ ": " ++ error)

def loadUserRecord (username : String) : Action UserSecurityRecord :=
  reads (readUserRecord env username)

def writeUser (record : UserSecurityRecord) (state : AuthState) : AuthState :=
  { state with users := state.users.write file (.ok record) }

def saveUserRecord (username : String) (record : UserSecurityRecord) : Action Unit := do
  let file ← ofExcept (sanitizeFilename username)
  modify (writeUser file record)

/-- The records of all users whose file decodes, in directory order. -/
def listUserRecords (state : AuthState) : List UserSecurityRecord :=
  state.users.files.filterMap fun file => file.2.toOption

/-! ## Group records -/

def readGroupRecord (name : String) (state : AuthState) : Except String (Option GroupRecord) :=
  match sanitizeFilename name with
  | .error error => .error error
  | .ok file =>
      match state.groups.find file with
      | none => .ok none
      | some (.ok record) => .ok (some record)
      | some (.error error) => .error
          ("failed to decode group `" ++ groupRecordPath env file ++ "`: " ++ error)

def loadGroupRecord (name : String) : Action (Option GroupRecord) :=
  reads (readGroupRecord env name)

def writeGroup (record : GroupRecord) (state : AuthState) : AuthState :=
  { state with groups := state.groups.write file (.ok record) }

def saveGroupRecord (record : GroupRecord) : Action Unit := do
  let file ← ofExcept (sanitizeFilename record.name)
  modify (writeGroup file record)

/-! ## Pending sessions -/

variable (sessionId : String)

def readPendingEnrollment (state : AuthState) : Except String PendingEnrollmentRecord :=
  match sanitizeFilename sessionId with
  | .error error => .error error
  | .ok file =>
      match state.pendingEnrollments.find file with
      | none => .error ("failed to read pending enrollment from " ++
          pendingEnrollmentPath env file ++ ": " ++ env.notFound)
      | some (.ok record) => .ok record
      | some (.error error) => .error ("failed to decode pending enrollment from " ++
          pendingEnrollmentPath env file ++ ": " ++ error)

def loadPendingEnrollment : Action PendingEnrollmentRecord :=
  reads (readPendingEnrollment env sessionId)

def writePendingEnrollment (record : PendingEnrollmentRecord) (state : AuthState) : AuthState :=
  { state with pendingEnrollments := state.pendingEnrollments.write file (.ok record) }

def savePendingEnrollment (record : PendingEnrollmentRecord) : Action Unit := do
  let file ← ofExcept (sanitizeFilename record.sessionId)
  modify (writePendingEnrollment file record)

def removePendingEnrollment (state : AuthState) : AuthState :=
  { state with pendingEnrollments := state.pendingEnrollments.remove file }

def deletePendingEnrollment : Action Unit := do
  let file ← ofExcept (sanitizeFilename sessionId)
  modify (removePendingEnrollment file)

def readPendingLogin (state : AuthState) : Except String PendingLoginRecord :=
  match sanitizeFilename sessionId with
  | .error error => .error error
  | .ok file =>
      match state.pendingLogins.find file with
      | none => .error ("failed to read pending login " ++ pendingLoginPath env file ++
          ": " ++ env.notFound)
      | some (.ok record) => .ok record
      | some (.error error) => .error
          ("failed to decode pending login " ++ pendingLoginPath env file ++ ": " ++ error)

def loadPendingLogin : Action PendingLoginRecord :=
  reads (readPendingLogin env sessionId)

def writePendingLogin (record : PendingLoginRecord) (state : AuthState) : AuthState :=
  { state with pendingLogins := state.pendingLogins.write file (.ok record) }

def savePendingLogin (record : PendingLoginRecord) : Action Unit := do
  let file ← ofExcept (sanitizeFilename record.sessionId)
  modify (writePendingLogin file record)

def removePendingLogin (state : AuthState) : AuthState :=
  { state with pendingLogins := state.pendingLogins.remove file }

def deletePendingLogin : Action Unit := do
  let file ← ofExcept (sanitizeFilename sessionId)
  modify (removePendingLogin file)

/-- Go through pending files in order, removing those whose record has expired; a file
that does not decode ends the pass with an error. -/
def pruneFiles {α : Type} (expired : α → Bool) (failure : String → String → String)
    (discard : String → AuthState → AuthState) : List (String × Stored α) → Action Unit
  | [] => pure ()
  | (file, .error error) :: _ => fail (failure file error)
  | (file, .ok record) :: rest => do
      modify (if expired record then discard file else id)
      pruneFiles expired failure discard rest

def pruneExpiredPendingEnrollments (now : Nat) : Action Unit := do
  let files ← reads fun state => .ok state.pendingEnrollments.files
  pruneFiles (fun record => record.expiresAt ≤ now)
    (fun file error => "failed to decode pending enrollment from " ++
      pendingEnrollmentPath env file ++ ": " ++ error)
    removePendingEnrollment files

def pruneExpiredPendingLogins (now : Nat) : Action Unit := do
  let files ← reads fun state => .ok state.pendingLogins.files
  pruneFiles (fun record => record.expiresAt ≤ now)
    (fun file error => "failed to decode pending login " ++ pendingLoginPath env file ++
      ": " ++ error)
    removePendingLogin files

/-- The first unexpired pending enrolment of a user in directory order. -/
def findActivePending (username : String) (now : Nat) :
    List (String × Stored PendingEnrollmentRecord) → Except String (Option PendingEnrollmentRecord)
  | [] => .ok none
  | (file, .error error) :: _ => .error
      ("failed to decode pending enrollment from " ++ pendingEnrollmentPath env file ++ ": " ++
        error)
  | (_, .ok record) :: rest =>
      if record.username = username ∧ now < record.expiresAt then .ok (some record)
      else findActivePending username now rest

def activePendingEnrollmentForUsername (username : String) (now : Nat) :
    Action (Option PendingEnrollmentRecord) :=
  reads fun state => findActivePending env username now state.pendingEnrollments.files

/-! ## Consumed registration tokens -/

def loadConsumedRegistrationTokens (state : AuthState) : Except String (List String) :=
  match state.consumedTokens with
  | none => .ok []
  | some (.ok hashes) => .ok hashes
  | some (.error error) => .error ("failed to decode consumed registration token store from " ++
      registrationTokenStorePath env ++ ": " ++ error)

def registrationTokenIsConsumed (tokenHash : String) : Action Bool :=
  reads fun state => (loadConsumedRegistrationTokens env state).map (·.contains tokenHash)

def writeConsumedTokens (hashes : List String) (state : AuthState) : AuthState :=
  { state with consumedTokens := some (.ok hashes) }

def consumeRegistrationToken (tokenHash : String) : Action Unit := do
  let hashes ← reads (loadConsumedRegistrationTokens env)
  modify
    (if hashes.contains tokenHash then id
      else writeConsumedTokens (sortDedup (hashes ++ [tokenHash])))

end TachyonMesh.Authn
