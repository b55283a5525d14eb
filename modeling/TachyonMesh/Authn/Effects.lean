import TachyonMesh.Authn.Operations
import TachyonMesh.Foundation.Outcome

/-! # What a call can do

`Effect` collects what one call can do to the state directory: how each user file can
change, which group files, which pending enrolments can appear, and that consumed
registration tokens stay consumed. `handle_effect` proves it for every call, by walking
through the statements of its program once. What holds over sequences of calls is
derived from it.
-/

namespace TachyonMesh.Authn
open Foundation Program Directory

/-! ## Changes -/

/-- The pending enrolment a `stageUser` call creates. -/
structure StagedBy (env : Env) (request : Request) (pending : PendingEnrollmentRecord) : Prop where
  staged : ∃ token profile sample secret payload,
    request.call = .stageUser token profile sample secret ∧
    verifyHs256Token env token request.now = .ok payload ∧
    payload.tokenUse = some registrationTokenUse ∧
    pending.registrationTokenHash = hashRegistrationToken env token ∧
    normalizeUsername profile.username = .ok pending.username ∧
    pending.roles = normalizeRoles payload.inviteRoles ∧
    pending.scopes = normalizeScopes payload.inviteScopes

/-- The personal access token an `issuePat` call creates. -/
structure IssuedBy (env : Env) (request : Request) (pat : PersonalAccessTokenRecord) : Prop where
  issued : ∃ subject name scopes ttlDays sample,
    request.call = .issuePat subject name scopes ttlDays sample ∧
    normalizeUsername subject = .ok pat.owner ∧ pat.scopes = normalizeScopes scopes ∧
    pat.hash = hashPatToken env (generatePatToken sample)

/-- How a call can change the record stored under a file name. -/
inductive RecordChange (env : Env) (request : Request) (file : String) :
    UserSecurityRecord → UserSecurityRecord → Prop
  | enrolled {record pending sessionId totpCode}
      (call : request.call = .finalizeEnrollment sessionId totpCode)
      (unenrolled : record.profile = none) (filed : sanitized pending.username = file) :
      RecordChange env request file record
        { record with profile := some (enrolledProfile pending request.now) }
  | loggedIn {record profile} (found : record.profile = some profile) :
      RecordChange env request file record
        { record with profile := some { profile with lastLoginAt := some request.now } }
  | patsPruned {record} :
      RecordChange env request file record { record with pats := livePats request.now record.pats }
  | patIssued {record pat} (issued : IssuedBy env request pat)
      (filed : sanitized pat.owner = file) :
      RecordChange env request file record
        { record with pats := livePats request.now record.pats ++ [pat] }
  | codesReplaced {record hashes} :
      RecordChange env request file record { record with recoveryHashes := hashes }
  | updated {record profile changed rawActor rawUsername actor username update}
      (call : request.call = .updateUser rawActor rawUsername update)
      (actorName : normalizeUsername rawActor = .ok actor)
      (userName : normalizeUsername rawUsername = .ok username)
      (filed : sanitized username = file) (found : record.profile = some profile)
      (accepted : updateDisabled actor username request.now profile update.disabled = .ok changed) :
      RecordChange env request file record
        { record with profile := some (updateGrants update changed) }

/-- The record a file stands for; a missing file stands for the empty record. -/
def recordOf : Option (Stored UserSecurityRecord) → Option UserSecurityRecord
  | none => some .default
  | some (.ok record) => some record
  | some (.error _) => none

/-- How a call can change a user file. -/
inductive FileChange (env : Env) (request : Request) (file : String) :
    Option (Stored UserSecurityRecord) → Option (Stored UserSecurityRecord) → Prop
  | same {content} : FileChange env request file content content
  | written {content record record'} (read : recordOf content = some record)
      (change : RecordChange env request file record record') :
      FileChange env request file content (some (.ok record'))
  | removed {content rawActor rawUsername actor username}
      (call : request.call = .deleteUser rawActor rawUsername)
      (actorName : normalizeUsername rawActor = .ok actor)
      (userName : normalizeUsername rawUsername = .ok username)
      (other : actor ≠ username) (filed : sanitized username = file) :
      FileChange env request file content none

/-- The group a call writes or deletes. -/
def Call.NamesGroup (name : String) : Call → Prop
  | .upsertGroup input => normalizeGroupName input.name = .ok name
  | .deleteGroup raw => normalizeGroupName raw = .ok name
  | _ => False

/-- What one call can do to the state directory. -/
structure Effect (env : Env) (request : Request) (before after : AuthState) : Prop where
  users : ∀ file, FileChange env request file (before.users.find file) (after.users.find file)
  groups : ∀ file, after.groups.find file = before.groups.find file ∨
    ∃ name, request.call.NamesGroup name ∧ sanitized name = file
  pendings : ∀ file pending, after.pendingEnrollments.find file = some (.ok pending) →
    before.pendingEnrollments.find file = some (.ok pending) ∨ StagedBy env request pending
  consumed : ∀ hashes, loadConsumedRegistrationTokens env before = .ok hashes →
    ∃ hashes', loadConsumedRegistrationTokens env after = .ok hashes' ∧ hashes ⊆ hashes'

namespace Effect
variable {env : Env} {request : Request} {before state : AuthState}

protected theorem refl (env : Env) (request : Request) (state : AuthState) :
    Effect env request state state where
  users _ := .same
  groups _ := .inl rfl
  pendings _ _ found := .inl found
  consumed hashes read := ⟨hashes, read, List.Subset.refl hashes⟩

variable {file name : String} (effect : Effect env request before state)
include effect

/-- Changing one user file. -/
theorem changeUser {users : Directory (Stored UserSecurityRecord)} {content : Option _}
    (acts : ∀ other, users.find other = if other = file then content else state.users.find other)
    (changed : FileChange env request file (before.users.find file) content) :
    Effect env request before { state with users } where
  __ := effect
  users other := by
    rw [acts]
    split
    · next same =>
      subst same
      exact changed
    · exact effect.users other

private theorem changeGroup {groups : Directory (Stored GroupRecord)}
    (named : request.call.NamesGroup name)
    (acts : ∀ other, other ≠ sanitized name → groups.find other = state.groups.find other) :
    Effect env request before { state with groups } where
  __ := effect
  groups other := by
    by_cases same : other = sanitized name
    · exact .inr ⟨name, named, same.symm⟩
    · rw [acts other same]
      exact effect.groups other

private theorem writePendingEnrollment {pending : PendingEnrollmentRecord}
    (staged : StagedBy env request pending) :
    Effect env request before (writePendingEnrollment file pending state) where
  __ := effect
  pendings other found content := by
    change (state.pendingEnrollments.write file (.ok pending)).find other = _ at content
    rw [find_write] at content
    split at content
    · cases content
      exact .inr staged
    · exact effect.pendings other found content

private theorem removePendingEnrollment :
    Effect env request before (removePendingEnrollment file state) where
  __ := effect
  pendings other found content := by
    change (state.pendingEnrollments.remove file).find other = _ at content
    rw [find_remove] at content
    split at content
    · cases content
    · exact effect.pendings other found content

private theorem changePendingLogins (pendingLogins : Directory (Stored PendingLoginRecord)) :
    Effect env request before { state with pendingLogins } :=
  ⟨effect.users, effect.groups, effect.pendings, effect.consumed⟩

private theorem writeConsumedTokens {hashes : List String} {tokenHash : String}
    (read : loadConsumedRegistrationTokens env state = .ok hashes) :
    Effect env request before (writeConsumedTokens (sortDedup (hashes ++ [tokenHash])) state) where
  __ := effect
  consumed earlier readEarlier := by
    obtain ⟨current, readCurrent, contained⟩ := effect.consumed earlier readEarlier
    obtain rfl : current = hashes := Except.ok.inj (readCurrent.symm.trans read)
    refine ⟨sortDedup (current ++ [tokenHash]), rfl, ?_⟩
    intro hash listed
    rw [mem_sortDedup]
    exact List.mem_append_left _ (contained listed)

end Effect

/-! ## The statements of the programs -/

/-- However the program ends, the call has had a possible effect. -/
def Causes (env : Env) (request : Request) (before : AuthState) {ε α : Type}
    (program : Program AuthState ε α) (state : AuthState) : Prop :=
  wp program (fun _ => Effect env request before) (fun _ => Effect env request before) state

section
variable {env : Env} {request : Request} {before state : AuthState} {α : Type} {username : String}
  {record : UserSecurityRecord}

theorem recordOf_eq_some {content : Option (Stored UserSecurityRecord)}
    (read : recordOf content = some record) :
    content = none ∧ record = .default ∨ content = some (.ok record) := by
  unfold recordOf at read
  split at read
  · exact .inl ⟨rfl, (Option.some.inj read).symm⟩
  · exact .inr (congrArg (some ∘ Except.ok) (Option.some.inj read))
  · cases read

theorem recordOf_of_readUserRecord (read : readUserRecord env username state = .ok record) :
    sanitizeFilename username = .ok (sanitized username) ∧
      recordOf (state.users.find (sanitized username)) = some record := by
  unfold readUserRecord at read
  split at read
  · cases read
  · next _ named =>
    obtain rfl := sanitizeFilename_eq_ok named
    refine ⟨named, ?_⟩
    split at read
    · next missing =>
      rw [missing, ← Except.ok.inj read]
      rfl
    · next stored =>
      rw [stored, ← Except.ok.inj read]
      rfl
    · cases read

section
variable (effect : Effect env request before state)
include effect

/-- Saving a record that the call may put in the place of the one it loaded. -/
theorem causes_saveUserRecord {record' : UserSecurityRecord}
    (read : readUserRecord env username before = .ok record)
    (change : RecordChange env request (sanitized username) record record') :
    Causes env request before (saveUserRecord username record') state := by
  obtain ⟨-, content⟩ := recordOf_of_readUserRecord read
  refine Ensures.check effect fun _ accepted => ?_
  obtain rfl := sanitizeFilename_eq_ok accepted
  exact .modify (effect.changeUser (find_write _ _ · _) (.written content change))

private theorem causes_deletePendingEnrollment (sessionId : String) :
    Causes env request before (deletePendingEnrollment sessionId) state :=
  Ensures.check effect fun _ _ => Ensures.modify effect.removePendingEnrollment

private theorem causes_savePendingEnrollment {pending : PendingEnrollmentRecord}
    (staged : StagedBy env request pending) :
    Causes env request before (savePendingEnrollment pending) state :=
  Ensures.check effect fun _ _ => Ensures.modify (effect.writePendingEnrollment staged)

private theorem causes_deletePendingLogin (sessionId : String) :
    Causes env request before (deletePendingLogin sessionId) state :=
  Ensures.check effect fun _ _ => Ensures.modify (effect.changePendingLogins _)

private theorem causes_savePendingLogin (pending : PendingLoginRecord) :
    Causes env request before (savePendingLogin pending) state :=
  Ensures.check effect fun _ _ => Ensures.modify (effect.changePendingLogins _)

private theorem causes_consumeRegistrationToken (tokenHash : String) :
    Causes env request before (consumeRegistrationToken env tokenHash) state := by
  refine Ensures.read effect fun _ read => ?_
  apply Ensures.modify
  split
  · exact effect
  · exact effect.writeConsumedTokens read

end

private theorem causes_pruneFiles (expired : α → Bool) (failure : String → String → String)
    {discard : String → AuthState → AuthState}
    (discards : ∀ file reached, Effect env request before reached →
      Effect env request before (discard file reached)) (files : List (String × Stored α))
    (effect : Effect env request before state) :
    Causes env request before (pruneFiles expired failure discard files) state := by
  induction files generalizing state with
  | nil => exact Ensures.pure effect _
  | cons entry _ ih =>
    obtain ⟨file, content⟩ := entry
    cases content with
    | error => exact Ensures.fail effect _
    | ok =>
      refine Ensures.bind (Ensures.modify ?_) fun _ _ pruned => ih pruned
      split
      · exact discards file state effect
      · exact effect

private theorem causes_scanPats (tokenHash : String)
    (files : List (String × Stored UserSecurityRecord))
    (listed : ∀ file record, (file, .ok record) ∈ files →
      before.users.find file = some (.ok record))
    (effect : Effect env request before state) :
    Causes env request before (scanPats env request.now tokenHash files) state := by
  induction files generalizing state with
  | nil => exact Ensures.fail effect _
  | cons entry _ ih =>
    obtain ⟨file, content⟩ := entry
    cases content with
    | error => exact Ensures.fail effect _
    | ok record =>
      have stored := listed file record List.mem_cons_self
      have remaining := fun other record' later =>
        listed other record' (List.mem_cons_of_mem _ later)
      refine Ensures.bind ?_ fun _ reached pruned => ?_
      · unfold prunePats
        split
        · exact Ensures.pure effect _
        split
        · exact Ensures.fail effect _
        · exact Ensures.modify
            (effect.changeUser (find_write _ _ · _) (.written (by rw [stored]; rfl) .patsPruned))
      split
      · split
        · exact .fail pruned _
        · exact .pure pruned _
      · exact ih remaining pruned

end

/-! ## The calls -/

section
variable {env : Env} {request : Request} {before state : AuthState} {now : Nat}
  {token sample actor username : String}

/-- What the checks on an invitation establish when they pass. -/
theorem registrationTokenUse_of_registrationExpiry {payload : TokenPayload} {expiresAt : Nat}
    (accepted : registrationExpiry payload now = .ok expiresAt) :
    payload.tokenUse = some registrationTokenUse := by
  unfold registrationExpiry at accepted
  by_contra other
  split at accepted
  · cases accepted
  split at accepted
  · cases accepted
  · rw [if_pos other] at accepted
    cases accepted

/-- The claims of an accepted invitation are those of its verified payload; checking an
invitation changes nothing. -/
theorem validateRegistrationTokenClaims_wp {after : RegistrationTokenClaims → AuthState → Prop}
    {failed : String → AuthState → Prop} (failure : ∀ error, failed error state)
    (accepted : ∀ payload claims, verifyHs256Token env token now = .ok payload →
      payload.tokenUse = some registrationTokenUse →
      claims.roles = normalizeRoles payload.inviteRoles →
      claims.scopes = normalizeScopes payload.inviteScopes → after claims state) :
    wp (validateRegistrationTokenClaims env token now) after failed state := by
  refine wp_ofExcept_bind (fun error _ => failure error) fun payload verified => ?_
  refine wp_ofExcept_bind (fun error _ => failure error) fun _ checked => ?_
  refine wp_reads_bind (fun error _ => failure error) fun consumed _ => ?_
  refine wp_rejectIf_bind (fun _ => (wp_pure _).mpr (failure _)) fun _ => ?_
  exact (wp_pure _).mpr (accepted payload _ (mapError_eq_ok.mp verified)
    (registrationTokenUse_of_registrationExpiry checked) rfl rfl)

private theorem causes_stagePendingRecord {pending : PendingEnrollmentRecord}
    (effect : Effect env request before state) (staged : StagedBy env request pending) :
    Causes env request before (stagePendingRecord env now pending) state := by
  refine Ensures.read effect fun existing _ => ?_
  cases existing with
  | none =>
    exact .done (causes_savePendingEnrollment effect staged)
  | some =>
    simp only
    split
    · exact .pure effect _
    · refine .bind (causes_deletePendingEnrollment effect _) fun _ _ effect => ?_
      exact .done (causes_savePendingEnrollment effect staged)

theorem profile_of_requireProfile {record : UserSecurityRecord} {error : String}
    {profile : UserProfileRecord} (found : requireProfile record error = .ok profile) :
    record.profile = some profile := by
  unfold requireProfile at found
  split at found
  · cases found
  · next stored =>
    rw [stored, Except.ok.inj found]

section
variable (unchanged : Effect env request before before)
include unchanged

private theorem validateIdentityToken_causes (token : String) :
    Causes env request before (validateIdentityToken env token request.now) before := by
  unfold validateIdentityToken
  split
  · refine Ensures.read unchanged fun _ read => ?_
    obtain rfl := Except.ok.inj read
    exact causes_scanPats _ _ (fun _ _ listed => find_eq_some.mpr listed) unchanged
  · exact Ensures.ofExcept unchanged _

private theorem stagePendingUser_causes {profile : SignupProfile} {secret : List Nat}
    (call : request.call = .stageUser token profile sample secret) :
    Causes env request before (stagePendingUser env token profile sample secret request.now)
      before := by
  refine (wp_bind _ _).mpr (validateRegistrationTokenClaims_wp (fun _ => unchanged)
    fun payload _ verified use roles scopes => ?_)
  refine Ensures.guard unchanged fun _ => ?_
  refine Ensures.check unchanged fun _ named => ?_
  refine .check unchanged fun firstName _ => ?_
  refine .check unchanged fun lastName _ => ?_
  refine .check unchanged fun passwordHash _ => ?_
  refine .bind ?_ fun _ pruned effect => ?_
  · refine .read unchanged fun files _ => ?_
    exact causes_pruneFiles _ _ (fun _ _ effect => effect.removePendingEnrollment) _ unchanged
  refine .bind ?_ fun _ reached effect => ?_
  · refine .read effect fun record _ => ?_
    exact (wp_rejectIf _ _ _).mpr ⟨fun _ => Ensures.pure effect _, fun _ => effect⟩
  refine causes_stagePendingRecord effect
    ⟨token, profile, sample, secret, payload, call, verified, use, rfl, named, roles, scopes⟩

private theorem finalizePendingEnrollment_causes {sessionId totpCode : String}
    (call : request.call = .finalizeEnrollment sessionId totpCode) :
    Causes env request before (finalizePendingEnrollment env sessionId totpCode request.now)
      before := by
  refine Ensures.check unchanged fun file _ => ?_
  refine Ensures.read unchanged fun pending _ => ?_
  have discarded := causes_deletePendingEnrollment unchanged file
  refine wp_rejectIf_bind (fun _ => discarded) fun _ => ?_
  refine Ensures.read unchanged fun consumed _ => ?_
  refine wp_rejectIf_bind (fun _ => discarded) fun _ => ?_
  refine Ensures.check unchanged fun _ _ => ?_
  refine .read unchanged fun record read => ?_
  refine wp_rejectIf_bind (fun _ => discarded) fun unenrolled => ?_
  have enrolled : RecordChange env request (sanitized pending.username) record
      { record with profile := some (enrolledProfile pending request.now) } :=
    .enrolled call (Option.not_isSome_iff_eq_none.mp (by simp [unenrolled])) rfl
  refine Ensures.bind (causes_saveUserRecord unchanged read enrolled) fun _ _ effect => ?_
  refine Ensures.bind (causes_consumeRegistrationToken effect _) fun _ _ effect => ?_
  exact .done (causes_deletePendingEnrollment effect file)

private theorem stagePendingLogin_causes (username password sample : String) :
    Causes env request before (stagePendingLogin env username password sample request.now)
      before := by
  refine Ensures.check unchanged fun username _ => ?_
  refine Ensures.check unchanged fun passwordHash _ => ?_
  refine .read unchanged fun record _ => ?_
  refine .check unchanged fun profile _ => ?_
  refine .guard unchanged fun _ => ?_
  refine .guard unchanged fun _ => ?_
  refine .bind ?_ fun _ _ effect => ?_
  · refine .read unchanged fun files _ => ?_
    exact causes_pruneFiles _ _ (fun _ _ effect => effect.changePendingLogins _) _ unchanged
  · exact .bind (causes_savePendingLogin effect _) fun _ _ effect => .pure effect _

private theorem finalizePendingLogin_causes (sessionId totpCode : String) :
    Causes env request before (finalizePendingLogin env sessionId totpCode request.now)
      before := by
  refine Ensures.check unchanged fun file _ => ?_
  refine Ensures.read unchanged fun pending _ => ?_
  have discarded := causes_deletePendingLogin unchanged file
  refine wp_rejectIf_bind (fun _ => discarded) fun _ => ?_
  refine Ensures.read unchanged fun _ read => ?_
  refine Ensures.check unchanged fun _ found => ?_
  refine wp_rejectIf_bind (fun _ => discarded) fun _ => ?_
  refine Ensures.check unchanged fun _ _ => ?_
  refine Ensures.bind discarded fun _ _ effect => ?_
  refine .read effect fun grants _ => ?_
  exact .done (causes_saveUserRecord effect read (.loggedIn (profile_of_requireProfile found)))

private theorem issuePatToken_causes {subject name : String} {scopes : List String} {ttlDays : Nat}
    (call : request.call = .issuePat subject name scopes ttlDays sample) :
    Causes env request before (issuePatToken env subject name scopes ttlDays sample request.now)
      before := by
  refine Ensures.check unchanged fun _ named => ?_
  refine Ensures.check unchanged fun patName _ => ?_
  refine .guard unchanged fun _ => ?_
  refine .guard unchanged fun _ => ?_
  refine .read unchanged fun _ read => ?_
  exact .done (causes_saveUserRecord unchanged read
    (.patIssued ⟨⟨subject, name, scopes, ttlDays, sample, call, named, rfl, rfl⟩⟩ rfl))

private theorem generateRecoveryCodes_causes (username : String)
    (samples : Fin recoveryCodeCount → String × String) :
    Causes env request before (generateRecoveryCodes env username samples) before := by
  refine Ensures.check unchanged fun username _ => ?_
  refine Ensures.read unchanged fun _ read => ?_
  exact .done (causes_saveUserRecord unchanged read .codesReplaced)

private theorem consumeRecoveryCode_causes (username code : String) (now : Nat) :
    Causes env request before (consumeRecoveryCode env username code now) before := by
  refine Ensures.check unchanged fun username _ => ?_
  refine Ensures.check unchanged fun code _ => ?_
  refine .read unchanged fun _ read => ?_
  refine .guard unchanged fun _ => ?_
  exact .done (causes_saveUserRecord unchanged read .codesReplaced)

private theorem updateUserRecord_causes {update : UserUpdate}
    (call : request.call = .updateUser actor username update) :
    Causes env request before (updateUserRecord env actor username update request.now)
      before := by
  refine Ensures.check unchanged fun _ normalizedActor => ?_
  refine Ensures.check unchanged fun _ normalizedUser => ?_
  refine .read unchanged fun _ read => ?_
  refine .check unchanged fun _ found => ?_
  refine .check unchanged fun _ accepted => ?_
  exact .done (causes_saveUserRecord unchanged read
    (.updated call normalizedActor normalizedUser rfl (profile_of_requireProfile found) accepted))

private theorem deleteUserRecord_causes (call : request.call = .deleteUser actor username) :
    Causes env request before (deleteUserRecord actor username) before := by
  refine Ensures.check unchanged fun _ normalizedActor => ?_
  refine Ensures.check unchanged fun _ normalizedUser => ?_
  refine .guard unchanged fun different => ?_
  refine .check unchanged fun _ named => ?_
  refine .read unchanged fun found _ => ?_
  refine .guard unchanged fun _ => ?_
  apply Ensures.modify
  exact unchanged.changeUser (find_remove _ _ ·) (.removed call normalizedActor normalizedUser
    (by simpa using different) (sanitizeFilename_eq_ok named).symm)

private theorem upsertGroupRecord_causes {input : GroupInput}
    (call : request.call = .upsertGroup input) :
    Causes env request before (upsertGroupRecord env input request.now) before := by
  refine Ensures.check unchanged fun name normalized => ?_
  have named : request.call.NamesGroup name := by
    rw [call]
    exact normalized
  refine .read unchanged fun existing _ => ?_
  refine .bind ?_ fun _ _ effect => ?_
  · refine .check unchanged fun _ accepted => ?_
    obtain rfl := sanitizeFilename_eq_ok accepted
    exact .modify (unchanged.changeGroup named fun _ => find_write_of_ne _ _)
  · exact .read effect fun _ _ => .pure effect _

private theorem deleteGroupRecord_causes {raw : String} (call : request.call = .deleteGroup raw) :
    Causes env request before (deleteGroupRecord raw) before := by
  refine Ensures.check unchanged fun name normalized => ?_
  have named : request.call.NamesGroup name := by
    rw [call]
    exact normalized
  refine .check unchanged fun _ accepted => ?_
  obtain rfl := sanitizeFilename_eq_ok accepted
  refine .read unchanged fun found _ => ?_
  refine .guard unchanged fun _ => ?_
  exact .modify (unchanged.changeGroup named fun _ => find_remove_of_ne _)

end

private theorem answer_effect {ε α : Type} {wrap : Except ε α → Reply}
    {program : Program AuthState ε α}
    (causes : Causes env request before program before) :
    Effect env request before (answer wrap program before).1 :=
  of_wp causes

/-- **Every call has one of the effects listed above**, whether it succeeds or fails. -/
theorem handle_effect (before : AuthState) (env : Env) (request : Request) :
    Effect env request before (handle env request.now request.call before).1 := by
  have unchanged := Effect.refl env request before
  cases call : request.call with
  | validateToken token => exact answer_effect (validateIdentityToken_causes unchanged token)
  | validateRegistrationToken =>
    exact answer_effect (validateRegistrationTokenClaims_wp (fun _ => unchanged)
      fun _ _ _ _ _ _ => unchanged)
  | stageUser =>
    exact answer_effect (stagePendingUser_causes unchanged call)
  | finalizeEnrollment =>
    exact answer_effect (finalizePendingEnrollment_causes unchanged call)
  | stageLogin username password sample =>
    exact answer_effect (stagePendingLogin_causes unchanged username password sample)
  | finalizeLogin sessionId totpCode =>
    exact answer_effect (finalizePendingLogin_causes unchanged sessionId totpCode)
  | issuePat =>
    exact answer_effect (issuePatToken_causes unchanged call)
  | generateRecoveryCodes username samples =>
    exact answer_effect (generateRecoveryCodes_causes unchanged username samples)
  | consumeRecoveryCode username code =>
    exact answer_effect (consumeRecoveryCode_causes unchanged username code request.now)
  | listUsers | listGroups => exact unchanged
  | updateUser => exact answer_effect (updateUserRecord_causes unchanged call)
  | deleteUser => exact answer_effect (deleteUserRecord_causes unchanged call)
  | upsertGroup => exact answer_effect (upsertGroupRecord_causes unchanged call)
  | deleteGroup => exact answer_effect (deleteGroupRecord_causes unchanged call)

end

/-! ## Profiles across calls -/

/-- The user's file holds a profile that passes the test. -/
def HoldsProfile (username : String) (test : UserProfileRecord → Prop) (state : AuthState) : Prop :=
  ∃ record profile, state.users.find (sanitized username) = some (.ok record) ∧
    record.profile = some profile ∧ test profile

instance (username : String) (test : UserProfileRecord → Prop) [DecidablePred test]
    (state : AuthState) : Decidable (HoldsProfile username test state) :=
  match found : state.users.find (sanitized username) with
  | some (.ok record) =>
      decidable_of_iff (∃ profile ∈ record.profile, test profile) (by simp [HoldsProfile, found])
  | some (.error _) | none => isFalse (by simp [HoldsProfile, found])

/-- A test survives a call when logins and the updates of the user's file keep it and the
call does not delete the file. -/
theorem holdsProfile_handle {env : Env} {request : Request} {state : AuthState}
    {username : String} {test : UserProfileRecord → Prop}
    (held : HoldsProfile username test state)
    (login : ∀ profile, test profile → test { profile with lastLoginAt := some request.now })
    (updated : ∀ rawActor rawTarget actor target update profile changed,
      request.call = .updateUser rawActor rawTarget update →
      normalizeUsername rawActor = .ok actor → normalizeUsername rawTarget = .ok target →
      sanitized target = sanitized username → test profile →
      updateDisabled actor target request.now profile update.disabled = .ok changed →
      test (updateGrants update changed))
    (kept : ∀ rawActor rawTarget actor target, request.call = .deleteUser rawActor rawTarget →
      normalizeUsername rawActor = .ok actor → normalizeUsername rawTarget = .ok target →
      actor ≠ target → sanitized target ≠ sanitized username) :
    HoldsProfile username test (handle env request.now request.call state).1 := by
  obtain ⟨record, profile, stored, enrolled, passes⟩ := held
  have change := (handle_effect state env request).users (sanitized username)
  rw [stored] at change
  unfold HoldsProfile
  generalize (handle env request.now request.call state).1.users.find (sanitized username) =
    content at change ⊢
  cases change with
  | same => exact ⟨record, profile, rfl, enrolled, passes⟩
  | removed call actorName userName different filed =>
    exact absurd filed (kept _ _ _ _ call actorName userName different)
  | written read change =>
    cases read
    cases change with
    | enrolled _ unenrolled =>
      rw [enrolled] at unenrolled
      cases unenrolled
    | loggedIn found =>
      rw [enrolled] at found
      cases found
      exact ⟨_, _, rfl, rfl, login profile passes⟩
    | patsPruned | patIssued | codesReplaced => exact ⟨_, profile, rfl, enrolled, passes⟩
    | updated call actorName userName filed found accepted =>
      rw [enrolled] at found
      cases found
      exact ⟨_, _, rfl, rfl, updated _ _ _ _ _ _ _ call actorName userName filed passes accepted⟩

end TachyonMesh.Authn
