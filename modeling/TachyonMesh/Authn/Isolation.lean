import TachyonMesh.Authn.Issued

/-! # Isolation of accounts and groups

Names are compared as strings, but records are stored under `sanitized` names, and
distinct names can have the same one. The check that keeps operators from disabling or
deleting themselves compares names, so it protects an account as long as no call targets
another name with the same file.
-/

namespace TachyonMesh.Authn
open Foundation Program List Directory

/-! ## Calls about one user -/

/-- The user a call is about. A call that finishes an enrolment or a login is about the
user of the pending session it names. -/
def Call.NamesUser (env : Env) (state : AuthState) (username : String) : Call → Prop
  | .stageUser _ profile _ _ => normalizeUsername profile.username = .ok username
  | .finalizeEnrollment sessionId _ => ∃ file pending, normalizeSessionId sessionId = .ok file ∧
      readPendingEnrollment env file state = .ok pending ∧ pending.username = username
  | .stageLogin raw _ _ => normalizeUsername raw = .ok username
  | .finalizeLogin sessionId _ => ∃ file pending, normalizeSessionId sessionId = .ok file ∧
      readPendingLogin env file state = .ok pending ∧ pending.username = username
  | .issuePat raw _ _ _ _ => normalizeUsername raw = .ok username
  | .generateRecoveryCodes raw _ => normalizeUsername raw = .ok username
  | .consumeRecoveryCode raw _ => normalizeUsername raw = .ok username
  | .updateUser _ raw _ => normalizeUsername raw = .ok username
  | .deleteUser _ raw => normalizeUsername raw = .ok username
  | _ => False

/-- The states differ at most in one user file. -/
structure SameExcept (file : String) (first second : AuthState) : Prop where
  users : ∀ other, other ≠ file → first.users.find other = second.users.find other
  groups : first.groups = second.groups
  pendingEnrollments : first.pendingEnrollments = second.pendingEnrollments
  pendingLogins : first.pendingLogins = second.pendingLogins
  consumedTokens : first.consumedTokens = second.consumedTokens

/-- The states agree except for one user file, whose content in each is given. -/
structure Apart (file : String) (left right : Option (Stored UserSecurityRecord))
    (first second : AuthState) : Prop where
  same : SameExcept file first second
  firstContent : first.users.find file = left
  secondContent : second.users.find file = right

section
variable {env : Env} {file : String} {left right : Option (Stored UserSecurityRecord)}
  {username name sample sessionId totpCode raw actor : String} {first second state : AuthState}
  {α : Type} {pending : PendingEnrollmentRecord}

private theorem blind_loadUserRecord (elsewhere : sanitized username ≠ file) :
    Blind (Apart file left right) (loadUserRecord env username) := by
  refine .reads fun _ _ apart => ?_
  unfold readUserRecord
  split
  · rfl
  · next name named =>
    rw [apart.same.users name (sanitizeFilename_eq_ok named ▸ elsewhere)]

/-- A change of one file of another user. -/
theorem apart_changeUser {change : Directory (Stored UserSecurityRecord) → Directory _}
    {content : Option _} (elsewhere : name ≠ file) (acts : ∀ users other,
      (change users).find other = if other = name then content else users.find other)
    (apart : Apart file left right first second) : Apart file left right
      { first with users := change first.users } { second with users := change second.users } where
  same :=
    { apart.same with
      users := by
        intro other different
        rw [acts, acts, apart.same.users other different] }
  firstContent := by rw [acts, if_neg elsewhere.symm, apart.firstContent]
  secondContent := by rw [acts, if_neg elsewhere.symm, apart.secondContent]

private theorem blind_saveUserRecord (elsewhere : sanitized username ≠ file)
    (record : UserSecurityRecord) :
    Blind (Apart file left right) (saveUserRecord username record) := by
  refine .check fun _ named => .modify fun _ _ => ?_
  obtain rfl := sanitizeFilename_eq_ok named
  exact apart_changeUser elsewhere fun users other => users.find_write _ other _

/-- A change that neither changes the user files nor looks at them. -/
theorem apart_of_users {change : AuthState → AuthState}
    (commutes : ∀ state users, change { state with users } = { change state with users })
    (apart : Apart file left right first second) :
    Apart file left right (change first) (change second) := by
  obtain ⟨⟨users, groups, pendingEnrollments, pendingLogins, consumedTokens⟩, atFirst, atSecond⟩ :=
    apart
  have kept : ∀ state, (change state).users = state.users := by
    intro state
    have same := congrArg AuthState.users (commutes state state.users)
    exact same
  have same : change second = { change first with users := second.users } := by
    rw [← commutes, groups, pendingEnrollments, pendingLogins, consumedTokens]
  refine ⟨⟨?_, ?_, ?_, ?_, ?_⟩, (congrArg (·.find file) (kept first)).trans atFirst,
    (congrArg (·.find file) (kept second)).trans atSecond⟩
  · rw [kept first, kept second]
    exact users
  all_goals rw [same]

private theorem blind_storePending {outcome : Except String String}
    {change : String → AuthState → AuthState} (commutes : ∀ name state users,
      change name { state with users } = { change name state with users }) :
    Blind (Apart file left right) (ofExcept outcome >>= fun name => modify (change name)) :=
  .check fun name _ => .modify fun _ _ => apart_of_users (commutes name)

private theorem loadConsumedRegistrationTokens_apart (apart : Apart file left right first second) :
    loadConsumedRegistrationTokens env first = loadConsumedRegistrationTokens env second := by
  unfold loadConsumedRegistrationTokens
  rw [apart.same.consumedTokens]

private theorem blind_registrationTokenIsConsumed (tokenHash : String) :
    Blind (Apart file left right) (registrationTokenIsConsumed env tokenHash) :=
  .reads fun _ _ apart => by rw [loadConsumedRegistrationTokens_apart apart]

private theorem blind_consumeRegistrationToken (tokenHash : String) :
    Blind (Apart file left right) (consumeRegistrationToken env tokenHash) := by
  refine (Blind.reads fun _ _ apart => loadConsumedRegistrationTokens_apart apart).bind
    fun _ => Blind.modify fun _ _ apart => ?_
  split
  · exact apart
  · exact apart_of_users (fun _ _ => rfl) apart

private theorem blind_pruneFiles (expired : α → Bool) (failure : String → String → String)
    {discard : String → AuthState → AuthState}
    (discards : ∀ name first second, Apart file left right first second →
      Apart file left right (discard name first) (discard name second))
    (files : List (String × Stored α)) :
    Blind (Apart file left right) (pruneFiles expired failure discard files) := by
  induction files with
  | nil => exact .pure ()
  | cons entry _ ih =>
    obtain ⟨name, content⟩ := entry
    cases content with
    | error => exact .fail _
    | ok =>
      refine .bind (.modify fun first second apart => ?_) fun _ => ih
      split
      · exact discards name first second apart
      · exact apart

/-! ## The calls do not look at other users -/

variable {now : Nat}

private theorem blind_stagePendingRecord (pending : PendingEnrollmentRecord) :
    Blind (Apart file left right) (stagePendingRecord env now pending) := by
  have saved : Blind (Apart file left right) (savePendingEnrollment pending) :=
    blind_storePending fun _ _ _ => rfl
  refine .bind (.reads fun _ _ apart => ?_) fun existing => ?_
  · rw [apart.same.pendingEnrollments]
  cases existing with
  | none => exact saved.bind fun _ => .pure _
  | some =>
    simp only
    split
    · exact .pure _
    · refine (blind_storePending fun _ _ _ => rfl).bind fun _ => ?_
      exact saved.bind fun _ => .pure _

private theorem blind_stagePendingUser {token : String} {profile : SignupProfile}
    {secret : List Nat}
    (named : normalizeUsername profile.username = .ok username)
    (elsewhere : sanitized username ≠ file) :
    Blind (Apart file left right) (stagePendingUser env token profile sample secret now) := by
  refine .bind ?_ fun _ => ?_
  · refine .check fun payload _ => ?_
    refine .check fun expiresAt _ => ?_
    refine (blind_registrationTokenIsConsumed _).bind fun _ => ?_
    exact .guard (.pure _)
  refine .guard ?_
  refine Blind.ok_bind named ?_
  refine .check fun firstName _ => ?_
  refine .check fun lastName _ => ?_
  refine .check fun passwordHash _ => ?_
  refine Blind.bind ?_ fun _ => ?_
  · refine (Blind.reads fun _ _ apart => by rw [apart.same.pendingEnrollments]).bind fun files => ?_
    exact blind_pruneFiles _ _ (fun _ _ _ => apart_of_users fun _ _ => rfl) files
  refine .bind ?_ fun _ => ?_
  · exact (blind_loadUserRecord elsewhere).bind fun _ => (Blind.pure _).rejectIf _ _
  exact blind_stagePendingRecord _

private theorem blind_enrolPending (elsewhere : sanitized pending.username ≠ file) :
    Blind (Apart file left right) (enrolPending env sessionId totpCode now pending) := by
  have discard : Blind (Apart file left right) (deletePendingEnrollment sessionId) :=
    blind_storePending fun _ _ _ => rfl
  refine (discard.rejectIf _ _).bind fun _ => ?_
  refine (blind_registrationTokenIsConsumed _).bind fun _ => ?_
  refine (discard.rejectIf _ _).bind fun _ => ?_
  refine .check fun _ _ => ?_
  refine (blind_loadUserRecord elsewhere).bind fun _ => ?_
  refine (discard.rejectIf _ _).bind fun _ => ?_
  refine (blind_saveUserRecord elsewhere _).bind fun _ => ?_
  refine (blind_consumeRegistrationToken _).bind fun _ => ?_
  exact discard.bind fun _ => .pure _

private theorem finalizePendingEnrollment_resumes
    (session : normalizeSessionId sessionId = .ok name)
    (stored : readPendingEnrollment env name state = .ok pending) :
    finalizePendingEnrollment env sessionId totpCode now state =
      enrolPending env name totpCode now pending state := by
  unfold finalizePendingEnrollment
  rw [bind_of_ok (congrArg (Prod.mk state) session)]
  exact bind_of_ok (congrArg (Prod.mk state) stored)

private theorem blind_stagePendingLogin {password : String}
    (named : normalizeUsername raw = .ok username)
    (elsewhere : sanitized username ≠ file) :
    Blind (Apart file left right) (stagePendingLogin env raw password sample now) := by
  refine .ok_bind named ?_
  refine .check fun passwordHash _ => ?_
  refine (blind_loadUserRecord elsewhere).bind fun record => ?_
  refine .check fun profile _ => ?_
  refine .guard ?_
  refine .guard ?_
  refine Blind.bind ?_ fun _ => ?_
  · refine (Blind.reads fun _ _ apart => by rw [apart.same.pendingLogins]).bind fun files => ?_
    exact blind_pruneFiles _ _ (fun _ _ _ => apart_of_users fun _ _ => rfl) files
  · have saved (record) : Blind (Apart file left right) (savePendingLogin record) :=
      blind_storePending fun _ _ _ => rfl
    exact (saved _).bind fun _ => .pure _

private theorem blind_loginPending {pending : PendingLoginRecord}
    (elsewhere : sanitized pending.username ≠ file) :
    Blind (Apart file left right) (loginPending env sessionId totpCode now pending) := by
  have discard : Blind (Apart file left right) (deletePendingLogin sessionId) :=
    blind_storePending fun _ _ _ => rfl
  refine (discard.rejectIf _ _).bind fun _ => ?_
  refine (blind_loadUserRecord elsewhere).bind fun _ => ?_
  refine .check fun profile _ => ?_
  refine (discard.rejectIf _ _).bind fun _ => ?_
  refine .check fun _ _ => ?_
  refine discard.bind fun _ => ?_
  refine (Blind.reads fun _ _ apart => congrArg Except.ok
    (effectiveAuthorization_of_files fun _ _ => by rw [apart.same.groups])).bind fun _ => ?_
  exact (blind_saveUserRecord elsewhere _).bind fun _ => Blind.pure _

private theorem finalizePendingLogin_resumes {pending : PendingLoginRecord}
    (session : normalizeSessionId sessionId = .ok name)
    (stored : readPendingLogin env name state = .ok pending) :
    finalizePendingLogin env sessionId totpCode now state =
      loginPending env name totpCode now pending state := by
  unfold finalizePendingLogin
  rw [bind_of_ok (congrArg (Prod.mk state) session)]
  exact bind_of_ok (congrArg (Prod.mk state) stored)

section
variable (named : normalizeUsername raw = .ok username) (elsewhere : sanitized username ≠ file)
include named elsewhere

private theorem blind_issuePatToken {scopes : List String} {ttlDays : Nat} :
    Blind (Apart file left right) (issuePatToken env raw name scopes ttlDays sample now) := by
  refine .ok_bind named ?_
  refine .check fun patName _ => ?_
  refine .guard ?_
  refine .guard ?_
  refine (blind_loadUserRecord elsewhere).bind fun _ => ?_
  exact (blind_saveUserRecord elsewhere _).bind fun _ => .pure _

private theorem blind_generateRecoveryCodes {samples : Fin recoveryCodeCount → String × String} :
    Blind (Apart file left right) (generateRecoveryCodes env raw samples) := by
  refine .ok_bind named ?_
  refine (blind_loadUserRecord elsewhere).bind fun _ => ?_
  exact (blind_saveUserRecord elsewhere _).bind fun _ => .pure _

private theorem blind_consumeRecoveryCode {code : String} :
    Blind (Apart file left right) (consumeRecoveryCode env raw code now) := by
  refine .ok_bind named ?_
  refine .check fun normalized _ => ?_
  refine (blind_loadUserRecord elsewhere).bind fun _ => ?_
  refine .guard ?_
  exact (blind_saveUserRecord elsewhere _).bind fun _ => Blind.pure _

private theorem blind_updateUserRecord {update : UserUpdate} :
    Blind (Apart file left right) (updateUserRecord env actor raw update now) := by
  refine .check fun actorName _ => ?_
  refine Blind.ok_bind named ?_
  refine (blind_loadUserRecord elsewhere).bind fun _ => ?_
  refine .check fun profile _ => ?_
  refine .check fun changed _ => ?_
  exact (blind_saveUserRecord elsewhere _).bind fun _ => .pure _

private theorem blind_deleteUserRecord :
    Blind (Apart file left right) (deleteUserRecord actor raw) := by
  refine .check fun actorName _ => ?_
  refine Blind.ok_bind named ?_
  refine .guard ?_
  refine Blind.check fun name stored => ?_
  have other : name ≠ file := sanitizeFilename_eq_ok stored ▸ elsewhere
  refine (Blind.reads fun _ _ apart => by rw [apart.same.users name other]).bind fun exists? => ?_
  refine .guard ?_
  exact .modify fun _ _ => apart_changeUser other fun users => users.find_remove name

end

private theorem blind_answer {ε : Type} {wrap : Except ε α → Reply}
    {program : Program AuthState ε α}
    (blind : Blind (Apart file left right) program) (apart : Apart file left right first second) :
    Apart file left right (answer wrap program first).1 (answer wrap program second).1 ∧
      (answer wrap program first).2 = (answer wrap program second).2 := by
  obtain ⟨final, same⟩ := blind first second apart
  exact ⟨final, congrArg wrap same⟩

/-- A call about one user gives the same reply and the same changes whatever another
user's file holds, and leaves that file as it is. -/
theorem handle_apart (now : Nat) {call : Call} (named : call.NamesUser env first username)
    (elsewhere : sanitized username ≠ file) (apart : Apart file left right first second) :
    Apart file left right (handle env now call first).1 (handle env now call second).1 ∧
      (handle env now call first).2 = (handle env now call second).2 := by
  cases call with
  | stageUser => exact blind_answer (blind_stagePendingUser named elsewhere) apart
  | stageLogin => exact blind_answer (blind_stagePendingLogin named elsewhere) apart
  | issuePat => exact blind_answer (blind_issuePatToken named elsewhere) apart
  | generateRecoveryCodes => exact blind_answer (blind_generateRecoveryCodes named elsewhere) apart
  | consumeRecoveryCode => exact blind_answer (blind_consumeRecoveryCode named elsewhere) apart
  | updateUser => exact blind_answer (blind_updateUserRecord named elsewhere) apart
  | deleteUser => exact blind_answer (blind_deleteUserRecord named elsewhere) apart
  | finalizeEnrollment =>
    obtain ⟨name, pending, session, stored, rfl⟩ := named
    have stored' : readPendingEnrollment env name second = .ok pending := by
      rw [← stored]
      unfold readPendingEnrollment
      rw [apart.same.pendingEnrollments]
    simp only [handle, answer, finalizePendingEnrollment_resumes session stored,
      finalizePendingEnrollment_resumes session stored']
    exact blind_answer (blind_enrolPending elsewhere) apart
  | finalizeLogin =>
    obtain ⟨name, pending, session, stored, rfl⟩ := named
    have stored' : readPendingLogin env name second = .ok pending := by
      rw [← stored]
      unfold readPendingLogin
      rw [apart.same.pendingLogins]
    simp only [handle, answer, finalizePendingLogin_resumes session stored,
      finalizePendingLogin_resumes session stored']
    exact blind_answer (blind_loginPending elsewhere) apart
  | _ => exact named.elim

end

/-! ## Groups -/

section
variable {env : Env} {role raw name : String} {entries : List String}

private theorem mem_addMissing {value : String} {existing values : List String} :
    value ∈ addMissing existing values ↔ value ∈ existing ∨ value ∈ values := by
  unfold addMissing
  induction values generalizing existing with
  | nil => simp
  | cons head _ ih =>
    rw [foldl_cons, ih, mem_cons]
    split
    · next present =>
      have listed : head ∈ existing := by simpa using present
      constructor
      · rintro (old | later)
        · exact .inl old
        · exact .inr (.inr later)
      · rintro (old | rfl | later)
        · exact .inl old
        · exact .inl listed
        · exact .inr later
    · rw [mem_append, mem_singleton]
      tauto

private theorem mem_foldl_addGroupGrants {state : AuthState} {groups : List String}
    {grants : List String × List String} (granted : role ∈ grants.1 ∨ ∃ entry ∈ groups, ∃ record,
      readGroupRecord env entry state = .ok (some record) ∧ role ∈ record.roles) :
    role ∈ (groups.foldl (addGroupGrants env state) grants).1 := by
  induction groups generalizing grants with
  | nil =>
    rcases granted with old | ⟨_, listed, _⟩
    · exact old
    · cases listed
  | cons _ _ ih =>
    apply ih
    rcases granted with old | ⟨entry, listed, record, read, member⟩
    · left
      unfold addGroupGrants
      split
      · exact mem_addMissing.mpr (.inl old)
      · exact old
    · rcases mem_cons.mp listed with rfl | later
      · left
        unfold addGroupGrants
        rw [read]
        exact mem_addMissing.mpr (.inr member)
      · exact .inr ⟨entry, later, record, read, member⟩

private theorem mem_normalizeRoles_of_normal {roles : List String} (listed : role ∈ roles)
    (normal : toAsciiLowercase (trim role) = role) (nonempty : role ≠ "") :
    role ∈ normalizeRoles roles := by
  unfold normalizeRoles
  rw [mem_sortDedup, mem_filter]
  refine ⟨mem_map.mpr ⟨role, listed, normal⟩, ?_⟩
  simpa using nonempty

private theorem effectiveAuthorization_on_empty (profile : UserProfileRecord) :
    effectiveAuthorization env .empty profile =
      (normalizeRoles profile.roles, normalizeScopes profile.scopes) := by
  have nothing : ∀ (groups : List String) grants,
      groups.foldl (addGroupGrants env .empty) grants = grants := by
    intro groups
    induction groups with
    | nil => exact fun _ => rfl
    | cons _ _ ih =>
      intro grants
      rw [foldl_cons, ih]
      unfold addGroupGrants
      split
      · next _ read =>
        unfold readGroupRecord at read
        split at read <;> cases read
      · rfl
  unfold effectiveAuthorization
  rw [nothing]

private theorem upsertGroup_on_empty (env : Env) (named : normalizeGroupName raw = .ok name)
    (now : Nat)
    (roles : List String) :
    ∃ record : GroupRecord, record.roles = normalizeRoles roles ∧
      (handle env now (.upsertGroup ⟨raw, "", roles, []⟩) .empty).1.groups.find (sanitized name) =
        some (.ok record) := by
  have file := sanitizeFilename_of_ne_empty (ne_empty_of_normalizeGroupName named)
  have stores : Ensures (fun final => ∃ record : GroupRecord, record.roles = normalizeRoles roles ∧
        final.groups.find (sanitized name) = some (.ok record))
      (upsertGroupRecord env ⟨raw, "", roles, []⟩ now) .empty := by
    refine wp_ofExcept_bind (fun _ failed => by rw [named] at failed; cases failed)
      fun found accepted => ?_
    obtain rfl : found = name := Except.ok.inj (accepted.symm.trans named)
    refine wp_reads_bind (fun _ failed => ?_) fun existing _ => ?_
    · unfold readGroupRecord at failed
      rw [file] at failed
      cases failed
    refine wp_bind_intro (wp_ofExcept_bind (fun _ failed => ?_) fun stored _ => ?_)
      fun _ _ saved => wp_reads_bind nofun fun _ _ =>
        (wp_pure _).mpr saved
    · rw [file] at failed
      cases failed
    · next accepted' =>
      obtain rfl := sanitizeFilename_eq_ok accepted'
      exact (wp_modify _).mpr ⟨_, rfl, find_write_self _ _ _⟩
  exact of_wp stores

/-- Writing or deleting the group leaves the grants of every profile with these group
entries alone. -/
def GroupIsolatedFrom (env : Env) (name : String) (entries : List String) : Prop :=
  ∀ now call state profile, call.NamesGroup name → profile.groups = entries →
    effectiveAuthorization env (handle env now call state).1 profile =
      effectiveAuthorization env state profile

private theorem groupIsolatedFrom_of_files
    (files : ∀ entry ∈ entries, sanitized entry ≠ sanitized name) :
    GroupIsolatedFrom env name entries := by
  intro now call state profile named groups
  have effect := handle_effect state env ⟨now, call⟩
  apply effectiveAuthorization_of_files
  intro entry listed
  rcases effect.groups (sanitized entry) with same | ⟨other, namesOther, filed⟩
  · exact same
  have : other = name := by
    cases call with
    | upsertGroup | deleteGroup => exact Except.ok.inj (namesOther.symm.trans named)
    | _ => exact named.elim
  subst this
  exact absurd filed.symm (files entry (groups ▸ listed))

private theorem files_of_groupIsolatedFrom (normalized : normalizeGroupName raw = .ok name)
    (isolated : GroupIsolatedFrom env name entries) :
    ∀ entry ∈ entries, sanitized entry ≠ sanitized name := by
  intro entry listed shared
  -- a user who has nothing but the entry gains the role the group is given
  let member : UserProfileRecord := ⟨"", "", "", "", "", [], [], 0, 0, entries, none, none⟩
  have unchanged := isolated 0 (.upsertGroup ⟨raw, "", ["x"], []⟩) .empty member normalized rfl
  obtain ⟨record, roles, stored⟩ := upsertGroup_on_empty env normalized 0 ["x"]
  have entryName : entry ≠ "" := by
    rintro rfl
    exact ne_empty_of_sanitized (ne_empty_of_normalizeGroupName normalized) shared.symm
  have read : readGroupRecord env entry
      (handle env 0 (.upsertGroup ⟨raw, "", ["x"], []⟩) .empty).1 = .ok (some record) := by
    unfold readGroupRecord
    simp [sanitizeFilename_of_ne_empty entryName, shared, stored]
  have given : "x" ∈ record.roles := by
    rw [roles]
    decide
  have gained : "x" ∈ (effectiveAuthorization env
      (handle env 0 (.upsertGroup ⟨raw, "", ["x"], []⟩) .empty).1 member).1 := by
    apply mem_normalizeRoles_of_normal _ (by decide) (by decide)
    exact mem_foldl_addGroupGrants (.inr ⟨entry, listed, record, read, given⟩)
  rw [unchanged, effectiveAuthorization_on_empty] at gained
  change "x" ∈ normalizeRoles [] at gained
  exact absurd gained (by decide)

end

/-! ## Calls by one operator -/

/-- Where a call carries the name of the operator making it, the name is `actor`. -/
def Call.MadeBy (actor : String) : Call → Prop
  | .updateUser raw _ _ => normalizeUsername raw = .ok actor
  | .deleteUser raw _ => normalizeUsername raw = .ok actor
  | _ => True

/-- An update or deletion targets the operator or a user with another file. -/
def Call.SparesFile (actor : String) : Call → Prop
  | .updateUser _ raw _ => ∀ target, normalizeUsername raw = .ok target →
      target = actor ∨ sanitized target ≠ sanitized actor
  | .deleteUser _ raw => ∀ target, normalizeUsername raw = .ok target →
      target = actor ∨ sanitized target ≠ sanitized actor
  | _ => True

/-- The user's file holds a profile that is not disabled. -/
def ActiveAccount (username : String) (state : AuthState) : Prop :=
  HoldsProfile username (fun profile => profile.disabledAt = none) state
deriving Decidable

variable {username actor other raw : String} {env : Env} {state : AuthState}

/-- Operators cannot disable themselves under their own name. -/
theorem updateDisabled_self {now : Nat} {profile changed : UserProfileRecord}
    {disabled : Option Bool} (active : profile.disabledAt = none)
    (accepted : updateDisabled username username now profile disabled = .ok changed) :
    changed.disabledAt = none := by
  cases disabled with
  | none =>
    obtain rfl := Except.ok.inj accepted
    exact active
  | some disable =>
    cases disable with
    | true =>
      rw [updateDisabled, if_pos rfl] at accepted
      cases accepted
    | false =>
      obtain rfl := Except.ok.inj accepted
      rfl

private theorem activeAccount_handle {request : Request} (active : ActiveAccount actor state)
    (made : request.call.MadeBy actor) (spares : request.call.SparesFile actor) :
    ActiveAccount actor (handle env request.now request.call state).1 := by
  refine holdsProfile_handle active (fun _ enabled => enabled) ?_ ?_
  · intro rawActor rawTarget operator target update profile changed call actorName userName filed
      enabled accepted
    rw [call] at made spares
    obtain rfl := Except.ok.inj (actorName.symm.trans made)
    rcases spares target userName with own | elsewhere
    · subst own
      have still := updateDisabled_self enabled accepted
      exact still
    · exact absurd filed elsewhere
  · intro rawActor rawTarget operator target call actorName userName different
    rw [call] at made spares
    obtain rfl := Except.ok.inj (actorName.symm.trans made)
    rcases spares target userName with own | elsewhere
    · exact absurd own.symm different
    · exact elsewhere

private theorem activeAccount_run {final : AuthState} {requests : List Request}
    (active : ActiveAccount actor state) (own : (authnMachine env).Along
      (fun _ request => request.call.MadeBy actor ∧ request.call.SparesFile actor) state requests)
    (reached : (authnMachine env).run state requests = some final) :
    ActiveAccount actor final := by
  refine Machine.invariant_run ?_ active own reached
  intro state request next active own stepped
  cases stepped
  exact activeAccount_handle active own.1 own.2

/-! ## Isolation -/

/-- Calls about `username` neither change nor look at the file of `other`: the file keeps
its content, and whatever it holds, the reply and everything else are the same. -/
def IsolatedFrom (env : Env) (username other : String) : Prop :=
  ∀ now call first second, call.NamesUser env first username →
    SameExcept (sanitized other) first second →
    (handle env now call first).1.users.find (sanitized other) =
        first.users.find (sanitized other) ∧
      (handle env now call first).2 = (handle env now call second).2 ∧
      SameExcept (sanitized other) (handle env now call first).1 (handle env now call second).1

private theorem isolatedFrom_of_files
    (files : sanitized username ≠ sanitized other) : IsolatedFrom env username other := by
  intro now call first second named same
  obtain ⟨apart, replies⟩ := handle_apart now named files ⟨same, rfl, rfl⟩
  exact ⟨apart.firstContent, replies, apart.same⟩

private theorem generateRecoveryCodes_stores (env : Env)
    (named : normalizeUsername raw = .ok username)
    (now : Nat) (samples : Fin recoveryCodeCount → String × String) :
    ((handle env now (.generateRecoveryCodes raw samples) .empty).1.users.find
      (sanitized username)).isSome := by
  have file := sanitizeFilename_of_ne_empty (ne_empty_of_normalizeUsername named)
  have stores : Ensures (fun final => (final.users.find (sanitized username)).isSome)
      (generateRecoveryCodes env raw samples) .empty := by
    refine wp_ofExcept_bind (fun _ failed => by rw [named] at failed; cases failed)
      fun found accepted => ?_
    obtain rfl : found = username := Except.ok.inj (accepted.symm.trans named)
    refine wp_reads_bind (fun _ failed => ?_) fun record _ => ?_
    · unfold readUserRecord at failed
      rw [file] at failed
      cases failed
    refine wp_bind_intro (wp_ofExcept_bind (fun _ failed => ?_) fun _ accepted => ?_)
      fun _ _ saved => (wp_pure _).mpr saved
    · rw [file] at failed
      cases failed
    · obtain rfl := sanitizeFilename_eq_ok accepted
      apply (wp_modify _).mpr
      exact congrArg Option.isSome (find_write_self _ _ _)
  exact of_wp stores

private theorem files_of_isolatedFrom (named : normalizeUsername raw = .ok username)
    (isolated : IsolatedFrom env username other) : sanitized username ≠ sanitized other := by
  intro shared
  have samples : Fin recoveryCodeCount → String × String := fun _ => ("00000", "00000")
  obtain ⟨unchanged, -⟩ := isolated 0 (.generateRecoveryCodes raw samples) .empty .empty named
    ⟨fun _ _ => rfl, rfl, rfl, rfl, rfl⟩
  have stored := generateRecoveryCodes_stores env named 0 samples
  rw [shared, unchanged] at stored
  cases stored

/-- **Isolation.** Calls about one user leave another user's record alone exactly when the
two names have different file names; a group is independent of the members of other
groups exactly when none of their entries has its file name; and an operator whose calls
never target another name with the operator's own file name keeps an active account. -/
theorem isolated_iff_files_differ (env : Env) :
    (∀ username other, (∃ raw, normalizeUsername raw = .ok username) →
      (∃ raw, normalizeUsername raw = .ok other) → username ≠ other →
      (IsolatedFrom env username other ↔ sanitized username ≠ sanitized other)) ∧
    (∀ name entries, (∃ raw, normalizeGroupName raw = .ok name) →
      (GroupIsolatedFrom env name entries ↔ ∀ entry ∈ entries, sanitized entry ≠ sanitized name)) ∧
    (∀ actor state requests final, ActiveAccount actor state →
      (authnMachine env).Along
        (fun _ request => request.call.MadeBy actor ∧ request.call.SparesFile actor)
        state requests →
      (authnMachine env).run state requests = some final → ActiveAccount actor final) := by
  refine ⟨?_, ?_, ?_⟩
  · rintro _ _ ⟨_, named⟩ _ _
    exact ⟨files_of_isolatedFrom named, isolatedFrom_of_files⟩
  · rintro _ _ ⟨_, named⟩
    exact ⟨files_of_groupIsolatedFrom named, groupIsolatedFrom_of_files⟩
  · intro actor state requests final active own reached
    exact activeAccount_run active own reached

def bothEnrolled : List Request :=
  enrolRequests "h.p.s" "alice" "00000000000000000000000000000001" ++
    enrolRequests "h.q.s" "bob" "00000000000000000000000000000002"

/-- `alice` and `bob`, the groups `ops` and `dev`, and an operator who disables somebody
else. -/
theorem isolated_alice_and_bob :
    IsolatedFrom plainEnv "alice" "bob" ∧ GroupIsolatedFrom plainEnv "ops" ["dev"] ∧
      ∃ state final, (authnMachine plainEnv).run .empty bothEnrolled = some state ∧
        (authnMachine plainEnv).run state
          [⟨3, .updateUser "alice" "bob" (.setDisabled true)⟩] = some final ∧
        HoldsProfile "bob" (fun profile => profile.disabledAt = some 3) final ∧
        ActiveAccount "alice" final := by
  obtain ⟨users, groups, operators⟩ := isolated_iff_files_differ plainEnv
  have alice : normalizeUsername "alice" = .ok "alice" := by decide
  have bob : normalizeUsername "bob" = .ok "bob" := by decide
  refine ⟨(users _ _ ⟨_, alice⟩ ⟨_, bob⟩ (by decide)).mpr (by decide),
    (groups "ops" ["dev"] ⟨"ops", by decide⟩).mpr (by decide), ?_⟩
  obtain ⟨state, enrolled, active, disabled⟩ : ∃ state,
      (authnMachine plainEnv).run .empty bothEnrolled = some state ∧ ActiveAccount "alice" state ∧
      HoldsProfile "bob" (fun profile => profile.disabledAt = some 3)
        (handle plainEnv 3 (.updateUser "alice" "bob" (.setDisabled true)) state).1 := by
    decide +kernel
  refine ⟨state, _, enrolled, rfl, disabled, operators "alice" state
    [⟨3, .updateUser "alice" "bob" (.setDisabled true)⟩] _ active ?_ rfl⟩
  refine ⟨⟨alice, fun _ named => .inr ?_⟩, fun _ _ => trivial⟩
  obtain rfl := Except.ok.inj (named.symm.trans bob)
  decide

/-- The operator `a.b` enrols and then disables the account `a_b`: the account that ends up
disabled is the operator's own. Upserting the group `ops_eu` changes what members of
`ops.eu` receive. -/
theorem shared_file_breaks_isolation :
    "a.b" ≠ "a_b" ∧
      (((authnMachine plainEnv).run .empty
          (enrolRequests "h.p.s" "a.b" "00000000000000000000000000000001" ++
            [⟨3, .updateUser "a.b" "a_b" (.setDisabled true)⟩])).bind fun final =>
        (readUserRecord plainEnv "a.b" final).toOption).map
          (fun record => record.profile.map fun profile => (profile.username, profile.disabledAt)) =
        some (some ("a.b", some 3)) ∧
      ((authnMachine plainEnv).run .empty
        [⟨1, .upsertGroup ⟨"ops.eu", "", ["viewer"], []⟩⟩,
          ⟨2, .upsertGroup ⟨"ops_eu", "", ["admin"], []⟩⟩]).map (fun final =>
        (effectiveAuthorization plainEnv final
          ⟨"", "", "", "", "", [], [], 0, 0, ["ops.eu"], none, none⟩).1) = some ["admin"] := by
  decide +kernel

end TachyonMesh.Authn
