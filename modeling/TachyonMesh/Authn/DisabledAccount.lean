import TachyonMesh.Authn.Issued
import TachyonMesh.Foundation.Slots

/-! # Disabled accounts

Logins check whether the account is disabled, both when they are staged and when they are
finished. The resolution of personal access tokens and the redemption of recovery codes do
not.
-/

namespace TachyonMesh.Authn
open Foundation Program

/-! ## Records are stored under the names they carry -/

/-- Every profile and every personal access token is in the file of its user's name. -/
structure WellFiled (state : AuthState) : Prop where
  profiles : ∀ file record profile, state.users.find file = some (.ok record) →
    record.profile = some profile → sanitized profile.username = file
  pats : ∀ file record pat, state.users.find file = some (.ok record) → pat ∈ record.pats →
    sanitized pat.owner = file

/-- The same for one record. -/
structure RecordFiled (file : String) (record : UserSecurityRecord) : Prop where
  profile : ∀ profile, record.profile = some profile → sanitized profile.username = file
  pats : ∀ pat ∈ record.pats, sanitized pat.owner = file

variable {actor username file : String} {now : Nat} {disabled : Option Bool}
  {profile changed : UserProfileRecord} {env : Env} {request : Request}
  {record : UserSecurityRecord} {state : AuthState}

private theorem username_updateDisabled
    (accepted : updateDisabled actor username now profile disabled = .ok changed) :
    changed.username = profile.username := by
  unfold updateDisabled at accepted
  split at accepted
  · rw [← Except.ok.inj accepted]
  · split at accepted
    · cases accepted
    · split at accepted <;> rw [← Except.ok.inj accepted]
  · rw [← Except.ok.inj accepted]

private theorem recordFiled_of_change {record' : UserSecurityRecord}
    (filed : RecordFiled file record)
    (change : RecordChange env request file record record') : RecordFiled file record' := by
  cases change with
  | enrolled _ _ filedAs =>
    refine ⟨fun profile found => ?_, filed.pats⟩
    rw [← Option.some.inj found]
    exact filedAs
  | loggedIn found =>
    refine ⟨fun profile stored => ?_, filed.pats⟩
    cases stored
    exact (filed.profile _ found :)
  | patsPruned =>
    exact ⟨filed.profile, fun pat listed => filed.pats pat (List.mem_of_mem_filter listed)⟩
  | patIssued _ filedAs =>
    exact ⟨filed.profile, forall_mem_push
      (fun pat old => filed.pats pat (List.mem_of_mem_filter old)) filedAs⟩
  | codesReplaced => exact ⟨filed.profile, filed.pats⟩
  | updated _ _ _ _ found accepted =>
    refine ⟨fun _ stored => ?_, filed.pats⟩
    rw [← Option.some.inj stored]
    exact (congrArg sanitized (username_updateDisabled accepted)).trans (filed.profile _ found)

private theorem wellFiled_empty : WellFiled .empty where
  profiles := nofun
  pats := nofun

private theorem recordFiled_of_recordOf (valid : WellFiled state)
    (read : recordOf (state.users.find file) = some record) : RecordFiled file record := by
  rcases recordOf_eq_some read with ⟨-, rfl⟩ | content
  · exact ⟨nofun, nofun⟩
  · exact ⟨fun profile enrolled => valid.profiles file _ profile content enrolled,
      fun pat listed => valid.pats file _ pat content listed⟩

private theorem wellFiled_handle (valid : WellFiled state)
    (request : Request) : WellFiled (handle env request.now request.call state).1 := by
  have filed : ∀ file record,
      (handle env request.now request.call state).1.users.find file = some (.ok record) →
      RecordFiled file record := by
    intro file record found
    have change := (handle_effect state env request).users file
    rw [found] at change
    generalize content : state.users.find file = old at change
    cases change with
    | same => exact recordFiled_of_recordOf valid (congrArg recordOf content)
    | written read change =>
      exact recordFiled_of_change (recordFiled_of_recordOf valid (content ▸ read)) change
  exact ⟨fun file record profile found => (filed file record found).profile profile,
    fun file record pat found => (filed file record found).pats pat⟩

private theorem wellFiled_run {requests : List Request} {final : AuthState}
    (reached : (authnMachine env).run .empty requests = some final) : WellFiled final := by
  refine Machine.invariant_run ?_ wellFiled_empty (Machine.along_true _ _) reached
  intro state request next valid _ stepped
  cases stepped
  exact wellFiled_handle valid request

/-! ## The account stays disabled -/

/-- The user's file holds a disabled profile. -/
def DisabledAccount (username : String) (state : AuthState) : Prop :=
  HoldsProfile username (fun profile => profile.disabledAt ≠ none) state

/-- The call does not enable or delete a user with the same file. -/
def Call.KeepsDisabled (username : String) : Call → Prop
  | .updateUser _ raw update => ∀ target, normalizeUsername raw = .ok target →
      sanitized target = sanitized username → update.disabled ≠ some false
  | .deleteUser _ raw => ∀ target, normalizeUsername raw = .ok target →
      sanitized target ≠ sanitized username
  | _ => True

private theorem disabledAt_updateDisabled (already : profile.disabledAt ≠ none)
    (keeps : disabled ≠ some false)
    (accepted : updateDisabled actor username now profile disabled = .ok changed) :
    changed.disabledAt ≠ none := by
  cases disabled with
  | none =>
    obtain rfl := Except.ok.inj accepted
    exact already
  | some disable =>
    cases disable with
    | false => exact absurd rfl keeps
    | true =>
      simp only [updateDisabled, if_neg already] at accepted
      split at accepted
      · cases accepted
      · rw [← Except.ok.inj accepted]
        exact already

private theorem disabledAccount_handle (disabled : DisabledAccount username state)
    (keeps : request.call.KeepsDisabled username) :
    DisabledAccount username (handle env request.now request.call state).1 := by
  refine holdsProfile_handle disabled (fun _ already => already) ?_ ?_
  · intro rawActor rawTarget actor target update profile changed call _ userName filed already
      accepted
    rw [call] at keeps
    have still := disabledAt_updateDisabled already (keeps target userName filed) accepted
    exact still
  · intro rawActor rawTarget actor target call _ userName _
    rw [call] at keeps
    exact keeps target userName

/-! ## Nothing gets through -/

/-- The call does not present a personal access token or a recovery code that the user's
file still holds. -/
def PresentsNoCredential (env : Env) (username : String) (state : AuthState)
    (request : Request) : Prop :=
  ∀ record, state.users.find (sanitized username) = some (.ok record) →
    match request.call with
    | .validateToken token => ∀ pat ∈ record.pats, pat.owner = username →
        request.now < pat.expiresAt → pat.hash ≠ hashPatToken env token
    | .consumeRecoveryCode raw code => ∀ normalized, normalizeUsername raw = .ok username →
        normalizeRecoveryCode code = .ok normalized →
        hashRecoveryCode env username normalized ∉ record.recoveryHashes
    | _ => True

/-- The reply hands out nothing for the user: no identity for a personal access token, no
login session, no recovery session. -/
def ShutsOut (env : Env) (username : String) (state : AuthState) (request : Request) : Prop :=
  match request.call, (handle env request.now request.call state).2 with
  | .validateToken token, .identity (.ok identity) =>
      patPrefix.toList.isPrefixOf token.toList → identity.subject ≠ username
  | .finalizeLogin _ _, .loggedIn (.ok session) => session.username ≠ username
  | .consumeRecoveryCode raw _, .recovered (.ok _) => normalizeUsername raw ≠ .ok username
  | _, _ => True

private theorem login_shutsOut {sessionId totpCode : String} (valid : WellFiled state)
    (disabled : DisabledAccount username state) :
    Returns (finalizePendingLogin env sessionId totpCode now)
      (fun session _ => session.username ≠ username) state := by
  refine .check fun file _ => ?_
  refine .read fun pending _ => ?_
  refine .mono loginPending_session ?_
  rintro _ _ ⟨_, profile, read, enrolled, enabled, rfl⟩ same
  obtain ⟨_, _, stored, enrolled', already⟩ := disabled
  have content := (recordOf_of_readUserRecord read).2
  -- the profile that logs in is stored under the name it carries, which is the user's
  have filed : sanitized username = sanitized pending.username := by
    rw [← same]
    exact (recordFiled_of_recordOf valid content).profile profile enrolled
  rw [← filed, stored] at content
  cases content
  obtain rfl := Option.some.inj (enrolled.symm.trans enrolled')
  exact already enabled

private theorem pat_shutsOut {token : String} (valid : WellFiled state)
    (nothing : PresentsNoCredential env username state ⟨now, .validateToken token⟩) :
    Returns (resolvePatIdentity env token now)
      (fun identity _ => identity.subject ≠ username) state := by
  refine .mono resolvePatIdentity_identity ?_
  rintro - - ⟨file, record, pat, stored, listed, live, matching, rfl⟩ owner
  have filed := valid.pats file record pat stored listed
  change pat.owner = username at owner
  rw [owner] at filed
  exact nothing record (filed ▸ stored) pat listed owner live matching

private theorem recovery_shutsOut {raw code : String} (disabled : DisabledAccount username state)
    (nothing : PresentsNoCredential env username state ⟨now, .consumeRecoveryCode raw code⟩) :
    Returns (consumeRecoveryCode env raw code now)
      (fun _ _ => normalizeUsername raw ≠ .ok username) state := by
  refine .mono consumeRecoveryCode_token ?_
  rintro _ _ ⟨found, normalized, _, named, accepted, read, listed, -⟩ same
  obtain rfl : found = username := Except.ok.inj (named.symm.trans same)
  obtain ⟨_, _, stored, -, -⟩ := disabled
  have content := (recordOf_of_readUserRecord read).2
  rw [stored] at content
  cases content
  exact nothing _ stored normalized same accepted listed

private theorem shutsOut_of_disabled (valid : WellFiled state)
    (disabled : DisabledAccount username state)
    (nothing : PresentsNoCredential env username state request) :
    ShutsOut env username state request := by
  obtain ⟨now, call⟩ := request
  unfold ShutsOut
  cases call with
  | validateToken token =>
    simp only [handle, answer]
    cases ended : (validateIdentityToken env token now state).2 with
    | error => trivial
    | ok _ =>
      intro isPat
      rw [validateIdentityToken, if_pos isPat] at ended
      exact outcome_of_returns (pat_shutsOut valid nothing) _ ended
  | finalizeLogin sessionId totpCode =>
    simp only [handle, answer]
    cases ended : (finalizePendingLogin env sessionId totpCode now state).2 with
    | error => trivial
    | ok _ => exact outcome_of_returns (login_shutsOut valid disabled) _ ended
  | consumeRecoveryCode raw code =>
    simp only [handle, answer]
    cases ended : (consumeRecoveryCode env raw code now state).2 with
    | error => trivial
    | ok _ => exact outcome_of_returns (recovery_shutsOut disabled nothing) _ ended
  | _ => trivial

/-- **A disabled account is shut out.** After a call that disables a user, as long as the
calls neither enable nor delete a user with the same file and present no credential that
the file still holds, nothing is handed out for the user. -/
theorem disabled_account_shut_out (env : Env) (earlier later : List Request) (state : AuthState)
    (now : Nat) (actor raw username : String) (update : UserUpdate)
    (reached : (authnMachine env).run .empty earlier = some state)
    (named : normalizeUsername raw = .ok username) (disabling : update.disabled = some true)
    (accepted : ∃ summary, (handle env now (.updateUser actor raw update) state).2 =
      .userUpdated (.ok summary))
    (careful : (authnMachine env).Along
      (fun state request => request.call.KeepsDisabled username ∧
        PresentsNoCredential env username state request)
      (handle env now (.updateUser actor raw update) state).1 later) :
    (authnMachine env).Along (ShutsOut env username)
      (handle env now (.updateUser actor raw update) state).1 later := by
  have disabled : DisabledAccount username
      (handle env now (.updateUser actor raw update) state).1 := by
    obtain ⟨summary, reply⟩ := accepted
    simp only [handle, answer, Reply.userUpdated.injEq] at reply ⊢
    cases ended : updateUserRecord env actor raw update now state with
    | mk _ outcome =>
      rw [ended] at reply
      obtain rfl : outcome = .ok summary := reply
      exact wp_ok (updateUserRecord_disables named disabling) ended
  have kept : (authnMachine env).Preserves
      (fun state request => request.call.KeepsDisabled username ∧
        PresentsNoCredential env username state request)
      fun state => WellFiled state ∧ DisabledAccount username state := by
    intro state request next valid careful stepped
    cases stepped
    exact ⟨wellFiled_handle valid.1 request, disabledAccount_handle valid.2 careful.1⟩
  refine Machine.along_of_invariant kept (fun valid careful => ?_) ?_ careful
  · exact shutsOut_of_disabled valid.1 valid.2 careful.2
  · exact ⟨wellFiled_handle (wellFiled_run reached) ⟨now, .updateUser actor raw update⟩, disabled⟩

def Reply.isUpdate : Reply → Bool
  | .userUpdated (.ok _) => true
  | _ => false

/-- `alice` enrols and starts a login. -/
def loginStaged : List Request :=
  enrolRequests "h.p.s" "alice" "00000000000000000000000000000001" ++
    [⟨3, .stageLogin "alice" "password" "00000000000000000000000000000002"⟩]

/-- The account is disabled by `root` before the login is completed. -/
theorem disabled_alice_shut_out :
    ∃ state, (authnMachine plainEnv).run .empty loginStaged = some state ∧
      (authnMachine plainEnv).Along (ShutsOut plainEnv "alice")
        (handle plainEnv 4 (.updateUser "root" "alice" (.setDisabled true)) state).1
        [⟨5, .finalizeLogin "00000000000000000000000000000002" "000000"⟩] := by
  obtain ⟨state, reached, updated⟩ : ∃ state,
      (authnMachine plainEnv).run .empty loginStaged = some state ∧
      (handle plainEnv 4 (.updateUser "root" "alice" (.setDisabled true)) state).2.isUpdate := by
    decide +kernel
  refine ⟨state, reached, disabled_account_shut_out plainEnv _ _ state 4 "root" "alice" "alice"
    (.setDisabled true) reached (by decide) rfl ?_ ⟨⟨trivial, fun _ _ => trivial⟩,
      fun _ _ => trivial⟩⟩
  unfold Reply.isUpdate at updated
  split at updated
  · next summary reply => exact ⟨summary, reply⟩
  · cases updated

/-- `alice` enrols, obtains a personal access token and recovery codes, and is disabled by
`root`; the token still resolves to an identity and a code still buys a session. -/
theorem disabled_account_lets_credentials_through :
    ((authnMachine plainEnv).run .empty
      (enrolRequests "h.p.s" "alice" "00000000000000000000000000000001" ++
        [⟨3, .issuePat "alice" "ci" ["deploy:wasm"] 30 "k"⟩,
          ⟨4, .generateRecoveryCodes "alice" fun _ => ("AAAAA", "BBBBB")⟩,
          ⟨5, .updateUser "root" "alice" (.setDisabled true)⟩])).map (fun state =>
      ((readUserRecord plainEnv "alice" state).toOption.map fun record =>
          record.profile.map (·.disabledAt),
        match (handle plainEnv 6 (.validateToken "tpat_k") state).2 with
        | .identity (.ok identity) => some identity.subject
        | _ => none,
        match (handle plainEnv 6 (.consumeRecoveryCode "alice" "TCHN-AAAAA-BBBBB") state).2 with
        | .recovered (.ok _) => true
        | _ => false)) =
      some (some (some (some 5)), some "alice", true) := by
  decide +kernel

end TachyonMesh.Authn
