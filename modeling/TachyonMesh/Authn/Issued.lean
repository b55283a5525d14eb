import TachyonMesh.Authn.Service

/-! # What successful calls hand out

The sessions, tokens and identities that calls return, traced to the stored records they
are made from.
-/

namespace TachyonMesh.Authn
open Foundation Program List

section
variable {env : Env} {state : AuthState} {sessionId totpCode raw : String} {now : Nat}

/-- What an established condition says about the outcome of a program. -/
theorem outcome_of_returns {ε α : Type} {program : Program AuthState ε α} {condition : α → Prop}
    (established : Returns program (fun value _ => condition value) state) (value : α)
    (ended : (program state).2 = .ok value) : condition value :=
  wp_ok established (Prod.ext rfl ended)

theorem effectiveAuthorization_of_files {first second : AuthState} {profile : UserProfileRecord}
    (files : ∀ entry ∈ profile.groups,
      first.groups.find (sanitized entry) = second.groups.find (sanitized entry)) :
    effectiveAuthorization env first profile = effectiveAuthorization env second profile := by
  have entries : ∀ groups : List String,
      (∀ entry ∈ groups,
        first.groups.find (sanitized entry) = second.groups.find (sanitized entry)) →
      ∀ grants, groups.foldl (addGroupGrants env first) grants =
        groups.foldl (addGroupGrants env second) grants := by
    intro groups
    induction groups with
    | nil => exact fun _ _ => rfl
    | cons entry _ ih =>
      intro same grants
      have head : addGroupGrants env first grants entry =
          addGroupGrants env second grants entry := by
        have read : readGroupRecord env entry first = readGroupRecord env entry second := by
          unfold readGroupRecord
          split
          · rfl
          · next _ named =>
            rw [sanitizeFilename_eq_ok named, same entry mem_cons_self]
        rw [addGroupGrants, addGroupGrants, read]
      rw [foldl_cons, foldl_cons, head]
      exact ih (fun other listed => same other (mem_cons_of_mem _ listed)) _
  unfold effectiveAuthorization
  rw [entries profile.groups files]

theorem loginPending_session {pending : PendingLoginRecord} :
    Returns (loginPending env sessionId totpCode now pending)
      (fun session _ => ∃ record profile,
        readUserRecord env pending.username state = .ok record ∧
        record.profile = some profile ∧ profile.disabledAt = none ∧
        session = ⟨issueJwt env profile.username (effectiveAuthorization env state profile).1
          (effectiveAuthorization env state profile).2 authSessionTtlSeconds now,
          profile.username, (effectiveAuthorization env state profile).1,
          (effectiveAuthorization env state profile).2⟩) state := by
  refine .guard fun _ => ?_
  refine .read fun record read => ?_
  refine .check fun profile found => ?_
  refine .guard fun enabled => ?_
  refine .check fun _ _ => ?_
  have kept : Returns (deletePendingLogin sessionId)
      (fun _ reached => reached.groups = state.groups) state :=
    .check fun _ _ => (wp_modify _).mpr rfl
  refine wp_bind_intro kept fun _ reached groups => ?_
  refine Returns.read fun _ granted => ?_
  refine Returns.skip fun _ _ => ?_
  refine (wp_pure _).mpr ⟨record, profile, read, profile_of_requireProfile found, ?_, ?_⟩
  · exact Option.not_isSome_iff_eq_none.mp (by simp [enabled])
  · have same : effectiveAuthorization env reached profile =
        effectiveAuthorization env state profile :=
      effectiveAuthorization_of_files fun _ _ => by rw [groups]
    rw [← Except.ok.inj granted, same]

theorem consumeRecoveryCode_token {code : String} :
    Returns (consumeRecoveryCode env raw code now)
      (fun token _ => ∃ username normalized record, normalizeUsername raw = .ok username ∧
        normalizeRecoveryCode code = .ok normalized ∧
        readUserRecord env username state = .ok record ∧
        hashRecoveryCode env username normalized ∈ record.recoveryHashes ∧
        token = issueJwt env username ["admin", "recovery"] [] recoverySessionTtlSeconds now)
      state := by
  refine .check fun username named => ?_
  refine .check fun normalized accepted => ?_
  refine .read fun record read => ?_
  refine .guard fun known => ?_
  refine .skip fun _ _ => ?_
  exact (wp_pure _).mpr
    ⟨username, normalized, record, named, accepted, read, by simpa using known, rfl⟩

/-- The live token that a record has under a hash. -/
def matchingPat (now : Nat) (tokenHash : String) (record : UserSecurityRecord) :
    Option PersonalAccessTokenRecord :=
  (livePats now record.pats).find? (·.hash == tokenHash)

/-- A file needs no pruning, or can be written. -/
def persists (env : Env) (now : Nat) (file : String) (record : UserSecurityRecord) : Bool :=
  (livePats now record.pats).length = record.pats.length || (env.writeRefusal file).isNone

/-- The search for a token ends at a file that does not decode, cannot be pruned or has the
token. -/
def endsSearch (env : Env) (now : Nat) (tokenHash : String) :
    String × Stored UserSecurityRecord → Bool
  | (_, .error _) => true
  | (file, .ok record) =>
      !persists env now file record || (matchingPat now tokenHash record).isSome

private theorem prunePats_of_persists {file : String} {record : UserSecurityRecord}
    (written : persists env now file record) (state : AuthState) :
    ∃ reached, prunePats env now file record state = (reached, .ok ()) := by
  unfold prunePats
  split
  · exact ⟨_, rfl⟩
  · next expired =>
    have allowed : env.writeRefusal file = none := by simpa [persists, expired] using written
    rw [allowed]
    exact ⟨_, rfl⟩

private theorem prunePats_of_not_persists {file : String} {record : UserSecurityRecord}
    (refused : ¬persists env now file record) (state : AuthState) :
    ∃ error, prunePats env now file record state = (state, .error error) := by
  simp only [persists, Bool.or_eq_true, decide_eq_true_eq, not_or,
    Option.isNone_iff_eq_none] at refused
  obtain ⟨error, refusal⟩ := Option.ne_none_iff_exists'.mp refused.2
  rw [prunePats, if_neg refused.1, refusal]
  exact ⟨_, rfl⟩

private theorem scanPats_eq_ok {tokenHash : String} {identity : IdentityPayload}
    (files : List (String × Stored UserSecurityRecord)) (state : AuthState) :
    (scanPats env now tokenHash files state).2 = .ok identity ↔ ∃ file record pat,
      files.find? (endsSearch env now tokenHash) = some (file, .ok record) ∧
      persists env now file record ∧ matchingPat now tokenHash record = some pat ∧
      patIdentity pat = identity := by
  induction files generalizing state with
  | nil => simp [scanPats, fail]
  | cons entry _ ih =>
    obtain ⟨file, content⟩ := entry
    cases content with
    | error => simp [scanPats, fail, endsSearch]
    | ok record =>
      rw [scanPats]
      by_cases written : persists env now file record
      swap
      · obtain ⟨_, refused⟩ := prunePats_of_not_persists written state
        rw [bind_of_error refused]
        simp [endsSearch, written]
      obtain ⟨_, pruned⟩ := prunePats_of_persists written state
      rw [bind_of_ok pruned]
      cases found : matchingPat now tokenHash record with
      | some pat =>
        have live : ¬pat.expiresAt ≤ now := by
          simpa using (mem_filter.mp (mem_of_find?_eq_some found)).2
        rw [matchingPat] at found
        simp [found, live, endsSearch, matchingPat, written, pure]
      | none =>
        rw [find?_cons_of_neg (by simp [endsSearch, found, written])]
        rw [matchingPat] at found
        simpa only [found] using ih _

theorem resolvePatIdentity_identity {token : String} :
    Returns (resolvePatIdentity env token now)
      (fun identity _ => ∃ file record pat, state.users.find file = some (.ok record) ∧
        pat ∈ record.pats ∧ now < pat.expiresAt ∧ pat.hash = hashPatToken env token ∧
        identity = patIdentity pat) state := by
  unfold Returns wp
  split
  · next _ _ ended =>
    obtain ⟨file, record, pat, first, -, found, rfl⟩ :=
      (scanPats_eq_ok _ state).mp (congrArg Prod.snd ended)
    obtain ⟨listed, live⟩ := mem_filter.mp (mem_of_find?_eq_some found)
    exact ⟨file, record, pat, Directory.find_eq_some.mpr (mem_of_find?_eq_some first), listed,
      of_decide_eq_true live, by simpa using find?_some found, rfl⟩
  · trivial

theorem updateUserRecord_disables {actor username : String} {update : UserUpdate}
    (named : normalizeUsername raw = .ok username) (disabling : update.disabled = some true) :
    Returns (updateUserRecord env actor raw update now)
      (fun _ final => ∃ record profile,
        final.users.find (sanitized username) = some (.ok record) ∧
        record.profile = some profile ∧ profile.disabledAt ≠ none) state := by
  refine .check fun actorName _ => ?_
  refine .check fun found accepted => ?_
  obtain rfl : found = username := Except.ok.inj (accepted.symm.trans named)
  refine .read fun record _ => ?_
  refine .check fun profile _ => ?_
  refine .check fun changed updated => ?_
  have disabled : changed.disabledAt ≠ none := by
    rw [disabling, updateDisabled] at updated
    split at updated
    · cases updated
    split at updated
    · rw [← Except.ok.inj updated]
      exact Option.some_ne_none now
    · next already =>
      rw [← Except.ok.inj updated]
      exact already
  refine wp_bind_intro (Returns.check fun _ stored => ?_)
    fun _ _ saved => (wp_pure _).mpr saved
  obtain rfl := sanitizeFilename_eq_ok stored
  exact (wp_modify _).mpr ⟨_, _, Directory.find_write_self _ _ _, rfl, disabled⟩

end

/-- A live token resolves to its owner with its scopes exactly when the first file at which
the search ends decodes, can be pruned and the token found there is the owner's. -/
theorem pat_resolves_iff (env : Env) (state : AuthState) (token : String) (now : Nat)
    {file : String} {record : UserSecurityRecord} {pat : PersonalAccessTokenRecord}
    (stored : state.users.find file = some (.ok record)) (listed : pat ∈ record.pats)
    (live : now < pat.expiresAt) (matching : pat.hash = hashPatToken env token) :
    (∃ identity, (resolvePatIdentity env token now state).2 = .ok identity ∧
      identity.subject = pat.owner ∧ identity.scopes = normalizeScopes pat.scopes) ↔
    ∀ first ∈ state.users.files.find? (endsSearch env now (hashPatToken env token)), ∃ record,
      first.2 = .ok record ∧ persists env now first.1 record ∧
      ∀ found ∈ matchingPat now (hashPatToken env token) record,
        found.owner = pat.owner ∧ normalizeScopes found.scopes = normalizeScopes pat.scopes := by
  constructor
  · rintro ⟨_, resolved, subject, scopes⟩ _ ends
    obtain ⟨_, record, _, ended, written, hit, rfl⟩ := (scanPats_eq_ok _ state).mp resolved
    cases ends.symm.trans ended
    refine ⟨record, rfl, written, fun _ same => ?_⟩
    cases hit.symm.trans same
    exact ⟨subject, scopes⟩
  · intro condition
    have known : (matchingPat now (hashPatToken env token) record).isSome :=
      find?_isSome.mpr ⟨pat, mem_filter.mpr ⟨listed, decide_eq_true live⟩, by simp [matching]⟩
    have ends : endsSearch env now (hashPatToken env token) (file, .ok record) := by
      simp [endsSearch, known]
    obtain ⟨⟨name, _⟩, first⟩ := Option.isSome_iff_exists.mp
      (find?_isSome.mpr ⟨_, Directory.find_eq_some.mp stored, ends⟩)
    obtain ⟨record, rfl, written, owned⟩ := condition _ first
    have hit : (matchingPat now (hashPatToken env token) record).isSome := by
      simpa [endsSearch, written] using find?_some first
    obtain ⟨found, hit⟩ := Option.isSome_iff_exists.mp hit
    exact ⟨_, (scanPats_eq_ok _ state).mpr ⟨name, record, found, first, written, hit, rfl⟩,
      owned found hit⟩

def ciPat : PersonalAccessTokenRecord :=
  ⟨"alice", "ci", hashPatToken plainEnv "tpat_k", ["deploy:wasm"], 0, 9⟩

/-- The file of `eve` is enumerated before that of `alice`. -/
def patState (eve : Stored UserSecurityRecord) : AuthState :=
  { AuthState.empty with users := ⟨[("eve", eve), ("alice", .ok ⟨[], [ciPat], none⟩)], by simp⟩ }

/-- Beside a well-formed file the token resolves. -/
theorem pat_of_alice_resolves : ∃ identity,
    (resolvePatIdentity plainEnv "tpat_k" 1 (patState (.ok .default))).2 = .ok identity ∧
      identity.subject = "alice" ∧ identity.scopes = normalizeScopes ["deploy:wasm"] := by
  have stored : (patState (.ok .default)).users.find "alice" = some (.ok ⟨[], [ciPat], none⟩) := rfl
  refine (pat_resolves_iff _ _ _ 1 stored mem_cons_self (by decide) rfl).mpr ?_
  rintro _ ends
  cases ends
  exact ⟨_, rfl, rfl, fun _ hit => by cases hit; exact ⟨rfl, rfl⟩⟩

/-- A truncated file of `eve`, or one with an expired token that cannot be written, keeps the
token of `alice` from resolving. -/
theorem truncated_file_hides_pat :
    (∃ message, (resolvePatIdentity plainEnv "tpat_k" 1 (patState (.error "EOF"))).2 =
      .error (.internalError message)) ∧
    ∃ message,
      (resolvePatIdentity { plainEnv with writeRefusal := fun _ => some "EROFS" } "tpat_k" 1
        (patState (.ok ⟨[], [{ ciPat with expiresAt := 0 }], none⟩))).2 =
      .error (.internalError message) := ⟨⟨_, rfl⟩, _, rfl⟩

end TachyonMesh.Authn
