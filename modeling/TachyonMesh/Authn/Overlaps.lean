import Mathlib.Algebra.GroupWithZero.Nat
import TachyonMesh.Authn.Operations
import TachyonMesh.Foundation.Slots

/-! # Overlapping calls on one user's record

A call that changes a user reads the whole record, changes it and later writes it back. Each call
runs in an instance of its own, and nothing locks the file or checks that it is still the one that
was read. `overlapMachine` runs calls on one record with their read and their write as separate
steps.
-/

namespace TachyonMesh.Authn
open Foundation

/-- A call from the read of the user's record on, with names and codes normalized. -/
inductive RecordCall where
  | finalizeLogin (totpCode : String) (now : Nat)
  | updateUser (actor : String) (update : UserUpdate) (now : Nat)
  | issuePat (pat : PersonalAccessTokenRecord) (now : Nat)
  | validatePat (tokenHash : String) (now : Nat)
  | generateRecoveryCodes (codes : List String)
  | consumeRecoveryCode (code : String)

/-- The record a call writes, if it writes one, and whether it answers `Ok`. -/
structure Outcome where
  written : Option UserSecurityRecord
  accepted : Bool

/-- The outcome of a call that only changes the profile. -/
def Outcome.ofProfile (record : UserSecurityRecord) : Except String UserProfileRecord → Outcome
  | .ok profile => ⟨some { record with profile := some profile }, true⟩
  | .error _ => ⟨none, false⟩

section
variable (env : Env) (username : String)

namespace RecordCall

/-- What a call makes of the record it has read. A validation writes only when a token has
expired, and then also when the token it looks for is not here. -/
def apply (record : UserSecurityRecord) : RecordCall → Outcome
  | .finalizeLogin totpCode now => .ofProfile record do
      let profile ← requireProfile record "username is not enrolled"
      if profile.disabledAt.isSome then throw "account is disabled"
      verifyTotpCode env.sha1 profile.totpSecret totpCode now
      return { profile with lastLoginAt := some now }
  | .updateUser actor update now => .ofProfile record do
      let profile ← requireProfile record ("user `" ++ username ++ "` is not enrolled")
      let profile ← updateDisabled actor username now profile update.disabled
      return updateGrants update profile
  | .issuePat pat now => ⟨some { record with pats := livePats now record.pats ++ [pat] }, true⟩
  | .validatePat tokenHash now =>
      let live := livePats now record.pats
      ⟨if live.length ≠ record.pats.length then some { record with pats := live } else none,
        live.any (·.hash == tokenHash)⟩
  | .generateRecoveryCodes codes =>
      ⟨some { record with recoveryHashes := codes.map (hashRecoveryCode env username) }, true⟩
  | .consumeRecoveryCode code =>
      let hash := hashRecoveryCode env username code
      if record.recoveryHashes.contains hash then
        ⟨some { record with recoveryHashes := record.recoveryHashes.erase hash }, true⟩
      else ⟨none, false⟩

/-- How many codes with the hash the call issues. -/
def issued (hash : String) : RecordCall → Nat
  | .generateRecoveryCodes codes => (codes.map (hashRecoveryCode env username)).count hash
  | _ => 0

def redeems (hash : String) : RecordCall → Bool
  | .consumeRecoveryCode code => hashRecoveryCode env username code == hash
  | _ => false

end RecordCall

/-- The record after the calls one after the other, the last one listed first; `none` when one
of them would have answered differently. -/
def replay (start : UserSecurityRecord) : List (RecordCall × Bool) → Option UserSecurityRecord
  | [] => some start
  | (call, accepted) :: earlier => (replay start earlier).bind fun record =>
      let outcome := call.apply env username record
      if outcome.accepted = accepted then some (outcome.written.getD record) else none

/-- A call that has read the record and not yet written it; `seen` counts the writes before its
read. -/
structure Underway where
  call : RecordCall
  seen : Nat
  written : UserSecurityRecord
  accepted : Bool

/-- One record and the calls on it that are under way. -/
structure OverlapState where
  record : UserSecurityRecord
  writes : Nat
  underway : List Underway
  /-- The calls that have returned, with their answers, the last one first. -/
  returned : List (RecordCall × Bool)

def OverlapState.initial (start : UserSecurityRecord) : OverlapState := ⟨start, 0, [], []⟩

/-- A call reads the record, or writes it. -/
inductive OverlapEvent where
  | read (call : RecordCall)
  | write (index : Nat)

def overlapMachine : Machine OverlapState OverlapEvent where
  step state
    | .read call =>
        let outcome := call.apply env username state.record
        some (match outcome.written with
        | none => { state with returned := (call, outcome.accepted) :: state.returned }
        | some record => { state with underway :=
            state.underway ++ [⟨call, state.writes, record, outcome.accepted⟩] })
    | .write index => state.underway[index]?.map fun call =>
        ⟨call.written, state.writes + 1, state.underway.eraseIdx index,
          (call.call, call.accepted) :: state.returned⟩

namespace OverlapState

/-- The record and the answers are those of the returned calls made one after the other, and no
recovery code has been redeemed more often than it was issued. -/
structure Reflected (start : UserSecurityRecord) (state : OverlapState) : Prop where
  replayed : replay env username start state.returned = some state.record
  once : ∀ hash, (state.returned.countP fun call => call.2 && call.1.redeems env username hash) ≤
    start.recoveryHashes.count hash + (state.returned.map (·.1.issued env username hash)).sum

/-- No other call has written the record since the one that writes now has read it. -/
def Undisturbed (state : OverlapState) : OverlapEvent → Prop
  | .read _ => True
  | .write index => ∀ call ∈ state.underway[index]?, call.seen = state.writes

instance (state : OverlapState) (event : OverlapEvent) : Decidable (state.Undisturbed event) := by
  unfold Undisturbed
  split <;> infer_instance

/-- A call under way has the outcome it would have on the record of now, unless another call has
written meanwhile. -/
structure Kept (start : UserSecurityRecord) (state : OverlapState) : Prop where
  replayed : replay env username start state.returned = some state.record
  underway : ∀ call ∈ state.underway, call.seen ≤ state.writes ∧ (call.seen = state.writes →
    call.call.apply env username state.record = ⟨some call.written, call.accepted⟩)

end OverlapState

end

variable {env : Env} {username hash : String} {start record : UserSecurityRecord}

private theorem Outcome.recoveryHashes_ofProfile (result : Except String UserProfileRecord) :
    ((ofProfile record result).written.getD record).recoveryHashes = record.recoveryHashes := by
  cases result <;> rfl

/-- Only the two calls about recovery codes touch the hashes: one issues codes, the other takes
away the one it redeems. -/
theorem RecordCall.recoveryHashes_apply (env : Env) (username hash : String)
    (record : UserSecurityRecord) (call : RecordCall) :
    (if (call.apply env username record).accepted && call.redeems env username hash then 1 else 0) +
        ((call.apply env username record).written.getD record).recoveryHashes.count hash ≤
      record.recoveryHashes.count hash + call.issued env username hash := by
  cases call with
  | finalizeLogin | updateUser => simp [apply, redeems, Outcome.recoveryHashes_ofProfile]
  | issuePat => simp [apply, redeems]
  | validatePat _ now =>
    by_cases expired : (livePats now record.pats).length = record.pats.length <;>
      simp [apply, redeems, expired]
  | generateRecoveryCodes => simp [apply, redeems, issued]
  | consumeRecoveryCode code =>
    by_cases held : hashRecoveryCode env username code ∈ record.recoveryHashes
    · by_cases same : hashRecoveryCode env username code = hash
      · subst same
        simp [apply, held, redeems]
      · simp [apply, held, redeems, same, List.count_erase_of_ne (Ne.symm same)]
    · simp [apply, held]

private theorem redeemed_le {returned : List (RecordCall × Bool)}
    (replayed : replay env username start returned = some record) :
    (returned.countP fun call => call.2 && call.1.redeems env username hash) +
        record.recoveryHashes.count hash ≤
      start.recoveryHashes.count hash + (returned.map (·.1.issued env username hash)).sum := by
  induction returned generalizing record with
  | nil =>
    cases replayed
    simp
  | cons last earlier ih =>
    obtain ⟨before, earlier, applied⟩ := Option.bind_eq_some_iff.mp replayed
    obtain ⟨answer, rfl⟩ := of_guard applied
    have step := last.1.recoveryHashes_apply env username hash before
    have sum := ih earlier
    rw [answer] at step
    simp only [List.countP_cons, List.map_cons, List.sum_cons]
    omega

namespace OverlapState
variable {state next : OverlapState}

private theorem Kept.step {event : OverlapEvent} (kept : state.Kept env username start)
    (undisturbed : state.Undisturbed event)
    (stepped : (overlapMachine env username).step state event = some next) :
    next.Kept env username start := by
  cases event with
  | read call =>
    cases applied : call.apply env username state.record with
    | mk written =>
      simp only [overlapMachine, applied] at stepped
      cases written with
      | none =>
        cases stepped
        exact ⟨by simp [replay, kept.replayed, applied], kept.underway⟩
      | some =>
        cases stepped
        exact ⟨kept.replayed, forall_mem_push kept.underway ⟨le_rfl, fun _ => applied⟩⟩
  | write =>
    obtain ⟨call, found, stepped⟩ := Option.map_eq_some_iff.mp stepped
    cases stepped
    have current := (kept.underway call (List.mem_of_getElem? found)).2 (undisturbed call found)
    refine ⟨by simp [replay, kept.replayed, current], ?_⟩
    intro other listed
    have older := (kept.underway other (List.mem_of_mem_eraseIdx listed)).1
    exact ⟨Nat.le_succ_of_le older, fun same => absurd older (by simp [same])⟩

/-- **No update is lost.** In every run in which no call writes the record between the read and
the write of another one, the record reflects every call that has returned. -/
theorem updates_reflected (env : Env) (username : String) (start : UserSecurityRecord)
    (events : List OverlapEvent) {final : OverlapState}
    (undisturbed : (overlapMachine env username).Along Undisturbed (.initial start) events)
    (reached : (overlapMachine env username).run (.initial start) events = some final) :
    final.Reflected env username start := by
  have initial : (initial start).Kept env username start := ⟨rfl, by simp [initial]⟩
  have kept := Machine.invariant_run Kept.step initial undisturbed reached
  exact ⟨kept.replayed, fun _ => Nat.le_of_add_right_le (redeemed_le kept.replayed)⟩

/-- A record with one recovery code. -/
def oneCode : UserSecurityRecord := ⟨[hashRecoveryCode plainEnv "ada" "x"], [], none⟩

def inTurn : List OverlapEvent := [.read (.consumeRecoveryCode "x"), .read (.validatePat "h" 0),
  .write 0, .read (.consumeRecoveryCode "x")]

/-- Two calls one after the other are both kept. -/
theorem updates_reflected_inTurn : ∃ final,
    (overlapMachine plainEnv "ada").run (.initial oneCode) inTurn = some final ∧
    final.Reflected plainEnv "ada" oneCode :=
  ⟨_, rfl, updates_reflected plainEnv "ada" oneCode inTurn (by decide +kernel) rfl⟩

/-- Two calls that overlap both redeem the one code. -/
theorem updates_lost : ∃ final,
    (overlapMachine plainEnv "ada").run (.initial oneCode) [.read (.consumeRecoveryCode "x"),
      .read (.consumeRecoveryCode "x"), .write 0, .write 0] = some final ∧
    ¬final.Reflected plainEnv "ada" oneCode := by
  refine ⟨_, rfl, fun reflected => ?_⟩
  have once := reflected.once (hashRecoveryCode plainEnv "ada" "x")
  revert once
  decide +kernel

end OverlapState

/-! ## Calls that run alone

`RecordCall.apply` is what the calls of the service make of the record when nothing overlaps. -/

section
open Program

/-- The program answers and leaves the user's record as `apply` says of the call. -/
def RecordCall.Describes (call : RecordCall) (env : Env) (username : String)
    (record : UserSecurityRecord) (state : AuthState) {ε α : Type}
    (program : Program AuthState ε α) : Prop :=
  let outcome := call.apply env username record
  let leaves (final : AuthState) :=
    readUserRecord env username final = .ok (outcome.written.getD record)
  program.wp (fun _ final => leaves final ∧ outcome.accepted)
    (fun _ final => leaves final ∧ outcome.accepted = false) state

variable {env : Env} {username file : String} {record : UserSecurityRecord} {state : AuthState}
  {now : Nat}

private theorem readUserRecord_writeUser (filed : sanitizeFilename username = .ok file)
    (changed : UserSecurityRecord) (state : AuthState) :
    readUserRecord env username (writeUser file changed state) = .ok changed := by
  simp [readUserRecord, filed, writeUser, Directory.find_write_self]

private theorem livePats_eq_self {pats : List PersonalAccessTokenRecord}
    (same : (livePats now pats).length = pats.length) : livePats now pats = pats :=
  List.filter_eq_self.mpr (List.length_filter_eq_length_iff.mp same)

variable (filed : sanitizeFilename username = .ok file)
  (read : readUserRecord env username state = .ok record)
include filed read

/-- The end of a login. -/
theorem loginPending_described {sessionId totpCode session : String}
    {pending : PendingLoginRecord} (own : pending.username = username)
    (sessionFile : sanitizeFilename sessionId = .ok session) (live : now < pending.expiresAt) :
    (RecordCall.finalizeLogin totpCode now).Describes env username record state
      (loginPending env sessionId totpCode now pending) := by
  have apart : readUserRecord env username (removePendingLogin session state) = .ok record := read
  subst own
  cases found : requireProfile record "username is not enrolled" with
  | error =>
    have applied : (RecordCall.finalizeLogin totpCode now).apply env pending.username record =
        ⟨none, false⟩ := by
      rw [RecordCall.apply, found]
      rfl
    simp [RecordCall.Describes, applied, loginPending, loadUserRecord, read, found, live]
  | ok profile =>
    cases disabled : profile.disabledAt with
    | some =>
      have applied : (RecordCall.finalizeLogin totpCode now).apply env pending.username record =
          ⟨none, false⟩ := by
        simp only [RecordCall.apply, found, disabled, Bind.bind, Except.bind]
        rfl
      simp [RecordCall.Describes, applied, loginPending, loadUserRecord, deletePendingLogin, read,
        found, live, disabled, sessionFile, apart]
    | none =>
      cases code : verifyTotpCode env.sha1 profile.totpSecret totpCode now with
      | error =>
        have applied : (RecordCall.finalizeLogin totpCode now).apply env pending.username record =
            ⟨none, false⟩ := by
          simp only [RecordCall.apply, found, disabled, Bind.bind, Except.bind, code]
          rfl
        simp [RecordCall.Describes, applied, loginPending, loadUserRecord, read, found, live,
          disabled, code]
      | ok =>
        have applied : (RecordCall.finalizeLogin totpCode now).apply env pending.username record =
            ⟨some { record with profile := some { profile with lastLoginAt := some now } },
              true⟩ := by
          simp only [RecordCall.apply, found, disabled, Bind.bind, Except.bind, code]
          rfl
        simp [RecordCall.Describes, applied, loginPending, loadUserRecord, saveUserRecord,
          deletePendingLogin, read, found, live, disabled, code, sessionFile, filed,
          readUserRecord_writeUser filed]

/-- The validation of a token, where the user is the only one. -/
theorem resolvePatIdentity_described {token : String} (writable : env.writeRefusal file = none)
    (alone : state.users.files = [(file, .ok record)]) :
    (RecordCall.validatePat (hashPatToken env token) now).Describes env username record state
      (resolvePatIdentity env token now) := by
  let outcome := (RecordCall.validatePat (hashPatToken env token) now).apply env username record
  let pruned := { record with pats := livePats now record.pats }
  have written : outcome.written.getD record = pruned := by
    simp only [outcome, pruned, RecordCall.apply]
    split
    · rfl
    · next same => simp [livePats_eq_self (not_ne_iff.mp same)]
  have prunes : wp (prunePats env now file record)
      (fun _ final => readUserRecord env username final = .ok pruned) (fun _ _ => False)
      state := by
    unfold prunePats
    split
    · next same => simp [pruned, read, livePats_eq_self same]
    · simp [pruned, writable, readUserRecord_writeUser filed]
  refine wp_reads_bind (fun _ failed => by cases failed) fun files listed => ?_
  cases listed
  rw [alone]
  refine wp_bind_intro (wp_mono prunes (fun _ _ left => left) fun _ _ => False.elim)
    fun _ final left => ?_
  rw [← written] at left
  cases found : (livePats now record.pats).find? fun pat => pat.hash == hashPatToken env token with
  | none =>
    have refused : outcome.accepted = false := by simpa [outcome, RecordCall.apply] using found
    exact (wp_fail _).mpr ⟨left, refused⟩
  | some pat =>
    have listed := List.mem_of_find?_eq_some found
    have matching := List.find?_some found
    have accepted : outcome.accepted := List.any_eq_true.mpr ⟨pat, listed, matching⟩
    have live : ¬pat.expiresAt ≤ now := by simpa using (List.mem_filter.mp listed).2
    dsimp only
    rw [if_neg live]
    exact (wp_pure _).mpr ⟨left, accepted⟩

variable (named : normalizeUsername username = .ok username)
include named

/-- An update of the user. -/
theorem updateUserRecord_described {actor operator : String} {update : UserUpdate}
    (acting : normalizeUsername actor = .ok operator) :
    (RecordCall.updateUser operator update now).Describes env username record state
      (updateUserRecord env actor username update now) := by
  cases found : requireProfile record ("user `" ++ username ++ "` is not enrolled") with
  | error =>
    have applied : (RecordCall.updateUser operator update now).apply env username record =
        ⟨none, false⟩ := by
      rw [RecordCall.apply, found]
      rfl
    simp [RecordCall.Describes, applied, updateUserRecord, loadUserRecord, named, acting, read,
      found]
  | ok profile =>
    cases changed : updateDisabled operator username now profile update.disabled with
    | error =>
      have applied : (RecordCall.updateUser operator update now).apply env username record =
          ⟨none, false⟩ := by
        simp only [RecordCall.apply, found, Except.bind, Bind.bind, changed]
        rfl
      simp [RecordCall.Describes, applied, updateUserRecord, loadUserRecord, named, acting, read,
        found, changed]
    | ok changed' =>
      have applied : (RecordCall.updateUser operator update now).apply env username record =
          ⟨some { record with profile := some (updateGrants update changed') }, true⟩ := by
        simp only [RecordCall.apply, found, Except.bind, Bind.bind, changed]
        rfl
      simp [RecordCall.Describes, applied, updateUserRecord, loadUserRecord, saveUserRecord, named,
        acting, read, filed, readUserRecord_writeUser filed, found, changed]

/-- The issue of a token whose request is in order. -/
theorem issuePatToken_described {name title sample : String} {scopes : List String}
    {ttlDays : Nat}
    (titled : normalizePatName name = .ok title)
    (granted : (normalizeScopes scopes).isEmpty = false)
    (bounded : (ttlDays == 0 || maxPatTtlDays < ttlDays) = false) :
    (RecordCall.issuePat ⟨username, title, hashPatToken env (generatePatToken sample),
        normalizeScopes scopes, now, min (now + ttlDays * 24 * 60 * 60) u64Max⟩ now).Describes
      env username record state (issuePatToken env username name scopes ttlDays sample now) := by
  simp only [RecordCall.Describes, RecordCall.apply, issuePatToken, loadUserRecord, saveUserRecord,
    wp_bind, wp_ofExcept, wp_rejectIf, wp_reads, wp_modify, named, titled, granted, bounded]
  simp [read, filed, readUserRecord_writeUser filed]

/-- New recovery codes. -/
theorem generateRecoveryCodes_described
    (samples : Fin recoveryCodeCount → String × String) :
    (RecordCall.generateRecoveryCodes
      (List.ofFn fun index => generateRecoveryCode (samples index))).Describes env username record
      state (generateRecoveryCodes env username samples) := by
  simp [RecordCall.Describes, RecordCall.apply, generateRecoveryCodes, loadUserRecord,
    saveUserRecord, named, read, filed, readUserRecord_writeUser filed]

/-- The redemption of a code. -/
theorem consumeRecoveryCode_described {code normalized : String}
    (accepted : normalizeRecoveryCode code = .ok normalized) :
    (RecordCall.consumeRecoveryCode normalized).Describes env username record state
      (consumeRecoveryCode env username code now) := by
  by_cases held : hashRecoveryCode env username normalized ∈ record.recoveryHashes <;>
    simp [RecordCall.Describes, RecordCall.apply, consumeRecoveryCode, loadUserRecord,
      saveUserRecord, named, accepted, read, filed, readUserRecord_writeUser filed, held]

end

end TachyonMesh.Authn
