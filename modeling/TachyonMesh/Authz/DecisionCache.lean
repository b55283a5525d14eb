import TachyonMesh.Authz.Policy
import TachyonMesh.Foundation.Cache
import TachyonMesh.Foundation.Slots

/-! # The cache of authorization decisions

A request is looked up in the cache; on a miss the credential is checked, the policy asked and
the decision put into the cache, each in a step of its own. A purge event evicts the entries that
are there when it is applied, not the decisions under way. Expiry and key are checked at every
lookup.
-/

namespace TachyonMesh.Authz
open Foundation TachyonMesh.Authn List

/-- What a decision is cached under. -/
structure AuthDecisionKey where
  tokenHash : List UInt8
  method : String
  path : String
deriving DecidableEq

/-- Beside the claims stand the key they were decided for and the number of account changes
before the credential was checked. -/
structure AuthDecision where
  claims : IdentityPayload
  key : AuthDecisionKey
  version : Nat

abbrev AuthDecisionCache := Cache AuthDecisionKey AuthDecision

/-- `AuthDecisionCache::get`; a clock before the epoch reads as the last moment. -/
def AuthDecisionCache.get (cache : AuthDecisionCache) (key : AuthDecisionKey)
    (clock : Option Nat) : Option AuthDecision × AuthDecisionCache :=
  match cache key with
  | none => (none, cache)
  | some decision =>
      if decision.claims.expiresAt.any (· ≤ clock.getD u64Max) then
        (none, cache.retain fun other _ => other ≠ key)
      else (some decision, cache)

/-- A revocation that evicts decisions. -/
inductive AuthzPurgeEvent where
  | token (tokenHash : String)
  | role (userId : String)
  | userBan (userId : String)

/-- The digest of tokens, and the authentication component, which answers from the accounts. -/
structure AuthEnv (Account : Type) where
  sha256 : String → List UInt8
  authenticate : Account → (now : Nat) → (token : String) → Except String IdentityPayload

/-- An account change with the entries that its purge evicts. -/
structure Purged where
  change : Nat
  evicts : AuthDecisionKey → AuthDecision → Bool

/-- How far a request has come. -/
inductive AuthStage where
  | authenticating
  | authorizing (decision : AuthDecision)
  | inserting (decision : AuthDecision)
  | answered (decision : AuthDecision) (cached : Bool)
  | failed (message : String)

/-- The decision under way. -/
def AuthStage.pending : AuthStage → Option AuthDecision
  | .authorizing decision | .inserting decision => some decision
  | _ => none

/-- One `authorize_request`; `purged` are the purges applied before it started. -/
structure AuthRequest where
  token : String
  key : AuthDecisionKey
  clock : Option Nat
  purged : List Purged
  stage : AuthStage

/-- Accounts, revocations, the cache and the requests. -/
structure AuthState (Account : Type) where
  account : Account
  changes : List AuthzPurgeEvent
  purged : List Purged
  cache : AuthDecisionCache
  requests : List AuthRequest

def AuthState.initial {Account : Type} (account : Account) : AuthState Account :=
  { account, changes := [], purged := [], cache := Cache.empty, requests := [] }

/-- What may happen to the cache. -/
inductive AuthEvent (Account : Type) where
  | start (token method path : String) (clock : Option Nat)
  /-- The next step of a request that missed; `trap` is a failure of the policy component. -/
  | proceed (index now : Nat) (trap : Option String)
  | change (account : Account) (event : AuthzPurgeEvent)
  | purge (index : Nat)
  /-- Idle or old entries leave the cache. -/
  | evict (keeps : AuthDecisionKey → Bool)

section
variable {Account : Type} (env : AuthEnv Account)

/-- The entries that `apply_authz_purge` invalidates. -/
def AuthzPurgeEvent.evicts : AuthzPurgeEvent →
    Except String (AuthDecisionKey → AuthDecision → Bool)
  | .token tokenHash =>
      match hexDecode tokenHash with
      | .error _ => .error "authz purge event token_hash must be hex-encoded"
      | .ok bytes =>
          if bytes.length = 32 then .ok fun key _ => key.tokenHash = bytes
          else .error ("authz purge event token_hash must decode to 32 bytes; got " ++
            toString bytes.length)
  | .role userId | .userBan userId => .ok fun _ decision => decision.claims.subject = userId

def AuthRequest.proceed (request : AuthRequest) (account : Account) (version now : Nat)
    (trap : Option String) : Option AuthStage :=
  match request.stage with
  | .authenticating => some
      (match env.authenticate account now request.token with
      | .ok claims => .authorizing ⟨claims, request.key, version⟩
      | .error message => .failed message)
  | .authorizing decision => some
      (match trap with
      | some error => .failed ("authz component trapped: " ++ error)
      | none =>
          if evaluatePolicy decision.claims request.key.method request.key.path then
            .inserting decision
          else .failed ("the authenticated identity is not allowed to access `" ++
            request.key.path ++ "`"))
  | .inserting decision => some (.answered decision false)
  | .answered _ _ | .failed _ => none

/-- Only positive decisions are put into the cache. -/
def AuthRequest.put (request : AuthRequest) (cache : AuthDecisionCache) : AuthDecisionCache :=
  match request.stage with
  | .inserting decision => cache.insert request.key decision
  | _ => cache

def authMachine : Machine (AuthState Account) (AuthEvent Account) where
  step state
    | .start token method path clock =>
        let key := ⟨env.sha256 token, method, path⟩
        let looked := AuthDecisionCache.get state.cache key clock
        let stage := looked.1.elim .authenticating (.answered · true)
        some { state with
          cache := looked.2
          requests := state.requests ++ [⟨token, key, clock, state.purged, stage⟩] }
    | .proceed index now trap => do
        let request ← state.requests[index]?
        let stage ← request.proceed env state.account state.changes.length now trap
        some { state with
          cache := request.put state.cache
          requests := state.requests.set index { request with stage } }
    | .change account event => some { state with account, changes := state.changes ++ [event] }
    | .purge index => do
        let event ← state.changes[index]?
        match event.evicts with
        | .error _ => some state
        | .ok evicts => some { state with
            cache := state.cache.retain fun key decision => !evicts key decision
            purged := ⟨index, evicts⟩ :: state.purged }
    | .evict keeps => some { state with cache := state.cache.retain fun key _ => keeps key }

/-- The decision was made for the key, and after every purged change that concerns it. -/
def Fresh (purged : List Purged) (key : AuthDecisionKey) (decision : AuthDecision) : Prop :=
  decision.key = key ∧ ∀ purge ∈ purged, purge.evicts key decision → purge.change < decision.version

/-- The answer is fresh for what had been purged when the request started, and one from the cache
has not expired. -/
def AuthRequest.Honours (request : AuthRequest) (decision : AuthDecision) (cached : Bool) : Prop :=
  Fresh request.purged request.key decision ∧
    (cached → ∀ expiry ∈ decision.claims.expiresAt, request.clock.getD u64Max < expiry)

def AuthState.Honoured (state : AuthState Account) : Prop :=
  ∀ request ∈ state.requests, ∀ decision cached,
    request.stage = .answered decision cached → request.Honours decision cached

/-- A purge is applied when no decision that it concerns is under way from before the change. -/
def AuthState.Settled (state : AuthState Account) : AuthEvent Account → Prop
  | .purge index => ∀ event ∈ state.changes[index]?, ∀ evicts ∈ (event.evicts).toOption,
      ∀ request ∈ state.requests, ∀ decision ∈ request.stage.pending,
        evicts request.key decision → index < decision.version
  | _ => True

instance (state : AuthState Account) (event : AuthEvent Account) :
    Decidable (state.Settled event) := by
  unfold AuthState.Settled
  split <;> infer_instance

/-- The request holds no decision that a purge has overtaken. -/
structure AuthRequest.Sound (purged : List Purged) (request : AuthRequest) : Prop where
  earlier : request.purged ⊆ purged
  pending : ∀ decision ∈ request.stage.pending, Fresh purged request.key decision
  answered : ∀ decision cached,
    request.stage = .answered decision cached → request.Honours decision cached

/-- Neither cache nor requests hold an overtaken decision. -/
structure AuthState.Kept (state : AuthState Account) : Prop where
  past : ∀ purge ∈ state.purged, purge.change < state.changes.length
  cache : state.cache.Every (Fresh state.purged)
  requests : ∀ request ∈ state.requests, request.Sound state.purged

variable {env} {state next : AuthState Account} {request : AuthRequest} {purged : List Purged}
  {cache : AuthDecisionCache}

private theorem get_every (every : cache.Every (Fresh purged)) (token : String)
    (key : AuthDecisionKey)
    (clock : Option Nat) :
    (AuthDecisionCache.get cache key clock).2.Every (Fresh purged) ∧
      AuthRequest.Sound purged ⟨token, key, clock, purged,
        (AuthDecisionCache.get cache key clock).1.elim .authenticating (.answered · true)⟩ := by
  unfold AuthDecisionCache.get
  split
  · exact ⟨every, List.Subset.refl _, nofun, nofun⟩
  · next decision present =>
    split
    · exact ⟨every.retain _, List.Subset.refl _, nofun, nofun⟩
    · next valid =>
      refine ⟨every, List.Subset.refl _, nofun, ?_⟩
      rintro _ _ ⟨⟩
      refine ⟨every key decision present, fun _ expiry stated => ?_⟩
      rw [Option.mem_def] at stated
      simpa [stated] using valid

namespace AuthRequest.Sound
variable (sound : request.Sound purged)
include sound

private theorem proceed {account : Account} {version now : Nat} {trap : Option String}
    {stage : AuthStage}
    (past : ∀ purge ∈ purged, purge.change < version)
    (proceeds : request.proceed env account version now trap = some stage) :
    AuthRequest.Sound purged { request with stage } := by
  unfold AuthRequest.proceed at proceeds
  split at proceeds <;> cases proceeds
  case h_1 =>
    split
    · refine ⟨sound.earlier, ?_, nofun⟩
      rintro _ ⟨⟩
      exact ⟨rfl, fun purge listed _ => past purge listed⟩
    · exact ⟨sound.earlier, nofun, nofun⟩
  case h_2 decision underway =>
    split
    · exact ⟨sound.earlier, nofun, nofun⟩
    · split
      · exact ⟨sound.earlier, by simpa [AuthStage.pending, underway] using sound.pending, nofun⟩
      · exact ⟨sound.earlier, nofun, nofun⟩
  case h_3 decision underway =>
    obtain ⟨same, newer⟩ := sound.pending decision (by simp [underway, AuthStage.pending])
    refine ⟨sound.earlier, nofun, ?_⟩
    rintro _ _ ⟨⟩
    exact ⟨⟨same, fun purge listed => newer purge (sound.earlier listed)⟩, nofun⟩

private theorem put (every : cache.Every (Fresh purged)) :
    (request.put cache).Every (Fresh purged) := by
  unfold AuthRequest.put
  split
  · next decision underway =>
    exact every.insert (sound.pending decision (by simp [underway, AuthStage.pending]))
  · exact every

end AuthRequest.Sound

namespace AuthState.Kept
variable (kept : state.Kept)
include kept

private theorem purge {index : Nat} {event : AuthzPurgeEvent}
    {evicts : AuthDecisionKey → AuthDecision → Bool} (changed : state.changes[index]? = some event)
    (known : event.evicts = .ok evicts) (settled : state.Settled (.purge index)) :
    Kept { state with
      cache := state.cache.retain fun key decision => !evicts key decision
      purged := ⟨index, evicts⟩ :: state.purged } := by
  refine ⟨?_, ?_, ?_⟩
  · exact forall_mem_cons.mpr ⟨(List.getElem?_eq_some_iff.mp changed).1, kept.past⟩
  · intro key decision present
    obtain ⟨inside, stays⟩ := Option.mem_filter_iff.mp present
    obtain ⟨same, newer⟩ := kept.cache key decision inside
    have other : ¬evicts key decision := by simpa using stays
    exact ⟨same, forall_mem_cons.mpr ⟨fun evicted => absurd evicted other, newer⟩⟩
  · intro request listed
    obtain ⟨earlier, pending, answered⟩ := kept.requests request listed
    refine ⟨subset_cons_of_subset _ earlier, fun decision underway => ?_, answered⟩
    obtain ⟨same, newer⟩ := pending decision underway
    have concerned := settled event changed evicts (by simp [known, Except.toOption])
    exact ⟨same, forall_mem_cons.mpr ⟨concerned request listed decision underway, newer⟩⟩

private theorem step {event : AuthEvent Account} (settled : state.Settled event)
    (stepped : (authMachine env).step state event = some next) : next.Kept := by
  cases event with
  | start token method path clock =>
    obtain ⟨every, sound⟩ := get_every kept.cache token ⟨env.sha256 token, method, path⟩ clock
    cases stepped
    exact ⟨kept.past, every, forall_mem_push kept.requests sound⟩
  | proceed =>
    obtain ⟨request, found, stepped⟩ := Option.bind_eq_some_iff.mp stepped
    obtain ⟨_, proceeds, stepped⟩ := Option.bind_eq_some_iff.mp stepped
    cases stepped
    have sound := kept.requests request (mem_of_getElem? found)
    exact ⟨kept.past, sound.put kept.cache,
      forall_mem_set kept.requests (sound.proceed kept.past proceeds)⟩
  | change =>
    cases stepped
    refine { kept with past := fun purge listed => ?_ }
    simpa using Nat.lt_succ_of_lt (kept.past purge listed)
  | purge =>
    obtain ⟨_, changed, stepped⟩ := Option.bind_eq_some_iff.mp stepped
    split at stepped <;> cases stepped
    · exact kept
    · next _ known => exact kept.purge changed known settled
  | evict =>
    cases stepped
    exact { kept with cache := kept.cache.retain _ }

end AuthState.Kept

/-- **Purges are honoured.** In every run in which no purge overtakes a decision that it concerns,
a request is answered for its own key, from no account state that had been purged when it started,
and from the cache only before the credential expires. -/
theorem purges_honoured (env : AuthEnv Account) (account : Account)
    (events : List (AuthEvent Account)) {final : AuthState Account}
    (settled : (authMachine env).Along AuthState.Settled (.initial account) events)
    (reached : (authMachine env).run (.initial account) events = some final) :
    final.Honoured := by
  have start : (AuthState.initial account).Kept := ⟨nofun, Cache.Every.empty, nofun⟩
  have kept : final.Kept := Machine.invariant_run (fun kept => kept.step) start settled reached
  exact fun request listed => (kept.requests request listed).answered

end

/-- The accounts say whether the one token is revoked. -/
def patEnv : AuthEnv Bool where
  sha256 _ := replicate 32 1
  authenticate revoked _ _ :=
    if revoked then .error "invalid token" else .ok ⟨"ada", ["admin"], [], none⟩

def patHash : String := "0101010101010101010101010101010101010101010101010101010101010101"

def statusRequest : AuthEvent Bool := .start "pat" "GET" "/admin/status" (some 0)

/-- The decision is in the cache before the token is revoked and purged. -/
def purgedInTime : List (AuthEvent Bool) :=
  [statusRequest, .proceed 0 0 none, .proceed 0 0 none, .proceed 0 0 none,
    .change true (.token patHash), .purge 0, statusRequest, .proceed 1 0 none]

/-- The purge evicts the decision. -/
theorem purges_honoured_inTime : ∃ final,
    (authMachine patEnv).run (.initial false) purgedInTime = some final ∧ final.Honoured :=
  ⟨_, rfl, purges_honoured patEnv false purgedInTime (by decide +kernel) rfl⟩

/-- A decision that is put into the cache after the purge of its token answers the next request. -/
theorem purge_outrun : ∃ final, (authMachine patEnv).run (.initial false)
      [statusRequest, .proceed 0 0 none, .proceed 0 0 none, .change true (.token patHash), .purge 0,
        .proceed 0 0 none, statusRequest] = some final ∧ ¬final.Honoured := by
  refine ⟨_, rfl, fun honoured => ?_⟩
  have fresh := (honoured _ (mem_of_getElem? (i := 1) rfl) _ true rfl).1
  exact absurd (fresh.2 _ mem_cons_self (by decide +kernel)) (by decide)

end TachyonMesh.Authz
