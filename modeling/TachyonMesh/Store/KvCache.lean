import TachyonMesh.Dispatch.Routes
import TachyonMesh.Foundation.Machine
import TachyonMesh.Foundation.Outcome
import TachyonMesh.Foundation.Slots

/-! # The cache of a component

Entries are rows of one table, under a component, a tenant and a key. A `GET` takes the tenant from
its headers. A `PUT` or `DELETE` does so only if the cache isolates its tenants, and uses one shared
tenant otherwise. A `GET` that finds an expired entry deletes the row in a second transaction.
-/

namespace TachyonMesh.KvCache
open Foundation Function Option Machine
open Dispatch (HeaderMap)

/-! ## Keys and entries -/

/-- What the handlers read of a cache's configuration. -/
structure IntegrityKvCacheConfig where
  componentRef : String
  maxTtlSeconds : Option Nat
  tenantIsolation : Bool

/-- The tenant that the headers name, if its header is readable text and not blank. -/
def namedTenant (headers : HeaderMap) : Option String :=
  ((((headers.get "x-tachyon-tenant").or (headers.get "x-tenant-id")).filter
    HeaderMap.visible).map trim).filter fun tenant => tenant ≠ ""

def tenantFromHeaders (headers : HeaderMap) : String := (namedTenant headers).getD "default"

/-- The tenant under which a `PUT` or `DELETE` works. -/
def writeTenant (cache : IntegrityKvCacheConfig) (headers : HeaderMap) : String :=
  if cache.tenantIsolation then tenantFromHeaders headers else "shared"

def cacheConfigFor (caches : List IntegrityKvCacheConfig) (componentRef : String) :
    Option IntegrityKvCacheConfig :=
  caches.find? fun cache => cache.componentRef = componentRef

def sanitizeKvKeyPart (value label : String) : Except String String :=
  if trim value = "" ∨ '/' ∈ (trim value).toList ∨ '\\' ∈ (trim value).toList then
    .error ("invalid kv-cache " ++ label ++ " `" ++ value ++
      "`: must be non-empty and contain no slashes")
  else .ok (trim value)

def kvCacheKey (componentRef tenant cacheKey : String) : Except String String := do
  let component ← sanitizeKvKeyPart componentRef "component_ref"
  let tenant ← sanitizeKvKeyPart tenant "tenant"
  if cacheKey = "" then .error "kv cache_key must not be empty"
  else .ok (component ++ "/" ++ tenant ++ "/" ++ cacheKey)

/-- What a read returns. -/
structure KvCacheEntry where
  value : List UInt8
  expiresAt : Option Nat
deriving DecidableEq

namespace KvCacheEntry

def new (value : List UInt8) (ttlSeconds : Option Nat) (nowSecs : Nat) : KvCacheEntry where
  value
  expiresAt := ttlSeconds.map fun ttl => saturatingAdd u64Max nowSecs ttl

def isExpired (entry : KvCacheEntry) (nowSecs : Nat) : Bool :=
  entry.expiresAt.any fun expiresAt => expiresAt ≤ nowSecs

private theorem isExpired_mono {entry : KvCacheEntry} {earlier later : Nat}
    (order : earlier ≤ later)
    (expired : entry.isExpired earlier) : entry.isExpired later := by
  obtain ⟨expiresAt, found, past⟩ := (Option.any_eq_true ..).mp expired
  exact (Option.any_eq_true ..).mpr
    ⟨expiresAt, found, decide_eq_true ((of_decide_eq_true past).trans order)⟩

end KvCacheEntry

/-! ## Requests -/

/-- An entry, and the number of the `PUT` that has stored it. -/
structure CacheRow where
  entry : KvCacheEntry
  put : Nat
deriving DecidableEq

/-- A `PUT` that was answered with 204. -/
structure CachePut where
  componentRef : String
  tenant : String
  cacheKey : String

/-- A `GET` that has found an expired row and deletes it next. -/
structure Eviction where
  key : String
  row : CacheRow
  done : Bool

/-- An HTTP answer. -/
structure Response where
  status : Nat
  text : String

/-- The rows, and what clients wrote. -/
structure CacheState where
  rows : String → Option CacheRow
  /-- What clients have stored last under a key, and not deleted. -/
  written : String → Option CacheRow
  puts : List CachePut
  evictions : List Eviction
  nowSecs : Nat

/-- What may happen to the cache. -/
inductive CacheEvent where
  /-- A `PUT`; `hot` is whether the component is loaded on this node. -/
  | put (headers : HeaderMap) (componentRef cacheKey : String) (body : List UInt8) (hot : Bool)
      (nowSecs : Nat)
  | delete (headers : HeaderMap) (componentRef cacheKey : String)
  /-- The reading transaction of a `GET`. -/
  | get (headers : HeaderMap) (componentRef cacheKey : String) (nowSecs : Nat)
  /-- The deleting transaction of a `GET`. -/
  | evict (index : Nat)
  /-- That transaction fails, which the `GET` ignores. -/
  | abandon (index : Nat)

/-- How a read ends. -/
inductive GetOutcome where
  | value (row : CacheRow)
  | refused (response : Response)
  /-- It deletes the row and answers 404. -/
  | evicting (key : String) (row : CacheRow)

section
variable (caches : List IntegrityKvCacheConfig)

def undeclared (componentRef : String) : Response where
  status := 404
  text := "no component-cache configured for Component `" ++ componentRef ++ "`"

/-- `kv_cache_put_handler` up to its transaction: the cache, and the tenant and key of the row. -/
def putTarget (headers : HeaderMap) (componentRef cacheKey : String) (hot : Bool) :
    Except Response (IntegrityKvCacheConfig × String × String) :=
  match cacheConfigFor caches componentRef with
  | none => .error (undeclared componentRef)
  | some cache =>
      if hot then
        ((kvCacheKey componentRef (writeTenant cache headers) cacheKey).mapError fun error =>
          { status := 500, text := "kv_cache write failed: " ++ error }).map fun key =>
            (cache, writeTenant cache headers, key)
      else .error {
        status := 503
        text := "Component `" ++ componentRef ++
          "` is not loaded on this node — kv-cache writes " ++
          "are only accepted on the node that hosts the Component" }

/-- `kv_cache_delete_handler` up to its transaction. -/
def deleteTarget (headers : HeaderMap) (componentRef cacheKey : String) : Except Response String :=
  match cacheConfigFor caches componentRef with
  | none => .error { status := 404, text := "" }
  | some cache =>
      (kvCacheKey componentRef (writeTenant cache headers) cacheKey).mapError fun error =>
        { status := 500, text := "kv_cache delete failed: " ++ error }

/-- `kv_cache_get_handler` with its reading transaction. -/
def getOutcome (rows : String → Option CacheRow) (headers : HeaderMap)
    (componentRef cacheKey : String) (nowSecs : Nat) : GetOutcome :=
  match cacheConfigFor caches componentRef with
  | none => .refused (undeclared componentRef)
  | some _ =>
      match kvCacheKey componentRef (tenantFromHeaders headers) cacheKey with
      | .error error => .refused { status := 500, text := "kv_cache read failed: " ++ error }
      | .ok key =>
          match rows key with
          | none => .refused { status := 404, text := "" }
          | some row => if row.entry.isExpired nowSecs then .evicting key row else .value row

end

namespace CacheState
variable (state : CacheState)

def initial : CacheState where
  rows _ := none
  written _ := none
  puts := []
  evictions := []
  nowSecs := 0

/-- `kv_cache_put`. -/
def put (key : String) (put : CachePut) (entry : KvCacheEntry) : CacheState :=
  let row : CacheRow := { entry, put := state.puts.length }
  { state with
    rows := update state.rows key (some row)
    written := update state.written key (some row)
    puts := state.puts ++ [put] }

/-- `kv_cache_delete` for a client. -/
def delete (key : String) : CacheState :=
  { state with
    rows := update state.rows key none
    written := update state.written key none }

/-- `kv_cache_delete` for an expired entry. -/
def evict (index : Nat) (eviction : Eviction) : CacheState :=
  { state with
    rows := update state.rows eviction.key none
    evictions := state.evictions.set index { eviction with done := true } }

def get (outcome : GetOutcome) (nowSecs : Nat) : CacheState :=
  match outcome with
  | .value _ | .refused _ => { state with nowSecs }
  | .evicting key row =>
      { state with nowSecs, evictions := state.evictions ++ [{ key, row, done := false }] }

end CacheState

/-- Requests to the caches of a node. A request that is refused changes nothing, and is a step only
if it is a `GET`. -/
def cacheMachine (caches : List IntegrityKvCacheConfig) : Machine CacheState CacheEvent where
  step state
    | .put headers componentRef cacheKey body hot nowSecs =>
        match putTarget caches headers componentRef cacheKey hot with
        | .error _ => none
        | .ok (cache, tenant, key) => some (state.put key { componentRef, tenant, cacheKey }
            (.new body cache.maxTtlSeconds nowSecs))
    | .delete headers componentRef cacheKey =>
        match deleteTarget caches headers componentRef cacheKey with
        | .error _ => none
        | .ok key => some (state.delete key)
    | .get headers componentRef cacheKey nowSecs =>
        if state.nowSecs ≤ nowSecs then
          some (state.get
            (getOutcome caches state.rows headers componentRef cacheKey nowSecs) nowSecs)
        else none
    | .evict index => state.evictions[index]?.bind fun eviction =>
        if eviction.done then none else some (state.evict index eviction)
    | .abandon index => state.evictions[index]?.bind fun eviction =>
        if eviction.done then none
        else some { state with
          evictions := state.evictions.set index { eviction with done := true } }

/-! ## What clients may rely on -/

section
variable (caches : List IntegrityKvCacheConfig) (state : CacheState)

/-- A `GET` returns what a `PUT` with its headers has written last, until it expires. -/
def ReadsOwnWrite : CacheEvent → Prop
  | .get headers componentRef cacheKey nowSecs => ∀ cache key row,
      cacheConfigFor caches componentRef = some cache →
      kvCacheKey componentRef (writeTenant cache headers) cacheKey = .ok key →
      state.written key = some row → state.nowSecs ≤ nowSecs → row.entry.isExpired nowSecs = false →
      getOutcome caches state.rows headers componentRef cacheKey nowSecs = .value row
  | _ => True

/-- A `GET` from a cache that isolates its tenants returns an entry of its own tenant. -/
def IsolatesTenants : CacheEvent → Prop
  | .get headers componentRef cacheKey nowSecs => ∀ cache row,
      cacheConfigFor caches componentRef = some cache → cache.tenantIsolation →
      getOutcome caches state.rows headers componentRef cacheKey nowSecs = .value row →
      ∃ put, state.puts[row.put]? = some put ∧ put.tenant = tenantFromHeaders headers ∧
        trim put.componentRef = trim componentRef ∧ put.cacheKey = cacheKey
  | _ => True

/-- A `GET` is made to a cache that isolates its tenants, or names the tenant `shared`; and an
expired entry is deleted while no other entry is in its place. -/
def Agreed : CacheEvent → Prop
  | .get headers componentRef _ _ => ∀ cache ∈ cacheConfigFor caches componentRef,
      cache.tenantIsolation ∨ namedTenant headers = some "shared"
  | .evict index => ∀ eviction ∈ state.evictions[index]?,
      state.rows eviction.key = none ∨ state.rows eviction.key = some eviction.row
  | _ => True

instance (event : CacheEvent) : Decidable (Agreed caches state event) := by
  unfold Agreed
  split <;> infer_instance

end

/-! ## Keys -/

theorem sanitizeKvKeyPart_eq_ok {value label part : String}
    (accepted : sanitizeKvKeyPart value label = .ok part) :
    part = trim value ∧ '/' ∉ part.toList := by
  unfold sanitizeKvKeyPart at accepted
  split at accepted
  · cases accepted
  · next plain =>
    cases accepted
    exact ⟨rfl, fun slash => plain (.inr (.inl slash))⟩

variable {componentRef tenant cacheKey key : String}

theorem kvCacheKey_eq_ok (accepted : kvCacheKey componentRef tenant cacheKey = .ok key) :
    '/' ∉ (trim componentRef).toList ∧ '/' ∉ (trim tenant).toList ∧
      key.toList = (trim componentRef).toList ++
        '/' :: ((trim tenant).toList ++ '/' :: cacheKey.toList) := by
  obtain ⟨_, first, accepted⟩ := bind_eq_ok.mp accepted
  obtain ⟨_, second, accepted⟩ := bind_eq_ok.mp accepted
  obtain ⟨rfl, plain⟩ := sanitizeKvKeyPart_eq_ok first
  obtain ⟨rfl, plain'⟩ := sanitizeKvKeyPart_eq_ok second
  refine ⟨plain, plain', ?_⟩
  split at accepted
  · cases accepted
  · cases accepted
    simp

theorem kvCacheKey_inj {componentRef' tenant' cacheKey' : String}
    (first : kvCacheKey componentRef tenant cacheKey = .ok key)
    (second : kvCacheKey componentRef' tenant' cacheKey' = .ok key) :
    trim componentRef = trim componentRef' ∧ trim tenant = trim tenant' ∧ cacheKey = cacheKey' := by
  obtain ⟨component, name, spelled⟩ := kvCacheKey_eq_ok first
  obtain ⟨component', name', spelled'⟩ := kvCacheKey_eq_ok second
  obtain ⟨components, rest⟩ :=
    append_cons_inj_of_first component component' (spelled.symm.trans spelled')
  obtain ⟨names, keys⟩ := append_cons_inj_of_first name name' rest
  exact ⟨String.toList_inj.mp components, String.toList_inj.mp names, String.toList_inj.mp keys⟩

private theorem trim_tenantFromHeaders (headers : HeaderMap) :
    trim (tenantFromHeaders headers) = tenantFromHeaders headers := by
  unfold tenantFromHeaders namedTenant
  generalize ((headers.get "x-tachyon-tenant").or (headers.get "x-tenant-id")).filter
    HeaderMap.visible = value
  cases value with
  | none => rfl
  | some value =>
    rw [map_some, filter_some]
    split
    · exact trim_trim value
    · rfl

private theorem trim_writeTenant (cache : IntegrityKvCacheConfig) (headers : HeaderMap) :
    trim (writeTenant cache headers) = writeTenant cache headers := by
  unfold writeTenant
  split
  · exact trim_tenantFromHeaders headers
  · rfl

/-! ## Tenants -/

section
variable {caches : List IntegrityKvCacheConfig} {state next : CacheState} {headers : HeaderMap}
  {componentRef cacheKey : String} {rows : String → Option CacheRow} {row : CacheRow}

private theorem getOutcome_eq_value {nowSecs : Nat}
    (found : getOutcome caches rows headers componentRef cacheKey nowSecs = .value row) :
    ∃ key, kvCacheKey componentRef (tenantFromHeaders headers) cacheKey = .ok key ∧
      rows key = some row := by
  unfold getOutcome at found
  split at found
  · cases found
  split at found
  · cases found
  · next key keyed =>
    split at found
    · cases found
    · next _ present =>
      split at found
      · cases found
      · cases found
        exact ⟨key, keyed, present⟩

private theorem putTarget_eq_ok {hot : Bool} {cache : IntegrityKvCacheConfig}
    (accepted : putTarget caches headers componentRef cacheKey hot = .ok (cache, tenant, key)) :
    tenant = writeTenant cache headers ∧ kvCacheKey componentRef tenant cacheKey = .ok key := by
  unfold putTarget at accepted
  split at accepted
  · cases accepted
  split at accepted
  · obtain ⟨_, keyed, same⟩ := map_eq_ok.mp accepted
    cases same
    exact ⟨rfl, mapError_eq_ok.mp keyed⟩
  · cases accepted

namespace CacheState

/-- Every row has been stored by the `PUT` it names, under that one's key. -/
def Sourced (state : CacheState) : Prop :=
  ∀ key row, state.rows key = some row → ∃ put, state.puts[row.put]? = some put ∧
    kvCacheKey put.componentRef put.tenant put.cacheKey = .ok key ∧ trim put.tenant = put.tenant

private theorem Sourced.of_rows (sourced : state.Sourced) (puts : next.puts = state.puts)
    (rows : ∀ key row, next.rows key = some row → state.rows key = some row) : next.Sourced := by
  intro key row held
  rw [puts]
  exact sourced key row (rows key row held)

variable {key : String}

private theorem Sourced.put (sourced : state.Sourced) {put : CachePut} {entry : KvCacheEntry}
    (keyed : kvCacheKey put.componentRef put.tenant put.cacheKey = .ok key)
    (trimmed : trim put.tenant = put.tenant) : (state.put key put entry).Sourced := by
  intro place row held
  change update state.rows key _ place = some row at held
  rw [update_apply] at held
  split at held
  · next here =>
    cases held
    refine ⟨put, ?_, here ▸ keyed, trimmed⟩
    exact List.getElem?_concat_length
  · obtain ⟨source, listed, stored⟩ := sourced place row held
    exact ⟨source, getElem?_append_of_some listed, stored⟩

private theorem rows_of_update_none {place : String}
    (held : update rows key none place = some row) : rows place = some row := by
  rw [update_apply] at held
  split at held
  · cases held
  · exact held

private theorem Sourced.step (sourced : state.Sourced) {event : CacheEvent}
    (stepped : (cacheMachine caches).step state event = some next) : next.Sourced := by
  cases event with
  | put headers =>
    simp only [cacheMachine] at stepped
    split at stepped
    · cases stepped
    · next cache _ _ accepted =>
      cases stepped
      obtain ⟨rfl, keyed⟩ := putTarget_eq_ok accepted
      exact sourced.put keyed (trim_writeTenant cache headers)
  | delete =>
    simp only [cacheMachine] at stepped
    split at stepped
    · cases stepped
    · cases stepped
      exact sourced.of_rows rfl fun _ _ => rows_of_update_none
  | get =>
    obtain ⟨-, rfl⟩ := of_guard stepped
    unfold CacheState.get
    split <;> exact sourced.of_rows rfl fun _ _ held => held
  | evict =>
    obtain ⟨_, -, stepped⟩ := bind_eq_some_iff.mp stepped
    obtain ⟨-, stepped⟩ := ite_none_left_eq_some.mp stepped
    cases stepped
    exact sourced.of_rows rfl fun _ _ => rows_of_update_none
  | abandon =>
    obtain ⟨_, -, stepped⟩ := bind_eq_some_iff.mp stepped
    obtain ⟨-, stepped⟩ := ite_none_left_eq_some.mp stepped
    cases stepped
    exact sourced.of_rows rfl fun _ _ held => held

private theorem Sourced.isolates (sourced : state.Sourced) (event : CacheEvent) :
    IsolatesTenants caches state event := by
  cases event with
  | get =>
    intro cache row configured isolated found
    obtain ⟨key, keyed, held⟩ := getOutcome_eq_value found
    obtain ⟨put, listed, stored, trimmed⟩ := sourced key row held
    obtain ⟨components, tenants, keys⟩ := kvCacheKey_inj stored keyed
    rw [trimmed, trim_tenantFromHeaders] at tenants
    exact ⟨put, listed, tenants, components, keys⟩
  | _ => trivial

end CacheState

end

/-! ## Own writes -/

section
variable {caches : List IntegrityKvCacheConfig} {state next : CacheState} {headers : HeaderMap}

private theorem getOutcome_eq_evicting {rows : String → Option CacheRow} {nowSecs : Nat}
    {row : CacheRow}
    (found : getOutcome caches rows headers componentRef cacheKey nowSecs = .evicting key row) :
    row.entry.isExpired nowSecs := by
  unfold getOutcome at found
  split at found
  · cases found
  split at found
  · cases found
  split at found
  · cases found
  split at found
  · next expired =>
    cases found
    exact expired
  · cases found

/-- Where the tenants agree, both ways lead to one row. -/
theorem writeTenant_eq {cache : IntegrityKvCacheConfig}
    (agreed : cache.tenantIsolation ∨ namedTenant headers = some "shared") :
    writeTenant cache headers = tenantFromHeaders headers := by
  unfold writeTenant
  split
  · rfl
  · next shared =>
    rw [tenantFromHeaders, agreed.resolve_left shared]
    rfl

namespace CacheState

/-- What was written last is in its row, or has expired and is gone. -/
structure Kept (state : CacheState) : Prop where
  present : ∀ key row, state.written key = some row → state.rows key = some row ∨
    (state.rows key = none ∧ row.entry.isExpired state.nowSecs)
  expired : ∀ eviction ∈ state.evictions, eviction.row.entry.isExpired state.nowSecs

private theorem kept_initial : initial.Kept where
  present _ _ written := nomatch written
  expired := nofun

variable {nowSecs index : Nat} {eviction : Eviction} {event : CacheEvent} (kept : state.Kept)
include kept

private theorem Kept.later (order : state.nowSecs ≤ nowSecs) : Kept { state with nowSecs } where
  present key row written :=
    (kept.present key row written).imp_right fun ⟨gone, expired⟩ =>
      ⟨gone, KvCacheEntry.isExpired_mono order expired⟩
  expired eviction listed := KvCacheEntry.isExpired_mono order (kept.expired eviction listed)

private theorem Kept.get {outcome : GetOutcome} (order : state.nowSecs ≤ nowSecs)
    (evicts : ∀ key row, outcome = .evicting key row → row.entry.isExpired nowSecs) :
    (state.get outcome nowSecs).Kept := by
  have later := kept.later order
  cases outcome with
  | value | refused => exact later
  | evicting key row =>
    exact { later with expired := forall_mem_push later.expired (evicts key row rfl) }

/-- A client's write is a change of the row and of what is written there. -/
theorem Kept.change {value : Option CacheRow} {puts : List CachePut} :
    Kept { state with
      rows := update state.rows key value
      written := update state.written key value
      puts } where
  present place row written := by
    change update state.written key value place = some row at written
    change update state.rows key value place = some row ∨
      (update state.rows key value place = none ∧ _)
    rw [update_apply] at written ⊢
    split at written
    · next here =>
      rw [if_pos here]
      exact .inl written
    · next elsewhere =>
      rw [if_neg elsewhere]
      exact kept.present place row written
  expired := kept.expired

private theorem Kept.settle (found : state.evictions[index]? = some eviction) :
    Kept { state with evictions := state.evictions.set index { eviction with done := true } } where
  present := kept.present
  expired := forall_mem_set kept.expired (kept.expired eviction (List.mem_of_getElem? found))

/-- The row that is deleted is the one that was found expired. -/
theorem Kept.evict (found : state.evictions[index]? = some eviction)
    (agreed : state.rows eviction.key = none ∨ state.rows eviction.key = some eviction.row) :
    (state.evict index eviction).Kept where
  present key row written := by
    change update state.rows eviction.key none key = some row ∨
      (update state.rows eviction.key none key = none ∧ _)
    rw [update_apply]
    obtain held | ⟨gone, expired⟩ := kept.present key row written
    · split
      · next here =>
        rw [← here, held] at agreed
        obtain absent | same := agreed
        · cases absent
        · cases same
          exact .inr ⟨rfl, kept.expired eviction (List.mem_of_getElem? found)⟩
      · exact .inl held
    · refine .inr ⟨?_, expired⟩
      split
      · rfl
      · exact gone
  expired := (kept.settle found).expired

private theorem Kept.step (agreed : Agreed caches state event)
    (stepped : (cacheMachine caches).step state event = some next) : next.Kept := by
  cases event with
  | put | delete =>
    simp only [cacheMachine] at stepped
    split at stepped
    · cases stepped
    · cases stepped
      exact kept.change
  | get =>
    obtain ⟨order, rfl⟩ := of_guard stepped
    exact kept.get order fun _ _ => getOutcome_eq_evicting
  | evict =>
    obtain ⟨eviction, found, stepped⟩ := bind_eq_some_iff.mp stepped
    obtain ⟨-, stepped⟩ := ite_none_left_eq_some.mp stepped
    cases stepped
    exact kept.evict found (agreed eviction found)
  | abandon =>
    obtain ⟨_, found, stepped⟩ := bind_eq_some_iff.mp stepped
    obtain ⟨-, stepped⟩ := ite_none_left_eq_some.mp stepped
    cases stepped
    exact kept.settle found

private theorem Kept.readsOwnWrite (agreed : Agreed caches state event) :
    ReadsOwnWrite caches state event := by
  cases event with
  | get =>
    intro cache key row configured keyed written order fresh
    rw [writeTenant_eq (agreed cache configured)] at keyed
    obtain held | ⟨-, expired⟩ := kept.present key row written
    · rw [getOutcome, configured]
      simp [keyed, held, fresh]
    · rw [KvCacheEntry.isExpired_mono order expired] at fresh
      cases fresh
  | _ => trivial

end CacheState

end

/-- In every run a `GET` from a cache that isolates its tenants returns entries of its own tenant
only. Where the tenants of reads and writes agree and no deletion of an expired entry meets a newer
one, a `GET` returns what was written last with its headers until it expires. -/
theorem cache_reads_own_writes (caches : List IntegrityKvCacheConfig) (events : List CacheEvent) :
    (cacheMachine caches).Along (IsolatesTenants caches) .initial events ∧
      ((cacheMachine caches).Along (Agreed caches) .initial events →
        (cacheMachine caches).Along (ReadsOwnWrite caches) .initial events) := by
  constructor
  · have sourced : CacheState.initial.Sourced := nofun
    exact along_of_invariant (fun sourced _ => sourced.step)
      (fun sourced _ => sourced.isolates _) sourced (along_true _ _)
  · intro agreed
    exact along_of_invariant (fun kept => kept.step) (fun kept => kept.readsOwnWrite)
      CacheState.kept_initial agreed

/-- Entries of the component live for ten seconds. -/
def llmCache (tenantIsolation : Bool) : List IntegrityKvCacheConfig :=
  [{ componentRef := "llm", maxTtlSeconds := some 10, tenantIsolation }]

def acmeHeaders : HeaderMap := ⟨[("x-tenant-id", " acme ")]⟩

def putAt (nowSecs : Nat) (body : List UInt8) : CacheEvent :=
  .put acmeHeaders "llm" "prompt" body true nowSecs

def getAt (nowSecs : Nat) : CacheEvent := .get acmeHeaders "llm" "prompt" nowSecs

/-- An entry expires, is deleted and is written again. -/
def renewedRun : List CacheEvent := [putAt 100 [1], getAt 111, .evict 0, putAt 112 [2]]

/-- A renewed entry is read until it expires. -/
theorem cache_reads_own_writes_acme :
    ∃ state, (cacheMachine (llmCache true)).run .initial renewedRun = some state ∧
      getOutcome (llmCache true) state.rows acmeHeaders "llm" "prompt" 121 =
        .value ⟨⟨[2], some 122⟩, 1⟩ := by
  refine exists_run (by decide +kernel) fun _ reached => ?_
  have along := (cache_reads_own_writes (llmCache true) (renewedRun ++ [getAt 121])).2
    (by decide +kernel)
  have reads := (along_of_append along reached).2.1
  cases reached
  exact reads _ "llm/acme/prompt" _ rfl (by decide +kernel) rfl (by decide) rfl

/-- A `GET` deletes the entry that was written while it was on its way. -/
def overtakenRun : List CacheEvent := [putAt 100 [1], getAt 111, putAt 112 [2], .evict 0]

/-- Reads with a tenant miss a shared entry, and a late deletion takes a new one. -/
theorem cache_loses_write :
    (∃ state, (cacheMachine (llmCache false)).run .initial [putAt 100 [1]] = some state ∧
      state.written "llm/shared/prompt" = some ⟨⟨[1], some 110⟩, 0⟩ ∧
      getOutcome (llmCache false) state.rows acmeHeaders "llm" "prompt" 101 = .refused ⟨404, ""⟩ ∧
      ¬ReadsOwnWrite (llmCache false) state (getAt 101)) ∧
    ∃ state, (cacheMachine (llmCache true)).run .initial overtakenRun = some state ∧
      state.written "llm/acme/prompt" = some ⟨⟨[2], some 122⟩, 1⟩ ∧
      getOutcome (llmCache true) state.rows acmeHeaders "llm" "prompt" 113 = .refused ⟨404, ""⟩ ∧
      ¬ReadsOwnWrite (llmCache true) state (getAt 113) := by
  refine ⟨⟨_, rfl, rfl, rfl, fun reads => ?_⟩, ⟨_, rfl, rfl, rfl, fun reads => ?_⟩⟩
  · cases reads _ "llm/shared/prompt" _ rfl (by decide +kernel) rfl (by decide) rfl
  · cases reads _ "llm/acme/prompt" _ rfl (by decide +kernel) rfl (by decide) rfl

end TachyonMesh.KvCache
