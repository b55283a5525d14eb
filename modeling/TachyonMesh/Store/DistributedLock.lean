import TachyonMesh.Foundation.Machine
import TachyonMesh.Foundation.MachineInt
import TachyonMesh.Foundation.Slots

/-! # Distributed locks

The lock table of the core store, its three transactions, and the guards that
invocations hold on it. An entry names its holder by node id only, while every
successful acquisition makes a guard of its own, so two guards of one node on
one key share a holder. The acquire transaction tests expiry, the heartbeat and
release transactions test only the holder. A guard is *current* while its last
successful acquire or heartbeat is within its lease.
-/

namespace TachyonMesh.Store
open Foundation List Function

/-- On-disk representation of a held distributed lock. -/
structure DistributedLockEntry where
  holder : String
  acquiredMs : Nat
  leaseTtlMs : Nat
  refreshCount : Nat

/-- The `distributed_locks` table, keyed by resource id. -/
abbrev LockTable := String → Option DistributedLockEntry

/-- Whether an acquire at `nowMs` may take the key: there is no entry, or its
lease has run out. -/
def canTake (existing : Option DistributedLockEntry) (nowMs : Nat) : Bool :=
  match existing with
  | none => true
  | some entry => saturatingAdd u64Max entry.acquiredMs entry.leaseTtlMs ≤ nowMs

section
variable (table : LockTable) (key holder : String)

/-- `CoreStore::lock_try_acquire`: take the key unless a non-expired entry exists. -/
def lockTryAcquire (leaseTtlMs nowMs : Nat) : Bool × LockTable :=
  if canTake (table key) nowMs then
    (true, update table key (some { holder, acquiredMs := nowMs, leaseTtlMs, refreshCount := 0 }))
  else (false, table)

/-- `CoreStore::lock_heartbeat`: extend the lease if the entry names `holder`. -/
def lockHeartbeat (leaseTtlMs nowMs : Nat) : Bool × LockTable :=
  match table key with
  | some entry =>
      if entry.holder = holder then
        (true, update table key (some
          { holder, acquiredMs := nowMs, leaseTtlMs,
            refreshCount := saturatingAdd u32Max entry.refreshCount 1 }))
      else (false, table)
  | none => (false, table)

/-- `CoreStore::lock_release`: remove the entry if it names `holder`. -/
def lockRelease : Bool × LockTable :=
  match table key with
  | some entry =>
      if entry.holder = holder then (true, update table key none) else (false, table)
  | none => (false, table)

end

/-- A `DistributedLockGuard` with its heartbeat task. `refreshedMs` is the time of
its last successful acquire or heartbeat; `live` until the guard is dropped;
`beating` until a heartbeat reports the lock lost. -/
structure Guard where
  key : String
  holder : String
  leaseTtlMs : Nat
  refreshedMs : Nat
  live : Bool
  beating : Bool

/-- The guard a successful acquire makes: live, with its heartbeat task running. -/
def Guard.fresh (key holder : String) (leaseTtlMs nowMs : Nat) : Guard :=
  { key, holder, leaseTtlMs, refreshedMs := nowMs, live := true, beating := true }

/-- The table, every guard ever acquired in order of acquisition, and the clock. -/
structure LockState where
  table : LockTable
  guards : List Guard
  nowMs : Nat

/-- What an invocation or a heartbeat task does, at a clock value. -/
inductive LockEvent where
  | tryAcquire (key holder : String) (leaseTtlMs nowMs : Nat)
  | heartbeat (guard nowMs : Nat)
  | drop (guard nowMs : Nat)

namespace LockState

def initial : LockState := { table := fun _ => none, guards := [], nowMs := 0 }

/-- A success makes a guard. -/
def tryAcquire (state : LockState) (key holder : String) (leaseTtlMs nowMs : Nat) : LockState :=
  match lockTryAcquire state.table key holder leaseTtlMs nowMs with
  | (true, table) =>
      { table, nowMs, guards := state.guards ++ [Guard.fresh key holder leaseTtlMs nowMs] }
  | (false, _) => { state with nowMs }

/-- One beat of a guard's heartbeat task, which ends when the lock is lost. -/
def heartbeat (state : LockState) (index : Nat) (guard : Guard) (nowMs : Nat) : LockState :=
  match lockHeartbeat state.table guard.key guard.holder guard.leaseTtlMs nowMs with
  | (true, table) =>
      { table, nowMs, guards := state.guards.set index { guard with refreshedMs := nowMs } }
  | (false, table) =>
      { table, nowMs, guards := state.guards.set index { guard with beating := false } }

/-- Drop of a guard: stop its heartbeat task and release the key. -/
def drop (state : LockState) (index : Nat) (guard : Guard) (nowMs : Nat) : LockState :=
  { table := (lockRelease state.table guard.key guard.holder).2, nowMs,
    guards := state.guards.set index { guard with live := false, beating := false } }

/-- One step. The clock never goes back and fits in 64 bits; a beat needs a live
guard with a running heartbeat task, a drop needs a live guard. -/
def step (state : LockState) : LockEvent → Option LockState
  | .tryAcquire key holder leaseTtlMs nowMs =>
      if state.nowMs ≤ nowMs ∧ nowMs ≤ u64Max then
        some (state.tryAcquire key holder leaseTtlMs nowMs)
      else none
  | .heartbeat index nowMs =>
      match state.guards[index]? with
      | some guard =>
          if state.nowMs ≤ nowMs ∧ nowMs ≤ u64Max ∧ guard.live ∧ guard.beating then
            some (state.heartbeat index guard nowMs)
          else none
      | none => none
  | .drop index nowMs =>
      match state.guards[index]? with
      | some guard =>
          if state.nowMs ≤ nowMs ∧ nowMs ≤ u64Max ∧ guard.live then
            some (state.drop index guard nowMs)
          else none
      | none => none

end LockState

def lockMachine : Machine LockState LockEvent where
  step := LockState.step

/-! ## What one step does -/

/-- The lease that `entry` records is the one `guard` wrote last. -/
structure Guard.Wrote (guard : Guard) (entry : DistributedLockEntry) : Prop where
  live : guard.live
  holder : entry.holder = guard.holder
  acquired : entry.acquiredMs = guard.refreshedMs
  lease : entry.leaseTtlMs = guard.leaseTtlMs

/-- The guard's last successful acquire or heartbeat is within its lease at `nowMs`. -/
def Guard.Current (guard : Guard) (nowMs : Nat) : Prop :=
  guard.live ∧ nowMs < guard.refreshedMs + guard.leaseTtlMs
deriving Decidable

theorem Guard.Current.mono {guard : Guard} {early late : Nat} (order : early ≤ late)
    (current : guard.Current late) : guard.Current early :=
  ⟨current.1, Nat.lt_of_le_of_lt order current.2⟩

namespace LockState

/-- No guard acquired after the one at `index` is on `key`. -/
def Latest (state : LockState) (index : Nat) (key : String) : Prop :=
  ∀ later guard, index < later → state.guards[later]? = some guard → guard.key ≠ key

/-- A heartbeat or a drop of the guard at `index` would act on an entry that a
later guard acquired: the entry names the guard's node, and a guard acquired
after it is on the same key. -/
def Disturbs (state : LockState) (index : Nat) : Prop :=
  ∃ guard ∈ state.guards[index]?,
    (∃ entry ∈ state.table guard.key, entry.holder = guard.holder) ∧
      ∃ later ∈ state.guards.drop (index + 1), later.key = guard.key
deriving Decidable

/-- The condition on one step: an acquire reads a clock below the 64-bit maximum,
where saturated expiry is exact, and a heartbeat or drop does not act on an entry
that a later guard acquired. -/
def Undisturbed (state : LockState) : LockEvent → Prop
  | .tryAcquire _ _ _ nowMs => nowMs < u64Max
  | .heartbeat index _ => ¬state.Disturbs index
  | .drop index _ => ¬state.Disturbs index

instance (state : LockState) (event : LockEvent) : Decidable (state.Undisturbed event) := by
  unfold LockState.Undisturbed
  split <;> infer_instance

variable {state next : LockState} {event : LockEvent} {key : String} {index nowMs : Nat}
  {guard old new : Guard}

/-- What an enabled step does. An acquire only advances the clock, or takes a free or lapsed key.
A heartbeat or drop rewrites its guard, and the entry of the key too if that names its holder. -/
inductive Steps (state : LockState) : LockEvent → LockState → Prop where
  | refused {nowMs : Nat} (key holder : String) (leaseTtlMs : Nat) (clock : state.nowMs ≤ nowMs)
      (held : canTake (state.table key) nowMs = false) :
      Steps state (.tryAcquire key holder leaseTtlMs nowMs) { state with nowMs }
  | taken {key : String} {nowMs : Nat} (holder : String) (leaseTtlMs : Nat)
      (clock : state.nowMs ≤ nowMs) (free : canTake (state.table key) nowMs) :
      Steps state (.tryAcquire key holder leaseTtlMs nowMs)
        { table := update state.table key (some
            { holder, acquiredMs := nowMs, leaseTtlMs, refreshCount := 0 }), nowMs,
          guards := state.guards ++ [Guard.fresh key holder leaseTtlMs nowMs] }
  | beaten {index nowMs : Nat} {guard : Guard} {entry : DistributedLockEntry}
      (found : state.guards[index]? = some guard) (clock : state.nowMs ≤ nowMs)
      (live : guard.live) (recorded : state.table guard.key = some entry)
      (same : entry.holder = guard.holder) :
      Steps state (.heartbeat index nowMs)
        { table := update state.table guard.key (some
            { holder := guard.holder, acquiredMs := nowMs, leaseTtlMs := guard.leaseTtlMs,
              refreshCount := saturatingAdd u32Max entry.refreshCount 1 }), nowMs,
          guards := state.guards.set index { guard with refreshedMs := nowMs } }
  | lost {index nowMs : Nat} {guard : Guard} (found : state.guards[index]? = some guard)
      (clock : state.nowMs ≤ nowMs) (live : guard.live) :
      Steps state (.heartbeat index nowMs)
        { state with nowMs, guards := state.guards.set index { guard with beating := false } }
  | dropped {index nowMs : Nat} {guard : Guard} {entry : DistributedLockEntry}
      (found : state.guards[index]? = some guard) (clock : state.nowMs ≤ nowMs)
      (live : guard.live) (recorded : state.table guard.key = some entry)
      (same : entry.holder = guard.holder) :
      Steps state (.drop index nowMs)
        { table := update state.table guard.key none, nowMs,
          guards := state.guards.set index { guard with live := false, beating := false } }
  | ended {index nowMs : Nat} {guard : Guard} (found : state.guards[index]? = some guard)
      (clock : state.nowMs ≤ nowMs) (live : guard.live)
      (foreign : ∀ entry, state.table guard.key = some entry → entry.holder ≠ guard.holder) :
      Steps state (.drop index nowMs)
        { state with
          nowMs, guards := state.guards.set index { guard with live := false, beating := false } }

private theorem steps_of_step (stepped : state.step event = some next) :
    state.Steps event next := by
  cases event with
  | tryAcquire key _ _ nowMs =>
    simp only [step, Option.ite_none_right_eq_some, Option.some.injEq] at stepped
    obtain ⟨⟨clock, -⟩, rfl⟩ := stepped
    cases free : canTake (state.table key) nowMs with
    | false => simpa [tryAcquire, lockTryAcquire, free] using .refused _ _ _ clock free
    | true => simpa [tryAcquire, lockTryAcquire, free] using .taken _ _ clock free
  | heartbeat index =>
    cases found : state.guards[index]? with
    | none => simp [step, found] at stepped
    | some guard =>
    simp only [step, found, Option.ite_none_right_eq_some, Option.some.injEq] at stepped
    obtain ⟨⟨clock, -, live, -⟩, rfl⟩ := stepped
    cases recorded : state.table guard.key with
    | none => simpa [heartbeat, lockHeartbeat, recorded] using .lost found clock live
    | some entry =>
      by_cases same : entry.holder = guard.holder
      · simpa [heartbeat, lockHeartbeat, recorded, same] using
          .beaten found clock live recorded same
      · simpa [heartbeat, lockHeartbeat, recorded, same] using .lost found clock live
  | drop index =>
    cases found : state.guards[index]? with
    | none => simp [step, found] at stepped
    | some guard =>
    simp only [step, found, Option.ite_none_right_eq_some, Option.some.injEq] at stepped
    obtain ⟨⟨clock, -, live⟩, rfl⟩ := stepped
    cases recorded : state.table guard.key with
    | none => simpa [drop, lockRelease, recorded] using .ended found clock live (by simp [recorded])
    | some entry =>
      by_cases same : entry.holder = guard.holder
      · simpa [drop, lockRelease, recorded, same] using .dropped found clock live recorded same
      · simpa [drop, lockRelease, recorded, same] using
          .ended found clock live (by simp [recorded, same])

/-! ## The invariant -/

/-- Every entry is the lease of the last guard acquired on its key, and every
current guard is the last one acquired on its key and owns the entry. -/
structure Consistent (state : LockState) : Prop where
  owned : ∀ key entry, state.table key = some entry →
    ∃ index guard, state.guards[index]? = some guard ∧ guard.key = key ∧
      guard.Wrote entry ∧ state.Latest index key
  held : ∀ index guard, state.guards[index]? = some guard → guard.Current state.nowMs →
    state.Latest index guard.key ∧ ∃ entry, state.table guard.key = some entry ∧ guard.Wrote entry

private theorem consistent_initial : initial.Consistent where
  owned := by simp [initial]
  held := by simp [initial]

private theorem Latest.eq_index {first second : Nat} {firstGuard secondGuard : Guard}
    (firstLatest : state.Latest first key) (secondLatest : state.Latest second key)
    (firstAt : state.guards[first]? = some firstGuard) (firstKey : firstGuard.key = key)
    (secondAt : state.guards[second]? = some secondGuard) (secondKey : secondGuard.key = key) :
    first = second := by
  rcases Nat.lt_trichotomy first second with before | same | after
  · exact absurd secondKey (firstLatest second secondGuard before secondAt)
  · exact same
  · exact absurd firstKey (secondLatest first firstGuard after firstAt)

/-- A guard whose heartbeat or drop finds its holder in the entry, without
disturbing a later guard, is the latest guard on its key. -/
theorem latest_of_not_disturbs {entry : DistributedLockEntry} (calm : ¬state.Disturbs index)
    (found : state.guards[index]? = some guard) (recorded : state.table guard.key = some entry)
    (same : entry.holder = guard.holder) : state.Latest index guard.key := by
  intro later laterGuard after laterAt sameKey
  refine calm ⟨guard, found, ⟨entry, recorded, same⟩, laterGuard, ?_, sameKey⟩
  rw [mem_iff_getElem?]
  refine ⟨later - (index + 1), ?_⟩
  rw [getElem?_drop]
  have position : index + 1 + (later - (index + 1)) = later := by omega
  rw [position]
  exact laterAt

private theorem latest_append (appended : next.guards = state.guards ++ [guard])
    (other : guard.key ≠ key) (latest : state.Latest index key) : next.Latest index key := by
  intro later laterGuard after laterAt
  rw [appended] at laterAt
  obtain earlier | ⟨_, rfl⟩ := getElem?_append_singleton laterAt
  · exact latest later laterGuard after earlier
  · exact other

private theorem latest_last (appended : next.guards = state.guards ++ [guard]) :
    next.Latest state.guards.length key := by
  intro later other after laterAt
  obtain ⟨inside, -⟩ := List.getElem?_eq_some_iff.mp laterAt
  rw [appended, length_append, length_singleton] at inside
  omega

private theorem latest_set {position : Nat}
    (rewritten : next.guards = state.guards.set position new)
    (found : state.guards[position]? = some old) (sameKey : new.key = old.key)
    (latest : state.Latest index key) : next.Latest index key := by
  intro later laterGuard after laterAt
  rw [rewritten] at laterAt
  obtain ⟨rfl, rfl⟩ | ⟨_, held⟩ := getElem?_set_cases laterAt
  · rw [sameKey]
    exact latest _ old after found
  · exact latest later laterGuard after held

section
variable (valid : state.Consistent)
include valid

/-- An acquire below the 64-bit maximum keeps the invariant: what it takes over has
lapsed, so no current guard is on the key. -/
theorem Consistent.take {holder : String} {leaseTtlMs : Nat} (clock : state.nowMs ≤ nowMs)
    (below : nowMs < u64Max) (free : canTake (state.table key) nowMs) :
    Consistent { table := update state.table key (some
                   { holder, acquiredMs := nowMs, leaseTtlMs, refreshCount := 0 }), nowMs,
                 guards := state.guards ++ [Guard.fresh key holder leaseTtlMs nowMs] } := by
  refine ⟨?_, ?_⟩
  · intro other entry recorded
    by_cases same : other = key
    · subst same
      simp only [update_self, Option.some.injEq] at recorded
      subst recorded
      exact ⟨state.guards.length, .fresh other holder leaseTtlMs nowMs, by simp, rfl,
        ⟨rfl, rfl, rfl, rfl⟩, latest_last rfl⟩
    · simp only [update_of_ne same] at recorded
      obtain ⟨index, guard, found, onKey, wrote, latest⟩ := valid.owned other entry recorded
      exact ⟨index, guard, getElem?_append_of_some found, onKey, wrote,
        latest_append rfl (Ne.symm same) latest⟩
  · intro index guard found current
    obtain found | ⟨rfl, rfl⟩ := getElem?_append_singleton found
    · obtain ⟨latest, entry, recorded, wrote⟩ := valid.held index guard found (current.mono clock)
      have apart : guard.key ≠ key := by
        intro same
        rw [← same, recorded] at free
        have lapsed := add_le_of_saturatingAdd_le below (of_decide_eq_true free)
        have live := current.2
        rw [wrote.acquired, wrote.lease] at lapsed
        exact absurd live (by simpa using lapsed)
      refine ⟨latest_append rfl (Ne.symm apart) latest, entry, ?_, wrote⟩
      simp [update_of_ne apart, recorded]
    · exact ⟨latest_last rfl, _, update_self _ _ _, ⟨rfl, rfl, rfl, rfl⟩⟩

/-- Rewriting the latest guard of a key together with the key's entry keeps the
invariant: no other guard on the key is current. -/
private theorem Consistent.set_latest {value : Option DistributedLockEntry}
    (found : state.guards[index]? = some old) (latest : state.Latest index old.key)
    (clock : state.nowMs ≤ nowMs) (sameKey : new.key = old.key)
    (wrote : ∀ entry, value = some entry → new.Wrote entry)
    (recorded : new.Current nowMs → ∃ entry, value = some entry) :
    Consistent { table := update state.table old.key value, nowMs,
                 guards := state.guards.set index new } := by
  constructor
  · intro key entry written
    by_cases here : key = old.key
    · subst here
      simp only [update_self] at written
      exact ⟨index, new, getElem?_set_of_some found, sameKey, wrote entry written,
        latest_set rfl found sameKey latest⟩
    simp only [update_of_ne here] at written
    obtain ⟨owner, ownerGuard, ownerAt, onKey, ownerWrote, ownerLatest⟩ :=
      valid.owned key entry written
    have apart : index ≠ owner := by
      intro same
      rw [← same, found, Option.some.injEq] at ownerAt
      exact here (by rw [ownerAt, onKey])
    exact ⟨owner, ownerGuard, (getElem?_set_ne apart).trans ownerAt, onKey, ownerWrote,
      latest_set rfl found sameKey ownerLatest⟩
  · intro position other otherAt current
    rcases getElem?_set_cases otherAt with ⟨rfl, rfl⟩ | ⟨apart, before⟩
    · obtain ⟨entry, written⟩ := recorded current
      rw [sameKey]
      exact ⟨latest_set rfl found sameKey latest, entry,
        by simp only [update_self, written], wrote entry written⟩
    obtain ⟨otherLatest, entry, written, otherWrote⟩ :=
      valid.held position other before (current.mono clock)
    have elsewhere : other.key ≠ old.key := by
      intro same
      rw [same] at otherLatest
      exact apart (otherLatest.eq_index latest before same found rfl)
    exact ⟨latest_set rfl found sameKey otherLatest, entry,
      by simp only [update_of_ne elsewhere, written], otherWrote⟩

/-- Rewriting a guard without touching the table keeps the invariant when the new
guard keeps what the old one wrote and is no more current. -/
private theorem Consistent.set_guard (found : state.guards[index]? = some old)
    (clock : state.nowMs ≤ nowMs) (sameKey : new.key = old.key)
    (wrote : ∀ entry, state.table old.key = some entry → old.Wrote entry → new.Wrote entry)
    (current : new.Current nowMs → old.Current nowMs) :
    Consistent { state with nowMs, guards := state.guards.set index new } := by
  constructor
  · intro key entry written
    obtain ⟨owner, ownerGuard, ownerAt, onKey, ownerWrote, ownerLatest⟩ :=
      valid.owned key entry written
    by_cases here : index = owner
    · subst here
      cases found.symm.trans ownerAt
      subst onKey
      exact ⟨index, new, getElem?_set_of_some found, sameKey, wrote entry written ownerWrote,
        latest_set rfl found sameKey ownerLatest⟩
    · exact ⟨owner, ownerGuard, (getElem?_set_ne here).trans ownerAt, onKey, ownerWrote,
        latest_set rfl found sameKey ownerLatest⟩
  · intro position other otherAt isCurrent
    rcases getElem?_set_cases otherAt with ⟨rfl, rfl⟩ | ⟨_, before⟩
    · obtain ⟨latest, entry, written, oldWrote⟩ :=
        valid.held position old found ((current isCurrent).mono clock)
      rw [sameKey]
      exact ⟨latest_set rfl found sameKey latest, entry, written, wrote entry written oldWrote⟩
    · obtain ⟨latest, entry, written, otherWrote⟩ :=
        valid.held position other before (isCurrent.mono clock)
      exact ⟨latest_set rfl found sameKey latest, entry, written, otherWrote⟩

private theorem Consistent.step (calm : state.Undisturbed event)
    (stepped : state.step event = some next) :
    next.Consistent := by
  cases steps_of_step stepped with
  | refused _ _ _ clock =>
    exact ⟨valid.owned, fun index guard found current =>
      valid.held index guard found (current.mono clock)⟩
  | taken _ _ clock free => exact valid.take clock calm free
  | beaten found clock live recorded same =>
    refine valid.set_latest found (latest_of_not_disturbs calm found recorded same) clock rfl
      ?_ (fun _ => ⟨_, rfl⟩)
    intro entry written
    cases written
    exact ⟨live, rfl, rfl, rfl⟩
  | lost found clock =>
    refine valid.set_guard found clock rfl ?_ id
    intro entry _ wrote
    exact ⟨wrote.live, wrote.holder, wrote.acquired, wrote.lease⟩
  | dropped found clock _ recorded same =>
    exact valid.set_latest found (latest_of_not_disturbs calm found recorded same) clock rfl
      nofun (fun current => nomatch current.1)
  | ended found clock _ foreign =>
    exact valid.set_guard found clock rfl
      (fun entry recorded wrote => absurd wrote.holder (foreign entry recorded))
      (fun current => nomatch current.1)

/-- No two guards on one key are current. -/
def AtMostOneCurrent (state : LockState) : Prop :=
  ∀ (first second : Nat) (firstGuard secondGuard : Guard),
    state.guards[first]? = some firstGuard → state.guards[second]? = some secondGuard →
    firstGuard.key = secondGuard.key →
    firstGuard.Current state.nowMs → secondGuard.Current state.nowMs → first = second

/-- The invariant gives mutual exclusion: both current guards are the latest. -/
theorem Consistent.atMostOneCurrent : state.AtMostOneCurrent := by
  intro first second firstGuard secondGuard firstAt secondAt sameKey firstCurrent secondCurrent
  have firstLatest := (valid.held first firstGuard firstAt firstCurrent).1
  have secondLatest := (valid.held second secondGuard secondAt secondCurrent).1
  rw [← sameKey] at secondLatest
  exact firstLatest.eq_index secondLatest firstAt rfl secondAt sameKey.symm

end

/-- A heartbeat or drop of a guard leaves the whole table alone once another
guard was acquired on its key after it. -/
def KeepsLaterEntries (state : LockState) (event : LockEvent) : Prop :=
  ∀ index guard nowMs next, (event = .heartbeat index nowMs ∨ event = .drop index nowMs) →
    state.guards[index]? = some guard → ¬state.Latest index guard.key →
    state.step event = some next → next.table = state.table

/-- A step that meets the condition acts only on an entry its own guard acquired. -/
theorem Undisturbed.keepsLaterEntries (calm : state.Undisturbed event) :
    state.KeepsLaterEntries event := by
  intro index guard nowMs next kind found overtaken stepped
  cases steps_of_step stepped with
  | refused | taken => rcases kind with kind | kind <;> cases kind
  | lost | ended => rfl
  | beaten foundToo _ _ recorded same | dropped foundToo _ _ recorded same =>
    rcases kind with kind | kind <;> cases kind
    cases found.symm.trans foundToo
    exact absurd (latest_of_not_disturbs calm found recorded same) overtaken

end LockState

open LockState

/-- **Mutual exclusion.** In every run whose heartbeats and drops do not act on
an entry that a later guard acquired, each key has at most one current guard in
every reached state, and every heartbeat and drop taken leaves the entries of later
guards alone. -/
theorem atMostOneCurrent_of_undisturbed (events : List LockEvent) (final : LockState)
    (calm : lockMachine.Along Undisturbed initial events)
    (reached : lockMachine.run initial events = some final) :
    final.AtMostOneCurrent ∧ lockMachine.Along KeepsLaterEntries initial events := by
  have kept : lockMachine.Preserves Undisturbed Consistent := fun valid => valid.step
  constructor
  · exact (Machine.invariant_run kept consistent_initial calm reached).atMostOneCurrent
  · exact Machine.along_of_invariant kept (fun _ calmStep => calmStep.keepsLaterEntries)
      consistent_initial calm

/-- A lapsed guard of one node, a takeover by another node, a beat and a drop. -/
theorem atMostOneCurrent_of_takeover :
    ∃ final, lockMachine.run initial
        [.tryAcquire "route:/job" "node-a" 30000 0, .tryAcquire "route:/job" "node-b" 30000 30000,
          .heartbeat 0 30001, .heartbeat 1 45000, .drop 0 45001] = some final ∧
      final.AtMostOneCurrent := by
  exact Machine.exists_run (by decide) fun final reached =>
    (atMostOneCurrent_of_undisturbed _ final (by decide) reached).1

/-- **The holder is only a node id.** Two invocations of one node run a
mesh-singleton route with a thirty second lease. The first guard lapses, the second
takes the key over, and the first guard's late heartbeat finds its own node in the
entry: both guards are current. When the first guard is dropped instead, it removes
the second guard's entry, and a guard of another node becomes current beside it. -/
theorem lapsed_heartbeat_makes_two_current :
    (∃ final, lockMachine.run initial
        [.tryAcquire "route:/job" "node-a" 30000 0, .tryAcquire "route:/job" "node-a" 30000 30000,
          .heartbeat 0 30001] = some final ∧ ¬final.AtMostOneCurrent) ∧
      ∃ final, lockMachine.run initial
        [.tryAcquire "route:/job" "node-a" 30000 0, .tryAcquire "route:/job" "node-a" 30000 30000,
          .drop 0 30001, .tryAcquire "route:/job" "node-b" 30000 30002] = some final ∧
        ¬final.AtMostOneCurrent := by
  refine ⟨⟨_, rfl, ?_⟩, ⟨_, rfl, ?_⟩⟩
  · intro exclusive
    have same := exclusive 0 1 _ _ rfl rfl rfl (by decide) (by decide)
    cases same
  · intro exclusive
    have same := exclusive 1 2 _ _ rfl rfl rfl (by decide) (by decide)
    cases same

/-! ## Guards that are refreshed in time

A node that refreshes its own guards in time keeps its keys, whatever other nodes do with theirs.
-/

namespace LockState

/-- An acquire finds every live guard of the given holders on its key within its lease. -/
def Timely (mine : String → Prop) (state : LockState) : LockEvent → Prop
  | .tryAcquire key _ _ nowMs => nowMs < u64Max ∧
      ∀ guard ∈ state.guards, guard.live → mine guard.holder → guard.key = key →
        guard.Current nowMs
  | _ => True

instance (mine : String → Prop) [DecidablePred mine] (state : LockState) (event : LockEvent) :
    Decidable (state.Timely mine event) := by
  unfold LockState.Timely
  split <;> infer_instance

/-- A live guard of these holders, lapsed or not, is the last one acquired on its key, and owns
the entry while it is current. -/
structure Sole (mine : String → Prop) (state : LockState) : Prop where
  latest : ∀ (index : Nat) (guard : Guard), state.guards[index]? = some guard → guard.live →
    mine guard.holder → state.Latest index guard.key
  held : ∀ (index : Nat) (guard : Guard), state.guards[index]? = some guard → mine guard.holder →
    guard.Current state.nowMs → ∃ entry, state.table guard.key = some entry ∧ guard.Wrote entry

theorem sole_initial {mine : String → Prop} : initial.Sole mine where
  latest := by simp [initial]
  held := by simp [initial]

variable {mine : String → Prop} {state next : LockState} {index nowMs leaseTtlMs : Nat}
  {guard changed : Guard} {holder key : String} {event : LockEvent}

section
variable (sole : state.Sole mine)
include sole

theorem Sole.eq_index {first second : Nat} {left right : Guard}
    (atFirst : state.guards[first]? = some left) (atSecond : state.guards[second]? = some right)
    (sameKey : left.key = right.key) (leftLive : left.live) (rightLive : right.live)
    (leftMine : mine left.holder) (rightMine : mine right.holder) : first = second := by
  have firstLatest := sole.latest first left atFirst leftLive leftMine
  have secondLatest := sole.latest second right atSecond rightLive rightMine
  rw [← sameKey] at secondLatest
  exact firstLatest.eq_index secondLatest atFirst rfl atSecond sameKey.symm

theorem Sole.canTake_eq_false (found : state.guards[index]? = some guard) (live : guard.live)
    (own : mine guard.holder) (clock : state.nowMs ≤ nowMs)
    (timely : state.Timely mine (.tryAcquire guard.key holder leaseTtlMs nowMs)) :
    canTake (state.table guard.key) nowMs = false := by
  have current := timely.2 guard (mem_of_getElem? found) live own rfl
  obtain ⟨_, recorded, wrote⟩ := sole.held index guard found own (current.mono clock)
  rw [recorded]
  refine decide_eq_false ?_
  intro reached
  have lapsed := add_le_of_saturatingAdd_le timely.1 reached
  rw [wrote.acquired, wrote.lease] at lapsed
  exact absurd current.2 (Nat.not_lt.mpr lapsed)

/-- A live guard is rewritten in place, or ends. -/
private theorem Sole.latest_rewritten (found : state.guards[index]? = some guard)
    (live : guard.live) (rewritten : next.guards = state.guards.set index changed)
    (sameKey : changed.key = guard.key) (sameHolder : changed.holder = guard.holder) :
    ∀ position other, next.guards[position]? = some other → other.live → mine other.holder →
      next.Latest position other.key := by
  intro position other held alive own
  rw [rewritten] at held
  obtain ⟨rfl, rfl⟩ | ⟨-, held⟩ := getElem?_set_cases held
  · rw [sameKey]
    exact latest_set rewritten found sameKey (sole.latest _ guard found live (sameHolder ▸ own))
  · exact latest_set rewritten found sameKey (sole.latest _ other held alive own)

/-- With a guard the entry of its key is rewritten, which named its holder: no other guard of these
holders is current on the key. -/
private theorem Sole.set_entry {entry : DistributedLockEntry}
    {value : Option DistributedLockEntry} (found : state.guards[index]? = some guard)
    (live : guard.live) (clock : state.nowMs ≤ nowMs)
    (recorded : state.table guard.key = some entry) (same : entry.holder = guard.holder)
    (sameKey : changed.key = guard.key)
    (sameHolder : changed.holder = guard.holder)
    (wrote : changed.live → ∃ entry, value = some entry ∧ changed.Wrote entry) :
    Sole mine { table := update state.table guard.key value, nowMs,
                guards := state.guards.set index changed } := by
  refine ⟨sole.latest_rewritten found live rfl sameKey sameHolder, ?_⟩
  intro position other otherAt own current
  obtain ⟨rfl, rfl⟩ | ⟨apart, before⟩ := getElem?_set_cases otherAt
  · obtain ⟨written, rfl, mark⟩ := wrote current.1
    rw [sameKey]
    exact ⟨written, update_self .., mark⟩
  obtain ⟨held, there, otherWrote⟩ := sole.held position other before own (current.mono clock)
  have elsewhere : other.key ≠ guard.key := by
    intro sameKey
    rw [sameKey, recorded] at there
    cases there
    have holders : guard.holder = other.holder := same.symm.trans otherWrote.holder
    exact apart (sole.eq_index before found sameKey current.1 live own (holders ▸ own))
  exact ⟨held, (update_of_ne elsewhere ..).trans there, otherWrote⟩

/-- A guard is rewritten that wrote what it did and is no more current. -/
private theorem Sole.set_guard (found : state.guards[index]? = some guard) (live : guard.live)
    (clock : state.nowMs ≤ nowMs) (sameKey : changed.key = guard.key)
    (sameHolder : changed.holder = guard.holder)
    (current : changed.Current nowMs → guard.Current nowMs ∧
      ∀ entry, guard.Wrote entry → changed.Wrote entry) :
    Sole mine { state with nowMs, guards := state.guards.set index changed } := by
  refine ⟨sole.latest_rewritten found live rfl sameKey sameHolder, ?_⟩
  intro position other otherAt own isCurrent
  obtain ⟨rfl, rfl⟩ | ⟨-, before⟩ := getElem?_set_cases otherAt
  · obtain ⟨before, keeps⟩ := current isCurrent
    obtain ⟨entry, recorded, wrote⟩ :=
      sole.held position guard found (sameHolder ▸ own) (before.mono clock)
    exact ⟨entry, sameKey ▸ recorded, keeps entry wrote⟩
  · exact sole.held position other before own (isCurrent.mono clock)

theorem Sole.step (timely : state.Timely mine event) (stepped : state.step event = some next) :
    next.Sole mine := by
  cases steps_of_step stepped with
  | refused _ _ _ clock =>
    exact ⟨sole.latest, fun index guard found own current =>
      sole.held index guard found own (current.mono clock)⟩
  | @taken key _ _ _ clock free =>
    -- A live guard of these holders on the key would keep it from being free.
    have apart {index : Nat} {guard : Guard} (found : state.guards[index]? = some guard)
        (live : guard.live) (own : mine guard.holder) : guard.key ≠ key := by
      rintro rfl
      rw [sole.canTake_eq_false found live own clock timely] at free
      cases free
    constructor
    · intro index guard found live own
      obtain earlier | ⟨rfl, rfl⟩ := getElem?_append_singleton found
      · exact latest_append rfl (apart earlier live own).symm
          (sole.latest index guard earlier live own)
      · exact latest_last rfl
    · intro index guard found own current
      obtain earlier | ⟨rfl, rfl⟩ := getElem?_append_singleton found
      · obtain ⟨entry, recorded, wrote⟩ :=
          sole.held index guard earlier own (current.mono clock)
        exact ⟨entry, (update_of_ne (apart earlier current.1 own) ..).trans recorded, wrote⟩
      · exact ⟨_, update_self .., ⟨rfl, rfl, rfl, rfl⟩⟩
  | beaten found clock live recorded same =>
    exact sole.set_entry found live clock recorded same rfl rfl fun live =>
      ⟨_, rfl, ⟨live, rfl, rfl, rfl⟩⟩
  | lost found clock live =>
    exact sole.set_guard found live clock rfl rfl fun current =>
      ⟨current, fun _ wrote => ⟨wrote.live, wrote.holder, wrote.acquired, wrote.lease⟩⟩
  | dropped found clock live recorded same =>
    exact sole.set_entry found live clock recorded same rfl rfl nofun
  | ended found clock live =>
    exact sole.set_guard found live clock rfl rfl fun current => nomatch current.1

end

theorem step_takes (stepped : state.step (.tryAcquire key holder leaseTtlMs nowMs) = some next)
    (free : canTake (state.table key) nowMs) :
    next.guards[state.guards.length]? = some (Guard.fresh key holder leaseTtlMs nowMs) := by
  cases steps_of_step stepped with
  | refused _ _ _ _ held => cases free.symm.trans held
  | taken => exact getElem?_concat_length

theorem step_keeps (stepped : state.step event = some next)
    (found : state.guards[index]? = some guard) (stays : ∀ nowMs, event ≠ .drop index nowMs) :
    ∃ kept, next.guards[index]? = some kept ∧ kept.key = guard.key ∧
      kept.holder = guard.holder ∧ kept.live = guard.live := by
  have same {other : Guard} {position : Nat} (apart : index ≠ position) :
      (state.guards.set position other)[index]? = some guard :=
    (getElem?_set_ne (Ne.symm apart)).trans found
  cases steps_of_step stepped with
  | refused => exact ⟨guard, found, rfl, rfl, rfl⟩
  | taken => exact ⟨guard, getElem?_append_of_some found, rfl, rfl, rfl⟩
  | @beaten position _ _ _ foundToo | @lost position _ _ foundToo =>
    by_cases here : index = position
    · subst here
      cases found.symm.trans foundToo
      exact ⟨_, getElem?_set_of_some found, rfl, rfl, rfl⟩
    · exact ⟨guard, same here, rfl, rfl, rfl⟩
  | dropped | ended =>
    refine ⟨guard, same ?_, rfl, rfl, rfl⟩
    rintro rfl
    exact stays _ rfl

end LockState

end TachyonMesh.Store
