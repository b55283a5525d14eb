import TachyonMesh.Store.DistributedLock

/-! # S3 volumes under a lock

An invocation that mounts an S3 volume with the write mode `pessimistic_lock` locks it, downloads
it, runs, uploads what changed and frees the lock. The lock is a row of the node's own table, its
key names the route and the guest path, and an invocation that does not get it goes on without.
-/

namespace TachyonMesh.Volumes
open Foundation TachyonMesh.Store List

/-- One mount, by a node and for a route. All mounts are of one bucket and prefix. -/
structure S3Mount where
  node : String
  route : String
  guestPath : String

def S3Mount.key (mount : S3Mount) : String :=
  "s3-vol:" ++ mount.route ++ ":" ++ mount.guestPath

def s3LeaseMs : Nat := 300000

/-- How far a mount has come. -/
inductive S3Stage where
  | prepared
  /-- With the number of uploads that the download saw. -/
  | downloaded (seen : Nat)
  | committed
  | cleaned
deriving DecidableEq

/-- A mount being used by a node. -/
structure S3VolumePrep where
  mount : S3Mount
  /-- The place of the guard among those of the node. -/
  lockGuard : Option Nat
  stage : S3Stage

/-- The lock tables and the mounts. -/
structure S3State where
  /-- Every node has a lock table of its own. -/
  locks : String → LockState
  uploads : Nat
  preps : List S3VolumePrep

/-- What may happen to the mounts. -/
inductive S3Event where
  /-- The last try of `acquire_with_wait`; a `fault` is one of the lock table. -/
  | acquire (mount : S3Mount) (nowMs : Nat) (fault : Bool)
  | download (index : Nat)
  | commit (index nowMs : Nat)
  /-- The prep is freed, and with it the guard. -/
  | clean (index nowMs : Nat)
  | heartbeat (node : String) (guard nowMs : Nat)

namespace S3State

def setStage (state : S3State) (index : Nat) (prep : S3VolumePrep) (stage : S3Stage) : S3State :=
  { state with preps := state.preps.set index { prep with stage } }

def setLocks (state : S3State) (node : String) (locks : LockState) : S3State :=
  { state with locks := Function.update state.locks node locks }

@[simp] theorem locks_setLocks (state : S3State) (node other : String) (locks : LockState) :
    (state.setLocks node locks).locks other = if other = node then locks else state.locks other :=
  Function.update_apply ..

def push (state : S3State) (mount : S3Mount) (lockGuard : Option Nat) : S3State :=
  { state with preps := state.preps ++ [⟨mount, lockGuard, .prepared⟩] }

def step (state : S3State) : S3Event → Option S3State
  | .acquire mount nowMs fault =>
      if fault then some (state.push mount none)
      else do
        let before := state.locks mount.node
        let locks ← before.step (.tryAcquire mount.key mount.node s3LeaseMs nowMs)
        -- Without the lock the preparation goes on all the same.
        let acquired := before.guards.length < locks.guards.length
        some ((state.setLocks mount.node locks).push mount
          (if acquired then some before.guards.length else none))
  | .download index => do
      let prep ← state.preps[index]?
      if prep.stage = .prepared then
        some (state.setStage index prep (.downloaded state.uploads))
      else none
  | .commit index nowMs => do
      let prep ← state.preps[index]?
      match prep.stage with
      | .downloaded _ =>
          if (state.locks prep.mount.node).nowMs ≤ nowMs then
            some { state.setStage index prep .committed with uploads := state.uploads + 1 }
          else none
      | _ => none
  | .clean index nowMs => do
      let prep ← state.preps[index]?
      if prep.stage = .cleaned then none
      else
        match prep.lockGuard with
        | none => some (state.setStage index prep .cleaned)
        | some guard => do
            let locks ← (state.locks prep.mount.node).step (.drop guard nowMs)
            some ((state.setLocks prep.mount.node locks).setStage index prep .cleaned)
  | .heartbeat node guard nowMs => do
      let locks ← (state.locks node).step (.heartbeat guard nowMs)
      some (state.setLocks node locks)

end S3State

def s3Machine : Machine S3State S3Event where
  step := S3State.step

namespace S3State

/-- The prep has a guard whose lease runs, and the lock table shows it. -/
def Holds (state : S3State) (prep : S3VolumePrep) (nowMs : Nat) : Prop :=
  ∃ place guard entry, prep.lockGuard = some place ∧
    (state.locks prep.mount.node).guards[place]? = some guard ∧ guard.key = prep.mount.key ∧
    guard.Current nowMs ∧ (state.locks prep.mount.node).table guard.key = some entry ∧
    guard.Wrote entry

/-- An upload is made under the lock, and has seen all uploads before it. -/
def Secured (state : S3State) : S3Event → Prop
  | .commit index nowMs => ∀ prep ∈ state.preps[index]?, ∀ seen, prep.stage = .downloaded seen →
      (state.locks prep.mount.node).nowMs ≤ nowMs → state.Holds prep nowMs ∧ seen = state.uploads
  | _ => True

variable (node key : String)

/-- Every mount is by the node and under the key, every invocation gets the lock, and no guard of
the node has outlived its lease when one is acquired or needed. -/
def Covered (state : S3State) : S3Event → Prop
  | .acquire mount nowMs fault => mount.node = node ∧ mount.key = key ∧ fault = false ∧
      canTake ((state.locks node).table key) nowMs ∧ nowMs < u64Max ∧
      ∀ guard ∈ (state.locks node).guards, guard.live → guard.Current nowMs
  | .commit _ nowMs =>
      ∀ guard ∈ (state.locks node).guards, guard.live → guard.Current nowMs
  | _ => True

instance (state : S3State) (event : S3Event) : Decidable (state.Covered node key event) := by
  unfold Covered
  split <;> infer_instance

def Guarded (state : S3State) (prep : S3VolumePrep) : Prop :=
  ∃ place guard, prep.lockGuard = some place ∧
    (state.locks node).guards[place]? = some guard ∧ guard.key = key ∧ guard.live

/-- One invocation at a time is under way, and it has seen every upload. -/
structure Kept (state : S3State) : Prop where
  sole : (state.locks node).Sole fun _ => True
  mounts : ∀ prep ∈ state.preps, prep.mount.node = node ∧ prep.mount.key = key
  guarded : ∀ prep ∈ state.preps, prep.stage ≠ .cleaned → state.Guarded node key prep
  alone : Alone (·.stage ≠ .cleaned) state.preps
  seen : ∀ prep ∈ state.preps, ∀ seen, prep.stage = .downloaded seen → seen = state.uploads

def initial : S3State := { locks := fun _ => .initial, uploads := 0, preps := [] }

private theorem kept_initial : initial.Kept node key :=
  ⟨LockState.sole_initial, nofun, nofun, alone_nil, nofun⟩

variable {node key} {state next : S3State} {index nowMs : Nat} {prep : S3VolumePrep}
  {locks : LockState} (kept : state.Kept node key) {event : S3Event}
include kept

/-- A lock that may be taken is not held by anyone under way. -/
theorem Kept.nobody {holder : String} (clock : (state.locks node).nowMs ≤ nowMs)
    (timely : (state.locks node).Timely (fun _ => True) (.tryAcquire key holder s3LeaseMs nowMs))
    (free : canTake ((state.locks node).table key) nowMs) :
    ∀ prep ∈ state.preps, ¬prep.stage ≠ .cleaned := by
  intro prep listed underway
  obtain ⟨_, _, -, found, rfl, live⟩ := kept.guarded prep listed underway
  rw [kept.sole.canTake_eq_false found live trivial clock timely] at free
  cases free

private theorem Kept.acquire {mount : S3Mount} {fault : Bool}
    (covered : state.Covered node key (.acquire mount nowMs fault))
    (stepped : state.step (.acquire mount nowMs fault) = some next) : next.Kept node key := by
  obtain ⟨rfl, rfl, rfl, free, early, current⟩ := covered
  obtain ⟨_, locked, stepped⟩ := Option.bind_eq_some_iff.mp stepped
  cases stepped
  have timely : (state.locks mount.node).Timely (fun _ => True)
      (.tryAcquire mount.key mount.node s3LeaseMs nowMs) :=
    ⟨early, fun other listed alive _ _ => current other listed alive⟩
  have nobody := kept.nobody (Option.ite_none_right_eq_some.mp locked).1.1 timely free
  have taken := LockState.step_takes locked free
  have acquired := (List.getElem?_eq_some_iff.mp taken).1
  refine ⟨?_, ?_, ?_, alone_push nobody, ?_⟩
  · simpa [push] using kept.sole.step timely locked
  · exact forall_mem_push kept.mounts ⟨rfl, rfl⟩
  · refine forall_mem_push ?_ fun _ => ?_
    · exact fun prep listed underway => absurd underway (nobody prep listed)
    · exact ⟨_, _, if_pos acquired, by simpa [push] using taken, rfl, rfl⟩
  · exact forall_mem_push kept.seen nofun

section
variable (found : state.preps[index]? = some prep)
include found

private theorem Kept.download (prepared : prep.stage = .prepared) :
    (state.setStage index prep (.downloaded state.uploads)).Kept node key where
  sole := kept.sole
  mounts := forall_mem_set kept.mounts (kept.mounts prep (mem_of_getElem? found))
  guarded := forall_mem_set kept.guarded fun _ =>
    kept.guarded prep (mem_of_getElem? found) (by simp [prepared])
  alone := kept.alone.rewrite found fun _ => by simp [prepared]
  seen := forall_mem_set kept.seen (by rintro _ ⟨⟩; rfl)

/-- After an upload no other invocation is under way that has downloaded. -/
theorem Kept.commit {seen : Nat} (downloaded : prep.stage = .downloaded seen) :
    Kept node key { state.setStage index prep .committed with uploads := state.uploads + 1 } where
  sole := kept.sole
  mounts := forall_mem_set kept.mounts (kept.mounts prep (mem_of_getElem? found))
  guarded := forall_mem_set kept.guarded fun _ =>
    kept.guarded prep (mem_of_getElem? found) (by simp [downloaded])
  alone := kept.alone.rewrite found fun _ => by simp [downloaded]
  seen other listed count stage := by
    obtain ⟨place, there⟩ := mem_iff_getElem?.mp listed
    obtain ⟨-, rfl⟩ | ⟨apart, there⟩ := getElem?_set_cases there
    · cases stage
    · exact absurd (kept.alone place index other prep there found (by simp [stage])
        (by simp [downloaded])) apart

private theorem Kept.clean (underway : prep.stage ≠ .cleaned)
    (sole : (next.locks node).Sole fun _ => True)
    (cleaned : next.preps = state.preps.set index { prep with stage := .cleaned }) :
    next.Kept node key := by
  have nobody : ∀ other ∈ next.preps, ¬other.stage ≠ .cleaned :=
    cleaned ▸ kept.alone.vacate found underway (by simp)
  refine ⟨sole, ?_, fun other listed stage => absurd stage (nobody other listed), ?_, ?_⟩
  · rw [cleaned]
    exact forall_mem_set kept.mounts (kept.mounts prep (mem_of_getElem? found))
  · rw [cleaned]
    exact kept.alone.replace (by simp)
  · exact fun other listed _ stage => absurd (by simp [stage]) (nobody other listed)

end

private theorem Kept.heartbeat {other : String} {guard : Nat}
    (stepped : (state.locks other).step (.heartbeat guard nowMs) = some locks) :
    (state.setLocks other locks).Kept node key := by
  by_cases here : node = other
  · subst here
    refine ⟨?_, kept.mounts, ?_, kept.alone, kept.seen⟩
    · have timely : (state.locks node).Timely (fun _ => True) (.heartbeat guard nowMs) := trivial
      simpa using kept.sole.step timely stepped
    · intro prep listed underway
      obtain ⟨place, _, lockGuard, found, onKey, live⟩ := kept.guarded prep listed underway
      obtain ⟨beaten, stays, sameKey, -, sameLive⟩ :=
        LockState.step_keeps stepped found fun _ => nofun
      exact ⟨place, beaten, lockGuard, by simpa using stays, sameKey.trans onKey,
        sameLive.trans live⟩
  · refine ⟨?_, kept.mounts, ?_, kept.alone, kept.seen⟩
    · simpa [here] using kept.sole
    · intro prep listed underway
      simpa [Guarded, here] using kept.guarded prep listed underway

private theorem Kept.step (covered : state.Covered node key event)
    (stepped : s3Machine.step state event = some next) : next.Kept node key := by
  cases event with
  | acquire => exact kept.acquire covered stepped
  | download =>
    obtain ⟨_, found, stepped⟩ := Option.bind_eq_some_iff.mp stepped
    obtain ⟨prepared, rfl⟩ := of_guard stepped
    exact kept.download found prepared
  | commit =>
    obtain ⟨_, found, stepped⟩ := Option.bind_eq_some_iff.mp stepped
    split at stepped
    · next downloaded =>
      cases (Option.ite_none_right_eq_some.mp stepped).2
      exact kept.commit found downloaded
    · cases stepped
  | clean _ nowMs =>
    obtain ⟨prep, found, stepped⟩ := Option.bind_eq_some_iff.mp stepped
    obtain ⟨underway, stepped⟩ := Option.ite_none_left_eq_some.mp stepped
    obtain ⟨onNode, -⟩ := kept.mounts prep (mem_of_getElem? found)
    split at stepped
    · cases stepped
      exact kept.clean found underway kept.sole rfl
    · next guard _ =>
      obtain ⟨_, dropped, stepped⟩ := Option.bind_eq_some_iff.mp stepped
      cases stepped
      refine kept.clean found underway ?_ rfl
      rw [onNode] at dropped ⊢
      have timely : (state.locks node).Timely (fun _ => True) (.drop guard nowMs) := trivial
      simpa [setStage] using kept.sole.step timely dropped
  | heartbeat =>
    obtain ⟨_, beaten, stepped⟩ := Option.bind_eq_some_iff.mp stepped
    cases stepped
    exact kept.heartbeat beaten

private theorem Kept.secured (covered : state.Covered node key event) : state.Secured event := by
  unfold Secured
  split
  · intro prep found seen downloaded clock
    have listed := mem_of_getElem? found
    obtain ⟨onNode, onKey⟩ := kept.mounts prep listed
    obtain ⟨place, guard, lockGuard, held, sameKey, live⟩ :=
      kept.guarded prep listed (by simp [downloaded])
    have current := covered guard (mem_of_getElem? held) live
    rw [onNode] at clock
    obtain ⟨entry, recorded, wrote⟩ :=
      kept.sole.held place guard held trivial (current.mono clock)
    refine ⟨⟨place, guard, entry, lockGuard, ?_, sameKey.trans onKey.symm, current, ?_, wrote⟩,
      kept.seen prep listed seen downloaded⟩
    · rw [onNode]
      exact held
    · rw [onNode]
      exact recorded
  · trivial

end S3State

/-- **Uploads are secured.** In every run in which all mounts lock one row of one node, every
invocation gets the lock and heartbeats are in time, each upload is made under the lock and after
a download that has seen all uploads before. -/
theorem uploads_secured (node key : String) {events : List S3Event}
    (covered : s3Machine.Along (S3State.Covered node key) .initial events) :
    s3Machine.Along S3State.Secured .initial events :=
  Machine.along_of_invariant (fun kept => kept.step) (fun kept => kept.secured)
    (S3State.kept_initial node key) covered

def dataMount (node : String) : S3Mount := ⟨node, "/api/data", "/app/data"⟩

/-- A node that refreshes its lock uploads safely, twice. -/
theorem uploads_secured_inTurn :
    s3Machine.Along S3State.Secured .initial
      [.acquire (dataMount "a") 0 false, .download 0, .heartbeat "a" 0 150000, .commit 0 200000,
        .clean 0 200000, .acquire (dataMount "a") 200001 false, .download 1, .commit 1 200002] :=
  uploads_secured "a" (dataMount "a").key (by decide +kernel)

/-- Two nodes have two locks, and the second upload has not seen the first one. -/
theorem upload_unsecured :
    ¬s3Machine.Along S3State.Secured .initial
      ([.acquire (dataMount "a") 0 false, .acquire (dataMount "b") 0 false, .download 0,
        .download 1, .commit 0 1] ++ [.commit 1 2]) := by
  intro secured
  have upToDate := ((Machine.along_of_append secured rfl).2.1 _ rfl 0 rfl (by decide)).2
  cases upToDate

end TachyonMesh.Volumes
