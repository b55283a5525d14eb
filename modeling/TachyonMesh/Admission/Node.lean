import TachyonMesh.Store.DistributedLock

/-! # Admission on a node

A request reaches the guest of a route over one of several transports. The buffered HTTP
path, which replays use too, counts the request as active and then asks
`concurrency_admission::check`, which tests whether the route is paused and makes a guard
according to the route's concurrency policy; the guard goes with the guest's job and is
dropped when the job ends. Streaming requests are counted and not checked; websockets, TCP and
UDP listeners and the host's own calls are neither; microvm routes are counted when they
start, and not checked.

Drain backups pause a route, wait until the current runtime counts no active request of it,
and read the volume's directory. A reload makes a new runtime with counters of its own.
-/

namespace TachyonMesh.Admission
open Foundation Store Function

/-! ## Policies and requests -/

/-- How many guests of a route may execute. -/
inductive ConcurrencyMode where
  | unrestricted
  | nodeSingleton
  | meshSingleton
  | meshLeader
  | meshLeaderStrict
deriving DecidableEq

/-- What a request does that finds its singleton taken. -/
inductive ConflictPolicy where
  | queue
  | reject
  | drop
deriving DecidableEq

/-- How the buffered path runs the guest of a route: as a blocking job (plain or in the local
enclave), as a call to an Enarx keep, or in a microvm; `missing` is a route that requires a TEE
on a host without one. -/
inductive Backend where
  | blocking
  | enarx
  | missing
  | microvm
deriving DecidableEq

/-- What admission reads of a route. -/
structure RoutePolicy where
  mode : ConcurrencyMode
  onConflict : ConflictPolicy
  lockTtlMs : Nat
  backend : Backend

/-- How a request reaches its route. -/
inductive Transport where
  | http
  | replay
  | sse
  | websocket
  | tcp
  | udp
  /-- The host runs the route itself, as it does for certificates. -/
  | host
deriving DecidableEq

/-- The transports of `execute_route_request_with_acquired_permit`. -/
def Transport.buffered : Transport → Bool
  | .http | .replay => true
  | _ => false

/-- `AdmissionGuard`; a mesh lock is the place of its guard in the lock state. -/
inductive AdmissionGuard where
  | noOp
  | nodeSlot
  | meshLock (guard : Nat)
deriving DecidableEq

/-- How far an invocation has come. -/
inductive Standing where
  | entered
  /-- It has been counted as active. -/
  | begun
  /-- `check` has found the route not paused. -/
  | cleared
  | admitted (guard : AdmissionGuard)
  /-- The guest executes, with the guard if there is one. -/
  | executing (guard : Option AdmissionGuard)
  /-- The guest is done and the response is on its way. -/
  | answered
  | over
deriving DecidableEq

/-- An invocation of a route, on the runtime generation that it found. -/
structure Invocation where
  route : String
  transport : Transport
  generation : Nat
  /-- It has a unit of `active_requests`. -/
  counted : Bool
  /-- Its task, or the body of its response, has not been dropped. -/
  attached : Bool
  standing : Standing

/-- The guard that the invocation has, before or while it executes. -/
def Invocation.guard (invocation : Invocation) : Option AdmissionGuard :=
  match invocation.standing with
  | .admitted guard => some guard
  | .executing guard => guard
  | _ => none

def Invocation.Executes (invocation : Invocation) : Prop :=
  ∃ guard, invocation.standing = .executing guard

/-- The invocation starts its guest without asking `check`. -/
def Invocation.unchecked (policy : RoutePolicy) (invocation : Invocation) : Bool :=
  !invocation.transport.buffered || policy.backend = .microvm

def lockKey (route : String) : String := "route:" ++ route

/-! ## The state of a node -/

/-- How far a drain backup has come. -/
inductive BackupStage where
  | draining
  | reading
  | finished
deriving DecidableEq

/-- A backup of one of a route's volumes with `WriteIsolation::Drain`. -/
structure Backup where
  route : String
  guestPath : String
  stage : BackupStage

/-- The node's counters, slots, locks, requests and backups. -/
structure NodeState where
  /-- `AdmissionPauseRegistry`. -/
  paused : String → Bool
  /-- `NodeSingletonRegistry`. -/
  held : String → Bool
  locks : LockState
  /-- The runtime that new requests find. -/
  generation : Nat
  /-- `active_requests` of each runtime and route. -/
  active : Nat → String → Nat
  invocations : List Invocation
  backups : List Backup

/-- A step of a request. -/
inductive Action where
  /-- `begin_request`. -/
  | begin
  /-- `check` looks whether the route is paused. -/
  | test
  /-- `check` tries to make the guard; `leads` is what the leader election says. -/
  | acquire (nowMs : Nat) (leads : Bool)
  /-- The wait for the distributed lock times out, or the store fails. -/
  | giveUp
  /-- The guest starts. -/
  | start
  /-- There is no TEE for it. -/
  | fail (nowMs : Nat)
  /-- The guest ends, and the guard is dropped. -/
  | complete (nowMs : Nat)
  /-- The response ends. -/
  | finish
  /-- The task or the response is dropped. -/
  | drop (nowMs : Nat)

/-- What may happen on the node. -/
inductive NodeEvent where
  | arrive (route : String) (transport : Transport)
  | act (index : Nat) (action : Action)
  /-- A heartbeat, or what other nodes do with the locks. -/
  | lock (event : LockEvent)
  /-- A drain backup begins and pauses its route. -/
  | backup (route guestPath : String)
  /-- `wait_for_drain` returns; `timedOut` after thirty seconds. -/
  | drained (index : Nat) (timedOut : Bool)
  /-- The backup has ended and resumes its route. -/
  | backedUp (index : Nat)
  | reload

namespace NodeState
variable (state : NodeState) (index : Nat) (invocation : Invocation)

def setInvocation : NodeState :=
  { state with invocations := state.invocations.set index invocation }

/-- `active_requests` of a runtime and a route. -/
def setActive (generation : Nat) (route : String) (count : Nat) : NodeState :=
  let counts := update (state.active generation) route count
  { state with active := update state.active generation counts }

/-- `fetch_add` on the counter of the invocation's runtime. -/
def count : NodeState :=
  state.setActive invocation.generation invocation.route
    (state.active invocation.generation invocation.route + 1)

/-- `fetch_sub`, when the invocation has been counted. -/
def uncount : NodeState :=
  if invocation.counted then
    state.setActive invocation.generation invocation.route
      (state.active invocation.generation invocation.route - 1)
  else state

/-- The invocation is over, and no longer active. -/
def leave : NodeState :=
  (state.uncount invocation).setInvocation index
    { invocation with standing := .over, counted := false, attached := false }

/-- `AdmissionOutcome::Pass`. -/
def pass (guard : AdmissionGuard) : NodeState :=
  state.setInvocation index { invocation with standing := .admitted guard }

/-- Drop of an `AdmissionGuard`. -/
def release (route : String) (nowMs : Nat) : AdmissionGuard → Option NodeState
  | .noOp => some state
  | .nodeSlot => some { state with held := update state.held route false }
  | .meshLock guard => (state.locks.step (.drop guard nowMs)).map fun locks => { state with locks }

section
variable (localNode : String) (policy : RoutePolicy) (index : Nat) (invocation : Invocation)
  (nowMs : Nat)

/-- `try_acquire` or one turn of `acquire_with_wait`, on the route's lock. -/
def acquireLock : Option NodeState :=
  let key := lockKey invocation.route
  (state.locks.step (.tryAcquire key localNode policy.lockTtlMs nowMs)).map fun locks =>
    if canTake (state.locks.table key) nowMs then
      { state with locks }.pass index invocation (.meshLock state.locks.guards.length)
    else if policy.onConflict = .queue then { state with locks }
    else { state with locks }.leave index invocation

/-- `check` after the pause, by the route's policy. -/
def acquire (leads : Bool) : Option NodeState :=
  match policy.mode with
  | .unrestricted => some (state.pass index invocation .noOp)
  | .nodeSingleton =>
      if state.held invocation.route then
        -- A queued invocation tries again when it is notified.
        if policy.onConflict = .queue then some state else some (state.leave index invocation)
      else some ({ state with held := update state.held invocation.route true }.pass
        index invocation .nodeSlot)
  | .meshSingleton => state.acquireLock localNode policy index invocation nowMs
  | .meshLeader =>
      some (if leads then state.pass index invocation .noOp else state.leave index invocation)
  | .meshLeaderStrict =>
      if leads then state.acquireLock localNode policy index invocation nowMs
      else some (state.leave index invocation)

end

/-- The guest starts, with what the invocation has. -/
def start (policy : RoutePolicy) (index : Nat) (invocation : Invocation) : Option NodeState :=
  match invocation.standing with
  | .admitted guard =>
      if policy.backend = .blocking ∨ policy.backend = .enarx then
        some (state.setInvocation index { invocation with standing := .executing (some guard) })
      else none
  | .begun =>
      if invocation.transport = .sse then
        some (state.setInvocation index { invocation with standing := .executing none })
      else none
  | .entered =>
      if invocation.transport.buffered then
        if policy.backend = .microvm then
          some ((state.count invocation).setInvocation index
            { invocation with standing := .executing none, counted := true })
        else none
      else if invocation.transport = .sse then none
      else some (state.setInvocation index { invocation with standing := .executing none })
  | _ => none

/-- The guest ends. What has not been dropped returns its response, which is active still. -/
def complete (guard : Option AdmissionGuard) (nowMs : Nat) : Option NodeState :=
  let after := if invocation.attached && invocation.counted then Standing.answered else .over
  let released := match guard with
    | some guard => state.release invocation.route nowMs guard
    | none => some state
  released.map (·.setInvocation index { invocation with standing := after })

/-- The task of an invocation is dropped. A job or a thread goes on with its guard; a call to a
keep ends; the counter of a microvm stays as it is. -/
def drop (policy : RoutePolicy) (index : Nat) (invocation : Invocation) (nowMs : Nat) :
    Option NodeState :=
  if invocation.attached = false then none
  else
    match invocation.standing with
    | .entered | .begun | .cleared | .answered => some (state.leave index invocation)
    | .executing guard =>
        if invocation.transport.buffered ∧ policy.backend = .enarx then
          match guard with
          | some guard => (state.release invocation.route nowMs guard).map
              (·.leave index invocation)
          | none => none
        else if invocation.transport.buffered ∧ policy.backend = .microvm then
          some (state.setInvocation index { invocation with attached := false })
        else some ((state.uncount invocation).setInvocation index
          { invocation with attached := false, counted := false })
    | .admitted _ | .over => none

/-- One action of an invocation; `none` where it is not the next one. -/
def act (localNode : String) (policy : String → RoutePolicy) (index : Nat)
    (invocation : Invocation) : Action → Option NodeState
  | .begin =>
      if invocation.standing = .entered ∧
          (invocation.transport = .sse ∨ invocation.transport.buffered ∧
            (policy invocation.route).backend ≠ .microvm) then
        some ((state.count invocation).setInvocation index
          { invocation with standing := .begun, counted := true })
      else none
  | .test =>
      if invocation.standing = .begun ∧ invocation.transport.buffered = true then
        if state.paused invocation.route then some (state.leave index invocation)
        else some (state.setInvocation index { invocation with standing := .cleared })
      else none
  | .acquire nowMs leads =>
      if invocation.standing = .cleared then
        state.acquire localNode (policy invocation.route) index invocation nowMs leads
      else none
  | .giveUp =>
      if invocation.standing = .cleared ∧ ((policy invocation.route).mode = .meshSingleton ∨
          (policy invocation.route).mode = .meshLeaderStrict) then
        some (state.leave index invocation)
      else none
  | .start => state.start (policy invocation.route) index invocation
  | .fail nowMs =>
      match invocation.standing with
      | .admitted guard =>
          if (policy invocation.route).backend = .missing then
            (state.release invocation.route nowMs guard).map (·.leave index invocation)
          else none
      | _ => none
  | .complete nowMs =>
      match invocation.standing with
      | .executing guard => state.complete index invocation guard nowMs
      | _ => none
  | .finish =>
      if invocation.standing = .answered then some (state.leave index invocation) else none
  | .drop nowMs => state.drop (policy invocation.route) index invocation nowMs

/-- Other nodes acquire and drop guards of their own; any guard may be refreshed. -/
def lock (localNode : String) (event : LockEvent) : Option NodeState :=
  let foreign : Bool := match event with
    | .tryAcquire _ holder _ _ => holder ≠ localNode
    | .heartbeat _ _ => true
    | .drop guard _ => (state.locks.guards[guard]?).all (·.holder ≠ localNode)
  if foreign then (state.locks.step event).map fun locks => { state with locks } else none

/-- `pause_admission`, before the wait. -/
def backup (route guestPath : String) : NodeState :=
  { state with
    paused := update state.paused route true
    backups := state.backups ++ [{ route, guestPath, stage := .draining }] }

/-- `wait_for_drain` reads the counter of the current runtime. -/
def drained (timedOut : Bool) : Option NodeState :=
  match state.backups[index]? with
  | some backup =>
      if backup.stage = .draining ∧
          (timedOut ∨ state.active state.generation backup.route = 0) then
        some { state with backups := state.backups.set index { backup with stage := .reading } }
      else none
  | none => none

/-- `resume_admission`, after the backup. -/
def backedUp : Option NodeState :=
  match state.backups[index]? with
  | some backup =>
      if backup.stage = .reading then
        some { state with
          paused := update state.paused backup.route false
          backups := state.backups.set index { backup with stage := .finished } }
      else none
  | none => none

end NodeState

def nodeMachine (localNode : String) (policy : String → RoutePolicy) :
    Machine NodeState NodeEvent where
  step state
    | .arrive route transport =>
        some { state with
          invocations := state.invocations ++ [{
            route, transport, generation := state.generation,
            counted := false, attached := true, standing := .entered }] }
    | .act index action =>
        state.invocations[index]?.bind fun invocation =>
          state.act localNode policy index invocation action
    | .lock event => state.lock localNode event
    | .backup route guestPath => some (state.backup route guestPath)
    | .drained index timedOut => state.drained index timedOut
    | .backedUp index => state.backedUp index
    | .reload => some { state with generation := state.generation + 1 }

def NodeState.initial : NodeState where
  paused := fun _ => false
  held := fun _ => false
  locks := .initial
  generation := 0
  active := fun _ _ => 0
  invocations := []
  backups := []

/-! ## Requests from arrival to start -/

/-- A route of the given mode whose conflicts are rejected. -/
def restricted (mode : ConcurrencyMode) (backend : Backend) : RoutePolicy :=
  { mode, onConflict := .reject, lockTtlMs := 30000, backend }

/-- An HTTP request goes through `check` and starts its guest. -/
def checkedStart (index : Nat) (route : String) : List NodeEvent :=
  [.arrive route .http, .act index .begin, .act index .test, .act index (.acquire 0 true),
    .act index .start]

/-- A request of a transport that does not ask `check` starts its guest. -/
def uncheckedStart (index : Nat) (route : String) : Transport → List NodeEvent
  | .sse => [.arrive route .sse, .act index .begin, .act index .start]
  | transport => [.arrive route transport, .act index .start]

/-! ## What an invocation can do -/

theorem NodeState.uncount_eq (state : NodeState) (invocation : Invocation) :
    ∃ active, state.uncount invocation = { state with active } := by
  unfold NodeState.uncount
  split <;> exact ⟨_, rfl⟩

theorem NodeState.release_eq {state freed : NodeState} {route : String} {nowMs : Nat}
    {guard : AdmissionGuard} (released : state.release route nowMs guard = some freed) :
    ∃ held locks, freed = { state with held, locks } := by
  cases guard with
  | noOp | nodeSlot =>
    cases released
    exact ⟨_, _, rfl⟩
  | meshLock =>
    obtain ⟨-, -, rfl⟩ := Option.map_eq_some_iff.mp released
    exact ⟨_, _, rfl⟩

/-- The invocation has no guard, and no guest executes for it. -/
def Standing.Quiet : Standing → Prop
  | .entered | .begun | .cleared | .answered => True
  | _ => False

/-- The mode works with the route's distributed lock. -/
def ConcurrencyMode.locks : ConcurrencyMode → Bool
  | .meshSingleton | .meshLeaderStrict => true
  | _ => false

namespace NodeState

/-- An action leaves the locks alone, or tries to acquire the route's. -/
def TriesLock (localNode : String) (policy : RoutePolicy) (state : NodeState) (route : String)
    (action : Action) (locks : LockState) : Prop :=
  locks = state.locks ∨ policy.mode.locks ∧ ∃ nowMs leads, action = .acquire nowMs leads ∧
    state.locks.step (.tryAcquire (lockKey route) localNode policy.lockTtlMs nowMs) = some locks

/-- What a step of an invocation does. -/
inductive Acts (localNode : String) (policy : RoutePolicy) (state : NodeState) (index : Nat)
    (invocation : Invocation) (action : Action) : NodeState → Prop
  | begin (stands : invocation.standing = .entered) :
      Acts localNode policy state index invocation action ((state.count invocation).setInvocation
        index { invocation with standing := .begun, counted := true })
  | clear (stands : invocation.standing = .begun)
      (unpaused : state.paused invocation.route = false) :
      Acts localNode policy state index invocation action
        (state.setInvocation index { invocation with standing := .cleared })
  | wait {locks} (stands : invocation.standing = .cleared)
      (tries : TriesLock localNode policy state invocation.route action locks) :
      Acts localNode policy state index invocation action { state with locks }
  | leave {locks} (quiet : invocation.standing.Quiet)
      (tries : TriesLock localNode policy state invocation.route action locks) :
      Acts localNode policy state index invocation action
        ({ state with locks }.leave index invocation)
  | passFree (stands : invocation.standing = .cleared)
      (mode : policy.mode = .unrestricted ∨ policy.mode = .meshLeader) :
      Acts localNode policy state index invocation action (state.pass index invocation .noOp)
  | passSlot (stands : invocation.standing = .cleared) (mode : policy.mode = .nodeSingleton)
      (free : state.held invocation.route = false) :
      Acts localNode policy state index invocation action
        ({ state with held := update state.held invocation.route true }.pass index
          invocation .nodeSlot)
  | passLock {locks nowMs leads}
      (stands : invocation.standing = .cleared) (mode : policy.mode.locks)
      (asked : action = .acquire nowMs leads)
      (stepped : state.locks.step (.tryAcquire (lockKey invocation.route) localNode
        policy.lockTtlMs nowMs) = some locks)
      (free : canTake (state.locks.table (lockKey invocation.route)) nowMs) :
      Acts localNode policy state index invocation action
        ({ state with locks }.pass index invocation (.meshLock state.locks.guards.length))
  | startGuarded {guard} (stands : invocation.standing = .admitted guard) :
      Acts localNode policy state index invocation action
        (state.setInvocation index { invocation with standing := .executing (some guard) })
  | startStream (asked : action = .start) (stands : invocation.standing = .begun)
      (unchecked : invocation.transport.buffered = false) :
      Acts localNode policy state index invocation action
        (state.setInvocation index { invocation with standing := .executing none })
  | startMicrovm (asked : action = .start) (stands : invocation.standing = .entered)
      (unchecked : policy.backend = .microvm) :
      Acts localNode policy state index invocation action ((state.count invocation).setInvocation
        index { invocation with standing := .executing none, counted := true })
  | startPlain (asked : action = .start) (stands : invocation.standing = .entered)
      (unchecked : invocation.transport.buffered = false) :
      Acts localNode policy state index invocation action
        (state.setInvocation index { invocation with standing := .executing none })
  | abort {guard nowMs freed}
      (held : invocation.guard = some guard)
      (released : state.release invocation.route nowMs guard = some freed) :
      Acts localNode policy state index invocation action (freed.leave index invocation)
  | complete {guard nowMs freed after}
      (stands : invocation.standing = .executing (some guard))
      (released : state.release invocation.route nowMs guard = some freed)
      (ends : after = .answered ∨ after = .over) :
      Acts localNode policy state index invocation action
        (freed.setInvocation index { invocation with standing := after })
  | completeBare {after} (stands : invocation.standing = .executing none)
      (ends : after = .answered ∨ after = .over) :
      Acts localNode policy state index invocation action
        (state.setInvocation index { invocation with standing := after })
  | detachMicrovm {guard} (stands : invocation.standing = .executing guard) :
      Acts localNode policy state index invocation action
        (state.setInvocation index { invocation with attached := false })
  | detach {guard} (stands : invocation.standing = .executing guard) :
      Acts localNode policy state index invocation action ((state.uncount invocation).setInvocation
        index { invocation with attached := false, counted := false })

variable {localNode : String} {policy : RoutePolicy} {state next : NodeState} {index nowMs : Nat}
  {invocation : Invocation} {leads : Bool} {action : Action}

private theorem acts_of_acquireLock (stands : invocation.standing = .cleared)
    (mode : policy.mode.locks)
    (acquired : state.acquireLock localNode policy index invocation nowMs = some next) :
    Acts localNode policy state index invocation (.acquire nowMs leads) next := by
  obtain ⟨locks, stepped, rfl⟩ := Option.map_eq_some_iff.mp acquired
  have tries : TriesLock localNode policy state invocation.route (.acquire nowMs leads) locks :=
    .inr ⟨mode, nowMs, leads, rfl, stepped⟩
  split
  · next free => exact .passLock stands mode rfl stepped free
  · split
    · exact .wait stands tries
    · exact .leave (by rw [stands]; trivial) tries

private theorem acts_of_acquire (stands : invocation.standing = .cleared)
    (acquired : state.acquire localNode policy index invocation nowMs leads = some next) :
    Acts localNode policy state index invocation (.acquire nowMs leads) next := by
  have quiet : invocation.standing.Quiet := by rw [stands]; trivial
  unfold acquire at acquired
  cases mode : policy.mode with
  | unrestricted =>
    rw [mode] at acquired
    cases acquired
    exact .passFree stands (.inl mode)
  | nodeSingleton =>
    rw [mode] at acquired
    dsimp only at acquired
    split at acquired
    · split at acquired
      · cases acquired
        exact .wait stands (.inl rfl)
      · cases acquired
        exact .leave quiet (.inl rfl)
    · next free =>
      cases acquired
      exact .passSlot stands mode (eq_false_of_ne_true free)
  | meshSingleton =>
    rw [mode] at acquired
    exact acts_of_acquireLock stands (by rw [mode]; rfl) acquired
  | meshLeader =>
    rw [mode] at acquired
    cases acquired
    split
    · exact .passFree stands (.inr mode)
    · exact .leave quiet (.inl rfl)
  | meshLeaderStrict =>
    rw [mode] at acquired
    dsimp only at acquired
    split at acquired
    · exact acts_of_acquireLock stands (by rw [mode]; rfl) acquired
    · cases acquired
      exact .leave quiet (.inl rfl)

private theorem acts_of_start (started : state.start policy index invocation = some next) :
    Acts localNode policy state index invocation .start next := by
  unfold start at started
  split at started
  · next _ stands =>
    obtain ⟨-, rfl⟩ := of_guard started
    exact .startGuarded stands
  · next stands =>
    obtain ⟨stream, rfl⟩ := of_guard started
    exact .startStream rfl stands (by rw [stream]; rfl)
  · next stands =>
    split at started
    · obtain ⟨microvm, rfl⟩ := of_guard started
      exact .startMicrovm rfl stands microvm
    · next unbuffered =>
      obtain ⟨-, started⟩ := Option.ite_none_left_eq_some.mp started
      cases started
      exact .startPlain rfl stands (eq_false_of_ne_true unbuffered)
  · cases started

private theorem acts_of_complete {guard : Option AdmissionGuard}
    (stands : invocation.standing = .executing guard)
    (completed : state.complete index invocation guard nowMs = some next) :
    Acts localNode policy state index invocation action next := by
  obtain ⟨_, released, rfl⟩ := Option.map_eq_some_iff.mp completed
  have ends : (if invocation.attached && invocation.counted then Standing.answered else .over) =
      .answered ∨ (if invocation.attached && invocation.counted then Standing.answered else .over) =
        .over := by
    split
    · exact .inl rfl
    · exact .inr rfl
  cases guard with
  | some => exact .complete stands released ends
  | none =>
    cases released
    exact .completeBare stands ends

private theorem acts_of_drop (dropped : state.drop policy index invocation nowMs = some next) :
    Acts localNode policy state index invocation action next := by
  obtain ⟨-, dropped⟩ := Option.ite_none_left_eq_some.mp dropped
  split at dropped
  iterate 4
    next stands =>
      cases dropped
      exact .leave (by rw [stands]; trivial) (.inl rfl)
  · next guard stands =>
    split at dropped
    · cases guard with
      | none => cases dropped
      | some _ =>
        obtain ⟨_, released, rfl⟩ := Option.map_eq_some_iff.mp dropped
        exact .abort (by rw [Invocation.guard, stands]) released
    · split at dropped
      · cases dropped
        exact .detachMicrovm stands
      · cases dropped
        exact .detach stands
  · cases dropped
  · cases dropped

theorem acts_of_act {policy : String → RoutePolicy}
    (acted : state.act localNode policy index invocation action = some next) :
    Acts localNode (policy invocation.route) state index invocation action next := by
  unfold act at acted
  cases action with
  | begin =>
    obtain ⟨⟨stands, -⟩, rfl⟩ := of_guard acted
    exact .begin stands
  | test =>
    obtain ⟨⟨stands, -⟩, acted⟩ := Option.ite_none_right_eq_some.mp acted
    split at acted
    · cases acted
      exact .leave (by rw [stands]; trivial) (.inl rfl)
    · next unpaused =>
      cases acted
      exact .clear stands (eq_false_of_ne_true unpaused)
  | acquire =>
    obtain ⟨stands, acted⟩ := Option.ite_none_right_eq_some.mp acted
    exact acts_of_acquire stands acted
  | giveUp =>
    obtain ⟨⟨stands, -⟩, rfl⟩ := of_guard acted
    exact .leave (by rw [stands]; trivial) (.inl rfl)
  | start => exact acts_of_start acted
  | fail =>
    dsimp only at acted
    split at acted
    · next guard stands =>
      obtain ⟨-, acted⟩ := Option.ite_none_right_eq_some.mp acted
      obtain ⟨_, released, rfl⟩ := Option.map_eq_some_iff.mp acted
      exact .abort (by rw [Invocation.guard, stands]) released
    · cases acted
  | complete =>
    dsimp only at acted
    split at acted
    · next _ stands => exact acts_of_complete stands acted
    · cases acted
  | finish =>
    obtain ⟨stands, rfl⟩ := of_guard acted
    exact .leave (by rw [stands]; trivial) (.inl rfl)
  | drop => exact acts_of_drop acted

end NodeState

end TachyonMesh.Admission
