import TachyonMesh.Foundation.Machine
import TachyonMesh.Foundation.Slots
import TachyonMesh.Foundation.Tally

/-! # Route permits, active requests and volume leases

Every request of a route takes a permit of the route's semaphore, the leases of
its hibernation-capable volumes and, except for websockets, a unit of the
`active_requests` counter, and then starts its guest as a job that runs to
completion on its own. On the buffered path
(`execute_route_request_with_acquired_permit`) the async task owns all of them while the
job runs. The streaming and websocket handlers move the permit and the leases into the
guest's thread; the streaming handler keeps the counter in the task and then in the
response body, the websocket handler never counts.

A task, and later its response body, may be dropped at any await point, which releases
what it owns and detaches the job.
-/

namespace TachyonMesh.Host
open Foundation

/-- How a request runs its guest: a `spawn_blocking` job (plain or in the local
enclave), a call to an Enarx keep, a microvm agent, or a thread of the streaming or
websocket handler. -/
inductive GuestBackend where
  | blocking
  | enarx
  | microvm
  | streaming
  | websocket
deriving DecidableEq

/-- The buffered path takes its permit before the volume leases, the two thread
handlers after them. -/
def GuestBackend.permitFirst : GuestBackend → Bool
  | .blocking | .enarx | .microvm => true
  | .streaming | .websocket => false

/-- What one owner holds: the semaphore permit, leases of the first `leases`
hibernation volumes of the route, and a unit of `active_requests`. -/
structure Holding where
  permit : Bool
  leases : Nat
  active : Bool

def Holding.none : Holding := { permit := false, leases := 0, active := false }

/-- The life of a guest job. Once queued it runs to completion on its own. -/
inductive GuestJob where
  | absent
  | queued
  | executing
  | done
deriving DecidableEq

/-- The job has been handed over and has not completed. -/
def GuestJob.Unfinished (job : GuestJob) : Prop := job = .queued ∨ job = .executing
deriving Decidable

/-- Where a request's task is: collecting its resources, waiting for the started
guest, replaced by the response body it returned, or gone. -/
inductive Stage where
  | opening
  | running
  | responding
  | ended
deriving DecidableEq

/-- A request: `frame` is what its task or response body owns, `thread` what was
moved into the guest's thread, `orphaned` that its drop left a unit of `active_requests`
counted which nothing owns any more. -/
structure Request where
  backend : GuestBackend
  stage : Stage
  frame : Holding
  job : GuestJob
  thread : Holding
  orphaned : Bool

/-- A request that has just been dispatched to the route. -/
def Request.fresh (backend : GuestBackend) : Request :=
  { backend, stage := .opening, frame := .none, job := .absent, thread := .none,
    orphaned := false }

/-- A step of a request. -/
inductive Action where
  /-- `acquire_route_permit` or a successful `try_acquire`. -/
  | acquirePermit
  /-- One `ManagedVolume::acquire` of `acquire_route_volumes`. -/
  | leaseVolume
  /-- `begin_request`. -/
  | beginRequest
  /-- The guest is handed over to its job. -/
  | start
  /-- The queued job starts executing. -/
  | run
  /-- The job completes. -/
  | complete
  /-- The task returns its response. -/
  | respond
  /-- The task returns an error. -/
  | fail
  /-- The task is dropped, or its response body ends or is dropped. -/
  | drop

namespace Request

/-- The resources of a started guest: the thread handlers move the permit and the
leases into the thread, the microvm branch counts the request by hand. -/
def started (request : Request) : Request :=
  match request.backend with
  | .streaming | .websocket =>
      { request with
        stage := .running, job := .queued,
        frame := { Holding.none with active := request.frame.active },
        thread := { request.frame with active := false } }
  | .microvm =>
      { request with
        stage := .running, job := .queued, frame := { request.frame with active := true } }
  | .blocking | .enarx => { request with stage := .running, job := .queued }

/-- The request once it returned its response: the buffered path releases the
permit and the leases with its task and keeps the count in the response guard. -/
def responded (request : Request) : Request :=
  if request.backend.permitFirst then
    { request with
      stage := .responding, frame := { Holding.none with active := request.frame.active } }
  else { request with stage := .responding }

/-- Whether a drop leaves the request counted: no guard holds the unit that the microvm
branch added by hand, and a dropped task never reaches the `fetch_sub` of its error
branch. -/
def leaks (request : Request) : Bool :=
  request.backend = .microvm ∧ request.stage = .running ∧ request.frame.active

/-- One action of a request, over a route with `volumes` hibernation volumes;
`none` where the code cannot take it. -/
def act (volumes : Nat) (request : Request) : Action → Option Request
  | .acquirePermit =>
      if request.stage = .opening ∧ request.frame.permit = false ∧
          (request.backend.permitFirst = false → request.frame.leases = volumes) ∧
          (request.backend = .streaming → request.frame.active) then
        some { request with frame := { request.frame with permit := true } }
      else none
  | .leaseVolume =>
      if request.stage = .opening ∧ request.frame.leases < volumes ∧
          request.frame.permit = request.backend.permitFirst then
        some { request with frame := { request.frame with leases := request.frame.leases + 1 } }
      else none
  | .beginRequest =>
      if request.stage = .opening ∧ request.frame.leases = volumes ∧
          request.frame.active = false ∧ request.frame.permit = request.backend.permitFirst ∧
          request.backend ≠ .microvm ∧ request.backend ≠ .websocket then
        some { request with frame := { request.frame with active := true } }
      else none
  | .start =>
      if request.stage = .opening ∧ request.frame.permit ∧
          request.frame.leases = volumes ∧
          request.frame.active =
            decide (request.backend ≠ .microvm ∧ request.backend ≠ .websocket) then
        some request.started
      else none
  | .run => if request.job = .queued then some { request with job := .executing } else none
  | .complete =>
      if request.job = .executing then some { request with job := .done, thread := .none }
      else none
  | .respond =>
      if request.stage = .running ∧ request.backend ≠ .websocket ∧
          (request.backend.permitFirst → request.job = .done) then
        some request.responded
      else none
  | .fail =>
      if request.stage = .opening ∨
          (request.stage = .running ∧ (request.backend = .blocking → request.job = .done)) then
        some { request with stage := .ended, frame := .none }
      else none
  | .drop =>
      if request.stage ≠ .ended then
        some { request with stage := .ended, frame := .none, orphaned := request.leaks }
      else none

end Request

open Request

/-- The semaphore, the `active_requests` counter and the lease counts of the route's
hibernation volumes, with every request of the route. -/
structure RouteState where
  available : Nat
  activeRequests : Nat
  activeLeases : Nat → Nat
  requests : List Request

/-- A request arrives, or the request at an index takes an action. -/
inductive RouteEvent where
  | arrive (backend : GuestBackend)
  | act (index : Nat) (action : Action)

namespace RouteState

/-- `RouteExecutionControl::new`: all permits available, nothing counted. -/
def initial (maxConcurrency : Nat) : RouteState :=
  { available := maxConcurrency, activeRequests := 0, activeLeases := fun _ => 0, requests := [] }

/-- Drop an owner: return its permit, uncount its request, release its leases. -/
def release (state : RouteState) (holding : Holding) : RouteState :=
  { state with
    available := state.available + holding.permit.toNat
    activeRequests := state.activeRequests - holding.active.toNat
    activeLeases := fun volume =>
      state.activeLeases volume - if volume < holding.leases then 1 else 0 }

/-- The effect of an action on the shared counters. -/
def charge (state : RouteState) (request : Request) : Action → Option RouteState
  | .acquirePermit =>
      if 0 < state.available then some { state with available := state.available - 1 } else none
  | .leaseVolume =>
      some { state with
        activeLeases := Function.update state.activeLeases request.frame.leases
          (state.activeLeases request.frame.leases + 1) }
  | .beginRequest => some { state with activeRequests := state.activeRequests + 1 }
  | .start =>
      if request.backend = .microvm then
        some { state with activeRequests := state.activeRequests + 1 }
      else some state
  | .run => some state
  | .complete => some (state.release request.thread)
  | .respond =>
      if request.backend.permitFirst then
        some (state.release { request.frame with active := false })
      else some state
  | .fail => some (state.release request.frame)
  | .drop =>
      some (state.release { request.frame with
        active := request.frame.active && !request.leaks })

/-- One step of the route over `volumes` hibernation volumes. -/
def step (volumes : Nat) (state : RouteState) : RouteEvent → Option RouteState
  | .arrive backend => some { state with requests := state.requests ++ [fresh backend] }
  | .act index action => do
      let request ← state.requests[index]?
      let moved ← request.act volumes action
      let charged ← state.charge request action
      some { charged with requests := state.requests.set index moved }

def executing (state : RouteState) : Nat :=
  tally (fun request => if request.job = .executing then 1 else 0) state.requests

end RouteState

def routeMachine (volumes : Nat) : Machine RouteState RouteEvent where
  step := RouteState.step volumes

/-! ## Accounting -/

namespace Request

def permits (request : Request) : Nat :=
  request.frame.permit.toNat + request.thread.permit.toNat

/-- Units of `active_requests` counted for a request: those its owners hold, and the one
its drop has orphaned. -/
def actives (request : Request) : Nat :=
  request.frame.active.toNat + request.thread.active.toNat + request.orphaned.toNat

def leasesAt (volume : Nat) (request : Request) : Nat :=
  (if volume < request.frame.leases then 1 else 0) +
    if volume < request.thread.leases then 1 else 0

/-- A request that is still opening has no job and no thread, and only the drop of a
microvm task orphans a unit. -/
structure Opened (request : Request) : Prop where
  unstarted : request.stage = .opening → request.job = .absent ∧ request.thread = .none
  orphaned : request.orphaned → request.backend = .microvm ∧ request.stage = .ended

private theorem opened_fresh (backend : GuestBackend) : (fresh backend).Opened :=
  ⟨fun _ => ⟨rfl, rfl⟩, nofun⟩

private theorem Opened.act {volumes : Nat} {request moved : Request} {action : Action}
    (opened : request.Opened) (acted : request.act volumes action = some moved) :
    moved.Opened := by
  obtain ⟨unstarted, orphaned⟩ := opened
  cases action <;> constructor <;> grind [Request.act, started, responded, leaks]

end Request

/-- Moving a request from `old` to `new` changes every counter by the difference of
what its owners hold. -/
structure Balanced (state charged : RouteState) (old new : Request) : Prop where
  requests : charged.requests = state.requests
  permits : charged.available + new.permits = state.available + old.permits
  actives : old.actives ≤ state.activeRequests →
    charged.activeRequests + old.actives = state.activeRequests + new.actives
  leases : ∀ volume, old.leasesAt volume ≤ state.activeLeases volume →
    charged.activeLeases volume + old.leasesAt volume =
      state.activeLeases volume + new.leasesAt volume

namespace RouteState
variable {state next : RouteState} {volumes : Nat} {event : RouteEvent}

private theorem balanced_release {old new : Request} {holding : Holding}
    (permits : new.permits + holding.permit.toNat = old.permits)
    (actives : new.actives + holding.active.toNat = old.actives)
    (leases : ∀ volume, new.leasesAt volume + (if volume < holding.leases then 1 else 0) =
      old.leasesAt volume) :
    Balanced state (state.release holding) old new := by
  refine ⟨rfl, ?_, ?_, ?_⟩
  · simp only [release]
    omega
  · intro counted
    simp only [release]
    omega
  intro volume counted
  have kept := leases volume
  simp only [release]
  omega

/-- Every action charges the counters for what it moves. -/
theorem balanced_of_act {charged : RouteState} {request moved : Request} {action : Action}
    (opened : request.Opened) (acted : request.act volumes action = some moved)
    (paid : state.charge request action = some charged) : Balanced state charged request moved := by
  cases action with
    simp only [act, Option.ite_none_right_eq_some, Option.some.injEq] at acted
  | acquirePermit =>
    obtain ⟨⟨_, unheld, _⟩, rfl⟩ := acted
    obtain ⟨_, rfl⟩ := of_guard paid
    refine ⟨rfl, ?_, fun _ => rfl, fun _ _ => rfl⟩
    simp only [permits, unheld, Bool.toNat_true, Bool.toNat_false]
    omega
  | leaseVolume =>
    obtain ⟨_, rfl⟩ := acted
    cases paid
    refine ⟨rfl, rfl, fun _ => rfl, ?_⟩
    intro volume _
    by_cases same : volume = request.frame.leases
    · subst same
      simp only [leasesAt, Function.update_self, Nat.lt_irrefl, Nat.lt_add_one, ↓reduceIte]
      omega
    · have other : volume < request.frame.leases + 1 ↔ volume < request.frame.leases := by
        omega
      simp [leasesAt, Function.update_of_ne same, other]
  | beginRequest =>
    obtain ⟨⟨_, _, uncounted, _⟩, rfl⟩ := acted
    cases paid
    refine ⟨rfl, rfl, ?_, fun _ _ => rfl⟩
    intro _
    simp only [actives, uncounted, Bool.toNat_true, Bool.toNat_false]
    omega
  | start =>
    obtain ⟨⟨opening, _, _, counted⟩, rfl⟩ := acted
    have empty := (opened.unstarted opening).2
    cases backend : request.backend <;>
      simp only [charge, backend, reduceCtorEq, ↓reduceIte, Option.some.injEq] at paid <;>
      subst paid <;>
      refine ⟨rfl, ?_, ?_, ?_⟩ <;>
      simp [started, backend, permits, actives, leasesAt, empty, Holding.none] at counted ⊢
    -- only the microvm branch counts here
    rw [counted, Bool.toNat_false]
    omega
  | run =>
    obtain ⟨_, rfl⟩ := acted
    cases paid
    exact ⟨rfl, rfl, fun _ => rfl, fun _ _ => rfl⟩
  | complete =>
    obtain ⟨_, rfl⟩ := acted
    cases paid
    refine balanced_release ?_ ?_ ?_ <;>
      simp [permits, actives, leasesAt, Holding.none, Nat.add_right_comm]
  | respond =>
    obtain ⟨_, rfl⟩ := acted
    cases first : request.backend.permitFirst with
    | false =>
      simp only [charge, first, Bool.false_eq_true, ↓reduceIte, Option.some.injEq] at paid
      subst paid
      simp only [responded, first, Bool.false_eq_true, ↓reduceIte]
      exact ⟨rfl, rfl, fun _ => rfl, fun _ _ => rfl⟩
    | true =>
      simp only [charge, first, ↓reduceIte, Option.some.injEq] at paid
      subst paid
      simp only [responded, first, ↓reduceIte]
      refine balanced_release ?_ ?_ ?_ <;>
        simp [permits, actives, leasesAt, Holding.none, Nat.add_comm]
  | fail =>
    obtain ⟨_, rfl⟩ := acted
    cases paid
    refine balanced_release ?_ ?_ ?_ <;>
      simp [permits, actives, leasesAt, Holding.none, Nat.add_comm, Nat.add_left_comm]
  | drop =>
    obtain ⟨unended, rfl⟩ := acted
    cases paid
    -- a unit moves from the frame to the orphans, and there was none before
    have owned : request.orphaned = false :=
      Bool.eq_false_iff.mpr fun orphaned => unended (opened.orphaned orphaned).2
    refine balanced_release ?_ ?_ ?_
    · simp [permits, Holding.none, Nat.add_comm]
    · cases active : request.frame.active <;> cases leaks : request.leaks <;>
        simp [actives, owned, active, Holding.none, Nat.add_comm]
      simp [Request.leaks, active] at leaks
    · simp [leasesAt, Holding.none, Nat.add_comm]

/-- The counters are the tallies of what the owners hold and of what drops orphaned. -/
structure Accounted (maxConcurrency : Nat) (state : RouteState) : Prop where
  opened : ∀ request ∈ state.requests, request.Opened
  permits : state.available + tally permits state.requests = maxConcurrency
  actives : state.activeRequests = tally actives state.requests
  leases : ∀ volume, state.activeLeases volume = tally (leasesAt volume) state.requests

private theorem accounted_initial (maxConcurrency : Nat) :
    (initial maxConcurrency).Accounted maxConcurrency where
  opened := by simp [initial]
  permits := by simp [initial]
  actives := by simp [initial]
  leases := by simp [initial]

/-- An enabled step is an arrival, or an action of one request charged to the
counters. -/
theorem step_cases (stepped : state.step volumes event = some next) :
    (∃ backend, event = .arrive backend ∧
        next = { state with requests := state.requests ++ [fresh backend] }) ∨
      ∃ index action request moved charged, event = .act index action ∧
        state.requests[index]? = some request ∧ request.act volumes action = some moved ∧
        state.charge request action = some charged ∧
        next = { charged with requests := state.requests.set index moved } := by
  cases event with
  | arrive backend =>
    simp only [step, Option.some.injEq] at stepped
    exact .inl ⟨backend, rfl, stepped.symm⟩
  | act index action =>
    simp only [step, bind, Option.bind_eq_some_iff, Option.some.injEq] at stepped
    obtain ⟨request, found, moved, acted, charged, paid, rfl⟩ := stepped
    exact .inr ⟨index, action, request, moved, charged, rfl, found, acted, paid, rfl⟩

/-- Accounting holds after every step of every run. -/
theorem Accounted.step {maxConcurrency : Nat} (valid : state.Accounted maxConcurrency)
    (stepped : state.step volumes event = some next) : next.Accounted maxConcurrency := by
  rcases step_cases stepped with
    ⟨backend, rfl, rfl⟩ | ⟨index, action, request, moved, charged, rfl, found, acted, paid, rfl⟩
  · refine ⟨?_, ?_, ?_, ?_⟩
    · exact forall_mem_push valid.opened (opened_fresh backend)
    · have counted := valid.permits
      simpa [Request.permits, Request.fresh, Holding.none] using counted
    · have counted := valid.actives
      simpa [Request.actives, Request.fresh, Holding.none] using counted
    · intro volume
      have counted := valid.leases volume
      simpa [leasesAt, fresh, Holding.none] using counted
  · have opened := valid.opened request (List.mem_of_getElem? found)
    have balanced := balanced_of_act opened acted paid
    refine ⟨?_, ?_, ?_, ?_⟩
    · exact forall_mem_set valid.opened (opened.act acted)
    · have total := tally_set Request.permits moved found
      have before := valid.permits
      have moved_permits := balanced.permits
      simp only
      omega
    · have total := tally_set Request.actives moved found
      have part : request.actives ≤ state.activeRequests := valid.actives ▸ measure_le_tally found
      have charged_actives := balanced.actives part
      have before := valid.actives
      simp only
      omega
    · intro volume
      have total := tally_set (leasesAt volume) moved found
      have part : request.leasesAt volume ≤ state.activeLeases volume :=
        valid.leases volume ▸ measure_le_tally found
      have charged_leases := balanced.leases volume part
      have before := valid.leases volume
      simp only
      omega

end RouteState

/-! ## The bound on executing guests -/

namespace Request

/-- An owner of the request holds its permit, all its leases and its count. -/
structure Holds (volumes : Nat) (request : Request) : Prop where
  permit : request.frame.permit ∨ request.thread.permit
  leases : request.frame.leases = volumes ∨ request.thread.leases = volumes
  active : request.frame.active

/-- The guest is attached: as long as its job is unfinished, its resources are held. -/
def Attached (volumes : Nat) (request : Request) : Prop :=
  request.job.Unfinished → request.Holds volumes

/-- The condition on one action: a websocket guest is not started, because no one
counts it, and neither a failing nor a dropped task or response body leaves an
unfinished job behind. -/
def Detachless (request : Request) : Action → Prop
  | .start => request.backend ≠ .websocket
  | .fail | .drop => ¬request.job.Unfinished
  | _ => True

instance (request : Request) (action : Action) : Decidable (request.Detachless action) := by
  unfold Detachless
  split <;> infer_instance

private theorem attached_fresh (volumes : Nat) (backend : GuestBackend) :
    (fresh backend).Attached volumes := by
  rintro (queued | executing)
  · cases queued
  · cases executing

private theorem Attached.act {volumes : Nat} {request moved : Request} {action : Action}
    (opened : request.Opened) (attached : request.Attached volumes)
    (kept : request.Detachless action) (acted : request.act volumes action = some moved) :
    moved.Attached volumes := by
  intro unfinished
  cases action with
    simp only [Request.act, Option.ite_none_right_eq_some, Option.some.injEq] at acted
  | acquirePermit | leaseVolume | beginRequest =>
    -- an opening request has no job yet
    obtain ⟨guarded, rfl⟩ := acted
    have absent := (opened.unstarted guarded.1).1
    rcases unfinished with queued | executing
    · cases absent.symm.trans queued
    · cases absent.symm.trans executing
  | start =>
    obtain ⟨⟨_, permitted, leased, counted⟩, rfl⟩ := acted
    change request.backend ≠ .websocket at kept
    cases backend : request.backend <;> simp [backend] at counted kept <;>
      constructor <;> simp [started, backend, permitted, leased, counted]
  | run =>
    obtain ⟨queued, rfl⟩ := acted
    have held := attached (.inl queued)
    exact ⟨held.permit, held.leases, held.active⟩
  | complete =>
    obtain ⟨_, rfl⟩ := acted
    rcases unfinished with queued | executing
    · cases queued
    · cases executing
  | respond =>
    obtain ⟨⟨_, _, completed⟩, rfl⟩ := acted
    cases first : request.backend.permitFirst with
    | false =>
      simp only [responded, first, Bool.false_eq_true, ↓reduceIte] at unfinished ⊢
      have held := attached unfinished
      exact ⟨held.permit, held.leases, held.active⟩
    | true =>
      have done := completed first
      simp only [responded, first, ↓reduceIte, done] at unfinished
      rcases unfinished with queued | executing
      · cases queued
      · cases executing
  | fail | drop =>
    obtain ⟨_, rfl⟩ := acted
    exact absurd unfinished kept

end Request

namespace RouteState

/-- No action of the step detaches an unfinished guest. -/
def Detachless (state : RouteState) : RouteEvent → Prop
  | .arrive _ => True
  | .act index action => ∀ request ∈ state.requests[index]?, request.Detachless action

instance (state : RouteState) (event : RouteEvent) : Decidable (state.Detachless event) := by
  unfold RouteState.Detachless
  split <;> infer_instance

/-- At most `maxConcurrency` guests execute, all of them counted and with their volumes
leased. -/
structure Bounded (maxConcurrency volumes : Nat) (state : RouteState) : Prop where
  executing : state.executing ≤ maxConcurrency
  active : state.executing ≤ state.activeRequests
  leased : ∀ volume < volumes, state.executing ≤ state.activeLeases volume
  held : ∀ request ∈ state.requests, request.job = .executing → request.Holds volumes

variable {maxConcurrency volumes : Nat} {state : RouteState}

/-- Counters that account for the owners bound the attached guests. -/
theorem Accounted.bounded (valid : state.Accounted maxConcurrency)
    (attached : ∀ request ∈ state.requests, request.Attached volumes) :
    state.Bounded maxConcurrency volumes := by
  have each (measure : Request → Nat)
      (positive : ∀ request ∈ state.requests, request.Holds volumes → 1 ≤ measure request) :
      state.executing ≤ tally measure state.requests := by
    apply tally_le_tally
    intro request member
    split
    · next running => exact positive request member (attached request member (.inr running))
    · exact Nat.zero_le _
  refine ⟨?_, ?_, ?_, ?_⟩
  · have bound : state.executing ≤ tally Request.permits state.requests := by
      apply each
      intro request _ held
      rcases held.permit with permit | permit <;> simp [Request.permits, permit]
    have counted := valid.permits
    omega
  · rw [valid.actives]
    apply each
    intro request _ held
    simp only [Request.actives, held.active, Bool.toNat_true]
    omega
  · intro volume within
    rw [valid.leases volume]
    apply each
    intro request _ held
    rcases held.leases with leases | leases <;> simp [leasesAt, leases, within]
  · intro request member running
    exact attached request member (.inr running)

/-- The counters account for the owners and every guest is attached. -/
structure AllAttached (maxConcurrency volumes : Nat) (state : RouteState) : Prop where
  accounted : state.Accounted maxConcurrency
  attached : ∀ request ∈ state.requests, request.Attached volumes

private theorem allAttached_initial (maxConcurrency volumes : Nat) :
    (initial maxConcurrency).AllAttached maxConcurrency volumes where
  accounted := accounted_initial maxConcurrency
  attached := by simp [initial]

private theorem AllAttached.step {next : RouteState} {event : RouteEvent}
    (valid : state.AllAttached maxConcurrency volumes) (kept : state.Detachless event)
    (stepped : state.step volumes event = some next) : next.AllAttached maxConcurrency volumes := by
  refine ⟨valid.accounted.step stepped, ?_⟩
  rcases step_cases stepped with
    ⟨backend, rfl, rfl⟩ | ⟨index, action, request, moved, charged, rfl, found, acted, _, rfl⟩
  · exact forall_mem_push valid.attached (attached_fresh volumes backend)
  · have present := List.mem_of_getElem? found
    exact forall_mem_set valid.attached ((valid.attached request present).act
      (valid.accounted.opened request present) (kept request found) acted)

end RouteState

open RouteState

/-- **Executing guests are bounded.** For every route limit and number of
hibernation volumes, in every run in which no task or response body is dropped or
fails while its guest is unfinished and no websocket guest is started, at most
`maxConcurrency` guests of the route execute, and `active_requests` and every volume's
leases cover them. -/
theorem executing_bounded_of_attached (maxConcurrency volumes : Nat)
    (events : List RouteEvent) (final : RouteState)
    (kept : (routeMachine volumes).Along Detachless (initial maxConcurrency) events)
    (reached : (routeMachine volumes).run (initial maxConcurrency) events = some final) :
    final.Bounded maxConcurrency volumes := by
  have valid := Machine.invariant_run (fun valid => valid.step)
    (allAttached_initial maxConcurrency volumes) kept reached
  exact valid.accounted.bounded valid.attached

/-- Two requests of a route with limit two and one volume, one of which completes
and is then dropped. -/
theorem executing_bounded_of_two_requests :
    ∃ final, (routeMachine 1).run (initial 2)
        [.arrive .blocking, .arrive .streaming, .act 0 .acquirePermit, .act 0 .leaseVolume,
          .act 0 .beginRequest, .act 0 .start, .act 0 .run, .act 1 .leaseVolume,
          .act 1 .beginRequest, .act 1 .acquirePermit, .act 1 .start, .act 1 .run,
          .act 0 .complete, .act 0 .drop] = some final ∧
      final.executing = 1 ∧ final.Bounded 2 1 := by
  refine Machine.exists_run (by decide) fun final reached => ?_
  have bounded := executing_bounded_of_attached 2 1 _ final (by decide) reached
  cases reached
  exact ⟨rfl, bounded⟩

/-- **A drop frees the permit of a guest that keeps executing.** On a route with
limit one, a request is dropped at its join await; its guest executes with nothing
counted and its volume unleased, and the next request starts a second guest beside it.
A websocket guest executes uncounted even without a drop. -/
theorem drop_while_executing_exceeds_limit :
    (∃ final, (routeMachine 1).run (initial 1)
        [.arrive .blocking, .act 0 .acquirePermit, .act 0 .leaseVolume, .act 0 .beginRequest,
          .act 0 .start, .act 0 .run, .act 0 .drop] = some final ∧
      final.executing = 1 ∧ final.activeRequests = 0 ∧ final.activeLeases 0 = 0) ∧
    (∃ final, (routeMachine 1).run (initial 1)
        [.arrive .blocking, .act 0 .acquirePermit, .act 0 .leaseVolume, .act 0 .beginRequest,
          .act 0 .start, .act 0 .run, .act 0 .drop, .arrive .blocking, .act 1 .acquirePermit,
          .act 1 .leaseVolume, .act 1 .beginRequest, .act 1 .start, .act 1 .run] = some final ∧
      final.executing = 2) ∧
    ∃ final, (routeMachine 0).run (initial 1)
        [.arrive .websocket, .act 0 .acquirePermit, .act 0 .start, .act 0 .run] = some final ∧
      final.executing = 1 ∧ final.activeRequests = 0 :=
  ⟨⟨_, rfl, rfl, rfl, rfl⟩, ⟨_, rfl, rfl⟩, ⟨_, rfl, rfl, rfl⟩⟩

/-- A request that has ended owns nothing, and a job that is not unfinished has no thread. -/
structure Request.Released (request : Request) : Prop where
  frame : request.stage = .ended → request.frame = .none
  thread : ¬request.job.Unfinished → request.thread = .none

private theorem Request.Released.act {volumes : Nat} {request moved : Request} {action : Action}
    (released : request.Released) (acted : request.act volumes action = some moved) :
    moved.Released := by
  obtain ⟨frame, thread⟩ := released
  cases action <;> constructor <;>
    grind [Request.act, started, responded, GuestJob.Unfinished]

/-- **What the owners of a route hold comes back.** Whatever fails or is dropped, and whenever:
permits and leases are neither lost nor released twice, and once the tasks and the jobs have
ended all are back. `active_requests` then counts one request for every microvm task that was
dropped while its guest ran, and no other. -/
theorem permits_return (maxConcurrency volumes : Nat) (events : List RouteEvent) :
    (routeMachine volumes).Along (fun state _ => state.Accounted maxConcurrency ∧
      ((∀ request ∈ state.requests, request.stage = .ended ∧ ¬request.job.Unfinished) →
        state.available = maxConcurrency ∧ (∀ volume, state.activeLeases volume = 0) ∧
          state.activeRequests = tally (·.orphaned.toNat) state.requests))
      (initial maxConcurrency) events := by
  have kept : (routeMachine volumes).Preserves (fun _ _ => True) fun state =>
      state.Accounted maxConcurrency ∧ ∀ request ∈ state.requests, request.Released := by
    rintro _ _ _ ⟨accounted, released⟩ - stepped
    refine ⟨accounted.step stepped, ?_⟩
    obtain ⟨_, rfl, rfl⟩ | ⟨_, _, _, _, _, rfl, found, acted, -, rfl⟩ := step_cases stepped
    · exact forall_mem_push released ⟨nofun, fun _ => rfl⟩
    · exact forall_mem_set released ((released _ (List.mem_of_getElem? found)).act acted)
  have start : ∀ request ∈ (initial maxConcurrency).requests, request.Released :=
    List.forall_mem_nil _
  refine Machine.along_of_invariant kept ?_ ⟨accounted_initial maxConcurrency, start⟩
    (Machine.along_true _ _)
  rintro state - ⟨accounted, released⟩ -
  refine ⟨accounted, fun ended => ?_⟩
  have empty : ∀ request ∈ state.requests, request.frame = .none ∧ request.thread = .none :=
    fun request member =>
      ⟨(released request member).frame (ended request member).1,
        (released request member).thread (ended request member).2⟩
  have nothing (measure : Request → Nat) (none : ∀ request ∈ state.requests, measure request = 0) :
      tally measure state.requests = 0 :=
    List.sum_eq_zero (List.forall_mem_map.mpr none)
  have permits := accounted.permits
  rw [nothing _ (by grind [Request.permits, Holding.none])] at permits
  refine ⟨permits, fun volume => ?_, ?_⟩
  · rw [accounted.leases, nothing _ (by grind [leasesAt, Holding.none])]
  · rw [accounted.actives]
    refine congrArg List.sum (List.map_congr_left fun request member => ?_)
    simp [actives, empty request member, Holding.none]

end TachyonMesh.Host
