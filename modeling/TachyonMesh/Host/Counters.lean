import TachyonMesh.Foundation.Machine
import TachyonMesh.Foundation.Tally

/-! # The counters of a route's execution control

`RouteExecutionControl` counts the requests that wait for a permit and those that are active,
and every request refers to it. Some of the counts are kept by guards, others by an increment
and a decrement around an await, and a guard may be turned into another one.

A request is followed from the first attempt at a permit to the end of its response body. It
may wait as long as it likes: what the semaphore grants is not modelled here.
-/

namespace TachyonMesh.Host.Counters
open Foundation

/-- The two counters of the control, and the number of references to it. -/
inductive Counter where
  | pendingWaiters
  | activeRequests
  | references
deriving DecidableEq

/-- Where a request's task stands. -/
inductive Task where
  /-- Inside the timeout of `acquire_route_permit`. -/
  | waiting
  | permitted
  /-- Under an `ActiveRouteRequestGuard`. -/
  | wasm
  | microvm
  /-- Under a `RouteResponseGuard`. -/
  | responding
  | gone
deriving DecidableEq

/-- A step of a task. -/
inductive Move where
  | acquire
  /-- The wait times out, or the semaphore is closed. -/
  | refuse
  | run (microvm : Bool)
  | fail
  | respond
  /-- The response body ends. -/
  | finish
  | drop

/-- What a task counts for. Besides the task itself, `acquire_route_permit` and the guard of a
wasm guest have a reference. -/
def Task.holds : Counter → Task → Nat
  | .pendingWaiters, .waiting => 1
  | .activeRequests, .wasm | .activeRequests, .microvm | .activeRequests, .responding => 1
  | .references, .waiting | .references, .wasm => 2
  | .references, .permitted | .references, .microvm | .references, .responding => 1
  | _, _ => 0

/-- The next stage, with what is added to the counters and what is taken from them. -/
def Task.act : Task → Move → Option (Task × List Counter × List Counter)
  | .waiting, .acquire => some (.permitted, [], [.pendingWaiters, .references])
  | .waiting, .refuse => some (.gone, [], [.pendingWaiters, .references, .references])
  -- The decrement after the await is not reached.
  | .waiting, .drop => some (.gone, [], [.references, .references])
  | .permitted, .run false => some (.wasm, [.references, .activeRequests], [])
  | .permitted, .run true => some (.microvm, [.activeRequests], [])
  | .permitted, .fail | .permitted, .drop => some (.gone, [], [.references])
  | .wasm, .fail | .wasm, .drop =>
      some (.gone, [], [.activeRequests, .references, .references])
  -- `into_response_guard` clones the reference and forgets the guard with its own.
  | .wasm, .respond | .microvm, .respond => some (.responding, [.references], [.references])
  | .microvm, .fail => some (.gone, [], [.activeRequests, .references])
  | .microvm, .drop => some (.gone, [], [.references])
  | .responding, .finish | .responding, .drop => some (.gone, [], [.activeRequests, .references])
  | _, _ => none

/-- A route's counters and tasks. -/
structure RouteControl where
  counters : Counter → Nat
  tasks : List Task

/-- What may happen on a route. -/
inductive Event where
  /-- A request comes and finds a permit, or has to wait. -/
  | arrive (free : Bool)
  | act (index : Nat) (move : Move)

namespace RouteControl

def initial : RouteControl := ⟨fun _ => 0, []⟩

def enter (control : RouteControl) (task : Task) (added : List Counter) : RouteControl :=
  ⟨fun counter => control.counters counter + added.count counter, control.tasks ++ [task]⟩

def step (control : RouteControl) : Event → Option RouteControl
  | .arrive true => some (control.enter .permitted [.references])
  | .arrive false =>
      some (control.enter .waiting [.references, .references, .pendingWaiters])
  | .act index move => do
      let task ← control.tasks[index]?
      let (next, added, taken) ← task.act move
      some ⟨fun counter => control.counters counter + added.count counter - taken.count counter,
        control.tasks.set index next⟩

/-- The counter is what the tasks count for. -/
def Exact (counter : Counter) (control : RouteControl) : Prop :=
  control.counters counter = tally (Task.holds counter) control.tasks

end RouteControl

open RouteControl

def controlMachine : Machine RouteControl Event where
  step := step

/-- A wait or a microvm's run is dropped, or a wasm guest's guard becomes a response guard. -/
def Task.leaks : Counter → Task → Move → Bool
  | .pendingWaiters, .waiting, .drop | .activeRequests, .microvm, .drop
  | .references, .wasm, .respond => true
  | _, _, _ => false

def RouteControl.leaks (counter : Counter) (control : RouteControl) : Event → Bool
  | .arrive _ => false
  | .act index move => control.tasks[index]?.any (Task.leaks counter · move)

variable {counter : Counter}

private theorem Task.balanced {task after : Task} {move : Move} {added taken : List Counter}
    (acted : task.act move = some (after, added, taken)) (kept : task.leaks counter move = false) :
    after.holds counter + taken.count counter = task.holds counter + added.count counter := by
  rcases move with _ | _ | (_ | _) | _ | _ | _ | _ <;> cases task <;> cases acted <;>
    cases counter <;> first | rfl | cases kept

private theorem exact_step :
    controlMachine.Preserves (fun control event => ¬control.leaks counter event)
    (Exact counter) := by
  intro control event next exact kept stepped
  unfold Exact at exact ⊢
  cases event with
  | arrive free =>
    cases free <;> cases stepped <;> cases counter <;>
      simp [enter, exact, Task.holds]
  | act _ _ =>
    simp only [controlMachine, step, Option.bind_eq_bind, Option.bind_eq_some_iff] at stepped
    obtain ⟨task, found, ⟨after, _, taken⟩, acted, ⟨⟩⟩ := stepped
    have balance : after.holds counter + taken.count counter = _ :=
      Task.balanced acted (by simpa [leaks, found] using kept)
    have moved := tally_set (Task.holds counter) after found
    have within : task.holds counter ≤ tally (Task.holds counter) control.tasks :=
      measure_le_tally found
    dsimp only
    omega

/-- Each counter is exact in every state of a run in which no step leaks it, and 0 when all
requests are gone. -/
theorem counters_exact (counter : Counter) {events : List Event} {final : RouteControl}
    (kept :
      controlMachine.Along (fun control event => ¬control.leaks counter event) .initial events)
    (reached : controlMachine.run .initial events = some final) :
    final.Exact counter ∧ ((∀ task ∈ final.tasks, task = .gone) → final.counters counter = 0) := by
  have start : initial.Exact counter := rfl
  have exact := Machine.invariant_run exact_step start kept reached
  refine ⟨exact, fun gone => exact.trans (List.sum_eq_zero ?_)⟩
  rw [List.forall_mem_map]
  intro task listed
  rw [gone task listed]
  cases counter <;> rfl

/-- A request waits, runs a microvm and sends its response, and another one is dropped while its
wasm guest runs. -/
theorem counters_return_to_zero :
    ∃ final, controlMachine.run .initial [.arrive false, .arrive true, .act 1 (.run false),
        .act 0 .acquire, .act 1 .drop, .act 0 (.run true), .act 0 .respond, .act 0 .finish] =
          some final ∧
      ∀ counter, final.counters counter = 0 := by
  refine Machine.exists_run (by decide) fun _ reached counter => ?_
  refine (counters_exact counter ?_ reached).2 ?_
  · cases counter <;> decide
  · cases reached
    decide

/-- Three requests come and go. The first is dropped while it waits, the second while its microvm
runs, and the wasm guest of the third responds. -/
theorem counters_left_behind :
    (controlMachine.run .initial [.arrive false, .act 0 .drop, .arrive true, .act 1 (.run true),
        .act 1 .drop, .arrive true, .act 2 (.run false), .act 2 .respond, .act 2 .finish]).map
      (fun final => (final.tasks, final.counters .pendingWaiters, final.counters .activeRequests,
        final.counters .references)) = some ([.gone, .gone, .gone], 1, 1, 1) := by
  decide

end TachyonMesh.Host.Counters
