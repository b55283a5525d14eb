import TachyonMesh.Admission.Node

/-! # Waiting for a node's slot

The slot of a singleton route is an entry in the registry's set. A release removes the entry under
the lock and then wakes the tasks that wait; a task that finds the entry registers as a waiter
after it has left the lock.
-/

namespace TachyonMesh.Admission
open Foundation List Function

/-! ## Tasks -/

/-- Where a request stands in its wait for the slot. -/
inductive SlotStage where
  /-- It calls `try_acquire` next. -/
  | trying
  /-- It has found the slot taken and registers next. -/
  | missed
  /-- It is registered and parked. -/
  | waiting
  /-- It has been woken and goes on next. -/
  | woken
  /-- Its guard is live. -/
  | holding
  /-- Its guard has removed the entry and wakes the waiters next. -/
  | releasing
  | finished
deriving DecidableEq

/-- A request for a node slot. -/
structure SlotTask where
  route : String
  onConflict : ConflictPolicy
  stage : SlotStage
deriving DecidableEq

/-- `notify_waiters` wakes the tasks that are registered, of all routes. -/
def SlotTask.wake (task : SlotTask) : SlotTask :=
  if task.stage = .waiting then { task with stage := .woken } else task

/-- The slots and the requests for them. -/
structure SlotState where
  held : String → Bool
  tasks : List SlotTask

/-- A step of a request for a slot. -/
inductive SlotAction where
  | tryAcquire
  | register
  | resume
  /-- The first half of `release`. -/
  | remove
  /-- The second half of `release`. -/
  | notify
  /-- The task is dropped while it is parked or woken. -/
  | cancel

/-- What may happen to the slots. -/
inductive SlotEvent where
  | arrive (route : String) (onConflict : ConflictPolicy)
  | act (index : Nat) (action : SlotAction)

namespace SlotState
variable (state : SlotState)

def initial : SlotState := { held := fun _ => false, tasks := [] }

def move (index : Nat) (task : SlotTask) (stage : SlotStage) : SlotState :=
  { state with tasks := state.tasks.set index { task with stage } }

def hold (route : String) (held : Bool) : SlotState :=
  { state with held := update state.held route held }

def wakeAll : SlotState := { state with tasks := state.tasks.map SlotTask.wake }

/-- What a task that finds the slot taken does. -/
def turnAway (task : SlotTask) : SlotStage :=
  match task.onConflict with
  | .queue => .missed
  | .reject | .drop => .finished

def act (index : Nat) (task : SlotTask) : SlotAction → Option SlotState
  | .tryAcquire =>
      if task.stage = .trying then
        if state.held task.route then some (state.move index task (turnAway task))
        else some ((state.move index task .holding).hold task.route true)
      else none
  | .register => if task.stage = .missed then some (state.move index task .waiting) else none
  | .resume => if task.stage = .woken then some (state.move index task .trying) else none
  | .remove =>
      if task.stage = .holding then
        some ((state.move index task .releasing).hold task.route false)
      else none
  | .notify =>
      if task.stage = .releasing then some (state.move index task .finished).wakeAll else none
  | .cancel =>
      if task.stage = .waiting ∨ task.stage = .woken then
        some (state.move index task .finished)
      else none

end SlotState

def slotMachine : Machine SlotState SlotEvent where
  step state
    | .arrive route onConflict => some { state with
        tasks := state.tasks ++ [{ route, onConflict, stage := .trying }] }
    | .act index action => state.tasks[index]?.bind fun task => state.act index task action

/-! ## Slots and waiters -/

namespace SlotTask

def Holds (route : String) (task : SlotTask) : Prop := task.route = route ∧ task.stage = .holding

end SlotTask

open SlotTask

namespace SlotState

/-- At most one guard of a route is live. -/
def Exclusive (state : SlotState) : Prop := ∀ route, Alone (Holds route) state.tasks

/-- A task that is parked waits for a slot that another task holds, or a wake-up is on its way. -/
def Attended (state : SlotState) : Prop :=
  ∀ task ∈ state.tasks, task.stage = .waiting →
    ∃ other ∈ state.tasks, other.Holds task.route ∨ other.stage = .releasing

/-- The waiters are woken while no task is about to register for a slot that is free. -/
def Prompt (state : SlotState) : SlotEvent → Prop
  | .act _ .notify => ∀ task ∈ state.tasks, task.stage = .missed → state.held task.route
  | _ => True

instance (state : SlotState) (event : SlotEvent) : Decidable (state.Prompt event) := by
  unfold SlotState.Prompt
  split <;> infer_instance

/-! ## Slots -/

/-- The registry's entries are the slots of the live guards. -/
structure Slotted (state : SlotState) : Prop where
  exclusive : state.Exclusive
  held_of_holds : ∀ task ∈ state.tasks, task.stage = .holding → state.held task.route
  holds_of_held : ∀ route, state.held route → ∃ task ∈ state.tasks, task.Holds route

variable {state next : SlotState} {index : Nat} {task : SlotTask} {stage : SlotStage}

private theorem slotted_initial : initial.Slotted where
  exclusive _ := alone_nil
  held_of_holds := nofun
  holds_of_held _ held := nomatch held

section
variable (slotted : state.Slotted) (found : state.tasks[index]? = some task)
include slotted found

private theorem Slotted.move (without : task.stage ≠ .holding) (stays : stage ≠ .holding) :
    (state.move index task stage).Slotted where
  exclusive route := (slotted.exclusive route).replace fun holds => stays holds.2
  held_of_holds := forall_mem_set slotted.held_of_holds fun holding => absurd holding stays
  holds_of_held route held := by
    obtain ⟨other, listed, holds⟩ := slotted.holds_of_held route held
    refine ⟨other, mem_set_of_ne found listed ?_, holds⟩
    rintro rfl
    exact without holds.2

private theorem Slotted.acquire (without : task.stage ≠ .holding)
    (free : state.held task.route = false) :
    ((state.move index task .holding).hold task.route true).Slotted where
  exclusive route := by
    by_cases here : task.route = route
    · refine alone_replace ?_
      rintro other listed ⟨sameRoute, holding⟩
      have held := slotted.held_of_holds other listed holding
      rw [sameRoute, ← here, free] at held
      cases held
    · exact (slotted.exclusive route).replace fun holds => here holds.1
  held_of_holds other listed holding := by
    change update state.held task.route true other.route
    rw [update_apply]
    split
    · rfl
    · next elsewhere =>
      obtain listed | rfl := mem_or_eq_of_mem_set listed
      · exact slotted.held_of_holds other listed holding
      · exact absurd rfl elsewhere
  holds_of_held route held := by
    change update state.held task.route true route = true at held
    rw [update_apply] at held
    split at held
    · next here =>
      exact ⟨_, mem_of_getElem? (getElem?_set_of_some found), here.symm, rfl⟩
    obtain ⟨other, listed, holds⟩ := slotted.holds_of_held route held
    refine ⟨other, mem_set_of_ne found listed ?_, holds⟩
    rintro rfl
    exact without holds.2

private theorem Slotted.remove (holding : task.stage = .holding) :
    ((state.move index task .releasing).hold task.route false).Slotted where
  exclusive route := (slotted.exclusive route).replace nofun
  held_of_holds other listed otherHolding := by
    change update state.held task.route false other.route
    have released : ¬Holds task.route { task with stage := .releasing } :=
      fun holds => nomatch holds.2
    have apart : other.route ≠ task.route := by
      intro sameRoute
      exact (slotted.exclusive task.route).vacate found ⟨rfl, holding⟩ released other listed
        ⟨sameRoute, otherHolding⟩
    rw [update_of_ne apart]
    obtain listed | rfl := mem_or_eq_of_mem_set listed
    · exact slotted.held_of_holds other listed otherHolding
    · cases otherHolding
  holds_of_held route held := by
    change update state.held task.route false route = true at held
    rw [update_apply] at held
    split at held
    · cases held
    · next elsewhere =>
      obtain ⟨other, listed, holds⟩ := slotted.holds_of_held route held
      refine ⟨other, mem_set_of_ne found listed ?_, holds⟩
      rintro rfl
      exact elsewhere holds.1.symm

end

variable {route : String} {action : SlotAction} {event : SlotEvent}

private theorem wake_holds : task.wake.Holds route ↔ task.Holds route := by
  unfold wake Holds
  split
  · next waiting => simp [waiting]
  · rfl

private theorem Slotted.wakeAll (slotted : state.Slotted) : state.wakeAll.Slotted where
  exclusive route := by
    refine (slotted.exclusive route).of_places ?_
    intro place woken found holds
    obtain ⟨before, atPlace, rfl⟩ := Option.map_eq_some_iff.mp ((getElem?_map ..).symm.trans found)
    exact ⟨before, atPlace, wake_holds.mp holds⟩
  held_of_holds woken listed holding := by
    obtain ⟨before, member, rfl⟩ := mem_map.mp listed
    obtain ⟨sameRoute, holding⟩ := wake_holds.mp ⟨rfl, holding⟩
    rw [← sameRoute]
    exact slotted.held_of_holds before member holding
  holds_of_held route held := by
    obtain ⟨other, listed, holds⟩ := slotted.holds_of_held route held
    exact ⟨other.wake, mem_map_of_mem listed, wake_holds.mpr holds⟩

private theorem Slotted.arrive (slotted : state.Slotted) (trying : task.stage = .trying) :
    Slotted { state with tasks := state.tasks ++ [task] } where
  exclusive route := by
    refine (slotted.exclusive route).push ?_
    rintro ⟨-, holding⟩
    cases trying.symm.trans holding
  held_of_holds := forall_mem_push slotted.held_of_holds fun holding =>
    nomatch trying.symm.trans holding
  holds_of_held route held := by
    obtain ⟨other, listed, holds⟩ := slotted.holds_of_held route held
    exact ⟨other, mem_append_left _ listed, holds⟩

private theorem turnAway_ne_holding : turnAway task ≠ .holding := by
  unfold turnAway
  split <;> exact nofun

private theorem Slotted.act (slotted : state.Slotted) (found : state.tasks[index]? = some task)
    (acted : state.act index task action = some next) : next.Slotted := by
  have moves {before after : SlotStage} (began : task.stage = before) (without : before ≠ .holding)
      (stays : after ≠ .holding) : (state.move index task after).Slotted :=
    slotted.move found (began ▸ without) stays
  cases action with
  | tryAcquire =>
    obtain ⟨trying, acted⟩ := Option.ite_none_right_eq_some.mp acted
    have without : task.stage ≠ .holding := by rw [trying]; exact nofun
    split at acted
    · cases acted
      exact slotted.move found without turnAway_ne_holding
    · next free =>
      cases acted
      exact slotted.acquire found without (Bool.eq_false_iff.mpr free)
  | register =>
    obtain ⟨missed, rfl⟩ := of_guard acted
    exact moves missed nofun nofun
  | resume =>
    obtain ⟨woken, rfl⟩ := of_guard acted
    exact moves woken nofun nofun
  | remove =>
    obtain ⟨holding, rfl⟩ := of_guard acted
    exact slotted.remove found holding
  | notify =>
    obtain ⟨releasing, rfl⟩ := of_guard acted
    have finished : (state.move index task .finished).Slotted := moves releasing nofun nofun
    exact finished.wakeAll
  | cancel =>
    obtain ⟨waiting | woken, acted⟩ := Option.ite_none_right_eq_some.mp acted
    · cases acted
      exact moves waiting nofun nofun
    · cases acted
      exact moves woken nofun nofun

private theorem Slotted.step (slotted : state.Slotted)
    (stepped : slotMachine.step state event = some next) : next.Slotted := by
  cases event with
  | arrive =>
    cases stepped
    exact slotted.arrive rfl
  | act =>
    obtain ⟨_, found, acted⟩ := Option.bind_eq_some_iff.mp stepped
    exact slotted.act found acted

/-! ## Waiters -/

/-- The slot is taken, or a release is about to wake the waiters. -/
def Expected (state : SlotState) (route : String) : Prop :=
  state.held route ∨ ∃ other ∈ state.tasks, other.stage = .releasing

/-- What a task registers for is expected, before and after. -/
def Awaited (state : SlotState) : Prop :=
  ∀ task ∈ state.tasks, task.stage = .missed ∨ task.stage = .waiting → state.Expected task.route

private theorem Awaited.attended (awaited : state.Awaited) (slotted : state.Slotted) :
    state.Attended := by
  intro task listed waiting
  obtain held | ⟨other, member, releasing⟩ := awaited task listed (.inr waiting)
  · obtain ⟨other, member, holds⟩ := slotted.holds_of_held task.route held
    exact ⟨other, member, .inl holds⟩
  · exact ⟨other, member, .inr releasing⟩

private theorem Expected.move (expected : state.Expected route)
    (found : state.tasks[index]? = some task)
    (quiet : task.stage ≠ .releasing) : (state.move index task stage).Expected route := by
  obtain held | ⟨other, member, releasing⟩ := expected
  · exact .inl held
  · refine .inr ⟨other, mem_set_of_ne found member ?_, releasing⟩
    rintro rfl
    exact quiet releasing

/-- A task goes on, and registers only for what is expected. -/
theorem Awaited.move (awaited : state.Awaited) (found : state.tasks[index]? = some task)
    (quiet : task.stage ≠ .releasing)
    (registers : stage = .missed ∨ stage = .waiting → state.Expected task.route) :
    (state.move index task stage).Awaited := by
  exact forall_mem_set (fun other listed unattended => (awaited other listed unattended).move found
    quiet) fun unattended => (registers unattended).move found quiet

private theorem Awaited.hold (awaited : state.Awaited) (route : String) :
    (state.hold route true).Awaited := by
  intro other listed unattended
  obtain held | releasing := awaited other listed unattended
  · refine .inl ?_
    change update state.held route true other.route
    rw [update_apply]
    split
    · rfl
    · exact held
  · exact .inr releasing

private theorem awaited_remove (found : state.tasks[index]? = some task) :
    ((state.move index task .releasing).hold task.route false).Awaited := by
  intro other listed unattended
  exact .inr ⟨_, mem_of_getElem? (getElem?_set_of_some found), rfl⟩

/-- After a wake-up no task is parked; those about to register have their slots taken. -/
theorem awaited_notify (prompt : state.Prompt (.act index .notify)) :
    (state.move index task .finished).wakeAll.Awaited := by
  intro woken listed unattended
  obtain ⟨other, member, rfl⟩ := mem_map.mp listed
  have missed : other.stage = .missed ∧ other.wake = other := by
    unfold wake at unattended ⊢
    split at unattended
    · simp at unattended
    · next awake => exact ⟨unattended.resolve_right awake, if_neg awake⟩
  rw [missed.2]
  obtain member | rfl := mem_or_eq_of_mem_set member
  · exact .inl (prompt other member missed.1)
  · cases missed.1

private theorem Awaited.act (awaited : state.Awaited) (found : state.tasks[index]? = some task)
    (prompt : state.Prompt (.act index action))
    (acted : state.act index task action = some next) : next.Awaited := by
  have listed := mem_of_getElem? found
  cases action with
  | tryAcquire =>
    obtain ⟨trying, acted⟩ := Option.ite_none_right_eq_some.mp acted
    have quiet : task.stage ≠ .releasing := by rw [trying]; exact nofun
    split at acted
    · next held =>
      cases acted
      exact awaited.move found quiet fun _ => .inl held
    · cases acted
      exact (awaited.move found quiet (by simp)).hold task.route
  | register =>
    obtain ⟨missed, rfl⟩ := of_guard acted
    refine awaited.move found (by rw [missed]; exact nofun) ?_
    exact fun _ => awaited task listed (.inl missed)
  | resume =>
    obtain ⟨woken, rfl⟩ := of_guard acted
    exact awaited.move found (by rw [woken]; exact nofun) (by simp)
  | remove =>
    obtain ⟨-, rfl⟩ := of_guard acted
    exact awaited_remove found
  | notify =>
    obtain ⟨-, rfl⟩ := of_guard acted
    exact awaited_notify prompt
  | cancel =>
    obtain ⟨parked, rfl⟩ := of_guard acted
    refine awaited.move found ?_ (by simp)
    obtain waiting | woken := parked
    · rw [waiting]
      exact nofun
    · rw [woken]
      exact nofun

private theorem Awaited.step (awaited : state.Awaited) (prompt : state.Prompt event)
    (stepped : slotMachine.step state event = some next) : next.Awaited := by
  cases event with
  | arrive =>
    cases stepped
    intro other listed unattended
    obtain listed | last := mem_append.mp listed
    · obtain held | ⟨releasing, member, stage⟩ := awaited other listed unattended
      · exact .inl held
      · exact .inr ⟨releasing, mem_append_left _ member, stage⟩
    · rw [mem_singleton.mp last] at unattended
      simp at unattended
  | act =>
    obtain ⟨_, found, acted⟩ := Option.bind_eq_some_iff.mp stepped
    exact awaited.act found prompt acted

end SlotState

/-- In every run at most one guard of a route is live. Where no release wakes the waiters while a
task is about to register for a free slot, no task is parked on a slot that is free. -/
theorem node_slots_attended {events : List SlotEvent} {state : SlotState}
    (reached : slotMachine.run .initial events = some state) :
    state.Exclusive ∧ (slotMachine.Along SlotState.Prompt .initial events → state.Attended) := by
  have slotted : state.Slotted :=
    Machine.invariant_run (fun slotted _ => slotted.step) SlotState.slotted_initial
      (Machine.along_true _ _) reached
  refine ⟨slotted.exclusive, ?_⟩
  intro prompt
  have awaited : state.Awaited :=
    Machine.invariant_run (fun awaited => awaited.step)
      (fun _ listed => absurd listed not_mem_nil) prompt reached
  exact awaited.attended slotted

/-- A task has the slot, and another one asks for it. -/
def contendedStart : List SlotEvent :=
  [.arrive "/jobs" .queue, .act 0 .tryAcquire, .arrive "/jobs" .queue, .act 1 .tryAcquire]

/-- The second task registers before the first one wakes the waiters. -/
def wokenRun : List SlotEvent :=
  contendedStart ++
    [.act 0 .remove, .act 1 .register, .act 0 .notify, .act 1 .resume, .act 1 .tryAcquire]

/-- A woken request gets the slot. -/
theorem node_slots_attended_jobs :
    ∃ state, slotMachine.run .initial wokenRun = some state ∧
      state.tasks.map (·.stage) = [.finished, .holding] ∧ state.Exclusive ∧ state.Attended := by
  obtain ⟨exclusive, attended⟩ := node_slots_attended (rfl : slotMachine.run .initial wokenRun = _)
  exact ⟨_, rfl, rfl, exclusive, attended (by decide +kernel)⟩

/-- The first task wakes the waiters before the second one is registered. -/
def strandedRun : List SlotEvent :=
  contendedStart ++ [.act 0 .remove, .act 0 .notify, .act 1 .register]

/-- A request that registers too late waits for a free slot. -/
theorem waiter_stranded :
    ∃ state, slotMachine.run .initial strandedRun = some state ∧ state.held "/jobs" = false ∧
      state.tasks = [⟨"/jobs", .queue, .finished⟩, ⟨"/jobs", .queue, .waiting⟩] ∧
      ¬state.Attended := by
  refine ⟨_, rfl, rfl, rfl, fun attended => ?_⟩
  obtain ⟨other, _, ⟨-, _⟩ | _⟩ := attended ⟨"/jobs", .queue, .waiting⟩ (by decide) rfl
  all_goals
    revert other
    decide

end TachyonMesh.Admission
