import TachyonMesh.Dispatch.Execution

/-! # Buffered requests and their replay

A request that a saturated host cannot serve is accepted into a queue in memory, or, when that is
full, into a queue of spool files on disk. One task replays the requests. It takes from the memory
queue first, and puts a request of a saturated route back at the front without another capacity
test.

The task waits for a wake-up, of which at most one is stored. It goes back to waiting when a spool
file cannot be read, whatever is queued behind it.
-/

namespace TachyonMesh.Dispatch
open Foundation List

def bufferRamRequestCapacity : Nat := 32

def bufferTotalRequestCapacity : Nat := 256

abbrev BufferedRouteResult := Except (Nat × String) GuestHttpResponse

/-! A completion is the sending end of a request's reply channel, numbered in the order the
channels are handed out. -/

/-- A request in memory. -/
structure BufferedMemoryRequest where
  id : Nat
  request : BufferedRouteRequest
  completion : Nat

/-- The path of the spool file is made of the id. -/
structure BufferedDiskRequest where
  id : Nat
  completion : Nat

/-- A request taken out of the buffer. -/
structure BufferedQueueItem where
  id : Nat
  request : BufferedRouteRequest
  completion : Nat
  onDisk : Bool
deriving DecidableEq

/-- Where the replay task stands. -/
inductive Replayer where
  /-- It waits for a wake-up. -/
  | parked
  /-- It is at the head of the inner loop. -/
  | checking
  /-- It has seen that requests are pending. -/
  | popping
  | replaying (item : BufferedQueueItem)
deriving DecidableEq

open Replayer

/-- The item in the replayer's hands. -/
def Replayer.held : Replayer → List BufferedQueueItem
  | .replaying item => [item]
  | _ => []

/-- What the replayer finds for the route of a request. -/
inductive RouteOutcome where
  | unsealed
  | unlimited
  | noPermits
  | closed
  | executed (result : BufferedRouteResult)

/-- The buffer, its replay task and the answers. -/
structure BufferState where
  ramCapacity : Nat
  totalCapacity : Nat
  nextId : Nat
  ramQueue : List BufferedMemoryRequest
  diskQueue : List BufferedDiskRequest
  /-- What reading and decoding the spool file of an id gives. -/
  files : Nat → Option BufferedRouteRequest
  accepted : Nat
  /-- A wake-up is stored. -/
  permit : Bool
  /-- Enqueuers that have queued a request and call `notify_one` next. -/
  notifying : Nat
  replayer : Replayer
  /-- The completions of the requests that were popped, in order. -/
  popped : List Nat
  answers : List (Nat × BufferedRouteResult)

namespace BufferState
variable (state : BufferState)

/-- The buffer of `new`, with the capacities given. -/
def initial (ramCapacity totalCapacity : Nat) : BufferState where
  ramCapacity
  totalCapacity
  nextId := 0
  ramQueue := []
  diskQueue := []
  files _ := none
  accepted := 0
  permit := false
  notifying := 0
  replayer := .parked
  popped := []
  answers := []

def pendingCount : Nat := state.ramQueue.length + state.diskQueue.length

/-- `written` is the outcome of encoding the request and writing its spool file. -/
def enqueue (request : BufferedRouteRequest)
    (written : Except String Unit) :
    Except String (Nat × BufferedRequestTier) × BufferState :=
  if state.totalCapacity ≤ state.pendingCount then (.error "buffer manager is full", state)
  else
    let id := state.nextId
    let completion := state.accepted
    let numbered := { state with nextId := min (id + 1) (2 ^ 64 - 1) }
    let queued := { numbered with accepted := completion + 1, notifying := state.notifying + 1 }
    if state.ramQueue.length < state.ramCapacity then
      (.ok (completion, .ram),
        { queued with ramQueue := state.ramQueue ++ [⟨id, request, completion⟩] })
    else
      match written with
      | .error error => (.error error, numbered)
      | .ok _ => (.ok (completion, .disk), { queued with
          files := Function.update state.files id (some request)
          diskQueue := state.diskQueue ++ [⟨id, completion⟩] })

/-- The replayer holds the item that was popped. -/
def take (item : BufferedQueueItem) : BufferState :=
  { state with replayer := .replaying item, popped := state.popped ++ [item.completion] }

/-- `pop_next` and what the replayer makes of its answer. -/
def popNext : BufferState :=
  match state.ramQueue, state.diskQueue with
  | entry :: rest, _ => { state with ramQueue := rest }.take { entry with onDisk := false }
  | [], entry :: rest =>
      -- the entry has left the queue before its file is read
      let dequeued := { state with diskQueue := rest }
      match state.files entry.id with
      | some request => dequeued.take { entry with request, onDisk := true }
      | none => { dequeued with replayer := .parked }
  | [], [] => { state with replayer := .parked }

def requeueFront (item : BufferedQueueItem) : BufferState :=
  let notified := { state with permit := true }
  if item.onDisk then
    { notified with diskQueue := ⟨item.id, item.completion⟩ :: state.diskQueue }
  else { notified with ramQueue := { item with } :: state.ramQueue }

def complete (item : BufferedQueueItem) (result : BufferedRouteResult) :
    BufferState :=
  { state with
    files := if item.onDisk then Function.update state.files item.id none else state.files
    answers := state.answers ++ [(item.completion, result)] }

/-- What the replayer does with the request it has popped. -/
def replay (item : BufferedQueueItem) : RouteOutcome → BufferState
  | .unsealed => state.complete item (.error (503, "buffered route is no longer sealed"))
  | .unlimited =>
      state.complete item (.error (500, "buffered route is missing a concurrency limiter"))
  | .noPermits => state.requeueFront item
  | .closed => state.complete item
      (.error (503, "route `" ++ item.request.routePath ++ "` is currently unavailable"))
  | .executed result => state.complete item result

end BufferState

/-- What may happen to the buffer. -/
inductive BufferEvent where
  | enqueue (request : BufferedRouteRequest) (written : Except String Unit)
  /-- An enqueuer's `notify_one`. -/
  | notify
  /-- A spool file is lost or can no longer be decoded. -/
  | damage (id : Nat)
  | wake
  /-- `pressed`: the host has too many active requests. -/
  | check (pressed : Bool)
  | pop
  | replay (route : RouteOutcome)

def bufferMachine : Machine BufferState BufferEvent where
  step state event :=
    match event, state.replayer with
    | .enqueue request written, _ => some (state.enqueue request written).2
    | .notify, _ =>
        if state.notifying = 0 then none
        else some { state with notifying := state.notifying - 1, permit := true }
    | .damage id, _ => some { state with files := Function.update state.files id none }
    | .wake, .parked =>
        if state.permit then some { state with permit := false, replayer := .checking } else none
    | .check pressed, .checking =>
        if state.pendingCount = 0 then some { state with replayer := .parked }
        else if pressed then some state
        else some { state with replayer := .popping }
    | .pop, .popping => some state.popNext
    | .replay route, .replaying item => some { state.replay item route with replayer := .checking }
    | _, _ => none

/-- What each event does. -/
inductive BufferEffect (state : BufferState) : BufferEvent → BufferState → Prop where
  | enqueued (request : BufferedRouteRequest) (written : Except String Unit) :
      BufferEffect state (.enqueue request written) (state.enqueue request written).2
  | notified : BufferEffect state .notify
      { state with notifying := state.notifying - 1, permit := true }
  | damaged (id : Nat) : BufferEffect state (.damage id)
      { state with files := Function.update state.files id none }
  | woken (parked : state.replayer = .parked) :
      BufferEffect state .wake { state with permit := false, replayer := .checking }
  | emptied (pressed : Bool) (checking : state.replayer = .checking)
      (empty : state.pendingCount = 0) :
      BufferEffect state (.check pressed) { state with replayer := .parked }
  | delayed (checking : state.replayer = .checking) : BufferEffect state (.check true) state
  | readied (checking : state.replayer = .checking) :
      BufferEffect state (.check false) { state with replayer := .popping }
  | popped (popping : state.replayer = .popping) : BufferEffect state .pop state.popNext
  | replayed (route : RouteOutcome) {item : BufferedQueueItem}
      (holds : state.replayer = .replaying item) :
      BufferEffect state (.replay route) { state.replay item route with replayer := .checking }

variable {event : BufferEvent}

private theorem buffer_effect {state next : BufferState}
    (stepped : bufferMachine.step state event = some next) : BufferEffect state event next := by
  simp only [bufferMachine] at stepped
  split at stepped
  case h_1 => exact Option.some.inj stepped ▸ .enqueued ..
  case h_2 =>
    split at stepped
    · cases stepped
    · exact Option.some.inj stepped ▸ .notified
  case h_3 => exact Option.some.inj stepped ▸ .damaged _
  case h_4 parked =>
    split at stepped
    · exact Option.some.inj stepped ▸ .woken parked
    · cases stepped
  case h_5 pressed checking =>
    split at stepped
    case isTrue empty => exact Option.some.inj stepped ▸ .emptied pressed checking empty
    case isFalse =>
      cases pressed with
      | true => exact Option.some.inj stepped ▸ .delayed checking
      | false => exact Option.some.inj stepped ▸ .readied checking
  case h_6 popping => exact Option.some.inj stepped ▸ .popped popping
  case h_7 route item holds => exact Option.some.inj stepped ▸ .replayed route holds
  case h_8 => cases stepped

/-! ## A queue in the abstract -/

/-- A queue whose head can be handed out more than once before it is answered. -/
structure Ledger where
  accepted : Nat
  /-- The requests that are not answered. -/
  line : List Nat
  answered : List Nat
  popped : List Nat

namespace Ledger

/-- What an event does to the ledger. -/
inductive Step : Ledger → Ledger → Prop where
  | stay (ledger : Ledger) : Step ledger ledger
  | join (accepted : Nat) (line answered popped : List Nat) :
      Step ⟨accepted, line, answered, popped⟩ ⟨accepted + 1, line ++ [accepted], answered, popped⟩
  | pop (accepted first : Nat) (rest answered popped : List Nat) :
      Step ⟨accepted, first :: rest, answered, popped⟩
        ⟨accepted, first :: rest, answered, popped ++ [first]⟩
  | answer (accepted first : Nat) (rest answered popped : List Nat) :
      Step ⟨accepted, first :: rest, answered, popped⟩ ⟨accepted, rest, answered ++ [first], popped⟩

/-- Each accepted request is in line or answered, in order. -/
structure Sound (ledger : Ledger) : Prop where
  placed : (ledger.answered ++ ledger.line).Perm (range ledger.accepted)
  line_sorted : ledger.line.Pairwise (· < ·)
  popped_sorted : ledger.popped.Pairwise (· ≤ ·)
  popped_lt : ∀ earlier ∈ ledger.popped, earlier < ledger.accepted
  popped_le : ∀ earlier ∈ ledger.popped, ∀ later ∈ ledger.line, earlier ≤ later

private theorem Sound.lt_accepted {ledger : Ledger} (sound : ledger.Sound) {completion : Nat}
    (waits : completion ∈ ledger.line) : completion < ledger.accepted :=
  mem_range.mp (sound.placed.subset (mem_append_right _ waits))

private theorem Sound.step {before after : Ledger} (sound : before.Sound)
    (step : Step before after) :
    after.Sound := by
  cases step with
  | stay => exact sound
  | join =>
    refine ⟨?_, ?_, sound.popped_sorted, ?_, ?_⟩
    · rw [range_succ, ← append_assoc]
      exact sound.placed.append_right _
    · exact pairwise_append.mpr ⟨sound.line_sorted, by simp, by
        simpa using fun earlier waits => sound.lt_accepted waits⟩
    · exact fun earlier taken => Nat.lt_succ_of_lt (sound.popped_lt earlier taken)
    intro earlier taken later waits
    rcases mem_append.mp waits with old | new
    · exact sound.popped_le earlier taken later old
    · exact mem_singleton.mp new ▸ Nat.le_of_lt (sound.popped_lt earlier taken)
  | pop _ first =>
    have ahead := (pairwise_cons.mp sound.line_sorted).1
    refine ⟨sound.placed, sound.line_sorted, ?_, ?_, ?_⟩
    · exact pairwise_append.mpr ⟨sound.popped_sorted, by simp, by
        simpa using fun earlier taken => sound.popped_le earlier taken first mem_cons_self⟩
    · simpa [or_imp, forall_and] using ⟨sound.popped_lt, sound.lt_accepted mem_cons_self⟩
    intro earlier taken later waits
    rcases mem_append.mp taken with old | new
    · exact sound.popped_le earlier old later waits
    cases mem_singleton.mp new
    rcases mem_cons.mp waits with rfl | behind
    · exact Nat.le_refl _
    · exact Nat.le_of_lt (ahead later behind)
  | answer =>
    refine ⟨?_, (pairwise_cons.mp sound.line_sorted).2, sound.popped_sorted, sound.popped_lt, ?_⟩
    · rw [append_assoc]
      exact sound.placed
    · exact fun earlier taken later waits =>
        sound.popped_le earlier taken later (mem_cons_of_mem _ waits)

end Ledger

/-! ## Order and capacity -/

namespace BufferState

def ledger (state : BufferState) : Ledger where
  accepted := state.accepted
  line := state.replayer.held.map (·.completion) ++ state.ramQueue.map (·.completion) ++
    state.diskQueue.map (·.completion)
  answered := state.answers.map Prod.fst
  popped := state.popped

/-- Requests were popped in the order they were accepted, the queues keep to their capacities, and
every accepted request is in one place: queued, being replayed or answered once. -/
structure Orderly (state : BufferState) : Prop where
  popped_sorted : state.popped.Pairwise (· ≤ ·)
  ram_le : state.ramQueue.length ≤ state.ramCapacity
  pending_le : state.pendingCount ≤ state.totalCapacity
  placed_once : ∀ completion < state.accepted,
    (state.answers.map Prod.fst ++ state.replayer.held.map (·.completion) ++
      state.ramQueue.map (·.completion) ++ state.diskQueue.map (·.completion)).count completion = 1

/-- A request is accepted into memory only while none is on disk, and only where there is room for
the one being replayed as well; and the spool file that is read is readable. -/
def Unhurried (state : BufferState) :
    BufferEvent → Prop
  | .enqueue _ _ =>
      (state.pendingCount < state.totalCapacity →
        state.pendingCount + state.replayer.held.length < state.totalCapacity) ∧
      (state.ramQueue.length < state.ramCapacity → state.diskQueue = [] ∧
        (∀ item ∈ state.replayer.held, item.onDisk = false) ∧
        state.ramQueue.length + state.replayer.held.length < state.ramCapacity)
  | .pop => state.ramQueue = [] → ∀ entry ∈ state.diskQueue.head?, (state.files entry.id).isSome
  | _ => True

instance (state : BufferState) (event : BufferEvent) :
    Decidable (state.Unhurried event) := by
  unfold Unhurried
  split <;> infer_instance

/-- There is room for the item being replayed, and nothing is in memory before one from disk. -/
structure Roomy (state : BufferState) : Prop where
  pending_le : state.pendingCount + state.replayer.held.length ≤ state.totalCapacity
  ram_le : state.ramQueue.length ≤ state.ramCapacity
  held_ram : ∀ item ∈ state.replayer.held, item.onDisk = false →
    state.ramQueue.length < state.ramCapacity
  held_disk : ∀ item ∈ state.replayer.held, item.onDisk → state.ramQueue = []

variable {state next : BufferState}

section
variable (roomy : state.Roomy)
include roomy

private theorem enqueue_step {request : BufferedRouteRequest} {written : Except String Unit}
    (unhurried : state.Unhurried (.enqueue request written)) :
    let next := (state.enqueue request written).2
    state.ledger.Step next.ledger ∧ next.Roomy := by
  obtain ⟨spare, inMemory⟩ := unhurried
  have joins := Ledger.Step.join state.accepted state.ledger.line state.ledger.answered state.popped
  unfold enqueue
  split
  case isTrue => exact ⟨.stay _, roomy⟩
  case isFalse full =>
    have room := spare (Nat.lt_of_not_le full)
    unfold pendingCount at room
    split
    case isTrue fits =>
      obtain ⟨empty, fromRam, -⟩ := inMemory fits
      refine ⟨by simpa [ledger, empty] using joins, ?_, ?_, ?_, ?_⟩ <;>
        simp only [pendingCount, length_append, length_singleton]
      · omega
      · omega
      · intro item holds _
        have := length_pos_of_mem holds
        omega
      · intro item holds onDisk
        simp [fromRam item holds] at onDisk
    case isFalse =>
      split
      case h_1 => exact ⟨.stay _, roomy.1, roomy.2, roomy.3, roomy.4⟩
      case h_2 =>
        refine ⟨by simpa [ledger] using joins, ?_, roomy.ram_le, roomy.held_ram, roomy.held_disk⟩
        simp only [pendingCount, length_append, length_singleton]
        omega

private theorem popNext_step (unhurried : state.Unhurried .pop) (idle : state.replayer = .popping) :
    state.ledger.Step state.popNext.ledger ∧ state.popNext.Roomy := by
  obtain ⟨pending_le, ram_le, -, -⟩ := roomy
  unfold pendingCount at pending_le
  unfold popNext
  split
  case h_1 entry rest memory =>
    have pops := Ledger.Step.pop state.accepted entry.completion
      (rest.map (·.completion) ++ state.diskQueue.map (·.completion)) state.ledger.answered
      state.popped
    refine ⟨by simpa [ledger, take, held, idle, memory] using pops, ?_⟩
    simp only [held, idle, memory, length_cons, length_nil] at pending_le ram_le
    refine ⟨?_, ?_, ?_, ?_⟩ <;> simp [take, pendingCount, held] <;> omega
  case h_2 entry rest memory disk =>
    obtain ⟨_, read⟩ := Option.isSome_iff_exists.mp (unhurried memory entry (by simp [disk]))
    have pops := Ledger.Step.pop state.accepted entry.completion (rest.map (·.completion))
      state.ledger.answered state.popped
    simp only [read]
    refine ⟨by simpa [ledger, take, held, idle, memory, disk] using pops, ?_⟩
    simp only [held, idle, memory, disk, length_cons, length_nil] at pending_le
    refine ⟨?_, ?_, ?_, ?_⟩ <;> simp [take, pendingCount, held, memory]
    omega
  case h_3 memory disk =>
    refine ⟨by simpa [ledger, held, idle, memory, disk] using Ledger.Step.stay _, ?_⟩
    refine ⟨?_, ?_, ?_, ?_⟩ <;> simp [pendingCount, held, memory, disk]

private theorem replay_step {item : BufferedQueueItem} (holds : state.replayer = .replaying item)
    (route : RouteOutcome) : let next := { state.replay item route with replayer := .checking }
    state.ledger.Step next.ledger ∧ next.Roomy := by
  obtain ⟨pending_le, ram_le, held_ram, held_disk⟩ := roomy
  simp only [pendingCount, holds, held, length_singleton, mem_singleton,
    forall_eq] at pending_le held_ram held_disk
  have completes (result : BufferedRouteResult) :
      let next := { state.complete item result with replayer := .checking }
      state.ledger.Step next.ledger ∧ next.Roomy := by
    have answers := Ledger.Step.answer state.accepted item.completion
      (state.ramQueue.map (·.completion) ++ state.diskQueue.map (·.completion))
      state.ledger.answered state.popped
    refine ⟨by simpa [ledger, complete, holds, held] using answers, ?_⟩
    refine ⟨?_, ram_le, ?_, ?_⟩ <;> simp [complete, pendingCount, held]
    omega
  cases route with
  | noPermits =>
    simp only [replay, requeueFront]
    split
    case isTrue onDisk =>
      refine ⟨by simpa [ledger, holds, held, held_disk onDisk] using .stay _, ?_⟩
      refine ⟨?_, ram_le, ?_, ?_⟩ <;> simp [pendingCount, held]
      omega
    case isFalse inMemory =>
      refine ⟨by simpa [ledger, holds, held] using .stay _, ?_⟩
      have := held_ram (by simpa using inMemory)
      refine ⟨?_, ?_, ?_, ?_⟩ <;> simp [pendingCount, held] <;> omega
  | _ => exact completes _

private theorem effect_step (unhurried : state.Unhurried event)
    (effect : BufferEffect state event next) :
    state.ledger.Step next.ledger ∧ next.Roomy := by
  cases effect with
  | enqueued => exact enqueue_step roomy unhurried
  | notified | damaged => exact ⟨.stay _, roomy.1, roomy.2, roomy.3, roomy.4⟩
  | woken resting | emptied _ resting | readied resting =>
    obtain ⟨_, ram_le, -, -⟩ := roomy
    refine ⟨by simpa [ledger, resting, held] using .stay _, ?_, ram_le, ?_, ?_⟩ <;>
      simp_all [pendingCount, held]
  | delayed => exact ⟨.stay _, roomy⟩
  | popped popping => exact popNext_step roomy unhurried popping
  | replayed route holds => exact replay_step roomy holds route

end

/-- The invariant of the buffer. -/
structure Aligned (state : BufferState) : Prop where
  sound : state.ledger.Sound
  roomy : state.Roomy

private theorem Aligned.initial (ramCapacity totalCapacity : Nat) :
    (initial ramCapacity totalCapacity : BufferState).Aligned := by
  refine ⟨⟨.refl _, .nil, .nil, ?_, ?_⟩, ?_⟩
  · simp [ledger, BufferState.initial]
  · simp [ledger, BufferState.initial]
  · constructor <;> simp [BufferState.initial, pendingCount, held]

private theorem Aligned.orderly (aligned : state.Aligned) : state.Orderly := by
  obtain ⟨sound, roomy⟩ := aligned
  refine ⟨sound.popped_sorted, roomy.ram_le, ?_, ?_⟩
  · exact Nat.le_trans (Nat.le_add_right _ _) roomy.pending_le
  · intro completion known
    have once := count_eq_one_of_mem nodup_range (mem_range.mpr known)
    simpa only [ledger, ← append_assoc] using (sound.placed.count_eq completion).trans once

end BufferState

open BufferState

/-- As long as no request is accepted into memory behind one on disk, or into the place of the one
being replayed, the buffer is a queue within its capacities that loses and repeats nothing. -/
theorem buffer_orderly {ramCapacity totalCapacity : Nat} {final : BufferState}
    {events : List BufferEvent}
    (unhurried : bufferMachine.Along Unhurried (initial ramCapacity totalCapacity) events)
    (reached : bufferMachine.run (initial ramCapacity totalCapacity) events = some final) :
    final.Orderly := by
  have kept : bufferMachine.Preserves Unhurried Aligned := by
    intro _ _ _ aligned waits stepped
    obtain ⟨moved, roomy⟩ := effect_step aligned.roomy waits (buffer_effect stepped)
    exact ⟨aligned.sound.step moved, roomy⟩
  exact (Machine.invariant_run kept (.initial ..) unhurried reached).orderly

section

abbrev hostBuffer : BufferState :=
  initial bufferRamRequestCapacity bufferTotalRequestCapacity

def arrivals (count : Nat) : List BufferEvent :=
  replicate count
    (.enqueue ⟨"/api/orders", "orders", getRequest "/api/orders" [], defaultHopLimit⟩ (.ok ()))

/-- The replayer looks at the queues, pops a request and finds its route so. -/
def round (route : RouteOutcome) : List BufferEvent :=
  [.check false, .pop, .replay route]

def replays (count : Nat) : List BufferEvent :=
  (replicate count (round (.executed (.ok (.text 200 ""))))).flatten

def drained : List BufferEvent :=
  arrivals 33 ++ [.notify, .wake] ++ round .noPermits ++ replays 33 ++ [.check false]

/-- Thirty-three requests, the last of them on disk and the first of them put back once. -/
theorem buffer_orderly_drained : ∃ final : BufferState,
    bufferMachine.run hostBuffer drained = some final ∧
      final.Orderly ∧ final.popped = 0 :: range 33 := by
  have run : (bufferMachine.run hostBuffer drained).map (·.popped) = some (0 :: range 33) := by
    decide +kernel
  obtain ⟨final, reached, popped⟩ := Option.map_eq_some_iff.mp run
  exact ⟨final, reached, buffer_orderly (by decide +kernel) reached, popped⟩

/-- A request is accepted while the first one is replayed: its place in memory is taken when it
comes back, and the request on disk is overtaken. -/
theorem buffer_overtaken : ∃ crowded final : BufferState,
    bufferMachine.run hostBuffer
      (arrivals 33 ++ [.notify, .wake, .check false, .pop] ++ arrivals 1 ++
      [.replay .noPermits]) = some crowded ∧
    bufferRamRequestCapacity < crowded.ramQueue.length ∧
    bufferMachine.run crowded (replays 34) = some final ∧
    ¬final.popped.Pairwise (· ≤ ·) := by
  simp only [exists_and_left]
  decide +kernel

end

/-! ## Wake-ups -/

namespace BufferState

/-- The replayer waits with no wake-up stored or on its way only if nothing is queued. -/
def Attentive (state : BufferState) : Prop :=
  state.replayer = .parked → state.permit = false → state.notifying = 0 → state.pendingCount = 0

/-- A spool file that cannot be read is the last of the queue, or another wake-up follows. -/
def Supplied (state : BufferState) : BufferEvent → Prop
  | .pop => ∀ entry rest, state.replayer = .popping → state.ramQueue = [] →
      state.diskQueue = entry :: rest → state.files entry.id = none →
      rest = [] ∨ state.permit ∨ 0 < state.notifying
  | _ => True

variable {state next : BufferState} {event : BufferEvent}

private theorem Attentive.effect (attentive : state.Attentive) (supplied : state.Supplied event)
    (effect : BufferEffect state event next) : next.Attentive := by
  cases effect with
  | enqueued =>
    unfold enqueue
    grind [Attentive, pendingCount]
  | notified | woken | readied | replayed => simp [Attentive]
  | damaged | delayed => exact attentive
  | emptied _ _ empty => exact fun _ _ _ => empty
  | popped popping =>
    unfold popNext
    split
    case h_1 => simp [Attentive, take]
    case h_2 entry rest memory disk =>
      cases file : state.files entry.id with
      | some => simp [Attentive, take]
      | none =>
        intro _ unstored quiet
        rcases supplied entry rest popping memory disk file with last | _ | _
        · simp [pendingCount, memory, last]
        · simp_all
        · simp_all
    case h_3 memory disk => simp [Attentive, pendingCount, memory, disk]

private theorem Supplied.of_attentive
    (attends : ∀ next, bufferMachine.step state event = some next → next.Attentive) :
    state.Supplied event := by
  cases event with
  | pop =>
    intro entry rest popping memory disk unreadable
    have attentive := attends state.popNext (by simp [bufferMachine, popping])
    simp only [Attentive, popNext, memory, disk, unreadable, pendingCount, length_nil,
      Nat.zero_add, length_eq_zero_iff] at attentive
    grind
  | _ => trivial

end BufferState

/-- In every state of a run the replayer waits without a wake-up only if nothing is queued, exactly
when no spool file that cannot be read is popped before other requests without a wake-up to
follow. -/
theorem replayer_attentive_iff (ramCapacity totalCapacity : Nat)
    (events : List BufferEvent) :
    bufferMachine.Throughout Attentive (initial ramCapacity totalCapacity) events ↔
      bufferMachine.Along Supplied (initial ramCapacity totalCapacity) events := by
  have start : (initial ramCapacity totalCapacity : BufferState).Attentive :=
    fun _ _ _ => rfl
  refine Machine.throughout_iff_along (fun _ _ _ (_ : True) _ => trivial) ?_ ?_ events trivial start
  · exact fun _ _ _ _ attentive supplied stepped =>
      attentive.effect supplied (buffer_effect stepped)
  · exact fun _ _ _ _ => .of_attentive

/-- The only wake-up is used up when the file of the first of two requests on disk is found
unreadable. -/
theorem replayer_asleep : ∃ final : BufferState,
    bufferMachine.run hostBuffer (arrivals 34 ++ replicate 34 .notify ++ [.wake] ++ replays 32 ++
      [.damage 32, .check false, .pop]) = some final ∧ ¬final.Attentive := by
  simp only [BufferState.Attentive]
  decide +kernel

/-! ## Overruns and losses -/

namespace BufferState

/-- With the item being replayed, the queues exceed their capacities by at most one. No request is
in two places, and if nothing was to be lost, each is in one. -/
structure Slack (lossless : Prop) (state : BufferState) : Prop where
  ram_le : state.ramQueue.length + state.replayer.held.countP (!·.onDisk) ≤ state.ramCapacity + 1
  pending_le : state.pendingCount + state.replayer.held.length ≤ state.totalCapacity + 1
  once : ∀ completion, (state.ledger.answered ++ state.ledger.line).count completion ≤
    if completion < state.accepted then 1 else 0
  kept : lossless → ∀ completion < state.accepted,
    completion ∈ state.ledger.answered ++ state.ledger.line

/-- The spool file that is read is readable. -/
def Readable (state : BufferState) (event : BufferEvent) : Prop :=
  event = .pop → state.Unhurried .pop

private theorem Slack.effect {state next : BufferState} {lossless : Prop}
    (slack : state.Slack lossless)
    (readable : lossless → state.Readable event) (effect : BufferEffect state event next) :
    next.Slack lossless := by
  obtain ⟨ram_le, pending_le, once, kept⟩ := slack
  have single : state.replayer.held.length ≤ 1 := by cases state.replayer <;> simp [held]
  have part := state.replayer.held.countP_le_length (p := (!·.onDisk))
  simp only [pendingCount, ledger, count_append, mem_append] at pending_le once kept
  cases effect with
  | enqueued =>
    unfold enqueue
    constructor <;> grind [pendingCount, ledger]
  | notified | damaged | delayed => constructor <;> grind [pendingCount, ledger]
  | woken | emptied | readied => constructor <;> grind [pendingCount, ledger, held]
  | popped =>
    unfold popNext
    constructor <;> grind [take, pendingCount, ledger, held, Readable, Unhurried]
  | replayed route =>
    cases route <;> constructor <;>
      grind [replay, complete, requeueFront, pendingCount, ledger, held]

end BufferState

/-- However requests come and go, the buffer overruns by at most one and repeats nothing, and it
loses nothing but what a spool file that cannot be read held. -/
theorem buffer_overrun_bounded (ramCapacity totalCapacity : Nat) (events : List BufferEvent) :
    let start := initial ramCapacity totalCapacity
    bufferMachine.Along (fun state _ => state.Slack False) start events ∧
    (bufferMachine.Along Readable start events →
      bufferMachine.Along (fun state _ => state.Slack True) start events) := by
  intro start
  have slack (lossless : Prop)
      (readable : bufferMachine.Along (fun state event => lossless → state.Readable event) start
        events) : bufferMachine.Along (fun state _ => state.Slack lossless) start events := by
    refine Machine.along_of_invariant
      (fun slack readable stepped => slack.effect readable (buffer_effect stepped))
      (fun slack _ => slack) ?_ readable
    constructor <;> simp [start, initial, pendingCount, ledger, held]
  refine ⟨slack False ?_, fun readable => slack True ?_⟩
  · simpa using Machine.along_true _ _
  · simpa using readable

end TachyonMesh.Dispatch
