import TachyonMesh.Volumes.Identity

/-! # Hibernation of volumes

A hibernating volume is a directory that is moved to the core store when it has been
idle, and back when it is needed again. `VolumeManager` keeps a record for each pair of a
route and a guest path: a life cycle, the number of leases and a generation. Requests take
leases, idle timers hibernate, and both leave the moving to the storage broker, which also
writes files for guests, without a lease. The broker has one queue and one worker for each
path; a path is known by the directory it leads to while that directory exists and by its
own name otherwise, so one directory can have two queues. Directories may lie in one another,
and removing or replacing one takes along what lies in it.

Every critical section, every enqueued operation and everything the worker does is a step;
tasks take their steps in any order and may be dropped where they await something.
-/

namespace TachyonMesh.Volumes
open Foundation Function

/-! ## Files -/

/-- A path by its components, of which an absolute path has `/` as its first. -/
abbrev HostPath := List String

/-- What lies at a path. -/
inductive Node where
  | directory
  | file (content : String)

/-- What there is at each path, or below a directory at each path from there. -/
abbrev Tree := HostPath → Option Node

namespace Tree
variable (tree : Tree) (root : HostPath)

/-- What lies in a directory. -/
def below : Tree := fun rest => tree (root ++ rest)

/-- Something else in the place of a directory and of all that lies in it. -/
def replace (planted : Tree) : Tree := fun path =>
  if root <+: path then planted (path.drop root.length) else tree path

/-- `fs::remove_dir_all`. -/
def removeDirAll : Tree := tree.replace root fun _ => none

/-- `fs::create_dir_all`. -/
def createDirAll : Tree := fun path =>
  if path <+: root then some ((tree path).getD .directory) else tree path

/-- `DirectorySnapshot::restore` and `copy_directory_tree`: an empty directory is made anew
and filled. -/
def restore (entries : Tree) : Tree :=
  (tree.replace root
    fun rest => if rest = [] then some .directory else entries rest).createDirAll root

end Tree

/-- How a write treats the file. -/
inductive StorageWriteMode where
  | overwrite
  | append

/-- A write of the broker to a file. -/
structure Write where
  target : HostPath
  mode : StorageWriteMode
  body : String

/-- `process_storage_write_request`. -/
def Write.apply (tree : Tree) (write : Write) : Tree :=
  let before := match tree write.target with
    | some (.file content) => content
    | _ => ""
  let content := match write.mode with
    | .overwrite => write.body
    | .append => before ++ write.body
  (tree.createDirAll write.target.dropLast).replace write.target fun _ => some (.file content)

/-- `file_stem`: the name up to its last dot, unless that is its first character. -/
def fileStem (name : String) : String :=
  match name.toList.reverse.dropWhile (· != '.') with
  | _ :: last :: rest => String.ofList (last :: rest).reverse
  | _ => name

/-- `snapshot_path_for_volume`. -/
def snapshotPathForVolume (activePath : HostPath) : HostPath :=
  activePath.dropLast ++ (activePath.getLast?.map fun name => fileStem name ++ ".snapshot").toList

/-! ## Records -/

/-- A volume of a route that is capable of hibernation. -/
structure HibernationVolume where
  path : VolumePath
  hostPath : HostPath
deriving DecidableEq

/-- The hibernating volumes of a host and its directories: `canonicalize` is where a path leads
when there is something. -/
structure VolumeHost where
  volumes : List HibernationVolume
  canonicalize : HostPath → HostPath
  canonical : ∀ path, canonicalize (canonicalize path) = canonicalize path

/-- A host whose paths lead where they say. -/
def VolumeHost.literal (volumes : List HibernationVolume) : VolumeHost where
  volumes
  canonicalize := id
  canonical _ := rfl

/-- `normalize_path`. -/
def VolumeHost.normalizePath (host : VolumeHost) (disk : Tree) (path : HostPath) : HostPath :=
  if (disk (host.canonicalize path)).isSome then host.canonicalize path else path

/-- A normalized path leads where the path leads. -/
theorem VolumeHost.canonicalize_normalizePath (host : VolumeHost) (disk : Tree)
    (path : HostPath) :
    host.canonicalize (host.normalizePath disk path) = host.canonicalize path := by
  unfold normalizePath
  split
  · exact host.canonical path
  · rfl

/-- `ManagedVolumeLifecycle`; the task that made it hibernating is there for the proofs. -/
inductive Lifecycle where
  | active
  | hibernating (task : Nat)
  | onDisk
deriving DecidableEq

/-- `ManagedVolume` with its state. A lease is an object in memory, so their number does not
reach the bound of a `usize`. -/
structure ManagedVolume where
  key : String
  id : String
  activePath : HostPath
  lifecycle : Lifecycle
  activeLeases : Nat
  generation : Nat

namespace ManagedVolume

/-- `ManagedVolume::new`. -/
def new (host : VolumeHost) (disk : Tree) (volume : HibernationVolume) : ManagedVolume where
  key := managedVolumeKey volume.path
  id := managedVolumeId volume.path
  activePath := host.normalizePath disk volume.hostPath
  lifecycle := .active
  activeLeases := 0
  generation := 0

variable (managed : ManagedVolume)

def nextGeneration : Nat := saturatingAdd u64Max managed.generation 1

/-- Another life cycle, in a new generation. -/
def become (lifecycle : Lifecycle) : ManagedVolume :=
  { managed with lifecycle, generation := managed.nextGeneration }

def lease : ManagedVolume :=
  { managed with
    activeLeases := managed.activeLeases + 1
    generation := managed.nextGeneration }

/-- The critical section of `release`. -/
def release : ManagedVolume :=
  { managed with
    activeLeases := managed.activeLeases - 1
    generation := managed.nextGeneration }

/-- The generation for which `release` schedules a timer. -/
def idleGeneration : Option Nat :=
  if managed.lifecycle = .active ∧ managed.activeLeases = 0 then some managed.generation else none

/-- What the timer of a generation tests. -/
def idle (generation : Nat) : Bool :=
  managed.lifecycle = .active && managed.activeLeases = 0 && managed.generation = generation

variable {managed} in
theorem of_idle {generation : Nat} (idle : managed.idle generation) :
    managed.lifecycle = .active ∧ managed.activeLeases = 0 := by
  simp only [ManagedVolume.idle, Bool.and_eq_true, decide_eq_true_eq] at idle
  exact idle.1

end ManagedVolume

/-! ## Tasks and operations -/

/-- What a task has set a record to hibernating for. -/
inductive Work where
  /-- A request restores the volume that it needs. -/
  | restore (volume : HibernationVolume)
  /-- An idle timer takes a snapshot. -/
  | snapshot
deriving DecidableEq

/-- How a job of the broker ends. -/
inductive Outcome where
  | ok
  | error
  | closed
deriving DecidableEq

/-- Where a task stands. `record` is the place of the record it works on. -/
inductive VolumeTask where
  /-- `acquire` tests the state next. -/
  | testing (volume : HibernationVolume) (record : Nat)
  /-- `acquire` has found the volume hibernating and registers for a notification next. -/
  | registering (volume : HibernationVolume) (record : Nat)
  | waiting (volume : HibernationVolume) (record : Nat)
  | holding (volume : HibernationVolume) (record : Nat)
  /-- `release` schedules the timer and notifies next. -/
  | releasing (record : Nat) (generation : Option Nat)
  /-- The timer sleeps. -/
  | sleeping (record generation : Nat)
  /-- The operation is enqueued next. -/
  | starting (work : Work) (record : Nat)
  /-- The completion of the operation is awaited. -/
  | queued (work : Work) (record : Nat)
  /-- The completion has come. -/
  | answered (work : Work) (record : Nat) (outcome : Outcome)
  | finished
deriving DecidableEq

/-- The life cycle after an operation. -/
def Work.lifecycle : Work → Outcome → Lifecycle
  | .restore _, .ok => .active
  | .restore _, _ => .onDisk
  | .snapshot, .ok => .onDisk
  | .snapshot, _ => .active

/-- What the task does after an operation: a request that has restored the volume tests again. -/
def Work.stage (record : Nat) : Work → Outcome → VolumeTask
  | .restore volume, .ok => .testing volume record
  | _, _ => .finished

namespace VolumeTask

/-- A registered task of the record goes back to its test. -/
def woken (record : Nat) : VolumeTask → VolumeTask
  | .waiting volume place => if place = record then .testing volume place else .waiting volume place
  | stage => stage

/-- A completion comes to a task that awaits it. -/
def answer (outcome : Outcome) : VolumeTask → VolumeTask
  | .queued work record => .answered work record outcome
  | stage => stage

end VolumeTask

/-- `StorageBrokerOperation`. -/
inductive Operation where
  | write (write : Write)
  /-- A snapshot or a restore, for the task that awaits it. -/
  | transfer (work : Work) (task record : Nat)

def Operation.asks (task : Nat) : Operation → Bool
  | .write _ => false
  | .transfer _ other _ => other = task

/-- `StorageVolumeQueue`: a worker that has ended takes nothing any more. -/
structure StorageQueue where
  pending : List Operation
  available : Bool

/-- How the worker gets on with an operation. -/
inductive Attempt where
  | done
  /-- It fails. `stored` says whether the snapshot was put into the store before, and `left`
  is what is left of a file or directory that was being written, removed or restored. -/
  | failed (stored : Bool) (left : Tree)

def Attempt.outcome : Attempt → Outcome
  | .done => .ok
  | .failed _ _ => .error

/-! ## The state of a host -/

/-- The records, their tasks and the broker's queues. -/
structure VolumeState where
  records : List ManagedVolume
  tasks : List VolumeTask
  queues : HostPath → StorageQueue
  disk : Tree
  /-- The hibernation bucket of the core store. -/
  snapshots : String → Option Tree

/-- What may happen to the volumes. -/
inductive VolumeEvent where
  /-- A request calls `acquire` for a volume. -/
  | call (volume : HibernationVolume)
  | proceed (task : Nat)
  | drop (task : Nat)
  /-- A guest asks the broker for a write to a file of a volume. -/
  | write (volumeRoot relativePath : HostPath) (mode : StorageWriteMode) (body : String)
  /-- The worker of a queue takes the next operation. -/
  | work (queue : HostPath) (attempt : Attempt)
  /-- The worker of a queue ends, and its channels close. -/
  | crash (queue : HostPath)

namespace VolumeState
variable (state : VolumeState)

def setTask (task : Nat) (stage : VolumeTask) : VolumeState :=
  { state with tasks := state.tasks.set task stage }

def setRecord (record : Nat) (managed : ManagedVolume) : VolumeState :=
  { state with records := state.records.set record managed }

def spawn (stage : VolumeTask) : VolumeState := { state with tasks := state.tasks ++ [stage] }

/-- All tasks at once come to other places. -/
def retask (change : Nat → VolumeTask → VolumeTask) : VolumeState :=
  { state with tasks := state.tasks.mapIdx change }

/-- `notify_waiters`. -/
def notify (record : Nat) : VolumeState := state.retask fun _ => VolumeTask.woken record

/-- `finish_restore`. -/
def finish (record : Nat) (managed : ManagedVolume) (lifecycle : Lifecycle) : VolumeState :=
  (state.setRecord record (managed.become lifecycle)).notify record

def setQueue (key : HostPath) (queue : StorageQueue) : VolumeState :=
  { state with queues := update state.queues key queue }

def enqueue (key : HostPath) (operation : Operation) : VolumeState :=
  let queue := state.queues key
  state.setQueue key { queue with pending := queue.pending ++ [operation] }

def setDisk (disk : Tree) : VolumeState := { state with disk }

def setSnapshot (id : String) (entries : Option Tree) : VolumeState :=
  { state with snapshots := update state.snapshots id entries }

variable (host : VolumeHost)

/-- `queue_for_volume`: the key of the queue. -/
def queueForVolume (volumeRoot : HostPath) : HostPath := host.normalizePath state.disk volumeRoot

/-- `acquire_route_volumes` for one volume: the record is found by its key or made. -/
def call (volume : HibernationVolume) : VolumeState :=
  match state.records.findIdx? (·.key = managedVolumeKey volume.path) with
  | some record => state.spawn (.testing volume record)
  | none =>
      { state.setDisk (state.disk.createDirAll (host.canonicalize volume.hostPath)) with
        records := state.records ++ [ManagedVolume.new host state.disk volume] }.spawn
          (.testing volume state.records.length)

/-- `acquire`, `release` and the idle timer, one step at a time. -/
def proceed (task : Nat) : Option VolumeState :=
  match state.tasks[task]? with
  | some (.testing volume record) =>
      state.records[record]?.map fun managed =>
        match managed.lifecycle with
        | .active => (state.setRecord record managed.lease).setTask task (.holding volume record)
        | .onDisk => (state.setRecord record (managed.become (.hibernating task))).setTask task
            (.starting (.restore volume) record)
        | .hibernating _ => state.setTask task (.registering volume record)
  | some (.registering volume record) => some (state.setTask task (.waiting volume record))
  | some (.holding _ record) =>
      state.records[record]?.map fun managed =>
        (state.setRecord record managed.release).setTask task
          (.releasing record managed.release.idleGeneration)
  | some (.releasing record generation) =>
      let ended := state.setTask task .finished
      match generation with
      | some generation => some ((ended.spawn (.sleeping record generation)).notify record)
      | none => some (ended.notify record)
  | some (.sleeping record generation) =>
      state.records[record]?.map fun managed =>
        if managed.idle generation then
          (state.setRecord record (managed.become (.hibernating task))).setTask task
            (.starting .snapshot record)
        else state.setTask task .finished
  | some (.starting work record) =>
      state.records[record]?.map fun managed =>
        let key := state.queueForVolume host managed.activePath
        if (state.queues key).available then
          (state.enqueue key (.transfer work task record)).setTask task (.queued work record)
        else
          match work with
          -- The error is passed on at once, and the record stays as it is.
          | .restore _ => state.setTask task .finished
          | .snapshot => (state.setTask task .finished).finish record managed .active
  | some (.answered work record outcome) =>
      state.records[record]?.map fun managed =>
        (state.setTask task (work.stage record outcome)).finish record managed
          (work.lifecycle outcome)
  | _ => none

/-- A request that awaits something, or has not begun, is dropped. -/
def drop (task : Nat) : Option VolumeState :=
  match state.tasks[task]? with
  | some (.testing _ _) | some (.waiting _ _) | some (.queued (.restore _) _)
  | some (.answered (.restore _) _ _) => some (state.setTask task .finished)
  | _ => none

/-- `enqueue_write_target`: the directory is made, then the queue is found. -/
def write (volumeRoot relativePath : HostPath) (mode : StorageWriteMode) (body : String) :
    VolumeState :=
  let root := host.canonicalize volumeRoot
  let created := state.setDisk (state.disk.createDirAll root)
  let key := created.queueForVolume host volumeRoot
  if (state.queues key).available then
    created.enqueue key (.write ⟨root ++ relativePath, mode, body⟩)
  else created

/-- The completion of some tasks' operations is sent. -/
def answer (asking : Nat → Bool) (outcome : Outcome) : VolumeState :=
  state.retask fun task stage => if asking task then stage.answer outcome else stage

/-- `process_storage_snapshot_request`. -/
def processSnapshot (managed : ManagedVolume) (attempt : Attempt) : VolumeState :=
  let root := host.canonicalize managed.activePath
  let stored := state.setSnapshot managed.id (some (state.disk.below root))
  match attempt with
  | .done => stored.setDisk (state.disk.removeDirAll root)
  | .failed true left => stored.setDisk (state.disk.replace root left)
  | .failed false _ => state

/-- `process_storage_restore_request`; when the store has nothing, the directory with the
extension `snapshot` is copied. -/
def processRestore (managed : ManagedVolume) (attempt : Attempt) : VolumeState :=
  let root := host.canonicalize managed.activePath
  match attempt with
  | .done =>
      match state.snapshots managed.id with
      | some entries =>
          (state.setDisk (state.disk.restore root entries)).setSnapshot managed.id none
      | none => state.setDisk (state.disk.restore root
          (state.disk.below (host.canonicalize (snapshotPathForVolume managed.activePath))))
  | .failed _ left => state.setDisk (state.disk.replace root left)

def transfer (work : Work) (managed : ManagedVolume) (attempt : Attempt) : VolumeState :=
  match work with
  | .snapshot => state.processSnapshot host managed attempt
  | .restore _ => state.processRestore host managed attempt

def perform (write : Write) : Attempt → VolumeState
  | .done => state.setDisk (write.apply state.disk)
  | .failed _ left => state.setDisk (state.disk.replace write.target left)

/-- `StorageVolumeQueue::run`, for one operation. -/
def work (key : HostPath) (attempt : Attempt) : Option VolumeState :=
  let queue := state.queues key
  match queue.pending with
  | [] => none
  | .write write :: rest =>
      some ((state.setQueue key { queue with pending := rest }).perform write attempt)
  | .transfer work task record :: rest =>
      state.records[record]?.map fun managed =>
        ((state.setQueue key { queue with pending := rest }).transfer host work managed
          attempt).answer (· = task) attempt.outcome

/-- The worker ends, and with it the completion channels of what it had to do. -/
def crash (key : HostPath) : VolumeState :=
  (state.setQueue key { pending := [], available := false }).answer
    (fun task => (state.queues key).pending.any (·.asks task)) .closed

end VolumeState

namespace VolumeState
variable (state : VolumeState)

theorem queues_setQueue (key other : HostPath) (queue : StorageQueue) :
    (state.setQueue key queue).queues other =
      if other = key then queue else state.queues other :=
  update_apply _ _ _ _

/-- The state with other operations left to do in a queue. -/
abbrev withPending (key : HostPath) (pending : List Operation) : VolumeState :=
  state.setQueue key { state.queues key with pending }

theorem queues_enqueue (key : HostPath) (operation : Operation) :
    (state.enqueue key operation).queues key =
      { state.queues key with pending := (state.queues key).pending ++ [operation] } := by
  rw [enqueue, queues_setQueue, if_pos rfl]

end VolumeState

def volumeMachine (host : VolumeHost) : Machine VolumeState VolumeEvent where
  step state
    | .call volume => if volume ∈ host.volumes then some (state.call host volume) else none
    | .proceed task => state.proceed host task
    | .drop task => state.drop task
    | .write volumeRoot relativePath mode body =>
        some (state.write host volumeRoot relativePath mode body)
    | .work key attempt => state.work host key attempt
    | .crash key => some (state.crash key)

/-- Nothing has been asked for; the directories have the files that they have. -/
def VolumeState.initial (disk : Tree) : VolumeState where
  records := []
  tasks := []
  queues := fun _ => { pending := [], available := true }
  disk
  snapshots := fun _ => none

/-! ## What a task can do -/

/-- What a task's next step does. -/
inductive VolumeState.Proceeds (host : VolumeHost) (state : VolumeState) (task : Nat) :
    VolumeState → Prop
  | lease {volume record managed}
      (stands : state.tasks[task]? = some (.testing volume record))
      (found : state.records[record]? = some managed) (active : managed.lifecycle = .active) :
      Proceeds host state task
        ((state.setRecord record managed.lease).setTask task (.holding volume record))
  | wake {volume record managed}
      (stands : state.tasks[task]? = some (.testing volume record))
      (found : state.records[record]? = some managed) (onDisk : managed.lifecycle = .onDisk) :
      Proceeds host state task
        ((state.setRecord record (managed.become (.hibernating task))).setTask task
          (.starting (.restore volume) record))
  | yield {volume record other managed}
      (stands : state.tasks[task]? = some (.testing volume record))
      (found : state.records[record]? = some managed)
      (busy : managed.lifecycle = .hibernating other) :
      Proceeds host state task (state.setTask task (.registering volume record))
  | register {volume record}
      (stands : state.tasks[task]? = some (.registering volume record)) :
      Proceeds host state task (state.setTask task (.waiting volume record))
  | release {volume record managed}
      (stands : state.tasks[task]? = some (.holding volume record))
      (found : state.records[record]? = some managed) :
      Proceeds host state task
        ((state.setRecord record managed.release).setTask task
          (.releasing record managed.release.idleGeneration))
  | schedule {record generation}
      (stands : state.tasks[task]? = some (.releasing record (some generation))) :
      Proceeds host state task
        (((state.setTask task .finished).spawn (.sleeping record generation)).notify record)
  | released {record} (stands : state.tasks[task]? = some (.releasing record none)) :
      Proceeds host state task ((state.setTask task .finished).notify record)
  | hibernate {record generation managed}
      (stands : state.tasks[task]? = some (.sleeping record generation))
      (found : state.records[record]? = some managed) (idle : managed.idle generation) :
      Proceeds host state task
        ((state.setRecord record (managed.become (.hibernating task))).setTask task
          (.starting .snapshot record))
  | expire {record generation}
      (stands : state.tasks[task]? = some (.sleeping record generation)) :
      Proceeds host state task (state.setTask task .finished)
  | enqueue {work record managed}
      (stands : state.tasks[task]? = some (.starting work record))
      (found : state.records[record]? = some managed)
      (available : (state.queues (state.queueForVolume host managed.activePath)).available) :
      Proceeds host state task
        ((state.enqueue (state.queueForVolume host managed.activePath)
          (.transfer work task record)).setTask task (.queued work record))
  | refuseRestore {volume record managed}
      (stands : state.tasks[task]? = some (.starting (.restore volume) record))
      (found : state.records[record]? = some managed)
      (closed : (state.queues (state.queueForVolume host managed.activePath)).available = false) :
      Proceeds host state task (state.setTask task .finished)
  | refuseSnapshot {record managed}
      (stands : state.tasks[task]? = some (.starting .snapshot record))
      (found : state.records[record]? = some managed)
      (closed : (state.queues (state.queueForVolume host managed.activePath)).available = false) :
      Proceeds host state task ((state.setTask task .finished).finish record managed .active)
  | finish {work record outcome managed}
      (stands : state.tasks[task]? = some (.answered work record outcome))
      (found : state.records[record]? = some managed) :
      Proceeds host state task
        ((state.setTask task (work.stage record outcome)).finish record managed
          (work.lifecycle outcome))

variable {host : VolumeHost} {state next : VolumeState} {task : Nat}

/-- What a task can do next, case by case. -/
theorem proceeds_of_proceed
    (stepped : state.proceed host task = some next) : state.Proceeds host task next := by
  unfold VolumeState.proceed at stepped
  split at stepped
  · next volume record stands =>
    obtain ⟨managed, found, rfl⟩ := Option.map_eq_some_iff.mp stepped
    cases lifecycle : managed.lifecycle with
    | active => exact .lease stands found lifecycle
    | onDisk => exact .wake stands found lifecycle
    | hibernating => exact .yield stands found lifecycle
  · next volume record stands =>
    cases stepped
    exact .register stands
  · next _ record stands =>
    obtain ⟨_, found, rfl⟩ := Option.map_eq_some_iff.mp stepped
    exact .release stands found
  · next record generation stands =>
    cases generation with
    | some =>
      cases stepped
      exact .schedule stands
    | none =>
      cases stepped
      exact .released stands
  · next record _ stands =>
    obtain ⟨_, found, rfl⟩ := Option.map_eq_some_iff.mp stepped
    split
    · next idle => exact .hibernate stands found idle
    · exact .expire stands
  · next work record stands =>
    obtain ⟨_, found, rfl⟩ := Option.map_eq_some_iff.mp stepped
    dsimp only
    split
    · next available => exact .enqueue stands found available
    · next closed =>
      have closed := Bool.eq_false_of_not_eq_true closed
      cases work with
      | restore => exact .refuseRestore stands found closed
      | snapshot => exact .refuseSnapshot stands found closed
  · next _ _ _ stands =>
    obtain ⟨_, found, rfl⟩ := Option.map_eq_some_iff.mp stepped
    exact .finish stands found
  · cases stepped

/-- What the worker of a queue can do: a write, or a snapshot or a restore with its answer. -/
theorem work_eq_some {key : HostPath} {attempt : Attempt}
    (stepped : state.work host key attempt = some next) :
    (∃ write rest, (state.queues key).pending = .write write :: rest ∧
      next = (state.withPending key rest).perform write attempt) ∨
    ∃ work task record rest managed,
      (state.queues key).pending = .transfer work task record :: rest ∧
      state.records[record]? = some managed ∧
      next = ((state.withPending key rest).transfer host work managed attempt).answer
        (· = task) attempt.outcome := by
  unfold VolumeState.work at stepped
  dsimp only at stepped
  split at stepped
  · cases stepped
  · next write rest pending =>
    cases stepped
    exact .inl ⟨write, rest, pending, rfl⟩
  · next work task record rest pending =>
    obtain ⟨managed, found, rfl⟩ := Option.map_eq_some_iff.mp stepped
    exact .inr ⟨work, task, record, rest, managed, pending, found, rfl⟩

/-- What may be dropped: nothing that has been leased, or that holds a lock. -/
theorem drop_eq_some (stepped : state.drop task = some next) :
    next = state.setTask task .finished ∧ ∃ stage, state.tasks[task]? = some stage ∧
      (∃ volume record, stage = .testing volume record ∨ stage = .waiting volume record ∨
        stage = .queued (.restore volume) record ∨
        ∃ outcome, stage = .answered (.restore volume) record outcome) := by
  unfold VolumeState.drop at stepped
  split at stepped <;> cases stepped
  · next volume record stands => exact ⟨rfl, _, stands, volume, record, .inl rfl⟩
  · next volume record stands => exact ⟨rfl, _, stands, volume, record, .inr (.inl rfl)⟩
  · next volume record stands => exact ⟨rfl, _, stands, volume, record, .inr (.inr (.inl rfl))⟩
  · next volume record outcome stands =>
    exact ⟨rfl, _, stands, volume, record, .inr (.inr (.inr ⟨outcome, rfl⟩))⟩

end TachyonMesh.Volumes
