import TachyonMesh.Foundation.Slots
import TachyonMesh.Volumes.Lifecycle

/-! # Who works on a volume

What holds in every state, whatever the broker does and whichever tasks are dropped: the
leases of a record are counted, a record that is not active has none, and a record that
hibernates belongs to one task, which is alone in working on it and has at most one
operation in the queues of the broker.
-/

namespace TachyonMesh.Volumes
open Foundation List

namespace VolumeTask

/-- The volume that a request needs, with the record that it was given. -/
def serves : VolumeTask → Option (HibernationVolume × Nat)
  | .testing volume record | .registering volume record | .waiting volume record
  | .holding volume record | .starting (.restore volume) record | .queued (.restore volume) record
  | .answered (.restore volume) record _ => some (volume, record)
  | _ => none

def worksOn : VolumeTask → Option Nat
  | .starting _ record | .queued _ record | .answered _ record _ => some record
  | _ => none

def holds (record : Nat) : VolumeTask → Bool
  | .holding _ place => place = record
  | _ => false

/-- The task does not await the broker and has not ended. -/
def Runs : VolumeTask → Prop
  | .queued _ _ | .finished => False
  | _ => True

/-- A change of place after which the task does what it did. -/
structure Keeps (before after : VolumeTask) : Prop where
  serves : after.serves = before.serves
  worksOn : after.worksOn = before.worksOn
  holds : ∀ record, after.holds record = before.holds record
  finished : before = .finished → after = .finished

private theorem Keeps.refl (stage : VolumeTask) : Keeps stage stage := ⟨rfl, rfl, fun _ => rfl, id⟩

private theorem keeps_woken (record : Nat) (stage : VolumeTask) :
    Keeps stage (stage.woken record) := by
  cases stage with
  | waiting _ _ =>
    simp only [woken]
    split
    · exact ⟨rfl, rfl, fun _ => rfl, nofun⟩
    · exact .refl _
  | _ => exact .refl _

theorem woken_of_worksOn {record : Nat} {stage : VolumeTask} (works : stage.worksOn = some record)
    (place : Nat) : stage.woken place = stage := by
  cases stage with
  | waiting => cases works
  | _ => rfl

theorem keeps_answer (outcome : Outcome) (stage : VolumeTask) :
    Keeps stage (stage.answer outcome) := by
  cases stage with
  | queued work =>
    cases work with
    | restore | snapshot => exact ⟨rfl, rfl, fun _ => rfl, nofun⟩
  | _ => exact .refl _

end VolumeTask

open VolumeTask

namespace VolumeState

/-- The record was made for one of the volumes, and its path leads to the volume's directory. -/
def Made (host : VolumeHost) (managed : ManagedVolume) : Prop :=
  ∃ volume ∈ host.volumes, managed.key = managedVolumeKey volume.path ∧
    host.canonicalize managed.activePath = host.canonicalize volume.hostPath

/-- What holds in every reachable state. -/
structure Valid (host : VolumeHost) (state : VolumeState) : Prop where
  made : ∀ (place : Nat) (managed : ManagedVolume), state.records[place]? = some managed →
    Made host managed
  distinct : ∀ (first second : Nat) (left right : ManagedVolume),
    state.records[first]? = some left → state.records[second]? = some right →
    left.key = right.key → first = second
  served : ∀ (task : Nat) (stage : VolumeTask), state.tasks[task]? = some stage →
    ∀ volume record, stage.serves = some (volume, record) → volume ∈ host.volumes ∧
      ∃ managed, state.records[record]? = some managed ∧ managed.key = managedVolumeKey volume.path
  working : ∀ (task : Nat) (stage : VolumeTask), state.tasks[task]? = some stage →
    ∀ record, stage.worksOn = some record →
      ∃ managed, state.records[record]? = some managed ∧ managed.lifecycle = .hibernating task
  leased : ∀ (place : Nat) (managed : ManagedVolume), state.records[place]? = some managed →
    managed.activeLeases = state.tasks.countP (·.holds place)
  unleased : ∀ (place : Nat) (managed : ManagedVolume), state.records[place]? = some managed →
    managed.lifecycle ≠ .active → managed.activeLeases = 0
  queued : ∀ key work task record, .transfer work task record ∈ (state.queues key).pending →
    (∃ managed, state.records[record]? = some managed ∧ managed.lifecycle = .hibernating task) ∧
    (state.tasks[task]? = some (.queued work record) ∨ state.tasks[task]? = some .finished)
  single : ∀ key task, (state.queues key).pending.Pairwise fun earlier later =>
    ¬(earlier.asks task ∧ later.asks task)
  oneQueue : ∀ first second task, ∀ left ∈ (state.queues first).pending, left.asks task →
    ∀ right ∈ (state.queues second).pending, right.asks task → first = second

theorem valid_initial (host : VolumeHost) (disk : Tree) : (initial disk).Valid host where
  made := nofun
  distinct := nofun
  served := nofun
  working := nofun
  leased := nofun
  unleased := nofun
  queued := nofun
  single _ _ := List.Pairwise.nil
  oneQueue := nofun

variable {host : VolumeHost} {state : VolumeState} {task place : Nat} {stage : VolumeTask}
  {volume : HibernationVolume} {key : HostPath} {operation : Operation} {next : VolumeState}

private theorem fresh_of_missing {key : String}
    (missing : state.records.findIdx? (·.key = key) = none) :
    ∀ managed ∈ state.records, managed.key ≠ key :=
  fun managed listed => of_decide_eq_false (findIdx?_eq_none_iff.mp missing managed listed)

/-- A running task has nothing in a queue. -/
theorem Valid.not_asked (valid : state.Valid host) (stands : state.tasks[task]? = some stage)
    (runs : stage.Runs) (key : HostPath) (work : Work) (record : Nat) :
    .transfer work task record ∉ (state.queues key).pending := by
  intro member
  obtain awaits | awaits := (valid.queued key work task record member).2
  all_goals
    cases stands.symm.trans awaits
    exact runs

/-- The other fields do not matter. -/
theorem Valid.of_same {other : VolumeState} (valid : state.Valid host)
    (records : other.records = state.records) (tasks : other.tasks = state.tasks)
    (queues : other.queues = state.queues) : other.Valid host := by
  obtain ⟨made, distinct, served, working, leased, unleased, queued, single, oneQueue⟩ := valid
  exact
    { made := records ▸ made
      distinct := records ▸ distinct
      served := tasks ▸ records ▸ served
      working := tasks ▸ records ▸ working
      leased := tasks ▸ records ▸ leased
      unleased := records ▸ unleased
      queued := queues ▸ tasks ▸ records ▸ queued
      single := queues ▸ single
      oneQueue := queues ▸ oneQueue }

/-! ## A task and its record change -/

section
variable {task place : Nat} {before after : VolumeTask} {managed changed : ManagedVolume}

/-- What a change of a record keeps. -/
structure SameVolume (managed changed : ManagedVolume) : Prop where
  key : changed.key = managed.key
  activePath : changed.activePath = managed.activePath

variable (valid : state.Valid host) (stands : state.tasks[task]? = some before)
include valid stands

/-- A running task and its record change together; no one else works on the record. -/
theorem Valid.change (found : state.records[place]? = some managed) (runs : before.Runs)
    (same : SameVolume managed changed)
    (alone : changed.lifecycle = managed.lifecycle ∨ ∀ other, managed.lifecycle =
      .hibernating other → other = task)
    (serves : ∀ volume record, after.serves = some (volume, record) →
      before.serves = some (volume, record))
    (works : ∀ record, after.worksOn = some record →
      record = place ∧ changed.lifecycle = .hibernating task)
    (leases : changed.activeLeases + (if before.holds place then 1 else 0) =
      managed.activeLeases + if after.holds place then 1 else 0)
    (elsewhere : ∀ other, other ≠ place → before.holds other = after.holds other)
    (unleased : changed.lifecycle ≠ .active → changed.activeLeases = 0) :
    ((state.setRecord place changed).setTask task after).Valid host := by
  have kept {other : Nat} {left : ManagedVolume} (held : state.records[other]? = some left) :
      ∃ right, (state.records.set place changed)[other]? = some right ∧
        SameVolume left right ∧ (other ≠ place → right = left) := by
    by_cases here : other = place
    · subst here
      cases found.symm.trans held
      exact ⟨changed, getElem?_set_of_some found, same, fun apart => absurd rfl apart⟩
    · exact ⟨left, by rw [getElem?_set_ne (Ne.symm here)]; exact held, ⟨rfl, rfl⟩,
        fun _ => rfl⟩
  have keeps {other owner : Nat} {left : ManagedVolume} (apart : owner ≠ task)
      (held : state.records[other]? = some left) (owned : left.lifecycle = .hibernating owner) :
      ∃ right, (state.records.set place changed)[other]? = some right ∧ SameVolume left right ∧
        right.lifecycle = .hibernating owner := by
    obtain ⟨right, holds, volume, unchanged⟩ := kept held
    refine ⟨right, holds, volume, ?_⟩
    by_cases here : other = place
    · subst here
      cases found.symm.trans held
      obtain rfl : changed = right :=
        Option.some.inj ((getElem?_set_of_some found).symm.trans holds)
      obtain stays | only := alone
      · rw [stays, owned]
      · exact absurd (only owner owned) apart
    · rw [unchanged here, owned]
  refine
    { made := forall_set valid.made ?_
      distinct := ?_
      served := ?_
      working := ?_
      leased := ?_
      unleased := forall_set valid.unleased unleased
      queued := ?_
      single := valid.single
      oneQueue := valid.oneQueue }
  · obtain ⟨volume, member, key, leads⟩ := valid.made _ _ found
    exact ⟨volume, member, same.key.trans key, by rw [same.activePath, leads]⟩
  · intro first second left right atFirst atSecond keys
    have known : ∀ (other : Nat) (right : ManagedVolume),
        (state.records.set place changed)[other]? = some right →
        ∃ left, state.records[other]? = some left ∧ left.key = right.key :=
      forall_set (fun _ right held => ⟨right, held, rfl⟩) ⟨managed, found, same.key.symm⟩
    obtain ⟨_, atFirst, leftKey⟩ := known _ _ atFirst
    obtain ⟨_, atSecond, rightKey⟩ := known _ _ atSecond
    exact valid.distinct _ _ _ _ atFirst atSecond (leftKey.trans (keys.trans rightKey.symm))
  · intro other stage held volume record named
    have earlier : volume ∈ host.volumes ∧ ∃ managed, state.records[record]? = some managed ∧
        managed.key = managedVolumeKey volume.path :=
      forall_set valid.served (fun volume record named =>
        valid.served _ _ stands volume record (serves volume record named)) _ _ held _ _ named
    obtain ⟨member, _, holds, key⟩ := earlier
    obtain ⟨right, holds, volumeKept, -⟩ := kept holds
    exact ⟨member, right, holds, volumeKept.key.trans key⟩
  · intro other stage held record named
    obtain ⟨rfl, rfl⟩ | ⟨apart, held⟩ := getElem?_set_cases held
    · obtain ⟨rfl, owned⟩ := works record named
      exact ⟨changed, getElem?_set_of_some found, owned⟩
    · obtain ⟨_, holds, owned⟩ := valid.working _ _ held record named
      obtain ⟨right, holds, -, owned⟩ := keeps apart holds owned
      exact ⟨right, holds, owned⟩
  · intro other right held
    have counted := countP_set_add (·.holds other) after stands
    change _ = (state.tasks.set task after).countP _
    obtain ⟨rfl, rfl⟩ | ⟨apart, held⟩ := getElem?_set_cases held
    · have leased := valid.leased _ _ found
      omega
    have leased := valid.leased _ _ held
    have neither := elsewhere other apart
    rw [neither] at counted
    omega
  · intro key work asking record member
    have apart : asking ≠ task := by
      rintro rfl
      exact valid.not_asked stands runs key work record member
    obtain ⟨⟨_, holds, owned⟩, awaits⟩ := valid.queued key work asking record member
    obtain ⟨right, holds, -, owned⟩ := keeps apart holds owned
    refine ⟨⟨right, holds, owned⟩, ?_⟩
    change (state.tasks.set task after)[asking]? = _ ∨ (state.tasks.set task after)[asking]? = _
    rw [getElem?_set_ne (Ne.symm apart)]
    exact awaits

section
variable (serves : ∀ volume record, after.serves = some (volume, record) →
    before.serves = some (volume, record))
  (works : ∀ record, after.worksOn = some record → before.worksOn = some record)
  (holds : ∀ record, before.holds record = after.holds record)
include serves works holds

/-- A task changes and its record does not. -/
theorem Valid.retaskOne
    (asked : ∀ key work record, .transfer work task record ∈ (state.queues key).pending →
      after = .queued work record ∨ after = .finished) :
    (state.setTask task after).Valid host where
  __ := valid
  served := forall_set valid.served fun volume record named =>
    valid.served _ _ stands volume record (serves volume record named)
  working := forall_set valid.working fun record named =>
    valid.working _ _ stands record (works record named)
  leased other right held := by
    have counted := countP_set_add (·.holds other) after stands
    have leased := valid.leased _ _ held
    rw [holds other] at counted
    change _ = (state.tasks.set task after).countP _
    omega
  queued key work asking record member := by
    obtain ⟨owned, awaits⟩ := valid.queued key work asking record member
    refine ⟨owned, ?_⟩
    change (state.tasks.set task after)[asking]? = _ ∨ (state.tasks.set task after)[asking]? = _
    by_cases same : asking = task
    · subst same
      rw [getElem?_set_of_some stands, Option.some.injEq, Option.some.injEq]
      exact asked key work record member
    · rw [getElem?_set_ne (Ne.symm same)]
      exact awaits

private theorem Valid.move (runs : before.Runs) : (state.setTask task after).Valid host :=
  valid.retaskOne stands serves works holds fun key work record member =>
    absurd member (valid.not_asked stands runs key work record)

end

/-- A task ends that has no lease; what it has in a queue stays there. -/
theorem Valid.ended (holds : ∀ record, before.holds record = false) :
    (state.setTask task .finished).Valid host :=
  valid.retaskOne stands nofun nofun holds fun _ _ _ _ => .inr rfl

end

/-! ## All tasks change -/

theorem getElem?_retask {change : Nat → VolumeTask → VolumeTask}
    (held : (state.retask change).tasks[task]? = some stage) :
    ∃ before, state.tasks[task]? = some before ∧ stage = change task before := by
  rw [retask, getElem?_mapIdx] at held
  obtain ⟨before, stands, rfl⟩ := Option.map_eq_some_iff.mp held
  exact ⟨before, stands, rfl⟩

section
variable (valid : state.Valid host)
include valid

private theorem Valid.retask {change : Nat → VolumeTask → VolumeTask}
    (keeps : ∀ task stage, Keeps stage (change task stage))
    (awaits : ∀ key work task record, .transfer work task record ∈ (state.queues key).pending →
      state.tasks[task]? = some (.queued work record) →
      change task (.queued work record) = .queued work record) :
    (state.retask change).Valid host where
  __ := valid
  served task stage held volume record named := by
    obtain ⟨before, stands, rfl⟩ := getElem?_retask held
    exact valid.served _ _ stands volume record ((keeps task before).serves ▸ named)
  working task stage held record named := by
    obtain ⟨before, stands, rfl⟩ := getElem?_retask held
    exact valid.working _ _ stands record ((keeps task before).worksOn ▸ named)
  leased place managed found := by
    have counted : (state.tasks.mapIdx change).countP (·.holds place) =
        state.tasks.countP (·.holds place) :=
      countP_mapIdx fun task stage => (keeps task stage).holds place
    exact (valid.leased _ _ found).trans counted.symm
  queued key work task record member := by
    obtain ⟨owned, stands⟩ := valid.queued key work task record member
    refine ⟨owned, ?_⟩
    change (state.tasks.mapIdx change)[task]? = _ ∨ (state.tasks.mapIdx change)[task]? = _
    rw [getElem?_mapIdx]
    obtain stands | ended := stands
    · rw [stands, Option.map_some, awaits key work task record member stands]
      exact .inl rfl
    · rw [ended, Option.map_some, (keeps task .finished).finished rfl]
      exact .inr rfl

private theorem Valid.notify (record : Nat) : (state.notify record).Valid host :=
  valid.retask (fun _ stage => keeps_woken record stage) fun _ _ _ _ _ _ => rfl

private theorem Valid.answer {asking : Nat → Bool} (outcome : Outcome)
    (unasked : ∀ key work task record, .transfer work task record ∈ (state.queues key).pending →
      state.tasks[task]? = some (.queued work record) → asking task = false) :
    (state.answer asking outcome).Valid host := by
  refine valid.retask ?_ ?_
  · intro task stage
    split
    · exact keeps_answer outcome stage
    · exact .refl stage
  · intro key work task record member stands
    rw [unasked key work task record member stands]
    rfl

/-! ## Tasks, records and operations come and go -/

/-- A new task holds nothing and works on nothing. -/
theorem Valid.spawn (serves : ∀ volume record, stage.serves = some (volume, record) →
      volume ∈ host.volumes ∧ ∃ managed, state.records[record]? = some managed ∧ managed.key =
      managedVolumeKey volume.path)
    (works : stage.worksOn = none) (holds : ∀ record, stage.holds record = false) :
    (state.spawn stage).Valid host where
  __ := valid
  served := forall_push valid.served serves
  working := forall_push valid.working (by simp [works])
  leased place managed found := by
    change _ = (state.tasks ++ [stage]).countP _
    rw [countP_append, countP_singleton, holds place]
    exact valid.leased _ _ found
  queued key work task record member := by
    obtain ⟨owned, stands⟩ := valid.queued key work task record member
    exact ⟨owned, stands.imp getElem?_append_of_some getElem?_append_of_some⟩

/-- A record that no task refers to has no lease. -/
theorem Valid.countP_holds (missing : state.records[place]? = none) :
    state.tasks.countP (·.holds place) = 0 := by
  rw [countP_eq_zero]
  intro stage member holds
  obtain ⟨task, stands⟩ := mem_iff_getElem?.mp member
  cases stage with
  | holding volume record =>
    obtain ⟨-, _, found, -⟩ := valid.served task _ stands volume record rfl
    have same : record = place := of_decide_eq_true holds
    rw [same, missing] at found
    cases found
  | _ => cases holds

private theorem Valid.addRecord (member : volume ∈ host.volumes)
    (fresh : ∀ managed ∈ state.records, managed.key ≠ managedVolumeKey volume.path) :
    { state with records := state.records ++ [ManagedVolume.new host state.disk volume] }.Valid
      host where
  made := forall_push valid.made ⟨volume, member, rfl, host.canonicalize_normalizePath _ _⟩
  distinct first second left right atFirst atSecond keys := by
    obtain atFirst | ⟨lastFirst, rfl⟩ := getElem?_append_singleton atFirst
    · obtain atSecond | ⟨-, rfl⟩ := getElem?_append_singleton atSecond
      · exact valid.distinct _ _ _ _ atFirst atSecond keys
      · exact absurd keys (fresh left (mem_of_getElem? atFirst))
    · obtain atSecond | ⟨lastSecond, rfl⟩ := getElem?_append_singleton atSecond
      · exact absurd keys.symm (fresh right (mem_of_getElem? atSecond))
      · rw [lastFirst, lastSecond]
  served task stage stands needed record named := by
    obtain ⟨known, managed, found, key⟩ := valid.served task stage stands needed record named
    exact ⟨known, managed, getElem?_append_of_some found, key⟩
  working task stage stands record named := by
    obtain ⟨managed, found, owned⟩ := valid.working task stage stands record named
    exact ⟨managed, getElem?_append_of_some found, owned⟩
  leased := forall_push valid.leased (valid.countP_holds (by simp)).symm
  unleased := forall_push valid.unleased fun _ => rfl
  queued key work task record asked := by
    obtain ⟨⟨managed, found, owned⟩, stands⟩ := valid.queued key work task record asked
    exact ⟨⟨managed, getElem?_append_of_some found, owned⟩, stands⟩
  single := valid.single
  oneQueue := valid.oneQueue

/-- Another queue in a place, whose operations no other queue has. -/
theorem Valid.setQueue {queue : StorageQueue}
    (queued : ∀ work task record, .transfer work task record ∈ queue.pending →
      (∃ managed, state.records[record]? = some managed ∧ managed.lifecycle = .hibernating task) ∧
      (state.tasks[task]? = some (.queued work record) ∨ state.tasks[task]? = some .finished))
    (single : ∀ task, queue.pending.Pairwise fun earlier later => ¬(earlier.asks task ∧
      later.asks task))
    (alone : ∀ task, ∀ left ∈ queue.pending, left.asks task →
      ∀ other, ∀ right ∈ (state.queues other).pending, right.asks task → other = key) :
    (state.setQueue key queue).Valid host where
  __ := valid
  queued other work task record member := by
    rw [queues_setQueue] at member
    split at member
    · exact queued work task record member
    · exact valid.queued other work task record member
  single other task := by
    rw [queues_setQueue]
    split
    · exact single task
    · exact valid.single other task
  oneQueue first second task left inFirst asks right inSecond asksToo := by
    rw [queues_setQueue] at inFirst inSecond
    split at inFirst
    · next here =>
      split at inSecond
      · next there => rw [here, there]
      · rw [here, alone task left inFirst asks second right inSecond asksToo]
    · split at inSecond
      · next there => rw [there, alone task right inSecond asksToo first left inFirst asks]
      · exact valid.oneQueue first second task left inFirst asks right inSecond asksToo

private theorem Valid.enqueue (queued : ∀ work task record, operation = .transfer work task record →
      (∃ managed, state.records[record]? = some managed ∧ managed.lifecycle = .hibernating task) ∧
      (state.tasks[task]? = some (.queued work record) ∨ state.tasks[task]? = some .finished))
    (first : ∀ task, operation.asks task →
      ∀ other, ∀ earlier ∈ (state.queues other).pending, earlier.asks task = false) :
    (state.enqueue key operation).Valid host := by
  refine valid.setQueue ?_ ?_ ?_
  · intro work task record member
    obtain member | last := mem_append.mp member
    · exact valid.queued key work task record member
    · exact queued work task record (mem_singleton.mp last).symm
  · intro task
    refine pairwise_append.mpr ⟨valid.single key task, pairwise_singleton _ _, ?_⟩
    rintro earlier member _ last ⟨asked, again⟩
    cases mem_singleton.mp last
    rw [first task again key earlier member] at asked
    cases asked
  · intro task left member asks other right inOther asksToo
    obtain member | last := mem_append.mp member
    · exact valid.oneQueue other key task right inOther asksToo left member asks
    cases mem_singleton.mp last
    rw [first task asks other right inOther] at asksToo
    cases asksToo

private theorem Valid.pop {rest : List Operation}
    (pending : (state.queues key).pending = operation :: rest) :
    (state.withPending key rest).Valid host := by
  have stays {other : Operation} (member : other ∈ rest) : other ∈ (state.queues key).pending :=
    pending ▸ mem_cons_of_mem _ member
  refine valid.setQueue ?_ ?_ ?_
  · intro work task record member
    exact valid.queued key work task record (stays member)
  · intro task
    have all := valid.single key task
    rw [pending] at all
    exact (pairwise_cons.mp all).2
  · intro task left member asks other right inOther asksToo
    exact valid.oneQueue other key task right inOther asksToo left (stays member) asks

/-! ## Steps -/

private theorem Valid.call (member : volume ∈ host.volumes) :
    (state.call host volume).Valid host := by
  unfold VolumeState.call
  split
  · next _ found =>
    obtain ⟨inside, key, -⟩ := findIdx?_eq_some_iff_getElem.mp found
    refine valid.spawn ?_ rfl fun _ => rfl
    rintro _ _ ⟨⟩
    exact ⟨member, _, getElem?_eq_getElem inside, of_decide_eq_true key⟩
  · next missing =>
    have fresh := fresh_of_missing missing
    have extended := valid.addRecord member fresh
    have created : Valid host
        { state.setDisk (state.disk.createDirAll (host.canonicalize volume.hostPath)) with
          records := state.records ++ [.new host state.disk volume] } :=
      extended.of_same rfl rfl rfl
    refine created.spawn ?_ rfl fun _ => rfl
    rintro _ _ ⟨⟩
    exact ⟨member, .new host state.disk volume, by simp, rfl⟩

private theorem Valid.finish {before after : VolumeTask} {managed : ManagedVolume}
    {lifecycle : Lifecycle}
    (stands : state.tasks[task]? = some before) (found : state.records[place]? = some managed)
    (runs : before.Runs) (works : before.worksOn = some place) (rests : after.worksOn = none)
    (serves : ∀ volume record, after.serves = some (volume, record) →
      before.serves = some (volume, record))
    (holds : ∀ record, before.holds record = after.holds record) :
    ((state.setTask task after).finish place managed lifecycle).Valid host := by
  obtain ⟨_, foundToo, hibernates⟩ := valid.working task before stands place works
  cases found.symm.trans foundToo
  have unleased := valid.unleased place managed found (by rw [hibernates]; exact nofun)
  have changed : ((state.setRecord place (managed.become lifecycle)).setTask task after).Valid
      host := by
    refine valid.change stands found runs ⟨rfl, rfl⟩ (.inr ?_) serves ?_ ?_
      (fun other _ => holds other) (fun _ => unleased)
    · intro other busy
      exact (Lifecycle.hibernating.inj (hibernates.symm.trans busy)).symm
    · intro record named
      rw [rests] at named
      cases named
    · rw [holds place]
      rfl
  exact changed.notify place

private theorem Valid.proceeds (proceeds : state.Proceeds host task next) : next.Valid host := by
  cases proceeds with
  | lease stands found active =>
    refine valid.change stands found trivial ⟨rfl, rfl⟩ (.inl rfl) (fun _ _ named => named)
      nofun ?_ ?_ (fun inactive => absurd active inactive)
    · simp [ManagedVolume.lease, holds]
    · intro other apart
      simp [holds, Ne.symm apart]
  | wake stands found onDisk =>
    refine valid.change stands found trivial ⟨rfl, rfl⟩ (.inr ?_) (fun _ _ named => named)
      (fun record named => ⟨(Option.some.inj named).symm, rfl⟩) rfl (fun _ _ => rfl) ?_
    · intro other busy
      rw [onDisk] at busy
      cases busy
    · have unleased := valid.unleased _ _ found
      rw [onDisk] at unleased
      exact fun _ => unleased nofun
  | yield stands | register stands =>
    exact valid.move stands (fun _ _ named => named) nofun (fun _ => rfl) trivial
  | @release volume record managed stands found =>
    have leased := valid.leased record managed found
    have positive : 0 < managed.activeLeases := by
      rw [leased, countP_pos_iff]
      exact ⟨_, mem_of_getElem? stands, decide_eq_true rfl⟩
    refine valid.change stands found trivial ⟨rfl, rfl⟩ (.inl rfl) nofun nofun ?_ ?_ ?_
    · have here : (holding volume record).holds record := decide_eq_true rfl
      rw [if_pos here]
      change managed.activeLeases - 1 + 1 = managed.activeLeases + 0
      omega
    · intro other apart
      simp [holds, Ne.symm apart]
    · intro inactive
      rw [valid.unleased _ _ found inactive] at positive
      exact absurd positive (Nat.lt_irrefl 0)
  | @schedule record generation stands =>
    have ended := valid.ended stands fun _ => rfl
    have spawned : ((state.setTask task .finished).spawn (.sleeping record generation)).Valid
        host := ended.spawn nofun rfl fun _ => rfl
    exact spawned.notify record
  | released stands => exact (valid.ended stands fun _ => rfl).notify _
  | @hibernate record _ managed stands found idle =>
    have tested := ManagedVolume.of_idle idle
    refine valid.change stands found trivial ⟨rfl, rfl⟩ (.inr ?_) nofun
      (fun record named => ⟨(Option.some.inj named).symm, rfl⟩) rfl (fun _ _ => rfl)
      fun _ => tested.2
    intro other busy
    rw [tested.1] at busy
    cases busy
  | expire stands | refuseRestore stands => exact valid.ended stands fun _ => rfl
  | @enqueue work record managed stands found =>
    obtain ⟨_, foundToo, hibernates⟩ := valid.working task _ stands record rfl
    cases found.symm.trans foundToo
    have moved : (state.setTask task (.queued work record)).Valid host := by
      cases work with
      | restore =>
        exact valid.move stands (fun _ _ named => named) (fun _ named => named) (fun _ => rfl)
          trivial
      | snapshot => exact valid.move stands nofun (fun _ named => named) (fun _ => rfl) trivial
    refine moved.enqueue ?_ ?_
    · rintro _ _ _ ⟨⟩
      exact ⟨⟨managed, found, hibernates⟩, .inl (getElem?_set_of_some stands)⟩
    intro asking asks other earlier member
    have same : task = asking := of_decide_eq_true asks
    subst same
    cases earlier with
    | write => rfl
    | transfer asked _ place =>
      refine decide_eq_false ?_
      rintro rfl
      exact valid.not_asked stands trivial other asked place member
  | refuseSnapshot stands found =>
    exact valid.finish stands found trivial rfl rfl nofun fun _ => rfl
  | @finish work _ outcome _ stands found =>
    cases work with
    | restore =>
      cases outcome with
      | ok => exact valid.finish stands found trivial rfl rfl (fun _ _ named => named) fun _ => rfl
      | error | closed => exact valid.finish stands found trivial rfl rfl nofun fun _ => rfl
    | snapshot =>
      cases outcome with
      | ok | error | closed =>
        exact valid.finish stands found trivial rfl rfl nofun fun _ => rfl

private theorem Valid.drop (stepped : state.drop task = some next) : next.Valid host := by
  obtain ⟨rfl, _, stands, _, _, rfl | rfl | rfl | ⟨_, rfl⟩⟩ := drop_eq_some stepped
  all_goals exact valid.ended stands fun _ => rfl

private theorem Valid.write (volumeRoot relativePath : HostPath) (mode : StorageWriteMode)
    (body : String) : (state.write host volumeRoot relativePath mode body).Valid host := by
  have created : (state.setDisk (state.disk.createDirAll (host.canonicalize volumeRoot))).Valid
      host := valid.of_same rfl rfl rfl
  unfold VolumeState.write
  dsimp only
  split
  · exact created.enqueue nofun nofun
  · exact created

end

/-- A transfer changes the disk and the snapshot of its volume at most. -/
theorem transfer_eq (state : VolumeState) (host : VolumeHost) (work : Work)
    (managed : ManagedVolume) (attempt : Attempt) :
    ∃ disk snapshot, state.transfer host work managed attempt =
      (state.setDisk disk).setSnapshot managed.id snapshot := by
  have unchanged (state : VolumeState) :
      state = state.setSnapshot managed.id (state.snapshots managed.id) := by simp [setSnapshot]
  unfold transfer processSnapshot processRestore
  cases work with
  | snapshot =>
    cases attempt with
    | done => exact ⟨_, _, rfl⟩
    | failed stored =>
      cases stored with
      | true => exact ⟨_, _, rfl⟩
      | false => exact ⟨state.disk, _, unchanged _⟩
  | restore =>
    cases attempt with
    | done =>
      dsimp only
      split
      · exact ⟨_, _, rfl⟩
      · exact ⟨_, _, unchanged _⟩
    | failed => exact ⟨_, _, unchanged _⟩

theorem perform_eq (state : VolumeState) (write : Write) (attempt : Attempt) :
    ∃ disk, state.perform write attempt = state.setDisk disk := by
  cases attempt with
  | done | failed => exact ⟨_, rfl⟩

private theorem Valid.work (valid : state.Valid host) {attempt : Attempt}
    (stepped : state.work host key attempt = some next) : next.Valid host := by
  obtain ⟨write, rest, pending, rfl⟩ | ⟨work, _, record, rest, managed, pending, _, rfl⟩ :=
    work_eq_some stepped
  · obtain ⟨_, written⟩ := perform_eq (state.withPending key rest) write attempt
    rw [written]
    exact (valid.pop pending).of_same rfl rfl rfl
  have popped := valid.pop pending
  obtain ⟨_, _, moved⟩ := transfer_eq (state.withPending key rest) host work managed attempt
  rw [moved]
  refine .answer ?_ attempt.outcome ?_
  · exact popped.of_same rfl rfl rfl
  intro other work' task' record' member stands
  refine decide_eq_false ?_
  rintro rfl
  have first : .transfer work task' record ∈ (state.queues key).pending := by simp [pending]
  change _ ∈ ((state.setQueue key _).queues other).pending at member
  rw [queues_setQueue] at member
  split at member
  · have single := valid.single key task'
    rw [pending] at single
    exact (pairwise_cons.mp single).1 _ member ⟨decide_eq_true rfl, decide_eq_true rfl⟩
  · next apart =>
    exact apart (valid.oneQueue other key task' _ member (decide_eq_true rfl) _ first
      (decide_eq_true rfl))

private theorem Valid.crash (valid : state.Valid host) (key : HostPath) :
    (state.crash key).Valid host := by
  have emptied : (state.setQueue key { pending := [], available := false }).Valid host :=
    valid.setQueue nofun (fun _ => List.Pairwise.nil) nofun
  refine emptied.answer .closed ?_
  intro other work task record member stands
  rw [queues_setQueue] at member
  split at member
  · cases member
  · next apart =>
    rw [any_eq_false]
    intro operation first asks
    exact apart (valid.oneQueue other key task _ member (decide_eq_true rfl) _ first asks)

theorem Valid.step (valid : state.Valid host) {event : VolumeEvent}
    (stepped : (volumeMachine host).step state event = some next) : next.Valid host := by
  cases event with
  | call =>
    obtain ⟨member, rfl⟩ := of_guard stepped
    exact valid.call member
  | proceed => exact valid.proceeds (proceeds_of_proceed stepped)
  | drop => exact valid.drop stepped
  | write =>
    cases stepped
    exact valid.write _ _ _ _
  | work => exact valid.work stepped
  | crash key =>
    cases stepped
    exact valid.crash key

/-- The task works on the record, or a move that it asked for is in a queue of the broker. -/
def Moves (state : VolumeState) (task place : Nat) : Prop :=
  (∃ stage ∈ state.tasks[task]?, stage.worksOn = some place) ∨
    ∃ key work, .transfer work task place ∈ (state.queues key).pending

private theorem Valid.hibernating (valid : state.Valid host) (moves : state.Moves task place) :
    ∃ managed, state.records[place]? = some managed ∧ managed.lifecycle = .hibernating task := by
  obtain ⟨stage, stands, works⟩ | ⟨key, work, queued⟩ := moves
  · exact valid.working task stage stands place works
  · exact (valid.queued key work task place queued).1

/-- Whoever is dropped, and whenever: one task at a time moves the directory of a record, and
nobody has a lease on the record meanwhile. -/
theorem moves_exclusive (host : VolumeHost) (disk : Tree) (events : List VolumeEvent) :
    (volumeMachine host).Along (fun state _ => ∀ task place, state.Moves task place →
      (∀ other, state.Moves other place → other = task) ∧
        ∀ stage ∈ state.tasks, stage.holds place = false) (initial disk) events := by
  refine Machine.along_of_invariant (fun valid _ => valid.step) ?_
    (valid_initial host disk) (Machine.along_true _ _)
  intro state _ valid _ task place moves
  obtain ⟨managed, found, hibernates⟩ := valid.hibernating moves
  constructor
  · intro other movesToo
    obtain ⟨_, again, hibernatesToo⟩ := valid.hibernating movesToo
    cases found.symm.trans again
    cases hibernates.symm.trans hibernatesToo
    rfl
  · have unleased := valid.unleased place managed found (by simp [hibernates])
    simpa [valid.leased place managed found] using unleased

end VolumeState

end TachyonMesh.Volumes
