import TachyonMesh.Volumes.Occupancy

/-! # Requests that wait for a volume

A request that finds its volume hibernating waits until it is notified. It is attended to
when some task is still at work on the record, or when a release is about to notify. Three
things leave a request alone, and nothing else does (`requests_attended_iff`): it registers
after the record has come out of its hibernation, the broker refuses a restoration, or the
request that restores the volume is dropped.
-/

namespace TachyonMesh.Volumes
open Foundation List

namespace VolumeTask

/-- A request is restoring a volume and may be dropped meanwhile. -/
def AwaitsRestoration : VolumeTask → Prop
  | .queued (.restore _) _ | .answered (.restore _) _ _ => True
  | _ => False

variable {record : Nat} {stage : VolumeTask} {volume : HibernationVolume}

private theorem woken_eq_waiting {place : Nat}
    (waits : stage.woken place = .waiting volume record) :
    stage = .waiting volume record ∧ record ≠ place := by
  cases stage with
  | waiting _ _ =>
    simp only [woken] at waits
    split at waits
    · cases waits
    · next same =>
      cases waits
      exact ⟨rfl, same⟩
  | _ => cases waits

end VolumeTask

namespace VolumeState

section
variable (state : VolumeState)

def Waits (record : Nat) : Prop := ∃ volume, .waiting volume record ∈ state.tasks

/-- A release is about to notify the record's waiters. -/
def WakesUp (record : Nat) : Prop := ∃ generation, .releasing record generation ∈ state.tasks

/-- The task is at work on the record; what it awaits is in a queue. -/
def Works (task record : Nat) : Prop :=
  ∃ stage, state.tasks[task]? = some stage ∧ stage.worksOn = some record ∧
    ∀ work, stage = .queued work record →
      ∃ key, .transfer work task record ∈ (state.queues key).pending

def HibernatesFor (record owner : Nat) : Prop :=
  ∃ managed, state.records[record]? = some managed ∧ managed.lifecycle = .hibernating owner

/-- Nobody waits for the record in vain, and it does not hibernate without a task. -/
structure AttendsTo (record : Nat) : Prop where
  awaited : state.Waits record → (∃ task, state.Works task record) ∨ state.WakesUp record
  owned : ∀ owner, state.HibernatesFor record owner → state.Works owner record

def Attends : Prop := ∀ record, state.AttendsTo record

/-- A request registers while the record hibernates or a notification is to come, a restoration
is not refused, and the request that restores a volume is not dropped. -/
def Undisturbed (host : VolumeHost) : VolumeEvent → Prop
  | .proceed task =>
      (∀ volume record, state.tasks[task]? = some (.registering volume record) →
        (∃ owner, state.HibernatesFor record owner) ∨ state.WakesUp record) ∧
      ∀ volume record managed, state.tasks[task]? = some (.starting (.restore volume) record) →
        state.records[record]? = some managed →
          (state.queues (state.queueForVolume host managed.activePath)).available
  | .drop task => ∀ stage, state.tasks[task]? = some stage → ¬stage.AwaitsRestoration
  | _ => True

end

variable {host : VolumeHost} {state next last : VolumeState} {record : Nat}

private theorem attends_initial (disk : Tree) : (initial disk).Attends := by
  intro record
  refine ⟨?_, ?_⟩
  · rintro ⟨_, member⟩
    cases member
  · rintro _ ⟨_, found, -⟩
    cases found

/-! ## What carries over -/

/-- Nobody else waits for the record, and those who are at work or about to notify still are. -/
structure CarriesOver (state next : VolumeState) (record : Nat) : Prop where
  waits : next.Waits record → state.Waits record
  works : ∀ task, state.Works task record → next.Works task record
  wakesUp : next.Waits record → state.WakesUp record → next.WakesUp record

private theorem CarriesOver.trans (first : CarriesOver state next record)
    (second : CarriesOver next last record) : CarriesOver state last record where
  waits waits := first.waits (second.waits waits)
  works task works := second.works task (first.works task works)
  wakesUp waits wakes := second.wakesUp waits (first.wakesUp (second.waits waits) wakes)

/-- What tasks await stays in its queue. -/
theorem CarriesOver.of_pending (tasks : next.tasks = state.tasks)
    (pending : ∀ key work task place,
      .transfer work task place ∈ (state.queues key).pending →
      .transfer work task place ∈ (next.queues key).pending) :
    CarriesOver state next record where
  waits waits := by
    rw [Waits, tasks] at waits
    exact waits
  works := by
    rintro worker ⟨stage, held, busy, awaited⟩
    refine ⟨stage, tasks ▸ held, busy, ?_⟩
    intro work awaits
    obtain ⟨key, member⟩ := awaited work awaits
    exact ⟨key, pending key work worker record member⟩
  wakesUp _ wakes := by
    rw [WakesUp, tasks]
    exact wakes

private theorem CarriesOver.of_same (tasks : next.tasks = state.tasks)
    (queues : next.queues = state.queues) :
    CarriesOver state next record :=
  .of_pending tasks fun _ _ _ _ member => queues ▸ member

section
variable {task : Nat} {before after : VolumeTask}

private theorem Works.setTask {worker : Nat} (works : state.Works worker record)
    (stands : state.tasks[task]? = some before) (idle : before.worksOn ≠ some record) :
    (state.setTask task after).Works worker record := by
  obtain ⟨stage, held, busy, pending⟩ := works
  have apart : task ≠ worker := by
    rintro rfl
    cases stands.symm.trans held
    exact idle busy
  exact ⟨stage, (getElem?_set_ne apart).trans held, busy, pending⟩

private theorem WakesUp.setTask (wakes : state.WakesUp record)
    (stands : state.tasks[task]? = some before)
    (silent : ∀ generation, before ≠ .releasing record generation) :
    (state.setTask task after).WakesUp record := by
  obtain ⟨generation, member⟩ := wakes
  obtain ⟨place, held⟩ := mem_iff_getElem?.mp member
  have apart : task ≠ place := by
    rintro rfl
    exact silent generation (Option.some.inj (stands.symm.trans held))
  exact ⟨generation, mem_iff_getElem?.mpr ⟨place, (getElem?_set_ne apart).trans held⟩⟩

/-- A task that was neither at work on the record nor about to notify goes on, not to wait. -/
theorem carriesOver_setTask (stands : state.tasks[task]? = some before)
    (idle : before.worksOn ≠ some record)
    (silent : ∀ generation, before ≠ .releasing record generation)
    (leaves : ∀ volume, after ≠ .waiting volume record) :
    CarriesOver state (state.setTask task after) record where
  waits := by
    rintro ⟨volume, member⟩
    obtain member | rfl := mem_or_eq_of_mem_set member
    · exact ⟨volume, member⟩
    · exact absurd rfl (leaves volume)
  works _ works := works.setTask stands idle
  wakesUp _ wakes := wakes.setTask stands silent

private theorem carriesOver_spawn (leaves : ∀ volume, after ≠ .waiting volume record) :
    CarriesOver state (state.spawn after) record where
  waits := by
    rintro ⟨volume, member⟩
    obtain member | same := mem_append.mp member
    · exact ⟨volume, member⟩
    · exact absurd (mem_singleton.mp same).symm (leaves volume)
  works := by
    rintro _ ⟨stage, held, busy, pending⟩
    exact ⟨stage, getElem?_append_of_some held, busy, pending⟩
  wakesUp := by
    rintro - ⟨generation, member⟩
    exact ⟨generation, mem_append_left _ member⟩

private theorem mem_retask {change : Nat → VolumeTask → VolumeTask} {stage : VolumeTask}
    (member : stage ∈ state.tasks) (fixed : ∀ place, change place stage = stage) :
    stage ∈ (state.retask change).tasks := by
  obtain ⟨place, held⟩ := mem_iff_getElem?.mp member
  refine mem_iff_getElem?.mpr ⟨place, ?_⟩
  rw [retask, getElem?_mapIdx, held, Option.map_some, fixed place]

variable {place : Nat}

private theorem waits_notify (waits : (state.notify place).Waits record) :
    state.Waits record ∧ record ≠ place := by
  obtain ⟨volume, member⟩ := waits
  obtain ⟨_, held⟩ := mem_iff_getElem?.mp member
  obtain ⟨_, stands, woken⟩ := getElem?_retask held
  obtain ⟨rfl, apart⟩ := VolumeTask.woken_eq_waiting woken.symm
  exact ⟨⟨volume, mem_of_getElem? stands⟩, apart⟩

private theorem carriesOver_notify (place : Nat) :
    CarriesOver state (state.notify place) record where
  waits waits := (waits_notify waits).1
  works := by
    rintro _ ⟨stage, held, busy, pending⟩
    refine ⟨stage, ?_, busy, pending⟩
    rw [notify, retask, getElem?_mapIdx, held, Option.map_some, VolumeTask.woken_of_worksOn busy]
  wakesUp := by
    rintro - ⟨generation, member⟩
    exact ⟨generation, mem_retask member fun _ => rfl⟩

private theorem carriesOver_enqueue (key : HostPath) (operation : Operation) :
    CarriesOver state (state.enqueue key operation) record := by
  refine .of_pending rfl ?_
  intro other work task place member
  rw [enqueue, queues_setQueue]
  split
  · next same => exact mem_append_left _ (same ▸ member)
  · exact member

/-- A task at work enqueues what it has begun. -/
theorem carriesOver_begun {work : Work} (stands : state.tasks[task]? = some (.starting work place))
    (key : HostPath) :
    CarriesOver state ((state.enqueue key (.transfer work task place)).setTask task
      (.queued work place)) record where
  waits := by
    rintro ⟨volume, member⟩
    obtain member | same := mem_or_eq_of_mem_set member
    · exact ⟨volume, member⟩
    · cases same
  works := by
    intro worker works
    by_cases own : worker = task
    · subst own
      obtain ⟨_, held, busy, -⟩ := works
      cases stands.symm.trans held
      refine ⟨_, getElem?_set_of_some stands, busy, ?_⟩
      rintro _ ⟨⟩
      refine ⟨key, ?_⟩
      change _ ∈ ((state.enqueue key _).queues key).pending
      rw [queues_enqueue]
      exact mem_append_right _ mem_cons_self
    · obtain ⟨stage, held, busy, pending⟩ := (carriesOver_enqueue key _).works worker works
      exact ⟨stage, (getElem?_set_ne (Ne.symm own)).trans held, busy, pending⟩
  wakesUp _ wakes := .setTask wakes stands nofun

/-- Operations leave the queues, and the tasks that await them are answered. -/
theorem carriesOver_answer (state : VolumeState) (tasks : next.tasks = state.tasks)
    {asking : Nat → Bool} (outcome : Outcome)
    (left : ∀ key work task place,
      .transfer work task place ∈ (state.queues key).pending →
      .transfer work task place ∈ (next.queues key).pending ∨ asking task) :
    CarriesOver state (next.answer asking outcome) record where
  waits := by
    rintro ⟨volume, member⟩
    obtain ⟨_, held⟩ := mem_iff_getElem?.mp member
    obtain ⟨stage, stands, answered⟩ := getElem?_retask held
    have waits : stage = .waiting volume record := by
      split at answered
      · cases stage with
        | queued => cases answered
        | _ => exact answered.symm
      · exact answered.symm
    rw [tasks, waits] at stands
    exact ⟨volume, mem_of_getElem? stands⟩
  works := by
    rintro worker ⟨stage, held, busy, pending⟩
    have answered : (next.answer asking outcome).tasks[worker]? =
        some (if asking worker then stage.answer outcome else stage) := by
      rw [answer, retask, getElem?_mapIdx, tasks, held, Option.map_some]
    refine ⟨_, answered, ?_, ?_⟩
    · split
      · exact (VolumeTask.keeps_answer outcome stage).worksOn.trans busy
      · exact busy
    intro work awaits
    split at awaits
    · cases stage with
      | _ => cases awaits
    · next unasked =>
      obtain ⟨key, member⟩ := pending work awaits
      obtain stays | asked := left key work worker record member
      · exact ⟨key, stays⟩
      · exact absurd asked unasked
  wakesUp := by
    rintro - ⟨generation, member⟩
    refine ⟨generation, mem_retask (tasks ▸ member) ?_⟩
    intro place
    split <;> rfl

end

/-! ## Records -/

private theorem AttendsTo.carry (attends : state.AttendsTo record)
    (carries : CarriesOver state next record)
    (owned : ∀ owner, next.HibernatesFor record owner →
      next.Works owner record ∨ state.HibernatesFor record owner) : next.AttendsTo record where
  awaited waits := by
    obtain ⟨task, works⟩ | wakes := attends.awaited (carries.waits waits)
    · exact .inl ⟨task, carries.works task works⟩
    · exact .inr (carries.wakesUp waits wakes)
  owned owner hibernates := by
    obtain works | hibernates := owned owner hibernates
    · exact works
    · exact carries.works owner (attends.owned owner hibernates)

/-- Whoever hibernates after a record was changed did so before, or it is that record. -/
theorem hibernatesFor_set {place owner : Nat} {changed : ManagedVolume}
    (records : next.records = state.records.set place changed)
    (hibernates : next.HibernatesFor record owner) :
    state.HibernatesFor record owner ∨ record = place ∧ changed.lifecycle = .hibernating owner := by
  obtain ⟨managed, found, owned⟩ := hibernates
  rw [records] at found
  obtain ⟨rfl, rfl⟩ | ⟨-, found⟩ := getElem?_set_cases found
  · exact .inr ⟨rfl, owned⟩
  · exact .inl ⟨managed, found, owned⟩

private theorem Attends.carry (attends : state.Attends)
    (carries : ∀ record, CarriesOver state next record)
    (records : next.records = state.records) : next.Attends := by
  intro record
  refine (attends record).carry (carries record) ?_
  rintro _ ⟨managed, found, owned⟩
  exact .inr ⟨managed, records ▸ found, owned⟩

/-! ## Steps -/

section
variable {task place : Nat} {before after : VolumeTask} {managed changed : ManagedVolume}

section
variable (attends : state.Attends) (stands : state.tasks[task]? = some before)
  (silent : ∀ record generation, before ≠ .releasing record generation)
include attends stands silent

/-- A task that is not at work and not about to notify changes its record's leases. -/
theorem Attends.change (found : state.records[place]? = some managed) (idle : before.worksOn = none)
    (leaves : ∀ volume record, after ≠ .waiting volume record)
    (same : changed.lifecycle = managed.lifecycle) :
    ((state.setRecord place changed).setTask task after).Attends := by
  intro record
  have carries : CarriesOver state (state.setTask task after) record :=
    carriesOver_setTask stands (by rw [idle]; exact nofun) (silent record) (leaves · record)
  refine (attends record).carry (carries.trans (.of_same rfl rfl)) ?_
  intro owner hibernates
  obtain before | ⟨rfl, owned⟩ := hibernatesFor_set rfl hibernates
  · exact .inr before
  · exact .inr ⟨managed, found, same ▸ owned⟩

/-- A task that is not at work and not about to notify goes on, not to wait. -/
theorem Attends.move (idle : before.worksOn = none)
    (leaves : ∀ volume record, after ≠ .waiting volume record) :
    (state.setTask task after).Attends := by
  refine attends.carry (fun record => ?_) rfl
  exact carriesOver_setTask stands (by rw [idle]; exact nofun) (silent record) (leaves · record)

/-- A task makes a record hibernate and works on it. -/
theorem Attends.begin (idle : before.worksOn = none) (work : Work) :
    ((state.setRecord place (managed.become (.hibernating task))).setTask task
      (.starting work place)).Attends := by
  intro record
  have carries : CarriesOver state (state.setTask task (.starting work place)) record :=
    carriesOver_setTask stands (by rw [idle]; exact nofun) (silent record) nofun
  refine (attends record).carry (carries.trans (.of_same rfl rfl)) ?_
  intro owner hibernates
  obtain before | ⟨rfl, owned⟩ := hibernatesFor_set rfl hibernates
  · exact .inr before
  · obtain rfl : task = owner := Lifecycle.hibernating.inj owned
    exact .inl ⟨_, getElem?_set_of_some stands, rfl, nofun⟩

/-- The task at work on a record ends its hibernation. -/
theorem Attends.finish {lifecycle : Lifecycle} (works : before.worksOn = some place)
    (leaves : ∀ volume record, after ≠ .waiting volume record)
    (awake : ∀ owner, lifecycle ≠ .hibernating owner) :
    ((state.setTask task after).finish place managed lifecycle).Attends := by
  intro record
  by_cases here : record = place
  · subst here
    refine ⟨fun waits => absurd rfl (waits_notify waits).2, ?_⟩
    rintro owner ⟨_, found, owned⟩
    obtain ⟨-, rfl⟩ | ⟨apart, -⟩ := getElem?_set_cases found
    · exact absurd owned (awake owner)
    · exact absurd rfl apart
  · have moved : CarriesOver state (state.setTask task after) record := by
      refine carriesOver_setTask stands ?_ (silent record) (leaves · record)
      rw [works]
      rintro ⟨⟩
      exact here rfl
    have changed : CarriesOver state
        ((state.setTask task after).setRecord place (managed.become lifecycle)) record :=
      moved.trans (.of_same rfl rfl)
    refine (attends record).carry (changed.trans (carriesOver_notify place)) ?_
    intro owner hibernates
    obtain before | ⟨rfl, -⟩ := hibernatesFor_set rfl hibernates
    · exact .inr before
    · exact absurd rfl here

end

/-- A release notifies; its task has nothing else to do. -/
theorem Attends.released (attends : state.Attends) {generation : Option Nat}
    (stands : state.tasks[task]? = some (.releasing place generation))
    (rest : ∀ record, CarriesOver (state.setTask task .finished) next record)
    (records : next.records = state.records) : (next.notify place).Attends := by
  intro record
  by_cases here : record = place
  · subst here
    refine ⟨fun waits => absurd rfl (waits_notify waits).2, ?_⟩
    intro owner hibernates
    have works : state.Works owner record := by
      refine (attends record).owned owner ?_
      obtain ⟨managed, found, owned⟩ := hibernates
      exact ⟨managed, records ▸ found, owned⟩
    exact (carriesOver_notify record).works owner ((rest record).works owner
      (works.setTask stands nofun))
  · have ended : CarriesOver state (state.setTask task .finished) record := by
      refine carriesOver_setTask stands nofun ?_ nofun
      rintro - ⟨⟩
      exact here rfl
    refine (attends record).carry ((ended.trans (rest record)).trans (carriesOver_notify place)) ?_
    rintro _ ⟨managed, found, owned⟩
    exact .inr ⟨managed, records ▸ found, owned⟩

private theorem Attends.register (attends : state.Attends) {volume : HibernationVolume}
    (stands : state.tasks[task]? = some (.registering volume place))
    (minded : (∃ owner, state.HibernatesFor place owner) ∨ state.WakesUp place) :
    (state.setTask task (.waiting volume place)).Attends := by
  intro record
  by_cases here : record = place
  · subst here
    refine ⟨?_, ?_⟩
    · intro _
      obtain ⟨owner, hibernates⟩ | wakes := minded
      · exact .inl ⟨owner, ((attends record).owned owner hibernates).setTask stands nofun⟩
      · exact .inr (wakes.setTask stands nofun)
    · intro owner hibernates
      exact ((attends record).owned owner hibernates).setTask stands nofun
  · refine (attends record).carry ?_ fun _ hibernates => .inr hibernates
    refine carriesOver_setTask stands nofun nofun ?_
    rintro - ⟨⟩
    exact here rfl

end

variable {task : Nat} {event : VolumeEvent}

section
variable (attends : state.Attends)
include attends

private theorem Attends.proceeds (undisturbed : state.Undisturbed host (.proceed task))
    (proceeds : state.Proceeds host task next) : next.Attends := by
  cases proceeds with
  | lease stands found | release stands found =>
    exact attends.change stands nofun found rfl nofun rfl
  | wake stands | hibernate stands => exact attends.begin stands nofun rfl _
  | yield stands | expire stands => exact attends.move stands nofun rfl nofun
  | register stands => exact attends.register stands (undisturbed.1 _ _ stands)
  | schedule stands => exact attends.released stands (fun _ => carriesOver_spawn nofun) rfl
  | released stands => exact attends.released stands (fun _ => .of_same rfl rfl) rfl
  | enqueue stands => exact attends.carry (fun _ => carriesOver_begun stands _) rfl
  | refuseRestore stands found closed =>
    have available := undisturbed.2 _ _ _ stands found
    rw [closed] at available
    cases available
  | refuseSnapshot stands => exact attends.finish stands nofun rfl nofun nofun
  | @finish work _ outcome _ stands =>
    refine attends.finish stands nofun rfl ?_ ?_ <;> cases work <;> cases outcome <;> exact nofun

private theorem Attends.call (volume : HibernationVolume) : (state.call host volume).Attends := by
  unfold VolumeState.call
  split
  · exact attends.carry (fun _ => carriesOver_spawn nofun) rfl
  intro record
  have created : CarriesOver state
      { state.setDisk (state.disk.createDirAll (host.canonicalize volume.hostPath)) with
        records := state.records ++ [.new host state.disk volume] } record := .of_same rfl rfl
  refine (attends record).carry (created.trans (carriesOver_spawn nofun)) ?_
  rintro _ ⟨managed, found, owned⟩
  obtain found | ⟨-, rfl⟩ := getElem?_append_singleton found
  · exact .inr ⟨managed, found, owned⟩
  · cases owned

private theorem Attends.drop (undisturbed : state.Undisturbed host (.drop task))
    (stepped : state.drop task = some next) : next.Attends := by
  obtain ⟨rfl, _, stands, _, _, rfl | rfl | rfl | ⟨_, rfl⟩⟩ := drop_eq_some stepped
  · exact attends.move stands nofun rfl nofun
  · exact attends.move stands nofun rfl nofun
  · exact absurd trivial (undisturbed _ stands)
  · exact absurd trivial (undisturbed _ stands)

private theorem Attends.write (volumeRoot relativePath : HostPath) (mode : StorageWriteMode)
    (body : String) : (state.write host volumeRoot relativePath mode body).Attends := by
  have created record : CarriesOver state
      (state.setDisk (state.disk.createDirAll (host.canonicalize volumeRoot))) record :=
    .of_same rfl rfl
  unfold VolumeState.write
  dsimp only
  split
  · exact attends.carry (fun record => (created record).trans (carriesOver_enqueue _ _)) rfl
  · exact attends.carry created rfl

private theorem Attends.work {key : HostPath} {attempt : Attempt}
    (stepped : state.work host key attempt = some next) : next.Attends := by
  obtain ⟨write, rest, pending, rfl⟩ | ⟨work, _, _, rest, managed, pending, _, rfl⟩ :=
    work_eq_some stepped
  · obtain ⟨_, written⟩ := perform_eq (state.withPending key rest) write attempt
    rw [written]
    refine attends.carry (fun _ => .of_pending rfl ?_) rfl
    intro other work' task' place' member
    change _ ∈ ((state.setQueue key _).queues other).pending
    rw [queues_setQueue]
    split
    · next same =>
      subst same
      rw [pending] at member
      exact (mem_cons.mp member).resolve_left nofun
    · exact member
  · obtain ⟨_, _, moved⟩ := transfer_eq (state.withPending key rest) host work managed attempt
    rw [moved]
    refine attends.carry (fun _ => carriesOver_answer state ?_ attempt.outcome ?_) rfl
    · rfl
    intro other work' task' place' member
    change _ ∈ ((state.setQueue key _).queues other).pending ∨ _
    rw [queues_setQueue]
    split
    · next same =>
      subst same
      rw [pending] at member
      obtain first | later := mem_cons.mp member
      · cases first
        exact .inr (decide_eq_true rfl)
      · exact .inl later
    · exact .inl member

private theorem Attends.crash (key : HostPath) : (state.crash key).Attends := by
  have tasks : (state.setQueue key { pending := [], available := false }).tasks =
      state.tasks := rfl
  refine attends.carry (fun _ => carriesOver_answer state tasks .closed ?_) rfl
  intro other work task place member
  rw [queues_setQueue]
  split
  · next same =>
    have asks : (Operation.transfer work task place).asks task := decide_eq_true rfl
    exact .inr (any_eq_true.mpr ⟨_, same ▸ member, asks⟩)
  · exact .inl member

private theorem Attends.step (undisturbed : state.Undisturbed host event)
    (stepped : (volumeMachine host).step state event = some next) : next.Attends := by
  cases event with
  | call volume =>
    obtain ⟨-, rfl⟩ := of_guard stepped
    exact attends.call volume
  | proceed => exact attends.proceeds undisturbed (proceeds_of_proceed stepped)
  | drop => exact attends.drop undisturbed stepped
  | write =>
    cases stepped
    exact attends.write _ _ _ _
  | work => exact attends.work stepped
  | crash key =>
    cases stepped
    exact attends.crash key

end

/-! ## What leaves a request alone -/

/-- A task that ends while it is at work leaves its record hibernating. -/
theorem not_attends_ended (valid : state.Valid host) {stage : VolumeTask}
    (stands : state.tasks[task]? = some stage) (busy : stage.worksOn = some record) :
    ¬(state.setTask task .finished).Attends := by
  intro attends
  obtain ⟨managed, found, owned⟩ := valid.working task stage stands record busy
  obtain ⟨_, held, still, -⟩ := (attends record).owned task ⟨managed, found, owned⟩
  obtain ⟨-, rfl⟩ | ⟨apart, -⟩ := getElem?_set_cases held
  · cases still
  · exact apart rfl

private theorem minded_of_attends (valid : state.Valid host) {volume : HibernationVolume}
    (stands : state.tasks[task]? = some (.registering volume record))
    (attends : (state.setTask task (.waiting volume record)).Attends) :
    (∃ owner, state.HibernatesFor record owner) ∨ state.WakesUp record := by
  have waits : (state.setTask task (.waiting volume record)).Waits record :=
    ⟨volume, mem_of_getElem? (getElem?_set_of_some stands)⟩
  obtain ⟨worker, stage, held, busy, -⟩ | ⟨generation, member⟩ := (attends record).awaited waits
  · obtain ⟨-, rfl⟩ | ⟨-, held⟩ := getElem?_set_cases held
    · cases busy
    · obtain ⟨managed, found, owned⟩ := valid.working worker stage held record busy
      exact .inl ⟨worker, managed, found, owned⟩
  · obtain member | same := mem_or_eq_of_mem_set member
    · exact .inr ⟨generation, member⟩
    · cases same

private theorem undisturbed_of_attends (valid : state.Valid host)
    (attends : ∀ next, (volumeMachine host).step state event = some next → next.Attends) :
    state.Undisturbed host event := by
  cases event with
  | proceed task =>
    constructor
    · intro volume record stands
      refine minded_of_attends valid stands (attends _ ?_)
      change state.proceed host task = _
      rw [VolumeState.proceed, stands]
    · intro volume record managed stands found
      by_contra closed
      refine not_attends_ended valid stands rfl (attends _ ?_)
      change state.proceed host task = _
      rw [VolumeState.proceed, stands]
      dsimp only
      rw [found, Option.map_some, if_neg closed]
  | drop task =>
    intro stage stands awaits
    have dropped : state.drop task = some (state.setTask task .finished) →
        ∀ record, stage.worksOn ≠ some record :=
      fun stepped record busy => not_attends_ended valid stands busy (attends _ stepped)
    match stage with
    | .queued (.restore _) record | .answered (.restore _) record _ =>
      exact dropped (by rw [VolumeState.drop, stands]) record rfl
  | _ => trivial

end VolumeState

open VolumeState

/-- In every state of a run those who wait are attended to and no record hibernates by itself,
exactly when none of the three things happens on the way. -/
theorem requests_attended_iff (host : VolumeHost) (disk : Tree) (events : List VolumeEvent) :
    (volumeMachine host).Throughout Attends (.initial disk) events ↔
      (volumeMachine host).Along (fun state => state.Undisturbed host) (.initial disk) events := by
  refine Machine.throughout_iff_along ?_ ?_ ?_ events (valid_initial host disk)
    (attends_initial disk)
  · intro state event next valid stepped
    exact valid.step stepped
  · intro state event next valid attends undisturbed stepped
    exact attends.step undisturbed stepped
  · intro state event valid attends kept
    exact undisturbed_of_attends valid kept

section
variable (volume : HibernationVolume)

/-- A lease is taken and given back, and the timer begins to hibernate the volume. -/
def untilHibernating : List VolumeEvent :=
  [.call volume, .proceed 0, .proceed 0, .proceed 0, .proceed 1]

def untilOnDisk : List VolumeEvent :=
  [.proceed 1, .work volume.hostPath .done, .proceed 1]

/-- A request tests the record during its hibernation and registers after it. -/
def lateRegistration : List VolumeEvent :=
  untilHibernating volume ++ [.call volume, .proceed 2] ++ untilOnDisk volume ++ [.proceed 2]

/-- A request begins to restore the volume and is dropped; the next one waits. -/
def droppedRestoration : List VolumeEvent :=
  untilHibernating volume ++ untilOnDisk volume ++
    [.call volume, .proceed 2, .proceed 2, .drop 2, .call volume, .proceed 3, .proceed 3,
      .work volume.hostPath .done]

def refusedRestoration : List VolumeEvent :=
  untilHibernating volume ++ untilOnDisk volume ++
    [.crash volume.hostPath, .call volume, .proceed 2, .proceed 2, .call volume, .proceed 3,
      .proceed 3]

end

/-- A request waits, and no other task has anything left to do. -/
theorem VolumeState.stranded {state : VolumeState} {volume : HibernationVolume} {record : Nat}
    (waits : .waiting volume record ∈ state.tasks)
    (alone : ∀ stage ∈ state.tasks, stage = .finished ∨ stage = .waiting volume record) :
    state.Waits record ∧ ¬state.Attends := by
  refine ⟨⟨volume, waits⟩, fun attends => ?_⟩
  obtain ⟨_, stage, held, busy, -⟩ | ⟨_, member⟩ := (attends record).awaited ⟨volume, waits⟩
  · obtain rfl | rfl := alone stage (mem_of_getElem? held) <;> cases busy
  · obtain same | same := alone _ member <;> cases same

def scratchVolume : HibernationVolume where
  path := { routePath := "/api/scratch", guestPath := "/data" }
  hostPath := ["/", "var", "lib", "scratch"]

def scratchHost : VolumeHost := .literal [scratchVolume]

/-- A request waits for a volume that is on disk, and for one that nobody restores. -/
theorem requests_stranded :
    (∃ state, (volumeMachine scratchHost).run (.initial fun _ => none)
        (lateRegistration scratchVolume) = some state ∧
      state.records.map (·.lifecycle) = [.onDisk] ∧ state.Waits 0 ∧ ¬state.Attends) ∧
    (∃ state, (volumeMachine scratchHost).run (.initial fun _ => none)
        (droppedRestoration scratchVolume) = some state ∧
      state.records.map (·.lifecycle) = [.hibernating 2] ∧ state.Waits 0 ∧ ¬state.Attends) ∧
    ∃ state, (volumeMachine scratchHost).run (.initial fun _ => none)
        (refusedRestoration scratchVolume) = some state ∧
      state.records.map (·.lifecycle) = [.hibernating 2] ∧ state.Waits 0 ∧ ¬state.Attends := by
  have stranded {state : VolumeState} := @state.stranded scratchVolume 0
  refine ⟨⟨_, rfl, rfl, stranded ?_ ?_⟩, ⟨_, rfl, rfl, stranded ?_ ?_⟩,
    ⟨_, rfl, rfl, stranded ?_ ?_⟩⟩
  all_goals decide +kernel

end TachyonMesh.Volumes
