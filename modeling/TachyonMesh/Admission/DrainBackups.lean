import TachyonMesh.Admission.Node

/-! # Drain backups

A drain backup reads a volume's directory after it has paused the route and waited for its
active requests. The pause is one flag for the route, the wait is over after thirty seconds and
reads the counters of the current runtime, and neither sees guests that are not counted.
-/

namespace TachyonMesh.Admission
open Foundation Store List Function

/-- The test of the pause is behind the invocation, and its guest has not ended. -/
def Standing.past : Standing → Bool
  | .cleared | .admitted _ | .executing _ => true
  | _ => false

def Invocation.counts (generation : Nat) (route : String) (invocation : Invocation) : Bool :=
  invocation.counted && (invocation.generation = generation && invocation.route = route)

/-- The backup has paused the route and not resumed it. -/
def Backup.UnderWay (route : String) (backup : Backup) : Prop :=
  backup.route = route ∧ backup.stage ≠ .finished
deriving Decidable

instance (invocation : Invocation) : Decidable invocation.Executes :=
  match stands : invocation.standing with
  | .executing guard => isTrue ⟨guard, stands⟩
  | .entered | .begun | .cleared | .admitted _ | .answered | .over =>
      isFalse fun ⟨_, executes⟩ => nomatch stands.symm.trans executes

namespace NodeState

/-- While a backup reads, no invocation of its route is admitted and none of its guests
executes. -/
def Isolated (state : NodeState) : Prop :=
  ∀ backup ∈ state.backups, backup.stage = .reading →
    ∀ invocation ∈ state.invocations, invocation.route = backup.route →
      invocation.guard = none ∧ ¬invocation.Executes
deriving Decidable

/-- What isolates a backup: it is the only one of its route, its wait ends by the counter while
all that runs is counted there, and unchecked ways are not taken while it reads. -/
def Orderly (policy : String → RoutePolicy) (state : NodeState) : NodeEvent → Prop
  | .act index .start => ∀ invocation ∈ state.invocations[index]?,
      invocation.unchecked (policy invocation.route) →
      ∀ backup ∈ state.backups, backup.route = invocation.route → backup.stage ≠ .reading
  | .backup route _ => ∀ backup ∈ state.backups, ¬backup.UnderWay route
  | .drained index timedOut => timedOut = false ∧ ∀ backup ∈ state.backups[index]?,
      ∀ invocation ∈ state.invocations, invocation.route = backup.route →
        invocation.standing.past →
        invocation.counted ∧ invocation.generation = state.generation
  | _ => True

instance (policy : String → RoutePolicy) (state : NodeState) (event : NodeEvent) :
    Decidable (state.Orderly policy event) := by
  unfold NodeState.Orderly
  split <;> infer_instance

/-- What a drain backup relies on. -/
structure Quiesced (state : NodeState) : Prop where
  tallied : ∀ generation route, state.active generation route =
    state.invocations.countP (Invocation.counts generation route)
  fresh : ∀ invocation ∈ state.invocations,
    invocation.standing = .entered → invocation.counted = false
  single : ∀ route, Alone (Backup.UnderWay route) state.backups
  paused : ∀ backup ∈ state.backups, backup.stage ≠ .finished → state.paused backup.route
  quiet : ∀ backup ∈ state.backups, backup.stage = .reading →
    ∀ invocation ∈ state.invocations, invocation.route = backup.route →
      invocation.standing.past = false

variable {localNode : String} {policy : String → RoutePolicy} {state next : NodeState}

private theorem quiesced_initial : initial.Quiesced where
  tallied _ _ := rfl
  fresh := nofun
  single _ := alone_nil
  paused := nofun
  quiet := nofun

private theorem Quiesced.isolated (quiesced : state.Quiesced) : state.Isolated := by
  intro backup listed reading invocation member sameRoute
  have idle := quiesced.quiet backup listed reading invocation member sameRoute
  constructor
  · cases stands : invocation.standing with
    | admitted | executing =>
      rw [stands] at idle
      cases idle
    | _ => rw [Invocation.guard, stands]
  · rintro ⟨_, stands⟩
    rw [stands] at idle
    cases idle

/-! ## Counters -/

private theorem active_setActive (generation : Nat) (route : String) (count other : Nat)
    (place : String) : (state.setActive generation route count).active other place =
      if generation = other ∧ route = place then count else state.active other place := by
  change update state.active generation
    (update (state.active generation) route count) other place = _
  by_cases sameGeneration : generation = other
  · subst sameGeneration
    rw [update_self]
    by_cases sameRoute : route = place
    · rw [if_pos ⟨rfl, sameRoute⟩, ← sameRoute, update_self]
    · rw [if_neg fun both => sameRoute both.2, update_of_ne (Ne.symm sameRoute)]
  · rw [if_neg fun both => sameGeneration both.1, update_of_ne (Ne.symm sameGeneration)]

/-- The counters move as the unit of the invocation does. -/
def Charges (state next : NodeState) (invocation changed : Invocation) : Prop :=
  ∀ generation route,
    next.active generation route + (if invocation.counts generation route then 1 else 0) =
      state.active generation route + if changed.counts generation route then 1 else 0

variable {invocation changed : Invocation} {route : String} {index : Nat}

private theorem charges_of_same (active : next.active = state.active)
    (counted : changed.counted = invocation.counted)
    (generation : changed.generation = invocation.generation)
    (route : changed.route = invocation.route) : state.Charges next invocation changed := by
  intro _ _
  rw [active, Invocation.counts, Invocation.counts, counted, generation, route]

private theorem charges_count (uncounted : invocation.counted = false) (counted : changed.counted)
    (generation : changed.generation = invocation.generation)
    (route : changed.route = invocation.route) :
    state.Charges (state.count invocation) invocation changed := by
  intro other place
  rw [count, active_setActive, Invocation.counts, Invocation.counts, uncounted, counted, generation,
    route]
  by_cases here : invocation.generation = other ∧ invocation.route = place
  · obtain ⟨rfl, rfl⟩ := here
    simp
  · simp [here]

private theorem charges_uncount
    (positive : invocation.counted → 0 < state.active invocation.generation invocation.route)
    (uncounted : changed.counted = false) :
    state.Charges (state.uncount invocation) invocation changed := by
  intro other place
  rw [uncount, Invocation.counts, Invocation.counts, uncounted]
  cases counted : invocation.counted with
  | false => rfl
  | true =>
    rw [if_pos rfl, active_setActive]
    by_cases here : invocation.generation = other ∧ invocation.route = place
    · obtain ⟨rfl, rfl⟩ := here
      simpa using Nat.sub_add_cancel (positive counted)
    · simp [here]

private theorem Quiesced.positive (quiesced : state.Quiesced)
    (listed : invocation ∈ state.invocations)
    (counted : invocation.counted) : 0 < state.active invocation.generation invocation.route := by
  rw [quiesced.tallied, countP_pos_iff]
  exact ⟨invocation, listed, by simp [Invocation.counts, counted]⟩

private theorem Quiesced.uncounted (quiesced : state.Quiesced) {generation : Nat}
    (zero : state.active generation route = 0)
    (listed : invocation ∈ state.invocations) : invocation.counts generation route = false := by
  rw [quiesced.tallied, countP_eq_zero] at zero
  exact eq_false_of_ne_true (zero invocation listed)

/-! ## One invocation changes -/

section
variable {index : Nat} {invocation changed : Invocation}

section
variable (quiesced : state.Quiesced) (found : state.invocations[index]? = some invocation)
include quiesced found

/-- An invocation changes that does not get past the test by it while a backup reads. -/
theorem Quiesced.change (invocations : next.invocations = state.invocations.set index changed)
    (backups : next.backups = state.backups) (paused : next.paused = state.paused)
    (route : changed.route = invocation.route) (left : changed.standing ≠ .entered)
    (charges : state.Charges next invocation changed)
    (past : changed.standing.past → invocation.standing.past ∨
      ∀ backup ∈ state.backups, backup.route = invocation.route → backup.stage ≠ .reading) :
    next.Quiesced := by
  refine
    { tallied := ?_
      fresh := ?_
      single := backups ▸ quiesced.single
      paused := backups ▸ paused ▸ quiesced.paused
      quiet := ?_ }
  · intro generation place
    have moved := countP_set_add (Invocation.counts generation place) changed found
    have charged := charges generation place
    rw [quiesced.tallied, ← moved] at charged
    rw [invocations]
    exact Nat.add_right_cancel charged
  · rw [invocations]
    exact forall_mem_set quiesced.fresh fun entered => absurd entered left
  · intro backup underWay reading other listed sameRoute
    rw [backups] at underWay
    rw [invocations] at listed
    obtain listed | rfl := mem_or_eq_of_mem_set listed
    · exact quiesced.quiet backup underWay reading other listed sameRoute
    refine eq_false_of_ne_true fun isPast => ?_
    rw [route] at sameRoute
    obtain wasPast | unread := past isPast
    · rw [quiesced.quiet backup underWay reading invocation (mem_of_getElem? found)
        sameRoute] at wasPast
      cases wasPast
    · exact unread backup underWay sameRoute.symm reading

private theorem Quiesced.leave : (state.leave index invocation).Quiesced := by
  have charges : state.Charges (state.leave index invocation) invocation
      { invocation with standing := .over, counted := false, attached := false } :=
    charges_uncount (quiesced.positive (mem_of_getElem? found)) rfl
  obtain ⟨_, same⟩ := state.uncount_eq invocation
  rw [NodeState.leave, same] at charges ⊢
  exact quiesced.change found rfl rfl rfl rfl nofun charges nofun

private theorem Quiesced.pass (stands : invocation.standing = .cleared) (held : String → Bool)
    (locks : LockState) (guard : AdmissionGuard) :
    ({ state with held, locks }.pass index invocation guard).Quiesced :=
  quiesced.change found rfl rfl rfl rfl nofun (charges_of_same rfl rfl rfl rfl)
    fun _ => .inl (by rw [stands]; rfl)

end

private theorem Quiesced.unread (quiesced : state.Quiesced)
    (unpaused : state.paused route = false) :
    ∀ backup ∈ state.backups, backup.route = route → backup.stage ≠ .reading := by
  intro backup listed sameRoute reading
  have paused := quiesced.paused backup listed (by rw [reading]; exact nofun)
  rw [sameRoute, unpaused] at paused
  cases paused

/-! ## Steps -/

private theorem Quiesced.acts (quiesced : state.Quiesced)
    (found : state.invocations[index]? = some invocation) {action : Action}
    (orderly : state.Orderly policy (.act index action))
    (acts : Acts localNode (policy invocation.route) state index invocation action next) :
    next.Quiesced := by
  have listed := mem_of_getElem? found
  have unread (asked : action = .start)
      (unchecked : invocation.unchecked (policy invocation.route)) :
      ∀ backup ∈ state.backups, backup.route = invocation.route → backup.stage ≠ .reading := by
    subst asked
    exact orderly invocation found unchecked
  cases acts with
  | begin stands =>
    exact quiesced.change found rfl rfl rfl rfl nofun
      (charges_count (quiesced.fresh invocation listed stands) rfl rfl rfl) nofun
  | clear _ unpaused =>
    exact quiesced.change found rfl rfl rfl rfl nofun (charges_of_same rfl rfl rfl rfl)
      fun _ => .inr (quiesced.unread unpaused)
  | wait => exact { quiesced with }
  | @leave locks =>
    have same : { state with locks }.Quiesced := { quiesced with }
    exact same.leave found
  | passFree stands | passSlot stands | passLock stands =>
    exact quiesced.pass found stands _ _ _
  | startGuarded stands =>
    exact quiesced.change found rfl rfl rfl rfl nofun (charges_of_same rfl rfl rfl rfl)
      fun _ => .inl (by rw [stands]; rfl)
  | startStream asked _ unchecked | startPlain asked _ unchecked =>
    refine quiesced.change found rfl rfl rfl rfl nofun (charges_of_same rfl rfl rfl rfl)
      fun _ => .inr (unread asked ?_)
    rw [Invocation.unchecked, unchecked]
    rfl
  | startMicrovm asked stands unchecked =>
    refine quiesced.change found rfl rfl rfl rfl nofun
      (charges_count (quiesced.fresh invocation listed stands) rfl rfl rfl)
      fun _ => .inr (unread asked ?_)
    rw [Invocation.unchecked, unchecked]
    exact Bool.or_true _
  | @abort _ _ _ held released =>
    obtain ⟨held, locks, rfl⟩ := release_eq released
    have same : { state with held, locks }.Quiesced := { quiesced with }
    exact same.leave found
  | complete _ released ends =>
    obtain ⟨-, -, rfl⟩ := release_eq released
    obtain rfl | rfl := ends
    all_goals
      exact quiesced.change found rfl rfl rfl rfl nofun (charges_of_same rfl rfl rfl rfl) nofun
  | completeBare _ ends =>
    obtain rfl | rfl := ends
    · exact quiesced.change found rfl rfl rfl rfl nofun (charges_of_same rfl rfl rfl rfl) nofun
    · exact quiesced.change found rfl rfl rfl rfl nofun (charges_of_same rfl rfl rfl rfl) nofun
  | detachMicrovm stands =>
    exact quiesced.change found rfl rfl rfl rfl (by rw [stands]; exact nofun)
      (charges_of_same rfl rfl rfl rfl) .inl
  | detach stands =>
    have charges : state.Charges (state.uncount invocation) invocation
        { invocation with attached := false, counted := false } :=
      charges_uncount (quiesced.positive listed) rfl
    obtain ⟨_, same⟩ := state.uncount_eq invocation
    rw [same] at charges ⊢
    exact quiesced.change found rfl rfl rfl rfl (by rw [stands]; exact nofun) charges .inl

private theorem Quiesced.arrive (quiesced : state.Quiesced)
    (stands : invocation.standing = .entered)
    (uncounted : invocation.counted = false) :
    { state with invocations := state.invocations ++ [invocation] }.Quiesced := by
  refine { quiesced with tallied := ?_, fresh := ?_, quiet := ?_ }
  · intro generation route
    rw [quiesced.tallied, countP_append, countP_singleton, Invocation.counts, uncounted]
    rfl
  · exact forall_mem_push quiesced.fresh fun _ => uncounted
  · intro backup underWay reading
    refine forall_mem_push (quiesced.quiet backup underWay reading) fun _ => ?_
    rw [stands]
    rfl

end

variable (quiesced : state.Quiesced)
include quiesced

private theorem Quiesced.backup {guestPath : String}
    (only : ∀ backup ∈ state.backups, ¬backup.UnderWay route) :
    (state.backup route guestPath).Quiesced := by
  refine { quiesced with single := ?_, paused := ?_, quiet := ?_ }
  · intro place
    by_cases here : place = route
    · subst here
      exact alone_push only
    · exact (quiesced.single place).push fun underWay => here underWay.1.symm
  · intro backup listed unfinished
    change update state.paused route true backup.route
    rw [update_apply]
    split
    · rfl
    · next apart =>
      obtain listed | last := mem_append.mp listed
      · exact quiesced.paused backup listed unfinished
      · exact absurd (congrArg Backup.route (mem_singleton.mp last)) apart
  · exact forall_mem_push quiesced.quiet nofun

/-- The counter is at zero, and everything that runs would be counted there. -/
theorem Quiesced.drained {timedOut : Bool}
    (orderly : state.Orderly policy (.drained index timedOut))
    (stepped : state.drained index timedOut = some next) : next.Quiesced := by
  obtain ⟨rfl, counted⟩ := orderly
  unfold NodeState.drained at stepped
  split at stepped
  · next backup found =>
    obtain ⟨⟨draining, ended⟩, stepped⟩ := Option.ite_none_right_eq_some.mp stepped
    have zero := ended.resolve_left nofun
    cases stepped
    refine { quiesced with single := ?_, paused := ?_, quiet := ?_ }
    · intro route
      refine (quiesced.single route).rewrite found ?_
      rintro ⟨onRoute, -⟩
      exact ⟨onRoute, by rw [draining]; exact nofun⟩
    · exact forall_mem_set quiesced.paused
        fun _ => quiesced.paused backup (mem_of_getElem? found) (by rw [draining]; exact nofun)
    intro other listed reading invocation member sameRoute
    obtain listed | rfl := mem_or_eq_of_mem_set listed
    · exact quiesced.quiet other listed reading invocation member sameRoute
    refine eq_false_of_ne_true fun past => ?_
    obtain ⟨isCounted, current⟩ := counted backup found invocation member sameRoute past
    have uncounted := quiesced.uncounted zero member
    simp [Invocation.counts, isCounted, current, sameRoute] at uncounted
  · cases stepped

/-- No other backup of the route is under way when it is resumed. -/
theorem Quiesced.backedUp (stepped : state.backedUp index = some next) : next.Quiesced := by
  unfold NodeState.backedUp at stepped
  split at stepped
  · next backup found =>
    obtain ⟨reading, rfl⟩ := of_guard stepped
    have finished (route : String) : ¬Backup.UnderWay route { backup with stage := .finished } :=
      fun underWay => underWay.2 rfl
    refine { quiesced with single := ?_, paused := ?_, quiet := ?_ }
    · exact fun route => (quiesced.single route).replace (finished route)
    · intro other listed unfinished
      have apart : other.route ≠ backup.route := by
        intro sameRoute
        refine (quiesced.single backup.route).vacate found ⟨rfl, ?_⟩ (finished _) other listed
          ⟨sameRoute, unfinished⟩
        rw [reading]
        exact nofun
      change update state.paused backup.route false other.route
      rw [update_of_ne apart]
      obtain listed | rfl := mem_or_eq_of_mem_set listed
      · exact quiesced.paused other listed unfinished
      · exact absurd rfl unfinished
    · exact forall_mem_set quiesced.quiet fun isReading => nomatch isReading
  · cases stepped

private theorem Quiesced.step {event : NodeEvent} (orderly : state.Orderly policy event)
    (stepped : (nodeMachine localNode policy).step state event = some next) : next.Quiesced := by
  cases event with
  | arrive =>
    cases stepped
    exact quiesced.arrive rfl rfl
  | act =>
    obtain ⟨_, found, acted⟩ := Option.bind_eq_some_iff.mp stepped
    exact quiesced.acts found orderly (acts_of_act acted)
  | lock =>
    obtain ⟨-, locked⟩ := Option.ite_none_right_eq_some.mp stepped
    obtain ⟨_, -, rfl⟩ := Option.map_eq_some_iff.mp locked
    exact { quiesced with }
  | backup =>
    cases stepped
    exact quiesced.backup orderly
  | drained => exact quiesced.drained orderly stepped
  | backedUp => exact quiesced.backedUp stepped
  | reload =>
    cases stepped
    exact { quiesced with }

end NodeState

/-- Where backups of one route do not overlap, waits end by the counter with all that runs
counted on the current runtime, and no unchecked way is taken while a backup reads, a backup
that reads has its route for itself. -/
theorem drain_backups_isolated (localNode : String) (policy : String → RoutePolicy)
    {events : List NodeEvent} {state : NodeState}
    (orderly : (nodeMachine localNode policy).Along (NodeState.Orderly policy) .initial events)
    (reached : (nodeMachine localNode policy).run .initial events = some state) :
    state.Isolated := by
  have quiesced : state.Quiesced :=
    Machine.invariant_run (fun quiesced => quiesced.step) NodeState.quiesced_initial orderly reached
  exact quiesced.isolated

/-- A request on its way when the backup begins is waited for, one that comes later is turned
away, and two volumes of the route are backed up one after the other. -/
theorem orderly_backups :
    ∃ state, (nodeMachine "node-a" fun _ => restricted .unrestricted .blocking).run .initial
        (checkedStart 0 "/jobs" ++ [.backup "/jobs" "/data", .arrive "/jobs" .http, .act 1 .begin,
          .act 1 .test, .act 0 (.complete 1), .act 0 .finish, .drained 0 false, .backedUp 0,
          .backup "/jobs" "/logs", .drained 1 false]) = some state ∧
      state.backups.map (·.stage) = [.finished, .reading] ∧
      state.invocations.map (·.standing) = [.over, .over] ∧ state.Isolated := by
  refine Machine.exists_run (by decide +kernel) fun _ reached => ?_
  have isolated := drain_backups_isolated "node-a" _ (by decide +kernel) reached
  cases reached
  exact ⟨rfl, rfl, isolated⟩

/-- Runs after which a guest executes on the route of a backup that reads. -/
def unisolatedRuns : List (List NodeEvent) :=
  [ -- The end of one volume's backup lifts the pause of the other's.
   [.backup "/jobs" "/data", .backup "/jobs" "/logs", .drained 0 false, .drained 1 false,
     .backedUp 0] ++ checkedStart 0 "/jobs",
   -- The request is counted on a runtime that a reload has replaced.
   checkedStart 0 "/jobs" ++ [.reload, .backup "/jobs" "/data", .drained 0 false],
   -- The wait is over after thirty seconds.
   checkedStart 0 "/jobs" ++ [.backup "/jobs" "/data", .drained 0 true],
   -- A websocket is neither checked nor counted.
   [.backup "/jobs" "/data", .drained 0 false] ++ uncheckedStart 0 "/jobs" .websocket,
   -- A dropped request is not active, and its guest goes on.
   checkedStart 0 "/jobs" ++ [.act 0 (.drop 1), .backup "/jobs" "/data", .drained 0 false]]

/-- Each of these runs lets a backup read beside a guest. -/
theorem backup_reads_beside_guest : unisolatedRuns ≠ [] ∧ ∀ events ∈ unisolatedRuns,
    ∃ state, (nodeMachine "node-a" fun _ => restricted .unrestricted .blocking).run .initial
      events = some state ∧ ¬state.Isolated := by
  decide +kernel

end TachyonMesh.Admission
