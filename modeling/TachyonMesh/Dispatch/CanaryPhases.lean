import TachyonMesh.Dispatch.Canary

/-! # The terminal phases of a canary rollout

The evaluator acts on a phase that it read several accesses ago, the operator's calls
write the phase they are asked for whatever it is, and the router looks at rollouts
that are stepping only. Runs in which the calls do not overlap in these ways, and whose
requests ask by themselves for the version that the terminal phase calls for, keep both
phases.
-/

namespace TachyonMesh.Dispatch
open Foundation Evaluator Machine

/-- The evaluator has found the rollout stepping and has not slept since. -/
def Evaluator.Iterating : Evaluator → Prop
  | .sleeping | .woken | .finished => False
  | _ => True

/-- The evaluator has written a weight and writes the phase next. -/
def Evaluator.Concluding : Evaluator → Prop
  | .promoting | .recording _ => True
  | _ => False

instance : (evaluator : Evaluator) → Decidable evaluator.Iterating
  | .sleeping | .woken | .finished => isFalse id
  | .counting | .counted _ | .measuring | .adjusting | .adjusted _ | .promoting | .retreating _
  | .recording _ => isTrue trivial

instance : (evaluator : Evaluator) → Decidable evaluator.Concluding
  | .promoting | .recording _ => isTrue trivial
  | .sleeping | .woken | .finished | .counting | .counted _ | .measuring | .adjusting
  | .adjusted _ | .retreating _ => isFalse id

namespace CanaryRollout
variable {Single Double : Type} {floats : Floats Single Double} {config : CanaryConfig Single}
  {route : IntegrityRoute} {state next : CanaryRollout}

/-! ## What one step does -/

/-- What the tasks rely on between their accesses. -/
structure Valid (state : CanaryRollout) : Prop where
  iterating : state.evaluator.Iterating → ¬state.phase.RolledBack
  setting : state.lock = .promoting → ¬state.phase.RolledBack
  recording : ∀ reason, state.evaluator = .recording reason → state.weightPct = 0
  promoting : state.evaluator = .promoting → 100 ≤ state.weightPct ∨ state.lock = .abortRecording
  /-- While a request has the lock only the evaluator leaves the phase, as its last access. -/
  weighing : ∀ module, state.lock = .weighing module → state.phase ≠ .stepping →
    state.evaluator = .finished ∧ (state.phase = .promoted → 100 ≤ state.weightPct) ∧
      (state.phase.RolledBack → state.weightPct = 0)

private theorem spawned_valid (config : CanaryConfig Single) : (spawned config).Valid where
  iterating := nofun
  setting := nofun
  recording := nofun
  promoting := nofun
  weighing := nofun

variable {module : String} {event : RolloutEvent Double}

private theorem Valid.stepping_of_weighing (valid : state.Valid)
    (weighing : state.lock = .weighing module)
    (active : state.evaluator ≠ .finished) : state.phase = .stepping := by
  by_contra left
  exact active (valid.weighing module weighing left).1

private theorem withPhase_eq_some {access : CanaryRollout} :
    state.withPhase access = some next ↔ state.lock ≠ .abortSignalling ∧ access = next := by
  unfold withPhase
  split <;> simp [*]

/-- Moves of the evaluator that change nothing but its place. -/
theorem Valid.advance (valid : state.Valid) {evaluator : Evaluator}
    (active : state.evaluator ≠ .finished) (begun : evaluator.Iterating → ¬state.phase.RolledBack)
    (inside : ¬evaluator.Concluding) : ({ state with evaluator } : CanaryRollout).Valid where
  iterating := begun
  setting := valid.setting
  recording := by
    rintro _ rfl
    exact absurd trivial inside
  promoting := by
    rintro rfl
    exact absurd trivial inside
  weighing := by
    intro module weighing left
    exact absurd (valid.stepping_of_weighing weighing active) left

/-! ## Runs without harmful overlaps -/

/-- A request that asks by itself for the version that a terminal phase calls for. -/
def Fitting (config : CanaryConfig Single) (phase : CanaryPhase) (module : String) : Prop :=
  (phase = .promoted → module = config.nextVersion) ∧
    (phase.RolledBack → module ≠ config.nextVersion)
deriving Decidable

/-- The evaluator does not record a rollback between the two writes of a promotion by
hand. -/
def OrderlyEvaluation (lock : RegistryLock) : Evaluator → Prop
  | .recording _ => lock ≠ .promoting
  | _ => True

instance (lock : RegistryLock) (evaluator : Evaluator) :
    Decidable (OrderlyEvaluation lock evaluator) := by
  unfold OrderlyEvaluation
  split <;> infer_instance

/-- An abort is not recorded during an iteration of the evaluator. A weight is not set
between the last two writes of the evaluator, nor to the end after a rollback. -/
def OrderlyCall (config : CanaryConfig Single) (state : CanaryRollout) : RegistryLock → Prop
  | .abortRecording => ¬state.evaluator.Iterating
  | .setting weight =>
      ¬state.evaluator.Concluding ∧ (100 ≤ weight → ¬state.phase.RolledBack)
  | .routing module => Fitting config state.phase module
  | .weighing module => state.phase.RolledBack → module ≠ config.nextVersion
  | _ => True

instance (state : CanaryRollout) (lock : RegistryLock) :
    Decidable (OrderlyCall config state lock) := by
  unfold OrderlyCall
  split <;> infer_instance

def Orderly (config : CanaryConfig Single) (route : IntegrityRoute) (state : CanaryRollout) :
    RolloutEvent Double → Prop
  | .evaluate _ => OrderlyEvaluation state.lock state.evaluator
  | .proceed _ => OrderlyCall config state state.lock
  | .stream request =>
      ∀ module ∈ (request.module route).toOption, Fitting config state.phase module
  | _ => True

instance (state : CanaryRollout) (event : RolloutEvent Double) :
    Decidable (Orderly config route state event) := by
  unfold Orderly
  split <;> infer_instance

/-- A step keeps what the tasks rely on, and a recorded rollback. -/
structure Keeps (state next : CanaryRollout) : Prop where
  valid : next.Valid
  rolledBack : state.phase.RolledBack → next.phase.RolledBack

section
variable (valid : state.Valid)
include valid

private theorem evaluate_keeps (orderly : OrderlyEvaluation state.lock state.evaluator)
    {observed : String → Option Double}
    (stepped : evaluate floats config state observed = some next) : state.Keeps next := by
  -- Every access but the writes of weight and phase is a case of `Valid.advance`.
  have advance : ∀ evaluator : Evaluator, state.evaluator.Iterating → ¬evaluator.Concluding →
      state.Keeps { state with evaluator } := by
    intro evaluator begun inside
    refine ⟨valid.advance ?_ (fun _ => valid.iterating begun) inside, id⟩
    intro finished
    rw [finished] at begun
    exact begun
  unfold evaluate at stepped
  cases place : state.evaluator <;> rw [place] at stepped <;> dsimp only at stepped
  case sleeping => cases stepped
  case finished => cases stepped
  case woken =>
    obtain ⟨-, rfl⟩ := withPhase_eq_some.mp stepped
    refine ⟨valid.advance (by simp [place]) ?_ ?_, id⟩
    · split
      next stepping => simp [stepping, CanaryPhase.RolledBack]
      next => exact False.elim
    · split <;> exact id
  case counting =>
    cases stepped
    exact advance _ (by simp [place, Iterating]) id
  case counted requests =>
    split at stepped <;> cases stepped <;>
      exact advance _ (by simp [place, Iterating]) id
  case measuring =>
    split at stepped <;> cases stepped <;>
      exact advance _ (by simp [place, Iterating]) id
  case adjusting =>
    cases stepped
    exact advance _ (by simp [place, Iterating]) id
  case adjusted current =>
    cases stepped
    have kept : ¬state.phase.RolledBack := valid.iterating (by simp [place, Iterating])
    refine ⟨⟨fun _ => kept, valid.setting, ?_, ?_, ?_⟩, id⟩
    · intro reason recording
      split at recording <;> cases recording
    · intro promoting
      split at promoting
      next full => exact .inl full
      next => cases promoting
    · intro module weighing left
      exact absurd (valid.stepping_of_weighing weighing (by simp [place])) left
  case promoting =>
    obtain ⟨-, rfl⟩ := withPhase_eq_some.mp stepped
    have kept : ¬state.phase.RolledBack := valid.iterating (by simp [place, Iterating])
    refine ⟨⟨nofun, fun _ => id, nofun, nofun, ?_⟩, fun rolledBack => absurd rolledBack kept⟩
    intro module weighing _
    dsimp only at weighing
    refine ⟨rfl, fun _ => ?_, nofun⟩
    exact (valid.promoting place).resolve_right (by simp [weighing])
  case retreating reason =>
    cases stepped
    have kept : ¬state.phase.RolledBack := valid.iterating (by simp [place, Iterating])
    refine ⟨⟨fun _ => kept, valid.setting, fun _ _ => rfl, nofun, ?_⟩, id⟩
    intro module weighing left
    exact absurd (valid.stepping_of_weighing weighing (by simp [place])) left
  case recording reason =>
    obtain ⟨-, rfl⟩ := withPhase_eq_some.mp stepped
    have apart : state.lock ≠ .promoting := by
      rw [place] at orderly
      exact orderly
    refine ⟨⟨nofun, fun promoting => absurd promoting apart, nofun, nofun, ?_⟩,
      fun _ => trivial⟩
    intro module _ _
    exact ⟨rfl, nofun, fun _ => valid.recording reason place⟩

private theorem Valid.pass {lock : RegistryLock} (leaves : state.lock ≠ .abortRecording)
    (setting : lock = .promoting → ¬state.phase.RolledBack)
    (weighing : ∀ module, lock = .weighing module → state.phase = .stepping) :
    ({ state with lock } : CanaryRollout).Valid where
  __ := valid
  setting := setting
  promoting := fun promoting => .inl ((valid.promoting promoting).resolve_right leaves)
  weighing := fun module holds left => absurd (weighing module holds) left

private theorem enter_keeps {call : RolloutCall} (stepped : enter route state call = some next) :
    state.Keeps next := by
  have take : ∀ lock : RegistryLock, lock ≠ .promoting → (∀ module, lock ≠ .weighing module) →
      (if state.lock = .free then some { state with lock } else none) = some next →
      state.Keeps next := by
    intro lock promoting weighing taken
    split at taken
    next free =>
      cases taken
      refine ⟨valid.pass (by simp [free]) ?_ ?_, id⟩
      · exact fun holds => absurd holds promoting
      · exact fun module holds => absurd holds (weighing module)
    next => cases taken
  cases call with
  | abort => exact take .aborting nofun nofun stepped
  | setWeight weight => exact take (.setting weight) nofun nofun stepped
  | request =>
    unfold enter at stepped
    dsimp only at stepped
    split at stepped
    next module _ => exact take (.routing module) nofun nofun stepped
    next =>
      cases stepped
      exact ⟨valid, id⟩

private theorem proceed_keeps (orderly : OrderlyCall config state state.lock) {draw : Nat}
    (stepped : state.proceed draw = some next) : state.Keeps next := by
  unfold proceed at stepped
  cases place : state.lock <;> rw [place] at stepped orderly <;>
    dsimp only [OrderlyCall] at stepped orderly
  case free => cases stepped
  case aborting =>
    cases stepped
    exact ⟨⟨valid.iterating, nofun, fun _ _ => rfl, fun _ => .inr rfl, nofun⟩, id⟩
  case abortRecording =>
    cases stepped
    refine ⟨⟨fun begun => absurd begun orderly, nofun, valid.recording, ?_, nofun⟩,
      fun _ => trivial⟩
    intro promoting
    rw [promoting] at orderly
    exact absurd trivial orderly
  case abortSignalling =>
    cases stepped
    refine ⟨⟨valid.iterating, nofun, valid.recording, ?_, nofun⟩, id⟩
    intro promoting
    exact .inl ((valid.promoting promoting).resolve_right (by simp [place]))
  case setting weight =>
    cases stepped
    obtain ⟨inside, fresh⟩ := orderly
    refine ⟨⟨valid.iterating, ?_, ?_, ?_, ?_⟩, id⟩
    · intro promoting
      split at promoting
      next full => exact fresh (le_trans full (min_le_left weight 100))
      next => cases promoting
    · intro reason recording
      rw [recording] at inside
      exact absurd trivial inside
    · intro promoting
      dsimp only at promoting
      rw [promoting] at inside
      exact absurd trivial inside
    · intro module weighing
      split at weighing <;> cases weighing
  case promoting =>
    cases stepped
    have kept : ¬state.phase.RolledBack := valid.setting place
    refine ⟨⟨fun _ => id, nofun, valid.recording, ?_, nofun⟩,
      fun rolledBack => absurd rolledBack kept⟩
    intro promoting
    exact .inl ((valid.promoting promoting).resolve_right (by simp [place]))
  case routing module =>
    cases stepped
    refine ⟨valid.pass (by simp [place]) ?_ ?_, id⟩
    · intro holds
      split at holds <;> cases holds
    intro other holds
    split at holds
    next stepping => exact stepping
    next => cases holds
  case weighing module =>
    split at stepped
    next =>
      cases stepped
      have passed : ({ state with lock := .free } : CanaryRollout).Valid :=
        valid.pass (by simp [place]) nofun nofun
      exact ⟨⟨passed.iterating, passed.setting, passed.recording, passed.promoting,
        passed.weighing⟩, id⟩
    next =>
      cases stepped
      exact ⟨valid.pass (by simp [place]) nofun nofun, id⟩

private theorem step_keeps (orderly : Orderly config route state event)
    (stepped : (machine floats config route).step state event = some next) : state.Keeps next := by
  have still : ∀ running requests errors failing,
      state.Keeps { state with
        running, nextReqCount := requests, nextErrCount := errors, failing } := by
    intro running requests errors failing
    exact ⟨⟨valid.iterating, valid.setting, valid.recording, valid.promoting, valid.weighing⟩, id⟩
  cases event with
  | tick =>
    obtain ⟨sleeping, rfl⟩ := of_guard stepped
    exact ⟨valid.advance (by simp [sleeping]) False.elim id, id⟩
  | stop =>
    obtain ⟨⟨sleeping, -⟩, rfl⟩ := of_guard stepped
    exact ⟨valid.advance (by simp [sleeping]) False.elim id, id⟩
  | evaluate => exact evaluate_keeps valid orderly stepped
  | enter => exact enter_keeps valid stepped
  | proceed => exact proceed_keeps valid orderly stepped
  | stream =>
    cases stepped
    exact ⟨valid, id⟩
  | _ =>
    obtain ⟨-, rfl⟩ := of_guard stepped
    exact still _ _ _ _

end

private theorem valid_step : (machine floats config route).Preserves (Orderly config route) Valid :=
  fun valid orderly stepped => (step_keeps valid orderly stepped).valid

/-! ## Selections -/

section
variable (config : CanaryConfig Single) (route : IntegrityRoute) (state : CanaryRollout)
  (event : RolloutEvent Double)

/-- A request that selects its module while the rollout is rolled back does not get the
next version. -/
def Spared : Prop :=
  state.phase.RolledBack → ∀ module ∈ selects config route state event, module ≠ config.nextVersion

/-- A request that selects its module while the rollout is promoted gets the next version. -/
def Shifted : Prop :=
  state.phase = .promoted → ∀ module ∈ selects config route state event, module = config.nextVersion

end

private theorem selects_cases (selected : module ∈ selects config route state event)
    (orderly : Orderly config route state event) (terminal : state.phase ≠ .stepping) :
    Fitting config state.phase module ∨
      ∃ own draw, state.lock = .weighing own ∧
        (state.phase.RolledBack → own ≠ config.nextVersion) ∧
        module = if state.Drawn draw then config.nextVersion else own := by
  cases event <;> first | cases selected | skip
  case stream request => exact .inl (orderly module selected)
  case proceed draw =>
    dsimp only [selects] at selected
    replace orderly : OrderlyCall config state state.lock := orderly
    cases place : state.lock <;> rw [place] at selected orderly <;>
      dsimp only [OrderlyCall] at selected orderly <;> first | cases selected; done | skip
    case routing own =>
      rw [if_neg terminal] at selected
      cases selected
      exact .inl orderly
    case weighing own =>
      exact .inr ⟨own, draw, rfl, orderly, (Option.some.inj selected).symm⟩

private theorem spared_of_valid (valid : state.Valid)
    (orderly : Orderly config route state event) : Spared config route state event := by
  intro rolledBack module selected
  have terminal : state.phase ≠ .stepping := by
    intro stepping
    rw [stepping] at rolledBack
    exact rolledBack
  obtain fitting | ⟨own, draw, weighing, other, rfl⟩ := selects_cases selected orderly terminal
  · exact fitting.2 rolledBack
  -- The weight was reset before the rollback was recorded.
  obtain ⟨-, -, reset⟩ := valid.weighing own weighing terminal
  have undrawn : ¬state.Drawn draw := by
    rintro ⟨positive, -⟩
    rw [reset rolledBack] at positive
    exact absurd positive (Nat.lt_irrefl 0)
  rw [if_neg undrawn]
  exact other rolledBack

private theorem shifted_of_valid (valid : state.Valid)
    (orderly : Orderly config route state event) : Shifted config route state event := by
  intro promoted module selected
  have terminal : state.phase ≠ .stepping := by simp [promoted]
  obtain fitting | ⟨own, draw, weighing, -, rfl⟩ := selects_cases selected orderly terminal
  · exact fitting.1 promoted
  -- The weight was raised to the end before the promotion was recorded.
  obtain ⟨-, full, -⟩ := valid.weighing own weighing terminal
  have drawn : state.Drawn draw := by
    have := full promoted
    have := Nat.mod_lt draw (show 0 < 100 by decide)
    exact ⟨by omega, by omega⟩
  rw [if_pos drawn]

/-- What a rollout owes its operator: a recorded rollback stays, and terminal phases
decide where requests go. -/
structure TerminalPhasesKept (floats : Floats Single Double) (config : CanaryConfig Single)
    (route : IntegrityRoute) (events : List (RolloutEvent Double)) : Prop where
  stays : ∀ before after, events = before ++ after → ∀ middle final,
    (machine floats config route).run (spawned config) before = some middle →
    (machine floats config route).run middle after = some final →
    middle.phase.RolledBack → final.phase.RolledBack
  spared : (machine floats config route).Along (Spared config route) (spawned config) events
  shifted : (machine floats config route).Along (Shifted config route) (spawned config) events

/-- In orderly runs a rollback stays, and terminal phases decide where requests go. -/
theorem terminal_phases_kept (floats : Floats Single Double) (config : CanaryConfig Single)
    (route : IntegrityRoute) (events : List (RolloutEvent Double))
    (orderly : (machine floats config route).Along (Orderly config route) (spawned config) events) :
    TerminalPhasesKept floats config route events where
  stays := by
    rintro _ _ rfl middle _ reached continued rolledBack
    obtain ⟨earlier, later⟩ := along_of_append orderly reached
    have valid : middle.Valid := invariant_run valid_step (spawned_valid config) earlier reached
    have kept : (machine floats config route).Preserves (Orderly config route)
        fun state => state.Valid ∧ state.phase.RolledBack := by
      intro state event next kept orderly stepped
      have keeps := step_keeps kept.1 orderly stepped
      exact ⟨keeps.valid, keeps.rolledBack kept.2⟩
    exact (invariant_run kept ⟨valid, rolledBack⟩ later continued).2
  spared := along_of_invariant valid_step spared_of_valid (spawned_valid config) orderly
  shifted := along_of_invariant valid_step shifted_of_valid (spawned_valid config) orderly

/-! ## Two rollouts -/

/-- Whole percents in place of floating point numbers. -/
def percents : Floats Nat Nat where
  zero := 0
  quotient := fun errors requests => 100 * errors / requests
  exceeds := fun left right => decide (right < left)
  percent := Nat.repr
  parse := String.toNat?
  hundredth := fun value => value / 100
  atLeast := fun left right => decide (right ≤ left)
  above := fun left right => decide (right < left)
  display := Nat.repr

def chatRollout : CanaryConfig Nat where
  nextVersion := "chat-v2"
  stepWeight := 50
  maxErrorRate := 5

def chatRoute : IntegrityRoute where
  path := "/api/chat"
  name := "chat-v1"

def plainRequest : RouteRequest where
  headers := .empty
  selected := none
  roll := 0

def evaluations (count : Nat) : List (RolloutEvent Nat) :=
  List.replicate count (.evaluate fun _ => none)

/-- Half of the requests go to the next version; one fails, and the evaluator resets the
weight. A later request and a later weight change nothing. -/
def failingVersion : List (RolloutEvent Nat) :=
  [.enter (.request plainRequest), .proceed 0, .proceed 49, .respond true, .countError, .tick] ++
    evaluations 5 ++
    [.enter (.setWeight 40), .proceed 0, .enter (.request plainRequest), .proceed 0]

/-- A version that only fails is rolled back, and stays so. -/
theorem failing_version_rolled_back :
    ((machine percents chatRollout chatRoute).run (spawned chatRollout) failingVersion).map
        phase = some (.rolledBack "error rate 100% exceeded threshold 5%") ∧
      TerminalPhasesKept percents chatRollout chatRoute failingVersion :=
  ⟨by decide +kernel, terminal_phases_kept _ _ _ _ (by decide +kernel)⟩

/-- A request of the promoted route is served by the current version. A promotion is
recorded over an abort that came during the evaluator's last iteration, and over one that
came before the operator set the weight. -/
theorem terminal_phases_left :
    (∃ rollout, (machine percents chatRollout chatRoute).run (spawned chatRollout)
        (.tick :: evaluations 7 ++ [.enter (.request plainRequest)]) = some rollout ∧
      rollout.phase = .promoted ∧
      selects chatRollout chatRoute rollout (.proceed 0 : RolloutEvent Nat) = some "chat-v1") ∧
    (∃ aborted rollout, (machine percents chatRollout chatRoute).run (spawned chatRollout)
        (.tick :: evaluations 6 ++ [.enter .abort, .proceed 0, .proceed 0, .proceed 0]) =
          some aborted ∧
      aborted.phase = .rolledBack "manually aborted by operator" ∧
      (machine percents chatRollout chatRoute).run aborted (evaluations 1) = some rollout ∧
      rollout.phase = .promoted) ∧
    (∃ aborted rollout, (machine percents chatRollout chatRoute).run (spawned chatRollout)
        [.enter .abort, .proceed 0, .proceed 0, .proceed 0] = some aborted ∧
      aborted.phase = .rolledBack "manually aborted by operator" ∧
      (machine percents chatRollout chatRoute).run aborted
        [.enter (.setWeight 100), .proceed 0, .proceed 0] = some rollout ∧
      rollout.phase = .promoted) := by
  refine ⟨⟨_, rfl, ?_, ?_⟩, ⟨_, _, rfl, ?_, rfl, ?_⟩, ⟨_, _, rfl, ?_, rfl, ?_⟩⟩ <;>
    decide +kernel

end CanaryRollout

end TachyonMesh.Dispatch
