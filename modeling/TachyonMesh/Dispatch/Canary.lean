import TachyonMesh.Foundation.Machine
import TachyonMesh.Dispatch.Routes

/-! # Canary rollouts

A rollout of a route has a weight, an atomic, and a phase behind a mutex. The
evaluator task raises the weight step by step until it records the promotion, or
resets it and records a rollback. An operator may abort the rollout or set its
weight, and the buffered requests of the route read phase and weight to choose a
module; these three hold the lock of the rollout registry while they do, the evaluator
does not. A state of the machine is the rollout between two accesses to shared
memory. Streamed requests and websockets take the route's own module without a look
at the registry.
-/

namespace TachyonMesh.Dispatch
open Foundation

/-! ## Thresholds -/

/-- A threshold as the configuration spells it. -/
structure CanaryMetricThreshold where
  name : String
  threshold : String

/-- The floating point operations of the evaluator, on `f32` and `f64`. -/
structure Floats (Single Double : Type) where
  zero : Single
  /-- The quotient of two counters as singles. -/
  quotient : Nat → Nat → Single
  exceeds : Single → Single → Bool
  /-- A rate in percent with one decimal. -/
  percent : Single → String
  parse : String → Option Double
  hundredth : Double → Double
  atLeast : Double → Double → Bool
  above : Double → Double → Bool
  display : Double → String

/-- How a rollout proceeds. -/
structure CanaryConfig (Single : Type) where
  nextVersion : String
  stepWeight : Nat := 10
  maxErrorRate : Single
  metrics : List CanaryMetricThreshold := []

/-- How a metric is compared. -/
inductive ThresholdOperator where
  | atLeast
  | atMost
  | above
  | below

def ThresholdOperator.symbol : ThresholdOperator → String
  | .atLeast => ">="
  | .atMost => "<="
  | .above => ">"
  | .below => "<"

section
variable {Single Double : Type} (floats : Floats Single Double)

def parseThreshold (input : String) : Option (ThresholdOperator × Double) := do
  let trimmed := (trim input).toList
  let operator ← [ThresholdOperator.atLeast, .atMost, .above, .below].find? fun operator =>
    operator.symbol.toList.isPrefixOf trimmed
  let rawValue := trimChars (trimmed.drop operator.symbol.toList.length)
  let numeric ← floats.parse (trim (String.ofList (rawValue.reverse.dropWhile (· == '%')).reverse))
  some (operator,
    if rawValue.getLast? = some '%' then floats.hundredth numeric else numeric)

def thresholdIsViolated (value : Double) (threshold : String) : Bool :=
  match parseThreshold floats threshold with
  | none => false
  | some (.below, expected) => floats.atLeast value expected
  | some (.atMost, expected) => floats.above value expected
  | some (.above, expected) => floats.atLeast expected value
  | some (.atLeast, expected) => floats.above expected value

/-- `custom_metric_rollback_reason`; `observed` is the telemetry it reads. -/
def customMetricRollbackReason (metrics : List CanaryMetricThreshold)
    (observed : String → Option Double) : Option String :=
  metrics.findSome? fun metric =>
    (observed metric.name).bind fun value =>
      if thresholdIsViolated floats value metric.threshold then
        some ("custom metric `" ++ metric.name ++ "` value " ++ floats.display value ++
          " violated threshold `" ++ metric.threshold ++ "`")
      else none

/-- Why the error rate of the next version asks for a rollback, if it does. -/
def errorRateRollbackReason (config : CanaryConfig Single) (requests errors : Nat) :
    Option String :=
  let errorRate := if 0 < requests then floats.quotient errors requests else floats.zero
  if floats.exceeds errorRate config.maxErrorRate then
    some ("error rate " ++ floats.percent errorRate ++ "% exceeded threshold " ++
      floats.percent config.maxErrorRate ++ "%")
  else none

end

/-! ## States -/

/-- Where a rollout stands. -/
inductive CanaryPhase where
  | stepping
  | promoted
  | rolledBack (reason : String)
deriving DecidableEq

def CanaryPhase.RolledBack : CanaryPhase → Prop
  | .rolledBack _ => True
  | _ => False

instance : (phase : CanaryPhase) → Decidable phase.RolledBack
  | .rolledBack _ => isTrue trivial
  | .stepping => isFalse id
  | .promoted => isFalse id

/-- The next access of `run_canary_evaluator` to shared memory. -/
inductive Evaluator where
  | sleeping
  /-- The phase is read next. -/
  | woken
  | counting
  /-- The requests were counted; the errors are read next. -/
  | counted (requests : Nat)
  | measuring
  /-- Nothing asks for a rollback; the weight is read next. -/
  | adjusting
  | adjusted (current : Nat)
  /-- The weight was raised to the end; the phase is written next. -/
  | promoting
  /-- A rollback was decided; the weight is reset next. -/
  | retreating (reason : String)
  | recording (reason : String)
  | finished
deriving DecidableEq

/-- Who has the lock of the rollout registry, and what comes next there. -/
inductive RegistryLock where
  | free
  | aborting
  | abortRecording
  /-- The phase was written, and its lock is held until the stop signal is sent. -/
  | abortSignalling
  | setting (weight : Nat)
  /-- The weight was set to the end; the phase is written next. -/
  | promoting
  /-- A request reads the phase next; the route's own choice is `module`. -/
  | routing (module : String)
  /-- A request found the rollout stepping and reads the weight next. -/
  | weighing (module : String)
deriving DecidableEq

/-- `CanaryRolloutState` with the tasks that work on it. -/
structure CanaryRollout where
  weightPct : Nat
  phase : CanaryPhase
  nextReqCount : Nat
  nextErrCount : Nat
  stopSent : Bool
  evaluator : Evaluator
  lock : RegistryLock
  /-- Requests sent to the next version that have not been counted. -/
  running : Nat
  /-- Requests that were counted and have yet to be counted as errors. -/
  failing : Nat

/-- A request of the route. -/
structure RouteRequest where
  headers : HeaderMap
  /-- The module that the caller has selected already. -/
  selected : Option String
  roll : Nat

/-- The module of a request by the route's own rules. -/
def RouteRequest.module (route : IntegrityRoute) (request : RouteRequest) : Except String String :=
  match request.selected with
  | some module => .ok module
  | none => selectRouteModule route request.headers request.roll

/-- Calls that take the lock of the rollout registry. -/
inductive RolloutCall where
  | abort
  | setWeight (weight : Nat)
  | request (request : RouteRequest)

/-- What may happen during a rollout. -/
inductive RolloutEvent (Double : Type) where
  /-- The evaluator's interval ends. -/
  | tick
  /-- The evaluator sees the stop signal. -/
  | stop
  /-- The next access of the evaluator; `observed` is the telemetry of that moment. -/
  | evaluate (observed : String → Option Double)
  | enter (call : RolloutCall)
  /-- The next access of the call that has the lock; `draw` is its random number. -/
  | proceed (draw : Nat)
  /-- A streamed request or a websocket. -/
  | stream (request : RouteRequest)
  /-- A request to the next version ends and is counted. -/
  | respond (failed : Bool)
  | countError
  /-- A request to the next version ends uncounted: refused, buffered or dropped. -/
  | discard

namespace CanaryRollout
variable {Single Double : Type} (floats : Floats Single Double) (config : CanaryConfig Single)
  (route : IntegrityRoute)

/-- A rollout as `spawn_canary_evaluators` makes it. -/
def spawned : CanaryRollout where
  weightPct := min config.stepWeight 100
  phase := .stepping
  nextReqCount := 0
  nextErrCount := 0
  stopSent := false
  evaluator := .sleeping
  lock := .free
  running := 0
  failing := 0

/-! ## The evaluator -/

def nextWeight (current : Nat) : Nat := min (saturatingAdd u32Max current config.stepWeight) 100

/-- An access to the phase; it waits for an abort that has the lock of the phase. -/
def withPhase (state access : CanaryRollout) : Option CanaryRollout :=
  if state.lock = .abortSignalling then none else some access

/-- One access of `run_canary_evaluator`. -/
def evaluate (state : CanaryRollout) (observed : String → Option Double) : Option CanaryRollout :=
  match state.evaluator with
  | .sleeping => none
  | .woken =>
      state.withPhase { state with
        evaluator := if state.phase = .stepping then .counting else .finished }
  | .counting => some { state with evaluator := .counted state.nextReqCount }
  | .counted requests =>
      match errorRateRollbackReason floats config requests state.nextErrCount with
      | some reason => some { state with evaluator := .retreating reason }
      | none => some { state with evaluator := .measuring }
  | .measuring =>
      match customMetricRollbackReason floats config.metrics observed with
      | some reason => some { state with evaluator := .retreating reason }
      | none => some { state with evaluator := .adjusting }
  | .adjusting => some { state with evaluator := .adjusted state.weightPct }
  | .adjusted current =>
      some { state with
        weightPct := nextWeight config current
        evaluator := if 100 ≤ nextWeight config current then .promoting else .sleeping }
  | .promoting => state.withPhase { state with phase := .promoted, evaluator := .finished }
  | .retreating reason => some { state with weightPct := 0, evaluator := .recording reason }
  | .recording reason =>
      state.withPhase { state with phase := .rolledBack reason, evaluator := .finished }
  | .finished => none

/-! ## Calls under the registry lock -/

/-- The first step of a call; a request whose module cannot be told fails before the lock. -/
def enter (state : CanaryRollout) : RolloutCall → Option CanaryRollout
  | .request request =>
      match request.module route with
      | .ok module =>
          if state.lock = .free then some { state with lock := .routing module } else none
      | .error _ => some state
  | .abort => if state.lock = .free then some { state with lock := .aborting } else none
  | .setWeight weight =>
      if state.lock = .free then some { state with lock := .setting weight } else none

/-- The draw sends a request to the next version. -/
def Drawn (state : CanaryRollout) (draw : Nat) : Prop :=
  0 < state.weightPct ∧ draw % 100 < state.weightPct
deriving Decidable

/-- One access of `admin_abort_canary_handler`, `admin_set_canary_weight_handler` or the
canary routing of `execute_route_request`. -/
def proceed (state : CanaryRollout) (draw : Nat) : Option CanaryRollout :=
  match state.lock with
  | .free => none
  | .aborting => some { state with weightPct := 0, lock := .abortRecording }
  | .abortRecording =>
      some { state with
        phase := .rolledBack "manually aborted by operator"
        lock := .abortSignalling }
  | .abortSignalling => some { state with stopSent := true, lock := .free }
  | .setting weight =>
      some { state with
        weightPct := min weight 100
        lock := if 100 ≤ min weight 100 then .promoting else .free }
  | .promoting => some { state with phase := .promoted, lock := .free }
  | .routing module =>
      some { state with lock := if state.phase = .stepping then .weighing module else .free }
  | .weighing _ =>
      if state.Drawn draw then some { state with lock := .free, running := state.running + 1 }
      else some { state with lock := .free }

/-! ## The machine -/

def step (state : CanaryRollout) : RolloutEvent Double → Option CanaryRollout
  | .tick =>
      if state.evaluator = .sleeping then some { state with evaluator := .woken } else none
  | .stop =>
      if state.evaluator = .sleeping ∧ state.stopSent then
        some { state with evaluator := .finished }
      else none
  | .evaluate observed => evaluate floats config state observed
  | .enter call => enter route state call
  | .proceed draw => state.proceed draw
  | .stream _ => some state
  | .respond failed =>
      if 0 < state.running then
        some { state with
          running := state.running - 1
          nextReqCount := (state.nextReqCount + 1) % (u64Max + 1)
          failing := if failed then state.failing + 1 else state.failing }
      else none
  | .countError =>
      if 0 < state.failing then
        some { state with
          failing := state.failing - 1
          nextErrCount := (state.nextErrCount + 1) % (u64Max + 1) }
      else none
  | .discard =>
      if 0 < state.running then some { state with running := state.running - 1 } else none

def machine : Machine CanaryRollout (RolloutEvent Double) := ⟨step floats config route⟩

/-- The module that a request selects in a step, if one does. -/
def selects (state : CanaryRollout) : RolloutEvent Double → Option String
  | .stream request => (request.module route).toOption
  | .proceed draw =>
      match state.lock with
      | .routing module => if state.phase = .stepping then none else some module
      | .weighing module => some (if state.Drawn draw then config.nextVersion else module)
      | _ => none
  | _ => none

end CanaryRollout

end TachyonMesh.Dispatch
