import TachyonMesh.Admission.Node

/-! # Policies and transports

Of the ways to a route's guest only the buffered one asks `check`. The other ways start guests
beside it.
-/

namespace TachyonMesh.Admission
open Foundation Store List Function LockState

/-- The guard is one that `check` makes for the mode. -/
def AdmissionGuard.Suits (mode : ConcurrencyMode) : AdmissionGuard → Prop
  | .noOp => mode = .unrestricted ∨ mode = .meshLeader
  | .nodeSlot => mode = .nodeSingleton
  | .meshLock _ => mode.locks

/-- At most one guest of the route at a time. -/
def ConcurrencyMode.exclusive : ConcurrencyMode → Bool
  | .nodeSingleton | .meshSingleton | .meshLeaderStrict => true
  | _ => false

namespace Invocation

def Occupies (route : String) (invocation : Invocation) : Prop :=
  invocation.route = route ∧ invocation.guard = some .nodeSlot

def HasLock (guard : Nat) (invocation : Invocation) : Prop :=
  invocation.guard = some (.meshLock guard)

end Invocation

open Invocation

namespace NodeState

/-- What binds a policy: unchecked ways are not taken to routes that have one or are paused, no
route is paused while a guest executes on such a way, and locks are acquired while the node's own
live guards on them are within their leases. -/
def Bound (localNode : String) (policy : String → RoutePolicy) (state : NodeState) :
    NodeEvent → Prop
  | .act index .start => ∀ invocation ∈ state.invocations[index]?,
      invocation.unchecked (policy invocation.route) →
      (policy invocation.route).mode = .unrestricted ∧ state.paused invocation.route = false
  | .act index (.acquire nowMs _) => ∀ invocation ∈ state.invocations[index]?,
      (policy invocation.route).mode.locks →
      state.locks.Timely (· = localNode) (.tryAcquire (lockKey invocation.route) localNode
        (policy invocation.route).lockTtlMs nowMs)
  | .lock event => state.locks.Timely (· = localNode) event
  | .backup route _ => ∀ invocation ∈ state.invocations,
      invocation.route = route → invocation.standing ≠ .executing none
  | _ => True

instance (localNode : String) (policy : String → RoutePolicy) (state : NodeState) :
    (event : NodeEvent) → Decidable (state.Bound localNode policy event)
  | .act _ .start | .act _ (.acquire ..) | .lock _ | .backup .. => by
    unfold NodeState.Bound
    infer_instance
  | .act _ .begin | .act _ .test | .act _ .giveUp | .act _ (.fail _) | .act _ (.complete _)
  | .act _ (.drop _) | .act _ .finish | .arrive .. | .drained .. | .backedUp _ | .reload =>
      isTrue trivial

/-- Policies and pauses bind every guest that executes. -/
structure PoliciesBind (policy : String → RoutePolicy) (state : NodeState) : Prop where
  guarded : ∀ invocation ∈ state.invocations, invocation.Executes →
    (policy invocation.route).mode ≠ .unrestricted ∨ state.paused invocation.route →
    ∃ guard, invocation.guard = some guard ∧ guard.Suits (policy invocation.route).mode
  alone : ∀ route, (policy route).mode.exclusive →
    Alone (fun invocation => invocation.route = route ∧ invocation.Executes) state.invocations

/-- Slots and guards fit the invocations that hold them. -/
structure Governed (localNode : String) (policy : String → RoutePolicy) (state : NodeState) :
    Prop where
  slots : ∀ route, Alone (Occupies route) state.invocations
  vacant : ∀ route, state.held route = false →
    ∀ invocation ∈ state.invocations, ¬invocation.Occupies route
  sole : state.locks.Sole (· = localNode)
  apart : ∀ guard, Alone (HasLock guard) state.invocations
  owned : ∀ invocation ∈ state.invocations, ∀ guard, invocation.HasLock guard →
    ∃ lock, state.locks.guards[guard]? = some lock ∧ lock.live ∧
      lock.key = lockKey invocation.route ∧ lock.holder = localNode
  suits : ∀ invocation ∈ state.invocations, ∀ guard, invocation.guard = some guard →
    guard.Suits (policy invocation.route).mode
  guarded : ∀ invocation ∈ state.invocations, invocation.standing = .executing none →
    (policy invocation.route).mode = .unrestricted ∧ state.paused invocation.route = false

variable {localNode : String} {policy : String → RoutePolicy} {state next : NodeState}

private theorem governed_initial : initial.Governed localNode policy where
  slots _ := alone_nil
  vacant := nofun
  sole := sole_initial
  apart _ := alone_nil
  owned := nofun
  suits := nofun
  guarded := nofun

/-! ## One invocation changes -/

section
variable {index : Nat} {invocation changed : Invocation}

/-- An invocation changes that gets no guard by it. -/
theorem Governed.keep (governed : state.Governed localNode policy)
    (found : state.invocations[index]? = some invocation)
    (invocations : next.invocations = state.invocations.set index changed)
    (held : next.held = state.held) (locks : next.locks = state.locks)
    (paused : next.paused = state.paused)
    (route : changed.route = invocation.route)
    (guards : changed.guard = none ∨ changed.guard = invocation.guard)
    (bare : changed.standing = .executing none →
      (policy changed.route).mode = .unrestricted ∧ state.paused changed.route = false) :
    next.Governed localNode policy := by
  have member := mem_of_getElem? found
  have guards (guard : AdmissionGuard) (has : changed.guard = some guard) :
      invocation.guard = some guard := by
    obtain none | same := guards
    · cases none.symm.trans has
    · exact same.symm.trans has
  have occupies (place : String) (occupies : changed.Occupies place) : invocation.Occupies place :=
    ⟨route ▸ occupies.1, guards _ occupies.2⟩
  refine
    { slots := ?_
      vacant := ?_
      sole := locks ▸ governed.sole
      apart := ?_
      owned := ?_
      suits := ?_
      guarded := ?_ }
  · intro place
    rw [invocations]
    exact (governed.slots place).rewrite found (occupies place)
  · intro place free
    rw [held] at free
    rw [invocations]
    exact forall_mem_set (governed.vacant place free) fun taken =>
      governed.vacant place free invocation member (occupies place taken)
  · intro guard
    rw [invocations]
    exact (governed.apart guard).rewrite found (guards _)
  · rw [locks, invocations]
    refine forall_mem_set governed.owned fun guard has => ?_
    rw [route]
    exact governed.owned invocation member guard (guards _ has)
  · rw [invocations]
    refine forall_mem_set governed.suits fun guard has => ?_
    rw [route]
    exact governed.suits invocation member guard (guards _ has)
  · rw [paused, invocations]
    exact forall_mem_set governed.guarded bare

variable {locks : LockState} {guard : AdmissionGuard} {nowMs : Nat} {action : Action}
  (governed : state.Governed localNode policy)
include governed

/-- The locks change, and the guards of the node's invocations stay. -/
theorem Governed.setLocks (sole : locks.Sole (· = localNode))
    (keeps : ∀ invocation ∈ state.invocations, ∀ guard, invocation.HasLock guard →
      ∀ lock, state.locks.guards[guard]? = some lock →
      ∃ kept, locks.guards[guard]? = some kept ∧ kept.key = lock.key ∧ kept.holder = lock.holder ∧
      kept.live = lock.live) :
    { state with locks }.Governed localNode policy where
  __ := governed
  sole := sole
  owned other listed guard has := by
    obtain ⟨lock, found, live, key, holder⟩ := governed.owned other listed guard has
    obtain ⟨kept, found, sameKey, sameHolder, sameLive⟩ := keeps other listed guard has lock found
    exact ⟨kept, found, sameLive.trans live, sameKey.trans key, sameHolder.trans holder⟩

/-- The guard of an invocation is dropped, and with it a slot or a lock. -/
theorem Governed.release (found : state.invocations[index]? = some invocation)
    (has : invocation.guard = some guard)
    (released : state.release invocation.route nowMs guard = some next)
    (route : changed.route = invocation.route) (free : changed.guard = none)
    (bare : changed.standing ≠ .executing none) :
    (next.setInvocation index changed).Governed localNode policy := by
  have settled : (state.setInvocation index changed).Governed localNode policy := by
    exact governed.keep found rfl rfl rfl rfl route (.inl free) fun stands => absurd stands bare
  cases guard with
  | noOp =>
    cases released
    exact settled
  | nodeSlot =>
    cases released
    refine { settled with vacant := ?_ }
    intro place vacated
    change update state.held invocation.route false place = false at vacated
    by_cases here : place = invocation.route
    · subst here
      refine (governed.slots invocation.route).vacate found ⟨rfl, has⟩ ?_
      rintro ⟨-, owned⟩
      rw [free] at owned
      cases owned
    · rw [update_of_ne here] at vacated
      exact settled.vacant place vacated
  | meshLock guard =>
    obtain ⟨_, stepped, rfl⟩ := Option.map_eq_some_iff.mp released
    have timely : state.locks.Timely (· = localNode) (.drop guard nowMs) := trivial
    refine settled.setLocks (governed.sole.step timely stepped) ?_
    intro other listed owned hasLock lock held
    refine step_keeps stepped held ?_
    rintro _ ⟨⟩
    refine (governed.apart guard).vacate found has ?_ other listed hasLock
    rw [HasLock, free]
    exact nofun

/-- The slot or the lock of a new guard belongs to nobody else. -/
theorem Governed.pass (suits : guard.Suits (policy invocation.route).mode)
    (slot : guard = .nodeSlot → state.held invocation.route ∧ ∀ other ∈ state.invocations,
      ¬other.Occupies invocation.route)
    (lock : ∀ place, guard = .meshLock place → (∃ lock, state.locks.guards[place]? = some lock ∧
      lock.live ∧ lock.key = lockKey invocation.route ∧ lock.holder = localNode) ∧
      ∀ other ∈ state.invocations, ¬other.HasLock place) :
    (state.pass index invocation guard).Governed localNode policy := by
  have mine {taken : AdmissionGuard}
      (has : { invocation with standing := .admitted guard }.guard = some taken) : guard = taken :=
    Option.some.inj has
  refine
    { slots := ?_
      vacant := ?_
      sole := governed.sole
      apart := ?_
      owned := ?_
      suits := ?_
      guarded := ?_ }
  · intro route
    by_cases occupies : Occupies route { invocation with standing := .admitted guard }
    · obtain ⟨rfl, has⟩ := occupies
      exact alone_replace (slot (mine has)).2
    · exact (governed.slots route).replace occupies
  · intro route free other listed
    obtain listed | rfl := mem_or_eq_of_mem_set listed
    · exact governed.vacant route free other listed
    rintro ⟨rfl, has⟩
    have taken := (slot (mine has)).1
    change state.held invocation.route = false at free
    rw [free] at taken
    cases taken
  · intro place
    by_cases has : HasLock place { invocation with standing := .admitted guard }
    · exact alone_replace (lock place (mine has)).2
    · exact (governed.apart place).replace has
  · exact forall_mem_set governed.owned fun place has => (lock place (mine has)).1
  · exact forall_mem_set governed.suits fun _ has => mine has ▸ suits
  · exact forall_mem_set governed.guarded nofun

/-- The lock was free, so its new guard is the node's only live one. -/
theorem Governed.passLock {leaseTtlMs : Nat} (mode : (policy invocation.route).mode.locks)
    (timely : state.locks.Timely (· = localNode)
      (.tryAcquire (lockKey invocation.route) localNode leaseTtlMs nowMs))
    (stepped : state.locks.step (.tryAcquire (lockKey invocation.route) localNode leaseTtlMs nowMs)
      = some locks)
    (free : canTake (state.locks.table (lockKey invocation.route)) nowMs) :
    ({ state with locks }.pass index invocation (.meshLock state.locks.guards.length)).Governed
      localNode policy := by
  have prepared : { state with locks }.Governed localNode policy := by
    refine governed.setLocks (governed.sole.step timely stepped) ?_
    intro other _ guard _ lock held
    exact step_keeps stepped held nofun
  refine prepared.pass mode nofun ?_
  rintro - ⟨⟩
  constructor
  · exact ⟨_, step_takes stepped free, rfl, rfl, rfl⟩
  · intro other listed has
    obtain ⟨_, held, -⟩ := governed.owned other listed _ has
    rw [getElem?_length] at held
    cases held

private theorem Governed.tries {route : String}
    (timely : ∀ nowMs leads, action = .acquire nowMs leads → (policy route).mode.locks →
      state.locks.Timely (· = localNode)
        (.tryAcquire (lockKey route) localNode (policy route).lockTtlMs nowMs))
    (tries : TriesLock localNode (policy route) state route action locks) :
    { state with locks }.Governed localNode policy := by
  obtain rfl | ⟨mode, nowMs, leads, asked, stepped⟩ := tries
  · exact governed
  · refine governed.setLocks (governed.sole.step (timely nowMs leads asked mode) stepped) ?_
    intro other _ guard _ lock held
    exact step_keeps stepped held nofun

private theorem Governed.setActive (active : Nat → String → Nat) :
    { state with active }.Governed localNode policy :=
  { governed with }

/-- An invocation without a guard, or whose guard is dropped already, is over. -/
theorem Governed.leave (found : state.invocations[index]? = some invocation) :
    (state.leave index invocation).Governed localNode policy := by
  obtain ⟨_, same⟩ := state.uncount_eq invocation
  rw [NodeState.leave, same]
  exact governed.keep found rfl rfl rfl rfl rfl (.inl rfl) (by simp)

/-! ## Steps -/

private theorem Governed.acts (found : state.invocations[index]? = some invocation)
    (bound : state.Bound localNode policy (.act index action))
    (acts : Acts localNode (policy invocation.route) state index invocation action next) :
    next.Governed localNode policy := by
  have timely (nowMs : Nat) (leads : Bool) (asked : action = .acquire nowMs leads)
      (mode : (policy invocation.route).mode.locks) :
      state.locks.Timely (· = localNode) (.tryAcquire (lockKey invocation.route) localNode
        (policy invocation.route).lockTtlMs nowMs) := by
    subst asked
    exact bound invocation found mode
  have unbound (asked : action = .start)
      (unchecked : invocation.unchecked (policy invocation.route)) :
      (policy invocation.route).mode = .unrestricted ∧ state.paused invocation.route = false := by
    subst asked
    exact bound invocation found unchecked
  cases acts with
  | begin | clear =>
    exact governed.keep found rfl rfl rfl rfl rfl (.inl rfl) (by simp)
  | wait _ tries => exact governed.tries timely tries
  | leave _ tries => exact (governed.tries timely tries).leave found
  | passFree _ mode => exact governed.pass mode (by simp) (by simp)
  | passSlot _ mode free =>
    have prepared : { state with
        held := update state.held invocation.route true }.Governed localNode policy := by
      refine { governed with vacant := ?_ }
      intro route vacated
      change update state.held invocation.route true route = false at vacated
      by_cases here : route = invocation.route
      · rw [here, update_self] at vacated
        cases vacated
      · rw [update_of_ne here] at vacated
        exact governed.vacant route vacated
    exact prepared.pass mode
      (fun _ => ⟨update_self _ _ _, governed.vacant invocation.route free⟩) (by simp)
  | passLock _ mode asked stepped free =>
    exact governed.passLock mode (timely _ _ asked mode) stepped free
  | startGuarded stands =>
    refine governed.keep found rfl rfl rfl rfl rfl (.inr ?_) (by simp)
    rw [Invocation.guard, Invocation.guard, stands]
  | startStream asked _ unchecked | startPlain asked _ unchecked =>
    refine governed.keep found rfl rfl rfl rfl rfl (.inl rfl) fun _ => unbound asked ?_
    rw [Invocation.unchecked, unchecked]
    rfl
  | startMicrovm asked _ unchecked =>
    refine governed.keep found rfl rfl rfl rfl rfl (.inl rfl) fun _ => unbound asked ?_
    rw [Invocation.unchecked, unchecked]
    exact Bool.or_true _
  | @abort _ _ freed held released =>
    obtain ⟨active, same⟩ := freed.uncount_eq invocation
    have ended : (freed.setInvocation index { invocation with
        standing := .over, counted := false, attached := false }).Governed localNode policy :=
      governed.release found held released rfl rfl (by simp)
    rw [NodeState.leave, same]
    exact ended.setActive active
  | complete stands released ends =>
    refine governed.release found (by rw [Invocation.guard, stands]) released rfl ?_ ?_
    · obtain rfl | rfl := ends <;> rfl
    · obtain rfl | rfl := ends <;> simp
  | completeBare _ ends =>
    obtain rfl | rfl := ends
    all_goals exact governed.keep found rfl rfl rfl rfl rfl (.inl rfl) (by simp)
  | detachMicrovm =>
    refine governed.keep found rfl rfl rfl rfl rfl (.inr rfl) ?_
    exact governed.guarded invocation (mem_of_getElem? found)
  | detach =>
    obtain ⟨_, same⟩ := state.uncount_eq invocation
    rw [same]
    refine governed.keep found rfl rfl rfl rfl rfl (.inr rfl) ?_
    exact governed.guarded invocation (mem_of_getElem? found)

private theorem Governed.arrive (unguarded : invocation.guard = none)
    (bare : invocation.standing ≠ .executing none) :
    { state with invocations := state.invocations ++ [invocation] }.Governed localNode policy := by
  have unlocked (guard : Nat) : ¬invocation.HasLock guard := by
    rw [HasLock, unguarded]
    exact nofun
  have unoccupying (route : String) : ¬invocation.Occupies route := by
    rintro ⟨-, has⟩
    rw [unguarded] at has
    cases has
  refine
    { slots := fun route => (governed.slots route).push (unoccupying route)
      vacant := ?_
      sole := governed.sole
      apart := fun guard => (governed.apart guard).push (unlocked guard)
      owned := ?_
      suits := ?_
      guarded := ?_ }
  · exact fun route free => forall_mem_push (governed.vacant route free) (unoccupying route)
  · exact forall_mem_push governed.owned fun guard has => absurd has (unlocked guard)
  · refine forall_mem_push governed.suits fun _ has => ?_
    rw [unguarded] at has
    cases has
  · exact forall_mem_push governed.guarded fun stands => absurd stands bare

private theorem Governed.lock {event : LockEvent}
    (timely : state.locks.Timely (· = localNode) event)
    (locked : state.lock localNode event = some next) : next.Governed localNode policy := by
  obtain ⟨foreign, locked⟩ := Option.ite_none_right_eq_some.mp locked
  obtain ⟨_, stepped, rfl⟩ := Option.map_eq_some_iff.mp locked
  refine governed.setLocks (governed.sole.step timely stepped) ?_
  intro other listed guard has lock held
  refine step_keeps stepped held ?_
  rintro _ rfl
  obtain ⟨_, heldToo, -, -, holder⟩ := governed.owned other listed guard has
  cases held.symm.trans heldToo
  change (state.locks.guards[guard]?).all (·.holder ≠ localNode) = true at foreign
  rw [held] at foreign
  exact absurd holder (of_decide_eq_true foreign)

end

private theorem Governed.backup (governed : state.Governed localNode policy)
    {route guestPath : String}
    (bare : ∀ invocation ∈ state.invocations,
      invocation.route = route → invocation.standing ≠ .executing none) :
    (state.backup route guestPath).Governed localNode policy := by
  refine { governed with guarded := ?_ }
  intro invocation listed stands
  obtain ⟨mode, unpaused⟩ := governed.guarded invocation listed stands
  refine ⟨mode, ?_⟩
  change update state.paused route true invocation.route = false
  rw [update_of_ne fun same => bare invocation listed same stands]
  exact unpaused

variable {index : Nat} (governed : state.Governed localNode policy)
include governed

private theorem Governed.backedUp (stepped : state.backedUp index = some next) :
    next.Governed localNode policy := by
  unfold NodeState.backedUp at stepped
  split at stepped
  · next backup _ =>
    obtain ⟨-, rfl⟩ := of_guard stepped
    refine { governed with guarded := ?_ }
    intro invocation listed stands
    obtain ⟨mode, unpaused⟩ := governed.guarded invocation listed stands
    refine ⟨mode, ?_⟩
    change update state.paused backup.route false invocation.route = false
    rw [update_apply]
    split
    · rfl
    · exact unpaused
  · cases stepped

private theorem Governed.drained {timedOut : Bool}
    (stepped : state.drained index timedOut = some next) :
    next.Governed localNode policy := by
  unfold NodeState.drained at stepped
  split at stepped
  · obtain ⟨-, rfl⟩ := of_guard stepped
    exact { governed with }
  · cases stepped

private theorem Governed.step {event : NodeEvent} (bound : state.Bound localNode policy event)
    (stepped : (nodeMachine localNode policy).step state event = some next) :
    next.Governed localNode policy := by
  cases event with
  | arrive =>
    cases stepped
    exact governed.arrive rfl nofun
  | act =>
    obtain ⟨_, found, acted⟩ := Option.bind_eq_some_iff.mp stepped
    exact governed.acts found bound (acts_of_act acted)
  | lock => exact governed.lock bound stepped
  | backup =>
    cases stepped
    exact governed.backup bound
  | drained => exact governed.drained stepped
  | backedUp => exact governed.backedUp stepped
  | reload =>
    cases stepped
    exact { governed with }

/-- A guest of a singleton route executes with a slot or a lock. -/
theorem Governed.guard_of_exclusive {invocation : Invocation}
    (listed : invocation ∈ state.invocations) (executes : invocation.Executes)
    (mode : (policy invocation.route).mode.exclusive) :
    ((policy invocation.route).mode = .nodeSingleton ∧ invocation.guard = some .nodeSlot) ∨
      ((policy invocation.route).mode.locks ∧ ∃ guard, invocation.HasLock guard) := by
  obtain ⟨guard, stands⟩ := executes
  cases guard with
  | none =>
    rw [(governed.guarded invocation listed stands).1] at mode
    cases mode
  | some guard =>
    have has : invocation.guard = some guard := by rw [Invocation.guard, stands]
    have suits := governed.suits invocation listed guard has
    cases guard with
    | noOp =>
      obtain free | leader := suits
      · rw [free] at mode
        cases mode
      · rw [leader] at mode
        cases mode
    | nodeSlot => exact .inl ⟨suits, has⟩
    | meshLock guard => exact .inr ⟨suits, guard, has⟩

/-- Two guests of a singleton route do not execute at once. -/
theorem Governed.exclusive {first second : Nat} {left right : Invocation}
    (atFirst : state.invocations[first]? = some left)
    (atSecond : state.invocations[second]? = some right) (sameRoute : right.route = left.route)
    (mode : (policy left.route).mode.exclusive) (leftExecutes : left.Executes)
    (rightExecutes : right.Executes) : first = second := by
  have leftListed := mem_of_getElem? atFirst
  have rightListed := mem_of_getElem? atSecond
  have ofLeft := governed.guard_of_exclusive leftListed leftExecutes mode
  have ofRight := governed.guard_of_exclusive rightListed rightExecutes (sameRoute ▸ mode)
  rw [sameRoute] at ofRight
  obtain ⟨node, leftHas⟩ | ⟨locks, leftGuard, leftHas⟩ := ofLeft
  · obtain ⟨-, rightHas⟩ | ⟨locks, -⟩ := ofRight
    · exact governed.slots left.route first second left right atFirst atSecond
        ⟨rfl, leftHas⟩ ⟨sameRoute, rightHas⟩
    · rw [node] at locks
      cases locks
  · obtain ⟨node, -⟩ | ⟨-, rightGuard, rightHas⟩ := ofRight
    · rw [node] at locks
      cases locks
    · obtain ⟨leftLock, leftHeld, leftLive, leftKey, leftOwn⟩ :=
        governed.owned left leftListed leftGuard leftHas
      obtain ⟨rightLock, rightHeld, rightLive, rightKey, rightOwn⟩ :=
        governed.owned right rightListed rightGuard rightHas
      have sameKey : leftLock.key = rightLock.key := by rw [leftKey, rightKey, sameRoute]
      cases governed.sole.eq_index leftHeld rightHeld sameKey leftLive rightLive leftOwn rightOwn
      exact governed.apart leftGuard first second left right atFirst atSecond leftHas rightHas

private theorem Governed.policiesBind : state.PoliciesBind policy where
  guarded invocation listed executes restricted := by
    obtain ⟨guard, stands⟩ := executes
    cases guard with
    | none =>
      obtain ⟨mode, unpaused⟩ := governed.guarded invocation listed stands
      rw [unpaused] at restricted
      exact absurd mode (restricted.resolve_right nofun)
    | some guard =>
      have has : invocation.guard = some guard := by rw [Invocation.guard, stands]
      exact ⟨guard, has, governed.suits invocation listed guard has⟩
  alone route mode first second left right atFirst atSecond := by
    rintro ⟨rfl, leftExecutes⟩ ⟨sameRoute, rightExecutes⟩
    exact governed.exclusive atFirst atSecond sameRoute mode leftExecutes rightExecutes

end NodeState

open NodeState

/-- Where restricted and paused routes are reached over the buffered path alone and leases are
refreshed in time, every guest of them has its guard, and a singleton route has one guest. -/
theorem policies_bind_checked_paths (localNode : String) (policy : String → RoutePolicy)
    {events : List NodeEvent} {state : NodeState}
    (bound : (nodeMachine localNode policy).Along (Bound localNode policy) .initial events)
    (reached : (nodeMachine localNode policy).run .initial events = some state) :
    state.PoliciesBind policy := by
  have governed : state.Governed localNode policy :=
    Machine.invariant_run (fun governed => governed.step) governed_initial bound reached
  exact governed.policiesBind

/-! ## Ways around the policy -/

/-- A second HTTP request is turned away while the first executes, and a third takes its turn
after it. -/
theorem node_singleton_over_http :
    ∃ state, (nodeMachine "node-a" fun _ => restricted .nodeSingleton .blocking).run .initial
        (checkedStart 0 "/jobs" ++ [.arrive "/jobs" .http, .act 1 .begin, .act 1 .test,
          .act 1 (.acquire 1 true), .act 0 (.complete 2)] ++ checkedStart 2 "/jobs") = some state ∧
      state.invocations.map (·.standing) = [.answered, .over, .executing (some .nodeSlot)] ∧
      state.PoliciesBind fun _ => restricted .nodeSingleton .blocking := by
  refine Machine.exists_run (by decide +kernel) fun _ reached => ?_
  have bind := policies_bind_checked_paths "node-a" _ (by decide +kernel) reached
  cases reached
  exact ⟨rfl, bind⟩

variable {policy : String → RoutePolicy} {state : NodeState} {route : String}

private theorem NodeState.not_policiesBind_of_two {left right : Option AdmissionGuard}
    (mode : (policy route).mode.exclusive)
    (stand : state.invocations.map (fun invocation => (invocation.route, invocation.standing)) =
      [(route, .executing left), (route, .executing right)]) : ¬state.PoliciesBind policy := by
  intro binds
  obtain ⟨first, _, listed, atFirst, stand⟩ := map_eq_cons_iff.mp stand
  obtain ⟨second, _, rfl, atSecond, -⟩ := map_eq_cons_iff.mp stand
  obtain ⟨firstRoute, firstStands⟩ := Prod.mk.inj atFirst
  obtain ⟨secondRoute, secondStands⟩ := Prod.mk.inj atSecond
  have same : (0 : Nat) = 1 :=
    binds.alone route mode 0 1 first second (by rw [listed]; rfl) (by rw [listed]; rfl)
      ⟨firstRoute, left, firstStands⟩ ⟨secondRoute, right, secondStands⟩
  cases same

private theorem NodeState.not_policiesBind_of_paused (paused : state.paused route)
    (stand : state.invocations.map (fun invocation => (invocation.route, invocation.standing)) =
      [(route, .executing none)]) : ¬state.PoliciesBind policy := by
  intro binds
  obtain ⟨only, _, listed, here, -⟩ := map_eq_cons_iff.mp stand
  obtain ⟨onRoute, stands⟩ := Prod.mk.inj here
  obtain ⟨_, has, -⟩ := binds.guarded only (listed ▸ mem_cons_self) ⟨none, stands⟩
    (.inr (onRoute ▸ paused))
  rw [Invocation.guard, stands] at has
  cases has

/-- Beside a guest with the slot of a node singleton, each of the other transports starts one
more; two requests to a microvm do; and a stream starts on a paused route. -/
theorem singleton_route_runs_twice :
    (∀ transport ∈ [Transport.sse, .websocket, .tcp, .udp],
      ∃ state, (nodeMachine "node-a" fun _ => restricted .nodeSingleton .blocking).run .initial
          (checkedStart 0 "/jobs" ++ uncheckedStart 1 "/jobs" transport) = some state ∧
        state.invocations.map (fun invocation => (invocation.route, invocation.standing)) =
          [("/jobs", .executing (some .nodeSlot)), ("/jobs", .executing none)] ∧
        ¬state.PoliciesBind fun _ => restricted .nodeSingleton .blocking) ∧
    (∃ state, (nodeMachine "node-a" fun _ => restricted .nodeSingleton .microvm).run .initial
        (uncheckedStart 0 "/jobs" .http ++ uncheckedStart 1 "/jobs" .http) = some state ∧
      state.invocations.map (fun invocation => (invocation.route, invocation.standing)) =
        [("/jobs", .executing none), ("/jobs", .executing none)] ∧
      ¬state.PoliciesBind fun _ => restricted .nodeSingleton .microvm) ∧
    (∃ state, (nodeMachine "node-a" fun _ => restricted .unrestricted .blocking).run .initial
        (.backup "/jobs" "/data" :: uncheckedStart 0 "/jobs" .sse) = some state ∧
      state.invocations.map (fun invocation => (invocation.route, invocation.standing)) =
        [("/jobs", .executing none)] ∧
      ¬state.PoliciesBind fun _ => restricted .unrestricted .blocking) := by
  refine ⟨fun _ listed => ?_, ⟨_, rfl, rfl, ?_⟩, ⟨_, rfl, rfl, ?_⟩⟩
  · simp only [mem_cons, not_mem_nil, or_false] at listed
    obtain rfl | rfl | rfl | rfl := listed <;>
      exact ⟨_, rfl, rfl, not_policiesBind_of_two rfl rfl⟩
  · exact not_policiesBind_of_two rfl rfl
  · exact not_policiesBind_of_paused rfl rfl

end TachyonMesh.Admission
