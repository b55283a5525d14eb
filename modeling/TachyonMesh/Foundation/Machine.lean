import Mathlib.Data.List.Basic

/-! # Event machines

A machine has partial deterministic steps: an event that is not enabled in a state has no
successor. A run executes a list of events. A condition on single steps (a state and the
event taken from it) is lifted to whole runs by `Machine.Along`, so that "every step of this
run meets the condition" is one hypothesis.
-/

namespace Foundation

universe u v

/-- What a guarded step tells: the guard, and what it yields. -/
theorem of_guard {α : Type u} {guard : Prop} [Decidable guard] {given result : α}
    (stepped : (if guard then some given else none) = some result) : guard ∧ given = result :=
  ⟨(Option.ite_none_right_eq_some.mp stepped).1,
    Option.some.inj (Option.ite_none_right_eq_some.mp stepped).2⟩

/-- A machine over events; a step is `none` when the event is not enabled. -/
structure Machine (State : Type u) (Event : Type v) where
  step : State → Event → Option State

namespace Machine
variable {State : Type u} {Event : Type v} (M : Machine State Event)

/-- Execute a list of events; `none` when one of them is not enabled. -/
def run : State → List Event → Option State
  | state, [] => some state
  | state, event :: rest => (M.step state event).bind fun next => run next rest

/-- Every step the event list takes meets `allowed` in the state it starts from. -/
def Along (allowed : State → Event → Prop) : State → List Event → Prop
  | _, [] => True
  | state, event :: rest =>
      allowed state event ∧ ∀ next ∈ M.step state event, Along allowed next rest

/-- Steps that meet `allowed` keep the predicate. -/
abbrev Preserves (allowed : State → Event → Prop) (predicate : State → Prop) : Prop :=
  ∀ {state event next}, predicate state → allowed state event →
    M.step state event = some next → predicate next

/-- Every state the event list goes through has the property. -/
def Throughout (property : State → Prop) : State → List Event → Prop
  | state, [] => property state
  | state, event :: rest =>
      property state ∧ ∀ next ∈ M.step state event, Throughout property next rest

instance Along.decidable (allowed : State → Event → Prop)
    [∀ state event, Decidable (allowed state event)] :
    (state : State) → (events : List Event) → Decidable (M.Along allowed state events)
  | _, [] => isTrue trivial
  | state, event :: rest =>
      have : ∀ next, Decidable (M.Along allowed next rest) :=
        fun next => Along.decidable allowed next rest
      inferInstanceAs (Decidable (allowed state event ∧
        ∀ next ∈ M.step state event, M.Along allowed next rest))

instance decidableExistsRun (property : State → Prop) [DecidablePred property] (state : State)
    (events : List Event) : Decidable (∃ final, M.run state events = some final ∧ property final) :=
  inferInstanceAs (Decidable (∃ final ∈ M.run state events, property final))

variable {M} {state final : State}

@[simp] theorem run_nil (state : State) : M.run state [] = some state := rfl

@[simp] theorem run_cons (state : State) (event : Event) (rest : List Event) :
    M.run state (event :: rest) = (M.step state event).bind fun next => M.run next rest := rfl

/-- A run over a nonempty list is one enabled step followed by a run. -/
theorem run_cons_eq_some {event : Event} {rest : List Event} :
    M.run state (event :: rest) = some final ↔
      ∃ next, M.step state event = some next ∧ M.run next rest = some final := by
  simp [Option.bind_eq_some_iff]

theorem run_append (state : State) (first second : List Event) :
    M.run state (first ++ second) = (M.run state first).bind fun next => M.run next second := by
  induction first generalizing state with
  | nil => rfl
  | cons _ _ ih =>
    simp only [List.cons_append, run_cons, Option.bind_assoc]
    congr
    funext next
    exact ih next

variable {allowed : State → Event → Prop} {events : List Event} {predicate property : State → Prop}

/-- **Invariant rule.** A predicate kept by every step that meets the condition
holds at the end of every run whose steps all meet it. -/
theorem invariant_run (kept : M.Preserves allowed predicate) (valid : predicate state)
    (along : M.Along allowed state events) (reached : M.run state events = some final) :
    predicate final := by
  induction events generalizing state with
  | nil =>
    cases reached
    exact valid
  | cons _ _ ih =>
    obtain ⟨next, stepped, remaining⟩ := run_cons_eq_some.mp reached
    exact ih (kept valid along.1 stepped) (along.2 next stepped) remaining

/-- What holds wherever a run ends holds at the end of a run that is enabled. -/
theorem exists_run (enabled : (M.run state events).isSome)
    (holds : ∀ final, M.run state events = some final → property final) :
    ∃ final, M.run state events = some final ∧ property final := by
  obtain ⟨final, reached⟩ := Option.isSome_iff_exists.mp enabled
  exact ⟨final, reached, holds final reached⟩

theorem along_of_append {middle : State} {before after : List Event}
    (along : M.Along allowed state (before ++ after)) (reached : M.run state before = some middle) :
    M.Along allowed state before ∧ M.Along allowed middle after := by
  induction before generalizing state with
  | nil =>
    cases reached
    exact ⟨trivial, along⟩
  | cons _ _ ih =>
    obtain ⟨next, stepped, remaining⟩ := run_cons_eq_some.mp reached
    obtain ⟨earlier, later⟩ := ih (along.2 next stepped) remaining
    refine ⟨⟨along.1, ?_⟩, later⟩
    intro other reaches
    cases stepped.symm.trans reaches
    exact earlier

theorem along_true (state : State) (events : List Event) :
    M.Along (fun _ _ => True) state events := by
  induction events generalizing state with
  | nil => trivial
  | cons _ _ ih => exact ⟨trivial, fun next _ => ih next⟩

theorem along_of_forall {accepts : Event → Prop} (state : State)
    (all : ∀ event ∈ events, accepts event) :
    M.Along (fun _ event => accepts event) state events := by
  induction events generalizing state with
  | nil => trivial
  | cons event _ ih =>
    exact ⟨all event List.mem_cons_self, fun next _ =>
      ih next fun later member => all later (List.mem_cons_of_mem _ member)⟩

/-- **Step rule.** What an invariant and the condition say about one step holds
of every step of every run whose steps all meet the condition. -/
theorem along_of_invariant {conclusion : State → Event → Prop}
    (kept : M.Preserves allowed predicate)
    (concludes : ∀ {state event}, predicate state → allowed state event → conclusion state event)
    (valid : predicate state) (along : M.Along allowed state events) :
    M.Along conclusion state events := by
  induction events generalizing state with
  | nil => trivial
  | cons _ _ ih =>
    refine ⟨concludes valid along.1, ?_⟩
    intro next stepped
    exact ih (kept valid along.1 stepped) (along.2 next stepped)

private theorem Throughout.start (holds : M.Throughout property state events) : property state := by
  cases events with
  | nil => exact holds
  | cons => exact holds.1

/-- **Exactness rule.** Where a step keeps a property exactly when it meets the condition, the
property holds throughout a run exactly when all its steps meet the condition. -/
theorem throughout_iff_along
    (kept : ∀ state event next, predicate state → M.step state event = some next → predicate next)
    (keeps : ∀ state event next, predicate state → property state → allowed state event →
      M.step state event = some next → property next)
    (breaks : ∀ state event, predicate state → property state →
      (∀ next, M.step state event = some next → property next) → allowed state event)
    (events : List Event) (valid : predicate state) (holds : property state) :
    M.Throughout property state events ↔ M.Along allowed state events := by
  induction events generalizing state with
  | nil => exact ⟨fun _ => trivial, fun _ => holds⟩
  | cons event _ ih =>
    constructor
    · rintro ⟨-, later⟩
      have next_holds (next : State) (stepped : M.step state event = some next) :
          property next := (later next stepped).start
      refine ⟨breaks state event valid holds next_holds, ?_⟩
      intro next stepped
      exact (ih (kept state event next valid stepped) (next_holds next stepped)).mp
        (later next stepped)
    · rintro ⟨meets, later⟩
      refine ⟨holds, ?_⟩
      intro next stepped
      exact (ih (kept state event next valid stepped)
        (keeps state event next valid holds meets stepped)).mpr (later next stepped)

end Machine

end Foundation
