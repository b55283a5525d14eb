import TachyonMesh.Foundation.Machine

/-! # Scripts that can be cut off

A script is a program cut into atomic steps on a world. Each step is given a choice
of the environment, which may decide what the step does or not be on offer at all,
and what the script does next may depend on the world the step found.

`Script.Always` is a Hoare triple with a third part, the condition that holds after
every single step, so in every world that a crash can leave behind.
-/

namespace Foundation

universe u

/-- A program of atomic steps over worlds `σ` with choices `κ`. -/
inductive Script (σ κ α : Type) where
  | done (result : α)
  /-- `effect` is `none` for a choice that is not on offer. -/
  | step (effect : σ → κ → Option σ) (next : σ → κ → Script σ κ α)

namespace Script
variable {σ κ α β : Type}

/-- Go on with the result. -/
def bind (first : Script σ κ α) (next : α → Script σ κ β) : Script σ κ β :=
  match first with
  | .done result => next result
  | .step effect rest => .step effect fun world choice => (rest world choice).bind next

instance : Monad (Script σ κ) where
  pure := .done
  bind := Script.bind

/-- One step that answers by what it found. -/
def act (effect : σ → κ → Option σ) (answer : σ → κ → α) : Script σ κ α :=
  .step effect fun world choice => .done (answer world choice)

/-- What is left to run of a script, if anything. -/
def rest : Script σ κ α → Option (Script σ κ α)
  | .done _ => none
  | .step effect next => some (.step effect next)

/-! ## Conditions along a script -/

variable {allowed : σ → κ → Prop} {invariant : σ → Prop} {after : α → σ → Prop} {world : σ}
  {next : α → Script σ κ β}

/-- Run with choices that are allowed, the script keeps the invariant after each of
its steps and ends with `after`. -/
inductive Always (allowed : σ → κ → Prop) (invariant : σ → Prop) (after : α → σ → Prop) :
    Script σ κ α → σ → Prop
  | done {result : α} {world : σ} (ended : after result world) :
      Always allowed invariant after (.done result) world
  | step {effect : σ → κ → Option σ} {next : σ → κ → Script σ κ α} {world : σ}
      (kept : ∀ choice changed, allowed world choice → effect world choice = some changed →
        invariant changed)
      (remains : ∀ choice changed, allowed world choice → effect world choice = some changed →
        Always allowed invariant after (next world choice) changed) :
      Always allowed invariant after (.step effect next) world

theorem always_pure {result : α} (ended : after result world) :
    (pure result : Script σ κ α).Always allowed invariant after world :=
  .done ended

/-- **Sequence.** -/
theorem always_bind {first : Script σ κ α} {after : β → σ → Prop}
    (begins : first.Always allowed invariant
      (fun result world => (next result).Always allowed invariant after world) world) :
    (first >>= next).Always allowed invariant after world := by
  induction begins with
  | done ended => exact ended
  | step kept _ ih => exact .step kept ih

variable {script : Script σ κ α}

section
variable (always : script.Always allowed invariant after world)
include always

/-- **Consequence.** -/
theorem Always.mono {weaker : α → σ → Prop}
    (implies : ∀ result world, after result world → weaker result world) :
    script.Always allowed invariant weaker world := by
  induction always with
  | done ended => exact .done (implies _ _ ended)
  | step kept _ ih => exact .step kept ih

theorem Always.bind {final : β → σ → Prop}
    (continues : ∀ result world, after result world →
      (next result).Always allowed invariant final world) :
    (script >>= next).Always allowed invariant final world :=
  always_bind (always.mono continues)

theorem Always.weaken {wider : σ → Prop} (implies : ∀ world, invariant world → wider world) :
    script.Always allowed wider after world := by
  induction always with
  | done ended => exact .done ended
  | step kept _ ih =>
    refine .step (fun choice changed permitted effected => ?_) ih
    exact implies _ (kept choice changed permitted effected)

end

theorem always_act {effect : σ → κ → Option σ} {answer : σ → κ → α}
    (single : ∀ choice changed, allowed world choice → effect world choice = some changed →
      invariant changed ∧ after (answer world choice) changed) :
    (act effect answer).Always allowed invariant after world := by
  constructor
  · intro choice changed permitted effected
    exact (single choice changed permitted effected).1
  · intro choice changed permitted effected
    exact .done (single choice changed permitted effected).2

/-- **Iteration.** The condition between two rounds is indexed by the rounds left. -/
theorem always_forM (between : List α → σ → Prop) {items : List α} {body : α → Script σ κ Unit}
    (round : ∀ item left world, between (item :: left) world →
      (body item).Always allowed invariant (fun _ world => between left world) world)
    (begins : between items world) :
    (items.forM body).Always allowed invariant (fun _ world => between [] world) world := by
  induction items generalizing world with
  | nil => exact always_pure begins
  | cons item left ih =>
    apply always_bind
    apply (round item left world begins).mono
    intro _ world between
    exact ih between

end Script

/-! ## Runs with crashes -/

/-- A world, and what is left of the script that is running. -/
structure Interrupted (σ κ α : Type) where
  world : σ
  running : Option (Script σ κ α)

/-- A program starts, moves on or loses its process. -/
inductive CrashEvent (ρ κ : Type) where
  | start (request : ρ)
  | advance (choice : κ)
  | crash

variable {σ κ α ρ : Type}

/-- One script at a time: a request enters the world and starts its script, the script
advances step by step, and a crash drops what is left of it. -/
def crashMachine (enter : ρ → σ → σ) (script : ρ → Script σ κ α) :
    Machine (Interrupted σ κ α) (CrashEvent ρ κ) where
  step state event :=
    match event, state.running with
    | .start request, none => some ⟨enter request state.world, (script request).rest⟩
    | .advance choice, some (.step effect next) =>
        (effect state.world choice).map fun world =>
          ⟨world, (next state.world choice).rest⟩
    | .crash, some _ => some ⟨state.world, none⟩
    | _, _ => none

/-- A condition on the requests and one on the choices, as a condition on steps. -/
def Admits (starts : σ → ρ → Prop) (answers : σ → κ → Prop) (state : Interrupted σ κ α)
    (event : CrashEvent ρ κ) : Prop :=
  match event with
  | .start request => starts state.world request
  | .advance choice => answers state.world choice
  | .crash => True

instance Admits.decidable (starts : σ → ρ → Prop) (answers : σ → κ → Prop)
    [∀ world request, Decidable (starts world request)]
    [∀ world choice, Decidable (answers world choice)]
    (state : Interrupted σ κ α) (event : CrashEvent ρ κ) :
    Decidable (Admits starts answers state event) := by
  unfold Admits
  split <;> infer_instance

variable {enter : ρ → σ → σ} {script : ρ → Script σ κ α} {starts : σ → ρ → Prop}
  {answers : σ → κ → Prop} {invariant : σ → Prop}

/-- The invariant, and that what is left of the running script keeps it. -/
private def Guarded (answers : σ → κ → Prop) (invariant : σ → Prop)
    (state : Interrupted σ κ α) : Prop :=
  invariant state.world ∧ ∀ script ∈ state.running,
    script.Always answers invariant (fun _ _ => True) state.world

private theorem guarded_rest {remaining : Script σ κ α} {world : σ} (valid : invariant world)
    (always : remaining.Always answers invariant (fun _ _ => True) world) :
    Guarded answers invariant ⟨world, remaining.rest⟩ := by
  refine ⟨valid, ?_⟩
  cases remaining with
  | done => exact nofun
  | step =>
    intro script same
    cases same
    exact always

/-- **Crash rule.** A condition that every script keeps after each of its steps, when
started in a world with the condition, holds in every world that runs with crashes
reach. -/
theorem invariant_crashes (invariant : σ → Prop)
    (begins : ∀ world request, invariant world → starts world request →
      invariant (enter request world) ∧
      (script request).Always answers invariant (fun _ _ => True) (enter request world))
    {start final : Interrupted σ κ α} {events : List (CrashEvent ρ κ)}
    (idle : start.running = none) (valid : invariant start.world)
    (along : (crashMachine enter script).Along (Admits starts answers) start events)
    (reached : (crashMachine enter script).run start events = some final) :
    invariant final.world := by
  have guarded : Guarded answers invariant start :=
    ⟨valid, fun script running => by rw [idle] at running; cases running⟩
  refine (Machine.invariant_run ?_ guarded along reached).1
  rintro ⟨world, running⟩ event next ⟨valid, keeps⟩ admitted stepped
  match event, running with
  | .start request, none =>
    cases stepped
    obtain ⟨entered, always⟩ := begins world request valid admitted
    exact guarded_rest entered always
  | .advance choice, some (.step effect next) =>
    obtain ⟨changed, effected, rfl⟩ := Option.map_eq_some_iff.mp stepped
    cases keeps _ rfl with
    | step kept remains =>
      exact guarded_rest (kept choice changed admitted effected)
        (remains choice changed admitted effected)
  | .crash, some script =>
    cases stepped
    exact ⟨valid, nofun⟩
  | .start _, some _ => cases stepped
  | .advance _, none => cases stepped
  | .advance _, some (.done _) => cases stepped
  | .crash, none => cases stepped

end Foundation
