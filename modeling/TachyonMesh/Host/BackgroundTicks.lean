import Mathlib.Data.List.Basic

/-! # Fuel of background ticks

A background worker makes one store, gives it the fuel budget once, instantiates its component in
it and then calls the component's `on-tick` in that store for as long as it runs. The budget is
thus shared by the instantiation and all ticks.
-/

namespace TachyonMesh.Host

def defaultGuestFuelBudget : Nat := 500000000

/-- Instantiating a component under one of the two kinds of bindings. -/
structure Instantiation where
  /-- The component exports what the bindings ask for. -/
  exported : Bool
  need : Nat

/-- How a component instantiates in either world. -/
structure BackgroundComponent where
  controlPlane : Instantiation
  background : Instantiation

/-- One execution of `on-tick`. -/
structure TickCall where
  need : Nat
  /-- It returns once it has the fuel it needs, and does not trap for another reason. -/
  returns : Bool

/-- Why a tick fails. -/
inductive Trap where
  | outOfFuel
  | guest
  /-- The instance trapped before and cannot be entered again. -/
  | cannotEnter
deriving DecidableEq

/-- The fuel left in the store, and whether the instance in it has trapped. -/
structure GuestStore where
  fuel : Nat
  trapped : Bool

/-- The bindings are tried in turn in the one store. An instantiation that runs out of fuel uses up
what is left. -/
def Instantiation.attempt (instantiation : Instantiation) (fuel : Nat) : Bool × Nat :=
  if !instantiation.exported then (false, fuel)
  else if fuel < instantiation.need then (false, 0)
  else (true, fuel - instantiation.need)

/-- The instance that ticks. -/
structure BackgroundTickRunner where
  store : GuestStore

namespace BackgroundTickRunner

def new (guestFuelBudget : Nat) (component : BackgroundComponent) : Option BackgroundTickRunner :=
  match component.controlPlane.attempt guestFuelBudget with
  | (true, fuel) => some ⟨⟨fuel, false⟩⟩
  | (false, fuel) =>
      match component.background.attempt fuel with
      | (true, fuel) => some ⟨⟨fuel, false⟩⟩
      | (false, _) => none

def tick (runner : BackgroundTickRunner) (call : TickCall) :
    Except Trap Unit × BackgroundTickRunner :=
  let fuel := runner.store.fuel
  if runner.store.trapped then (.error .cannotEnter, runner)
  else if fuel < call.need then (.error .outOfFuel, ⟨⟨0, true⟩⟩)
  else if call.returns then (.ok (), ⟨⟨fuel - call.need, false⟩⟩)
  else (.error .guest, ⟨⟨fuel - call.need, true⟩⟩)

/-- The loop's ticks; an error is logged and the loop goes on. -/
def ticks : BackgroundTickRunner → List TickCall → List (Except Trap Unit)
  | _, [] => []
  | runner, call :: rest => (runner.tick call).1 :: ticks (runner.tick call).2 rest

end BackgroundTickRunner

open BackgroundTickRunner

def runBackgroundTickLoop (guestFuelBudget : Nat) (component : BackgroundComponent)
    (calls : List TickCall) : List (Except Trap Unit) :=
  match new guestFuelBudget component with
  | some runner => runner.ticks calls
  | none => []

/-- What the ticks need up to the first one that traps by itself. -/
def demand : List TickCall → Nat
  | [] => 0
  | call :: rest => call.need + if call.returns then demand rest else 0

/-- What the instantiation takes out of the budget when it succeeds. -/
def BackgroundComponent.startup (component : BackgroundComponent) (guestFuelBudget : Nat) : Nat :=
  if component.controlPlane.exported then min component.controlPlane.need guestFuelBudget
  else component.background.need

namespace BackgroundTickRunner
variable {runner : BackgroundTickRunner}

private theorem fuel_new {budget : Nat} {component : BackgroundComponent}
    (made : new budget component = some runner) :
    runner.store.trapped = false ∧ runner.store.fuel + component.startup budget = budget := by
  unfold new Instantiation.attempt at made
  unfold BackgroundComponent.startup
  grind

private theorem ticks_trapped (trapped : runner.store.trapped) (calls : List TickCall) :
    ∀ outcome ∈ runner.ticks calls, outcome = .error .cannotEnter := by
  induction calls with
  | nil => simp [ticks]
  | cons _ _ ih => simpa [ticks, tick, trapped] using ih

/-- No tick runs out of fuel exactly when the ticks together do with what is left. -/
theorem ticks_fueled (live : runner.store.trapped = false) (calls : List TickCall) :
    (∀ outcome ∈ runner.ticks calls, outcome ≠ .error .outOfFuel) ↔
      demand calls ≤ runner.store.fuel := by
  induction calls generalizing runner with
  | nil => simp [ticks, demand]
  | cons call rest ih =>
    by_cases short : runner.store.fuel < call.need
    · simp [ticks, tick, live, short, demand]
      omega
    cases returns : call.returns with
    | true =>
      have later := @ih ⟨⟨runner.store.fuel - call.need, false⟩⟩ rfl
      simp [ticks, tick, live, short, demand, returns, later]
      omega
    | false =>
      have later := @ticks_trapped ⟨⟨runner.store.fuel - call.need, true⟩⟩ rfl rest
      simp [ticks, tick, live, short, demand, returns]
      grind

end BackgroundTickRunner

/-- No tick of a worker that started traps for lack of fuel exactly when the instantiation and all
ticks together stay within the one budget. -/
theorem ticks_fueled_iff {budget : Nat} {component : BackgroundComponent}
    {runner : BackgroundTickRunner}
    (started : new budget component = some runner) (calls : List TickCall) :
    (∀ outcome ∈ runBackgroundTickLoop budget component calls, outcome ≠ .error .outOfFuel) ↔
      component.startup budget + demand calls ≤ budget := by
  obtain ⟨live, _⟩ := fuel_new started
  simp only [runBackgroundTickLoop, started, ticks_fueled live]
  omega

/-- A component without control-plane exports whose instantiation takes a thousand units. -/
def autoscaler : BackgroundComponent where
  controlPlane := ⟨false, 0⟩
  background := ⟨true, 1000⟩

/-- A budget that is used up exactly is enough. -/
theorem ticks_fueled_iff_autoscaler :
    autoscaler.startup 5000 + demand [⟨1500, true⟩, ⟨2500, true⟩] = 5000 ∧
      ∀ outcome ∈ runBackgroundTickLoop 5000 autoscaler [⟨1500, true⟩, ⟨2500, true⟩],
        outcome ≠ .error .outOfFuel :=
  ⟨rfl, (@ticks_fueled_iff 5000 autoscaler ⟨⟨4000, false⟩⟩ rfl _).mpr (by decide)⟩

/-- Each of the two ticks needs less than the budget, and the second traps for lack of fuel. -/
theorem ticks_starved :
    (∀ call ∈ [TickCall.mk 300000000 true, ⟨300000000, true⟩], call.need ≤ defaultGuestFuelBudget) ∧
      runBackgroundTickLoop defaultGuestFuelBudget autoscaler
        [⟨300000000, true⟩, ⟨300000000, true⟩] = [.ok (), .error .outOfFuel] := by
  decide +kernel

end TachyonMesh.Host
