import Mathlib.Logic.Basic

/-! # Chains of checks

A computation that may fail is an `Except`; a chain of checks is a sequence of binds.
The rules take a chain that succeeded apart into the successes of its links.
-/

namespace Foundation

universe u v w

section
variable {ε : Type u} {α β : Type v} {outcome : Except ε α} {value : β}

theorem bind_eq_ok {next : α → Except ε β} :
    (outcome >>= next) = .ok value ↔ ∃ middle, outcome = .ok middle ∧ next middle = .ok value := by
  cases outcome with
  | error | ok => simp [bind, Except.bind]

theorem map_eq_ok {change : α → β} :
    outcome.map change = .ok value ↔ ∃ middle, outcome = .ok middle ∧ change middle = value := by
  cases outcome with
  | error | ok => simp [Except.map]

theorem forM_eq_ok {items : List β} {check : β → Except ε PUnit} :
    items.forM check = .ok ⟨⟩ ↔ ∀ item ∈ items, check item = .ok ⟨⟩ := by
  induction items with
  | nil => exact ⟨fun _ _ listed => absurd listed List.not_mem_nil, fun _ => rfl⟩
  | cons first rest ih =>
    change (check first >>= fun _ => rest.forM check) = _ ↔ _
    rw [bind_eq_ok, List.forall_mem_cons, ← ih]
    constructor
    · rintro ⟨⟨⟩, here, later⟩
      exact ⟨here, later⟩
    · rintro ⟨here, later⟩
      exact ⟨⟨⟩, here, later⟩

end

variable {ε : Type u} {α : Type v}

theorem mapError_eq_ok {ε' : Type v} {α : Type w} {outcome : Except ε α} {translate : ε → ε'}
    {value : α} : outcome.mapError translate = .ok value ↔ outcome = .ok value := by
  cases outcome with
  | error =>
    change Except.error _ = _ ↔ _
    simp
  | ok =>
    change Except.ok _ = _ ↔ _
    simp

/-- A value that has to be there. -/
def required {ε : Type u} {α : Type v} (error : ε) : Option α → Except ε α
  | some value => .ok value
  | none => .error error

theorem required_eq_ok {error : ε} {found : Option α} {value : α} :
    required error found = .ok value ↔ found = some value := by
  cases found with
  | none | some => simp [required]

@[simp]
theorem toOption_eq_some {outcome : Except ε α} {value : α} :
    outcome.toOption = some value ↔ outcome = .ok value := by
  cases outcome with
  | error | ok => simp [Except.toOption]

/-- An evaluation of what follows a success, with the success. -/
theorem exists_ok_of_map {β : Type w} {outcome : Except ε α} {next : α → β} {value : β}
    (evaluated : outcome.toOption.map next = some value) :
    ∃ result, outcome = .ok result ∧ next result = value := by
  simpa only [Option.map_eq_some_iff, toOption_eq_some] using evaluated

end Foundation
