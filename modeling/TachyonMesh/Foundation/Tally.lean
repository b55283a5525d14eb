import Mathlib.Algebra.GroupWithZero.Nat
import Mathlib.Algebra.Order.BigOperators.Group.List
import Mathlib.Algebra.Order.Group.Nat

/-! # Tallies over a list of parties

A shared counter is often the sum of what each party of a list holds. A tally is
that sum, with the lemmas a step needs: a party joins, one party is rewritten in
place, and a pointwise bound.
-/

namespace Foundation
open List

universe u
variable {α : Type u} {measure : α → Nat} {items : List α} {index : Nat}

/-- The sum of `measure` over a list. -/
def tally (measure : α → Nat) (items : List α) : Nat :=
  (items.map measure).sum

@[simp] theorem tally_nil : tally measure [] = 0 := rfl

@[simp] theorem tally_append_singleton (items : List α) (item : α) :
    tally measure (items ++ [item]) = tally measure items + measure item := by
  simp [tally]

/-- Rewriting one party changes the tally by the difference of its two measures. -/
theorem tally_set (measure : α → Nat) {old : α} (new : α) (found : items[index]? = some old) :
    tally measure (items.set index new) + measure old = tally measure items + measure new := by
  induction items generalizing index with
  | nil => simp at found
  | cons _ _ ih =>
    cases index with
    | zero =>
      simp only [getElem?_cons_zero, Option.some.injEq] at found
      subst found
      simp only [tally, set_cons_zero, map_cons, sum_cons]
      omega
    | succ =>
      have inner := ih (by simpa using found)
      simp only [tally, set_cons_succ, map_cons, sum_cons] at inner ⊢
      omega

theorem measure_le_tally {item : α}
    (found : items[index]? = some item) : measure item ≤ tally measure items :=
  le_sum_of_mem (mem_map_of_mem (mem_of_getElem? found))

theorem tally_le_tally {other : α → Nat} (below : ∀ item ∈ items, measure item ≤ other item) :
    tally measure items ≤ tally other items :=
  sum_le_sum below

end Foundation
