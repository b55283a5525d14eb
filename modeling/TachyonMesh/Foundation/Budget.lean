import Mathlib.Algebra.BigOperators.Group.List.Basic
import Mathlib.Algebra.GroupWithZero.Nat

/-! # Budgets

A budget takes weighted things while their weights fit a limit, and one thing of any weight when
nothing is charged.
-/

namespace Foundation
open List

universe u
variable {α : Type u}

/-- The counter is the weight of what is outstanding, and above the limit only one thing weighs
anything. -/
structure Charged (weight : α → Nat) (limit charged : Nat) (outstanding : List α) : Prop where
  balance : charged = (outstanding.map weight).sum
  bounded : charged ≤ limit ∨ outstanding.countP (fun thing => weight thing ≠ 0) = 1

namespace Charged
variable {weight : α → Nat} {limit charged : Nat} {outstanding before after : List α} {thing : α}

theorem nil : Charged weight limit 0 [] where
  balance := rfl
  bounded := .inl (Nat.zero_le _)

theorem charge (account : Charged weight limit charged outstanding)
    (fits : charged = 0 ∨ charged + weight thing ≤ limit) :
    Charged weight limit (charged + weight thing) (outstanding ++ [thing]) where
  balance := by
    rw [account.balance]
    simp
  bounded := by
    obtain empty | fits := fits
    · -- Nothing that is outstanding weighs anything.
      have light : outstanding.countP (fun thing => weight thing ≠ 0) = 0 := by
        rw [countP_eq_zero]
        intro other listed
        have balance := account.balance
        rw [empty, eq_comm, List.sum_eq_zero_iff_forall_eq_nat] at balance
        simpa using balance (weight other) (mem_map_of_mem listed)
      by_cases weightless : weight thing = 0
      · exact .inl (by omega)
      · refine .inr ?_
        rw [countP_append, light, countP_singleton]
        simp [weightless]
    · exact .inl fits

/-- What is given back was charged, and the rest stays balanced. -/
theorem refund (account : Charged weight limit charged (before ++ thing :: after)) :
    weight thing ≤ charged ∧ Charged weight limit (charged - weight thing) (before ++ after) := by
  have balance : charged = weight thing + ((before ++ after).map weight).sum := by
    rw [account.balance]
    simp only [map_append, map_cons, sum_append, sum_cons]
    omega
  refine ⟨by omega, ⟨by omega, ?_⟩⟩
  obtain _ | single := account.bounded
  · exact .inl (by omega)
  rw [countP_append, countP_cons] at single
  by_cases weightless : weight thing = 0
  · refine .inr ?_
    simpa [weightless] using single
  -- It was the only one.
  have light : (before ++ after).countP (fun thing => weight thing ≠ 0) = 0 := by
    rw [countP_append]
    simp only [ne_eq, weightless, not_false_eq_true, decide_true, if_true] at single ⊢
    omega
  have rest : ((before ++ after).map weight).sum = 0 := by
    rw [List.sum_eq_zero_iff_forall_eq_nat]
    intro amount listed
    obtain ⟨other, member, rfl⟩ := mem_map.mp listed
    simpa using countP_eq_zero.mp light other member
  exact .inl (by omega)

end Charged

end Foundation
