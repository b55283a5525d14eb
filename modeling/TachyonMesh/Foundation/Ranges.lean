import Mathlib.Data.String.Basic
import Mathlib.Order.Cover

/-! # Ranges of keys

A scan from a key that ends in a separator up to the key that ends in the next symbol instead finds
the keys that begin with the first one.
-/

namespace Foundation
open List

theorem between_iff_isPrefix {α : Type*} [LinearOrder α] {separator bound : α}
    (next : separator ⋖ bound) (start key : List α) :
    start ++ [separator] ≤ key ∧ key < start ++ [bound] ↔ start ++ [separator] <+: key := by
  rw [← not_lt]
  induction start generalizing key with
  | nil =>
    cases key with
    | nil => simp
    | cons first rest =>
      have inside : separator ≤ first ∧ first < bound ↔ separator = first :=
        ⟨fun both => both.1.antisymm (not_lt.mp fun later => next.2 later both.2),
          fun same => same ▸ ⟨le_rfl, next.1⟩⟩
      simpa [cons_lt_cons_iff] using inside
  | cons symbol _ ih =>
    cases key with
    | nil => simp
    | cons first _ =>
      by_cases same : symbol = first
      · simp [same, ← ih]
      · simp [cons_lt_cons_iff, same, Ne.symm same]

end Foundation
