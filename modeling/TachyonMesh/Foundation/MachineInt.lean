import Mathlib.Order.Basic

/-! # Fixed-width unsigned arithmetic over natural numbers

Machine integers are natural numbers; an operation that saturates or wraps says
so in its definition.
-/

namespace Foundation

def u32Max : Nat := 4294967295

def u64Max : Nat := 18446744073709551615

/-- Addition that stops at `bound`. -/
def saturatingAdd (bound left right : Nat) : Nat := min (left + right) bound

theorem add_le_of_saturatingAdd_le {bound left right value : Nat} (below : value < bound)
    (reached : saturatingAdd bound left right ≤ value) : left + right ≤ value := by
  unfold saturatingAdd at reached
  omega

end Foundation
