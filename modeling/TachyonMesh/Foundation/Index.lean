import TachyonMesh.Foundation.Dictionary

/-! # Indexes

A table whose rows stand under encoded keys. The table indexes a partial map when it finds the
map's values under the codes, and holds no other row. An update of the map at a point that shares
its code with no other point is an update of the row.
-/

namespace Foundation
open Function

universe u v w
variable {α : Type u} {κ : Type v} {β : Type w} [LinearOrder κ]

/-- The rows are the values of the map, under the codes of their points. -/
structure Indexes (encode : α → κ) (rows : Dictionary κ β) (map : α → Option β) : Prop where
  find : ∀ point, rows.find (encode point) = map point
  row : ∀ key value, rows.find key = some value →
    ∃ point, key = encode point ∧ map point = some value

namespace Indexes
variable {encode : α → κ} {rows : Dictionary κ β} {map : α → Option β} {point : α}

theorem empty : Indexes encode (.empty : Dictionary κ β) fun _ => none where
  find _ := rfl
  row _ _ found := nomatch found

variable [DecidableEq α] (indexes : Indexes encode rows map)
  (alone : ∀ other, encode other = encode point → other = point)
include indexes alone

private theorem update {changed : Dictionary κ β} {value : Option β}
    (held : ∀ key, changed.find key = if key = encode point then value else rows.find key) :
    Indexes encode changed (update map point value) where
  find other := by
    rw [held, update_apply]
    by_cases same : other = point
    · rw [if_pos same, if_pos (congrArg encode same)]
    · rw [if_neg same, if_neg (fun code => same (alone other code))]
      exact indexes.find other
  row key found present := by
    rw [held] at present
    split at present
    · next here => exact ⟨point, here, by rw [update_self]; exact present⟩
    · next elsewhere =>
      obtain ⟨other, rfl, mapped⟩ := indexes.row key found present
      refine ⟨other, rfl, ?_⟩
      rw [update_of_ne (fun same => elsewhere (congrArg encode same))]
      exact mapped

theorem insert (value : β) :
    Indexes encode (rows.insert (encode point) value) (Function.update map point (some value)) :=
  indexes.update alone fun key => rows.find_insert (encode point) key value

theorem erase : Indexes encode (rows.erase (encode point)) (Function.update map point none) :=
  indexes.update alone fun key => rows.find_erase (encode point) key

end Indexes

end Foundation
