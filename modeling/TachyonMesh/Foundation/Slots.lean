import Mathlib.Data.List.Basic

/-! # Slots

Tasks under way are the slots of a list: a new task is pushed at the end, and a step of a
task replaces its slot.
-/

namespace Foundation
open List

universe u
variable {α : Type u} {test : α → Prop} {slots : List α} {value : α} {index : Nat}

/-! ## What a slot holds after a change -/

variable {found held : α}

theorem getElem?_set_cases {other : Nat} (held : (slots.set index value)[other]? = some found) :
    (other = index ∧ found = value) ∨ (other ≠ index ∧ slots[other]? = some found) := by
  rw [getElem?_set] at held
  split at held
  · next same =>
    split at held
    · exact .inl ⟨same.symm, (Option.some.inj held).symm⟩
    · cases held
  · next apart => exact .inr ⟨Ne.symm apart, held⟩

theorem getElem?_set_of_some
    (occupied : slots[index]? = some held) : (slots.set index value)[index]? = some value := by
  obtain ⟨inside, -⟩ := List.getElem?_eq_some_iff.mp occupied
  rw [getElem?_set_self inside]

theorem getElem?_append_singleton (held : (slots ++ [value])[index]? = some found) :
    slots[index]? = some found ∨ (index = slots.length ∧ found = value) := by
  rw [getElem?_append] at held
  split at held
  · exact .inl held
  · obtain ⟨inside, rfl⟩ := List.getElem?_eq_some_iff.mp held
    have last : index = slots.length := by
      rw [length_singleton] at inside
      omega
    exact .inr ⟨last, by simp [last]⟩

theorem getElem?_append_of_some {added : List α}
    (held : slots[index]? = some found) : (slots ++ added)[index]? = some found := by
  obtain ⟨inside, -⟩ := List.getElem?_eq_some_iff.mp held
  rw [getElem?_append_left inside]
  exact held

theorem mem_set_of_ne {other : α} (occupied : slots[index]? = some held) (listed : other ∈ slots)
    (different : other ≠ held) : other ∈ slots.set index value := by
  obtain ⟨place, found⟩ := mem_iff_getElem?.mp listed
  have apart : index ≠ place := by
    rintro rfl
    exact different (Option.some.inj (found.symm.trans occupied))
  exact mem_of_getElem? ((getElem?_set_ne apart).trans found)

theorem forall_mem_push (all : ∀ held ∈ slots, test held) (passes : test value) :
    ∀ held ∈ slots ++ [value], test held :=
  forall_mem_append.mpr ⟨all, forall_mem_singleton.mpr passes⟩

theorem forall_mem_set (all : ∀ held ∈ slots, test held) (passes : test value) :
    ∀ held ∈ slots.set index value, test held := by
  intro held listed
  obtain before | rfl := mem_or_eq_of_mem_set listed
  · exact all held before
  · exact passes

variable {passes : Nat → α → Prop}
  (all : ∀ (place : Nat) (held : α), slots[place]? = some held → passes place held)
include all

theorem forall_push (last : passes slots.length value) :
    ∀ (place : Nat) (held : α), (slots ++ [value])[place]? = some held → passes place held := by
  intro place held found
  obtain found | ⟨rfl, rfl⟩ := getElem?_append_singleton found
  · exact all place held found
  · exact last

theorem forall_set (here : passes index value) :
    ∀ (place : Nat) (held : α), (slots.set index value)[place]? = some held →
      passes place held := by
  intro place held found
  obtain ⟨rfl, rfl⟩ | ⟨-, found⟩ := getElem?_set_cases found
  · exact here
  · exact all place held found

omit all

/-! ## At most one slot -/

/-- At most one slot passes the test. -/
def Alone (test : α → Prop) (slots : List α) : Prop :=
  ∀ (first second : Nat) (left right : α), slots[first]? = some left →
    slots[second]? = some right → test left → test right → first = second

theorem alone_nil : Alone test ([] : List α) := by
  intro first second left right held
  cases held

section
variable (alone : Alone test slots)
include alone

/-- Slots that pass only where slots passed before are as alone as before. -/
theorem Alone.of_places {changed : List α}
    (old : ∀ (place : Nat) (other : α), changed[place]? = some other → test other →
      ∃ earlier, slots[place]? = some earlier ∧ test earlier) :
    Alone test changed := by
  intro first second left right atFirst atSecond leftPasses rightPasses
  obtain ⟨left, atFirst, leftPasses⟩ := old first left atFirst leftPasses
  obtain ⟨right, atSecond, rightPasses⟩ := old second right atSecond rightPasses
  exact alone first second left right atFirst atSecond leftPasses rightPasses

theorem Alone.push (fails : ¬test value) : Alone test (slots ++ [value]) := by
  refine alone.of_places ?_
  intro place other held passes
  obtain held | ⟨-, rfl⟩ := getElem?_append_singleton held
  · exact ⟨other, held, passes⟩
  · exact absurd passes fails

theorem Alone.replace (fails : ¬test value) : Alone test (slots.set index value) := by
  refine alone.of_places ?_
  intro place other held passes
  obtain ⟨-, rfl⟩ | ⟨-, held⟩ := getElem?_set_cases held
  · exact absurd passes fails
  · exact ⟨other, held, passes⟩

/-- A slot that passes only if it passed before leaves the others alone. -/
theorem Alone.rewrite (occupied : slots[index]? = some held) (passed : test value → test held) :
    Alone test (slots.set index value) := by
  refine alone.of_places ?_
  intro place other found passes
  obtain ⟨rfl, rfl⟩ | ⟨-, found⟩ := getElem?_set_cases found
  · exact ⟨held, occupied, passed passes⟩
  · exact ⟨other, found, passes⟩

end

private theorem alone_of_place (index : Nat)
    (here : ∀ (place : Nat) (other : α), slots[place]? = some other →
    test other → place = index) : Alone test slots := by
  intro first second left right atFirst atSecond leftPasses rightPasses
  rw [here first left atFirst leftPasses, here second right atSecond rightPasses]

theorem alone_push (nobody : ∀ other ∈ slots, ¬test other) : Alone test (slots ++ [value]) := by
  refine alone_of_place slots.length ?_
  intro place other held passes
  obtain held | ⟨last, -⟩ := getElem?_append_singleton held
  · exact absurd passes (nobody other (mem_of_getElem? held))
  · exact last

theorem alone_replace (nobody : ∀ other ∈ slots, ¬test other) :
    Alone test (slots.set index value) := by
  refine alone_of_place index ?_
  intro place other held passes
  obtain ⟨here, -⟩ | ⟨-, held⟩ := getElem?_set_cases held
  · exact here
  · exact absurd passes (nobody other (mem_of_getElem? held))

theorem Alone.vacate (alone : Alone test slots) (occupied : slots[index]? = some held)
    (passed : test held) (fails : ¬test value) : ∀ other ∈ slots.set index value, ¬test other := by
  intro other member passes
  obtain ⟨place, found⟩ := mem_iff_getElem?.mp member
  obtain ⟨-, rfl⟩ | ⟨apart, before⟩ := getElem?_set_cases found
  · exact fails passes
  · exact apart (alone place index other held before occupied passes passed)

/-! ## Counting -/

/-- A change of all slots that keeps the test keeps the number of slots that pass. -/
theorem countP_mapIdx {change : Nat → α → α} {passes : α → Bool}
    (same : ∀ place held, passes (change place held) = passes held) :
    (slots.mapIdx change).countP passes = slots.countP passes := by
  induction slots generalizing change with
  | nil => rfl
  | cons _ _ ih =>
    rw [mapIdx_cons, countP_cons, countP_cons, same]
    rw [ih fun place held => same (place + 1) held]

/-- Replacing a slot moves the number by what the slot passed before and passes now. -/
theorem countP_set_add (passes : α → Bool) (value : α) (occupied : slots[index]? = some held) :
    (slots.set index value).countP passes + (if passes held then 1 else 0) =
      slots.countP passes + if passes value then 1 else 0 := by
  induction slots generalizing index with
  | nil => cases occupied
  | cons _ _ ih =>
    cases index with
    | zero =>
      cases occupied
      rw [set_cons_zero, countP_cons, countP_cons]
      omega
    | succ =>
      have later := ih occupied
      rw [set_cons_succ, countP_cons, countP_cons]
      omega

end Foundation
