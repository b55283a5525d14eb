import Mathlib.Algebra.GroupWithZero.Nat
import Mathlib.Algebra.Order.BigOperators.Group.Finset
import TachyonMesh.Foundation.Dictionary

/-! # Merging dictionaries

A dictionary absorbs another one entry by entry: a value joins the one that is there, or
a default when there is none. When the default is neutral the order of the entries does
not matter, and the merge inherits the laws of the join.

`Dictionary.total` is the sum of a dictionary of counts; a dictionary that counts the
elements of a finite set by their places has the size of the set for its total.
-/

namespace Foundation
open List

namespace Dictionary

universe u v w

section
variable {κ : Type u} {α : Type v} [LinearOrder κ] {join : α → α → α} {default : α}

def absorbEntries (join : α → α → α) (default : α) (dictionary : Dictionary κ α)
    (entries : List (κ × α)) : Dictionary κ α :=
  entries.foldl
    (fun merged entry => merged.insert entry.1 (join ((merged.find entry.1).getD default) entry.2))
    dictionary

/-- Join another dictionary into this one. -/
def absorb (join : α → α → α) (default : α) (dictionary other : Dictionary κ α) :
    Dictionary κ α :=
  dictionary.absorbEntries join default other.entries

private theorem find_absorbEntries (neutral : ∀ value, join default value = value) (key : κ)
    {entries : List (κ × α)} (distinct : entries.Pairwise fun first second => first.1 ≠ second.1)
    (dictionary : Dictionary κ α) :
    (dictionary.absorbEntries join default entries).find key =
      Option.merge join (dictionary.find key) (findEntry key entries) := by
  induction entries generalizing dictionary with
  | nil =>
    cases found : dictionary.find key <;> simp [absorbEntries, findEntry, found, Option.merge]
  | cons entry rest ih =>
    obtain ⟨other, value⟩ := entry
    obtain ⟨apart, remaining⟩ := pairwise_cons.mp distinct
    have taken : dictionary.absorbEntries join default ((other, value) :: rest) =
        (dictionary.insert other (join ((dictionary.find other).getD default) value)).absorbEntries
          join default rest := rfl
    rw [taken, ih remaining, find_insert, findEntry]
    by_cases same : key = other
    · -- The key does not come again, so the rest of the entries has nothing for it.
      have absent : findEntry key rest = none := by
        cases found : findEntry key rest with
        | none => rfl
        | some => exact absurd same.symm (apart _ (mem_of_findEntry found))
      rw [if_pos same, if_pos same, absent, same]
      cases found : dictionary.find other <;> simp [Option.merge, neutral]
    · rw [if_neg same, if_neg same]

variable (neutral : ∀ value, join default value = value)
include neutral

theorem find_absorb (dictionary other : Dictionary κ α) (key : κ) :
    (dictionary.absorb join default other).find key =
      Option.merge join (dictionary.find key) (other.find key) :=
  find_absorbEntries neutral key other.ascending.distinct dictionary

theorem absorb_comm [Std.Commutative join] (first second : Dictionary κ α) :
    first.absorb join default second = second.absorb join default first := by
  apply ext_find
  intro key
  rw [find_absorb neutral, find_absorb neutral]
  exact Std.Commutative.comm _ _

theorem absorb_assoc [Std.Associative join] (first second third : Dictionary κ α) :
    (first.absorb join default second).absorb join default third =
      first.absorb join default (second.absorb join default third) := by
  apply ext_find
  intro key
  simp only [find_absorb neutral]
  exact Std.Associative.assoc _ _ _

theorem absorb_self [Std.IdempotentOp join] (dictionary : Dictionary κ α) :
    dictionary.absorb join default dictionary = dictionary := by
  apply ext_find
  intro key
  rw [find_absorb neutral]
  exact Std.IdempotentOp.idempotent _

theorem empty_absorb (dictionary : Dictionary κ α) :
    empty.absorb join default dictionary = dictionary := by
  apply ext_find
  intro key
  rw [find_absorb neutral, find_empty]
  cases dictionary.find key <;> rfl

end

variable {κ : Type u} [LinearOrder κ]

/-- The sum of all counts. -/
def total (counts : Dictionary κ Nat) : Nat := (counts.entries.map Prod.snd).sum

/-- The keys as a set. -/
def keys (counts : Dictionary κ Nat) : Finset κ := (counts.entries.map Prod.fst).toFinset

private theorem mem_keys {counts : Dictionary κ Nat} {key : κ}
    (counted : 0 < (counts.find key).getD 0) :
    key ∈ counts.keys := by
  cases found : counts.find key with
  | none => simp [found] at counted
  | some =>
    exact mem_toFinset.mpr (mem_map_of_mem (f := Prod.fst) (find_eq_some.mp found))

private theorem total_eq_sum (counts : Dictionary κ Nat) :
    counts.total = ∑ key ∈ counts.keys, (counts.find key).getD 0 := by
  have distinct : (counts.entries.map Prod.fst).Nodup := pairwise_map.mpr counts.ascending.distinct
  rw [keys, sum_toFinset _ distinct, map_map]
  apply congrArg sum
  apply map_congr_left
  intro entry member
  have found : counts.find entry.1 = some entry.2 := find_eq_some.mpr member
  rw [Function.comp_apply, found]
  rfl

variable {ι : Type w} {counts : Dictionary κ Nat} {elements : Finset ι} {place : ι → κ}

theorem total_eq_card
    (counted : ∀ key, (counts.find key).getD 0 = (elements.filter (place · = key)).card) :
    counts.total = elements.card := by
  have within : Set.MapsTo place elements counts.keys := by
    intro element member
    apply mem_keys
    rw [counted]
    exact Finset.card_pos.mpr ⟨element, Finset.mem_filter.mpr ⟨member, rfl⟩⟩
  rw [total_eq_sum, Finset.card_eq_sum_card_fiberwise within]
  exact Finset.sum_congr rfl fun key _ => counted key

theorem total_le_card
    (counted : ∀ key, (counts.find key).getD 0 ≤ (elements.filter (place · = key)).card) :
    counts.total ≤ elements.card := by
  have placed : Set.MapsTo place (elements.filter (place · ∈ counts.keys)) counts.keys :=
    fun _ member => (Finset.mem_filter.mp member).2
  calc
    counts.total = ∑ key ∈ counts.keys, (counts.find key).getD 0 := total_eq_sum counts
    _ ≤ ∑ key ∈ counts.keys,
      ((elements.filter (place · ∈ counts.keys)).filter (place · = key)).card := by
        apply Finset.sum_le_sum
        intro key listed
        refine (counted key).trans (Finset.card_le_card ?_)
        intro element member
        obtain ⟨inside, lies⟩ := Finset.mem_filter.mp member
        exact Finset.mem_filter.mpr ⟨Finset.mem_filter.mpr ⟨inside, lies ▸ listed⟩, lies⟩
    _ = (elements.filter (place · ∈ counts.keys)).card :=
        (Finset.card_eq_sum_card_fiberwise placed).symm
    _ ≤ elements.card := Finset.card_filter_le _ _

end Dictionary

end Foundation
