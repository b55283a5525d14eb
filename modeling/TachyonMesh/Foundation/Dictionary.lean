import Mathlib.Data.List.Basic
import Mathlib.Order.Lattice

/-! # Dictionaries

Finite maps as association lists in ascending order of their keys, the way an
ordered table or an ordered map enumerates itself. `findEntry` and `insertEntry`
work on bare lists, so that a recursive type can hold its own entries;
`Dictionary` carries the order as a field, and with it a dictionary is determined
by what it finds.
-/

namespace Foundation
open List

universe u v w
variable {κ : Type u} {α : Type v} [LinearOrder κ]

/-- The value of the first entry with a key. -/
def findEntry (key : κ) : List (κ × α) → Option α
  | [] => none
  | (other, value) :: rest => if key = other then some value else findEntry key rest

/-- Put an entry in its place; the value of a key that is present is replaced. -/
def insertEntry (key : κ) (value : α) : List (κ × α) → List (κ × α)
  | [] => [(key, value)]
  | (other, old) :: rest =>
      if key < other then (key, value) :: (other, old) :: rest
      else if key = other then (key, value) :: rest
      else (other, old) :: insertEntry key value rest

/-- Insert the entries one after the other: of several with one key the last stays. -/
def insertEntries (added entries : List (κ × α)) : List (κ × α) :=
  added.foldl (fun entries entry => insertEntry entry.1 entry.2 entries) entries

/-- The keys ascend. -/
def Ascending (entries : List (κ × α)) : Prop :=
  entries.Pairwise fun first second => first.1 < second.1
deriving Decidable

theorem findEntry_insertEntry (key other : κ) (value : α) (entries : List (κ × α)) :
    findEntry other (insertEntry key value entries) =
      if other = key then some value else findEntry other entries := by
  induction entries with
  | nil => rfl
  | cons entry _ ih =>
    obtain ⟨first, -⟩ := entry
    rw [insertEntry]
    split
    · rw [findEntry]
    split
    · next same =>
      rw [findEntry, findEntry, same]
      split <;> rfl
    · next different =>
      rw [findEntry, findEntry, ih]
      by_cases hit : other = first
      · simp [hit, Ne.symm different]
      · simp [hit]

theorem findEntry_append (key : κ) (first second : List (κ × α)) :
    findEntry key (first ++ second) = (findEntry key first).or (findEntry key second) := by
  induction first with
  | nil => rfl
  | cons entry _ ih =>
    obtain ⟨-, -⟩ := entry
    rw [cons_append, findEntry, findEntry, ih]
    split <;> rfl

/-- What was inserted last is found first. -/
theorem findEntry_insertEntries (key : κ) (added entries : List (κ × α)) :
    findEntry key (insertEntries added entries) =
      (findEntry key added.reverse).or (findEntry key entries) := by
  induction added generalizing entries with
  | nil => rfl
  | cons entry rest ih =>
    obtain ⟨other, value⟩ := entry
    have inserted : insertEntries ((other, value) :: rest) entries =
        insertEntries rest (insertEntry other value entries) := rfl
    rw [inserted, ih, findEntry_insertEntry, reverse_cons, findEntry_append, Option.or_assoc]
    congr 1
    rw [findEntry]
    split <;> rfl

variable {key : κ} {value : α}

section
variable {entries : List (κ × α)}

theorem mem_of_findEntry (found : findEntry key entries = some value) : (key, value) ∈ entries := by
  induction entries with
  | nil => cases found
  | cons entry _ ih =>
    obtain ⟨_, _⟩ := entry
    rw [findEntry] at found
    split at found
    · next same =>
      cases found
      rw [same]
      exact mem_cons_self
    · exact mem_cons_of_mem _ (ih found)

private theorem findEntry_of_mem
    (distinct : entries.Pairwise fun first second => first.1 ≠ second.1)
    (present : (key, value) ∈ entries) : findEntry key entries = some value := by
  induction entries with
  | nil => cases present
  | cons entry _ ih =>
    obtain ⟨other, _⟩ := entry
    obtain ⟨apart, remaining⟩ := pairwise_cons.mp distinct
    rw [findEntry]
    rcases mem_cons.mp present with same | later
    · cases same
      rw [if_pos rfl]
    · have different : key ≠ other := (apart _ later).symm
      rw [if_neg different]
      exact ih remaining later

theorem Ascending.distinct (ascending : Ascending entries) :
    entries.Pairwise fun first second => first.1 ≠ second.1 :=
  ascending.imp ne_of_lt

theorem Ascending.findEntry_eq_some (ascending : Ascending entries) :
    findEntry key entries = some value ↔ (key, value) ∈ entries :=
  ⟨mem_of_findEntry, findEntry_of_mem ascending.distinct⟩

theorem Ascending.findEntry_reverse (ascending : Ascending entries) (key : κ) :
    findEntry key entries.reverse = findEntry key entries := by
  have distinct : entries.reverse.Pairwise fun first second => first.1 ≠ second.1 :=
    pairwise_reverse.mpr (ascending.imp ne_of_gt)
  ext value
  rw [ascending.findEntry_eq_some, ← mem_reverse]
  exact ⟨mem_of_findEntry, findEntry_of_mem distinct⟩

theorem mem_insertEntry {entry : κ × α} (present : entry ∈ insertEntry key value entries) :
    entry = (key, value) ∨ entry ∈ entries := by
  induction entries with
  | nil => exact .inl (mem_singleton.mp present)
  | cons head _ ih =>
    obtain ⟨_, _⟩ := head
    rw [insertEntry] at present
    split at present
    · exact mem_cons.mp present
    split at present
    · exact (mem_cons.mp present).imp_right (mem_cons_of_mem _)
    rcases mem_cons.mp present with first | later
    · exact .inr (first ▸ mem_cons_self)
    · exact (ih later).imp_right (mem_cons_of_mem _)

theorem Ascending.insertEntry (ascending : Ascending entries) (key : κ) (value : α) :
    Ascending (insertEntry key value entries) := by
  induction entries with
  | nil => exact pairwise_singleton _ _
  | cons head _ ih =>
    obtain ⟨_, _⟩ := head
    obtain ⟨above, remaining⟩ := pairwise_cons.mp ascending
    rw [Foundation.insertEntry]
    split
    · next before =>
      apply pairwise_cons.mpr ⟨_, ascending⟩
      intro entry present
      rcases mem_cons.mp present with first | later
      · exact first ▸ before
      · exact before.trans (above entry later)
    split
    · next same => exact pairwise_cons.mpr ⟨same ▸ above, remaining⟩
    · next notBefore different =>
      apply pairwise_cons.mpr ⟨_, ih remaining⟩
      intro entry present
      rcases mem_insertEntry present with new | kept
      · rw [new]
        exact lt_of_le_of_ne (not_lt.mp notBefore) (Ne.symm different)
      · exact above entry kept

theorem Ascending.insertEntries (ascending : Ascending entries) (added : List (κ × α)) :
    Ascending (insertEntries added entries) := by
  induction added generalizing entries with
  | nil => exact ascending
  | cons entry _ ih => exact ih (ascending.insertEntry entry.1 entry.2)

end

/-- Two ascending lists that find the same are the same. -/
theorem Ascending.ext {first second : List (κ × α)} (left : Ascending first)
    (right : Ascending second) (same : ∀ key, findEntry key first = findEntry key second) :
    first = second := by
  have members : ∀ entry, entry ∈ first ↔ entry ∈ second := by
    rintro ⟨-, -⟩
    rw [← left.findEntry_eq_some, ← right.findEntry_eq_some, same]
  apply List.Perm.eq_of_pairwise _ left right
  · apply (perm_ext_iff_of_nodup _ _).mpr members
    · exact left.imp fun below same => absurd (congrArg Prod.fst same) (ne_of_lt below)
    · exact right.imp fun below same => absurd (congrArg Prod.fst same) (ne_of_lt below)
  · intro a b _ _ below above
    exact absurd (below.trans above) (lt_irrefl _)

/-- A finite map whose entries are enumerated in ascending order of their keys. -/
structure Dictionary (κ : Type u) (α : Type v) [LinearOrder κ] where
  entries : List (κ × α)
  ascending : Ascending entries

namespace Dictionary

def empty : Dictionary κ α := ⟨[], List.Pairwise.nil⟩

/-- The value under a key. -/
def find (dictionary : Dictionary κ α) (key : κ) : Option α := findEntry key dictionary.entries

def insert (dictionary : Dictionary κ α) (key : κ) (value : α) : Dictionary κ α :=
  ⟨insertEntry key value dictionary.entries, dictionary.ascending.insertEntry key value⟩

/-- Without a key. -/
def erase (dictionary : Dictionary κ α) (key : κ) : Dictionary κ α :=
  ⟨dictionary.entries.filter fun entry => entry.1 != key,
    dictionary.ascending.sublist filter_sublist⟩

/-- Collect entries; of several with one key the last stays. -/
def ofList (entries : List (κ × α)) : Dictionary κ α :=
  ⟨insertEntries entries [], Ascending.insertEntries List.Pairwise.nil entries⟩

/-- Change every value. -/
def mapValues {β : Type w} (dictionary : Dictionary κ α) (change : α → β) : Dictionary κ β :=
  ⟨dictionary.entries.map fun entry => (entry.1, change entry.2), by
    refine dictionary.ascending.map _ ?_
    intro first second below
    exact below⟩

@[simp] theorem find_empty (key : κ) : (empty : Dictionary κ α).find key = none := rfl

variable {dictionary : Dictionary κ α} {key : κ} {value : α}

theorem find_eq_some : dictionary.find key = some value ↔ (key, value) ∈ dictionary.entries :=
  dictionary.ascending.findEntry_eq_some

theorem find_insert (dictionary : Dictionary κ α) (key other : κ) (value : α) :
    (dictionary.insert key value).find other =
      if other = key then some value else dictionary.find other :=
  findEntry_insertEntry key other value dictionary.entries

theorem find_erase (dictionary : Dictionary κ α) (key other : κ) :
    (dictionary.erase key).find other = if other = key then none else dictionary.find other := by
  ext value
  rw [find_eq_some, erase, mem_filter, ← find_eq_some]
  by_cases same : other = key <;> simp [same]

theorem find_mapValues {β : Type w} (dictionary : Dictionary κ α) (change : α → β) (key : κ) :
    (dictionary.mapValues change).find key = (dictionary.find key).map change := by
  ext value
  rw [find_eq_some, mapValues, mem_map, Option.map_eq_some_iff]
  constructor
  · rintro ⟨⟨_, old⟩, member, same⟩
    cases same
    exact ⟨old, find_eq_some.mpr member, rfl⟩
  · rintro ⟨old, found, rfl⟩
    exact ⟨(key, old), find_eq_some.mp found, rfl⟩

theorem find_ofList (entries : List (κ × α)) (key : κ) :
    (ofList entries).find key = findEntry key entries.reverse := by
  have found := findEntry_insertEntries key entries ([] : List (κ × α))
  rwa [show findEntry key ([] : List (κ × α)) = none from rfl, Option.or_none] at found

theorem ext_find {first second : Dictionary κ α} (same : ∀ key, first.find key = second.find key) :
    first = second := by
  obtain ⟨_, leftAscending⟩ := first
  obtain ⟨_, rightAscending⟩ := second
  have entries := leftAscending.ext rightAscending same
  subst entries
  rfl

theorem ofList_entries (dictionary : Dictionary κ α) : ofList dictionary.entries = dictionary := by
  apply ext_find
  intro key
  rw [find_ofList]
  exact dictionary.ascending.findEntry_reverse key

theorem insert_of_find
    (found : dictionary.find key = some value) : dictionary.insert key value = dictionary := by
  apply ext_find
  intro other
  rw [find_insert]
  split
  · next same => rw [same, found]
  · rfl

instance [DecidableEq α] : DecidableEq (Dictionary κ α) := fun first second =>
  decidable_of_iff (first.entries = second.entries)
    ⟨fun same => by cases first; cases second; cases same; rfl, congrArg entries⟩

end Dictionary

end Foundation
