import Mathlib.Data.List.Nodup

/-! # Directories

A directory is the list of its files in the order in which they are enumerated.
The names are distinct, so a name denotes at most one file. Writing a file that
exists keeps its place in the order; a new file comes last.
-/

namespace Foundation
open List

universe u

/-- Files by name, in enumeration order. -/
structure Directory (α : Type u) where
  files : List (String × α)
  distinct : (files.map Prod.fst).Nodup

namespace Directory
variable {α : Type u}

def empty : Directory α := ⟨[], nodup_nil⟩

def findIn (name : String) : List (String × α) → Option α
  | [] => none
  | (other, content) :: rest => if other = name then some content else findIn name rest

/-- The content of a file. -/
def find (directory : Directory α) (name : String) : Option α := findIn name directory.files

def writeIn (name : String) (content : α) : List (String × α) → List (String × α)
  | [] => [(name, content)]
  | (other, old) :: rest =>
      if other = name then (other, content) :: rest else (other, old) :: writeIn name content rest

variable {name other : String} {content : α} {files : List (String × α)}

private theorem mem_map_fst_writeIn :
    other ∈ (writeIn name content files).map Prod.fst ↔
      other = name ∨ other ∈ files.map Prod.fst := by
  induction files with
  | nil => simp [writeIn]
  | cons file _ ih =>
    obtain ⟨-, -⟩ := file
    rw [writeIn]
    split
    · next same => simp [same]
    · rw [map_cons, mem_cons, ih, map_cons, mem_cons]
      tauto

private theorem nodup_writeIn (distinct : (files.map Prod.fst).Nodup) :
    ((writeIn name content files).map Prod.fst).Nodup := by
  induction files with
  | nil => exact nodup_cons.mpr ⟨not_mem_nil, nodup_nil⟩
  | cons file _ ih =>
    obtain ⟨_, _⟩ := file
    obtain ⟨fresh, remaining⟩ := nodup_cons.mp distinct
    rw [writeIn]
    split
    · exact nodup_cons.mpr ⟨fresh, remaining⟩
    · next different =>
      refine nodup_cons.mpr ⟨?_, ih remaining⟩
      rw [mem_map_fst_writeIn]
      rintro (same | present)
      · exact different same
      · exact fresh present

variable (directory : Directory α)

/-- Overwrite a file, or add it at the end. -/
def write (name : String) (content : α) : Directory α :=
  ⟨writeIn name content directory.files, nodup_writeIn directory.distinct⟩

/-- The files that pass a test. -/
def keep (test : String × α → Bool) : Directory α :=
  ⟨directory.files.filter test, directory.distinct.sublist (filter_sublist.map Prod.fst)⟩

/-- Without a file. -/
def remove (name : String) : Directory α :=
  directory.keep fun file => file.1 != name

private theorem findIn_writeIn_self (name : String) (content : α) (files : List (String × α)) :
    findIn name (writeIn name content files) = some content := by
  induction files with
  | nil => simp [writeIn, findIn]
  | cons file _ ih =>
    obtain ⟨-, -⟩ := file
    rw [writeIn]
    split
    · next same => rw [findIn, if_pos same]
    · next different => rw [findIn, if_neg different, ih]

@[simp] theorem find_write_self (name : String) (content : α) :
    (directory.write name content).find name = some content :=
  findIn_writeIn_self name content directory.files

private theorem findIn_writeIn_of_ne (content : α) (different : other ≠ name)
    (files : List (String × α)) :
    findIn other (writeIn name content files) = findIn other files := by
  induction files with
  | nil => simp [writeIn, findIn, different.symm]
  | cons file _ ih =>
    obtain ⟨-, -⟩ := file
    rw [writeIn]
    split
    · next same =>
      subst same
      rw [findIn, if_neg different.symm, findIn, if_neg different.symm]
    · rw [findIn, ih, findIn]

theorem find_write_of_ne (content : α) (different : other ≠ name) :
    (directory.write name content).find other = directory.find other :=
  findIn_writeIn_of_ne content different directory.files

theorem find_write (name other : String) (content : α) :
    (directory.write name content).find other =
      if other = name then some content else directory.find other := by
  split
  · next same => rw [same, find_write_self]
  · next different => exact find_write_of_ne directory content different

private theorem mem_of_findIn
    (found : findIn name files = some content) : (name, content) ∈ files := by
  induction files with
  | nil => cases found
  | cons file _ ih =>
    obtain ⟨_, _⟩ := file
    rw [findIn] at found
    split at found
    · next same =>
      cases found
      rw [same]
      exact mem_cons_self
    · exact mem_cons_of_mem _ (ih found)

private theorem findIn_of_mem (distinct : (files.map Prod.fst).Nodup)
    (present : (name, content) ∈ files) : findIn name files = some content := by
  induction files with
  | nil => cases present
  | cons file _ ih =>
    obtain ⟨_, _⟩ := file
    obtain ⟨fresh, remaining⟩ := nodup_cons.mp distinct
    rw [findIn]
    rcases mem_cons.mp present with same | later
    · cases same
      rw [if_pos rfl]
    rw [if_neg, ih remaining later]
    intro same
    have listed := mem_map_of_mem (f := Prod.fst) later
    exact fresh (same ▸ listed)

/-- Since names are distinct, looking up a name and enumerating the files agree. -/
theorem find_eq_some {directory : Directory α} :
    directory.find name = some content ↔ (name, content) ∈ directory.files :=
  ⟨mem_of_findIn, findIn_of_mem directory.distinct⟩

private theorem find_keep (test : String × α → Bool) (name : String) :
    (directory.keep test).find name =
      (directory.find name).filter fun content => test (name, content) := by
  ext content
  rw [find_eq_some, keep, mem_filter, ← find_eq_some, Option.filter_eq_some_iff]

theorem find_remove (name other : String) :
    (directory.remove name).find other = if other = name then none else directory.find other := by
  rw [remove, find_keep]
  ext content
  split
  · next same => simp [same]
  · next different => simp [different]

theorem find_remove_of_ne (different : other ≠ name) :
    (directory.remove name).find other = directory.find other := by
  rw [find_remove, if_neg different]

end Directory

end Foundation
