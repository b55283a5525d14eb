import Mathlib.Data.List.Basic

/-! # The garbage collector's sweep

A sweep goes through a directory tree and removes the files that were modified longer ago than the
time to live. After the entries of a directory it removes the directory, if that is empty then.
-/

namespace TachyonMesh.Volumes.Sweep

/-- The content of a directory, in the order in which `read_dir` lists it. What is not a directory
counts as a file. -/
inductive Listing where
  | nil
  | file (name : String) (modified : Int) (rest : Listing)
  | directory (name : String) (content rest : Listing)

/-- No file system has entries enough to make the counters overflow. -/
structure SweepStats where
  removedFiles : Nat := 0
  removedDirs : Nat := 0

def SweepStats.merge (stats other : SweepStats) : SweepStats where
  removedFiles := stats.removedFiles + other.removedFiles
  removedDirs := stats.removedDirs + other.removedDirs

def directoryIsEmpty : Listing → Bool
  | .nil => true
  | _ => false

/-- What follows the loop of `sweep_directory`; a directory that is removed leaves nothing. -/
def pruneDirectory (swept : Listing × SweepStats) : Option Listing × SweepStats :=
  if directoryIsEmpty swept.1 then
    (none, { swept.2 with removedDirs := swept.2.removedDirs + 1 })
  else (some swept.1, swept.2)

/-- The loop of `sweep_directory`. The age of a file from the future is zero. -/
def sweepEntries (now : Int) (ttl : Nat) (stats : SweepStats) : Listing → Listing × SweepStats
  | .nil => (.nil, stats)
  | .file name modified rest =>
      let age := (now - modified).toNat
      if age > ttl then
        sweepEntries now ttl { stats with removedFiles := stats.removedFiles + 1 } rest
      else
        let swept := sweepEntries now ttl stats rest
        (.file name modified swept.1, swept.2)
  | .directory name content rest =>
      let inner := pruneDirectory (sweepEntries now ttl {} content)
      let swept := sweepEntries now ttl (stats.merge inner.2) rest
      (inner.1.elim swept.1 fun left => .directory name left swept.1, swept.2)

def sweepDirectory (now : Int) (ttl : Nat) (content : Listing) : Option Listing × SweepStats :=
  pruneDirectory (sweepEntries now ttl {} content)

/-! ## What a sweep leaves -/

namespace Listing
variable (now : Int) (ttl : Nat)

/-- Some entry survives: a file that is not older than the time to live, or a directory in which
an entry survives. -/
def survives : Listing → Bool
  | nil => false
  | file _ modified rest => now - modified ≤ ttl || rest.survives
  | directory _ content rest => content.survives || rest.survives

/-- The entries that survive. -/
def survivors : Listing → Listing
  | nil => nil
  | file name modified rest =>
      if now - modified ≤ ttl then file name modified rest.survivors else rest.survivors
  | directory name content rest =>
      if content.survives now ttl then directory name content.survivors rest.survivors
      else rest.survivors

/-- The times of the files at any depth. -/
def files : Listing → List Int
  | nil => []
  | file _ modified rest => modified :: rest.files
  | directory _ content rest => content.files ++ rest.files

/-- The directories at any depth. -/
def directories : Listing → List Listing
  | nil => []
  | file _ _ rest => rest.directories
  | directory _ content rest => content :: content.directories ++ rest.directories

/-- The numbers of files and of directories that do not survive. -/
def removed (files : List Int) (directories : List Listing) : SweepStats where
  removedFiles := files.countP (ttl < now - ·)
  removedDirs := directories.countP (!survives now ttl ·)

variable {now ttl}

private theorem directoryIsEmpty_survivors (content : Listing) :
    directoryIsEmpty (content.survivors now ttl) = !content.survives now ttl := by
  induction content with
  | nil => rfl
  | file _ _ _ ih =>
    rw [survivors, survives]
    split
    · next kept => simp [kept, directoryIsEmpty]
    · next old => simp [old, ih]
  | directory _ _ _ _ ih =>
    rw [survivors, survives]
    split
    · next kept => simp [kept, directoryIsEmpty]
    · next gone => simp [gone, ih]

private theorem pruneDirectory_survivors (content : Listing) (stats : SweepStats) :
    pruneDirectory (content.survivors now ttl,
        stats.merge (removed now ttl content.files content.directories)) =
      (if content.survives now ttl then some (content.survivors now ttl) else none,
        stats.merge (removed now ttl content.files (content :: content.directories))) := by
  rw [pruneDirectory, directoryIsEmpty_survivors]
  cases kept : content.survives now ttl with
  | false | true => simp [kept, removed, SweepStats.merge, Nat.add_assoc]

private theorem sweepEntries_eq (stats : SweepStats) (listing : Listing) :
    sweepEntries now ttl stats listing = (listing.survivors now ttl,
      stats.merge (removed now ttl listing.files listing.directories)) := by
  induction listing generalizing stats with
  | nil => rfl
  | file name modified rest ih =>
    have age : (now - modified).toNat > ttl ↔ ttl < now - modified := by omega
    rw [sweepEntries, survivors, files, directories]
    by_cases old : ttl < now - modified
    · simp [age, old, Int.not_le.mpr old, ih, removed, SweepStats.merge]
      omega
    · simp [age, old, Int.not_lt.mp old, ih, removed]
  | directory _ content _ inside beside =>
    rw [sweepEntries, inside, pruneDirectory_survivors, survivors, files, directories]
    cases kept : content.survives now ttl with
    | false | true =>
      simp [beside, kept, removed, SweepStats.merge]
      omega

end Listing

open Listing

/-- A sweep leaves the files that are not older than the time to live and the directories, the root
included, in which an entry survives, and counts what it removes. -/
theorem sweep_exact (now : Int) (ttl : Nat) (root : Listing) :
    sweepDirectory now ttl root =
      (if root.survives now ttl then some (root.survivors now ttl) else none,
        removed now ttl root.files (root :: root.directories)) := by
  rw [sweepDirectory, sweepEntries_eq, pruneDirectory_survivors]
  simp [SweepStats.merge]

end TachyonMesh.Volumes.Sweep
