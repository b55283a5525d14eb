import Mathlib.Data.String.Basic
import TachyonMesh.Foundation.Dictionary

/-! # Volumes with a time to live

A volume may declare how long its contents live. On every tick the host sweeps the directories
of such volumes: it looks at the entries that lie directly in one and removes those that were
last modified that long ago, a directory with all that is in it.

The time of a directory is the time an entry was last added to it or taken from it. Writing to
a file below it leaves that time as it is, so a directory can be older than its files.
-/

namespace TachyonMesh.Volumes.Expiry
open Foundation List

/-! ## The directories -/

/-- A volume, as far as the sweep reads it. -/
structure TtlVolume where
  hostPath : String
  ttlSeconds : Option Nat

/-- The host path and the time to live, in nanoseconds. -/
abbrev TtlManagedPath := String × Nat

section

-- `canonicalize`, where the path exists.
variable (normalizePath : String → String) (deduped : Dictionary String Nat)

def collectVolume (volume : TtlVolume) : Dictionary String Nat :=
  match volume.ttlSeconds with
  | none => deduped
  | some ttlSeconds =>
    let ttl := ttlSeconds * 1000000000
    let hostPath := normalizePath volume.hostPath
    match deduped.find hostPath with
    | some existing => if ttl < existing then deduped.insert hostPath ttl else deduped
    | none => deduped.insert hostPath ttl

/-- A route is given by its volumes. -/
def collectTtlManagedPaths (routes : List (List TtlVolume)) : List TtlManagedPath :=
  (routes.flatten.foldl (collectVolume normalizePath) .empty).entries

/-- What the volumes declare for one directory. -/
def declaredTtls (volumes : List TtlVolume) (path : String) : List Nat :=
  volumes.filterMap fun volume =>
    if normalizePath volume.hostPath = path then volume.ttlSeconds.map (· * 1000000000) else none

private theorem find_collectVolume (volume : TtlVolume) (path : String) :
    (collectVolume normalizePath deduped volume).find path =
      ((deduped.find path).toList ++ declaredTtls normalizePath [volume] path).min? := by
  obtain ⟨_, ttlSeconds⟩ := volume
  cases ttlSeconds <;> cases found : deduped.find path <;>
    grind [collectVolume, declaredTtls, Dictionary.find_insert, min?_cons']

private theorem find_collectVolumes (volumes : List TtlVolume) (path : String) :
    (volumes.foldl (collectVolume normalizePath) deduped).find path =
      ((deduped.find path).toList ++ declaredTtls normalizePath volumes path).min? := by
  induction volumes generalizing deduped with
  | nil => cases found : deduped.find path <;> simp [declaredTtls, found]
  | cons volume rest ih =>
    have parts : declaredTtls normalizePath (volume :: rest) path =
        declaredTtls normalizePath [volume] path ++ declaredTtls normalizePath rest path := by
      simp only [declaredTtls, ← filterMap_append, singleton_append]
    rw [foldl_cons, ih, find_collectVolume, parts, ← append_assoc]
    cases (deduped.find path).toList ++ declaredTtls normalizePath [volume] path with
    | nil => rfl
    | cons _ _ =>
      simp only [min?_cons', Option.toList_some, cons_append, foldl_append, foldl_nil]

private theorem mem_collectTtlManagedPaths {routes : List (List TtlVolume)}
    {managed : TtlManagedPath} :
    managed ∈ collectTtlManagedPaths normalizePath routes ↔
      (declaredTtls normalizePath routes.flatten managed.1).min? = some managed.2 := by
  rw [collectTtlManagedPaths, ← Dictionary.find_eq_some, find_collectVolumes]
  rfl

end

/-! ## One sweep -/

/-- A tree of files with their times. -/
inductive Node where
  | file (modified : Nat)
  | directory (modified : Nat) (entries : List (String × Node))

def Node.modified : Node → Nat
  | file modified | directory modified _ => modified

/-- The node is or contains, at some depth, a file of that time. -/
inductive Node.Holds : Node → Nat → Prop
  | file {modified : Nat} : Holds (.file modified) modified
  | entry {modified time : Nat} {entries : List (String × Node)} {entry : String × Node} :
      entry ∈ entries → Holds entry.2 time → Holds (.directory modified entries) time

abbrev Entries := List (String × Node)

/-- An error of the file system. -/
inductive ErrorKind where
  | notFound
  | permissionDenied
  | other

/-- The errors of the calls by which a sweep looks at the entries. -/
structure Answers where
  readDir : Option ErrorKind
  entry : String → Option ErrorKind
  /-- For `metadata` and `modified`. -/
  metadata : String → Option ErrorKind

variable (answers : Answers) (now ttl : Nat)

def ttlEntryIsStale (modified : Nat) : Bool := modified ≤ now && ttl ≤ now - modified

/-- The entries for which `remove_stale_ttl_entry` is called. It leaves what the file system
refuses to remove. -/
def sweepEntries : Entries → Entries
  | [] => []
  | (name, node) :: rest =>
    if (answers.entry name).isSome then []
    else match answers.metadata name with
      | some .other => []
      | some _ => sweepEntries rest
      | none =>
        if ttlEntryIsStale now ttl node.modified then (name, node) :: sweepEntries rest
        else sweepEntries rest

def sweepTtlManagedPath (managed : TtlManagedPath) (entries : Entries) : Entries :=
  if answers.readDir.isSome then [] else sweepEntries answers now managed.2 entries

/-- No call ends the sweep, and those for the entry succeed. -/
structure Answers.Serves (entries : Entries) (name : String) : Prop where
  readDir : answers.readDir = none
  goesOn : ∀ entry ∈ entries, answers.entry entry.1 = none ∧ answers.metadata entry.1 ≠ some .other
  metadata : answers.metadata name = none

variable {answers now ttl} {entries : Entries} {entry : String × Node}

private theorem of_mem_sweepEntries (swept : entry ∈ sweepEntries answers now ttl entries) :
    entry ∈ entries ∧ entry.2.modified + ttl ≤ now := by
  fun_induction sweepEntries answers now ttl entries <;> grind [ttlEntryIsStale]

private theorem mem_sweepEntries (serves : answers.Serves entries entry.1)
    (listed : entry ∈ entries)
    (old : entry.2.modified + ttl ≤ now) : entry ∈ sweepEntries answers now ttl entries := by
  obtain ⟨-, goesOn, _⟩ := serves
  induction entries with
  | nil => cases listed
  | cons _ _ _ =>
    obtain ⟨_, goesOn⟩ := forall_mem_cons.mp goesOn
    grind [sweepEntries, ttlEntryIsStale]

/-! ## Old directories with young files -/

/-- No file at the node or below it is younger. -/
def Expired (now ttl : Nat) (node : Node) : Prop := ∀ time, node.Holds time → time + ttl ≤ now

variable (now entries) (normalizePath : String → String) (routes : List (List TtlVolume))
  (hostPath : String)

def SweepsRightly : Prop :=
  ∀ managed ∈ collectTtlManagedPaths normalizePath routes, managed.1 = hostPath →
    ∀ ttl, (declaredTtls normalizePath routes.flatten hostPath).min? = some ttl → ∀ answers,
      let removed := sweepTtlManagedPath answers now managed entries
      (∀ entry ∈ removed, Expired now ttl entry.2) ∧
      ∀ name modified, (name, .file modified) ∈ entries → modified + ttl ≤ now →
        answers.Serves entries name → (name, .file modified) ∈ removed

/-- The sweep is right where no directory among the entries is old and has a younger file in it. -/
theorem sweepsRightly_iff :
    SweepsRightly now entries normalizePath routes hostPath ↔
      ∀ ttl, (declaredTtls normalizePath routes.flatten hostPath).min? = some ttl →
        ∀ name modified inner, (name, .directory modified inner) ∈ entries →
          modified + ttl ≤ now → Expired now ttl (.directory modified inner) := by
  constructor
  · intro rightly ttl least name modified inner listed old
    have swept : (hostPath, ttl) ∈ collectTtlManagedPaths normalizePath routes :=
      (mem_collectTtlManagedPaths normalizePath).mpr least
    refine (rightly _ swept rfl ttl least ⟨none, fun _ => none, fun _ => none⟩).1 (name, _) ?_
    exact mem_sweepEntries ⟨rfl, fun _ _ => ⟨rfl, nofun⟩, rfl⟩ listed old
  · rintro aged ⟨_, _⟩ swept rfl _ least _
    cases ((mem_collectTtlManagedPaths normalizePath).mp swept).symm.trans least
    refine ⟨fun entry removed => ?_, fun name modified listed old serves => ?_⟩
    · unfold sweepTtlManagedPath at removed
      split at removed
      · cases removed
      obtain ⟨listed, old⟩ := of_mem_sweepEntries removed
      match entry with
      | (name, .directory modified inner) => exact aged _ least name modified inner listed old
      | (name, .file modified) =>
        rintro _ ⟨⟩
        exact old
    · simp only [sweepTtlManagedPath, serves.readDir]
      exact mem_sweepEntries serves listed old

/-- The file in an old directory has just been written. -/
theorem young_log_is_removed :
    ¬SweepsRightly 60000000000 [("logs", .directory 0 [("app.log", .file 60000000000)])]
      id [[⟨"/data", some 60⟩]] "/data" := by
  rw [sweepsRightly_iff]
  intro aged
  have old := aged 60000000000 rfl "logs" 0 _ mem_cons_self le_rfl 60000000000
    (.entry mem_cons_self .file)
  contradiction

end TachyonMesh.Volumes.Expiry
