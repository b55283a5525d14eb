import TachyonMesh.Dispatch.Routes
import TachyonMesh.Foundation.Dictionary
import TachyonMesh.Foundation.Machine

/-! # Storage identities of volumes

A volume is named by the path of its route and the path at which the guest sees it.
Hibernation keeps its snapshot in the core store under `managed_volume_id`, and backups
keep their objects in a bucket under `snapshot_s3_prefix`. Both are made of the two paths
by dropping outer slashes and replacing separators by underscores.

`Confusable` says which volumes these replacements make one.
-/

namespace TachyonMesh.Volumes
open Foundation Dispatch List Dictionary

/-- A volume by its route and mount point. -/
structure VolumePath where
  routePath : String
  guestPath : String
deriving DecidableEq

/-! ## Accepted paths -/

/-- The checks that `validate_integrity_route` makes of the path. -/
def validateRoutePath (path : String) : Except String String :=
  let normalized := normalizeRoutePath path
  if normalized = "/" || (resolveFunctionName normalized).isNone then
    .error ("Integrity Validation Failed: route `" ++ normalized ++
      "` does not resolve to a guest function")
  else .ok normalized

def normalizeGuestVolumePath (path : String) : Except String String :=
  let trimmed := trim path
  if trimmed = "" then
    .error "Integrity Validation Failed: route volumes must include a non-empty `guest_path`"
  else if !startsWith trimmed "/" then
    .error ("Integrity Validation Failed: guest volume paths must be absolute, " ++
      "for example `/app/data`")
  else if '\\' ∈ trimmed.toList then
    .error "Integrity Validation Failed: guest volume paths must use `/` separators"
  else
    let stripped := trimEndMatches '/' trimmed
    let normalized := if stripped = "" then "/" else stripped
    if normalized = "/" then
      .error "Integrity Validation Failed: guest volume path `/` is not allowed"
    else if ((split '/' normalized).drop 1).any
        fun segment => segment = "" || segment = "." || segment = ".." then
      .error ("Integrity Validation Failed: guest volume paths cannot contain empty, `.` or " ++
        "`..` segments")
    else .ok normalized

/-- Both paths are results of validation. -/
def VolumePath.Accepted (volume : VolumePath) : Prop :=
  (∃ path, validateRoutePath path = .ok volume.routePath) ∧
    ∃ path, normalizeGuestVolumePath path = .ok volume.guestPath

/-! ## Identities -/

/-- `trim_matches('/')`. -/
def trimSlashes (path : String) : List Char :=
  ((path.toList.dropWhile (· == '/')).reverse.dropWhile (· == '/')).reverse

/-- `replace(separators, "_")`. -/
def underscored (separators text : List Char) : List Char :=
  text.map fun c => if c ∈ separators then '_' else c

def managedVolumeKey (volume : VolumePath) : String := volume.routePath ++ ":" ++ volume.guestPath

def managedVolumeId (volume : VolumePath) : String :=
  String.ofList (underscored ['/'] (trimSlashes volume.routePath)) ++ ":" ++
    String.ofList (underscored ['/'] (trimSlashes volume.guestPath))

def normalizePathSegment (segment : String) : String :=
  String.ofList (underscored ['/', '\\'] (trimSlashes segment))

section
variable (root : String) (volume : VolumePath)

/-- The place of a volume's backups; `root` is `backup_prefix()`. -/
def volumePrefix : String :=
  root ++ "/" ++ normalizePathSegment volume.routePath ++ "/" ++
    normalizePathSegment volume.guestPath

def snapshotS3Prefix (timestampMs : Nat) : String :=
  volumePrefix root volume ++ "/" ++ toString timestampMs

/-- The key under which `upload_dir` puts a file. -/
def objectKey (timestampMs : Nat) (relative : String) : String :=
  snapshotS3Prefix root volume timestampMs ++ "/" ++ relative

def snapshotId (timestampMs : Nat) : String :=
  normalizePathSegment volume.routePath ++ "/" ++ normalizePathSegment volume.guestPath ++ "/" ++
    toString timestampMs

end

/-- A key is listed under a place; the store compares whole segments. -/
def Under (place key : String) : Prop := startsWith key (place ++ "/")
deriving Decidable

variable {key place : String} {separators : List Char} {c : Char} {first second : VolumePath}
  {timestampMs : Nat}

private theorem under_iff : Under place key ↔ ∃ rest, key.toList = place.toList ++ '/' :: rest := by
  unfold Under startsWith
  rw [List.isPrefixOf_iff_prefix, String.toList_append]
  constructor
  · rintro ⟨rest, same⟩
    exact ⟨rest, by rw [← same]; simp⟩
  · rintro ⟨rest, same⟩
    exact ⟨rest, by rw [same]; simp⟩

/-! ## Look-alikes -/

/-- Texts of one length that differ at most in which of the separators they have. -/
def Alike (separators : List Char) : List Char → List Char → Prop
  | [], [] => True
  | c :: first, d :: second =>
      (c = d ∨ c ∈ separators ∧ d ∈ separators) ∧ Alike separators first second
  | _, _ => False

private theorem underscore_eq_iff {d : Char} :
    (if c ∈ separators then '_' else c) = (if d ∈ separators then '_' else d) ↔
      c = d ∨ c ∈ '_' :: separators ∧ d ∈ '_' :: separators := by
  by_cases left : c ∈ separators
  · by_cases right : d ∈ separators
    · simp [left, right]
    · rw [if_pos left, if_neg right]
      grind
  by_cases right : d ∈ separators
  · rw [if_neg left, if_pos right]
    grind
  · rw [if_neg left, if_neg right]
    grind

private theorem underscored_eq_iff {first second : List Char} :
    underscored separators first = underscored separators second ↔
      Alike ('_' :: separators) first second := by
  induction first generalizing second with
  | nil => cases second <;> simp [underscored, Alike]
  | cons c first ih =>
    cases second with
    | nil => simp [underscored, Alike]
    | cons _ second =>
      have rest : first.map (fun c => if c ∈ separators then '_' else c) =
          second.map (fun c => if c ∈ separators then '_' else c) ↔
            Alike ('_' :: separators) first second := ih
      rw [underscored, underscored, map_cons, map_cons, cons.injEq, rest, underscore_eq_iff]
      rfl

private theorem not_mem_underscored {text : List Char} (separates : c ∈ separators)
    (other : c ≠ '_') : c ∉ underscored separators text := by
  intro member
  obtain ⟨d, -, same⟩ := mem_map.mp member
  split at same
  · exact other same.symm
  · next absent => exact absent (same ▸ separates)

/-- Volumes whose snapshots hibernation keeps under one name: with outer slashes dropped and
joined by a colon, their paths differ at most in slashes and underscores. -/
def SnapshotsMeet (first second : VolumePath) : Prop :=
  Alike ['_', '/'] (trimSlashes first.routePath ++ ':' :: trimSlashes first.guestPath)
    (trimSlashes second.routePath ++ ':' :: trimSlashes second.guestPath)

/-- Volumes whose backups lie in one place: with outer slashes dropped, their paths differ at
most in slashes, backslashes and underscores. -/
def BackupsMeet (first second : VolumePath) : Prop :=
  Alike ['_', '/', '\\'] (trimSlashes first.routePath) (trimSlashes second.routePath) ∧
    Alike ['_', '/', '\\'] (trimSlashes first.guestPath) (trimSlashes second.guestPath)

def Confusable (first second : VolumePath) : Prop :=
  SnapshotsMeet first second ∨ BackupsMeet first second

private theorem managedVolumeId_eq_iff :
    managedVolumeId first = managedVolumeId second ↔ SnapshotsMeet first second := by
  have joined (volume : VolumePath) : (managedVolumeId volume).toList = underscored ['/']
      (trimSlashes volume.routePath ++ ':' :: trimSlashes volume.guestPath) := by
    simp [managedVolumeId, underscored]
  rw [← String.toList_inj, joined, joined, underscored_eq_iff]
  rfl

private theorem slash_not_mem_segment (path : String) :
    '/' ∉ (normalizePathSegment path).toList := by
  rw [normalizePathSegment, String.toList_ofList]
  exact not_mem_underscored (by decide) (by decide)

private theorem normalizePathSegment_eq_iff {first second : String} :
    normalizePathSegment first = normalizePathSegment second ↔
      Alike ['_', '/', '\\'] (trimSlashes first) (trimSlashes second) := by
  rw [normalizePathSegment, normalizePathSegment, String.ofList_inj]
  exact underscored_eq_iff

private theorem under_volumePrefix_iff {root relative : String} :
    Under (volumePrefix root second) (objectKey root first timestampMs relative) ↔
      BackupsMeet first second := by
  have key : (objectKey root first timestampMs relative).toList = root.toList ++ '/' ::
      ((normalizePathSegment first.routePath).toList ++ '/' ::
        ((normalizePathSegment first.guestPath).toList ++ '/' ::
          ((toString timestampMs).toList ++ '/' :: relative.toList))) := by
    simp [objectKey, snapshotS3Prefix, volumePrefix]
  have place (rest : List Char) : (volumePrefix root second).toList ++ '/' :: rest =
      root.toList ++ '/' :: ((normalizePathSegment second.routePath).toList ++ '/' ::
        ((normalizePathSegment second.guestPath).toList ++ '/' :: rest)) := by
    simp [volumePrefix]
  rw [under_iff, key, BackupsMeet, ← normalizePathSegment_eq_iff, ← normalizePathSegment_eq_iff]
  constructor
  · rintro ⟨_, same⟩
    rw [place] at same
    have after := (cons.inj (append_cancel_left same)).2
    obtain ⟨routes, after⟩ := append_cons_inj_of_first (slash_not_mem_segment _)
      (slash_not_mem_segment _) after
    obtain ⟨guests, -⟩ := append_cons_inj_of_first (slash_not_mem_segment _)
      (slash_not_mem_segment _) after
    exact ⟨String.toList_inj.mp routes, String.toList_inj.mp guests⟩
  · rintro ⟨routes, guests⟩
    refine ⟨(toString timestampMs).toList ++ '/' :: relative.toList, ?_⟩
    rw [place, routes, guests]

/-! ## What the stores hold -/

/-- Data in a store, with the volume that it was taken from. -/
structure Stored (α : Type*) where
  owner : VolumePath
  content : α

/-- An operation on a volume read data of an owner. -/
structure Use where
  volume : VolumePath
  owner : VolumePath

/-- The hibernation bucket of the core store and the backup bucket. -/
structure Storage (α β : Type*) where
  hibernated : Dictionary String (Stored α)
  objects : Dictionary String (Stored β)
  uses : List Use

/-- A snapshot and where it was taken. -/
structure BackupSnapshot where
  snapshotId : String
  volume : VolumePath
  timestampMs : Nat
  objectCount : Nat

namespace Storage
variable {α β : Type*} (root : String) (storage : Storage α β) (volume : VolumePath)

def empty : Storage α β := { hibernated := .empty, objects := .empty, uses := [] }

/-- `store.list(Some(place))`. -/
def list (place : String) : List (String × Stored β) :=
  storage.objects.entries.filter fun entry => Under place entry.1

def used (entries : List (String × Stored β)) : List Use :=
  entries.map fun entry => { volume, owner := entry.2.owner }

/-- `snapshot_directory`, under the volume's id. -/
def snapshotDirectory (content : α) : Storage α β :=
  { storage with
    hibernated := storage.hibernated.insert (managedVolumeId volume) { owner := volume, content } }

/-- `restore_directory`, under the volume's id. -/
def restoreDirectory : Option α × Storage α β :=
  match storage.hibernated.find (managedVolumeId volume) with
  | none => (none, storage)
  | some stored => (some stored.content,
      { storage with
        hibernated := storage.hibernated.erase (managedVolumeId volume)
        uses := storage.uses ++ [{ volume, owner := stored.owner }] })

/-- The files with their paths in the directory. -/
def backupVolume (timestampMs : Nat) (files : List (String × β)) : Storage α β :=
  { storage with
    objects := files.foldl (fun objects file =>
      objects.insert (objectKey root volume timestampMs file.1)
        { owner := volume, content := file.2 }) storage.objects }

/-- The timestamp that a key has after the volume's place. -/
def timestampOf (key : String) : Option Nat :=
  let start := (volumePrefix root volume ++ "/").toList
  let afterVolume := if start.isPrefixOf key.toList then key.toList.drop start.length else []
  (split '/' (String.ofList afterVolume)).head?.bind parseU64

/-- `list_volume_backups`, newest first. -/
def listVolumeBackups : List BackupSnapshot :=
  let timestamps := ((storage.list (volumePrefix root volume)).filterMap fun entry =>
    timestampOf root volume entry.1).dedup
  (timestamps.insertionSort (· ≥ ·)).map fun timestampMs =>
    { snapshotId := snapshotId volume timestampMs
      volume
      timestampMs
      objectCount :=
        (storage.list (volumePrefix root volume ++ "/" ++ toString timestampMs)).length }

def restoreVolume (snapshotId : String) : List (String × Stored β) :=
  storage.list (root ++ "/" ++ snapshotId)

end Storage

/-- Operations on the volumes of a node. A restore names a backup by its place in the list. -/
inductive StorageEvent (α β : Type*) where
  | hibernate (volume : VolumePath) (content : α)
  | wake (volume : VolumePath)
  | backup (volume : VolumePath) (timestampMs : Nat) (files : List (String × β))
  | list (volume : VolumePath)
  | restore (volume : VolumePath) (index : Nat)

def StorageEvent.volume {α β : Type*} : StorageEvent α β → VolumePath
  | .hibernate volume _ | .wake volume | .backup volume _ _ | .list volume | .restore volume _ =>
      volume

def storageMachine {α β : Type*} (root : String) : Machine (Storage α β) (StorageEvent α β) where
  step storage
    | .hibernate volume content => some (storage.snapshotDirectory volume content)
    | .wake volume => some (storage.restoreDirectory volume).2
    | .backup volume timestampMs files => some (storage.backupVolume root volume timestampMs files)
    | .list volume =>
        some { storage with
          uses := storage.uses ++ Storage.used volume (storage.list (volumePrefix root volume)) }
    | .restore volume index =>
        (storage.listVolumeBackups root volume)[index]?.map fun snapshot =>
          { storage with
            uses := storage.uses ++
              Storage.used volume (storage.restoreVolume root snapshot.snapshotId) }

/-! ## Runs -/

/-- No two of the volumes share a snapshot id or the place of a backup. -/
def Separated (first second : VolumePath) : Prop :=
  managedVolumeId first ≠ managedVolumeId second ∧
    ∀ root timestampMs relative,
      ¬Under (volumePrefix root second) (objectKey root first timestampMs relative)

private theorem separated_iff : Separated first second ↔ ¬Confusable first second := by
  unfold Separated Confusable
  rw [not_or, ← managedVolumeId_eq_iff]
  simp [under_volumePrefix_iff]

variable {α β : Type*} {root : String} {volumes : List VolumePath}

/-- Everything lies under a name of its owner, and was read for its owner only. -/
structure Storage.Filed (root : String) (volumes : List VolumePath) (storage : Storage α β) :
    Prop where
  hibernated : ∀ key stored, storage.hibernated.find key = some stored →
    stored.owner ∈ volumes ∧ key = managedVolumeId stored.owner
  objects : ∀ key stored, storage.objects.find key = some stored →
    stored.owner ∈ volumes ∧ ∃ timestampMs relative,
      key = objectKey root stored.owner timestampMs relative
  uses : ∀ use ∈ storage.uses, use.owner = use.volume

namespace Storage
variable {storage : Storage α β} {volume : VolumePath}
  (separate : ∀ first ∈ volumes, ∀ second ∈ volumes, first ≠ second → Separated first second)
  (filed : storage.Filed root volumes) (member : volume ∈ volumes)

private theorem filed_empty : (empty : Storage α β).Filed root volumes where
  hibernated := nofun
  objects := nofun
  uses := nofun

include filed

include member in
private theorem Filed.snapshotDirectory (content : α) :
    (storage.snapshotDirectory volume content).Filed root volumes where
  __ := filed
  hibernated key stored found := by
    rw [Storage.snapshotDirectory, find_insert] at found
    split at found
    · next same =>
      cases found
      exact ⟨member, same⟩
    · exact filed.hibernated key stored found

include separate member in
private theorem Filed.restoreDirectory :
    (storage.restoreDirectory volume).2.Filed root volumes := by
  unfold Storage.restoreDirectory
  split
  · exact filed
  · next _ found =>
    obtain ⟨owned, named⟩ := filed.hibernated _ _ found
    refine
      { hibernated := fun key other found => ?_
        objects := filed.objects
        uses := fun use used => ?_ }
    · rw [find_erase] at found
      split at found
      · cases found
      · exact filed.hibernated key other found
    obtain used | used := mem_append.mp used
    · exact filed.uses use used
    · cases mem_singleton.mp used
      by_contra apart
      exact (separate _ owned _ member apart).1 named.symm

include member in
private theorem Filed.backupVolume (timestampMs : Nat) (files : List (String × β)) :
    (storage.backupVolume root volume timestampMs files).Filed root volumes := by
  -- Every file adds one object, under a key of the volume.
  induction files generalizing storage with
  | nil => exact filed
  | cons file _ ih =>
    let uploaded : Storage α β :=
      { storage with
        objects := storage.objects.insert (objectKey root volume timestampMs file.1)
          { owner := volume, content := file.2 } }
    have one : uploaded.Filed root volumes :=
      { hibernated := filed.hibernated
        uses := filed.uses
        objects := fun key stored found => by
          rw [find_insert] at found
          split at found
          · next same =>
            cases found
            exact ⟨member, timestampMs, file.1, same⟩
          · exact filed.objects key stored found }
    exact ih one

include separate member in
/-- What is listed at a place of the volume is its own. -/
theorem Filed.list (within : ∀ key, Under place key → Under (volumePrefix root volume) key) :
    Filed root volumes
      { storage with uses := storage.uses ++ used volume (storage.list place) } where
  __ := filed
  uses use read := by
    obtain read | read := mem_append.mp read
    · exact filed.uses use read
    obtain ⟨entry, listed, rfl⟩ := mem_map.mp read
    obtain ⟨present, under⟩ := mem_filter.mp listed
    obtain ⟨owned, timestampMs, relative, named⟩ :=
      filed.objects entry.1 entry.2 (find_eq_some.mpr present)
    by_contra apart
    exact (separate _ owned _ member apart).2 root timestampMs relative
      (named ▸ within entry.1 (of_decide_eq_true under))

end Storage

private theorem under_of_under_snapshot {volume : VolumePath}
    (under : Under (root ++ "/" ++ snapshotId volume timestampMs) key) :
    Under (volumePrefix root volume) key := by
  obtain ⟨rest, same⟩ := under_iff.mp under
  refine under_iff.mpr ⟨(toString timestampMs).toList ++ '/' :: rest, ?_⟩
  rw [same]
  simp [snapshotId, volumePrefix]

private theorem filed_of_step
    (separate : ∀ first ∈ volumes, ∀ second ∈ volumes, first ≠ second → Separated first second)
    {storage next : Storage α β} {event : StorageEvent α β} (filed : storage.Filed root volumes)
    (member : event.volume ∈ volumes)
    (stepped : (storageMachine root).step storage event = some next) : next.Filed root volumes := by
  cases event with
  | hibernate _ content =>
    cases stepped
    exact filed.snapshotDirectory member content
  | wake =>
    cases stepped
    exact filed.restoreDirectory separate member
  | backup _ timestampMs files =>
    cases stepped
    exact filed.backupVolume member timestampMs files
  | list =>
    cases stepped
    exact filed.list separate member fun _ under => under
  | restore =>
    obtain ⟨_, listed, rfl⟩ := Option.map_eq_some_iff.mp stepped
    obtain ⟨_, -, rfl⟩ := mem_map.mp (mem_of_getElem? listed)
    exact filed.list separate member fun _ under => under_of_under_snapshot under

/-- Every operation on one of the volumes reads the volume's own data. -/
def OwnData (α β : Type*) (volumes : List VolumePath) : Prop :=
  ∀ (root : String) (events : List (StorageEvent α β)) (storage : Storage α β),
    (∀ event ∈ events, event.volume ∈ volumes) →
    (storageMachine root).run .empty events = some storage →
    ∀ use ∈ storage.uses, use.owner = use.volume

private theorem ownData_of_separated
    (separate : ∀ first ∈ volumes, ∀ second ∈ volumes, first ≠ second → Separated first second) :
    OwnData α β volumes := by
  intro root events storage members reached
  have filed : storage.Filed root volumes := Machine.invariant_run
    (filed_of_step separate) Storage.filed_empty (Machine.along_of_forall _ members) reached
  exact filed.uses

/-- The volumes of a node have separate ids and places, and never get at each other's
snapshots and backups, exactly when no two of them are confusable. -/
theorem storage_identities_iff (α β : Type*) (volumes : List VolumePath) :
    ((∀ first ∈ volumes, ∀ second ∈ volumes, first ≠ second → Separated first second) ∧
        OwnData α β volumes) ↔
      ∀ first ∈ volumes, ∀ second ∈ volumes, first ≠ second → ¬Confusable first second := by
  constructor
  · intro kept first member second memberToo apart
    exact separated_iff.mp (kept.1 first member second memberToo apart)
  · intro distinguishable
    have separate : ∀ first ∈ volumes, ∀ second ∈ volumes, first ≠ second →
        Separated first second := fun first member second memberToo apart =>
      separated_iff.mpr (distinguishable first member second memberToo apart)
    exact ⟨separate, ownData_of_separated separate⟩

/-- An underscore in the path of a route stands for the slash in the path of another. -/
theorem storage_identities_collide :
    ∃ first second : VolumePath, first ≠ second ∧ first.Accepted ∧ second.Accepted ∧
      managedVolumeId first = managedVolumeId second ∧
      Under (volumePrefix "backups" second)
        (objectKey "backups" first 1700000000000 "state.db") := by
  refine ⟨⟨"/api/a/b", "/data"⟩, ⟨"/api/a_b", "/data"⟩, by decide, ⟨⟨"/api/a/b", ?_⟩, "/data", ?_⟩,
    ⟨⟨"/api/a_b", ?_⟩, "/data", ?_⟩, ?_, ?_⟩ <;> decide +kernel

end TachyonMesh.Volumes
