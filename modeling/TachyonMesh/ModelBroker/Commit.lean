import TachyonMesh.Foundation.Script
import TachyonMesh.ModelBroker.Upload

/-! # The commit of an upload

`commitUpload` as a script of its file operations. A crash drops the script and
leaves the directories as they are; nothing else survives, so a later attempt has
to find out from the names of the directories and from the sidecar of the live one
how far an earlier attempt came (`reconcileInterruptedCommit`).

The commit lock of the alias decides whether a commit may proceed and is not part
of the directories here. The verdict of the registry on a publication and the order
in which a directory's files are removed are choices of the environment.
-/

namespace TachyonMesh.ModelBroker
open Foundation
variable {β : Type}

/-! ## Directories -/

def discardedBackupPrefix : String := ".discarded-"

/-- The folders of an alias. -/
inductive Place where
  | live
  | incoming (uploadId : String)
  | replaced (uploadId : String)
  | discarded (uploadId : String)
deriving DecidableEq

def Place.name (broker : Broker β) : Place → String
  | .live => broker.aliasName
  | .incoming uploadId => ".incoming-" ++ uploadId
  | .replaced uploadId => ".replaced-" ++ uploadId
  | .discarded uploadId => discardedBackupPrefix ++ uploadId

def Place.display (broker : Broker β) (place : Place) : String := "models/" ++ place.name broker

/-- How a commit ended. A refusal is the registry's, a rejection is about the archive,
a failure is any other error. -/
inductive Outcome where
  | installed (modelPath : String)
  | refused (error : String)
  | rejected (error : String)
  | failed (error : String)

/-- The models and uploads directories, and what has been observed of commits. -/
structure World (broker : Broker β) where
  folders : Folders β
  uploads : String → Upload β broker.aliasName
  /-- The upload whose commit began last. -/
  current : Option String
  /-- What the last commit returned, once it has. -/
  returned : Option (String × Outcome)
  /-- The live directory as the first commit of an upload found it. -/
  found : String → Option (Option (Folder β))
  /-- The uploads whose publication was accepted, the last one first. -/
  accepted : List String

def World.at {broker : Broker β} (world : World broker) (place : Place) : Option (Folder β) :=
  world.folders.find (place.name broker)

/-- What the environment decides about a step. -/
inductive Choice where
  | proceed
  /-- The next file of a directory that is being removed. -/
  | unlink (file : String)
  /-- The commit lock is not to be had. -/
  | busy (error : String)
  /-- The registry refuses the publication. -/
  | refuse (error : String)

abbrev Commit (broker : Broker β) (α : Type) := Script (World broker) Choice α

/-! ## File operations -/

section
variable {broker : Broker β} {α : Type}

/-- A step that the environment has no say in. -/
def perform (change : World broker → World broker) (answer : World broker → α) :
    Commit broker α :=
  Script.act
    (fun world choice =>
      match choice with
      | .proceed => some (change world)
      | _ => none)
    fun world _ => answer world

def inspect (read : World broker → α) : Commit broker α := perform id read

def World.onFolders (world : World broker) (operation : Folders β → Option (Folders β)) :
    World broker :=
  { world with folders := (operation world.folders).getD world.folders }

def onFolders (operation : Folders β → Option (Folders β)) : Commit broker Bool :=
  perform (·.onFolders operation) fun world => (operation world.folders).isSome

def rename (source target : Place) : Commit broker Bool :=
  onFolders fun folders => folders.move (source.name broker) (target.name broker)

def createDirAll (place : Place) : Commit broker Bool :=
  onFolders fun folders =>
    match folders.find (place.name broker) with
    | some _ => some folders
    | none => some (folders.insert (place.name broker) .empty)

def writeFile (place : Place) (file : String) (content : β) : Commit broker Bool :=
  onFolders fun folders => folders.write (place.name broker) file content

/-- Remove files of a directory in some order, then the directory. -/
def removeEntries (name : String) : (files : Nat) → Commit broker Unit
  | 0 => perform (·.onFolders fun folders => some (folders.erase name)) fun _ => ()
  | files + 1 => do
      Script.act
        (fun world choice =>
          match choice with
          | .unlink file =>
              (world.folders.unlink name file).map fun folders => { world with folders }
          | _ => none)
        fun _ _ => ()
      removeEntries name files

/-- `remove_dir_all`, whose errors the broker ignores. -/
def removeDirAll (name : String) : Commit broker Unit := do
  match ← inspect fun world => world.folders.find name with
  | none => pure ()
  | some folder => removeEntries name folder.entries.length

def removeStaged (uploadId : String)
    (change : Upload β broker.aliasName → Upload β broker.aliasName) : Commit broker Unit :=
  perform (fun world => { world with
    uploads :=
      Function.update world.uploads uploadId (change (world.uploads uploadId)) }) fun _ => ()

/-- Remove the archive and the metadata of an upload. -/
def cleanupStaging (uploadId : String) : Commit broker Unit := do
  removeStaged uploadId fun upload => { upload with archive := none }
  removeStaged uploadId fun upload =>
    { upload with pending := none, named := fun _ found => by cases found }

def finish (uploadId : String) (outcome : Outcome) : Commit broker Unit :=
  perform (fun world => { world with returned := some (uploadId, outcome) }) fun _ => ()

def acquireAliasCommitLock : Commit broker (Except String Unit) :=
  Script.act
    (fun world choice =>
      match choice with
      | .proceed | .busy _ => some world
      | _ => none)
    fun _ choice =>
      match choice with
      | .busy error => .error error
      | _ => .ok ()

def publishArtifactUploaded (uploadId : String) : Commit broker (Except String Unit) :=
  Script.act
    (fun world choice =>
      match choice with
      | .proceed => some { world with accepted := uploadId :: world.accepted }
      | .refuse _ => some world
      | _ => none)
    fun _ choice =>
      match choice with
      | .refuse error => .error ("failed to publish artifact upload event: " ++ error)
      | _ => .ok ()

end

/-! ## The commit -/

variable (broker : Broker β)

def reclaimDiscardedBackups : Commit broker Unit := do
  let names ← inspect fun world => world.folders.entries.map Prod.fst
  (names.filter fun name => discardedBackupPrefix.toList.isPrefixOf name.toList).forM removeDirAll

variable (uploadId : String)

/-- Put the live path back the way a crashed attempt found it. -/
def reconcileInterruptedCommit : Commit broker (Except String Unit) := do
  let parked ← inspect fun world => world.at (.replaced uploadId)
  if parked.isNone then pure (.ok ())
  else
    match ← inspect fun world => world.at .live with
    | some live =>
        if installedUploadId broker live ≠ some uploadId then
          pure (.error ("model upload `" ++ uploadId ++ "` cannot commit: an earlier attempt's " ++
            "checkpoint is parked at `" ++ (Place.replaced uploadId).display broker ++
            "` while `" ++ Place.live.display broker ++ "` is owned by another upload; restore " ++
            "or remove the parked directory before retrying"))
        else do
          removeDirAll (Place.live.name broker)
          restore
    | none => restore
where
  restore : Commit broker (Except String Unit) := do
    if ← rename (.replaced uploadId) .live then
      removeDirAll ((Place.replaced uploadId).name broker)
      pure (.ok ())
    else
      pure (.error ("failed to restore the checkpoint an interrupted upload left in `" ++
        (Place.replaced uploadId).display broker ++ "`"))

/-- Unpack the entries one by one. -/
def unpackInto (uploadId : String) (made : Extracted) :
    Archive β → Commit broker (Except String Extracted)
  | [] => pure (.ok made)
  | entry :: rest =>
      match extractEntry made entry with
      | .error error => pure (.error error)
      | .ok (made, none) => unpackInto uploadId made rest
      | .ok (made, some (path, content)) => do
          if ← writeFile (.incoming uploadId) path content then unpackInto uploadId made rest
          else pure (.error "failed to create extracted file")

/-- Unpack an upload beside the live directory, check it and stamp it. -/
def stageIncoming (pending : PendingUpload) : Commit broker (Except String Unit) := do
  let _ ← createDirAll (.incoming uploadId)
  match ← inspect fun world => (world.uploads uploadId).archive with
  | none => pure (.error "failed to open uploaded archive")
  | some archive =>
      match ← unpackInto broker uploadId .empty archive with
      | .error error => pure (.error error)
      | .ok made => do
          let folder ← inspect fun world => (world.at (.incoming uploadId)).getD .empty
          match validateExtractedFileManifest broker folder pending.files with
          | .error error => pure (.error error)
          | .ok () =>
              if made.directories.contains [modelMetaJson] then
                pure (.error "failed to write model metadata sidecar")
              else if ← writeFile (.incoming uploadId) modelMetaJson
                  (metaSidecar broker folder uploadId) then pure (.ok ())
              else pure (.error "failed to write model metadata sidecar")

/-- Drop what was unpacked and give up. -/
def abandon (outcome : Outcome) : Commit broker Unit := do
  removeDirAll ((Place.incoming uploadId).name broker)
  cleanupStaging uploadId
  finish uploadId outcome

variable (replaced : Bool)

/-- Put the previous checkpoint back, if there was one. -/
def putBack : Commit broker Unit :=
  if replaced then do
    let _ ← rename (.replaced uploadId) .live
    pure ()
  else pure ()

/-- The registry refused: unwind only what is still this upload's. -/
def rollBack (error : String) : Commit broker Unit := do
  let installed ← inspect fun world => (world.at .live).bind (installedUploadId broker)
  if installed = some uploadId then
    removeDirAll (Place.live.name broker)
    putBack broker uploadId replaced
    cleanupStaging uploadId
    finish uploadId (.refused error)
  else
    cleanupStaging uploadId
    finish uploadId (.refused (if replaced then
        error ++ " (a concurrent upload now owns `" ++ Place.live.display broker ++
        "`; this upload's previous checkpoint was left at `" ++
        (Place.replaced uploadId).display broker ++ "` rather than restored over it)"
      else error))

/-- Give the backup a name that records the acceptance, then remove it. -/
def discardBackup : Commit broker Unit :=
  if replaced then do
    if ← rename (.replaced uploadId) (.discarded uploadId) then
      removeDirAll ((Place.discarded uploadId).name broker)
    else removeDirAll ((Place.replaced uploadId).name broker)
  else pure ()

/-- The registry accepted. -/
def settle : Commit broker Unit := do
  discardBackup broker uploadId replaced
  cleanupStaging uploadId
  finish uploadId (.installed (Place.live.display broker))

def installIncoming : Commit broker Unit := do
  if ← rename (.incoming uploadId) .live then
    match ← publishArtifactUploaded uploadId with
    | .error error => rollBack broker uploadId replaced error
    | .ok () => settle broker uploadId replaced
  else
    putBack broker uploadId replaced
    abandon broker uploadId (.failed ("failed to install the uploaded model at `" ++
      Place.live.display broker ++ "`"))

/-- Move the previous checkpoint aside and install the new one. -/
def replaceLive : Commit broker Unit := do
  let replaced ← inspect fun world => (world.at .live).isSome
  if replaced then
    if ← rename .live (.replaced uploadId) then installIncoming broker uploadId true
    else
      abandon broker uploadId (.failed ("failed to set aside the existing model `" ++
        Place.live.display broker ++ "`"))
  else installIncoming broker uploadId false

def commitLocked (pending : PendingUpload) : Commit broker Unit := do
  match ← reconcileInterruptedCommit broker uploadId with
  | .error error => finish uploadId (.failed error)
  | .ok () =>
      match ← stageIncoming broker uploadId pending with
      | .error error => abandon broker uploadId (.rejected error)
      | .ok () => replaceLive broker uploadId

def commitUpload : Commit broker Unit := do
  reclaimDiscardedBackups broker
  match ← inspect fun world => (world.uploads uploadId).pending with
  | none => finish uploadId (.failed ("unknown model upload `" ++ uploadId ++ "`"))
  | some pending =>
      if pending.bytesReceived = 0 ∨ pending.bytesReceived > pending.sizeBytes then
        finish uploadId (.failed ("model upload `" ++ uploadId ++ "` received " ++
          toString pending.bytesReceived ++ " bytes, declared limit " ++
          toString pending.sizeBytes))
      else do
        if ← inspect fun world => (world.uploads uploadId).archive.isNone then
          finish uploadId (.failed ("model upload `" ++ uploadId ++ "` staging archive is missing"))
        else
          removeDirAll ((Place.incoming uploadId).name broker)
          match ← acquireAliasCommitLock with
          | .error error => finish uploadId (.failed error)
          | .ok () => commitLocked broker uploadId pending

def enter (world : World broker) : World broker :=
  { world with
    current := some uploadId
    returned := none
    found :=
      if (world.found uploadId).isSome then world.found
      else Function.update world.found uploadId (some (world.at .live)) }

def commitMachine : Machine (Interrupted (World broker) Choice Unit) (CrashEvent String Choice) :=
  crashMachine (enter broker) (commitUpload broker)

end TachyonMesh.ModelBroker
