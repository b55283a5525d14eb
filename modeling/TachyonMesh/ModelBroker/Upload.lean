import Mathlib.Data.List.Infix
import TachyonMesh.Foundation.Folders
import TachyonMesh.Foundation.Json
import TachyonMesh.Foundation.Outcome
import TachyonMesh.Foundation.Text

/-! # Uploaded models

An upload is an archive and a manifest of the files it must hold. What a commit
installs is a function of the two: the unpacked files, checked against the manifest,
with a sidecar that names the upload (`Broker.buildModel`). The sidecar is how the
broker recognises a directory as its own later (`installedUploadId_buildModel`).
-/

namespace TachyonMesh.ModelBroker
open Foundation

/-! ## Uploads -/

/-- A file as the client announces it. -/
structure ModelUploadFileManifest where
  path : String
  sizeBytes : Nat
  sha256 : String

/-- An upload under way. -/
structure PendingUpload where
  sizeBytes : Nat
  bytesReceived : Nat
  aliasName : Option String
  files : List ModelUploadFileManifest

/-- Drop a text's leading copies of another. -/
def trimStartMatches (pattern : List Char) : (fuel : Nat) → List Char → List Char
  | 0, text => text
  | fuel + 1, text =>
      if pattern.isPrefixOf text then trimStartMatches pattern fuel (text.drop pattern.length)
      else text

/-- The alias of an upload that names none is the digest of its first file. -/
def modelAlias (pending : PendingUpload) : String :=
  pending.aliasName.getD
    (match pending.files.head? with
    | some file =>
        String.ofList (trimStartMatches "sha256:".toList file.sha256.length file.sha256.toList)
    | none => "model")

def validateAlias (aliasName : String) : Except String Unit :=
  let characters := aliasName.toList
  if characters.isEmpty || characters.contains '/' || characters.contains '\\'
      || decide (['.', '.'] <:+: characters) || ['.'].isPrefixOf characters then
    .error ("model alias `" ++ aliasName ++ "` must be a non-empty name without path " ++
      "separators, `..`, or a leading dot")
  else .ok ()

/-- A component of a path in an archive. -/
inductive PathComponent where
  | normal (name : String)
  | curDir
  | parentDir
  | rootDir

/-- An entry of an archive. -/
structure ArchiveEntry (β : Type) where
  /-- The path as the archive spells it. -/
  path : String
  components : List PathComponent
  isDir : Bool
  content : β

/-- The entries as they are read; reading may fail at one of them. -/
abbrev Archive (β : Type) := List (Except String (ArchiveEntry β))

/-- What the uploads directory holds of an upload of one alias. -/
structure Upload (β : Type) (aliasName : String) where
  pending : Option PendingUpload
  archive : Option (Archive β)
  named : ∀ found, pending = some found → modelAlias found = aliasName

/-! ## Unpacking -/

def sanitizeComponents (path : String) : List PathComponent → Except String (List String)
  | [] => .ok []
  | .normal name :: rest => do
      let clean ← sanitizeComponents path rest
      pure (name :: clean)
  | .curDir :: rest => sanitizeComponents path rest
  | .parentDir :: _ | .rootDir :: _ =>
      .error ("model archive contains an unsafe path `" ++ path ++ "`")

def sanitizeRelative (path : String) (components : List PathComponent) :
    Except String (List String) := do
  let clean ← sanitizeComponents path components
  if clean.isEmpty then .error "model archive contains an empty path entry" else pure clean

/-- The directories and the files that the entries so far have made. -/
structure Extracted where
  directories : List (List String)
  files : List (List String)

def Extracted.empty : Extracted := ⟨[], []⟩

/-- `create_dir_all`, which fails at a file on the way. -/
def Extracted.createDirAll (made : Extracted) (path : List String) : Option Extracted :=
  if path.inits.any made.files.contains then none
  else some { made with directories := path.inits ++ made.directories }

/-- What the next entry makes, and its file unless it is a directory. -/
def extractEntry {β : Type} (made : Extracted) (entry : Except String (ArchiveEntry β)) :
    Except String (Extracted × Option (String × β)) := do
  let entry ← entry
  let relative ← sanitizeRelative entry.path entry.components
  if entry.isDir then
    let made ← required "failed to create archive directory" (made.createDirAll relative)
    pure (made, none)
  else
    let made ← required "failed to create archive parent" (made.createDirAll relative.dropLast)
    if made.directories.contains relative then .error "failed to create extracted file"
    else pure ({ made with files := relative :: made.files },
      some ("/".intercalate relative, entry.content))

def unpackTargz {β : Type} (made : Extracted) :
    Archive β → Folder β → Except String (Extracted × Folder β)
  | [], folder => .ok (made, folder)
  | entry :: rest, folder =>
      match extractEntry made entry with
      | .error error => .error error
      | .ok (made, none) => unpackTargz made rest folder
      | .ok (made, some (path, content)) => unpackTargz made rest (folder.insert path content)

/-! ## The broker -/

def modelMetaJson : String := ".tachyon-model.json"

/-- What the broker's functions depend on, for one alias. -/
structure Broker (β : Type) where
  codec : JsonCodec β
  size : β → Nat
  /-- The hash of a content, as manifests spell it. -/
  hashFile : β → String
  aliasName : String
  valid : validateAlias aliasName = .ok ()

variable {β : Type} (broker : Broker β) (folder : Folder β)

/-- A file is there, with the size and the hash that the manifest declares. -/
def checkDeclared (path : String) (file : ModelUploadFileManifest) : Except String Unit :=
  match folder.find path with
  | none => .error ("model archive is missing declared file `" ++ path ++ "`")
  | some content =>
      if broker.size content ≠ file.sizeBytes then
        .error ("model file `" ++ path ++ "` size mismatch: expected " ++
          toString file.sizeBytes ++ ", found " ++ toString (broker.size content))
      else if broker.hashFile content ≠ file.sha256 then
        .error ("model file `" ++ path ++ "` hash mismatch: expected `" ++ file.sha256 ++
          "`, computed `" ++ broker.hashFile content ++ "`")
      else .ok ()

def validateExtractedFileManifest (manifest : List ModelUploadFileManifest) : Except String Unit :=
  if manifest.isEmpty then .ok ()
  else do
    let expected : Dictionary String ModelUploadFileManifest :=
      .ofList (manifest.map fun file => (file.path, file))
    folder.entries.forM fun entry =>
      if (expected.find entry.1).isNone then
        .error ("model archive contains unexpected file `" ++ entry.1 ++
          "` not declared in manifest")
      else .ok ()
    expected.entries.forM fun entry => checkDeclared broker folder entry.1 entry.2

/-- The tool call parser that the archive's own sidecar declares. -/
def declaredParser : Option Json :=
  (((folder.find modelMetaJson).bind broker.codec.parse).bind (Json.get "tool_call_parser")).filter
    fun parser => parser.asText.isSome

def metaSidecar (uploadId : String) : β :=
  broker.codec.encode (.ofFields
    ([("alias", .text broker.aliasName), ("upload_id", .text uploadId)] ++
      (declaredParser broker folder).toList.map fun parser => ("tool_call_parser", parser)))

def writeMetaSidecar (uploadId : String) : Folder β :=
  folder.insert modelMetaJson (metaSidecar broker folder uploadId)

/-- The upload that installed a directory, when the directory says. -/
def installedUploadId : Option String :=
  (((folder.find modelMetaJson).bind broker.codec.parse).bind (Json.get "upload_id")).bind
    Json.asText

def Broker.buildModel (uploadId : String)
    (files : List ModelUploadFileManifest) (archive : Archive β) : Except String (Folder β) := do
  let (made, folder) ← unpackTargz .empty archive .empty
  validateExtractedFileManifest broker folder files
  if made.directories.contains [modelMetaJson] then .error "failed to write model metadata sidecar"
  else pure (writeMetaSidecar broker folder uploadId)

/-- The directory that an upload's commit installs, as long as its archive and its
metadata are there. -/
def Broker.contents (uploadId : String) {aliasName : String}
    (upload : Upload β aliasName) : Option (Folder β) := do
  let pending ← upload.pending
  let archive ← upload.archive
  (broker.buildModel uploadId pending.files archive).toOption

/-! ## What the sidecar says -/

variable {broker : Broker β} {folder : Folder β} {uploadId : String}

private theorem asText_declaredParser {parser : Json}
    (declared : declaredParser broker folder = some parser) : ∃ text, parser = .text text := by
  have isText := (Option.filter_eq_some_iff.mp declared).2
  cases parser with
  | text value => exact ⟨value, rfl⟩
  | _ => cases isText

private theorem installedUploadId_writeMetaSidecar (broker : Broker β) (folder : Folder β)
    (uploadId : String) :
    installedUploadId broker (writeMetaSidecar broker folder uploadId) = some uploadId := by
  let fields : List (String × Json) :=
    [("alias", .text broker.aliasName), ("upload_id", .text uploadId)] ++
      (declaredParser broker folder).toList.map fun parser => ("tool_call_parser", parser)
  have texts : ∀ field ∈ fields, ∃ text, field.2 = .text text := by
    intro field listed
    rcases List.mem_append.mp listed with own | carried
    · simp only [List.mem_cons, List.not_mem_nil, or_false] at own
      rcases own with rfl | rfl
      · exact ⟨_, rfl⟩
      · exact ⟨_, rfl⟩
    · obtain ⟨_, declared, rfl⟩ := List.mem_map.mp carried
      exact asText_declaredParser (Option.mem_toList.mp declared)
  have fitting : (Json.ofFields fields).fits broker.codec.exact nestingLimit := by
    apply Json.fits_ofFields
    intro field listed
    obtain ⟨_, isText⟩ := texts field listed
    rw [isText]
    rfl
  have stored : (writeMetaSidecar broker folder uploadId).find modelMetaJson =
      some (broker.codec.encode (.ofFields fields)) := by
    rw [writeMetaSidecar, Dictionary.find_insert, if_pos rfl]
    rfl
  have named : (Json.ofFields fields).get "upload_id" = some (.text uploadId) := by
    rw [Json.get_ofFields]
    cases declared : declaredParser broker folder with
    | none | some => simp [fields, declared, findEntry]
  rw [installedUploadId, stored, Option.bind_some, broker.codec.parse_encode fitting,
    Option.bind_some, named]
  rfl

private theorem installedUploadId_buildModel {files : List ModelUploadFileManifest}
    {archive : Archive β}
    (built : broker.buildModel uploadId files archive = .ok folder) :
    installedUploadId broker folder = some uploadId := by
  obtain ⟨⟨made, extracted⟩, -, built⟩ := bind_eq_ok.mp built
  obtain ⟨_, -, built⟩ := bind_eq_ok.mp built
  split at built
  · cases built
  · cases built
    exact installedUploadId_writeMetaSidecar broker extracted uploadId

theorem installedUploadId_contents {aliasName : String} {upload : Upload β aliasName}
    (holds : broker.contents uploadId upload = some folder) :
    installedUploadId broker folder = some uploadId := by
  obtain ⟨_, _, archived⟩ := Option.bind_eq_some_iff.mp holds
  obtain ⟨_, _, built⟩ := Option.bind_eq_some_iff.mp archived
  exact installedUploadId_buildModel (toOption_eq_some.mp built)

end TachyonMesh.ModelBroker
