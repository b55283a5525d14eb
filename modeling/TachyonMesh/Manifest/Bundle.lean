import TachyonMesh.Foundation.Wire
import TachyonMesh.Manifest.Integrity

/-! # Deployment bundles

`admin_manifest_bundle_handler` takes a configuration from `manifest.yaml`, adds the key
of this node to its trusted signers and the versions of the bundled assets, and writes it
back signed by this node. A later reload trusts the signers of the configuration that is
running then, not those of the manifest it reads, so the added key comes too late: the
manifest loads if and only if the running configuration already trusts this node and
JSON keeps the numbers of the bundle (`bundle_reloads_iff`).
-/

namespace TachyonMesh.Manifest
open Foundation Wire

/-! ## The text of a bundle -/

/-- A dependency that a bundle lists. -/
structure BundleManifestDependency where
  name : String
  version : String
  source : Option String
deriving DecidableEq

/-- The fields of a bundle's manifest. -/
structure BundleManifestFields where
  configPayload : String
  dependencies : List BundleManifestDependency
deriving DecidableEq

/-- `ParseMode`. -/
inductive ParseMode where
  | topLevel
  | configPayload
  | dependencies

/-- The locals of `parse_bundle_manifest_yaml`; lines and entries are newest first. -/
structure BundleParser where
  mode : ParseMode
  configPayloadLines : List (List Char)
  dependencies : List BundleManifestDependency
  currentDep : Option BundleManifestDependency

def stripSuffix (line : List Char) (last : Char) : Option (List Char) :=
  if line.getLast? = some last then some line.dropLast else none

def stripYamlString (value : List Char) : String :=
  let trimmed := trimChars value
  String.ofList (((stripPrefixChars "\"" trimmed).bind (stripSuffix · '"')).getD trimmed)

namespace BundleParser

/-- The dependency that was being read is complete. -/
def flush (parser : BundleParser) : BundleParser :=
  match parser.currentDep with
  | some dep => { parser with dependencies := dep :: parser.dependencies, currentDep := none }
  | none => parser

def topLevel (parser : BundleParser) (line : List Char) : BundleParser :=
  if line.isEmpty || startsWithChars "#" line || startsWithChars "version:" line ||
      startsWithChars "publicKey:" line || startsWithChars "signature:" line then
    parser
  else if startsWithChars "configPayload:" line &&
      (line.reverse.dropWhile isWhitespace).head? = some '|' then
    { parser with mode := .configPayload }
  else if startsWithChars "dependencies:" line then { parser with mode := .dependencies }
  else parser

/-- A line of the dependency that is being read. -/
def dependencyField (dep : BundleManifestDependency) (rest : List Char) :
    BundleManifestDependency :=
  match stripPrefixChars "version:" rest with
  | some value => { dep with version := stripYamlString value }
  | none =>
      match stripPrefixChars "source:" rest with
      | some value =>
          let trimmed := stripYamlString value
          { dep with source := if trimmed = "" then none else some trimmed }
      | none => dep

def line (parser : BundleParser) (line : List Char) : BundleParser :=
  match parser.mode with
  | .topLevel => parser.topLevel line
  | .configPayload =>
      match stripPrefixChars "  " line with
      | some content =>
          { parser with configPayloadLines := content :: parser.configPayloadLines }
      | none => { parser with mode := .topLevel }.topLevel line
  | .dependencies =>
      if line.isEmpty then parser
      else
        match stripPrefixChars "    " line with
        | some rest =>
            { parser with currentDep := parser.currentDep.map (dependencyField · rest) }
        | none =>
            match stripPrefixChars "  " line with
            | some rest =>
                { parser.flush with
                  currentDep := (stripSuffix rest ':').map fun stripped =>
                    { name := String.ofList (trimChars stripped), version := "", source := none } }
            | none => { parser.flush with mode := .topLevel }.topLevel line

end BundleParser

def lines (text : String) : List (List Char) :=
  let pieces := splitChars '\n' text.toList
  let pieces := if pieces.getLast? = some [] then pieces.dropLast else pieces
  pieces.map fun piece => (piece.reverse.dropWhile (· == '\r')).reverse

def parseBundleManifestYaml (yaml : String) : Except String BundleManifestFields :=
  let parser := ((lines yaml).foldl BundleParser.line
    { mode := .topLevel, configPayloadLines := [], dependencies := [], currentDep := none }).flush
  if parser.configPayloadLines.isEmpty then .error "missing configPayload block"
  else
    .ok {
      configPayload := String.ofList (List.intercalate ['\n'] parser.configPayloadLines.reverse)
      dependencies := parser.dependencies.reverse }

/-! ## The endpoint -/

/-- A version the cluster does not have. -/
structure BundleConflict where
  name : String
  bundledVersion : String
  clusterVersion : String
deriving DecidableEq

/-- How the admin endpoints answer an upload that they do not accept. -/
inductive Refusal where
  | status (code : Nat) (message : String)
  | conflicts (entries : List BundleConflict)
deriving DecidableEq

/-- A bundle that has passed every check but the last. -/
structure PreparedBundle (ν ρ : Type) where
  signedPayload : String
  config : IntegrityConfig ν ρ

/-- A manifest that is ready to be written. -/
structure SealedManifest where
  bytes : String
  configVersion : Nat

namespace Host
variable {ν ρ : Type} (host : Host ν ρ)

def extractSemverVersion (constraint : String) : Option String :=
  host.parseVersion (String.ofList
    ((trimChars constraint.toList).dropWhile fun c => ['^', '~', '=', '>', '<', ' '].contains c))

/-- The conflict of one dependency with the versions that the cluster has. -/
def dependencyConflict (clusterVersions : Dictionary String String)
    (dep : BundleManifestDependency) : Option BundleConflict := do
  let _ ← dep.source
  let clusterText ← clusterVersions.find dep.name
  let bundled ← (host.extractSemverVersion dep.version).bind host.parseVersion
  let cluster ← host.parseVersion (trim clusterText)
  if host.newer cluster bundled && host.satisfies dep.version cluster then
    some { name := dep.name, bundledVersion := bundled, clusterVersion := cluster }
  else none

def detectDependencyConflicts (dependencies : List BundleManifestDependency)
    (clusterVersions : Dictionary String String) : List BundleConflict :=
  dependencies.filterMap (host.dependencyConflict clusterVersions)

def readBundle (body : String) :
    Except Refusal (BundleManifestFields × IntegrityConfig ν ρ) := do
  if body = "" then
    .error (.status 400 "deployment bundle body must not be empty")
  else
    let yaml ← (host.extractManifestYaml body).mapError (.status 400)
    let fields ← (parseBundleManifestYaml yaml).mapError fun error =>
      .status 400 ("manifest.yaml is malformed: " ++ error)
    let config ← (host.readConfig fields.configPayload).mapError fun error =>
      .status 400 ("manifest.yaml configPayload is not valid JSON: " ++ error)
    .ok (fields, config)

/-- The key of this node joins the trusted signers, unless it is one of them. -/
def trustSelf (trustedSigners : List String) : List String :=
  if trustedSigners.any fun key => eqIgnoreAsciiCase (trim key) host.publicKeyHex then
    trustedSigners
  else trustedSigners ++ [host.publicKeyHex]

/-- The versions of the assets that came with the bundle. -/
def recordVersions (dependencies : List BundleManifestDependency)
    (assetVersions : Dictionary String String) : Dictionary String String :=
  dependencies.foldl
    (fun versions dep =>
      match dep.source, host.extractSemverVersion dep.version with
      | some _, some version => versions.insert dep.name version
      | _, _ => versions)
    assetVersions

/-- What the host adds to a bundle's configuration. -/
def extend (fields : BundleManifestFields) (config : IntegrityConfig ν ρ) :
    IntegrityConfig ν ρ :=
  { config with
    trustedSigners := host.trustSelf config.trustedSigners
    assetVersions := host.recordVersions fields.dependencies config.assetVersions }

/-- `admin_manifest_bundle_handler` up to the version check. -/
def prepareBundle (clusterVersions : Dictionary String String) (body : String) :
    Except Refusal (PreparedBundle ν ρ) := do
  let (fields, config) ← host.readBundle body
  match host.detectDependencyConflicts fields.dependencies clusterVersions with
  | conflict :: others => .error (.conflicts (conflict :: others))
  | [] =>
      let extended := host.extend fields config
      let validated ← (host.validateIntegrityConfig extended).mapError fun error =>
        .status 400 ("manifest config validation failed: " ++ error)
      (host.assetsAvailable validated.rest).mapError (.status 400)
      .ok { signedPayload := host.writeConfig extended, config := validated }

/-- Both endpoints accept only versions above the running one. -/
def checkVersion (running config : IntegrityConfig ν ρ) : Except Refusal Unit :=
  if config.configVersion ≤ running.configVersion then
    .error (.status 409 ("manifest config_version " ++ toString config.configVersion ++
      " is not strictly greater than current " ++ toString running.configVersion))
  else .ok ()

def sealBundle (bundle : PreparedBundle ν ρ) : SealedManifest where
  bytes := host.writeManifest {
    publicKey := host.publicKeyHex
    signature := host.sign bundle.signedPayload
    configPayload := bundle.signedPayload }
  configVersion := bundle.config.configVersion

def applyBundle (running : IntegrityConfig ν ρ) (body : String) :
    Except Refusal SealedManifest := do
  let bundle ← host.prepareBundle running.assetVersions body
  checkVersion running bundle.config
  .ok (host.sealBundle bundle)

/-! ## Accepted bundles -/

variable {host}

theorem checkVersion_eq_ok {running config : IntegrityConfig ν ρ} :
    checkVersion running config = .ok () ↔ running.configVersion < config.configVersion := by
  unfold checkVersion
  split
  next behind => simp [behind]
  next ahead => simp [Nat.lt_of_not_le ahead]

/-- What a bundle that passes every check but the last consists of. -/
theorem prepareBundle_eq_ok {clusterVersions : Dictionary String String} {body : String}
    {bundle : PreparedBundle ν ρ}
    (prepared : host.prepareBundle clusterVersions body = .ok bundle) :
    ∃ fields config, host.readBundle body = .ok (fields, config) ∧
      host.validateIntegrityConfig (host.extend fields config) = .ok bundle.config ∧
      bundle.signedPayload = host.writeConfig (host.extend fields config) := by
  obtain ⟨⟨fields, config⟩, read, prepared⟩ := bind_eq_ok.mp prepared
  refine ⟨fields, config, read, ?_⟩
  dsimp only at prepared
  split at prepared
  next => cases prepared
  next =>
    obtain ⟨_, valid, prepared⟩ := bind_eq_ok.mp prepared
    obtain ⟨-, -, prepared⟩ := bind_eq_ok.mp prepared
    cases prepared
    exact ⟨mapError_eq_ok.mp valid, rfl⟩

/-- A manifest carries a configuration as the payload that this node signed. -/
def Carries (host : Host ν ρ) (bytes : String) (config : IntegrityConfig ν ρ) : Prop :=
  ∃ manifest, host.readManifest bytes = .ok manifest ∧
    host.readConfig manifest.configPayload = .ok config

/-- A written bundle reloads: the manifest carries the configuration of the bundle with the
additions of the host and nothing else, and the running host loads the validated form of
that configuration from it. -/
def Reloads (host : Host ν ρ) (running config : IntegrityConfig ν ρ)
    (fields : BundleManifestFields) (written : SealedManifest) : Prop :=
  host.Carries written.bytes (host.extend fields config) ∧
    ∃ reloaded, host.loadIntegrityConfig (some written.bytes) running.trustedSigners =
        .ok reloaded ∧
      host.validateIntegrityConfig (host.extend fields config) = .ok reloaded

private theorem mapM_eq_self {reread : ν → Option ν} {numbers : List ν} :
    numbers.mapM reread = some numbers ↔ ∀ number ∈ numbers, reread number = some number := by
  induction numbers with
  | nil => simp
  | cons number rest ih =>
    rw [List.mapM_cons, List.forall_mem_cons, ← ih]
    cases first : reread number with
    | none => simp
    | some =>
      cases others : rest.mapM reread with
      | none | some => simp

/-- The bundle reloads if and only if its node is trusted already and its numbers are reread. -/
theorem bundle_reloads_iff {reread : ν → Option ν} (documented : host.Documented reread)
    (running : IntegrityConfig ν ρ) (body : String) {written : SealedManifest}
    (accepted : host.applyBundle running body = .ok written)
    {fields : BundleManifestFields} {config : IntegrityConfig ν ρ}
    (read : host.readBundle body = .ok (fields, config)) :
    host.Reloads running config fields written ↔
      host.trusts running.trustedSigners host.publicKeyHex ∧
        ∀ number ∈ config.numbers, reread number = some number := by
  obtain ⟨bundle, prepared, accepted⟩ := bind_eq_ok.mp accepted
  obtain ⟨-, -, accepted⟩ := bind_eq_ok.mp accepted
  obtain rfl := Except.ok.inj accepted
  obtain ⟨_, _, again, valid, payload⟩ := prepareBundle_eq_ok prepared
  cases again.symm.trans read
  have back : host.readManifest (host.sealBundle bundle).bytes = .ok {
      publicKey := host.publicKeyHex
      signature := host.sign bundle.signedPayload
      configPayload := bundle.signedPayload } := documented.manifests _
  have exact : host.readConfig bundle.signedPayload = .ok (host.extend fields config) ↔
      ∀ number ∈ config.numbers, reread number = some number := by
    rw [payload, documented.readConfig_writeConfig]
    exact mapM_eq_self
  constructor
  · rintro ⟨⟨_, reading, carried⟩, _, loaded, -⟩
    obtain rfl := Except.ok.inj (back.symm.trans reading)
    obtain ⟨_, _, -, same, reading, -, trusted, -⟩ := loadIntegrityConfig_eq_ok.mp loaded
    cases same
    obtain rfl := Except.ok.inj (back.symm.trans reading)
    exact ⟨trusted, exact.mp carried⟩
  · rintro ⟨trusted, numbers⟩
    refine ⟨⟨_, back, exact.mpr numbers⟩, bundle.config, ?_, valid⟩
    exact loadIntegrityConfig_eq_ok.mpr ⟨_, _, _, rfl, back, documented.signatures _, trusted,
      exact.mpr numbers, valid⟩

end Host

/-! ## A host -/

abbrev Rate := Option Nat

/-- The spellings of numbers in a text: a number, `null`, or a number beyond the range. -/
inductive Spelling where
  | number (value : Nat)
  | null
  | huge

open Spelling

def Spelling.wire : Wire Spelling :=
  count.via
    (fun code => match code with
      | 0 => .null
      | 1 => .huge
      | code + 2 => .number code)
    (fun spelling => match spelling with
      | .null => 0
      | .huge => 1
      | .number value => value + 2)
    (fun spelling => by cases spelling <;> rfl)

/-- Infinity is printed as `null`. -/
def Spelling.print : Rate → Spelling
  | some value => .number value
  | none => .null

/-- A number beyond the range is read as infinity, and `null` is not read. -/
def Spelling.read : Spelling → Option Rate
  | .number value => some (some value)
  | .null => none
  | .huge => some none

def configWire : Wire (IntegrityConfig Spelling Unit) :=
  ((text.list.pair (text.pair text).list).pair
    (count.pair wire.list)).via
    (fun value => {
      trustedSigners := value.1.1
      assetVersions := .ofList value.1.2
      configVersion := value.2.1
      numbers := value.2.2
      rest := () })
    (fun config =>
      ((config.trustedSigners, config.assetVersions.entries),
        (config.configVersion, config.numbers)))
    (fun config => by simp [Dictionary.ofList_entries])

def manifestWire : Wire IntegrityManifest :=
  (text.pair (text.pair text)).via
    (fun value => ⟨value.1, value.2.1, value.2.2⟩)
    (fun manifest => (manifest.configPayload, manifest.publicKey, manifest.signature))
    (fun _ => rfl)

def readConfigText (text : String) : Except String (IntegrityConfig Rate Unit) :=
  match configWire.read text with
  | none => .error "expected a configuration"
  | some config =>
      match config.numbers.mapM read with
      | some numbers => .ok { config with numbers }
      | none => .error "invalid type: null, expected f32"

def writeConfigText (config : IntegrityConfig Rate Unit) : String :=
  configWire.write { config with numbers := config.numbers.map print }

/-- A host whose libraries are as documented, with wires for JSON. -/
def sampleHost : Host Rate Unit where
  embeddedPublicKey := "boot"
  publicKeyHex := "node"
  manifestPath := "integrity.lock"
  sign := fun payload => "node" ++ ":" ++ payload
  verifySignature := fun payload publicKey signature =>
    if signature = publicKey ++ ":" ++ payload then .ok ()
    else .error "Integrity Validation Failed: signature verification failed"
  readManifest := fun text => match manifestWire.read text with
    | some manifest => .ok manifest
    | none => .error "expected a manifest"
  writeManifest := manifestWire.write
  readConfig := readConfigText
  writeConfig := writeConfigText
  validateParts := fun numbers rest => .ok (numbers, rest)
  assetsAvailable := fun _ => .ok ()
  extractManifestYaml := .ok
  parseVersion := some
  newer := fun _ _ => false
  satisfies := fun _ _ => false

/-- A number that is printed and read again. -/
def reread (rate : Rate) : Option Rate := (print rate).read

theorem sampleHost_documented : sampleHost.Documented reread where
  signatures payload := by simp [sampleHost]
  manifests manifest := by simp [sampleHost]
  configs config := by
    have printed : (config.numbers.map print).mapM read =
        config.numbers.mapM reread := List.mapM_map
    simp only [sampleHost, readConfigText, writeConfigText, read_write, printed]
    cases config.numbers.mapM reread with
    | none | some => rfl

def plainConfig {ν : Type} (trustedSigners : List String) (configVersion : Nat)
    (numbers : List ν) : IntegrityConfig ν Unit where
  trustedSigners
  assetVersions := .empty
  configVersion
  numbers
  rest := ()

def plainBundle (config : IntegrityConfig Spelling Unit) : String :=
  "configPayload: |\n  " ++ configWire.write config

/-- A configuration that lists the key of the node, in its own spelling. -/
def openConfig : IntegrityConfig Rate Unit := plainConfig ["boot", " Node"] 1 []

/-- A configuration that trusts an operator only. -/
def guardedConfig : IntegrityConfig Rate Unit := plainConfig ["operator"] 1 []

def nextBundle : String := plainBundle (plainConfig [] 2 [.number 5])

/-- Where every key is trusted, the bundle reloads. -/
theorem trusted_bundle_reloads :
    ∃ written, sampleHost.applyBundle openConfig nextBundle = .ok written ∧
      sampleHost.Reloads openConfig (plainConfig [] 2 [some 5])
        ⟨configWire.write (plainConfig [] 2 [.number 5]), []⟩ written := by
  obtain ⟨written, accepted, -⟩ :
      ∃ written, sampleHost.applyBundle openConfig nextBundle = .ok written ∧
        written.configVersion = 2 := exists_ok_of_map (by decide +kernel)
  have read : sampleHost.readBundle nextBundle =
      .ok (⟨configWire.write (plainConfig [] 2 [.number 5]), []⟩,
        plainConfig [] 2 [some 5]) := by decide +kernel
  exact ⟨written, accepted,
    (Host.bundle_reloads_iff sampleHost_documented openConfig nextBundle accepted read).mpr
      ⟨by decide, by decide⟩⟩

/-- Two bundles that are answered with success and do not load: the first because the
running configuration does not trust the node that signed it, the second because a number
beyond the range of its type is printed as `null`. -/
theorem accepted_bundles_not_loaded :
    (∃ written, sampleHost.applyBundle guardedConfig nextBundle = .ok written ∧
      sampleHost.loadIntegrityConfig (some written.bytes) guardedConfig.trustedSigners =
        .error ("Integrity Validation Failed: signer `node` is not the embedded key and is " ++
          "not in the trusted-signers list")) ∧
    (∃ written, sampleHost.applyBundle openConfig (plainBundle (plainConfig [] 2 [.huge])) =
        .ok written ∧
      sampleHost.loadIntegrityConfig (some written.bytes) openConfig.trustedSigners =
        .error ("ERR_INTEGRITY_SCHEMA_VIOLATION: failed to parse integrity manifest at " ++
          "integrity.lock: invalid type: null, expected f32")) := by
  constructor <;> exact exists_ok_of_map (by decide +kernel)

end TachyonMesh.Manifest
