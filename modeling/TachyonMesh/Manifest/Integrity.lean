import TachyonMesh.Foundation.Dictionary
import TachyonMesh.Foundation.Outcome
import TachyonMesh.Foundation.Text

/-! # Sealed manifests

A manifest is the JSON text of a configuration with a key and a signature. It is
accepted when the signature is valid, the key is trusted and the configuration passes
validation. An empty list of trusted signers trusts every key, any other list only the
key embedded in the binary and those on the list.

The handlers look at three fields of a configuration. Of the others the model keeps the
floating point numbers apart, since JSON may not give them back as they were; signing,
JSON, validation and the asset registry are fields of `Host`.
-/

namespace TachyonMesh.Manifest
open Foundation

/-- `IntegrityConfig`: `numbers` are its floating point numbers, `rest` is everything that
the handlers pass on. -/
structure IntegrityConfig (ν ρ : Type) where
  trustedSigners : List String
  assetVersions : Dictionary String String
  configVersion : Nat
  numbers : List ν
  rest : ρ
deriving DecidableEq

/-- The signed manifest. -/
structure IntegrityManifest where
  configPayload : String
  publicKey : String
  signature : String

/-- What the host knows and the libraries it calls. -/
structure Host (ν ρ : Type) where
  /-- The key of the configuration that was built into the binary. -/
  embeddedPublicKey : String
  /-- The key of this node, in lower case hexadecimal. -/
  publicKeyHex : String
  manifestPath : String
  /-- Sign a payload with the key of this node. -/
  sign : String → String
  /-- `verify_integrity_signature_with_trusted` of a payload, a key and a signature. -/
  verifySignature : String → String → String → Except String Unit
  readManifest : String → Except String IntegrityManifest
  writeManifest : IntegrityManifest → String
  readConfig : String → Except String (IntegrityConfig ν ρ)
  writeConfig : IntegrityConfig ν ρ → String
  /-- `validate_integrity_config`, which keeps the three fields apart from these. -/
  validateParts : List ν → ρ → Except String (List ν × ρ)
  /-- `validate_route_asset_availability`. -/
  assetsAvailable : ρ → Except String Unit
  /-- The text of `manifest.yaml` at the root of a compressed archive. -/
  extractManifestYaml : String → Except String String
  /-- `semver::Version::parse`, printed again. -/
  parseVersion : String → Option String
  /-- A version is greater than another. -/
  newer : String → String → Bool
  /-- A constraint parses, and a version matches it. -/
  satisfies : String → String → Bool

namespace Host
variable {ν ρ : Type} (host : Host ν ρ)

def validateIntegrityConfig (config : IntegrityConfig ν ρ) :
    Except String (IntegrityConfig ν ρ) :=
  (host.validateParts config.numbers config.rest).map fun parts =>
    { config with numbers := parts.1, rest := parts.2 }

/-- The trust check of `verify_integrity_payload_with_trusted`. -/
def trusts (trustedSigners : List String) (publicKey : String) : Bool :=
  trustedSigners.isEmpty || eqIgnoreAsciiCase publicKey host.embeddedPublicKey ||
    trustedSigners.any fun key => eqIgnoreAsciiCase (trim key) publicKey

def verifyIntegrityPayloadWithTrusted (payload publicKey signature source : String)
    (trustedSigners : List String) : Except String (IntegrityConfig ν ρ) := do
  host.verifySignature payload publicKey signature
  if host.trusts trustedSigners publicKey then
    match host.readConfig payload with
    | .ok config => host.validateIntegrityConfig config
    | .error error =>
        .error ("ERR_INTEGRITY_SCHEMA_VIOLATION: failed to parse " ++ source ++ ": " ++ error)
  else
    .error ("Integrity Validation Failed: signer `" ++ publicKey ++
      "` is not the embedded key and is not in the trusted-signers list")

/-- `load_integrity_config_from_manifest_path_with_trusted`; `disk` is the file, if there is
one. -/
def loadIntegrityConfig (disk : Option String) (trustedSigners : List String) :
    Except String (IntegrityConfig ν ρ) :=
  match disk with
  | none => .error ("failed to read integrity manifest at " ++ host.manifestPath)
  | some bytes =>
      match host.readManifest bytes with
      | .error error =>
          .error ("failed to parse integrity manifest at " ++ host.manifestPath ++ ": " ++ error)
      | .ok manifest =>
          host.verifyIntegrityPayloadWithTrusted manifest.configPayload manifest.publicKey
            manifest.signature ("integrity manifest at " ++ host.manifestPath) trustedSigners

variable {host} {config : IntegrityConfig ν ρ} {trustedSigners : List String}

theorem validateIntegrityConfig_configVersion {validated : IntegrityConfig ν ρ}
    (valid : host.validateIntegrityConfig config = .ok validated) :
    validated.configVersion = config.configVersion := by
  obtain ⟨-, -, rfl⟩ := map_eq_ok.mp valid
  rfl

theorem verifyIntegrityPayloadWithTrusted_eq_ok {payload publicKey signature source : String} :
    host.verifyIntegrityPayloadWithTrusted payload publicKey signature source trustedSigners =
        .ok config ↔
      host.verifySignature payload publicKey signature = .ok () ∧
        host.trusts trustedSigners publicKey ∧
        ∃ parsed, host.readConfig payload = .ok parsed ∧
          host.validateIntegrityConfig parsed = .ok config := by
  constructor
  · intro accepted
    obtain ⟨_, signed, accepted⟩ := bind_eq_ok.mp accepted
    split at accepted
    next trusted =>
      split at accepted
      next parsed read => exact ⟨signed, trusted, parsed, read, accepted⟩
      next => cases accepted
    next => cases accepted
  · rintro ⟨signed, trusted, _, read, valid⟩
    refine bind_eq_ok.mpr ⟨(), signed, ?_⟩
    rw [if_pos trusted, read]
    exact valid

theorem loadIntegrityConfig_eq_ok {disk : Option String} :
    host.loadIntegrityConfig disk trustedSigners = .ok config ↔
      ∃ bytes manifest parsed, disk = some bytes ∧ host.readManifest bytes = .ok manifest ∧
        host.verifySignature manifest.configPayload manifest.publicKey manifest.signature = .ok () ∧
        host.trusts trustedSigners manifest.publicKey ∧
        host.readConfig manifest.configPayload = .ok parsed ∧
        host.validateIntegrityConfig parsed = .ok config := by
  unfold loadIntegrityConfig
  cases disk with
  | none => simp
  | some bytes =>
    cases read : host.readManifest bytes with
    | error => simp [read]
    | ok => simp [read, verifyIntegrityPayloadWithTrusted_eq_ok]

/-- The libraries as documented: signatures of this node are valid, JSON gives back every
manifest, and a configuration up to its floating point numbers, which are printed and
read again by `reread`. -/
structure Documented (host : Host ν ρ) (reread : ν → Option ν) : Prop where
  signatures : ∀ payload, host.verifySignature payload host.publicKeyHex (host.sign payload) =
    .ok ()
  manifests : ∀ manifest, host.readManifest (host.writeManifest manifest) = .ok manifest
  configs : ∀ config, (host.readConfig (host.writeConfig config)).toOption =
    (config.numbers.mapM reread).map fun numbers => { config with numbers }

/-- A configuration is read back as it was exactly when its numbers are. -/
theorem Documented.readConfig_writeConfig {reread : ν → Option ν}
    (documented : host.Documented reread) (config : IntegrityConfig ν ρ) :
    host.readConfig (host.writeConfig config) = .ok config ↔
      config.numbers.mapM reread = some config.numbers := by
  have reading := documented.configs config
  constructor
  · intro exact
    rw [exact] at reading
    obtain ⟨_, mapped, same⟩ := Option.map_eq_some_iff.mp reading.symm
    rw [mapped, ← same]
  · intro exact
    rw [exact] at reading
    exact toOption_eq_some.mp reading

end Host

end TachyonMesh.Manifest
