import TachyonMesh.Foundation.Machine
import TachyonMesh.Foundation.Slots
import TachyonMesh.Manifest.Bundle

/-! # Updates and reloads of the running configuration

An update or a bundle is checked against the running configuration, then written to
disk, and becomes active when a reload reads the file and swaps it in. Any number of
requests and reloads are under way at once; each load of the running configuration,
each read and write of the file and each swap is a step.

The version is compared with the running one only, and reloads compare nothing. The
running configuration moves on in runs in which a request is newer than the file and alone
between its check and its write, and a reload is alone between its read and its swap.
-/

namespace TachyonMesh.Manifest
open Foundation List
variable {ν ρ : Type}

/-! ## Requests and reloads -/

/-- How far an update has come. -/
inductive RequestStage (ν ρ : Type) where
  /-- `admin_manifest_update_handler` reads the trusted signers next. -/
  | updating (body : String)
  /-- The update is verified; the running version is read next. -/
  | verified (body : String) (config : IntegrityConfig ν ρ)
  /-- `admin_manifest_bundle_handler` reads the asset versions next. -/
  | uploading (body : String)
  /-- The bundle is valid; the running version is read next. -/
  | prepared (bundle : PreparedBundle ν ρ)
  /-- Every check has passed; the file is written next. `failure` begins the answer to a
  failed write. -/
  | writing (manifest : SealedManifest) (failure : String)
  | answered (reply : Except Refusal Nat)

/-- What `reload_runtime_from_disk` does next. -/
inductive ReloadStage (ν ρ : Type) where
  /-- The trusted signers are known; the file is read next. -/
  | reading (trustedSigners : List String)
  /-- The file is valid; the runtime is built and swapped in next. -/
  | loaded (config : IntegrityConfig ν ρ)
  | finished

/-- The runtime, the file and the updates. -/
structure ConfigState (ν ρ : Type) where
  /-- The configuration of the active runtime. -/
  active : IntegrityConfig ν ρ
  /-- The manifest file, with the version that its writer checked. -/
  disk : Option SealedManifest
  requests : List (RequestStage ν ρ)
  reloads : List (ReloadStage ν ρ)
  /-- The versions that were answered with success, newest first. -/
  accepted : List Nat

/-- What may happen to the configuration. -/
inductive ConfigEvent where
  | submit (body : String)
  | upload (body : String)
  /-- The next step of a request; `fault` is why the file cannot be written, if so. -/
  | advance (request : Nat) (fault : Option String)
  | reload
  /-- The next step of a reload; a runtime may fail to build. -/
  | proceed (reload : Nat) (built : Bool)

namespace Host
variable (host : Host ν ρ)

/-- The checks of an update that read the trusted signers. -/
def verifyUpdate (trustedSigners : List String) (body : String) :
    Except Refusal (IntegrityConfig ν ρ) := do
  let manifest ← (host.readManifest body).mapError fun error =>
    .status 400 ("failed to decode manifest payload: " ++ error)
  (host.verifyIntegrityPayloadWithTrusted manifest.configPayload manifest.publicKey
    manifest.signature "admin manifest submission" trustedSigners).mapError fun error =>
      .status 400 ("manifest signature verification failed: " ++ error)

/-- The checks of an update after that. -/
def checkUpdate (running config : IntegrityConfig ν ρ) : Except Refusal Unit := do
  checkVersion running config
  (host.assetsAvailable config.rest).mapError (.status 400)

/-- A request goes on with the running configuration, up to the write. -/
def nextStage (running : IntegrityConfig ν ρ) : RequestStage ν ρ → Option (RequestStage ν ρ)
  | .updating body =>
      match host.verifyUpdate running.trustedSigners body with
      | .ok config => some (.verified body config)
      | .error refusal => some (.answered (.error refusal))
  | .verified body config =>
      match host.checkUpdate running config with
      | .ok _ => some (.writing ⟨body, config.configVersion⟩ "failed to persist manifest: ")
      | .error refusal => some (.answered (.error refusal))
  | .uploading body =>
      match host.prepareBundle running.assetVersions body with
      | .ok bundle => some (.prepared bundle)
      | .error refusal => some (.answered (.error refusal))
  | .prepared bundle =>
      match checkVersion running bundle.config with
      | .ok _ =>
          some (.writing (host.sealBundle bundle) "failed to persist manifest from bundle: ")
      | .error refusal => some (.answered (.error refusal))
  | .writing _ _ => none
  | .answered _ => none

end Host

namespace ConfigState
variable (host : Host ν ρ)

section
variable (state : ConfigState ν ρ)

def setRequest (request : Nat) (stage : RequestStage ν ρ) : ConfigState ν ρ :=
  { state with requests := state.requests.set request stage }

def setReload (reload : Nat) (stage : ReloadStage ν ρ) : ConfigState ν ρ :=
  { state with reloads := state.reloads.set reload stage }

def advance (request : Nat) (fault : Option String) : Option (ConfigState ν ρ) :=
  match state.requests[request]? with
  | none => none
  | some (.writing manifest failure) =>
      match fault with
      | none =>
          some { state.setRequest request (.answered (.ok manifest.configVersion)) with
            disk := some manifest
            accepted := manifest.configVersion :: state.accepted }
      | some error =>
          some (state.setRequest request (.answered (.error (.status 500 (failure ++ error)))))
  | some stage => (host.nextStage state.active stage).map (state.setRequest request)

def proceed (reload : Nat) (built : Bool) : Option (ConfigState ν ρ) :=
  match state.reloads[reload]? with
  | some (.reading trustedSigners) =>
      match host.loadIntegrityConfig (state.disk.map SealedManifest.bytes) trustedSigners with
      | .ok config => some (state.setReload reload (.loaded config))
      | .error _ => some (state.setReload reload .finished)
  | some (.loaded config) =>
      if built then some { state.setReload reload .finished with active := config }
      else some (state.setReload reload .finished)
  | _ => none

def step : ConfigEvent → Option (ConfigState ν ρ)
  | .submit body => some { state with requests := state.requests ++ [.updating body] }
  | .upload body => some { state with requests := state.requests ++ [.uploading body] }
  | .advance request fault => advance host state request fault
  | .reload =>
      some { state with reloads := state.reloads ++ [.reading state.active.trustedSigners] }
  | .proceed reload built => proceed host state reload built

end

def machine : Machine (ConfigState ν ρ) ConfigEvent := ⟨step host⟩

end ConfigState

/-! ## What a request has established -/

def RequestStage.Writing : RequestStage ν ρ → Prop
  | .writing _ _ => True
  | _ => False

instance : (stage : RequestStage ν ρ) → Decidable stage.Writing
  | .writing _ _ => isTrue trivial
  | .updating _ | .verified _ _ | .uploading _ | .prepared _ | .answered _ => isFalse id

/-- The version that a request is about to compare with the running one. -/
def RequestStage.proposes : RequestStage ν ρ → Option Nat
  | .verified _ config => some config.configVersion
  | .prepared bundle => some bundle.config.configVersion
  | _ => none

def ReloadStage.Loaded : ReloadStage ν ρ → Prop
  | .loaded _ => True
  | _ => False

instance : (stage : ReloadStage ν ρ) → Decidable stage.Loaded
  | .loaded _ => isTrue trivial
  | .reading _ | .finished => isFalse id

def ReloadStage.Reading : ReloadStage ν ρ → Prop
  | .reading _ => True
  | _ => False

instance : (stage : ReloadStage ν ρ) → Decidable stage.Reading
  | .reading _ => isTrue trivial
  | .loaded _ | .finished => isFalse id

namespace Host
variable {host : Host ν ρ} {reread : ν → Option ν}

/-- Every load of a file gives the version that its writer checked. -/
def Faithful (host : Host ν ρ) (manifest : SealedManifest) : Prop :=
  ∀ trustedSigners config,
    host.loadIntegrityConfig (some manifest.bytes) trustedSigners = .ok config →
      config.configVersion = manifest.configVersion

def Sound (host : Host ν ρ) : RequestStage ν ρ → Prop
  | .verified body config => ∃ trustedSigners, host.verifyUpdate trustedSigners body = .ok config
  | .prepared bundle => ∃ versions body, host.prepareBundle versions body = .ok bundle
  | .writing manifest _ => host.Faithful manifest
  | _ => True

variable {body : String} {running : IntegrityConfig ν ρ} {stage after : RequestStage ν ρ}

private theorem faithful_of_update {trustedSigners : List String} {config : IntegrityConfig ν ρ}
    (verified : host.verifyUpdate trustedSigners body = .ok config) :
    host.Faithful ⟨body, config.configVersion⟩ := by
  obtain ⟨_, read, verified⟩ := bind_eq_ok.mp verified
  obtain ⟨-, -, _, parses, valid⟩ :=
    verifyIntegrityPayloadWithTrusted_eq_ok.mp (mapError_eq_ok.mp verified)
  intro others loaded loads
  obtain ⟨_, _, _, same, reread, -, -, reparses, revalid⟩ := loadIntegrityConfig_eq_ok.mp loads
  cases same
  obtain rfl := Except.ok.inj ((mapError_eq_ok.mp read).symm.trans reread)
  obtain rfl := Except.ok.inj (parses.symm.trans reparses)
  obtain rfl := Except.ok.inj (valid.symm.trans revalid)
  rfl

private theorem faithful_of_bundle (documented : host.Documented reread)
    {versions : Dictionary String String} {bundle : PreparedBundle ν ρ}
    (prepared : host.prepareBundle versions body = .ok bundle) :
    host.Faithful (host.sealBundle bundle) := by
  obtain ⟨fields, config, -, valid, payload⟩ := prepareBundle_eq_ok prepared
  intro trustedSigners loaded loads
  obtain ⟨_, _, parsed, same, read, -, -, parses, revalid⟩ := loadIntegrityConfig_eq_ok.mp loads
  cases same
  obtain rfl := Except.ok.inj ((documented.manifests _).symm.trans read)
  -- JSON gives the version back, whatever becomes of the numbers.
  have kept : parsed.configVersion = (host.extend fields config).configVersion := by
    have reading := documented.configs (host.extend fields config)
    rw [← payload, parses] at reading
    obtain ⟨_, -, rfl⟩ := Option.map_eq_some_iff.mp reading.symm
    rfl
  calc loaded.configVersion
      = parsed.configVersion := validateIntegrityConfig_configVersion revalid
    _ = (host.extend fields config).configVersion := kept
    _ = bundle.config.configVersion := (validateIntegrityConfig_configVersion valid).symm

private theorem sound_of_nextStage (documented : host.Documented reread) (sound : host.Sound stage)
    (goes : host.nextStage running stage = some after) : host.Sound after := by
  cases stage with
  | updating =>
    dsimp only [nextStage] at goes
    split at goes <;> cases goes
    next _ verified => exact ⟨_, verified⟩
    next => trivial
  | verified =>
    obtain ⟨_, verified⟩ := sound
    dsimp only [nextStage] at goes
    split at goes <;> cases goes
    next => exact faithful_of_update verified
    next => trivial
  | uploading =>
    dsimp only [nextStage] at goes
    split at goes <;> cases goes
    next _ prepared => exact ⟨_, _, prepared⟩
    next => trivial
  | prepared =>
    obtain ⟨_, _, prepared⟩ := sound
    dsimp only [nextStage] at goes
    split at goes <;> cases goes
    next => exact faithful_of_bundle documented prepared
    next => trivial
  | writing | answered => cases goes

/-- A request that has passed its check proposes a version above the running one. -/
theorem ahead_of_nextStage {manifest : SealedManifest} {failure : String}
    (goes : host.nextStage running stage = some (.writing manifest failure)) :
    stage.proposes = some manifest.configVersion ∧
      running.configVersion < manifest.configVersion := by
  cases stage with
  | updating | uploading =>
    dsimp only [nextStage] at goes
    split at goes <;> cases goes
  | verified =>
    dsimp only [nextStage] at goes
    split at goes
    next checked =>
      cases goes
      obtain ⟨_, ahead, -⟩ := bind_eq_ok.mp checked
      exact ⟨rfl, checkVersion_eq_ok.mp ahead⟩
    next => cases goes
  | prepared =>
    dsimp only [nextStage] at goes
    split at goes
    next ahead =>
      cases goes
      exact ⟨rfl, checkVersion_eq_ok.mp ahead⟩
    next => cases goes
  | writing | answered => cases goes

end Host

namespace ConfigState
variable {host : Host ν ρ} {reread : ν → Option ν} {state next : ConfigState ν ρ}

/-! ## Runs without overtaking -/

/-- A request that is about to pass its check is newer than the file, and no other request is
between its check and its write. A reload does not read the file while another one is
between its read and its swap. -/
def Orderly (state : ConfigState ν ρ) : ConfigEvent → Prop
  | .advance request _ =>
      ∀ version ∈ state.requests[request]?.bind RequestStage.proposes,
        (∀ stage ∈ state.requests, ¬stage.Writing) ∧
          ∀ manifest ∈ state.disk, manifest.configVersion < version
  | .proceed reload _ =>
      ∀ stage ∈ state.reloads[reload]?, stage.Reading → ∀ other ∈ state.reloads, ¬other.Loaded
  | _ => True

instance (state : ConfigState ν ρ) (event : ConfigEvent) : Decidable (state.Orderly event) := by
  unfold ConfigState.Orderly
  split <;> infer_instance

/-- Requests and reloads rely on this between their steps. -/
structure Valid (host : Host ν ρ) (state : ConfigState ν ρ) : Prop where
  sound : ∀ stage ∈ state.requests, host.Sound stage
  faithful : ∀ manifest ∈ state.disk, host.Faithful manifest
  floor : ∀ manifest ∈ state.disk, state.active.configVersion ≤ manifest.configVersion
  newest : ∀ version ∈ state.accepted, ∃ manifest, state.disk = some manifest ∧
    version ≤ manifest.configVersion ∧ manifest.configVersion ∈ state.accepted
  writer : Alone RequestStage.Writing state.requests
  ahead : ∀ manifest failure, .writing manifest failure ∈ state.requests →
    state.active.configVersion < manifest.configVersion ∧
      ∀ older ∈ state.disk, older.configVersion < manifest.configVersion
  loader : Alone ReloadStage.Loaded state.reloads
  between : ∀ config, .loaded config ∈ state.reloads →
    state.active.configVersion ≤ config.configVersion ∧
      ∃ manifest, state.disk = some manifest ∧ config.configVersion ≤ manifest.configVersion

/-- A step keeps the state valid and does not take the running configuration back. -/
structure Keeps (host : Host ν ρ) (state next : ConfigState ν ρ) : Prop where
  valid : next.Valid host
  forward : state.active.configVersion ≤ next.active.configVersion

variable {stage : RequestStage ν ρ} {request reload : Nat}

section
variable (valid : state.Valid host)
include valid

private theorem Valid.pushRequest (sound : host.Sound stage) (early : ¬stage.Writing) :
    ({ state with requests := state.requests ++ [stage] } : ConfigState ν ρ).Valid host :=
  { valid with
    sound := forall_mem_push valid.sound sound
    writer := valid.writer.push early
    ahead := by
      intro manifest failure member
      rcases mem_append.mp member with old | new
      · exact valid.ahead manifest failure old
      · rw [← mem_singleton.mp new] at early
        exact absurd trivial early }

private theorem Valid.setRequest (sound : host.Sound stage)
    (writer : Alone RequestStage.Writing (state.requests.set request stage))
    (ahead : ∀ manifest failure, stage = .writing manifest failure →
      state.active.configVersion < manifest.configVersion ∧ ∀ older ∈ state.disk,
      older.configVersion < manifest.configVersion) :
    (state.setRequest request stage).Valid host :=
  { valid with
    sound := forall_mem_set valid.sound sound
    writer := writer
    ahead := by
      intro manifest failure member
      rcases mem_or_eq_of_mem_set member with old | new
      · exact valid.ahead manifest failure old
      · exact ahead manifest failure new.symm }

private theorem Valid.settleRequest (request : Nat) (sound : host.Sound stage)
    (early : ¬stage.Writing) :
    (state.setRequest request stage).Valid host := by
  refine valid.setRequest sound (valid.writer.replace early) ?_
  rintro _ _ rfl
  exact absurd trivial early

private theorem Valid.setReload {stage : ReloadStage ν ρ}
    (loader : Alone ReloadStage.Loaded (state.reloads.set reload stage))
    (between : ∀ config, stage = .loaded config →
      state.active.configVersion ≤ config.configVersion ∧ ∃ manifest, state.disk = some manifest ∧
      config.configVersion ≤ manifest.configVersion) :
    (state.setReload reload stage).Valid host :=
  { valid with
    loader := loader
    between := by
      intro config member
      rcases mem_or_eq_of_mem_set member with old | new
      · exact valid.between config old
      · exact between config new.symm }

/-- The write of the only request that has passed its check. -/
theorem Valid.write {manifest : SealedManifest} {failure : String}
    (held : state.requests[request]? = some (.writing manifest failure)) :
    ({ state.setRequest request (.answered (.ok manifest.configVersion)) with
      disk := some manifest
      accepted := manifest.configVersion :: state.accepted } : ConfigState ν ρ).Valid host := by
  have member : .writing manifest failure ∈ state.requests := mem_of_getElem? held
  obtain ⟨aboveActive, aboveDisk⟩ := valid.ahead manifest failure member
  have settled : (state.setRequest request (.answered (.ok manifest.configVersion))).Valid host :=
    valid.settleRequest request trivial id
  have vacated : ∀ stage ∈ state.requests.set request (.answered (.ok manifest.configVersion)),
      ¬stage.Writing := valid.writer.vacate held trivial id
  refine ⟨settled.sound, ?_, ?_, ?_, settled.writer, ?_, valid.loader, ?_⟩
  · rintro _ ⟨⟩
    exact valid.sound _ member
  · rintro _ ⟨⟩
    exact le_of_lt aboveActive
  · intro version accepted
    refine ⟨manifest, rfl, ?_, mem_cons_self⟩
    rcases mem_cons.mp accepted with rfl | earlier
    · exact le_refl _
    · obtain ⟨older, onDisk, below, -⟩ := valid.newest version earlier
      exact le_of_lt (lt_of_le_of_lt below (aboveDisk older onDisk))
  · intro other reason writing
    exact absurd trivial (vacated _ writing)
  · intro config loaded
    obtain ⟨above, older, onDisk, below⟩ := valid.between config loaded
    exact ⟨above, manifest, rfl, le_of_lt (lt_of_le_of_lt below (aboveDisk older onDisk))⟩

/-- The swap of the only reload that has read the file. -/
theorem Valid.swap {config : IntegrityConfig ν ρ}
    (held : state.reloads[reload]? = some (.loaded config)) :
    ({ state.setReload reload .finished with active := config } : ConfigState ν ρ).Valid host := by
  have member : .loaded config ∈ state.reloads := mem_of_getElem? held
  obtain ⟨-, current, onDisk, below⟩ := valid.between config member
  have vacated : ∀ stage ∈ state.reloads.set reload .finished, ¬stage.Loaded :=
    valid.loader.vacate held trivial id
  refine ⟨valid.sound, valid.faithful, ?_, valid.newest, valid.writer, ?_,
    valid.loader.replace id, ?_⟩
  · intro manifest stored
    cases onDisk.symm.trans stored
    exact below
  · intro manifest failure writing
    obtain ⟨-, above⟩ := valid.ahead manifest failure writing
    exact ⟨lt_of_le_of_lt below (above current onDisk), above⟩
  · intro other loaded
    exact absurd trivial (vacated _ loaded)

end

private theorem advance_keeps (documented : host.Documented reread) (valid : state.Valid host)
    {fault : Option String} (orderly : state.Orderly (.advance request fault))
    (stepped : advance host state request fault = some next) : Keeps host state next := by
  unfold advance at stepped
  split at stepped
  next => cases stepped
  next manifest failure held =>
    cases fault with
    | none =>
      cases stepped
      exact ⟨valid.write held, le_refl _⟩
    | some =>
      cases stepped
      exact ⟨valid.settleRequest request trivial id, le_refl _⟩
  next stage _ held =>
    obtain ⟨after, goes, rfl⟩ := Option.map_eq_some_iff.mp stepped
    have sound : host.Sound after :=
      Host.sound_of_nextStage documented (valid.sound stage (mem_of_getElem? held)) goes
    refine ⟨?_, le_refl _⟩
    by_cases writing : after.Writing
    · cases after <;> first | exact writing.elim | skip
      -- The check passes: nobody else is about to write, and the file is older.
      case writing manifest failure =>
        obtain ⟨proposes, above⟩ := Host.ahead_of_nextStage goes
        obtain ⟨nobody, older⟩ := orderly manifest.configVersion (by rw [held]; exact proposes)
        refine valid.setRequest sound (alone_replace nobody) ?_
        rintro _ _ ⟨⟩
        exact ⟨above, older⟩
    · exact valid.settleRequest request sound writing

private theorem proceed_keeps (valid : state.Valid host) {built : Bool}
    (orderly : state.Orderly (.proceed reload built))
    (stepped : proceed host state reload built = some next) : Keeps host state next := by
  have finish : (state.setReload reload .finished).Valid host :=
    valid.setReload (valid.loader.replace id) nofun
  unfold proceed at stepped
  split at stepped
  next _ held =>
    split at stepped
    next config loads =>
      cases stepped
      -- What is read now is the version on disk, which the running one does not exceed.
      obtain ⟨_, -, -, stored, -⟩ := Host.loadIntegrityConfig_eq_ok.mp loads
      obtain ⟨manifest, onDisk, rfl⟩ := Option.map_eq_some_iff.mp stored
      rw [stored] at loads
      have version : config.configVersion = manifest.configVersion :=
        valid.faithful manifest onDisk _ _ loads
      have nobody := orderly _ held trivial
      refine ⟨valid.setReload (alone_replace nobody) ?_, le_refl _⟩
      rintro _ ⟨⟩
      exact ⟨version ▸ valid.floor manifest onDisk, manifest, onDisk, le_of_eq version⟩
    next =>
      cases stepped
      exact ⟨finish, le_refl _⟩
  next config held =>
    split at stepped
    next =>
      cases stepped
      exact ⟨valid.swap held, (valid.between config (mem_of_getElem? held)).1⟩
    next =>
      cases stepped
      exact ⟨finish, le_refl _⟩
  next => cases stepped

private theorem step_keeps (documented : host.Documented reread) {event : ConfigEvent}
    (valid : state.Valid host) (orderly : state.Orderly event)
    (stepped : (machine host).step state event = some next) : Keeps host state next := by
  cases event with
  | submit | upload =>
    cases stepped
    exact ⟨valid.pushRequest trivial id, le_refl _⟩
  | advance => exact advance_keeps documented valid orderly stepped
  | reload =>
    cases stepped
    refine ⟨{ valid with loader := valid.loader.push id, between := ?_ }, le_refl _⟩
    intro config member
    exact valid.between config (by simpa using member)
  | proceed => exact proceed_keeps valid orderly stepped

/-- Nothing is under way, and the file, if there is one, is not older than the running
configuration. -/
structure Initial (host : Host ν ρ) (state : ConfigState ν ρ) : Prop where
  requests : state.requests = []
  reloads : state.reloads = []
  accepted : state.accepted = []
  faithful : ∀ manifest ∈ state.disk, host.Faithful manifest
  floor : ∀ manifest ∈ state.disk, state.active.configVersion ≤ manifest.configVersion

private theorem Initial.valid (initial : state.Initial host) : state.Valid host where
  __ := initial
  sound := by simp [initial.requests]
  newest := by simp [initial.accepted]
  writer := by
    rw [initial.requests]
    exact alone_nil
  ahead := by simp [initial.requests]
  loader := by
    rw [initial.reloads]
    exact alone_nil
  between := by simp [initial.reloads]

/-- The running version never decreases, and in the end the file carries the largest version
that was answered with success. -/
structure MovesOn (host : Host ν ρ) (start : ConfigState ν ρ) (events : List ConfigEvent) :
    Prop where
  forward : (machine host).Along
    (fun state event => ∀ next ∈ (machine host).step state event,
      state.active.configVersion ≤ next.active.configVersion) start events
  newest : ∀ final, (machine host).run start events = some final →
    ∀ version ∈ final.accepted, ∃ manifest, final.disk = some manifest ∧
      host.Faithful manifest ∧ version ≤ manifest.configVersion ∧
      manifest.configVersion ∈ final.accepted

/-- In orderly runs the running version never decreases, and the newest is kept. -/
theorem configuration_moves_on (documented : host.Documented reread) {start : ConfigState ν ρ}
    (initial : start.Initial host) (events : List ConfigEvent)
    (orderly : (machine host).Along Orderly start events) : MovesOn host start events := by
  have kept : (machine host).Preserves Orderly (Valid host) :=
    fun valid orderly stepped => (step_keeps documented valid orderly stepped).valid
  constructor
  · refine Machine.along_of_invariant kept ?_ initial.valid orderly
    intro state event valid orderly next stepped
    exact (step_keeps documented valid orderly stepped).forward
  · intro final reached version accepted
    have valid : final.Valid host := Machine.invariant_run kept initial.valid orderly reached
    obtain ⟨manifest, onDisk, below, among⟩ := valid.newest version accepted
    exact ⟨manifest, onDisk, valid.faithful manifest onDisk, below, among⟩

/-! ## Two histories -/

/-- A host that has booted with version 1 and has no manifest file. -/
def booted : ConfigState Rate Unit where
  active := plainConfig [] 1 []
  disk := none
  requests := []
  reloads := []
  accepted := []

private theorem booted_initial : booted.Initial sampleHost := ⟨rfl, rfl, rfl, nofun, nofun⟩

def signedUpdate (configVersion : Nat) : String :=
  let payload := writeConfigText (plainConfig [] configVersion [])
  manifestWire.write ⟨payload, "boot", "boot" ++ ":" ++ payload⟩

/-- An update and a bundle, each reloaded before the next request. -/
def oneByOne : List ConfigEvent :=
  [.submit (signedUpdate 2), .advance 0 none, .advance 0 none, .advance 0 none,
    .reload, .proceed 0 true, .proceed 0 true,
    .upload (plainBundle (plainConfig [] 3 [])), .advance 1 none, .advance 1 none,
    .advance 1 none, .reload, .proceed 1 true, .proceed 1 true]

/-- Two updates, each reloaded before the next. -/
theorem one_by_one_moves_on :
    ((machine sampleHost).run booted oneByOne).map
        (fun state => (state.active.configVersion, state.accepted)) = some (3, [3, 2]) ∧
      MovesOn sampleHost booted oneByOne :=
  ⟨by decide +kernel, configuration_moves_on sampleHost_documented booted_initial oneByOne
    (by decide +kernel)⟩

/-- Versions 3 and 2 are both checked against version 1. Version 3 is written and becomes
active, then version 2 is written over it, and the next reload swaps it in. -/
theorem configuration_goes_back :
    ∃ state next, (machine sampleHost).run booted
        [.submit (signedUpdate 3), .submit (signedUpdate 2), .advance 0 none, .advance 1 none,
          .advance 0 none, .advance 1 none, .advance 0 none, .reload, .proceed 0 true,
          .proceed 0 true, .advance 1 none, .reload, .proceed 1 true] = some state ∧
      state.accepted = [2, 3] ∧ state.disk.map SealedManifest.configVersion = some 2 ∧
      (machine sampleHost).step state (.proceed 1 true) = some next ∧
      state.active.configVersion = 3 ∧ next.active.configVersion = 2 := by
  exact ⟨_, _, rfl, rfl, rfl, rfl, rfl, rfl⟩

end ConfigState

end TachyonMesh.Manifest
