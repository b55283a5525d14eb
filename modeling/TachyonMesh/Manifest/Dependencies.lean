import TachyonMesh.Foundation.Machine
import TachyonMesh.Manifest.Bundle

/-! # Dependencies across bundles

A bundle that brings an asset records the version of the asset in the configuration it
deploys. A later bundle that brings the asset in a lower version, though its constraint
admits the recorded one, is to be refused.

The recorded versions are part of the configuration, and the next bundle brings its own:
one that was not made from the running configuration forgets them. `Steady` is the
condition under which nothing is forgotten.
-/

namespace TachyonMesh.Manifest
open Foundation List

/-- A version that an accepted bundle recorded, with the constraint that it comes from. -/
structure Recording where
  name : String
  constraint : String
  version : String
deriving DecidableEq

def BundleManifestFields.locals (fields : BundleManifestFields) :
    List BundleManifestDependency :=
  fields.dependencies.filter (·.source.isSome)

/-- The runtime and the manifest file. -/
structure Deployment (ν ρ : Type) where
  /-- The configuration of the active runtime. -/
  running : IntegrityConfig ν ρ
  /-- The bytes of the manifest file. -/
  disk : Option String
  /-- A bundle was accepted and is not loaded yet. -/
  pending : Bool
  /-- What the accepted bundles recorded. -/
  recorded : List Recording

/-- What may happen to a deployment. -/
inductive DeploymentEvent where
  /-- A bundle is uploaded; the file may fail to be written. -/
  | upload (body : String) (persisted : Bool)
  /-- The file is loaded; the runtime may fail to build. -/
  | reload (built : Bool)

namespace Host
variable {ν ρ : Type} (host : Host ν ρ)

def recording (dep : BundleManifestDependency) : Option Recording :=
  match dep.source, host.extractSemverVersion dep.version with
  | some _, some version => some { name := dep.name, constraint := dep.version, version }
  | _, _ => none

def recordings (body : String) : List Recording :=
  match host.readBundle body with
  | .ok (fields, _) => fields.dependencies.filterMap host.recording
  | .error _ => []

def upload (state : Deployment ν ρ) (body : String) (persisted : Bool) : Deployment ν ρ :=
  match host.applyBundle state.running body, persisted with
  | .ok manifest, true =>
      { state with
        disk := some manifest.bytes
        pending := true
        recorded := state.recorded ++ host.recordings body }
  | _, _ => state

def reload (state : Deployment ν ρ) (built : Bool) : Deployment ν ρ :=
  match host.loadIntegrityConfig state.disk state.running.trustedSigners, built with
  | .ok config, true => { state with running := config, pending := false }
  | _, _ => state

def deployments : Machine (Deployment ν ρ) DeploymentEvent where
  step state
    | .upload body persisted => some (host.upload state body persisted)
    | .reload built => some (host.reload state built)

/-! ## The semver crate -/

/-- The comparators that admit the version they name. -/
def inclusiveComparators : List (List Char) := [[], ['^'], ['~'], ['='], ['>', '='], ['<', '=']]

/-- A comparator and a version, with spaces around them. -/
def comparison (before : Nat) (comparator : List Char) (gap : Nat) (version : List Char)
    (after : Nat) : String :=
  String.ofList (replicate before ' ' ++ comparator ++ replicate gap ' ' ++ version ++
    replicate after ' ')

/-- A single inclusive comparator with a text that begins like a version. -/
def SingleComparator (constraint : String) : Prop :=
  ∃ before comparator gap digit rest after,
    comparator ∈ inclusiveComparators ∧ digit.isDigit ∧
    (∀ c ∈ digit :: rest, isWhitespace c = false) ∧
    constraint = comparison before comparator gap (digit :: rest) after

/-- The crate as documented: a printed version has no white space around it and is parsed to
itself, and a version meets an inclusive comparator with itself. -/
structure Semver (host : Host ν ρ) : Prop where
  printed : ∀ text version, host.parseVersion text = some version →
    host.parseVersion version = some version ∧ trim version = version
  inclusive : ∀ before comparator gap text version after, comparator ∈ inclusiveComparators →
    host.parseVersion (String.ofList text) = some version →
    host.satisfies (comparison before comparator gap text after) version

end Host

/-! ## Single comparators -/

variable {c : Char} {text : List Char}

private theorem dropWhile_append_cons {test : Char → Bool} (other : test c = false)
    (first rest : List Char) :
    (first ++ c :: rest).dropWhile test = first.dropWhile test ++ c :: rest := by
  rw [dropWhile_append]
  split
  · next stripped =>
    rw [List.isEmpty_iff.mp stripped, dropWhile_cons, if_neg (by simp [other])]
    rfl
  · rfl

private theorem trimChars_version {first last : List Char}
    (plain : ∀ d ∈ c :: text, isWhitespace d = false)
    (blank : ∀ d ∈ last, isWhitespace d) :
    trimChars (first ++ (c :: text) ++ last) = first.dropWhile isWhitespace ++ (c :: text) := by
  have front : (first ++ (c :: text) ++ last).dropWhile isWhitespace =
      first.dropWhile isWhitespace ++ c :: (text ++ last) := by
    rw [append_assoc, cons_append]
    exact dropWhile_append_cons (plain c mem_cons_self) first (text ++ last)
  obtain ⟨d, others, reversed⟩ : ∃ d others, (c :: text).reverse = d :: others :=
    exists_cons_of_ne_nil (by simp)
  have ends : isWhitespace d = false := plain d (mem_reverse.mp (reversed ▸ mem_cons_self))
  have back : (first.dropWhile isWhitespace ++ c :: (text ++ last)).reverse =
      last.reverse ++ d :: (others ++ (first.dropWhile isWhitespace).reverse) := by
    rw [← cons_append, ← append_assoc, reverse_append, reverse_append, reversed]
    rfl
  have blanks : last.reverse.dropWhile isWhitespace = [] :=
    dropWhile_eq_nil_iff.mpr fun e member => blank e (mem_reverse.mp member)
  unfold trimChars
  rw [front, back, dropWhile_append_cons ends, blanks, nil_append, ← cons_append,
    ← reversed, ← reverse_append, reverse_reverse]

namespace Host
variable {ν ρ : Type} {host : Host ν ρ}

private theorem extractSemverVersion_comparison {comparator rest : List Char}
    (inclusive : comparator ∈ inclusiveComparators) (digit : c.isDigit)
    (plain : ∀ d ∈ c :: rest, isWhitespace d = false) (before gap after : Nat) :
    host.extractSemverVersion (comparison before comparator gap (c :: rest) after) =
      host.parseVersion (String.ofList (c :: rest)) := by
  have spaces (count : Nat) : ∀ d ∈ replicate count ' ', d = ' ' :=
    fun d member => eq_of_mem_replicate member
  have operators : ∀ d ∈ replicate before ' ' ++ comparator ++ replicate gap ' ',
      ['^', '~', '=', '>', '<', ' '].contains d := by
    intro d member
    simp only [mem_append] at member
    obtain (member | member) | member := member
    · rw [spaces _ _ member]
      rfl
    · revert d
      revert comparator
      simp [inclusiveComparators]
    · rw [spaces _ _ member]
      rfl
  have other : ['^', '~', '=', '>', '<', ' '].contains c = false := by
    have symbols : ∀ d ∈ ['^', '~', '=', '>', '<', ' '], d.isDigit = false := by simp
    by_contra contained
    have listed := contains_iff_mem.mp (Bool.not_eq_false _ ▸ contained)
    rw [symbols c listed] at digit
    cases digit
  have blank : ∀ d ∈ replicate after ' ', isWhitespace d := by
    intro d member
    rw [spaces _ _ member]
    rfl
  unfold extractSemverVersion comparison
  rw [String.toList_ofList, trimChars_version plain blank, dropWhile_append_cons other]
  have stripped : ((replicate before ' ' ++ comparator ++ replicate gap ' ').dropWhile
      isWhitespace).dropWhile (fun c => ['^', '~', '=', '>', '<', ' '].contains c) = [] :=
    dropWhile_eq_nil_iff.mpr fun d member =>
      operators d ((dropWhile_suffix _).subset member)
  rw [stripped]
  rfl

variable {version body : String} {dep : BundleManifestDependency}
  {running config : IntegrityConfig ν ρ} {fields : BundleManifestFields} {recorded : Recording}
  {event : DeploymentEvent} {reread : ν → Option ν}

/-- The crate's documentation covers the versions that single comparators record. -/
theorem Semver.satisfies_of_single (semver : host.Semver) {constraint : String}
    (single : SingleComparator constraint)
    (extracted : host.extractSemverVersion constraint = some version) :
    host.satisfies constraint version := by
  obtain ⟨before, comparator, gap, _, _, after, inclusive, isDigit, plain, rfl⟩ := single
  rw [extractSemverVersion_comparison inclusive isDigit plain] at extracted
  exact semver.inclusive before comparator gap _ version after inclusive extracted

/-! ## Steady uploads -/

/-- The dependency would shadow a better version of the cluster. -/
def Shadows (host : Host ν ρ) (clusterVersions : Dictionary String String)
    (dep : BundleManifestDependency) : Prop :=
  ∃ text cluster bundled, clusterVersions.find dep.name = some text ∧
    host.parseVersion (trim text) = some cluster ∧
    host.extractSemverVersion dep.version = some bundled ∧
    host.newer cluster bundled ∧ host.satisfies dep.version cluster

/-- A bundle that carries the recorded versions on and records no version twice in
different ways, from single inclusive comparators. -/
structure CarriesOn (host : Host ν ρ) (running config : IntegrityConfig ν ρ)
    (fields : BundleManifestFields) : Prop where
  kept : ∀ name version, running.assetVersions.find name = some version →
    config.assetVersions.find name = some version
  stays : ∀ dep ∈ fields.locals, ∀ version bundled,
    running.assetVersions.find dep.name = some version →
    host.extractSemverVersion dep.version = some bundled → bundled = version
  agree : ∀ first ∈ fields.locals, ∀ second ∈ fields.locals, first.name = second.name →
    ∀ version other, host.extractSemverVersion first.version = some version →
      host.extractSemverVersion second.version = some other → version = other
  single : ∀ dep ∈ fields.locals, ∀ version,
    host.extractSemverVersion dep.version = some version → SingleComparator dep.version

section
variable (host : Host ν ρ) (state : Deployment ν ρ)

/-- Nothing accepted waits to be loaded, and a bundle that shadows nothing carries on. -/
def Steady : DeploymentEvent → Prop
  | .upload body _ => state.pending = false ∧
      ∀ fields config, host.readBundle body = .ok (fields, config) →
        (∀ dep ∈ fields.locals, ¬host.Shadows state.running.assetVersions dep) →
        host.CarriesOn state.running config fields
  | .reload _ => True

/-- A bundle with a dependency that an earlier one recorded in a version that is higher and
admitted is answered with the conflict, and changes nothing. -/
def Caught : DeploymentEvent → Prop
  | .upload body persisted => ∀ fields config, host.readBundle body = .ok (fields, config) →
      ∀ dep ∈ fields.locals, ∀ earlier ∈ state.recorded, earlier.name = dep.name →
        ∀ base, host.extractSemverVersion dep.version = some base →
          host.newer earlier.version base →
          host.satisfies dep.version earlier.version →
          (∃ entries, host.applyBundle state.running body = .error (.conflicts entries)) ∧
            host.deployments.step state (.upload body persisted) = some state
  | .reload _ => True

/-- Every recorded version meets the constraint that it comes from. -/
def Satisfied : Prop :=
  ∀ recording ∈ state.recorded, host.satisfies recording.constraint recording.version

end

/-! ## Conflicts -/

private theorem dependencyConflict_of_shadows (semver : host.Semver)
    {clusterVersions : Dictionary String String} (isLocal : dep.source.isSome)
    (shadows : host.Shadows clusterVersions dep) :
    (host.dependencyConflict clusterVersions dep).isSome := by
  obtain ⟨_, _, bundled, found, parsed, extracted, newer, satisfied⟩ := shadows
  obtain ⟨_, given⟩ := Option.isSome_iff_exists.mp isLocal
  have again : host.parseVersion bundled = some bundled := (semver.printed _ _ extracted).1
  simp [dependencyConflict, given, found, extracted, again, parsed, newer, satisfied]

private theorem applyBundle_of_shadows (semver : host.Semver)
    (read : host.readBundle body = .ok (fields, config)) (member : dep ∈ fields.locals)
    (shadows : host.Shadows running.assetVersions dep) :
    ∃ entries, host.applyBundle running body = .error (.conflicts entries) := by
  obtain ⟨present, isLocal⟩ := mem_filter.mp member
  obtain ⟨conflict, found⟩ :=
    Option.isSome_iff_exists.mp (dependencyConflict_of_shadows semver isLocal shadows)
  have listed : conflict ∈ host.detectDependencyConflicts fields.dependencies
      running.assetVersions := mem_filterMap.mpr ⟨dep, present, found⟩
  unfold applyBundle prepareBundle
  rw [read]
  cases detected : host.detectDependencyConflicts fields.dependencies running.assetVersions with
  | nil => exact absurd (detected ▸ listed) not_mem_nil
  | cons first others => exact ⟨first :: others, by simp [detected, bind, Except.bind]⟩

/-! ## Recorded versions -/

private theorem recording_eq_some (found : host.recording dep = some recorded) :
    dep.source.isSome ∧ host.extractSemverVersion dep.version = some recorded.version ∧
      recorded.name = dep.name ∧ recorded.constraint = dep.version := by
  unfold recording at found
  split at found
  · next _ _ given extracted =>
    cases found
    exact ⟨by rw [given]; rfl, extracted, rfl, rfl⟩
  · cases found

private theorem recordVersions_cons (dep : BundleManifestDependency)
    (rest : List BundleManifestDependency) (versions : Dictionary String String) :
    host.recordVersions (dep :: rest) versions = host.recordVersions rest
      (match host.recording dep with
        | some recorded => versions.insert recorded.name recorded.version
        | none => versions) := by
  unfold recordVersions recording
  rw [foldl_cons]
  cases dep.source with
  | none => rfl
  | some =>
    cases host.extractSemverVersion dep.version with
    | none | some => rfl

private theorem find_recordVersions {name : String} {dependencies : List BundleManifestDependency}
    {versions : Dictionary String String}
    (agree : ∀ recorded ∈ dependencies.filterMap host.recording, recorded.name = name →
      recorded.version = version) (present : versions.find name = some version ∨
      ∃ recorded ∈ dependencies.filterMap host.recording, recorded.name = name) :
    (host.recordVersions dependencies versions).find name = some version := by
  induction dependencies generalizing versions with
  | nil =>
    obtain found | ⟨_, member, -⟩ := present
    · exact found
    · exact absurd member not_mem_nil
  | cons dep rest ih =>
    rw [recordVersions_cons]
    cases extracted : host.recording dep with
    | none =>
      rw [filterMap_cons_none extracted] at agree present
      exact ih agree present
    | some recorded =>
      rw [filterMap_cons_some extracted] at agree present
      have others : ∀ later ∈ rest.filterMap host.recording, later.name = name →
          later.version = version :=
        fun later member => agree later (mem_cons_of_mem _ member)
      refine ih others ?_
      dsimp only
      rw [Dictionary.find_insert]
      split
      · next same =>
        rw [agree recorded mem_cons_self same.symm]
        exact .inl rfl
      next same =>
      refine present.imp_right ?_
      rintro ⟨later, member, named⟩
      obtain rfl | member := mem_cons.mp member
      · exact absurd named.symm same
      · exact ⟨later, member, named⟩

/-- What the deployed configuration has of earlier bundles and of this one. -/
theorem CarriesOn.find_extend (carries : host.CarriesOn running config fields)
    (origin : running.assetVersions.find recorded.name = some recorded.version ∨
      recorded ∈ fields.dependencies.filterMap host.recording) :
    (host.extend fields config).assetVersions.find recorded.name = some recorded.version := by
  have isLocal {dep : BundleManifestDependency} {other : Recording}
      (member : dep ∈ fields.dependencies) (extracted : host.recording dep = some other) :
      dep ∈ fields.locals :=
    mem_filter.mpr ⟨member, (recording_eq_some extracted).1⟩
  refine find_recordVersions ?_ ?_
  · intro other listed named
    obtain ⟨dep, member, extracted⟩ := mem_filterMap.mp listed
    obtain ⟨-, version, name, -⟩ := recording_eq_some extracted
    obtain earlier | new := origin
    · rw [← named, name] at earlier
      exact carries.stays dep (isLocal member extracted) _ _ earlier version
    obtain ⟨dep', member', extracted'⟩ := mem_filterMap.mp new
    obtain ⟨-, version', name', -⟩ := recording_eq_some extracted'
    exact carries.agree dep (isLocal member extracted) dep' (isLocal member' extracted')
      (name.symm.trans (named.trans name')) _ _ version version'
  · exact origin.imp (carries.kept _ _) fun new => ⟨recorded, new, rfl⟩

/-! ## Runs -/

/-- Every recorded version is a version, meets its constraint, and is in the file and, once
that is loaded, in the running configuration. -/
structure Valid (host : Host ν ρ) (state : Deployment ν ρ) : Prop where
  versions : ∀ recorded ∈ state.recorded,
    host.parseVersion recorded.version = some recorded.version ∧
      trim recorded.version = recorded.version
  satisfied : host.Satisfied state
  filed : ∀ bytes config, state.disk = some bytes → host.Carries bytes config →
    ∀ recorded ∈ state.recorded, config.assetVersions.find recorded.name = some recorded.version
  current : state.pending = false → ∀ recorded ∈ state.recorded,
    state.running.assetVersions.find recorded.name = some recorded.version

variable {state : Deployment ν ρ}

private theorem Valid.shadows (valid : host.Valid state) (loaded : state.pending = false)
    {earlier : Recording} (member : earlier ∈ state.recorded) (named : earlier.name = dep.name)
    {base : String} (extracted : host.extractSemverVersion dep.version = some base)
    (newer : host.newer earlier.version base)
    (satisfied : host.satisfies dep.version earlier.version) :
    host.Shadows state.running.assetVersions dep := by
  obtain ⟨parsed, trimmed⟩ := valid.versions earlier member
  exact ⟨earlier.version, earlier.version, base, named ▸ valid.current loaded earlier member,
    trimmed.symm ▸ parsed, extracted, newer, satisfied⟩

private theorem Valid.caught (semver : host.Semver) (valid : host.Valid state)
    (steady : host.Steady state event) : host.Caught state event := by
  cases event with
  | reload => trivial
  | upload body persisted =>
    intro fields config read dep member earlier recorded named base extracted newer satisfied
    have shadows := valid.shadows steady.1 recorded named extracted newer satisfied
    obtain ⟨entries, refused⟩ := applyBundle_of_shadows semver read member shadows
    refine ⟨⟨entries, refused⟩, ?_⟩
    change some (host.upload state body persisted) = some state
    unfold Host.upload
    rw [refused]

private theorem Valid.upload (documented : host.Documented reread) (semver : host.Semver)
    (valid : host.Valid state) {persisted : Bool}
    (steady : host.Steady state (.upload body persisted)) :
    host.Valid (host.upload state body persisted) := by
  unfold Host.upload
  split
  · next _ accepted =>
    obtain ⟨_, prepared, sealed⟩ := bind_eq_ok.mp accepted
    obtain ⟨-, -, sealed⟩ := bind_eq_ok.mp sealed
    obtain rfl := Except.ok.inj sealed
    obtain ⟨fields, config, read, -, payload⟩ := prepareBundle_eq_ok prepared
    have carries : host.CarriesOn state.running config fields := by
      refine steady.2 fields config read fun dep member shadows => ?_
      obtain ⟨_, refused⟩ := applyBundle_of_shadows semver read member shadows
      rw [refused] at accepted
      cases accepted
    have new : host.recordings body = fields.dependencies.filterMap host.recording := by
      rw [recordings, read]
    refine
      { versions := fun recorded member => ?_
        satisfied := fun recorded member => ?_
        filed := fun _ _ written carried recorded member => ?_
        current := nofun }
    · obtain member | member := mem_append.mp member
      · exact valid.versions recorded member
      · obtain ⟨_, -, extracted⟩ := mem_filterMap.mp (new ▸ member)
        exact semver.printed _ _ (recording_eq_some extracted).2.1
    · obtain member | member := mem_append.mp member
      · exact valid.satisfied recorded member
      · obtain ⟨dep, present, extracted⟩ := mem_filterMap.mp (new ▸ member)
        obtain ⟨isLocal, version, -, constraint⟩ := recording_eq_some extracted
        rw [constraint]
        exact semver.satisfies_of_single
          (carries.single dep (mem_filter.mpr ⟨present, isLocal⟩) _ version) version
    · cases written
      obtain ⟨_, stored, decoded⟩ := carried
      obtain rfl := Except.ok.inj ((documented.manifests _).symm.trans stored)
      have reading := documented.configs (host.extend fields config)
      rw [← payload, decoded] at reading
      obtain ⟨_, -, same⟩ := Option.map_eq_some_iff.mp reading.symm
      rw [← same]
      apply carries.find_extend
      obtain member | member := mem_append.mp member
      · exact .inl (valid.current steady.1 recorded member)
      · exact .inr (new ▸ member)
  · exact valid

private theorem Valid.reload (valid : host.Valid state) (built : Bool) :
    host.Valid (host.reload state built) := by
  unfold Host.reload
  split
  · next _ loaded =>
    obtain ⟨bytes, manifest, parsed, file, read, -, -, parses, validated⟩ :=
      loadIntegrityConfig_eq_ok.mp loaded
    obtain ⟨-, -, rfl⟩ := map_eq_ok.mp validated
    exact { valid with current := fun _ => valid.filed bytes parsed file ⟨manifest, read, parses⟩ }
  · exact valid

private theorem Valid.step (documented : host.Documented reread) (semver : host.Semver)
    {next : Deployment ν ρ} (valid : host.Valid state) (steady : host.Steady state event)
    (stepped : host.deployments.step state event = some next) : host.Valid next := by
  cases event with
  | upload =>
    cases stepped
    exact valid.upload documented semver steady
  | reload built =>
    cases stepped
    exact valid.reload built

section
variable {body : String} {fields : BundleManifestFields}
variable {running config validated : IntegrityConfig ν ρ}

/-- A bundle that passes every check is accepted. -/
theorem applyBundle_eq_ok (read : host.readBundle body = .ok (fields, config))
    (free : host.detectDependencyConflicts fields.dependencies running.assetVersions = [])
    (valid : host.validateIntegrityConfig (host.extend fields config) = .ok validated)
    (available : host.assetsAvailable validated.rest = .ok ())
    (ahead : running.configVersion < validated.configVersion) :
    host.applyBundle running body = .ok (host.sealBundle
      { signedPayload := host.writeConfig (host.extend fields config), config := validated }) := by
  refine bind_eq_ok.mpr ⟨_, ?_, bind_eq_ok.mpr ⟨(), checkVersion_eq_ok.mpr ahead, rfl⟩⟩
  unfold prepareBundle
  rw [read]
  simp [bind, Except.bind, free, valid, available, Except.mapError]

/-- An accepted bundle whose signer is trusted becomes active. -/
theorem reload_upload (documented : host.Documented reread)
    (read : host.readBundle body = .ok (fields, config))
    (free : host.detectDependencyConflicts fields.dependencies state.running.assetVersions = [])
    (valid : host.validateIntegrityConfig (host.extend fields config) = .ok validated)
    (available : host.assetsAvailable validated.rest = .ok ())
    (ahead : state.running.configVersion < validated.configVersion)
    (trusted : host.trusts state.running.trustedSigners host.publicKeyHex)
    (numbers : config.numbers.mapM reread = some config.numbers) :
    let next := host.reload (host.upload state body true) true
    next.running = validated ∧ next.pending = false ∧
      next.recorded = state.recorded ++ fields.dependencies.filterMap host.recording := by
  have accepted := applyBundle_eq_ok read free valid available ahead
  have uploaded : host.upload state body true =
      { state with
        disk := some (host.sealBundle
          { signedPayload := host.writeConfig (host.extend fields config)
            config := validated }).bytes
        pending := true
        recorded := state.recorded ++ fields.dependencies.filterMap host.recording } := by
    unfold Host.upload recordings
    rw [accepted, read]
  have loaded : host.loadIntegrityConfig (host.upload state body true).disk
      state.running.trustedSigners = .ok validated := by
    rw [uploaded]
    exact loadIntegrityConfig_eq_ok.mpr ⟨_, _, _, rfl, documented.manifests _,
      documented.signatures _, trusted, (documented.readConfig_writeConfig _).mpr numbers, valid⟩
  have reloaded : host.reload (host.upload state body true) true =
      { host.upload state body true with running := validated, pending := false } := by
    have same : (host.upload state body true).running = state.running := by rw [uploaded]
    unfold Host.reload
    rw [same, loaded]
  rw [reloaded, uploaded]
  exact ⟨rfl, rfl, rfl⟩

end

/-- In every run of steady uploads, from any configuration and file and with nothing recorded
yet, conflicts are caught and recorded versions meet their constraints. -/
theorem dependency_conflicts_caught {reread : ν → Option ν} (documented : host.Documented reread)
    (semver : host.Semver) (running : IntegrityConfig ν ρ) (disk : Option String)
    (events : List DeploymentEvent)
    (steady : host.deployments.Along host.Steady
      { running, disk, pending := false, recorded := [] } events) :
    host.deployments.Along (fun state event => host.Caught state event ∧ host.Satisfied state)
        { running, disk, pending := false, recorded := [] } events ∧
      ∀ final, host.deployments.run { running, disk, pending := false, recorded := [] } events =
        some final → host.Satisfied final := by
  have start : host.Valid { running, disk, pending := false, recorded := [] } :=
    { versions := nofun
      satisfied := nofun
      filed := fun _ _ _ _ => nofun
      current := fun _ => nofun }
  constructor
  · exact Machine.along_of_invariant (Valid.step documented semver)
      (fun valid steady => ⟨valid.caught semver steady, valid.satisfied⟩) start steady
  · intro final reached
    have valid : host.Valid final := Machine.invariant_run
      (.step documented semver) start steady reached
    exact valid.satisfied

end Host

/-! ## A host with versions -/

/-- Some versions, with their numbers. -/
def versionTable : List (String × Nat × Nat × Nat) :=
  [("1.0.0", 1, 0, 0), ("1.2.0", 1, 2, 0), ("1.5.0", 1, 5, 0), ("2.0.0", 2, 0, 0)]

def tableNumber (version : String) : Nat × Nat × Nat :=
  ((versionTable.find? (·.1 = version)).map Prod.snd).getD (0, 0, 0)

def tableParse (text : String) : Option String :=
  (versionTable.find? (·.1 = text)).map Prod.fst

/-- Versions in the order of their numbers. -/
def tableRank (version : String) : Nat :=
  let (major, minor, patch) := tableNumber version
  major * 10000 + minor * 100 + patch

def isOperator (c : Char) : Bool := ['^', '~', '=', '>', '<'].contains c

def withoutSpaces (text : List Char) : List Char := text.filter (· != ' ')

def tableSatisfies (constraint : List Char) (version : String) : Bool :=
  let comparator := constraint.takeWhile isOperator
  let named := String.ofList (constraint.dropWhile isOperator)
  let sameMajor := (tableNumber named).1 = (tableNumber version).1
  let sameMinor := (tableNumber named).2.1 = (tableNumber version).2.1
  (tableParse named).isSome &&
    if comparator = [] || comparator = ['^'] then
      sameMajor && tableRank named ≤ tableRank version
    else if comparator = ['~'] then
      sameMajor && sameMinor && tableRank named ≤ tableRank version
    else if comparator = ['='] then named = version
    else if comparator = ['>', '='] then tableRank named ≤ tableRank version
    else if comparator = ['<', '='] then tableRank version ≤ tableRank named
    else if comparator = ['>'] then tableRank named < tableRank version
    else if comparator = ['<'] then tableRank version < tableRank named
    else false

def versionedHost : Host Rate Unit :=
  { sampleHost with
    parseVersion := tableParse
    newer := fun first second => tableRank second < tableRank first
    satisfies := fun constraint => tableSatisfies (withoutSpaces constraint.toList) }

private theorem versionedHost_documented : versionedHost.Documented reread := by
  obtain ⟨signatures, manifests, configs⟩ := sampleHost_documented
  constructor <;> dsimp only [versionedHost] <;> assumption

private theorem tableParse_eq_some {text version : String}
    (parsed : tableParse text = some version) :
    version = text ∧ version ∈ versionTable.map Prod.fst := by
  obtain ⟨_, found, rfl⟩ := Option.map_eq_some_iff.mp parsed
  have named := find?_some found
  exact ⟨by simpa using named, mem_map_of_mem (mem_of_find?_eq_some found)⟩

private theorem tableParse_printed : ∀ version ∈ versionTable.map Prod.fst,
    tableParse version = some version ∧ trim version = version := by
  decide +kernel

private theorem withoutSpaces_comparison {comparator : List Char}
    (inclusive : comparator ∈ Host.inclusiveComparators)
    (listed : String.ofList text ∈ versionTable.map Prod.fst) (before gap after : Nat) :
    withoutSpaces (Host.comparison before comparator gap text after).toList =
      comparator ++ text := by
  have plain : ∀ version ∈ versionTable.map Prod.fst,
      withoutSpaces version.toList = version.toList := by decide +kernel
  have operators : ∀ comparator ∈ Host.inclusiveComparators,
      withoutSpaces comparator = comparator := by decide
  have spaces (count : Nat) : withoutSpaces (replicate count ' ') = [] := by
    simp [withoutSpaces]
  have kept := plain _ listed
  rw [String.toList_ofList] at kept
  have parts (first second : List Char) :
      withoutSpaces (first ++ second) = withoutSpaces first ++ withoutSpaces second :=
    filter_append _ _
  rw [Host.comparison, String.toList_ofList, parts, parts, parts, parts, spaces, spaces, spaces,
    operators _ inclusive, kept]
  simp

private theorem tableSatisfies_inclusive : ∀ comparator ∈ Host.inclusiveComparators,
    ∀ version ∈ versionTable.map Prod.fst,
      tableSatisfies (comparator ++ version.toList) version := by
  decide +kernel

private theorem versionedHost_satisfies (constraint version : String) :
    versionedHost.satisfies constraint version =
      tableSatisfies (withoutSpaces constraint.toList) version := rfl

private theorem versionedHost_semver : versionedHost.Semver where
  printed text version parsed := by
    have listed := (tableParse_eq_some parsed).2
    exact tableParse_printed version listed
  inclusive before comparator gap text version after inclusive parsed := by
    obtain ⟨rfl, listed⟩ := tableParse_eq_some parsed
    have met := tableSatisfies_inclusive comparator inclusive _ listed
    rw [String.toList_ofList] at met
    rw [versionedHost_satisfies, withoutSpaces_comparison inclusive listed]
    exact met

/-- A bundle that brings the asset `lib`. -/
def libBundle (configVersion : Nat) (constraint : String) : String :=
  plainBundle (plainConfig [] configVersion []) ++ "\ndependencies:\n  lib:\n    version: \"" ++
    constraint ++ "\"\n    source: \"lib.wasm\"\n"

def libDependency (constraint : String) : BundleManifestDependency :=
  { name := "lib", version := constraint, source := some "lib.wasm" }

def libFields (configVersion : Nat) (constraint : String) : BundleManifestFields :=
  { configPayload := configWire.write (plainConfig [] configVersion [])
    dependencies := [libDependency constraint] }

def plainFields (configVersion : Nat) : BundleManifestFields :=
  { configPayload := configWire.write (plainConfig [] configVersion []), dependencies := [] }

private theorem readBundle_bundles :
    versionedHost.readBundle (libBundle 2 "^1.5.0") =
        .ok (libFields 2 "^1.5.0", plainConfig [] 2 []) ∧
      versionedHost.readBundle (plainBundle (plainConfig [] 3 [])) =
        .ok (plainFields 3, plainConfig [] 3 []) ∧
      versionedHost.readBundle (libBundle 4 "^1.0.0") =
        .ok (libFields 4 "^1.0.0", plainConfig [] 4 []) ∧
      versionedHost.readBundle (libBundle 2 ">1.2.0") =
        .ok (libFields 2 ">1.2.0", plainConfig [] 2 []) := by
  decide +kernel

private theorem versionedHost_validates (config : IntegrityConfig Rate Unit) :
    versionedHost.validateIntegrityConfig config = .ok config := rfl

def deployed : Deployment Rate Unit :=
  { running := openConfig, disk := none, pending := false, recorded := [] }

def deploy (body : String) : List DeploymentEvent := [.upload body true, .reload true]

/-- The configuration with `lib` 1.5.0. -/
def libConfig : IntegrityConfig Rate Unit :=
  versionedHost.extend (libFields 2 "^1.5.0") (plainConfig [] 2 [])

/-- The state after `lib` 1.5.0 was deployed. -/
def withLib : Deployment Rate Unit :=
  versionedHost.reload (versionedHost.upload deployed (libBundle 2 "^1.5.0") true) true

private theorem withLib_facts : withLib.running = libConfig ∧ withLib.pending = false ∧
    withLib.recorded = [⟨"lib", "^1.5.0", "1.5.0"⟩] :=
  Host.reload_upload versionedHost_documented readBundle_bundles.1 rfl
    (versionedHost_validates _) rfl (by decide) (by decide) rfl

def forgetfulConfig : IntegrityConfig Rate Unit :=
  versionedHost.extend (plainFields 3) (plainConfig [] 3 [])

def forgetful : Deployment Rate Unit :=
  versionedHost.reload (versionedHost.upload withLib (plainBundle (plainConfig [] 3 [])) true) true

private theorem forgetful_facts : forgetful.running = forgetfulConfig ∧ forgetful.pending = false ∧
    forgetful.recorded = [⟨"lib", "^1.5.0", "1.5.0"⟩] := by
  obtain ⟨running, -, recorded⟩ := withLib_facts
  have behind : withLib.running.configVersion < forgetfulConfig.configVersion := by
    rw [running]
    decide
  have trusted : versionedHost.trusts withLib.running.trustedSigners versionedHost.publicKeyHex =
      true := by
    rw [running]
    decide +kernel
  have facts := Host.reload_upload versionedHost_documented readBundle_bundles.2.1 rfl
    (versionedHost_validates _) rfl behind trusted rfl
  rw [recorded] at facts
  exact facts

def withStrict : Deployment Rate Unit :=
  versionedHost.reload (versionedHost.upload deployed (libBundle 2 ">1.2.0") true) true

private theorem withStrict_recorded : withStrict.recorded = [⟨"lib", ">1.2.0", "1.2.0"⟩] :=
  (Host.reload_upload versionedHost_documented readBundle_bundles.2.2.2 rfl
    (versionedHost_validates _) rfl (by decide) (by decide) rfl).2.2

/-- A bundle without dependencies makes the host forget version 1.5.0, so that 1.0.0 is
accepted; and a strict comparator records the version that it excludes. -/
theorem dependency_conflict_missed :
    (∃ state, versionedHost.deployments.run deployed
        (deploy (libBundle 2 "^1.5.0") ++ deploy (plainBundle (plainConfig [] 3 []))) = some state ∧
      ¬versionedHost.Caught state (.upload (libBundle 4 "^1.0.0") true)) ∧
    ∃ state, versionedHost.deployments.run deployed (deploy (libBundle 2 ">1.2.0")) =
        some state ∧ ¬versionedHost.Satisfied state := by
  constructor
  · obtain ⟨running, -, recorded⟩ := forgetful_facts
    obtain ⟨-, -, reads, -⟩ := readBundle_bundles
    have free : versionedHost.detectDependencyConflicts [libDependency "^1.0.0"]
        forgetfulConfig.assetVersions = [] := by decide +kernel
    have accepted := Host.applyBundle_eq_ok reads free (versionedHost_validates _) rfl (by decide)
    refine ⟨forgetful, rfl, fun caught => ?_⟩
    obtain ⟨⟨_, refused⟩, -⟩ := caught _ _ reads (libDependency "^1.0.0") (by decide)
      ⟨"lib", "^1.5.0", "1.5.0"⟩ (by rw [recorded]; decide) rfl "1.0.0" (by decide +kernel)
      (by decide +kernel) (by decide +kernel)
    rw [running, accepted] at refused
    cases refused
  · refine ⟨withStrict, rfl, fun satisfied => ?_⟩
    have met := satisfied ⟨"lib", ">1.2.0", "1.2.0"⟩ (by rw [withStrict_recorded]; decide)
    revert met
    decide +kernel

private theorem steady_lib : versionedHost.deployments.Along versionedHost.Steady deployed
    (deploy (libBundle 2 "^1.5.0") ++ [.upload (libBundle 4 "^1.0.0") true]) := by
  obtain ⟨reads, -, readsLower, -⟩ := readBundle_bundles
  obtain ⟨running, loaded, -⟩ := withLib_facts
  have found : libConfig.assetVersions.find "lib" = some "1.5.0" := by decide +kernel
  have first : versionedHost.Steady deployed (.upload (libBundle 2 "^1.5.0") true) := by
    refine ⟨rfl, fun fields config read _ => ?_⟩
    cases reads.symm.trans read
    refine ⟨nofun, nofun, ?_, ?_⟩
    · intro first member second memberToo _ version other extracted extractedToo
      cases mem_singleton.mp member
      cases mem_singleton.mp memberToo
      exact Option.some.inj (extracted.symm.trans extractedToo)
    intro dep member version _
    cases mem_singleton.mp member
    exact ⟨0, ['^'], 0, '1', ['.', '5', '.', '0'], 0, by decide, by decide,
      forall_mem_cons.mpr ⟨by decide, by simp; decide⟩, by decide⟩
  have second : versionedHost.Steady withLib (.upload (libBundle 4 "^1.0.0") true) := by
    refine ⟨loaded, fun _ _ read unshadowed => ?_⟩
    cases readsLower.symm.trans read
    refine absurd ?_ (unshadowed (libDependency "^1.0.0") (by decide))
    exact ⟨"1.5.0", "1.5.0", "1.0.0", by rw [running]; exact found, by decide +kernel,
      by decide +kernel, by decide +kernel, by decide +kernel⟩
  refine ⟨first, fun _ stepped => ⟨trivial, fun reloaded steppedToo => ?_⟩⟩
  cases stepped
  obtain rfl : withLib = reloaded := Option.some.inj steppedToo
  exact ⟨second, fun _ _ => trivial⟩

/-- After `lib` 1.5.0, a bundle with 1.0.0 is answered with the conflict. -/
theorem lib_conflict_caught :
    withLib.recorded = [⟨"lib", "^1.5.0", "1.5.0"⟩] ∧
      ∃ entries, versionedHost.applyBundle withLib.running (libBundle 4 "^1.0.0") =
        .error (.conflicts entries) := by
  have along := (Host.dependency_conflicts_caught versionedHost_documented versionedHost_semver
    openConfig none _ steady_lib).1
  have recorded := withLib_facts.2.2
  have caught := (along.2 _ rfl).2 withLib rfl
  refine ⟨recorded, ?_⟩
  exact (caught.1.1 _ _ readBundle_bundles.2.2.1 (libDependency "^1.0.0") (by decide)
    ⟨"lib", "^1.5.0", "1.5.0"⟩ (by rw [recorded]; decide) rfl "1.0.0" (by decide +kernel)
    (by decide +kernel) (by decide +kernel)).1

end TachyonMesh.Manifest
