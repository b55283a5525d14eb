import TachyonMesh.Foundation.Cache
import TachyonMesh.Foundation.Machine
import TachyonMesh.Foundation.Slots

/-! # Compiled artifacts and their engines

A runtime has a plain engine and a metered one for sampled requests. Requests of both kinds share
the caches of components, modules, linkers and pre-instances, and no key names the engine.
-/

namespace TachyonMesh.Host
open Foundation

/-- The two engines. -/
inductive Engine where
  | plain
  | metered
deriving DecidableEq

/-- The modification time and length of an artifact file. -/
structure ArtifactMetadata where
  modified : Option Nat
  len : Nat
deriving DecidableEq

/-- The keys of the runtime's caches, one constructor for each cache. -/
inductive ArtifactKey (Shape : Type) where
  | instancePool (path : String)
  | component (path : String)
  | componentInstancePre (path world : String) (shape : Shape) (metadata : ArtifactMetadata)
  | legacyInstancePre (path : String) (metadata : ArtifactMetadata)
  | linker (shape : Shape) (world : String)
deriving DecidableEq

/-- Of an artifact the engine that made it is recorded, and the file it was loaded from. -/
abbrev RuntimeCaches (Shape : Type) := Cache (ArtifactKey Shape) (Engine × ArtifactMetadata)

/-- A request to execute a module. -/
structure GuestExecution (Shape : Type) where
  /-- `metered` when the request is sampled. -/
  engine : Engine
  path : String
  metadata : ArtifactMetadata
  world : String
  shape : Shape
  /-- Whether the artifact loads as a component, and then whether it exports the handler. -/
  component : Option Bool
  /-- The instance pool is passed on; it is not for guests in a TEE. -/
  pooled : Bool
  /-- The environment disables the caches of pre-instances. -/
  preCacheDisabled : Bool

variable {Shape : Type} [DecidableEq Shape]

namespace GuestExecution
variable (execution : GuestExecution Shape) (caches : RuntimeCaches Shape)

def loadComponentWithPool : Engine × RuntimeCaches Shape :=
  let loaded := caches.fetch (.component execution.path)
    (fun cached => cached.2 = execution.metadata) (execution.engine, execution.metadata)
  (loaded.1.1, loaded.2)

/-- An entry of the other caches is taken as it is. -/
def getOrBuild (key : ArtifactKey Shape) : Engine × RuntimeCaches Shape :=
  let found := caches.fetch key (fun _ => true) (execution.engine, execution.metadata)
  (found.1.1, found.2)

/-- The pre-instance of the key, or one that `instantiate_pre` makes. It fails for an artifact and
a linker of different engines. -/
def instancePre (key : ArtifactKey Shape) (artifact linker : Engine) :
    Option Engine × RuntimeCaches Shape :=
  match (caches key).filter fun _ => !execution.preCacheDisabled with
  | some pre => (some pre.1, caches)
  | none =>
      if artifact ≠ linker then (none, caches)
      else if execution.preCacheDisabled then (some linker, caches)
      else (some linker, caches.insert key (linker, execution.metadata))

/-- The engines of the artifacts used with the store of the call, which is of the call's engine. -/
def executeComponentGuest : List Engine × RuntimeCaches Shape :=
  let (component, caches) := execution.loadComponentWithPool caches
  let (linker, caches) := execution.getOrBuild caches (.linker execution.shape execution.world)
  let (pre, caches) := execution.instancePre caches
    (.componentInstancePre execution.path execution.world execution.shape execution.metadata)
    component linker
  (component :: linker :: pre.toList, caches)

/-- The linker of a module is made for the call. -/
def executeLegacyGuest : List Engine × RuntimeCaches Shape :=
  let (module, caches) :=
    if execution.pooled then execution.getOrBuild caches (.instancePool execution.path)
    else (execution.engine, caches)
  let (pre, caches) := execution.instancePre caches
    (.legacyInstancePre execution.path execution.metadata) module execution.engine
  (module :: pre.toList, caches)

/-- A component without the handler is tried and then executed as a module. -/
def executeGuest : List Engine × RuntimeCaches Shape :=
  match execution.component with
  | some true => execution.executeComponentGuest caches
  | some false =>
      let (tried, caches) := execution.executeComponentGuest caches
      let (used, caches) := execution.executeLegacyGuest caches
      (tried ++ used, caches)
  | none => execution.executeLegacyGuest caches

end GuestExecution

/-- The caches, and for each execution so far the engine of its store and those of the artifacts it
used. -/
structure EngineState (Shape : Type) where
  caches : RuntimeCaches Shape
  uses : List (Engine × List Engine)

/-- What may happen to the caches. -/
inductive EngineEvent (Shape : Type) where
  | execute (execution : GuestExecution Shape)
  /-- Entries are evicted or invalidated. -/
  | evict (keeps : ArtifactKey Shape → Bool)

def engineMachine : Machine (EngineState Shape) (EngineEvent Shape) where
  step state
    | .execute execution =>
        let (used, caches) := execution.executeGuest state.caches
        some { caches, uses := state.uses ++ [(execution.engine, used)] }
    | .evict keeps => some { state with caches := state.caches.retain fun key _ => keeps key }

/-- Every artifact was made by the engine of the store it was used with. -/
def EngineState.Matched (state : EngineState Shape) : Prop :=
  ∀ use ∈ state.uses, ∀ engine ∈ use.2, engine = use.1

/-- Each artifact path and each shape of linker is used under the engine it is assigned. -/
def Assigned (paths : String → Engine) (linkers : Shape → String → Engine)
    (_ : EngineState Shape) : EngineEvent Shape → Prop
  | .execute execution => execution.engine = paths execution.path ∧
      execution.engine = linkers execution.shape execution.world
  | .evict _ => True

instance (paths : String → Engine) (linkers : Shape → String → Engine) (state : EngineState Shape)
    (event : EngineEvent Shape) : Decidable (Assigned paths linkers state event) := by
  unfold Assigned
  split <;> infer_instance

/-! ## Caches of assigned artifacts -/

/-- The engine that is assigned to what a key stands for. -/
def ArtifactKey.engine (paths : String → Engine) (linkers : Shape → String → Engine) :
    ArtifactKey Shape → Engine
  | .instancePool path | .component path | .componentInstancePre path .. |
    .legacyInstancePre path _ => paths path
  | .linker shape world => linkers shape world

variable {paths : String → Engine} {linkers : Shape → String → Engine}
  {caches : RuntimeCaches Shape} {execution : GuestExecution Shape}

abbrev Fit (paths : String → Engine) (linkers : Shape → String → Engine)
    (caches : RuntimeCaches Shape) : Prop :=
  caches.Every fun key made => made.1 = key.engine paths linkers

section
variable (fit : Fit paths linkers caches) (key : ArtifactKey Shape)
  (assigned : execution.engine = key.engine paths linkers)
include fit key assigned

private theorem Fit.fetch (fresh : Engine × ArtifactMetadata → Bool) :
    let found := caches.fetch key fresh (execution.engine, execution.metadata)
    found.1.1 = execution.engine ∧ Fit paths linkers found.2 := by
  obtain ⟨engine, kept⟩ := Cache.Every.fetch fit fresh
    (show (execution.engine, execution.metadata).1 = key.engine paths linkers from assigned)
  exact ⟨engine.trans assigned.symm, kept⟩

private theorem Fit.instancePre :
    let found := execution.instancePre caches key execution.engine execution.engine
    found.1.toList = [execution.engine] ∧ Fit paths linkers found.2 := by
  unfold GuestExecution.instancePre
  split
  case h_1 pre cached =>
    have engine := fit key pre (Option.mem_filter_iff.mp cached).1
    exact ⟨by simp [engine, assigned], fit⟩
  case h_2 =>
    simp only [ne_eq, not_true_eq_false, if_false]
    split
    · exact ⟨rfl, fit⟩
    · exact ⟨rfl, fit.insert assigned⟩

end

/-- What an execution uses is of its engine, and so is what it leaves in the caches. -/
abbrev Suits (paths : String → Engine) (linkers : Shape → String → Engine) (engine : Engine)
    (outcome : List Engine × RuntimeCaches Shape) : Prop :=
  (∀ used ∈ outcome.1, used = engine) ∧ Fit paths linkers outcome.2

section
variable (fit : Fit paths linkers caches) (path : execution.engine = paths execution.path)
include fit path

private theorem Fit.executeComponentGuest
    (linker : execution.engine = linkers execution.shape execution.world) :
    Suits paths linkers execution.engine (execution.executeComponentGuest caches) := by
  obtain ⟨component, loaded⟩ := fit.fetch (.component execution.path) path
    fun cached => cached.2 = execution.metadata
  obtain ⟨linked, built⟩ :=
    Fit.fetch loaded (.linker execution.shape execution.world) linker fun _ => true
  obtain ⟨pre, kept⟩ := Fit.instancePre built (.componentInstancePre execution.path
    execution.world execution.shape execution.metadata) path
  simp only [Suits, GuestExecution.executeComponentGuest, GuestExecution.loadComponentWithPool,
    GuestExecution.getOrBuild, component, linked]
  exact ⟨by simp [pre], kept⟩

private theorem Fit.executeLegacyGuest :
    Suits paths linkers execution.engine (execution.executeLegacyGuest caches) := by
  have resolves {caches : RuntimeCaches Shape} (fit : Fit paths linkers caches) :=
    Fit.instancePre fit (.legacyInstancePre execution.path execution.metadata) path
  cases pooled : execution.pooled with
    simp only [Suits, GuestExecution.executeLegacyGuest, pooled, Bool.false_eq_true, if_true,
      if_false]
  | true =>
    obtain ⟨module, loaded⟩ := fit.fetch (.instancePool execution.path) path fun _ => true
    obtain ⟨pre, kept⟩ := resolves loaded
    simp only [GuestExecution.getOrBuild, module]
    exact ⟨by simp [pre], kept⟩
  | false => exact ⟨by simp [(resolves fit).1], (resolves fit).2⟩

private theorem Fit.executeGuest
    (linker : execution.engine = linkers execution.shape execution.world) :
    Suits paths linkers execution.engine (execution.executeGuest caches) := by
  unfold GuestExecution.executeGuest
  split
  case h_1 => exact fit.executeComponentGuest path linker
  case h_2 =>
    obtain ⟨tried, kept⟩ := fit.executeComponentGuest path linker
    obtain ⟨used, kept⟩ := Fit.executeLegacyGuest kept path
    exact ⟨fun engine member => (List.mem_append.mp member).elim (tried engine) (used engine), kept⟩
  case h_3 => exact fit.executeLegacyGuest path

end

/-- Where each artifact path and each shape of linker is used under one engine, every artifact is
used with a store of the engine that made it. -/
theorem artifacts_with_engine {events : List (EngineEvent Shape)} {final : EngineState Shape}
    (assigned : engineMachine.Along (Assigned paths linkers) ⟨.empty, []⟩ events)
    (reached : engineMachine.run ⟨.empty, []⟩ events = some final) : final.Matched := by
  have kept : engineMachine.Preserves (Assigned paths linkers)
      fun state : EngineState Shape => Fit paths linkers state.caches ∧ state.Matched := by
    rintro _ event _ ⟨fit, matched⟩ assigned stepped
    cases event with
    | execute =>
      cases stepped
      obtain ⟨used, kept⟩ := fit.executeGuest assigned.1 assigned.2
      exact ⟨kept, forall_mem_push matched used⟩
    | evict =>
      cases stepped
      exact ⟨fit.retain _, matched⟩
  exact (Machine.invariant_run kept ⟨.empty, by simp [EngineState.Matched]⟩ assigned reached).2

/-- A request for a module with one shape of linker. -/
def moduleCall (path : String) (shape : Nat) (engine : Engine) : GuestExecution Nat where
  engine
  path
  metadata := ⟨some 7, 4096⟩
  world := "faas"
  shape
  component := some true
  pooled := true
  preCacheDisabled := false

/-- One module is always sampled and the other never; each is executed twice. -/
def twoModules : List (EngineEvent Nat) :=
  [.execute (moduleCall "/modules/orders.wasm" 0 .plain),
    .execute (moduleCall "/modules/audit.wasm" 1 .metered),
    .execute (moduleCall "/modules/orders.wasm" 0 .plain),
    .execute (moduleCall "/modules/audit.wasm" 1 .metered)]

/-- The modules find artifacts of their own engines. -/
theorem artifacts_with_engine_unsampled :
    ∃ final, engineMachine.run ⟨.empty, []⟩ twoModules = some final ∧ final.Matched :=
  ⟨_, rfl, @artifacts_with_engine Nat _
    (fun path => if path = "/modules/orders.wasm" then .plain else .metered)
    (fun shape _ => if shape = 0 then .plain else .metered) twoModules _ (by decide) rfl⟩

/-- An unsampled request fills the caches, and a sampled one of the same module is given the plain
engine's component, linker and pre-instance. -/
theorem artifact_crosses_engines : ∃ final, engineMachine.run ⟨.empty, []⟩
      [.execute (moduleCall "/modules/orders.wasm" 0 .plain),
        .execute (moduleCall "/modules/orders.wasm" 0 .metered)] = some final ∧
      ¬final.Matched := by
  simp only [EngineState.Matched]
  decide

end TachyonMesh.Host
