import TachyonMesh.ComponentRegistry.Rows
import TachyonMesh.Foundation.Machine
import TachyonMesh.Store.Partitions

/-! # Writers of the component registry

The operations on the registry table. An upload and a guest's write are one
transaction each. The manifest publisher's two calls are sequences of transactions:
publication inserts or refreshes a row for every configured binding, then scans the
table and drops the rows of bindings that left the manifest; withdrawal, before a
hot reload, reserves the aliases whose binding will change. `Call.advance` takes a
call to its next transaction.

`registryMachine` interleaves any number of these calls with uploads and guests'
writes, one transaction at a time.
-/

namespace TachyonMesh.ComponentRegistry
open Foundation Store Program

def aiComponentsRegistryTable : String := "ai-components-registry"

/-- The registry's rows in a store. -/
def rows {β : Type} (store : CoreStore β) : Dictionary String β :=
  store.table aiComponentsRegistryTable

def guestRegistryAliasTaken : String := "component-alias-claimed-by-config"

/-- The refusal of a guest's write to a row of the publisher. -/
def aliasTakenError (key : String) : String :=
  guestRegistryAliasTaken ++ ": component alias `" ++ key ++
    "` is claimed by a configured binding in the sealed manifest"

section
variable {β : Type} (codec : JsonCodec β)

/-- Write an uploaded artifact's row, unless a configured binding owns the alias. -/
def writeUploadedComponentRow (aliasName : String) (value : β) :
    Program (CoreStore β) String Unit := do
  let aliasTaken ← mapError ("failed to publish artifact upload event: " ++ ·)
    (kvPartitionUpdate aiComponentsRegistryTable aliasName fun current =>
      if rowIsConfigOwned codec current then (.keep, true) else (.set value, false))
  if aliasTaken then
    fail ("component alias `" ++ aliasName ++ "` is claimed by a configured binding in " ++
      "the sealed manifest; uploaded artifacts must use a free alias, or the binding must be " ++
      "declared `dynamic`")
  else pure ()

def publishArtifactUploaded (sidecars : Sidecars) (event : ArtifactUploaded) :
    Program (CoreStore β) String Unit :=
  if trim event.aliasName = "" then
    fail "artifact upload event alias must not be empty"
  else if trim event.engine = "" then
    fail "artifact upload event engine must not be empty"
  else do
    let metadata ← ofExcept (bindingComponentMetadata sidecars event.artifactPath)
    writeUploadedComponentRow codec event.aliasName
      (codec.encodeFields (uploadedInfo event metadata).fields)

/-- Refuse a guest's row that claims to be the manifest publisher's. -/
def rejectForgedConfigMarker (key : String) (value : Option β) : Except String Unit :=
  if rowIsConfigOwned codec value then
    .error ("component alias `" ++ key ++ "`: a registry row may not declare `source: \"" ++
      registrySourceConfig ++ "\"`; that marker belongs to the manifest publisher")
  else .ok ()

def applyGuestRegistryWrite (tableName key : String) (value : Option β) :
    Program (CoreStore β) String Unit :=
  if tableName ≠ aiComponentsRegistryTable then
    match value with
    | some value => kvPartitionSet tableName key value
    | none => kvPartitionDelete tableName key
  else do
    ofExcept (rejectForgedConfigMarker codec key value)
    let aliasTaken ← kvPartitionUpdate aiComponentsRegistryTable key fun current =>
      if rowIsConfigOwned codec current then (.keep, true)
      else
        match value with
        | some value => (.set value, false)
        | none => (.delete, false)
    if aliasTaken then fail (aliasTakenError key) else pure ()

/-- What the closure of a guest's compare-and-swap leaves in its captured variables. -/
inductive Comparison where
  | aliasTaken
  | applied
  | unchanged

/-- The end of a guest's compare-and-swap. -/
def Comparison.answer (key : String) (comparison : Comparison) :
    Program (CoreStore β) String Bool :=
  match comparison with
  | .aliasTaken => fail (aliasTakenError key)
  | .applied => pure true
  | .unchanged => pure false

variable [DecidableEq β]

def applyGuestRegistryCompareAndSet (tableName key : String) (expected : Option β) (value : β) :
    Program (CoreStore β) String Bool :=
  if tableName ≠ aiComponentsRegistryTable then
    kvPartitionUpdate tableName key fun current =>
      if current = expected then (.set value, true) else (.keep, false)
  else do
    ofExcept (rejectForgedConfigMarker codec key (some value))
    let comparison ← kvPartitionUpdate aiComponentsRegistryTable key fun current =>
      if rowIsConfigOwned codec current then (.keep, Comparison.aliasTaken)
      else if current = expected then (.set value, .applied)
      else (.keep, .unchanged)
    comparison.answer key

def applyGuestRegistryCompareAndDelete (tableName key : String) (expected : β) :
    Program (CoreStore β) String Bool :=
  if tableName ≠ aiComponentsRegistryTable then
    kvPartitionUpdate tableName key fun current =>
      if current = some expected then (.delete, true) else (.keep, false)
  else do
    let comparison ← kvPartitionUpdate aiComponentsRegistryTable key fun current =>
      if rowIsConfigOwned codec current then (.keep, Comparison.aliasTaken)
      else if current = some expected then (.delete, .applied)
      else (.keep, .unchanged)
    comparison.answer key

omit [DecidableEq β] in
/-- The test that every entry of a batch passes before the transaction begins. -/
def rejectForgedConfigMarkers : List (String × β) → Except String Unit
  | [] => .ok ()
  | (key, value) :: rest => do
      rejectForgedConfigMarker codec key (some value)
      rejectForgedConfigMarkers rest

omit [DecidableEq β] in
/-- The veto of a batch: a row of the publisher is not written. -/
def acceptUnowned (key : String) (current : Option β) : Except String Unit :=
  if rowIsConfigOwned codec current then .error (aliasTakenError key) else .ok ()

omit [DecidableEq β] in
def applyGuestRegistryBatch (tableName : String) (entries : List (String × β)) :
    Program (CoreStore β) String Unit :=
  if tableName ≠ aiComponentsRegistryTable then kvPartitionBatchSet tableName entries
  else do
    ofExcept (rejectForgedConfigMarkers codec entries)
    kvPartitionBatchUpdate aiComponentsRegistryTable entries (acceptUnowned codec)

/-- An upload, or a guest's write to one of its tables. -/
inductive Operation (β : Type) where
  | upload (event : ArtifactUploaded)
  | set (tableName key : String) (value : β)
  | delete (tableName key : String)
  | compareAndSet (tableName key : String) (expected : Option β) (value : β)
  | compareAndDelete (tableName key : String) (expected : β)
  | batchSet (tableName : String) (entries : List (String × β))

/-- What a transaction returns. -/
inductive Answer where
  | done
  | applied (changed : Bool)

def Operation.perform (sidecars : Sidecars) (operation : Operation β) :
    Program (CoreStore β) String Answer :=
  match operation with
  | .upload event => do
      publishArtifactUploaded codec sidecars event
      pure .done
  | .set tableName key value => do
      applyGuestRegistryWrite codec tableName key (some value)
      pure .done
  | .delete tableName key => do
      applyGuestRegistryWrite codec tableName key none
      pure .done
  | .compareAndSet tableName key expected value => do
      let changed ← applyGuestRegistryCompareAndSet codec tableName key expected value
      pure (.applied changed)
  | .compareAndDelete tableName key expected => do
      let changed ← applyGuestRegistryCompareAndDelete codec tableName key expected
      pure (.applied changed)
  | .batchSet tableName entries => do
      applyGuestRegistryBatch codec tableName entries
      pure .done

omit [DecidableEq β] in
/-- The operation is aimed at the row of an alias in the registry. -/
def Operation.Aims (operation : Operation β) (aliasName : String) : Prop :=
  match operation with
  | .upload event => event.aliasName = aliasName
  | .set tableName key _ => tableName = aiComponentsRegistryTable ∧ key = aliasName
  | .delete tableName key => tableName = aiComponentsRegistryTable ∧ key = aliasName
  | .compareAndSet tableName key _ _ => tableName = aiComponentsRegistryTable ∧ key = aliasName
  | .compareAndDelete tableName key _ => tableName = aiComponentsRegistryTable ∧ key = aliasName
  | .batchSet tableName entries =>
      tableName = aiComponentsRegistryTable ∧ aliasName ∈ entries.map Prod.fst

end

/-! ## The manifest publisher -/

/-- The fields of a row that a stored bag is told apart from. -/
def registryRowFixedFields : List String :=
  ["alias", "engine", "vramRequiredMb", "status", "artifactPath", "source", "withdrawn"]

/-- Rows per read of the scan. -/
def pageSize : Nat := 10000

/-- The end of the scan, which it does not reach. -/
def scanEnd : String := String.singleton (Char.ofNat 0x10ffff)

/-- The bindings a config publishes, by alias; of two with one alias the later counts. -/
def publishableBindings (config : IntegrityConfig) : Dictionary String String :=
  .ofList ((config.bindings.filter InferenceComponentBinding.publishable).map fun binding =>
    (binding.aliasName, binding.path))

/-- A call by the transactions left of it. -/
inductive Call (β : Type) where
  /-- Publication, with the aliases seen so far and the bindings left to visit. -/
  | inserting (configured : List String) (bindings : List InferenceComponentBinding)
      (failures : Nat)
  /-- Publication found a row where it would have inserted its own. -/
  | refreshing (configured : List String) (aliasName : String) (value : β)
      (bindings : List InferenceComponentBinding) (failures : Nat)
  /-- The scan for rows of the publisher, with those found so far. -/
  | scanning (configured : List String) (offset : Nat) (owned : List String) (failures : Nat)
  /-- The sweep, with the aliases left to visit. -/
  | sweeping (configured owned : List String) (failures : Nat)
  /-- Withdrawal, with the bindings left to visit. -/
  | checking (incoming : Dictionary String String) (bindings : List (String × String))
  /-- Withdrawal decided to reserve an alias. -/
  | reserving (incoming : Dictionary String String) (aliasName : String)
      (bindings : List (String × String))
  | returned (failures : Nat)

/-- `publish_configured_component_bindings`, before its first transaction. -/
def publishConfiguredComponentBindings {β : Type} (config : IntegrityConfig) : Call β :=
  .inserting [] config.bindings 0

/-- `withdraw_changed_component_bindings`, before its first transaction. The bindings
come in the order of a hash map, so the order is given. -/
def withdrawChangedComponentBindings {β : Type} (incoming : IntegrityConfig)
    (order : List (String × String)) : Call β :=
  .checking (publishableBindings incoming) order

section
variable {β : Type} (codec : JsonCodec β)

/-- The row that publication writes for a binding where there is none. -/
def publishedRow (binding : InferenceComponentBinding) (metadata : Bag) : β :=
  codec.encodeFields (publishedInfo binding metadata).fields

/-- The row of a reservation that holds nothing aside. -/
def reservationRow (aliasName : String) : β :=
  codec.encodeFields (reservationInfo aliasName).fields

/-- The sweep drops a row of the publisher, or puts back what the row holds aside. -/
def swept (current : Option β) : KvPartitionUpdate β :=
  if !rowIsConfigOwned codec current then .keep
  else
    match current.bind (shadowedUploadRow codec) with
    | some restored => .set restored
    | none => .delete

/-- A reservation replaces a row of the publisher and takes a free alias. -/
def reserved (aliasName : String) (current : Option β) : KvPartitionUpdate β :=
  if current.isSome && !rowIsConfigOwned codec current then .keep
  else
    let value := reservationRow codec aliasName
    let carried := (current.bind (shadowedUploadRow codec)).bind (carryShadowedUpload codec value)
    .set (carried.getD value)

/-- The part of a stored row that a bag was flattened into. -/
def storedMetadata (members : List (String × Json)) : Bag :=
  .ofList ((members.filter fun member => !registryRowFixedFields.contains member.1).filterMap
    fun member => member.2.asText.map fun value => (member.1, value))

/-- Whether a stored row still says what publishing `path` would say. -/
def rowStillCurrent (sidecars : Sidecars) (path : String) (stored : Option β) : Bool :=
  match stored.bind codec.parse with
  | some (.object members) =>
      if (findEntry "engine" members).bind Json.asText ≠ some (bindingEngineLabel path) then false
      else
        match bindingComponentMetadata sidecars path with
        | .ok metadata => decide (storedMetadata members = metadata)
        | .error _ => false
  | _ => false

def storedRowStillCurrent (sidecars : Sidecars) (aliasName path : String) :
    Program (CoreStore β) String Bool :=
  recover
    (do
      let stored ← kvPartitionGet aiComponentsRegistryTable aliasName
      pure (rowStillCurrent codec sidecars path stored))
    fun _ => false

/-- The aliases among scanned rows that the publisher owns. -/
def ownedAliases (page : List (String × β)) : List String :=
  page.filterMap fun row => if rowIsConfigOwned codec (some row.2) then some row.1 else none

/-- A call after its next transaction, and the alias whose row it wrote for a binding. -/
structure Progress (β : Type) where
  store : CoreStore β
  call : Call β
  wrote : Option String := none

/-- One binding of a publication: insert its row if the alias is free. -/
def insertBinding (sidecars : Sidecars) (configured : List String)
    (binding : InferenceComponentBinding) (rest : List InferenceComponentBinding)
    (failures : Nat) (store : CoreStore β) : Progress β :=
  if !binding.publishable then { store, call := .inserting configured rest failures }
  else
    let configured := binding.aliasName :: configured
    match bindingComponentMetadata sidecars binding.path with
    | .error _ => { store, call := .inserting configured rest (failures + 1) }
    | .ok metadata =>
        let value := publishedRow codec binding metadata
        match kvPartitionInsertIfAbsent aiComponentsRegistryTable binding.aliasName value store with
        | (store, .ok true) =>
            { store, call := .inserting configured rest failures, wrote := some binding.aliasName }
        | (store, .ok false) =>
            { store, call := .refreshing configured binding.aliasName value rest failures }
        | (store, .error _) => { store, call := .inserting configured rest (failures + 1) }

/-- The alias was taken: replace the row and hold an upload's row aside. -/
def refreshRow (configured : List String) (aliasName : String) (value : β)
    (rest : List InferenceComponentBinding) (failures : Nat) (store : CoreStore β) : Progress β :=
  match kvPartitionUpdate aiComponentsRegistryTable aliasName
    (fun current => (.set (refreshed codec value current), ())) store with
  | (store, .ok ()) =>
      { store, call := .inserting configured rest failures, wrote := some aliasName }
  | (store, .error _) => { store, call := .inserting configured rest (failures + 1) }

/-- One page of `config_owned_aliases`; a page that is not full is the last. -/
def scanPage (configured : List String) (offset : Nat) (owned : List String) (failures : Nat)
    (store : CoreStore β) : Progress β :=
  match kvPartitionGetRange aiComponentsRegistryTable "" scanEnd pageSize offset store with
  | (store, .error _) => { store, call := .returned (failures + 1) }
  | (store, .ok page) =>
      let owned := owned ++ ownedAliases codec page
      if page.length < pageSize then { store, call := .sweeping configured owned failures }
      else
        { store, call :=
            .scanning configured (saturatingAdd u32Max offset page.length) owned failures }

/-- One alias of the sweep. -/
def sweepAlias (configured : List String) (aliasName : String) (rest : List String)
    (failures : Nat) (store : CoreStore β) : Progress β :=
  if aliasName ∈ configured then { store, call := .sweeping configured rest failures }
  else
    match kvPartitionUpdate aiComponentsRegistryTable aliasName
      (fun current => (swept codec current, ())) store with
    | (store, .ok ()) => { store, call := .sweeping configured rest failures }
    | (store, .error _) => { store, call := .sweeping configured rest (failures + 1) }

/-- One binding of a withdrawal: an alias that will be served as it is keeps its row. -/
def checkBinding (sidecars : Sidecars) (incoming : Dictionary String String)
    (aliasName path : String) (rest : List (String × String)) (store : CoreStore β) :
    Progress β :=
  if incoming.find aliasName = some path then
    match storedRowStillCurrent codec sidecars aliasName path store with
    | (store, .ok true) => { store, call := .checking incoming rest }
    | (store, _) => { store, call := .reserving incoming aliasName rest }
  else { store, call := .reserving incoming aliasName rest }

/-- Reserve an alias; a failure is only logged. The closure says whether it wrote. -/
def reserveAlias (incoming : Dictionary String String) (aliasName : String)
    (rest : List (String × String)) (store : CoreStore β) : Progress β :=
  match kvPartitionUpdate aiComponentsRegistryTable aliasName
    (fun current => (reserved codec aliasName current,
      !(current.isSome && !rowIsConfigOwned codec current))) store with
  | (store, .ok wrote) =>
      { store, call := .checking incoming rest, wrote := if wrote then some aliasName else none }
  | (store, .error _) => { store, call := .checking incoming rest }

def Call.advance (sidecars : Sidecars) (call : Call β) (store : CoreStore β) : Progress β :=
  match call with
  | .inserting configured [] failures => { store, call := .scanning configured 0 [] failures }
  | .inserting configured (binding :: rest) failures =>
      insertBinding codec sidecars configured binding rest failures store
  | .refreshing configured aliasName value rest failures =>
      refreshRow codec configured aliasName value rest failures store
  | .scanning configured offset owned failures =>
      scanPage codec configured offset owned failures store
  | .sweeping _ [] failures => { store, call := .returned failures }
  | .sweeping configured (aliasName :: rest) failures =>
      sweepAlias codec configured aliasName rest failures store
  | .checking _ [] => { store, call := .returned 0 }
  | .checking incoming ((aliasName, path) :: rest) =>
      checkBinding codec sidecars incoming aliasName path rest store
  | .reserving incoming aliasName rest => reserveAlias codec incoming aliasName rest store
  | .returned failures => { store, call := .returned failures }

/-- The publisher runs a call without other writers, for some steps. -/
def Call.walk (sidecars : Sidecars) : Nat → Call β → CoreStore β → Call β × CoreStore β
  | 0, call, store => (call, store)
  | steps + 1, call, store =>
      let progress := call.advance codec sidecars store
      walk sidecars steps progress.call progress.store

/-- The publisher runs a call without other writers: what it returns, and the store
it leaves. -/
def Call.finish (sidecars : Sidecars) : Nat → Call β → CoreStore β → Option (CoreStore β × Nat)
  | _, .returned failures, store => some (store, failures)
  | 0, _, _ => none
  | fuel + 1, call, store =>
      let progress := call.advance codec sidecars store
      finish sidecars fuel progress.call progress.store

/-- Run without other writers, the call returns. -/
def Call.Returns (sidecars : Sidecars) (call : Call β) (store final : CoreStore β)
    (failures : Nat) : Prop :=
  ∃ fuel, call.finish codec sidecars fuel store = some (final, failures)

end

/-! ## Interleavings -/

/-- A node's store, the publisher's calls with the config each one publishes or
withdraws, and for which aliases the calls wrote rows of their bindings. -/
structure RegistryState (β : Type) where
  store : CoreStore β
  calls : List (IntegrityConfig × Call β)
  claimed : List (Nat × String)

/-- What may happen to the table. -/
inductive RegistryEvent (β : Type) where
  | publish (config : IntegrityConfig)
  | withdraw (previous incoming : IntegrityConfig) (order : List (String × String))
  /-- The next transaction of a call. -/
  | advance (index : Nat) (sidecars : Sidecars)
  | perform (operation : Operation β) (sidecars : Sidecars)

variable {β : Type} [DecidableEq β]

def registryMachine (codec : JsonCodec β) : Machine (RegistryState β) (RegistryEvent β) where
  step state
    | .publish config =>
        some { state with
          calls := state.calls ++ [(config, publishConfiguredComponentBindings config)] }
    | .withdraw previous incoming order =>
        if order.isPerm (publishableBindings previous).entries then
          some { state with
            calls := state.calls ++ [(previous, withdrawChangedComponentBindings incoming order)] }
        else none
    | .advance index sidecars =>
        match state.calls[index]? with
        | none => none
        | some (config, call) =>
            let progress := call.advance codec sidecars state.store
            some
              { store := progress.store
                calls := state.calls.set index (config, progress.call)
                claimed := state.claimed ++ progress.wrote.toList.map fun name => (index, name) }
    | .perform operation sidecars =>
        some { state with store := (operation.perform codec sidecars state.store).1 }

end TachyonMesh.ComponentRegistry
