import TachyonMesh.ComponentRegistry.Operations
import TachyonMesh.Foundation.Outcome

/-! # What the writers do to the registry

`perform_effect`: an operation that succeeds was not aimed at a row of the
publisher, and leaves rows that it wrote; one that fails leaves the table as it was.
`advance_step`: the steps of a call of the publisher, each a transaction on at most
one row.
-/

namespace TachyonMesh.ComponentRegistry
open Foundation Store Program Comparison Operation
variable {β : Type} {codec : JsonCodec β}

@[simp] theorem rows_next (store : CoreStore β) : rows store.next = rows store := rfl

@[simp] theorem rows_setTable (store : CoreStore β) (changed : Dictionary String β) :
    rows (store.setTable aiComponentsRegistryTable changed) = changed :=
  store.table_setTable_self _ _

variable {tableName key name : String} {before after : Dictionary String β}
  {update : KvPartitionUpdate β} {value : Option β} {γ : Type} {entries : List (String × β)}

private theorem rows_setTable_of_ne (store : CoreStore β)
    (other : tableName ≠ aiComponentsRegistryTable)
    (changed : Dictionary String β) : rows (store.setTable tableName changed) = rows store := by
  unfold rows
  rw [CoreStore.table_setTable, if_neg other.symm]

/-! ## Operations -/

variable (codec) in
/-- A row that an operation may write. -/
def Operation.Writes (sidecars : Sidecars) (operation : Operation β) (raw : β) : Prop :=
  match operation with
  | .upload event => ∃ metadata,
      bindingComponentMetadata sidecars event.artifactPath = .ok metadata ∧
        raw = codec.encodeFields (uploadedInfo event metadata).fields
  | _ => rowIsConfigOwned codec (some raw) = false

variable (codec) in
/-- What a successful operation does to the rows. -/
structure Operation.Effect (sidecars : Sidecars) (operation : Operation β)
    (before after : Dictionary String β) : Prop where
  unowned : ∀ name, operation.Aims name → rowIsConfigOwned codec (before.find name) = false
  change : ∀ name, after.find name = before.find name ∨
    operation.Aims name ∧ ∀ raw, after.find name = some raw → operation.Writes codec sidecars raw

variable (codec) in
/-- The program has the operation's effect, or fails and leaves the rows as they are. -/
abbrev Operation.DoneBy (sidecars : Sidecars) (operation : Operation β) {α : Type}
    (program : Program (CoreStore β) String α) (store : CoreStore β) : Prop :=
  program.wp (fun _ after => operation.Effect codec sidecars (rows store) (rows after))
    (fun _ after => rows after = rows store) store

variable {sidecars : Sidecars} {operation : Operation β} {store : CoreStore β}

/-- An update of one row that the publisher does not own. -/
theorem Operation.Effect.of_update (aims : ∀ name, operation.Aims name ↔ name = key)
    (unowned : rowIsConfigOwned codec (before.find key) = false)
    (writes : ∀ raw, update = .set raw → operation.Writes codec sidecars raw) :
    operation.Effect codec sidecars before (update.apply key before) where
  unowned := by
    intro name aimed
    rw [(aims name).mp aimed]
    exact unowned
  change := by
    intro name
    rw [find_apply]
    split
    · next aimed =>
      cases update with
      | keep => exact .inl (congrArg before.find aimed.symm)
      | delete => exact .inr ⟨(aims name).mpr aimed, nofun⟩
      | set value =>
        refine .inr ⟨(aims name).mpr aimed, ?_⟩
        intro raw written
        cases written
        exact writes value rfl
    · exact .inl rfl

private theorem Operation.Effect.of_other (elsewhere : ∀ name, ¬operation.Aims name)
    (same : after = before) :
    operation.Effect codec sidecars before after where
  unowned := fun name aimed => absurd aimed (elsewhere name)
  change := fun _ => .inl (same ▸ rfl)

theorem upload_effect (event : ArtifactUploaded) :
    (upload event).DoneBy codec sidecars (publishArtifactUploaded codec sidecars event)
      store := by
  unfold publishArtifactUploaded
  split
  · exact (wp_fail _).mpr rfl
  split
  · exact (wp_fail _).mpr rfl
  refine wp_ofExcept_bind (fun _ _ => rfl) ?_
  intro metadata declared
  rw [writeUploadedComponentRow, wp_bind, wp_mapError]
  apply wp_kvPartitionUpdate (fun _ => rows_next store)
  cases owned : rowIsConfigOwned codec
    ((store.table aiComponentsRegistryTable).find event.aliasName) with
  | true =>
    simp only [if_true, wp_fail, rows_setTable]
    rfl
  | false =>
    simp only [Bool.false_eq_true, if_false, wp_pure, rows_setTable]
    have aimed : ∀ name, (.upload event : Operation β).Aims name ↔
        name = event.aliasName := fun _ => eq_comm
    apply Effect.of_update aimed owned
    intro raw written
    cases written
    exact ⟨metadata, declared, rfl⟩

private theorem unforged_of_reject (passed : rejectForgedConfigMarker codec key value = .ok ()) :
    rowIsConfigOwned codec value = false := by
  unfold rejectForgedConfigMarker at passed
  split at passed
  · cases passed
  · next unforged => exact eq_false_of_ne_true unforged

/-- A guest's operation on one row goes to another table, or to a row of the registry. -/
theorem guest_effect {elsewhere registry : Program (CoreStore β) String γ}
    (aims : ∀ name, operation.Aims name ↔ tableName = aiComponentsRegistryTable ∧ key = name)
    (there : tableName ≠ aiComponentsRegistryTable → (∀ name, ¬operation.Aims name) →
      operation.DoneBy codec sidecars elsewhere store)
    (here : (∀ name, operation.Aims name ↔ name = key) →
      operation.DoneBy codec sidecars registry store) :
    operation.DoneBy codec sidecars
      (if tableName ≠ aiComponentsRegistryTable then elsewhere else registry) store := by
  split
  · next other => exact there other fun name aimed => other ((aims name).mp aimed).1
  · next other =>
    exact here fun name =>
      (aims name).trans ⟨fun both => both.2.symm, fun same => ⟨not_not.mp other, same.symm⟩⟩

private theorem write_effect
    (aims : ∀ name, operation.Aims name ↔ tableName = aiComponentsRegistryTable ∧ key = name)
    (writes : ∀ raw, value = some raw → rowIsConfigOwned codec (some raw) = false →
      operation.Writes codec sidecars raw) :
    operation.DoneBy codec sidecars (applyGuestRegistryWrite codec tableName key value) store := by
  refine guest_effect aims (fun other elsewhere => ?_) fun aimed => ?_
  · cases value with
    | some | none =>
      apply wp_transact (fun _ => rows_next store)
      rintro _ _ committed
      cases committed
      exact .of_other elsewhere (rows_setTable_of_ne _ other _)
  · refine wp_ofExcept_bind (fun _ _ => rfl) ?_
    intro _ passed
    rw [wp_bind]
    apply wp_kvPartitionUpdate (fun _ => rows_next store)
    cases owned : rowIsConfigOwned codec ((store.table aiComponentsRegistryTable).find key) with
    | true =>
      simp only [if_true, wp_fail, rows_setTable]
      rfl
    | false =>
      cases value with
      | some value =>
        simp only [Bool.false_eq_true, if_false, wp_pure, rows_setTable]
        apply Effect.of_update aimed owned
        intro raw written
        cases written
        exact writes value rfl (unforged_of_reject passed)
      | none =>
        simp only [Bool.false_eq_true, if_false, wp_pure, rows_setTable]
        apply Effect.of_update aimed owned
        intro raw written
        cases written

/-- The registry's branch of a guest's compare-and-swap. -/
theorem comparison_effect {test : Option β → Prop} [DecidablePred test]
    (aims : ∀ name, operation.Aims name ↔ name = key)
    (writes : ∀ raw, update = .set raw → operation.Writes codec sidecars raw) :
    operation.DoneBy codec sidecars (kvPartitionUpdate aiComponentsRegistryTable key (fun current =>
      if rowIsConfigOwned codec current then (.keep, aliasTaken)
      else if test current then (update, .applied)
      else (.keep, .unchanged)) >>= answer key) store := by
  unfold DoneBy
  rw [wp_bind]
  apply wp_kvPartitionUpdate (fun _ => rows_next store)
  cases owned : rowIsConfigOwned codec ((store.table aiComponentsRegistryTable).find key) with
  | true =>
    simp only [if_true, answer, wp_fail, rows_setTable]
    rfl
  | false =>
    by_cases agrees : test ((store.table aiComponentsRegistryTable).find key)
    · simp only [Bool.false_eq_true, if_false, if_pos agrees, answer,
        wp_pure, rows_setTable]
      exact .of_update aims owned writes
    · simp only [Bool.false_eq_true, if_false, if_neg agrees, answer,
        wp_pure, rows_setTable]
      apply Effect.of_update aims owned
      intro raw written
      cases written

private theorem otherUpdate_effect {update : Option β → KvPartitionUpdate β × γ}
    (other : tableName ≠ aiComponentsRegistryTable) (elsewhere : ∀ name, ¬operation.Aims name) :
    operation.DoneBy codec sidecars (kvPartitionUpdate tableName key update) store := by
  apply wp_kvPartitionUpdate (fun _ => rows_next store)
  exact .of_other elsewhere (rows_setTable_of_ne _ other _)

/-! A batch that is accepted met no row of the publisher: an entry that would have
overwritten one is refused at its own turn, since no earlier entry touched that row. -/

private theorem acceptEntries_unowned
    (accepted : acceptEntries (acceptUnowned codec) entries before = .ok after)
    (listed : name ∈ entries.map Prod.fst) : rowIsConfigOwned codec (before.find name) = false := by
  induction entries generalizing before with
  | nil => cases listed
  | cons entry rest ih =>
    obtain ⟨key, _⟩ := entry
    unfold acceptEntries acceptUnowned at accepted
    cases owned : rowIsConfigOwned codec (before.find key) with
    | true => simp [owned] at accepted
    | false =>
    simp only [owned, Bool.false_eq_true, if_false] at accepted
    by_cases same : name = key
    · rwa [same]
    · have later : name ∈ rest.map Prod.fst := (List.mem_cons.mp listed).resolve_left same
      have unowned := ih accepted later
      rwa [Dictionary.find_insert, if_neg same] at unowned

private theorem acceptEntries_change {accept : String → Option β → Except String Unit}
    (accepted : acceptEntries accept entries before = .ok after) (name : String) :
    after.find name = before.find name ∨
      ∃ raw, (name, raw) ∈ entries ∧ after.find name = some raw := by
  induction entries generalizing before with
  | nil =>
    cases accepted
    exact .inl rfl
  | cons entry _ ih =>
    obtain ⟨_, value⟩ := entry
    unfold acceptEntries at accepted
    split at accepted
    · cases accepted
    rcases ih accepted with kept | ⟨raw, listed, found⟩
    · rw [Dictionary.find_insert] at kept
      split at kept
      · next same => exact .inr ⟨value, same ▸ List.mem_cons_self, kept⟩
      · exact .inl kept
    · exact .inr ⟨raw, List.mem_cons_of_mem _ listed, found⟩

private theorem unforged_of_rejects (passed : rejectForgedConfigMarkers codec entries = .ok ())
    {raw : β}
    (listed : (name, raw) ∈ entries) : rowIsConfigOwned codec (some raw) = false := by
  induction entries with
  | nil => cases listed
  | cons entry _ ih =>
    obtain ⟨_, _⟩ := entry
    obtain ⟨_, first, passed⟩ := bind_eq_ok.mp passed
    rcases List.mem_cons.mp listed with same | later
    · cases same
      exact unforged_of_reject first
    · exact ih passed later

private theorem batch_effect (tableName : String) (entries : List (String × β)) :
    (batchSet tableName entries).DoneBy codec sidecars
      (applyGuestRegistryBatch codec tableName entries) store := by
  unfold applyGuestRegistryBatch
  split
  · next other =>
    apply wp_transact (fun _ => rows_next store)
    intro changed answer committed
    exact .of_other (fun name aimed => other aimed.1) (rows_setTable_of_ne _ other _)
  next here =>
  refine wp_ofExcept_bind (fun _ _ => rfl) ?_
  intro _ passed
  apply wp_transact (fun _ => rows_next store)
  intro changed answer committed
  split at committed
  · next _ accepted =>
    cases committed
    constructor
    · intro name aimed
      exact acceptEntries_unowned accepted aimed.2
    · intro name
      rcases acceptEntries_change accepted name with kept | ⟨raw, listed, found⟩
      · exact .inl kept
      refine .inr ⟨⟨not_not.mp here, List.mem_map_of_mem listed⟩, ?_⟩
      intro written read
      have same : written = raw := Option.some.inj (read.symm.trans found)
      rw [same]
      exact unforged_of_rejects passed listed
  · cases committed

variable [DecidableEq β]

omit [DecidableEq β] in
/-- Wrapping the value that a program returns does not change what it does. -/
theorem answered {α : Type} {program : Program (CoreStore β) String α} {answer : α → γ}
    {after failed : CoreStore β → Prop}
    (effect : program.wp (fun _ => after) (fun _ => failed) store) :
    (program >>= fun value => pure (answer value)).wp (fun _ => after) (fun _ => failed) store :=
  wp_bind_intro effect fun _ _ reached => (wp_pure _).mpr reached

theorem perform_effect (operation : Operation β) (sidecars : Sidecars) (store : CoreStore β) :
    operation.DoneBy codec sidecars (operation.perform codec sidecars) store := by
  cases operation with
  | upload event => exact answered (upload_effect event)
  | set | delete =>
    refine answered (write_effect (fun _ => Iff.rfl) ?_)
    intro raw same unforged
    exact unforged
  | compareAndSet =>
    refine answered (guest_effect (fun _ => Iff.rfl) otherUpdate_effect fun aims => ?_)
    refine wp_ofExcept_bind (fun _ _ => rfl) ?_
    intro _ passed
    apply comparison_effect aims
    intro raw written
    cases written
    exact unforged_of_reject passed
  | compareAndDelete =>
    refine answered (guest_effect (fun _ => Iff.rfl) otherUpdate_effect fun aims => ?_)
    apply comparison_effect aims
    intro raw written
    cases written
  | batchSet tableName entries => exact answered (batch_effect tableName entries)

/-! ## The publisher -/

omit [DecidableEq β]

/-- The store after a transaction that updates the row of one alias. -/
def updateRow (store : CoreStore β) (name : String) (update : Option β → KvPartitionUpdate β) :
    CoreStore β :=
  store.updateRow aiComponentsRegistryTable name update

/-- The store after a transaction that only read. -/
def readRows (store : CoreStore β) : CoreStore β := store.readTable aiComponentsRegistryTable

@[simp] theorem rows_readRows (store : CoreStore β) : rows (readRows store) = rows store :=
  rows_setTable _ _

@[simp] theorem rows_updateRow (store : CoreStore β) (name : String)
    (update : Option β → KvPartitionUpdate β) :
    rows (updateRow store name update) =
      (update ((rows store).find name)).apply name (rows store) :=
  rows_setTable _ _

variable (codec) in
/-- The steps of a call of the publisher. A step that fails does so because its
transaction met a fault, or because a sidecar could not be read. -/
inductive Call.Step (sidecars : Sidecars) (store : CoreStore β) : Call β → Progress β → Prop
  | visited {configured failures} :
      Step sidecars store (.inserting configured [] failures)
        ⟨store, .scanning configured 0 [] failures, none⟩
  | skipped {configured binding rest failures} (hidden : binding.publishable = false) :
      Step sidecars store (.inserting configured (binding :: rest) failures)
        ⟨store, .inserting configured rest failures, none⟩
  | unreadable {configured binding rest failures error} (shown : binding.publishable)
      (broken : bindingComponentMetadata sidecars binding.path = .error error) :
      Step sidecars store (.inserting configured (binding :: rest) failures)
        ⟨store, .inserting (binding.aliasName :: configured) rest (failures + 1), none⟩
  | insertFailed {configured binding rest failures fault} (shown : binding.publishable)
      (failed : store.faults 0 = some fault) :
      Step sidecars store (.inserting configured (binding :: rest) failures)
        ⟨store.next, .inserting (binding.aliasName :: configured) rest (failures + 1), none⟩
  | inserted {configured binding rest failures metadata} (shown : binding.publishable)
      (declared : bindingComponentMetadata sidecars binding.path = .ok metadata)
      (free : (rows store).find binding.aliasName = none) :
      Step sidecars store (.inserting configured (binding :: rest) failures)
        ⟨updateRow store binding.aliasName fun _ => .set (publishedRow codec binding metadata),
          .inserting (binding.aliasName :: configured) rest failures, some binding.aliasName⟩
  | occupied {configured binding rest failures metadata} (shown : binding.publishable)
      (declared : bindingComponentMetadata sidecars binding.path = .ok metadata)
      (present : (rows store).find binding.aliasName ≠ none) :
      Step sidecars store (.inserting configured (binding :: rest) failures)
        ⟨readRows store, .refreshing (binding.aliasName :: configured) binding.aliasName
          (publishedRow codec binding metadata) rest failures, none⟩
  | refreshFailed {configured name value rest failures fault}
      (failed : store.faults 0 = some fault) :
      Step sidecars store (.refreshing configured name value rest failures)
        ⟨store.next, .inserting configured rest (failures + 1), none⟩
  | refreshed {configured name value rest failures} :
      Step sidecars store (.refreshing configured name value rest failures)
        ⟨updateRow store name fun current => .set (ComponentRegistry.refreshed codec value current),
          .inserting configured rest failures, some name⟩
  | scanFailed {configured offset owned failures fault} (failed : store.faults 0 = some fault) :
      Step sidecars store (.scanning configured offset owned failures)
        ⟨store.next, .returned (failures + 1), none⟩
  | scannedPage {configured offset owned failures page}
      (read : page = ((rowsInRange "" scanEnd (rows store)).drop offset).take pageSize)
      (full : ¬page.length < pageSize) :
      Step sidecars store (.scanning configured offset owned failures)
        ⟨readRows store, .scanning configured (saturatingAdd u32Max offset page.length)
          (owned ++ ownedAliases codec page) failures, none⟩
  | scannedLast {configured offset owned failures page}
      (read : page = ((rowsInRange "" scanEnd (rows store)).drop offset).take pageSize)
      (last : page.length < pageSize) :
      Step sidecars store (.scanning configured offset owned failures)
        ⟨readRows store, .sweeping configured (owned ++ ownedAliases codec page) failures, none⟩
  | sweptAll {configured failures} :
      Step sidecars store (.sweeping configured [] failures) ⟨store, .returned failures, none⟩
  | sweepSkipped {configured name rest failures} (kept : name ∈ configured) :
      Step sidecars store (.sweeping configured (name :: rest) failures)
        ⟨store, .sweeping configured rest failures, none⟩
  | sweepFailed {configured name rest failures fault} (gone : name ∉ configured)
      (failed : store.faults 0 = some fault) :
      Step sidecars store (.sweeping configured (name :: rest) failures)
        ⟨store.next, .sweeping configured rest (failures + 1), none⟩
  | swept {configured name rest failures} (gone : name ∉ configured) :
      Step sidecars store (.sweeping configured (name :: rest) failures)
        ⟨updateRow store name (ComponentRegistry.swept codec),
          .sweeping configured rest failures, none⟩
  | checkedAll {incoming} : Step sidecars store (.checking incoming []) ⟨store, .returned 0, none⟩
  | unchanged {incoming name path rest} (same : incoming.find name = some path)
      (current : rowStillCurrent codec sidecars path ((rows store).find name)) :
      Step sidecars store (.checking incoming ((name, path) :: rest))
        ⟨readRows store, .checking incoming rest, none⟩
  | outdated {incoming name path rest} (same : incoming.find name = some path)
      (stale : rowStillCurrent codec sidecars path ((rows store).find name) = false) :
      Step sidecars store (.checking incoming ((name, path) :: rest))
        ⟨readRows store, .reserving incoming name rest, none⟩
  | checkFailed {incoming name path rest fault} (same : incoming.find name = some path)
      (failed : store.faults 0 = some fault) :
      Step sidecars store (.checking incoming ((name, path) :: rest))
        ⟨store.next, .reserving incoming name rest, none⟩
  | rebound {incoming name path rest} (different : incoming.find name ≠ some path) :
      Step sidecars store (.checking incoming ((name, path) :: rest))
        ⟨store, .reserving incoming name rest, none⟩
  | reserveFailed {incoming name rest fault} (failed : store.faults 0 = some fault) :
      Step sidecars store (.reserving incoming name rest)
        ⟨store.next, .checking incoming rest, none⟩
  | reserved {incoming name rest} :
      Step sidecars store (.reserving incoming name rest)
        ⟨updateRow store name (ComponentRegistry.reserved codec name), .checking incoming rest,
          if !(((rows store).find name).isSome && !rowIsConfigOwned codec ((rows store).find name))
          then some name else none⟩
  | returned {failures} : Step sidecars store (.returned failures) ⟨store, .returned failures, none⟩

section
variable (configured : List String)
include configured

private theorem step_of_insertBinding (binding : InferenceComponentBinding)
    (rest : List InferenceComponentBinding) (failures : Nat) :
    Call.Step codec sidecars store (.inserting configured (binding :: rest) failures)
      (insertBinding codec sidecars configured binding rest failures store) := by
  unfold insertBinding kvPartitionInsertIfAbsent transact
  cases shown : binding.publishable with
  | false => exact .skipped shown
  | true =>
    cases declared : bindingComponentMetadata sidecars binding.path with
    | error => exact .unreadable shown declared
    | ok =>
      cases failed : store.faults 0 with
      | some => exact .insertFailed shown failed
      | none =>
        dsimp only
        cases present : (store.table aiComponentsRegistryTable).find binding.aliasName with
        | none => exact .inserted shown declared present
        | some row => exact .occupied shown declared (present ▸ Option.some_ne_none row)

private theorem step_of_refreshRow (name : String) (value : β)
    (rest : List InferenceComponentBinding)
    (failures : Nat) :
    Call.Step codec sidecars store (.refreshing configured name value rest failures)
      (refreshRow codec configured name value rest failures store) := by
  unfold refreshRow kvPartitionUpdate transact
  cases failed : store.faults 0 with
  | some => exact .refreshFailed failed
  | none => exact .refreshed

private theorem step_of_scanPage (offset : Nat) (owned : List String) (failures : Nat) :
    Call.Step codec sidecars store (.scanning configured offset owned failures)
      (scanPage codec configured offset owned failures store) := by
  unfold scanPage kvPartitionGetRange transact
  cases failed : store.faults 0 with
  | some => exact .scanFailed failed
  | none =>
    dsimp only
    split
    · next last => exact .scannedLast rfl last
    · next full => exact .scannedPage rfl full

private theorem step_of_sweepAlias (name : String) (rest : List String) (failures : Nat) :
    Call.Step codec sidecars store (.sweeping configured (name :: rest) failures)
      (sweepAlias codec configured name rest failures store) := by
  unfold sweepAlias kvPartitionUpdate transact
  split
  · next kept => exact .sweepSkipped kept
  · next gone =>
    cases failed : store.faults 0 with
    | some => exact .sweepFailed gone failed
    | none => exact .swept gone

end

private theorem step_of_checkBinding (incoming : Dictionary String String) (name path : String)
    (rest : List (String × String)) :
    Call.Step codec sidecars store (.checking incoming ((name, path) :: rest))
      (checkBinding codec sidecars incoming name path rest store) := by
  unfold checkBinding
  split
  · next same =>
    cases failed : store.faults 0 with
    | some fault =>
      have ended :
          kvPartitionGet aiComponentsRegistryTable name store = (store.next, .error fault) := by
        rw [kvPartitionGet, transact, failed]
      rw [storedRowStillCurrent, recover, bind_of_error ended]
      exact .checkFailed same failed
    | none =>
      have ended : kvPartitionGet aiComponentsRegistryTable name store =
          (readRows store, .ok ((rows store).find name)) := by
        rw [kvPartitionGet, transact, failed]
        rfl
      rw [storedRowStillCurrent, recover, bind_of_ok ended]
      cases current : rowStillCurrent codec sidecars path ((rows store).find name) with
      | true => exact .unchanged same current
      | false => exact .outdated same current
  · next different => exact .rebound different

private theorem step_of_reserveAlias (incoming : Dictionary String String) (name : String)
    (rest : List (String × String)) :
    Call.Step codec sidecars store (.reserving incoming name rest)
      (reserveAlias codec incoming name rest store) := by
  unfold reserveAlias kvPartitionUpdate transact
  cases failed : store.faults 0 with
  | some => exact .reserveFailed failed
  | none => exact .reserved

theorem advance_step (call : Call β) :
    Call.Step codec sidecars store call (call.advance codec sidecars store) := by
  match call with
  | .inserting _ [] _ => exact .visited
  | .inserting configured (binding :: rest) failures =>
    exact step_of_insertBinding configured binding rest failures
  | .refreshing configured name value rest failures =>
    exact step_of_refreshRow configured name value rest failures
  | .scanning configured offset owned failures =>
    exact step_of_scanPage configured offset owned failures
  | .sweeping _ [] _ => exact .sweptAll
  | .sweeping configured (name :: rest) failures =>
    exact step_of_sweepAlias configured name rest failures
  | .checking _ [] => exact .checkedAll
  | .checking incoming ((name, path) :: rest) => exact step_of_checkBinding incoming name path rest
  | .reserving incoming name rest => exact step_of_reserveAlias incoming name rest
  | .returned _ => exact .returned

end TachyonMesh.ComponentRegistry
