import TachyonMesh.ComponentRegistry.Effects
import TachyonMesh.Foundation.Slots

/-! # Ownership of registry rows

A row with the publisher's mark is out of reach of uploads and guests, in every
interleaving (`owned_rows_spared`). That only the publisher puts the mark on a row
holds as long as no uploaded artifact's sidecar declares it: the bag is flattened
into the upload's row, and `source` is one more key of it
(`upload_mints_ownership`, `ownership_minted_by_publisher`).
-/

namespace TachyonMesh.ComponentRegistry
open Foundation Store List Program
variable {β : Type} {codec : JsonCodec β}

variable (codec) in
def Owned (table : Dictionary String β) (name : String) : Prop :=
  rowIsConfigOwned codec (table.find name)
deriving Decidable

/-- The program fails and leaves the whole table as it was. -/
def Refused {α : Type} (program : Program (CoreStore β) String α) (store : CoreStore β) : Prop :=
  ∃ error, (program store).2 = .error error ∧ rows (program store).1 = rows store

variable {store : CoreStore β} {name : String} {config : IntegrityConfig} {sidecars : Sidecars}
  {progress : Progress β} {state : RegistryState β}

private theorem refused_of_wp {α : Type} {program : Program (CoreStore β) String α}
    (established : program.wp (fun _ _ => False) (fun _ after => rows after = rows store) store) :
    Refused program store := by
  obtain ⟨_, error, ended, kept⟩ := fails_of_wp established
  refine ⟨error, ?_, ?_⟩
  · rw [ended]
  · rw [ended]
    exact kept

private theorem writeUploadedComponentRow_refused (owned : Owned codec (rows store) name)
    (value : β) :
    Refused (writeUploadedComponentRow codec name value) store := by
  apply refused_of_wp
  rw [writeUploadedComponentRow, wp_bind, wp_mapError]
  apply wp_kvPartitionUpdate (fun _ => rows_next store)
  have taken : rowIsConfigOwned codec ((store.table aiComponentsRegistryTable).find name) := owned
  simp only [taken, if_true, wp_fail, rows_setTable]
  rfl

/-! ## Minting the mark -/

/-- The config has a binding that is published under the alias. -/
def IntegrityConfig.Publishes (config : IntegrityConfig) (name : String) : Prop :=
  ∃ binding ∈ config.bindings, binding.publishable ∧ binding.aliasName = name

variable (codec) in
/-- Every row with the mark sits at an alias that a call of the publisher wrote for a
binding of its config. -/
def RegistryState.Minted (state : RegistryState β) : Prop :=
  ∀ name, Owned codec (rows state.store) name →
    ∃ index config call, (index, name) ∈ state.claimed ∧
      state.calls[index]? = some (config, call) ∧ config.Publishes name

variable (codec) in
/-- An upload leaves no row that reads as the publisher's: when it succeeds its row
has no mark, and when it fails there is no new row. -/
def RegistryEvent.LeavesNoMark (state : RegistryState β) (event : RegistryEvent β) : Prop :=
  match event with
  | .perform (.upload uploaded) sidecars =>
      (publishArtifactUploaded codec sidecars uploaded).wp
        (fun _ after => ¬Owned codec (rows after) uploaded.aliasName)
        (fun _ after => rows after = rows state.store) state.store
  | _ => True

/-- The sidecar of an uploaded artifact does not declare the publisher's mark. -/
def RegistryEvent.Honest (event : RegistryEvent β) : Prop :=
  match event with
  | .perform (.upload uploaded) sidecars =>
      ∀ metadata, bindingComponentMetadata sidecars uploaded.artifactPath = .ok metadata →
        metadata.find "source" ≠ some registrySourceConfig
  | _ => True

/-- A call only has bindings of its config left to visit. -/
def Call.Within (config : IntegrityConfig) (call : Call β) : Prop :=
  match call with
  | .inserting _ bindings _ => ∀ binding ∈ bindings, binding ∈ config.bindings
  | .refreshing _ name _ bindings _ =>
      config.Publishes name ∧ ∀ binding ∈ bindings, binding ∈ config.bindings
  | .checking _ bindings => ∀ binding ∈ bindings, config.Publishes binding.1
  | .reserving _ name bindings =>
      config.Publishes name ∧ ∀ binding ∈ bindings, config.Publishes binding.1
  | _ => True

section
variable {call : Call β} (within : call.Within config)
  (step : Call.Step codec sidecars store call progress)
include within step

private theorem Call.Within.advance : progress.call.Within config := by
  cases step with
  | skipped | unreadable | insertFailed | inserted =>
    exact fun binding left => within binding (mem_cons_of_mem _ left)
  | occupied shown =>
    exact ⟨⟨_, within _ mem_cons_self, shown, rfl⟩,
      fun binding left => within binding (mem_cons_of_mem _ left)⟩
  | refreshFailed | refreshed | reserveFailed | reserved => exact within.2
  | unchanged => exact fun binding left => within binding (mem_cons_of_mem _ left)
  | outdated | checkFailed | rebound =>
    exact ⟨within _ mem_cons_self,
      fun binding left => within binding (mem_cons_of_mem _ left)⟩
  | _ => trivial

private theorem Call.Within.wrote (wrote : progress.wrote = some name) : config.Publishes name := by
  cases step with
  | inserted shown =>
    cases wrote
    exact ⟨_, within _ mem_cons_self, shown, rfl⟩
  | refreshed =>
    cases wrote
    exact within.1
  | reserved =>
    split at wrote
    · cases wrote
      exact within.1
    · cases wrote
  | _ => cases wrote

end

theorem not_owned_swept (current : Option β) :
    swept codec current = .keep ∨ swept codec current = .delete ∨
      ∃ restored, swept codec current = .set restored ∧
        rowIsConfigOwned codec (some restored) = false := by
  unfold swept
  by_cases owned : rowIsConfigOwned codec current
  · simp only [owned, Bool.not_true, Bool.false_eq_true, if_false]
    rw [shadowedUploadRow_of_owned owned]
    cases held : heldAside codec current with
    | none => exact .inr (.inl rfl)
    | some row =>
      refine .inr (.inr ⟨codec.encode row, rfl, ?_⟩)
      rw [rowIsConfigOwned_encode (fits_of_heldAside held)]
      exact not_configOwned_of_heldAside held
  · simp [owned]

theorem owned_of_apply {table : Dictionary String β} {update : KvPartitionUpdate β} {other : String}
    (owned : Owned codec (update.apply other table) name) :
    Owned codec table name ∨
      name = other ∧ ∃ raw, update = .set raw ∧ rowIsConfigOwned codec (some raw) := by
  rw [Owned, find_apply] at owned
  split at owned
  · next same =>
    cases update with
    | keep => exact .inl (same ▸ owned)
    | set raw => exact .inr ⟨same, raw, rfl, owned⟩
    | delete => cases owned
  · exact .inl owned

/-- A step of the publisher puts the mark only on the row it wrote for a binding. -/
theorem owned_of_step {call : Call β} (step : Call.Step codec sidecars store call progress)
    (owned : Owned codec (rows progress.store) name) :
    Owned codec (rows store) name ∨ progress.wrote = some name := by
  cases step with
  | inserted | refreshed =>
    rw [rows_updateRow] at owned
    rcases owned_of_apply owned with before | ⟨same, _⟩
    · exact .inl before
    · exact .inr (congrArg some same.symm)
  | swept =>
    dsimp only at owned
    rcases owned_of_apply owned with before | ⟨_, _, written, marked⟩
    · exact .inl before
    rcases not_owned_swept _ with kept | deleted | ⟨_, restores, unmarked⟩
    · cases kept.symm.trans written
    · cases deleted.symm.trans written
    · cases restores.symm.trans written
      exact absurd (marked.symm.trans unmarked) (by decide)
  | reserved =>
    rw [rows_updateRow] at owned
    rcases owned_of_apply owned with before | ⟨same, _, written, _⟩
    · exact .inl before
    -- A row of an upload is kept, so the update was not a write there.
    right
    unfold reserved at written
    split at written
    · cases written
    · next ours =>
      rw [eq_false_of_ne_true ours, same]
      rfl
  | occupied | scannedPage | scannedLast | unchanged | outdated =>
    exact .inl owned
  | _ => exact .inl owned

theorem mem_publishableBindings {path : String}
    (listed : (name, path) ∈ (publishableBindings config).entries) :
    ∃ binding ∈ config.bindings,
      binding.publishable ∧ binding.aliasName = name ∧ binding.path = path := by
  have found := Dictionary.find_eq_some.mpr listed
  rw [publishableBindings, Dictionary.find_ofList] at found
  obtain ⟨binding, present, same⟩ := mem_map.mp (mem_reverse.mp (mem_of_findEntry found))
  obtain ⟨bound, shown⟩ := mem_filter.mp present
  cases same
  exact ⟨binding, bound, shown, rfl, rfl⟩

variable {operation : Operation β}

private theorem Operation.Effect.unmarked {before after : Dictionary String β}
    (effect : operation.Effect codec sidecars before after)
    (honest : (RegistryEvent.perform operation sidecars).Honest)
    (owned : Owned codec after name) : Owned codec before name := by
  rcases effect.change name with kept | ⟨_, writes⟩
  · rw [Owned, kept] at owned
    exact owned
  obtain ⟨raw, _, found, parsed, marked⟩ := parse_of_rowIsConfigOwned owned
  have mark : rowIsConfigOwned codec (some raw) := (rowIsConfigOwned_of_parse parsed).trans marked
  have written := writes raw found
  cases operation with
  | upload =>
    obtain ⟨metadata, declared, rfl⟩ := written
    rw [rowIsConfigOwned_of_parse (parse_row _), configOwned_row, uploadedInfo, Option.or_none,
      decide_eq_true_eq] at mark
    exact absurd mark (honest metadata declared)
  | _ => exact absurd (mark.symm.trans written) (by decide)

variable (codec) in
/-- What every reached state keeps: calls stay within their config, and every mark
goes back to an alias that a call wrote. -/
structure RegistryState.Traced (state : RegistryState β) : Prop where
  within : ∀ entry ∈ state.calls, entry.2.Within entry.1
  claims : ∀ index name, (index, name) ∈ state.claimed →
    ∃ config call, state.calls[index]? = some (config, call) ∧ config.Publishes name
  marks : ∀ name, Owned codec (rows state.store) name → ∃ index, (index, name) ∈ state.claimed

private theorem RegistryState.Traced.minted (traced : state.Traced codec) : state.Minted codec := by
  intro name owned
  obtain ⟨index, claimed⟩ := traced.marks name owned
  obtain ⟨config, call, found, publishes⟩ := traced.claims index name claimed
  exact ⟨index, config, call, claimed, found, publishes⟩

/-- A new call, which has written nothing. -/
theorem RegistryState.Traced.call (traced : state.Traced codec) {call : Call β}
    (within : call.Within config) :
    { state with calls := state.calls ++ [(config, call)] : RegistryState β }.Traced codec where
  within := forall_mem_push traced.within within
  claims := by
    intro index name claimed
    obtain ⟨config, call, found, publishes⟩ := traced.claims index name claimed
    exact ⟨config, call, getElem?_append_of_some found, publishes⟩
  marks := traced.marks

private theorem RegistryState.Traced.advance (traced : state.Traced codec) {index : Nat}
    {call : Call β}
    (found : state.calls[index]? = some (config, call))
    (step : Call.Step codec sidecars state.store call progress) :
    { store := progress.store
      calls := state.calls.set index (config, progress.call)
      claimed := state.claimed ++ progress.wrote.toList.map fun name => (index, name) :
        RegistryState β }.Traced codec where
  within := forall_mem_set traced.within ((traced.within _ (mem_of_getElem? found)).advance step)
  claims := by
    intro other name claimed
    rcases mem_append.mp claimed with old | new
    · obtain ⟨owner, earlier, present, publishes⟩ := traced.claims other name old
      by_cases same : other = index
      · subst same
        cases found.symm.trans present
        exact ⟨config, progress.call, getElem?_set_of_some found, publishes⟩
      · exact ⟨owner, earlier, (getElem?_set_ne (Ne.symm same)).trans present, publishes⟩
    · obtain ⟨_, wrote, same⟩ := mem_map.mp new
      cases same
      have publishes := (traced.within _ (mem_of_getElem? found)).wrote step
        (Option.mem_toList.mp wrote)
      exact ⟨config, progress.call, getElem?_set_of_some found, publishes⟩
  marks := by
    intro name owned
    rcases owned_of_step step owned with before | wrote
    · obtain ⟨other, claimed⟩ := traced.marks name before
      exact ⟨other, mem_append_left _ claimed⟩
    · refine ⟨index, mem_append_right _ ?_⟩
      rw [wrote]
      exact mem_singleton_self _

section
variable [DecidableEq β] {store : CoreStore β} {name : String} {state : RegistryState β}
  {event : RegistryEvent β}

theorem perform_refused (owned : Owned codec (rows store) name) (aimed : operation.Aims name)
    (sidecars : Sidecars) : Refused (operation.perform codec sidecars) store := by
  apply refused_of_wp
  apply wp_mono (perform_effect operation sidecars store)
  · intro answer after effect
    have unowned := effect.unowned name aimed
    exact absurd (owned.symm.trans unowned) (by decide)
  · exact fun _ _ kept => kept

theorem perform_keeps_owned (owned : Owned codec (rows store) name) (operation : Operation β)
    (sidecars : Sidecars) :
    (rows (operation.perform codec sidecars store).1).find name = (rows store).find name := by
  by_cases aimed : operation.Aims name
  · obtain ⟨-, _, kept⟩ := perform_refused owned aimed sidecars
    rw [kept]
  have kept : (operation.perform codec sidecars).wp
      (fun _ after => (rows after).find name = (rows store).find name)
      (fun _ after => (rows after).find name = (rows store).find name) store := by
    apply wp_mono (perform_effect operation sidecars store)
    · intro answer after effect
      exact (effect.change name).resolve_right fun both => aimed both.1
    · intro error after same
      rw [same]
  exact of_wp kept

variable (codec) in
/-- No upload and no guest reaches a row of the publisher: what is aimed at one fails
and changes nothing at all. -/
def RegistryState.Guarded (state : RegistryState β) : Prop :=
  ∀ name, Owned codec (rows state.store) name →
    (∀ value, Refused (writeUploadedComponentRow codec name value) state.store) ∧
    ∀ (operation : Operation β) sidecars,
      (operation.Aims name → Refused (operation.perform codec sidecars) state.store) ∧
      (rows (operation.perform codec sidecars state.store).1).find name =
        (rows state.store).find name

private theorem guarded (state : RegistryState β) : state.Guarded codec := by
  intro name owned
  refine ⟨writeUploadedComponentRow_refused owned, ?_⟩
  intro operation sidecars
  exact ⟨fun aimed => perform_refused owned aimed sidecars,
    perform_keeps_owned owned operation sidecars⟩

/-- In every interleaving, from every table, rows of the publisher are out of reach. -/
theorem owned_rows_spared (codec : JsonCodec β) (start : RegistryState β)
    (events : List (RegistryEvent β)) :
    (registryMachine codec).Along (fun state _ => state.Guarded codec) start events :=
  Machine.along_of_invariant (fun _ _ _ => trivial) (fun _ _ => guarded _) trivial
    (Machine.along_true start events)

/-- The empty table, before any call. -/
def RegistryState.Fresh (state : RegistryState β) : Prop :=
  rows state.store = .empty ∧ state.calls = [] ∧ state.claimed = []

omit [DecidableEq β] in
private theorem traced_fresh (fresh : state.Fresh) : state.Traced codec := by
  obtain ⟨empty, idle, unclaimed⟩ := fresh
  constructor
  · rw [idle]
    exact nofun
  · rw [unclaimed]
    exact nofun
  · intro name owned
    rw [Owned, empty] at owned
    cases owned

private theorem RegistryState.Traced.step {next : RegistryState β} (traced : state.Traced codec)
    (honest : event.Honest)
    (stepped : (registryMachine codec).step state event = some next) : next.Traced codec := by
  cases event with
  | publish =>
    cases stepped
    exact traced.call fun binding present => present
  | withdraw =>
    simp only [registryMachine] at stepped
    split at stepped
    · next arranged =>
      cases stepped
      apply traced.call
      rintro ⟨_, _⟩ listed
      have known := (isPerm_iff.mp arranged).mem_iff.mp listed
      obtain ⟨binding, bound, shown, named, _⟩ := mem_publishableBindings known
      exact ⟨binding, bound, shown, named⟩
    · cases stepped
  | advance =>
    simp only [registryMachine] at stepped
    split at stepped
    · cases stepped
    · next _ call found =>
      cases stepped
      exact traced.advance found (advance_step call)
  | perform operation sidecars =>
    cases stepped
    refine ⟨traced.within, traced.claims, ?_⟩
    intro name
    have kept : (operation.perform codec sidecars).wp
        (fun _ after => Owned codec (rows after) name → Owned codec (rows state.store) name)
        (fun _ after => Owned codec (rows after) name → Owned codec (rows state.store) name)
        state.store := by
      apply wp_mono (perform_effect operation sidecars state.store)
      · exact fun _ after effect => effect.unmarked honest
      · intro error after same
        rw [same]
        exact id
    exact fun owned => traced.marks name (of_wp kept owned)

omit [DecidableEq β] in
private theorem leavesNoMark_of_honest (honest : event.Honest)
    (state : RegistryState β) : event.LeavesNoMark codec state := by
  match event with
  | .perform (.upload uploaded) sidecars =>
    apply wp_mono (upload_effect uploaded)
    · intro _ after effect owned
      have before := effect.unmarked honest owned
      exact absurd (before.symm.trans (effect.unowned _ rfl)) (by decide)
    · exact fun _ _ same => same
  | .perform (.set ..) _ | .perform (.delete ..) _ | .perform (.compareAndSet ..) _
  | .perform (.compareAndDelete ..) _ | .perform (.batchSet ..) _ => trivial
  | .publish _ | .withdraw .. | .advance .. => trivial

/-- In every run from the empty table whose uploads declare no mark, a row with the
mark sits at an alias that a call of the publisher wrote for a binding, and no upload
leaves one behind. -/
theorem ownership_minted_by_publisher (codec : JsonCodec β) {start final : RegistryState β}
    {events : List (RegistryEvent β)} (fresh : start.Fresh)
    (honest : (registryMachine codec).Along (fun _ event => event.Honest) start events)
    (reached : (registryMachine codec).run start events = some final) :
    final.Minted codec ∧
      (registryMachine codec).Along (fun state event => event.LeavesNoMark codec state)
        start events := by
  constructor
  · have traced :=
      Machine.invariant_run RegistryState.Traced.step (traced_fresh fresh) honest reached
    exact traced.minted
  · exact Machine.along_of_invariant (fun _ _ _ => trivial)
      (fun _ allowed => leavesNoMark_of_honest allowed _) trivial honest

end

/-- A store with no table, whose transactions commit. -/
def emptyStore : CoreStore JsonText where
  partitions := fun _ => .empty
  faults := fun _ => none

def freshState : RegistryState JsonText := ⟨emptyStore, [], []⟩

/-- Every artifact's sidecar declares one entry. -/
def declaring (key value : String) : Sidecars := fun _ => .ok (.ofList [(key, value)])

def uploadCoder : ArtifactUploaded := ⟨"coder", "gguf", "/models/coder"⟩

/-- An upload whose sidecar declares `source: config` leaves a row that reads as the
publisher's at an alias of no config. -/
theorem upload_mints_ownership :
    ∃ (start final : RegistryState JsonText) (events : List (RegistryEvent JsonText)),
      start.Fresh ∧ (registryMachine JsonText.codec).run start events = some final ∧
        ¬final.Minted JsonText.codec := by
  refine ⟨freshState, _, [.perform (.upload uploadCoder) (declaring "source" "config")],
    ⟨rfl, rfl, rfl⟩, rfl, ?_⟩
  intro minted
  obtain ⟨_, _, _, claimed, _⟩ := minted "coder" (by decide +kernel)
  cases claimed

def coderConfig : IntegrityConfig := ⟨[⟨[⟨"coder", "/models/coder", false⟩]⟩]⟩

/-- A publication takes `coder`, then an artifact is uploaded as `draft`. -/
def publishThenUpload : List (RegistryEvent JsonText) :=
  [.publish coderConfig, .advance 0 (declaring "toolCallParser" "hermes"),
    .perform (.upload ⟨"draft", "gguf", "/models/draft"⟩) (declaring "toolCallParser" "hermes")]

/-- The publisher owns its row and not the uploaded one. -/
theorem published_coder_is_minted :
    ∃ final, (registryMachine JsonText.codec).run freshState publishThenUpload = some final ∧
      Owned JsonText.codec (rows final.store) "coder" ∧
      ¬Owned JsonText.codec (rows final.store) "draft" ∧ final.Minted JsonText.codec := by
  refine ⟨_, rfl, by decide +kernel, by decide +kernel, ?_⟩
  have honest : (registryMachine JsonText.codec).Along (fun _ event => event.Honest) freshState
      publishThenUpload := by
    refine ⟨trivial, fun _ _ => ⟨trivial, fun _ _ => ⟨?_, fun _ _ => trivial⟩⟩⟩
    intro metadata declared
    cases declared
    decide +kernel
  exact (ownership_minted_by_publisher JsonText.codec ⟨rfl, rfl, rfl⟩ honest rfl).1

end TachyonMesh.ComponentRegistry
