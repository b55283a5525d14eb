import TachyonMesh.ComponentRegistry.Ownership

/-! # Uploads that a binding displaces

A configured binding that takes an upload's alias holds the upload's row aside, and the
row comes back when the binding leaves the manifest.
-/

namespace TachyonMesh.ComponentRegistry
open Foundation Store List
variable {β : Type} {codec : JsonCodec β}

variable (codec) in
/-- The row at an alias is the upload's row `upload`, as a JSON value, or a row of the
publisher that holds it aside. -/
def Kept (upload : Json) (current : Option β) : Prop :=
  match current with
  | none => False
  | some raw => codec.parse raw = some upload ∨
      rowIsConfigOwned codec (some raw) ∧
        (shadowedUploadRow codec raw).bind codec.parse = some upload

variable {upload : Json} {name : String} {current : Option β} {sidecars : Sidecars}
  {store final : CoreStore β} {progress : Progress β} {raw : β}
  {invariant : Call β → CoreStore β → Prop} {failures : Nat} {state : RegistryState β}

private theorem kept_of_heldAside (fitting : upload.fits codec.exact (nestingLimit - 1))
    (held : heldAside codec current = some upload) : Kept codec upload current := by
  cases current with
  | none => cases held
  | some raw =>
    by_cases owned : rowIsConfigOwned codec (some raw)
    · have shadow := shadowedUploadRow_of_owned owned
      rw [Option.bind_some, held, Option.map_some] at shadow
      refine .inr ⟨owned, ?_⟩
      rw [shadow]
      exact codec.parse_encode (Json.fits_succ fitting)
    · rw [heldAside, if_neg owned, Option.bind_some] at held
      exact .inl held

/-! ## Every writer of the publisher keeps what is held aside -/

theorem reserved_eq (ours : current = none ∨ rowIsConfigOwned codec current) :
    reserved codec name current = .set (refreshed codec (reservationRow codec name) current) := by
  unfold reserved refreshed
  rcases ours with rfl | owned
  · rfl
  · simp [owned]

theorem configOwned_reservation (name : String) : configOwned (reservationInfo name).row := by
  rw [configOwned_row]
  rfl

private theorem swept_of_owned (owned : rowIsConfigOwned codec current)
    (held : heldAside codec current = some upload) :
    swept codec current = .set (codec.encode upload) := by
  unfold swept
  rw [shadowedUploadRow_of_owned owned, held]
  simp [owned]

private theorem heldAside_restored (fitting : upload.fits codec.exact (nestingLimit - 1))
    (held : heldAside codec current = some upload) :
    heldAside codec (some (codec.encode upload)) = some upload := by
  have reads := codec.parse_encode (Json.fits_succ fitting)
  have unmarked : rowIsConfigOwned codec (some (codec.encode upload)) = false :=
    (rowIsConfigOwned_of_parse reads).trans (not_configOwned_of_heldAside held)
  rw [heldAside, unmarked]
  exact reads

variable (codec) in
/-- A call that is about to write its row over an alias writes one with the mark. -/
def Call.Marks (name : String) (call : Call β) : Prop :=
  match call with
  | .refreshing _ other value _ _ => other = name →
      ∃ info : RegistryComponentInfo, value = codec.encodeFields info.fields ∧ configOwned info.row
  | _ => True

/-- A sidecar that does not override the mark of the publisher's row. -/
def Bag.KeepsMark (metadata : Bag) : Prop :=
  ∀ source, metadata.find "source" = some source → source = registrySourceConfig

theorem configOwned_published {metadata : Bag} (binding : InferenceComponentBinding) :
    configOwned (publishedInfo binding metadata).row ↔ Bag.KeepsMark metadata := by
  rw [configOwned_row, decide_eq_true_eq]
  unfold publishedInfo Bag.KeepsMark
  cases metadata.find "source" with
  | none | some => simp

/-- The call visits no binding under the alias whose sidecar overrides the mark. -/
def Call.Unmasked (sidecars : Sidecars) (name : String) (call : Call β) : Prop :=
  match call with
  | .inserting _ (binding :: _) _ =>
      binding.publishable → binding.aliasName = name →
        ∀ metadata, bindingComponentMetadata sidecars binding.path = .ok metadata →
          Bag.KeepsMark metadata
  | _ => True

private theorem Call.Marks.advance {call : Call β} (unmasked : call.Unmasked sidecars name)
    (step : Call.Step codec sidecars store call progress) : progress.call.Marks codec name := by
  cases step with
  | occupied shown declared =>
    intro same
    exact ⟨_, rfl, (configOwned_published _).mpr (unmasked shown same _ declared)⟩
  | _ => trivial

/-- **Step lemma.** A transaction of the publisher keeps what is held aside. -/
theorem heldAside_of_step {call : Call β} (step : Call.Step codec sidecars store call progress)
    (marks : call.Marks codec name) (fitting : upload.fits codec.exact (nestingLimit - 1))
    (held : heldAside codec ((rows store).find name) = some upload) :
    heldAside codec ((rows progress.store).find name) = some upload := by
  have present : (rows store).find name ≠ none := by
    intro absent
    rw [absent] at held
    cases held
  cases step with
  | inserted _ _ free =>
    rw [rows_updateRow, find_apply]
    split
    · next same => exact absurd (same ▸ free) present
    · exact held
  | refreshed =>
    dsimp only
    rw [rows_updateRow, find_apply]
    split
    · next same =>
      obtain ⟨info, rfl, marked⟩ := marks same.symm
      rw [← same]
      exact heldAside_refreshed info marked held fitting
    · exact held
  | swept =>
    rw [rows_updateRow, find_apply]
    split
    · next same =>
      rw [← same]
      by_cases owned : rowIsConfigOwned codec ((rows store).find name)
      · rw [swept_of_owned owned held]
        exact heldAside_restored fitting held
      · rw [swept, eq_false_of_ne_true owned]
        exact held
    · exact held
  | reserved =>
    dsimp only
    rw [rows_updateRow, find_apply]
    split
    · next same =>
      rw [← same]
      by_cases owned : rowIsConfigOwned codec ((rows store).find name)
      · rw [reserved_eq (.inr owned)]
        exact heldAside_refreshed _ (configOwned_reservation name) held fitting
      have uploaded : ((rows store).find name).isSome := Option.isSome_iff_ne_none.mpr present
      rw [reserved, eq_false_of_ne_true owned, uploaded]
      exact held
    · exact held
  | occupied | scannedPage | scannedLast | unchanged | outdated =>
    exact held
  | _ => exact held

/-! ## The scan finds every row of the publisher before its end -/

private theorem empty_le (text : String) : "" ≤ text := by
  intro below
  exact absurd (String.lt_iff_toList_lt.mp below) (not_lt_nil _)

theorem mem_rowsInRange {table : Dictionary String β} :
    (name, raw) ∈ rowsInRange "" scanEnd table ↔ table.find name = some raw ∧ name < scanEnd := by
  unfold rowsInRange
  rw [mem_filter, ← Dictionary.find_eq_some, decide_eq_true_eq]
  exact ⟨fun both => ⟨both.1, both.2.2⟩, fun both => ⟨both.1, empty_le name, both.2⟩⟩

variable (codec) in
/-- The scan has found a row of the publisher, or has not come to it yet. -/
def Pending (table : Dictionary String β) (offset : Nat) (owned : List String) : Prop :=
  ∀ name, Owned codec table name → name < scanEnd →
    name ∈ owned ∨ ∃ raw, (name, raw) ∈ (rowsInRange "" scanEnd table).drop offset

variable (codec) in
/-- The scan has found every row of the publisher before its end. -/
def Found (table : Dictionary String β) (owned : List String) : Prop :=
  ∀ name, Owned codec table name → name < scanEnd → name ∈ owned

theorem pending_start (table : Dictionary String β) : Pending codec table 0 [] := by
  intro name owned inside
  obtain ⟨raw, _, found, _⟩ := parse_of_rowIsConfigOwned owned
  exact .inr ⟨raw, mem_rowsInRange.mpr ⟨found, inside⟩⟩

variable {table : Dictionary String β} {offset : Nat} {owned : List String}
  {page : List (String × β)}

section
variable (pending : Pending codec table offset owned)
  (read : page = ((rowsInRange "" scanEnd table).drop offset).take pageSize)
include pending read

/-- A row that the scan has not come to is on the page, or behind it. -/
theorem Pending.onPage (marked : Owned codec table name) (inside : name < scanEnd) :
    name ∈ owned ++ ownedAliases codec page ∨
      ∃ raw, (name, raw) ∈ ((rowsInRange "" scanEnd table).drop offset).drop pageSize := by
  rcases pending name marked inside with found | ⟨raw, ahead⟩
  · exact .inl (mem_append_left _ found)
  rw [← take_append_drop pageSize ((rowsInRange "" scanEnd table).drop offset)] at ahead
  rcases mem_append.mp ahead with scanned | behind
  · have entry := (mem_rowsInRange.mp (mem_of_mem_drop (mem_of_mem_take scanned))).1
    rw [Owned, entry] at marked
    exact .inl (mem_append_right _ (mem_filterMap.mpr ⟨_, read ▸ scanned, if_pos marked⟩))
  · exact .inr ⟨raw, behind⟩

theorem Pending.nextPage : Pending codec table (saturatingAdd u32Max offset page.length)
      (owned ++ ownedAliases codec page) := by
  intro name marked inside
  rcases pending.onPage read marked inside with found | ⟨raw, behind⟩
  · exact .inl found
  -- The offset saturates, so the next page may overlap this one but never skips a row.
  refine .inr ⟨raw, ?_⟩
  have bounded : page.length ≤ pageSize := by
    rw [read]
    exact length_take_le _ _
  rw [drop_drop] at behind
  have reach : saturatingAdd u32Max offset page.length +
      (offset + pageSize - saturatingAdd u32Max offset page.length) = offset + pageSize := by
    unfold saturatingAdd
    omega
  rw [← reach, ← drop_drop] at behind
  exact mem_of_mem_drop behind

theorem Pending.lastPage (last : page.length < pageSize) :
    Found codec table (owned ++ ownedAliases codec page) := by
  intro name marked inside
  rcases pending.onPage read marked inside with found | ⟨_, behind⟩
  · exact found
  · rw [read, length_take] at last
    rw [drop_eq_nil_of_le (by omega)] at behind
    cases behind

end

/-! ## Running one call alone -/

variable (codec sidecars) in
/-- Every transaction of a call keeps the predicate. -/
abbrev Call.Preserves (invariant : Call β → CoreStore β → Prop) : Prop :=
  ∀ {call store progress}, invariant call store → Call.Step codec sidecars store call progress →
    invariant progress.call progress.store

/-- A predicate that every step of a call keeps holds when the call returns. -/
theorem finish_invariant (kept : Call.Preserves codec sidecars invariant)
    {fuel : Nat} {call : Call β} (valid : invariant call store)
    (ended : call.finish codec sidecars fuel store = some (final, failures)) :
    invariant (.returned failures) final := by
  induction fuel generalizing call store with
  | zero =>
    cases call with
    | returned =>
      cases ended
      exact valid
    | _ => cases ended
  | succ _ ih =>
    have next := kept valid (advance_step call)
    cases call with
    | returned =>
      cases ended
      exact valid
    | _ => exact ih next ended

theorem walk_invariant (kept : Call.Preserves codec sidecars invariant) (steps : Nat)
    {call : Call β} (valid : invariant call store) :
    invariant (call.walk codec sidecars steps store).1
      (call.walk codec sidecars steps store).2 := by
  induction steps generalizing call store with
  | zero => exact valid
  | succ _ ih => exact ih (kept valid (advance_step call))

private theorem sound_readRows (sound : store.Sound) :
    (readRows store).Sound := sound.next.setTable _ _

theorem Call.Step.sound {call : Call β} (step : Call.Step codec sidecars store call progress)
    (sound : store.Sound) : progress.store.Sound := by
  cases step with
  | inserted | refreshed | swept | reserved =>
    exact sound.next.setTable _ _
  | occupied | scannedPage | scannedLast | unchanged | outdated => exact sound_readRows sound
  | insertFailed | refreshFailed | scanFailed | sweepFailed | checkFailed | reserveFailed =>
    exact sound.next
  | _ => exact sound

variable (codec) in
/-- A publication that does not claim an alias, on its way to the alias's row. -/
def Call.Leaves (name : String) (call : Call β) (store : CoreStore β) : Prop :=
  match call with
  | .inserting configured bindings _ =>
      name ∉ configured ∧ ∀ binding ∈ bindings, binding.publishable → binding.aliasName ≠ name
  | .refreshing configured other _ bindings _ =>
      other ≠ name ∧ name ∉ configured ∧ ∀ binding ∈ bindings, binding.publishable →
        binding.aliasName ≠ name
  | .scanning configured offset owned _ =>
      name ∉ configured ∧ Pending codec (rows store) offset owned
  | .sweeping configured owned _ =>
      name ∉ configured ∧ (Owned codec (rows store) name → name ∈ owned)
  | .returned _ => ¬Owned codec (rows store) name
  | _ => False

private theorem Call.Leaves.marks {call : Call β}
    (leaves : call.Leaves codec name store) : call.Marks codec name := by
  cases call with
  | refreshing => exact fun same => absurd same leaves.1
  | _ => trivial

private theorem Call.Leaves.step {call : Call β} (sound : store.Sound)
    (held : heldAside codec ((rows store).find name) = some upload) (inside : name < scanEnd)
    (leaves : call.Leaves codec name store) (step : Call.Step codec sidecars store call progress) :
    progress.call.Leaves codec name progress.store := by
  cases step with
  | visited => exact ⟨leaves.1, pending_start _⟩
  | skipped => exact ⟨leaves.1, fun binding left => leaves.2 binding (mem_cons_of_mem _ left)⟩
  | unreadable shown | insertFailed shown | inserted shown =>
    obtain ⟨fresh, others⟩ := leaves
    refine ⟨?_, fun binding left => others binding (mem_cons_of_mem _ left)⟩
    intro listed
    rcases mem_cons.mp listed with same | earlier
    · exact others _ mem_cons_self shown same.symm
    · exact fresh earlier
  | occupied shown =>
    obtain ⟨fresh, others⟩ := leaves
    have different := others _ mem_cons_self shown
    refine ⟨different, ?_, fun binding left => others binding (mem_cons_of_mem _ left)⟩
    intro listed
    rcases mem_cons.mp listed with same | earlier
    · exact different same.symm
    · exact fresh earlier
  | refreshFailed | refreshed => exact leaves.2
  | scanFailed failed | sweepFailed _ failed => exact absurd ((sound 0).symm.trans failed) (by simp)
  | scannedPage read =>
    refine ⟨leaves.1, ?_⟩
    exact leaves.2.nextPage read
  | scannedLast read last =>
    refine ⟨leaves.1, ?_⟩
    rw [rows_readRows]
    exact fun marked => leaves.2.lastPage read last name marked inside
  | sweptAll => exact fun marked => absurd (leaves.2 marked) not_mem_nil
  | sweepSkipped kept =>
    obtain ⟨gone, ahead⟩ := leaves
    refine ⟨gone, fun marked => ?_⟩
    rcases mem_cons.mp (ahead marked) with same | later
    · exact absurd (same ▸ kept) gone
    · exact later
  | swept =>
    obtain ⟨gone, ahead⟩ := leaves
    refine ⟨gone, ?_⟩
    rw [rows_updateRow]
    intro marked
    rcases owned_of_apply marked with before | ⟨same, _, written, mark⟩
    · rcases mem_cons.mp (ahead before) with same | later
      · -- The sweep has just put the upload's row back here.
        subst same
        rw [Owned, find_apply, if_pos rfl, swept_of_owned before held] at marked
        change rowIsConfigOwned codec (some (codec.encode upload)) = true at marked
        rw [rowIsConfigOwned_encode (fits_of_heldAside held),
          not_configOwned_of_heldAside held] at marked
        cases marked
      · exact later
    · rcases not_owned_swept _ with kept | deleted | ⟨_, restores, unmarked⟩
      · cases kept.symm.trans written
      · cases deleted.symm.trans written
      · cases restores.symm.trans written
        exact absurd (mark.symm.trans unmarked) (by decide)
  | returned => exact leaves
  | _ => exact leaves.elim

/-- After a publication of a config that does not claim the alias, run alone, the
upload's row stands there again. -/
theorem restored_of_publication {config : IntegrityConfig} (sound : store.Sound)
    (inside : name < scanEnd) (unclaimed : ¬config.Publishes name)
    (fitting : upload.fits codec.exact (nestingLimit - 1))
    (held : heldAside codec ((rows store).find name) = some upload)
    (returns : (publishConfiguredComponentBindings config).Returns codec sidecars store final
      failures) :
    ∃ raw, (rows final).find name = some raw ∧ codec.parse raw = some upload := by
  obtain ⟨_, ended⟩ := returns
  have starts : (publishConfiguredComponentBindings config : Call β).Leaves codec name store :=
    ⟨not_mem_nil, fun binding bound shown same => unclaimed ⟨binding, bound, shown, same⟩⟩
  have kept : Call.Preserves codec sidecars fun call store =>
      store.Sound ∧ heldAside codec ((rows store).find name) = some upload ∧
        call.Leaves codec name store := by
    rintro _ _ _ ⟨sound, held, leaves⟩ step
    exact ⟨step.sound sound, heldAside_of_step step leaves.marks fitting held,
      leaves.step sound held inside step⟩
  obtain ⟨_, stays, unmarked⟩ := finish_invariant kept ⟨sound, held, starts⟩ ended
  have uploaded : ¬rowIsConfigOwned codec ((rows final).find name) := unmarked
  rw [heldAside, if_neg uploaded] at stays
  exact Option.bind_eq_some_iff.mp stays

/-! ## Runs of the publisher's calls -/

/-- A call of the publisher begins or takes its next transaction. -/
def RegistryEvent.ByPublisher (event : RegistryEvent β) : Prop :=
  match event with
  | .perform .. => False
  | _ => True

/-- The step reads no sidecar that overrides the mark of a binding under the alias. -/
def RegistryState.Unmasked (name : String) (state : RegistryState β) (event : RegistryEvent β) :
    Prop :=
  match event with
  | .advance index sidecars =>
      ∀ config call, state.calls[index]? = some (config, call) → call.Unmasked sidecars name
  | _ => True

variable (codec) in
/-- The upload's row is at the alias, and no call is about to write a row there that
does not read as the publisher's. -/
structure RegistryState.Safe (name : String) (upload : Json) (state : RegistryState β) : Prop where
  marks : ∀ entry ∈ state.calls, entry.2.Marks codec name
  held : heldAside codec ((rows state.store).find name) = some upload

private theorem RegistryState.Safe.call (safe : state.Safe codec name upload)
    (config : IntegrityConfig)
    {call : Call β} (marks : call.Marks codec name) :
    { state with calls := state.calls ++ [(config, call)] : RegistryState β }.Safe codec name
      upload where
  marks := forall_mem_push safe.marks marks
  held := safe.held

variable [DecidableEq β]

private theorem RegistryState.Safe.step {next : RegistryState β} {event : RegistryEvent β}
    (fitting : upload.fits codec.exact (nestingLimit - 1)) (safe : state.Safe codec name upload)
    (allowed : event.ByPublisher ∧ state.Unmasked name event)
    (stepped : (registryMachine codec).step state event = some next) :
    next.Safe codec name upload := by
  obtain ⟨publisher, unmasked⟩ := allowed
  cases event with
  | publish config =>
    cases stepped
    exact safe.call config trivial
  | withdraw previous =>
    simp only [registryMachine] at stepped
    split at stepped
    · cases stepped
      exact safe.call previous trivial
    · cases stepped
  | advance _ sidecars =>
    simp only [registryMachine] at stepped
    split at stepped
    · cases stepped
    · next config call found =>
      cases stepped
      have step : Call.Step codec sidecars state.store call _ := advance_step call
      exact ⟨forall_mem_set safe.marks (.advance (unmasked config call found) step),
        heldAside_of_step step (safe.marks _ (mem_of_getElem? found)) fitting safe.held⟩
  | perform => exact publisher.elim

/-- In every run of publications and withdrawals, interleaved or not, in which no
sidecar overrides the mark, an upload's row stays at its alias, itself or held aside;
and a publication that does not claim the alias puts it back. -/
theorem displaced_upload_kept (codec : JsonCodec β) {start final : RegistryState β}
    {events : List (RegistryEvent β)} {name : String} {raw : β} {upload : Json}
    (idle : start.calls = []) (stored : (rows start.store).find name = some raw)
    (parsed : codec.parse raw = some upload)
    (uploaded : rowIsConfigOwned codec (some raw) = false)
    (fitting : upload.fits codec.exact (nestingLimit - 1))
    (allowed : (registryMachine codec).Along
      (fun state event => event.ByPublisher ∧ state.Unmasked name event) start events)
    (reached : (registryMachine codec).run start events = some final) :
    Kept codec upload ((rows final.store).find name) ∧
      (name < scanEnd → final.store.Sound →
        ∀ (sidecars : Sidecars) (config : IntegrityConfig) (after : CoreStore β) (failures : Nat),
          ¬config.Publishes name →
          (publishConfiguredComponentBindings config).Returns codec sidecars final.store after
            failures →
          ∃ row, (rows after).find name = some row ∧ codec.parse row = some upload) := by
  have held : heldAside codec ((rows start.store).find name) = some upload := by
    rw [stored, heldAside, uploaded]
    exact parsed
  have begins : start.Safe codec name upload := by
    refine ⟨?_, held⟩
    simp [idle]
  have safe := Machine.invariant_run (RegistryState.Safe.step fitting) begins allowed reached
  constructor
  · exact kept_of_heldAside fitting safe.held
  · intro inside sound sidecars config after failures unclaimed returns
    exact restored_of_publication sound inside unclaimed fitting safe.held returns

/-- An upload's row at `coder`. -/
def uploadRow : Json := .object [("alias", .text "coder"), ("engine", .text "gguf")]

def uploadedState : RegistryState JsonText :=
  ⟨⟨fun _ => .ofList [("coder", .written uploadRow)], fun _ => none⟩, [], []⟩

/-- A publication that claims `coder`, up to the refresh of its row. -/
def displaceCoder (sidecars : Sidecars) : List (RegistryEvent JsonText) :=
  [.publish coderConfig, .advance 0 sidecars, .advance 0 sidecars]

/-- The displaced upload is held aside, and a publication without bindings puts it back. -/
theorem displaced_coder_kept :
    ∃ final after, (registryMachine JsonText.codec).run uploadedState
        (displaceCoder (declaring "toolCallParser" "hermes")) = some final ∧
      Owned JsonText.codec (rows final.store) "coder" ∧
      Kept JsonText.codec uploadRow ((rows final.store).find "coder") ∧
      (publishConfiguredComponentBindings ⟨[]⟩).Returns JsonText.codec
        (declaring "toolCallParser" "hermes") final.store after 0 ∧
      ∃ row, (rows after).find "coder" = some row ∧
        JsonText.codec.parse row = some uploadRow := by
  have allowed : (registryMachine JsonText.codec).Along
      (fun state event => event.ByPublisher ∧ state.Unmasked "coder" event) uploadedState
      (displaceCoder (declaring "toolCallParser" "hermes")) := by
    refine ⟨⟨trivial, trivial⟩, fun _ began => ⟨⟨trivial, ?_⟩, fun _ inserted =>
      ⟨⟨trivial, ?_⟩, fun _ _ => trivial⟩⟩⟩
    · cases began
      intro config call found
      cases found
      intro shown same metadata declared source overriding
      cases declared
      cases overriding
    · cases began
      cases inserted
      intro config call found
      cases found
      trivial
  have kept := displaced_upload_kept JsonText.codec rfl rfl rfl (by decide +kernel)
    (by decide +kernel) allowed rfl
  exact ⟨_, _, rfl, by decide +kernel, kept.1, ⟨4, rfl⟩,
    kept.2 (by decide +kernel) (fun _ => rfl) _ ⟨[]⟩ _ 0 nofun ⟨4, rfl⟩⟩

/-- A binding's sidecar declares another `source`: the row that should hold the upload
aside does not read as the publisher's. -/
theorem sidecar_loses_upload :
    ∃ (start final : RegistryState JsonText) (events : List (RegistryEvent JsonText))
      (raw : JsonText) (upload : Json),
      start.calls = [] ∧ start.store.Sound ∧ (rows start.store).find "coder" = some raw ∧
      JsonText.codec.parse raw = some upload ∧
      rowIsConfigOwned JsonText.codec (some raw) = false ∧
      (∀ event ∈ events, event.ByPublisher) ∧
      (registryMachine JsonText.codec).run start events = some final ∧
      ¬Kept JsonText.codec upload ((rows final.store).find "coder") := by
  refine ⟨uploadedState, _, displaceCoder (declaring "source" "upload"), _, uploadRow, rfl,
    fun _ => rfl, rfl, rfl, by decide +kernel, ?_, rfl, ?_⟩
  · intro event listed
    simp only [displaceCoder, mem_cons, not_mem_nil, or_false] at listed
    rcases listed with rfl | rfl | rfl <;> trivial
  · rintro (itself | ⟨owned, _⟩)
    · exact absurd itself (by decide +kernel)
    · exact absurd owned (by decide +kernel)

end TachyonMesh.ComponentRegistry
