import TachyonMesh.ComponentRegistry.Parking

/-! # What a publication leaves behind

A publication that runs alone and returns no failure leaves a table that is determined
by the table it found (`published_table`): the row of every published binding, refreshed
over what was there; an upload's row, or nothing, where the scan found a row of the
publisher without a binding; and everything else as it was.
-/

namespace TachyonMesh.ComponentRegistry
open Foundation Store List InferenceComponentBinding Dictionary
variable {β : Type} {codec : JsonCodec β} {visited : List InferenceComponentBinding}
  {binding : InferenceComponentBinding} {name : String}

/-- A binding of the list is published under the alias. -/
def Claims (bindings : List InferenceComponentBinding) (name : String) : Prop :=
  ∃ binding ∈ bindings, binding.publishable ∧ binding.aliasName = name

private theorem claims_append : Claims (visited ++ [binding]) name ↔
      Claims visited name ∨ binding.publishable ∧ binding.aliasName = name := by
  constructor
  · rintro ⟨claiming, listed, shown, named⟩
    rcases mem_append.mp listed with old | new
    · exact .inl ⟨claiming, old, shown, named⟩
    · rw [mem_singleton.mp new] at shown named
      exact .inr ⟨shown, named⟩
  · rintro (⟨claiming, listed, shown, named⟩ | ⟨shown, named⟩)
    · exact ⟨claiming, mem_append_left _ listed, shown, named⟩
    · exact ⟨binding, mem_append_right _ (mem_singleton_self _), shown, named⟩

variable (codec) in
/-- The table after the publisher visited some bindings, compared with the table it
found. -/
structure Visited (sidecars : Sidecars) (before : Dictionary String β)
    (visited : List InferenceComponentBinding) (table : Dictionary String β) : Prop where
  written : ∀ binding ∈ visited, binding.publishable →
    ∃ metadata, bindingComponentMetadata sidecars binding.path = .ok metadata ∧
      table.find binding.aliasName =
        some (refreshed codec (publishedRow codec binding metadata) (before.find binding.aliasName))
  untouched : ∀ name, ¬Claims visited name → table.find name = before.find name

variable {sidecars : Sidecars} {before table : Dictionary String β}
  {visited : List InferenceComponentBinding} {binding : InferenceComponentBinding}

private theorem visited_nil : Visited codec sidecars before [] before where
  written := nofun
  untouched := fun _ _ => rfl

private theorem Visited.skip (done : Visited codec sidecars before visited table)
    (hidden : binding.publishable = false) :
    Visited codec sidecars before (visited ++ [binding]) table where
  written := forall_mem_push done.written fun shown => by cases hidden.symm.trans shown
  untouched := fun name unclaimed =>
    done.untouched name fun claimed => unclaimed (claims_append.mpr (.inl claimed))

variable {metadata : Bag} {configured : List String} {page : List (String × β)} {offset : Nat}
  {bindings : List InferenceComponentBinding} {call : Call β} {store : CoreStore β}
  {progress : Progress β}

/-- The row of a binding whose alias no earlier binding had. -/
theorem Visited.write (done : Visited codec sidecars before visited table)
    (fresh : binding.aliasName ∉ visited.map aliasName) (shown : binding.publishable)
    (declared : bindingComponentMetadata sidecars binding.path = .ok metadata) :
    Visited codec sidecars before (visited ++ [binding])
      (table.insert binding.aliasName (refreshed codec (publishedRow codec binding metadata)
        (table.find binding.aliasName))) where
  written := by
    intro other listed publishable
    rcases mem_append.mp listed with old | new
    · have different : other.aliasName ≠ binding.aliasName :=
        fun same => fresh (same ▸ mem_map_of_mem old)
      rw [find_insert, if_neg different]
      exact done.written other old publishable
    rw [mem_singleton.mp new]
    have unclaimed : ¬Claims visited binding.aliasName :=
      fun ⟨_, earlier, _, named⟩ => fresh (named ▸ mem_map_of_mem earlier)
    refine ⟨metadata, declared, ?_⟩
    rw [find_insert, if_pos rfl, done.untouched _ unclaimed]
  untouched := by
    intro name unclaimed
    have different : name ≠ binding.aliasName :=
      fun same => unclaimed (claims_append.mpr (.inr ⟨shown, same.symm⟩))
    rw [find_insert, if_neg different]
    exact done.untouched name fun claimed => unclaimed (claims_append.mpr (.inl claimed))

variable (codec) in
/-- The table during the sweep, with the aliases left to visit: a row without a
binding is as it was, and then still ahead if the scan found it, or it is swept. -/
structure Sweeping (sidecars : Sidecars) (config : IntegrityConfig)
    (before : Dictionary String β) (owned : List String) (table : Dictionary String β) :
    Prop where
  written : ∀ binding ∈ config.bindings, binding.publishable →
    ∃ metadata, bindingComponentMetadata sidecars binding.path = .ok metadata ∧
      table.find binding.aliasName =
        some (refreshed codec (publishedRow codec binding metadata) (before.find binding.aliasName))
  others : ∀ name, ¬config.Publishes name →
    (table.find name = before.find name ∧
      (Owned codec before name → name < scanEnd → name ∈ owned)) ∨
    (Owned codec before name ∧ name < scanEnd ∧
      table.find name = (heldAside codec (before.find name)).map codec.encode)
  inside : ∀ name ∈ owned, name < scanEnd

private theorem find_swept (codec : JsonCodec β) (table : Dictionary String β)
    (name other : String) :
    ((swept codec (table.find name)).apply name table).find other =
      if other = name ∧ Owned codec table name then
        (heldAside codec (table.find name)).map codec.encode
      else table.find other := by
  rw [find_apply]
  by_cases same : other = name
  · subst same
    rw [if_pos rfl]
    by_cases owned : Owned codec table other
    · have marked : rowIsConfigOwned codec (table.find other) := owned
      rw [if_pos ⟨rfl, owned⟩, swept, marked, shadowedUploadRow_of_owned marked]
      cases heldAside codec (table.find other) <;> rfl
    have unmarked : rowIsConfigOwned codec (table.find other) = false := eq_false_of_ne_true owned
    rw [if_neg fun both => owned both.2, swept, unmarked]
    rfl
  · rw [if_neg same, if_neg fun both => same both.1]

private theorem not_owned_of_swept {row : Option β} :
    rowIsConfigOwned codec ((heldAside codec row).map codec.encode) = false := by
  cases held : heldAside codec row with
  | none => rfl
  | some =>
    exact (rowIsConfigOwned_encode (fits_of_heldAside held)).trans
      (not_configOwned_of_heldAside held)

variable {config : IntegrityConfig} {owned : List String} {name : String}

private theorem Sweeping.skip
    (sweeping : Sweeping codec sidecars config before (name :: owned) table)
    (kept : config.Publishes name) : Sweeping codec sidecars config before owned table where
  written := sweeping.written
  others := by
    intro other unclaimed
    rcases sweeping.others other unclaimed with ⟨same, ahead⟩ | done
    · refine .inl ⟨same, fun marked reached => ?_⟩
      rcases mem_cons.mp (ahead marked reached) with here | later
      · exact absurd (here ▸ kept) unclaimed
      · exact later
    · exact .inr done
  inside := fun other listed => sweeping.inside other (mem_cons_of_mem _ listed)

private theorem Sweeping.sweep
    (sweeping : Sweeping codec sidecars config before (name :: owned) table)
    (gone : ¬config.Publishes name) :
    Sweeping codec sidecars config before owned
      ((swept codec (table.find name)).apply name table) where
  written := by
    intro binding bound shown
    have different : binding.aliasName ≠ name := fun same => gone ⟨binding, bound, shown, same⟩
    rw [find_swept, if_neg fun both => different both.1]
    exact sweeping.written binding bound shown
  others := by
    intro other unclaimed
    rw [find_swept]
    rcases sweeping.others other unclaimed with ⟨same, ahead⟩ | ⟨marked, reached, done⟩
    · by_cases here : other = name ∧ Owned codec table name
      · obtain ⟨rfl, found⟩ := here
        have marked : Owned codec before other := by
          rw [Owned, ← same]
          exact found
        rw [if_pos ⟨rfl, found⟩, same]
        exact .inr ⟨marked, sweeping.inside other mem_cons_self, rfl⟩
      · rw [if_neg here]
        refine .inl ⟨same, fun marked reached => ?_⟩
        have found : Owned codec table other := by
          rw [Owned, same]
          exact marked
        rcases mem_cons.mp (ahead marked reached) with first | later
        · exact absurd ⟨first, first ▸ found⟩ here
        · exact later
    · -- What the sweep put back has no mark, so a second visit keeps it.
      have unmarked : ¬(other = name ∧ Owned codec table name) := by
        rintro ⟨rfl, found⟩
        rw [Owned, done, not_owned_of_swept] at found
        cases found
      rw [if_neg unmarked]
      exact .inr ⟨marked, reached, done⟩
  inside := fun other listed => sweeping.inside other (mem_cons_of_mem _ listed)

/-! ## The publication's invariant -/

variable (codec) in
/-- How far a publication without failures has come. -/
def Call.Publishing (sidecars : Sidecars) (config : IntegrityConfig)
    (before : Dictionary String β) (call : Call β) (store : CoreStore β) : Prop :=
  match call with
  | .inserting configured bindings failures => failures = 0 →
      ∃ visited, config.bindings = visited ++ bindings ∧
        (∀ name, name ∈ configured ↔ Claims visited name) ∧
        Visited codec sidecars before visited (rows store)
  | .refreshing configured name value bindings failures => failures = 0 →
      ∃ visited binding metadata, config.bindings = visited ++ binding :: bindings ∧
        (∀ name, name ∈ configured ↔ Claims (visited ++ [binding]) name) ∧
        Visited codec sidecars before visited (rows store) ∧
        binding.publishable ∧ bindingComponentMetadata sidecars binding.path = .ok metadata ∧
        name = binding.aliasName ∧ value = publishedRow codec binding metadata
  | .scanning configured offset owned failures => failures = 0 →
      (∀ name, name ∈ configured ↔ config.Publishes name) ∧
        Visited codec sidecars before config.bindings (rows store) ∧
        Pending codec (rows store) offset owned ∧ ∀ name ∈ owned, name < scanEnd
  | .sweeping configured owned failures => failures = 0 →
      (∀ name, name ∈ configured ↔ config.Publishes name) ∧
        Sweeping codec sidecars config before owned (rows store)
  | .returned failures => failures = 0 → Sweeping codec sidecars config before [] (rows store)
  | _ => False

private theorem mem_configured (claimed : ∀ name, name ∈ configured ↔ Claims visited name)
    (shown : binding.publishable) (name : String) :
    name ∈ binding.aliasName :: configured ↔ Claims (visited ++ [binding]) name := by
  rw [mem_cons, claimed, claims_append]
  constructor
  · rintro (same | earlier)
    · exact .inr ⟨shown, same.symm⟩
    · exact .inl earlier
  · rintro (earlier | ⟨_, same⟩)
    · exact .inr earlier
    · exact .inl same.symm

private theorem owned_of_ownedAliases
    (read : page = ((rowsInRange "" scanEnd table).drop offset).take pageSize)
    (listed : name ∈ ownedAliases codec page) : Owned codec table name ∧ name < scanEnd := by
  obtain ⟨row, scanned, marked⟩ := mem_filterMap.mp listed
  obtain ⟨found, inside⟩ : table.find row.1 = some row.2 ∧ row.1 < scanEnd :=
    mem_rowsInRange.mp (mem_of_mem_drop (mem_of_mem_take (read ▸ scanned)))
  split at marked
  · next owned =>
    cases marked
    rw [Owned, found]
    exact ⟨owned, inside⟩
  · cases marked

section
variable (unique : (config.bindings.map aliasName).Nodup)
include unique

/-- The aliases are distinct, so a binding's alias is none of those visited before. -/
theorem fresh_of_nodup (split : config.bindings = visited ++ binding :: bindings) :
    binding.aliasName ∉ visited.map aliasName := by
  rw [split, map_append, map_cons] at unique
  intro listed
  exact (nodup_append.mp unique).2.2 _ listed _ mem_cons_self rfl

private theorem Call.Publishing.step
    (publishing : call.Publishing codec sidecars config before store)
    (step : Call.Step codec sidecars store call progress) :
    progress.call.Publishing codec sidecars config before progress.store := by
  cases step with
  | visited =>
    intro none
    obtain ⟨_, all, claimed, done⟩ := publishing none
    rw [append_nil] at all
    subst all
    exact ⟨claimed, done, pending_start _, nofun⟩
  | skipped hidden =>
    intro none
    obtain ⟨visited, all, claimed, done⟩ := publishing none
    refine ⟨visited ++ [_], by rw [append_assoc]; exact all, fun name => ?_, done.skip hidden⟩
    simp [claimed, claims_append, hidden]
  | inserted shown declared free =>
    intro none
    obtain ⟨visited, all, claimed, done⟩ := publishing none
    refine ⟨visited ++ [_], by rw [append_assoc]; exact all, mem_configured claimed shown, ?_⟩
    -- Over a free alias a refresh writes the plain row.
    have written := done.write (fresh_of_nodup unique all) shown declared
    rw [free] at written
    exact written
  | occupied shown declared =>
    intro none
    obtain ⟨visited, all, claimed, done⟩ := publishing none
    refine ⟨visited, _, _, all, mem_configured claimed shown, ?_, shown, declared, rfl, rfl⟩
    exact done
  | refreshed =>
    intro none
    obtain ⟨visited, binding, _, all, claimed, done, shown, declared, rfl, rfl⟩ := publishing none
    refine ⟨visited ++ [binding], by rw [append_assoc]; exact all, claimed, ?_⟩
    dsimp only
    rw [rows_updateRow]
    exact done.write (fresh_of_nodup unique all) shown declared
  | scannedPage read =>
    intro none
    obtain ⟨claimed, done, pending, inside⟩ := publishing none
    rw [rows_readRows]
    exact ⟨claimed, done, pending.nextPage read, forall_mem_append.mpr
      ⟨inside, fun name listed => (owned_of_ownedAliases read listed).2⟩⟩
  | scannedLast read last =>
    intro none
    obtain ⟨claimed, done, pending, inside⟩ := publishing none
    have found := pending.lastPage read last
    dsimp only
    refine ⟨claimed, done.written, ?_, ?_⟩
    · intro name unclaimed
      have same := done.untouched name unclaimed
      refine .inl ⟨same, fun marked reached => found name ?_ reached⟩
      rw [Owned, same]
      exact marked
    · exact forall_mem_append.mpr ⟨inside, fun _ listed => (owned_of_ownedAliases read listed).2⟩
  | sweptAll => exact fun none => (publishing none).2
  | sweepSkipped kept =>
    intro none
    obtain ⟨claimed, sweeping⟩ := publishing none
    exact ⟨claimed, sweeping.skip ((claimed _).mp kept)⟩
  | swept gone =>
    intro none
    obtain ⟨claimed, sweeping⟩ := publishing none
    refine ⟨claimed, ?_⟩
    exact sweeping.sweep fun publishes => gone ((claimed _).mpr publishes)
  | returned => exact publishing
  | unreadable | insertFailed | refreshFailed | scanFailed | sweepFailed =>
    exact fun none => absurd none (Nat.succ_ne_zero _)
  | _ => exact publishing.elim

end

private theorem publishing_start (store : CoreStore β) :
    (publishConfiguredComponentBindings config : Call β).Publishing codec sidecars config
      (rows store) store := by
  intro _
  refine ⟨[], rfl, ?_, visited_nil⟩
  intro name
  exact ⟨nofun, fun ⟨_, listed, _⟩ => by cases listed⟩

private theorem published_table {final : CoreStore β}
    (unique : (config.bindings.map aliasName).Nodup)
    (returns : (publishConfiguredComponentBindings config).Returns codec sidecars store final 0) :
    Sweeping codec sidecars config (rows store) [] (rows final) := by
  obtain ⟨_, ended⟩ := returns
  exact finish_invariant (.step unique) (publishing_start store) ended rfl

/-! ## Convergence -/

variable (codec) in
/-- The table describes the manifest: the rows of the publisher are those of the
published bindings, each says what its binding says, and publishing again changes no
row at any step. -/
structure Converged (sidecars : Sidecars) (config : IntegrityConfig)
    (table : Dictionary String β) : Prop where
  owners : ∀ name, Owned codec table name ↔ config.Publishes name
  described : ∀ binding ∈ config.bindings, binding.publishable →
    ∃ row, (table.find binding.aliasName).bind codec.parse = some row ∧
      row.get "withdrawn" ≠ some (.bool true) ∧
      row.get "engine" = some (.text (bindingEngineLabel binding.path)) ∧
      row.get "artifactPath" = some (.text binding.path)
  stable : ∀ (again : CoreStore β) steps, rows again = table →
    rows ((publishConfiguredComponentBindings config).walk codec sidecars steps again).2 = table

/-- A bag that overrides no field the table is judged by with another value. -/
structure Bag.Agrees (binding : InferenceComponentBinding) (metadata : Bag) : Prop where
  mark : Bag.KeepsMark metadata
  engine : ∀ value, metadata.find "engine" = some value → value = bindingEngineLabel binding.path
  artifactPath : ∀ value, metadata.find "artifactPath" = some value → value = binding.path

variable (codec) in
/-- The numbers of the uploads that the manifest displaces are read as they were printed. -/
def ExactUploads (config : IntegrityConfig) (before : Dictionary String β) : Prop :=
  ∀ binding ∈ config.bindings, binding.publishable → Exact codec (before.find binding.aliasName)

variable (codec) in
/-- The manifest, its sidecars and the table that a publication finds let it converge. -/
structure Convergent (sidecars : Sidecars) (config : IntegrityConfig)
    (before : Dictionary String β) : Prop where
  /-- No bag overrides a field, and a bag that declares the key of an upload held
  aside does so only where one is held aside. -/
  bags : ∀ binding ∈ config.bindings, binding.publishable → ∀ metadata,
    bindingComponentMetadata sidecars binding.path = .ok metadata →
      Bag.Agrees binding metadata ∧
      (metadata.find shadowedUploadKey = none ∨
        heldAside codec (before.find binding.aliasName) ≠ none)
  /-- No upload's row is nested too deep to be held aside. -/
  carriable : ∀ binding ∈ config.bindings, binding.publishable →
    Carriable codec (before.find binding.aliasName)
  /-- The scan reaches every row of the publisher without a binding. -/
  reach : ∀ name, Owned codec before name → ¬config.Publishes name → name < scanEnd

section
variable (binding : InferenceComponentBinding) (metadata : Bag)

theorem leading_published :
    (publishedInfo binding metadata).leading "engine" =
        some (.text (bindingEngineLabel binding.path)) ∧
      (publishedInfo binding metadata).leading "artifactPath" = some (.text binding.path) ∧
      (publishedInfo binding metadata).leading "withdrawn" = none := by
  simp [publishedInfo, RegistryComponentInfo.leading, RegistryComponentInfo.leadingFields,
    findEntry]

theorem get_published (key : String) :
    (publishedInfo binding metadata).row.get key =
      ((metadata.find key).map Json.text).or ((publishedInfo binding metadata).leading key) := by
  rw [get_row, if_neg]
  · rfl
  · rintro ⟨withdrawn, _⟩
    cases withdrawn

private theorem described_iff :
    ((publishedInfo binding metadata).row.get "withdrawn" ≠ some (.bool true) ∧
      (publishedInfo binding metadata).row.get "engine" =
        some (.text (bindingEngineLabel binding.path)) ∧
      (publishedInfo binding metadata).row.get "artifactPath" = some (.text binding.path)) ↔
    (∀ value, metadata.find "engine" = some value → value = bindingEngineLabel binding.path) ∧
      ∀ value, metadata.find "artifactPath" = some value → value = binding.path := by
  obtain ⟨engine, artifactPath, withdrawn⟩ := leading_published binding metadata
  rw [get_published, get_published, get_published, engine, artifactPath, withdrawn]
  cases metadata.find "engine" <;> cases metadata.find "artifactPath" <;> simp

end

variable (codec) in
/-- A table that a second publication keeps. -/
structure Steady (sidecars : Sidecars) (config : IntegrityConfig) (table : Dictionary String β) :
    Prop where
  fixed : ∀ binding ∈ config.bindings, binding.publishable → ∀ metadata,
    bindingComponentMetadata sidecars binding.path = .ok metadata →
      table.find binding.aliasName =
        some (refreshed codec (publishedRow codec binding metadata) (table.find binding.aliasName))
  owners : ∀ name, Owned codec table name → config.Publishes name

variable (codec) in
/-- A publication over such a table: what it has left to write is there already. -/
def Call.Idle (config : IntegrityConfig) (table : Dictionary String β) (call : Call β)
    (store : CoreStore β) : Prop :=
  rows store = table ∧
    match call with
    | .inserting configured bindings _ =>
        ∃ visited, config.bindings = visited ++ bindings ∧
          ∀ name, Claims visited name → name ∈ configured
    | .refreshing configured name value bindings _ =>
        table.find name = some (refreshed codec value (table.find name)) ∧
          ∃ visited, config.bindings = visited ++ bindings ∧
            ∀ name, Claims visited name → name ∈ configured
    | .scanning configured _ owned _ =>
        (∀ name, config.Publishes name → name ∈ configured) ∧ ∀ name ∈ owned, Owned codec table name
    | .sweeping configured owned _ =>
        (∀ name, config.Publishes name → name ∈ configured) ∧ ∀ name ∈ owned, Owned codec table name
    | .returned _ => True
    | _ => False

private theorem Call.Idle.step (steady : Steady codec sidecars config table)
    (idle : call.Idle codec config table store)
    (step : Call.Step codec sidecars store call progress) :
    progress.call.Idle codec config table progress.store := by
  obtain ⟨rfl, idle⟩ := idle
  -- Visiting a binding puts its alias on the list whether or not its row is written.
  have visit : ∀ {configured : List String} {binding : InferenceComponentBinding}
      {rest : List InferenceComponentBinding},
      (∃ visited, config.bindings = visited ++ binding :: rest ∧
        ∀ name, Claims visited name → name ∈ configured) →
      ∃ visited, config.bindings = visited ++ rest ∧
        ∀ name, Claims visited name → name ∈ binding.aliasName :: configured := by
    rintro _ binding _ ⟨visited, all, claimed⟩
    refine ⟨visited ++ [binding], by rw [append_assoc]; exact all, ?_⟩
    intro name claims
    rcases claims_append.mp claims with earlier | ⟨_, same⟩
    · exact mem_cons_of_mem _ (claimed name earlier)
    · exact same ▸ mem_cons_self
  cases step with
  | visited =>
    obtain ⟨_, all, claimed⟩ := idle
    rw [append_nil] at all
    subst all
    exact ⟨rfl, claimed, nofun⟩
  | skipped hidden =>
    obtain ⟨visited, all, claimed⟩ := idle
    refine ⟨rfl, visited ++ [_], by rw [append_assoc]; exact all, ?_⟩
    intro name claims
    rcases claims_append.mp claims with earlier | ⟨shown, _⟩
    · exact claimed name earlier
    · cases hidden.symm.trans shown
  | unreadable | insertFailed => exact ⟨rfl, visit idle⟩
  | inserted shown declared free =>
    obtain ⟨_, all, _⟩ := idle
    have bound : _ ∈ config.bindings := all ▸ mem_append_right _ mem_cons_self
    cases free.symm.trans (steady.fixed _ bound shown _ declared)
  | occupied shown declared =>
    refine ⟨rows_readRows store, ?_, visit idle⟩
    obtain ⟨_, all, _⟩ := idle
    exact steady.fixed _ (all ▸ mem_append_right _ mem_cons_self) shown _ declared
  | refreshFailed => exact ⟨rfl, idle.2⟩
  | refreshed =>
    refine ⟨?_, idle.2⟩
    exact insert_of_find idle.1
  | scanFailed | sweptAll | returned => exact ⟨rfl, trivial⟩
  | scannedPage read | scannedLast read =>
    exact ⟨rows_readRows store, idle.1, forall_mem_append.mpr
      ⟨idle.2, fun name listed => (owned_of_ownedAliases read listed).1⟩⟩
  | sweepSkipped | sweepFailed =>
    exact ⟨rfl, idle.1, fun name listed => idle.2 name (mem_cons_of_mem _ listed)⟩
  | swept gone =>
    -- Every row the scan found belongs to a binding, so the sweep comes to none.
    exact absurd (idle.1 _ (steady.owners _ (idle.2 _ mem_cons_self))) gone
  | _ => exact idle.elim

private theorem Steady.stable (steady : Steady codec sidecars config table) (again : CoreStore β)
    (steps : Nat) (same : rows again = table) :
    rows ((publishConfiguredComponentBindings config).walk codec sidecars steps again).2 =
      table := by
  have begins : (publishConfiguredComponentBindings config : Call β).Idle codec config table
      again :=
    ⟨same, [], rfl, fun _ ⟨_, listed, _⟩ => by cases listed⟩
  exact (walk_invariant (.step steady) steps begins).1

private theorem get_of_written {current : Option β} (exact : Exact codec current)
    (carriable : Carriable codec current) {row : Json}
    (parsed : codec.parse (refreshed codec (publishedRow codec binding metadata) current) =
      some row) {key : String} (other : key ≠ shadowedUploadKey) :
    row.get key = (publishedInfo binding metadata).row.get key := by
  cases parsed.symm.trans (parse_refreshed (publishedInfo binding metadata) exact carriable)
  rw [get_holding, if_neg other]

private theorem converged_of_convergent (uploads : ExactUploads codec config before)
    (left : Sweeping codec sidecars config before [] table)
    (convergent : Convergent codec sidecars config before) :
    Converged codec sidecars config table := by
  have owners : ∀ name, Owned codec table name ↔ config.Publishes name := by
    intro name
    constructor
    · intro marked
      by_contra unclaimed
      rcases left.others name unclaimed with ⟨same, ahead⟩ | ⟨_, _, done⟩
      · rw [Owned, same] at marked
        cases ahead marked (convergent.reach name marked unclaimed)
      · rw [Owned, done, not_owned_of_swept] at marked
        cases marked
    · rintro ⟨binding, bound, shown, rfl⟩
      obtain ⟨metadata, declared, found⟩ := left.written binding bound shown
      obtain ⟨agrees, _⟩ := convergent.bags binding bound shown metadata declared
      rw [Owned, found]
      exact (rowIsConfigOwned_refreshed _ (uploads binding bound shown)).mpr
        ⟨(configOwned_published binding).mpr agrees.mark, convergent.carriable binding bound shown⟩
  refine ⟨owners, ?_, ?_⟩
  · intro binding bound shown
    obtain ⟨metadata, declared, found⟩ := left.written binding bound shown
    obtain ⟨agrees, _⟩ := convergent.bags binding bound shown metadata declared
    have exact := uploads binding bound shown
    have carriable := convergent.carriable binding bound shown
    have parsed := parse_refreshed (publishedInfo binding metadata) exact carriable
    refine ⟨_, by rw [found]; exact parsed, ?_⟩
    have reads {key : String} (other : key ≠ shadowedUploadKey) :=
      get_of_written exact carriable parsed other
    rw [reads (by decide), reads (by decide), reads (by decide)]
    exact (described_iff binding metadata).mpr ⟨agrees.engine, agrees.artifactPath⟩
  · have steady : Steady codec sidecars config table := by
      refine ⟨?_, fun name => (owners name).mp⟩
      intro binding bound shown metadata declared
      obtain ⟨_, known, found⟩ := left.written binding bound shown
      cases known.symm.trans declared
      obtain ⟨agrees, parked⟩ := convergent.bags binding bound shown metadata declared
      have again := (refreshed_refreshed (publishedInfo binding metadata)
        ((configOwned_published binding).mpr agrees.mark) (uploads binding bound shown)
        (convergent.carriable binding bound shown)).mpr parked
      rw [found]
      exact congrArg some again.symm
    exact fun again steps same => steady.stable again steps same

/-- Without faults and with readable sidecars, the bindings are visited to the end. -/
theorem walk_to_scan (sound : store.Sound)
    (readable : ∀ binding ∈ bindings, binding.publishable →
      ∃ metadata, bindingComponentMetadata sidecars binding.path = .ok metadata) :
    ∃ steps configured' final,
      (Call.inserting configured bindings 0).walk codec sidecars steps store =
        (.scanning configured' 0 [] 0, final) := by
  induction bindings generalizing configured store with
  | nil => exact ⟨1, configured, store, rfl⟩
  | cons binding rest ih =>
    have later : ∀ binding ∈ rest, binding.publishable →
        ∃ metadata, bindingComponentMetadata sidecars binding.path = .ok metadata :=
      fun binding listed => readable binding (mem_cons_of_mem _ listed)
    generalize first : (Call.inserting configured (binding :: rest) 0).advance codec sidecars
      store = progress
    have step : Call.Step codec sidecars store (.inserting configured (binding :: rest) 0)
        progress := first ▸ advance_step _
    have onwards : ∀ steps,
        (Call.inserting configured (binding :: rest) 0).walk codec sidecars (steps + 1) store =
          progress.call.walk codec sidecars steps progress.store := by
      intro steps
      rw [Call.walk, first]
    have sound' := step.sound sound
    cases step with
    | skipped | inserted =>
      obtain ⟨steps, reached, final, walked⟩ := ih sound' later
      exact ⟨steps + 1, reached, final, (onwards steps).trans walked⟩
    | unreadable shown broken =>
      obtain ⟨_, declared⟩ := readable binding mem_cons_self shown
      cases broken.symm.trans declared
    | insertFailed _ failed => cases (sound 0).symm.trans failed
    | @occupied _ _ _ _ metadata =>
      -- The refresh takes one more step.
      generalize second : (Call.refreshing (binding.aliasName :: configured) binding.aliasName
        (publishedRow codec binding metadata) rest 0).advance codec sidecars (readRows store) =
        refreshing
      have refresh : Call.Step codec sidecars (readRows store) _ refreshing :=
        second ▸ advance_step _
      have sound'' := refresh.sound sound'
      cases refresh with
      | refreshFailed failed => cases (sound' 0).symm.trans failed
      | refreshed =>
        obtain ⟨steps, reached, final, walked⟩ := ih sound'' later
        refine ⟨steps + 2, reached, final, (onwards (steps + 1)).trans ?_⟩
        rw [Call.walk, second]
        exact walked

private theorem convergent_of_converged (uploads : ExactUploads codec config before)
    (unique : (config.bindings.map aliasName).Nodup)
    (left : Sweeping codec sidecars config before [] table)
    (converged : Converged codec sidecars config table) :
    Convergent codec sidecars config before := by
  have marked : ∀ binding ∈ config.bindings, binding.publishable → ∀ metadata,
      bindingComponentMetadata sidecars binding.path = .ok metadata →
      Bag.KeepsMark metadata ∧ Carriable codec (before.find binding.aliasName) := by
    intro binding bound shown metadata declared
    obtain ⟨_, known, found⟩ := left.written binding bound shown
    cases known.symm.trans declared
    have owned := (converged.owners binding.aliasName).mpr ⟨binding, bound, shown, rfl⟩
    rw [Owned, found] at owned
    obtain ⟨mark, carriable⟩ :=
      (rowIsConfigOwned_refreshed _ (uploads binding bound shown)).mp owned
    exact ⟨(configOwned_published binding).mp mark, carriable⟩
  refine ⟨?_, ?_, ?_⟩
  · intro binding bound shown metadata declared
    obtain ⟨keeps, carriable⟩ := marked binding bound shown metadata declared
    have exact := uploads binding bound shown
    obtain ⟨_, known, found⟩ := left.written binding bound shown
    cases known.symm.trans declared
    constructor
    · obtain ⟨_, parsed, content⟩ := converged.described binding bound shown
      rw [found] at parsed
      have reads {key : String} (other : key ≠ shadowedUploadKey) :=
        get_of_written exact carriable parsed other
      rw [reads (by decide), reads (by decide), reads (by decide)] at content
      obtain ⟨engine, artifactPath⟩ := (described_iff binding metadata).mp content
      exact ⟨keeps, engine, artifactPath⟩
    · -- A second publication visits the binding again and must find its own row.
      have readable : ∀ binding ∈ config.bindings, binding.publishable →
          ∃ metadata, bindingComponentMetadata sidecars binding.path = .ok metadata := by
        intro binding bound shown
        obtain ⟨metadata, declared, _⟩ := left.written binding bound shown
        exact ⟨metadata, declared⟩
      let again : CoreStore β := ⟨fun _ => table, fun _ => none⟩
      have sound : again.Sound := fun _ => rfl
      obtain ⟨steps, configured, final, walked⟩ :
          ∃ steps configured final,
            (Call.inserting [] config.bindings 0).walk codec sidecars steps again =
              (.scanning configured 0 [] 0, final) := walk_to_scan sound readable
      have begins : (Call.inserting [] config.bindings 0 : Call β).Publishing codec sidecars config
          table again := publishing_start again
      have publishing := walk_invariant (Call.Publishing.step unique) steps begins
      have kept := converged.stable again steps rfl
      unfold publishConfiguredComponentBindings at kept
      rw [walked] at publishing kept
      obtain ⟨_, visited, _⟩ := publishing rfl
      obtain ⟨_, known, rewritten⟩ := visited.written binding bound shown
      cases known.symm.trans declared
      rw [kept, found] at rewritten
      exact (refreshed_refreshed (publishedInfo binding metadata)
        ((configOwned_published binding).mpr keeps) exact carriable).mp
          (Option.some.inj rewritten).symm
  · intro binding bound shown
    obtain ⟨metadata, declared, _⟩ := left.written binding bound shown
    exact (marked binding bound shown metadata declared).2
  · intro name owned unclaimed
    rcases left.others name unclaimed with ⟨same, _⟩ | ⟨_, reached, _⟩
    · have still : Owned codec table name := by
        rw [Owned, same]
        exact owned
      exact absurd ((converged.owners name).mp still) unclaimed
    · exact reached

/-- **Publication converges.** A publication of a manifest with unique aliases that displaces
uploads with exactly printed numbers only, runs alone and returns no failure converges exactly
when no sidecar overrides a field of its row, no displaced upload is nested too deep to be held
aside, and the scan reaches every row that lost its binding. -/
theorem publication_converges_iff (codec : JsonCodec β) {sidecars : Sidecars}
    {config : IntegrityConfig} {store final : CoreStore β}
    (unique : (config.bindings.map aliasName).Nodup)
    (uploads : ExactUploads codec config (rows store))
    (returns : (publishConfiguredComponentBindings config).Returns codec sidecars store final 0) :
    Converged codec sidecars config (rows final) ↔ Convergent codec sidecars config (rows store) :=
  have left := published_table unique returns
  ⟨convergent_of_converged uploads unique left, converged_of_convergent uploads left⟩

/-- A bag without fixed fields is harmless. -/
theorem coder_publication_converges :
    ∃ final, (publishConfiguredComponentBindings coderConfig).Returns JsonText.codec
        (declaring "toolCallParser" "hermes") emptyStore final 0 ∧
      Converged JsonText.codec (declaring "toolCallParser" "hermes") coderConfig (rows final) := by
  have ended : ((publishConfiguredComponentBindings coderConfig).finish JsonText.codec
      (declaring "toolCallParser" "hermes") 6 emptyStore).map Prod.snd = some 0 := by
    decide +kernel
  obtain ⟨⟨final, -⟩, ended, rfl⟩ := Option.map_eq_some_iff.mp ended
  refine ⟨final, ⟨6, ended⟩, (publication_converges_iff JsonText.codec (by decide)
    (fun _ _ _ _ held => by cases held) ⟨6, ended⟩).mpr ⟨?_, ?_, ?_⟩⟩
  · intro binding bound shown metadata declared
    cases mem_singleton.mp bound
    cases declared
    refine ⟨⟨?_, ?_, ?_⟩, .inl (by decide)⟩
    all_goals
      intro value overriding
      cases overriding
  · exact nofun
  · exact nofun

/-- A sidecar that declares a `source` of its own: the publication returns no failure,
and the row it wrote does not read as the publisher's. -/
theorem publication_diverges :
    ∃ (sidecars : Sidecars) (config : IntegrityConfig) (store final : CoreStore JsonText),
      (config.bindings.map aliasName).Nodup ∧
      (publishConfiguredComponentBindings config).Returns JsonText.codec sidecars store final 0 ∧
      ¬Converged JsonText.codec sidecars config (rows final) := by
  refine ⟨declaring "source" "upload", coderConfig, emptyStore, _, by decide, ⟨6, rfl⟩, ?_⟩
  intro converged
  have owned := (converged.owners "coder").mpr ⟨_, mem_singleton_self _, by decide, rfl⟩
  revert owned
  decide +kernel

end TachyonMesh.ComponentRegistry
