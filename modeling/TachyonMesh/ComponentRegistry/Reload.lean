import TachyonMesh.ComponentRegistry.Comparison

/-! # The window of a hot reload

Before a reload swaps the runtime, the publisher withdraws the bindings that the
incoming manifest will not serve as they are. What the withdrawal leaves is
determined by the table it finds (`withdrawn_table`): every alias the previous
manifest publishes is out of reach of uploads and guests afterwards. Whether a row
is kept is decided by less than the row.
-/

namespace TachyonMesh.ComponentRegistry
open Foundation Store List
variable {β : Type} {codec : JsonCodec β}

/-! ## The table that a withdrawal leaves -/

variable (codec) in
/-- The row of a publishable alias after a withdrawal. -/
def withdrawnRow (sidecars : Sidecars) (incoming : Dictionary String String) (name path : String)
    (current : Option β) : Option β :=
  if incoming.find name = some path ∧ rowStillCurrent codec sidecars path current = true then
    current
  else if current.isSome && !rowIsConfigOwned codec current then current
  else some (refreshed codec (reservationRow codec name) current)

private theorem find_reserved (table : Dictionary String β) (name other : String) :
    ((reserved codec name (table.find name)).apply name table).find other =
      if other = name then
        if (table.find name).isSome && !rowIsConfigOwned codec (table.find name) then
          table.find name
        else some (refreshed codec (reservationRow codec name) (table.find name))
      else table.find other := by
  rw [find_apply]
  by_cases same : other = name
  · rw [if_pos same, if_pos same]
    cases uploaded : (table.find name).isSome && !rowIsConfigOwned codec (table.find name) with
    | true => rw [reserved, uploaded]; rfl
    | false =>
      have ours : table.find name = none ∨ rowIsConfigOwned codec (table.find name) := by
        cases present : table.find name with
        | none => exact .inl rfl
        | some => rw [present] at uploaded; simpa using uploaded
      rw [reserved_eq ours]
      rfl
  · rw [if_neg same, if_neg same]

variable (codec) in
/-- The table after the publisher visited some bindings of a withdrawal. -/
structure Withdrawn (sidecars : Sidecars) (incoming : Dictionary String String)
    (before : Dictionary String β) (visited : List (String × String))
    (table : Dictionary String β) : Prop where
  changed : ∀ name path, (name, path) ∈ visited →
    table.find name = withdrawnRow codec sidecars incoming name path (before.find name)
  untouched : ∀ name, name ∉ visited.map Prod.fst → table.find name = before.find name

section
variable {sidecars : Sidecars} {incoming : Dictionary String String}
  {before table : Dictionary String β} {visited : List (String × String)} {name path : String}

private theorem withdrawn_nil : Withdrawn codec sidecars incoming before [] before where
  changed := nofun
  untouched := fun _ _ => rfl

/-- A row is visited once; what a visit leaves is decided by the row it finds. -/
theorem Withdrawn.visit (done : Withdrawn codec sidecars incoming before visited table)
    (fresh : name ∉ visited.map Prod.fst) {next : Dictionary String β}
    (here : next.find name = withdrawnRow codec sidecars incoming name path (table.find name))
    (others : ∀ other, other ≠ name → next.find other = table.find other) :
    Withdrawn codec sidecars incoming before (visited ++ [(name, path)]) next where
  changed := by
    intro other route listed
    rcases mem_append.mp listed with old | new
    · have different : other ≠ name := by
        rintro rfl
        exact fresh (mem_map_of_mem old)
      rw [others other different]
      exact done.changed other route old
    · cases mem_singleton.mp new
      rw [here, done.untouched _ fresh]
  untouched := by
    intro other unlisted
    rw [map_append, mem_append, not_or] at unlisted
    have different : other ≠ name := fun same => unlisted.2 (same ▸ mem_singleton_self _)
    rw [others other different, done.untouched other unlisted.1]

variable (codec) in
/-- How far a withdrawal has come. -/
def Call.Withdrawing (sidecars : Sidecars) (incoming : Dictionary String String)
    (order : List (String × String)) (before : Dictionary String β) (call : Call β)
    (store : CoreStore β) : Prop :=
  match call with
  | .checking target bindings =>
      target = incoming ∧ ∃ visited, order = visited ++ bindings ∧
        Withdrawn codec sidecars incoming before visited (rows store)
  | .reserving target name bindings =>
      target = incoming ∧ ∃ visited path, order = visited ++ (name, path) :: bindings ∧
        Withdrawn codec sidecars incoming before visited (rows store) ∧
        ¬(incoming.find name = some path ∧
          rowStillCurrent codec sidecars path ((rows store).find name))
  | .returned _ => Withdrawn codec sidecars incoming before order (rows store)
  | _ => False

variable {order : List (String × String)} {call : Call β} {store : CoreStore β} {failures : Nat}

private theorem Call.Withdrawing.step (distinct : (order.map Prod.fst).Nodup)
    {progress : Progress β}
    (sound : store.Sound)
    (withdrawing : call.Withdrawing codec sidecars incoming order before store)
    (step : Call.Step codec sidecars store call progress) :
    progress.call.Withdrawing codec sidecars incoming order before progress.store := by
  have fresh : ∀ {visited : List (String × String)} {name path : String}
      {rest : List (String × String)}, order = visited ++ (name, path) :: rest →
      name ∉ visited.map Prod.fst := by
    intro visited name path rest split listed
    rw [split, map_append, map_cons] at distinct
    exact (nodup_append.mp distinct).2.2 _ listed _ mem_cons_self rfl
  cases step with
  | checkedAll =>
    obtain ⟨_, _, all, done⟩ := withdrawing
    rw [append_nil] at all
    exact all ▸ done
  | unchanged same current =>
    obtain ⟨rfl, visited, all, done⟩ := withdrawing
    refine ⟨rfl, visited ++ [_], by rw [append_assoc]; exact all, ?_⟩
    apply done.visit (fresh all) _ fun _ _ => rfl
    rw [withdrawnRow, if_pos ⟨same, current⟩]
  | outdated _ stale =>
    obtain ⟨rfl, visited, all, done⟩ := withdrawing
    refine ⟨rfl, visited, _, all, ?_, ?_⟩
    · rw [rows_readRows]
      exact done
    · rw [rows_readRows]
      rintro ⟨_, current⟩
      cases stale.symm.trans current
  | checkFailed _ failed | reserveFailed failed => cases (sound 0).symm.trans failed
  | rebound different =>
    obtain ⟨rfl, visited, all, done⟩ := withdrawing
    exact ⟨rfl, visited, _, all, done, fun both => different both.1⟩
  | reserved =>
    obtain ⟨rfl, visited, _, all, done, changed⟩ := withdrawing
    refine ⟨rfl, visited ++ [_], by rw [append_assoc]; exact all, ?_⟩
    rw [rows_updateRow]
    apply done.visit (fresh all)
    · rw [find_reserved, if_pos rfl, withdrawnRow, if_neg changed]
    · intro other different
      rw [find_reserved, if_neg different]
  | returned => exact withdrawing
  | _ => exact withdrawing.elim

/-- A call that has not returned will return if it does after its next transaction. -/
theorem returns_of_step (running : ∀ failures, call ≠ .returned failures)
    (later : ∀ progress, Call.Step codec sidecars store call progress →
      ∃ final, progress.call.Returns codec sidecars progress.store final failures) :
    ∃ final, call.Returns codec sidecars store final failures := by
  obtain ⟨final, fuel, ended⟩ := later _ (advance_step _)
  refine ⟨final, fuel + 1, ?_⟩
  cases call with
  | returned failures => exact absurd rfl (running failures)
  | _ => exact ended

/-- A withdrawal returns; it visits each binding in at most two transactions. -/
theorem withdrawal_returns (bindings : List (String × String)) (store : CoreStore β) :
    ∃ final, (Call.checking incoming bindings).Returns codec sidecars store final 0 := by
  induction bindings generalizing store with
  | nil => exact ⟨store, 2, rfl⟩
  | cons binding rest ih =>
    obtain ⟨name, -⟩ := binding
    have reserve : ∀ store : CoreStore β,
        ∃ final, (Call.reserving incoming name rest).Returns codec sidecars store final 0 := by
      intro store
      apply returns_of_step (fun _ same => by cases same)
      intro progress step
      cases step with
      | reserveFailed | reserved => exact ih _
    apply returns_of_step (fun _ same => by cases same)
    intro progress step
    cases step with
    | unchanged => exact ih _
    | outdated | checkFailed | rebound => exact reserve _

private theorem withdrawn_table {previous incoming : IntegrityConfig}
    (arranged : order.Perm (publishableBindings previous).entries) {final : CoreStore β}
    (sound : store.Sound)
    (returns : (withdrawChangedComponentBindings incoming order).Returns codec sidecars store final
      failures) :
    Withdrawn codec sidecars (publishableBindings incoming) (rows store) order (rows final) := by
  obtain ⟨_, ended⟩ := returns
  have distinct : (order.map Prod.fst).Nodup := by
    apply (arranged.map Prod.fst).nodup_iff.mpr
    exact pairwise_map.mpr (publishableBindings previous).ascending.distinct
  have begins : (withdrawChangedComponentBindings incoming order : Call β).Withdrawing codec
      sidecars (publishableBindings incoming) order (rows store) store :=
    ⟨rfl, [], rfl, withdrawn_nil⟩
  have kept : Call.Preserves codec sidecars fun call current => current.Sound ∧
      call.Withdrawing codec sidecars (publishableBindings incoming) order
        (rows store) current := by
    rintro _ _ _ ⟨sound, withdrawing⟩ step
    exact ⟨step.sound sound, withdrawing.step distinct sound step⟩
  exact (finish_invariant kept ⟨sound, begins⟩ ended).2

end

/-! ## The window -/

variable (codec) in
/-- The incoming manifest serves a binding as it is: it binds the same path, and the
stored row is the one that publishing the binding now would write. -/
def StillPublished (sidecars : Sidecars) (incoming : Dictionary String String)
    (name path : String) (current : Option β) : Prop :=
  incoming.find name = some path ∧ ∃ raw metadata row, current = some raw ∧
    bindingComponentMetadata sidecars path = .ok metadata ∧ codec.parse raw = some row ∧
    codec.parse (refreshed codec (publishedRow codec ⟨name, path, false⟩ metadata) (some raw)) =
      some row

variable (codec) in
/-- A row of the publisher that says it is withdrawn. -/
def MarkedWithdrawn (current : Option β) : Prop :=
  ∃ raw row, current = some raw ∧ codec.parse raw = some row ∧ configOwned row ∧
    row.get "withdrawn" = some (.bool true)

section
variable [DecidableEq β]

variable (codec) in
/-- The store after some uploads and guest operations. -/
def performAll : List (Operation β × Sidecars) → CoreStore β → CoreStore β
  | [], store => store
  | (operation, sidecars) :: rest, store =>
      performAll rest (operation.perform codec sidecars store).1

variable (codec) in
/-- What a withdrawal owes to the window between it and the next publication. -/
structure Sealed (sidecars : Sidecars) (previous incoming : IntegrityConfig)
    (before : Dictionary String β) (after : CoreStore β) : Prop where
  kept : ∀ name path, (publishableBindings previous).find name = some path →
    StillPublished codec sidecars (publishableBindings incoming) name path (before.find name) →
    (rows after).find name = before.find name
  withdrawn : ∀ name path, (publishableBindings previous).find name = some path →
    ¬StillPublished codec sidecars (publishableBindings incoming) name path (before.find name) →
    MarkedWithdrawn codec ((rows after).find name)
  /-- No upload and no guest changes the row of such an alias. -/
  closed : ∀ name path, (publishableBindings previous).find name = some path →
    ∀ writes : List (Operation β × Sidecars),
      (rows (performAll codec writes after)).find name = (rows after).find name ∧
      ∀ (operation : Operation β) (declared : Sidecars), operation.Aims name →
        Refused (operation.perform codec declared) (performAll codec writes after)
  others : ∀ name, (publishableBindings previous).find name = none →
    (rows after).find name = before.find name

end

/-- The comparison of a row with a bag sees what publishing would write. -/
structure Comparable (name path : String) (metadata : Bag) (row : Json) : Prop where
  /-- A row that is up to date comes with a bag that leaves the fixed fields alone. -/
  complete : AsPublished name path metadata row → Discreet metadata row
  /-- A row with the engine and the texts of the bag is up to date in its other
  members too, or is withdrawn already. -/
  precise : LooksCurrent path metadata row →
    Remainder name path row ∨ row.get "withdrawn" = some (.bool true)

variable (codec) in
/-- The bindings that both manifests publish with one path are comparable with their
rows. -/
def ReloadComparable (sidecars : Sidecars) (previous incoming : IntegrityConfig)
    (before : Dictionary String β) : Prop :=
  ∀ name path row metadata, (publishableBindings previous).find name = some path →
    (publishableBindings incoming).find name = some path →
    (before.find name).bind codec.parse = some row →
    bindingComponentMetadata sidecars path = .ok metadata → Comparable name path metadata row

section
variable {sidecars : Sidecars} {incoming : Dictionary String String} {name path : String}
  {raw : β} {row : Json}

private theorem holding_is_object (info : RegistryComponentInfo) (held : Option Json) :
    ∃ members, info.holding held = .object members := by
  cases held with
  | none | some => exact ⟨_, rfl⟩

private theorem stillPublished_iff (exact : Exact codec (some raw))
    (parsed : codec.parse raw = some row)
    (owned : configOwned row) :
    StillPublished codec sidecars incoming name path (some raw) ↔
      incoming.find name = some path ∧ ∃ metadata,
        bindingComponentMetadata sidecars path = .ok metadata ∧
        AsPublished name path metadata row := by
  have marked := (rowIsConfigOwned_of_parse parsed).trans owned
  have written : ∀ metadata, codec.parse
      (refreshed codec (publishedRow codec ⟨name, path, false⟩ metadata) (some raw)) =
        some ((freshInfo name path metadata).holding (parked row)) := by
    intro metadata
    have carriable : Carriable codec (some raw) := fun _ held =>
      fits_of_heldAside_owned marked held
    have reads := parse_refreshed (freshInfo name path metadata) exact carriable
    rw [heldAside_of_parse parsed owned] at reads
    exact reads
  have same : ∀ metadata, AsPublished name path metadata row ↔
      row = (freshInfo name path metadata).holding (parked row) := by
    intro metadata
    constructor
    · intro published
      obtain ⟨members, whole⟩ := holding_is_object (freshInfo name path metadata) (parked row)
      have right := codec.fits_of_parse (whole ▸ written metadata)
      cases row with
      | object =>
        have left := codec.fits_of_parse parsed
        rw [whole]
        congr 1
        apply (Json.fits_object.mp left).1.ext (Json.fits_object.mp right).1
        intro key
        change _ = (Json.object members).get key
        rw [← whole]
        exact published key
      | _ => cases owned
    · intro equal key
      exact congrArg (Json.get key) equal
  apply and_congr_right
  intro _
  constructor
  · rintro ⟨_, metadata, _, stored, declared, read, rewritten⟩
    cases stored
    cases parsed.symm.trans read
    exact ⟨metadata, declared, (same metadata).mpr
      (Option.some.inj (rewritten.symm.trans (written metadata)))⟩
  · rintro ⟨metadata, declared, published⟩
    refine ⟨raw, metadata, row, rfl, declared, parsed, ?_⟩
    rw [written metadata, ← (same metadata).mp published]

/-- A published row never says that it is withdrawn: a bag can only override the mark
with a text. -/
theorem AsPublished.not_withdrawn {metadata : Bag}
    (published : AsPublished name path metadata row) :
    row.get "withdrawn" ≠ some (.bool true) := by
  have fixed : (freshInfo name path metadata).leading "withdrawn" = none :=
    (leading_published _ _).2.2
  rw [published, get_holding, if_neg (by decide), get_fresh, fixed, Option.or_none]
  cases metadata.find "withdrawn" with
  | none | some => simp

private theorem get_reservation (held : Option Json) :
    ((reservationInfo name).holding held).get "withdrawn" = some (.bool true) := by
  rw [get_holding, if_neg (by decide), get_row, if_pos ⟨rfl, rfl⟩]

private theorem configOwned_holding (info : RegistryComponentInfo) (held : Option Json) :
    configOwned (info.holding held) = configOwned info.row := by
  cases held with
  | none => rfl
  | some upload => exact configOwned_carrying info upload

variable {current : Option β}

section
variable (spared : current = none ∨ rowIsConfigOwned codec current)
include spared

private theorem carriable_of_spared : Carriable codec current := by
  intro upload held
  rcases spared with rfl | owned
  · cases held
  · exact fits_of_heldAside_owned owned held

private theorem markedWithdrawn_reservation (exact : Exact codec current) :
    MarkedWithdrawn codec (some (refreshed codec (reservationRow codec name) current)) := by
  have reads := parse_refreshed (reservationInfo name) exact (carriable_of_spared spared)
  refine ⟨_, _, rfl, reads, ?_, get_reservation _⟩
  rw [configOwned_holding]
  exact configOwned_reservation name

end

private theorem MarkedWithdrawn.owned (marked : MarkedWithdrawn codec current) :
    rowIsConfigOwned codec current := by
  obtain ⟨_, _, rfl, parsed, owned, _⟩ := marked
  exact (rowIsConfigOwned_of_parse parsed).trans owned

private theorem withdrawnRow_cases (sidecars : Sidecars) (incoming : Dictionary String String)
    (name path : String) (spared : current = none ∨ rowIsConfigOwned codec current)
    (exact : Exact codec current) :
    ((incoming.find name = some path ∧ rowStillCurrent codec sidecars path current) ∧
      withdrawnRow codec sidecars incoming name path current = current ∧
      rowIsConfigOwned codec current) ∨
    (¬(incoming.find name = some path ∧ rowStillCurrent codec sidecars path current) ∧
      MarkedWithdrawn codec (withdrawnRow codec sidecars incoming name path current)) := by
  by_cases keeps : incoming.find name = some path ∧ rowStillCurrent codec sidecars path current
  · refine .inl ⟨keeps, if_pos keeps, spared.resolve_left ?_⟩
    rintro rfl
    cases keeps.2
  have free : ¬((current.isSome && !rowIsConfigOwned codec current)) := by
    rcases spared with rfl | owned
    · exact Bool.false_ne_true
    · simp [owned]
  refine .inr ⟨keeps, ?_⟩
  rw [withdrawnRow, if_neg keeps, if_neg free]
  exact markedWithdrawn_reservation spared exact

variable (spared : current = none ∨ rowIsConfigOwned codec current) (exact : Exact codec current)
include spared exact

private theorem owned_withdrawnRow :
    rowIsConfigOwned codec (withdrawnRow codec sidecars incoming name path current) := by
  rcases withdrawnRow_cases sidecars incoming name path spared exact with
    ⟨_, kept, owned⟩ | ⟨_, marked⟩
  · rw [kept]
    exact owned
  · exact marked.owned

/-- A withdrawal decides about a row as it should exactly when the row is comparable
with the bag. -/
theorem decided_iff :
    ((StillPublished codec sidecars incoming name path current →
        withdrawnRow codec sidecars incoming name path current = current) ∧
      (¬StillPublished codec sidecars incoming name path current →
        MarkedWithdrawn codec (withdrawnRow codec sidecars incoming name path current))) ↔
    ∀ row metadata, incoming.find name = some path → current.bind codec.parse = some row →
      bindingComponentMetadata sidecars path = .ok metadata →
        Comparable name path metadata row := by
  have outcome := withdrawnRow_cases sidecars incoming name path spared exact
  rcases spared with rfl | owned
  · have absent : ¬StillPublished codec sidecars incoming name path none := by
      rintro ⟨_, _, _, _, stored, _⟩
      cases stored
    rcases outcome with ⟨_, _, owned⟩ | ⟨_, marked⟩
    · cases owned
    constructor
    · exact nofun
    · intro _
      exact ⟨fun still => absurd still absent, fun _ => marked⟩
  · obtain ⟨raw, row, rfl, parsed, marked⟩ := parse_of_rowIsConfigOwned owned
    have still : StillPublished codec sidecars incoming name path (some raw) ↔ _ :=
      stillPublished_iff exact parsed marked
    have current : rowStillCurrent codec sidecars path (some raw) ↔ _ :=
      rowStillCurrent_iff parsed marked
    have alone : ∀ {other}, MarkedWithdrawn codec (some raw) → codec.parse raw = some other →
        other.get "withdrawn" = some (.bool true) := by
      rintro _ ⟨_, _, stored, read, _, withdrawn⟩ again
      cases stored
      cases read.symm.trans again
      exact withdrawn
    constructor
    · rintro ⟨kept, withdrawn⟩ _ metadata path_same read declared
      cases parsed.symm.trans read
      constructor
      · intro published
        rcases outcome with ⟨⟨_, looking⟩, _⟩ | ⟨_, gone⟩
        · obtain ⟨_, known, looks⟩ := current.mp looking
          cases declared.symm.trans known
          exact published.looksCurrent_iff.mp looks
        · rw [kept (still.mpr ⟨path_same, metadata, declared, published⟩)] at gone
          exact absurd (alone gone parsed) published.not_withdrawn
      · intro looks
        by_cases published : AsPublished name path metadata row
        · exact .inl ((looks.asPublished_iff marked).mp published)
        have changed : ¬StillPublished codec sidecars incoming name path (some raw) := by
          intro same
          obtain ⟨_, _, known, published'⟩ := still.mp same
          cases declared.symm.trans known
          exact published published'
        have gone := withdrawn changed
        rw [withdrawnRow, if_pos ⟨path_same, current.mpr ⟨metadata, declared, looks⟩⟩] at gone
        exact .inr (alone gone parsed)
    · intro comparable
      constructor
      · intro same
        obtain ⟨path_same, metadata, declared, published⟩ := still.mp same
        have discreet := (comparable row metadata path_same parsed declared).complete published
        have looks := published.looksCurrent_iff.mpr discreet
        exact if_pos ⟨path_same, current.mpr ⟨metadata, declared, looks⟩⟩
      · intro changed
        rcases outcome with ⟨⟨path_same, looking⟩, kept, _⟩ | ⟨_, gone⟩
        · obtain ⟨metadata, declared, looks⟩ := current.mp looking
          rw [kept]
          rcases (comparable row metadata path_same parsed declared).precise looks with
            rest | withdrawn
          · have published : AsPublished name path metadata row :=
              (looks.asPublished_iff marked).mpr rest
            exact absurd (still.mpr ⟨path_same, metadata, declared, published⟩) changed
          · exact ⟨raw, row, rfl, parsed, marked, withdrawn⟩
        · exact gone

end

section
variable [DecidableEq β]

private theorem performAll_keeps_owned {name : String} (writes : List (Operation β × Sidecars)) :
    ∀ store : CoreStore β, Owned codec (rows store) name →
      (rows (performAll codec writes store)).find name = (rows store).find name := by
  induction writes with
  | nil => exact fun _ _ => rfl
  | cons write _ ih =>
    obtain ⟨operation, sidecars⟩ := write
    intro store owned
    have kept := perform_keeps_owned owned operation sidecars
    have still : Owned codec (rows (operation.perform codec sidecars store).1) name := by
      rw [Owned, kept]
      exact owned
    exact (ih _ still).trans kept

/-- A withdrawal in a table where no binding of the previous manifest is an upload's
returns, and, where the numbers of the uploads held aside are read as they were printed, seals
the window exactly when every binding that keeps its path is comparable with its row. -/
theorem reload_sealed_iff (codec : JsonCodec β) (sidecars : Sidecars)
    (previous incoming : IntegrityConfig) {order : List (String × String)}
    (arranged : order.Perm (publishableBindings previous).entries) {store : CoreStore β}
    (sound : store.Sound)
    (spared : ∀ name path, (publishableBindings previous).find name = some path →
      (rows store).find name = none ∨ Owned codec (rows store) name)
    (exact : ∀ name path, (publishableBindings previous).find name = some path →
      Exact codec ((rows store).find name)) :
    (∃ final, (withdrawChangedComponentBindings incoming order).Returns codec sidecars store final
      0) ∧
    ∀ final failures,
      (withdrawChangedComponentBindings incoming order).Returns codec sidecars store final
        failures →
      (Sealed codec sidecars previous incoming (rows store) final ↔
        ReloadComparable codec sidecars previous incoming (rows store)) := by
  refine ⟨withdrawal_returns order store, ?_⟩
  intro final failures returns
  have table := withdrawn_table arranged sound returns
  have left : ∀ name path, (publishableBindings previous).find name = some path →
      (rows final).find name = withdrawnRow codec sidecars (publishableBindings incoming) name path
        ((rows store).find name) := by
    intro name path bound
    exact table.changed name path (arranged.mem_iff.mpr (Dictionary.find_eq_some.mp bound))
  constructor
  · intro window name path row metadata bound
    have decided := (decided_iff (spared name path bound) (exact name path bound)).mp
      ⟨left name path bound ▸ window.kept name path bound,
        left name path bound ▸ window.withdrawn name path bound⟩
    exact decided row metadata
  · intro comparable
    have decided : ∀ name path (bound : (publishableBindings previous).find name = some path), _ :=
      fun name path bound => (decided_iff (spared name path bound) (exact name path bound)).mpr
        fun row metadata => comparable name path row metadata bound
    refine ⟨?_, ?_, ?_, ?_⟩
    · intro name path bound still
      rw [left name path bound]
      exact (decided name path bound).1 still
    · intro name path bound changed
      rw [left name path bound]
      exact (decided name path bound).2 changed
    · intro name path bound writes
      have owned : Owned codec (rows final) name := by
        rw [Owned, left name path bound]
        exact owned_withdrawnRow (spared name path bound) (exact name path bound)
      have kept := performAll_keeps_owned writes final owned
      refine ⟨kept, ?_⟩
      intro operation declared aimed
      apply perform_refused _ aimed declared
      rw [Owned, kept]
      exact owned
    · intro name unbound
      apply table.untouched
      intro listed
      obtain ⟨⟨_, _⟩, present, rfl⟩ := mem_map.mp listed
      have bound := Dictionary.find_eq_some.mpr (arranged.mem_iff.mp present)
      cases unbound.symm.trans bound

end

/-- The table in which `coder` is published with a bag of one entry. -/
def publishedCoder (key value : String) : CoreStore JsonText where
  partitions := fun _ => .ofList [("coder", publishedRow JsonText.codec
    ⟨"coder", "/models/coder", false⟩ (.ofList [(key, value)]))]
  faults := fun _ => none

private theorem publishableBindings_coder {name path : String}
    (bound : (publishableBindings coderConfig).find name = some path) :
    name = "coder" ∧ path = "/models/coder" := by
  obtain ⟨_, listed, _, rfl, rfl⟩ := mem_publishableBindings (Dictionary.find_eq_some.mp bound)
  cases mem_singleton.mp listed
  exact ⟨rfl, rfl⟩

/-- A reload of the same manifest, with a sidecar that declares a tool call parser. -/
theorem coder_reload_sealed :
    ∃ final, (withdrawChangedComponentBindings coderConfig [("coder", "/models/coder")]).Returns
        JsonText.codec (declaring "toolCallParser" "hermes")
        (publishedCoder "toolCallParser" "hermes") final 0 ∧
      Sealed JsonText.codec (declaring "toolCallParser" "hermes") coderConfig coderConfig
        (rows (publishedCoder "toolCallParser" "hermes")) final := by
  obtain ⟨⟨final, returns⟩, exactly⟩ := reload_sealed_iff JsonText.codec
    (declaring "toolCallParser" "hermes") coderConfig coderConfig
    (isPerm_iff.mp (by decide +kernel : isPerm [("coder", "/models/coder")] _))
    (fun _ => rfl : (publishedCoder "toolCallParser" "hermes").Sound)
    (fun name path bound => by
      obtain ⟨rfl, rfl⟩ := publishableBindings_coder bound
      exact .inr (by decide +kernel))
    (fun name path bound row held => by
      obtain ⟨rfl, rfl⟩ := publishableBindings_coder bound
      have nothing : heldAside JsonText.codec
          ((rows (publishedCoder "toolCallParser" "hermes")).find "coder") = none := by
        decide +kernel
      cases nothing.symm.trans held)
  refine ⟨final, returns, (exactly final 0 returns).mpr ?_⟩
  intro name path row metadata bound _ stored declared
  obtain ⟨rfl, rfl⟩ := publishableBindings_coder bound
  cases declared
  have found : ((rows (publishedCoder "toolCallParser" "hermes")).find "coder").bind
      JsonText.codec.parse = some (freshInfo "coder" "/models/coder"
        (.ofList [("toolCallParser", "hermes")])).row := by
    decide +kernel
  cases found.symm.trans stored
  constructor
  · intro _
    constructor
    · decide +kernel
    · intro upload held
      have nothing : parked (freshInfo "coder" "/models/coder"
          (.ofList [("toolCallParser", "hermes")])).row = none := by
        decide +kernel
      cases nothing.symm.trans held
  · intro looks
    refine .inl ((looks.asPublished_iff (by decide +kernel)).mp ?_)
    intro key
    rfl

/-- A sidecar declares a `status`: a reload of the same manifest withdraws the row that
publishing would write again. -/
theorem unchanged_coder_withdrawn :
    ∃ (sidecars : Sidecars) (previous incoming : IntegrityConfig)
      (order : List (String × String)) (store final : CoreStore JsonText),
      order.Perm (publishableBindings previous).entries ∧ store.Sound ∧
      (∀ name path, (publishableBindings previous).find name = some path →
        (rows store).find name = none ∨ Owned JsonText.codec (rows store) name) ∧
      (withdrawChangedComponentBindings incoming order).Returns JsonText.codec sidecars store final
        0 ∧
      ¬Sealed JsonText.codec sidecars previous incoming (rows store) final := by
  have ended : ((withdrawChangedComponentBindings coderConfig [("coder", "/models/coder")]).finish
      JsonText.codec (declaring "status" "beta") 4 (publishedCoder "status" "beta")).map
        (fun result => (result.2, decide ((rows result.1).find "coder" =
          (rows (publishedCoder "status" "beta")).find "coder"))) = some (0, false) := by
    decide +kernel
  obtain ⟨⟨final, _⟩, ended, outcome⟩ := Option.map_eq_some_iff.mp ended
  obtain ⟨rfl, changed⟩ := Prod.mk.inj outcome
  refine ⟨declaring "status" "beta", coderConfig, coderConfig, [("coder", "/models/coder")],
    publishedCoder "status" "beta", final, ?_, fun _ => rfl, ?_, ⟨4, ended⟩, ?_⟩
  · exact isPerm_iff.mp (by decide +kernel)
  · intro name path bound
    obtain ⟨rfl, rfl⟩ := publishableBindings_coder bound
    exact .inr (by decide +kernel)
  intro window
  have still : StillPublished JsonText.codec (declaring "status" "beta")
      (publishableBindings coderConfig) "coder" "/models/coder"
      ((rows (publishedCoder "status" "beta")).find "coder") :=
    ⟨by decide +kernel, _, _, _, rfl, rfl, rfl, by decide +kernel⟩
  exact of_decide_eq_false changed (window.kept "coder" "/models/coder" (by decide +kernel) still)

end TachyonMesh.ComponentRegistry
