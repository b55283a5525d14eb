import TachyonMesh.ModelBroker.Operations

/-! # What one attempt can leave behind

`commitUpload_glimpse` follows one attempt of a commit step by step. Whatever step
a crash cuts it off at, the directories are in one of a few situations relative to
the ones the attempt began with (`Phase`), and nothing of another upload has been
touched (`Frame`).
-/

namespace TachyonMesh.ModelBroker
open Foundation Option Place Script
variable {β : Type} {broker : Broker β}

/-! ## Situations -/

/-- Nothing of another upload has been touched. -/
structure Frame (uploadId : String) (start world : World broker) : Prop where
  replaced : ∀ other, other ≠ uploadId → world.at (.replaced other) = start.at (.replaced other)
  uploads : ∀ other, other ≠ uploadId → world.uploads other = start.uploads other
  current : world.current = start.current
  found : world.found = start.found
  returned : ∀ other outcome, world.returned = some (other, outcome) → other = uploadId

/-- What the live path holds once an earlier attempt has been reconciled. -/
def resumed (uploadId : String) (start : World broker) : Option (Folder β) :=
  (start.at (.replaced uploadId)).or (start.at .live)

/-- No commit has just been turned down. -/
def Quiet (world : World broker) : Prop :=
  ∀ other error, world.returned ≠ some (other, .refused error) ∧
    world.returned ≠ some (other, .rejected error)

/-- The attempt got past the checks: its archive is there, and a live directory beside
a parked one is the upload's own. -/
structure Begun (uploadId : String) (start : World broker) : Prop where
  staged : (start.uploads uploadId).archive ≠ none
  own : start.at (.replaced uploadId) ≠ none → ∀ live, start.at .live = some live →
    installedUploadId broker live = some uploadId

/-- How far an attempt has come. -/
inductive Phase (uploadId : String) (start world : World broker) : Prop
  | waiting (live : world.at .live = start.at .live)
      (replaced : world.at (.replaced uploadId) = start.at (.replaced uploadId))
      (upload : world.uploads uploadId = start.uploads uploadId)
      (accepted : world.accepted = start.accepted) (quiet : Quiet world)
  /-- What an earlier attempt installed is going. -/
  | rewinding (begun : Begun uploadId start) (parked : start.at (.replaced uploadId) ≠ none)
      (replaced : world.at (.replaced uploadId) = start.at (.replaced uploadId))
      (upload : world.uploads uploadId = start.uploads uploadId)
      (accepted : world.accepted = start.accepted) (quiet : Quiet world)
  /-- The live path is as before the upload; so it is again after a rollback. The
  archive goes when it does not unpack, or after a refusal. -/
  | resumed (begun : Begun uploadId start)
      (live : world.at .live = ModelBroker.resumed uploadId start)
      (replaced : world.at (.replaced uploadId) = none)
      (upload : world.uploads uploadId = start.uploads uploadId ∧ Quiet world ∨
        (world.uploads uploadId).archive = none ∧
          (broker.contents uploadId (start.uploads uploadId) = none ∨ uploadId ∉ start.accepted))
      (accepted : world.accepted = start.accepted)
  /-- The previous checkpoint is parked; the live path holds nothing, the upload or
  what a rollback has left of it. -/
  | displaced (begun : Begun uploadId start)
      (replaced : world.at (.replaced uploadId) = ModelBroker.resumed uploadId start)
      (upload : world.uploads uploadId = start.uploads uploadId)
      (accepted : world.accepted = start.accepted) (quiet : Quiet world)
  | accepted {folder : Folder β}
      (holds : broker.contents uploadId (start.uploads uploadId) = some folder)
      (live : world.at .live = some folder)
      (upload : world.uploads uploadId = start.uploads uploadId ∨
        (world.uploads uploadId).archive = none)
      (accepted : world.accepted = uploadId :: start.accepted) (quiet : Quiet world)

/-- What a crash during an attempt can leave, relative to the world it began in. -/
def Glimpse (uploadId : String) (start world : World broker) : Prop :=
  Frame uploadId start world ∧ Phase uploadId start world

/-- A publication is not refused if one of the same upload was accepted before. -/
def Answers (world : World broker) (choice : Choice) : Prop :=
  match choice with
  | .refuse _ => ∀ uploadId ∈ world.current, uploadId ∉ world.accepted
  | _ => True

/-- The commit runs, nothing has been published, and these are the directories. -/
structure Stand (uploadId : String) (start world : World broker)
    (live replaced : Option (Folder β)) : Prop where
  frame : Frame uploadId start world
  live : world.at .live = live
  replaced : world.at (.replaced uploadId) = replaced
  upload : world.uploads uploadId = start.uploads uploadId
  accepted : world.accepted = start.accepted
  running : world.returned = none

section
variable {uploadId : String} {start world changed : World broker}
  {live replaced : Option (Folder β)} {folders : Folders β}

theorem quiet_of_running (running : world.returned = none) : Quiet world := by
  intro other error
  rw [running]
  exact ⟨(some_ne_none _).symm, (some_ne_none _).symm⟩

private theorem Stand.waiting
    (stand : Stand uploadId start world (start.at .live) (start.at (.replaced uploadId))) :
    Glimpse uploadId start world :=
  ⟨stand.frame, .waiting stand.live stand.replaced stand.upload stand.accepted
    (quiet_of_running stand.running)⟩

private theorem Stand.rewinding (begun : Begun uploadId start)
    (parked : start.at (.replaced uploadId) ≠ none)
    (stand : Stand uploadId start world live (start.at (.replaced uploadId))) :
    Glimpse uploadId start world :=
  ⟨stand.frame, .rewinding begun parked stand.replaced stand.upload stand.accepted
    (quiet_of_running stand.running)⟩

private theorem Stand.resumed (begun : Begun uploadId start)
    (stand : Stand uploadId start world (resumed uploadId start) none) :
    Glimpse uploadId start world :=
  ⟨stand.frame, .resumed begun stand.live stand.replaced
    (.inl ⟨stand.upload, quiet_of_running stand.running⟩) stand.accepted⟩

private theorem Stand.displaced (begun : Begun uploadId start)
    (stand : Stand uploadId start world live (ModelBroker.resumed uploadId start)) :
    Glimpse uploadId start world :=
  ⟨stand.frame, .displaced begun stand.replaced stand.upload stand.accepted
    (quiet_of_running stand.running)⟩

/-- Changing directories other than the parked ones of other uploads. -/
theorem Frame.change (frame : Frame uploadId start world)
    (others : ∀ other, other ≠ uploadId →
      World.at { world with folders } (.replaced other) = world.at (.replaced other)) :
    Frame uploadId start { world with folders } where
  __ := frame
  replaced other different := (others other different).trans (frame.replaced other different)

variable (stand : Stand uploadId start world live replaced)
include stand

private theorem Stand.change
    (others : ∀ other, other ≠ uploadId → World.at { world with folders } (.replaced other) =
      world.at (.replaced other)) :
    Stand uploadId start { world with folders } (World.at { world with folders } .live)
      (World.at { world with folders } (.replaced uploadId)) where
  __ := stand
  frame := stand.frame.change others
  live := rfl
  replaced := rfl

/-- Changing a directory that is neither live nor parked. -/
theorem Stand.apart {place : Place} (apart : Apart (place.name broker) world changed)
    (hidden : place ≠ .live) (unparked : ∀ other, place ≠ .replaced other) :
    Stand uploadId start changed live replaced := by
  have kept := stand.change fun other _ => apart.at (unparked other).symm
  rw [← apart.rest, apart.at hidden.symm, apart.at (unparked uploadId).symm, stand.live,
    stand.replaced] at kept
  exact kept

private theorem Stand.apart_live (apart : Apart (Place.live.name broker) world changed) :
    Stand uploadId start changed (changed.at .live) replaced := by
  have kept := stand.change fun other _ => apart.at (by simp : Place.replaced other ≠ .live)
  rw [← apart.rest, apart.at (by simp : Place.replaced uploadId ≠ .live), stand.replaced] at kept
  exact kept

/-- Moving a directory of the upload between its places. -/
theorem Stand.move {source target : Place} {folder : Folder β}
    (sources : ∀ other, other ≠ uploadId → source ≠ .replaced other)
    (targets : ∀ other, other ≠ uploadId → target ≠ .replaced other)
    (places : ∀ other, World.at { world with folders } other = if other =
      target then some folder else if other = source then none else world.at other) :
    Stand uploadId start { world with folders } (World.at { world with folders } .live)
      (World.at { world with folders } (.replaced uploadId)) := by
  apply stand.change
  intro other different
  rw [places, if_neg (targets other different).symm, if_neg (sources other different).symm]

end

/-- The directories are as the attempt found them. -/
abbrev Untouched (uploadId : String) (start world : World broker) : Prop :=
  Stand uploadId start world (start.at .live) (start.at (.replaced uploadId))

/-! ## Following an attempt -/

/-- Only glimpses on the way, and `after` at the end. -/
abbrev Follows {α : Type} (uploadId : String) (start : World broker) (script : Commit broker α)
    (after : α → World broker → Prop) (world : World broker) : Prop :=
  script.Always Answers (Glimpse uploadId start) after world

/-- The staged files of an upload are going or gone, and the commit may have returned. -/
structure Cleaned (uploadId : String) (outcome : Outcome) (world changed : World broker) :
    Prop where
  folders : changed.folders = world.folders
  uploads : ∀ other, other ≠ uploadId → changed.uploads other = world.uploads other
  archive : (changed.uploads uploadId).archive = none
  current : changed.current = world.current
  found : changed.found = world.found
  accepted : changed.accepted = world.accepted
  returned : changed.returned = world.returned ∨ changed.returned = some (uploadId, outcome)

variable {uploadId : String} {start world : World broker} {outcome : Outcome}
  {changed : World broker} {error : String} {incoming : Option (Folder β)} {folder : Folder β}
  {pending : PendingUpload} {folders : Folders β} {replaced : Bool}

private theorem Cleaned.at (cleaned : Cleaned uploadId outcome world changed) (place : Place) :
    changed.at place = world.at place :=
  congrArg (Dictionary.find · (place.name broker)) cleaned.folders

private theorem Frame.cleaned (frame : Frame uploadId start world)
    (cleaned : Cleaned uploadId outcome world changed) : Frame uploadId start changed where
  replaced := fun other different => (cleaned.at _).trans (frame.replaced other different)
  uploads := fun other different =>
    (cleaned.uploads other different).trans (frame.uploads other different)
  current := cleaned.current.trans frame.current
  found := cleaned.found.trans frame.found
  returned := by
    intro other result said
    rcases cleaned.returned with same | new
    · exact frame.returned other result (same ▸ said)
    · rw [new] at said
      cases said
      rfl

private theorem follows_close
    (kept : ∀ changed, Cleaned uploadId outcome world changed → Glimpse uploadId start changed) :
    Follows uploadId start (do cleanupStaging uploadId; finish uploadId outcome)
      (fun _ _ => True) world := by
  -- The three steps in turn; each leaves a cleaned world.
  have others : ∀ (change : Upload β broker.aliasName) (uploads : String → _) other,
      other ≠ uploadId → Function.update uploads uploadId change other = uploads other :=
    fun change uploads other different => Function.update_of_ne different change uploads
  apply always_bind
  apply always_bind
  refine always_perform (kept _ ?_)
    (always_perform (kept _ ?_) (always_perform (kept _ ?_) trivial))
  · exact ⟨rfl, others _ _, by simp, rfl, rfl, rfl, .inl rfl⟩
  · refine ⟨rfl, ?_, by simp, rfl, rfl, rfl, .inl rfl⟩
    intro other different
    exact (others _ _ other different).trans (others _ _ other different)
  · refine ⟨rfl, ?_, by simp, rfl, rfl, rfl, .inr rfl⟩
    intro other different
    exact (others _ _ other different).trans (others _ _ other different)

/-- A commit that gives up before it publishes. -/
theorem follows_finish (stand : Untouched uploadId start world) :
    Follows uploadId start (finish uploadId (.failed error)) (fun _ _ => True) world := by
  refine always_perform ⟨{ stand.frame with returned := ?_ }, ?_⟩ trivial
  · intro other outcome said
    cases said
    rfl
  · refine .waiting stand.live stand.replaced stand.upload stand.accepted ?_
    exact fun _ _ => ⟨nofun, nofun⟩

private theorem discarded_of_isPrefixOf {name : String}
    (marked : discardedBackupPrefix.toList.isPrefixOf name.toList) :
    ∃ suffix, name = (discarded suffix).name broker := by
  obtain ⟨rest, spelled⟩ := List.isPrefixOf_iff_prefix.mp marked
  refine ⟨String.ofList rest, ?_⟩
  rw [← String.toList_inj, Place.name, String.toList_append, String.toList_ofList, spelled]

private theorem follows_reclaimDiscardedBackups (stand : Untouched uploadId start world) :
    Follows uploadId start (reclaimDiscardedBackups broker)
      (fun _ world => Untouched uploadId start world)
      world := by
  apply always_inspect stand.waiting
  refine (always_forM (fun left (world : World broker) =>
    (∀ name ∈ left, ∃ suffix, name = (discarded suffix).name broker) ∧
      Untouched uploadId start world)
    ?_ ⟨?_, stand⟩).mono fun _ _ both => both.2
  · rintro name _ world ⟨named, stand⟩
    obtain ⟨suffix, rfl⟩ := named name List.mem_cons_self
    have stays : ∀ changed, Apart ((discarded suffix).name broker) world changed →
        Untouched uploadId start changed :=
      fun changed apart => stand.apart apart (by simp) (by simp)
    apply always_removeDirAll
    · exact fun changed apart => (stays changed apart).waiting
    · intro changed apart _
      exact ⟨fun name listed => named name (List.mem_cons_of_mem _ listed), stays changed apart⟩
  · intro name listed
    exact discarded_of_isPrefixOf (List.mem_filter.mp listed).2

/-! ### Reconciliation -/

/-- The live path is as before the upload and nothing is parked; the commit is about
to unpack, or to install what it unpacked. -/
structure Ready (uploadId : String) (start world : World broker)
    (incoming : Option (Folder β)) : Prop where
  stand : Stand uploadId start world (resumed uploadId start) none
  incoming : world.at (.incoming uploadId) = incoming

/-- After reconciliation the live path is as before the upload, unless it is somebody
else's. -/
abbrev Reconciled (uploadId : String) (start : World broker) (result : Except String Unit)
    (world : World broker) : Prop :=
  match result with
  | .error _ => Untouched uploadId start world
  | .ok () => Begun uploadId start ∧ Ready uploadId start world none

private theorem follows_restore (begun : Begun uploadId start)
    (parked : start.at (.replaced uploadId) ≠ none)
    (stand : Stand uploadId start world none (start.at (.replaced uploadId)))
    (unpacked : world.at (.incoming uploadId) = none) :
    Follows uploadId start (reconcileInterruptedCommit.restore broker uploadId)
      (Reconciled uploadId start) world := by
  obtain ⟨_, present⟩ := ne_none_iff_exists'.mp parked
  apply always_bind
  apply always_rename (stand.replaced.trans present) stand.live
  intro folders places
  have back : Stand uploadId start { world with folders } (resumed uploadId start) none := by
    have kept := stand.move (by simpa using fun _ different => Ne.symm different) (by simp) places
    rw [places, if_pos rfl, places, if_neg (by simp), if_pos rfl] at kept
    rw [resumed, present, some_or]
    exact kept
  have absent : World.at { world with folders } (.incoming uploadId) = none := by
    rw [places, if_neg (by simp), if_neg (by simp)]
    exact unpacked
  refine ⟨back.resumed begun, ?_⟩
  apply always_bind
  apply always_removeDirAll_absent back.replaced (back.resumed begun)
  exact always_pure ⟨begun, back, absent⟩

private theorem follows_reconcileInterruptedCommit
    (staged : (start.uploads uploadId).archive ≠ none)
    (stand : Untouched uploadId start world) (unpacked : world.at (.incoming uploadId) = none) :
    Follows uploadId start (reconcileInterruptedCommit broker uploadId)
      (Reconciled uploadId start) world := by
  apply always_inspect stand.waiting
  rw [stand.replaced]
  split
  · next parked =>
    rw [isNone_iff_eq_none] at parked
    have same : resumed uploadId start = start.at .live := by
      rw [resumed, parked, none_or]
    exact always_pure
      ⟨⟨staged, fun present => absurd parked present⟩, same ▸ parked ▸ stand, unpacked⟩
  · next parked =>
    rw [isNone_iff_eq_none] at parked
    apply always_inspect stand.waiting
    rw [stand.live]
    cases found : start.at .live with
    | none =>
      have begun : Begun uploadId start :=
        ⟨staged, fun _ live present => by cases found.symm.trans present⟩
      exact follows_restore begun parked (found ▸ stand) unpacked
    | some _ =>
      dsimp only
      split
      · exact always_pure stand
      · next own =>
        have begun : Begun uploadId start := by
          refine ⟨staged, fun _ other present => ?_⟩
          cases found.symm.trans present
          exact not_not.mp own
        apply always_bind
        apply always_removeDirAll
        · exact fun changed apart => (stand.apart_live apart).rewinding begun parked
        intro changed apart gone
        have removed := stand.apart_live apart
        rw [show changed.at .live = none from gone] at removed
        exact follows_restore begun parked removed ((apart.at (by simp)).trans unpacked)

/-! ### Unpacking -/

private theorem Ready.apart_incoming (ready : Ready uploadId start world incoming)
    (apart : Apart ((Place.incoming uploadId).name broker) world changed) :
    Ready uploadId start changed (changed.at (.incoming uploadId)) :=
  ⟨ready.stand.apart apart (by simp) (by simp), rfl⟩

private theorem Ready.put (ready : Ready uploadId start world incoming) (folder : Folder β) :
    Ready uploadId start
      { world with folders := world.folders.insert ((Place.incoming uploadId).name broker) folder }
      (some folder) := by
  have apart : Apart ((Place.incoming uploadId).name broker) world
      { world with
        folders := world.folders.insert ((Place.incoming uploadId).name broker) folder } :=
    ⟨rfl, fun _ different => (Dictionary.find_insert _ _ _ _).trans (if_neg different)⟩
  exact ⟨(ready.apart_incoming apart).stand, (Dictionary.find_insert _ _ _ _).trans (if_pos rfl)⟩

private theorem follows_writeFile {file : String} {content : β} {after : Bool → World broker → Prop}
    (begun : Begun uploadId start) (ready : Ready uploadId start world (some folder))
    (written : ∀ world, Ready uploadId start world (some (folder.insert file content)) →
      after true world) :
    Follows uploadId start (writeFile (.incoming uploadId) file content) after world := by
  have stored : world.folders.find ((incoming uploadId).name broker) = some folder := ready.incoming
  apply always_onFolders
  · intro failed
    rw [Folders.write, stored] at failed
    cases failed
  intro folders succeeded
  rw [Folders.write, stored] at succeeded
  cases succeeded
  have next := ready.put (folder.insert file content)
  exact ⟨next.stand.resumed begun, written _ next⟩

private theorem follows_unpackInto (begun : Begun uploadId start) (made : Extracted)
    (archive : Archive β)
    (ready : Ready uploadId start world (some folder)) :
    Follows uploadId start (unpackInto broker uploadId made archive)
      (fun result world =>
        match result with
        | .error error => unpackTargz made archive folder = .error error ∧
            ∃ incoming, Ready uploadId start world incoming
        | .ok final => ∃ unpacked, unpackTargz made archive folder = .ok (final, unpacked) ∧
            Ready uploadId start world (some unpacked)) world := by
  induction archive generalizing made folder world with
  | nil => exact always_pure ⟨folder, rfl, ready⟩
  | cons entry _ ih =>
    rw [unpackInto, unpackTargz]
    cases extractEntry made entry with
    | error _ => exact always_pure ⟨rfl, _, ready⟩
    | ok extracted =>
      obtain ⟨made, file⟩ := extracted
      cases file with
      | none => exact ih made ready
      | some =>
        apply always_bind
        apply follows_writeFile begun ready
        intro world written
        exact ih made written

section
variable (begun : Begun uploadId start)
include begun

/-- What is staged is what the upload holds; if staging fails, it holds nothing. -/
theorem follows_stageIncoming (loaded : (start.uploads uploadId).pending = some pending)
    (ready : Ready uploadId start world none) :
    Follows uploadId start (stageIncoming broker uploadId pending)
      (fun result world =>
        match result with
        | .error _ => broker.contents uploadId (start.uploads uploadId) = none ∧
            ∃ incoming, Ready uploadId start world incoming
        | .ok () => ∃ folder, broker.contents uploadId (start.uploads uploadId) = some folder ∧
            Ready uploadId start world (some folder)) world := by
  obtain ⟨archive, archived⟩ := ne_none_iff_exists'.mp begun.staged
  have contents : broker.contents uploadId (start.uploads uploadId) =
      (broker.buildModel uploadId pending.files archive).toOption := by
    rw [Broker.contents, loaded, archived]
    rfl
  rw [Broker.buildModel] at contents
  have absent : world.folders.find ((incoming uploadId).name broker) = none := ready.incoming
  apply always_bind
  apply always_onFolders
  · intro failed
    rw [absent] at failed
    cases failed
  intro folders created
  rw [absent] at created
  cases created
  have empty := ready.put .empty
  refine ⟨empty.stand.resumed begun, ?_⟩
  apply always_inspect (empty.stand.resumed begun)
  rw [empty.stand.upload, archived]
  apply (follows_unpackInto begun .empty archive empty).bind
  intro result world outcome
  cases result with
  | error =>
    obtain ⟨failed, incoming, ready⟩ := outcome
    refine always_pure ⟨?_, incoming, ready⟩
    rw [contents, failed]
    rfl
  | ok =>
    obtain ⟨folder, unpacked, ready⟩ := outcome
    rw [unpacked] at contents
    apply always_inspect (ready.stand.resumed begun)
    rw [ready.incoming, getD_some]
    dsimp only [Bind.bind, Except.bind] at contents
    cases checked : validateExtractedFileManifest broker folder pending.files with
    | error =>
      rw [checked] at contents
      exact always_pure ⟨contents, _, ready⟩
    | ok =>
      rw [checked] at contents
      dsimp only at contents ⊢
      split at contents
      · next blocked =>
        rw [if_pos blocked]
        exact always_pure ⟨contents, _, ready⟩
      · next free =>
        rw [if_neg free]
        apply always_bind
        apply follows_writeFile begun ready
        intro world stamped
        exact always_pure ⟨_, contents, stamped⟩

/-! ### Giving up and rolling back -/

/-- The commit ends with the live path as before the upload, and says why. -/
theorem follows_close_resumed (stand : Stand uploadId start world (resumed uploadId start) none)
    (reason :
      broker.contents uploadId (start.uploads uploadId) = none ∨ uploadId ∉ start.accepted) :
    Follows uploadId start (do cleanupStaging uploadId; finish uploadId outcome)
      (fun _ _ => True) world := by
  apply follows_close
  intro changed cleaned
  exact ⟨stand.frame.cleaned cleaned, .resumed begun ((cleaned.at _).trans stand.live)
    ((cleaned.at _).trans stand.replaced) (.inr ⟨cleaned.archive, reason⟩)
    (cleaned.accepted.trans stand.accepted)⟩

private theorem follows_abandon
    (unusable : broker.contents uploadId (start.uploads uploadId) = none)
    (ready : Ready uploadId start world incoming) :
    Follows uploadId start (abandon broker uploadId outcome) (fun _ _ => True) world := by
  apply always_bind
  apply always_removeDirAll
  · exact fun changed apart => (ready.apart_incoming apart).stand.resumed begun
  · intro changed apart _
    exact follows_close_resumed begun (ready.apart_incoming apart).stand (.inl unusable)

private theorem follows_putBack (whether : replaced = (resumed uploadId start).isSome)
    (stand : Stand uploadId start world none (resumed uploadId start)) :
    Follows uploadId start (putBack broker uploadId replaced)
      (fun _ world => Stand uploadId start world (resumed uploadId start) none) world := by
  rw [whether]
  cases parked : resumed uploadId start with
  | none =>
    rw [parked] at stand
    exact always_pure stand
  | some =>
    apply always_bind
    apply always_rename (stand.replaced.trans parked) stand.live
    intro folders places
    have back := stand.move (by simpa using fun _ different => Ne.symm different) (by simp) places
    rw [places, if_pos rfl, places, if_neg (by simp), if_pos rfl] at back
    exact ⟨(parked.symm ▸ back).resumed begun, always_pure back⟩

/-- A refused upload leaves the live path as before its first attempt. -/
theorem follows_rollBack (whether : replaced = (resumed uploadId start).isSome)
    (holds : broker.contents uploadId (start.uploads uploadId) = some folder)
    (fresh : uploadId ∉ start.accepted)
    (stand : Stand uploadId start world (some folder) (resumed uploadId start)) :
    Follows uploadId start (rollBack broker uploadId replaced error) (fun _ _ => True) world := by
  apply always_inspect (stand.displaced begun)
  rw [stand.live, bind_some, if_pos (installedUploadId_contents holds)]
  apply always_bind
  apply always_removeDirAll
  · exact fun changed apart => (stand.apart_live apart).displaced begun
  intro changed apart gone
  have removed := stand.apart_live apart
  rw [show changed.at .live = none from gone] at removed
  apply (follows_putBack begun whether removed).bind
  intro _ world back
  exact follows_close_resumed begun back (.inr fresh)

end

/-! ### Publication -/

/-- The publication was accepted and the upload is live. -/
structure Settled (uploadId : String) (start world : World broker) (folder : Folder β) : Prop where
  frame : Frame uploadId start world
  live : world.at .live = some folder
  upload : world.uploads uploadId = start.uploads uploadId
  accepted : world.accepted = uploadId :: start.accepted
  running : world.returned = none

section
variable (settled : Settled uploadId start world folder)
include settled

private theorem Settled.glimpse
    (holds : broker.contents uploadId (start.uploads uploadId) = some folder) :
    Glimpse uploadId start world :=
  ⟨settled.frame, .accepted holds settled.live (.inl settled.upload) settled.accepted
    (quiet_of_running settled.running)⟩

private theorem Settled.change (live : World.at { world with folders } .live = world.at .live)
    (others : ∀ other, other ≠ uploadId → World.at { world with folders } (.replaced other) =
      world.at (.replaced other)) :
    Settled uploadId start { world with folders } folder where
  __ := settled
  frame := settled.frame.change others
  live := live.trans settled.live

private theorem Settled.apart {place : Place} (apart : Apart (place.name broker) world changed)
    (hidden : place ≠ .live) (unparked : ∀ other, other ≠ uploadId → place ≠ .replaced other) :
    Settled uploadId start changed folder := by
  have kept := settled.change (apart.at hidden.symm) fun other different =>
    apart.at (unparked other different).symm
  rwa [← apart.rest] at kept

end

section
variable (holds : broker.contents uploadId (start.uploads uploadId) = some folder)
  (settled : Settled uploadId start world folder)
include holds settled

private theorem follows_discardBackup :
    Follows uploadId start (discardBackup broker uploadId replaced)
      (fun _ world => Settled uploadId start world folder) world := by
  have drop : ∀ {place : Place} {world : World broker}, place ≠ .live →
      (∀ other, other ≠ uploadId → place ≠ .replaced other) →
      Settled uploadId start world folder →
      Follows uploadId start (removeDirAll (place.name broker))
        (fun _ world => Settled uploadId start world folder) world := by
    intro place world hidden unparked settled
    apply always_removeDirAll
    · exact fun changed apart => (settled.apart apart hidden unparked).glimpse holds
    · exact fun changed apart _ => settled.apart apart hidden unparked
  cases replaced with
  | false => exact always_pure settled
  | true =>
    apply always_bind
    apply always_onFolders
    · intro _
      exact ⟨settled.glimpse holds,
        drop (by simp) (by simpa using fun _ different => Ne.symm different) settled⟩
    intro folders moved
    have places := at_of_move moved
    have renamed : Settled uploadId start { world with folders } folder := by
      apply settled.change
      · rw [places, if_neg (by simp), if_neg (by simp)]
      · intro other different
        rw [places, if_neg (by simp), if_neg (by simpa using different)]
    exact ⟨renamed.glimpse holds, drop (by simp) (by simp) renamed⟩

private theorem follows_settle :
    Follows uploadId start (settle broker uploadId replaced) (fun _ _ => True) world := by
  apply (follows_discardBackup holds settled).bind
  intro _ world settled
  apply follows_close
  intro changed cleaned
  refine ⟨settled.frame.cleaned cleaned, .accepted holds ((cleaned.at _).trans settled.live)
    (.inr cleaned.archive) (cleaned.accepted.trans settled.accepted) ?_⟩
  intro other error
  rcases cleaned.returned with same | new
  · rw [same]
    exact quiet_of_running settled.running other error
  · rw [new]
    simp

end

variable (entered : start.current = some uploadId)
include entered

private theorem follows_installIncoming (begun : Begun uploadId start)
    (whether : replaced = (resumed uploadId start).isSome)
    (holds : broker.contents uploadId (start.uploads uploadId) = some folder)
    (stand : Stand uploadId start world none (resumed uploadId start))
    (incoming : world.at (.incoming uploadId) = some folder) :
    Follows uploadId start (installIncoming broker uploadId replaced) (fun _ _ => True) world := by
  apply always_bind
  apply always_rename incoming stand.live
  intro folders places
  have installed := stand.move (by simp) (by simp) places
  rw [places, if_pos rfl, places, if_neg (by simp), if_neg (by simp), stand.replaced] at installed
  refine ⟨installed.displaced begun, ?_⟩
  apply always_bind
  apply always_act
  intro choice changed permitted effected
  cases choice with
  | proceed =>
    cases effected
    have settled : Settled uploadId start
        { world with folders, accepted := uploadId :: world.accepted } folder :=
      { installed with
        frame := { installed.frame with }
        accepted := congrArg _ stand.accepted }
    exact ⟨settled.glimpse holds, follows_settle holds settled⟩
  | refuse =>
    cases effected
    have fresh : uploadId ∉ start.accepted := by
      rw [← installed.accepted]
      exact permitted uploadId (installed.frame.current.trans entered)
    exact ⟨installed.displaced begun, follows_rollBack begun whether holds fresh installed⟩
  | _ => cases effected

private theorem follows_replaceLive (begun : Begun uploadId start)
    (holds : broker.contents uploadId (start.uploads uploadId) = some folder)
    (ready : Ready uploadId start world (some folder)) :
    Follows uploadId start (replaceLive broker uploadId) (fun _ _ => True) world := by
  have stand := ready.stand
  apply always_inspect (stand.resumed begun)
  rw [stand.live]
  cases previous : resumed uploadId start with
  | none =>
    have same : Stand uploadId start world none (resumed uploadId start) := by
      rw [previous] at stand ⊢
      exact stand
    exact follows_installIncoming entered begun (by rw [previous]; rfl) holds same ready.incoming
  | some _ =>
    apply always_bind
    apply always_rename (stand.live.trans previous) stand.replaced
    intro folders places
    have aside := stand.move (by simp) (by simpa using fun _ different => Ne.symm different) places
    rw [places, if_neg (by simp), if_pos rfl, places, if_pos rfl, ← previous] at aside
    have incoming : World.at { world with folders } (.incoming uploadId) = some folder := by
      rw [places, if_neg (by simp), if_neg (by simp)]
      exact ready.incoming
    exact ⟨aside.displaced begun, follows_installIncoming entered begun
      (by rw [previous]; rfl) holds aside incoming⟩

/-! ### The whole attempt -/

private theorem follows_commitLocked (loaded : (start.uploads uploadId).pending = some pending)
    (staged : (start.uploads uploadId).archive ≠ none) (stand : Untouched uploadId start world)
    (unpacked : world.at (.incoming uploadId) = none) :
    Follows uploadId start (commitLocked broker uploadId pending) (fun _ _ => True) world := by
  apply (follows_reconcileInterruptedCommit staged stand unpacked).bind
  intro result world reconciled
  cases result with
  | error => exact follows_finish reconciled
  | ok =>
    obtain ⟨begun, ready⟩ := reconciled
    apply (follows_stageIncoming begun loaded ready).bind
    intro result world outcome
    cases result with
    | error =>
      obtain ⟨unusable, _, ready⟩ := outcome
      exact follows_abandon begun unusable ready
    | ok =>
      obtain ⟨_, holds, ready⟩ := outcome
      exact follows_replaceLive entered begun holds ready

/-- Whatever step a crash cuts an attempt off at, it leaves a glimpse. -/
theorem commitUpload_glimpse (running : start.returned = none) :
    Follows uploadId start (commitUpload broker uploadId) (fun _ _ => True) start := by
  have frame : Frame uploadId start start :=
    ⟨fun _ _ => rfl, fun _ _ => rfl, rfl, rfl, fun _ _ said => by
      rw [running] at said
      cases said⟩
  apply (follows_reclaimDiscardedBackups ⟨frame, rfl, rfl, rfl, rfl, running⟩).bind
  intro _ world stand
  apply always_inspect stand.waiting
  rw [stand.upload]
  cases loaded : (start.uploads uploadId).pending with
  | none => exact follows_finish stand
  | some _ =>
    dsimp only
    split
    · exact follows_finish stand
    apply always_inspect stand.waiting
    rw [stand.upload]
    split
    · exact follows_finish stand
    next present =>
    rw [isNone_iff_eq_none] at present
    apply always_bind
    apply always_removeDirAll
    · exact fun changed apart => (stand.apart apart (by simp) (by simp)).waiting
    intro changed apart gone
    have still := stand.apart apart (by simp) (by simp)
    apply always_bind
    apply always_act
    intro choice changed _ effected
    cases choice with
    | proceed =>
      cases effected
      exact ⟨still.waiting, follows_commitLocked entered loaded present still gone⟩
    | busy =>
      cases effected
      exact ⟨still.waiting, follows_finish still⟩
    | _ => cases effected

end TachyonMesh.ModelBroker
