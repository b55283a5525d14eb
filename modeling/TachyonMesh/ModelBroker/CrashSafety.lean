import TachyonMesh.ModelBroker.Attempt

/-! # Commits with crashes

Runs of commits of one alias, one at a time, with crashes between any two file
operations. An upload is disturbed by others, or when it finds its own files where it
found none before.
-/

namespace TachyonMesh.ModelBroker
open Foundation Option
variable {β : Type} {broker : Broker β}

/-! ## What is promised -/

section
variable (world : World broker) (uploadId : String)

/-- The archive of an upload has not been removed. -/
def Staged : Prop :=
  (world.uploads uploadId).archive.isSome
deriving Decidable

/-- A commit that turned its upload down left the live path as the first attempt
found it. -/
def RefusalsHarmless : Prop :=
  ∀ error, world.returned = some (uploadId, .refused error) ∨
      world.returned = some (uploadId, .rejected error) →
    world.found uploadId = some (world.at .live)

/-- Until an upload is accepted or ends otherwise, the checkpoint that its first
attempt found is whole. -/
def PreviousKept : Prop :=
  ∀ checkpoint, world.found uploadId = some (some checkpoint) →
    uploadId ∉ world.accepted → Staged world uploadId →
      world.at .live = some checkpoint ∨ world.at (.replaced uploadId) = some checkpoint

end

/-- The files of the upload that was accepted last are live, parked, or can be
unpacked again. -/
def PublishedKept (start world : World broker) : Prop :=
  ∀ uploadId, world.accepted.head? = some uploadId →
    ∃ folder, broker.contents uploadId (start.uploads uploadId) = some folder ∧
      (world.at .live = some folder ∨
        (∃ other, world.at (.replaced other) = some folder) ∨
        broker.contents uploadId (world.uploads uploadId) = some folder)

/-- An upload has been attempted and may still be accepted or refused. -/
def InFlight (world : World broker) (uploadId : String) : Prop :=
  (world.found uploadId).isSome ∧ uploadId ∉ world.accepted ∧ Staged world uploadId
deriving Decidable

/-- No other upload is committed while this one is in flight, and it is retried on a
free live path if it found it free. -/
structure Undisturbed (uploadId : String) (world : World broker) (request : String) : Prop where
  alone : request ≠ uploadId → ¬InFlight world uploadId
  free : request = uploadId → world.found uploadId = some none → world.at .live = none

instance [DecidableEq β] (uploadId : String) (world : World broker) (request : String) :
    Decidable (Undisturbed uploadId world request) :=
  decidable_of_iff ((request ≠ uploadId → ¬InFlight world uploadId) ∧
      (request = uploadId → world.found uploadId = some none → world.at .live = none))
    ⟨fun both => ⟨both.1, both.2⟩, fun both => ⟨both.alone, both.free⟩⟩

instance (world : World broker) (choice : Choice) : Decidable (Answers world choice) := by
  unfold Answers
  split <;> infer_instance

/-! ## What every attempt keeps -/

/-- Staged files only go, and what was accepted could be unpacked. -/
structure Base (start world : World broker) : Prop where
  uploads : ∀ uploadId, world.uploads uploadId = start.uploads uploadId ∨
    (world.uploads uploadId).archive = none
  accepted : ∀ uploadId ∈ world.accepted, broker.contents uploadId (start.uploads uploadId) ≠ none

private theorem contents_of_archive_none {uploadId aliasName : String} {upload : Upload β aliasName}
    (removed : upload.archive = none) : broker.contents uploadId upload = none := by
  rw [Broker.contents, removed]
  cases upload.pending <;> rfl

section
variable {start before world : World broker} {request uploadId : String}

private theorem Base.staged (base : Base start before)
    (archived : (before.uploads uploadId).archive ≠ none) :
    before.uploads uploadId = start.uploads uploadId :=
  (base.uploads uploadId).resolve_right archived

variable {folder : Folder β}

private theorem Base.holds (base : Base start before)
    (holds : broker.contents uploadId (before.uploads uploadId) = some folder) :
    broker.contents uploadId (start.uploads uploadId) = some folder := by
  rcases base.uploads uploadId with same | removed
  · rw [← same]
    exact holds
  · cases (contents_of_archive_none removed).symm.trans holds

private theorem Phase.upload (phase : Phase request before world) :
    world.uploads request = before.uploads request ∨ (world.uploads request).archive = none := by
  cases phase with
  | waiting _ _ upload | rewinding _ _ _ upload | displaced _ _ upload => exact .inl upload
  | resumed _ _ _ upload => exact upload.imp And.left And.left
  | accepted _ _ upload => exact upload

private theorem Phase.accepted_cases (phase : Phase request before world) :
    world.accepted = before.accepted ∨
      world.accepted = request :: before.accepted ∧
        ∃ folder, broker.contents request (before.uploads request) = some folder ∧
          world.at .live = some folder := by
  cases phase with
  | waiting _ _ _ same | rewinding _ _ _ _ same | resumed _ _ _ _ same | displaced _ _ _ same =>
    exact .inl same
  | accepted holds live _ grown => exact .inr ⟨grown, _, holds, live⟩

private theorem Base.glimpse (base : Base start before) (glimpse : Glimpse request before world) :
    Base start world := by
  obtain ⟨frame, phase⟩ := glimpse
  constructor
  · intro uploadId
    by_cases own : uploadId = request
    · rw [own]
      rcases phase.upload with same | removed
      · rw [same]
        exact base.uploads request
      · exact .inr removed
    · rw [frame.uploads uploadId own]
      exact base.uploads uploadId
  · intro uploadId listed
    rcases phase.accepted_cases with same | ⟨grown, folder, holds, _⟩
    · exact base.accepted uploadId (same ▸ listed)
    rw [grown] at listed
    rcases List.mem_cons.mp listed with rfl | earlier
    · rw [base.holds holds]
      exact some_ne_none folder
    · exact base.accepted uploadId earlier

/-! ### The accepted upload -/

/-- An attempt that got past reconciliation leaves the live directory of another upload
where it is, or parked. -/
theorem resumed_of_live (begun : Begun request before) (live : before.at .live = some folder)
    (other : installedUploadId broker folder ≠ some request) :
    resumed request before = some folder := by
  by_cases parked : before.at (.replaced request) = none
  · rw [resumed, parked, none_or, live]
  · exact absurd (begun.own parked folder live) other

private theorem PublishedKept.glimpse (base : Base start before) (kept : PublishedKept start before)
    (glimpse : Glimpse request before world) : PublishedKept start world := by
  obtain ⟨frame, phase⟩ := glimpse
  intro uploadId last
  rcases phase.accepted_cases with same | ⟨grown, folder, holds, live⟩
  swap
  · rw [grown] at last
    cases last
    exact ⟨folder, base.holds holds, .inl live⟩
  rw [same] at last
  obtain ⟨folder, holds, place⟩ := kept uploadId last
  refine ⟨folder, holds, ?_⟩
  have unchanged : world.accepted ≠ request :: before.accepted := by
    rw [same]
    exact (List.cons_ne_self request before.accepted).symm
  -- The upload's own archive stays while a retry of it runs.
  have unpacks : (before.uploads request).archive ≠ none → uploadId = request →
      broker.contents uploadId (world.uploads uploadId) = some folder := by
    rintro archived rfl
    have whole := base.staged archived
    cases phase with
    | waiting _ _ upload | rewinding _ _ _ upload | displaced _ _ upload =>
      rw [upload, whole, holds]
    | resumed _ _ _ upload =>
      rcases upload with ⟨upload, _⟩ | ⟨_, unusable | fresh⟩
      · rw [upload, whole, holds]
      · rw [whole, holds] at unusable
        cases unusable
      · exact absurd (List.mem_of_mem_head? last) fresh
    | accepted _ _ _ grown => exact absurd grown unchanged
  rcases place with live | ⟨other, parked⟩ | staged
  · by_cases own : uploadId = request
    · cases phase with
      | waiting sameLive => exact .inl (sameLive.trans live)
      | rewinding begun | resumed begun | displaced begun =>
        exact .inr (.inr (unpacks begun.staged own))
      | accepted _ _ _ grown => exact absurd grown unchanged
    · have foreign : installedUploadId broker folder ≠ some request := by
        rw [installedUploadId_contents holds]
        exact fun equal => own (Option.some.inj equal)
      cases phase with
      | waiting sameLive => exact .inl (sameLive.trans live)
      | rewinding begun parked => exact absurd (begun.own parked folder live) foreign
      | resumed begun back => exact .inl (back.trans (resumed_of_live begun live foreign))
      | displaced begun aside =>
        exact .inr (.inl ⟨request, aside.trans (resumed_of_live begun live foreign)⟩)
      | accepted _ _ _ grown => exact absurd grown unchanged
  · by_cases own : other = request
    · rw [own] at parked
      have first : resumed request before = some folder := by
        rw [resumed, parked, some_or]
      cases phase with
      | waiting _ replaced | rewinding _ _ replaced =>
        exact .inr (.inl ⟨request, replaced.trans parked⟩)
      | resumed _ back => exact .inl (back.trans first)
      | displaced _ aside => exact .inr (.inl ⟨request, aside.trans first⟩)
      | accepted _ _ _ grown => exact absurd grown unchanged
    · exact .inr (.inl ⟨other, (frame.replaced other own).trans parked⟩)
  · refine .inr (.inr ?_)
    by_cases own : uploadId = request
    · apply unpacks _ own
      rw [← own]
      intro removed
      cases (contents_of_archive_none removed).symm.trans staged
    · rw [frame.uploads uploadId own]
      exact staged

/-! ### An undisturbed upload -/

/-- What is kept about an upload between the steps of any commit. -/
structure Kept (uploadId : String) (world : World broker) : Prop where
  unattempted : world.found uploadId = none → world.at (.replaced uploadId) = none
  /-- The checkpoint it found is parked, or nothing is and the checkpoint is live. -/
  previous : ∀ previous, world.found uploadId = some previous → uploadId ∉ world.accepted →
    (world.uploads uploadId).archive ≠ none →
      world.at (.replaced uploadId) = previous ∧ previous ≠ none ∨
      world.at (.replaced uploadId) = none ∧ (previous ≠ none → world.at .live = previous)
  refusals : RefusalsHarmless world uploadId

/-- What reconciliation resumes is what the first attempt found. -/
theorem Kept.resumed_eq (kept : Kept uploadId before) {previous : Option (Folder β)}
    (found : before.found uploadId = some previous)
    (free : before.found uploadId = some none → before.at .live = none)
    (fresh : uploadId ∉ before.accepted) (staged : (before.uploads uploadId).archive ≠ none) :
    resumed uploadId before = previous := by
  rcases kept.previous previous found fresh staged with ⟨parked, some⟩ | ⟨unparked, live⟩
  · obtain ⟨_, rfl⟩ := ne_none_iff_exists'.mp some
    rw [resumed, parked, some_or]
  rw [resumed, unparked, none_or]
  cases previous with
  | none => exact free found
  | some folder => exact live (some_ne_none folder)

private theorem refusalsHarmless_of_quiet (quiet : Quiet world) :
    RefusalsHarmless world uploadId := by
  intro error said
  rcases said with refused | rejected
  · exact absurd refused (quiet uploadId error).1
  · exact absurd rejected (quiet uploadId error).2

/-- An attempt of the upload itself. -/
theorem Kept.own_glimpse (base : Base start before) (kept : Kept uploadId before)
    (attempted : before.found uploadId ≠ none)
    (free : before.found uploadId = some none → before.at .live = none)
    (glimpse : Glimpse uploadId before world) : Kept uploadId world := by
  obtain ⟨frame, phase⟩ := glimpse
  obtain ⟨previous, found⟩ := ne_none_iff_exists'.mp attempted
  have foundStill : world.found uploadId = some previous := by
    rw [frame.found]
    exact found
  have attempted : world.found uploadId = none → world.at (.replaced uploadId) = none := by
    intro absent
    cases absent.symm.trans foundStill
  refine ⟨attempted, ?_, ?_⟩
  · intro other said fresh staged
    cases foundStill.symm.trans said
    cases phase with
    | waiting live replaced upload accepted =>
      rw [live, replaced]
      exact kept.previous previous found (accepted ▸ fresh) (upload ▸ staged)
    | rewinding begun parked replaced _ accepted =>
      rw [replaced]
      rcases kept.previous previous found (accepted ▸ fresh) begun.staged with
        aside | ⟨unparked, _⟩
      · exact .inl aside
      · exact absurd unparked parked
    | resumed begun live replaced _ accepted =>
      have same := kept.resumed_eq found free (accepted ▸ fresh) begun.staged
      exact .inr ⟨replaced, fun _ => live.trans same⟩
    | displaced begun replaced _ accepted =>
      have same := kept.resumed_eq found free (accepted ▸ fresh) begun.staged
      rw [replaced, same]
      by_cases nothing : previous = none
      · exact .inr ⟨nothing, fun some => absurd nothing some⟩
      · exact .inl ⟨rfl, nothing⟩
    | accepted _ _ _ accepted =>
      rw [accepted] at fresh
      exact absurd List.mem_cons_self fresh
  · cases phase with
    | waiting _ _ _ _ quiet | rewinding _ _ _ _ _ quiet | displaced _ _ _ _ quiet
    | accepted _ _ _ _ quiet => exact refusalsHarmless_of_quiet quiet
    | resumed begun live _ upload =>
      rcases upload with ⟨_, quiet⟩ | ⟨_, reason⟩
      · exact refusalsHarmless_of_quiet quiet
      have fresh : uploadId ∉ before.accepted := by
        rcases reason with unusable | fresh
        · intro listed
          rw [base.staged begun.staged] at unusable
          exact base.accepted uploadId listed unusable
        · exact fresh
      intro error _
      rw [foundStill, live, kept.resumed_eq found free fresh begun.staged]

/-- An attempt of another upload, while this one is not in flight. -/
theorem Kept.other_glimpse (kept : Kept uploadId before) (other : request ≠ uploadId)
    (idle : ¬InFlight before uploadId) (glimpse : Glimpse request before world) :
    Kept uploadId world := by
  obtain ⟨frame, phase⟩ := glimpse
  refine ⟨?_, ?_, ?_⟩
  · rw [frame.found, frame.replaced uploadId other.symm]
    exact kept.unattempted
  · intro previous found fresh staged
    rw [frame.found] at found
    rw [frame.uploads uploadId other.symm] at staged
    have earlier : uploadId ∉ before.accepted := by
      rcases phase.accepted_cases with same | ⟨grown, _⟩
      · rw [← same]
        exact fresh
      · rw [grown] at fresh
        exact fun listed => fresh (List.mem_cons_of_mem _ listed)
    exact absurd ⟨by rw [found]; rfl, earlier, isSome_iff_ne_none.mpr staged⟩ idle
  · intro error said
    have own : uploadId = request := by
      rcases said with refused | rejected
      · exact frame.returned _ _ refused
      · exact frame.returned _ _ rejected
    exact absurd own.symm other

end

/-! ## Runs -/

/-- No commit has been attempted, and no directory is parked. -/
structure Initial (start : Interrupted (World broker) Choice Unit) : Prop where
  idle : start.running = none
  unparked : ∀ uploadId, start.world.at (.replaced uploadId) = none
  found : ∀ uploadId, start.world.found uploadId = none
  accepted : start.world.accepted = []
  returned : start.world.returned = none

section
variable {world : World broker} {request uploadId : String}

private theorem found_enter (request : String) (world : World broker) :
    (enter broker request world).found request =
      some ((world.found request).getD (world.at .live)) := by
  unfold enter
  cases found : world.found request with
  | none => simp
  | some => simp [found]

private theorem found_enter_of_ne (different : uploadId ≠ request) :
    (enter broker request world).found uploadId = world.found uploadId := by
  unfold enter
  split
  · rfl
  · exact Function.update_of_ne different _ _

private theorem Kept.enter (kept : Kept uploadId world)
    (undisturbed : Undisturbed uploadId world request) :
    Kept uploadId (ModelBroker.enter broker request world) := by
  by_cases own : uploadId = request
  · subst own
    refine ⟨?_, ?_, ?_⟩
    · intro absent
      rw [found_enter] at absent
      cases absent
    · intro previous found fresh staged
      rw [found_enter] at found
      cases earlier : world.found uploadId with
      | none =>
        rw [earlier, getD_none] at found
        exact .inr ⟨kept.unattempted earlier, fun _ => Option.some.inj found⟩
      | some =>
        rw [earlier, getD_some] at found
        exact kept.previous previous (earlier.trans found) fresh staged
    · exact refusalsHarmless_of_quiet (quiet_of_running rfl)
  · refine ⟨?_, ?_, refusalsHarmless_of_quiet (quiet_of_running rfl)⟩
    · rw [found_enter_of_ne own]
      exact kept.unattempted
    · rw [found_enter_of_ne own]
      exact kept.previous

/-- **Crash safety.** Over every run of commits of one alias with crashes in which no
upload that was accepted is refused later: the last accepted upload can be restored,
and every upload that is not disturbed leaves the live path as it found it when it is
turned down, with what it found kept until then. -/
theorem commits_crash_safe (broker : Broker β)
    {start final : Interrupted (World broker) Choice Unit}
    {events : List (CrashEvent String Choice)}
    (initial : Initial start) (reached : (commitMachine broker).run start events = some final) :
    ((commitMachine broker).Along (Admits (fun _ _ => True) Answers) start events →
      PublishedKept start.world final.world) ∧
    ∀ uploadId,
      (commitMachine broker).Along (Admits (Undisturbed uploadId) Answers) start events →
        RefusalsHarmless final.world uploadId ∧ PreviousKept final.world uploadId := by
  have base : Base start.world start.world :=
    ⟨fun _ => .inl rfl, fun uploadId listed => by rw [initial.accepted] at listed; cases listed⟩
  constructor
  · intro along
    have published : PublishedKept start.world start.world := by
      intro uploadId last
      rw [initial.accepted] at last
      cases last
    refine (invariant_crashes
      (fun world => Base start.world world ∧ PublishedKept start.world world)
      ?_ initial.idle ⟨base, published⟩ along reached).2
    rintro world request ⟨base, published⟩ -
    have entered : Base start.world (enter broker request world) := ⟨base.uploads, base.accepted⟩
    have kept : PublishedKept start.world (enter broker request world) := published
    refine ⟨⟨entered, kept⟩, (commitUpload_glimpse rfl rfl).weaken ?_⟩
    exact fun world glimpse => ⟨entered.glimpse glimpse, kept.glimpse entered glimpse⟩
  · intro uploadId along
    have kept : Kept uploadId start.world := by
      refine ⟨fun _ => initial.unparked uploadId, ?_, ?_⟩
      · intro previous found
        cases (initial.found uploadId).symm.trans found
      · exact refusalsHarmless_of_quiet (quiet_of_running initial.returned)
    have always : Base start.world final.world ∧ Kept uploadId final.world := by
      refine invariant_crashes (fun world => Base start.world world ∧ Kept uploadId world)
        ?_ initial.idle ⟨base, kept⟩ along reached
      rintro world request ⟨base, kept⟩ undisturbed
      have entered : Base start.world (enter broker request world) := ⟨base.uploads, base.accepted⟩
      have begun := kept.enter undisturbed
      refine ⟨⟨entered, begun⟩, (commitUpload_glimpse rfl rfl).weaken ?_⟩
      intro later glimpse
      refine ⟨entered.glimpse glimpse, ?_⟩
      by_cases own : request = uploadId
      · subst own
        have free : (enter broker request world).found request = some none →
            (enter broker request world).at .live = none := by
          intro found
          rw [found_enter] at found
          cases earlier : world.found request with
          | none =>
            rw [earlier, getD_none] at found
            exact Option.some.inj found
          | some =>
            rw [earlier, getD_some] at found
            exact undisturbed.free rfl (earlier.trans found)
        have attempted : (enter broker request world).found request ≠ none := by
          rw [found_enter]
          exact some_ne_none _
        exact begun.own_glimpse entered attempted free glimpse
      · have idle : ¬InFlight (enter broker request world) uploadId := by
          intro flying
          apply undisturbed.alone own
          unfold InFlight at flying
          rw [found_enter_of_ne (Ne.symm own)] at flying
          exact flying
        exact begun.other_glimpse own idle glimpse
    refine ⟨always.2.refusals, ?_⟩
    intro checkpoint found fresh staged
    have archived := isSome_iff_ne_none.mp staged
    rcases always.2.previous _ found fresh archived with ⟨parked, _⟩ | ⟨_, live⟩
    · exact .inr parked
    · exact .inl (live (some_ne_none checkpoint))

end

/-! ## An upload to `coder` -/

def coderBroker : Broker JsonText where
  codec := JsonText.codec
  size := fun _ => 1
  hashFile := fun _ => "sha256:00"
  aliasName := "coder"
  valid := rfl

/-- An upload of one file. -/
def coderUpload : Upload JsonText "coder" where
  pending := some ⟨1, 1, some "coder", [⟨"weights", 1, "sha256:00"⟩]⟩
  archive := some [.ok ⟨"weights", [.normal "weights"], false, .garbage "new"⟩]
  named := fun _ found => by
    cases found
    rfl

def noUpload : Upload JsonText "coder" := ⟨none, none, nofun⟩

/-- The upload `first` is staged, and nothing has been committed. -/
def stagedFirst (folders : Folders JsonText) : Interrupted (World coderBroker) Choice Unit where
  world :=
    { folders
      uploads := fun uploadId => if uploadId = "first" then coderUpload else noUpload
      current := none
      returned := none
      found := fun _ => none
      accepted := [] }
  running := none

def previousModel : Folder JsonText := .ofList [("weights", .garbage "previous")]

/-- A checkpoint is live at `coder`. -/
def occupied : Folders JsonText := .ofList [("coder", previousModel)]

def proceed (count : Nat) : List (CrashEvent String Choice) :=
  List.replicate count (.advance .proceed)

/-- The removal of what `first` installed. -/
def removal : List (CrashEvent String Choice) :=
  [.advance .proceed, .advance (.unlink "weights"), .advance (.unlink modelMetaJson),
    .advance .proceed]

/-- A retry that finds its own files live and a checkpoint parked, and is refused. -/
def retryRefused : List (CrashEvent String Choice) :=
  .start "first" :: proceed 7 ++ removal ++ proceed 10 ++ [.advance (.refuse "taken")] ++
    proceed 1 ++ removal ++ proceed 4

private theorem initial_occupied : Initial (stagedFirst occupied) where
  idle := rfl
  unparked := fun uploadId => by
    have different : (Place.replaced uploadId).name coderBroker ≠ "coder" :=
      Place.name_ne (by simp : Place.replaced uploadId ≠ .live)
    have only : (stagedFirst occupied).world.at (.replaced uploadId) =
        findEntry ((Place.replaced uploadId).name coderBroker) [("coder", previousModel)] := rfl
    rw [only, findEntry, if_neg different]
    rfl
  found := fun _ => rfl
  accepted := rfl
  returned := rfl

/-- A crash after both renames, then a retry that is refused. -/
theorem refused_retry_leaves_previous :
    ∃ final, (commitMachine coderBroker).run (stagedFirst occupied)
        (.start "first" :: proceed 14 ++ [.crash] ++ retryRefused) = some final ∧
      PublishedKept (stagedFirst occupied).world final.world ∧
      RefusalsHarmless final.world "first" ∧ PreviousKept final.world "first" := by
  refine Machine.exists_run (by decide +kernel) fun _ reached => ?_
  have safe := commits_crash_safe coderBroker initial_occupied reached
  exact ⟨safe.1 (by decide +kernel), safe.2 "first" (by decide +kernel)⟩

/-- Two crashes that commits do not recover from. A commit to a free alias crashes
after it installed: its retry takes its own files for a previous checkpoint and puts
them back when it is refused. A commit crashes after its publication was accepted:
its retry rewinds to the previous checkpoint, and when it is refused then, the files
of the accepted upload are gone. -/
theorem crashes_leave_wrong_models :
    (∃ (start final : Interrupted (World coderBroker) Choice Unit)
      (events : List (CrashEvent String Choice)), Initial start ∧
      (commitMachine coderBroker).run start events = some final ∧
      ¬RefusalsHarmless final.world "first") ∧
    ∃ (start final : Interrupted (World coderBroker) Choice Unit)
      (events : List (CrashEvent String Choice)), Initial start ∧
      (commitMachine coderBroker).run start events = some final ∧
      ¬PublishedKept start.world final.world := by
  constructor
  · refine ⟨stagedFirst .empty, _, .start "first" :: proceed 13 ++ [.crash, .start "first"] ++
      proceed 14 ++ [.advance (.refuse "taken")] ++ proceed 1 ++ removal ++ proceed 4,
      ⟨rfl, fun _ => rfl, fun _ => rfl, rfl, rfl⟩, rfl, fun harmless => ?_⟩
    exact absurd (harmless _ (.inl rfl)) (by decide +kernel)
  · refine ⟨stagedFirst occupied, _, .start "first" :: proceed 15 ++ [.crash] ++ retryRefused,
      initial_occupied, rfl, fun published => ?_⟩
    obtain ⟨_, holds, place⟩ := published "first" rfl
    have named := installedUploadId_contents holds
    rcases place with live | ⟨other, parked⟩ | staged
    · cases live
      exact absurd named (by decide +kernel)
    · exact absurd (parked.symm.trans (initial_occupied.unparked other)) (some_ne_none _)
    · rw [contents_of_archive_none rfl] at staged
      cases staged

end TachyonMesh.ModelBroker
