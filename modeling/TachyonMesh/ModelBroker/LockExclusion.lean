import Mathlib.Data.List.Nodup
import TachyonMesh.ModelBroker.AliasLock

/-! # When the commit lock excludes

Every check of the lock is followed by an operation on whatever is at the path by then,
so exclusion fails (`alias_lock_taken_from_holder`).
-/

namespace TachyonMesh.ModelBroker.AliasLocks
open Foundation LockStage

/-! ## Exclusion -/

/-- A commit holds a lock that it stamped or refreshed less than
`aliasLockStaleAfter` ago. -/
def Young (state : AliasLocks) (owner : String) : Prop :=
  ∃ since, (state.commits owner).since = some since ∧ state.now < since + aliasLockStaleAfter

/-- At most one commit holds a young lock, and no lock is taken over twice. -/
structure Excludes (state : AliasLocks) : Prop where
  one : ∀ first second, state.Young first → state.Young second → first = second
  once : (state.taken.map Prod.fst).Nodup

section
variable (state : AliasLocks)

/-- A commit that moves a lock moves a stale one, and the lock it measured is its own
now or another's already; a holder removes no lock but its own. -/
def RespectsAdvance : LockStage → Prop
  | .claiming _ measured =>
      (∀ file ∈ state.path, state.Stale file) ∧
        (state.path = some measured ∨ measured ∈ state.taken.map Prod.fst)
  | .releasing own _ => ∀ file ∈ state.path, file = own
  | _ => True

/-- A holder rewrites no lock but its own. -/
def RespectsRefresh : LockStage → Prop
  | .holding own _ => ∀ file ∈ state.path, file = own
  | _ => True

/-- The step leaves the locks of other commits alone, unless they are stale. -/
def Respects : LockStep → Prop
  | .advance owner => state.RespectsAdvance (state.commits owner)
  | .refresh owner => state.RespectsRefresh (state.commits owner)
  | _ => True

/-- A commit stamps and removes its lock while the lock is young, and moves a lock only
if none was made since it measured one. -/
def TimelyAdvance : LockStage → Prop
  | .stamping file => ¬state.Stale file
  | .releasing _ since => state.now < since + aliasLockStaleAfter
  | .claiming _ measured => ∀ file ∈ state.path, file = measured
  | _ => True

/-- A commit refreshes its lock while the lock is young. -/
def TimelyRefresh : LockStage → Prop
  | .holding _ since => state.now < since + aliasLockStaleAfter
  | _ => True

def Timely : LockStep → Prop
  | .advance owner => state.TimelyAdvance (state.commits owner)
  | .refresh owner => state.TimelyRefresh (state.commits owner)
  | _ => True

end

instance (state : AliasLocks) (stage : LockStage) : Decidable (state.RespectsAdvance stage) := by
  unfold RespectsAdvance
  split <;> infer_instance

instance (state : AliasLocks) (stage : LockStage) : Decidable (state.RespectsRefresh stage) := by
  unfold RespectsRefresh
  split <;> infer_instance

instance (state : AliasLocks) (event : LockStep) : Decidable (state.Respects event) := by
  unfold Respects
  split <;> infer_instance

instance (state : AliasLocks) (stage : LockStage) : Decidable (state.TimelyAdvance stage) := by
  unfold TimelyAdvance
  split <;> infer_instance

instance (state : AliasLocks) (stage : LockStage) : Decidable (state.TimelyRefresh stage) := by
  unfold TimelyRefresh
  split <;> infer_instance

instance (state : AliasLocks) (event : LockStep) : Decidable (state.Timely event) := by
  unfold Timely
  split <;> infer_instance

/-- No commit has begun; a lock may be left from before. -/
structure Initial (state : AliasLocks) : Prop where
  idle : ∀ owner, state.commits owner = .idle
  numbered : ∀ file, state.path = some file → file < state.created
  untaken : state.taken = []

/-- The invariant: a lock that is not stale is at the path, and a stale lock that was
measured is at the path or has been taken. -/
structure Valid (state : AliasLocks) : Prop where
  numbered : ∀ file, state.path = some file → file < state.created
  made : ∀ owner file, (state.commits owner).owns = some file → file < state.created
  apart : ∀ first second file, (state.commits first).owns = some file →
    (state.commits second).owns = some file → first = second
  dated : ∀ owner file since, (state.commits owner).owns = some file →
    (state.commits owner).since = some since → (state.files file).modified = since
  young : ∀ owner file, (state.commits owner).owns = some file → ¬state.Stale file →
    state.path = some file
  measured : ∀ owner file, (state.commits owner).measured = some file →
    state.Stale file ∧ (state.path = some file ∨ file ∈ state.taken.map Prod.fst)
  earlier : ∀ file ∈ state.taken.map Prod.fst, file < state.created
  once : (state.taken.map Prod.fst).Nodup
  gone : ∀ file, state.path = some file → file ∉ state.taken.map Prod.fst

section
variable {state next : AliasLocks} {owner : String} {stage : LockStage} {file : Nat}

private theorem commits_become (state : AliasLocks) (owner other : String) (stage : LockStage) :
    (state.become owner stage).commits other =
      if other = owner then stage else state.commits other :=
  Function.update_apply _ _ _ _

private theorem files_write (state : AliasLocks) (file other : Nat) (content : String) :
    (state.write file content).files other =
      if other = file then ⟨content, state.now⟩ else state.files other :=
  Function.update_apply _ _ _ _

/-- What a stage shows after a commit has changed its own. -/
theorem become_cases {other : String} {value : Nat} (shows : LockStage → Option Nat)
    (held : shows ((state.become owner stage).commits other) = some value) :
    (other = owner ∧ shows stage = some value) ∨
      (other ≠ owner ∧ shows (state.commits other) = some value) := by
  rw [commits_become] at held
  split at held
  · next same => exact .inl ⟨same, held⟩
  · next different => exact .inr ⟨different, held⟩

variable {since : Nat} {event : LockStep}

private theorem owns_of_since (held : stage.since = some since) :
    ∃ file, stage.owns = some file := by
  cases stage with
  | holding file | releasing file => exact ⟨file, rfl⟩
  | _ => cases held

section
variable (valid : state.Valid)
include valid

private theorem Valid.path_of_young (owned : (state.commits owner).owns = some file)
    (held : (state.commits owner).since = some since)
    (young : state.now < since + aliasLockStaleAfter) :
    ¬state.Stale file ∧ state.path = some file := by
  have fresh : ¬state.Stale file := by
    unfold Stale
    rw [valid.dated owner file since owned held]
    exact Nat.not_le.mpr young
  exact ⟨fresh, valid.young owner file owned fresh⟩

private theorem Valid.excludes : state.Excludes where
  one := by
    rintro first second ⟨_, held, young⟩ ⟨_, alsoHeld, alsoYoung⟩
    obtain ⟨file, owned⟩ := owns_of_since held
    obtain ⟨_, alsoOwned⟩ := owns_of_since alsoHeld
    have here := (valid.path_of_young owned held young).2
    have there := (valid.path_of_young alsoOwned alsoHeld alsoYoung).2
    cases here.symm.trans there
    exact valid.apart first second file owned alsoOwned
  once := valid.once

private theorem Valid.respects (timely : state.Timely event) : state.Respects event := by
  cases event with
  | advance owner =>
    change state.TimelyAdvance (state.commits owner) at timely
    change state.RespectsAdvance (state.commits owner)
    cases stage : state.commits owner with
    | claiming _ measured =>
      rw [stage] at timely
      obtain ⟨stale, place⟩ := valid.measured owner measured (by rw [stage]; rfl)
      refine ⟨fun file present => ?_, place⟩
      rw [timely file present]
      exact stale
    | releasing =>
      rw [stage] at timely
      have here := (valid.path_of_young (by rw [stage]; rfl) (by rw [stage]; rfl) timely).2
      exact fun file present => Option.some.inj (present.symm.trans here)
    | _ => trivial
  | refresh owner =>
    change state.TimelyRefresh (state.commits owner) at timely
    change state.RespectsRefresh (state.commits owner)
    cases stage : state.commits owner with
    | holding =>
      rw [stage] at timely
      have here := (valid.path_of_young (by rw [stage]; rfl) (by rw [stage]; rfl) timely).2
      exact fun _ present => Option.some.inj (present.symm.trans here)
    | _ => trivial
  | _ => trivial

private theorem Valid.become (claimed : String → Option Nat)
    (owned : ∀ file, stage.owns = some file → (state.commits owner).owns = some file)
    (dated : ∀ file since, stage.owns = some file → stage.since = some since →
      (state.files file).modified = since)
    (measured : ∀ file, stage.measured = some file →
      state.Stale file ∧ (state.path = some file ∨ file ∈ state.taken.map Prod.fst)) :
    Valid { state.become owner stage with claimed } := by
  have former {other : String} {file : Nat}
      (owns : ((state.become owner stage).commits other).owns = some file) :
      (state.commits other).owns = some file := by
    obtain ⟨same, owns⟩ | ⟨-, owns⟩ := become_cases LockStage.owns owns
    · exact same ▸ owned file owns
    · exact owns
  refine { __ := valid, made := ?_, apart := ?_, dated := ?_, young := ?_, measured := ?_ }
  · exact fun other file owns => valid.made other file (former owns)
  · exact fun first second file one two =>
      valid.apart first second file (former one) (former two)
  · intro other file since owns held
    obtain ⟨same, held⟩ | ⟨-, held⟩ := become_cases LockStage.since held
    · obtain ⟨-, owns⟩ | ⟨different, -⟩ := become_cases LockStage.owns owns
      · exact dated file since owns held
      · exact absurd same different
    · exact valid.dated other file since (former owns) held
  · exact fun other file owns => valid.young other file (former owns)
  · intro other file looked
    obtain ⟨-, looked⟩ | ⟨-, looked⟩ := become_cases LockStage.measured looked
    · exact measured file looked
    · exact valid.measured other file looked

/-- A commit writes into its own young lock. -/
theorem Valid.rewrite (owned : (state.commits owner).owns = some file) (fresh : ¬state.Stale file) :
    Valid ((state.write file owner).become owner (.holding file state.now)) := by
  have former {other : String} {kept : Nat}
      (owns :
        (((state.write file owner).become owner (.holding file state.now)).commits other).owns =
        some kept) : (state.commits other).owns = some kept ∧ (other = owner → kept = file) := by
    obtain ⟨same, owns⟩ | ⟨different, owns⟩ := become_cases LockStage.owns owns
    · cases owns
      exact ⟨same ▸ owned, fun _ => rfl⟩
    · exact ⟨owns, fun own => absurd own different⟩
  have stale_iff {kept : Nat} (different : kept ≠ file) :
      (state.write file owner).Stale kept ↔ state.Stale kept := by
    unfold Stale
    rw [files_write, if_neg different]
    rfl
  refine { __ := valid, made := ?_, apart := ?_, dated := ?_, young := ?_, measured := ?_ }
  · exact fun other kept owns => valid.made other kept (former owns).1
  · exact fun first second kept one two =>
      valid.apart first second kept (former one).1 (former two).1
  · intro other kept since owns held
    obtain ⟨before, own⟩ := former owns
    change ((state.write file owner).files kept).modified = since
    rw [files_write]
    obtain ⟨same, held⟩ | ⟨different, held⟩ := become_cases LockStage.since held
    · cases held
      rw [if_pos (own same)]
    have apart : kept ≠ file := by
      rintro rfl
      exact different (valid.apart other owner kept before owned)
    rw [if_neg apart]
    exact valid.dated other kept since before held
  · intro other kept owns young
    by_cases same : kept = file
    · rw [same]
      exact valid.young owner file owned fresh
    · exact valid.young other kept (former owns).1 fun stale => young ((stale_iff same).mpr stale)
  · intro other kept looked
    obtain ⟨-, looked⟩ | ⟨-, looked⟩ := become_cases LockStage.measured looked
    · cases looked
    obtain ⟨stale, place⟩ := valid.measured other kept looked
    have different : kept ≠ file := by
      rintro rfl
      exact fresh stale
    exact ⟨(stale_iff different).mpr stale, place⟩

/-- The file at the path is moved or removed by its owner or by a commit that found it
stale; no other young lock is there then. -/
theorem Valid.vacate (claimed : String → Option Nat) {taken : List (Nat × String)}
    (inert : stage.Inert) (present : state.path = some file)
    (lapsed : ∀ other, other ≠ owner → (state.commits other).owns = some file → state.Stale file)
    (kept : ∀ file ∈ state.taken.map Prod.fst, file ∈ taken.map Prod.fst)
    (moved : (∃ other, (state.commits other).measured = some file) → file ∈ taken.map Prod.fst)
    (earlier : ∀ file ∈ taken.map Prod.fst, file < state.created)
    (once : (taken.map Prod.fst).Nodup) :
    Valid { state.become owner stage with path := none, claimed, taken } := by
  have others {other : String} {file : Nat}
      (owns : ((state.become owner stage).commits other).owns = some file) :
      other ≠ owner ∧ (state.commits other).owns = some file := by
    obtain ⟨-, owns⟩ | others := become_cases LockStage.owns owns
    · cases inert.1.symm.trans owns
    · exact others
  refine ⟨nofun, ?_, ?_, ?_, ?_, ?_, earlier, once, nofun⟩
  · exact fun other file owns => valid.made other file (others owns).2
  · exact fun first second file one two =>
      valid.apart first second file (others one).2 (others two).2
  · intro other file since owns held
    obtain ⟨different, before⟩ := others owns
    obtain ⟨same, -⟩ | ⟨-, held⟩ := become_cases LockStage.since held
    · exact absurd same different
    · exact valid.dated other file since before held
  · intro other own owns young
    obtain ⟨different, before⟩ := others owns
    cases present.symm.trans (valid.young other own before young)
    exact absurd (lapsed other different before) young
  · intro other own looked
    obtain ⟨-, looked⟩ | ⟨-, looked⟩ := become_cases LockStage.measured looked
    · cases inert.2.symm.trans looked
    obtain ⟨stale, here | before⟩ := valid.measured other own looked
    · cases present.symm.trans here
      exact ⟨stale, .inr (moved ⟨other, looked⟩)⟩
    · exact ⟨stale, .inr (kept own before)⟩

private theorem Valid.create (free : state.path = none) : Valid (state.create owner) := by
  have old {file : Nat} (before : file < state.created) :
      (state.create owner).files file = state.files file :=
    (files_write state state.created file "").trans (if_neg (Nat.ne_of_lt before))
  have stillStale {file : Nat} (before : file < state.created) :
      (state.create owner).Stale file ↔ state.Stale file := by
    unfold Stale
    rw [old before]
    rfl
  refine ⟨?_, ?_, ?_, ?_, ?_, ?_, ?_, valid.once, ?_⟩
  · intro file present
    cases present
    exact Nat.lt_succ_self _
  · intro other file owns
    obtain ⟨-, owns⟩ | ⟨-, owns⟩ := become_cases LockStage.owns owns
    · cases owns
      exact Nat.lt_succ_self _
    · exact Nat.lt_succ_of_lt (valid.made other file owns)
  · intro first second file one two
    obtain ⟨left, one⟩ | ⟨-, one⟩ := become_cases owns one
    · obtain ⟨right, -⟩ | ⟨-, two⟩ := become_cases owns two
      · rw [left, right]
      · cases one
        exact absurd (valid.made second _ two) (Nat.lt_irrefl _)
    · obtain ⟨-, two⟩ | ⟨-, two⟩ := become_cases owns two
      · cases two
        exact absurd (valid.made first _ one) (Nat.lt_irrefl _)
      · exact valid.apart first second file one two
  · intro other file since owns held
    obtain ⟨-, held⟩ | ⟨different, held⟩ := become_cases LockStage.since held
    · cases held
    obtain ⟨same, -⟩ | ⟨-, owns⟩ := become_cases LockStage.owns owns
    · exact absurd same different
    · rw [old (valid.made other file owns)]
      exact valid.dated other file since owns held
  · intro other file owns young
    obtain ⟨-, owns⟩ | ⟨-, owns⟩ := become_cases LockStage.owns owns
    · cases owns
      rfl
    have before := valid.made other file owns
    have here := valid.young other file owns fun stale => young ((stillStale before).mpr stale)
    cases free.symm.trans here
  · intro other file looked
    obtain ⟨-, looked⟩ | ⟨-, looked⟩ := become_cases LockStage.measured looked
    · cases looked
    obtain ⟨stale, here | taken⟩ := valid.measured other file looked
    · cases free.symm.trans here
    · exact ⟨(stillStale (valid.earlier file taken)).mpr stale, .inr taken⟩
  · exact fun file taken => Nat.lt_succ_of_lt (valid.earlier file taken)
  · intro file present taken
    cases present
    exact absurd (valid.earlier _ taken) (Nat.lt_irrefl _)

private theorem Valid.tick {now : Nat} (later : state.now ≤ now) : Valid { state with now } where
  __ := valid
  young owner file owns young :=
    valid.young owner file owns fun stale => young (Nat.le_trans stale later)
  measured owner file looked := by
    obtain ⟨stale, place⟩ := valid.measured owner file looked
    exact ⟨Nat.le_trans stale later, place⟩

private theorem Valid.step (timely : state.Timely event) (moves : state.Moves event next) :
    next.Valid := by
  cases moves with
  | tick later => exact valid.tick later
  | settle inert =>
    apply valid.become _
    · intro file owns
      cases inert.1.symm.trans owns
    · intro file since owns
      cases inert.1.symm.trans owns
    · intro file looked
      cases inert.2.symm.trans looked
  | create free => exact valid.create free
  | stamp stage =>
    rw [Timely, stage] at timely
    exact valid.rewrite (by rw [stage]; rfl) timely
  | measure present stale =>
    apply valid.become state.claimed
    · exact nofun
    · exact nofun
    · intro file looked
      cases looked
      exact ⟨stale, .inl present⟩
  | @claim owner _ measured file _ stage present =>
    rw [Timely, stage] at timely
    cases timely file present
    obtain ⟨stale, _⟩ := valid.measured owner measured (by rw [stage]; rfl)
    apply valid.vacate _ ⟨rfl, rfl⟩ present
    · exact fun _ _ _ => stale
    · exact fun other taken => List.mem_cons_of_mem _ taken
    · exact fun _ => List.mem_cons_self
    · intro other taken
      rcases List.mem_cons.mp taken with rfl | before
      · exact valid.numbered _ present
      · exact valid.earlier other before
    · exact List.nodup_cons.mpr ⟨valid.gone measured present, valid.once⟩
  | @release owner own _ stage =>
    rw [Timely, stage] at timely
    have owned : (state.commits owner).owns = some own := by
      rw [stage]
      rfl
    obtain ⟨fresh, here⟩ := valid.path_of_young owned (by rw [stage]; rfl) timely
    apply valid.vacate state.claimed ⟨rfl, rfl⟩ here
    · intro other different owns
      exact absurd (valid.apart other owner own owns owned) different
    · exact fun _ taken => taken
    · rintro ⟨other, looked⟩
      exact absurd (valid.measured other own looked).1 fresh
    · exact valid.earlier
    · exact valid.once
  | @refresh owner own _ _ stage present =>
    rw [Timely, stage] at timely
    have owned : (state.commits owner).owns = some own := by
      rw [stage]
      rfl
    obtain ⟨fresh, here⟩ := valid.path_of_young owned (by rw [stage]; rfl) timely
    cases present.symm.trans here
    exact valid.rewrite owned fresh
  | stay => exact valid
  | @keep owner _ _ stage =>
    apply valid.become state.claimed
    · intro other owns
      cases owns
      rw [stage]
      rfl
    · intro other when owns held
      cases owns
      cases held
      exact valid.dated owner _ _ (by rw [stage]; rfl) (by rw [stage]; rfl)
    · exact nofun

end

private theorem Initial.valid (initial : state.Initial) : state.Valid := by
  have nothing : ∀ owner file, (state.commits owner).owns ≠ some file := by
    intro owner file owns
    rw [initial.idle owner] at owns
    cases owns
  refine ⟨initial.numbered, ?_, ?_, ?_, ?_, ?_, ?_, ?_, ?_⟩
  · exact fun owner file owns => absurd owns (nothing owner file)
  · exact fun owner _ file owns => absurd owns (nothing owner file)
  · exact fun owner file _ owns => absurd owns (nothing owner file)
  · exact fun owner file owns => absurd owns (nothing owner file)
  · intro owner file looked
    rw [initial.idle owner] at looked
    cases looked
  · simp [initial.untaken]
  · simp [initial.untaken]
  · simp [initial.untaken]

end

/-- In every run whose steps are timely, at most one commit holds a young lock, each
stale lock is taken over at most once and only stale ones are, and no holder rewrites
or removes a lock that is not its own. -/
theorem alias_lock_excludes (aliasName : String) {start final : AliasLocks}
    {events : List LockStep} (initial : start.Initial)
    (timely : (machine aliasName).Along Timely start events)
    (reached : (machine aliasName).run start events = some final) :
    final.Excludes ∧ (machine aliasName).Along Respects start events := by
  have kept : (machine aliasName).Preserves Timely Valid :=
    fun valid timely stepped => valid.step timely (step_moves stepped)
  constructor
  · exact (Machine.invariant_run kept initial.valid timely reached).excludes
  · exact Machine.along_of_invariant kept (fun valid => valid.respects) initial.valid timely

/-- A lock that a crashed commit left, as old as a lock can be. -/
def abandonedLock : AliasLocks where
  now := aliasLockStaleAfter
  path := some 0
  files := fun _ => ⟨"crashed", 0⟩
  created := 1
  claimed := fun _ => none
  commits := fun _ => .idle
  taken := []

private theorem initial_abandonedLock : abandonedLock.Initial :=
  ⟨fun _ => rfl, fun _ present => by cases present; decide, rfl⟩

/-- Two commits find the lock stale, one of them takes it over before the other looks
again, refreshes its own and releases it. -/
def orderlyTakeover : List LockStep :=
  [.acquire "first", .acquire "second", .advance "first", .advance "second", .advance "first",
    .advance "second", .advance "first", .advance "second", .advance "first", .advance "first",
    .advance "first", .refresh "first", .drop "first", .advance "first"]

/-- A stale lock is taken over by one owner. -/
theorem orderly_takeover_excludes :
    ∃ final, (machine "coder").run abandonedLock orderlyTakeover = some final ∧
      final.Excludes ∧ (machine "coder").Along Respects abandonedLock orderlyTakeover :=
  Machine.exists_run (by decide +kernel) fun _ reached =>
    alias_lock_excludes "coder" initial_abandonedLock (by decide +kernel) reached

/-- Two commits find the same lock stale. The first moves it and makes its own; the
second moves that one and makes another. -/
def doubleTakeover : List LockStep :=
  [.acquire "first", .acquire "second", .advance "first", .advance "second", .advance "first",
    .advance "second", .advance "first", .advance "first", .advance "first", .advance "first",
    .advance "second", .advance "second", .advance "second", .advance "second"]

/-- A holder is slow, its lock is taken over, and it refreshes. -/
def lateRefresh : List LockStep :=
  [.acquire "first", .advance "first", .advance "first", .advance "first", .advance "first",
    .advance "first", .advance "first", .tick (2 * aliasLockStaleAfter), .acquire "second",
    .advance "second", .advance "second", .advance "second", .advance "second",
    .advance "second", .advance "second", .refresh "first"]

/-- Two commits hold a young lock at once after one moved the lock that the other had
just made, and a holder rewrites the lock of its successor. -/
theorem alias_lock_taken_from_holder :
    (∃ final, (machine "coder").run abandonedLock doubleTakeover = some final ∧ ¬final.Excludes) ∧
    ¬(machine "coder").Along Respects abandonedLock doubleTakeover ∧
    ¬(machine "coder").Along Respects abandonedLock lateRefresh := by
  refine ⟨⟨_, rfl, fun excludes => ?_⟩, by decide +kernel, by decide +kernel⟩
  exact absurd (excludes.one "first" "second" ⟨_, rfl, by decide⟩ ⟨_, rfl, by decide⟩) (by decide)

end TachyonMesh.ModelBroker.AliasLocks
