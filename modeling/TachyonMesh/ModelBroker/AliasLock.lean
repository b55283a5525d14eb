import TachyonMesh.Foundation.Machine

/-! # The commit lock of an alias

A lock is a file at one path, made with `create_new` and stamped with the upload
that holds it. A commit that finds the file older than `aliasLockStaleAfter` moves it
aside and tries once more. The steps of any number of commits are interleaved one
file operation at a time; the clock moves between them.
-/

namespace TachyonMesh.ModelBroker
open Foundation Function

def aliasLockStaleAfter : Nat := 30 * 60

/-- A lock file and when it was written. -/
structure LockFile where
  content : String
  modified : Nat

/-- How far a commit is with its lock. Files are numbered in the order of their
creation. -/
inductive LockStage where
  | idle
  /-- `create_new` comes next, in the given round of `acquire`. -/
  | creating (attempt : Nat)
  | stamping (file : Nat)
  /-- The path was taken; its metadata comes next. -/
  | measuring (attempt : Nat)
  /-- The lock that was measured is stale; the rename comes next. -/
  | claiming (attempt measured : Nat)
  /-- Something was moved aside and is removed next. -/
  | sweeping (attempt : Nat)
  /-- The lock is held, and was stamped or refreshed last at `since`. -/
  | holding (file since : Nat)
  /-- The drop found its own stamp; the removal comes next. -/
  | releasing (file since : Nat)
  | failed (error : String)
  | released
  | crashed

/-- The lock path and all that try for it. -/
structure AliasLocks where
  now : Nat
  /-- The file at the lock path. -/
  path : Option Nat
  files : Nat → LockFile
  /-- How many files have been created. -/
  created : Nat
  /-- The file that a commit moved aside and has not removed yet. -/
  claimed : String → Option Nat
  commits : String → LockStage
  /-- The files that were moved aside, and by whom. -/
  taken : List (Nat × String)

/-- What may happen at the lock path. -/
inductive LockStep where
  | tick (now : Nat)
  | acquire (owner : String)
  /-- The next file operation of `acquire`, or the removal of a drop. -/
  | advance (owner : String)
  | refresh (owner : String)
  /-- A drop looks whose stamp the lock has. -/
  | drop (owner : String)
  | crash (owner : String)

namespace AliasLocks
variable (state : AliasLocks)

def become (owner : String) (stage : LockStage) : AliasLocks :=
  { state with commits := update state.commits owner stage }

def write (file : Nat) (content : String) : AliasLocks :=
  { state with files := update state.files file ⟨content, state.now⟩ }

/-- A file is at least as old as `aliasLockStaleAfter`. -/
def Stale (file : Nat) : Prop :=
  (state.files file).modified + aliasLockStaleAfter ≤ state.now
deriving Decidable

variable (aliasName : String)

/-- The next round of `acquire`; there are two. -/
def nextAttempt (attempt : Nat) : LockStage :=
  if attempt = 0 then .creating 1
  else .failed ("could not take the commit lock for model `" ++ aliasName ++
    "`: another commit reclaimed it first")

def inProgress : LockStage :=
  .failed ("another commit for model `" ++ aliasName ++ "` is in progress; retry once it finishes")

def create (owner : String) : AliasLocks :=
  { state.write state.created "" with
    path := some state.created
    created := state.created + 1
    commits := update state.commits owner (.stamping state.created) }

def claim (state : AliasLocks) (owner : String) (attempt : Nat) : AliasLocks :=
  match state.path with
  | some file =>
      { state.become owner (.sweeping attempt) with
        path := none
        claimed := update state.claimed owner (some file)
        taken := (file, owner) :: state.taken }
  | none => state.become owner (nextAttempt aliasName attempt)

def advance (state : AliasLocks) (owner : String) : Option AliasLocks :=
  match state.commits owner with
  | .creating attempt =>
      match state.path with
      | none => some (state.create owner)
      | some _ => some (state.become owner (.measuring attempt))
  | .stamping file =>
      some ((state.write file owner).become owner (.holding file state.now))
  | .measuring attempt =>
      match state.path with
      | some file =>
          if state.Stale file then some (state.become owner (.claiming attempt file))
          else some (state.become owner (inProgress aliasName))
      | none => some (state.become owner (inProgress aliasName))
  | .claiming attempt _ => some (state.claim aliasName owner attempt)
  | .sweeping attempt =>
      some { state.become owner (nextAttempt aliasName attempt) with
        claimed := update state.claimed owner none }
  | .releasing _ _ => some { state.become owner .released with path := none }
  | _ => none

/-- Rewrite whatever is at the path, if anything. -/
def refresh (owner : String) : Option AliasLocks :=
  match state.commits owner with
  | .holding own _ =>
      match state.path with
      | some file => some ((state.write file owner).become owner (.holding own state.now))
      | none => some state
  | _ => none

/-- Whether the lock file is still the one that a commit took. -/
def stillOurs (owner : String) : Bool :=
  match state.path with
  | some file => (state.files file).content == owner
  | none => false

def drop (owner : String) : Option AliasLocks :=
  match state.commits owner with
  | .holding file since =>
      if state.stillOurs owner then some (state.become owner (.releasing file since))
      else some (state.become owner .released)
  | _ => none

def machine : Machine AliasLocks LockStep where
  step state event :=
    match event with
    | .tick now => if state.now ≤ now then some { state with now } else none
    | .acquire owner =>
        match state.commits owner with
        | .idle => some (state.become owner (.creating 0))
        | _ => none
    | .advance owner => state.advance aliasName owner
    | .refresh owner => state.refresh owner
    | .drop owner => state.drop owner
    | .crash owner => some (state.become owner .crashed)

end AliasLocks

/-! ## What a step does -/

/-- The file that a commit made for its lock. -/
def LockStage.owns : LockStage → Option Nat
  | .stamping file | .holding file _ | .releasing file _ => some file
  | _ => none

/-- When a held lock was stamped or refreshed last. -/
def LockStage.since : LockStage → Option Nat
  | .holding _ since | .releasing _ since => some since
  | _ => none

/-- The stale lock that a commit is about to move. -/
def LockStage.measured : LockStage → Option Nat
  | .claiming _ file => some file
  | _ => none

/-- A stage without a file. -/
def LockStage.Inert (stage : LockStage) : Prop := stage.owns = none ∧ stage.measured = none

namespace AliasLocks

private theorem inert_nextAttempt (aliasName : String) (attempt : Nat) :
    (nextAttempt aliasName attempt).Inert := by
  unfold nextAttempt
  split <;> exact ⟨rfl, rfl⟩

/-- The steps, as far as the lock files are concerned. -/
inductive Moves (state : AliasLocks) : LockStep → AliasLocks → Prop
  | tick {now} (later : state.now ≤ now) : Moves state (.tick now) { state with now }
  /-- A commit goes on without a file. -/
  | settle {event owner stage claimed}
      (inert : stage.Inert) : Moves state event { state.become owner stage with claimed }
  | create {owner} (free : state.path = none) : Moves state (.advance owner) (state.create owner)
  | stamp {owner file} (stage : state.commits owner = .stamping file) :
      Moves state (.advance owner) ((state.write file owner).become owner (.holding file state.now))
  | measure {owner attempt file} (present : state.path = some file)
      (stale : state.Stale file) :
      Moves state (.advance owner) (state.become owner (.claiming attempt file))
  | claim {owner attempt measured file claimed}
      (stage : state.commits owner = .claiming attempt measured)
      (present : state.path = some file) :
      Moves state (.advance owner)
        { state.become owner (.sweeping attempt) with
          path := none, claimed, taken := (file, owner) :: state.taken }
  | release {owner file since}
      (stage : state.commits owner = .releasing file since) :
      Moves state (.advance owner) { state.become owner .released with path := none }
  | refresh {owner own since file}
      (stage : state.commits owner = .holding own since) (present : state.path = some file) :
      Moves state (.refresh owner) ((state.write file owner).become owner (.holding own state.now))
  | stay {event} : Moves state event state
  | keep {owner file since}
      (stage : state.commits owner = .holding file since) :
      Moves state (.drop owner) (state.become owner (.releasing file since))

variable {aliasName : String} {state next : AliasLocks}

private theorem moves_of_advance {owner : String}
    (advanced : state.advance aliasName owner = some next) :
    state.Moves (.advance owner) next := by
  unfold advance at advanced
  split at advanced
  · split at advanced
    · next free =>
      cases advanced
      exact .create free
    · cases advanced
      exact .settle ⟨rfl, rfl⟩
  · next file stage =>
    cases advanced
    exact .stamp stage
  · split at advanced
    · next file present =>
      split at advanced
      · next stale =>
        cases advanced
        exact .measure present stale
      · cases advanced
        exact .settle ⟨rfl, rfl⟩
    · cases advanced
      exact .settle ⟨rfl, rfl⟩
  · next attempt _ stage =>
    cases advanced
    unfold claim
    split
    · next file present => exact .claim stage present
    · exact .settle (inert_nextAttempt aliasName attempt)
  · cases advanced
    exact .settle (inert_nextAttempt aliasName _)
  · next _ _ stage =>
    cases advanced
    exact .release stage
  · cases advanced

theorem step_moves {event : LockStep}
    (stepped : (machine aliasName).step state event = some next) : state.Moves event next := by
  cases event with
  | tick =>
    obtain ⟨later, rfl⟩ := of_guard stepped
    exact .tick later
  | acquire =>
    simp only [machine] at stepped
    split at stepped
    · cases stepped
      exact .settle ⟨rfl, rfl⟩
    · cases stepped
  | advance => exact moves_of_advance stepped
  | refresh =>
    simp only [machine, refresh] at stepped
    split at stepped
    · next _ since stage =>
      split at stepped
      · next file present =>
        cases stepped
        exact .refresh stage present
      · cases stepped
        exact .stay
    · cases stepped
  | drop =>
    simp only [machine, drop] at stepped
    split at stepped
    · next _ _ stage =>
      split at stepped
      · cases stepped
        exact .keep stage
      · cases stepped
        exact .settle ⟨rfl, rfl⟩
    · cases stepped
  | crash =>
    cases stepped
    exact .settle ⟨rfl, rfl⟩

end AliasLocks

end TachyonMesh.ModelBroker
