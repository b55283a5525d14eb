import TachyonMesh.Foundation.Machine
import TachyonMesh.Foundation.Text

/-! # Temporary directories of S3 mounts

The directory of a mount is named after the nanoseconds of the clock and the length of the thread's
id, and is used as it is if it exists.
-/

namespace TachyonMesh.Volumes
open Foundation List

/-- One volume of one invocation, with what its directory is named after. -/
structure TempMount where
  id : Nat
  nanos : Fin 1000000000
  thread : UInt64
deriving DecidableEq

/-- A number as `{:08x}` prints it. -/
def paddedHex (value : Nat) : List Char := (Nat.toDigits 16 value).leftpad 8 '0'

def uuidV4Hex (mount : TempMount) : List Char :=
  let tid := "ThreadId(" ++ toString mount.thread.toNat ++ ")"
  paddedHex mount.nanos ++ paddedHex (tid.length * 0x9e3779b9 % 2 ^ 64)

def buildS3TempDir (tempDir : String) (mount : TempMount) : String :=
  tempDir ++ ("/tachyon-s3-vol-" ++ String.ofList (uuidV4Hex mount))

/-- The live mounts and the directories that exist; the files of a mount are those below its own. -/
structure TempState where
  live : List TempMount := []
  dirs : List String := []

/-- A directory is made ready, or cleaned up. -/
inductive TempEvent where
  | prepare (mount : TempMount)
  | cleanup (mount : TempMount)

variable (tempDir : String)

/-- `create_dir_all` succeeds on a directory that exists. -/
def tempMachine : Machine TempState TempEvent where
  step state
    | .prepare mount =>
        if mount.id ∈ state.live.map TempMount.id then none
        else some ⟨mount :: state.live, buildS3TempDir tempDir mount :: state.dirs⟩
    | .cleanup mount =>
        if mount ∈ state.live then
          some ⟨state.live.filter (· ≠ mount), state.dirs.filter (· ≠ buildS3TempDir tempDir mount)⟩
        else none

namespace TempState

/-- The live mounts have distinct directories, and these exist. -/
structure Separate (state : TempState) : Prop where
  distinct : ∀ first ∈ state.live, ∀ second ∈ state.live,
    buildS3TempDir tempDir first = buildS3TempDir tempDir second → first = second
  exist : ∀ mount ∈ state.live, buildS3TempDir tempDir mount ∈ state.dirs

/-- No live mount is named after the same nanoseconds and a thread id of the same length. -/
def Fresh (state : TempState) : TempEvent → Prop
  | .prepare mount => ∀ other ∈ state.live, ¬(other.nanos = mount.nanos ∧
      (toString other.thread.toNat).length = (toString mount.thread.toNat).length)
  | .cleanup _ => True

instance (state : TempState) (event : TempEvent) : Decidable (state.Fresh event) := by
  unfold Fresh
  split <;> infer_instance

end TempState

/-- The number that hexadecimal digits write. -/
def hexValue (digits : List Char) : Nat :=
  digits.foldl (fun value c => value * 16 + "0123456789abcdef".toList.idxOf c) 0

private theorem hexValue_paddedHex (value : Nat) : hexValue (paddedHex value) = value := by
  have digit : ∀ d < 16, "0123456789abcdef".toList.idxOf (Nat.digitChar d) = d := by decide
  have zeros (count : Nat) : hexValue (replicate count '0') = 0 := by
    induction count with
    | zero => rfl
    | succ _ ih => exact ih
  have unpadded : hexValue (Nat.toDigits 16 value) = value := by
    induction value using Nat.strongRecOn with
    | ind value ih =>
      rw [Nat.toDigits_eq_if (by decide)]
      split
      · next small => simpa [hexValue] using digit value small
      · have rest := ih (value / 16) (by omega)
        rw [hexValue, foldl_append, ← hexValue, rest, foldl_cons, foldl_nil,
          digit _ (Nat.mod_lt _ (by decide))]
        omega
  rw [paddedHex, leftpad, hexValue, foldl_append, ← hexValue, zeros]
  exact unpadded

private theorem named_alike {first second : TempMount}
    (same : buildS3TempDir tempDir first = buildS3TempDir tempDir second) :
    first.nanos = second.nanos ∧
      (toString first.thread.toNat).length = (toString second.thread.toNat).length := by
  have width (nanos : Fin 1000000000) : (paddedHex nanos).length = 8 := by
    have short := @Nat.length_toDigits_le_iff 16 nanos 8 (by decide) (by decide)
    simp only [paddedHex, leftpad, length_append, length_replicate]
    omega
  have short (thread : UInt64) : ("ThreadId(" ++ toString thread.toNat ++ ")").length ≤ 30 := by
    have digits := @Nat.length_toDigits_le_iff 10 thread.toNat 20 (by decide) (by decide)
    have bound := thread.toNat_lt
    have brackets : "ThreadId(".length + ")".length = 10 := rfl
    rw [← Nat.toList_repr, String.length_toList] at digits
    simp
    omega
  -- The product does not wrap around.
  have product : ∀ length ≤ 30, length * 0x9e3779b9 % 2 ^ 64 = length * 0x9e3779b9 := by decide
  unfold buildS3TempDir uuidV4Hex at same
  rw [String.append_right_inj, String.append_right_inj, String.ofList_inj] at same
  obtain ⟨nanos, lengths⟩ := append_inj same ((width _).trans (width _).symm)
  have nanos := congrArg hexValue nanos
  have lengths := congrArg hexValue lengths
  rw [hexValue_paddedHex, hexValue_paddedHex] at nanos lengths
  rw [product _ (short _), product _ (short _)] at lengths
  exact ⟨Fin.ext nanos, by simpa using Nat.eq_of_mul_eq_mul_right (by decide) lengths⟩

variable {tempDir} {state next : TempState} {event : TempEvent}

private theorem TempState.Separate.step (separate : state.Separate tempDir)
    (fresh : state.Fresh event)
    (stepped : (tempMachine tempDir).step state event = some next) : next.Separate tempDir := by
  obtain ⟨distinct, exist⟩ := separate
  cases event with
  | prepare mount =>
    obtain ⟨-, stepped⟩ := Option.ite_none_left_eq_some.mp stepped
    cases stepped
    have apart : ∀ other ∈ state.live,
        buildS3TempDir tempDir other ≠ buildS3TempDir tempDir mount :=
      fun other listed same => fresh other listed (named_alike tempDir same)
    refine ⟨?_, fun other listed => ?_⟩
    · simp only [forall_mem_cons, forall_const, true_and]
      exact ⟨fun other listed same => absurd same.symm (apart other listed), fun other listed =>
        ⟨fun same => absurd same (apart other listed), distinct other listed⟩⟩
    · rcases mem_cons.mp listed with rfl | listed
      · exact mem_cons_self
      · exact mem_cons_of_mem _ (exist other listed)
  | cleanup mount =>
    obtain ⟨member, rfl⟩ := of_guard stepped
    refine ⟨fun first listed second listed' => ?_, fun other listed => ?_⟩
    · exact distinct first (mem_of_mem_filter listed) second (mem_of_mem_filter listed')
    · obtain ⟨listed, different⟩ := mem_filter.mp listed
      refine mem_filter.mpr ⟨exist other listed, decide_eq_true fun same => ?_⟩
      exact of_decide_eq_true different (distinct other listed mount member same)

/-- In every run in which each mount is named unlike the live ones, the live mounts are separate. -/
theorem mounts_separate {events : List TempEvent}
    (fresh : (tempMachine tempDir).Along TempState.Fresh {} events)
    (reached : (tempMachine tempDir).run {} events = some state) : state.Separate tempDir :=
  Machine.invariant_run TempState.Separate.step ⟨by simp, by simp⟩ fresh reached

/-- Two mounts at one moment, on threads whose ids differ in length. -/
theorem unlike_mounts_separate :
    ∃ state, (tempMachine "/tmp").run {} [.prepare ⟨0, 7, 9⟩, .prepare ⟨1, 7, 10⟩] = some state ∧
      state.Separate "/tmp" :=
  Machine.exists_run (by decide +kernel) fun _ reached =>
    mounts_separate (by decide +kernel) reached

/-- Two mounts at one moment on the threads 8 and 9 have one directory, and the cleanup of one
removes it. -/
theorem mounts_share_directory :
    buildS3TempDir "/tmp" ⟨0, 7, 8⟩ = buildS3TempDir "/tmp" ⟨1, 7, 9⟩ ∧
    ∃ state, (tempMachine "/tmp").run {} [.prepare ⟨0, 7, 8⟩, .prepare ⟨1, 7, 9⟩,
        .cleanup ⟨0, 7, 8⟩] = some state ∧ state.live = [⟨1, 7, 9⟩] ∧ state.dirs = [] := by
  decide +kernel

end TachyonMesh.Volumes
