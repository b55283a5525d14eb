import TachyonMesh.Volumes.Occupancy

/-! # Hibernation and leases

A lease protects the record of a route and a guest path, and the record protects its
directory from the broker while it has leases. Routes or mount points that name one
directory, or directories that lie in one another, have records of their own.
-/

namespace TachyonMesh.Volumes
open Foundation List VolumeState

/-- When the worker begins a snapshot or a restore of a directory, no one has a lease on a
volume whose directory is that directory or lies in it. -/
def RespectsLeases (host : VolumeHost) (state : VolumeState) : VolumeEvent → Prop
  | .work key _ => ∀ work task record rest managed,
      (state.queues key).pending = .transfer work task record :: rest →
      state.records[record]? = some managed →
      ∀ volume place, .holding volume place ∈ state.tasks →
        ¬host.canonicalize managed.activePath <+: host.canonicalize volume.hostPath
  | _ => True

/-- A volume whose directory lies in another volume's has that volume's key, and so its record. -/
def Unshared (host : VolumeHost) : Prop :=
  ∀ inner ∈ host.volumes, ∀ outer ∈ host.volumes,
    host.canonicalize outer.hostPath <+: host.canonicalize inner.hostPath →
      managedVolumeKey inner.path = managedVolumeKey outer.path

/-- In a valid state of a host without shared directories no step breaks a lease. -/
theorem respectsLeases_of_valid {host : VolumeHost} (unshared : Unshared host)
    {state : VolumeState} (valid : state.Valid host) (event : VolumeEvent) :
    RespectsLeases host state event := by
  cases event with
  | work key =>
    intro work task record rest managed pending found volume place held inside
    have queued : .transfer work task record ∈ (state.queues key).pending := by
      rw [pending]
      exact mem_cons_self
    obtain ⟨⟨_, foundToo, hibernates⟩, -⟩ := valid.queued _ _ _ _ queued
    cases found.symm.trans foundToo
    -- The leased volume has the record that is being worked on, which has no lease.
    obtain ⟨holder, stands⟩ := mem_iff_getElem?.mp held
    obtain ⟨member, leased, leasedFound, key⟩ := valid.served holder _ stands volume place rfl
    obtain ⟨made, madeMember, madeKey, leads⟩ := valid.made _ _ found
    have keys : leased.key = managed.key := by
      rw [key, madeKey]
      exact unshared volume member made madeMember (leads ▸ inside)
    obtain rfl := valid.distinct _ _ _ _ leasedFound found keys
    have unleased := valid.unleased _ _ found (by rw [hibernates]; exact nofun)
    rw [valid.leased _ _ found, countP_eq_zero] at unleased
    exact unleased _ held (decide_eq_true rfl)
  | _ => trivial

/-- A directory that has just been made exists. -/
private theorem isSome_createDirAll (tree : Tree) (root : HostPath) :
    (tree.createDirAll root root).isSome := by
  rw [Tree.createDirAll, if_pos (prefix_refl root)]
  rfl

section
variable {host : VolumeHost} {inner outer : HibernationVolume}

/-- A lease on the inner volume, and one on the outer that is given back and whose timer
hibernates the volume. -/
def sharedRun (host : VolumeHost) (inner outer : HibernationVolume) : List VolumeEvent :=
  [.call inner, .proceed 0, .call outer, .proceed 1, .proceed 1, .proceed 1, .proceed 2,
    .proceed 2, .work (host.canonicalize outer.hostPath) .done]

/-- The run breaks the lease on the inner volume when the volumes have records of their own. -/
theorem leases_broken (memberInner : inner ∈ host.volumes) (memberOuter : outer ∈ host.volumes)
    (inside : host.canonicalize outer.hostPath <+: host.canonicalize inner.hostPath)
    (apart : managedVolumeKey inner.path ≠ managedVolumeKey outer.path) (disk : Tree) :
    ¬(volumeMachine host).Along (RespectsLeases host) (.initial disk)
      (sharedRun host inner outer) := by
  intro along
  let root := host.canonicalize outer.hostPath
  let called := (initial disk).call host inner
  let leased := (called.setRecord 0 (ManagedVolume.new host disk inner).lease).setTask 0
    (.holding inner 0)
  let idle := ManagedVolume.new host leased.disk outer
  let both := { leased.setDisk (leased.disk.createDirAll root) with
    records := leased.records ++ [idle] }.spawn (.testing outer 1)
  let twice := (both.setRecord 1 idle.lease).setTask 1 (.holding outer 1)
  let once := (twice.setRecord 1 idle.lease.release).setTask 1 (.releasing 1 (some 2))
  let timed := ((once.setTask 1 .finished).spawn (.sleeping 1 2)).notify 1
  let taken := (timed.setRecord 1 (idle.lease.release.become (.hibernating 2))).setTask 2
    (.starting .snapshot 1)
  let waiting := (taken.enqueue (taken.queueForVolume host idle.activePath)
    (.transfer .snapshot 2 1)).setTask 2 (.queued .snapshot 1)
  have leads : host.canonicalize idle.activePath = root := host.canonicalize_normalizePath _ _
  have missing : leased.records.findIdx? (·.key = managedVolumeKey outer.path) = none := by
    rw [findIdx?_eq_none_iff]
    intro managed member
    cases mem_singleton.mp member
    exact decide_eq_false apart
  have callsInner : (volumeMachine host).step (.initial disk) (.call inner) = some called :=
    if_pos memberInner
  have callsOuter : (volumeMachine host).step leased (.call outer) = some both := by
    refine (if_pos memberOuter).trans (congrArg some ?_)
    unfold call
    rw [missing]
    rfl
  have respects : RespectsLeases host waiting (.work root .done) :=
    ((((((((along.2 called callsInner).2 leased rfl).2 both callsOuter).2 twice rfl).2 once
      rfl).2 timed rfl).2 taken rfl).2 waiting rfl).1
  -- The directory was made before, so its queue is the one of the place it leads to.
  have key : taken.queueForVolume host idle.activePath = root := by
    rw [queueForVolume, VolumeHost.normalizePath, leads]
    exact if_pos (isSome_createDirAll leased.disk root)
  have pending : (waiting.queues root).pending = [.transfer .snapshot 2 1] := by
    change ((taken.enqueue _ _).queues root).pending = _
    rw [key, queues_enqueue]
    rfl
  exact respects .snapshot 2 1 [] _ pending rfl inner 0 mem_cons_self (leads ▸ inside)

end

/-- Whatever requests, timers and the broker do, no directory is removed or replaced while a
lease on it is held, exactly when volumes whose directories lie in one another share a record. -/
theorem hibernation_respects_leases_iff (host : VolumeHost) (disk : Tree) :
    (∀ events, (volumeMachine host).Along (RespectsLeases host) (.initial disk) events) ↔
      Unshared host := by
  constructor
  · intro respects inner memberInner outer memberOuter inside
    by_contra apart
    exact leases_broken memberInner memberOuter inside apart disk (respects _)
  · intro unshared events
    exact Machine.along_of_invariant (fun valid _ stepped => Valid.step valid stepped)
      (fun valid _ => respectsLeases_of_valid unshared valid _)
      (valid_initial host disk) (Machine.along_true _ events)

/-- The `/data` mount of a route. -/
def sharedMount (routePath : String) (hostPath : HostPath) : HibernationVolume where
  path := { routePath, guestPath := "/data" }
  hostPath

def sharedPath : HostPath := ["/", "var", "lib", "shared"]

/-- A route mounts the shared directory, another one the directory or one inside it. -/
def sharingHost (inside : HostPath) : VolumeHost :=
  .literal [sharedMount "/api/first" (sharedPath ++ inside), sharedMount "/api/second" sharedPath]

/-- The second route's timer removes the directory while the first has a lease on it, or on a
directory inside it. -/
theorem shared_directory_removed :
    (sharedMount "/api/first" sharedPath).path.Accepted ∧
    (sharedMount "/api/second" sharedPath).path.Accepted ∧
    ∀ inside, ∃ events, ¬(volumeMachine (sharingHost inside)).Along
      (RespectsLeases (sharingHost inside)) (.initial fun _ => none) events := by
  have apart : managedVolumeKey { routePath := "/api/first", guestPath := "/data" } ≠
      managedVolumeKey { routePath := "/api/second", guestPath := "/data" } := by decide
  refine ⟨⟨⟨"/api/first", by decide +kernel⟩, "/data", by decide +kernel⟩,
    ⟨⟨"/api/second", by decide +kernel⟩, "/data", by decide +kernel⟩, fun inside => ?_⟩
  exact ⟨_, leases_broken mem_cons_self (mem_cons_of_mem _ mem_cons_self)
    (prefix_append sharedPath inside) apart _⟩

end TachyonMesh.Volumes
