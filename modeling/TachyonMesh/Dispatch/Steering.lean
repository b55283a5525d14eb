import TachyonMesh.Dispatch.Overrides

/-! # Steering by the pressure of the peers

One evaluation of the gossip component: it polls its peers, and then steers its route to some of
them, to the buffer or back. `seed` is the value of its counter.
-/

namespace TachyonMesh.Dispatch
open List

/-- What a target computes on. -/
inductive TargetAccelerator where
  | cpu
  | gpu
  | npu
  | tpu
  | network

/-- How urgent a target is. -/
inductive TargetQos where
  | realTime
  | standard
  | batch

/-- What the component reads of a node's metrics. -/
structure TelemetrySnapshot where
  activeRequests : Nat := 0
  cpuPressure : Nat := 0
  ramPressure : Nat := 0
  capabilityMask : Nat := 0
  capabilities : List String := []
  hotInferenceComponents : List String := []
  queueLoad : TargetAccelerator → TargetQos → Nat := fun _ _ => 0

def TelemetrySnapshot.effectivePressure (snapshot : TelemetrySnapshot) : Nat :=
  max snapshot.cpuPressure snapshot.ramPressure

/-- A peer with its last telemetry. -/
structure PeerCandidate where
  baseUrl : String
  snapshot : TelemetrySnapshot

/-- A configured peer, and what the call to it gives: an error, or a status and the snapshot that
the body encodes. -/
structure Peer where
  baseUrl : String
  response : Except String (Nat × Option TelemetrySnapshot)

/-- The environment, if it is valid; `steerPath` is the path of the route in destinations. -/
structure SteeringConfig where
  steerPath : String := "/api"
  softLimit : Nat := 85
  recoverLimit : Nat := 60
  saturatedLimit : Nat := 95
  profile : Option (TargetAccelerator × TargetQos) := none

/-- The destination that the override of the route is set to; the route itself clears it. -/
inductive SteerTarget where
  | itself
  | buffer
  | descriptor (candidates : List RouteOverrideCandidate)

def readSnapshot (baseUrl : String) (response : Nat × Option TelemetrySnapshot) :
    Option PeerCandidate :=
  if response.1 ≥ 400 then none else response.2.map (⟨baseUrl, ·⟩)

def fetchPeerSnapshots : List Peer → Except String (List PeerCandidate)
  | [] => .ok []
  | ⟨_, .error error⟩ :: _ => .error error
  | ⟨baseUrl, .ok response⟩ :: peers =>
      (fetchPeerSnapshots peers).map ((readSnapshot baseUrl response).toList ++ ·)

namespace PeerCandidate

def pressure (peer : PeerCandidate) : Nat := peer.snapshot.effectivePressure

/-- The order of both sorts and of `prefer_healthier_peer`. -/
def lighter (left right : PeerCandidate) : Bool :=
  left.pressure < right.pressure || left.pressure = right.pressure &&
    left.snapshot.activeRequests ≤ right.snapshot.activeRequests

def toOverride (steerPath : String) (peer : PeerCandidate) : RouteOverrideCandidate where
  destination := peer.baseUrl ++ steerPath
  hotInferenceComponents := peer.snapshot.hotInferenceComponents
  effectivePressure := peer.pressure
  capabilityMask := peer.snapshot.capabilityMask
  capabilities := peer.snapshot.capabilities

end PeerCandidate

def powerOfTwoChoices (seed : Nat) (peers : List PeerCandidate) : Option PeerCandidate := do
  let first ← peers[seed % peers.length]?
  let second ← peers[(seed + 1) % peers.length]?
  pure (if first.lighter second then first else second)

def orderedCandidates (seed : Nat) (peers : List PeerCandidate) : List PeerCandidate :=
  let choice := (powerOfTwoChoices seed peers).toList
  choice ++ (peers.filter fun peer => choice.all (·.baseUrl ≠ peer.baseUrl)).mergeSort
    PeerCandidate.lighter

def qosOrderedCandidates (load : TelemetrySnapshot → Nat) (localLoad : Nat)
    (peers : List PeerCandidate) : List PeerCandidate :=
  (peers.filter (load ·.snapshot < localLoad)).mergeSort fun left right =>
    load left.snapshot < load right.snapshot ||
      load left.snapshot = load right.snapshot && left.lighter right

section
variable (config : SteeringConfig) (node : TelemetrySnapshot) (seed : Nat)

section
variable (peers : List PeerCandidate)

def healthyPeers : List PeerCandidate :=
  peers.filter (·.pressure < config.saturatedLimit)

def describe : SteerTarget :=
  .descriptor (peers.map (·.toOverride config.steerPath))

def evaluateQosRouting (accelerator : TargetAccelerator) (qos : TargetQos) :
    Option SteerTarget :=
  let load := fun snapshot : TelemetrySnapshot => snapshot.queueLoad accelerator qos
  let recovered := load node = 0 ∧ node.effectivePressure ≤ config.recoverLimit
  let ordered := qosOrderedCandidates load (load node) (healthyPeers config peers)
  match qos with
  | .realTime =>
      if recovered then some .itself
      else if ordered.isEmpty then
        if node.effectivePressure ≥ config.saturatedLimit then some .buffer else none
      else some (describe config ordered)
  | .batch =>
      if load node ≥ 1000 ∨ node.effectivePressure ≥ config.saturatedLimit then some .buffer
      else some .itself
  | .standard =>
      if recovered then some .itself
      else ordered.head?.map fun peer => describe config [peer]

/-- The evaluation without a QoS profile. -/
def evaluatePressure : Option SteerTarget :=
  let pressure := node.effectivePressure
  if pressure ≤ config.recoverLimit then some .itself
  else if pressure < config.softLimit then none
  else if (healthyPeers config peers).isEmpty then some .buffer
  else
    let ordered := orderedCandidates seed (healthyPeers config peers)
    ordered.head?.bind fun choice =>
      if choice.pressure ≥ pressure ∧ pressure < config.saturatedLimit then none
      else some (describe config ordered)

def evaluatePeers : Option SteerTarget :=
  match config.profile with
  | some (accelerator, qos) => evaluateQosRouting config node peers accelerator qos
  | none => evaluatePressure config node seed peers

end

def evaluateClusterPressure (peers : List Peer) : Except String (Option SteerTarget) :=
  (fetchPeerSnapshots peers).map (evaluatePeers config node seed)

/-- What an evaluation does to the override; one that fails keeps it. -/
def steering (peers : List Peer) : Option SteerTarget :=
  (evaluateClusterPressure config node seed peers).toOption.join

end

/-- The candidate that an answer of the peer makes it. -/
def Peer.candidate (peer : Peer) : Option PeerCandidate :=
  peer.response.toOption.bind (readSnapshot peer.baseUrl)

/-- An evaluation does what it would do without the peers that fail, and steers only to others
that are healthy. -/
structure Survives (peers : List Peer) : Prop where
  absent : ∀ config node seed, steering config node seed peers =
    steering config node seed (peers.filter (·.candidate.isSome))
  healthy : ∀ config node seed listed, steering config node seed peers = some (.descriptor listed) →
    ∀ candidate ∈ listed, ∃ peer ∈ peers, ∃ found ∈ peer.candidate,
      found.pressure < config.saturatedLimit ∧ candidate = found.toOverride config.steerPath
  buffered : ∀ config node seed, config.profile = none →
    config.recoverLimit < node.effectivePressure → config.softLimit ≤ node.effectivePressure →
    (∀ peer ∈ peers, peer.candidate = none) → steering config node seed peers = some .buffer
  recovered : ∀ config node seed, config.profile = none →
    node.effectivePressure ≤ config.recoverLimit → steering config node seed peers = some .itself

section
variable {config : SteeringConfig} {node : TelemetrySnapshot} {seed : Nat}
  {found : List PeerCandidate}

private theorem steering_eq (peers : List Peer) : steering config node seed peers =
    if peers.all (·.response.isOk) then
      evaluatePeers config node seed (peers.filterMap Peer.candidate) else none := by
  have fetched : (fetchPeerSnapshots peers).toOption =
      if peers.all (·.response.isOk) then some (peers.filterMap Peer.candidate) else none := by
    induction peers with
    | nil => rfl
    | cons peer rest ih =>
      obtain ⟨baseUrl, - | response⟩ := peer
      · rfl
      have next : (fetchPeerSnapshots (⟨baseUrl, .ok response⟩ :: rest)).toOption =
          (fetchPeerSnapshots rest).toOption.map ((readSnapshot baseUrl response).toList ++ ·) := by
        rw [fetchPeerSnapshots]
        cases fetchPeerSnapshots rest <;> rfl
      have read : Peer.candidate ⟨baseUrl, .ok response⟩ = readSnapshot baseUrl response := rfl
      rw [next, ih, filterMap_cons, read]
      cases readSnapshot baseUrl response <;> simp [Except.isOk, Except.toBool]
  have evaluated : steering config node seed peers =
      (fetchPeerSnapshots peers).toOption.bind (evaluatePeers config node seed) := by
    unfold steering evaluateClusterPressure
    cases fetchPeerSnapshots peers <;> rfl
  rw [evaluated, fetched]
  split <;> rfl

private theorem mem_orderedCandidates {peer : PeerCandidate}
    (listed : peer ∈ orderedCandidates seed found) :
    peer ∈ found := by
  rcases mem_append.mp listed with chosen | rest
  · simp only [powerOfTwoChoices, Option.mem_toList, Option.bind_eq_bind,
      Option.bind_eq_some_iff] at chosen
    obtain ⟨_, here, _, there, same⟩ := chosen
    cases same
    split
    · exact mem_of_getElem? here
    · exact mem_of_getElem? there
  · exact mem_of_mem_filter (mem_mergeSort.mp rest)

/-- Whatever is described are healthy peers. -/
theorem described_healthy {listed : List RouteOverrideCandidate}
    (steers : evaluatePeers config node seed found = some (.descriptor listed)) :
    ∃ chosen ⊆ healthyPeers config found, listed = chosen.map (·.toOverride config.steerPath) := by
  unfold evaluatePeers at steers
  split at steers
  · next accelerator qos _ =>
    have within : qosOrderedCandidates (·.queueLoad accelerator qos)
        (node.queueLoad accelerator qos) (healthyPeers config found) ⊆ healthyPeers config found :=
      fun peer member => mem_of_mem_filter (mem_mergeSort.mp member)
    unfold evaluateQosRouting at steers
    cases qos with
    | realTime =>
      dsimp only at steers
      split at steers
      · cases steers
      split at steers
      · split at steers <;> cases steers
      · cases steers
        exact ⟨_, within, rfl⟩
    | standard =>
      dsimp only at steers
      split at steers
      · cases steers
      obtain ⟨peer, first, described⟩ := Option.map_eq_some_iff.mp steers
      cases described
      exact ⟨[peer], by simpa using within (mem_of_mem_head? first), rfl⟩
    | batch =>
      dsimp only at steers
      split at steers <;> cases steers
  · unfold evaluatePressure at steers
    dsimp only at steers
    split at steers
    · cases steers
    obtain ⟨-, steers⟩ := Option.ite_none_left_eq_some.mp steers
    split at steers
    · cases steers
    obtain ⟨_, -, steers⟩ := Option.bind_eq_some_iff.mp steers
    obtain ⟨-, steers⟩ := Option.ite_none_left_eq_some.mp steers
    cases steers
    exact ⟨_, fun _ => mem_orderedCandidates, rfl⟩

end

/-- An evaluation survives failing peers exactly if no call to a peer ends with an error. -/
theorem steering_survives_iff (peers : List Peer) :
    Survives peers ↔ ∀ peer ∈ peers, peer.response.isOk := by
  rw [← all_eq_true]
  constructor
  · intro survives
    have recovers := survives.recovered {} {} 0 rfl (by decide)
    rw [steering_eq] at recovers
    exact (Option.ite_none_right_eq_some.mp recovers).1
  intro reached
  refine ⟨fun config node seed => ?_, ?_, ?_, ?_⟩
  · have others : (peers.filter (·.candidate.isSome)).all (·.response.isOk) :=
      all_eq_true.mpr fun peer member =>
        all_eq_true.mp reached peer (mem_of_mem_filter member)
    have same (peer : Peer) :
        (if peer.candidate.isSome then peer.candidate else none) = peer.candidate := by
      cases peer.candidate <;> rfl
    rw [steering_eq, steering_eq, if_pos reached, if_pos others, filterMap_filter]
    simp [same]
  · intro config node seed listed steers candidate member
    rw [steering_eq, if_pos reached] at steers
    obtain ⟨_, within, rfl⟩ := described_healthy steers
    obtain ⟨found, picked, rfl⟩ := mem_map.mp member
    obtain ⟨listed, healthy⟩ := mem_filter.mp (within picked)
    obtain ⟨peer, polled, made⟩ := mem_filterMap.mp listed
    exact ⟨peer, polled, found, made, of_decide_eq_true healthy, rfl⟩
  · intro config node seed plain above soft failing
    rw [steering_eq, if_pos reached, filterMap_eq_nil_iff.mpr failing]
    simp [evaluatePeers, plain, evaluatePressure, healthyPeers, Nat.not_le.mpr above,
      Nat.not_lt.mpr soft]
  · intro config node seed plain low
    rw [steering_eq, if_pos reached]
    simp [evaluatePeers, plain, evaluatePressure, low]

/-- One unreachable peer keeps a recovered node from dropping its override. -/
theorem unreachable_peer_blocks_recovery : ¬Survives [⟨"http://10.0.0.2", .error "refused"⟩] :=
  fun survives => nomatch survives.recovered {} {} 0 rfl (by decide)

end TachyonMesh.Dispatch
