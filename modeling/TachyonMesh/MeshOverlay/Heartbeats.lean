import Mathlib.Data.List.MinMax
import Mathlib.Data.Prod.Lex
import TachyonMesh.Foundation.Text

/-! # Heartbeats of the mesh overlay

A node reports its GPU load to its peers as one byte, and a peer in need takes the node that
reports the least. The load is a saturating sum of two `u32` queue loads, and the byte is its low
byte.
-/

namespace TachyonMesh.MeshOverlay
open Foundation

/-- The variables of the component's environment that are modelled. -/
structure Environment where
  nodeId : Option String := none
  publicBaseUrl : Option String := none
  overlaySharedSecret : Option String := none
  overlayPath : Option String := none
  configVersion : Option String := none
  manifestPath : Option String := none

def envOrDefault (value : Option String) (default : String) : String :=
  ((value.map trim).filter (· ≠ "")).getD default

/-- What the host's metrics say, as far as a heartbeat passes it on. -/
structure TelemetrySnapshot where
  gpuRtLoad : Nat
  gpuStandardLoad : Nat
  ramPressure : Nat
  activeInstances : Nat
  capabilities : List String := []
  hotInferenceComponents : List String := []
  advertiseIp : String := ""

/-- `gpu_rt_load.saturating_add(gpu_standard_load)`. -/
def TelemetrySnapshot.gpuLoad (snapshot : TelemetrySnapshot) : Nat :=
  saturatingAdd u32Max snapshot.gpuRtLoad snapshot.gpuStandardLoad

/-- What a node reports of its hardware. -/
structure Hardware where
  gpuPresent : Bool
  loadPercent : Nat
  pressurePercent : Nat

/-- A heartbeat of a node. -/
structure HardwareHeartbeat where
  nodeId : String
  status : String := "online"
  baseUrl : String
  hardware : Hardware
  activeFaasCount : Nat
  supportedComponents : List String
  secure : Bool

def localBaseUrl (environment : Environment) (advertiseIp : String) : String :=
  (environment.publicBaseUrl.filter (trim · ≠ "")).getD ("https://" ++ trim advertiseIp)

/-- The heartbeat of a node; the cast to `u8` keeps the low byte of the load. -/
def localHeartbeat (environment : Environment) (snapshot : TelemetrySnapshot) :
    HardwareHeartbeat where
  nodeId := envOrDefault environment.nodeId "local-node"
  baseUrl := localBaseUrl environment snapshot.advertiseIp
  hardware :=
    { gpuPresent := snapshot.capabilities.any (eqIgnoreAsciiCase · "gpu")
      loadPercent := snapshot.gpuLoad % 256
      pressurePercent := snapshot.ramPressure }
  activeFaasCount := snapshot.activeInstances
  supportedComponents := snapshot.hotInferenceComponents
  secure := environment.overlaySharedSecret.isSome

/-- A heartbeat shows a snapshot. Discovery replaces the address of a heartbeat and its `secure`
mark, and keeps the rest. -/
def HardwareHeartbeat.Shows (heartbeat : HardwareHeartbeat) (snapshot : TelemetrySnapshot) : Prop :=
  ∃ environment, heartbeat.hardware = (localHeartbeat environment snapshot).hardware ∧
    heartbeat.activeFaasCount = (localHeartbeat environment snapshot).activeFaasCount

/-- What a task needs of a peer. -/
structure PeerRequirements where
  gpuRequired : Bool := false
  supportedComponent : Option String := none

/-- The filters of `best_peer`. -/
def PeerRequirements.accepts (requirements : PeerRequirements) (peer : HardwareHeartbeat) : Bool :=
  peer.status == "online" && peer.secure &&
    (!requirements.gpuRequired || peer.hardware.gpuPresent) &&
    requirements.supportedComponent.all fun model =>
      peer.supportedComponents.any (eqIgnoreAsciiCase · model)

/-- The peers of an instance, in the order in which the map iterates over them. -/
structure RoutingTable where
  peers : List HardwareHeartbeat
  distinct : (peers.map (·.nodeId)).Nodup

namespace RoutingTable

def peer (table : RoutingTable) (peerId : String) : Option HardwareHeartbeat :=
  table.peers.find? (·.nodeId == peerId)

/-- The key `best_peer` compares peers by. -/
def rank (peer : HardwareHeartbeat) : Nat ×ₗ Nat ×ₗ Nat :=
  toLex (peer.hardware.loadPercent, toLex (peer.hardware.pressurePercent, peer.activeFaasCount))

def bestPeer (table : RoutingTable) (requirements : PeerRequirements) : Option HardwareHeartbeat :=
  (table.peers.filter requirements.accepts).argmin rank

end RoutingTable

/-- The reported load follows the load from `idle` to `busy`: it does not fall when the load
grows, and no table ranks the busier node first for having grown. -/
def Faithful (busy idle : TelemetrySnapshot) : Prop :=
  (idle.gpuLoad ≤ busy.gpuLoad → ∀ environment environment',
    (localHeartbeat environment' idle).hardware.loadPercent ≤
      (localHeartbeat environment busy).hardware.loadPercent) ∧
  ∀ (table : RoutingTable) (requirements : PeerRequirements) (best other : HardwareHeartbeat),
    best.Shows busy → other.Shows idle → table.bestPeer requirements = some best →
    other ∈ table.peers → requirements.accepts other →
    idle.ramPressure = busy.ramPressure → idle.activeInstances = busy.activeInstances →
    idle.gpuLoad < busy.gpuLoad → best.hardware.loadPercent = other.hardware.loadPercent

/-- The growth of the load carries nothing out of its low byte. -/
def NoCarry (busy idle : TelemetrySnapshot) : Prop :=
  idle.gpuLoad ≤ busy.gpuLoad → idle.gpuLoad % 256 + (busy.gpuLoad - idle.gpuLoad) % 256 < 256

/-- The reported load is faithful exactly when the growth stays within the low byte. -/
theorem heartbeat_load_faithful_iff (busy idle : TelemetrySnapshot) :
    Faithful busy idle ↔ NoCarry busy idle := by
  constructor
  · intro faithful grown
    have kept := faithful.1 grown {} {}
    simp only [localHeartbeat] at kept
    omega
  · intro noCarry
    have kept (grown : idle.gpuLoad ≤ busy.gpuLoad) : idle.gpuLoad % 256 ≤ busy.gpuLoad % 256 := by
      have := noCarry grown
      omega
    refine ⟨fun grown _ _ => kept grown, ?_⟩
    intro table requirements best other ⟨_, shown, count⟩ ⟨_, shown', count'⟩ found member eligible
      pressure instances smaller
    have least : RoutingTable.rank best ≤ RoutingTable.rank other :=
      List.le_of_mem_argmin (List.mem_filter.mpr ⟨member, eligible⟩) found
    simp only [RoutingTable.rank, shown, shown', count, count', localHeartbeat, pressure, instances,
      Prod.Lex.toLex_le_toLex] at least ⊢
    omega

/-- A node with load 256 reports 0 and is taken before one that reports its load of 255. -/
theorem heartbeat_load_wraps :
    ¬Faithful ⟨256, 0, 10, 1, [], [], ""⟩ ⟨255, 0, 10, 1, [], [], ""⟩ ∧
    ∃ table : RoutingTable, table.peers.map (·.hardware.loadPercent) = [255, 0] ∧
      table.peers = [localHeartbeat ⟨some "idle", none, some "key", none, none, none⟩
          ⟨255, 0, 10, 1, [], [], ""⟩,
        localHeartbeat ⟨some "busy", none, some "key", none, none, none⟩
          ⟨256, 0, 10, 1, [], [], ""⟩] ∧
      (table.bestPeer {}).map (·.nodeId) = some "busy" := by
  refine ⟨fun faithful => ?_, ⟨_, by decide⟩, rfl, rfl, by decide⟩
  exact absurd (faithful.1 (by decide) {} {}) (by decide)

end TachyonMesh.MeshOverlay
