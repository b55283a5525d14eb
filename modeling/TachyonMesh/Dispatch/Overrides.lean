import Mathlib.Data.List.MinMax
import Mathlib.Data.List.Permutation
import TachyonMesh.Dispatch.Execution
import TachyonMesh.Foundation.Dictionary

/-! # Route overrides

A control-plane component installs an override for a route: a destination, or a descriptor with
candidate peers and what they advertise. The overrides are one map, which an update replaces by a
changed copy. Beside it the host keeps what each peer has advertised last.
-/

namespace TachyonMesh.Dispatch
open Foundation Option

/-! ## Updates -/

def meshQosOverride : String := "mesh-qos:"

def normalizeRouteOverrideKey (routeKey : String) : String :=
  match stripPrefix meshQosOverride routeKey with
  | some routePath => meshQosOverride ++ normalizeRoutePath routePath
  | none => normalizeRoutePath routeKey

def routePathForOverrideKey (routeKey : String) : String :=
  normalizeRoutePath ((stripPrefix meshQosOverride routeKey).getD routeKey)

/-- A peer that may take a route. -/
structure RouteOverrideCandidate where
  destination : String
  hotInferenceComponents : List String := []
  effectivePressure : Nat := 0
  capabilityMask : Nat := 0
  capabilities : List String := []

/-- `required_capability_mask_for_candidate`. -/
def RouteOverrideCandidate.declaredMask (candidate : RouteOverrideCandidate) : Nat :=
  if candidate.capabilityMask ≠ 0 then candidate.capabilityMask
  else (requirementMask candidate.capabilities).toOption.getD 0

/-- What is known of a peer. -/
structure CachedPeerCapabilities where
  capabilityMask : Nat
  effectivePressure : Nat

/-- The outside libraries: the JSON reader of descriptors, and the scheme, host and port that the
URL parser finds in a destination (`peer_base_url_for_destination`). -/
structure OverrideCodec where
  parseDescriptor : String → Option (List RouteOverrideCandidate)
  peerBaseUrl : String → Option String

/-- The overrides and what is known of the peers. -/
structure ControlPlane where
  overrides : Dictionary String String := .empty
  peerCapabilities : Dictionary String CachedPeerCapabilities := .empty

def directDestination (destination : String) : Bool :=
  startsWith destination "/" || startsWith destination "http://" ||
    startsWith destination "https://"

section
variable (codec : OverrideCodec)

/-- The checks of an update, with the candidates whose capabilities are to be cached. -/
def checkOverride (destination : String) : Except String (List RouteOverrideCandidate) :=
  let destination := trim destination
  if destination = "" then .error "route override destinations must not be empty"
  else if directDestination destination then .ok []
  else match codec.parseDescriptor destination with
    | none => .error ("route override `" ++ destination ++
        "` must be an absolute route, URL, or serialized candidate descriptor")
    | some candidates =>
        if candidates.isEmpty then
          .error "route override descriptors must include at least one candidate"
        else match candidates.find? fun candidate =>
            !directDestination (trim candidate.destination) with
          | some candidate => .error ("route override candidate `" ++ trim candidate.destination ++
              "` must be an absolute route or URL")
          | none => .ok candidates

def cachePeer (peers : Dictionary String CachedPeerCapabilities)
    (candidate : RouteOverrideCandidate) : Dictionary String CachedPeerCapabilities :=
  match codec.peerBaseUrl candidate.destination with
  | none => peers
  | some baseUrl =>
      if candidate.declaredMask = 0 then peers
      else peers.insert baseUrl ⟨candidate.declaredMask, candidate.effectivePressure⟩

/-- The map that an update stores in the place of the one it has loaded. -/
def changeOverride (routePath destination : String) (loaded : Dictionary String String) :
    Dictionary String String :=
  let key := normalizeRouteOverrideKey routePath
  if trim destination = key then loaded.erase key else loaded.insert key (trim destination)

def updateControlPlaneRouteOverride (state : ControlPlane) (routePath destination : String) :
    Except String ControlPlane :=
  (checkOverride codec destination).map fun candidates =>
    { overrides := changeOverride routePath destination state.overrides
      peerCapabilities := candidates.foldl (cachePeer codec) state.peerCapabilities }

/-! ## Overlapping updates -/

/-- A call that sets an override. -/
structure OverrideCall where
  routePath : String
  destination : String

/-- The map and the calls under way. -/
structure OverrideState where
  overrides : Dictionary String String
  /-- The calls that have loaded the map and not stored yet, each with the map it has loaded. -/
  underway : List (OverrideCall × Dictionary String String) := []
  /-- The calls that have returned `Ok`. -/
  returned : List OverrideCall := []

/-- A call loads the map, or stores it. -/
inductive OverrideEvent where
  | load (call : OverrideCall)
  | store (index : Nat)

def overrideMachine : Machine OverrideState OverrideEvent where
  step state
    | .load call => (checkOverride codec call.destination).toOption.map fun _ =>
        { state with underway := state.underway ++ [(call, state.overrides)] }
    | .store index => state.underway[index]?.map fun (call, loaded) =>
        { overrides := changeOverride call.routePath call.destination loaded
          underway := state.underway.eraseIdx index
          returned := state.returned ++ [call] }

end

/-- The map after the calls one after the other. -/
def replayOverrides (start : Dictionary String String) (calls : List OverrideCall) :
    Dictionary String String :=
  calls.foldl (fun map call => changeOverride call.routePath call.destination map) start

namespace OverrideState

/-- The map is that of the returned calls made in some order. -/
def Reflected (start : Dictionary String String) (state : OverrideState) : Prop :=
  ∃ order : List OverrideCall, order.Perm state.returned ∧
    state.overrides = replayOverrides start order

/-- A call stores while the map is the one it has loaded. -/
def Undisturbed (state : OverrideState) : OverrideEvent → Prop
  | .load _ => True
  | .store index => ∀ call ∈ state.underway[index]?, call.2 = state.overrides

instance (state : OverrideState) (event : OverrideEvent) : Decidable (state.Undisturbed event) := by
  unfold Undisturbed
  split <;> infer_instance

variable {codec : OverrideCodec} {start : Dictionary String String} {state next : OverrideState}

private theorem Reflected.step {event : OverrideEvent} (reflected : state.Reflected start)
    (undisturbed : state.Undisturbed event)
    (stepped : (overrideMachine codec).step state event = some next) : next.Reflected start := by
  obtain ⟨order, perm, replayed⟩ := reflected
  cases event with
  | load =>
    obtain ⟨-, -, rfl⟩ := map_eq_some_iff.mp stepped
    exact ⟨order, perm, replayed⟩
  | store =>
    obtain ⟨⟨call, loaded⟩, found, rfl⟩ := map_eq_some_iff.mp stepped
    obtain rfl : loaded = state.overrides := undisturbed _ found
    exact ⟨order ++ [call], perm.append_right [call], by simp [replayOverrides, replayed]⟩

/-- **No override update is lost** in a run in which no other call stores between the load and
the store of a call. -/
theorem overrides_reflected {events : List OverrideEvent} {final : OverrideState}
    (undisturbed : (overrideMachine codec).Along Undisturbed { overrides := start } events)
    (reached : (overrideMachine codec).run { overrides := start } events = some final) :
    final.Reflected start :=
  Machine.invariant_run Reflected.step ⟨[], .refl _, rfl⟩ undisturbed reached

def toBuffer (routePath : String) : OverrideCall := ⟨routePath, "/system/buffer"⟩

/-- Libraries that read nothing. -/
def noCodec : OverrideCodec := ⟨fun _ => none, fun _ => none⟩

def inTurn : List OverrideEvent :=
  [.load (toBuffer "/a"), .store 0, .load (toBuffer "/b"), .store 0]

/-- Calls one after the other are all kept. -/
theorem overrides_reflected_in_turn : ∃ final,
    (overrideMachine noCodec).run { overrides := .empty } inTurn = some final ∧
    final.Reflected .empty :=
  ⟨_, rfl, @overrides_reflected noCodec .empty inTurn _ (by decide +kernel) rfl⟩

/-- Two updates load the empty map, and the override that is stored first is gone. -/
theorem override_lost : ∃ final,
    (overrideMachine noCodec).run { overrides := .empty }
      [.load (toBuffer "/a"), .load (toBuffer "/b"), .store 0, .store 0] = some final ∧
    ¬final.Reflected .empty := by
  refine ⟨_, rfl, ?_⟩
  rintro ⟨order, perm, replayed⟩
  have orders : ∀ order ∈ [toBuffer "/a", toBuffer "/b"].permutations',
      (replayOverrides .empty order).find "/a" = some "/system/buffer" := by decide +kernel
  have kept := orders order (List.mem_permutations'.mpr perm)
  rw [← replayed] at kept
  revert kept
  decide +kernel

end OverrideState

/-! ## Capable peers -/

section
variable (codec : OverrideCodec) (state : ControlPlane)

def supportsMask (advertised required : Nat) : Bool := advertised &&& required == required

def destinationSupportsCapabilities (destination : String) (required : Nat) : Bool :=
  required == 0 || required == coreWasi ||
    ((codec.peerBaseUrl destination).bind state.peerCapabilities.find).any fun peer =>
      supportsMask peer.capabilityMask required

def candidateSupportsCapabilities (candidate : RouteOverrideCandidate) (required : Nat) : Bool :=
  if required == 0 || required == coreWasi then true
  else if candidate.declaredMask ≠ 0 then supportsMask candidate.declaredMask required
  else destinationSupportsCapabilities codec state candidate.destination required

def RouteOverrideCandidate.supportsModel (candidate : RouteOverrideCandidate)
    (requestedModel : Option String) : Bool :=
  requestedModel.all fun model => candidate.hotInferenceComponents.any (eqIgnoreAsciiCase · model)

variable (peers : List (String × CachedPeerCapabilities)) (routePath : String) (required : Nat)

/-- `peers` are the entries of the cache in the order in which the map iterates over them. -/
def cachedCapablePeerDestination : Option String :=
  ((peers.filter fun peer => supportsMask peer.2.capabilityMask required).argmin
    fun peer => peer.2.effectivePressure).map fun peer =>
      peer.1 ++ routePathForOverrideKey routePath

/-- What the overrides and the peers' capabilities give for a route, which is the answer of
`controlPlaneOverrideDestination` to a request that is not a replay. -/
def ControlPlane.answer (requestedModel : Option String) : Option String :=
  (state.overrides.find (normalizeRouteOverrideKey routePath)).bind fun raw =>
    match codec.parseDescriptor raw with
    | some candidates => (candidates.find? fun candidate =>
        candidateSupportsCapabilities codec state candidate required &&
          candidate.supportsModel requestedModel).map (·.destination)
    | none =>
        if destinationSupportsCapabilities codec state raw required then some raw
        else cachedCapablePeerDestination peers routePath required

end

/-- The host after updates, the last one listed first. -/
def controlPlaneAfter (codec : OverrideCodec) : List OverrideCall → ControlPlane
  | [] => {}
  | call :: earlier =>
      let state := controlPlaneAfter codec earlier
      (updateControlPlaneRouteOverride codec state call.routePath call.destination).toOption.getD
        state

/-- The last candidate of an accepted descriptor that named the peer with a mask. -/
def lastAdvertised (codec : OverrideCodec) (calls : List OverrideCall) (peer : String) :
    Option RouteOverrideCandidate :=
  (calls.flatMap fun call =>
    ((checkOverride codec call.destination).toOption.getD []).reverse).find? fun candidate =>
      codec.peerBaseUrl candidate.destination = some peer ∧ candidate.declaredMask ≠ 0

/-- The peer of the destination was advertised last with a mask that contains the required one. -/
def PeerAdvertised (codec : OverrideCodec) (calls : List OverrideCall) (required : Nat)
    (destination : String) : Prop :=
  ∃ peer, codec.peerBaseUrl destination = some peer ∧
    ∃ candidate, lastAdvertised codec calls peer = some candidate ∧
      supportsMask candidate.declaredMask required

variable {codec : OverrideCodec} {calls : List OverrideCall} {peer : String}

private theorem find_cachePeer (candidates : List RouteOverrideCandidate)
    (peers : Dictionary String CachedPeerCapabilities) :
    (candidates.foldl (cachePeer codec) peers).find peer =
      ((candidates.reverse.find? fun candidate =>
        codec.peerBaseUrl candidate.destination = some peer ∧ candidate.declaredMask ≠ 0).map
          fun candidate => ⟨candidate.declaredMask, candidate.effectivePressure⟩).or
        (peers.find peer) := by
  induction candidates generalizing peers with
  | nil => rfl
  | cons candidate rest ih =>
    rw [List.foldl_cons, ih, List.reverse_cons, List.find?_append, cachePeer]
    cases rest.reverse.find? fun candidate =>
        codec.peerBaseUrl candidate.destination = some peer ∧ candidate.declaredMask ≠ 0 with
    | some => simp
    | none =>
      cases base : codec.peerBaseUrl candidate.destination with
      | none => simp [base]
      | some found =>
        by_cases unset : candidate.declaredMask = 0
        · simp [unset]
        · by_cases same : peer = found
          · subst same
            simp [base, unset, Dictionary.find_insert]
          · simp [base, unset, same, Ne.symm same, Dictionary.find_insert]

private theorem find_peerCapabilities (calls : List OverrideCall) :
    (controlPlaneAfter codec calls).peerCapabilities.find peer =
      (lastAdvertised codec calls peer).map fun candidate =>
        ⟨candidate.declaredMask, candidate.effectivePressure⟩ := by
  induction calls with
  | nil => rfl
  | cons call _ ih =>
    rw [controlPlaneAfter, lastAdvertised, List.flatMap_cons, List.find?_append,
      updateControlPlaneRouteOverride]
    cases checkOverride codec call.destination with
    | error => simpa [Except.map, Except.toOption, lastAdvertised] using ih
    | ok =>
      simp [Except.map, Except.toOption, find_cachePeer, ih, lastAdvertised, map_or]

/-- A candidate has a mask of its own that contains the required one, or none and its peer was
advertised with such a mask last. -/
def Capable (codec : OverrideCodec) (calls : List OverrideCall) (required : Nat)
    (candidate : RouteOverrideCandidate) : Prop :=
  if candidate.declaredMask ≠ 0 then supportsMask candidate.declaredMask required = true
  else PeerAdvertised codec calls required candidate.destination

section
variable {required : Nat} (asks : required ≠ 0) (beyond : required ≠ coreWasi)
include asks beyond

private theorem destinationSupports_iff {destination : String} :
    destinationSupportsCapabilities codec (controlPlaneAfter codec calls) destination required =
      true ↔ PeerAdvertised codec calls required destination := by
  simp only [destinationSupportsCapabilities, PeerAdvertised, beq_iff_eq, asks, beyond,
    Bool.or_eq_true, false_or, Option.any_eq_true, bind_eq_some_iff,
    find_peerCapabilities, map_eq_some_iff]
  constructor
  · rintro ⟨_, ⟨peer, base, candidate, last, rfl⟩, supports⟩
    exact ⟨peer, base, candidate, last, supports⟩
  · rintro ⟨peer, base, candidate, last, supports⟩
    exact ⟨_, ⟨peer, base, candidate, last, rfl⟩, supports⟩

private theorem candidateSupports_iff {candidate : RouteOverrideCandidate} :
    candidateSupportsCapabilities codec (controlPlaneAfter codec calls) candidate required ↔
      Capable codec calls required candidate := by
  unfold candidateSupportsCapabilities Capable
  rw [if_neg (by simp [asks, beyond])]
  split
  · rfl
  · exact destinationSupports_iff asks beyond

end

theorem rdropWhile_cons (test : Char → Bool) (c : Char) (text : List Char) :
    (c :: text).rdropWhile test =
      if text.rdropWhile test = [] ∧ test c = true then [] else c :: text.rdropWhile test := by
  unfold List.rdropWhile
  rw [List.reverse_cons, List.dropWhile_append]
  by_cases rest : text.reverse.dropWhile test = []
  · cases passes : test c <;> simp [rest, passes]
  · simp [rest]

theorem trimEndMatches_ofList (text : List Char) :
    trimEndMatches '/' (String.ofList text) = String.ofList (text.rdropWhile (· == '/')) := by
  rw [trimEndMatches, String.toList_ofList, List.rdropWhile]

theorem startsWith_slash (text : String) :
    startsWith text "/" = decide (text.toList.head? = some '/') := by
  unfold startsWith
  cases text.toList with
  | nil => rfl
  | cons => simp [List.isPrefixOf, BEq.comm, beq_eq_decide]

private theorem head_normalizeRoutePath (path : String) :
    (normalizeRoutePath path).toList.head? = some '/' := by
  have rooted : ∃ rest, (if startsWith (trim path) "/" then trim path else "/" ++ trim path) =
      String.ofList ('/' :: rest) := by
    split
    · next slash =>
      rw [startsWith_slash, decide_eq_true_eq, List.head?_eq_some_iff] at slash
      obtain ⟨rest, spelled⟩ := slash
      exact ⟨rest, by rw [← spelled, String.ofList_toList]⟩
    · exact ⟨(trim path).toList, by rw [← String.toList_inj]; simp⟩
  obtain ⟨_, rooted⟩ := rooted
  rw [normalizeRoutePath, rooted, trimEndMatches_ofList, rdropWhile_cons]
  split <;> simp

/-- What is chosen for a route with the override: a capable candidate of the descriptor that has
the model hot, or a peer that was advertised with the required mask last. -/
def Chosen (codec : OverrideCodec) (calls : List OverrideCall) (required : Nat)
    (requestedModel : Option String) (raw destination : String) : Prop :=
  match codec.parseDescriptor raw with
  | some candidates => ∃ candidate ∈ candidates, candidate.destination = destination ∧
      Capable codec calls required candidate ∧ candidate.supportsModel requestedModel
  | none => PeerAdvertised codec calls required destination

/-- A destination has been chosen among capable peers, and a request that is not a replay goes to
the first candidate of a descriptor that is capable and has the model hot. -/
theorem overflow_to_capable_peers (rooted : ∀ text base path, codec.peerBaseUrl text = some base →
      path.toList.head? = some '/' → codec.peerBaseUrl (base ++ path) = some base)
    {required : Nat} (asks : required ≠ 0) (beyond : required ≠ coreWasi)
    {peers : List (String × CachedPeerCapabilities)}
    (iterates : peers.Perm (controlPlaneAfter codec calls).peerCapabilities.entries)
    (routePath : String) (headers : HeaderMap) (requestedModel : Option String) :
    let state := controlPlaneAfter codec calls
    let override := state.overrides.find (normalizeRouteOverrideKey routePath)
    let destination := controlPlaneOverrideDestination
      (state.answer codec peers routePath required requestedModel) headers
    (∀ chosen ∈ destination, ∃ raw ∈ override,
      Chosen codec calls required requestedModel raw chosen) ∧
    (headers.containsKey bufferReplayHeader = false →
      ∀ raw ∈ override, ∀ before candidate after,
        codec.parseDescriptor raw = some (before ++ candidate :: after) →
        (∀ other ∈ before, ¬(Capable codec calls required other ∧
          other.supportsModel requestedModel)) →
        Capable codec calls required candidate → candidate.supportsModel requestedModel →
        destination = some candidate.destination) := by
  dsimp only [controlPlaneOverrideDestination, ControlPlane.answer]
  refine ⟨?_, ?_⟩
  · intro chosen answered
    split at answered
    · cases answered
    obtain ⟨raw, installed, answered⟩ := bind_eq_some_iff.mp answered
    refine ⟨raw, installed, ?_⟩
    unfold Chosen
    split at answered
    · obtain ⟨candidate, found, rfl⟩ := map_eq_some_iff.mp answered
      have both := List.find?_some found
      rw [Bool.and_eq_true, candidateSupports_iff asks beyond] at both
      exact ⟨candidate, List.mem_of_find?_eq_some found, rfl, both⟩
    · split at answered
      · next supports =>
        cases answered
        exact (destinationSupports_iff asks beyond).mp supports
      · obtain ⟨⟨base, _⟩, least, rfl⟩ := map_eq_some_iff.mp answered
        obtain ⟨member, supports⟩ := List.mem_filter.mp (List.argmin_mem least)
        have found := Dictionary.find_eq_some.mpr (iterates.mem_iff.mp member)
        rw [find_peerCapabilities, map_eq_some_iff] at found
        obtain ⟨candidate, last, rfl⟩ := found
        have named := List.find?_some last
        simp only [decide_eq_true_eq] at named
        exact ⟨base, rooted _ _ _ named.1 (head_normalizeRoutePath _), candidate, last, supports⟩
  · intro fresh raw installed before candidate after parsed others capable hot
    have first : (before ++ candidate :: after).find? (fun candidate =>
        candidateSupportsCapabilities codec (controlPlaneAfter codec calls) candidate required &&
          candidate.supportsModel requestedModel) = some candidate := by
      refine List.find?_eq_some_iff_append.mpr ⟨?_, before, after, rfl, fun other earlier => ?_⟩
      · rw [Bool.and_eq_true, candidateSupports_iff asks beyond]
        exact ⟨capable, hot⟩
      · have neither := others other earlier
        rw [← candidateSupports_iff asks beyond, ← Bool.and_eq_true] at neither
        exact (Bool.not_eq_true' _).mpr (Bool.eq_false_iff.mpr neither)
    rw [mem_def.mp installed, fresh]
    simp [parsed, first]

/-- Two descriptors for the peer `http://a`: with a mask, and with a name that is none. -/
def twoDescriptors : OverrideCodec where
  parseDescriptor text :=
    if text = "[1]" then some [⟨"http://a/api", [], 0, 4, []⟩]
    else if text = "[2]" then some [⟨"http://a/api", [], 0, 0, ["accel:new"]⟩]
    else none
  peerBaseUrl text := if startsWith text "http://a" then some "http://a" else none

private theorem twoDescriptors_rooted (text base path : String)
    (found : twoDescriptors.peerBaseUrl text = some base) (_ : path.toList.head? = some '/') :
    twoDescriptors.peerBaseUrl (base ++ path) = some base := by
  obtain ⟨-, rfl⟩ := of_guard found
  simp [twoDescriptors, startsWith]

def described : List OverrideCall := [⟨"/api", "[1]"⟩]

def redescribed : List OverrideCall := ⟨"/api", "[2]"⟩ :: described

/-- A peer that described itself takes the overflow. -/
theorem overflow_to_described_peer :
    let state := controlPlaneAfter twoDescriptors described
    controlPlaneOverrideDestination (state.answer twoDescriptors state.peerCapabilities.entries
      "/api" 4 none) .empty = some "http://a/api" :=
  (overflow_to_capable_peers twoDescriptors_rooted (by decide) (by decide) (.refl _) "/api" .empty
    none).2 rfl "[1]" (by decide +kernel) [] _ [] rfl nofun
    (by simp [Capable, RouteOverrideCandidate.declaredMask, supportsMask]) rfl

/-- The descriptor that is installed does not say that the peer has the capability, an earlier one
does. And a replay is not sent to the first candidate. -/
theorem overflow_by_cached_mask :
    let state := controlPlaneAfter twoDescriptors redescribed
    (∃ candidates ∈ twoDescriptors.parseDescriptor "[2]",
      state.overrides.find "/api" = some "[2]" ∧ ∀ candidate ∈ candidates,
        supportsMask candidate.declaredMask 4 = false) ∧
    controlPlaneOverrideDestination (state.answer twoDescriptors state.peerCapabilities.entries
      "/api" 4 none) .empty = some "http://a/api" ∧
    controlPlaneOverrideDestination (state.answer twoDescriptors state.peerCapabilities.entries
      "/api" 4 none) (HeaderMap.empty.insert bufferReplayHeader "1") = none := by
  decide +kernel

end TachyonMesh.Dispatch
