import TachyonMesh.Foundation.Machine
import TachyonMesh.MeshOverlay.Heartbeats

/-! # Configuration pulls of the mesh overlay

A peer announces a new manifest version; the node pulls the manifest from that peer and writes it
over its own. Whether the version is new is decided by a variable of the process environment,
which no pull changes.
-/

namespace TachyonMesh.MeshOverlay
open Foundation

/-- The announcement of a configuration. -/
structure ConfigUpdateEvent where
  version : Nat
  originNodeId : String
  checksum : String

/-- One call of `/config/update` and what its instance meets: the peers it knows, the answer of
the origin and whether the manifest file can be written. -/
structure PullRequest (Manifest : Type) where
  auth : Option String
  update : Except String ConfigUpdateEvent
  table : RoutingTable
  remote : Except String (Nat × Manifest)
  written : Except String Unit := .ok ()

/-- An HTTP answer. -/
structure Response where
  status : Nat
  body : String := ""

section
variable {Manifest : Type} (environment : Environment) (sha256Hex : Manifest → String)

/-- `authorize_peer`. -/
def authorized (auth : Option String) : Bool :=
  environment.overlaySharedSecret.all (auth == some ·)

def localVersion : Nat := (environment.configVersion.bind parseU64).getD 0

def manifestUrl (peer : HardwareHeartbeat) : String :=
  String.ofList (peer.baseUrl.toList.rdropWhile (· == '/')) ++
    envOrDefault environment.overlayPath "/system/mesh-overlay" ++ "/config/manifest"

def expectedChecksum (checksum : String) : String :=
  if "sha256:".toList.isPrefixOf checksum.toList then String.ofList (checksum.toList.drop 7)
  else checksum

/-- The answer of `pull_config_update` and the manifest it writes. -/
def pullConfigUpdate (request : PullRequest Manifest) : Response × Option Manifest :=
  if !authorized environment request.auth then (⟨401, "unauthenticated mesh peer"⟩, none)
  else match request.update with
  | .error error => (⟨400, "invalid config update event: " ++ error⟩, none)
  | .ok event =>
    if event.version ≤ localVersion environment then (⟨204, ""⟩, none)
    else match request.table.peer event.originNodeId with
    | none => (⟨404, "origin peer `" ++ event.originNodeId ++ "` is unknown"⟩, none)
    | some peer => match request.remote with
      | .error error => (⟨502, "failed to pull manifest from `" ++ manifestUrl environment peer ++
          "`: " ++ error⟩, none)
      | .ok (status, body) =>
        let expected := expectedChecksum event.checksum
        if 400 ≤ status then
          (⟨status, "origin manifest provider returned " ++ toString status⟩, none)
        else if !eqIgnoreAsciiCase expected (sha256Hex body) then
          (⟨409, "manifest checksum mismatch: expected " ++ expected ++ ", got " ++
            sha256Hex body⟩, none)
        else match request.written with
          | .error error => (⟨500, "failed to persist pulled manifest `" ++
              envOrDefault environment.manifestPath "integrity.lock" ++ "`: " ++ error⟩, none)
          | .ok () => (⟨202, "manifest pulled"⟩, some body)

/-- The versions of the manifests written so far, the newest write first. -/
abbrev Written := List Nat

/-- Calls one after another, each in an instance of its own. -/
def pullMachine : Machine Written (PullRequest Manifest) where
  step written request := some <|
    match request.update, (pullConfigUpdate environment sha256Hex request).2 with
    | .ok event, some _ => event.version :: written
    | _, _ => written

/-- An announced version that is not above a written one is answered 204 and writes nothing. -/
def NoRollback (written : Written) (request : PullRequest Manifest) : Prop :=
  ∀ event ∈ request.update.toOption, ∀ version ∈ written, event.version ≤ version →
    (pullConfigUpdate environment sha256Hex request).1.status = 204 ∧
      (pullConfigUpdate environment sha256Hex request).2 = none

/-- An announced version is above every written one, or not above that of the environment. -/
def InOrder (written : Written) (request : PullRequest Manifest) : Prop :=
  ∀ event ∈ request.update.toOption,
    event.version ≤ localVersion environment ∨ ∀ version ∈ written, version < event.version
deriving Decidable

variable {environment sha256Hex} {request : PullRequest Manifest} {event : ConfigUpdateEvent}

/-- An authorized event is answered 204 exactly when the environment's version covers it. -/
theorem status_eq_204_iff (accepted : authorized environment request.auth)
    (update : request.update = .ok event) :
    (pullConfigUpdate environment sha256Hex request).1.status = 204 ↔
      event.version ≤ localVersion environment := by
  unfold pullConfigUpdate
  simp only [accepted, update, Bool.not_true, Bool.false_eq_true, if_false]
  repeat' split
  all_goals simp_all
  omega

private theorem writes_none (update : request.update = .ok event)
    (covered : event.version ≤ localVersion environment) :
    (pullConfigUpdate environment sha256Hex request).2 = none := by
  unfold pullConfigUpdate
  split
  · rfl
  · simp [update, covered]

private theorem noRollback_iff {written : Written}
    (accepted : authorized environment request.auth) :
    NoRollback environment sha256Hex written request ↔ InOrder environment written request := by
  refine forall₂_congr fun event _ => ?_
  have update : request.update = .ok event := by
    cases given : request.update <;> simp_all [Except.toOption]
  refine ⟨fun kept => ?_, fun inOrder version member stale => ?_⟩
  · by_contra! both
    obtain ⟨newer, version, member, stale⟩ := both
    exact newer.not_ge ((status_eq_204_iff accepted update).mp (kept version member stale).1)
  · have covered := inOrder.resolve_right fun above => (above version member).not_ge stale
    exact ⟨(status_eq_204_iff accepted update).mpr covered, writes_none update covered⟩

private theorem ascending_step :
    (pullMachine environment sha256Hex).Preserves (InOrder environment) (·.Pairwise (· > ·)) := by
  intro written request next ascending inOrder stepped
  simp only [pullMachine, Option.some.injEq] at stepped
  split at stepped
  next event _ update wrote =>
    subst stepped
    refine List.pairwise_cons.mpr ⟨fun version member => ?_, ascending⟩
    refine (inOrder event (by simp [update, Except.toOption])).resolve_left (fun covered => ?_)
      version member
    simp [writes_none update covered] at wrote
  next => exact stepped ▸ ascending

/-- Pulls never roll the manifest back exactly when the versions above that of the environment
come in ascending order; then the manifest file's version only grows. -/
theorem config_pulls_ordered_iff {requests : List (PullRequest Manifest)}
    (accepted : ∀ request ∈ requests, authorized environment request.auth) :
    ((pullMachine environment sha256Hex).Along (NoRollback environment sha256Hex) [] requests ↔
      (pullMachine environment sha256Hex).Along (InOrder environment) [] requests) ∧
    ((pullMachine environment sha256Hex).Along (InOrder environment) [] requests →
      ∀ written, (pullMachine environment sha256Hex).run [] requests = some written →
        written.Pairwise (· > ·)) := by
  refine ⟨?_, fun inOrder _ reached => Machine.invariant_run ascending_step .nil inOrder reached⟩
  generalize ([] : Written) = start
  induction requests generalizing start with
  | nil => rfl
  | cons _ _ ih =>
    simp only [List.forall_mem_cons] at accepted
    exact and_congr (noRollback_iff accepted.1) (forall₂_congr fun next _ => ih accepted.2 next)

end

/-- A call of peer `b` that announces a version and serves a manifest with the right checksum. -/
def announce (version : Nat) : PullRequest String where
  auth := none
  update := .ok ⟨version, "b", "sha256:m"⟩
  table := ⟨[localHeartbeat ⟨some "b", none, none, none, none, none⟩ ⟨0, 0, 0, 0, [], [], ""⟩],
    by decide⟩
  remote := .ok (200, "m")

/-- Announcements in ascending order are followed. -/
theorem config_pulls_ordered_ascending :
    (∀ request ∈ [announce 5, announce 7], authorized {} request.auth) ∧
    (pullMachine {} id).run [] [announce 5, announce 7] = some [7, 5] ∧
    (pullMachine {} id).Along (NoRollback {} id) [] [announce 5, announce 7] :=
  ⟨by decide, by decide +kernel, (config_pulls_ordered_iff (by decide)).1.mpr (by decide +kernel)⟩

/-- With the variable left unset, version 5 is written over version 7. -/
theorem config_rolled_back :
    (pullMachine {} id).run [] [announce 7, announce 5] = some [5, 7] ∧
    ¬(pullMachine {} id).Along (NoRollback {} id) [] [announce 7, announce 5] := by
  refine ⟨by decide +kernel, fun kept => ?_⟩
  have answered := (kept.2 [7] (by decide +kernel)).1 _ rfl 7 (by decide) (by decide)
  exact absurd answered.1 (by decide +kernel)

end TachyonMesh.MeshOverlay
