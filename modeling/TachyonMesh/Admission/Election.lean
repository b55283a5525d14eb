import TachyonMesh.Foundation.Text

/-! # Leader election

Each node sorts the ids of the registry, drops repetitions and takes the one at the hash of the
resource's key. What is sorted this way depends on the set of ids alone.
-/

namespace TachyonMesh.Admission
open Foundation List

section
variable (hash : String → Nat) (nodeIds : List String) (resourceKey : String)

def leaderForIn : Option String :=
  if nodeIds.isEmpty then none
  else (sortDedup nodeIds)[hash resourceKey % (sortDedup nodeIds).length]?

def amILeaderIn (localNodeId : String) : Bool :=
  match leaderForIn hash nodeIds resourceKey with
  | some elected => elected = localNodeId
  -- A node alone at its start leads.
  | none => true

end

private theorem exists_leader (hash : String → Nat) (resourceKey : String) {nodeIds : List String}
    (registered : nodeIds ≠ []) :
    ∃ elected ∈ nodeIds, leaderForIn hash nodeIds resourceKey = some elected := by
  obtain ⟨id, listed⟩ := exists_mem_of_ne_nil nodeIds registered
  have index := Nat.mod_lt (hash resourceKey) (length_pos_of_mem (mem_sortDedup.mpr listed))
  refine ⟨_, mem_sortDedup.mp (getElem_mem index), ?_⟩
  rw [leaderForIn, if_neg (by simpa using registered), getElem?_eq_getElem index]

/-- Registries with the same ids elect the same one of them. A registry that is not empty has one
id that leads, and only its own ids can lead. -/
theorem leaders_agree (hash : String → Nat) (resourceKey : String) (nodeIds : List String) :
    (∀ others, (∀ id, id ∈ nodeIds ↔ id ∈ others) →
      leaderForIn hash nodeIds resourceKey = leaderForIn hash others resourceKey) ∧
    (leaderForIn hash nodeIds resourceKey = none ↔ nodeIds = []) ∧
    (∀ elected, leaderForIn hash nodeIds resourceKey = some elected → elected ∈ nodeIds) ∧
    (nodeIds ≠ [] → (∃! id, id ∈ nodeIds ∧ amILeaderIn hash nodeIds resourceKey id) ∧
      ∀ id ∉ nodeIds, amILeaderIn hash nodeIds resourceKey id = false) := by
  refine ⟨fun others same => ?_, ?_⟩
  · have empty : nodeIds.isEmpty = others.isEmpty := by
      rw [Bool.eq_iff_iff, List.isEmpty_iff, List.isEmpty_iff, List.eq_nil_iff_forall_not_mem,
        eq_nil_iff_forall_not_mem]
      simp [same]
    rw [leaderForIn, leaderForIn, sortDedup_congr same, empty]
  by_cases registered : nodeIds = []
  · simp [registered, leaderForIn]
  obtain ⟨leader, listed, elected⟩ := exists_leader hash resourceKey registered
  refine ⟨by simp [elected, registered], by simpa [elected] using listed, fun _ => ⟨?_, ?_⟩⟩
  · refine ⟨leader, ⟨listed, by simp [amILeaderIn, elected]⟩, ?_⟩
    rintro other ⟨-, leads⟩
    simpa [amILeaderIn, elected, eq_comm] using leads
  · intro id absent
    have other : leader ≠ id := fun same => absent (same ▸ listed)
    simpa [amILeaderIn, elected] using other

/-- Two nodes, one of them listed twice, agree. -/
theorem leaders_agree_twoNodes :
    leaderForIn String.length ["b", "a", "b"] "route:/x" =
        leaderForIn String.length ["a", "b"] "route:/x" ∧
      (∃! id, id ∈ ["b", "a", "b"] ∧
        amILeaderIn String.length ["b", "a", "b"] "route:/x" id) ∧
      amILeaderIn String.length ["b", "a", "b"] "route:/x" "c" = false := by
  obtain ⟨agree, -, -, leads⟩ := leaders_agree String.length "route:/x" ["b", "a", "b"]
  obtain ⟨unique, others⟩ := leads (by decide)
  exact ⟨agree ["a", "b"] (by simp [or_comm]), unique, others "c" (by decide)⟩

end TachyonMesh.Admission
