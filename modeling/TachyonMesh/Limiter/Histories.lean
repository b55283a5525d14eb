import TachyonMesh.Limiter.Counters

/-! # What the limiter's counters stand for

A replica stands for the set of the increments that it has heard of: an increment adds
one element, a merge is a union. The counters represent that set by its sizes
(`GCounterSet.Represents`): the maxima of a merge are the sizes of the union because the
increments of one node are heard of in their order, so that of two such sets one contains
the other (`History.nested`). That holds under a name as long as its count fits a `u64`;
that no count exceeds the number of increments (`GCounterSet.Within`) holds in any case.
-/

namespace TachyonMesh.Limiter
open Foundation Dictionary Finset

/-! ## The laws of merging -/

private theorem mergeNodes_neutral (nodes : Dictionary String Nat) :
    GCounterSet.mergeNodes .empty nodes = nodes :=
  empty_absorb Nat.zero_max nodes

instance : Std.Commutative GCounterSet.mergeNodes :=
  ⟨absorb_comm Nat.zero_max⟩

instance : Std.Associative GCounterSet.mergeNodes :=
  ⟨absorb_assoc Nat.zero_max⟩

instance : Std.IdempotentOp GCounterSet.mergeNodes :=
  ⟨absorb_self Nat.zero_max⟩

namespace GCounterSet

theorem merge_comm (first second : GCounterSet) : first.merge second = second.merge first :=
  congrArg GCounterSet.mk (absorb_comm mergeNodes_neutral _ _)

theorem merge_assoc (first second third : GCounterSet) :
    (first.merge second).merge third = first.merge (second.merge third) :=
  congrArg GCounterSet.mk (absorb_assoc mergeNodes_neutral _ _ _)

theorem merge_self (set : GCounterSet) : set.merge set = set :=
  congrArg GCounterSet.mk (absorb_self mergeNodes_neutral _)

/-! ## What an operation does to the counts -/

def count (set : GCounterSet) (name node : String) : Nat :=
  ((set.nodeCounts name).find node).getD 0

section
variable (set : GCounterSet) (key : String) (window : Nat)
include set key window

theorem nodeCounts_increment (nodeId name : String) :
    (set.increment key window nodeId).1.nodeCounts name =
      if name = counterName key window then
        (set.nodeCounts name).insert nodeId ((set.count name nodeId + 1) % 2 ^ 64)
      else set.nodeCounts name := by
  unfold increment nodeCounts
  rw [find_insert]
  by_cases same : name = counterName key window
  · rw [if_pos same, if_pos same, same]
    rfl
  · rw [if_neg same, if_neg same]

private theorem count_increment (nodeId name node : String) :
    (set.increment key window nodeId).1.count name node =
      if name = counterName key window ∧ node = nodeId then (set.count name node + 1) % 2 ^ 64
      else set.count name node := by
  rw [count, nodeCounts_increment]
  split
  · next sameName =>
    rw [find_insert]
    split
    · next sameNode =>
      rw [if_pos ⟨sameName, sameNode⟩, sameNode]
      rfl
    · next sameNode =>
      rw [if_neg fun both => sameNode both.2]
      rfl
  · next sameName =>
    rw [if_neg fun both => sameName both.1]
    rfl

end

private theorem nodeCounts_merge (set remote : GCounterSet) (name : String) :
    (set.merge remote).nodeCounts name = mergeNodes (set.nodeCounts name)
      (remote.nodeCounts name) := by
  unfold merge nodeCounts
  rw [find_absorb mergeNodes_neutral]
  cases set.counters.find name with
  | none =>
    cases remote.counters.find name with
    | none => exact (mergeNodes_neutral _).symm
    | some nodes => exact (mergeNodes_neutral nodes).symm
  | some localNodes =>
    cases remote.counters.find name with
    | none =>
      exact ((absorb_comm Nat.zero_max localNodes .empty).trans
        (mergeNodes_neutral localNodes)).symm
    | some => rfl

private theorem count_merge (set remote : GCounterSet) (name node : String) :
    (set.merge remote).count name node = max (set.count name node) (remote.count name node) := by
  unfold count
  rw [nodeCounts_merge, mergeNodes, find_absorb Nat.zero_max]
  cases (set.nodeCounts name).find node <;> cases (remote.nodeCounts name).find node <;>
    simp [Option.merge]

end GCounterSet

/-! ## Names -/

/-- A window is printed without a colon, so the last colon of a name ends the key. -/
theorem counterName_injective : Function.Injective2 counterName := by
  intro key other window others same
  have digits (number : Nat) : ':' ∉ (toString number).toList :=
    fun member => absurd (isDigit_repr member) (by decide)
  have lists : key.toList ++ ':' :: (toString window).toList =
      other.toList ++ ':' :: (toString others).toList := by
    simpa [counterName] using congrArg String.toList same
  obtain ⟨sameKey, sameWindow⟩ := append_cons_inj_of_last (digits window) (digits others) lists
  exact ⟨String.toList_inj.mp sameKey, toString_nat_injective (String.toList_inj.mp sameWindow)⟩

/-! ## Histories -/

/-- One increment: who made it, its place in the order of all increments, and what it counts. -/
structure Increment (ι : Type*) where
  origin : ι
  number : Nat
  key : String
  window : Nat
deriving DecidableEq

variable {ι : Type*}

def Increment.name (increment : Increment ι) : String :=
  counterName increment.key increment.window

def under (name : String) (increments : Finset (Increment ι)) : Finset (Increment ι) :=
  increments.filter (·.name = name)

theorem under_insert [DecidableEq ι] (name : String) (new : Increment ι)
    (increments : Finset (Increment ι)) :
    under name (insert new increments) =
      if new.name = name then insert new (under name increments) else under name increments :=
  filter_insert _ _ _

theorem under_subset (name : String) {few many : Finset (Increment ι)} (contained : few ⊆ many) :
    under name few ⊆ under name many :=
  filter_subset_filter _ contained

/-- A replica that has heard of an increment has heard of the earlier ones of the same origin. -/
structure History (performed known : Finset (Increment ι)) : Prop where
  within : known ⊆ performed
  ordered : ∀ increment ∈ known, ∀ earlier ∈ performed, earlier.origin = increment.origin →
    earlier.number ≤ increment.number → earlier ∈ known

namespace History
variable {performed known others : Finset (Increment ι)}

section
variable (history : History performed known) (other : History performed others)
include history other

theorem union [DecidableEq ι] : History performed (known ∪ others) where
  within := union_subset history.within other.within
  ordered increment heard earlier made same before := by
    obtain heard | heard := mem_union.mp heard
    · exact mem_union_left _ (history.ordered increment heard earlier made same before)
    · exact mem_union_right _ (other.ordered increment heard earlier made same before)

/-- Of what two replicas have heard of one origin, one part contains the other. -/
theorem nested (selects : Increment ι → Prop) [DecidablePred selects]
    (single : ∀ first second, selects first → selects second → first.origin = second.origin) :
    known.filter selects ⊆ others.filter selects ∨
      others.filter selects ⊆ known.filter selects := by
  by_contra neither
  rw [not_or, not_subset, not_subset] at neither
  obtain ⟨⟨first, heard, missed⟩, second, heardToo, missedToo⟩ := neither
  obtain ⟨heard, selected⟩ := mem_filter.mp heard
  obtain ⟨heardToo, selectedToo⟩ := mem_filter.mp heardToo
  have same := single first second selected selectedToo
  obtain before | after := le_total first.number second.number
  · exact missed (mem_filter.mpr
      ⟨other.ordered second heardToo first (history.within heard) same before, selected⟩)
  · exact missedToo (mem_filter.mpr
      ⟨history.ordered first heard second (other.within heardToo) same.symm after, selectedToo⟩)

end

variable {new : Increment ι} [DecidableEq ι] (history : History performed known)
  (last : ∀ increment ∈ performed, increment.number < new.number)
include history last

/-- A new increment comes after what a replica has heard of. -/
theorem later : History (insert new performed) known where
  within := history.within.trans (subset_insert _ _)
  ordered increment heard earlier made same before := by
    obtain rfl | made := mem_insert.mp made
    · exact absurd before (last increment (history.within heard)).not_ge
    · exact history.ordered increment heard earlier made same before

/-- The origin of a new increment has heard of all its own. -/
theorem own
    (complete : ∀ increment ∈ performed, increment.origin = new.origin → increment ∈ known) :
    History (insert new performed) (insert new known) where
  within := insert_subset_insert _ history.within
  ordered increment heard earlier made same before := by
    obtain rfl | old := mem_insert.mp made
    · exact mem_insert_self _ _
    apply mem_insert_of_mem
    obtain rfl | heard := mem_insert.mp heard
    · exact complete earlier old same
    · exact history.ordered increment heard earlier old same before

end History

/-! ## Counters stand for histories -/

namespace GCounterSet
variable {nodeId : ι → String} {set remote : GCounterSet}
  {performed known others : Finset (Increment ι)} {new : Increment ι} {name : String}

/-- Under a name, the count of every node is the number of its increments. -/
def Represents (nodeId : ι → String) (set : GCounterSet) (known : Finset (Increment ι))
    (name : String) : Prop :=
  ∀ node, set.count name node = ((under name known).filter (nodeId ·.origin = node)).card

theorem Represents.total {key : String} {window : Nat}
    (represents : set.Represents nodeId known (counterName key window)) :
    set.total key window = (under (counterName key window) known).card % 2 ^ 64 :=
  congrArg (· % 2 ^ 64) (total_eq_card represents)

theorem Represents.increment [DecidableEq ι] (represents : set.Represents nodeId known name)
    (new : Increment ι) (fresh : new ∉ known)
    (fits : (under name (insert new known)).card < 2 ^ 64) :
    (set.increment new.key new.window (nodeId new.origin)).1.Represents nodeId
      (insert new known) name := by
  intro node
  rw [count_increment, under_insert]
  by_cases sameName : new.name = name
  · rw [under_insert, if_pos sameName] at fits
    rw [if_pos sameName, filter_insert, represents node]
    by_cases sameNode : nodeId new.origin = node
    · have absent : new ∉ (under name known).filter (nodeId ·.origin = node) :=
        fun member => fresh (mem_filter.mp (mem_filter.mp member).1).1
      have missing : new ∉ under name known := fun member => fresh (mem_filter.mp member).1
      have smaller : ((under name known).filter (nodeId ·.origin = node)).card ≤
          (under name known).card := card_filter_le _ _
      rw [card_insert_of_notMem missing] at fits
      rw [if_pos ⟨sameName.symm, sameNode.symm⟩, if_pos sameNode, card_insert_of_notMem absent]
      exact Nat.mod_eq_of_lt (by omega)
    · rw [if_neg fun both => sameNode both.2.symm, if_neg sameNode]
  · rw [if_neg fun both => sameName both.1.symm, if_neg sameName, represents node]

private theorem card_union_of_nested [DecidableEq ι] {few many : Finset (Increment ι)}
    (nested : few ⊆ many ∨ many ⊆ few) :
    (few ∪ many).card = max few.card many.card := by
  obtain contained | contained := nested
  · rw [union_eq_right.mpr contained, max_eq_right (card_le_card contained)]
  · rw [union_eq_left.mpr contained, max_eq_left (card_le_card contained)]

theorem Represents.merge [DecidableEq ι] (distinct : Function.Injective nodeId)
    (represents : set.Represents nodeId known name) (stands : remote.Represents nodeId others name)
    (history : History performed known) (other : History performed others) :
    (set.merge remote).Represents nodeId (known ∪ others) name := by
  intro node
  have nested := history.nested other
    (fun increment => increment.name = name ∧ nodeId increment.origin = node)
    (fun _ _ chosen chosenToo => distinct (chosen.2.trans chosenToo.2.symm))
  have maxima := card_union_of_nested nested
  rw [count_merge, represents node, stands node]
  simp only [under, filter_union, filter_filter]
  exact maxima.symm

/-- The count of no node exceeds the number of its increments, wrapped or not. -/
def Within (nodeId : ι → String) (set : GCounterSet) (performed : Finset (Increment ι)) : Prop :=
  ∀ name node, set.count name node ≤ ((under name performed).filter (nodeId ·.origin = node)).card

variable (within : set.Within nodeId performed)
include within

theorem Within.total (key : String) (window : Nat) :
    set.total key window ≤ (under (counterName key window) performed).card :=
  (Nat.mod_le _ _).trans (total_le_card (within _))

theorem Within.later [DecidableEq ι] : set.Within nodeId (insert new performed) := fun name node =>
  (within name node).trans (card_le_card
    (filter_subset_filter _ (under_subset name (subset_insert _ _))))

theorem Within.increment [DecidableEq ι] (new : Increment ι) (fresh : new ∉ performed) :
    (set.increment new.key new.window (nodeId new.origin)).1.Within nodeId
      (insert new performed) := by
  intro name node
  rw [count_increment]
  split
  · next both =>
    have absent : new ∉ (under name performed).filter (nodeId ·.origin = node) :=
      fun member => fresh (mem_filter.mp (mem_filter.mp member).1).1
    have sameName : new.name = name := both.1.symm
    rw [under_insert, if_pos sameName, filter_insert, if_pos both.2.symm,
      card_insert_of_notMem absent]
    exact (Nat.mod_le _ _).trans (Nat.succ_le_succ (within name node))
  · exact within.later name node

theorem Within.merge (other : remote.Within nodeId performed) :
    (set.merge remote).Within nodeId performed := by
  intro name node
  rw [count_merge]
  exact max_le (within name node) (other name node)

end GCounterSet

end TachyonMesh.Limiter
