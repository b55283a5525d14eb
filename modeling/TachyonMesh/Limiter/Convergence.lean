import TachyonMesh.Limiter.Histories

/-! # Replicas of the limiter's counters converge

Any number of replicas increment their own counts, publish their states and merge
published states of others, in any order, as often and as late as they come. Beside its
counters every replica, and every published state, carries the set of the increments it
has heard of; the counters never read it.
-/

namespace TachyonMesh.Limiter
open Foundation List Function GCounterSet Machine

/-- Counters with the increments that they have heard of. -/
structure Replica (ι : Type*) where
  counters : GCounterSet
  known : Finset (Increment ι)

/-- A count that a replica has reported. -/
structure Report (ι : Type*) where
  replica : ι
  key : String
  window : Nat
  total : Nat

def Report.name {ι : Type*} (report : Report ι) : String := counterName report.key report.window

/-- The replicas and the copies they have sent. -/
structure Mesh (ι : Type*) where
  replicas : ι → Replica ι
  sent : List (Replica ι)
  performed : Finset (Increment ι)
  reports : List (Report ι)

/-- What may happen between replicas. -/
inductive MeshEvent (ι : Type*) where
  | increment (replica : ι) (key : String) (window : Nat)
  | publish (replica : ι)
  | deliver (replica : ι) (message : Nat)

def MeshEvent.counts {ι : Type*} (key : String) (window : Nat) : MeshEvent ι → Bool
  | .increment _ other others => decide (other = key ∧ others = window)
  | _ => false

variable {ι : Type*} [DecidableEq ι]

namespace Mesh

def initial : Mesh ι :=
  { replicas := fun _ => ⟨.empty, ∅⟩, sent := [], performed := ∅, reports := [] }

/-- The increment that a replica makes next. -/
def next (state : Mesh ι) (replica : ι) (key : String) (window : Nat) : Increment ι :=
  { origin := replica, number := state.performed.card, key, window }

def increment (nodeId : ι → String) (state : Mesh ι) (replica : ι) (key : String) (window : Nat) :
    Mesh ι :=
  let new := state.next replica key window
  let copy := state.replicas replica
  let result := copy.counters.increment key window (nodeId replica)
  { state with
    replicas := update state.replicas replica ⟨result.1, insert new copy.known⟩
    performed := insert new state.performed
    reports := state.reports ++ [{ replica, key, window, total := result.2 }] }

def publish (state : Mesh ι) (replica : ι) : Mesh ι :=
  let copy := state.replicas replica
  { state with sent := state.sent ++ [{ copy with counters := copy.counters.snapshot }] }

def deliver (state : Mesh ι) (replica : ι) (message : Replica ι) : Mesh ι :=
  let copy := state.replicas replica
  { state with
    replicas := update state.replicas replica
      ⟨copy.counters.merge message.counters, copy.known ∪ message.known⟩ }

def total (state : Mesh ι) (replica : ι) (key : String) (window : Nat) : Nat :=
  (state.replicas replica).counters.total key window

end Mesh

/-- Messages stay available: they may be delivered late, repeatedly or never. -/
def meshMachine (nodeId : ι → String) : Machine (Mesh ι) (MeshEvent ι) where
  step state
    | .increment replica key window => some (state.increment nodeId replica key window)
    | .publish replica => some (state.publish replica)
    | .deliver replica message => state.sent[message]?.map (state.deliver replica)

/-! ## Invariants -/

namespace Mesh

/-- A state of the counters that a replica has or has published. -/
def Held (state : Mesh ι) (copy : Replica ι) : Prop :=
  (∃ replica, state.replicas replica = copy) ∨ copy ∈ state.sent

/-- The name is counted less often than a `u64` can hold. -/
def Fits (state : Mesh ι) (name : String) : Prop := (under name state.performed).card < 2 ^ 64

/-- Every copy is part of one history. -/
structure Valid (nodeId : ι → String) (state : Mesh ι) : Prop where
  numbered : ∀ increment ∈ state.performed, increment.number < state.performed.card
  complete : ∀ increment ∈ state.performed, increment ∈ (state.replicas increment.origin).known
  history : ∀ copy, state.Held copy → History state.performed copy.known
  within : ∀ copy, state.Held copy → copy.counters.Within nodeId state.performed
  represents : ∀ name, state.Fits name → ∀ copy, state.Held copy →
    copy.counters.Represents nodeId copy.known name
  reported : ∀ report ∈ state.reports, state.Fits report.name →
    report.total ≤ (under report.name (state.replicas report.replica).known).card
  rising : state.reports.Pairwise fun earlier later => earlier.replica = later.replica →
    earlier.name = later.name → state.Fits later.name → earlier.total < later.total

variable {nodeId : ι → String} {state : Mesh ι} {replica : ι} {key name : String} {window : Nat}
  {changed : Replica ι}

private theorem held_update {copy : Replica ι}
    (held : (∃ other, update state.replicas replica changed other = copy) ∨ copy ∈ state.sent) :
    copy = changed ∨ state.Held copy := by
  obtain ⟨other, rfl⟩ | sent := held
  · by_cases same : other = replica
    · exact .inl (by rw [same, update_self])
    · exact .inr (.inl ⟨other, (update_of_ne same _ _).symm⟩)
  · exact .inr (.inr sent)

private theorem known_subset_update (more : (state.replicas replica).known ⊆ changed.known)
    (other : ι) :
    (state.replicas other).known ⊆ (update state.replicas replica changed other).known := by
  by_cases same : other = replica
  · rw [same, update_self]
    exact more
  · rw [update_of_ne same]

omit [DecidableEq ι] in
private theorem valid_initial : (initial : Mesh ι).Valid nodeId where
  numbered := by simp [initial]
  complete := by simp [initial]
  history := by
    rintro _ (⟨_, rfl⟩ | sent)
    · exact ⟨Finset.Subset.refl _, fun _ heard => absurd heard (Finset.notMem_empty _)⟩
    · exact absurd sent not_mem_nil
  within := by
    rintro _ (⟨_, rfl⟩ | sent)
    · exact fun _ _ => Nat.zero_le _
    · exact absurd sent not_mem_nil
  represents name _ := by
    rintro _ (⟨_, rfl⟩ | sent)
    · exact fun _ => rfl
    · exact absurd sent not_mem_nil
  reported := by simp [initial]
  rising := List.Pairwise.nil

omit [DecidableEq ι] in
private theorem Valid.total (valid : state.Valid nodeId)
    (fits : state.Fits (counterName key window)) :
    state.total replica key window =
      (under (counterName key window) (state.replicas replica).known).card := by
  have held : state.Held (state.replicas replica) := .inl ⟨replica, rfl⟩
  have smaller := Finset.card_le_card
    (under_subset (counterName key window) (valid.history _ held).within)
  rw [Mesh.total, (valid.represents _ fits _ held).total]
  exact Nat.mod_eq_of_lt (smaller.trans_lt fits)

/-! ### Publishing -/

omit [DecidableEq ι] in
private theorem Valid.publish (valid : state.Valid nodeId) :
    (state.publish replica).Valid nodeId := by
  have held {copy : Replica ι} (held : (state.publish replica).Held copy) : state.Held copy := by
    obtain ⟨other, rfl⟩ | sent := held
    · exact .inl ⟨other, rfl⟩
    · obtain sent | new := mem_append.mp sent
      · exact .inr sent
      · exact .inl ⟨replica, (mem_singleton.mp new).symm⟩
  exact
    { valid with
      history := fun copy has => valid.history copy (held has)
      within := fun copy has => valid.within copy (held has)
      represents := fun name fits copy has => valid.represents name fits copy (held has) }

/-! ### Delivering -/

private theorem Valid.deliver (distinct : Injective nodeId) (valid : state.Valid nodeId)
    {message : Replica ι} (sent : message ∈ state.sent) :
    (state.deliver replica message).Valid nodeId := by
  have own : state.Held (state.replicas replica) := .inl ⟨replica, rfl⟩
  have other : state.Held message := .inr sent
  refine
    { numbered := valid.numbered
      complete := fun increment made =>
        known_subset_update Finset.subset_union_left _ (valid.complete increment made)
      history := ?_
      within := ?_
      represents := ?_
      reported := ?_
      rising := valid.rising }
  · intro copy held
    obtain rfl | held := held_update held
    · exact (valid.history _ own).union (valid.history _ other)
    · exact valid.history copy held
  · intro copy held
    obtain rfl | held := held_update held
    · exact (valid.within _ own).merge (valid.within _ other)
    · exact valid.within copy held
  · intro name fits copy held
    obtain rfl | held := held_update held
    · exact (valid.represents name fits _ own).merge distinct (valid.represents name fits _ other)
        (valid.history _ own) (valid.history _ other)
    · exact valid.represents name fits copy held
  · intro report member fits
    exact (valid.reported report member fits).trans
      (Finset.card_le_card (under_subset _ (known_subset_update Finset.subset_union_left _)))

/-! ### Incrementing -/

private theorem Fits.of_increment (fits : (state.increment nodeId replica key window).Fits name) :
    state.Fits name :=
  (Finset.card_le_card (under_subset name (Finset.subset_insert _ _))).trans_lt fits

omit [DecidableEq ι] in
private theorem Valid.fresh (valid : state.Valid nodeId) :
    state.next replica key window ∉ state.performed :=
  fun made => (valid.numbered _ made).false

omit [DecidableEq ι] in
private theorem Valid.fresh_known (valid : state.Valid nodeId) :
    state.next replica key window ∉ (state.replicas replica).known :=
  fun heard => valid.fresh ((valid.history _ (.inl ⟨replica, rfl⟩)).within heard)

private theorem replicas_increment (nodeId : ι → String) (state : Mesh ι) (replica : ι)
    (key : String)
    (window : Nat) :
    (state.increment nodeId replica key window).replicas replica =
      ⟨((state.replicas replica).counters.increment key window (nodeId replica)).1,
        insert (state.next replica key window) (state.replicas replica).known⟩ :=
  update_self _ _ _

variable (valid : state.Valid nodeId)
include valid

variable {copy : Replica ι}

section
variable (held : (state.increment nodeId replica key window).Held copy)
include held

private theorem Valid.increment_history :
    History (insert (state.next replica key window) state.performed) copy.known := by
  have last : ∀ increment ∈ state.performed,
      increment.number < (state.next replica key window).number := valid.numbered
  obtain rfl | held := held_update held
  · refine (valid.history _ (.inl ⟨replica, rfl⟩)).own last ?_
    rintro increment made (rfl : increment.origin = replica)
    exact valid.complete increment made
  · exact (valid.history copy held).later last

private theorem Valid.increment_within :
    copy.counters.Within nodeId (insert (state.next replica key window) state.performed) := by
  obtain rfl | held := held_update held
  · exact (valid.within _ (.inl ⟨replica, rfl⟩)).increment
      (state.next replica key window) valid.fresh
  · exact (valid.within copy held).later

end

private theorem Valid.increment_represents
    (fits : (state.increment nodeId replica key window).Fits name)
    (held : (state.increment nodeId replica key window).Held copy) :
    copy.counters.Represents nodeId copy.known name := by
  have own : state.Held (state.replicas replica) := .inl ⟨replica, rfl⟩
  obtain rfl | held := held_update held
  · refine (valid.represents name fits.of_increment _ own).increment
      (state.next replica key window) valid.fresh_known (lt_of_le_of_lt ?_ fits)
    exact Finset.card_le_card (under_subset name
      (Finset.insert_subset_insert _ (valid.history _ own).within))
  · exact valid.represents name fits.of_increment copy held

private theorem Valid.increment_returns
    (fits : (state.increment nodeId replica key window).Fits (counterName key window)) :
    ((state.replicas replica).counters.increment key window (nodeId replica)).2 =
      (under (counterName key window)
        ((state.increment nodeId replica key window).replicas replica).known).card := by
  have held : (state.increment nodeId replica key window).Held
      ((state.increment nodeId replica key window).replicas replica) := .inl ⟨replica, rfl⟩
  have smaller := Finset.card_le_card
    (under_subset (counterName key window) (valid.increment_history held).within)
  have represented := (valid.increment_represents fits held).total
  rw [Nat.mod_eq_of_lt (smaller.trans_lt fits)] at represented
  rw [← represented, replicas_increment, GCounterSet.total, GCounterSet.nodeCounts_increment,
    if_pos rfl]
  rfl

private theorem Valid.increment : (state.increment nodeId replica key window).Valid nodeId where
  numbered := by
    intro increment made
    change increment.number < (insert (state.next replica key window) state.performed).card
    rw [Finset.card_insert_of_notMem valid.fresh]
    obtain rfl | made := Finset.mem_insert.mp made
    · exact Nat.lt_succ_self _
    · exact Nat.lt_succ_of_lt (valid.numbered increment made)
  complete := by
    intro increment made
    obtain rfl | made := Finset.mem_insert.mp made
    · change state.next replica key window ∈
        ((state.increment nodeId replica key window).replicas replica).known
      rw [replicas_increment]
      exact Finset.mem_insert_self _ _
    · exact known_subset_update (Finset.subset_insert _ _) _ (valid.complete increment made)
  history _ held := valid.increment_history held
  within _ held := valid.increment_within held
  represents _ fits _ held := valid.increment_represents fits held
  reported := by
    intro report member fits
    obtain member | new := mem_append.mp member
    · exact (valid.reported report member fits.of_increment).trans
        (Finset.card_le_card (under_subset _ (known_subset_update (Finset.subset_insert _ _) _)))
    · cases mem_singleton.mp new
      exact (valid.increment_returns fits).le
  rising := by
    refine pairwise_append.mpr ⟨?_, pairwise_singleton _ _, ?_⟩
    · exact valid.rising.imp fun rises same named fits => rises same named fits.of_increment
    -- Everything returned before is at most what was known before, which is one less.
    intro earlier member later new same named fits
    cases mem_singleton.mp new
    have bounded := valid.reported earlier member (named ▸ fits.of_increment)
    rw [same, named] at bounded
    have new : (state.next replica key window).name = counterName key window := rfl
    have absent : state.next replica key window ∉ under (counterName key window) _ :=
      fun member => valid.fresh_known (Finset.mem_filter.mp member).1
    rw [valid.increment_returns fits, replicas_increment, under_insert, if_pos new,
      Finset.card_insert_of_notMem absent]
    exact Nat.lt_succ_of_le bounded

end Mesh

/-! ## Runs -/

open Mesh
variable {nodeId : ι → String} {state final next : Mesh ι} {events : List (MeshEvent ι)}
  {event : MeshEvent ι}

private theorem valid_of_step (distinct : Injective nodeId) (valid : state.Valid nodeId)
    (stepped : (meshMachine nodeId).step state event = some next) : next.Valid nodeId := by
  cases event with
  | increment =>
    cases stepped
    exact valid.increment
  | publish =>
    cases stepped
    exact valid.publish
  | deliver =>
    obtain ⟨_, sent, rfl⟩ := Option.map_eq_some_iff.mp stepped
    exact valid.deliver distinct (mem_of_getElem? sent)

private theorem valid_of_run (distinct : Injective nodeId) (valid : state.Valid nodeId)
    (reached : (meshMachine nodeId).run state events = some final) : final.Valid nodeId :=
  invariant_run (fun valid _ => valid_of_step distinct valid) valid
    (along_true state events) reached

private theorem known_subset_of_step (stepped : (meshMachine nodeId).step state event = some next)
    (replica : ι) : (state.replicas replica).known ⊆ (next.replicas replica).known := by
  cases event with
  | increment =>
    cases stepped
    exact known_subset_update (Finset.subset_insert _ _) replica
  | publish =>
    cases stepped
    exact Finset.Subset.refl _
  | deliver =>
    obtain ⟨-, -, rfl⟩ := Option.map_eq_some_iff.mp stepped
    exact known_subset_update Finset.subset_union_left replica

private theorem known_subset_of_run (reached : (meshMachine nodeId).run state events = some final)
    (replica : ι) : (state.replicas replica).known ⊆ (final.replicas replica).known := by
  let contains (later : Mesh ι) := (state.replicas replica).known ⊆ (later.replicas replica).known
  have kept : (meshMachine nodeId).Preserves (fun _ _ => True) contains :=
    fun contained _ stepped => contained.trans (known_subset_of_step stepped replica)
  change contains final
  exact invariant_run kept (Finset.Subset.refl _) (along_true state events) reached

private theorem card_performed_of_step (valid : state.Valid nodeId)
    (stepped : (meshMachine nodeId).step state event = some next) (key : String) (window : Nat) :
    (under (counterName key window) next.performed).card =
      (under (counterName key window) state.performed).card +
        if event.counts key window then 1 else 0 := by
  cases event with
  | increment replica other others =>
    cases stepped
    have named : (state.next replica other others).name = counterName key window ↔
        other = key ∧ others = window :=
      ⟨fun same => counterName_injective same, fun same => by rw [← same.1, ← same.2]; rfl⟩
    change (under _ (insert (state.next replica other others) state.performed)).card = _
    rw [under_insert]
    by_cases same : other = key ∧ others = window
    · have absent : state.next replica other others ∉
          under (counterName key window) state.performed :=
        fun member => valid.fresh (Finset.mem_filter.mp member).1
      rw [if_pos (named.mpr same), Finset.card_insert_of_notMem absent]
      simp [MeshEvent.counts, same]
    · rw [if_neg (mt named.mp same)]
      simp [MeshEvent.counts, same]
  | publish =>
    cases stepped
    rfl
  | deliver =>
    obtain ⟨-, -, rfl⟩ := Option.map_eq_some_iff.mp stepped
    rfl

private theorem card_performed_of_run (distinct : Injective nodeId) (valid : state.Valid nodeId)
    (reached : (meshMachine nodeId).run state events = some final) (key : String) (window : Nat) :
    (under (counterName key window) final.performed).card =
      (under (counterName key window) state.performed).card +
        events.countP (·.counts key window) := by
  induction events generalizing state with
  | nil =>
    cases reached
    rfl
  | cons _ _ ih =>
    obtain ⟨_, stepped, remaining⟩ := run_cons_eq_some.mp reached
    rw [ih (valid_of_step distinct valid stepped) remaining,
      card_performed_of_step valid stepped, countP_cons]
    omega

section
variable {key : String} {window : Nat}

section
variable (distinct : Injective nodeId)
  (reached : (meshMachine nodeId).run initial events = some final)
include distinct reached

private theorem fits_of_run (few : events.countP (·.counts key window) < 2 ^ 64) :
    final.Fits (counterName key window) := by
  rw [Fits, card_performed_of_run distinct valid_initial reached]
  simpa [initial, under] using few

private theorem total_le_increments (replica : ι) :
    final.total replica key window ≤ events.countP (·.counts key window) := by
  have valid := valid_of_run distinct valid_initial reached
  have bounded := (valid.within _ (.inl ⟨replica, rfl⟩)).total key window
  rw [card_performed_of_run distinct valid_initial reached] at bounded
  simpa [initial, under, Mesh.total] using bounded

end

/-- Both replicas have heard of the same increments of the pair. -/
def SameHistory (state : Mesh ι) (key : String) (window : Nat) (first second : ι) : Prop :=
  ∀ increment : Increment ι, increment.key = key → increment.window = window →
    (increment ∈ (state.replicas first).known ↔ increment ∈ (state.replicas second).known)

end

/-- Merging is commutative, associative and idempotent, and distinct pairs have distinct
counters. In every run no total exceeds the number of increments of its pair. As long as
that number fits a `u64`, totals never fall, replicas that have heard of the same
increments agree, and the totals that a replica returns rise, so that it stays over a
limit that it was over. -/
theorem counters_converge (nodeId : ι → String) (distinct : Injective nodeId) :
    (∀ first second : GCounterSet, first.merge second = second.merge first) ∧
    (∀ first second third : GCounterSet,
      (first.merge second).merge third = first.merge (second.merge third)) ∧
    (∀ set : GCounterSet, set.merge set = set) ∧
    Injective2 counterName ∧
    ∀ (before after : List (MeshEvent ι)) (middle final : Mesh ι),
      (meshMachine nodeId).run initial before = some middle →
      (meshMachine nodeId).run middle after = some final →
      ∀ (key : String) (window : Nat),
        (∀ replica, middle.total replica key window ≤ before.countP (·.counts key window)) ∧
        ((before ++ after).countP (·.counts key window) < 2 ^ 64 →
          (∀ replica, middle.total replica key window ≤ final.total replica key window) ∧
          (∀ first second, SameHistory final key window first second →
            final.total first key window = final.total second key window ∧
            ∀ node, (final.replicas first).counters.count (counterName key window) node =
              (final.replicas second).counters.count (counterName key window) node) ∧
          final.reports.Pairwise fun earlier later => earlier.replica = later.replica →
            (earlier.key = key ∧ earlier.window = window) →
            (later.key = key ∧ later.window = window) →
              earlier.total < later.total ∧
              ∀ limit, ¬earlier.total ≤ limit → ¬later.total ≤ limit) := by
  refine ⟨merge_comm, merge_assoc, merge_self, counterName_injective, ?_⟩
  intro before after middle final reached continued key window
  have whole : (meshMachine nodeId).run initial (before ++ after) = some final := by
    rw [run_append, reached]
    exact continued
  have valid := valid_of_run distinct valid_initial whole
  refine ⟨total_le_increments distinct reached, fun few => ?_⟩
  have fits := fits_of_run distinct whole few
  refine ⟨fun replica => ?_, ?_, ?_⟩
  · have fewer : before.countP (·.counts key window) < 2 ^ 64 := by
      rw [countP_append] at few
      omega
    rw [(valid_of_run distinct valid_initial reached).total (fits_of_run distinct reached fewer),
      valid.total fits]
    exact Finset.card_le_card (under_subset _ (known_subset_of_run continued replica))
  · intro first second same
    have heard : under (counterName key window) (final.replicas first).known =
        under (counterName key window) (final.replicas second).known := by
      ext increment
      simp only [under, Finset.mem_filter]
      refine and_congr_left fun named => ?_
      obtain ⟨sameKey, sameWindow⟩ := counterName_injective named
      exact same increment sameKey sameWindow
    refine ⟨by rw [valid.total fits, valid.total fits, heard], fun node => ?_⟩
    rw [valid.represents _ fits _ (.inl ⟨first, rfl⟩) node,
      valid.represents _ fits _ (.inl ⟨second, rfl⟩) node, heard]
  refine valid.rising.imp ?_
  rintro earlier later rises same ⟨rfl, rfl⟩ ⟨sameKey, sameWindow⟩
  have named : earlier.name = later.name := by rw [Report.name, ← sameKey, ← sameWindow]; rfl
  have higher := rises same named (named ▸ fits)
  exact ⟨higher, fun _ above under => above (higher.le.trans under)⟩

/-- The names of two nodes. -/
def pairId (second : Bool) : String := if second then "node-b" else "node-a"

private theorem pairId_injective : Injective pairId := by decide

/-- The first node counts and publishes, the second one counts and hears of it. -/
theorem counters_converge_on_two_nodes :
    ∃ middle final,
      (meshMachine pairId).run initial [.increment false "203.0.113.10" 42, .publish false] =
        some middle ∧
      (meshMachine pairId).run middle [.increment true "203.0.113.10" 42, .deliver true 0] =
        some final ∧
      middle.total true "203.0.113.10" 42 ≤ final.total true "203.0.113.10" 42 ∧
      final.total true "203.0.113.10" 42 = 2 := by
  have converges := (counters_converge pairId pairId_injective).2.2.2.2
    [.increment false "203.0.113.10" 42, .publish false]
    [.increment true "203.0.113.10" 42, .deliver true 0] _ _ rfl rfl "203.0.113.10" 42
  exact ⟨_, _, rfl, rfl, (converges.2 (by decide)).1 true, by decide +kernel⟩

/-! ## Counters that wrap -/

/-- A node on its own counts modulo `2 ^ 64`. -/
theorem find_after_increments (count : Nat) :
    ∃ final, (meshMachine fun _ : Unit => "local").run initial
        (replicate count (.increment () "203.0.113.10" 42)) = some final ∧
      ∀ node, ((final.replicas ()).counters.nodeCounts (counterName "203.0.113.10" 42)).find node =
        if node = "local" ∧ 0 < count then some (count % 2 ^ 64) else none := by
  induction count with
  | zero => exact ⟨_, rfl, fun node => by simp [initial, nodeCounts, empty]⟩
  | succ count ih =>
    obtain ⟨middle, reached, counted⟩ := ih
    refine ⟨middle.increment (fun _ => "local") () "203.0.113.10" 42, ?_, fun node => ?_⟩
    · rw [replicate_succ', run_append, reached]
      rfl
    rw [replicas_increment, nodeCounts_increment, if_pos rfl,
      Dictionary.find_insert, GCounterSet.count, counted, counted]
    by_cases same : node = "local"
    · rcases Nat.eq_zero_or_pos count with rfl | positive
      · simp [same]
      · simp [same, positive]
    · simp [same]

private theorem total_after_increments (count : Nat) :
    ∃ final, (meshMachine fun _ : Unit => "local").run initial
        (replicate count (.increment () "203.0.113.10" 42)) = some final ∧
      final.total () "203.0.113.10" 42 = count % 2 ^ 64 := by
  obtain ⟨final, reached, counted⟩ := find_after_increments count
  refine ⟨final, reached, ?_⟩
  rcases Nat.eq_zero_or_pos count with rfl | positive
  · cases reached
    rfl
  have single : (final.replicas ()).counters.nodeCounts (counterName "203.0.113.10" 42) =
      Dictionary.empty.insert "local" (count % 2 ^ 64) := by
    apply Dictionary.ext_find
    intro node
    rw [counted, Dictionary.find_insert]
    simp [positive]
  rw [Mesh.total, GCounterSet.total, single]
  exact (Nat.mod_mod _ _)

/-- One more increment after `2 ^ 64 - 1` of them takes the total back to zero. -/
theorem total_falls_to_zero :
    ∃ before after middle final,
      (meshMachine fun _ : Unit => "local").run initial before = some middle ∧
      (meshMachine fun _ : Unit => "local").run middle after = some final ∧
      final.total () "203.0.113.10" 42 < middle.total () "203.0.113.10" 42 := by
  obtain ⟨middle, reached, high⟩ := total_after_increments (2 ^ 64 - 1)
  obtain ⟨final, whole, low⟩ := total_after_increments (2 ^ 64 - 1 + 1)
  rw [replicate_succ', run_append, reached] at whole
  refine ⟨_, _, middle, final, reached, whole, ?_⟩
  rw [low, high]
  decide

end TachyonMesh.Limiter
