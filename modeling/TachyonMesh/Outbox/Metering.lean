import Mathlib.Data.List.Nodup
import TachyonMesh.Foundation.Machine

/-! # Exporting the metering outbox

The flusher stores each record of a batch in the outbox, exports the batch and deletes its rows.
The sweeper exports rows it finds in the outbox and deletes them; it does not know which rows the
flusher is working on.
-/

namespace TachyonMesh.Outbox
open Foundation List

def meteringOutboxRetryBatchLimit : Nat := 32

/-- Who exports a row. -/
inductive MeteringTask where
  | flusher
  | sweeper
deriving DecidableEq

/-- Where a task is. Records are told apart by number. -/
inductive Errand where
  /-- The flusher stores the records of `todo` and then exports the batch. The sweeper has nothing
  to store. -/
  | exporting (todo keys batch : List Nat)
  /-- It deletes these rows; with none left it is idle. -/
  | deleting (keys : List Nat)

/-- The outcome of `export_metering_batch`. -/
inductive ExportOutcome where
  | delivered
  /-- The metering route is not sealed: the call does nothing and succeeds. -/
  | unsealed
  | failed
deriving DecidableEq

/-- The records on their way to the exporter. -/
structure MeteringState where
  received : Nat
  /-- The rows in the order of their keys. -/
  outbox : List (Nat × Nat)
  errand : MeteringTask → Errand
  persisted : List Nat
  exported : List Nat

namespace MeteringState

def initial : MeteringState where
  received := 0
  outbox := []
  errand _ := .deleting []
  persisted := []
  exported := []

def assign (state : MeteringState) (task : MeteringTask) (errand : Errand) : MeteringState :=
  { state with errand := Function.update state.errand task errand }

def put (state : MeteringState) (key record : Nat) : MeteringState :=
  { state with
    outbox := state.outbox.takeWhile (·.1 < key) ++ (key, record) ::
      state.outbox.dropWhile (·.1 < key)
    persisted := state.persisted ++ [record] }

def delete (state : MeteringState) (key : Nat) : MeteringState :=
  { state with outbox := state.outbox.filter (·.1 ≠ key) }

end MeteringState

open MeteringState

/-- What may happen to the records. -/
inductive MeteringEvent where
  /-- The flusher takes a batch of so many records. -/
  | flush (size : Nat)
  /-- `append_outbox` returns a key under which there was no row, or fails. -/
  | append (key : Option Nat)
  | peek
  /-- `export_metering_batch` returns. -/
  | send (task : MeteringTask) (outcome : ExportOutcome)
  | delete (task : MeteringTask) (succeeds : Bool)
  /-- The host starts again; what was in memory is gone. -/
  | restart

def meteringMachine : Machine MeteringState MeteringEvent where
  step state
    | .flush size =>
        match state.errand .flusher with
        | .deleting [] =>
            let pending := range' state.received size
            if size = 0 then some state
            else some ({ state with received := state.received + size }.assign .flusher
              (.exporting pending [] pending))
        | _ => none
    | .append key =>
        match state.errand .flusher, key with
        | .exporting (_ :: todo) keys batch, none =>
            some (state.assign .flusher (.exporting todo keys batch))
        | .exporting (record :: todo) keys batch, some key =>
            if key ∈ state.outbox.map Prod.fst then none
            else some ((state.put key record).assign .flusher
              (.exporting todo (keys ++ [key]) batch))
        | .deleting _, _ | .exporting [] _ _, _ => none
    | .peek =>
        match state.errand .sweeper with
        | .deleting [] =>
            let rows := state.outbox.take meteringOutboxRetryBatchLimit
            if rows = [] then some state
            else some (state.assign .sweeper
              (.exporting [] (rows.map Prod.fst) (rows.map Prod.snd)))
        | _ => none
    | .send task outcome =>
        match state.errand task, outcome with
        | .exporting [] keys batch, .delivered =>
            some ({ state with exported := state.exported ++ batch }.assign task (.deleting keys))
        | .exporting [] keys _, .unsealed => some (state.assign task (.deleting keys))
        | .exporting [] _ _, .failed => some (state.assign task (.deleting []))
        | _, _ => none
    | .delete task succeeds =>
        match state.errand task with
        | .deleting (key :: rest) =>
            some ((if succeeds then state.delete key else state).assign task (.deleting rest))
        | _ => none
    | .restart => some { state with errand := fun _ => .deleting [] }

/-! ## Nothing is dropped -/

namespace Errand

def todo : Errand → List Nat
  | exporting todo _ _ => todo
  | deleting _ => []

def keys : Errand → List Nat
  | exporting _ keys _ => keys
  | deleting keys => keys

/-- The records that are still to be exported. -/
def batch : Errand → List Nat
  | exporting _ _ batch => batch
  | deleting _ => []

end Errand

open Errand

namespace MeteringState

/-- Every record that was persisted has been exported or is in the outbox. -/
def Kept (state : MeteringState) : Prop :=
  ∀ record ∈ state.persisted, record ∈ state.exported ∨ ∃ key, (key, record) ∈ state.outbox

/-- Exports have a route, and a row gets a key of which the sweeper has no row in its hands. -/
def Routed (state : MeteringState) : MeteringEvent → Prop
  | .append (some key) => key ∉ (state.errand .sweeper).keys
  | .send _ outcome => outcome ≠ .unsealed
  | _ => True

/-- Every export call succeeds and the host does not restart. -/
def Smooth (_ : MeteringState) : MeteringEvent → Prop
  | .send _ outcome => outcome ≠ .failed
  | .restart => False
  | _ => True

/-- The sweeper finds no row that the flusher is working on, and rows can be deleted. -/
def Apart (state : MeteringState) : MeteringEvent → Prop
  | .peek => ∀ row ∈ state.outbox.take meteringOutboxRetryBatchLimit,
      row.1 ∉ (state.errand .flusher).keys
  | .delete _ succeeds => succeeds
  | _ => True

/-- A key has one row, and an errand covers its rows. -/
structure Tracked (state : MeteringState) : Prop where
  kept : state.Kept
  unique : ∀ key first second, (key, first) ∈ state.outbox → (key, second) ∈ state.outbox →
    first = second
  todo_batch : ∀ task, (state.errand task).todo ⊆ (state.errand task).batch
  covered : ∀ task, ∀ key ∈ (state.errand task).keys, ∀ record, (key, record) ∈ state.outbox →
    record ∈ (state.errand task).batch ∨ record ∈ state.exported

variable {state next : MeteringState} {key record : Nat}

private theorem mem_put {row : Nat × Nat} :
    row ∈ (state.put key record).outbox ↔ row = (key, record) ∨ row ∈ state.outbox := by
  have parts : row ∈ state.outbox ↔ row ∈ state.outbox.takeWhile (·.1 < key) ∨
      row ∈ state.outbox.dropWhile (·.1 < key) := by
    rw [← mem_append, takeWhile_append_dropWhile]
  simp [put, parts, or_left_comm]

section
variable (tracked : state.Tracked)
include tracked

/-- A task turns to something else, and records may have been exported. -/
theorem Tracked.assign (task : MeteringTask) {errand : Errand} {received : Nat}
    {exported : List Nat} (more : state.exported ⊆ exported)
    (todo_batch : errand.todo ⊆ errand.batch)
    (covered : ∀ key ∈ errand.keys, ∀ record, (key, record) ∈ state.outbox →
      record ∈ errand.batch ∨ record ∈ exported) :
    ({ state with received, exported }.assign task errand).Tracked where
  kept record stored := (tracked.kept record stored).imp_left (@more record)
  unique := tracked.unique
  todo_batch other := by
    by_cases same : other = task
    · simpa [MeteringState.assign, same] using todo_batch
    · simpa [MeteringState.assign, same] using tracked.todo_batch other
  covered other key held record row := by
    by_cases same : other = task
    · simp only [MeteringState.assign, same, Function.update_self] at held ⊢
      exact covered key held record row
    · simp only [MeteringState.assign, ne_eq, same, not_false_eq_true,
        Function.update_of_ne] at held ⊢
      exact (tracked.covered other key held record row).imp_right (@more record)

private theorem Tracked.put (fresh : key ∉ state.outbox.map Prod.fst)
    (covered : ∀ task, key ∈ (state.errand task).keys → record ∈ (state.errand task).batch) :
    (state.put key record).Tracked where
  kept other stored := by
    rcases mem_append.mp stored with old | new
    · exact (tracked.kept other old).imp_right fun ⟨at', row⟩ => ⟨at', mem_put.mpr (.inr row)⟩
    · exact .inr ⟨key, mem_put.mpr (.inl (by rw [mem_singleton.mp new]))⟩
  unique at' first second := by
    have unique := tracked.unique at' first second
    have unused (other : Nat) : (key, other) ∉ state.outbox := fun row =>
      fresh (mem_map_of_mem row)
    simp only [mem_put, Prod.mk.injEq]
    grind
  todo_batch := tracked.todo_batch
  covered task at' held other row := by
    rcases mem_put.mp row with new | old
    · cases new
      exact .inl (covered task held)
    · exact tracked.covered task at' held other old

private theorem Tracked.delete
    (exported : ∀ record, (key, record) ∈ state.outbox → record ∈ state.exported) :
    (state.delete key).Tracked where
  kept record stored := by
    rcases tracked.kept record stored with known | ⟨at', row⟩
    · exact .inl known
    · by_cases same : at' = key
      · exact .inl (exported record (same ▸ row))
      · exact .inr ⟨at', mem_filter.mpr ⟨row, by simpa using same⟩⟩
  unique at' first second one other :=
    tracked.unique at' first second (mem_filter.mp one).1 (mem_filter.mp other).1
  todo_batch := tracked.todo_batch
  covered task at' held record row := tracked.covered task at' held record (mem_filter.mp row).1

private theorem Tracked.step {event : MeteringEvent} (routed : state.Routed event)
    (stepped : meteringMachine.step state event = some next) : next.Tracked := by
  cases event with simp only [meteringMachine] at stepped
  | flush =>
    split at stepped
    case h_1 =>
      split at stepped <;> cases stepped
      · exact tracked
      · exact tracked.assign .flusher (.refl _) (.refl _) (by simp [Errand.keys])
    case h_2 => cases stepped
  | append key =>
    have subset := tracked.todo_batch .flusher
    have covered := tracked.covered .flusher
    split at stepped
    case h_1 record todo keys batch busy =>
      cases stepped
      rw [busy] at subset covered
      exact tracked.assign .flusher (.refl _) (subset_of_cons_subset subset) covered
    case h_2 record todo keys batch key busy =>
      rw [busy] at subset covered
      obtain ⟨first, later⟩ := cons_subset.mp subset
      split at stepped <;> cases stepped
      rename_i fresh
      have stored : (state.put key record).Tracked := by
        refine tracked.put fresh fun task held => ?_
        cases task with
        | flusher => simpa [busy] using first
        | sweeper => exact absurd held routed
      refine stored.assign .flusher (.refl _) later fun held member other row => ?_
      rcases mem_put.mp row with new | old
      · cases new
        exact .inl first
      rcases mem_append.mp member with earlier | last
      · exact covered held earlier other old
      · cases mem_singleton.mp last
        exact absurd (mem_map_of_mem old) fresh
    all_goals cases stepped
  | peek =>
    split at stepped
    case h_1 =>
      split at stepped <;> cases stepped
      · exact tracked
      · refine tracked.assign .sweeper (.refl _) (by simp [todo]) fun key held record row => ?_
        obtain ⟨⟨_, _⟩, taken, rfl⟩ := mem_map.mp held
        have same := tracked.unique _ _ _ (mem_of_mem_take taken) row
        exact .inl (same ▸ mem_map_of_mem taken)
    case h_2 => cases stepped
  | send task =>
    have covered := tracked.covered task
    split at stepped
    case h_1 keys batch busy =>
      cases stepped
      rw [busy] at covered
      refine tracked.assign task (subset_append_left _ _) (by simp [todo]) ?_
      exact fun key held record row => .inr (mem_append.mpr ((covered key held record row).symm))
    case h_2 => exact absurd rfl routed
    case h_3 =>
      cases stepped
      exact tracked.assign task (.refl _) (.refl _) (by simp [Errand.keys])
    case h_4 => cases stepped
  | delete task succeeds =>
    have covered := tracked.covered task
    split at stepped
    case h_1 key rest busy =>
      simp only [busy, Errand.keys, batch, not_mem_nil, false_or] at covered
      have exported := covered key mem_cons_self
      have remaining (key : Nat) (held : key ∈ rest) := covered key (mem_cons_of_mem _ held)
      cases stepped
      cases succeeds with
      | true =>
        refine (tracked.delete exported).assign task (.refl _) (.refl _)
          fun held member record row => ?_
        exact .inr (remaining held member record (mem_filter.mp row).1)
      | false =>
        exact tracked.assign task (.refl _) (.refl _) fun held member record row =>
          .inr (remaining held member record row)
    case h_2 => cases stepped
  | restart =>
    cases stepped
    exact ⟨tracked.kept, tracked.unique, by simp [todo], by simp [Errand.keys]⟩

end

/-! ## Nothing is exported twice -/

/-- While nothing fails, the outbox holds only rows the flusher is working on. -/
structure Single (state : MeteringState) : Prop where
  placed : (state.exported ++ (state.errand .flusher).batch).Perm (range state.received)
  owned : ∀ row ∈ state.outbox, row.1 ∈ (state.errand .flusher).keys
  resting : state.errand .sweeper = .deleting []

private theorem Single.step {event : MeteringEvent} (single : state.Single)
    (quiet : state.Routed event ∧ state.Smooth event ∧ state.Apart event)
    (stepped : meteringMachine.step state event = some next) : next.Single := by
  obtain ⟨placed, owned, resting⟩ := single
  obtain ⟨routed, smooth, apart⟩ := quiet
  cases event with simp only [meteringMachine] at stepped
  | flush size =>
    split at stepped
    case h_1 idle =>
      rw [idle] at placed owned
      split at stepped <;> cases stepped
      · exact ⟨idle ▸ placed, idle ▸ owned, resting⟩
      · refine ⟨?_, fun row member => absurd (owned row member) not_mem_nil, resting⟩
        have numbers : range (state.received + size) =
            range state.received ++ range' state.received size := by
          rw [range_eq_range', range_eq_range', ← range'_append_1, Nat.zero_add]
        simpa [batch, assign, numbers] using placed.append_right (range' state.received size)
    case h_2 => cases stepped
  | append key =>
    split at stepped
    case h_1 busy =>
      rw [busy] at placed owned
      cases stepped
      exact ⟨placed, owned, resting⟩
    case h_2 record todo keys batch key busy =>
      rw [busy] at placed owned
      split at stepped <;> cases stepped
      refine ⟨placed, fun row member => ?_, resting⟩
      rcases mem_put.mp member with rfl | old
      · simp [assign, Errand.keys]
      · exact mem_append_left _ (owned row old)
    all_goals cases stepped
  | peek =>
    -- every row is one the flusher is working on, so none is found
    have none : state.outbox.take meteringOutboxRetryBatchLimit = [] :=
      eq_nil_iff_forall_not_mem.mpr fun row taken =>
        apart row taken (owned row (mem_of_mem_take taken))
    simp only [resting, none, if_true] at stepped
    exact Option.some.inj stepped ▸ ⟨placed, owned, resting⟩
  | send task =>
    cases task with
    | sweeper => simp [resting] at stepped
    | flusher =>
      split at stepped
      case h_1 busy =>
        rw [busy] at placed owned
        cases stepped
        exact ⟨by simpa [assign, batch] using placed, owned, resting⟩
      case h_2 => exact absurd rfl routed
      case h_3 => exact absurd rfl smooth
      case h_4 => cases stepped
  | delete task succeeds =>
    cases task with
    | sweeper => simp [resting] at stepped
    | flusher =>
      cases (apart : succeeds)
      split at stepped
      case h_1 key rest busy =>
        rw [busy] at placed owned
        cases stepped
        refine ⟨placed, fun row member => ?_, resting⟩
        obtain ⟨old, other⟩ := mem_filter.mp member
        exact (mem_cons.mp (owned row old)).resolve_left (by simpa using other)
      case h_2 => cases stepped
  | restart => exact smooth.elim

private theorem Tracked.initial : initial.Tracked :=
  ⟨by simp [Kept, MeteringState.initial], by simp [MeteringState.initial], fun _ => .refl _,
    by simp [MeteringState.initial]⟩

end MeteringState

/-- Where exports have a route and no key in the sweeper's hands is used again, every record that
was persisted is exported or in the outbox; in runs without failures in which the sweeper keeps to
rows the flusher is not working on, it is exported once. -/
theorem metering_exported {events : List MeteringEvent} {final : MeteringState}
    (routed : meteringMachine.Along Routed initial events)
    (reached : meteringMachine.run initial events = some final) :
    final.Kept ∧ (meteringMachine.Along (fun state event =>
        state.Routed event ∧ state.Smooth event ∧ state.Apart event) initial events →
      ∀ record ∈ final.persisted, final.exported.count record = 1 ∨
        record ∉ final.exported ∧ ∃ key, (key, record) ∈ final.outbox) := by
  have tracked := Machine.invariant_run (fun tracked => Tracked.step tracked) Tracked.initial routed
    reached
  refine ⟨tracked.kept, fun quiet record stored => ?_⟩
  have single := Machine.invariant_run Single.step ⟨.refl _, by simp [initial], rfl⟩ quiet reached
  by_cases known : record ∈ final.exported
  · have nodup := (single.placed.nodup_iff.mpr nodup_range).of_append_left
    exact .inl (count_eq_one_of_mem nodup known)
  · exact .inr ⟨known, (tracked.kept record stored).resolve_left known⟩

instance (state : MeteringState) (event : MeteringEvent) : Decidable (state.Routed event) := by
  unfold Routed
  split <;> infer_instance

instance (state : MeteringState) (event : MeteringEvent) : Decidable (state.Smooth event) := by
  unfold Smooth
  split <;> infer_instance

instance (state : MeteringState) (event : MeteringEvent) : Decidable (state.Apart event) := by
  unfold Apart
  split <;> infer_instance

/-- Two records are stored and exported while the sweeper looks before and after. -/
def quietFlush : List MeteringEvent :=
  [.peek, .flush 2, .append (some 5), .append (some 6), .send .flusher .delivered,
    .delete .flusher true, .delete .flusher true, .peek]

/-- An export fails and the host starts again twice, once before and once after the sweeper has
exported the three rows and deleted one of them. -/
def sweptFlush : List MeteringEvent :=
  [.flush 2, .append (some 5), .append (some 6), .send .flusher .failed, .flush 1,
    .append (some 7), .restart, .peek, .send .sweeper .delivered, .delete .sweeper true, .restart]

/-- Through a failed export, a restart and a sweep nothing is lost; a quiet run exports once. -/
theorem metering_exported_quietFlush :
    (∃ final, meteringMachine.run initial sweptFlush = some final ∧
      final.exported = [0, 1, 2] ∧ final.outbox = [(6, 1), (7, 2)] ∧ final.Kept) ∧
    ∃ final, meteringMachine.run initial quietFlush = some final ∧
      final.persisted = [0, 1] ∧ ∀ record ∈ final.persisted, final.exported.count record = 1 ∨
        record ∉ final.exported ∧ ∃ key, (key, record) ∈ final.outbox := by
  constructor
  · refine Machine.exists_run (by decide) fun _ reached => ?_
    have kept := (metering_exported (by decide) reached).1
    cases reached
    exact ⟨rfl, rfl, kept⟩
  · refine Machine.exists_run (by decide) fun _ reached => ?_
    have exported := (metering_exported (by decide) reached).2 (by decide)
    cases reached
    exact ⟨rfl, exported⟩

/-- The sweeper finds the row while the flusher exports it, and both exports succeed; and a record
is deleted though the metering route is not sealed. -/
theorem metering_repeated :
    (∃ final, meteringMachine.run initial [.flush 1, .append (some 5), .peek,
      .send .flusher .delivered, .send .sweeper .delivered] = some final ∧
      final.exported.count 0 = 2) ∧
    ∃ final, meteringMachine.run initial [.flush 1, .append (some 5), .send .flusher .unsealed,
      .delete .flusher true] = some final ∧ ¬final.Kept := by
  refine ⟨⟨_, rfl, rfl⟩, ⟨_, rfl, fun kept => ?_⟩⟩
  obtain exported | ⟨_, stored⟩ := kept 0 (by decide)
  · cases exported
  · cases stored

end TachyonMesh.Outbox
