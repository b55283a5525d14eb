import TachyonMesh.Foundation.Dictionary
import TachyonMesh.Foundation.Machine
import TachyonMesh.Foundation.Slots
import TachyonMesh.Foundation.Text

/-! # Appending to an outbox

A producer makes the key of its row from the clock and a suffix. It looks the key up in one
transaction and puts the row in another, and tries the next suffix while it finds a row. Two that
read the same nanosecond may both find the key free.
-/

namespace TachyonMesh.Outbox
open Foundation List Function Dictionary

/-! ## Buckets and rows -/

/-- The tables of the store. -/
inductive CoreStoreBucket where
  | cwasmCache
  | tlsCerts
  | hibernationState
  | dataEvents
  | vectorIndices
  | authzPurgeOutbox
  | dataMutationOutbox
  | meteringOutbox
  | configUpdateOutbox
  | distributedLocks
deriving DecidableEq

namespace CoreStoreBucket

/-- The buckets that can be peeked. -/
def isOutbox : CoreStoreBucket → Bool
  | authzPurgeOutbox | dataMutationOutbox | meteringOutbox | configUpdateOutbox => true
  | cwasmCache | tlsCerts | hibernationState | dataEvents | vectorIndices | distributedLocks =>
      false

def debug : CoreStoreBucket → String
  | cwasmCache => "CwasmCache"
  | tlsCerts => "TlsCerts"
  | hibernationState => "HibernationState"
  | dataEvents => "DataEvents"
  | vectorIndices => "VectorIndices"
  | authzPurgeOutbox => "AuthzPurgeOutbox"
  | dataMutationOutbox => "DataMutationOutbox"
  | meteringOutbox => "MeteringOutbox"
  | configUpdateOutbox => "ConfigUpdateOutbox"
  | distributedLocks => "DistributedLocks"

end CoreStoreBucket

abbrev Rows := Dictionary String (List UInt8)

/-- The loop of `peek_outbox`: a row is taken before the limit is looked at. -/
def peekRows (limit : Nat) (out : List (String × List UInt8)) :
    List (String × List UInt8) → List (String × List UInt8)
  | [] => out
  | row :: rest =>
      let out := out ++ [row]
      if limit ≤ out.length then out else peekRows limit out rest

private theorem peekRows_eq {limit : Nat} {out rows : List (String × List UInt8)}
    (enough : out.length + rows.length ≤ limit) : peekRows limit out rows = out ++ rows := by
  induction rows generalizing out with
  | nil => simp [peekRows]
  | cons row rest ih =>
    have taken : (out ++ [row]).length = out.length + 1 := length_append
    rw [length_cons] at enough
    rw [peekRows]
    split
    · have none : rest = [] := eq_nil_of_length_eq_zero (by omega)
      rw [none]
    · rw [ih (by omega), append_assoc]
      rfl

/-! ## Producers -/

/-- How far an append has come. -/
inductive AppendStage where
  /-- It looks up its key next. -/
  | probing
  /-- It has found its key free and puts the row next. -/
  | putting
  /-- It has returned its key; `deleted` once the row has been deleted since. -/
  | returned (deleted : Bool)
  | failed
deriving DecidableEq

/-- A call of `append_outbox`. -/
structure Producer where
  bucket : CoreStoreBucket
  payload : List UInt8
  nanos : Nat
  suffix : Nat
  stage : AppendStage

namespace Producer

def key (producer : Producer) : String :=
  String.ofList (paddedDecimal 22 producer.nanos ++ '-' :: paddedDecimal 4 producer.suffix)

def probe (rows : Rows) (producer : Producer) : Producer :=
  if (rows.find producer.key).isNone then { producer with stage := .putting }
  else if producer.suffix < u32Max then { producer with suffix := producer.suffix + 1 }
  else { producer with stage := .failed }

def delete (bucket : CoreStoreBucket) (key : String) (producer : Producer) : Producer :=
  if producer.bucket = bucket ∧ producer.key = key ∧ producer.stage = .returned false then
    { producer with stage := .returned true }
  else producer

end Producer

open Producer

/-- The tables and the calls. -/
structure AppendState where
  tables : CoreStoreBucket → Rows
  producers : List Producer

/-- What may happen to the tables. -/
inductive AppendEvent where
  /-- `append_outbox` is called and reads the clock. -/
  | start (bucket : CoreStoreBucket) (payload : List UInt8) (nanos : Nat)
  | probe (index : Nat)
  | put (index : Nat)
  /-- A transaction of the producer fails. -/
  | fail (index : Nat)
  | delete (bucket : CoreStoreBucket) (key : String)

namespace AppendState
variable (state : AppendState)

def initial (tables : CoreStoreBucket → Rows) : AppendState := { tables, producers := [] }

def set (index : Nat) (producer : Producer) : AppendState :=
  { state with producers := state.producers.set index producer }

def put (index : Nat) (producer : Producer) : AppendState :=
  { state with
    tables := update state.tables producer.bucket
      ((state.tables producer.bucket).insert producer.key producer.payload)
    producers := state.producers.set index { producer with stage := .returned false } }

def delete (bucket : CoreStoreBucket) (key : String) : AppendState where
  tables := update state.tables bucket ((state.tables bucket).erase key)
  producers := state.producers.map (Producer.delete bucket key)

def peekOutbox (bucket : CoreStoreBucket) (limit : Nat) :
    Except String (List (String × List UInt8)) :=
  if bucket.isOutbox then .ok (peekRows limit [] (state.tables bucket).entries)
  else .error ("peek_outbox is only valid for outbox-style buckets; got " ++ bucket.debug)

end AppendState

def appendMachine : Machine AppendState AppendEvent where
  step state
    | .start bucket payload nanos => some { state with
        producers :=
          state.producers ++ [{ bucket, payload, nanos, suffix := 0, stage := .probing }] }
    | .probe index => state.producers[index]?.bind fun producer =>
        if producer.stage = .probing then
          some (state.set index (producer.probe (state.tables producer.bucket)))
        else none
    | .put index => state.producers[index]?.bind fun producer =>
        if producer.stage = .putting then some (state.put index producer) else none
    | .fail index => state.producers[index]?.bind fun producer =>
        if producer.stage = .probing ∨ producer.stage = .putting then
          some (state.set index { producer with stage := .failed })
        else none
    | .delete bucket key => some (state.delete bucket key)

/-! ## What producers may rely on -/

/-- No key is returned twice for a bucket, and the row of a returned key can be peeked until it
is deleted. -/
structure AppendState.Lossless (state : AppendState) : Prop where
  distinct : ∀ (first second : Nat) (left right : Producer) (leftGone rightGone : Bool),
    first ≠ second → state.producers[first]? = some left →
    state.producers[second]? = some right → left.bucket = right.bucket →
    left.stage = .returned leftGone → right.stage = .returned rightGone → left.key ≠ right.key
  listed : ∀ producer ∈ state.producers, producer.stage = .returned false →
    ∀ limit, (state.tables producer.bucket).entries.length ≤ limit →
    ∃ rows, state.peekOutbox producer.bucket limit = .ok rows ∧
      (producer.key, producer.payload) ∈ rows

/-- Rows are appended to outboxes, and a producer does not look up the nanosecond and suffix that
another is about to put in its bucket, or whose row has been deleted. -/
def AppendState.Exclusive (state : AppendState) : AppendEvent → Prop
  | .start bucket _ _ => bucket.isOutbox
  | .probe index => ∀ producer ∈ state.producers[index]?, ∀ other ∈ state.producers,
      other.bucket = producer.bucket → other.nanos = producer.nanos →
      other.suffix = producer.suffix → other.stage ≠ .putting ∧ other.stage ≠ .returned true
  | .put _ | .fail _ | .delete _ _ => True

instance (state : AppendState) (event : AppendEvent) : Decidable (state.Exclusive event) := by
  unfold AppendState.Exclusive
  split <;> infer_instance

/-! ## Keys -/

namespace Producer

private theorem key_inj {first second : Producer} (same : first.key = second.key) :
    first.nanos = second.nanos ∧ first.suffix = second.suffix := by
  have absent (number : Nat) : '-' ∉ paddedDecimal 22 number := by
    intro member
    exact absurd (isDigit_of_mem_paddedDecimal member) (by decide)
  have texts := String.ofList_injective same
  obtain ⟨nanos, suffix⟩ := append_cons_inj_of_first (absent _) (absent _) texts
  exact ⟨paddedDecimal_injective _ nanos, paddedDecimal_injective _ suffix⟩

/-- The producer is about to put the row of the nanosecond and suffix, or has put it. -/
def Holds (bucket : CoreStoreBucket) (nanos suffix : Nat) (producer : Producer) : Prop :=
  producer.bucket = bucket ∧ producer.nanos = nanos ∧ producer.suffix = suffix ∧
    (producer.stage = .putting ∨ ∃ deleted, producer.stage = .returned deleted)

private theorem holds_of_returned {producer : Producer} {deleted : Bool}
    (returned : producer.stage = .returned deleted) :
    producer.Holds producer.bucket producer.nanos producer.suffix :=
  ⟨rfl, rfl, rfl, .inr ⟨deleted, returned⟩⟩

private theorem delete_cases (bucket : CoreStoreBucket) (key : String) (producer : Producer) :
    (producer.delete bucket key = { producer with stage := .returned true } ∧
        producer.stage = .returned false) ∨
      (producer.delete bucket key = producer ∧
        (producer.stage = .returned false → producer.bucket = bucket → producer.key ≠ key)) := by
  unfold delete
  split
  · next here => exact .inl ⟨rfl, here.2.2⟩
  · next elsewhere =>
    refine .inr ⟨rfl, ?_⟩
    intro returned sameBucket sameKey
    exact elsewhere ⟨sameBucket, sameKey, returned⟩

private theorem probe_cases (rows : Rows) (producer : Producer) :
    (rows.find producer.key = none ∧ producer.probe rows = { producer with stage := .putting }) ∨
      producer.probe rows = { producer with suffix := producer.suffix + 1 } ∨
      producer.probe rows = { producer with stage := .failed } := by
  unfold probe
  split
  · next absent => exact .inl ⟨Option.isNone_iff_eq_none.mp absent, rfl⟩
  · split
    · exact .inr (.inl rfl)
    · exact .inr (.inr rfl)

end Producer

/-! ## Probes that do not overlap -/

namespace AppendState

/-- No two calls have one key, and rows stay. -/
structure Kept (state : AppendState) : Prop where
  outboxes : ∀ producer ∈ state.producers, producer.bucket.isOutbox
  alone : ∀ bucket nanos suffix, Alone (Holds bucket nanos suffix) state.producers
  stored : ∀ producer ∈ state.producers, producer.stage = .returned false →
    (state.tables producer.bucket).find producer.key = some producer.payload

variable {state next : AppendState}

private theorem kept_initial (tables : CoreStoreBucket → Rows) : (initial tables).Kept where
  outboxes := nofun
  alone _ _ _ := alone_nil
  stored := nofun

private theorem Kept.lossless (kept : state.Kept) : state.Lossless where
  distinct first second left right leftGone rightGone apart atFirst atSecond sameBucket
      leftReturned rightReturned sameKey := by
    obtain ⟨sameNanos, sameSuffix⟩ := key_inj sameKey
    have holds : right.Holds left.bucket left.nanos left.suffix := by
      rw [sameBucket, sameNanos, sameSuffix]
      exact holds_of_returned rightReturned
    exact apart (kept.alone _ _ _ first second left right atFirst atSecond
      (holds_of_returned leftReturned) holds)
  listed producer listed returned limit enough := by
    have row := find_eq_some.mp (kept.stored producer listed returned)
    refine ⟨(state.tables producer.bucket).entries, ?_, row⟩
    rw [peekOutbox, if_pos (kept.outboxes producer listed), peekRows_eq (by simpa using enough)]
    rfl

private theorem Kept.start (kept : state.Kept) {bucket : CoreStoreBucket} {payload : List UInt8}
    {nanos : Nat} (outbox : bucket.isOutbox) :
    Kept { state with
      producers := state.producers ++
        [{ bucket, payload, nanos, suffix := 0, stage := .probing }] } where
  outboxes := forall_mem_push kept.outboxes outbox
  alone _ _ _ := (kept.alone _ _ _).push (by simp [Holds])
  stored := forall_mem_push kept.stored nofun

section
variable {index : Nat} {producer changed : Producer}
  (kept : state.Kept) (found : state.producers[index]? = some producer)
include kept found

/-- A producer goes on without returning. -/
theorem Kept.set (sameBucket : changed.bucket = producer.bucket)
    (pending : ∀ deleted, changed.stage ≠ .returned deleted)
    (alone : changed.stage = .putting → ∀ other ∈ state.producers,
      ¬other.Holds changed.bucket changed.nanos changed.suffix) :
    (state.set index changed).Kept where
  outboxes := forall_mem_set kept.outboxes
    (sameBucket ▸ kept.outboxes producer (mem_of_getElem? found))
  alone bucket nanos suffix := by
    by_cases holds : changed.Holds bucket nanos suffix
    · obtain ⟨rfl, rfl, rfl, putting | ⟨deleted, returned⟩⟩ := holds
      · exact alone_replace (alone putting)
      · exact absurd returned (pending deleted)
    · exact (kept.alone bucket nanos suffix).replace holds
  stored := forall_mem_set kept.stored fun returned => absurd returned (pending false)

/-- A producer that finds its key free is the only one about to put it. -/
theorem Kept.probe (probing : producer.stage = .probing)
    (exclusive : state.Exclusive (.probe index)) :
    (state.set index (producer.probe (state.tables producer.bucket))).Kept := by
  obtain ⟨absent, probed⟩ | probed | probed := producer.probe_cases (state.tables producer.bucket)
  · rw [probed]
    refine kept.set found rfl nofun ?_
    rintro - other listed ⟨sameBucket, sameNanos, sameSuffix, holds⟩
    obtain ⟨notPutting, notDeleted⟩ :=
      exclusive producer found other listed sameBucket sameNanos sameSuffix
    obtain putting | ⟨_ | _, returned⟩ := holds
    · exact notPutting putting
    · -- Its row is still there, and the probe would have found it.
      have row := kept.stored other listed returned
      have sameKey : other.key = producer.key := by
        rw [key, key, sameNanos, sameSuffix]
      rw [sameBucket, sameKey] at row
      cases absent.symm.trans row
    · exact notDeleted returned
  · rw [probed]
    refine kept.set found rfl ?_ ?_
    · intro deleted returned
      cases probing.symm.trans returned
    · intro putting
      cases probing.symm.trans putting
  · rw [probed]
    exact kept.set found rfl nofun nofun

private theorem Kept.put (putting : producer.stage = .putting) :
    (state.put index producer).Kept where
  outboxes := forall_mem_set kept.outboxes (kept.outboxes producer (mem_of_getElem? found))
  alone bucket nanos suffix := by
    refine (kept.alone bucket nanos suffix).rewrite found ?_
    rintro ⟨sameBucket, sameNanos, sameSuffix, -⟩
    exact ⟨sameBucket, sameNanos, sameSuffix, .inl putting⟩
  stored other listed returned := by
    obtain ⟨place, atPlace⟩ := mem_iff_getElem?.mp listed
    change (update state.tables producer.bucket _ other.bucket).find other.key = _
    rw [update_apply]
    obtain ⟨-, rfl⟩ | ⟨apart, atPlace⟩ := getElem?_set_cases atPlace
    · rw [if_pos rfl, find_insert]
      exact if_pos rfl
    have row := kept.stored other (mem_of_getElem? atPlace) returned
    split
    · next sameBucket =>
      have otherKey : other.key ≠ producer.key := by
        intro sameKey
        obtain ⟨sameNanos, sameSuffix⟩ := key_inj sameKey
        have holds : other.Holds producer.bucket producer.nanos producer.suffix :=
          ⟨sameBucket, sameNanos, sameSuffix, .inr ⟨false, returned⟩⟩
        exact apart (kept.alone _ _ _ place index other producer atPlace found holds
          ⟨rfl, rfl, rfl, .inl putting⟩)
      rw [find_insert, if_neg otherKey, ← sameBucket]
      exact row
    · exact row

end

private theorem Kept.delete (kept : state.Kept) (bucket : CoreStoreBucket) (key : String) :
    (state.delete bucket key).Kept where
  outboxes producer listed := by
    obtain ⟨before, member, rfl⟩ := mem_map.mp listed
    obtain ⟨same, -⟩ | ⟨same, -⟩ := before.delete_cases bucket key
    all_goals
      rw [same]
      exact kept.outboxes before member
  alone place nanos suffix := by
    refine (kept.alone place nanos suffix).of_places ?_
    intro index producer found holds
    obtain ⟨before, member, rfl⟩ := Option.map_eq_some_iff.mp ((getElem?_map ..).symm.trans found)
    refine ⟨before, member, ?_⟩
    obtain ⟨same, returned⟩ | ⟨same, -⟩ := before.delete_cases bucket key
    · rw [same] at holds
      obtain ⟨sameBucket, sameNanos, sameSuffix, -⟩ := holds
      exact ⟨sameBucket, sameNanos, sameSuffix, .inr ⟨false, returned⟩⟩
    · rwa [same] at holds
  stored producer listed returned := by
    obtain ⟨before, member, rfl⟩ := mem_map.mp listed
    obtain ⟨same, -⟩ | ⟨same, elsewhere⟩ := before.delete_cases bucket key
    · rw [same] at returned
      cases returned
    rw [same] at returned ⊢
    have row := kept.stored before member returned
    change (update state.tables bucket _ before.bucket).find before.key = _
    rw [update_apply]
    split
    · next sameBucket =>
      rw [find_erase, if_neg (elsewhere returned sameBucket), ← sameBucket]
      exact row
    · exact row

private theorem Kept.step (kept : state.Kept) {event : AppendEvent}
    (exclusive : state.Exclusive event)
    (stepped : appendMachine.step state event = some next) : next.Kept := by
  cases event with
  | start =>
    cases stepped
    exact kept.start exclusive
  | probe =>
    obtain ⟨_, found, stepped⟩ := Option.bind_eq_some_iff.mp stepped
    obtain ⟨probing, rfl⟩ := of_guard stepped
    exact kept.probe found probing exclusive
  | put =>
    obtain ⟨_, found, stepped⟩ := Option.bind_eq_some_iff.mp stepped
    obtain ⟨putting, rfl⟩ := of_guard stepped
    exact kept.put found putting
  | fail =>
    obtain ⟨_, found, stepped⟩ := Option.bind_eq_some_iff.mp stepped
    obtain ⟨-, rfl⟩ := of_guard stepped
    exact kept.set found rfl nofun nofun
  | delete bucket key =>
    cases stepped
    exact kept.delete bucket key

end AppendState

/-- Where no two producers are about to put one nanosecond and suffix, and none looks up one whose
row has been deleted, every returned key is new and its row stays until it is deleted. -/
theorem appends_lossless {tables : CoreStoreBucket → Rows} {events : List AppendEvent}
    {state : AppendState}
    (exclusive : appendMachine.Along AppendState.Exclusive (.initial tables) events)
    (reached : appendMachine.run (.initial tables) events = some state) : state.Lossless := by
  have kept : state.Kept :=
    Machine.invariant_run
      (fun kept => kept.step) (AppendState.kept_initial tables) exclusive reached
  exact kept.lossless

/-- A producer that reads the nanosecond of a finished one takes the next suffix. -/
def retriedRun : List AppendEvent :=
  [.start .meteringOutbox [1] 42, .probe 0, .put 0, .start .meteringOutbox [2] 42, .probe 1,
    .probe 1, .put 1]

/-- The second append of an instant takes the next suffix. -/
theorem appends_lossless_metering :
    ∃ state, appendMachine.run (.initial fun _ => .empty) retriedRun = some state ∧
      state.producers.map (·.key) = ["0000000000000000000042-0000", "0000000000000000000042-0001"] ∧
      (state.peekOutbox .meteringOutbox 8).toOption =
        some [("0000000000000000000042-0000", [1]), ("0000000000000000000042-0001", [2])] ∧
      state.Lossless := by
  refine Machine.exists_run (by decide +kernel) fun _ reached => ?_
  have lossless := appends_lossless (by decide +kernel) reached
  cases reached
  exact ⟨rfl, rfl, lossless⟩

/-! ## Probes that overlap -/

/-- Two producers of one nanosecond find the key free before either puts its row. -/
def overlappingRun : List AppendEvent :=
  [.start .meteringOutbox [1] 42, .start .meteringOutbox [2] 42, .probe 0, .probe 1, .put 0, .put 1]

/-- The clock reads the nanosecond of a row that has been deleted. -/
def reusedRun : List AppendEvent :=
  [.start .meteringOutbox [1] 42, .probe 0, .put 0,
    .delete .meteringOutbox "0000000000000000000042-0000", .start .meteringOutbox [2] 42, .probe 1,
    .put 1]

/-- The bucket is not one that can be peeked. -/
def hiddenRun : List AppendEvent := [.start .tlsCerts [1] 42, .probe 0, .put 0]

private theorem AppendState.Lossless.key_ne {state : AppendState} (lossless : state.Lossless)
    {first second : Producer} (producers : state.producers = [first, second])
    (sameBucket : first.bucket = second.bucket) {firstGone secondGone : Bool}
    (firstReturned : first.stage = .returned firstGone)
    (secondReturned : second.stage = .returned secondGone) : first.key ≠ second.key :=
  lossless.distinct 0 1 first second firstGone secondGone (by decide)
    (congrArg (·[0]?) producers) (congrArg (·[1]?) producers) sameBucket firstReturned
    secondReturned

/-- Overlapping appends share a key, a deleted key is used again, a row stays hidden. -/
theorem append_loses_row :
    (∃ state, appendMachine.run (.initial fun _ => .empty) overlappingRun = some state ∧
      state.producers.map (·.stage) = [.returned false, .returned false] ∧
      (state.peekOutbox .meteringOutbox 8).toOption = some [("0000000000000000000042-0000", [2])] ∧
      ¬state.Lossless) ∧
    (∃ state, appendMachine.run (.initial fun _ => .empty) reusedRun = some state ∧
      state.producers.map (·.key) = ["0000000000000000000042-0000", "0000000000000000000042-0000"] ∧
      ¬state.Lossless) ∧
    ∃ state, appendMachine.run (.initial fun _ => .empty) hiddenRun = some state ∧
      state.producers.map (·.stage) = [.returned false] ∧
      state.peekOutbox .tlsCerts 8 =
        .error "peek_outbox is only valid for outbox-style buckets; got TlsCerts" ∧
      ¬state.Lossless := by
  refine ⟨⟨_, rfl, rfl, by decide +kernel, ?_⟩, ⟨_, rfl, by decide +kernel, ?_⟩,
    ⟨_, rfl, rfl, rfl, fun lossless => ?_⟩⟩
  · exact fun lossless => lossless.key_ne rfl rfl rfl rfl rfl
  · exact fun lossless => lossless.key_ne rfl rfl rfl rfl rfl
  · obtain ⟨_, peeked, -⟩ := lossless.listed _ (mem_singleton_self _) rfl _ (le_refl _)
    cases peeked

end TachyonMesh.Outbox
