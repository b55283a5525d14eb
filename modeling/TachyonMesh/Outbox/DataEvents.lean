import TachyonMesh.Foundation.Machine
import TachyonMesh.Foundation.Outcome
import TachyonMesh.Foundation.Slots
import TachyonMesh.Foundation.Text

/-! # The outbox of data events

The events of an outbox table are one value of the core store. Every call loads the value, edits
its copy and stores it, in a read and a write transaction of their own.
-/

namespace TachyonMesh.Outbox
open Foundation List

/-! ## Tables -/

def claimLeaseMs : Nat := 30000

/-- An event as consumers see it. -/
structure OutboxEvent where
  id : String
  contentType : String
  body : List UInt8
deriving DecidableEq

/-- An event as it is stored. -/
structure StoredOutboxEvent where
  id : String
  contentType : String
  body : List UInt8
  claimedAtMs : Option Nat

def normalizeNonEmpty (label value : String) : Except String String :=
  let trimmed := trim value
  if trimmed = "" then .error (label ++ " must not be empty") else .ok trimmed

def tableKey (dbUrl table : String) : Except String String := do
  let dbUrl ← normalizeNonEmpty "DB_URL" dbUrl
  let table ← normalizeNonEmpty "OUTBOX_TABLE" table
  pure (dbUrl ++ "::" ++ table)

namespace StoredOutboxEvent

/-- What a claim returns of an event. -/
def output (event : StoredOutboxEvent) : OutboxEvent :=
  { id := event.id, contentType := event.contentType, body := event.body }

/-- The event is not claimed, or its lease is over; `now` may be before the claim. -/
def available (nowMs : Nat) (event : StoredOutboxEvent) : Bool :=
  event.claimedAtMs.all fun claimedAtMs => claimLeaseMs ≤ nowMs - claimedAtMs

def claim (nowMs : Nat) (event : StoredOutboxEvent) : StoredOutboxEvent :=
  { event with claimedAtMs := some nowMs }

private theorem lease_le_of_available {nowMs claimedAtMs : Nat} {event : StoredOutboxEvent}
    (mark : event.claimedAtMs = some claimedAtMs) (available : event.available nowMs) :
    claimedAtMs + claimLeaseMs ≤ nowMs := by
  rw [StoredOutboxEvent.available, mark] at available
  have lapsed : claimLeaseMs ≤ nowMs - claimedAtMs := of_decide_eq_true available
  have positive : 0 < claimLeaseMs := by decide
  omega

end StoredOutboxEvent

/-- The loop of `claim_events`, with the number of events that may still be claimed. -/
def claimEvents (nowMs : Nat) :
    Nat → List StoredOutboxEvent → List StoredOutboxEvent × List OutboxEvent
  | _, [] => ([], [])
  | maxEvents, event :: rest =>
      if event.available nowMs then
        if maxEvents ≤ 1 then (event.claim nowMs :: rest, [event.output])
        else
          let (events, claimed) := claimEvents nowMs (maxEvents - 1) rest
          (event.claim nowMs :: events, event.output :: claimed)
      else
        let (events, claimed) := claimEvents nowMs maxEvents rest
        (event :: events, claimed)

/-- What a consumer or producer asks for. -/
inductive Request where
  | enqueue (id contentType : String) (body : List UInt8)
  | claim (maxEvents : Nat)
  | ack (id : String)
deriving DecidableEq

namespace Request

/-- The id that the call gives to a new event. -/
def enqueues : Request → Option String
  | .enqueue id _ _ => some id
  | .claim _ | .ack _ => none

/-- The edited copy of the table, and what a claim returns. -/
def edit (nowMs : Nat) (table : List StoredOutboxEvent) :
    Request → List StoredOutboxEvent × List OutboxEvent
  | .enqueue id contentType body => (table ++ [{ id, contentType, body, claimedAtMs := none }], [])
  | .claim maxEvents => claimEvents nowMs maxEvents table
  | .ack id => (table.filter fun event => event.id ≠ id, [])

end Request

/-! ## Calls -/

/-- How far a call has come. -/
inductive CallStatus where
  /-- It has read the table and not written it. -/
  | pending
  | succeeded
  | failed
deriving DecidableEq

/-- A call with the rows it has read. -/
structure Call where
  key : String
  request : Request
  nowMs : Nat
  /-- The table that it has read. -/
  read : List StoredOutboxEvent
  status : CallStatus

namespace Call

def written (call : Call) : List StoredOutboxEvent := (call.request.edit call.nowMs call.read).1

def claimed (call : Call) : List OutboxEvent := (call.request.edit call.nowMs call.read).2

end Call

/-- The tables and the calls. -/
structure OutboxState where
  tables : String → List StoredOutboxEvent
  nowMs : Nat
  calls : List Call

/-- What may happen to a table. -/
inductive CallEvent where
  /-- A call loads the table and reads the clock. -/
  | read (dbUrl table : String) (request : Request) (nowMs : Nat)
  /-- The call stores its copy and returns. -/
  | write (index : Nat)
  /-- The copy cannot be stored, and the call returns the error. -/
  | fail (index : Nat)

namespace OutboxState
variable (state : OutboxState)

def initial : OutboxState := { tables := fun _ => [], nowMs := 0, calls := [] }

def fresh (id : String) : Bool := state.calls.all fun call => call.request.enqueues ≠ some id

def read (key : String) (request : Request) (nowMs : Nat) : OutboxState :=
  { state with
    nowMs
    calls := state.calls ++ [{
      key, request, nowMs, read := state.tables key, status := .pending }] }

def setStatus (index : Nat) (call : Call) (status : CallStatus) : OutboxState :=
  { state with calls := state.calls.set index { call with status } }

/-- `save_table`. -/
def write (index : Nat) (call : Call) : OutboxState :=
  { state with tables := Function.update state.tables call.key call.written }.setStatus index call
    .succeeded

end OutboxState

/-- Calls to `enqueue_event`, `claim_events` and `ack_event`. A claim of no events returns before
it reads. -/
def outboxMachine : Machine OutboxState CallEvent where
  step state
    | .read dbUrl table request nowMs =>
        match tableKey dbUrl table with
        | .error _ => none
        | .ok key =>
            if state.nowMs ≤ nowMs ∧ request ≠ .claim 0 ∧ (request.enqueues.all state.fresh) then
              some (state.read key request nowMs)
            else none
    | .write index => state.calls[index]?.bind fun call =>
        if call.status = .pending then some (state.write index call) else none
    | .fail index => state.calls[index]?.bind fun call =>
        if call.status = .pending then some (state.setStatus index call .failed) else none

/-! ## What callers may rely on -/

/-- The call has found the event in the table and removed it. -/
def Call.Acknowledges (id : String) (call : Call) : Prop :=
  call.request = .ack id ∧ call.status = .succeeded ∧ ∃ event ∈ call.read, event.id = id

/-- An event stays in its table until it is acknowledged; what is acknowledged does not come
back; and two claims of one event are a lease apart. -/
structure OutboxState.Sound (state : OutboxState) : Prop where
  kept : ∀ call ∈ state.calls, call.status = .succeeded → ∀ id contentType body,
    call.request = .enqueue id contentType body →
    (∃ event ∈ state.tables call.key, event.output = { id, contentType, body }) ∨
      ∃ ack ∈ state.calls, ack.key = call.key ∧ ack.Acknowledges id
  acknowledged : ∀ call ∈ state.calls, ∀ id, call.Acknowledges id →
    ∀ event ∈ state.tables call.key, event.id ≠ id
  leased : ∀ (first second : Nat) (earlier later : Call), first ≠ second →
    state.calls[first]? = some earlier → state.calls[second]? = some later →
    earlier.status = .succeeded → later.status = .succeeded → earlier.key = later.key →
    (∃ left ∈ earlier.claimed, ∃ right ∈ later.claimed, left.id = right.id) →
    earlier.nowMs ≤ later.nowMs → earlier.nowMs + claimLeaseMs ≤ later.nowMs

/-- A call reads a table only while no other call is between its read and its write of it. -/
def OutboxState.Serial (state : OutboxState) : CallEvent → Prop
  | .read dbUrl table _ _ => ∀ call ∈ state.calls,
      call.status = .pending → (tableKey dbUrl table).toOption ≠ some call.key
  | .write _ | .fail _ => True

instance (state : OutboxState) (event : CallEvent) : Decidable (state.Serial event) := by
  unfold OutboxState.Serial
  split <;> infer_instance

/-! ## Claims -/

variable {nowMs maxEvents : Nat} {table : List StoredOutboxEvent} {output : OutboxEvent}

/-- A claim marks some of the available events and returns them. -/
theorem claimEvents_eq (nowMs maxEvents : Nat) (table : List StoredOutboxEvent) :
    ∃ picks : List (StoredOutboxEvent × Bool), picks.map Prod.fst = table ∧
      (∀ pick ∈ picks, pick.2 → pick.1.available nowMs) ∧
      claimEvents nowMs maxEvents table =
        (picks.map fun pick => if pick.2 then pick.1.claim nowMs else pick.1,
          (picks.filter Prod.snd).map fun pick => pick.1.output) := by
  fun_induction claimEvents nowMs maxEvents table with
  | case1 => exact ⟨[], by simp⟩
  | case2 _ event rest available =>
    refine ⟨(event, true) :: rest.map (·, false), ?_⟩
    simp [available, Function.comp_def, filter_map]
  | case3 _ event _ available _ _ _ taken ih =>
    obtain ⟨picks, rfl, allowed, same⟩ := ih
    cases taken.symm.trans same
    exact ⟨(event, true) :: picks, by simpa [available] using allowed⟩
  | case4 _ event _ _ _ _ taken ih =>
    obtain ⟨picks, rfl, allowed, same⟩ := ih
    cases taken.symm.trans same
    exact ⟨(event, false) :: picks, by simpa using allowed⟩

private theorem map_output_claimEvents (nowMs maxEvents : Nat) (table : List StoredOutboxEvent) :
    (claimEvents nowMs maxEvents table).1.map StoredOutboxEvent.output =
      table.map StoredOutboxEvent.output := by
  obtain ⟨_, rfl, -, same⟩ := claimEvents_eq nowMs maxEvents table
  rw [same, map_map, map_map]
  refine map_congr_left fun pick _ => ?_
  cases pick with
  | mk _ taken => cases taken <;> rfl

private theorem mem_claimEvents {event : StoredOutboxEvent}
    (listed : event ∈ (claimEvents nowMs maxEvents table).1) :
    event ∈ table ∨ ∃ before ∈ table, before.available nowMs ∧ event = before.claim nowMs := by
  obtain ⟨_, rfl, allowed, same⟩ := claimEvents_eq nowMs maxEvents table
  rw [same] at listed
  obtain ⟨⟨before, taken⟩, member, rfl⟩ := mem_map.mp listed
  cases taken with
  | false => exact .inl (mem_map_of_mem member)
  | true => exact .inr ⟨before, mem_map_of_mem member, allowed _ member rfl, rfl⟩

private theorem mem_claimed (returned : output ∈ (claimEvents nowMs maxEvents table).2) :
    ∃ event ∈ table, event.available nowMs ∧ event.output = output ∧
      event.claim nowMs ∈ (claimEvents nowMs maxEvents table).1 := by
  obtain ⟨_, rfl, allowed, same⟩ := claimEvents_eq nowMs maxEvents table
  rw [same] at returned ⊢
  obtain ⟨⟨event, _⟩, kept, rfl⟩ := mem_map.mp returned
  obtain ⟨member, rfl⟩ := mem_filter.mp kept
  exact ⟨event, mem_map_of_mem member, allowed _ member rfl, rfl,
    mem_map_of_mem (f := fun pick => if pick.2 then pick.1.claim nowMs else pick.1) member⟩

/-! ## Edits -/

section
variable {nowMs : Nat} {table : List StoredOutboxEvent} {request : Request}
  {event : StoredOutboxEvent}

private theorem mem_edit (listed : event ∈ (request.edit nowMs table).1) :
    request ≠ .ack event.id ∧
      (event ∈ table ∨
        (∃ before ∈ table, before.available nowMs ∧ event = before.claim nowMs) ∨
        request.enqueues = some event.id) := by
  cases request with
  | enqueue =>
    refine ⟨nofun, ?_⟩
    obtain listed | last := mem_append.mp listed
    · exact .inl listed
    · rw [mem_singleton.mp last]
      exact .inr (.inr rfl)
  | claim =>
    refine ⟨nofun, ?_⟩
    obtain listed | claimed := mem_claimEvents listed
    · exact .inl listed
    · exact .inr (.inl claimed)
  | ack =>
    obtain ⟨listed, other⟩ := mem_filter.mp listed
    refine ⟨?_, .inl listed⟩
    rintro ⟨⟩
    exact of_decide_eq_true other rfl

private theorem exists_mem_edit (listed : event ∈ table) (stays : request ≠ .ack event.id) :
    ∃ after ∈ (request.edit nowMs table).1, after.output = event.output := by
  cases request with
  | enqueue => exact ⟨event, mem_append_left _ listed, rfl⟩
  | claim maxEvents =>
    have output : event.output ∈ (claimEvents nowMs maxEvents table).1.map
        StoredOutboxEvent.output := by
      rw [map_output_claimEvents]
      exact mem_map_of_mem listed
    exact mem_map.mp output
  | ack =>
    refine ⟨event, mem_filter.mpr ⟨listed, decide_eq_true ?_⟩, rfl⟩
    rintro rfl
    exact stays rfl

private theorem nodup_edit (distinct : (table.map StoredOutboxEvent.id).Nodup)
    (fresh : ∀ event ∈ table, request.enqueues ≠ some event.id) :
    ((request.edit nowMs table).1.map StoredOutboxEvent.id).Nodup := by
  cases request with
  | enqueue =>
    rw [Request.edit, map_append, nodup_append]
    refine ⟨distinct, nodup_singleton _, ?_⟩
    intro other listed last here
    obtain ⟨event, member, rfl⟩ := mem_map.mp listed
    rw [mem_singleton.mp here]
    exact fun same => fresh event member (congrArg some same.symm)
  | claim =>
    have ids (events : List StoredOutboxEvent) : events.map StoredOutboxEvent.id =
        (events.map StoredOutboxEvent.output).map OutboxEvent.id := by
      rw [map_map]
      rfl
    rw [Request.edit, ids, map_output_claimEvents, ← ids]
    exact distinct
  | ack => exact distinct.sublist (filter_sublist.map _)

private theorem mem_edit_claimed (returned : output ∈ (request.edit nowMs table).2) :
    ∃ event ∈ table, event.available nowMs ∧ event.output = output ∧
      event.claim nowMs ∈ (request.edit nowMs table).1 := by
  cases request with
  | enqueue | ack => cases returned
  | claim => exact mem_claimed returned

end

/-! ## Calls that do not overlap -/

namespace OutboxState

/-- The invariant of runs without overlap. -/
structure Kept (state : OutboxState) : Prop extends state.Sound where
  /-- A call that has not written has read the table as it is. -/
  current : ∀ call ∈ state.calls, call.status = .pending → call.read = state.tables call.key
  single : ∀ key, Alone (fun call => call.key = key ∧ call.status = .pending) state.calls
  /-- No two calls give one id. -/
  issued : ∀ id, Alone (fun call => call.request.enqueues = some id) state.calls
  distinct : ∀ key, ((state.tables key).map StoredOutboxEvent.id).Nodup
  /-- Every event in a table comes from a call that has put it there. -/
  traced : ∀ key, ∀ event ∈ state.tables key, ∃ call ∈ state.calls,
    call.key = key ∧ call.request.enqueues = some event.id ∧ call.status = .succeeded
  sourced : ∀ call ∈ state.calls, ∀ event ∈ call.read, ∃ source ∈ state.calls,
    source.request.enqueues = some event.id ∧ source.status = .succeeded
  /-- The mark of a claim stays, or a later one is in its place. -/
  marked : ∀ call ∈ state.calls, call.status = .succeeded → ∀ output ∈ call.claimed,
    ∀ event ∈ state.tables call.key, event.id = output.id →
    ∃ claimedAtMs, event.claimedAtMs = some claimedAtMs ∧ call.nowMs ≤ claimedAtMs

variable {state next : OutboxState}

private theorem kept_initial : initial.Kept where
  kept := nofun
  acknowledged := nofun
  leased _ _ _ _ _ found := nomatch found
  current := nofun
  single _ := alone_nil
  issued _ := alone_nil
  distinct _ := nodup_nil
  traced := nofun
  sourced := nofun
  marked := nofun

private theorem Kept.read (kept : state.Kept) {key : String} {request : Request}
    (idle : ∀ call ∈ state.calls, call.status = .pending → call.key ≠ key)
    (fresh : ∀ id, request.enqueues = some id → state.fresh id) :
    (state.read key request nowMs).Kept where
  kept call listed succeeded id contentType body asked := by
    obtain listed | last := mem_append.mp listed
    · obtain present | ⟨ack, member, acked⟩ :=
        kept.kept call listed succeeded id contentType body asked
      · exact .inl present
      · exact .inr ⟨ack, mem_append_left _ member, acked⟩
    · rw [mem_singleton.mp last] at succeeded
      cases succeeded
  acknowledged := forall_mem_push kept.acknowledged fun _ acks => nomatch acks.2.1
  leased first second earlier later apart atFirst atSecond earlierDone laterDone := by
    obtain atFirst | ⟨-, rfl⟩ := getElem?_append_singleton atFirst
    · obtain atSecond | ⟨-, rfl⟩ := getElem?_append_singleton atSecond
      · exact kept.leased first second earlier later apart atFirst atSecond earlierDone laterDone
      · cases laterDone
    · cases earlierDone
  current := forall_mem_push kept.current fun _ => rfl
  single place := by
    by_cases here : key = place
    · subst here
      refine alone_push ?_
      rintro other listed ⟨sameKey, pending⟩
      exact idle other listed pending sameKey
    · exact (kept.single place).push fun both => here both.1
  issued id := by
    by_cases issues : request.enqueues = some id
    · refine alone_push ?_
      intro other listed issued
      have unused := all_eq_true.mp (fresh id issues) other listed
      exact of_decide_eq_true unused issued
    · exact (kept.issued id).push issues
  distinct := kept.distinct
  traced place event listed := by
    obtain ⟨call, member, source⟩ := kept.traced place event listed
    exact ⟨call, mem_append_left _ member, source⟩
  sourced call listed event seen := by
    have source : ∃ source ∈ state.calls, source.request.enqueues = some event.id ∧
        source.status = .succeeded := by
      obtain listed | last := mem_append.mp listed
      · exact kept.sourced call listed event seen
      · rw [mem_singleton.mp last] at seen
        obtain ⟨source, member, -, issued, succeeded⟩ := kept.traced key event seen
        exact ⟨source, member, issued, succeeded⟩
    obtain ⟨source, member, issued⟩ := source
    exact ⟨source, mem_append_left _ member, issued⟩
  marked := forall_mem_push kept.marked nofun

section
variable {index : Nat} {call changed other : Call} {event : StoredOutboxEvent} {key id : String}

/-- A call that has succeeded is not the one that goes on. -/
theorem mem_set_of_succeeded (found : state.calls[index]? = some call)
    (pending : call.status = .pending) (listed : other ∈ state.calls)
    (succeeded : other.status = .succeeded) : other ∈ state.calls.set index changed := by
  refine mem_set_of_ne found listed ?_
  rintro rfl
  rw [pending] at succeeded
  cases succeeded

section
variable (kept : state.Kept) (found : state.calls[index]? = some call)
include kept found

variable (pending : call.status = .pending)
include pending

/-- An id that a call has read was given by another call. -/
theorem Kept.issued_once (listed : other ∈ state.calls) (seen : event ∈ other.read) :
    call.request.enqueues ≠ some event.id := by
  intro issues
  obtain ⟨source, member, issued, succeeded⟩ := kept.sourced other listed event seen
  obtain ⟨place, atPlace⟩ := mem_iff_getElem?.mp member
  cases kept.issued event.id index place call source found atPlace issues issued
  cases found.symm.trans atPlace
  rw [pending] at succeeded
  cases succeeded

/-- What calls have read keeps its sources when a call goes on. -/
theorem Kept.sourced_set {status : CallStatus} :
    ∀ other ∈ state.calls.set index { call with status }, ∀ event ∈ other.read,
      ∃ source ∈ state.calls.set index { call with status },
        source.request.enqueues = some event.id ∧ source.status = .succeeded := by
  intro other listed event seen
  have seenBefore : ∃ reader ∈ state.calls, event ∈ reader.read := by
    obtain listed | rfl := mem_or_eq_of_mem_set listed
    · exact ⟨other, listed, seen⟩
    · exact ⟨call, mem_of_getElem? found, seen⟩
  obtain ⟨reader, member, seen⟩ := seenBefore
  obtain ⟨source, member, issued, succeeded⟩ := kept.sourced reader member event seen
  exact ⟨source, mem_set_of_succeeded found pending member succeeded, issued, succeeded⟩

private theorem Kept.traced_set (status : CallStatus) (present : event ∈ state.tables key) :
    ∃ source ∈ state.calls.set index { call with status }, source.key = key ∧
      source.request.enqueues = some event.id ∧ source.status = .succeeded := by
  obtain ⟨source, member, sameKey, issued, succeeded⟩ := kept.traced key event present
  exact ⟨source, mem_set_of_succeeded found pending member succeeded, sameKey, issued, succeeded⟩

private theorem Kept.fail : (state.setStatus index call .failed).Kept where
  kept other listed succeeded id contentType body asked := by
    obtain listed | rfl := mem_or_eq_of_mem_set listed
    · obtain present | ⟨ack, member, sameKey, acks⟩ :=
        kept.kept other listed succeeded id contentType body asked
      · exact .inl present
      · exact .inr ⟨ack, mem_set_of_succeeded found pending member acks.2.1, sameKey, acks⟩
    · cases succeeded
  acknowledged := forall_mem_set kept.acknowledged fun _ acks => nomatch acks.2.1
  leased first second earlier later apart atFirst atSecond earlierDone laterDone := by
    obtain ⟨-, rfl⟩ | ⟨-, atFirst⟩ := getElem?_set_cases atFirst
    · cases earlierDone
    · obtain ⟨-, rfl⟩ | ⟨-, atSecond⟩ := getElem?_set_cases atSecond
      · cases laterDone
      · exact kept.leased first second earlier later apart atFirst atSecond earlierDone laterDone
  current := forall_mem_set kept.current nofun
  single key := (kept.single key).replace nofun
  issued id := (kept.issued id).rewrite found fun issues => issues
  distinct := kept.distinct
  traced _ _ := kept.traced_set found pending _
  sourced := kept.sourced_set found pending
  marked := forall_mem_set kept.marked nofun

end

private theorem tables_write (key : String) : (state.write index call).tables key =
    if key = call.key then call.written else state.tables key :=
  Function.update_apply _ _ _ _

variable (kept : state.Kept) (found : state.calls[index]? = some call)
  (pending : call.status = .pending)
include kept found pending

/-- Where the events of a table come from after a write. -/
theorem Kept.mem_write (listed : event ∈ (state.write index call).tables key) :
    (key = call.key → call.request ≠ .ack event.id) ∧
      (event ∈ state.tables key ∨
        (∃ before ∈ state.tables key,
          before.available call.nowMs ∧ event = before.claim call.nowMs) ∨
        (key = call.key ∧ call.request.enqueues = some event.id)) := by
  rw [tables_write] at listed
  split at listed
  · next here =>
    subst here
    rw [Call.written, kept.current call (mem_of_getElem? found) pending] at listed
    obtain ⟨stays, present | claimed | issued⟩ := mem_edit listed
    · exact ⟨fun _ => stays, .inl present⟩
    · exact ⟨fun _ => stays, .inr (.inl claimed)⟩
    · exact ⟨fun _ => stays, .inr (.inr ⟨rfl, issued⟩)⟩
  · next apart => exact ⟨fun here => absurd here apart, .inl listed⟩

/-- An id that has been read or returned is not the id of a new event. -/
theorem Kept.mem_write_of_read (listed : other ∈ state.calls) {seen : StoredOutboxEvent}
    (read : seen ∈ other.read) (present : event ∈ (state.write index call).tables key)
    (sameId : event.id = seen.id) :
    event ∈ state.tables key ∨ ∃ before ∈ state.tables key,
      before.available call.nowMs ∧ event = before.claim call.nowMs := by
  obtain ⟨-, present | claimed | ⟨-, issued⟩⟩ := kept.mem_write found pending present
  · exact .inl present
  · exact .inr claimed
  · rw [sameId] at issued
    exact absurd issued (kept.issued_once found pending listed read)

/-- The claims of a call that writes come a lease after all earlier ones. -/
theorem Kept.lease_over {other : Call} (listed : other ∈ state.calls)
    (succeeded : other.status = .succeeded) (sameKey : other.key = call.key)
    {left right : OutboxEvent} (earlier : left ∈ other.claimed) (later : right ∈ call.claimed)
    (sameId : left.id = right.id) : other.nowMs + claimLeaseMs ≤ call.nowMs := by
  rw [Call.claimed, kept.current call (mem_of_getElem? found) pending] at later
  obtain ⟨event, member, available, output, -⟩ := mem_edit_claimed later
  have eventId : event.id = left.id := by
    rw [sameId, ← output]
    rfl
  rw [← sameKey] at member
  obtain ⟨_, mark, _⟩ := kept.marked other listed succeeded left earlier event member eventId
  have lapsed := StoredOutboxEvent.lease_le_of_available mark available
  omega

private theorem Kept.write_kept (listed : other ∈ (state.write index call).calls)
    (succeeded : other.status = .succeeded) {contentType : String} {body : List UInt8}
    (asked : other.request = .enqueue id contentType body) :
    (∃ event ∈ (state.write index call).tables other.key,
      event.output = { id, contentType, body }) ∨
      ∃ ack ∈ (state.write index call).calls, ack.key = other.key ∧ ack.Acknowledges id := by
  rw [tables_write]
  obtain listed | rfl := mem_or_eq_of_mem_set listed
  · obtain ⟨event, present, output⟩ | ⟨ack, acking, sameKey, acks⟩ :=
      kept.kept other listed succeeded id contentType body asked
    · split
      · next here =>
        have current := kept.current call (mem_of_getElem? found) pending
        rw [here, ← current] at present
        by_cases acks : call.request = .ack event.id
        · have sameId : event.id = id := congrArg OutboxEvent.id output
          rw [sameId] at acks
          exact .inr ⟨_, mem_of_getElem? (getElem?_set_of_some found), here.symm, acks, rfl,
            event, present, sameId⟩
        · obtain ⟨after, listed, same⟩ := exists_mem_edit present acks
          exact .inl ⟨after, listed, same.trans output⟩
      · exact .inl ⟨event, present, output⟩
    · exact .inr ⟨ack, mem_set_of_succeeded found pending acking acks.2.1, sameKey, acks⟩
  · refine .inl ?_
    rw [if_pos rfl, Call.written, asked]
    exact ⟨_, mem_append_right _ (mem_singleton_self _), rfl⟩

private theorem Kept.write_acknowledged (listed : other ∈ (state.write index call).calls)
    (acks : other.Acknowledges id) :
    ∀ event ∈ (state.write index call).tables other.key, event.id ≠ id := by
  intro event present same
  obtain listed | rfl := mem_or_eq_of_mem_set listed
  · have gone := kept.acknowledged other listed id acks
    obtain ⟨-, -, _, read, rfl⟩ := acks
    obtain present | ⟨before, listed, -, rfl⟩ :=
      kept.mem_write_of_read found pending listed read present same
    · exact gone event present same
    · exact gone before listed same
  · obtain ⟨stays, -⟩ := kept.mem_write found pending present
    exact stays rfl (acks.1.trans (congrArg Request.ack same.symm))

private theorem Kept.write_leased {first second : Nat} {earlier later : Call}
    (apart : first ≠ second)
    (atFirst : (state.write index call).calls[first]? = some earlier)
    (atSecond : (state.write index call).calls[second]? = some later)
    (earlierDone : earlier.status = .succeeded) (laterDone : later.status = .succeeded)
    (sameKey : earlier.key = later.key)
    (shared : ∃ left ∈ earlier.claimed, ∃ right ∈ later.claimed, left.id = right.id)
    (order : earlier.nowMs ≤ later.nowMs) : earlier.nowMs + claimLeaseMs ≤ later.nowMs := by
  obtain ⟨left, inLeft, right, inRight, sameId⟩ := shared
  obtain ⟨here, rfl⟩ | ⟨-, atFirst⟩ := getElem?_set_cases atFirst
  · obtain ⟨hereToo, -⟩ | ⟨-, atSecond⟩ := getElem?_set_cases atSecond
    · exact absurd (here.trans hereToo.symm) apart
    · have lapsed := kept.lease_over found pending (mem_of_getElem? atSecond) laterDone
        sameKey.symm inRight inLeft sameId.symm
      have positive : 0 < claimLeaseMs := by decide
      change call.nowMs ≤ later.nowMs at order
      omega
  · obtain ⟨-, rfl⟩ | ⟨-, atSecond⟩ := getElem?_set_cases atSecond
    · exact kept.lease_over found pending (mem_of_getElem? atFirst) earlierDone sameKey
        inLeft inRight sameId
    · exact kept.leased first second earlier later apart atFirst atSecond earlierDone laterDone
        sameKey ⟨left, inLeft, right, inRight, sameId⟩ order

private theorem Kept.write_distinct (key : String) :
    (((state.write index call).tables key).map StoredOutboxEvent.id).Nodup := by
  have member := mem_of_getElem? found
  have current := kept.current call member pending
  rw [tables_write]
  split
  · rw [Call.written, current]
    refine nodup_edit (kept.distinct _) ?_
    intro event listed
    rw [← current] at listed
    exact kept.issued_once found pending member listed
  · exact kept.distinct key

private theorem Kept.write_marked (listed : other ∈ (state.write index call).calls)
    (succeeded : other.status = .succeeded) (returned : output ∈ other.claimed)
    (present : event ∈ (state.write index call).tables other.key) (sameId : event.id = output.id) :
    ∃ claimedAtMs, event.claimedAtMs = some claimedAtMs ∧ other.nowMs ≤ claimedAtMs := by
  obtain ⟨seen, read, -, rfl, marked⟩ := mem_edit_claimed returned
  obtain listed | rfl := mem_or_eq_of_mem_set listed
  · obtain present | ⟨before, stored, available, rfl⟩ :=
      kept.mem_write_of_read found pending listed read present sameId
    · exact kept.marked other listed succeeded _ returned event present sameId
    · obtain ⟨_, mark, _⟩ :=
        kept.marked other listed succeeded _ returned before stored sameId
      have lapsed := StoredOutboxEvent.lease_le_of_available mark available
      exact ⟨call.nowMs, rfl, by omega⟩
  · have distinct := kept.write_distinct found pending call.key
    have claimed : seen.claim call.nowMs ∈ (state.write index call).tables call.key := by
      rw [tables_write, if_pos rfl]
      exact marked
    have same : event = seen.claim call.nowMs := inj_on_of_nodup_map distinct present claimed sameId
    rw [same]
    exact ⟨call.nowMs, rfl, le_refl _⟩

private theorem Kept.write : (state.write index call).Kept where
  kept _ listed succeeded _ _ _ asked := kept.write_kept found pending listed succeeded asked
  acknowledged _ listed _ acks := kept.write_acknowledged found pending listed acks
  leased _ _ _ _ apart atFirst atSecond earlierDone laterDone sameKey shared order :=
    kept.write_leased
      found pending apart atFirst atSecond earlierDone laterDone sameKey shared order
  current other listed stillPending := by
    obtain ⟨place, atPlace⟩ := mem_iff_getElem?.mp listed
    obtain ⟨-, rfl⟩ | ⟨apart, atPlace⟩ := getElem?_set_cases atPlace
    · cases stillPending
    have otherKey : other.key ≠ call.key := by
      intro sameKey
      exact apart (kept.single call.key place index other call atPlace found
        ⟨sameKey, stillPending⟩ ⟨rfl, pending⟩)
    rw [tables_write, if_neg otherKey]
    exact kept.current other (mem_of_getElem? atPlace) stillPending
  single key := (kept.single key).replace nofun
  issued id := (kept.issued id).rewrite found fun issues => issues
  distinct := kept.write_distinct found pending
  traced key event listed := by
    obtain ⟨-, present | ⟨_, present, -, rfl⟩ | ⟨here, issued⟩⟩ :=
      kept.mem_write found pending listed
    · exact kept.traced_set found pending _ present
    · have source := kept.traced_set found pending .succeeded present
      exact source
    · exact ⟨_, mem_of_getElem? (getElem?_set_of_some found), here.symm, issued, rfl⟩
  sourced := kept.sourced_set found pending
  marked _ listed succeeded _ returned _ present sameId :=
    kept.write_marked found pending listed succeeded returned present sameId

end

private theorem Kept.step (kept : state.Kept) {event : CallEvent} (serial : state.Serial event)
    (stepped : outboxMachine.step state event = some next) : next.Kept := by
  cases event with
  | read =>
    simp only [outboxMachine] at stepped
    split at stepped
    · cases stepped
    · next _ keyed =>
      obtain ⟨⟨-, -, fresh⟩, rfl⟩ := of_guard stepped
      refine kept.read ?_ ?_
      · intro call listed pending here
        exact serial call listed pending (by rw [keyed, here]; rfl)
      · intro id issues
        rw [issues] at fresh
        exact fresh
  | write =>
    obtain ⟨_, found, stepped⟩ := Option.bind_eq_some_iff.mp stepped
    obtain ⟨pending, rfl⟩ := of_guard stepped
    exact kept.write found pending
  | fail =>
    obtain ⟨_, found, stepped⟩ := Option.bind_eq_some_iff.mp stepped
    obtain ⟨pending, rfl⟩ := of_guard stepped
    exact kept.fail found pending

end OutboxState

/-- Where calls on one table do not overlap, no event is lost, none comes back, and claims are
exclusive for a lease. -/
theorem serial_outbox_sound {events : List CallEvent} {state : OutboxState}
    (serial : outboxMachine.Along OutboxState.Serial .initial events)
    (reached : outboxMachine.run .initial events = some state) : state.Sound := by
  have kept : state.Kept :=
    Machine.invariant_run (fun kept => kept.step) OutboxState.kept_initial serial reached
  exact kept.toSound

/-- The table of the runs below. -/
def ordersCall (request : Request) (nowMs : Nat) : CallEvent := .read "db" "orders" request nowMs

/-- An event is claimed, its lease runs out, and it is claimed again and acknowledged. -/
def serialRun : List CallEvent :=
  [ordersCall (.enqueue "e1" "text/plain" [1]) 10, .write 0, ordersCall (.claim 5) 20, .write 1,
    ordersCall (.claim 5) 30019, .write 2, ordersCall (.claim 5) 30020, .write 3,
    ordersCall (.ack "e1") 30021, .write 4]

/-- Calls one after the other treat the event rightly. -/
theorem serial_outbox_sound_orders :
    ∃ state, outboxMachine.run .initial serialRun = some state ∧
      state.calls.map (·.claimed.map (·.id)) = [[], ["e1"], [], ["e1"], []] ∧
      state.tables "db::orders" = [] ∧ state.Sound := by
  refine Machine.exists_run (by decide +kernel) fun _ reached => ?_
  have sound := serial_outbox_sound (by decide +kernel) reached
  cases reached
  exact ⟨rfl, rfl, sound⟩

/-! ## Calls that overlap -/

/-- Two calls enqueue, and the second write drops the first event. -/
def lostRun : List CallEvent :=
  [ordersCall (.enqueue "e1" "text/plain" [1]) 10, ordersCall (.enqueue "e2" "text/plain" [2]) 10,
    .write 0, .write 1]

/-- A claim that has read before the acknowledgement writes the event back. -/
def revivedRun : List CallEvent :=
  [ordersCall (.enqueue "e1" "text/plain" [1]) 10, .write 0, ordersCall (.claim 5) 20,
    ordersCall (.ack "e1") 20, .write 2, .write 1]

/-- Two claims read the table before either writes. -/
def sharedRun : List CallEvent :=
  [ordersCall (.enqueue "e1" "text/plain" [1]) 10, .write 0, ordersCall (.claim 5) 20,
    ordersCall (.claim 5) 21, .write 1, .write 2]

/-- Overlapping calls lose an event, revive one, or share one. -/
theorem overlapping_calls_unsound :
    (∃ state, outboxMachine.run .initial lostRun = some state ∧
      (∀ event ∈ state.tables "db::orders", event.id ≠ "e1") ∧ ¬state.Sound) ∧
    (∃ state, outboxMachine.run .initial revivedRun = some state ∧
      (∃ event ∈ state.tables "db::orders", event.id = "e1") ∧ ¬state.Sound) ∧
    ∃ state, outboxMachine.run .initial sharedRun = some state ∧
      state.calls.map (fun call => (call.nowMs, call.claimed.map (·.id))) =
        [(10, []), (20, ["e1"]), (21, ["e1"])] ∧ ¬state.Sound := by
  refine ⟨⟨_, rfl, by decide +kernel, fun sound => ?_⟩,
    ⟨_, rfl, by decide +kernel, fun sound => ?_⟩,
    _, rfl, by decide +kernel, fun sound => ?_⟩
  · obtain ⟨_, listed, same⟩ | ⟨ack, listed, -, _, -⟩ :=
      sound.kept _ mem_cons_self rfl "e1" "text/plain" [1] rfl
    · cases mem_singleton.mp listed
      exact absurd same (by decide)
    · revert ack
      decide +kernel
  · exact sound.acknowledged _ (mem_of_getElem? (i := 2) rfl) "e1"
      ⟨rfl, rfl, _, mem_singleton_self _, rfl⟩ _ (mem_singleton_self _) rfl
  · have apart := sound.leased 1 2 _ _ (by decide) rfl rfl rfl rfl rfl (by decide) (by decide)
    exact absurd apart (by decide)

end TachyonMesh.Outbox
