import Mathlib.Algebra.GroupWithZero.Nat
import TachyonMesh.Foundation.Machine
import TachyonMesh.Foundation.Text

/-! # The queue of a guest stream

A generation thread emits events to a guest through a channel of 64 slots. Each event is charged to
a byte budget before it is sent, and refunded when the guest has taken it. The thread gives up when
the budget or the channel stays full past a limit. It then records the stall, tries to send an error
and ends. The steps of the two sides are single sections under the budget's lock, single operations
on the channel and single accesses to the shared flag.
-/

namespace TachyonMesh.Streams
open Foundation

def streamChannelCapacity : Nat := 64

def streamQueueBudgetBytes : Nat := 256 * 1024

/-- An event of a stream. -/
inductive StreamPayload where
  | payload (bytes : List UInt8)
  | metadata (tags : List (String × String))
deriving DecidableEq

def StreamPayload.queuedBytes : StreamPayload → Nat
  | .payload bytes => bytes.length
  | .metadata tags => (tags.map fun tag => byteLength tag.1 + byteLength tag.2).sum

/-- What the channel holds: an event, or the text of an error. -/
abbrev StreamItem := Except String StreamPayload

def payloads (items : List StreamItem) : List StreamPayload := items.filterMap Except.toOption

def stallText : String :=
  "the client stopped reading this stream for longer than the backpressure limit allows, " ++
    "so generation was cancelled"

/-- How generation ends: with the metadata of its outcome, or with an error. -/
abbrev GenerationResult := Except String (List (String × String))

/-! ## The two sides -/

/-- Where the guest's thread stands. -/
inductive Producer where
  /-- Between two calls of `emit`. -/
  | idle
  /-- `reserve_until`, about to look at the budget. -/
  | reserving (event : StreamPayload)
  /-- `reserve_until`, parked until there is room. -/
  | waiting (event : StreamPayload)
  /-- The budget has refused. -/
  | refused
  /-- `send_before` with an event that is charged. -/
  | sending (event : StreamPayload)
  /-- The channel stayed full, and the event is still charged. -/
  | stalled (event : StreamPayload)
  /-- The receiver is gone, and the event is still charged. -/
  | disconnected (event : StreamPayload)
  /-- It declares the stall to the budget next. -/
  | declaring
  /-- It calls `report_stall` next. -/
  | reportDue
  /-- `send_before` with the error of a stall. -/
  | reporting
  /-- Generation has returned. -/
  | finishing (result : GenerationResult)
  /-- It drops the sender next. -/
  | closing
  | ended
deriving DecidableEq

/-- Where the response body stands. -/
inductive Consumer where
  | ready
  /-- `next` has received the event and refunds it next. -/
  | taken (event : StreamPayload)
  /-- The stream is being dropped; the receiver is still there. -/
  | leaving
  /-- The receiver is dropped. -/
  | gone
deriving DecidableEq

/-- What `next` answers. -/
inductive Answer where
  | event (event : StreamPayload)
  | error (text : String)
  /-- `Ok(None)`. -/
  | eof
deriving DecidableEq

/-- Both ends and what is between them. -/
structure StreamState where
  producer : Producer
  consumer : Consumer
  channel : List StreamItem
  /-- The budget's counter. -/
  queued : Nat
  /-- The budget's `consumer_gone`. -/
  consumerGone : Bool
  /-- The budget's `stalled`. -/
  stallDeclared : Bool
  /-- The producer's `reported_stall`. -/
  reportedStall : Bool
  /-- The flag that both sides share. -/
  stalled : Bool
  sawEof : Bool
  /-- The metadata of the outcome. -/
  outcome : List (String × String)
  /-- The events for which `emit` has answered `Continue`. -/
  accepted : List StreamPayload
  delivered : List StreamPayload
  /-- The events that were in the channel when the receiver was dropped. -/
  lost : List StreamPayload
  answers : List Answer

/-- A step of the producer. -/
inductive ProducerAction where
  | emit (event : StreamPayload)
  /-- The budget is looked at. -/
  | test
  /-- The condition variable wakes the producer. -/
  | wake
  /-- The wait for room has timed out. -/
  | timeOut
  | checkStall
  | trySend
  /-- The channel is full and the deadline has passed. -/
  | giveUp
  | refund
  | declare
  | report
  | finish (result : GenerationResult)
  /-- The outcome is stored, or the error is sent. -/
  | conclude
  | close
deriving DecidableEq

/-- A step of the consumer. -/
inductive ConsumerAction where
  /-- The first half of `next`. -/
  | recv
  /-- The second half of `next`, for an event. -/
  | refund
  /-- The stream's own `drop`. -/
  | drop
  /-- The receiver is dropped after it. -/
  | dropReceiver
deriving DecidableEq

/-- A step of either end. -/
inductive StreamEvent where
  | produce (action : ProducerAction)
  | consume (action : ConsumerAction)

namespace StreamState
variable (state : StreamState)

def initial : StreamState where
  producer := .idle
  consumer := .ready
  channel := []
  queued := 0
  consumerGone := false
  stallDeclared := false
  reportedStall := false
  stalled := false
  sawEof := false
  outcome := []
  accepted := []
  delivered := []
  lost := []
  answers := []

/-- One look at the budget in the loop of `reserve_until`. -/
def test (event : StreamPayload) : StreamState :=
  if state.consumerGone then { state with producer := .refused }
  else if state.queued = 0 ∨ state.queued + event.queuedBytes ≤ streamQueueBudgetBytes then
    { state with queued := state.queued + event.queuedBytes, producer := .sending event }
  else { state with producer := .waiting event }

def declareStall (producer : Producer) : StreamState :=
  { state with consumerGone := true, stallDeclared := true, producer }

/-- `try_send` of an event; a full channel changes nothing. -/
def trySend (event : StreamPayload) : Option StreamState :=
  if state.consumer = .gone then some { state with producer := .disconnected event }
  else if state.channel.length < streamChannelCapacity then
    some { state with
      channel := state.channel ++ [.ok event]
      accepted := state.accepted ++ [event]
      producer := .idle }
  else none

def trySendError (text : String) (producer : Producer) : Option StreamState :=
  if state.consumer = .gone then some { state with producer }
  else if state.channel.length < streamChannelCapacity then
    some { state with channel := state.channel ++ [.error text], producer }
  else none

def full : Bool := state.consumer ≠ .gone && streamChannelCapacity ≤ state.channel.length

def release (event : StreamPayload) : StreamState :=
  { state with queued := state.queued - event.queuedBytes }

/-- `report_stall` up to its sending. -/
def report : StreamState :=
  if state.reportedStall then { state with producer := .idle }
  else { state with reportedStall := true, stalled := true, producer := .reporting }

def produce (action : ProducerAction) : Option StreamState :=
  match state.producer, action with
  | .idle, .emit event => some { state with producer := .reserving event }
  | .reserving event, .test => some (state.test event)
  | .waiting event, .wake => some { state with producer := .reserving event }
  | .waiting _, .timeOut => some (state.declareStall .refused)
  | .refused, .checkStall => some { state with
      producer := if state.stallDeclared then .reportDue else .idle }
  | .sending event, .trySend => state.trySend event
  | .sending event, .giveUp =>
      if state.full then some { state with producer := .stalled event } else none
  | .stalled event, .refund => some { state.release event with producer := .declaring }
  | .disconnected event, .refund => some { state.release event with producer := .idle }
  | .declaring, .declare => some (state.declareStall .reportDue)
  | .reportDue, .report => some state.report
  | .reporting, .trySend => state.trySendError stallText .idle
  | .reporting, .giveUp => if state.full then some { state with producer := .idle } else none
  | .idle, .finish result => some { state with producer := .finishing result }
  | .finishing (.ok outcome), .conclude => some { state with outcome, producer := .closing }
  | .finishing (.error text), .conclude => state.trySendError text .closing
  | .closing, .close => some { state with producer := .ended }
  | _, _ => none

/-- `next` when the channel is closed and empty. -/
def endOfStream : StreamState :=
  if state.stalled then
    { state with stalled := false, answers := state.answers ++ [.error stallText] }
  else { state with sawEof := true, answers := state.answers ++ [.eof] }

/-- An empty channel whose sender is there blocks. -/
def recv : Option StreamState :=
  match state.channel with
  | .ok event :: rest => some { state with channel := rest, consumer := .taken event }
  | .error text :: rest =>
      some { state with channel := rest, answers := state.answers ++ [.error text] }
  | [] => if state.producer = .ended then some state.endOfStream else none

def consume (action : ConsumerAction) : Option StreamState :=
  match state.consumer, action with
  | .ready, .recv => state.recv
  | .taken event, .refund => some { state.release event with
      consumer := .ready
      delivered := state.delivered ++ [event]
      answers := state.answers ++ [.event event] }
  | .ready, .drop => some { state with consumerGone := true, consumer := .leaving }
  | .leaving, .dropReceiver => some { state with
      consumer := .gone
      lost := state.lost ++ payloads state.channel
      channel := [] }
  | _, _ => none

def metadata : List (String × String) := if state.sawEof then state.outcome else []

end StreamState

def streamMachine : Machine StreamState StreamEvent where
  step state
    | .produce action => state.produce action
    | .consume action => state.consume action

/-! ## What the producer can do -/

namespace StreamState

/-- The steps of the producer, with the stage in which each is taken. -/
inductive Produces (state : StreamState) : StreamState → Prop
  | emit (event : StreamPayload) (stage : state.producer = .idle) :
      Produces state { state with producer := .reserving event }
  | test (event : StreamPayload) (stage : state.producer = .reserving event) :
      Produces state (state.test event)
  | wake (event : StreamPayload) (stage : state.producer = .waiting event) :
      Produces state { state with producer := .reserving event }
  | timeOut (event : StreamPayload) (stage : state.producer = .waiting event) :
      Produces state (state.declareStall .refused)
  | checkStall (stage : state.producer = .refused) :
      Produces state { state with producer := if state.stallDeclared then .reportDue else .idle }
  | send (event : StreamPayload) {next : StreamState} (stage : state.producer = .sending event)
      (sent : state.trySend event = some next) : Produces state next
  | giveUp (event : StreamPayload) (stage : state.producer = .sending event) :
      Produces state { state with producer := .stalled event }
  | refund (event : StreamPayload) (stage : state.producer = .stalled event) :
      Produces state { state.release event with producer := .declaring }
  | withdraw (event : StreamPayload) (stage : state.producer = .disconnected event) :
      Produces state { state.release event with producer := .idle }
  | declare (stage : state.producer = .declaring) : Produces state (state.declareStall .reportDue)
  | report (stage : state.producer = .reportDue) : Produces state state.report
  | sendReport {next : StreamState} (stage : state.producer = .reporting)
      (sent : state.trySendError stallText .idle = some next) : Produces state next
  | dropReport (stage : state.producer = .reporting) :
      Produces state { state with producer := .idle }
  | finish (result : GenerationResult) (stage : state.producer = .idle) :
      Produces state { state with producer := .finishing result }
  | succeed (outcome : List (String × String)) (stage : state.producer = .finishing (.ok outcome)) :
      Produces state { state with outcome, producer := .closing }
  | fail (text : String) {next : StreamState} (stage : state.producer = .finishing (.error text))
      (sent : state.trySendError text .closing = some next) : Produces state next
  | close (stage : state.producer = .closing) : Produces state { state with producer := .ended }

variable {state next : StreamState}

theorem produces_of_produce {action : ProducerAction}
    (produced : state.produce action = some next) : state.Produces next := by
  unfold produce at produced
  split at produced
  · next stage =>
    cases produced
    exact .emit _ stage
  · next stage =>
    cases produced
    exact .test _ stage
  · next stage =>
    cases produced
    exact .wake _ stage
  · next stage =>
    cases produced
    exact .timeOut _ stage
  · next stage =>
    cases produced
    exact .checkStall stage
  · next stage => exact .send _ stage produced
  · next stage =>
    obtain ⟨-, rfl⟩ := of_guard produced
    exact .giveUp _ stage
  · next stage =>
    cases produced
    exact .refund _ stage
  · next stage =>
    cases produced
    exact .withdraw _ stage
  · next stage =>
    cases produced
    exact .declare stage
  · next stage =>
    cases produced
    exact .report stage
  · next stage => exact .sendReport stage produced
  · next stage =>
    obtain ⟨-, rfl⟩ := of_guard produced
    exact .dropReport stage
  · next stage =>
    cases produced
    exact .finish _ stage
  · next stage =>
    cases produced
    exact .succeed _ stage
  · next stage => exact .fail _ stage produced
  · next stage =>
    cases produced
    exact .close stage
  · cases produced

theorem not_produces_of_ended (ended : state.producer = .ended) : ¬state.Produces next := by
  intro produces
  cases produces <;> simp_all only [reduceCtorEq]

theorem answers_of_produces (produces : state.Produces next) : next.answers = state.answers := by
  cases produces with
  | test =>
    unfold test
    split_ifs <;> rfl
  | send _ _ sent =>
    unfold trySend at sent
    split_ifs at sent
    all_goals
      cases sent
      rfl
  | sendReport _ sent | fail _ _ sent =>
    unfold trySendError at sent
    split_ifs at sent
    · cases sent
      rfl
    · cases sent
      rfl
  | report =>
    unfold report
    split_ifs
    · rfl
    · rfl
  | _ => rfl

/-! ## What the consumer can do -/

/-- The steps of the consumer, with the stage in which each is taken. -/
inductive Consumes (state : StreamState) : StreamState → Prop
  | take (event : StreamPayload) (rest : List StreamItem) (stage : state.consumer = .ready)
      (first : state.channel = .ok event :: rest) :
      Consumes state { state with channel := rest, consumer := .taken event }
  | fail (text : String) (rest : List StreamItem) (stage : state.consumer = .ready)
      (first : state.channel = .error text :: rest) :
      Consumes state { state with channel := rest, answers := state.answers ++ [.error text] }
  | finish (stage : state.consumer = .ready) (empty : state.channel = [])
      (ended : state.producer = .ended) : Consumes state state.endOfStream
  | deliver (event : StreamPayload) (stage : state.consumer = .taken event) :
      Consumes state { state.release event with
        consumer := .ready
        delivered := state.delivered ++ [event]
        answers := state.answers ++ [.event event] }
  | leave (stage : state.consumer = .ready) :
      Consumes state { state with consumerGone := true, consumer := .leaving }
  | lose (stage : state.consumer = .leaving) :
      Consumes state { state with
        consumer := .gone
        lost := state.lost ++ payloads state.channel
        channel := [] }

private theorem consumes_of_recv (stage : state.consumer = .ready)
    (received : state.recv = some next) : state.Consumes next := by
  unfold recv at received
  split at received
  · next first =>
    cases received
    exact .take _ _ stage first
  · next first =>
    cases received
    exact .fail _ _ stage first
  · next empty =>
    obtain ⟨ended, rfl⟩ := of_guard received
    exact .finish stage empty ended

theorem consumes_of_consume {action : ConsumerAction}
    (consumed : state.consume action = some next) : state.Consumes next := by
  unfold consume at consumed
  split at consumed
  · next stage => exact consumes_of_recv stage consumed
  · next stage =>
    cases consumed
    exact .deliver _ stage
  · next stage =>
    cases consumed
    exact .leave stage
  · next stage =>
    cases consumed
    exact .lose stage
  · cases consumed

end StreamState

end TachyonMesh.Streams
