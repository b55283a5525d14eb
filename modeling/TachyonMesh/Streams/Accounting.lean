import Mathlib.Algebra.Order.BigOperators.Group.List
import Mathlib.Algebra.Order.Ring.Nat
import TachyonMesh.Foundation.Budget
import TachyonMesh.Streams.Queue

/-! # Accounting for a stream

Every event that is charged and not refunded is being sent, in the channel, taken by a `next` that
has not refunded it yet, or was in the channel when the receiver was dropped. `Account` is the
stream seen as these places. Its moves keep the budget's counter balanced and the order of events,
and every step of the stream is one of them (`stream_accounted`).
-/

namespace TachyonMesh.Streams
open Foundation List Consumer

/-! ## Accounts -/

/-- The bytes of a stream and where they are. -/
structure Account where
  queued : Nat
  accepted : List StreamPayload
  delivered : List StreamPayload
  lost : List StreamPayload
  taken : List StreamPayload
  inChannel : List StreamPayload
  sending : List StreamPayload
  dropped : Bool

namespace Account

def outstanding (account : Account) : List StreamPayload :=
  account.lost ++ account.taken ++ account.inChannel ++ account.sending

/-- What can happen to the events of a stream. -/
inductive Moves (account : Account) : Account → Prop
  | stay : Moves account account
  | charge (event : StreamPayload) (free : account.sending = [])
      (fits : account.queued = 0 ∨ account.queued + event.queuedBytes ≤ streamQueueBudgetBytes) :
      Moves account { account with
        queued := account.queued + event.queuedBytes, sending := [event] }
  | send (event : StreamPayload) (held : account.sending = [event]) :
      Moves account { account with
        inChannel := account.inChannel ++ [event]
        accepted := account.accepted ++ [event]
        sending := [] }
  | withdraw (event : StreamPayload) (held : account.sending = [event]) :
      Moves account { account with
        queued := account.queued - event.queuedBytes, sending := [] }
  | take (event : StreamPayload) (rest : List StreamPayload)
      (first : account.inChannel = event :: rest) (free : account.taken = []) :
      Moves account { account with inChannel := rest, taken := [event] }
  | deliver (event : StreamPayload) (held : account.taken = [event]) :
      Moves account { account with
        queued := account.queued - event.queuedBytes
        taken := []
        delivered := account.delivered ++ [event] }
  | lose (free : account.taken = []) :
      Moves account { account with
        lost := account.lost ++ account.inChannel, inChannel := [], dropped := true }

/-- The counter is that of the outstanding events; and as long as the receiver is there, none is
lost, and the accepted ones are those delivered and those on their way, in order. -/
structure Sound (account : Account) : Prop where
  charged : Charged StreamPayload.queuedBytes streamQueueBudgetBytes account.queued
    account.outstanding
  intact : account.dropped = false → account.lost = [] ∧
    account.accepted = account.delivered ++ (account.taken ++ account.inChannel)

variable {account next : Account}

private theorem Sound.move (sound : account.Sound) (moves : account.Moves next) : next.Sound := by
  obtain ⟨charged, intact⟩ := sound
  unfold outstanding at charged
  cases moves with
  | stay => exact ⟨charged, intact⟩
  | charge _ free fits =>
    refine ⟨?_, intact⟩
    rw [free, append_nil] at charged
    exact charged.charge fits
  | send _ held =>
    refine ⟨?_, ?_⟩
    · rw [held] at charged
      unfold outstanding
      rw [append_nil, ← append_assoc]
      exact charged
    intro present
    obtain ⟨whole, order⟩ := intact present
    refine ⟨whole, ?_⟩
    rw [order, append_assoc, append_assoc]
  | withdraw _ held =>
    refine ⟨?_, intact⟩
    rw [held] at charged
    exact charged.refund.2
  | take _ _ first free =>
    refine ⟨?_, ?_⟩
    · rw [first, free, append_nil] at charged
      unfold outstanding
      simpa using charged
    intro present
    obtain ⟨whole, order⟩ := intact present
    rw [first, free, nil_append] at order
    exact ⟨whole, order⟩
  | deliver _ held =>
    refine ⟨?_, ?_⟩
    · rw [held, append_assoc, append_assoc, cons_append] at charged
      unfold outstanding
      simpa using charged.refund.2
    intro present
    obtain ⟨whole, order⟩ := intact present
    refine ⟨whole, ?_⟩
    rw [order, held]
    simp
  | lose free =>
    refine ⟨?_, nofun⟩
    rw [free, append_nil] at charged
    unfold outstanding
    rw [free, append_nil, append_nil]
    exact charged

end Account

/-! ## Streams -/

/-- The event that is charged and not in the channel yet. -/
def Producer.inHand : Producer → List StreamPayload
  | .sending event | .stalled event | .disconnected event => [event]
  | .idle | .reserving _ | .waiting _ | .refused | .declaring | .reportDue | .reporting
  | .finishing _ | .closing | .ended => []

/-- The event that has left the channel and is not refunded yet. -/
def Consumer.inHand : Consumer → List StreamPayload
  | .taken event => [event]
  | .ready | .leaving | .gone => []

def Consumer.dropped : Consumer → Bool
  | .gone => true
  | .ready | .taken _ | .leaving => false

private theorem Consumer.dropped_eq_false {consumer : Consumer} (present : consumer ≠ .gone) :
    consumer.dropped = false := by
  cases consumer with
  | gone => exact absurd rfl present
  | _ => rfl

namespace StreamState

def account (state : StreamState) : Account where
  queued := state.queued
  accepted := state.accepted
  delivered := state.delivered
  lost := state.lost
  taken := state.consumer.inHand
  inChannel := payloads state.channel
  sending := state.producer.inHand
  dropped := state.consumer.dropped

variable {state next : StreamState} {producer : Producer} {event : StreamPayload}

/-- A producer that has nothing new in hand leaves the account as it is. -/
theorem moves_of_quiet (same : state.producer.inHand = producer.inHand) :
    state.account.Moves { state with producer }.account := by
  have stays : { state with producer }.account = state.account := by
    unfold account
    rw [same]
  rw [stays]
  exact .stay

private theorem moves_of_test (nothing : state.producer.inHand = []) :
    state.account.Moves (state.test event).account := by
  unfold test
  split
  · exact moves_of_quiet nothing
  · split
    · next fits => exact .charge event nothing fits
    · exact moves_of_quiet nothing

private theorem moves_of_trySend (held : state.producer.inHand = [event])
    (sent : state.trySend event = some next) : state.account.Moves next.account := by
  unfold trySend at sent
  split at sent
  · cases sent
    exact moves_of_quiet held
  obtain ⟨-, rfl⟩ := of_guard sent
  have appended : payloads (state.channel ++ [.ok event]) = payloads state.channel ++ [event] :=
    filterMap_append
  have moved : state.account.Moves _ := .send event held
  unfold account at moved ⊢
  rw [appended]
  exact moved

/-- An error that is sent is not an event. -/
theorem moves_of_trySendError {text : String} (same : state.producer.inHand = producer.inHand)
    (sent : state.trySendError text producer = some next) : state.account.Moves next.account := by
  unfold trySendError at sent
  split at sent
  · cases sent
    exact moves_of_quiet same
  obtain ⟨-, rfl⟩ := of_guard sent
  have appended : payloads (state.channel ++ [.error text]) = payloads state.channel := by
    simp [payloads, Except.toOption]
  have moved : state.account.Moves { state with producer }.account := moves_of_quiet same
  unfold account at moved ⊢
  rw [appended]
  exact moved

/-- A producer that gives up its event withdraws it. -/
theorem moves_of_release (held : state.producer.inHand = [event]) (nothing : producer.inHand = []) :
    state.account.Moves { state.release event with producer }.account := by
  have moved : state.account.Moves _ := .withdraw event held
  unfold account at moved ⊢
  rw [nothing]
  exact moved

private theorem moves_of_produces (produces : state.Produces next) :
    state.account.Moves next.account := by
  have hand {producer : Producer} {held : List StreamPayload} (stage : state.producer = producer)
      (same : producer.inHand = held) : state.producer.inHand = held := stage ▸ same
  cases produces with
  | emit _ stage | wake _ stage | giveUp _ stage | dropReport stage | finish _ stage =>
    exact moves_of_quiet (hand stage rfl)
  | test _ stage => exact moves_of_test (hand stage rfl)
  | timeOut _ stage =>
    have moved : state.account.Moves { state with producer := .refused }.account :=
      moves_of_quiet (hand stage rfl)
    exact moved
  | checkStall stage =>
    split <;> exact moves_of_quiet (hand stage rfl)
  | send _ stage sent => exact moves_of_trySend (hand stage rfl) sent
  | refund _ stage | withdraw _ stage => exact moves_of_release (hand stage rfl) rfl
  | declare stage =>
    have moved : state.account.Moves { state with producer := .reportDue }.account :=
      moves_of_quiet (hand stage rfl)
    exact moved
  | report stage =>
    unfold report
    split
    · exact moves_of_quiet (hand stage rfl)
    · have moved : state.account.Moves { state with producer := .reporting }.account :=
        moves_of_quiet (hand stage rfl)
      exact moved
  | sendReport stage sent =>
    have same : state.producer.inHand = Producer.idle.inHand := hand stage rfl
    exact moves_of_trySendError same sent
  | succeed _ stage =>
    have moved : state.account.Moves { state with producer := .closing }.account :=
      moves_of_quiet (hand stage rfl)
    exact moved
  | fail _ stage sent =>
    have same : state.producer.inHand = Producer.closing.inHand := hand stage rfl
    exact moves_of_trySendError same sent
  | close stage => exact moves_of_quiet (hand stage rfl)

private theorem moves_of_consumes (consumes : state.Consumes next) :
    state.account.Moves next.account := by
  have hand {consumer : Consumer} {held : List StreamPayload} (stage : state.consumer = consumer)
      (same : consumer.inHand = held) : state.account.taken = held :=
    (congrArg inHand stage).trans same
  cases consumes with
  | take event rest stage first =>
    have channel : state.account.inChannel = event :: payloads rest := congrArg payloads first
    have moved : state.account.Moves _ := .take event (payloads rest) channel (hand stage rfl)
    unfold account at moved ⊢
    simpa only [stage, dropped, inHand] using moved
  | fail _ rest _ first =>
    have channel : payloads state.channel = payloads rest := by
      rw [first]
      rfl
    have stays : state.account.Moves state.account := .stay
    unfold account at stays ⊢
    simpa only [channel] using stays
  | finish =>
    unfold endOfStream
    split <;> exact .stay
  | deliver event stage =>
    have moved : state.account.Moves _ := .deliver event (hand stage rfl)
    unfold account at moved ⊢
    simpa only [stage, release, dropped, inHand] using moved
  | leave stage =>
    have moved : state.account.Moves state.account := .stay
    unfold account at moved ⊢
    simpa only [stage, dropped, inHand] using moved
  | lose stage =>
    have moved : state.account.Moves _ := .lose (hand stage rfl)
    have none : payloads [] = [] := rfl
    unfold account at moved ⊢
    simpa only [stage, none, dropped, inHand] using moved

/-! ## The end of a stream -/

/-- After the end of a stream nothing is on its way. -/
structure Finished (state : StreamState) : Prop where
  ended : state.producer = .ended
  channel : state.channel = []
  taken : state.consumer.inHand = []
  complete : state.accepted = state.delivered

/-- The invariant of a stream. -/
structure Kept (state : StreamState) : Prop where
  sound : state.account.Sound
  finished : .eof ∈ state.answers → state.Finished

theorem kept_initial : initial.Kept := ⟨⟨.nil, fun _ => ⟨rfl, rfl⟩⟩, nofun⟩

/-- An answer that is not the end leaves whether the end was answered. -/
theorem eof_mem_of_append {answers : List Answer} {answer : Answer}
    (listed : .eof ∈ answers ++ [answer]) (other : .eof ≠ answer) : .eof ∈ answers :=
  (mem_append.mp listed).resolve_right fun last => other (mem_singleton.mp last)

private theorem finished_of_consumes (kept : state.Kept) (consumes : state.Consumes next)
    (listed : .eof ∈ next.answers) : next.Finished := by
  cases consumes with
  | take _ _ _ first =>
    have finished := kept.finished listed
    cases first.symm.trans finished.channel
  | fail _ _ _ first =>
    have finished := kept.finished (eof_mem_of_append listed nofun)
    cases first.symm.trans finished.channel
  | finish stage empty ended =>
    have taken : state.consumer.inHand = [] := congrArg inHand stage
    have present : state.account.dropped = false := congrArg dropped stage
    -- The receiver is there, so all that was accepted has come through.
    have complete : state.accepted = state.delivered := by
      have order := (kept.sound.intact present).2
      change state.accepted = state.delivered ++ (state.consumer.inHand ++ payloads state.channel)
        at order
      rw [taken, empty] at order
      exact order.trans (append_nil _)
    unfold endOfStream
    split <;> exact ⟨ended, empty, taken, complete⟩
  | deliver event stage =>
    have finished := kept.finished (eof_mem_of_append listed nofun)
    have taken : state.consumer.inHand = [event] := congrArg inHand stage
    cases taken.symm.trans finished.taken
  | leave =>
    have finished := kept.finished listed
    exact ⟨finished.ended, finished.channel, rfl, finished.complete⟩
  | lose =>
    have finished := kept.finished listed
    exact ⟨finished.ended, rfl, rfl, finished.complete⟩

theorem Kept.step {event : StreamEvent} (kept : state.Kept)
    (stepped : streamMachine.step state event = some next) : next.Kept := by
  cases event with
  | produce =>
    have produces : state.Produces next := produces_of_produce stepped
    refine ⟨kept.sound.move (moves_of_produces produces), fun listed => ?_⟩
    rw [answers_of_produces produces] at listed
    exact absurd produces (not_produces_of_ended (kept.finished listed).ended)
  | consume =>
    have consumes : state.Consumes next := consumes_of_consume stepped
    exact ⟨kept.sound.move (moves_of_consumes consumes), finished_of_consumes kept consumes⟩

private theorem kept_of_run {events : List StreamEvent}
    (reached : streamMachine.run .initial events = some state) : state.Kept :=
  Machine.invariant_run (fun kept _ => kept.step) kept_initial (Machine.along_true _ _) reached

/-! ## What holds in every run -/

def bytes (events : List StreamPayload) : Nat := (events.map StreamPayload.queuedBytes).sum

/-- The accounting of a stream, while the receiver is there: the counter is that of the events in
the channel, of the one being sent and of the one taken and not refunded, and the accepted events
are those delivered and those on their way. Always: the counter exceeds the budget only for a single
event that weighs something, what is refunded next is charged, and a stream that has ended has
delivered everything. -/
structure Accounted (state : StreamState) : Prop where
  balance : state.consumer ≠ .gone → state.queued =
    bytes (payloads state.channel) + bytes state.producer.inHand + bytes state.consumer.inHand
  bounded : state.queued ≤ streamQueueBudgetBytes ∨
    state.account.outstanding.countP (fun event => event.queuedBytes ≠ 0) = 1
  refundable : ∀ event ∈ state.producer.inHand ++ state.consumer.inHand,
    event.queuedBytes ≤ state.queued
  drained : state.consumer ≠ .gone → payloads state.channel = [] → state.producer.inHand = [] →
    state.consumer.inHand = [] → state.queued = 0
  delivered : state.consumer ≠ .gone →
    state.accepted = state.delivered ++ (state.consumer.inHand ++ payloads state.channel)
  complete : .eof ∈ state.answers → state.accepted = state.delivered

private theorem bytes_append (first second : List StreamPayload) :
    bytes (first ++ second) = bytes first + bytes second := by
  rw [bytes, map_append, sum_append]
  rfl

private theorem le_bytes {events : List StreamPayload} (listed : event ∈ events) :
    event.queuedBytes ≤ bytes events :=
  single_le_sum (fun _ _ => Nat.zero_le _) _ (mem_map_of_mem listed)

private theorem accounted_of_kept (kept : state.Kept) : state.Accounted := by
  obtain ⟨sound, finished⟩ := kept
  have queued : state.queued = bytes state.lost + bytes state.consumer.inHand +
      bytes (payloads state.channel) + bytes state.producer.inHand := by
    rw [← bytes_append, ← bytes_append, ← bytes_append]
    exact sound.charged.balance
  have balance (present : state.consumer ≠ .gone) : state.queued =
      bytes (payloads state.channel) + bytes state.producer.inHand +
        bytes state.consumer.inHand := by
    obtain ⟨none, -⟩ := sound.intact (dropped_eq_false present)
    change state.lost = [] at none
    rw [queued, none]
    simp only [bytes, map_nil, sum_nil]
    omega
  refine ⟨balance, sound.charged.bounded, ?_, ?_, ?_, fun listed => (finished listed).complete⟩
  · intro event listed
    obtain sending | taken := mem_append.mp listed
    · have weight := le_bytes sending
      omega
    · have weight := le_bytes taken
      omega
  · intro present channel sending taken
    rw [balance present, channel, sending, taken]
    rfl
  · intro present
    exact (sound.intact (dropped_eq_false present)).2

end StreamState

/-- Every run of a stream is accounted for. -/
theorem stream_accounted {events : List StreamEvent} {state : StreamState}
    (reached : streamMachine.run .initial events = some state) : state.Accounted :=
  StreamState.accounted_of_kept (StreamState.kept_of_run reached)

def emitPayload (bytes : List UInt8) : List StreamEvent :=
  [.produce (.emit (.payload bytes)), .produce .test, .produce .trySend]

/-- Two payloads, of which the guest has taken and refunded the first. -/
theorem stream_accounted_twoPayloads :
    (streamMachine.run .initial (emitPayload [1, 2] ++ emitPayload [3] ++
      [.consume .recv, .consume .refund])).map (fun state => (state.queued, state.delivered)) =
        some (1, [.payload [1, 2]]) ∧
    ∃ state, streamMachine.run .initial (emitPayload [1, 2] ++ emitPayload [3] ++
      [.consume .recv, .consume .refund]) = some state ∧ state.Accounted := by
  exact ⟨by decide +kernel,
    Machine.exists_run (by decide +kernel) fun _ reached => stream_accounted reached⟩

/-- The counter is not always that of the channel and the event being sent: a `next` refunds what it
has taken after it has left the channel, and what is in the channel when the stream is dropped is
not refunded. -/
theorem queued_exceeds_channel :
    (∃ events state, streamMachine.run .initial events = some state ∧ state.consumer ≠ .gone ∧
      state.channel = [] ∧ state.producer = .idle ∧ state.queued ≠ 0) ∧
    (∃ events state, streamMachine.run .initial events = some state ∧
      state.channel = [] ∧ state.producer = .ended ∧ state.queued ≠ 0) := by
  refine ⟨⟨emitPayload [1] ++ [.consume .recv], _, rfl, nofun, rfl, rfl, by decide⟩,
    ⟨emitPayload [1] ++ [.consume .drop, .consume .dropReceiver, .produce (.finish (.ok [])),
      .produce .conclude, .produce .close], _, rfl, rfl, rfl, by decide⟩⟩

end TachyonMesh.Streams
