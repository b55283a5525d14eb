import TachyonMesh.Streams.Queue

/-! # How long a producer waits for room

`reserve` fixes its deadline when it is called, and waits after each wake-up for what is left until
then. A consumer that makes progress is given the stall limit once, not once for each release.
-/

namespace TachyonMesh.Streams

/-- In nanoseconds. -/
def streamBackpressureStallLimit : Nat := 120 * 1000000000

/-- What ends a wait for room before it times out. -/
inductive Wake where
  | release (event : StreamPayload)
  /-- The stream is dropped. -/
  | consumerGone
  | spurious

/-- The wake-ups during a wait, with their times. -/
abbrev Schedule := List (Nat × Wake)

namespace StreamState

def wake (state : StreamState) : Wake → StreamState
  | .release event => state.release event
  | .consumerGone => { state with consumerGone := true }
  | .spurious => state

def reserveUntil (event : StreamPayload) (deadline : Nat) (state : StreamState)
    (wakes : Schedule) : StreamState :=
  let tested := state.test event
  if tested.producer = .waiting event then
    match wakes with
    | (time, wake) :: rest =>
        if time < deadline then reserveUntil event deadline (state.wake wake) rest
        else tested.declareStall .refused
    | [] => tested.declareStall .refused
  else tested

def reserve (event : StreamPayload) (start : Nat) (state : StreamState) (wakes : Schedule) :
    StreamState :=
  state.reserveUntil event (start + streamBackpressureStallLimit) wakes

/-- The budget neither charges the event nor refuses it. -/
def Full (event : StreamPayload) (state : StreamState) : Prop :=
  ¬state.consumerGone ∧ state.queued ≠ 0 ∧
    streamQueueBudgetBytes < state.queued + event.queuedBytes

/-- The wait is over after some wake-ups that all come before the deadline. -/
def OverBy (event : StreamPayload) (deadline : Nat) (state : StreamState) (wakes : Schedule) :
    Prop :=
  ∃ count, (∀ wake ∈ wakes.take count, wake.1 < deadline) ∧
    ¬((wakes.take count).foldl (fun state wake => state.wake wake.2) state).Full event

variable {event : StreamPayload} {state : StreamState} {deadline : Nat}

private theorem waiting_iff : (state.test event).producer = .waiting event ↔ state.Full event := by
  unfold test Full
  split_ifs <;> simp <;> grind

private theorem overBy_cons {time : Nat} {wake : Wake} {rest : Schedule} :
    state.OverBy event deadline ((time, wake) :: rest) ↔
      ¬state.Full event ∨ time < deadline ∧ (state.wake wake).OverBy event deadline rest := by
  rw [OverBy, ← Nat.or_exists_add_one]
  simp [OverBy, and_assoc]

private theorem reserveUntil_spares_iff (state : StreamState) (wakes : Schedule)
    (fresh : state.stallDeclared = false) :
    (state.reserveUntil event deadline wakes).stallDeclared = false ↔
      state.OverBy event deadline wakes := by
  have tested : (state.test event).stallDeclared = false := by
    unfold test
    split_ifs <;> exact fresh
  unfold reserveUntil
  by_cases full : state.Full event
  · rw [if_pos (waiting_iff.mpr full)]
    cases wakes with
    | nil => simp [OverBy, full, declareStall]
    | cons wake rest =>
      rw [overBy_cons]
      have kept : (state.wake wake.2).stallDeclared = false := by
        cases wake.2 <;> exact fresh
      by_cases early : wake.1 < deadline
      · simp [full, early, reserveUntil_spares_iff _ rest kept]
      · simp [full, early, declareStall]
  · rw [if_neg (waiting_iff.not.mpr full)]
    exact iff_of_true tested ⟨0, nofun, full⟩

end StreamState

/-- Until the wait is over, each wake-up comes within the stall limit of the last release (or of
the start); a schedule that ends before the wait does is silence. -/
def Steady (event : StreamPayload) : (state : StreamState) → (since : Nat) → Schedule → Prop
  | state, _, [] => ¬state.Full event
  | state, since, (time, wake) :: rest => state.Full event →
      time < since + streamBackpressureStallLimit ∧
        Steady event (state.wake wake) (match wake with | .release _ => time | _ => since) rest

/-- The consumer makes progress for as long as the producer waits. -/
structure Progressing (event : StreamPayload) (state : StreamState) (start : Nat)
    (wakes : Schedule) : Prop where
  ordered : (start :: wakes.map Prod.fst).Pairwise (· ≤ ·)
  steady : Steady event state start wakes

/-- A producer whose consumer makes progress is declared stalled unless its wait is over within the
stall limit of its own start. -/
theorem progress_spared_iff (state : StreamState) (event : StreamPayload) (start : Nat)
    (wakes : Schedule) (fresh : state.stallDeclared = false) :
    (Progressing event state start wakes →
        (state.reserve event start wakes).stallDeclared = false) ↔
      (Progressing event state start wakes →
        state.OverBy event (start + streamBackpressureStallLimit) wakes) := by
  rw [StreamState.reserve, StreamState.reserveUntil_spares_iff state wakes fresh]

/-- A stream whose budget is used up. -/
def exhausted : StreamState := { StreamState.initial with queued := streamQueueBudgetBytes }

/-- One byte is released every hundred seconds. -/
def slowReleases : Schedule :=
  [(100 * 1000000000, .release (.payload [0])), (200 * 1000000000, .release (.payload [0]))]

/-- The two releases make room for two bytes. -/
theorem slowReleases_progressing {event : StreamPayload} (short : event.queuedBytes ≤ 2) :
    Progressing event exhausted 0 slowReleases := by
  refine ⟨by decide, fun _ => ⟨by decide, fun _ => ⟨by decide, ?_⟩⟩⟩
  rintro ⟨-, -, beyond⟩
  change streamQueueBudgetBytes < streamQueueBudgetBytes - 1 - 1 + event.queuedBytes at beyond
  have room : 2 ≤ streamQueueBudgetBytes := by decide
  omega

/-- One release is enough for one byte. -/
theorem one_byte_spared :
    (exhausted.reserve (.payload [0]) 0 slowReleases).stallDeclared = false := by
  refine (progress_spared_iff exhausted _ 0 slowReleases rfl).mpr (fun _ => ?_)
    (slowReleases_progressing (by decide))
  refine ⟨1, by decide, ?_⟩
  unfold StreamState.Full
  decide

/-- An event of two bytes is given up after the first release. -/
theorem two_bytes_stalled : Progressing (.payload [0, 0]) exhausted 0 slowReleases ∧
    (exhausted.reserve (.payload [0, 0]) 0 slowReleases).stallDeclared := by
  exact ⟨slowReleases_progressing (by decide), by decide⟩

end TachyonMesh.Streams
