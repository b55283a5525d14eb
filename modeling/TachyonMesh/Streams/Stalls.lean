import TachyonMesh.Streams.Accounting

/-! # Stalls are reported

A stall that the producer declares reaches the consumer by one of two ways. An error is sent after
the events in the channel, if it finds a slot. And a flag is set before, which `next` turns into an
error when it finds the channel closed. Whichever way is taken, the consumer has seen an error
before it is told that the stream is at its end (`stall_reported`).
-/

namespace TachyonMesh.Streams
open Foundation List

/-- Each end that is answered comes after an error. -/
def Warned (answers : List Answer) : Prop :=
  ∀ before after, answers = before ++ .eof :: after → ∃ text, .error text ∈ before

variable {answers : List Answer}

private theorem warned_of_not_mem (unended : .eof ∉ answers) : Warned answers := by
  intro before after split
  refine absurd ?_ unended
  rw [split]
  exact mem_append_right _ mem_cons_self

private theorem Warned.append {answer : Answer} (warned : Warned answers)
    (ends : answer = .eof → ∃ text, .error text ∈ answers) : Warned (answers ++ [answer]) := by
  intro before after split
  -- The end that is looked at is the last answer, or was there before.
  obtain last | ⟨rest, _, rfl⟩ := after.eq_nil_or_concat
  · rw [last] at split
    obtain ⟨rfl, same⟩ := append_inj' split rfl
    exact ends (singleton_inj.mp same)
  · rw [concat_eq_append, ← cons_append, ← append_assoc] at split
    exact warned before rest (append_inj' split rfl).1

namespace StreamState

/-- A stall that is declared is reported or is about to be, and a reported one leads to an error. -/
structure Herald (state : StreamState) : Prop where
  reported : state.stallDeclared →
    state.reportedStall ∨ state.producer = .refused ∨ state.producer = .reportDue
  flagged : state.reportedStall → state.stalled ∨ ∃ text, .error text ∈ state.answers
  warned : state.stallDeclared → Warned state.answers
  withheld : state.sawEof → .eof ∈ state.answers

private theorem herald_initial : initial.Herald := ⟨nofun, nofun, nofun, nofun⟩

variable {state next : StreamState}

section
variable (herald : state.Herald)
include herald

/-- Outside the two stages that lead to a report, a declared stall is reported. -/
theorem Herald.settled {producer : Producer} (stage : state.producer = producer)
    (accepts : producer ≠ .refused) (passes : producer ≠ .reportDue)
    (declared : state.stallDeclared) : state.reportedStall := by
  obtain reported | refused | due := herald.reported declared
  · exact reported
  · exact absurd (stage.symm.trans refused) accepts
  · exact absurd (stage.symm.trans due) passes

/-- A step that changes none of the flags. -/
theorem Herald.same (settled : state.stallDeclared → state.reportedStall)
    (declared : next.stallDeclared = state.stallDeclared)
    (reported : next.reportedStall = state.reportedStall) (flag : next.stalled = state.stalled)
    (eof : next.sawEof = state.sawEof) (answers : next.answers = state.answers) : next.Herald where
  reported := by
    rw [declared, reported]
    exact fun stall => .inl (settled stall)
  flagged := by
    rw [reported, flag, answers]
    exact herald.flagged
  warned := by
    rw [declared, answers]
    exact herald.warned
  withheld := by
    rw [eof, answers]
    exact herald.withheld

private theorem Herald.produce (kept : state.Kept) (produces : state.Produces next) :
    next.Herald := by
  -- Before the end no answer is the end.
  have unended : .eof ∉ state.answers := fun listed =>
    not_produces_of_ended (kept.finished listed).ended produces
  have settled {producer : Producer} (stage : state.producer = producer) := herald.settled stage
  cases produces with
  | emit event stage | wake event stage | giveUp event stage | refund event stage
  | withdraw event stage | dropReport stage | finish result stage | succeed outcome stage
  | close stage =>
    exact herald.same (settled stage nofun nofun) rfl rfl rfl rfl rfl
  | test _ stage =>
    have reported := settled stage nofun nofun
    unfold test
    split_ifs <;> exact herald.same reported rfl rfl rfl rfl rfl
  | send _ stage sent =>
    have reported := settled stage nofun nofun
    unfold trySend at sent
    split_ifs at sent
    all_goals
      cases sent
      exact herald.same reported rfl rfl rfl rfl rfl
  | sendReport stage sent | fail _ stage sent =>
    have reported := settled stage nofun nofun
    unfold trySendError at sent
    split_ifs at sent
    · cases sent
      exact herald.same reported rfl rfl rfl rfl rfl
    · cases sent
      exact herald.same reported rfl rfl rfl rfl rfl
  | timeOut =>
    exact ⟨fun _ => .inr (.inl rfl), herald.flagged, fun _ => warned_of_not_mem unended,
      herald.withheld⟩
  | declare =>
    exact ⟨fun _ => .inr (.inr rfl), herald.flagged, fun _ => warned_of_not_mem unended,
      herald.withheld⟩
  | checkStall =>
    refine ⟨fun declared => .inr (.inr ?_), herald.flagged, herald.warned, herald.withheld⟩
    exact if_pos declared
  | report =>
    unfold report
    split_ifs with before
    · exact herald.same (fun _ => before) rfl rfl rfl rfl rfl
    · exact ⟨fun _ => .inl rfl, fun _ => .inl rfl, herald.warned, herald.withheld⟩

/-- An answer that is not the end. -/
theorem Herald.answer {answer : Answer} (answers : next.answers = state.answers ++ [answer])
    (other : answer ≠ .eof) (producer : next.producer = state.producer)
    (declared : next.stallDeclared = state.stallDeclared)
    (reported : next.reportedStall = state.reportedStall)
    (flag : next.stalled = state.stalled ∨ ∃ text, answer = .error text)
    (eof : next.sawEof = state.sawEof) : next.Herald where
  reported := by
    rw [declared, reported, producer]
    exact herald.reported
  flagged := by
    rw [reported, answers]
    intro stall
    obtain same | ⟨text, rfl⟩ := flag
    · rw [same]
      exact (herald.flagged stall).imp_right fun ⟨text, listed⟩ =>
        ⟨text, mem_append_left _ listed⟩
    · exact .inr ⟨text, mem_append_right _ mem_cons_self⟩
  warned := by
    rw [declared, answers]
    exact fun stall => (herald.warned stall).append fun ends => absurd ends other
  withheld := by
    rw [eof, answers]
    exact fun saw => mem_append_left _ (herald.withheld saw)

private theorem Herald.consume (consumes : state.Consumes next) : next.Herald := by
  cases consumes with
  | take | leave | lose =>
    exact ⟨herald.reported, herald.flagged, herald.warned, herald.withheld⟩
  | fail text =>
    have answers : state.answers ++ [.error text] = _ := rfl
    exact herald.answer answers nofun rfl rfl rfl (.inl rfl) rfl
  | deliver event =>
    have answers : state.answers ++ [.event event] = _ := rfl
    exact herald.answer answers nofun rfl rfl rfl (.inl rfl) rfl
  | finish _ _ ended =>
    unfold endOfStream
    split_ifs with flag
    · have answers : state.answers ++ [.error stallText] = _ := rfl
      exact herald.answer answers nofun rfl rfl rfl (.inr ⟨_, rfl⟩) rfl
    refine ⟨herald.reported, fun reported => ?_, fun declared => ?_, fun _ => ?_⟩
    · exact (herald.flagged reported).imp_right fun ⟨text, listed⟩ =>
        ⟨text, mem_append_left _ listed⟩
    · -- The flag is down, so an error was answered.
      have reported := herald.settled ended nofun nofun declared
      have error := (herald.flagged reported).resolve_left flag
      exact (herald.warned declared).append fun _ => error
    · exact mem_append_right _ mem_cons_self

end

private theorem herald_of_run {events : List StreamEvent}
    (reached : streamMachine.run .initial events = some state) : state.Herald := by
  have steps : streamMachine.Preserves (fun _ _ => True)
      fun state => state.Kept ∧ state.Herald := by
    rintro _ event _ ⟨kept, herald⟩ - stepped
    refine ⟨kept.step stepped, ?_⟩
    cases event with
    | produce => exact herald.produce kept (produces_of_produce stepped)
    | consume => exact herald.consume (consumes_of_consume stepped)
  exact (Machine.invariant_run steps ⟨kept_initial, herald_initial⟩ (Machine.along_true _ _)
    reached).2

end StreamState

/-- In every run, a stream whose producer declared a stall has answered an error before it answers
its end, and metadata is withheld until the end is answered. -/
theorem stall_reported {events : List StreamEvent} {state : StreamState}
    (reached : streamMachine.run .initial events = some state) :
    (state.stallDeclared → ∀ before after, state.answers = before ++ .eof :: after →
      ∃ text, .error text ∈ before) ∧
    (.eof ∉ state.answers → state.metadata = []) := by
  have herald := StreamState.herald_of_run reached
  refine ⟨herald.warned, fun unended => ?_⟩
  exact if_neg fun saw => unended (herald.withheld saw)

/-- The channel is full when the producer sends one more event, and still when it sends its report.
The guest then reads to the end. -/
def stalledRun : List StreamEvent :=
  (replicate streamChannelCapacity (emitPayload [0])).flatten ++
    [.produce (.emit (.payload [1])), .produce .test, .produce .giveUp, .produce .refund,
      .produce .declare, .produce .report, .produce .giveUp, .produce (.finish (.ok [])),
      .produce .conclude, .produce .close] ++
    (replicate streamChannelCapacity [.consume .recv, .consume .refund]).flatten ++
    [.consume .recv, .consume .recv]

/-- A stall on a full channel is told before the end. -/
theorem stall_reported_fullChannel :
    (streamMachine.run .initial stalledRun).map
      (fun state => (state.stallDeclared, state.answers.drop streamChannelCapacity)) =
        some (true, [.error stallText, .eof]) ∧
    ∃ state, streamMachine.run .initial stalledRun = some state ∧
      ((state.stallDeclared → ∀ before after, state.answers = before ++ .eof :: after →
        ∃ text, .error text ∈ before) ∧
      (.eof ∉ state.answers → state.metadata = [])) := by
  exact ⟨by decide +kernel,
    Machine.exists_run (by decide +kernel) fun _ reached => stall_reported reached⟩

end TachyonMesh.Streams
