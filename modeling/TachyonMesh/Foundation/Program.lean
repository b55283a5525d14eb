import Mathlib.Logic.Basic

/-! # Programs with state and errors

A program reads and changes a state and returns a value or an error. A program
that fails keeps the changes it made before failing, as a call does that returns
early with an error.

`Program.wp` is the weakest precondition. `Program.Blind` says that a program does not
depend on a part of the state.
-/

namespace Foundation

/-- A program over a state `σ` with errors `ε`. -/
def Program (σ ε α : Type) : Type := σ → σ × Except ε α

namespace Program
variable {σ ε α β : Type}

instance : Monad (Program σ ε) where
  pure value := fun state => (state, .ok value)
  bind first next := fun state =>
    match first state with
    | (state, .ok value) => next value state
    | (state, .error error) => (state, .error error)

/-- End with an error. -/
def fail (error : ε) : Program σ ε α := fun state => (state, .error error)

/-- Compute from the state. -/
def reads (function : σ → Except ε α) : Program σ ε α := fun state => (state, function state)

/-- Change the state. -/
def modify (change : σ → σ) : Program σ ε Unit := fun state => (change state, .ok ())

/-- A result that is already there. -/
def ofExcept (outcome : Except ε α) : Program σ ε α := fun state => (state, outcome)

/-- When the test is true, run the cleanup and give up with the error. -/
def rejectIf (test : Bool) (cleanup : Program σ ε Unit) (error : ε) : Program σ ε Unit :=
  if test then cleanup >>= fun _ => fail error else pure ()

/-- Turn an error into a result. -/
def recover (program : Program σ ε α) (handler : ε → α) : Program σ ε α := fun state =>
  match program state with
  | (final, .ok value) => (final, .ok value)
  | (final, .error error) => (final, .ok (handler error))

/-- Translate the error. -/
def mapError {ε' : Type} (translate : ε → ε') (program : Program σ ε α) : Program σ ε' α :=
  fun state =>
    match program state with
    | (final, .ok value) => (final, .ok value)
    | (final, .error error) => (final, .error (translate error))

variable {first : Program σ ε β} {next : β → Program σ ε α} {middle final state : σ} {error : ε}
  {value : α} {ε' : Type} {program : Program σ ε α} {outcome : Except ε β}
  {cleanup : Program σ ε Unit}

theorem bind_of_ok {value : β} (ended : first state = (middle, .ok value)) :
    (first >>= next) state = next value middle := by
  change (match first state with
    | (state, .ok value) => next value state
    | (state, .error error) => (state, .error error)) = _
  rw [ended]

theorem bind_of_error (ended : first state = (middle, .error error)) :
    (first >>= next) state = (middle, .error error) := by
  change (match first state with
    | (state, .ok value) => next value state
    | (state, .error error) => (state, .error error)) = _
  rw [ended]

/-- A chain that succeeded, taken apart. -/
theorem bind_eq_ok :
    (first >>= next) state = (final, .ok value) ↔
      ∃ middle result, first state = (middle, .ok result) ∧
        next result middle = (final, .ok value) := by
  cases ended : first state with
  | mk middle outcome =>
    cases outcome with
    | ok result =>
      rw [bind_of_ok ended]
      constructor
      · exact fun finished => ⟨middle, result, rfl, finished⟩
      · rintro ⟨_, _, same, finished⟩
        cases same
        exact finished
    | error => simp [bind_of_error ended]

theorem ofExcept_eq_ok {outcome : Except ε α} :
    (ofExcept outcome : Program σ ε α) state = (final, .ok value) ↔
      outcome = .ok value ∧ state = final := by
  rw [Prod.mk.injEq]
  exact And.comm

theorem recover_fst (program : Program σ ε α) (handler : ε → α) (state : σ) :
    (recover program handler state).1 = (program state).1 := by
  unfold recover
  cases program state with
  | mk _ outcome => cases outcome <;> rfl

theorem mapError_fst (translate : ε → ε') (program : Program σ ε α) (state : σ) :
    (mapError translate program state).1 = (program state).1 := by
  unfold mapError
  cases program state with
  | mk _ outcome => cases outcome <;> rfl

/-! ## Weakest preconditions -/

/-- What `state` has to satisfy for `program` to end in a state and value with
`after`, or to fail in a state with `failed`. -/
def wp (program : Program σ ε α) (after : α → σ → Prop) (failed : ε → σ → Prop) (state : σ) :
    Prop :=
  match program state with
  | (final, .ok value) => after value final
  | (final, .error error) => failed error final

variable {after : α → σ → Prop} {failed : ε → σ → Prop} {state : σ} {function : σ → Except ε β}
  {test : Bool} {after' : α → σ → Prop}

@[simp] theorem wp_pure (value : α) :
    wp (pure value : Program σ ε α) after failed state ↔ after value state :=
  Iff.rfl

@[simp] theorem wp_bind (first : Program σ ε β) (next : β → Program σ ε α) :
    wp (first >>= next) after failed state ↔
      wp first (fun value middle => wp (next value) after failed middle) failed state := by
  unfold wp
  cases ended : first state with
  | mk _ outcome =>
    cases outcome with
    | ok => rw [bind_of_ok ended]
    | error => rw [bind_of_error ended]

@[simp] theorem wp_fail (error : ε) :
    wp (fail error : Program σ ε α) after failed state ↔ failed error state :=
  Iff.rfl

@[simp] theorem wp_modify {after : Unit → σ → Prop} (change : σ → σ) :
    wp (modify change : Program σ ε Unit) after failed state ↔ after () (change state) :=
  Iff.rfl

@[simp] theorem wp_reads (function : σ → Except ε α) :
    wp (reads function) after failed state ↔
      (∀ value, function state = .ok value → after value state) ∧
        ∀ error, function state = .error error → failed error state := by
  unfold wp reads
  cases function state <;> simp

@[simp] theorem wp_ofExcept (outcome : Except ε α) :
    wp (ofExcept outcome : Program σ ε α) after failed state ↔
      (∀ value, outcome = .ok value → after value state) ∧
        ∀ error, outcome = .error error → failed error state := by
  unfold wp ofExcept
  cases outcome <;> simp

@[simp] theorem wp_rejectIf {after : Unit → σ → Prop} (test : Bool) (cleanup : Program σ ε Unit)
    (error : ε) :
    wp (rejectIf test cleanup error) after failed state ↔
      (test → wp cleanup (fun _ => failed error) failed state) ∧
        (test = false → after () state) := by
  unfold rejectIf
  cases test <;> simp

@[simp] theorem wp_recover (program : Program σ ε α) (handler : ε → α) :
    wp (recover program handler) after failed state ↔
      wp program after (fun error => after (handler error)) state := by
  unfold wp recover
  cases program state with
  | mk _ outcome => cases outcome <;> rfl

@[simp] theorem wp_mapError {failed : ε' → σ → Prop} (translate : ε → ε')
    (program : Program σ ε α) :
    wp (mapError translate program) after failed state ↔
      wp program after (fun error => failed (translate error)) state := by
  unfold wp mapError
  cases program state with
  | mk _ outcome => cases outcome <;> rfl

/-- A weakest precondition speaks about how the program really ends. -/
theorem wp_ok (established : wp program after failed state) {final : σ} {value : α}
    (ended : program state = (final, .ok value)) : after value final := by
  unfold wp at established
  rw [ended] at established
  exact established

theorem wp_mono {failed' : ε → σ → Prop} (established : wp program after failed state)
    (results : ∀ value final, after value final → after' value final)
    (failures : ∀ error final, failed error final → failed' error final) :
    wp program after' failed' state := by
  unfold wp at established ⊢
  cases ended : program state with
  | mk final outcome =>
    rw [ended] at established
    cases outcome with
    | ok value => exact results value final established
    | error error => exact failures error final established

theorem fails_of_wp (established : wp program (fun _ _ => False) failed state) :
    ∃ final error, program state = (final, .error error) ∧ failed error final := by
  unfold wp at established
  cases ended : program state with
  | mk final outcome =>
    rw [ended] at established
    cases outcome with
    | ok => exact established.elim
    | error error => exact ⟨final, error, rfl, established⟩

private theorem wp_trivial (program : Program σ ε α) :
    wp program (fun _ _ => True) (fun _ _ => True) state := by
  unfold wp
  cases program state with
  | mk _ outcome => cases outcome <;> trivial

/-! The same rules in the form in which a proof walks down a sequence of statements. -/

theorem wp_bind_intro {middle : β → σ → Prop} (head : wp first middle failed state)
    (tail : ∀ value reached, middle value reached → wp (next value) after failed reached) :
    wp (first >>= next) after failed state :=
  (wp_bind first next).mpr (wp_mono head tail fun _ _ failure => failure)

theorem wp_reads_bind (failure : ∀ error, function state = .error error → failed error state)
    (tail : ∀ value, function state = .ok value → wp (next value) after failed state) :
    wp (reads function >>= next) after failed state :=
  (wp_bind _ next).mpr ((wp_reads function).mpr ⟨tail, failure⟩)

theorem wp_ofExcept_bind (failure : ∀ error, outcome = .error error → failed error state)
    (tail : ∀ value, outcome = .ok value → wp (next value) after failed state) :
    wp (ofExcept outcome >>= next) after failed state :=
  (wp_bind _ next).mpr ((wp_ofExcept outcome).mpr ⟨tail, failure⟩)

theorem wp_rejectIf_bind {next : Unit → Program σ ε α}
    (rejected : test → wp cleanup (fun _ => failed error) failed state)
    (tail : test = false → wp (next ()) after failed state) :
    wp (rejectIf test cleanup error >>= next) after failed state :=
  (wp_bind _ next).mpr ((wp_rejectIf test cleanup error).mpr ⟨rejected, tail⟩)

/-- Where the program returns a result, the result and the final state meet the condition. -/
abbrev Returns (program : Program σ ε α) (after : α → σ → Prop) (state : σ) : Prop :=
  wp program after (fun _ _ => True) state

namespace Returns

theorem mono (established : Returns program after state)
    (results : ∀ value final, after value final → after' value final) :
    Returns program after' state :=
  wp_mono established results fun _ _ _ => trivial

theorem skip (tail : ∀ value reached, Returns (next value) after reached) :
    Returns (first >>= next) after state :=
  wp_bind_intro (wp_trivial first) fun value reached _ => tail value reached

theorem read (tail : ∀ value, function state = .ok value → Returns (next value) after state) :
    Returns (reads function >>= next) after state :=
  wp_reads_bind (fun _ _ => trivial) tail

theorem check (tail : ∀ value, outcome = .ok value → Returns (next value) after state) :
    Returns (ofExcept outcome >>= next) after state :=
  wp_ofExcept_bind (fun _ _ => trivial) tail

theorem guard {next : Unit → Program σ ε α} (tail : test = false → Returns (next ()) after state) :
    Returns (rejectIf test cleanup error >>= next) after state :=
  wp_rejectIf_bind (fun _ => wp_trivial cleanup) tail

end Returns

/-- When results and failures meet the same condition on states, the final state meets it. -/
theorem of_wp {condition : σ → Prop}
    (established : wp program (fun _ => condition) (fun _ => condition) state) :
    condition (program state).1 := by
  unfold wp at established
  cases ended : program state with
  | mk _ outcome =>
    rw [ended] at established
    cases outcome <;> exact established

-- From here on only the rules above say what a weakest precondition is; unfolding one
-- would run the program.
attribute [irreducible] wp

/-! ## Conditions on the final state -/

/-- However the program ends, the final state meets the condition. -/
def Ensures (condition : σ → Prop) (program : Program σ ε α) (state : σ) : Prop :=
  wp program (fun _ => condition) (fun _ => condition) state

namespace Ensures
variable {condition : σ → Prop}

theorem pure (held : condition state) (value : α) :
    Ensures condition (pure value : Program σ ε α) state :=
  (wp_pure value).mpr held

theorem fail (held : condition state) (error : ε) :
    Ensures condition (fail error : Program σ ε α) state :=
  (wp_fail error).mpr held

theorem ofExcept (held : condition state) (outcome : Except ε α) :
    Ensures condition (ofExcept outcome) state :=
  (wp_ofExcept outcome).mpr ⟨fun _ _ => held, fun _ _ => held⟩

theorem modify {change : σ → σ} (held : condition (change state)) :
    Ensures condition (modify change : Program σ ε Unit) state :=
  (wp_modify change).mpr held

theorem bind (head : Ensures condition first state)
    (tail : ∀ value reached, condition reached → Ensures condition (next value) reached) :
    Ensures condition (first >>= next) state :=
  wp_bind_intro head tail

/-- The program ends with a result made of that of its first part. -/
theorem done {result : β → α} (head : Ensures condition first state) :
    Ensures condition (first >>= fun value => Pure.pure (result value)) state :=
  bind head fun _ _ held => pure held _

/-- A check that does not write may be followed by a step that uses what the state holds. -/
theorem check (held : condition state)
    (tail : ∀ value, outcome = .ok value → Ensures condition (next value) state) :
    Ensures condition (Program.ofExcept outcome >>= next) state :=
  wp_ofExcept_bind (fun _ _ => held) tail

theorem read (held : condition state)
    (tail : ∀ value, function state = .ok value → Ensures condition (next value) state) :
    Ensures condition (reads function >>= next) state :=
  wp_reads_bind (fun _ _ => held) tail

theorem guard {next : Unit → Program σ ε α} (held : condition state)
    (tail : test = false → Ensures condition (next ()) state) :
    Ensures condition (rejectIf test (Pure.pure ()) error >>= next) state :=
  wp_rejectIf_bind (fun _ => pure held ()) tail

theorem recover (ensured : Ensures condition program state) (handler : ε → α) :
    Ensures condition (program.recover handler) state :=
  (wp_recover program handler).mpr ensured

theorem mapError (ensured : Ensures condition program state) (translate : ε → ε') :
    Ensures condition (program.mapError translate) state :=
  (wp_mapError translate program).mpr ensured

end Ensures

/-! ## Independence from a part of the state -/

/-- Started in related states, the program gives one result and related states. -/
def Blind (related : σ → σ → Prop) (program : Program σ ε α) : Prop :=
  ∀ first second, related first second →
    related (program first).1 (program second).1 ∧ (program first).2 = (program second).2

variable {related : σ → σ → Prop}

theorem Blind.pure (value : α) : Blind related (pure value : Program σ ε α) :=
  fun _ _ relation => ⟨relation, rfl⟩

theorem Blind.fail (error : ε) : Blind related (fail error : Program σ ε α) :=
  fun _ _ relation => ⟨relation, rfl⟩

theorem Blind.bind (head : Blind related first) (tail : ∀ value, Blind related (next value)) :
    Blind related (first >>= next) := by
  intro left right relation
  obtain ⟨middle, same⟩ := head left right relation
  cases leftEnd : first left with
  | mk _ leftOutcome =>
    cases rightEnd : first right with
    | mk =>
      rw [leftEnd, rightEnd] at middle same
      subst same
      cases leftOutcome with
      | ok value =>
        rw [bind_of_ok leftEnd, bind_of_ok rightEnd]
        exact tail value _ _ middle
      | error =>
        rw [bind_of_error leftEnd, bind_of_error rightEnd]
        exact ⟨middle, rfl⟩

theorem Blind.check (tail : ∀ value, outcome = .ok value → Blind related (next value)) :
    Blind related (Program.ofExcept outcome >>= next) := by
  cases outcome with
  | error => exact fun _ _ relation => ⟨relation, rfl⟩
  | ok value => exact tail value rfl

theorem Blind.ok_bind {value : β} (known : outcome = .ok value)
    (tail : Blind related (next value)) : Blind related (Program.ofExcept outcome >>= next) := by
  rw [known]
  exact tail

theorem Blind.rejectIf (cleaned : Blind related cleanup) (test : Bool)
    (error : ε) : Blind related (rejectIf test cleanup error) := by
  cases test with
  | true => exact cleaned.bind fun _ => .fail error
  | false => exact .pure ()

theorem Blind.guard {next : Unit → Program σ ε α} (tail : Blind related (next ())) :
    Blind related (Program.rejectIf test (Pure.pure ()) error >>= next) :=
  ((Blind.pure ()).rejectIf test error).bind fun _ => tail

theorem Blind.reads {function : σ → Except ε α}
    (blind : ∀ first second, related first second → function first = function second) :
    Blind related (reads function) :=
  fun first second relation => ⟨relation, blind first second relation⟩

theorem Blind.modify {change : σ → σ}
    (kept : ∀ first second, related first second → related (change first) (change second)) :
    Blind related (modify change : Program σ ε Unit) :=
  fun first second relation => ⟨kept first second relation, rfl⟩

end Program

end Foundation
