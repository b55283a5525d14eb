import Mathlib.Data.List.Infix
import TachyonMesh.Foundation.Program

/-! # Chronicles

A chronicle is a list that programs only append to. What may be written is said by
`justified`: an entry has to be justified by the entries before it. Justified
chronicles stay justified when an entry with a justification is recorded and when
the last entries are cut off, so a program that is interrupted leaves a justified
chronicle behind whenever the whole program would.
-/

namespace Foundation
open List
variable {α ε β : Type} {justified : List α → α → Prop} {entry : α} {entries : List α}

/-- Every entry is justified by the entries before it. -/
def Chronicle (justified : List α → α → Prop) (entries : List α) : Prop :=
  ∀ earlier entry later, entries = earlier ++ entry :: later → justified earlier entry

namespace Chronicle
variable {justified : List α → α → Prop} {entries : List α}

theorem nil : Chronicle justified [] := by
  intro earlier entry later split
  simp at split

variable {entry : α} (valid : Chronicle justified entries)
include valid

/-- Append an entry. -/
private theorem record (justification : justified entries entry) :
    Chronicle justified (entries ++ [entry]) := by
  intro earlier other later split
  rcases eq_nil_or_concat later with rfl | ⟨others, _, rfl⟩
  · obtain ⟨rfl, same⟩ := append_inj' split rfl
    rw [← singleton_inj.mp same]
    exact justification
  · rw [concat_eq_append, ← cons_append, ← append_assoc] at split
    obtain ⟨before, -⟩ := append_inj' split rfl
    exact valid earlier other others before

private theorem of_prefix {shorter : List α} (start : shorter <+: entries) :
    Chronicle justified shorter := by
  intro earlier entry later split
  obtain ⟨rest, rfl⟩ := start
  exact valid earlier entry (later ++ rest) (by rw [split, append_assoc, cons_append])

theorem mono {weaker : List α → α → Prop}
    (implies : ∀ earlier entry, justified earlier entry → weaker earlier entry) :
    Chronicle weaker entries :=
  fun earlier entry later split => implies earlier entry (valid earlier entry later split)

/-- An entry that is in the chronicle was justified when it was written. -/
theorem of_getElem? {index : Nat} (found : entries[index]? = some entry) :
    justified (entries.take index) entry := by
  obtain ⟨-, rfl⟩ := List.getElem?_eq_some_iff.mp found
  apply valid (entries.take index) _ (entries.drop (index + 1))
  rw [cons_getElem_drop_succ, take_append_drop]

end Chronicle

/-- The chronicle goes on from `start`, with justified entries. -/
def Continues (justified : List α → α → Prop) (start entries : List α) : Prop :=
  ∃ added, entries = start ++ added ∧ Chronicle (fun earlier => justified (start ++ earlier)) added

namespace Continues
variable {justified : List α → α → Prop} {start entries : List α} {entry : α}

theorem refl (start : List α) : Continues justified start start :=
  ⟨[], (append_nil start).symm, .nil⟩

theorem record (continued : Continues justified start entries)
    (justification : justified entries entry) : Continues justified start (entries ++ [entry]) := by
  obtain ⟨added, rfl, valid⟩ := continued
  exact ⟨added ++ [entry], append_assoc _ _ _, valid.record justification⟩

end Continues

theorem continues_nil : Continues justified [] entries ↔ Chronicle justified entries :=
  ⟨fun ⟨_, same, valid⟩ => same ▸ valid, fun valid => ⟨entries, rfl, valid⟩⟩

namespace Program

def record (entry : α) : Program (List α) ε Unit := modify fun entries => entries ++ [entry]

/-- Stop the program after it has written `kept` entries, and fail. -/
def interrupt (program : Program (List α) ε β) (kept : Nat) (error : ε) :
    Program (List α) ε β := fun entries =>
  ((program entries).1.take (entries.length + kept), .error error)

variable {after : Unit → List α → Prop} {failed : ε → List α → Prop} {entries start : List α}
  {next : Unit → Program (List α) ε β}

@[simp] theorem wp_record (entry : α) :
    wp (record entry : Program (List α) ε Unit) after failed entries ↔
      after () (entries ++ [entry]) :=
  wp_modify _

private theorem wp_record_bind {after : β → List α → Prop}
    (tail : wp (next ()) after failed (entries ++ [entry])) :
    wp (record entry >>= next) after failed entries := by
  rw [wp_bind, wp_record]
  exact tail

/-- An interrupted program goes on from the same start. -/
theorem Ensures.interrupt {program : Program (List α) ε β}
    (continued : Continues justified start entries)
    (ensured : Ensures (Continues justified start) program entries) (kept : Nat) (error : ε) :
    Ensures (Continues justified start) (interrupt program kept error) entries := by
  obtain ⟨before, rfl, -⟩ := continued
  obtain ⟨added, written, valid⟩ := of_wp ensured
  unfold Ensures wp Program.interrupt
  refine ⟨added.take (before.length + kept), ?_, valid.of_prefix (List.take_prefix _ _)⟩
  rw [written, length_append, Nat.add_assoc, take_length_add_append]

theorem Ensures.note (continued : Continues justified start entries)
    (justification : justified entries entry)
    (tail : Continues justified start (entries ++ [entry]) →
      Ensures (Continues justified start) (next ()) (entries ++ [entry])) :
    Ensures (Continues justified start) (Program.record entry >>= next) entries :=
  wp_record_bind (tail (continued.record justification))

/-! ## What a program writes -/

/-- However the program ends, it has only appended, and only entries that are allowed. -/
def Writes (allowed : α → Prop) (program : Program (List α) ε β) : Prop :=
  ∀ entries, ∃ added, (program entries).1 = entries ++ added ∧ ∀ entry ∈ added, allowed entry

variable {γ ε' : Type} {allowed : α → Prop} {program first : Program (List α) ε β}
  {next : β → Program (List α) ε γ}

theorem Writes.mono {weaker : α → Prop} (written : Writes allowed program)
    (implies : ∀ entry, allowed entry → weaker entry) : Writes weaker program := by
  intro entries
  obtain ⟨added, same, permitted⟩ := written entries
  exact ⟨added, same, fun entry member => implies entry (permitted entry member)⟩

theorem Writes.of_continues
    (continues : ∀ entries, Ensures (Continues (fun _ => allowed) entries) program entries) :
    Writes allowed program := by
  intro entries
  obtain ⟨added, written, valid⟩ := of_wp (continues entries)
  refine ⟨added, written, fun entry member => ?_⟩
  obtain ⟨earlier, later, split⟩ := append_of_mem member
  exact valid earlier entry later split

theorem Writes.pure (value : β) : Writes allowed (pure value : Program (List α) ε β) := by
  intro entries
  exact ⟨[], (append_nil entries).symm, by simp⟩

theorem Writes.fail (error : ε) : Writes allowed (fail error : Program (List α) ε β) := by
  intro entries
  exact ⟨[], (append_nil entries).symm, by simp⟩

theorem Writes.ofExcept (outcome : Except ε β) :
    Writes allowed (ofExcept outcome : Program (List α) ε β) := by
  intro entries
  exact ⟨[], (append_nil entries).symm, by simp⟩

theorem Writes.record (permitted : allowed entry) :
    Writes allowed (record entry : Program (List α) ε Unit) := by
  intro entries
  exact ⟨[entry], rfl, by simpa using permitted⟩

/-- What a chain appends to given entries; its second part may use how the first one ended. -/
theorem Writes.bind_from (entries : List α) (head : Writes allowed first)
    (tail : ∀ middle value, first entries = (middle, .ok value) → Writes allowed (next value)) :
    ∃ added, ((first >>= next) entries).1 = entries ++ added ∧ ∀ entry ∈ added, allowed entry := by
  obtain ⟨added, written, permitted⟩ := head entries
  cases ended : first entries with
  | mk middle outcome =>
    rw [ended] at written
    cases outcome with
    | error =>
      rw [bind_of_error ended]
      exact ⟨added, written, permitted⟩
    | ok value =>
      rw [bind_of_ok ended]
      obtain ⟨others, continued, permittedToo⟩ := tail middle value ended middle
      refine ⟨added ++ others, ?_, ?_⟩
      · rw [continued, ← append_assoc]
        exact congrArg (· ++ others) written
      · intro entry member
        exact (mem_append.mp member).elim (permitted entry) (permittedToo entry)

theorem Writes.bind (head : Writes allowed first) (tail : ∀ value, Writes allowed (next value)) :
    Writes allowed (first >>= next) := by
  intro entries
  exact head.bind_from entries fun _ value _ => tail value

theorem Writes.check {outcome : Except ε β}
    (tail : ∀ value, outcome = .ok value → Writes allowed (next value)) :
    Writes allowed (Program.ofExcept outcome >>= next) := by
  cases outcome with
  | error error => exact .fail error
  | ok value => exact tail value rfl

theorem Writes.mapError (written : Writes allowed program)
    (translate : ε → ε') : Writes allowed (program.mapError translate) := by
  intro entries
  rw [mapError_fst]
  exact written entries

end Program

end Foundation
