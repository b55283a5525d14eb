import TachyonMesh.ModelBroker.Commit

/-! # Rules for the operations of a commit

The names of the directories that commits work with are apart, so an operation on one
leaves the others alone (`Place.name_injective`). Each operation of a commit has a rule
for `Script.Always`; a directory that is being removed may be in any state until it is
gone (`always_removeDirAll`).
-/

namespace TachyonMesh.ModelBroker
open Foundation Place Script
variable {β : Type} {broker : Broker β}

/-! ## Places -/

private theorem undotted (broker : Broker β) (rest : List Char) :
    broker.aliasName.toList ≠ '.' :: rest := by
  intro dotted
  have valid := broker.valid
  unfold validateAlias at valid
  rw [dotted] at valid
  simp [List.isPrefixOf] at valid

/-- The letter after the dot of a hidden name. -/
private def Place.letter : Place → Char
  | .live => '.'
  | .incoming _ => 'i'
  | .replaced _ => 'r'
  | .discarded _ => 'd'

private theorem Place.spelled (place : Place) (hidden : place ≠ .live) :
    ∃ rest, (place.name broker).toList = '.' :: place.letter :: rest := by
  cases place with
  | live => exact absurd rfl hidden
  | _ => exact ⟨_, String.toList_append⟩

variable {first second : Place} {world : World broker}

private theorem Place.name_injective (same : first.name broker = second.name broker) :
    first = second := by
  have spelled := congrArg String.toList same
  by_cases left : first = .live
  · by_cases right : second = .live
    · rw [left, right]
    · obtain ⟨_, dotted⟩ := second.spelled right
      rw [left] at spelled
      exact absurd (spelled.trans dotted) (undotted broker _)
  · obtain ⟨_, dotted⟩ := first.spelled left
    by_cases right : second = .live
    · rw [right] at spelled
      exact absurd (spelled.symm.trans dotted) (undotted broker _)
    obtain ⟨_, alsoDotted⟩ := second.spelled right
    rw [dotted, alsoDotted, List.cons.injEq, List.cons.injEq] at spelled
    have letters := spelled.2.1
    match first, second with
    | .live, _ => exact absurd rfl left
    | _, .live => exact absurd rfl right
    | .incoming _, .incoming _ => exact congrArg incoming ((String.append_right_inj _).mp same)
    | .replaced _, .replaced _ => exact congrArg replaced ((String.append_right_inj _).mp same)
    | .discarded _, .discarded _ => exact congrArg discarded ((String.append_right_inj _).mp same)
    | .incoming _, .replaced _ | .incoming _, .discarded _ | .replaced _, .incoming _
    | .replaced _, .discarded _ | .discarded _, .incoming _ | .discarded _, .replaced _ =>
      simp [letter] at letters

theorem Place.name_ne (different : first ≠ second) : first.name broker ≠ second.name broker :=
  fun same => different (name_injective same)

/-! ## Rules for the file operations -/

/-- The worlds differ at most in one directory. -/
structure Apart (name : String) (world changed : World broker) : Prop where
  rest : changed = { world with folders := changed.folders }
  folders : ∀ other, other ≠ name → changed.folders.find other = world.folders.find other

private theorem Apart.refl (name : String) (world : World broker) : Apart name world world :=
  ⟨rfl, fun _ _ => rfl⟩

private theorem Apart.trans {name : String} {first second third : World broker}
    (one : Apart name first second) (two : Apart name second third) : Apart name first third := by
  constructor
  · rw [two.rest, one.rest]
  · intro other different
    rw [two.folders other different, one.folders other different]

theorem Apart.at {place other : Place} {changed : World broker}
    (apart : Apart (place.name broker) world changed) (different : other ≠ place) :
    changed.at other = world.at other :=
  apart.folders _ (name_ne different)

section
variable {α : Type} {allowed : World broker → Choice → Prop} {invariant : World broker → Prop}
  {after : α → World broker → Prop} {world : World broker}

theorem always_perform {change : World broker → World broker} {answer : World broker → α}
    (kept : invariant (change world)) (ended : after (answer world) (change world)) :
    (perform change answer).Always allowed invariant after world := by
  apply always_act
  intro choice changed _ effected
  cases choice with
  | proceed =>
    cases effected
    exact ⟨kept, ended⟩
  | _ => cases effected

theorem always_inspect {γ : Type} {read : World broker → γ} {next : γ → Commit broker α}
    (kept : invariant world)
    (continues : (next (read world)).Always allowed invariant after world) :
    (inspect read >>= next).Always allowed invariant after world :=
  always_bind (always_perform kept continues)

theorem always_onFolders {operation : Folders β → Option (Folders β)}
    {after : Bool → World broker → Prop}
    (failed : operation world.folders = none → invariant world ∧ after false world)
    (succeeded : ∀ folders, operation world.folders = some folders →
      invariant { world with folders } ∧ after true { world with folders }) :
    (onFolders operation).Always allowed invariant after world := by
  cases result : operation world.folders with
  | none =>
    have same : world.onFolders operation = world := by rw [World.onFolders, result]; rfl
    obtain ⟨kept, ended⟩ := failed result
    apply always_perform
    · rw [same]
      exact kept
    · rw [same, result]
      exact ended
  | some folders =>
    have changed : world.onFolders operation = { world with folders } := by
      rw [World.onFolders, result]
      rfl
    obtain ⟨kept, ended⟩ := succeeded folders result
    apply always_perform
    · rw [changed]
      exact kept
    · rw [changed, result]
      exact ended

variable {name : String} {after : Unit → World broker → Prop}

private theorem always_removeEntries (files : Nat)
    (kept : ∀ changed, Apart name world changed → invariant changed)
    (ended : ∀ changed, Apart name world changed → changed.folders.find name = none →
      after () changed) :
    (removeEntries name files).Always allowed invariant after world := by
  induction files generalizing world with
  | zero =>
    have apart : Apart name world (world.onFolders fun folders => some (folders.erase name)) := by
      refine ⟨rfl, fun other different => ?_⟩
      exact (Dictionary.find_erase world.folders name other).trans (if_neg different)
    apply always_perform (kept _ apart)
    apply ended _ apart
    exact (Dictionary.find_erase world.folders name name).trans (if_pos rfl)
  | succ _ ih =>
    apply always_bind
    apply always_act
    intro choice changed _ effected
    cases choice with
    | unlink =>
      obtain ⟨folders, unlinked, rfl⟩ := Option.map_eq_some_iff.mp effected
      have apart : Apart name world { world with folders } :=
        ⟨rfl, fun _ different => Folders.find_of_unlink unlinked different⟩
      refine ⟨kept _ apart, ih ?_ ?_⟩
      · intro changed later
        exact kept changed (apart.trans later)
      · intro changed later gone
        exact ended changed (apart.trans later) gone
    | _ => cases effected

/-- A directory goes file by file; afterwards it is gone. -/
theorem always_removeDirAll (kept : ∀ changed, Apart name world changed → invariant changed)
    (ended : ∀ changed, Apart name world changed → changed.folders.find name = none →
      after () changed) :
    (removeDirAll name).Always allowed invariant after world := by
  apply always_inspect (kept _ (.refl name world))
  cases found : world.folders.find name with
  | none => exact always_pure (ended _ (.refl name world) found)
  | some => exact always_removeEntries _ kept ended

theorem always_removeDirAll_absent (absent : world.folders.find name = none)
    (kept : invariant world) (ended : after () world) :
    (removeDirAll name).Always allowed invariant after world := by
  apply always_inspect kept
  rw [absent]
  exact always_pure ended

end

theorem at_of_move {source target : Place} {folders : Folders β}
    (moved : world.folders.move (source.name broker) (target.name broker) = some folders)
    (other : Place) :
    World.at { world with folders } other =
      if other = target then world.at source
      else if other = source then none else world.at other := by
  have found : World.at { world with folders } other = _ :=
    Folders.find_of_move moved (other.name broker)
  rw [found]
  by_cases here : other = target
  · rw [if_pos here, if_pos (congrArg _ here)]
    rfl
  rw [if_neg here, if_neg (name_ne here)]
  by_cases there : other = source
  · rw [if_pos there, if_pos (congrArg _ there)]
  · rw [if_neg there, if_neg (name_ne there)]
    rfl

theorem always_rename {source target : Place} {folder : Folder β}
    {allowed : World broker → Choice → Prop} {invariant : World broker → Prop}
    {after : Bool → World broker → Prop} (present : world.at source = some folder)
    (free : world.at target = none)
    (moves : ∀ folders,
      (∀ other, World.at { world with folders } other =
        if other = target then some folder else if other = source then none else world.at other) →
      invariant { world with folders } ∧ after true { world with folders }) :
    (rename source target).Always allowed invariant after world := by
  apply always_onFolders
  · intro failed
    obtain ⟨_, moved⟩ := Folders.move_of_absent present free
    cases failed.symm.trans moved
  intro folders moved
  apply moves
  rw [← present]
  exact at_of_move moved

end TachyonMesh.ModelBroker
