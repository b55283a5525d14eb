import Mathlib.Data.String.Basic
import TachyonMesh.Foundation.Dictionary

/-! # Folders of files

A directory whose entries are folders, and folders as flat maps from the relative
paths of their files to contents. Moving a folder is one operation; removing one is
not, it takes the files away one after the other in an order of its own and then
the empty folder. A folder may be moved onto an empty folder but not onto files.
-/

namespace Foundation

/-- The files of a folder by name. -/
abbrev Folder (β : Type) := Dictionary String β

/-- Folders by name. -/
abbrev Folders (β : Type) := Dictionary String (Folder β)

namespace Folders
variable {β : Type}

def isEmpty (folder : Folder β) : Bool := folder.entries.isEmpty

/-- Rename a folder; `none` when there is no such folder or files are in the way. -/
def move (folders : Folders β) (source target : String) : Option (Folders β) :=
  match folders.find source with
  | none => none
  | some folder =>
      if source ≠ target ∧ (folders.find target).all isEmpty then
        some ((folders.erase source).insert target folder)
      else none

/-- Put a file into a folder that exists. -/
def write (folders : Folders β) (name file : String) (content : β) : Option (Folders β) :=
  (folders.find name).map fun folder => folders.insert name (folder.insert file content)

/-- Take a file away; `none` when there is no such file. -/
def unlink (folders : Folders β) (name file : String) : Option (Folders β) :=
  match folders.find name with
  | none => none
  | some folder =>
      if (folder.find file).isSome then some (folders.insert name (folder.erase file)) else none

variable {folders changed : Folders β} {source target name file : String}

theorem find_of_move (moved : folders.move source target = some changed) (other : String) :
    changed.find other =
      if other = target then folders.find source
      else if other = source then none else folders.find other := by
  unfold move at moved
  split at moved
  · cases moved
  · next _ found =>
    obtain ⟨-, moved⟩ := Option.ite_none_right_eq_some.mp moved
    cases moved
    rw [Dictionary.find_insert, found]
    by_cases here : other = target
    · rw [if_pos here, if_pos here]
    · rw [if_neg here, if_neg here, Dictionary.find_erase]

theorem move_of_absent {folder : Folder β} (found : folders.find source = some folder)
    (free : folders.find target = none) : ∃ changed, folders.move source target = some changed := by
  have different : source ≠ target := by
    rintro rfl
    cases free.symm.trans found
  unfold move
  rw [found, free]
  dsimp only
  rw [if_pos ⟨different, rfl⟩]
  exact ⟨_, rfl⟩

theorem find_of_unlink (unlinked : folders.unlink name file = some changed) {other : String}
    (different : other ≠ name) : changed.find other = folders.find other := by
  unfold unlink at unlinked
  split at unlinked
  · cases unlinked
  · obtain ⟨-, unlinked⟩ := Option.ite_none_right_eq_some.mp unlinked
    cases unlinked
    rw [Dictionary.find_insert, if_neg different]

end Folders

end Foundation
