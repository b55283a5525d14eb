import Mathlib.Logic.Basic

/-! # Self-delimiting texts

A wire writes values in front of a text and takes them off again, so that values can be
written one after another without separators. `Wire.read_write` is the round trip of
whole texts.
-/

namespace Foundation

universe u v

/-- A prefix format: what is put can be taken back. -/
structure Wire (α : Type u) where
  put : α → List Char → List Char
  take : List Char → Option (α × List Char)
  take_put : ∀ value rest, take (put value rest) = some (value, rest)

namespace Wire

def char : Wire Char where
  put := List.cons
  take
    | [] => none
    | c :: rest => some (c, rest)
  take_put _ _ := rfl

def putCount : Nat → List Char → List Char
  | 0, rest => '.' :: rest
  | count + 1, rest => '|' :: putCount count rest

def takeCount : List Char → Option (Nat × List Char)
  | '.' :: rest => some (0, rest)
  | '|' :: rest => (takeCount rest).map fun taken => (taken.1 + 1, taken.2)
  | _ => none

private theorem takeCount_putCount (count : Nat) (rest : List Char) :
    takeCount (putCount count rest) = some (count, rest) := by
  induction count with
  | zero => rfl
  | succ _ ih => simp [putCount, takeCount, ih]

/-- A number in strokes. -/
def count : Wire Nat := ⟨putCount, takeCount, takeCount_putCount⟩

variable {α : Type u} {β : Type v}

/-- One value after another. -/
def pair (first : Wire α) (second : Wire β) : Wire (α × β) where
  put value rest := first.put value.1 (second.put value.2 rest)
  take text :=
    (first.take text).bind fun left =>
      (second.take left.2).map fun right => ((left.1, right.1), right.2)
  take_put value rest := by simp [first.take_put, second.take_put]

def takeMany (wire : Wire α) : Nat → List Char → Option (List α × List Char)
  | 0, text => some ([], text)
  | count + 1, text =>
      (wire.take text).bind fun first =>
        (takeMany wire count first.2).map fun others => (first.1 :: others.1, others.2)

private theorem takeMany_foldr (wire : Wire α) (values : List α) (rest : List Char) :
    wire.takeMany values.length (values.foldr wire.put rest) = some (values, rest) := by
  induction values with
  | nil => rfl
  | cons _ _ ih => simp [takeMany, wire.take_put, ih]

/-- A length and the values. -/
def list (wire : Wire α) : Wire (List α) where
  put values rest := count.put values.length (values.foldr wire.put rest)
  take text := (count.take text).bind fun length => wire.takeMany length.1 length.2
  take_put values rest := by simp [count.take_put, takeMany_foldr]

/-- Another type through a bijection. -/
def via (wire : Wire α) (pack : α → β) (unpack : β → α)
    (inverse : ∀ value, pack (unpack value) = value) : Wire β where
  put value rest := wire.put (unpack value) rest
  take text := (wire.take text).map fun taken => (pack taken.1, taken.2)
  take_put value rest := by simp [wire.take_put, inverse]

def text : Wire String := (list char).via String.ofList String.toList fun _ => String.ofList_toList

/-- The text of a value. -/
def write (wire : Wire α) (value : α) : String := String.ofList (wire.put value [])

/-- The value of a whole text. -/
def read (wire : Wire α) (text : String) : Option α :=
  match wire.take text.toList with
  | some (value, []) => some value
  | _ => none

@[simp] theorem read_write (wire : Wire α) (value : α) :
    wire.read (wire.write value) = some value := by
  simp [read, write, wire.take_put]

end Wire

end Foundation
