import Mathlib.Data.String.Basic
import TachyonMesh.Foundation.Dictionary

/-! # JSON values and their texts

The values a JSON library hands out: an object enumerates its members in ascending
order of their keys, and a number is a natural number or a negative integer of 64 bits, or
a finite double. A reader accepts a text only up to a nesting limit, so what can be read
back is a value that `Json.fits` the limit.

`JsonCodec` is the contract of such a library. A text is written either from a
value or from a list of fields in the order in which a record declares them, where
a key may occur twice; the reader keeps the last member with a key. A double need not be
read as it was printed.
-/

namespace Foundation

/-- A JSON value, its members in order. -/
inductive Json where
  | null
  | bool (value : Bool)
  | natural (value : UInt64)
  | negative (value : Int64)
  /-- A double, by its bits. -/
  | float (bits : UInt64)
  | text (value : String)
  | array (items : List Json)
  | object (members : List (String × Json))

namespace Json

/-- The member of an object. -/
def get (key : String) : Json → Option Json
  | .object members => findEntry key members
  | _ => none

/-- Add a member to an object or replace it; `none` for any other value. -/
def put (value : Json) (key : String) (member : Json) : Option Json :=
  match value with
  | .object members => some (.object (insertEntry key member members))
  | _ => none

/-- The text of a string. -/
def asText : Json → Option String
  | .text value => some value
  | _ => none

/-- The object that a list of fields denotes: the last field with a key counts. -/
def ofFields (fields : List (String × Json)) : Json := .object (insertEntries fields [])

/-- The exponent of the double is not that of an infinity or a NaN. -/
def finite (bits : UInt64) : Bool := (bits >>> 52) &&& 0x7ff != 0x7ff

/-- Objects are in ascending order, containers nest at most `depth` deep, and the doubles
are among `doubles`. -/
def fits (doubles : UInt64 → Bool) : (depth : Nat) → Json → Bool
  | _, .negative value => value < 0
  | _, .float bits => doubles bits
  | 0, .array _ => false
  | 0, .object _ => false
  | depth + 1, .array items => items.all (fits doubles depth)
  | depth + 1, .object members =>
      decide (Ascending members) && members.all fun member => fits doubles depth member.2
  | _, _ => true

mutual

/-- Equality that can be evaluated. -/
def same : Json → Json → Bool
  | .null, .null => true
  | .bool first, .bool second => first == second
  | .natural first, .natural second => first == second
  | .negative first, .negative second => first == second
  | .float first, .float second => first == second
  | .text first, .text second => first == second
  | .array first, .array second => sameItems first second
  | .object first, .object second => sameMembers first second
  | _, _ => false

def sameItems : List Json → List Json → Bool
  | [], [] => true
  | first :: left, second :: right => same first second && sameItems left right
  | _, _ => false

def sameMembers : List (String × Json) → List (String × Json) → Bool
  | [], [] => true
  | (key, first) :: left, (other, second) :: right =>
      key == other && same first second && sameMembers left right
  | _, _ => false

end

mutual

private theorem same_iff : ∀ first second : Json, same first second ↔ first = second
  | .null, second => by cases second <;> simp [same]
  | .bool _, second => by cases second <;> simp [same]
  | .natural _, second => by cases second <;> simp [same]
  | .negative _, second => by cases second <;> simp [same]
  | .float _, second => by cases second <;> simp [same]
  | .text _, second => by cases second <;> simp [same]
  | .array items, second => by
      cases second with
      | array others => simp [same, sameItems_iff items others]
      | _ => simp [same]
  | .object members, second => by
      cases second with
      | object others => simp [same, sameMembers_iff members others]
      | _ => simp [same]

private theorem sameItems_iff : ∀ first second : List Json, sameItems first second ↔ first = second
  | [], second => by cases second <;> simp [sameItems]
  | item :: rest, second => by
      cases second with
      | nil => simp [sameItems]
      | cons other others => simp [sameItems, same_iff item other, sameItems_iff rest others]

private theorem sameMembers_iff :
    ∀ first second : List (String × Json), sameMembers first second ↔ first = second
  | [], second => by cases second <;> simp [sameMembers]
  | (key, value) :: rest, second => by
      cases second with
      | nil => simp [sameMembers]
      | cons other others =>
        simp [sameMembers, Prod.ext_iff, same_iff value other.2, sameMembers_iff rest others]

end

instance : DecidableEq Json := fun first second =>
  decidable_of_iff (same first second) (same_iff first second)

variable {key : String} {value object changed : Json} {depth : Nat}

theorem get_ofFields (fields : List (String × Json)) (key : String) :
    (ofFields fields).get key = findEntry key fields.reverse := by
  have found := findEntry_insertEntries key fields ([] : List (String × Json))
  rwa [show findEntry key ([] : List (String × Json)) = none from rfl, Option.or_none] at found

/-! ## Nesting -/

variable {doubles others : UInt64 → Bool}

theorem fits_object {members : List (String × Json)} :
    (Json.object members).fits doubles (depth + 1) ↔
      Ascending members ∧ ∀ member ∈ members, member.2.fits doubles depth := by
  rw [fits, Bool.and_eq_true, decide_eq_true_eq, List.all_eq_true]

/-- A value that nests no deeper than `depth`, with doubles among `others`. -/
theorem fits_of_shape {shape : Nat} (shallow : value.fits doubles depth)
    (fitting : value.fits others shape) : value.fits others depth := by
  induction depth generalizing value shape with
  | zero =>
    cases value with
    | array | object => cases shallow
    | _ => cases shape <;> exact fitting
  | succ _ ih =>
    cases value with
    | array =>
      cases shape with
      | zero => cases fitting
      | succ =>
        rw [fits, List.all_eq_true] at shallow fitting ⊢
        exact fun item present => ih (shallow item present) (fitting item present)
    | object =>
      cases shape with
      | zero => cases fitting
      | succ =>
        rw [fits_object] at shallow fitting ⊢
        exact ⟨fitting.1, fun member present =>
          ih (shallow.2 member present) (fitting.2 member present)⟩
    | _ => cases shape <;> exact fitting

theorem fits_succ (fitting : value.fits doubles depth) : value.fits doubles (depth + 1) := by
  induction depth generalizing value with
  | zero =>
    cases value with
    | array | object => cases fitting
    | _ => exact fitting
  | succ _ ih =>
    cases value with
    | array =>
      rw [fits, List.all_eq_true] at fitting ⊢
      exact fun item present => ih (fitting item present)
    | object =>
      rw [fits_object] at fitting ⊢
      exact ⟨fitting.1, fun member present => ih (fitting.2 member present)⟩
    | _ => exact fitting

theorem fits_of_get {member : Json} (fitting : value.fits doubles (depth + 1))
    (found : value.get key = some member) : member.fits doubles depth := by
  cases value with
  | object =>
    obtain ⟨_, inside⟩ := fits_object.mp fitting
    exact inside _ (mem_of_findEntry found)
  | _ => cases found

theorem fits_of_put (fitting : object.fits doubles (depth + 1)) (inside : value.fits doubles depth)
    (added : object.put key value = some changed) : changed.fits doubles (depth + 1) := by
  cases object with
  | object =>
    cases added
    obtain ⟨ascending, fit⟩ := fits_object.mp fitting
    apply fits_object.mpr ⟨ascending.insertEntry key value, _⟩
    intro member present
    rcases mem_insertEntry present with new | kept
    · rw [new]
      exact inside
    · exact fit member kept
  | _ => cases added

theorem fits_ofFields {fields : List (String × Json)}
    (inside : ∀ field ∈ fields, field.2.fits doubles depth) :
    (ofFields fields).fits doubles (depth + 1) := by
  have ascending : Ascending (insertEntries fields []) := .insertEntries List.Pairwise.nil fields
  apply fits_object.mpr ⟨ascending, _⟩
  rintro ⟨key, value⟩ present
  have found : findEntry key (insertEntries fields []) = some value :=
    ascending.findEntry_eq_some.mpr present
  rw [findEntry_insertEntries, show findEntry key ([] : List (String × Json)) = none from rfl,
    Option.or_none] at found
  exact inside _ (List.mem_reverse.mp (mem_of_findEntry found))

end Json

/-- Containers nest at most this deep in a text that is read. -/
def nestingLimit : Nat := 127

/-- A JSON library over texts `β`. -/
structure JsonCodec (β : Type) where
  parse : β → Option Json
  encode : Json → β
  /-- The text of a record, its fields in the order in which they are written. -/
  encodeFields : List (String × Json) → β
  /-- The doubles that are read as they were printed. -/
  exact : UInt64 → Bool
  fits_of_parse : ∀ {text value}, parse text = some value → value.fits Json.finite nestingLimit
  parse_encode : ∀ {value}, value.fits exact nestingLimit → parse (encode value) = some value
  /-- Whatever becomes of the doubles, the members that are texts are read as they are. -/
  texts_of_encode : ∀ {value}, value.fits Json.finite nestingLimit →
    ∃ read, parse (encode value) = some read ∧
      ∀ key, (read.get key).bind Json.asText = (value.get key).bind Json.asText
  parse_too_deep : ∀ {value depth}, value.fits Json.finite depth →
    value.fits Json.finite nestingLimit = false → parse (encode value) = none
  parse_encodeFields : ∀ {fields : List (String × Json)},
    (∀ field ∈ fields, field.2.fits exact (nestingLimit - 1)) →
    parse (encodeFields fields) = some (.ofFields fields)
  /-- The text of a value enumerates its members in order. -/
  ascending_of_encode : ∀ {value depth fields}, value.fits Json.finite depth →
    encode value = encodeFields fields → Ascending fields

/-- Texts that remember how they were written. -/
inductive JsonText where
  | written (value : Json)
  | record (fields : List (String × Json))
  | garbage (bytes : String)
deriving DecidableEq

/-- A library over such texts. -/
def JsonText.codec : JsonCodec JsonText where
  parse
    | .written value => if value.fits Json.finite nestingLimit then some value else none
    | .record fields =>
        if fields.all fun field => field.2.fits Json.finite (nestingLimit - 1) then
          some (.ofFields fields)
        else none
    | .garbage _ => none
  encode := .written
  encodeFields := .record
  exact := Json.finite
  fits_of_parse := by
    intro text value parsed
    cases text with
    | written original =>
        by_cases fitting : original.fits Json.finite nestingLimit
        · simp only [fitting, if_true, Option.some.injEq] at parsed
          exact parsed ▸ fitting
        · simp only [fitting] at parsed
          cases parsed
    | record fields =>
        by_cases fitting : (fields.all fun field => field.2.fits Json.finite (nestingLimit - 1))
        · simp only [fitting, if_true, Option.some.injEq] at parsed
          rw [← parsed]
          exact Json.fits_ofFields (List.all_eq_true.mp fitting)
        · simp only [fitting] at parsed
          cases parsed
    | garbage bytes => cases parsed
  parse_encode := fun fitting => if_pos fitting
  texts_of_encode := fun fitting => ⟨_, if_pos fitting, fun _ => rfl⟩
  parse_too_deep := fun _ deep => if_neg (Bool.not_eq_true _ ▸ deep)
  parse_encodeFields := fun fitting => if_pos (List.all_eq_true.mpr fitting)
  ascending_of_encode := nofun

end Foundation
