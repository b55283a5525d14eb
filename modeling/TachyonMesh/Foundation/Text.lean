import Mathlib.Data.List.DropRight
import Mathlib.Data.List.Sort
import Mathlib.Data.String.Basic
import TachyonMesh.Foundation.MachineInt

/-! # Text

Operations on strings as lists of Unicode scalar values: trimming of white space,
UTF-8 bytes, ASCII case, splitting at a separator, what follows a given start, hexadecimal
digits, decimal numbers padded with zeros to a fixed width, and lists of strings sorted
without repetitions.
-/

namespace Foundation
open List

/-- The Unicode `White_Space` property. -/
def isWhitespace (c : Char) : Bool :=
  let code := c.toNat
  (9 ≤ code && code ≤ 13) || code == 32 || code == 133 || code == 160 || code == 5760 ||
    (8192 ≤ code && code ≤ 8202) || code == 8232 || code == 8233 || code == 8239 ||
    code == 8287 || code == 12288

def trimChars (text : List Char) : List Char :=
  ((text.dropWhile isWhitespace).reverse.dropWhile isWhitespace).reverse

/-- Without white space at both ends. -/
def trim (text : String) : String := String.ofList (trimChars text.toList)

/-- The bytes of a text. -/
def utf8Bytes (text : String) : List Nat :=
  (text.toList.flatMap String.utf8EncodeChar).map UInt8.toNat

def byteLength (text : String) : Nat := (utf8Bytes text).length

def toAsciiLowercase (text : String) : String := String.ofList (text.toList.map Char.toLower)

def toAsciiUppercase (text : String) : String := String.ofList (text.toList.map Char.toUpper)

/-- Equal but for ASCII case. -/
def eqIgnoreAsciiCase (first second : String) : Bool :=
  toAsciiLowercase first == toAsciiLowercase second

/-- The pieces between the separators; one more piece than there are separators. -/
def splitChars (separator : Char) : List Char → List (List Char)
  | [] => [[]]
  | c :: rest =>
      match splitChars separator rest with
      | [] => [[c]]
      | piece :: pieces => if c = separator then [] :: piece :: pieces else (c :: piece) :: pieces

/-- The parts between separators. -/
def split (separator : Char) (text : String) : List String :=
  (splitChars separator text.toList).map String.ofList

/-- What stands before and after the first separator. -/
def splitOnce (separator : Char) (text : String) : Option (String × String) :=
  match text.toList.dropWhile (· != separator) with
  | [] => none
  | _ :: rest => some (String.ofList (text.toList.takeWhile (· != separator)), String.ofList rest)

/-- What stands before and after the first occurrence of a text. -/
def cutChars (separator : List Char) : List Char → Option (List Char × List Char)
  | [] => if separator.isEmpty then some ([], []) else none
  | c :: rest =>
      if separator.isPrefixOf (c :: rest) then some ([], (c :: rest).drop separator.length)
      else (cutChars separator rest).map fun (before, after) => (c :: before, after)

def startsWithChars (start : String) (text : List Char) : Bool := start.toList.isPrefixOf text

/-- The text begins with `start`. -/
def startsWith (text start : String) : Bool := start.toList.isPrefixOf text.toList

/-- What follows `start`, of a text that starts with it. -/
def stripPrefixChars (start : String) (text : List Char) : Option (List Char) :=
  if startsWithChars start text then some (text.drop start.toList.length) else none

/-- What follows `start`. -/
def stripPrefix (start text : String) : Option String :=
  (stripPrefixChars start text.toList).map String.ofList

/-- One of each run of equal texts. -/
def dedupAdjacent : List String → List String
  | [] => []
  | [text] => [text]
  | first :: second :: rest =>
      if first = second then dedupAdjacent (second :: rest)
      else first :: dedupAdjacent (second :: rest)

/-- Sorted by the texts' characters, without repetitions. -/
def sortDedup (texts : List String) : List String :=
  dedupAdjacent (texts.insertionSort fun first second => decide (first ≤ second))

theorem stripPrefix_eq_none {text start : String} (other : startsWith text start = false) :
    stripPrefix start text = none := by
  have other : startsWithChars start text.toList = false := other
  rw [stripPrefix, stripPrefixChars, other]
  rfl

/-- Why `hex::decode` refuses a text. -/
inductive FromHexError where
  | invalidHexCharacter (byte : UInt8) (index : Nat)
  | oddLength
deriving DecidableEq

/-- A Latin-1 character as Rust's `Debug` prints it. -/
def debugChar (byte : UInt8) : String :=
  let hex (digit : UInt8) := String.singleton (Nat.digitChar digit.toNat)
  let escaped :=
    if byte = 0 then "\\0" else if byte = 9 then "\\t" else if byte = 10 then "\\n"
    else if byte = 13 then "\\r" else if byte = 39 then "\\'" else if byte = 92 then "\\\\"
    else if (32 ≤ byte ∧ byte < 127) ∨ (161 ≤ byte ∧ byte ≠ 173) then
      String.singleton (Char.ofNat byte.toNat)
    else "\\u\x7b" ++ (if byte < 16 then "" else hex (byte / 16)) ++ hex (byte % 16) ++ "\x7d"
  "'" ++ escaped ++ "'"

/-- The message of the error. -/
def FromHexError.text : FromHexError → String
  | .invalidHexCharacter byte index =>
      "Invalid character " ++ debugChar byte ++ " at position " ++ toString index
  | .oddLength => "Odd number of digits"

/-- The value of the hexadecimal digit at a position. -/
def hexDigit (byte : UInt8) (index : Nat) : Except FromHexError UInt8 :=
  if 65 ≤ byte ∧ byte ≤ 70 then .ok (byte - 55)
  else if 97 ≤ byte ∧ byte ≤ 102 then .ok (byte - 87)
  else if 48 ≤ byte ∧ byte ≤ 57 then .ok (byte - 48)
  else .error (.invalidHexCharacter byte index)

/-- The bytes that pairs of digits spell, from a position on. -/
def hexPairs (index : Nat) : List UInt8 → Except FromHexError (List UInt8)
  | high :: low :: rest => do
      let first ← hexDigit high index
      let second ← hexDigit low (index + 1)
      let bytes ← hexPairs (index + 2) rest
      pure ((first * 16 + second) :: bytes)
  | _ => pure []

/-- `hex::decode`. -/
def hexDecode (text : String) : Except FromHexError (List UInt8) :=
  let digits := text.toList.flatMap String.utf8EncodeChar
  if digits.length % 2 = 0 then hexPairs 0 digits else .error .oddLength

/-- The decimal digits of a number, padded with zeros to `width`; the number has at
most `width` digits. -/
def zeroPadded : (width value : Nat) → List Char
  | 0, _ => []
  | width + 1, value => zeroPadded width (value / 10) ++ [Nat.digitChar (value % 10)]

variable {first second width : Nat} {texts : List String} {α : Type*} {c separator : Char}
  {text piece : List Char}

private theorem digitChar_injective (firstDigit : first < 10) (secondDigit : second < 10)
    (same : Nat.digitChar first = Nat.digitChar second) : first = second := by
  have codes := congrArg Char.toNat same
  rw [Nat.toNat_digitChar_of_lt_ten firstDigit, Nat.toNat_digitChar_of_lt_ten secondDigit] at codes
  omega

theorem zeroPadded_inj (firstFits : first < 10 ^ width) (secondFits : second < 10 ^ width)
    (same : zeroPadded width first = zeroPadded width second) : first = second := by
  induction width generalizing first second with
  | zero =>
    omega
  | succ _ ih =>
    obtain ⟨leading, last⟩ := append_inj' same rfl
    have digit : first % 10 = second % 10 :=
      digitChar_injective (Nat.mod_lt _ (by omega)) (Nat.mod_lt _ (by omega))
        (singleton_inj.mp last)
    have rest : first / 10 = second / 10 := by
      apply ih _ _ leading
      · exact Nat.div_lt_of_lt_mul (by rw [Nat.pow_succ] at firstFits; omega)
      · exact Nat.div_lt_of_lt_mul (by rw [Nat.pow_succ] at secondFits; omega)
    omega

@[simp] theorem mem_dedupAdjacent {text : String} :
    text ∈ dedupAdjacent texts ↔ text ∈ texts := by
  induction texts using dedupAdjacent.induct with
  | case1 | case2 => rfl
  | case3 _ _ ih =>
    rw [dedupAdjacent, if_pos rfl, ih]
    simp
  | case4 _ _ _ different ih =>
    rw [dedupAdjacent, if_neg different, mem_cons, ih, ← mem_cons]

@[simp] theorem mem_sortDedup {text : String} : text ∈ sortDedup texts ↔ text ∈ texts := by
  rw [sortDedup, mem_dedupAdjacent, mem_insertionSort]

private theorem sortedLT_dedupAdjacent (sorted : texts.Pairwise (· ≤ ·)) :
    (dedupAdjacent texts).SortedLT := by
  rw [sortedLT_iff_pairwise]
  induction texts using dedupAdjacent.induct with
  | case1 => exact .nil
  | case2 => exact pairwise_singleton ..
  | case3 _ _ ih =>
    rw [dedupAdjacent, if_pos rfl]
    exact ih sorted.of_cons
  | case4 _ _ _ different ih =>
    rw [dedupAdjacent, if_neg different]
    refine .cons (fun _ listed => ?_) (ih sorted.of_cons)
    have least := rel_of_pairwise_cons sorted mem_cons_self
    refine lt_of_lt_of_le (lt_of_le_of_ne least different) ?_
    rcases mem_cons.mp (mem_dedupAdjacent.mp listed) with rfl | later
    · exact le_rfl
    · exact rel_of_pairwise_cons sorted.of_cons later

private theorem sortedLT_sortDedup (texts : List String) : (sortDedup texts).SortedLT := by
  refine sortedLT_dedupAdjacent ?_
  simpa using pairwise_insertionSort (· ≤ ·) texts

/-- The order and the repetitions of the texts do not matter. -/
theorem sortDedup_congr {first second : List String} (same : ∀ text, text ∈ first ↔ text ∈ second) :
    sortDedup first = sortDedup second :=
  (sortedLT_sortDedup first).eq_of_mem_iff (sortedLT_sortDedup second) (by simpa using same)

/-- A text is cut in two at the last separator. -/
theorem append_cons_inj_of_last {separator : α} {first second first' second' : List α}
    (last : separator ∉ second) (last' : separator ∉ second')
    (same : first ++ separator :: second = first' ++ separator :: second') :
    first = first' ∧ second = second' := by
  obtain ⟨extra, longer, rest⟩ | ⟨extra, longer, rest⟩ := append_eq_append_iff.mp same
  · cases extra with
    | nil => exact ⟨by simp [longer], (cons.inj rest).2⟩
    | cons => exact absurd (by simp [(cons.inj rest).2]) last
  · cases extra with
    | nil => exact ⟨by simp [longer], (cons.inj rest).2.symm⟩
    | cons => exact absurd (by simp [(cons.inj rest).2]) last'

/-- A text is cut in two at the first separator. -/
theorem append_cons_inj_of_first {separator : α} {first second first' second' : List α}
    (absent : separator ∉ first) (absent' : separator ∉ first')
    (same : first ++ separator :: second = first' ++ separator :: second') :
    first = first' ∧ second = second' := by
  have reversed : second.reverse ++ separator :: first.reverse =
      second'.reverse ++ separator :: first'.reverse := by
    simpa using congrArg reverse same
  obtain ⟨seconds, firsts⟩ := append_cons_inj_of_last (by simpa using absent)
    (by simpa using absent') reversed
  exact ⟨reverse_injective firsts, reverse_injective seconds⟩

/-- Three parts are cut apart at the separators where those of one side do not hold it. -/
theorem append_cons_cons_inj [DecidableEq α] {separator : α}
    {first second third first' second' third' : List α} (plain : separator ∉ first)
    (plain' : separator ∉ second) (plain'' : separator ∉ third)
    (same : first' ++ separator :: (second' ++ separator :: third') =
      first ++ separator :: (second ++ separator :: third)) :
    first' = first ∧ second' = second ∧ third' = third := by
  have counts := congrArg (count separator) same
  simp only [count_append, count_cons_self, count_eq_zero.mpr plain,
    count_eq_zero.mpr plain', count_eq_zero.mpr plain''] at counts
  have absent : separator ∉ first' := count_eq_zero.mp (by omega)
  have absent' : separator ∉ second' := count_eq_zero.mp (by omega)
  obtain ⟨firsts, rest⟩ := append_cons_inj_of_first absent plain same
  obtain ⟨seconds, thirds⟩ := append_cons_inj_of_first absent' plain' rest
  exact ⟨firsts, seconds, thirds⟩

/-! ## UTF-8 -/

theorem utf8Bytes_injective : Function.Injective utf8Bytes := by
  intro first second same
  have bytes := map_injective_iff.mpr (fun _ _ => UInt8.toNat_inj.mp) same
  rw [← String.toByteArray_inj, ← String.utf8Encode_toList, ← String.utf8Encode_toList]
  exact congrArg toByteArray bytes

theorem zero_not_mem_utf8Bytes {text : String} (plain : Char.ofNat 0 ∉ text.toList) :
    0 ∉ utf8Bytes text := by
  intro member
  obtain ⟨byte, encoded, zero⟩ := mem_map.mp member
  obtain ⟨c, listed, encoded⟩ := mem_flatMap.mp encoded
  have positive : c.val.toNat ≠ 0 := by
    intro none
    refine plain ?_
    have nul : c = Char.ofNat 0 := Char.ext (UInt32.toNat_inj.mp none)
    exact nul ▸ listed
  unfold String.utf8EncodeChar at encoded
  dsimp only at encoded
  split at encoded
  · rw [mem_singleton.mp encoded, UInt8.toNat_ofNat'] at zero
    omega
  -- Every byte of a longer encoding has its highest bit set.
  split at encoded
  · simp only [mem_cons, not_mem_nil, or_false] at encoded
    obtain rfl | rfl := encoded <;> rw [UInt8.toNat_ofNat'] at zero <;> omega
  split at encoded
  · simp only [mem_cons, not_mem_nil, or_false] at encoded
    obtain rfl | rfl | rfl := encoded <;> rw [UInt8.toNat_ofNat'] at zero <;> omega
  · simp only [mem_cons, not_mem_nil, or_false] at encoded
    obtain rfl | rfl | rfl | rfl := encoded <;> rw [UInt8.toNat_ofNat'] at zero <;> omega

/-! ## ASCII case, trimming and splitting -/

theorem trimChars_eq (text : List Char) :
    trimChars text = (text.dropWhile isWhitespace).rdropWhile isWhitespace := rfl

private theorem dropWhile_of_prefix {test : Char → Bool} {short long : List Char}
    (start : short <+: long)
    (kept : long.dropWhile test = long) : short.dropWhile test = short := by
  obtain ⟨rest, rfl⟩ := start
  cases short with
  | nil => rfl
  | cons _ others =>
    rw [cons_append, dropWhile_cons] at kept
    rw [dropWhile_cons]
    split
    · next passes =>
      rw [if_pos passes] at kept
      have lengths := congrArg length kept
      have shorter := (dropWhile_suffix test (l := others ++ rest)).length_le
      rw [length_cons] at lengths
      omega
    · rfl

theorem trimChars_trimChars (text : List Char) : trimChars (trimChars text) = trimChars text := by
  have front : (trimChars text).dropWhile isWhitespace = trimChars text :=
    dropWhile_of_prefix (List.rdropWhile_prefix _ _) (dropWhile_idempotent _ _)
  rw [trimChars_eq (trimChars text), front]
  exact rdropWhile_idempotent _ _

/-- Trimming takes white space away at both ends. -/
theorem exists_trimChars (text : List Char) : ∃ lead trail, text = lead ++ trimChars text ++ trail ∧
    (∀ c ∈ lead, isWhitespace c) ∧ ∀ c ∈ trail, isWhitespace c := by
  let middle := text.dropWhile isWhitespace
  have back : trimChars text ++ (middle.reverse.takeWhile isWhitespace).reverse = middle := by
    rw [trimChars, ← reverse_append, takeWhile_append_dropWhile, reverse_reverse]
  refine ⟨text.takeWhile isWhitespace, (middle.reverse.takeWhile isWhitespace).reverse, ?_, ?_, ?_⟩
  · rw [append_assoc, back, takeWhile_append_dropWhile]
  · exact fun c member => mem_takeWhile_imp member
  · exact fun c member => mem_takeWhile_imp (mem_reverse.mp member)

theorem isWhitespace_of_trimChars_eq_cons {rest : List Char}
    (trimmed : trimChars text = c :: rest) : isWhitespace c = false := by
  have kept : (c :: rest).dropWhile isWhitespace = c :: rest := by
    rw [← trimmed]
    exact dropWhile_of_prefix (List.rdropWhile_prefix _ _) (dropWhile_idempotent _ _)
  by_contra white
  have lengths := congrArg length kept
  have shorter := (dropWhile_suffix isWhitespace (l := rest)).length_le
  rw [dropWhile_cons, if_pos (by simpa using white), length_cons] at lengths
  omega

/-- Leading parts that pass a test, each before something that fails it, are the same. -/
theorem append_cons_inj_of_forall {test : α → Bool} {first second rest rest' : List α} {c c' : α}
    (passes : ∀ a ∈ first, test a) (passes' : ∀ a ∈ second, test a)
    (fails : test c = false) (fails' : test c' = false)
    (same : first ++ c :: rest = second ++ c' :: rest') : first = second := by
  have front (lead after : List α) (d : α) (all : ∀ a ∈ lead, test a)
      (stops : test d = false) : (lead ++ d :: after).takeWhile test = lead := by
    rw [takeWhile_append_of_pos all, takeWhile_cons, stops]
    simp
  rw [← front first rest c passes fails, same, front second rest' c' passes' fails']

/-- Texts that are the same when trimmed, each followed by the separator, are told apart by the
white space around them. -/
theorem append_cons_inj_of_trimChars {first second first' second' : List Char}
    (plain : isWhitespace separator = false) (trimmed : trimChars first = trimChars first')
    (nonempty : trimChars first ≠ [])
    (same : first ++ separator :: second = first' ++ separator :: second') :
    first = first' ∧ second = second' := by
  obtain ⟨c, rest, shape⟩ := exists_cons_of_ne_nil nonempty
  have visible := isWhitespace_of_trimChars_eq_cons shape
  have absent {trail : List Char} (white : ∀ a ∈ trail, isWhitespace a) : separator ∉ trail := by
    intro member
    exact absurd (white separator member) (by simp [plain])
  obtain ⟨lead, trail, spelled, leads, trails⟩ := exists_trimChars first
  obtain ⟨lead', trail', spelled', leads', trails'⟩ := exists_trimChars first'
  rw [← trimmed, shape] at spelled'
  rw [shape] at spelled
  have around : lead ++ c :: (rest ++ (trail ++ separator :: second)) =
      lead' ++ c :: (rest ++ (trail' ++ separator :: second')) := by
    rw [spelled, spelled'] at same
    simpa using same
  have sameLead := append_cons_inj_of_forall leads leads' visible visible around
  rw [sameLead, append_cancel_left_eq, cons_inj_right, append_cancel_left_eq] at around
  obtain ⟨sameTrail, sameSecond⟩ := append_cons_inj_of_first (absent trails) (absent trails') around
  exact ⟨by rw [spelled, spelled', sameLead, sameTrail], sameSecond⟩

/-- Text that starts and ends with other characters keeps them when it is trimmed. -/
theorem trimChars_append {first last : Char} (middle rest : List Char)
    (start : isWhitespace first = false) (finish : isWhitespace last = false) :
    ∃ kept, trimChars (first :: middle ++ last :: rest) = first :: middle ++ last :: kept := by
  have front : (first :: middle ++ last :: rest).dropWhile isWhitespace =
      first :: middle ++ last :: rest := by
    rw [cons_append, dropWhile_cons, if_neg (by simp [start])]
  have back : (first :: middle ++ last :: rest).reverse =
      rest.reverse ++ last :: (first :: middle).reverse := by simp
  unfold trimChars
  rw [front, back, dropWhile_append]
  split
  · refine ⟨[], ?_⟩
    rw [dropWhile_cons, if_neg (by simp [finish])]
    simp
  · refine ⟨(rest.reverse.dropWhile isWhitespace).reverse, ?_⟩
    simp

theorem trim_trim (text : String) : trim (trim text) = trim text := by
  unfold trim
  rw [String.toList_ofList, trimChars_trimChars]

/-- The number that a text writes in decimal digits, if a `u64` holds it. -/
def parseU64 (text : String) : Option Nat :=
  let digits := match text.toList with
    | '+' :: rest => rest
    | digits => digits
  if digits.isEmpty || !digits.all Char.isDigit then none
  else
    let value := digits.foldl (fun value c => value * 10 + (c.toNat - 48)) 0
    if value ≤ u64Max then some value else none

theorem isDigit_repr {number : Nat} (member : c ∈ (toString number).toList) : c.isDigit := by
  change c ∈ number.repr.toList at member
  rw [Nat.toList_repr] at member
  exact Nat.isDigit_of_mem_toDigits (by decide) (by decide) member

theorem toString_nat_injective : Function.Injective fun number : Nat => toString number := by
  intro first second same
  have digits : Nat.toDigits 10 first = Nat.toDigits 10 second := by
    rw [← Nat.toList_repr, ← Nat.toList_repr]
    exact congrArg String.toList same
  have decimal (number : Nat) : Nat.ofDigitChars 10 (Nat.toDigits 10 number) 0 = number :=
    Nat.ofDigitChars_toDigits (by decide) (by decide)
  rw [← decimal first, digits, decimal second]

/-- The decimal digits of a number, with zeros in front of them up to `width`. -/
def paddedDecimal (width value : Nat) : List Char := (Nat.toDigits 10 value).leftpad width '0'

theorem isDigit_of_mem_paddedDecimal {value : Nat}
    (member : c ∈ paddedDecimal width value) : c.isDigit := by
  obtain zero | digit := mem_append.mp member
  · rw [eq_of_mem_replicate zero]
    rfl
  · exact Nat.isDigit_of_mem_toDigits (by decide) (by decide) digit

theorem paddedDecimal_injective (width : Nat) : Function.Injective (paddedDecimal width) := by
  have zeros (count : Nat) : Nat.ofDigitChars 10 (replicate count '0') 0 = 0 := by
    induction count with
    | zero => rfl
    | succ _ ih =>
      exact ih
  have decimal (value : Nat) : Nat.ofDigitChars 10 (paddedDecimal width value) 0 = value := by
    rw [paddedDecimal, leftpad, Nat.ofDigitChars_append, zeros]
    exact Nat.ofDigitChars_toDigits (by decide) (by decide)
  intro first second same
  rw [← decimal first, same, decimal second]

end Foundation
