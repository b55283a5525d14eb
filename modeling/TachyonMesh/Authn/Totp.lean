import TachyonMesh.Foundation.Text

/-! # One-time codes

Time-based one-time codes: the base32 form of the shared secret, the provisioning
URI shown to the user, and the check of a presented code against the codes of the
current period and of its two neighbours. SHA-1 is a parameter.
-/

namespace TachyonMesh.Authn
open Foundation

def totpPeriodSeconds : Nat := 30

def totpDigits : Nat := 6

def totpIssuer : String := "Tachyon Mesh"

/-! ## Base32 -/

def base32Alphabet : List Char := "ABCDEFGHIJKLMNOPQRSTUVWXYZ234567".toList

/-- Emit a character for every five bits that are waiting. -/
def base32Drain (buffer bits : Nat) : List Char × Nat :=
  if 5 ≤ bits then
    let emitted := base32Drain buffer (bits - 5)
    (base32Alphabet.getD ((buffer >>> (bits - 5)) &&& 31) 'A' :: emitted.1, emitted.2)
  else ([], bits)
termination_by bits

/-- The buffer has 16 bits; the bits shifted out of it are lost. -/
def base32EncodeFrom : (buffer bits : Nat) → List Nat → List Char
  | buffer, bits, [] =>
      if 0 < bits then
        [base32Alphabet.getD ((buffer <<< (5 - bits)) % 2 ^ 16 &&& 31) 'A'] else []
  | buffer, bits, byte :: rest =>
      let next := (buffer <<< 8) % 2 ^ 16 ||| byte
      let emitted := base32Drain next (bits + 8)
      emitted.1 ++ base32EncodeFrom next emitted.2 rest

def base32Encode (bytes : List Nat) : String := String.ofList (base32EncodeFrom 0 0 bytes)

def base32Digit (c : Char) : Option Nat :=
  let upper := c.toUpper
  if 'A' ≤ upper ∧ upper ≤ 'Z' then some (upper.toNat - 'A'.toNat)
  else if '2' ≤ upper ∧ upper ≤ '7' then some (upper.toNat - '2'.toNat + 26)
  else none

/-- The buffer has 32 bits. Decoding ends at the padding. -/
def base32DecodeFrom : (buffer bits : Nat) → List Char → Except String (List Nat)
  | _, _, [] => .ok []
  | buffer, bits, c :: rest =>
      if c = '=' then .ok []
      else
        match base32Digit c with
        | none => .error "TOTP secret is not valid base32"
        | some digit =>
            let next := (buffer <<< 5) % 2 ^ 32 ||| digit
            if 8 ≤ bits + 5 then
              (base32DecodeFrom next (bits + 5 - 8) rest).map
                (((next >>> (bits + 5 - 8)) &&& 255) :: ·)
            else base32DecodeFrom next (bits + 5) rest

def base32Decode (value : String) : Except String (List Nat) :=
  match base32DecodeFrom 0 0 (trim value).toList with
  | .error error => .error error
  | .ok [] => .error "TOTP secret must not be empty"
  | .ok bytes => .ok bytes

/-! ## Provisioning -/

def hexDigit (value : Nat) : Char := "0123456789ABCDEF".toList.getD value '0'

def isUnreserved (byte : Nat) : Bool :=
  (65 ≤ byte && byte ≤ 90) || (97 ≤ byte && byte ≤ 122) || (48 ≤ byte && byte ≤ 57) ||
    byte == 45 || byte == 95 || byte == 46 || byte == 126

def percentEncode (value : String) : String :=
  String.ofList ((utf8Bytes value).flatMap fun byte =>
    if isUnreserved byte then [Char.ofNat byte]
    else ['%', hexDigit (byte / 16), hexDigit (byte % 16)])

def buildTotpProvisioningUri (username secret : String) : String :=
  "otpauth://totp/" ++ percentEncode (totpIssuer ++ ":" ++ username) ++ "?secret=" ++ secret ++
    "&issuer=" ++ percentEncode totpIssuer ++ "&algorithm=SHA1&digits=" ++
    toString totpDigits ++ "&period=" ++ toString totpPeriodSeconds

/-! ## Codes -/

section
variable (sha1 : List Nat → List Nat)

def hmacSha1 (key message : List Nat) : List Nat :=
  let normalized := if key.length > 64 then sha1 key else key
  let padded := normalized ++ List.replicate (64 - normalized.length) 0
  sha1 (padded.map (· ^^^ 0x5c) ++ sha1 (padded.map (· ^^^ 0x36) ++ message))

def bigEndianBytes : (width value : Nat) → List Nat
  | 0, _ => []
  | width + 1, value => bigEndianBytes width (value / 256) ++ [value % 256]

def totpValue (secret : List Nat) (counter : Nat) : Nat :=
  let digest := hmacSha1 sha1 secret (bigEndianBytes 8 counter)
  let offset := digest.getD (digest.length - 1) 0 &&& 0x0f
  let truncated := ((digest.getD offset 0 &&& 0x7f) <<< 24) |||
    (digest.getD (offset + 1) 0 <<< 16) ||| (digest.getD (offset + 2) 0 <<< 8) |||
    digest.getD (offset + 3) 0
  truncated % 10 ^ totpDigits

/-- The counters of the previous, the current and the next period, where they exist. -/
def candidateCounters (counter : Nat) : List Nat :=
  (if 1 ≤ counter then [counter - 1] else []) ++ [counter] ++
    (if counter + 1 ≤ u64Max then [counter + 1] else [])

def verifyTotpCode (secret code : String) (now : Nat) : Except String Unit :=
  let normalized := (trim code).toList.filter (· ≠ ' ')
  if byteLength (String.ofList normalized) ≠ totpDigits ∨ ¬normalized.all Char.isDigit then
    .error "TOTP code must be a 6-digit number"
  else
    match base32Decode secret with
    | .error error => .error error
    | .ok key =>
        if (candidateCounters (now / totpPeriodSeconds)).any fun counter =>
            zeroPadded totpDigits (totpValue sha1 key counter) == normalized then .ok ()
        else .error "invalid TOTP code"

end

/-! ## A secret survives its base32 form -/

open List

/-- The symbol for the last five bits. -/
def base32Symbol (value : Nat) : Char := base32Alphabet.getD (value &&& 31) 'A'

private theorem base32Symbol_spec (value : Nat) :
    base32Digit (base32Symbol value) = some (value % 32) ∧ base32Symbol value ≠ '=' ∧
      isWhitespace (base32Symbol value) = false := by
  have all : ∀ index < 32,
      let symbol := base32Alphabet.getD index 'A'
      base32Digit symbol = some index ∧ symbol ≠ '=' ∧ isWhitespace symbol = false := by decide
  rw [base32Symbol, Nat.and_two_pow_sub_one_eq_mod value 5]
  exact all _ (Nat.mod_lt _ (by decide))

/-- What is left of a buffer after the next bits have come into it. -/
theorem shiftIn_eq {width added : Nat} (fits : added < 2 ^ width) (kept buffer : Nat) :
    buffer <<< width % 2 ^ (kept + width) ||| added = buffer % 2 ^ kept * 2 ^ width + added := by
  rw [Nat.shiftLeft_eq, Nat.pow_add, Nat.mul_mod_mul_right, ← Nat.shiftLeft_eq,
    ← Nat.shiftLeft_add_eq_or_of_lt fits]

private theorem base32DecodeFrom_symbol (buffer bits value : Nat) (rest : List Char) :
    let next := buffer % 2 ^ 27 * 32 + value % 32
    base32DecodeFrom buffer bits (base32Symbol value :: rest) =
      if 3 ≤ bits then
        (base32DecodeFrom next (bits - 3) rest).map (next / 2 ^ (bits - 3) % 256 :: ·)
      else base32DecodeFrom next (bits + 5) rest := by
  obtain ⟨digit, notPadding, -⟩ := base32Symbol_spec value
  have fits : value % 32 < 2 ^ 5 := Nat.mod_lt value (by decide)
  have next := shiftIn_eq fits 27 buffer
  have enough : 8 ≤ bits + 5 ↔ 3 ≤ bits := by omega
  have left : bits + 5 - 8 = bits - 3 := by omega
  rw [base32DecodeFrom, if_neg notPadding, digit]
  simp only [next, enough, left, Nat.and_two_pow_sub_one_eq_mod _ 8, Nat.shiftRight_eq_div_pow]
  rfl

/-- A byte completes one symbol or two. -/
theorem base32EncodeFrom_cons (buffer : Nat) {bits byte : Nat} (few : bits < 5) (small : byte < 256)
    (rest : List Nat) : let next := buffer % 256 * 256 + byte
    base32EncodeFrom buffer bits (byte :: rest) =
      base32Symbol (next / 2 ^ (bits + 3)) ::
        if bits < 2 then base32EncodeFrom next (bits + 3) rest
        else base32Symbol (next / 2 ^ (bits - 2)) :: base32EncodeFrom next (bits - 2) rest := by
  rw [base32EncodeFrom, shiftIn_eq small 8, base32Drain, if_pos (by omega), base32Drain]
  dsimp only
  by_cases one : bits < 2
  · rw [if_neg (by omega), if_pos one, Nat.shiftRight_eq_div_pow]
    rfl
  · have left : bits + 8 - 5 - 5 = bits - 2 := by omega
    rw [if_pos (by omega), base32Drain, if_neg (by omega), if_neg one, left,
      Nat.shiftRight_eq_div_pow, Nat.shiftRight_eq_div_pow]
    rfl

/-- The bits that wait in the two buffers make up at most one byte, and what stands above them is
never read again. -/
theorem base32DecodeFrom_encodeFrom {bytes : List Nat} (small : ∀ byte ∈ bytes, byte < 256)
    (decoded buffer : Nat) {waiting bits : Nat} (few : bits < 5)
      (split : waiting = (8 - bits) % 8) :
    (∀ c ∈ base32EncodeFrom buffer bits bytes, isWhitespace c = false) ∧
      base32DecodeFrom decoded waiting (base32EncodeFrom buffer bits bytes) =
        .ok ((if bits = 0 then [] else
          [decoded % 2 ^ waiting * 2 ^ bits + buffer % 2 ^ bits]) ++ bytes) := by
  have visible (value : Nat) := (base32Symbol_spec value).2.2
  have cases : bits = 0 ∨ bits = 1 ∨ bits = 2 ∨ bits = 3 ∨ bits = 4 := by omega
  induction bytes generalizing decoded buffer waiting bits with
  | nil =>
    have last : base32EncodeFrom buffer bits [] =
      if 0 < bits then [base32Symbol (buffer <<< (5 - bits) % 2 ^ 16)] else [] := rfl
    subst split
    obtain rfl | rfl | rfl | rfl | rfl := cases
    all_goals
      simp [last, visible, base32DecodeFrom_symbol, base32DecodeFrom, Except.map, Nat.shiftLeft_eq]
    all_goals omega
  | cons byte rest ih =>
    obtain ⟨fits, small⟩ := forall_mem_cons.mp small
    rw [base32EncodeFrom_cons buffer few fits]
    subst split
    obtain rfl | rfl | rfl | rfl | rfl := cases
    all_goals
      refine ⟨?_, ?_⟩
      · simpa [visible] using (ih small 0 _ (by decide) rfl (by decide)).1
    all_goals simp [base32DecodeFrom_symbol, ih small, Except.map]
    all_goals omega

private theorem base32Decode_encode {bytes : List Nat} (small : ∀ byte ∈ bytes, byte < 256)
    (nonempty : bytes ≠ []) : base32Decode (base32Encode bytes) = .ok bytes := by
  obtain ⟨visible, read⟩ := base32DecodeFrom_encodeFrom small 0 0 (Nat.zero_lt_succ 4) rfl
  have trimmed : trimChars (base32EncodeFrom 0 0 bytes) = base32EncodeFrom 0 0 bytes := by
    rw [trimChars_eq, dropWhile_eq_self_iff.mpr fun _ => by simp [visible],
      rdropWhile_eq_self_iff.mpr fun _ => by simp [visible]]
  rw [base32Decode, base32Encode, trim, String.toList_ofList, String.toList_ofList, trimmed, read]
  cases bytes with
  | nil => exact absurd rfl nonempty
  | cons => rfl

/-- A key is read back from its base32 form. The URI of a user is that of no other key, and a code
is accepted when it is that of the key in one of the three periods. -/
theorem secret_lossless (sha1 : List Nat → List Nat) (bytes : List UInt8)
    (nonempty : bytes ≠ []) :
    let key := bytes.map UInt8.toNat
    let secret := base32Encode key
    base32Decode secret = .ok key ∧
      (∀ username other, buildTotpProvisioningUri username other =
        buildTotpProvisioningUri username secret → base32Decode other = .ok key) ∧
      ∀ code now,
        let normalized := (trim code).toList.filter (· ≠ ' ')
        verifyTotpCode sha1 secret code now = .ok () ↔
          byteLength (String.ofList normalized) = totpDigits ∧ normalized.all Char.isDigit ∧
          ∃ counter ∈ candidateCounters (now / totpPeriodSeconds),
            zeroPadded totpDigits (totpValue sha1 key counter) = normalized := by
  intro key secret
  have small : ∀ byte ∈ key, byte < 256 := forall_mem_map.mpr fun byte _ => byte.toNat_lt
  have decoded : base32Decode secret = .ok key := base32Decode_encode small (by simpa [key])
  refine ⟨decoded, fun username other same => ?_, fun code now => ?_⟩
  · unfold buildTotpProvisioningUri at same
    iterate 6 rw [String.append_left_inj] at same
    rw [(String.append_right_inj _).mp same, decoded]
  · unfold verifyTotpCode
    simp only [decoded]
    split
    · grind
    · grind

/-- One group without padding comes back. -/
theorem secret_lossless_hello :
    base32Decode (base32Encode [104, 101, 108, 108, 111]) = .ok [104, 101, 108, 108, 111] :=
  (secret_lossless (fun _ => []) [104, 101, 108, 108, 111] (by decide)).1

end TachyonMesh.Authn
