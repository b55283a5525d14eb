import TachyonMesh.Dispatch.Routes

/-! # Secrets in outbound requests

A guest writes a placeholder where a secret belongs, and the host puts the plaintext in when the
secret is registered for the host that the request goes to.
-/

namespace TachyonMesh.Dispatch
open Foundation

/-- A secret and the hosts that may see it. -/
structure Secret where
  plaintext : String
  allowedHosts : List String

/-- The outside parsers: of a URL, with its host, and of a UUID. -/
structure SecretCodec where
  urlHost : String → Option (Option String)
  parseUuid : String → Option Nat

def secretPlaceholderStart : String := "tachyon:secret:"

section
variable (codec : SecretCodec)

def normalizeHost (value : String) : Option String :=
  let trimmed := trimEndMatches '.' (trim value)
  if trimmed = "" then none
  else if trimmed = "*" then some trimmed
  else
    match codec.urlHost trimmed with
    | some host => host.map fun host => toAsciiLowercase (trimEndMatches '.' host)
    | none =>
        let host := (split '/' trimmed).headD trimmed
        let host :=
          match host.toList with
          | '[' :: rest => (split ']' (String.ofList rest)).headD ""
          | _ => (split ':' host).headD host
        let host := trimEndMatches '.' (trim host)
        if host = "" then none else some (toAsciiLowercase host)

def secretHostAllowed (allowedHosts : List String) (targetHost : String) : Bool :=
  allowedHosts.any fun allowed => (normalizeHost codec allowed).any fun allowed =>
    allowed == "*" || eqIgnoreAsciiCase allowed targetHost ||
      (startsWith allowed "*." && (allowed.toList.drop 2).isSuffixOf targetHost.toList &&
        targetHost.toList != allowed.toList.drop 2)

def parsePlaceholderId (placeholder : String) : Option Nat :=
  let trimmed := trim placeholder
  if startsWith trimmed secretPlaceholderStart then
    codec.parseUuid (String.ofList (trimmed.toList.drop secretPlaceholderStart.length))
  else none

def resolveSecret (registry : Nat → Option Secret) (placeholder targetHost : String) :
    Option String := do
  let id ← parsePlaceholderId codec placeholder
  let targetHost ← normalizeHost codec targetHost
  let secret ← registry id
  if secretHostAllowed codec secret.allowedHosts targetHost then some secret.plaintext else none

/-- An entry is for the host: any host, this one, or the hosts below a domain. -/
def Permits (entry host : String) : Prop :=
  ∃ allowed ∈ normalizeHost codec entry, allowed = "*" ∨ eqIgnoreAsciiCase allowed host ∨
    startsWith allowed "*." ∧ allowed.toList.tail <:+ host.toList
deriving Decidable

/-- The host ends in the letters of an entry's domain, but not below the domain. -/
def Lookalike (entry host : String) : Prop :=
  ∃ allowed ∈ normalizeHost codec entry, startsWith allowed "*." ∧
    allowed.toList.drop 2 <:+ host.toList ∧ host.toList ≠ allowed.toList.drop 2 ∧
    ¬allowed.toList.tail <:+ host.toList

/-- The plaintext goes only to a host that an entry permits. -/
def ReleasesRightly (registry : Nat → Option Secret) (placeholder target : String) : Prop :=
  ∀ plaintext, resolveSecret codec registry placeholder target = some plaintext →
    ∃ host ∈ normalizeHost codec target,
      ∃ secret ∈ (parsePlaceholderId codec placeholder).bind registry,
        secret.plaintext = plaintext ∧ ∃ entry ∈ secret.allowedHosts, Permits codec entry host

end

variable {codec : SecretCodec}

private theorem secretHostAllowed_iff {allowedHosts : List String} {host : String} :
    secretHostAllowed codec allowedHosts host ↔
      ∃ entry ∈ allowedHosts, Permits codec entry host ∨ Lookalike codec entry host := by
  rw [secretHostAllowed, List.any_eq_true]
  refine exists_congr fun entry => and_congr_right fun _ => ?_
  cases normal : normalizeHost codec entry with
  | none => simp [Permits, Lookalike, normal]
  | some allowed =>
    have below (starts : startsWith allowed "*.")
        (ends : allowed.toList.tail <:+ host.toList) :
        allowed.toList.drop 2 <:+ host.toList ∧ host.toList ≠ allowed.toList.drop 2 := by
      obtain ⟨domain, spelled⟩ := List.isPrefixOf_iff_prefix.mp starts
      rw [← spelled] at ends ⊢
      refine ⟨(List.suffix_cons '.' domain).trans ends, fun same => ?_⟩
      have longer := ends.length_le
      simp [same] at longer
    simp [Permits, Lookalike, normal]
    grind

/-- The plaintext goes only where an entry permits it, exactly when the host is no lookalike for
an entry of the secret, or is permitted all the same. -/
theorem releasesRightly_iff (codec : SecretCodec) (registry : Nat → Option Secret)
    (placeholder target : String) :
    ReleasesRightly codec registry placeholder target ↔
      ∀ host ∈ normalizeHost codec target,
        ∀ secret ∈ (parsePlaceholderId codec placeholder).bind registry,
          (∃ entry ∈ secret.allowedHosts, Lookalike codec entry host) →
            ∃ entry ∈ secret.allowedHosts, Permits codec entry host := by
  unfold ReleasesRightly resolveSecret
  cases parsed : parsePlaceholderId codec placeholder with
  | none => simp
  | some id =>
    cases normal : normalizeHost codec target with
    | none => simp
    | some host =>
      cases registered : registry id with
      | none => simp [registered]
      | some _ =>
        simp [registered, secretHostAllowed_iff]
        grind

/-- A codec for which no host is a URL, and which reads one id. -/
def plainCodec : SecretCodec := { urlHost := fun _ => none, parseUuid := fun _ => some 0 }

/-- A wildcard also covers a host that only ends in its text. -/
theorem lookalike_gets_secret :
    resolveSecret plainCodec (fun _ => some ⟨"key", ["*.bank.test"]⟩) "tachyon:secret:0"
        "evilbank.test" = some "key" ∧
      normalizeHost plainCodec "evilbank.test" = some "evilbank.test" ∧
      ¬Permits plainCodec "*.bank.test" "evilbank.test" := by decide +kernel

end TachyonMesh.Dispatch
