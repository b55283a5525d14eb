import TachyonMesh.Foundation.Text

/-! # Names, roles and scopes

The normal forms in which the authentication component compares and stores the
strings it is given, and `sanitizeFilename`, which turns a user name, a group name
or a session id into the name of the file its record is stored under.
-/

namespace TachyonMesh.Authn
open Foundation List

def normalizeUsername (username : String) : Except String String :=
  if trim username = "" then .error "username must not be empty"
  else .ok (toAsciiLowercase (trim username))

def normalizePersonName (value label : String) : Except String String :=
  if trim value = "" then .error (label ++ " must not be empty")
  else if byteLength (trim value) > 64 then .error (label ++ " must be 64 characters or fewer")
  else .ok (trim value)

def normalizePassword (password : String) : Except String String :=
  if byteLength (trim password) < 8 then .error "password must be at least 8 characters long"
  else .ok (trim password)

def normalizePatName (name : String) : Except String String :=
  if trim name = "" then .error "PAT name must not be empty"
  else if byteLength (trim name) > 64 then .error "PAT name must be 64 characters or fewer"
  else .ok (trim name)

def normalizeRoles (roles : List String) : List String :=
  sortDedup ((roles.map fun role => toAsciiLowercase (trim role)).filter (· ≠ ""))

def normalizeScopes (scopes : List String) : List String :=
  sortDedup (scopes.flatMap fun scope =>
    (((split ',' scope).map trim).filter (· ≠ "")).map toAsciiLowercase)

def normalizeRecoveryCode (code : String) : Except String String :=
  let malformed : Except String String := .error "recovery code must match TCHN-XXXXX-XXXXX"
  let normalized := toAsciiUppercase (trim code)
  match split '-' normalized with
  | [start, first, second] =>
      if start ≠ "TCHN" ∨ byteLength first ≠ 5 ∨ byteLength second ≠ 5 ∨
          ¬(first.toList ++ second.toList).all (fun c => c.isUpper || c.isDigit) then malformed
      else .ok normalized
  | _ => malformed

/-- Group names are the only names restricted to a character set. -/
def normalizeGroupName (value : String) : Except String String :=
  if trim value = "" then .error "group name must not be empty"
  else if byteLength (trim value) > 64 then .error "group name must be 64 characters or fewer"
  else if ¬(trim value).toList.all
      (fun c => c.isAlphanum || c == '-' || c == '_' || c == '.') then
    .error "group name may only contain ASCII letters, digits, `-`, `_`, or `.`"
  else .ok (toAsciiLowercase (trim value))

/-! ## Scopes -/

variable {scope value raw : String} {scopes : List String}

private theorem toAsciiLowercase_ne_empty {text : String} (nonempty : text ≠ "") :
    toAsciiLowercase text ≠ "" := by
  intro empty
  have characters := congrArg String.toList empty
  rw [toAsciiLowercase, String.toList_ofList] at characters
  exact nonempty (String.toList_inj.mp (map_eq_nil_iff.mp characters))

/-- Lower case letters, digits, `-` and `_` stand for themselves. -/
def isFilenameChar (c : Char) : Bool := c.isLower || c.isDigit || c == '-' || c == '_'

def sanitizeChar (c : Char) : Char := if isFilenameChar c then c else '_'

/-- The file name of a value, before it is checked. -/
def sanitized (value : String) : String := String.ofList (value.toList.map sanitizeChar)

def sanitizeFilename (value : String) : Except String String :=
  if sanitized value = "" ∨ sanitized value = "." ∨ sanitized value = ".." then
    .error "username resolves to an invalid auth state key"
  else .ok (sanitized value)

def normalizeSessionId (value : String) : Except String String :=
  if trim value = "" then .error "session id must not be empty"
  else sanitizeFilename (trim value)

private theorem sanitizeChar_ne_dot (c : Char) : sanitizeChar c ≠ '.' := by
  unfold sanitizeChar
  split
  · next kept =>
    rintro rfl
    exact absurd kept (by decide)
  · decide

private theorem dot_not_mem_sanitized (value : String) : '.' ∉ (sanitized value).toList := by
  rw [sanitized, String.toList_ofList, mem_map]
  rintro ⟨c, _, dot⟩
  exact sanitizeChar_ne_dot c dot

theorem ne_empty_of_sanitized (nonempty : value ≠ "") : sanitized value ≠ "" := by
  intro empty
  have characters := congrArg String.toList empty
  rw [sanitized, String.toList_ofList] at characters
  exact nonempty (String.toList_inj.mp (map_eq_nil_iff.mp characters))

theorem sanitizeFilename_of_ne_empty (nonempty : value ≠ "") :
    sanitizeFilename value = .ok (sanitized value) := by
  unfold sanitizeFilename
  rw [if_neg]
  rintro (empty | dot | dots)
  · exact ne_empty_of_sanitized nonempty empty
  · exact dot_not_mem_sanitized value (by rw [dot]; decide)
  · exact dot_not_mem_sanitized value (by rw [dots]; decide)

theorem sanitizeFilename_eq_ok {file : String} (accepted : sanitizeFilename value = .ok file) :
    file = sanitized value := by
  unfold sanitizeFilename at accepted
  split at accepted
  · cases accepted
  · exact (Except.ok.inj accepted).symm

theorem ne_empty_of_normalizeUsername {username : String}
    (normalized : normalizeUsername raw = .ok username) : username ≠ "" := by
  unfold normalizeUsername at normalized
  split at normalized
  · cases normalized
  · next nonempty =>
    rw [← Except.ok.inj normalized]
    exact toAsciiLowercase_ne_empty nonempty

theorem ne_empty_of_normalizeGroupName {name : String}
    (normalized : normalizeGroupName raw = .ok name) : name ≠ "" := by
  unfold normalizeGroupName at normalized
  split at normalized
  · cases normalized
  · next nonempty =>
    split at normalized
    · cases normalized
    split at normalized
    · cases normalized
    · rw [← Except.ok.inj normalized]
      exact toAsciiLowercase_ne_empty nonempty

/-- Distinct user names can share a file name. -/
example : sanitized "a.b" = sanitized "a_b" := by decide

end TachyonMesh.Authn
