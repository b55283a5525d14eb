import TachyonMesh.Outbox.DataEvents
import TachyonMesh.Scoping.Manifest

/-! # Outbox scopes

A guest names an outbox table by a database and a table. Its scopes are matched against the two
names as they are spelled, joined by a slash; the table is stored under the trimmed names, joined by
two colons.
-/

namespace TachyonMesh.Outbox
open Foundation Scoping List DeploymentScopes

/-- A table by its database and name. -/
structure TableName where
  dbUrl : String
  table : String
deriving DecidableEq

namespace TableName

def trimmed (name : TableName) : TableName where
  dbUrl := trim name.dbUrl
  table := trim name.table

def key (name : TableName) : Except String String := tableKey name.dbUrl name.table

/-- The second name has a longer database, and the first one the same characters at the front of
its table: one colon, or what stands between two separators. -/
def Shifted (first second : TableName) : Prop :=
  (second.dbUrl = first.dbUrl ++ ":" ∧ first.table = ":" ++ second.table) ∨
    ∃ middle, second.dbUrl = first.dbUrl ++ "::" ++ middle ∧
      first.table = middle ++ "::" ++ second.table

/-- Names that are the same when trimmed are spelled the same, and no part of one name moves
across the separator to give the other. -/
structure Distinguishable (first second : TableName) : Prop where
  spelled : first.trimmed = second.trimmed → first = second
  unshifted : ¬Shifted first.trimmed second.trimmed
  unshifted_symm : ¬Shifted second.trimmed first.trimmed

end TableName

open TableName

section
variable {Glob GlobSet : Type} (library : GlobLibrary Glob GlobSet)

/-- Two names of one stored table are both granted or both denied, and different names, apart
from white space around them, are different stored tables. -/
structure Isolates (scopes : DeploymentScopes GlobSet) (first second : TableName) : Prop where
  sameAnswer : first.key = second.key →
    scopes.checkOutbox library first.dbUrl first.table =
      scopes.checkOutbox library second.dbUrl second.table
  sameName : first.trimmed ≠ second.trimmed → first.key ≠ second.key

end

/-! ## Stored names -/

namespace TableName
variable {first second : TableName} {key : String}

private theorem normalizeNonEmpty_eq_ok {label value text : String} :
    normalizeNonEmpty label value = .ok text ↔ trim value ≠ "" ∧ text = trim value := by
  by_cases empty : trim value = ""
  · simp [normalizeNonEmpty, empty]
  · simp [normalizeNonEmpty, empty, eq_comm]

private theorem of_key (accepted : first.key = .ok key) :
    first.trimmed.dbUrl ≠ "" ∧ key = first.trimmed.dbUrl ++ "::" ++ first.trimmed.table := by
  obtain ⟨_, named, accepted⟩ := bind_eq_ok.mp accepted
  obtain ⟨_, tabled, accepted⟩ := bind_eq_ok.mp accepted
  obtain ⟨nonempty, rfl⟩ := normalizeNonEmpty_eq_ok.mp named
  obtain ⟨-, rfl⟩ := normalizeNonEmpty_eq_ok.mp tabled
  exact ⟨nonempty, (Except.ok.inj accepted).symm⟩

def joined (name : TableName) : String := name.dbUrl ++ "::" ++ name.table

private theorem toList_joined (name : TableName) :
    name.joined.toList = name.dbUrl.toList ++ ':' :: ':' :: name.table.toList := by
  rw [joined, String.toList_append, String.toList_append, append_assoc]
  rfl

section
variable (shifted : Shifted first second)
include shifted

private theorem Shifted.joined_eq : first.joined = second.joined := by
  rw [← String.toList_inj, toList_joined, toList_joined]
  obtain ⟨longer, shorter⟩ | ⟨_, longer, shorter⟩ := shifted
  all_goals
    rw [longer, shorter]
    simp

private theorem Shifted.length_lt : first.dbUrl.length < second.dbUrl.length := by
  obtain ⟨longer, -⟩ | ⟨_, longer, -⟩ := shifted
  · rw [longer, String.length_append]
    exact Nat.lt_add_of_pos_right (by decide)
  · rw [longer, String.length_append, String.length_append, Nat.add_assoc]
    exact Nat.lt_add_of_pos_right (Nat.add_pos_left (by decide) _)

private theorem Shifted.ne : first ≠ second := by
  rintro rfl
  exact lt_irrefl _ shifted.length_lt

end

/-- The characters by which one database is longer stand in front of the other's table. -/
theorem eq_or_shifted {extra : List Char}
    (longer : second.dbUrl.toList = first.dbUrl.toList ++ extra)
    (rest : ':' :: ':' :: first.table.toList = extra ++ ':' :: ':' :: second.table.toList) :
    first = second ∨ Shifted first second := by
  rw [eq_comm] at rest
  match extra with
  | [] =>
    simp only [append_nil, nil_append, cons.injEq, true_and] at longer rest
    left
    cases first
    cases second
    cases String.toList_inj.mp longer
    cases String.toList_inj.mp rest
    rfl
  | [c] =>
    simp only [cons_append, nil_append, cons.injEq, true_and] at rest
    obtain ⟨rfl, moved⟩ := rest
    refine .inr (.inl ⟨?_, ?_⟩)
    · rw [← String.toList_inj, longer]
      simp
    · rw [← String.toList_inj, ← moved]
      simp
  | c :: d :: middle =>
    simp only [cons_append, cons.injEq] at rest
    obtain ⟨rfl, rfl, moved⟩ := rest
    refine .inr (.inr ⟨String.ofList middle, ?_, ?_⟩)
    · rw [← String.toList_inj, longer]
      simp
    · rw [← String.toList_inj, ← moved]
      simp

private theorem joined_eq_iff :
    first.joined = second.joined ↔
      first = second ∨ Shifted first second ∨ Shifted second first := by
  constructor
  · intro same
    rw [← String.toList_inj, toList_joined, toList_joined] at same
    obtain ⟨_, longer, rest⟩ | ⟨_, longer, rest⟩ := append_eq_append_iff.mp same
    · exact (eq_or_shifted longer rest).imp_right .inl
    · obtain same | shifted := eq_or_shifted longer rest
      · exact .inl same.symm
      · exact .inr (.inr shifted)
  · rintro (rfl | shifted | shifted)
    · rfl
    · exact shifted.joined_eq
    · exact shifted.joined_eq.symm

/-- The slash tells where a database ends, once it is known up to white space. -/
theorem eq_of_spelled (nonempty : first.trimmed.dbUrl ≠ "")
    (trimmed : first.trimmed = second.trimmed)
    (spelled : first.dbUrl ++ "/" ++ first.table = second.dbUrl ++ "/" ++ second.table) :
    first = second := by
  have sameDb : trimChars first.dbUrl.toList = trimChars second.dbUrl.toList :=
    String.ofList_injective (congrArg dbUrl trimmed)
  have visible : trimChars first.dbUrl.toList ≠ [] := by
    intro empty
    exact nonempty (congrArg String.ofList empty)
  have characters : first.dbUrl.toList ++ '/' :: first.table.toList =
      second.dbUrl.toList ++ '/' :: second.table.toList := by
    simpa using congrArg String.toList spelled
  obtain ⟨sameDb, sameTable⟩ := append_cons_inj_of_trimChars (by decide) sameDb visible characters
  cases first
  cases second
  cases String.toList_inj.mp sameDb
  cases String.toList_inj.mp sameTable
  rfl

end TableName

/-- The scopes of every manifest keep two names apart exactly when names that are the same when
trimmed are spelled the same and neither name is the other with a part moved across the
separator. -/
theorem outbox_scopes_isolate_iff {Glob GlobSet : Type} (library : GlobLibrary Glob GlobSet)
    (literal : library.Literal) {first second : TableName} {firstKey secondKey : String}
    (firstAccepted : first.key = .ok firstKey) (secondAccepted : second.key = .ok secondKey) :
    (∀ members scopes, fromManifest library (.object members) = .ok scopes →
        Isolates library scopes first second) ↔
      first.Distinguishable second := by
  obtain ⟨nonempty, firstJoined⟩ := of_key firstAccepted
  obtain ⟨-, secondJoined⟩ := of_key secondAccepted
  have sameKey : first.key = second.key ↔ first.trimmed.joined = second.trimmed.joined := by
    rw [firstAccepted, secondAccepted, firstJoined, secondJoined]
    exact ⟨Except.ok.inj, congrArg Except.ok⟩
  constructor
  · intro isolates
    -- The manifest that grants the first name as it is spelled, and nothing else.
    obtain ⟨_, _, _, compiled, built, matching⟩ := literal (first.dbUrl ++ "/" ++ first.table)
    obtain ⟨scopes, parsed, checks⟩ := fromManifest_outbox library compiled built
    obtain ⟨sameAnswer, sameName⟩ := isolates _ scopes parsed
    refine ⟨?_, ?_, ?_⟩
    · intro trimmed
      have answer := sameAnswer (sameKey.mpr (congrArg joined trimmed))
      rw [checks, checks, (matching _).mpr rfl] at answer
      exact eq_of_spelled nonempty trimmed ((matching _).mp answer.symm).symm
    · intro shifted
      exact sameName shifted.ne (sameKey.mpr shifted.joined_eq)
    · intro shifted
      exact sameName shifted.ne.symm (sameKey.mpr shifted.joined_eq.symm)
  · intro distinguishable members scopes parsed
    have sameTrimmed (same : first.key = second.key) : first.trimmed = second.trimmed := by
      obtain trimmed | shifted | shifted := joined_eq_iff.mp (sameKey.mp same)
      · exact trimmed
      · exact absurd shifted distinguishable.unshifted
      · exact absurd shifted distinguishable.unshifted_symm
    refine ⟨?_, ?_⟩
    · intro same
      rw [distinguishable.spelled (sameTrimmed same)]
    · exact fun different same => different (sameTrimmed same)

/-- Patterns without metacharacters, each of which matches itself. -/
def plainGlobs : GlobLibrary String (List String) where
  new pattern := .ok pattern
  build globs := .ok globs
  isMatch set value := decide (value ∈ set)

private theorem plainGlobs_literal : plainGlobs.Literal := by
  intro text
  refine ⟨text, text, [text], rfl, rfl, ?_⟩
  intro other
  simp [plainGlobs]

/-- Two tables of one database, one of them with a separator in its name. -/
theorem outbox_scopes_isolate_orders :
    ∃ scopes : DeploymentScopes (List String),
      fromManifest plainGlobs (.object [("outbox", .array [.text "db/orders"])]) = .ok scopes ∧
      scopes.checkOutbox plainGlobs "db" "orders" ∧
      scopes.checkOutbox plainGlobs "db" "orders::old" = false ∧
      Isolates plainGlobs scopes ⟨"db", "orders"⟩ ⟨"db", "orders::old"⟩ := by
  have isolates := (outbox_scopes_isolate_iff plainGlobs plainGlobs_literal
    (show key ⟨"db", "orders"⟩ = .ok "db::orders" by decide +kernel)
    (show key ⟨"db", "orders::old"⟩ = .ok "db::orders::old" by decide +kernel)).mpr
    { spelled := by decide +kernel
      unshifted := fun shifted => absurd shifted.length_lt (by decide +kernel)
      unshifted_symm := fun shifted => absurd shifted.length_lt (by decide +kernel) }
  exact ⟨_, rfl, by decide +kernel, by decide +kernel,
    isolates [("outbox", .array [.text "db/orders"])] _ rfl⟩

/-- The manifest grants one name. Another spelling of it, and a name that has the separator in
another place, are the same table and are not granted. -/
theorem outbox_scopes_leak :
    ∃ scopes : DeploymentScopes (List String),
      fromManifest plainGlobs (.object [("outbox", .array [.text "a::b/c"])]) = .ok scopes ∧
      trimmed ⟨"a::b", "c"⟩ ≠ trimmed ⟨"a", "b::c"⟩ ∧
      (∀ name ∈ [⟨"a::b", "c"⟩, ⟨"a", "b::c"⟩, ⟨" a::b", "c"⟩], key name = .ok "a::b::c") ∧
      scopes.checkOutbox plainGlobs "a::b" "c" ∧
      scopes.checkOutbox plainGlobs "a" "b::c" = false ∧
      scopes.checkOutbox plainGlobs " a::b" "c" = false ∧
      ¬Isolates plainGlobs scopes ⟨"a::b", "c"⟩ ⟨"a", "b::c"⟩ ∧
      ¬Isolates plainGlobs scopes ⟨"a::b", "c"⟩ ⟨" a::b", "c"⟩ := by
  refine ⟨_, rfl, by decide +kernel, by decide +kernel, by decide +kernel, by decide +kernel,
    by decide +kernel, fun isolates => ?_, fun isolates => ?_⟩
  · exact isolates.sameName (by decide +kernel) (by decide +kernel)
  · exact absurd (isolates.sameAnswer (by decide +kernel)) (by decide +kernel)

end TachyonMesh.Outbox
