import TachyonMesh.Foundation.Json
import TachyonMesh.Foundation.Outcome
import TachyonMesh.Foundation.Text

/-! # Deployment scopes

A manifest lists, category by category, the patterns of what a deployment may use. The patterns
are globs; the library that compiles and matches them is a parameter.
-/

namespace TachyonMesh.Scoping
open Foundation

/-- The glob library: single patterns are compiled, and a set of them is built to match texts. -/
structure GlobLibrary (Glob GlobSet : Type) where
  new : String → Except String Glob
  build : List Glob → Except String GlobSet
  isMatch : GlobSet → String → Bool

/-- Every text has a pattern that matches it and nothing else: its metacharacters are escaped. -/
def GlobLibrary.Literal {Glob GlobSet : Type} (library : GlobLibrary Glob GlobSet) : Prop :=
  ∀ text, ∃ pattern glob set, library.new pattern = .ok glob ∧ library.build [glob] = .ok set ∧
    ∀ other, library.isMatch set other ↔ other = text

/-- An override that a manifest declares. -/
structure RoutingEntry where
  routePath : String
  destination : String

/-- A category that is `none` is absent from the linker. -/
structure DeploymentScopes (GlobSet : Type) where
  allowAll : Bool
  secrets : Option GlobSet
  kv : Option GlobSet
  vector : Option GlobSet
  training : Option GlobSet
  bridge : Option GlobSet
  routing : Option (List RoutingEntry)
  http : Option GlobSet
  outbox : Option GlobSet
  storage : Option GlobSet
  graph : Option GlobSet

def knownKeys : List String :=
  ["secrets", "kv", "vector", "training", "bridge", "routing", "http", "outbox", "storage", "graph"]

/-- Why a manifest is refused. -/
inductive ScopeManifestError where
  | unknownCategory (key : String)
  | nonStringPattern (category : String) (value : Json)
  | routingMissingDestination (index : Nat)
  | invalidGlob (category pattern source : String)

/-! ## Parsing -/

variable {Glob GlobSet : Type} (library : GlobLibrary Glob GlobSet)

def parsePattern (category : String) (value : Json) : Except ScopeManifestError Glob :=
  match value.asText with
  | some pattern => (library.new pattern).mapError (.invalidGlob category pattern)
  | none => .error (.nonStringPattern category value)

def parseGlobset (members : List (String × Json)) (category : String) :
    Except ScopeManifestError (Option GlobSet) :=
  match findEntry category members with
  | none => .ok none
  | some (.array patterns) => do
      let globs ← patterns.mapM (parsePattern library category)
      let set ← (library.build globs).mapError (.invalidGlob category "<set>")
      pure (some set)
  | some value => .error (.nonStringPattern category value)

def parseRoutingEntry (text : String) : Option RoutingEntry :=
  (cutChars " -> ".toList text.toList).bind fun (before, after) =>
    let routePath := String.ofList (trimChars before)
    let destination := String.ofList (trimChars after)
    if routePath = "" ∨ destination = "" then none else some { routePath, destination }

/-- The loop of `parse_routing`, from the entry at `index` on. -/
def parseRoutingEntries (index : Nat) : List Json → Except ScopeManifestError (List RoutingEntry)
  | [] => .ok []
  | item :: rest =>
      match item.asText with
      | none => .error (.nonStringPattern "routing" item)
      | some text =>
          match parseRoutingEntry text with
          | none => .error (.routingMissingDestination index)
          | some entry => (parseRoutingEntries (index + 1) rest).map (entry :: ·)

def parseRouting (members : List (String × Json)) :
    Except ScopeManifestError (Option (List RoutingEntry)) :=
  match findEntry "routing" members with
  | none => .ok none
  | some (.array items) => (parseRoutingEntries 0 items).map some
  | some value => .error (.nonStringPattern "routing" value)

namespace DeploymentScopes

def allowingAll : DeploymentScopes GlobSet where
  allowAll := true
  secrets := none
  kv := none
  vector := none
  training := none
  bridge := none
  routing := none
  http := none
  outbox := none
  storage := none
  graph := none

/-- The patterns of a manifest's object. -/
def ofMembers (members : List (String × Json)) :
    Except ScopeManifestError (DeploymentScopes GlobSet) := do
  members.forM fun (key, _) =>
    if key ∈ knownKeys then .ok () else .error (.unknownCategory key)
  let secrets ← parseGlobset library members "secrets"
  let kv ← parseGlobset library members "kv"
  let vector ← parseGlobset library members "vector"
  let training ← parseGlobset library members "training"
  let bridge ← parseGlobset library members "bridge"
  let http ← parseGlobset library members "http"
  let outbox ← parseGlobset library members "outbox"
  let storage ← parseGlobset library members "storage"
  let graph ← parseGlobset library members "graph"
  let routing ← parseRouting members
  pure {
    allowAll := false
    secrets, kv, vector, training, bridge, routing, http, outbox, storage, graph }

/-- What is not an object, the text `allow-all` for one, allows all. -/
def fromManifest : Json → Except ScopeManifestError (DeploymentScopes GlobSet)
  | .object members => ofMembers library members
  | _ => .ok allowingAll

/-- The check of the categories that are sets of globs. -/
def checkGlobs (scopes : DeploymentScopes GlobSet) (category : Option GlobSet) (value : String) :
    Bool :=
  scopes.allowAll || match category with
    | none => false
    | some set => library.isMatch set value

def checkOutbox (scopes : DeploymentScopes GlobSet) (dbUrl table : String) : Bool :=
  scopes.checkGlobs library scopes.outbox (dbUrl ++ "/" ++ table)

theorem fromManifest_outbox {pattern : String} {glob : Glob} {set : GlobSet}
    (compiled : library.new pattern = .ok glob) (built : library.build [glob] = .ok set) :
    ∃ scopes : DeploymentScopes GlobSet,
      fromManifest library (.object [("outbox", .array [.text pattern])]) = .ok scopes ∧
        ∀ dbUrl table,
          scopes.checkOutbox library dbUrl table = library.isMatch set (dbUrl ++ "/" ++ table) := by
  have parsed : parsePattern library "outbox" (.text pattern) = .ok glob := by
    change (library.new pattern).mapError (ScopeManifestError.invalidGlob "outbox" pattern) = _
    rw [compiled]
    rfl
  have outbox : parseGlobset library [("outbox", .array [.text pattern])] "outbox" =
      .ok (some set) := by
    change ([Json.text pattern].mapM (parsePattern library "outbox") >>= _) = _
    rw [List.mapM_cons, parsed]
    change
      ((library.build [glob]).mapError (ScopeManifestError.invalidGlob "outbox" "<set>") >>= _) =
      _
    rw [built]
    rfl
  refine ⟨{ allowingAll with allowAll := false, outbox := some set }, ?_, fun _ _ => rfl⟩
  change ofMembers library _ = _
  unfold ofMembers
  rw [outbox]
  rfl

end DeploymentScopes

end TachyonMesh.Scoping
