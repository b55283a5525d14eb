import Mathlib.Data.Prod.Lex
import TachyonMesh.Dispatch.Routes
import TachyonMesh.Foundation.Dictionary
import TachyonMesh.Foundation.Outcome

/-! # The route registry

`RouteRegistry::build` parses the versions and requirements of all routes, refuses two routes of
one name and version, and checks for every registered route that its dependencies are there and
need no credentials that the route does not declare itself. Calls resolve a dependency by the
same search, so what was checked when the registry was built holds of every call.

The registry keeps routes by path, and of two routes with one path the later. Versions and
requirements are those of a crate: a linear order and a matching predicate.
-/

namespace TachyonMesh.Dispatch
open Foundation List Dictionary

/-! ## Routes and registries -/

/-- Versions and requirements on them. -/
structure Semver (V R : Type) where
  parseVersion : String → Except String V
  parseReq : String → Except String R
  satisfies : R → V → Bool
  versionText : V → String
  reqText : R → String

/-- What the registry reads of an `IntegrityRoute`. -/
structure RouteDeclaration where
  path : String
  name : String
  version : String
  dependencies : Dictionary String String
  requiresCredentials : List String
  middleware : Option String

/-- A route with its version and dependencies. -/
structure ResolvedRoute (V R : Type) where
  path : String
  name : String
  version : V
  dependencies : List (String × R)
  requiresCredentials : List String
deriving DecidableEq

open ResolvedRoute

/-- The routes by name and by path. -/
structure RouteRegistry (V R : Type) where
  byName : Dictionary String (List (ResolvedRoute V R))
  byPath : Dictionary String (ResolvedRoute V R)

variable {V R : Type} [LinearOrder V]

/-- Later versions come first, then earlier paths. -/
def ResolvedRoute.precedes (first second : ResolvedRoute V R) : Prop :=
  second.version < first.version ∨ first.version = second.version ∧ first.path ≤ second.path
deriving Decidable

section

omit [LinearOrder V]

/-- A route with its version and its requirements parsed. -/
def resolve (semver : Semver V R) (route : RouteDeclaration) :
    Except String (ResolvedRoute V R) := do
  let version ← (semver.parseVersion (trim route.version)).mapError fun _ =>
    "Integrity Validation Failed: route `" ++ route.path ++ "` has invalid semantic version `" ++
      route.version ++ "`"
  let dependencies ← route.dependencies.entries.mapM fun (name, requirement) =>
    ((semver.parseReq (trim requirement)).map fun parsed => (name, parsed)).mapError fun error =>
      "Integrity Validation Failed: route `" ++ route.path ++
        "` has invalid dependency requirement `" ++ requirement ++ "` for `" ++ name ++ "`: " ++
        error
  pure {
    path := route.path
    name := route.name
    version
    dependencies
    requiresCredentials := sortDedup route.requiresCredentials }

def ResolvedRoute.label (semver : Semver V R) (route : ResolvedRoute V R) : String :=
  route.path ++ " (" ++ route.name ++ "@" ++ semver.versionText route.version ++ ")"

/-- Name and version: what two routes must not share. -/
def ResolvedRoute.key (semver : Semver V R) (route : ResolvedRoute V R) : String × String :=
  (route.name, semver.versionText route.version)

namespace RouteRegistry

def empty : RouteRegistry V R := { byName := .empty, byPath := .empty }

/-- `entry(name).or_default().push(route)`, and the route under its path. -/
def insert (registry : RouteRegistry V R) (route : ResolvedRoute V R) : RouteRegistry V R where
  byName := registry.byName.insert route.name ((registry.byName.find route.name).getD [] ++ [route])
  byPath := registry.byPath.insert route.path route

variable (registry : RouteRegistry V R)

def resolveDependencyCandidate (semver : Semver V R) (caller : ResolvedRoute V R)
    (dependency : String) (requirement : R) : Except String (ResolvedRoute V R) :=
  required ("Dependency resolution failed: route " ++ caller.label semver ++ " requires " ++
      dependency ++ " matching " ++ semver.reqText requirement ++
      ", but no compatible version was loaded")
    (((registry.byName.find dependency).getD []).find? fun candidate =>
      semver.satisfies requirement candidate.version)

def ensureDependenciesSatisfied (semver : Semver V R)
    (route : ResolvedRoute V R) : Except String PUnit :=
  route.dependencies.forM fun (name, requirement) => do
    let dependency ← registry.resolveDependencyCandidate semver route name requirement
    let missing := dependency.requiresCredentials.filter (· ∉ route.requiresCredentials)
    if missing = [] then pure ⟨⟩
    else .error ("Credential delegation failed: route " ++ route.label semver ++
      " must also declare [" ++ ", ".intercalate (missing.map fun name => "\"" ++ name ++ "\"") ++
      "] to satisfy dependency " ++ dependency.label semver)

def resolveNamedRoute (name : String) : Except String (ResolvedRoute V R) :=
  required ("route middleware `" ++ name ++ "` does not match any sealed route name")
    ((registry.byName.find name).getD []).head?

/-- The check of a route's middleware. -/
def ensureMiddleware (route : RouteDeclaration) : Except String PUnit :=
  match route.middleware with
  | none => pure ⟨⟩
  | some middleware => do
      let resolved ← registry.resolveNamedRoute middleware
      if resolved.path = route.path then
        .error ("Integrity Validation Failed: route `" ++ route.path ++
          "` cannot use itself (`" ++ middleware ++ "`) as middleware")
      else pure ⟨⟩

def resolveDependencyRoute (semver : Semver V R)
    (callerPath dependency : String) : Except String (ResolvedRoute V R) := do
  let caller ← required ("mesh fetch caller route `" ++ callerPath ++
    "` is missing from the sealed dependency registry") (registry.byPath.find callerPath)
  let requirement ← required ("route " ++ caller.label semver ++ " does not declare `" ++
    dependency ++ "` in its sealed dependencies") (findEntry dependency caller.dependencies)
  registry.resolveDependencyCandidate semver caller dependency requirement

end RouteRegistry

/-- The first loop of `build`, with the versions that it has seen. -/
structure Loading (V R : Type) where
  registry : RouteRegistry V R
  seenVersions : List ((String × String) × String)

def Loading.load (semver : Semver V R) (loading : Loading V R) (route : RouteDeclaration) :
    Except String (Loading V R) := do
  let resolved ← resolve semver route
  match loading.seenVersions.lookup (resolved.key semver) with
  | some existing => .error ("Integrity Validation Failed: routes `" ++ existing ++ "` and `" ++
      resolved.path ++ "` both declare `" ++ resolved.name ++ "` version `" ++
      semver.versionText resolved.version ++ "`")
  | none => pure {
      registry := loading.registry.insert resolved
      seenVersions := (resolved.key semver, resolved.path) :: loading.seenVersions }

end

/-- The routes of a name, best first. -/
def RouteRegistry.sorted (registry : RouteRegistry V R) : RouteRegistry V R :=
  { registry with
    byName := registry.byName.mapValues fun routes => routes.insertionSort precedes }

/-- `RouteRegistry::build`. -/
def RouteRegistry.build (semver : Semver V R) (routes : List RouteDeclaration) :
    Except String (RouteRegistry V R) := do
  let loading ← routes.foldlM (Loading.load semver) { registry := .empty, seenVersions := [] }
  let registry := loading.registry.sorted
  registry.byPath.entries.forM fun entry => registry.ensureDependenciesSatisfied semver entry.2
  routes.forM registry.ensureMiddleware
  pure registry

/-! ## What is loaded -/

section
variable {semver : Semver V R} {routes : List RouteDeclaration}

omit [LinearOrder V]

/-- The routes that can be parsed, in the order of the configuration. -/
def resolvedRoutes (semver : Semver V R) (routes : List RouteDeclaration) :
    List (ResolvedRoute V R) :=
  routes.filterMap fun route => (resolve semver route).toOption

namespace RouteRegistry
variable (resolved : List (ResolvedRoute V R))

def ofResolved : RouteRegistry V R :=
  resolved.foldl insert empty

private theorem ofResolved_append (route : ResolvedRoute V R) :
    ofResolved (resolved ++ [route]) = (ofResolved resolved).insert route := by
  rw [ofResolved, foldl_append]
  rfl

private theorem find_byPath_ofResolved (path : String) :
    (ofResolved resolved).byPath.find path =
      resolved.reverse.find? fun route => route.path == path := by
  induction resolved using reverseRecOn with
  | nil => rfl
  | append_singleton _ _ ih =>
    rw [ofResolved_append, insert, find_insert, ih, reverse_append,
      reverse_singleton, singleton_append, find?_cons]
    split
    · next same => rw [beq_iff_eq.mpr same.symm]
    · next same => rw [beq_eq_false_iff_ne.mpr (Ne.symm same)]

private theorem find_byPath_eq_some {resolved : List (ResolvedRoute V R)}
    (paths : (resolved.map path).Nodup) {path : String} {route : ResolvedRoute V R} :
    (ofResolved resolved).byPath.find path = some route ↔ route ∈ resolved ∧ route.path = path := by
  rw [find_byPath_ofResolved]
  constructor
  · intro found
    exact ⟨mem_reverse.mp (mem_of_find?_eq_some found), by simpa using find?_some found⟩
  · rintro ⟨loaded, rfl⟩
    cases found : resolved.reverse.find? fun other => other.path == route.path with
    | none =>
      exact absurd (beq_self_eq_true route.path)
        (find?_eq_none.mp found route (mem_reverse.mpr loaded))
    | some other =>
      have member := mem_reverse.mp (mem_of_find?_eq_some found)
      have samePath : other.path = route.path := by simpa using find?_some found
      rw [inj_on_of_nodup_map paths member loaded samePath]

private theorem find_byName_ofResolved (name : String) :
    (ofResolved resolved).byName.find name =
      (some (resolved.filter fun route => route.name = name)).filter fun routes =>
        !routes.isEmpty := by
  induction resolved using reverseRecOn with
  | nil => rfl
  | append_singleton resolved route ih =>
    rw [ofResolved_append, insert, find_insert, filter_append]
    by_cases same : name = route.name
    · subst same
      rw [if_pos rfl, ih]
      cases present : (resolved.filter fun other => other.name = route.name) with
      | nil | cons =>
        rw [filter_singleton, decide_eq_true rfl]
        rfl
    · rw [if_neg same, ih]
      simp [Ne.symm same]

end RouteRegistry

variable {loading : Loading V R} {route : RouteDeclaration} {resolved : ResolvedRoute V R}

private theorem load_eq_ok {next : Loading V R} :
    loading.load semver route = .ok next ↔
      ∃ resolved, resolve semver route = .ok resolved ∧
        resolved.key semver ∉ loading.seenVersions.map Prod.fst ∧
        next = {
          registry := loading.registry.insert resolved
          seenVersions := (resolved.key semver, resolved.path) :: loading.seenVersions } := by
  rw [Loading.load, bind_eq_ok]
  refine exists_congr fun resolved => and_congr_right fun _ => ?_
  cases seen : loading.seenVersions.lookup (resolved.key semver) with
  | some =>
    refine iff_of_false nofun ?_
    rintro ⟨unseen, -⟩
    rw [lookup_eq_some_iff] at seen
    obtain ⟨_, _, listed, -⟩ := seen
    exact unseen (by simp [listed])
  | none =>
    have unseen : resolved.key semver ∉ loading.seenVersions.map Prod.fst := by
      rw [lookup_eq_none_iff] at seen
      rintro listed
      obtain ⟨entry, member, same⟩ := mem_map.mp listed
      simpa [same] using seen entry member
    exact ⟨fun ended => ⟨unseen, (Except.ok.inj ended).symm⟩,
      fun ended => congrArg Except.ok ended.2.symm⟩

private theorem resolvedRoutes_cons (parsed : resolve semver route = .ok resolved)
    (rest : List RouteDeclaration) :
    resolvedRoutes semver (route :: rest) = resolved :: resolvedRoutes semver rest := by
  rw [resolvedRoutes, filterMap_cons, parsed]
  rfl

private theorem path_of_resolve
    (parsed : resolve semver route = .ok resolved) : resolved.path = route.path := by
  obtain ⟨_, -, parsed⟩ := bind_eq_ok.mp parsed
  obtain ⟨_, -, parsed⟩ := bind_eq_ok.mp parsed
  cases parsed
  rfl

private theorem paths_resolvedRoutes (routes : List RouteDeclaration) :
    ((resolvedRoutes semver routes).map path).Sublist (routes.map RouteDeclaration.path) := by
  induction routes with
  | nil => exact .slnil
  | cons route _ ih =>
    cases parsed : resolve semver route with
    | error =>
      rw [resolvedRoutes, filterMap_cons, parsed]
      exact ih.cons _
    | ok =>
      rw [resolvedRoutes_cons parsed, map_cons, map_cons, path_of_resolve parsed]
      exact ih.cons_cons _

/-- The first loop succeeds when every route can be parsed and no name and version comes twice. -/
theorem foldlM_load {loaded : Loading V R} :
    routes.foldlM (Loading.load semver) loading = .ok loaded ↔
      (∀ route ∈ routes, ∃ resolved, resolve semver route = .ok resolved) ∧
      ((resolvedRoutes semver routes).map (key semver)).Nodup ∧
      (∀ route ∈ resolvedRoutes semver routes,
        route.key semver ∉ loading.seenVersions.map Prod.fst) ∧
      loaded = {
        registry := (resolvedRoutes semver routes).foldl RouteRegistry.insert loading.registry
        seenVersions := (resolvedRoutes semver routes).foldl
          (fun seen route => (route.key semver, route.path) :: seen) loading.seenVersions } := by
  induction routes generalizing loading loaded with
  | nil =>
    constructor
    · intro ended
      cases ended
      exact ⟨nofun, nodup_nil, nofun, rfl⟩
    · rintro ⟨-, -, -, rfl⟩
      rfl
  | cons _ _ ih =>
    rw [foldlM_cons, bind_eq_ok, forall_mem_cons]
    constructor
    · rintro ⟨_, stepped, later⟩
      obtain ⟨resolved, parsed, unseen, rfl⟩ := load_eq_ok.mp stepped
      obtain ⟨parses, distinct, fresh, rfl⟩ := ih.mp later
      rw [resolvedRoutes_cons parsed, map_cons, nodup_cons, forall_mem_cons]
      refine ⟨⟨⟨resolved, parsed⟩, parses⟩, ⟨?_, distinct⟩, ⟨unseen, ?_⟩, rfl⟩
      · intro listed
        obtain ⟨other, member, same⟩ := mem_map.mp listed
        exact fresh other member (by rw [same]; exact mem_cons_self)
      · intro other member listed
        exact fresh other member (mem_cons_of_mem _ listed)
    · rintro ⟨⟨⟨resolved, parsed⟩, parses⟩, distinct, fresh, rfl⟩
      rw [resolvedRoutes_cons parsed] at distinct fresh ⊢
      obtain ⟨apart, distinct⟩ := nodup_cons.mp distinct
      obtain ⟨unseen, fresh⟩ := forall_mem_cons.mp fresh
      refine ⟨_, load_eq_ok.mpr ⟨resolved, parsed, unseen, rfl⟩, ih.mpr ⟨parses, distinct, ?_, rfl⟩⟩
      intro other member listed
      obtain same | listed := mem_cons.mp listed
      · exact apart (mem_map.mpr ⟨other, member, same⟩)
      · exact fresh other member listed

end

namespace RouteRegistry
variable {semver : Semver V R} {routes : List RouteDeclaration} {registry : RouteRegistry V R}

private theorem build_eq_ok : build semver routes = .ok registry ↔
    (∀ route ∈ routes, ∃ resolved, resolve semver route = .ok resolved) ∧
    ((resolvedRoutes semver routes).map (key semver)).Nodup ∧
    registry = (ofResolved (resolvedRoutes semver routes)).sorted ∧
    (∀ path route, registry.byPath.find path = some route →
      registry.ensureDependenciesSatisfied semver route = .ok ⟨⟩) ∧
    ∀ route ∈ routes, registry.ensureMiddleware route = .ok ⟨⟩ := by
  rw [build, bind_eq_ok]
  constructor
  · rintro ⟨_, loaded, checked⟩
    obtain ⟨parses, distinct, -, rfl⟩ := foldlM_load.mp loaded
    obtain ⟨⟨⟩, satisfied, checked⟩ := bind_eq_ok.mp checked
    obtain ⟨⟨⟩, middlewares, ended⟩ := bind_eq_ok.mp checked
    cases ended
    refine ⟨parses, distinct, rfl, ?_, forM_eq_ok.mp middlewares⟩
    intro path route found
    exact forM_eq_ok.mp satisfied (path, route) (find_eq_some.mp found)
  · rintro ⟨parses, distinct, rfl, satisfied, middlewares⟩
    refine ⟨_, foldlM_load.mpr ⟨parses, distinct, nofun, rfl⟩, ?_⟩
    refine bind_eq_ok.mpr
      ⟨⟨⟩, forM_eq_ok.mpr ?_, bind_eq_ok.mpr ⟨⟨⟩, forM_eq_ok.mpr middlewares, rfl⟩⟩
    intro entry member
    exact satisfied entry.1 entry.2 (find_eq_some.mpr member)

/-! ## The order of a name's routes -/

private theorem precedes_total (first second : ResolvedRoute V R) :
    first.precedes second ∨ second.precedes first := by
  obtain below | same | above := lt_trichotomy first.version second.version
  · exact .inr (.inl below)
  · obtain before | after := le_total first.path second.path
    · exact .inl (.inr ⟨same, before⟩)
    · exact .inr (.inr ⟨same.symm, after⟩)
  · exact .inl (.inl above)

variable {first second route caller : ResolvedRoute V R} {resolved : List (ResolvedRoute V R)}
  {dependency : String} {requirement : R}

private theorem precedes_trans {third : ResolvedRoute V R} (before : first.precedes second)
    (after : second.precedes third) : first.precedes third := by
  obtain below | ⟨same, path⟩ := before
  · obtain lower | ⟨sameToo, -⟩ := after
    · exact .inl (lower.trans below)
    · exact .inl (sameToo ▸ below)
  · obtain lower | ⟨sameToo, pathToo⟩ := after
    · exact .inl (same ▸ lower)
    · exact .inr ⟨same.trans sameToo, path.trans pathToo⟩

instance : Std.Total (precedes (V := V) (R := R)) := ⟨precedes_total⟩

instance : IsTrans (ResolvedRoute V R) precedes := ⟨fun _ _ _ => precedes_trans⟩

private theorem version_le_of_precedes (before : first.precedes second) :
    second.version ≤ first.version := by
  obtain below | ⟨same, -⟩ := before
  · exact below.le
  · exact same.ge

private theorem version_eq_of_precedes (before : first.precedes second)
    (after : second.precedes first) : first.version = second.version :=
  (version_le_of_precedes after).antisymm (version_le_of_precedes before)

omit [LinearOrder V] in
private theorem eq_of_version (distinct : (resolved.map (key semver)).Nodup)
    (left : first ∈ resolved) (right : second ∈ resolved) (name : first.name = second.name)
    (version : first.version = second.version) : first = second := by
  refine inj_on_of_nodup_map distinct left right ?_
  rw [key, key, name, version]

/-- The candidates for a name, best first. -/
def candidates (resolved : List (ResolvedRoute V R)) (name : String) : List (ResolvedRoute V R) :=
  (resolved.filter fun route => route.name = name).insertionSort precedes

private theorem mem_candidates {name : String} :
    route ∈ candidates resolved name ↔ route ∈ resolved ∧ route.name = name := by
  rw [candidates, mem_insertionSort, mem_filter, decide_eq_true_iff]

private theorem find_byName_sorted (resolved : List (ResolvedRoute V R)) (name : String) :
    (ofResolved resolved).sorted.byName.find name =
      (some (candidates resolved name)).filter fun routes => !routes.isEmpty := by
  change ((ofResolved resolved).byName.mapValues _).find name = _
  rw [find_mapValues, find_byName_ofResolved, candidates]
  cases named : resolved.filter fun route => route.name = name with
  | nil => rfl
  | cons first rest =>
    have nonempty : ((first :: rest).insertionSort precedes).isEmpty = false := by
      rw [isEmpty_eq_false_iff, ← length_pos_iff, length_insertionSort]
      exact Nat.zero_lt_succ _
    rw [Option.filter_some, Option.filter_some, nonempty]
    rfl

private theorem getD_byName_sorted (resolved : List (ResolvedRoute V R)) (name : String) :
    ((ofResolved resolved).sorted.byName.find name).getD [] = candidates resolved name := by
  rw [find_byName_sorted]
  cases candidates resolved name with
  | nil | cons => rfl

/-- The best candidate does not depend on the order in which routes are loaded. -/
theorem candidates_of_perm {first second : List (ResolvedRoute V R)} (perm : first.Perm second)
    (distinct : (first.map (key semver)).Nodup) (name : String) :
    candidates first name = candidates second name := by
  have sortedPerm : (candidates first name).Perm (candidates second name) :=
    (perm_insertionSort _ _).trans ((perm.filter _).trans (perm_insertionSort _ _).symm)
  refine sortedPerm.eq_of_pairwise ?_ (pairwise_insertionSort _ _) (pairwise_insertionSort _ _)
  intro left right leftListed rightListed before after
  obtain ⟨leftLoaded, leftName⟩ := mem_candidates.mp leftListed
  obtain ⟨rightLoaded, rightName⟩ := mem_candidates.mp rightListed
  exact eq_of_version distinct leftLoaded (perm.mem_iff.mpr rightLoaded)
    (leftName.trans rightName.symm) (version_eq_of_precedes before after)

private theorem sorted_of_perm {first second : List (ResolvedRoute V R)} (perm : first.Perm second)
    (versions : (first.map (key semver)).Nodup) (paths : (first.map path).Nodup) :
    (ofResolved first).sorted = (ofResolved second).sorted := by
  have byName : (ofResolved first).sorted.byName = (ofResolved second).sorted.byName := by
    refine ext_find fun name => ?_
    rw [find_byName_sorted, find_byName_sorted, candidates_of_perm perm versions]
  have byPath : (ofResolved first).byPath = (ofResolved second).byPath := by
    refine ext_find fun _ => Option.ext fun _ => ?_
    rw [find_byPath_eq_some paths, find_byPath_eq_some ((perm.map _).nodup_iff.mp paths),
      perm.mem_iff]
  exact congrArg₂ RouteRegistry.mk byName byPath

/-- Of the loaded routes with a name, the one of the greatest version that the requirement
allows. -/
structure Greatest (semver : Semver V R) (routes : List RouteDeclaration) (dependency : String)
    (requirement : R) (route : ResolvedRoute V R) : Prop where
  loaded : route ∈ resolvedRoutes semver routes
  name : route.name = dependency
  satisfies : semver.satisfies requirement route.version
  greatest : ∀ other ∈ resolvedRoutes semver routes, other.name = dependency →
    semver.satisfies requirement other.version → other ≠ route →
    other.version < route.version

section
variable (built : build semver routes = .ok registry)
include built

private theorem greatest_of_candidate
    (found : registry.resolveDependencyCandidate semver caller dependency requirement = .ok route) :
    Greatest semver routes dependency requirement route := by
  obtain ⟨-, distinct, rfl, -, -⟩ := build_eq_ok.mp built
  have found := required_eq_ok.mp found
  rw [getD_byName_sorted] at found
  have loaded := mem_candidates.mp (mem_of_find?_eq_some found)
  obtain ⟨satisfied, _, _, listed, rejected⟩ := find?_eq_some_iff_append.mp found
  refine ⟨loaded.1, loaded.2, satisfied, ?_⟩
  intro other otherLoaded name satisfies apart
  have ordered : (candidates (resolvedRoutes semver routes) dependency).Pairwise
      precedes := pairwise_insertionSort _ _
  have member := mem_candidates.mpr ⟨otherLoaded, name⟩
  rw [listed] at member ordered
  obtain early | late := mem_append.mp member
  · have refused := rejected other early
    rw [satisfies] at refused
    cases refused
  have late := (mem_cons.mp late).resolve_left apart
  have precedes := (pairwise_cons.mp (pairwise_append.mp ordered).2.1).1 other late
  refine (version_le_of_precedes precedes).lt_of_ne ?_
  intro same
  exact apart (eq_of_version distinct otherLoaded loaded.1 (name.trans loaded.2.symm) same)

private theorem find_byPath_of_loaded (distinct : (routes.map RouteDeclaration.path).Nodup)
    (loaded : route ∈ resolvedRoutes semver routes) :
    registry.byPath.find route.path = some route := by
  obtain ⟨-, -, rfl, -, -⟩ := build_eq_ok.mp built
  have paths : ((resolvedRoutes semver routes).map path).Nodup :=
    distinct.sublist (paths_resolvedRoutes routes)
  exact (find_byPath_eq_some paths).mpr ⟨loaded, rfl⟩

private theorem candidate_of_declared (distinct : (routes.map RouteDeclaration.path).Nodup)
    (loaded : caller ∈ resolvedRoutes semver routes)
    (declared : findEntry dependency caller.dependencies = some requirement) :
    ∃ callee, registry.resolveDependencyRoute semver caller.path dependency = .ok callee ∧
      registry.resolveDependencyCandidate semver caller dependency requirement = .ok callee ∧
      callee.requiresCredentials ⊆ caller.requiresCredentials := by
  have registered := find_byPath_of_loaded built distinct loaded
  obtain ⟨-, -, -, satisfied, -⟩ := build_eq_ok.mp built
  have checked := forM_eq_ok.mp (satisfied caller.path caller registered) (dependency, requirement)
    (mem_of_findEntry declared)
  obtain ⟨callee, found, covered⟩ := bind_eq_ok.mp checked
  refine ⟨callee, ?_, found, ?_⟩
  · refine bind_eq_ok.mpr ⟨caller, required_eq_ok.mpr registered, ?_⟩
    exact bind_eq_ok.mpr ⟨requirement, required_eq_ok.mpr declared, found⟩
  dsimp only at covered
  split at covered
  · next none =>
    intro credential needed
    by_contra missing
    have listed : credential ∈ callee.requiresCredentials.filter (· ∉ caller.requiresCredentials) :=
      mem_filter.mpr ⟨needed, decide_eq_true missing⟩
    rw [none] at listed
    cases listed
  · cases covered

end

/-- A route calls what one of its declared dependencies resolves to. -/
def Delegates (semver : Semver V R) (registry : RouteRegistry V R)
    (caller callee : ResolvedRoute V R) : Prop :=
  ∃ dependency, (findEntry dependency caller.dependencies).isSome ∧
    registry.resolveDependencyRoute semver caller.path dependency = .ok callee

variable (built : build semver routes = .ok registry)
  (distinct : (routes.map RouteDeclaration.path).Nodup)
include built distinct

/-- A dependency that is declared needs no credentials that its caller does not have. -/
theorem delegates_loaded {callee : ResolvedRoute V R}
    (loaded : caller ∈ resolvedRoutes semver routes)
    (delegates : registry.Delegates semver caller callee) :
    callee ∈ resolvedRoutes semver routes ∧
      callee.requiresCredentials ⊆ caller.requiresCredentials := by
  obtain ⟨_, declared, resolves⟩ := delegates
  obtain ⟨_, declared⟩ := Option.isSome_iff_exists.mp declared
  obtain ⟨_, resolvesToo, candidate, covered⟩ :=
    candidate_of_declared built distinct loaded declared
  cases resolves.symm.trans resolvesToo
  exact ⟨(greatest_of_candidate built candidate).loaded, covered⟩

private theorem build_of_perm {reordered : List RouteDeclaration} (perm : routes.Perm reordered) :
    build semver reordered = .ok registry := by
  have loadedPerm : (resolvedRoutes semver routes).Perm (resolvedRoutes semver reordered) :=
    perm.filterMap _
  obtain ⟨parses, versions, rfl, satisfied, middlewares⟩ := build_eq_ok.mp built
  have same : (ofResolved (resolvedRoutes semver routes)).sorted =
      (ofResolved (resolvedRoutes semver reordered)).sorted :=
    sorted_of_perm loadedPerm versions (distinct.sublist (paths_resolvedRoutes routes))
  rw [same] at satisfied middlewares ⊢
  refine build_eq_ok.mpr ⟨fun route listed => parses route (perm.mem_iff.mpr listed),
    (loadedPerm.map _).nodup_iff.mp versions, rfl, satisfied, ?_⟩
  exact fun route listed => middlewares route (perm.mem_iff.mpr listed)

end RouteRegistry

/-- With one route for a path: what a chain of dependencies ends in needs no credentials that its
start does not declare; a declared dependency resolves, to the greatest version that satisfies
its requirement; and the order of the routes does not matter. -/
theorem credentials_delegated_along_chains (semver : Semver V R) {routes : List RouteDeclaration}
    {registry : RouteRegistry V R} (built : RouteRegistry.build semver routes = .ok registry)
    (distinct : (routes.map RouteDeclaration.path).Nodup) :
    (∀ first ∈ resolvedRoutes semver routes, ∀ last,
      Relation.ReflTransGen (registry.Delegates semver) first last →
        last.requiresCredentials ⊆ first.requiresCredentials) ∧
    (∀ caller ∈ resolvedRoutes semver routes, ∀ dependency requirement,
      findEntry dependency caller.dependencies = some requirement →
      ∃ callee, registry.resolveDependencyRoute semver caller.path dependency = .ok callee ∧
        RouteRegistry.Greatest semver routes dependency requirement callee) ∧
    ∀ reordered, routes.Perm reordered → RouteRegistry.build semver reordered = .ok registry := by
  refine ⟨?_, ?_, fun _ perm => RouteRegistry.build_of_perm built distinct perm⟩
  · intro first loaded last chain
    have along : last ∈ resolvedRoutes semver routes ∧
        last.requiresCredentials ⊆ first.requiresCredentials := by
      induction chain with
      | refl => exact ⟨loaded, fun _ needed => needed⟩
      | tail _ delegates ih =>
        obtain ⟨calleeLoaded, covered⟩ :=
          RouteRegistry.delegates_loaded built distinct ih.1 delegates
        exact ⟨calleeLoaded, fun _ needed => ih.2 (covered needed)⟩
    exact along.2
  · intro caller loaded dependency requirement declared
    obtain ⟨callee, resolves, candidate, -⟩ :=
      RouteRegistry.candidate_of_declared built distinct loaded declared
    exact ⟨callee, resolves, RouteRegistry.greatest_of_candidate built candidate⟩

/-! ## The sealed routes

Dispatch looks routes up in the sealed configuration, where their versions are parsed. -/

namespace RouteRegistry

/-- The order of releases: by major, minor and patch. -/
abbrev Release := ℕ ×ₗ ℕ ×ₗ ℕ

def release (version : Version) : Release :=
  toLex (version.major, toLex (version.minor, version.patch))

/-- What a route is looked up by: its path, its name and its release. -/
def sealedEntry (route : IntegrityRoute) : String × String × Release :=
  (route.path, route.name, release route.version)

def resolvedEntry {R : Type} (route : ResolvedRoute Release R) : String × String × Release :=
  (route.path, route.name, route.version)

/-- The order of a name's routes, on entries. -/
def entryPrecedes (first second : String × String × Release) : Prop :=
  second.2.2 < first.2.2 ∨ first.2.2 = second.2.2 ∧ first.1 ≤ second.1
deriving Decidable

private theorem compare_cases (left right : Nat) : compare left right = .gt ∧ right < left ∨
    compare left right = .eq ∧ left = right ∨ compare left right = .lt ∧ left < right := by
  simp only [Nat.compare_eq_gt, Nat.compare_eq_eq, Nat.compare_eq_lt]
  omega

private theorem precedes_iff_entryPrecedes {first second : IntegrityRoute} :
    first.precedes second ↔ entryPrecedes (sealedEntry first) (sealedEntry second) := by
  simp only [IntegrityRoute.precedes, entryPrecedes, sealedEntry, release,
    Prod.Lex.toLex_lt_toLex, toLex_inj, Prod.mk.injEq]
  rcases compare_cases first.version.major second.version.major with major | major | major
  · simp [major]
  · rcases compare_cases first.version.minor second.version.minor with minor | minor | minor
    · simp [major, minor]
    · rcases compare_cases first.version.patch second.version.patch with patch | patch | patch
      · simp [major, minor, patch]
      · simp [major, minor, patch]
      · simp [major, minor, patch, patch.2.ne, patch.2.not_gt]
    · simp [major, minor, minor.2.ne, minor.2.ne', minor.2.not_gt]
  · simp [major, major.2.ne, major.2.ne', major.2.not_gt]

/-- The registry that is built from the declarations of the sealed routes finds by a path and by a
name what dispatch finds. -/
theorem lookups_agree {R : Type} {semver : Semver Release R} {routes : List RouteDeclaration}
    {registry : RouteRegistry Release R} {config : IntegrityConfig}
    (declared : (resolvedRoutes semver routes).map resolvedEntry = config.routes.map sealedEntry)
    (built : build semver routes = .ok registry) :
    (∀ path, (registry.byPath.find path).map resolvedEntry =
      (config.byPath path).map sealedEntry) ∧
    ∀ name, ((registry.byName.find name).getD []).map resolvedEntry =
      (config.byName name).map sealedEntry := by
  obtain ⟨-, -, rfl, -⟩ := build_eq_ok.mp built
  constructor
  · intro path
    have found := congrArg (fun entries => entries.reverse.find? fun entry => entry.1 == path)
      declared
    simp only [← map_reverse, find?_map] at found
    change ((ofResolved (resolvedRoutes semver routes)).byPath.find path).map resolvedEntry = _
    rw [find_byPath_ofResolved]
    exact found
  · intro name
    have named := congrArg (fun entries =>
      (entries.filter fun entry => entry.2.1 = name).insertionSort entryPrecedes) declared
    simp only [filter_map] at named
    rw [getD_byName_sorted]
    exact (map_insertionSort precedes entryPrecedes resolvedEntry _ fun _ _ _ _ => Iff.rfl).trans
      (named.trans (map_insertionSort _ entryPrecedes sealedEntry _ fun _ _ _ _ =>
        precedes_iff_entryPrecedes).symm)

end RouteRegistry

/-! ## Registries of four routes -/

/-- Versions are as great as their texts are long, and a requirement is a least version. -/
def lengthSemver : Semver Nat Nat where
  parseVersion text := .ok text.length
  parseReq text := .ok text.length
  satisfies requirement version := decide (requirement ≤ version)
  versionText version := toString version
  reqText requirement := toString requirement

def declaration (path name version : String) (dependencies requiresCredentials : List String) :
    RouteDeclaration :=
  { path, name, version, dependencies := .ofList (dependencies.map fun name => (name, "1")),
    requiresCredentials, middleware := none }

/-- Two versions of `store`, a route that uses it, and one that uses that. -/
def chainedRoutes : List RouteDeclaration :=
  [declaration "/front" "front" "1" ["cart"] ["key", "token"],
   declaration "/cart" "cart" "1" ["store"] ["key"],
   declaration "/store" "store" "1" [] [],
   declaration "/store-next" "store" "11" [] ["key"]]

/-- A dependency is found in its newest version that fits. -/
theorem chained_routes_delegate :
    ∃ registry, RouteRegistry.build lengthSemver chainedRoutes = .ok registry ∧
      (registry.resolveDependencyRoute lengthSemver "/cart" "store").toOption.map (·.path) =
        some "/store-next" ∧
      ∀ reordered, chainedRoutes.Perm reordered →
        RouteRegistry.build lengthSemver reordered = .ok registry := by
  have built : RouteRegistry.build lengthSemver chainedRoutes = .ok _ := rfl
  exact ⟨_, built, by decide +kernel,
    (credentials_delegated_along_chains lengthSemver built (by decide +kernel)).2.2⟩

/-- `x` and `y` share a path. -/
def sharedPathRoutes : List RouteDeclaration :=
  [declaration "/front" "front" "1" ["x"] [], declaration "/x" "x" "1" ["w", "z"] [],
   declaration "/x" "y" "1" ["z"] ["secret"], declaration "/z" "z" "1" [] ["secret"]]

/-- The registry is built, and checks `y` in the place of `x`: a chain from `front` ends in a
route with a credential that `front` does not declare, and a dependency that `x` declares does
not resolve. -/
theorem shared_path_breaks_delegation :
    ∃ registry first second third,
      RouteRegistry.build lengthSemver sharedPathRoutes = .ok registry ∧
      first ∈ resolvedRoutes lengthSemver sharedPathRoutes ∧
      registry.Delegates lengthSemver first second ∧ registry.Delegates lengthSemver second third ∧
      ¬third.requiresCredentials ⊆ first.requiresCredentials ∧
      (findEntry "w" second.dependencies).isSome ∧
      ∀ callee, registry.resolveDependencyRoute lengthSemver second.path "w" ≠ .ok callee := by
  let front : ResolvedRoute Nat Nat := ⟨"/front", "front", 1, [("x", 1)], []⟩
  let x : ResolvedRoute Nat Nat := ⟨"/x", "x", 1, [("w", 1), ("z", 1)], []⟩
  let z : ResolvedRoute Nat Nat := ⟨"/z", "z", 1, [], ["secret"]⟩
  refine ⟨_, front, x, z, rfl, by decide +kernel, ⟨"x", by decide, rfl⟩, ⟨"z", by decide, rfl⟩,
    by decide, by decide, ?_⟩
  intro callee resolves
  cases resolves

end TachyonMesh.Dispatch
