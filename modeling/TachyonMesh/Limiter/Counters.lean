import TachyonMesh.Dispatch.Execution
import TachyonMesh.Foundation.Merging

/-! # The distributed limiter

`system-faas-dist-limiter`: a component that counts checks for a key in a window of
time. It keeps, for each key and window, the number of checks of each node, merges the
state of another node by taking maxima, and answers a check with the sum over all nodes.
The counters are `u64` and wrap.
-/

namespace TachyonMesh.Limiter
open Foundation Dispatch

/-! ## Counters -/

/-- `GCounterSet`, and with it `CounterSnapshot`: the counts of the nodes for each name. -/
structure GCounterSet where
  counters : Dictionary String (Dictionary String Nat)

abbrev CounterSnapshot := GCounterSet

def counterName (key : String) (window : Nat) : String := key ++ ":" ++ toString window

namespace GCounterSet

def empty : GCounterSet := ⟨.empty⟩

def nodeCounts (set : GCounterSet) (name : String) : Dictionary String Nat :=
  (set.counters.find name).getD .empty

/-- `node_counts.values().sum()`. -/
def wrappingTotal (counts : Dictionary String Nat) : Nat := counts.total % 2 ^ 64

/-- `GCounterSet::increment`, with the total that it returns. -/
def increment (set : GCounterSet) (key : String) (window : Nat) (nodeId : String) :
    GCounterSet × Nat :=
  let name := counterName key window
  let counts := set.nodeCounts name
  let counted := counts.insert nodeId (((counts.find nodeId).getD 0 + 1) % 2 ^ 64)
  (⟨set.counters.insert name counted⟩, wrappingTotal counted)

/-- The inner loop of `merge`. -/
def mergeNodes (localNodes remoteNodes : Dictionary String Nat) : Dictionary String Nat :=
  localNodes.absorb max 0 remoteNodes

/-- `GCounterSet::merge`. -/
def merge (set : GCounterSet) (remote : CounterSnapshot) : GCounterSet :=
  ⟨set.counters.absorb mergeNodes .empty remote.counters⟩

/-- `GCounterSet::snapshot`. -/
def snapshot (set : GCounterSet) : CounterSnapshot := set

def total (set : GCounterSet) (key : String) (window : Nat) : Nat :=
  wrappingTotal (set.nodeCounts (counterName key window))

end GCounterSet

/-! ## The handler -/

/-- The environment of the component, and the clock in seconds. -/
structure Env where
  nodeId : Option String
  limit : Option String
  windowSeconds : Option String
  now : Nat

def defaultLimit : Nat := 100

def defaultWindowSeconds : Nat := 60

def parseU64Env (value : Option String) (default : Nat) : Nat :=
  ((value.bind fun text => parseU64 (trim text)).filter (0 < ·)).getD default

def envOrDefault (value : Option String) (default : String) : String :=
  (value.filter fun text => trim text != "").getD default

def currentWindow (now windowSeconds : Nat) : Nat := now / max windowSeconds 1

def requestPath (uri : String) : String :=
  let path := trim ((split '?' uri).head?.getD uri)
  if path = "" || path = "/" then "/"
  else if startsWith path "/" then path
  else "/" ++ path

/-- A response; `allowed` and `total` are the members of its JSON body. -/
structure Response where
  status : Nat
  allowed : Option Bool := none
  total : Option Nat := none

def check (env : Env) (set : GCounterSet) (body : Body) : GCounterSet × Response :=
  let key := match body with
    | .object fields => textField fields "key"
    | .bytes _ => none
  match key with
  | none => (set, { status := 400 })
  | some key =>
      let window := currentWindow env.now (parseU64Env env.windowSeconds defaultWindowSeconds)
      let (counted, total) := set.increment key window (envOrDefault env.nodeId "local")
      (counted,
        { status := 200
          allowed := some (decide (total ≤ parseU64Env env.limit defaultLimit))
          total := some total })

/-- The snapshot that a merge brings is `remote`, if the body is one. -/
def handleRequest (env : Env) (set : GCounterSet) (method uri : String) (body : Body)
    (remote : Option CounterSnapshot) : GCounterSet × Response :=
  let path := requestPath uri
  if method = "POST" ∧ path = "/check" then check env set body
  else if method = "POST" ∧ path = "/merge" then
    match remote with
    | none => (set, { status := 400 })
    | some remote => (set.merge remote, { status := 204 })
  else if method = "GET" ∧ path = "/state" then (set, { status := 200 })
  else (set, { status := 404 })

end TachyonMesh.Limiter
