import TachyonMesh.Foundation.Index
import TachyonMesh.Foundation.Text

/-! # Workspace graphs

The edges of a workspace graph are rows of two tables, one in the order subject, predicate, object
and one in the order object, subject, predicate. A row's key is the UTF-8 bytes of the three texts
with a byte zero between them. A text that holds that byte makes different triples share a key in
one table and not in the other.
-/

namespace TachyonMesh.Store
open Foundation Function

/-! ## Tables -/

/-- An edge as it is queried. -/
structure Triple where
  subject : String
  predicate : String
  object : String
deriving DecidableEq

/-- An edge as it is stored. -/
structure GraphEdge where
  subject : String
  predicate : String
  object : String
  properties : String

def GraphEdge.triple (edge : GraphEdge) : Triple :=
  { subject := edge.subject, predicate := edge.predicate, object := edge.object }

def graphSep : Nat := 0

namespace Triple

/-- `graph_spo_key`. -/
def spoKey (triple : Triple) : List Nat :=
  utf8Bytes triple.subject ++ graphSep ::
    (utf8Bytes triple.predicate ++ graphSep :: utf8Bytes triple.object)

/-- `graph_osp_key`. -/
def ospKey (triple : Triple) : List Nat :=
  utf8Bytes triple.object ++ graphSep ::
    (utf8Bytes triple.subject ++ graphSep :: utf8Bytes triple.predicate)

end Triple

open Triple

def graphSpoTable (name : String) : String := "graph_" ++ name ++ "_spo"

def graphOspTable (name : String) : String := "graph_" ++ name ++ "_osp"

/-- The tables of the database, by their names. -/
abbrev GraphTables := String → Dictionary (List Nat) String

/-- What a batch does with an edge's row: it stores the properties, or removes the row. -/
inductive BatchKind where
  | add
  | delete

/-- A batch of edges. -/
structure Batch where
  kind : BatchKind
  graphName : String
  edges : List GraphEdge

namespace BatchKind

def row (kind : BatchKind) (key : List Nat) (properties : String)
    (rows : Dictionary (List Nat) String) : Dictionary (List Nat) String :=
  match kind with
  | .add => rows.insert key properties
  | .delete => rows.erase key

/-- The body of the loops of `graph_add_edges` and `graph_delete_edges`. -/
def edge (kind : BatchKind) (name : String) (tables : GraphTables) (edge : GraphEdge) :
    GraphTables :=
  let spo := update tables (graphSpoTable name)
    (kind.row edge.triple.spoKey edge.properties (tables (graphSpoTable name)))
  update spo (graphOspTable name)
    (kind.row edge.triple.ospKey edge.properties (spo (graphOspTable name)))

end BatchKind

/-- `graph_add_edges` and `graph_delete_edges`: the batch is one transaction. -/
def Batch.apply (tables : GraphTables) (batch : Batch) : GraphTables :=
  batch.edges.foldl (batch.kind.edge batch.graphName) tables

def applyBatches (tables : GraphTables) (batches : List Batch) : GraphTables :=
  batches.foldl Batch.apply tables

/-! ## Graphs as maps -/

/-- The properties of the triples that are in a graph. -/
abbrev Graph := Triple → Option String

namespace BatchKind

def point (kind : BatchKind) (properties : String) : Option String :=
  match kind with
  | .add => some properties
  | .delete => none

def update (kind : BatchKind) (graph : Graph) (edge : GraphEdge) : Graph :=
  Function.update graph edge.triple (kind.point edge.properties)

end BatchKind

namespace Batch

def update (graphs : String → Graph) (batch : Batch) : String → Graph :=
  Function.update graphs batch.graphName
    (batch.edges.foldl batch.kind.update (graphs batch.graphName))

end Batch

def updateGraphs (graphs : String → Graph) (batches : List Batch) : String → Graph :=
  batches.foldl Batch.update graphs

/-- The two tables of a graph are indexes of one map, and no two of its triples share a key. -/
structure Describes (tables : GraphTables) (name : String) (graph : Graph) : Prop where
  spo : Indexes spoKey (tables (graphSpoTable name)) graph
  osp : Indexes ospKey (tables (graphOspTable name)) graph
  distinct : ∀ first second, first ≠ second → (graph first).isSome → (graph second).isSome →
    first.spoKey ≠ second.spoKey ∧ first.ospKey ≠ second.ospKey

/-- No text holds the character zero. -/
def Triple.Plain (triple : Triple) : Prop :=
  Char.ofNat 0 ∉ triple.subject.toList ∧ Char.ofNat 0 ∉ triple.predicate.toList ∧
    Char.ofNat 0 ∉ triple.object.toList

def Batch.Plain (batch : Batch) : Prop := ∀ edge ∈ batch.edges, edge.triple.Plain

/-! ## Keys -/

namespace Triple
variable {triple other : Triple}

private theorem eq_of_spoKey (plain : triple.Plain) (same : other.spoKey = triple.spoKey) :
    other = triple := by
  obtain ⟨subject, predicate, object⟩ := plain
  obtain ⟨subjects, predicates, objects⟩ := append_cons_cons_inj (zero_not_mem_utf8Bytes subject)
    (zero_not_mem_utf8Bytes predicate) (zero_not_mem_utf8Bytes object) same
  cases other
  cases triple
  cases utf8Bytes_injective subjects
  cases utf8Bytes_injective predicates
  cases utf8Bytes_injective objects
  rfl

/-- The other order is the first one of the rotated triple. -/
def rotated (triple : Triple) : Triple :=
  { subject := triple.object, predicate := triple.subject, object := triple.predicate }

private theorem eq_of_ospKey (plain : triple.Plain) (same : other.ospKey = triple.ospKey) :
    other = triple := by
  obtain ⟨subject, predicate, object⟩ := plain
  have rotated : other.rotated = triple.rotated := eq_of_spoKey ⟨object, subject, predicate⟩ same
  cases other
  cases triple
  cases rotated
  rfl

end Triple

/-! ## Table names -/

variable {first second : String}

private theorem graphSpoTable_inj :
    graphSpoTable first = graphSpoTable second ↔ first = second := by
  simp [graphSpoTable]

private theorem graphOspTable_inj :
    graphOspTable first = graphOspTable second ↔ first = second := by
  simp [graphOspTable]

private theorem graphSpoTable_ne_graphOspTable (first second : String) :
    graphSpoTable first ≠ graphOspTable second := by
  intro same
  have last := congrArg (fun text : String => text.toList.reverse.head?) same
  simp [graphSpoTable, graphOspTable] at last

/-! ## Batches -/

section
variable {tables : GraphTables} {name other : String} {graph : Graph} {kind : BatchKind}
  {edge : GraphEdge}

private theorem edge_spo : kind.edge name tables edge (graphSpoTable name) =
    kind.row edge.triple.spoKey edge.properties (tables (graphSpoTable name)) := by
  unfold BatchKind.edge
  rw [update_of_ne (graphSpoTable_ne_graphOspTable _ _), update_self]

private theorem edge_osp : kind.edge name tables edge (graphOspTable name) =
    kind.row edge.triple.ospKey edge.properties (tables (graphOspTable name)) := by
  unfold BatchKind.edge
  rw [update_self, update_of_ne (graphSpoTable_ne_graphOspTable _ _).symm]

private theorem edge_spo_of_ne (apart : other ≠ name) :
    kind.edge name tables edge (graphSpoTable other) = tables (graphSpoTable other) := by
  unfold BatchKind.edge
  rw [update_of_ne (graphSpoTable_ne_graphOspTable _ _),
    update_of_ne (graphSpoTable_inj.not.mpr apart)]

private theorem edge_osp_of_ne (apart : other ≠ name) :
    kind.edge name tables edge (graphOspTable other) = tables (graphOspTable other) := by
  unfold BatchKind.edge
  rw [update_of_ne (graphOspTable_inj.not.mpr apart),
    update_of_ne (graphSpoTable_ne_graphOspTable _ _).symm]

/-- A row's change is the change of the map at the triple. -/
theorem row_indexes {encode : Triple → List Nat} {rows : Dictionary (List Nat) String}
    (indexes : Indexes encode rows graph)
    (alone : ∀ other, encode other = encode edge.triple → other = edge.triple) :
    Indexes encode (kind.row (encode edge.triple) edge.properties rows)
      (kind.update graph edge) := by
  cases kind with
  | add => exact indexes.insert alone edge.properties
  | delete => exact indexes.erase alone

/-- The tables are indexes of the graph, and its triples are plain. -/
structure Kept (tables : GraphTables) (name : String) (graph : Graph) : Prop where
  spo : Indexes spoKey (tables (graphSpoTable name)) graph
  osp : Indexes ospKey (tables (graphOspTable name)) graph
  plain : ∀ triple, (graph triple).isSome → triple.Plain

private theorem Kept.describes (kept : Kept tables name graph) : Describes tables name graph where
  __ := kept
  distinct first second different _ present := by
    have plain := kept.plain second present
    exact ⟨fun same => different (eq_of_spoKey plain same),
      fun same => different (eq_of_ospKey plain same)⟩

private theorem Kept.update (kept : Kept tables name graph) (plain : edge.triple.Plain) :
    Kept (kind.edge name tables edge) name (kind.update graph edge) where
  spo := by
    rw [edge_spo]
    exact row_indexes kept.spo fun _ => eq_of_spoKey plain
  osp := by
    rw [edge_osp]
    exact row_indexes kept.osp fun _ => eq_of_ospKey plain
  plain triple present := by
    by_cases same : triple = edge.triple
    · exact same ▸ plain
    · rw [BatchKind.update, Function.update_of_ne same] at present
      exact kept.plain triple present

private theorem Kept.update_of_ne (kept : Kept tables other graph) (apart : other ≠ name) :
    Kept (kind.edge name tables edge) other graph where
  spo := by
    rw [edge_spo_of_ne apart]
    exact kept.spo
  osp := by
    rw [edge_osp_of_ne apart]
    exact kept.osp
  plain := kept.plain

variable {edges : List GraphEdge}

private theorem Kept.updates (kept : Kept tables name graph)
    (plain : ∀ edge ∈ edges, edge.triple.Plain) :
    Kept (edges.foldl (kind.edge name) tables) name (edges.foldl kind.update graph) := by
  induction edges generalizing tables graph with
  | nil => exact kept
  | cons _ _ ih =>
    rw [List.forall_mem_cons] at plain
    exact ih (kept.update plain.1) plain.2

private theorem Kept.updates_of_ne (kept : Kept tables other graph) (apart : other ≠ name) :
    Kept (edges.foldl (kind.edge name) tables) other graph := by
  induction edges generalizing tables with
  | nil => exact kept
  | cons _ _ ih => exact ih (kept.update_of_ne apart)

variable {graphs : String → Graph}

private theorem Kept.batch {batch : Batch} (kept : ∀ name, Kept tables name (graphs name))
    (plain : batch.Plain) (name : String) :
    Kept (batch.apply tables) name (batch.update graphs name) := by
  by_cases here : name = batch.graphName
  · subst here
    rw [Batch.update, update_self]
    exact (kept _).updates plain
  · rw [Batch.update, Function.update_of_ne here]
    exact (kept name).updates_of_ne here

private theorem Kept.batches {batches : List Batch} (kept : ∀ name, Kept tables name (graphs name))
    (plain : ∀ batch ∈ batches, batch.Plain) (name : String) :
    Kept (applyBatches tables batches) name (updateGraphs graphs batches name) := by
  induction batches generalizing tables graphs with
  | nil => exact kept name
  | cons _ _ ih =>
    rw [List.forall_mem_cons] at plain
    exact ih (fun name => .batch kept plain.1 name) plain.2

end

def noTables : GraphTables := fun _ => .empty

def noGraphs : String → Graph := fun _ _ => none

/-- After any batches without the character zero the tables of every graph describe the map that
the batches give. -/
theorem graph_tables_refine {batches : List Batch} (plain : ∀ batch ∈ batches, batch.Plain)
    (name : String) :
    Describes (applyBatches noTables batches) name (updateGraphs noGraphs batches name) := by
  have kept (name : String) : Kept noTables name (noGraphs name) :=
    { spo := .empty, osp := .empty, plain := nofun }
  exact (Kept.batches kept plain name).describes

/-- Two edges of one subject, of which one is deleted. -/
def plainBatches : List Batch :=
  [⟨.add, "notes", [⟨"a", "links", "b", "x"⟩, ⟨"a", "links", "c", "y"⟩]⟩,
    ⟨.delete, "notes", [⟨"a", "links", "b", ""⟩]⟩]

/-- Texts without the separator are told apart. -/
theorem graph_tables_refine_notes :
    updateGraphs noGraphs plainBatches "notes" ⟨"a", "links", "b"⟩ = none ∧
      updateGraphs noGraphs plainBatches "notes" ⟨"a", "links", "c"⟩ = some "y" ∧
      Describes (applyBatches noTables plainBatches) "notes"
        (updateGraphs noGraphs plainBatches "notes") := by
  refine ⟨by decide +kernel, by decide +kernel, graph_tables_refine ?_ "notes"⟩
  unfold Batch.Plain Plain
  decide +kernel

/-! ## Texts with the character zero -/

/-- Two triples share their key in the first table and not in the second. -/
def sharedBatches : List Batch :=
  [⟨.add, "notes", [⟨"a", "b", "c\x00d", "x"⟩, ⟨"a", "b\x00c", "d", "y"⟩]⟩]

/-- A triple is deleted that was never added. -/
def strayBatches : List Batch :=
  [⟨.add, "notes", [⟨"a", "b", "c\x00d", "x"⟩]⟩, ⟨.delete, "notes", [⟨"a", "b\x00c", "d", ""⟩]⟩]

/-- Two edges that share a key in one table do not in the other. -/
theorem graph_tables_diverge :
    (spoKey ⟨"a", "b", "c\x00d"⟩ = spoKey ⟨"a", "b\x00c", "d"⟩ ∧
      (applyBatches noTables sharedBatches (graphSpoTable "notes")).entries.length = 1 ∧
      (applyBatches noTables sharedBatches (graphOspTable "notes")).entries.length = 2 ∧
      ¬Describes (applyBatches noTables sharedBatches) "notes"
        (updateGraphs noGraphs sharedBatches "notes")) ∧
    (applyBatches noTables strayBatches (graphSpoTable "notes")).entries.length = 0 ∧
      (applyBatches noTables strayBatches (graphOspTable "notes")).entries.length = 1 ∧
      ¬Describes (applyBatches noTables strayBatches) "notes"
        (updateGraphs noGraphs strayBatches "notes") := by
  refine ⟨⟨by decide +kernel, by decide +kernel, by decide +kernel, ?_⟩, by decide +kernel,
    by decide +kernel, ?_⟩
  · intro describes
    exact absurd (describes.spo.find ⟨"a", "b", "c\x00d"⟩) (by decide +kernel)
  · intro describes
    exact absurd (describes.spo.find ⟨"a", "b", "c\x00d"⟩) (by decide +kernel)

end TachyonMesh.Store
