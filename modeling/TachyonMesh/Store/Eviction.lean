import TachyonMesh.Foundation.Ranges
import TachyonMesh.Store.KvCache
import TachyonMesh.Store.Partitions

/-! # Eviction of a component's entries

The entries of a component are found by a scan of the keys from the component with a slash up to
the component with a `0`, the character after the slash.
-/

namespace TachyonMesh.KvCache
open Foundation List Dictionary
open Store (rowsInRange)

/-- An entry of the table, and the component it was put for. -/
structure StoredEntry where
  componentRef : String
  entry : KvCacheEntry

abbrev CacheTable := Dictionary String StoredEntry

/-- A put with its value and time. -/
structure PutCall extends CachePut where
  value : List UInt8
  ttlSeconds : Option Nat
  nowSecs : Nat

def kvCachePut (table : CacheTable) (call : PutCall) : Except String CacheTable := do
  let key ← kvCacheKey call.componentRef call.tenant call.cacheKey
  pure (table.insert key ⟨call.componentRef, .new call.value call.ttlSeconds call.nowSecs⟩)

/-- The table after some calls, of which those that are refused change nothing. -/
def putAll (calls : List PutCall) : CacheTable :=
  calls.foldl (fun table call => (kvCachePut table call).toOption.getD table) .empty

def kvCacheEvictComponent (table : CacheTable) (componentRef : String) :
    Except String (CacheTable × Nat) :=
  (sanitizeKvKeyPart componentRef "component_ref").map fun component =>
    let rows := rowsInRange (component ++ "/") (component ++ "0") table
    let keys := (rows.filter fun row => startsWith row.1 (component ++ "/")).map Prod.fst
    (keys.foldl erase table, keys.length)

/-- What the cache reports of itself. -/
structure KvCacheStats where
  entryCount : Nat
  totalBytes : Nat
  expiredCount : Nat

/-- The loop of `kv_cache_stats`; `readings` are those of the clock at the rows. -/
def countRows (start : String) (readings : String → Nat) (stats : KvCacheStats) :
    List (String × StoredEntry) → KvCacheStats
  | [] => stats
  | (key, row) :: rest =>
      if startsWith key start then
        countRows start readings
          (if row.entry.isExpired (readings key) then
            { stats with expiredCount := stats.expiredCount + 1 }
          else { stats with
            entryCount := stats.entryCount + 1
            totalBytes := stats.totalBytes + row.entry.value.length }) rest
      else stats

def kvCacheStats (readings : String → Nat) (table : CacheTable) (componentRef : String) :
    Except String KvCacheStats :=
  (sanitizeKvKeyPart componentRef "component_ref").map fun component =>
    countRows (component ++ "/") readings ⟨0, 0, 0⟩
      (rowsInRange (component ++ "/") (component ++ "0") table)

/-- The rows that were put for the component. -/
def entriesOf (table : CacheTable) (componentRef : String) : List (String × StoredEntry) :=
  table.entries.filter fun row => trim row.2.componentRef = trim componentRef

/-! ## The rows of a component -/

variable {table : CacheTable} {componentRef component : String}

/-- Every row stands under a key of its component. -/
def Keyed (table : CacheTable) : Prop :=
  ∀ row ∈ table.entries, ∃ tenant cacheKey,
    kvCacheKey row.2.componentRef tenant cacheKey = .ok row.1

private theorem keyed_putAll (calls : List PutCall) : Keyed (putAll calls) := by
  refine foldlRecOn calls _ (by simp [Keyed, empty]) fun table keyed call _ => ?_
  cases put : kvCachePut table call with
  | error => exact keyed
  | ok =>
    obtain ⟨_, accepted, stored⟩ := bind_eq_ok.mp put
    cases stored
    intro row listed
    rcases mem_insertEntry listed with rfl | earlier
    · exact ⟨_, _, accepted⟩
    · exact keyed row earlier

section
variable (accepted : sanitizeKvKeyPart componentRef "component_ref" = .ok component)
  (keyed : Keyed table)
include accepted keyed

private theorem startsWith_iff {row : String × StoredEntry} (listed : row ∈ table.entries) :
    startsWith row.1 (component ++ "/") ↔ trim row.2.componentRef = trim componentRef := by
  obtain ⟨rfl, plain⟩ := sanitizeKvKeyPart_eq_ok accepted
  obtain ⟨_, _, key⟩ := keyed row listed
  obtain ⟨plain', -, spelled⟩ := kvCacheKey_eq_ok key
  rw [startsWith, List.isPrefixOf_iff_prefix, String.toList_append, spelled]
  constructor
  · rintro ⟨_, same⟩
    rw [append_assoc] at same
    exact String.toList_inj.mp (append_cons_inj_of_first plain plain' same).1.symm
  · intro same
    rw [same]
    simp

private theorem rowsInRange_eq :
    rowsInRange (component ++ "/") (component ++ "0") table = entriesOf table componentRef := by
  have next : '/' ⋖ '0' :=
    ⟨by decide, fun c (later : 47 < c.toNat) (earlier : c.toNat < 48) => by omega⟩
  refine filter_congr fun row listed => ?_
  rw [decide_eq_decide, ← startsWith_iff accepted keyed listed, startsWith,
    List.isPrefixOf_iff_prefix, String.le_iff_toList_le, String.lt_iff_toList_lt]
  simpa using between_iff_isPrefix next component.toList row.1.toList

end

private theorem countRows_eq {start : String} (readings : String → Nat) (stats : KvCacheStats)
    {rows : List (String × StoredEntry)} (own : ∀ row ∈ rows, startsWith row.1 start) :
    let counted := countRows start readings stats rows
    counted.entryCount + counted.expiredCount =
      stats.entryCount + stats.expiredCount + rows.length := by
  induction rows generalizing stats with
  | nil => rfl
  | cons _ _ ih =>
    rw [forall_mem_cons] at own
    simp only [countRows, own.1, if_true, ih _ own.2, length_cons]
    split <;> dsimp only <;> omega

private theorem entries_foldl_erase (keys : List String) (table : CacheTable) :
    (keys.foldl erase table).entries = table.entries.filter (·.1 ∉ keys) := by
  induction keys generalizing table with
  | nil => simp
  | cons key _ ih =>
    rw [foldl_cons, ih, erase, filter_filter]
    refine filter_congr fun row _ => ?_
    simp [Bool.and_comm, bne, Bool.beq_eq_decide_eq]

/-- An eviction removes the rows of the component and no others, its answer and the statistics
count those rows, and no two triples share a key. A component that is refused has no rows. -/
theorem eviction_exact (calls : List PutCall) (componentRef : String) (readings : String → Nat) :
    (match sanitizeKvKeyPart componentRef "component_ref" with
      | .ok _ =>
          (∃ rest, kvCacheEvictComponent (putAll calls) componentRef =
              .ok (rest, (entriesOf (putAll calls) componentRef).length) ∧
            rest.entries = (putAll calls).entries.filter fun row =>
              trim row.2.componentRef ≠ trim componentRef) ∧
          ∃ stats, kvCacheStats readings (putAll calls) componentRef = .ok stats ∧
            stats.entryCount + stats.expiredCount = (entriesOf (putAll calls) componentRef).length
      | .error error =>
          kvCacheEvictComponent (putAll calls) componentRef = .error error ∧
            kvCacheStats readings (putAll calls) componentRef = .error error ∧
            entriesOf (putAll calls) componentRef = []) ∧
    ∀ (first second : CachePut) (key : String),
      kvCacheKey first.componentRef first.tenant first.cacheKey = .ok key →
      kvCacheKey second.componentRef second.tenant second.cacheKey = .ok key →
      trim first.componentRef = trim second.componentRef ∧
        trim first.tenant = trim second.tenant ∧ first.cacheKey = second.cacheKey := by
  refine ⟨?_, fun _ _ _ => kvCacheKey_inj⟩
  have keyed := keyed_putAll calls
  generalize putAll calls = table at keyed ⊢
  cases accepted : sanitizeKvKeyPart componentRef "component_ref" with
  | error =>
    refine ⟨congrArg (Except.map _) accepted, congrArg (Except.map _) accepted, ?_⟩
    refine filter_eq_nil_iff.mpr fun row listed same => ?_
    obtain ⟨_, _, key⟩ := keyed row listed
    obtain ⟨_, passed, -⟩ := bind_eq_ok.mp key
    unfold sanitizeKvKeyPart at accepted passed
    rw [of_decide_eq_true same] at passed
    split at accepted
    · next bad =>
      rw [if_pos bad] at passed
      cases passed
    · cases accepted
  | ok component =>
    have range := rowsInRange_eq accepted keyed
    have starts : ∀ row ∈ entriesOf table componentRef, startsWith row.1 (component ++ "/") := by
      intro row own
      obtain ⟨listed, same⟩ := mem_filter.mp own
      exact (startsWith_iff accepted keyed listed).mpr (of_decide_eq_true same)
    constructor
    · refine ⟨((entriesOf table componentRef).map Prod.fst).foldl .erase table, ?_, ?_⟩
      · simp [kvCacheEvictComponent, accepted, Except.map, range, filter_eq_self.mpr starts]
      rw [entries_foldl_erase]
      refine filter_congr fun row listed => ?_
      rw [decide_eq_decide, not_iff_not, mem_map]
      constructor
      · rintro ⟨_, own, same⟩
        obtain ⟨present, trimmed⟩ := mem_filter.mp own
        have found := find_eq_some.mpr listed
        rw [← same, find_eq_some.mpr present] at found
        rw [← Option.some.inj found]
        exact of_decide_eq_true trimmed
      · intro same
        exact ⟨row, mem_filter.mpr ⟨listed, decide_eq_true same⟩, rfl⟩
    · refine ⟨_, congrArg (Except.map _) accepted, ?_⟩
      dsimp only
      rw [range, countRows_eq readings _ starts]
      simp

end TachyonMesh.KvCache
