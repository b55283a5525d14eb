import TachyonMesh.Foundation.Dictionary
import TachyonMesh.Foundation.Program
import TachyonMesh.Foundation.Text

/-! # Key-value partitions of the core store

The tables that guests and the host keep in the core store, and the transactions on
them. A transaction runs alone, and either commits or leaves every table as it was:
because the database fails, or because the batch update meets a row it must not
write. When the database fails is not the program's to decide, so a store carries
the faults that its coming transactions meet.
-/

namespace TachyonMesh.Store
open Foundation

/-- The tables, by their name in the database. -/
abbrev Partitions (β : Type) := String → Dictionary String β

/-- The tables and the faults ahead: a transaction takes the first one. -/
structure CoreStore (β : Type) where
  partitions : Partitions β
  faults : Nat → Option String

/-- What `kv_partition_update` should do with a key, decided from the value it
currently holds. -/
inductive KvPartitionUpdate (β : Type) where
  | keep
  | set (value : β)
  | delete

def nodeRegistryKvPartition : String := "node-registry"

def kvPartitionTableKey (tableName : String) : String :=
  if tableName = nodeRegistryKvPartition then "kv_partition::node-registry"
  else "kv_partition::" ++ tableName

private theorem kvPartitionTableKey_eq (tableName : String) :
    kvPartitionTableKey tableName = "kv_partition::" ++ tableName := by
  unfold kvPartitionTableKey
  split
  · next node =>
    rw [node]
    rfl
  · rfl

private theorem kvPartitionTableKey_inj {first second : String} :
    kvPartitionTableKey first = kvPartitionTableKey second ↔ first = second := by
  rw [kvPartitionTableKey_eq, kvPartitionTableKey_eq, String.append_right_inj]

namespace CoreStore
variable {β : Type} (store : CoreStore β)

def table (tableName : String) : Dictionary String β :=
  store.partitions (kvPartitionTableKey tableName)

/-- The store after a transaction that changed nothing. -/
def next : CoreStore β :=
  { store with faults := fun n => store.faults (n + 1) }

def setTable (tableName : String) (rows : Dictionary String β) : CoreStore β :=
  { store with
    partitions := Function.update store.partitions (kvPartitionTableKey tableName) rows }

theorem table_setTable (tableName other : String) (rows : Dictionary String β) :
    (store.setTable tableName rows).table other =
      if other = tableName then rows else store.table other := by
  simp [table, setTable, Function.update_apply, kvPartitionTableKey_inj]

@[simp] theorem table_setTable_self (tableName : String)
    (rows : Dictionary String β) : (store.setTable tableName rows).table tableName = rows := by
  rw [table_setTable, if_pos rfl]

/-- No transaction ahead fails. -/
def Sound : Prop := ∀ n, store.faults n = none

variable {store : CoreStore β}

theorem Sound.next (sound : store.Sound) : store.next.Sound :=
  fun n => sound (n + 1)

theorem Sound.setTable (sound : store.Sound) (tableName : String)
    (rows : Dictionary String β) : (store.setTable tableName rows).Sound := sound

end CoreStore

variable {β γ : Type}

/-- One transaction on one table: the rows it commits and its answer, or a refusal
that aborts it. -/
def transact (tableName : String)
    (body : Dictionary String β → Except String (Dictionary String β × γ)) :
    Program (CoreStore β) String γ := fun store =>
  match store.faults 0 with
  | some fault => (store.next, .error fault)
  | none =>
      match body (store.table tableName) with
      | .ok (rows, answer) => (store.next.setTable tableName rows, .ok answer)
      | .error refusal => (store.next, .error refusal)

variable (tableName key : String)

def kvPartitionGet : Program (CoreStore β) String (Option β) :=
  transact tableName fun rows => .ok (rows, rows.find key)

def kvPartitionSet (value : β) : Program (CoreStore β) String Unit :=
  transact tableName fun rows => .ok (rows.insert key value, ())

def kvPartitionDelete : Program (CoreStore β) String Unit :=
  transact tableName fun rows => .ok (rows.erase key, ())

/-- The rows after an update of one key. -/
def KvPartitionUpdate.apply (update : KvPartitionUpdate β) (key : String)
    (rows : Dictionary String β) : Dictionary String β :=
  match update with
  | .keep => rows
  | .set value => rows.insert key value
  | .delete => rows.erase key

/-- Read-modify-write of one key. Beside the update, the closure says what it leaves
in the variables it captured. -/
def kvPartitionUpdate (update : Option β → KvPartitionUpdate β × γ) :
    Program (CoreStore β) String γ :=
  transact tableName fun rows =>
    .ok ((update (rows.find key)).1.apply key rows, (update (rows.find key)).2)

/-- Insert a row only if the key is absent; whether the insert happened. -/
def kvPartitionInsertIfAbsent (value : β) : Program (CoreStore β) String Bool :=
  transact tableName fun rows =>
    match rows.find key with
    | some _ => .ok (rows, false)
    | none => .ok (rows.insert key value, true)

/-- Insert the entries one after the other, each only if its current row is accepted. -/
def acceptEntries (accept : String → Option β → Except String Unit) :
    List (String × β) → Dictionary String β → Except String (Dictionary String β)
  | [], rows => .ok rows
  | (key, value) :: rest, rows =>
      match accept key (rows.find key) with
      | .error refusal => .error refusal
      | .ok () => acceptEntries accept rest (rows.insert key value)

def kvPartitionBatchUpdate (tableName : String) (entries : List (String × β))
    (accept : String → Option β → Except String Unit) : Program (CoreStore β) String Unit :=
  transact tableName fun rows =>
    match acceptEntries accept entries rows with
    | .ok rows => .ok (rows, ())
    | .error refusal => .error refusal

def kvPartitionBatchSet (tableName : String) (entries : List (String × β)) :
    Program (CoreStore β) String Unit :=
  transact tableName fun rows =>
    .ok (entries.foldl (fun rows entry => rows.insert entry.1 entry.2) rows, ())

/-- The rows from `startKey` on and before `endKey`, in the order of their keys. -/
def rowsInRange (startKey endKey : String) (rows : Dictionary String β) : List (String × β) :=
  rows.entries.filter fun row => startKey ≤ row.1 ∧ row.1 < endKey

def kvPartitionGetRange (tableName startKey endKey : String) (limit offset : Nat) :
    Program (CoreStore β) String (List (String × β)) :=
  transact tableName fun rows =>
    .ok (rows, ((rowsInRange startKey endKey rows).drop offset).take limit)

/-! ## What a transaction does -/

variable {body : Dictionary String β → Except String (Dictionary String β × γ)}
  {after : γ → CoreStore β → Prop} {failed : String → CoreStore β → Prop} {store : CoreStore β}
  {tableName : String}

theorem wp_transact (fails : ∀ error, failed error store.next)
    (commits : ∀ rows answer, body (store.table tableName) = .ok (rows, answer) →
      after answer (store.next.setTable tableName rows)) :
    (transact tableName body).wp after failed store := by
  unfold Program.wp transact
  cases store.faults 0 with
  | some fault => exact fails fault
  | none =>
    cases outcome : body (store.table tableName) with
    | error refusal => exact fails refusal
    | ok result => exact commits result.1 result.2 outcome

theorem wp_kvPartitionUpdate {key : String} {update : Option β → KvPartitionUpdate β × γ}
    (fails : ∀ error, failed error store.next)
    (commits : after (update ((store.table tableName).find key)).2
      (store.next.setTable tableName
        ((update ((store.table tableName).find key)).1.apply key (store.table tableName)))) :
    (kvPartitionUpdate tableName key update).wp after failed store := by
  apply wp_transact fails
  intro rows answer committed
  cases committed
  exact commits

/-- The store after a transaction that only read a table. -/
def CoreStore.readTable (store : CoreStore β) (tableName : String) : CoreStore β :=
  store.next.setTable tableName (store.table tableName)

/-- The store after an update of one row. -/
def CoreStore.updateRow (store : CoreStore β) (tableName key : String)
    (update : Option β → KvPartitionUpdate β) : CoreStore β :=
  store.next.setTable tableName
    ((update ((store.table tableName).find key)).apply key (store.table tableName))

theorem find_apply (update : KvPartitionUpdate β) (key other : String)
    (rows : Dictionary String β) :
    (update.apply key rows).find other =
      if other = key then
        match update with
        | .keep => rows.find key
        | .set value => some value
        | .delete => none
      else rows.find other := by
  cases update with
  | keep =>
    split
    · next same =>
      rw [same]
      rfl
    · rfl
  | set value => exact rows.find_insert key other value
  | delete => exact rows.find_erase key other

end TachyonMesh.Store
