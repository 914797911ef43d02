import RwServer.Foundation.ReadCommitted
import RwServer.Metrics.StateTally

/-!
# The tables a cycle completion works on

Besides the state log: the cycles, their inventory items, the metric buckets, and the
configuration that is only read. A transaction is a `Program` over this database. Inventory items
are kept in the batches in which one `createFromCycle` call inserts them.

Left out are the columns no function here reads (sites, tool and material snapshots, order
allocations, audit columns), and with them the statements that only write those.
-/

namespace RwServer

open Relational ReadCommitted

/-- A row of `Cycle`; `cycleEnd` is the column `end`. -/
structure Cycle where
  id : Uuid
  stationId : Uuid
  start : Time
  cycleEnd : Option Time
  jobBlobId : Uuid
  deletedAt : Option Time
deriving DecidableEq, Repr

/-- A row of `InventoryItem`. -/
structure InventoryItem where
  cycleId : Uuid
  jobProductBlobId : Uuid
  productBlobId : Uuid
deriving DecidableEq, Repr

/-- The rows that one call of `createFromCycle` inserts. -/
structure InventoryBatch where
  cycleId : Uuid
  items : List InventoryItem
deriving DecidableEq, Repr

inductive BucketEntityType
  | station
  | workcenter
  | site
  | job
deriving DecidableEq, Repr

inductive BucketGranularity
  | minute
  | hour
  | shift
  | day
deriving DecidableEq, Repr

/-- A row of `MetricBucket`, as far as cycles are counted in it. -/
structure MetricBucket where
  entityType : BucketEntityType
  entityId : Uuid
  granularity : BucketGranularity
  startTime : Time
  durationSeconds : ℤ
  totalCycles : ℤ
  totalItems : ℤ
  idealCycleSeconds : ℤ
  totalCycleSeconds : ℤ
deriving DecidableEq, Repr

/-- A row of `JobBlob`. -/
structure JobBlob where
  id : Uuid
  jobId : Uuid
  /-- Seconds per cycle, `Decimal(10, 2)`. -/
  standardCycle : Option ℚ
deriving DecidableEq

/-- A row of `JobProductBlob`. -/
structure JobProductBlob where
  id : Uuid
  quantity : ℤ
  isActive : Bool
deriving DecidableEq, Repr

/-- A row of `JobProduct`, joined with its current blob and with the `currentBlobId` of its
product. -/
structure JobProduct where
  jobId : Uuid
  productId : Uuid
  currentBlob : Option JobProductBlob
  productBlobId : Option Uuid
  deletedAt : Option Time
deriving DecidableEq, Repr

/-- A row of `Station`, joined with the `slowDetect` of its current blob. -/
structure Station where
  id : Uuid
  siteId : Uuid
  slowDetect : Option ℚ
deriving DecidableEq

/-- A row of `Job`. -/
structure Job where
  id : Uuid
  siteId : Uuid
  currentBlobId : Option Uuid
deriving DecidableEq

def cycleSchema : Schema Cycle Uuid where
  key := Cycle.id
  clash _ _ := false
  clash_symm _ _ := rfl

/-- The unique index on `[entityType, entityId, granularity, startTime]` is taken as the key. -/
def bucketSchema : Schema MetricBucket (BucketEntityType × Uuid × BucketGranularity × Time) where
  key b := (b.entityType, b.entityId, b.granularity, b.startTime)
  clash _ _ := false
  clash_symm _ _ := rfl

structure Database where
  stateLog : StateLog
  cycles : Table cycleSchema
  inventory : List InventoryBatch
  buckets : Table bucketSchema
  jobLog : List StationJobLog
  stations : List Station
  jobs : List Job
  jobBlobs : List JobBlob
  jobProducts : List JobProduct

/-- A database without a row. -/
instance : Inhabited Database := ⟨⟨default, default, [], default, [], [], [], [], []⟩⟩

/-- One row version that a statement writes. -/
inductive Write
  | insertState (e : StationStateLog)
  | updateState (e : StationStateLog)
  | insertCycle (c : Cycle)
  | updateCycle (c : Cycle)
  | insertItems (b : InventoryBatch)
  | updateBucket (b : MetricBucket)
deriving DecidableEq, Repr

namespace Database

def setStateLog (db : Database) (log : StateLog) : Database := { db with stateLog := log }

def setCycles (db : Database) (cycles : Table cycleSchema) : Database := { db with cycles }

def setBuckets (db : Database) (buckets : Table bucketSchema) : Database := { db with buckets }

def addItems (db : Database) (b : InventoryBatch) : Database :=
  { db with inventory := db.inventory ++ [b] }

/-- Carry out one write. -/
def write (db : Database) : Write → Option Database
  | .insertState e => (db.stateLog.insert e).map db.setStateLog
  | .updateState e => (db.stateLog.put e).map db.setStateLog
  | .insertCycle c => (db.cycles.insert c).map db.setCycles
  | .updateCycle c => (db.cycles.put c).map db.setCycles
  | .insertItems b => some (db.addItems b)
  | .updateBucket b => (db.buckets.put b).map db.setBuckets

end Database

/-- The row a write is about, where it stands in a table with keys. -/
def Write.row : Write → Option (StationStateLog ⊕ Cycle ⊕ MetricBucket)
  | .insertState e | .updateState e => some (.inl e)
  | .insertCycle c | .updateCycle c => some (.inr (.inl c))
  | .insertItems _ => none
  | .updateBucket b => some (.inr (.inr b))

/-- Two writes of which the second waits for the first one's transaction: versions of one row, or
two rows that a unique index forbids together. -/
def Write.conflict (w w' : Write) : Bool :=
  match w.row, w'.row with
  | some (.inl e), some (.inl e') => e.id == e'.id || stateLogSchema.clash e e'
  | some (.inr (.inl c)), some (.inr (.inl c')) => c.id == c'.id
  | some (.inr (.inr b)), some (.inr (.inr b')) => bucketSchema.key b == bucketSchema.key b'
  | _, _ => false

/-- The database as a store of transactions. -/
def store : Store Database Write := ⟨Database.write, Write.conflict⟩

/-- What a transaction knows when it asks for the advisory lock of its station. -/
inductive LockInfo
  /-- Nothing that the state log depends on. -/
  | plain
  /-- It is going to close the open entry at `timestamp` and open a new one. -/
  | reopen (timestamp : Time)
  /-- It is going to replace the window. -/
  | reconcile (minTs maxTs : Time)
  /-- It has read `entry` and is going to split it. -/
  | split (entry : StationStateLog) (splitAt now : Time)
deriving DecidableEq, Repr

/-- A transaction of the services. -/
abbrev Tx (α : Type) := Program Database Write LockInfo α

/-! ## The statements as writes -/

namespace Database

@[simp] theorem setStateLog_stateLog (db : Database) (log : StateLog) :
    (db.setStateLog log).stateLog = log := rfl

end Database

theorem writeAll_updateState (db : Database) (rows : List StationStateLog) :
    store.writeAll db (rows.map .updateState) = (db.stateLog.putAll rows).map db.setStateLog :=
  Store.writeAll_map Database.stateLog Database.setStateLog (fun _ _ ↦ rfl)
    (fun _ _ ↦ rfl) (fun _ _ _ ↦ rfl) (fun _ ↦ rfl) db rows

theorem writeAll_updateCycle (db : Database) (rows : List Cycle) :
    store.writeAll db (rows.map .updateCycle) = (db.cycles.putAll rows).map db.setCycles :=
  Store.writeAll_map Database.cycles Database.setCycles (fun _ _ ↦ rfl)
    (fun _ _ ↦ rfl) (fun _ _ _ ↦ rfl) (fun _ ↦ rfl) db rows

theorem writeAll_updateBucket (db : Database) (rows : List MetricBucket) :
    store.writeAll db (rows.map .updateBucket) = (db.buckets.putAll rows).map db.setBuckets :=
  Store.writeAll_map Database.buckets Database.setBuckets (fun _ _ ↦ rfl)
    (fun _ _ ↦ rfl) (fun _ _ _ ↦ rfl) (fun _ ↦ rfl) db rows

theorem writeAll_singleton (db : Database) (w : Write) :
    store.writeAll db [w] = db.write w := by
  rw [Store.writeAll_cons]
  cases h : store.write db w <;> exact h.symm

end RwServer
