import RwServer.Database.StateTx
import RwServer.Metrics.HourCounts

/-!
# Completing a cycle

`complete` reads the station and the job, picks one of four strategies, and runs it as one
transaction. The strategies are programs, statement by statement as the source has them; what they
do when nothing else runs is `Program.alone`.

Two statements look at the database at two moments. The first statement of `completeImmediate`
takes its snapshot, in which it finds the previous cycle and the open state entry, before the lock
it contains is granted. An `UPDATE .. WHERE` finds its rows in the snapshot of its start, and checks
the condition again on the versions that are current once their row locks are free.
-/

namespace RwServer

open Relational ReadCommitted

/-! ## The setup -/

inductive CompleteError
  | stationNotFound
  | jobNoBlob
  | siteMismatch
deriving DecidableEq, Repr

def CompleteError.message : CompleteError → String
  | .stationNotFound => "Station not found"
  | .jobNoBlob => "Job has no current blob version"
  | .siteMismatch => "Job and station must belong to the same site"

def CompleteError.code : CompleteError → String
  | .stationNotFound => "STATION_NOT_FOUND"
  | .jobNoBlob => "JOB_NO_BLOB"
  | .siteMismatch => "SITE_MISMATCH"

structure StartCycleInput where
  stationId : Uuid
  timestamp : Time
  jobId : Uuid
  keepOpen : Bool := false
  replayed : Bool := false
deriving DecidableEq, Repr

/-- What the setup query finds out. -/
structure Setup where
  currentBlobId : Uuid
  standardCycle : Option ℚ
  slowDetect : Option ℚ
deriving DecidableEq

/-- The setup query joins the station with the job, so that a missing one of them is reported as a
missing station. -/
def readSetup (db : Database) (stationId jobId : Uuid) : Except CompleteError Setup :=
  match db.stations.find? (·.id == stationId), db.jobs.find? (·.id == jobId) with
  | some station, some job =>
    match job.currentBlobId with
    | none => .error .jobNoBlob
    | some currentBlobId =>
      if station.siteId ≠ job.siteId then .error .siteMismatch
      else .ok
        { currentBlobId
          standardCycle := (db.jobBlobs.find? (·.id == currentBlobId)).bind JobBlob.standardCycle
          slowDetect := station.slowDetect }
  | _, _ => .error .stationNotFound

/-- `standardCycle * (1 + slowDetect)`, where both are positive. -/
def Setup.slowThresholdSeconds (setup : Setup) : Option ℚ :=
  match setup.standardCycle, setup.slowDetect with
  | some standardCycle, some slowFraction =>
    if standardCycle > 0 ∧ slowFraction > 0 then some (standardCycle * (1 + slowFraction)) else none
  | _, _ => none

def Setup.idealCycleIncrement (setup : Setup) : ℤ := (setup.standardCycle.map mathRound).getD 0

/-! ## Inventory -/

/-- A row of the query of `createFromCycle`. -/
structure ItemSpec where
  productId : Uuid
  currentBlobId : Uuid
  quantity : ℤ
  productBlobId : Uuid
deriving DecidableEq, Repr

/-- The active products of a job. -/
def activeJobProducts (db : Database) (jobId : Uuid) : List ItemSpec :=
  db.jobProducts.filterMap fun jp ↦
    match jp.currentBlob, jp.productBlobId with
    | some blob, some productBlobId =>
      if jp.jobId = jobId ∧ jp.deletedAt = none ∧ blob.isActive then
        some ⟨jp.productId, blob.id, blob.quantity, productBlobId⟩
      else none
    | _, _ => none

/-- The items of one cycle: each active product of the job, `quantity` times. An `INSERT` without
rows cannot be built, so products whose quantities are all zero make the call fail. -/
def createFromCycle (db : Database) (cycleId jobId : Uuid) : Option InventoryBatch :=
  let jobProducts := activeJobProducts db jobId
  let itemSpecs := jobProducts.flatMap fun jp ↦ List.replicate jp.quantity.toNat jp
  if jobProducts = [] then some ⟨cycleId, []⟩
  else if itemSpecs = [] then none
  else some ⟨cycleId, itemSpecs.map fun s ↦ ⟨cycleId, s.currentBlobId, s.productBlobId⟩⟩

/-! ## Cycles -/

/-- The row condition `{ stationId, end: null }`. -/
def isOpenCycleOf (stationId : Uuid) (c : Cycle) : Bool :=
  c.stationId == stationId && c.cycleEnd.isNone

/-- `SELECT "end" FROM "Cycle" WHERE .. ORDER BY "end" DESC LIMIT 1`. -/
def prevCycleEnd (db : Database) (stationId : Uuid) : Option Time :=
  ((db.cycles.rows.filter (·.stationId == stationId)).filterMap Cycle.cycleEnd).max?

def Cycle.close (timestamp : Time) (c : Cycle) : Cycle := { c with cycleEnd := some timestamp }

/-- The arguments of a strategy, and the ids it draws. -/
structure StrategyArgs where
  stationId : Uuid
  timestamp : Time
  jobId : Uuid
  jobBlobId : Uuid
  idealCycleIncrement : ℤ := 0
  slowThresholdSeconds : Option ℚ := none
  cycleId : Uuid
  /-- The id of the zero cycle that the first open/close completion creates. -/
  zeroCycleId : Uuid
  stateId : Uuid
  freshBlockId : Uuid
deriving DecidableEq

structure StrategyResult where
  cycle : Cycle
  items : List InventoryItem
  closedEntry : Option ClosedEntryInfo
  /-- The status of the new state entry; none on the replayed paths. -/
  newStatus : Option StationStatus
deriving DecidableEq, Repr

/-- The row a completion inserts. -/
def StrategyArgs.newCycle (args : StrategyArgs) (id : Uuid) (start : Time)
    (cycleEnd : Option Time) : Cycle where
  id := id
  stationId := args.stationId
  start := start
  cycleEnd := cycleEnd
  jobBlobId := args.jobBlobId
  deletedAt := none

/-- The cycle that an immediate completion inserts: it starts at the end of the previous one. -/
def StrategyArgs.immediateCycle (args : StrategyArgs) (prevEnd : Option Time) : Cycle :=
  args.newCycle args.cycleId (prevEnd.getD args.timestamp) (some args.timestamp)

/-- Seconds from `start` to the timestamp. -/
def StrategyArgs.secondsSince (args : StrategyArgs) (start : Time) : ℚ :=
  (args.timestamp - start : ℤ) / 1000

/-- The completed cycle took longer than the slow threshold. -/
def StrategyArgs.isSlow (args : StrategyArgs) (cycleDurationSeconds : ℚ) : Bool :=
  TransitionToUpOptions.isSlow
    { cycleDurationSeconds := some cycleDurationSeconds
      slowThresholdSeconds := args.slowThresholdSeconds }

namespace Tx

variable {α : Type}

def insertCycle (c : Cycle) (next : Tx α) : Tx α := .exec (fun _ ↦ [.insertCycle c]) next

/-- `createFromCycle` as a statement. -/
def createFromCycle (cycleId jobId : Uuid) (next : InventoryBatch → Tx α) : Tx α :=
  .run (fun db ↦ (RwServer.createFromCycle db cycleId jobId).toList.map .insertItems) fun db ↦
    match RwServer.createFromCycle db cycleId jobId with
    | some batch => next batch
    -- an insert without rows throws, and with it the transaction fails
    | none => .rollback

/-- `createFromCycle` for each of some cycles. -/
def createFromCycles (jobId : Uuid) (next : List InventoryBatch → Tx α) : List Uuid → Tx α
  | [] => next []
  | cycleId :: cycleIds => createFromCycle cycleId jobId fun batch ↦
    createFromCycles jobId (fun batches ↦ next (batch :: batches)) cycleIds

/-- `cycle.updateMany({ where: { stationId, end: null }, data: { end: timestamp } })`. -/
def closeOpenCycles (stationId : Uuid) (timestamp : Time) (next : Tx α) : Tx α :=
  -- the rows are found in the snapshot, and written once they are free and still meet the condition
  .read (fun db ↦ (db.cycles.rows.filter (isOpenCycleOf stationId)).map Cycle.id) fun found ↦
  .exec (fun db ↦ (db.cycles.changed (fun c ↦ found.contains c.id && isOpenCycleOf stationId c)
    (Cycle.close timestamp)).map .updateCycle) next

/-- The update made only where the completed cycle was slow. -/
def markIfSlow (isSlow : Bool) (stateId : Uuid) (next : Tx α) : Tx α :=
  if isSlow then markSlow stateId next else next

/-- `completeImmediate` once its lock is granted: `prevEnd` and `row` come from the snapshot that
its first statement took before. -/
def immediateLocked (args : StrategyArgs) (prevEnd : Option Time)
    (row : Option StationStateLog) : Tx StrategyResult :=
  let cycle := args.immediateCycle prevEnd
  insertCycle cycle <|
  closeOpenStateEntries args.stationId args.timestamp <|
  insertState (CreateStateEntry.row
    { stationId := args.stationId, startTime := args.timestamp, state := .up, status := .up,
      blockId := upBlockId row args.freshBlockId, jobBlobId := some args.jobBlobId }
    args.stateId) <|
  let cycleDurationSeconds := args.secondsSince cycle.start
  let isSlow := args.isSlow cycleDurationSeconds
  markIfSlow isSlow args.stateId <|
  createFromCycle cycle.id args.jobId fun batch ↦
  incrementHourCounts args.stationId args.timestamp 1 batch.items.length args.idealCycleIncrement
    (mathRound (max 0 cycleDurationSeconds)) <|
  .commit
    { cycle
      items := batch.items
      closedEntry := closedEntryInfo row args.timestamp
      newStatus := some (if isSlow then .slow else .up) }

def completeImmediate (args : StrategyArgs) : Tx StrategyResult :=
  .read (fun db ↦ (prevCycleEnd db args.stationId, findOpenStateEntry db.stateLog args.stationId))
    fun found ↦ .lock (.reopen args.timestamp) <| immediateLocked args found.1 found.2

/-- `completeImmediateReplay` once its lock is granted. -/
def immediateReplayLocked (args : StrategyArgs) (prevEnd : Option Time) : Tx StrategyResult :=
  let cycle := args.immediateCycle prevEnd
  insertCycle cycle <|
  createFromCycle cycle.id args.jobId fun batch ↦
  .commit { cycle, items := batch.items, closedEntry := none, newStatus := none }

def completeImmediateReplay (args : StrategyArgs) : Tx StrategyResult :=
  .read (fun db ↦ prevCycleEnd db args.stationId) fun prevEnd ↦
    .lock .plain <| immediateReplayLocked args prevEnd

/-- The first half of both open/close strategies: close the open cycles, or create the zero cycle
where the station has none at all. It goes on with the start of the first closed cycle and with the
new items. -/
def closeOrCreateZero (args : StrategyArgs) (next : Option Time → List InventoryItem → Tx α) :
    Tx α :=
  .read (fun db ↦ db.cycles.rows.filter (isOpenCycleOf args.stationId)) fun openCycles ↦
  match openCycles with
  | first :: _ =>
    createFromCycles args.jobId (fun batches ↦
      closeOpenCycles args.stationId args.timestamp <|
      next (some first.start) (batches.flatMap InventoryBatch.items)) (openCycles.map Cycle.id)
  | [] =>
    .read (fun db ↦ db.cycles.rows.any (·.stationId == args.stationId)) fun hasPrevious ↦
    if hasPrevious then next none []
    else
      insertCycle (args.newCycle args.zeroCycleId args.timestamp (some args.timestamp)) <|
      createFromCycle args.zeroCycleId args.jobId fun batch ↦ next none batch.items

def completeOpenClose (args : StrategyArgs) : Tx StrategyResult :=
  closeOrCreateZero args fun openStart items ↦
  transitionToUp args.stateId args.freshBlockId args.stationId args.timestamp
    { cycleDurationSeconds := openStart.map args.secondsSince
      slowThresholdSeconds := args.slowThresholdSeconds
      jobBlobId := some args.jobBlobId } fun (entry, closedEntry) ↦
  let newCycle := args.newCycle args.cycleId args.timestamp none
  insertCycle newCycle <|
  -- driven off the new open cycle, so the total cycle time per call is 0
  incrementHourCounts args.stationId args.timestamp 1 items.length args.idealCycleIncrement 0 <|
  .commit
    { cycle := newCycle
      items
      closedEntry
      newStatus := some (if entry.status = some .slow then .slow else .up) }

def completeOpenCloseReplay (args : StrategyArgs) : Tx StrategyResult :=
  closeOrCreateZero args fun _ items ↦
  let newCycle := args.newCycle args.cycleId args.timestamp none
  insertCycle newCycle <|
  .commit { cycle := newCycle, items, closedEntry := none, newStatus := none }

end Tx

/-! ## The choice of the strategy -/

/-- The ids a completion draws. -/
structure DrawnIds where
  cycleId : Uuid
  zeroCycleId : Uuid
  stateId : Uuid
  freshBlockId : Uuid
deriving DecidableEq, Repr

/-- The arguments that `complete` passes to the strategy. -/
def strategyArgs (input : StartCycleInput) (ids : DrawnIds) (setup : Setup) : StrategyArgs where
  stationId := input.stationId
  timestamp := input.timestamp
  jobId := input.jobId
  jobBlobId := setup.currentBlobId
  idealCycleIncrement := setup.idealCycleIncrement
  slowThresholdSeconds := setup.slowThresholdSeconds
  cycleId := ids.cycleId
  zeroCycleId := ids.zeroCycleId
  stateId := ids.stateId
  freshBlockId := ids.freshBlockId

def strategy (input : StartCycleInput) (args : StrategyArgs) : Tx StrategyResult :=
  if input.replayed then
    if input.keepOpen then Tx.completeOpenCloseReplay args else Tx.completeImmediateReplay args
  else
    if input.keepOpen then Tx.completeOpenClose args else Tx.completeImmediate args

/-- `complete`, when nothing else runs: an error of the setup, a transaction that is rolled back,
or the database it commits with its result. -/
def complete (db : Database) (input : StartCycleInput) (ids : DrawnIds) :
    Except CompleteError (Option (Database × StrategyResult)) :=
  (readSetup db input.stationId input.jobId).map fun setup ↦
    (strategy input (strategyArgs input ids setup)).alone store db

end RwServer
