import Mathlib
import RwServer.Metrics.LiveCounts

/-!
# Recalculations among completions and corrections

`recalcAll` queries the stored cycles, their items and the disposition logs of an hour, and
overwrites the counts of the row of the hour with what it has found. Each of these is a statement of
its own, and no lock is taken, so that cycles can be completed and scrap be recorded in between.

A state holds the tables and how far each call has come. A transaction of `completeImmediate` is one
step, at its commit: its increment is its last statement and keeps the row locked until then. What
its first statement has found may be out of date by then, and is left open. The hour has a live row
throughout; what the calls do to other rows is left out.
-/

namespace RwServer

open Relational ReadCommitted Transition

/-! ## Disposition logs -/

/-- A row of `ItemDispositionLog`, as far as scrap is counted. -/
structure ItemDispositionLog where
  id : Uuid
  stationId : Uuid
  quantity : ℤ
  createdAt : Time
  deletedAt : Option Time
deriving DecidableEq, Repr

def dispositionSchema : Schema ItemDispositionLog Uuid where
  key := ItemDispositionLog.id
  clash _ _ := false
  clash_symm _ _ := rfl

/-- The log is about an instant of the hour. -/
def HourWindow.IsOf (w : HourWindow) (log : ItemDispositionLog) : Prop :=
  log.stationId = w.stationId ∧ w.startTime ≤ log.createdAt ∧ log.createdAt < w.endTime

instance decidableIsOf (w : HourWindow) (log : ItemDispositionLog) : Decidable (w.IsOf log) :=
  inferInstanceAs (Decidable (_ ∧ _))

/-- What a log adds to the scrap of an hour. -/
def HourWindow.scrapOf (w : HourWindow) (log : ItemDispositionLog) : ℤ :=
  if w.IsOf log ∧ log.deletedAt = none then log.quantity else 0

/-- The query for a station bucket. -/
def queryDispositionBadItems (w : HourWindow) (dispositions : Table dispositionSchema) : ℤ :=
  (dispositions.rows.map w.scrapOf).sum

/-- A call of the disposition log service, which calls `updateDispositionBadItems`. -/
inductive DispositionCall
  | create (id : Uuid) (quantity : ℤ) (createdAt : Time)
  | update (id : Uuid) (quantity : ℤ)
  | remove (id : Uuid) (now : Time)
deriving DecidableEq, Repr

/-- How far such a call has come. -/
inductive DispositionPhase
  | start
  /-- The quantity of the log has been read. -/
  | found (quantity : ℤ)
  /-- The log is stored, and `quantity` is to be added to the row of the hour. -/
  | recorded (quantity : ℤ)
  | added (quantity : ℤ)
  /-- There was nothing to add. -/
  | returned
deriving DecidableEq, Repr

namespace DispositionPhase

def isRecorded : DispositionPhase → Bool
  | recorded _ | added _ => true
  | _ => false

def isAdded : DispositionPhase → Bool
  | added _ => true
  | _ => false

def isFinished : DispositionPhase → Bool
  | added _ | returned => true
  | _ => false

end DispositionPhase

/-! ## Recalculations -/

/-- The loop of `queryAndTallyCycles` over the cycles that its first query has found. -/
def tallyCycles (db : Database) (w : HourWindow) (cycles : List Cycle) : CycleTally :=
  let sums := cycles.foldl (CycleSums.addCycle db none w.startTime w.endTime) {}
  { totalCycles := sums.totalCycles
    totalItems := sums.totalItems
    idealCycleSeconds := sums.idealCycleSeconds
    totalCycleSeconds := mathRound (sums.totalCycleMs / 1000) }

/-- The counts that `computeBucketFromEvents` returns. -/
def CycleTally.counts (tally : CycleTally) : BucketCounts where
  totalCycles := tally.totalCycles
  totalItems := tally.totalItems
  idealCycleSeconds := mathRound tally.idealCycleSeconds
  totalCycleSeconds := tally.totalCycleSeconds

/-- How far a run of `recalcAll` has come with the hour. The cycles and the logs are queried
concurrently, and the items after the cycles. -/
structure RecalcPhase (m : ℕ) where
  cycles : Option (List Cycle) := none
  tally : Option CycleTally := none
  badItems : Option ℤ := none
  /-- The calls whose logs were stored when the logs were queried. -/
  seen : Fin m → Bool := fun _ ↦ false
  isDone : Bool := false

/-- `m` calls of the disposition log service for one hour. -/
structure Recalculations (m : ℕ) where
  w : HourWindow
  calls : Fin m → DispositionCall

structure RecalcState (m n : ℕ) where
  db : Database
  dispositions : Table dispositionSchema
  /-- `badItems` of the row of the hour, which `Database` leaves out. -/
  badItems : ℤ
  calls : Fin m → DispositionPhase
  recalcs : Fin n → RecalcPhase m

/-- The statements of the calls. -/
inductive RecalcStatement (m n : ℕ)
  /-- The commit of `completeImmediate`, whose first statement has found `prevEnd` and `row`. -/
  | complete (args : StrategyArgs) (prevEnd : Option Time) (row : Option StationStateLog)
  | findLog (j : Fin m)
  | record (j : Fin m)
  | addBadItems (j : Fin m)
  | readCycles (i : Fin n)
  | readItems (i : Fin n)
  | readDispositions (i : Fin n)
  | overwrite (i : Fin n)

/-! ## Statements -/

/-- `SET "totalCycles" = .., "totalItems" = .., ..`. -/
def MetricBucket.setCounts (counts : BucketCounts) (b : MetricBucket) : MetricBucket :=
  { b with
    totalCycles := counts.totalCycles
    totalItems := counts.totalItems
    idealCycleSeconds := counts.idealCycleSeconds
    totalCycleSeconds := counts.totalCycleSeconds }

theorem mild_setCounts (counts : BucketCounts) :
    Table.Mild bucketSchema (MetricBucket.setCounts counts) where
  key _ := rfl
  clash _ _ h := h

/-- The key of the row of an hour. -/
def HourWindow.key (w : HourWindow) : BucketEntityType × Uuid × BucketGranularity × Time :=
  (.station, w.stationId, .hour, w.startTime)

/-- The `UPDATE` of `recalcAll`. -/
def HourWindow.overwrite (w : HourWindow) (counts : BucketCounts) (buckets : Table bucketSchema) :
    Table bucketSchema :=
  buckets.modify (fun b ↦ decide (bucketSchema.key b = w.key)) (MetricBucket.setCounts counts)
    (mild_setCounts counts)

/-- `prisma.itemDispositionLog.update` of a column other than the id. -/
def updateLog (id : Uuid) (f : ItemDispositionLog → ItemDispositionLog)
    (hf : Table.Mild dispositionSchema f) (dispositions : Table dispositionSchema) :
    Table dispositionSchema :=
  dispositions.modify (fun log ↦ decide (dispositionSchema.key log = id)) f hf

theorem mild_setQuantity (quantity : ℤ) :
    Table.Mild dispositionSchema fun log ↦ { log with quantity := quantity } where
  key _ := rfl
  clash _ _ h := h

theorem mild_setDeletedAt (now : Time) :
    Table.Mild dispositionSchema fun log ↦ { log with deletedAt := some now } where
  key _ := rfl
  clash _ _ h := h

namespace RecalcState

variable {m n : ℕ} (s : RecalcState m n)

def setCall (j : Fin m) (phase : DispositionPhase) : RecalcState m n :=
  { s with calls := Function.update s.calls j phase }

def setRecalc (i : Fin n) (phase : RecalcPhase m) : RecalcState m n :=
  { s with recalcs := Function.update s.recalcs i phase }

def setDispositions (dispositions : Table dispositionSchema) : RecalcState m n :=
  { s with dispositions := dispositions }

end RecalcState

section

variable {m n : ℕ} (sc : Recalculations m)

/-- The log that a call creates. -/
def Recalculations.newLog (id : Uuid) (quantity : ℤ) (createdAt : Time) : ItemDispositionLog where
  id := id
  stationId := sc.w.stationId
  quantity := quantity
  createdAt := createdAt
  deletedAt := none

/-- The log that a call updates, which is one of the hour. -/
def Recalculations.logOf (s : RecalcState m n) (id : Uuid) : Option ItemDispositionLog :=
  (s.dispositions.find id).filter fun log ↦ decide (sc.w.IsOf log)

/-- Whether the log still stands. -/
def findLogStep (s : RecalcState m n) (j : Fin m) : Option (RecalcState m n) :=
  match s.calls j, sc.calls j with
  | .start, .update id _ | .start, .remove id _ =>
    match s.dispositions.find id with
    | some log =>
      some (s.setCall j (if log.deletedAt.isSome then .returned else .found log.quantity))
    | none => some (s.setCall j .returned)
  | _, _ => none

/-- The write of the disposition log service. It is enabled for logs of the hour. -/
def recordStep (s : RecalcState m n) (j : Fin m) : Option (RecalcState m n) :=
  match s.calls j, sc.calls j with
  | .start, .create id quantity createdAt =>
    let log := sc.newLog id quantity createdAt
    if sc.w.IsOf log then
      (s.dispositions.insert log).map fun dispositions ↦
        (s.setDispositions dispositions).setCall j (.recorded quantity)
    else none
  | .found current, .update id quantity => (sc.logOf s id).map fun _ ↦
    (s.setDispositions (updateLog id _ (mild_setQuantity quantity) s.dispositions)).setCall j
      (if quantity ≠ current then .recorded (quantity - current) else .returned)
  | .found current, .remove id now => (sc.logOf s id).map fun _ ↦
    (s.setDispositions (updateLog id _ (mild_setDeletedAt now) s.dispositions)).setCall j
      (.recorded (-current))
  | _, _ => none

/-- One statement of one call. -/
def recalcStep (statement : RecalcStatement m n) (s : RecalcState m n) :
    Option (RecalcState m n) :=
  match statement with
  | .complete args prevEnd row =>
    ((Tx.immediateLocked args prevEnd row).alone store s.db).map fun r ↦ { s with db := r.1 }
  | .findLog j => findLogStep sc s j
  | .record j => recordStep sc s j
  | .addBadItems j => match s.calls j with
    | .recorded quantity =>
      some ({ s with badItems := s.badItems + quantity }.setCall j (.added quantity))
    | _ => none
  | .readCycles i => match (s.recalcs i).cycles with
    | none => some (s.setRecalc i { s.recalcs i with
        cycles := some (cyclesInBucket s.db sc.w.stationId sc.w.startTime sc.w.endTime none) })
    | some _ => none
  | .readItems i => match (s.recalcs i).cycles, (s.recalcs i).tally with
    | some cycles, none => some (s.setRecalc i { s.recalcs i with
        tally := some (tallyCycles s.db sc.w cycles) })
    | _, _ => none
  | .readDispositions i => match (s.recalcs i).badItems with
    | none => some (s.setRecalc i { s.recalcs i with
        badItems := some (queryDispositionBadItems sc.w s.dispositions)
        seen := fun j ↦ (s.calls j).isRecorded })
    | some _ => none
  | .overwrite i => match s.recalcs i with
    | ⟨cycles, some tally, some badItems, seen, false⟩ => some ({ s with
        db := s.db.setBuckets (sc.w.overwrite tally.counts s.db.buckets)
        badItems := badItems }.setRecalc i ⟨cycles, some tally, some badItems, seen, true⟩)
    | _ => none

end

/-- Before the first statement. -/
def RecalcState.init {m n : ℕ} (db : Database) (dispositions : Table dispositionSchema)
    (badItems : ℤ) : RecalcState m n where
  db := db
  dispositions := dispositions
  badItems := badItems
  calls _ := .start
  recalcs _ := {}

/-- All calls have returned, but for the rollups. -/
def RecalcState.Finished {m n : ℕ} (s : RecalcState m n) : Prop :=
  (∀ j, (s.calls j).isFinished = true) ∧ ∀ i, (s.recalcs i).isDone = true

instance decidableRecalcFinished {m n : ℕ} (s : RecalcState m n) : Decidable s.Finished :=
  inferInstanceAs (Decidable (_ ∧ _))

/-- The row of the hour has the counts that the stored rows give. -/
structure RecalcState.CountsStored {m n : ℕ} (s : RecalcState m n) (w : HourWindow) : Prop where
  totalCycles : Agrees BucketCounts.totalCycles w s.db
  totalItems : Agrees BucketCounts.totalItems w s.db
  badItems : s.badItems = queryDispositionBadItems w s.dispositions

end RwServer
