import RwServer.Database.Tables

/-!
# Counting cycles in a metric bucket

The same counts come about in two ways. On the hot path `incrementHourCounts` adds to the `HOUR`
bucket of the station at each completion; on recomputation `queryAndTallyCycles` goes through the
stored cycles that end in the bucket and through their inventory items. A tally is a sum over the
rows of the cycle table (`queryAndTallyCycles_eq`).
-/

namespace RwServer

open Relational ReadCommitted

/-! ## The hot path -/

namespace MetricBucket

/-- `"startTime" + "durationSeconds" * INTERVAL '1 second'`. -/
def endTime (b : MetricBucket) : Time := b.startTime + b.durationSeconds * 1000

/-- The row condition of `incrementHourCounts`. -/
def isHourOf (stationId : Uuid) (timestamp : Time) (b : MetricBucket) : Bool :=
  b.entityType == .station && b.entityId == stationId && b.granularity == .hour &&
    decide (b.startTime ≤ timestamp) && decide (timestamp < b.endTime)

/-- The increments of one completion. -/
def increment (cycles items idealSeconds totalCycleSeconds : ℤ) (b : MetricBucket) :
    MetricBucket :=
  { b with
    totalCycles := b.totalCycles + cycles
    totalItems := b.totalItems + items
    idealCycleSeconds := b.idealCycleSeconds + idealSeconds
    totalCycleSeconds := b.totalCycleSeconds + totalCycleSeconds }

end MetricBucket

theorem mild_increment (cycles items idealSeconds totalCycleSeconds : ℤ) :
    Table.Mild bucketSchema
      (MetricBucket.increment cycles items idealSeconds totalCycleSeconds) where
  key _ := rfl
  clash _ _ h := h

/-- The buckets after the increments of one completion. -/
def IncrementedBy (stationId : Uuid) (timestamp : Time)
    (cycles items idealSeconds totalCycleSeconds : ℤ) (t t' : Table bucketSchema) : Prop :=
  t'.rows = t.rows.map fun b ↦ if b.isHourOf stationId timestamp
    then b.increment cycles items idealSeconds totalCycleSeconds else b

namespace Tx

variable {α : Type}

def incrementHourCounts (stationId : Uuid) (timestamp : Time)
    (cycles items idealSeconds totalCycleSeconds : ℤ) (next : Tx α) : Tx α :=
  .exec (fun db ↦ (db.buckets.changed (MetricBucket.isHourOf stationId timestamp)
    (MetricBucket.increment cycles items idealSeconds totalCycleSeconds)).map .updateBucket) next

/-- The increment goes through, and changes the buckets that contain the timestamp. -/
theorem alone_incrementHourCounts {stationId : Uuid} {timestamp : Time}
    {cycles items idealSeconds totalCycleSeconds : ℤ} {next : Tx α} {db : Database}
    {r : Database × α} (h : (incrementHourCounts stationId timestamp cycles items idealSeconds
      totalCycleSeconds next).alone store db = some r) :
    ∃ buckets, IncrementedBy stationId timestamp cycles items idealSeconds totalCycleSeconds
      db.buckets buckets ∧ next.alone store (db.setBuckets buckets) = some r := by
  rw [incrementHourCounts, Program.alone_exec, writeAll_updateBucket, ← Table.updateMany,
    Option.bind_map] at h
  obtain ⟨buckets, hbuckets, hnext⟩ := Option.bind_eq_some_iff.mp h
  exact ⟨buckets, Table.rows_of_updateMany
    (mild_increment cycles items idealSeconds totalCycleSeconds) hbuckets, hnext⟩

end Tx

/-! ## Recomputation -/

/-- The job scope of a tally, as far as cycles are concerned. -/
structure JobFilter where
  jobId : Uuid
  standardCycle : Option ℚ
deriving DecidableEq

structure CycleTally where
  totalCycles : ℤ
  totalItems : ℤ
  idealCycleSeconds : ℚ
  totalCycleSeconds : ℤ
deriving DecidableEq

/-- The sums of the loop; the durations are milliseconds. -/
structure CycleSums where
  totalCycles : ℤ := 0
  totalItems : ℤ := 0
  idealCycleSeconds : ℚ := 0
  totalCycleMs : ℤ := 0
deriving DecidableEq

namespace Database

/-- The `JobBlob` of a cycle. -/
def jobBlobOf (db : Database) (c : Cycle) : Option JobBlob :=
  db.jobBlobs.find? (·.id == c.jobBlobId)

/-- The `standardCycle` column of the query. -/
def standardCycleOf (db : Database) (c : Cycle) : Option ℚ :=
  (db.jobBlobOf c).bind JobBlob.standardCycle

/-- The inventory items of a cycle, counted. -/
def itemCount (db : Database) (cycleId : Uuid) : ℤ :=
  (db.inventory.flatMap InventoryBatch.items).countP (·.cycleId == cycleId)

end Database

/-- The row condition of the query for a station bucket. -/
def endsInBucket (stationId : Uuid) (bucketStart bucketEnd : Time) (c : Cycle) : Bool :=
  c.stationId == stationId &&
    c.cycleEnd.any (fun t ↦ decide (bucketStart ≤ t) && decide (t < bucketEnd)) &&
    c.deletedAt.isNone

/-- The further condition of the query for a job bucket. -/
def isOfJob (db : Database) (jobId : Uuid) (c : Cycle) : Bool :=
  (db.jobBlobOf c).any (·.jobId == jobId)

/-- The milliseconds of a cycle inside the bucket. -/
def clippedCycleMs (bucketStartMs bucketEndMs : Time) (c : Cycle) : ℤ :=
  match c.cycleEnd with
  | some t => max 0 (min t bucketEndMs - max c.start bucketStartMs)
  | none => 0

/-- The seconds a cycle should have taken: of the job where one is given, of its own blob else. -/
def idealSecondsOf (db : Database) (jobFilter : Option JobFilter) (c : Cycle) : ℚ :=
  match jobFilter.bind JobFilter.standardCycle with
  | some standardCycle => standardCycle
  | none => (db.standardCycleOf c).getD 0

/-- One round of the loop. -/
def CycleSums.addCycle (db : Database) (jobFilter : Option JobFilter)
    (bucketStartMs bucketEndMs : Time) (acc : CycleSums) (c : Cycle) : CycleSums :=
  { totalCycles := acc.totalCycles + 1
    totalItems := acc.totalItems + db.itemCount c.id
    idealCycleSeconds := acc.idealCycleSeconds + idealSecondsOf db jobFilter c
    totalCycleMs := acc.totalCycleMs + clippedCycleMs bucketStartMs bucketEndMs c }

/-- The cycles the query selects. -/
def cyclesInBucket (db : Database) (stationId : Uuid) (bucketStart bucketEnd : Time)
    (jobFilter : Option JobFilter) : List Cycle :=
  db.cycles.rows.filter fun c ↦ endsInBucket stationId bucketStart bucketEnd c &&
    jobFilter.all fun f ↦ isOfJob db f.jobId c

def queryAndTallyCycles (db : Database) (stationId : Uuid) (bucketStart bucketEnd : Time)
    (jobFilter : Option JobFilter) : CycleTally :=
  let sums := (cyclesInBucket db stationId bucketStart bucketEnd jobFilter).foldl
    (CycleSums.addCycle db jobFilter bucketStart bucketEnd) {}
  { totalCycles := sums.totalCycles
    totalItems := sums.totalItems
    idealCycleSeconds := sums.idealCycleSeconds
    totalCycleSeconds := mathRound (sums.totalCycleMs / 1000) }

/-- The counts that `computeBucketFromEvents` returns for a bucket. -/
structure BucketCounts where
  totalCycles : ℤ
  totalItems : ℤ
  idealCycleSeconds : ℤ
  totalCycleSeconds : ℤ
deriving DecidableEq, Repr

/-- The count-based part of `computeBucketFromEvents`. -/
def computeBucketFromEvents (db : Database) (stationId : Uuid) (bucketStart : Time)
    (bucketDurationSeconds : ℤ) (jobFilter : Option JobFilter) : BucketCounts :=
  let tally := queryAndTallyCycles db stationId bucketStart
    (bucketStart + bucketDurationSeconds * 1000) jobFilter
  { totalCycles := tally.totalCycles
    totalItems := tally.totalItems
    idealCycleSeconds := mathRound tally.idealCycleSeconds
    totalCycleSeconds := tally.totalCycleSeconds }

/-! ## A tally is a sum -/

theorem foldl_addCycle (db : Database) (jobFilter : Option JobFilter) (lo hi : Time)
    (cycles : List Cycle) (acc : CycleSums) :
    cycles.foldl (CycleSums.addCycle db jobFilter lo hi) acc =
      { totalCycles := acc.totalCycles + cycles.length
        totalItems := acc.totalItems + (cycles.map fun c ↦ db.itemCount c.id).sum
        idealCycleSeconds :=
          acc.idealCycleSeconds + (cycles.map (idealSecondsOf db jobFilter)).sum
        totalCycleMs := acc.totalCycleMs + (cycles.map (clippedCycleMs lo hi)).sum } := by
  induction cycles generalizing acc with
  | nil => simp
  | cons c cycles ih =>
    rw [List.foldl_cons, ih, CycleSums.addCycle]
    simp only [List.length_cons, List.map_cons, List.sum_cons, Nat.cast_add, Nat.cast_one,
      CycleSums.mk.injEq]
    refine ⟨?_, ?_, ?_, ?_⟩ <;> ring

theorem queryAndTallyCycles_eq (db : Database) (stationId : Uuid) (lo hi : Time)
    (jobFilter : Option JobFilter) : queryAndTallyCycles db stationId lo hi jobFilter =
      { totalCycles := (cyclesInBucket db stationId lo hi jobFilter).length
        totalItems :=
          ((cyclesInBucket db stationId lo hi jobFilter).map fun c ↦ db.itemCount c.id).sum
        idealCycleSeconds :=
          ((cyclesInBucket db stationId lo hi jobFilter).map (idealSecondsOf db jobFilter)).sum
        totalCycleSeconds := mathRound
          (((cyclesInBucket db stationId lo hi jobFilter).map (clippedCycleMs lo hi)).sum
            / 1000) } := by
  rw [queryAndTallyCycles, foldl_addCycle]
  simp only [zero_add]

end RwServer
