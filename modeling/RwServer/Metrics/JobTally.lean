import Mathlib
import RwServer.Metrics.Durations
import RwServer.Metrics.RecalcSteps
import RwServer.Station.ConcurrentJobs

/-!
# The buckets of a job

`computeBucketFromEvents` computes all values of a bucket from the cycles, the disposition logs and
the state log of a station. For the bucket of a job the cycles and the dispositions are those of
the job, and the state log is clipped to the time of one entry of the job log inside the bucket.

What is read is one value, `JobEvents`; `now` is what `Date.now()` yields during a call.
-/

namespace RwServer

open Relational

/-! ## What is read -/

/-- A row of `StationJobLog`. -/
structure JobLogRow extends JobLogEntry where
  standardCycle : Option ℚ
deriving DecidableEq

/-- The row condition by which the entries of a station that overlap a range are found. -/
def JobLogRow.isActiveIn (stationId : Uuid) (rangeStart rangeEnd : Time) (l : JobLogRow) : Bool :=
  l.stationId == stationId && decide (l.startTime < rangeEnd) &&
    l.endTime.all fun t ↦ decide (rangeStart < t)

/-- A row of `ItemDispositionLog` with what attributes it to a job. -/
structure JobDisposition extends ItemDispositionLog where
  cycleId : Option Uuid
  jobProductBlobId : Option Uuid
deriving DecidableEq, Repr

/-- A row of `JobProductBlob`, of any version, joined with the job of its `JobProduct`. -/
structure ProductBlobOfJob where
  id : Uuid
  jobId : Uuid
deriving DecidableEq, Repr

/-- The tables that the buckets of jobs are computed from. The job log is read from `jobLogs`. -/
structure JobEvents where
  db : Database
  reasons : List StatusReason
  dispositions : List JobDisposition
  productBlobs : List ProductBlobOfJob
  jobLogs : List JobLogRow

/-- The scope of a bucket of a job. -/
structure JobLogFilter extends JobFilter where
  jobLogStartTime : Time
  jobLogEndTime : Option Time
  itemsPerCycle : ℤ
deriving DecidableEq

/-! ## The clip of a job -/

namespace JobClipWindow

variable (clip : JobClipWindow)

def durationSeconds : ℚ := (clip.endMs - clip.startMs : ℤ) / 1000

/-- The clip lies in the bucket. -/
structure InBucket (bucketStart bucketEnd : Time) : Prop where
  start : bucketStart ≤ clip.startMs
  stop : clip.endMs ≤ bucketEnd

end JobClipWindow

def resolveJobClip (jobFilter : JobLogFilter) (bucketStartMs bucketEndMs now : Time) :
    Option JobClipWindow :=
  let jobEndMs := jobFilter.jobLogEndTime.getD (min now bucketEndMs)
  let effectiveStartMs := max jobFilter.jobLogStartTime bucketStartMs
  let effectiveEndMs := min jobEndMs bucketEndMs
  if effectiveStartMs ≥ effectiveEndMs then none else some ⟨effectiveStartMs, effectiveEndMs⟩

theorem inBucket_of_resolveJobClip {jobFilter : JobLogFilter} {lo hi now : Time}
    {clip : JobClipWindow} (h : resolveJobClip jobFilter lo hi now = some clip) :
    clip.InBucket lo hi := by
  rw [resolveJobClip] at h
  split_ifs at h
  cases h
  exact ⟨le_max_right _ _, min_le_right _ _⟩

/-! ## The values of a bucket -/

namespace JobEvents

variable (e : JobEvents)

/-- The job of the cycle that a disposition is tied to. -/
def jobOfCycle (cycleId : Uuid) : Option Uuid :=
  (e.db.cycles.find cycleId).bind fun c ↦ (e.db.jobBlobOf c).map JobBlob.jobId

/-- The job of a version of one of its products. -/
def jobOfProductBlob (jobProductBlobId : Uuid) : Option Uuid :=
  (e.productBlobs.find? (·.id == jobProductBlobId)).map ProductBlobOfJob.jobId

/-- The `COALESCE` of the two paths from a disposition to a job. -/
def jobOfDisposition (d : JobDisposition) : Option Uuid :=
  (d.cycleId.bind e.jobOfCycle).or (d.jobProductBlobId.bind e.jobOfProductBlob)

/-- The row condition of `queryDispositionBadItems`. -/
def isBadIn (stationId : Uuid) (bucketStart bucketEnd : Time) (jobId : Option Uuid)
    (d : JobDisposition) : Bool :=
  d.stationId == stationId && decide (bucketStart ≤ d.createdAt) &&
    decide (d.createdAt < bucketEnd) && d.deletedAt.isNone &&
      jobId.all fun j ↦ e.jobOfDisposition d == some j

def queryDispositionBadItems (stationId : Uuid) (bucketStart bucketEnd : Time)
    (jobFilter : Option JobLogFilter) : ℤ :=
  ((e.dispositions.filter (e.isBadIn stationId bucketStart bucketEnd
    (jobFilter.map fun f ↦ f.jobId))).map fun d ↦ d.quantity).sum

/-- The quantities of the active products of a job. -/
def activeQuantities (jobId : Uuid) : List ℤ :=
  (e.db.jobProducts.filter fun p ↦ p.jobId == jobId && p.deletedAt.isNone).filterMap fun p ↦
    (p.currentBlob.filter (·.isActive)).map JobProductBlob.quantity

def queryItemsPerCycle (jobId : Uuid) : ℤ :=
  let total := (e.activeQuantities jobId).sum
  if 0 < total then total else 1

end JobEvents

def resolveStandardCycle (jobFilter : Option JobLogFilter) (cycleTally : CycleTally) : Option ℚ :=
  match (jobFilter.bind fun f ↦ f.standardCycle).filter fun s ↦ decide (0 < s) with
  | some standardCycle => some standardCycle
  | none =>
    if 0 < cycleTally.totalCycles ∧ 0 < cycleTally.idealCycleSeconds then
      some (cycleTally.idealCycleSeconds / cycleTally.totalCycles)
    else none

def resolveItemsPerCycle (cycleTally : CycleTally) : ℤ :=
  if 0 < cycleTally.totalCycles ∧ 0 < cycleTally.totalItems then
    mathRound (cycleTally.totalItems / cycleTally.totalCycles)
  else 1

/-- The values that `computeBucketFromEvents` returns, from what it has queried. -/
def bucketKpis (cycleTally : CycleTally) (badItems : ℤ) (durationTally : DurationTally)
    (effectiveDuration : ℚ) (standardCycle : Option ℚ) (itemsPerCycle : ℤ) : BucketKPIs where
  additive
    | .totalCycles => cycleTally.totalCycles
    | .badCycles => 0
    | .totalItems => cycleTally.totalItems
    | .badItems => badItems
    | .expectedCycles =>
      cyclesIn (effectiveDuration - durationTally.plannedDownSeconds) standardCycle
    | .expectedItems =>
      cyclesIn (effectiveDuration - durationTally.plannedDownSeconds) standardCycle * itemsPerCycle
    | .runSeconds => durationTally.runSeconds
    | .downSeconds => durationTally.downSeconds
    | .plannedDownSeconds => durationTally.plannedDownSeconds
    | .unplannedDownSeconds => durationTally.unplannedDownSeconds
    | .idealCycleSeconds => mathRound cycleTally.idealCycleSeconds
    | .totalCycleSeconds => cycleTally.totalCycleSeconds
    | .elapsedExpectedCycles =>
      cyclesIn (durationTally.runSeconds + durationTally.unplannedDownSeconds : ℤ) standardCycle
    | .elapsedExpectedItems =>
      cyclesIn (durationTally.runSeconds + durationTally.unplannedDownSeconds : ℤ) standardCycle *
        itemsPerCycle
    | .elapsedPlannedProductionSeconds =>
      durationTally.runSeconds + durationTally.unplannedDownSeconds
  currentStandardCycle := standardCycle

/-- All values of a bucket, for a station or for a job on it. -/
def JobEvents.computeBucketFromEvents (e : JobEvents) (stationId : Uuid) (bucketStart : Time)
    (bucketDurationMs : ℤ) (jobFilter : Option JobLogFilter) (now : Time) : BucketKPIs :=
  let bucketEnd := bucketStart + bucketDurationMs
  let jobClip := jobFilter.bind fun f ↦ resolveJobClip f bucketStart bucketEnd now
  if jobFilter.isSome ∧ jobClip = none then zeroKpis
  else
    let cycleTally := queryAndTallyCycles e.db stationId bucketStart bucketEnd
      (jobFilter.map JobLogFilter.toJobFilter)
    let badItems := e.queryDispositionBadItems stationId bucketStart bucketEnd jobFilter
    let durationTally := queryAndTallyStateLogs e.db.stateLog e.reasons stationId bucketStart
      bucketEnd now jobClip
    bucketKpis cycleTally badItems durationTally
      ((jobClip.map JobClipWindow.durationSeconds).getD (bucketDurationMs / 1000))
      (resolveStandardCycle jobFilter cycleTally)
      ((jobFilter.map JobLogFilter.itemsPerCycle).getD (resolveItemsPerCycle cycleTally))

end RwServer
