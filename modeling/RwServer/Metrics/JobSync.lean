import Mathlib
import RwServer.Foundation.Join
import RwServer.Metrics.JobTally
import RwServer.Metrics.TickSteps

/-!
# Expected cycles from the jobs

`syncExpectedCyclesFromJobs` sums the expected cycles and items of the jobs of an hour into the row
of the station. It joins the rows of the jobs with the entries of the job log, so a row is added
once for each entry of its job that overlaps the hour, and not at all without one.
`syncExpected_countsOnce_iff` says exactly when each row has been counted once all the same.
-/

namespace RwServer

open Relational Windows

/-! ## The statement -/

/-- The arguments of a call, and what it reads beside the buckets. -/
structure JobSyncCall where
  stationId : Uuid
  siteId : Uuid
  timestamp : Time
  jobLogs : List JobLogRow
  /-- `md5(station_id || ':job:' || job_id)`. -/
  jobEntityId : Uuid → Uuid → Uuid
  /-- `"currentJobId"` of the station. -/
  currentJobId : Option Uuid

namespace JobSyncCall

variable (call : JobSyncCall)

/-- The row condition on the buckets of jobs. -/
def isJobHour (hourStart : Time) (jb : BucketRow) : Bool :=
  jb.key.entityType == .job && jb.key.granularity == .hour && decide (jb.startTime = hourStart) &&
    jb.siteId == call.siteId

/-- The condition of the join, with the `"entityId"` of the `WHERE`. -/
def joins (hourStart : Time) (jb : BucketRow) (sjl : JobLogRow) : Bool :=
  jb.currentJobId == some sjl.jobId && sjl.stationId == call.stationId &&
    decide (sjl.startTime < hourStart + msPerHour) &&
    (sjl.endTime.all fun t ↦ decide (hourStart < t)) &&
    jb.key.entityId == call.jobEntityId call.stationId sjl.jobId

/-- The rows of the `FROM` of `job_sums`. -/
def joined (live : Table bucketRowSchema) (hourStart : Time) : List (BucketRow × JobLogRow) :=
  join (live.rows.filter (call.isJobHour hourStart)) call.jobLogs (call.joins hourStart)

/-- `current_std_cycle`. -/
def currentStdCycle (live : Table bucketRowSchema) (hourStart : Time) : Option ℚ :=
  (live.rows.find? fun jb2 ↦ call.isJobHour hourStart jb2 && call.currentJobId.any fun j ↦
    jb2.key.entityId == call.jobEntityId call.stationId j).bind fun jb2 ↦
      jb2.kpis.currentStandardCycle

/-- `COALESCE(SUM(jb.column), 0)`. -/
def sumColumn (live : Table bucketRowSchema) (hourStart : Time) (key : KpiKey) : ℤ :=
  ((call.joined live hourStart).map fun p ↦ p.1.kpis.additive key).sum

def jobSums (live : Table bucketRowSchema) (hourStart : Time) : JobSums where
  expectedCycles := call.sumColumn live hourStart .expectedCycles
  expectedItems := call.sumColumn live hourStart .expectedItems
  elapsedExpectedCycles := call.sumColumn live hourStart .elapsedExpectedCycles
  elapsedExpectedItems := call.sumColumn live hourStart .elapsedExpectedItems
  currentStandardCycle := call.currentStdCycle live hourStart

end JobSyncCall

/-- Where `target_bucket` finds no row, nothing is updated. -/
def syncExpectedCyclesFromJobs (call : JobSyncCall) (live : Table bucketRowSchema)
    (target : Option BucketRow) : Table bucketRowSchema :=
  target.elim live fun bucket ↦
    live.modify (BucketRow.isHourAt call.stationId call.timestamp)
      (BucketRow.syncExpected (call.jobSums live bucket.startTime)) (mild_syncExpected _)

/-! ## Each row once -/

namespace JobSyncCall

variable (call : JobSyncCall)

/-- The row is about a job of the station. -/
def isOfStation (jb : BucketRow) : Bool :=
  jb.currentJobId.any fun j ↦ jb.key.entityId == call.jobEntityId call.stationId j

/-- The hours of the jobs of the station that begin at a time. -/
def jobHours (live : Table bucketRowSchema) (hourStart : Time) : List BucketRow :=
  live.rows.filter fun jb ↦ call.isJobHour hourStart jb && call.isOfStation jb

/-- The row of the station has the sums over the hours of its jobs. -/
def CountsOnce (live : Table bucketRowSchema) (hourStart : Time) (r : BucketRow) : Prop :=
  ∀ key ∈ expectedKeys, r.kpis.additive key
    = ((call.jobHours live hourStart).map fun jb ↦ jb.kpis.additive key).sum

/-- An entry of the job of a row overlaps the hour. -/
def overlapsHour (hourStart : Time) (jb : BucketRow) (sjl : JobLogRow) : Bool :=
  jb.currentJobId == some sjl.jobId && sjl.stationId == call.stationId &&
    decide (sjl.startTime < hourStart + msPerHour) &&
    sjl.endTime.all fun t ↦ decide (hourStart < t)

/-- How many entries of its job overlap the hour of a row. -/
def entries (hourStart : Time) (jb : BucketRow) : ℕ :=
  call.jobLogs.countP (call.overlapsHour hourStart jb)

section

variable {call : JobSyncCall} {live : Table bucketRowSchema} {hourStart : Time}

/-- A row of another station is joined with nothing, one of the station with the entries of its
job. -/
theorem countP_joins (jb : BucketRow) : call.jobLogs.countP (call.joins hourStart jb)
    = if call.isOfStation jb then call.entries hourStart jb else 0 := by
  have hjoins : call.joins hourStart jb
      = fun sjl ↦ call.isOfStation jb && call.overlapsHour hourStart jb sjl := by
    funext sjl
    rw [joins, overlapsHour, isOfStation]
    by_cases hjob : jb.currentJobId = some sjl.jobId
    · rw [hjob, Option.any_some, beq_self_eq_true, Bool.true_and, Bool.and_comm]
    · rw [beq_eq_false_iff_ne.mpr hjob]
      simp
  rw [hjoins, entries]
  -- whether the row is one of the station does not depend on the entry
  cases call.isOfStation jb with
  | true => rfl
  | false => exact List.countP_eq_zero.mpr fun sjl _ ↦ Bool.false_ne_true

theorem sumColumn_eq (key : KpiKey) : call.sumColumn live hourStart key
    = ((join (call.jobHours live hourStart) call.jobLogs (call.overlapsHour hourStart)).map
        fun p ↦ p.1.kpis.additive key).sum := by
  rw [sumColumn, joined, sum_join fun jb : BucketRow ↦ jb.kpis.additive key,
    sum_join fun jb : BucketRow ↦ jb.kpis.additive key, jobHours, Table.sum_filter,
    Table.sum_filter]
  congr 1
  refine List.map_congr_left fun jb _ ↦ ?_
  rw [countP_joins]
  cases call.isJobHour hourStart jb with
  | false => rfl
  | true =>
    cases call.isOfStation jb with
    | false => exact zero_smul _ _
    | true => rfl

end

end JobSyncCall

/-- **The expected cycles of the jobs are counted once** iff what the entries of a job beyond the
first add, and what a job without an entry lacks, cancel out in each column; where no value is
negative and each job has an entry, iff each job that expects anything has one entry. -/
theorem syncExpected_countsOnce_iff {call : JobSyncCall} {live : Table bucketRowSchema}
    {bucket : BucketRow} (hbucket : bucket ∈ live.rows)
    (htarget : bucket.isHourAt call.stationId call.timestamp = true) :
    ∃ r, (syncExpectedCyclesFromJobs call live (some bucket)).find bucket.key = some r ∧
      (call.CountsOnce live bucket.startTime r ↔ ∀ key ∈ expectedKeys,
        ((call.jobHours live bucket.startTime).map fun jb ↦
          ((call.entries bucket.startTime jb : ℤ) - 1) * jb.kpis.additive key).sum = 0) ∧
      ((∀ jb ∈ call.jobHours live bucket.startTime, 0 < call.entries bucket.startTime jb) →
        (∀ jb ∈ call.jobHours live bucket.startTime, ∀ key ∈ expectedKeys,
          0 ≤ jb.kpis.additive key) →
        (call.CountsOnce live bucket.startTime r ↔
          ∀ jb ∈ call.jobHours live bucket.startTime, call.entries bucket.startTime jb = 1 ∨
            ∀ key ∈ expectedKeys, jb.kpis.additive key = 0)) := by
  have hfind : (syncExpectedCyclesFromJobs call live (some bucket)).find bucket.key
      = some (bucket.syncExpected (call.jobSums live bucket.startTime)) := by
    have hself : live.find bucket.key = some bucket := Table.find_of_mem hbucket
    rw [syncExpectedCyclesFromJobs, Option.elim_some, Table.find_modify, hself, Option.map_some,
      if_pos htarget]
  have hcolumns : ∀ key ∈ expectedKeys,
      (bucket.syncExpected (call.jobSums live bucket.startTime)).kpis.additive key
        = call.sumColumn live bucket.startTime key := by
    simp only [expectedKeys, List.forall_mem_cons]
    exact ⟨rfl, rfl, rfl, rfl, fun _ h ↦ absurd h List.not_mem_nil⟩
  have hcounts : ∀ key ∈ expectedKeys,
      ((bucket.syncExpected (call.jobSums live bucket.startTime)).kpis.additive key
          = ((call.jobHours live bucket.startTime).map fun jb ↦ jb.kpis.additive key).sum ↔
        ((join (call.jobHours live bucket.startTime) call.jobLogs
            (call.overlapsHour bucket.startTime)).map fun p ↦ p.1.kpis.additive key).sum
          = ((call.jobHours live bucket.startTime).map fun jb ↦ jb.kpis.additive key).sum) := by
    intro key hkey
    rw [hcolumns key hkey, JobSyncCall.sumColumn_eq]
  refine ⟨_, hfind, ?_, fun hentry hnonneg ↦ ?_⟩
  · refine forall₂_congr fun key hkey ↦ (hcounts key hkey).trans ?_
    exact sum_join_eq_iff fun jb : BucketRow ↦ jb.kpis.additive key
  · have hiff : call.CountsOnce live bucket.startTime
        (bucket.syncExpected (call.jobSums live bucket.startTime)) ↔ ∀ key ∈ expectedKeys,
          ∀ jb ∈ call.jobHours live bucket.startTime,
            call.entries bucket.startTime jb = 1 ∨ jb.kpis.additive key = 0 :=
      forall₂_congr fun key hkey ↦ (hcounts key hkey).trans
        (sum_join_eq_iff_of_nonneg hentry fun jb hjb ↦ hnonneg jb hjb key hkey)
    rw [hiff]
    constructor
    · intro h jb hjb
      by_cases hone : call.entries bucket.startTime jb = 1
      · exact .inl hone
      · exact .inr fun key hkey ↦ (h key hkey jb hjb).resolve_left hone
    · exact fun h key hkey jb hjb ↦ (h jb hjb).imp_right fun hzero ↦ hzero key hkey

/-! ### A job that is assigned twice -/

/-- The hour of a job that expects a hundred cycles. -/
def hundredCycles (jobId : Uuid) : BucketRow :=
  { sampleHour 0 0 with
    key := ⟨.job, Nat.pair 2 jobId, .hour, 0⟩
    kpis := BucketKPIs.store ⟨fun key ↦ if key ∈ expectedKeys then 100 else 0, some (25 / 2)⟩
    currentJobId := some jobId }

/-- An hour of a station, with those of two jobs. -/
def twoJobHours : Table bucketRowSchema :=
  insertBuckets (.empty _) [sampleHour 0 0, hundredCycles 7, hundredCycles 8]

/-- The first job is assigned before and after the second one. -/
def twiceAssignedSync : JobSyncCall where
  stationId := 2
  siteId := 1
  timestamp := 3000000
  jobLogs := [⟨⟨⟨2, 0, some 1200000, 4⟩, 1, 7⟩, none⟩,
    ⟨⟨⟨2, 1200000, some 2400000, 5⟩, 2, 8⟩, none⟩, ⟨⟨⟨2, 2400000, none, 4⟩, 3, 7⟩, none⟩]
  jobEntityId := Nat.pair
  currentJobId := some 7

theorem syncExpected_countsOnce_twiceAssigned : ∃ bucket r,
    (syncExpectedCyclesFromJobs twiceAssignedSync twoJobHours (some bucket)).find bucket.key
      = some r ∧
    (twiceAssignedSync.CountsOnce twoJobHours bucket.startTime r ↔ ∀ key ∈ expectedKeys,
      ((twiceAssignedSync.jobHours twoJobHours bucket.startTime).map fun jb ↦
        ((twiceAssignedSync.entries bucket.startTime jb : ℤ) - 1) * jb.kpis.additive key).sum
          = 0) := by
  have hex : ∃ bucket ∈ twoJobHours.rows,
      bucket.isHourAt twiceAssignedSync.stationId twiceAssignedSync.timestamp = true := by
    decide +kernel
  obtain ⟨bucket, hbucket, htarget⟩ := hex
  obtain ⟨r, hr, hiff, -⟩ := syncExpected_countsOnce_iff hbucket htarget
  exact ⟨bucket, r, hr, hiff⟩

/-- The hour of the station expects 300 cycles, where its jobs expect 200. -/
theorem not_syncExpected_countsOnce : ∃ bucket ∈ twoJobHours.rows, ∃ r,
    bucket.isHourAt 2 3000000 = true ∧
    (syncExpectedCyclesFromJobs twiceAssignedSync twoJobHours (some bucket)).find bucket.key
      = some r ∧
    r.kpis.additive .expectedCycles = 300 ∧
    ((twiceAssignedSync.jobHours twoJobHours bucket.startTime).map
      fun jb ↦ jb.kpis.additive .expectedCycles).sum = 200 ∧
    ¬twiceAssignedSync.CountsOnce twoJobHours bucket.startTime r := by
  have hdecide : ∃ bucket ∈ twoJobHours.rows, bucket.isHourAt 2 3000000 = true ∧
      ((syncExpectedCyclesFromJobs twiceAssignedSync twoJobHours (some bucket)).find
        bucket.key).any (fun r ↦ decide (r.kpis.additive .expectedCycles = 300)) = true ∧
      ((twiceAssignedSync.jobHours twoJobHours bucket.startTime).map
        fun jb ↦ jb.kpis.additive .expectedCycles).sum = 200 := by
    decide +kernel
  obtain ⟨bucket, hbucket, htarget, hany, hsum⟩ := hdecide
  obtain ⟨r, hr, hcycles⟩ := (Option.any_eq_true _ _).mp hany
  have hcycles := of_decide_eq_true hcycles
  refine ⟨bucket, hbucket, r, htarget, hr, hcycles, hsum, fun h ↦ ?_⟩
  have honce := h .expectedCycles List.mem_cons_self
  rw [hcycles, hsum] at honce
  exact absurd honce (by decide)

end RwServer
