import Mathlib
import RwServer.Foundation.FirstByKey
import RwServer.Foundation.LastWrite
import RwServer.Foundation.OrderedMap
import RwServer.Metrics.RollupExact
import RwServer.Metrics.TallyParts

/-!
# Recomputing the hours of jobs

`recomputeJobBucketsForRange` goes through the entries of the job log that overlap some hours, by
their start, and through the hours for each of them, and stores what `computeBucketFromEvents` finds
for the part of the hour in which the entry was active. The row has the key of the job, so an entry
replaces what an earlier entry of the same job has stored: the time of a job that was assigned twice
within an hour is the one of the last entry only. `jobHours_cover_iff` says exactly when the running
and the down time are still those of all entries together.
-/

namespace RwServer

open Relational

/-! ## The job log -/

/-- An entry of the job log, and the items that a cycle of its job produces. -/
structure ActiveJobLog extends JobLogRow where
  itemsPerCycle : ℤ
deriving DecidableEq

def JobEvents.getActiveJobLogsForRange (e : JobEvents) (stationId : Uuid)
    (rangeStart rangeEnd : Time) : List ActiveJobLog :=
  (orderBy (fun l : JobLogRow ↦ l.startTime)
    (e.jobLogs.filter (JobLogRow.isActiveIn stationId rangeStart rangeEnd))).map
      fun l ↦ ⟨l, e.queryItemsPerCycle l.jobId⟩

def toJobFilter (log : ActiveJobLog) : JobLogFilter where
  jobId := log.jobId
  standardCycle := log.standardCycle
  jobLogStartTime := log.startTime
  jobLogEndTime := log.endTime
  itemsPerCycle := log.itemsPerCycle

/-! ## The call -/

/-- The arguments of a call, and what it reads beside the buckets. -/
structure JobRecomputeCall where
  stationId : Uuid
  siteId : Uuid
  baseBuckets : List BucketWindow
  timezone : Timezone
  businessDate : Option Time
  businessShift : Option String
  events : JobEvents
  /-- `jobEntityId`, a hash of its arguments. -/
  jobEntityId : Uuid → Uuid → Uuid
  /-- `resolveEntityName` of a job. -/
  jobName : Uuid → String
  /-- `Date.now()`. -/
  now : Time

def isKpiUnchanged (kpiData : BucketKPIs) (existing : BucketRow) : Bool :=
  (additiveKpiKeys.all fun key ↦ existing.kpis.additive key == kpiData.additive key) &&
    existing.kpis.currentStandardCycle == kpiData.currentStandardCycle

/-- The upsert of a row of a job, unless nothing has changed; whether it is written. -/
def upsertJobBucket (live : Table bucketRowSchema) (input : UpsertInput) :
    Table bucketRowSchema × Bool :=
  if (live.find input.key).any (isKpiUnchanged input.kpis) then (live, false)
  else if (live.find input.key).isSome then (input.update live, true)
  else (insertBucket live input.newRow, true)

namespace JobRecomputeCall

variable (f : Facility) (call : JobRecomputeCall)

def rangeStart : Time := ((call.baseBuckets.map BucketWindow.startTime).min?).getD 0

def rangeEnd : Time := ((call.baseBuckets.map BucketWindow.endTime).max?).getD 0

def jobLogs : List ActiveJobLog :=
  call.events.getActiveJobLogsForRange call.stationId call.rangeStart call.rangeEnd

/-- Whether an entry overlaps a bucket; an open one reaches up to now. -/
def overlaps (jobLog : ActiveJobLog) (bucket : BucketWindow) : Bool :=
  decide (jobLog.startTime < bucket.endTime) &&
    decide (bucket.startTime < jobLog.endTime.getD call.now)

/-- The key of an hour of a job. -/
def keyOf (jobId : Uuid) (startTime : Time) : BucketKey :=
  ⟨.job, call.jobEntityId call.stationId jobId, .hour, startTime⟩

def jobPath (jobId : Uuid) : List (BucketEntityType × Uuid) :=
  f.stationPath call.siteId call.stationId ++ [(.job, jobId)]

/-- `kpis`, for the part of a bucket in which an entry was active. -/
def kpis (jobLog : ActiveJobLog) (bucket : BucketWindow) : BucketKPIs :=
  call.events.computeBucketFromEvents call.stationId bucket.startTime bucket.durationMs
    (some (toJobFilter jobLog)) call.now

/-- What is stored for an entry and a bucket. -/
def hourInput (jobLog : ActiveJobLog) (bucket : BucketWindow) : UpsertInput where
  siteId := call.siteId
  key := call.keyOf jobLog.jobId bucket.startTime
  granularityName := "Hour"
  durationMs := bucket.durationMs
  kpis := call.kpis jobLog bucket
  entityName := call.jobName jobLog.jobId
  path := call.jobPath f jobLog.jobId
  currentStandardCycle := none
  shiftInstanceId := (stationShift f call.siteId call.stationId bucket.startTime).map
    ShiftWindow.shiftInstanceId
  businessDate := call.businessDate
  businessShift := call.businessShift
  currentJobId := some jobLog.jobId
  currentJobName := some (call.jobName jobLog.jobId)

/-- One round of the inner loop, with `affectedForJob`. -/
def recomputeBucket (jobLog : ActiveJobLog) (acc : Table bucketRowSchema × List BucketWindow)
    (bucket : BucketWindow) : Table bucketRowSchema × List BucketWindow :=
  if call.overlaps jobLog bucket then
    let next := upsertJobBucket acc.1 (call.hourInput f jobLog bucket)
    (next.1, if next.2 then acc.2 ++ [bucket] else acc.2)
  else acc

/-- One round of the outer loop, with the buckets of `jobAffectedBuckets`. -/
def recomputeJobLog (acc : Table bucketRowSchema × OrderedMap Uuid (List BucketWindow))
    (jobLog : ActiveJobLog) : Table bucketRowSchema × OrderedMap Uuid (List BucketWindow) :=
  let next := call.baseBuckets.foldl (call.recomputeBucket f jobLog) (acc.1, [])
  (next.1, if next.2.isEmpty then acc.2 else acc.2.set jobLog.jobId next.2)

/-! ### The rollup of a job -/

/-- What the rollup of a job reads beside the tables. -/
def rollup (affectedBuckets : List BucketWindow) : RollupInput where
  stationId := call.stationId
  siteId := call.siteId
  affectedBuckets := affectedBuckets
  timezone := call.timezone
  businessDate := call.businessDate
  businessShift := call.businessShift
  stationEntity := none
  skipParentRollup := true

/-- What is stored for a shift or a day of a job, summed over its hours. -/
def jobTimeInput (jobId : Uuid) (target : RollupTarget) (t : BucketTables) : UpsertInput :=
  let compositeJobId := call.jobEntityId call.stationId jobId
  let sum := sumBucketsInWindowWithStdCycle t .job compositeJobId .hour target.window
  { siteId := call.siteId
    key := ⟨.job, compositeJobId, target.granularity, target.window.startTime⟩
    granularityName := target.granularityName
    durationMs := target.window.durationMs
    kpis := sum.kpis
    entityName := call.jobName jobId
    path := call.jobPath f jobId
    currentStandardCycle := some sum.latest.currentStandardCycle
    shiftInstanceId := target.shiftInstanceId
    businessDate := target.businessDate
    businessShift := target.businessShift
    currentJobId := sum.latest.currentJobId
    currentJobName := sum.latest.currentJobName }

def rollupJobBuckets (t : BucketTables) (job : Uuid × List BucketWindow) : BucketTables :=
  (timeTargets f (call.rollup job.2)).foldl
    (fun t target ↦ upsertBucket t (call.jobTimeInput f job.1 target t)) t

/-- The loops, with the jobs whose hours have changed. -/
def recomputeAll (live : Table bucketRowSchema) :
    Table bucketRowSchema × OrderedMap Uuid (List BucketWindow) :=
  call.jobLogs.foldl (call.recomputeJobLog f) (live, .empty)

end JobRecomputeCall

def recomputeJobBucketsForRange (f : Facility) (call : JobRecomputeCall) (t : BucketTables) :
    BucketTables :=
  if call.baseBuckets.isEmpty then t
  else
    let recomputed := call.recomputeAll f t.live
    recomputed.2.entries.foldl (call.rollupJobBuckets f) { t with live := recomputed.1 }

/-! ## What a row of a job should hold -/

section

variable (e : JobEvents) (stationId : Uuid) (bucketStart bucketEnd now : Time)
  (field : DurationField)

/-- The milliseconds of a sum in the part of a bucket in which an entry of the job log is active. -/
def JobEvents.activeMs (l : JobLogRow) : ℤ :=
  ((e.db.stateLog.live stationId).map (caseMs (field.counts e.reasons)
    (max l.startTime bucketStart) (min (l.endTime.getD (min now bucketEnd)) bucketEnd) now)).sum

/-- The milliseconds of a sum in the part of a bucket in which a job is active. -/
def JobEvents.jobMs (jobId : Uuid) : ℤ :=
  ((e.jobLogs.filter fun l ↦ l.stationId == stationId && l.jobId == jobId).map
    (e.activeMs stationId bucketStart bucketEnd now field)).sum

end

namespace JobRecomputeCall

variable (call : JobRecomputeCall)

/-- The entries of a job for which a bucket is recomputed, by their start. -/
def logsOf (jobId : Uuid) (bucket : BucketWindow) : List ActiveJobLog :=
  call.jobLogs.filter fun l ↦ l.jobId == jobId && call.overlaps l bucket

/-- The row holds the running and the down time of all entries of a job. -/
structure CoversRuns (jobId : Uuid) (bucket : BucketWindow) (r : BucketRow) : Prop where
  runSeconds : r.kpis.additive .runSeconds = mathRound
    (call.events.jobMs call.stationId bucket.startTime bucket.endTime call.now .run jobId / 1000)
  downSeconds : r.kpis.additive .downSeconds = mathRound
    (call.events.jobMs call.stationId bucket.startTime bucket.endTime call.now .down jobId / 1000)

/-- The other entries of a job add less to one of them than would change its rounded seconds. -/
def OthersNegligible (jobId : Uuid) (bucket : BucketWindow) (log : ActiveJobLog)
    (field : DurationField) : Prop :=
  let lastMs := call.events.activeMs call.stationId bucket.startTime bucket.endTime call.now field
    log.toJobLogRow
  let othersMs := call.events.jobMs call.stationId bucket.startTime bucket.endTime call.now field
    jobId - lastMs
  (lastMs + 500) % 1000 + othersMs < 1000

end JobRecomputeCall

/-! ## One upsert -/

/-- The values of the row under a key. -/
def additiveOf (live : Table bucketRowSchema) (k : BucketKey) : Option (KpiKey → ℤ) :=
  (live.find k).map fun r ↦ r.kpis.additive

theorem additive_of_isKpiUnchanged {kpiData : BucketKPIs} {r : BucketRow}
    (h : isKpiUnchanged kpiData r = true) : r.kpis.additive = kpiData.additive := by
  have hall := (Bool.and_eq_true_iff.mp h).1
  rw [List.all_eq_true] at hall
  exact funext fun key ↦ beq_iff_eq.mp (hall key (mem_additiveKpiKeys key))

/-- **An upsert** leaves its values under its key, whether it writes or not. -/
theorem writesUnder_upsertJobBucket : LastWrite.WritesUnder additiveOf
    (fun live input ↦ (upsertJobBucket live input).1) UpsertInput.key
    fun input ↦ input.kpis.additive where
  self live input := by
    rw [additiveOf, upsertJobBucket]
    cases hfind : live.find input.key with
    | none =>
      have hself := find_insertBucket_self (t := live) (r := input.newRow)
      rw [show live.find input.newRow.key = none from hfind, Option.getD_none] at hself
      simp only [Option.any_none, Bool.false_eq_true, if_false, Option.isSome_none]
      exact congrArg (Option.map fun r : BucketRow ↦ r.kpis.additive) hself
    | some r =>
      simp only [Option.any_some, Option.isSome_some, if_true]
      split_ifs with hunchanged
      · rw [hfind, Option.map_some, additive_of_isKpiUnchanged hunchanged]
      · rw [find_update_self hfind]
        rfl
  of_ne live input k hk := by
    rw [additiveOf, additiveOf, upsertJobBucket]
    split_ifs
    · rfl
    · rw [find_update_of_ne hk]
    · rw [find_insertBucket_of_ne (Ne.symm hk)]

/-! ## The loops -/

namespace JobRecomputeCall

section

variable {f : Facility} {call : JobRecomputeCall} {live : Table bucketRowSchema} {jobId : Uuid}
  {bucket : BucketWindow}

/-- The upserts of the loops, in their order. -/
def writes (f : Facility) (call : JobRecomputeCall) : List UpsertInput :=
  call.jobLogs.flatMap fun l ↦ (call.baseBuckets.filter (call.overlaps l)).map (call.hourInput f l)

theorem live_foldl_recomputeBucket (log : ActiveJobLog) (buckets affected : List BucketWindow)
    (live : Table bucketRowSchema) :
    (buckets.foldl (call.recomputeBucket f log) (live, affected)).1
      = ((buckets.filter (call.overlaps log)).map (call.hourInput f log)).foldl
        (fun live input ↦ (upsertJobBucket live input).1) live := by
  induction buckets generalizing live affected with
  | nil => rfl
  | cons b buckets ih =>
    rw [List.foldl_cons, List.filter_cons, recomputeBucket]
    split_ifs with hoverlaps
    · rw [ih]
      rfl
    · exact ih affected live

theorem live_recomputeAll : (call.recomputeAll f live).1
    = (call.writes f).foldl (fun live input ↦ (upsertJobBucket live input).1) live := by
  rw [recomputeAll, writes]
  generalize OrderedMap.empty = affected
  induction call.jobLogs generalizing live affected with
  | nil => rfl
  | cons l logs ih =>
    rw [List.foldl_cons, List.flatMap_cons, List.foldl_append, ← live_foldl_recomputeBucket]
    exact ih _

/-- The buckets that begin with one of them are this one. -/
theorem filter_start_eq {buckets : List BucketWindow}
    (hstarts : (buckets.map BucketWindow.startTime).Nodup) (hb : bucket ∈ buckets) :
    buckets.filter (fun b ↦ decide (b.startTime = bucket.startTime)) = [bucket] := by
  have hsame : ∀ b ∈ buckets, decide (b.startTime = bucket.startTime) = (b == bucket) := by
    intro b hb'
    rw [Bool.eq_iff_iff, decide_eq_true_eq, beq_iff_eq]
    exact ⟨List.inj_on_of_nodup_map hstarts hb' hb, congrArg _⟩
  rw [List.filter_congr hsame, List.filter_beq, List.count_eq_one_of_mem hstarts.of_map hb]
  rfl

/-- The upserts under the key of an hour of a job are those of its entries. -/
theorem filter_writes (hids : ∀ l ∈ call.jobLogs, call.jobEntityId call.stationId l.jobId
      = call.jobEntityId call.stationId jobId → l.jobId = jobId)
    (hstarts : (call.baseBuckets.map BucketWindow.startTime).Nodup)
    (hb : bucket ∈ call.baseBuckets) :
    ((call.writes f).filter fun input ↦ decide (input.key = call.keyOf jobId bucket.startTime))
      = (call.logsOf jobId bucket).map fun l ↦ call.hourInput f l bucket := by
  rw [writes, logsOf]
  generalize call.jobLogs = logs at hids ⊢
  induction logs with
  | nil => rfl
  | cons l logs ih =>
    have hkey : ∀ b, decide ((call.hourInput f l b).key = call.keyOf jobId bucket.startTime)
        = (l.jobId == jobId && decide (b.startTime = bucket.startTime)) := by
      intro b
      rw [Bool.eq_iff_iff, Bool.and_eq_true, decide_eq_true_eq, decide_eq_true_eq, beq_iff_eq,
        hourInput, keyOf, keyOf, BucketKey.mk.injEq]
      exact ⟨fun h ↦ ⟨hids l List.mem_cons_self h.2.1, h.2.2.2⟩, fun h ↦ ⟨rfl, h.1 ▸ rfl, rfl, h.2⟩⟩
    -- of the buckets of an entry only this one begins when it does
    have hbuckets : ((call.baseBuckets.filter (call.overlaps l)).map (call.hourInput f l)).filter
        (fun input ↦ decide (input.key = call.keyOf jobId bucket.startTime))
        = if l.jobId == jobId && call.overlaps l bucket then [call.hourInput f l bucket]
          else [] := by
      rw [List.filter_map, Function.comp_def]
      simp only [hkey]
      cases hjob : l.jobId == jobId with
      | false => simp
      | true =>
        simp only [Bool.true_and]
        rw [List.filter_comm, filter_start_eq hstarts hb, List.filter_singleton]
        cases call.overlaps l bucket <;> rfl
    rw [List.flatMap_cons, List.filter_append, ih fun l' hl' ↦ hids l' (List.mem_cons_of_mem l hl'),
      hbuckets, List.filter_cons]
    split_ifs <;> rfl

/-- The upsert that an hour of a job keeps is the one of its last entry. -/
theorem additiveOf_recomputeAll {log : ActiveJobLog}
    (hids : ∀ l ∈ call.jobLogs, call.jobEntityId call.stationId l.jobId
      = call.jobEntityId call.stationId jobId → l.jobId = jobId)
    (hstarts : (call.baseBuckets.map BucketWindow.startTime).Nodup)
    (hb : bucket ∈ call.baseBuckets) (hlast : (call.logsOf jobId bucket).getLast? = some log) :
    additiveOf (call.recomputeAll f live).1 (call.keyOf jobId bucket.startTime)
      = some (call.kpis log bucket).additive := by
  rw [live_recomputeAll, writesUnder_upsertJobBucket.view_foldl, LastWrite.lastUnder,
    filter_writes hids hstarts hb, List.getLast?_map, hlast]
  rfl

/-! ## The rollups -/

/-- Rollups write no hour. -/
theorem find_live_rollups (jobs : List (Uuid × List BucketWindow)) (t : BucketTables)
    {k : BucketKey} (hk : k.granularity = .hour) :
    (jobs.foldl (call.rollupJobBuckets f) t).live.find k = t.live.find k := by
  have htargets : ∀ (job : Uuid × List BucketWindow) (targets : List RollupTarget)
      (t : BucketTables), (∀ target ∈ targets, target.granularity ≠ .hour) →
      (targets.foldl (fun t target ↦ upsertBucket t (call.jobTimeInput f job.1 target t))
        t).live.find k = t.live.find k := by
    intro job targets
    induction targets with
    | nil => exact fun t _ ↦ rfl
    | cons target targets ih =>
      intro t h
      have hne : k ≠ (call.jobTimeInput f job.1 target t).key := by
        rintro rfl
        exact h target List.mem_cons_self hk
      rw [List.foldl_cons, ih _ fun target' h' ↦ h target' (List.mem_cons_of_mem target h')]
      exact (find_upsertBucket_of_ne hne).1
  induction jobs generalizing t with
  | nil => rfl
  | cons job jobs ih =>
    rw [List.foldl_cons, ih, rollupJobBuckets]
    exact htargets job _ t fun target htarget ↦ granularity_of_mem_timeTargets htarget

/-! ## The time of an entry -/

theorem clippedMs_of_le {lo hi : Time} (h : hi ≤ lo) (now : Time) (e : StationStateLog) :
    clippedMs lo hi now e = 0 := by
  rw [clippedMs]
  refine max_eq_left (Int.sub_nonpos_of_le ?_)
  cases e.endTime with
  | none => exact (min_le_right now hi).trans (h.trans (le_max_right _ _))
  | some t => exact (min_le_right t hi).trans (h.trans (le_max_right _ _))

/-- An entry that is not active in a bucket has no time there. -/
theorem activeMs_of_resolveJobClip_none {e : JobEvents} {stationId : Uuid} {lo hi now : Time}
    {log : ActiveJobLog} (h : resolveJobClip (toJobFilter log) lo hi now = none)
    (field : DurationField) : e.activeMs stationId lo hi now field log.toJobLogRow = 0 := by
  have hle : min (log.endTime.getD (min now hi)) hi ≤ max log.startTime lo := by
    rw [resolveJobClip] at h
    split_ifs at h with hclip
    exact hclip
  rw [JobEvents.activeMs]
  refine List.sum_eq_zero fun ms hms ↦ ?_
  obtain ⟨s, -, rfl⟩ := List.mem_map.mp hms
  rw [caseMs, clippedMs_of_le hle, ite_self]

theorem get_entriesMs_of_resolveJobClip {e : JobEvents} {stationId : Uuid} {lo hi now : Time}
    {log : ActiveJobLog} {clip : JobClipWindow}
    (h : resolveJobClip (toJobFilter log) lo hi now = some clip) (field : DurationField) :
    (entriesMs e.reasons (e.db.stateLog.live stationId) lo hi now (some clip)).get field
      = e.activeMs stationId lo hi now field log.toJobLogRow := by
  have hclip : ClipInBucket lo hi (some clip) := by
    rintro clip' hclip'
    obtain rfl : clip = clip' := Option.mem_some_iff.mp hclip'
    exact inBucket_of_resolveJobClip h
  rw [get_entriesMs hclip, JobEvents.activeMs]
  rw [resolveJobClip] at h
  split_ifs at h
  cases h
  rfl

/-- **What is stored for an entry** is the time of the entry. -/
theorem kpis_additive (call : JobRecomputeCall) (log : ActiveJobLog) (bucket : BucketWindow) :
    (call.kpis log bucket).additive .runSeconds = mathRound (call.events.activeMs call.stationId
        bucket.startTime bucket.endTime call.now .run log.toJobLogRow / 1000) ∧
      (call.kpis log bucket).additive .downSeconds = mathRound (call.events.activeMs call.stationId
        bucket.startTime bucket.endTime call.now .down log.toJobLogRow / 1000) := by
  rw [kpis, JobEvents.computeBucketFromEvents]
  simp only [Option.isSome_some, true_and, Option.bind_some, BucketWindow.endTime]
  cases hclip : resolveJobClip (toJobFilter log) bucket.startTime
      (bucket.startTime + bucket.durationMs) call.now with
  | none =>
    have hzero : mathRound (((0 : ℤ) : ℚ) / 1000) = 0 := by norm_num [mathRound]
    rw [if_pos rfl, activeMs_of_resolveJobClip_none hclip, activeMs_of_resolveJobClip_none hclip,
      hzero]
    exact ⟨rfl, rfl⟩
  | some clip =>
    rw [if_neg (by simp), ← get_entriesMs_of_resolveJobClip hclip,
      ← get_entriesMs_of_resolveJobClip hclip]
    exact ⟨rfl, rfl⟩

/-! ## All entries -/

theorem activeMs_nonneg (e : JobEvents) (stationId : Uuid) (lo hi now : Time)
    (field : DurationField) (l : JobLogRow) : 0 ≤ e.activeMs stationId lo hi now field l := by
  refine List.sum_nonneg fun ms hms ↦ ?_
  obtain ⟨s, -, rfl⟩ := List.mem_map.mp hms
  rw [caseMs]
  split_ifs
  · exact le_max_left _ _
  · exact le_rfl

/-- The time of one entry is part of the time of its job. -/
theorem activeMs_le_jobMs {e : JobEvents} {stationId : Uuid} {l : JobLogRow} (hl : l ∈ e.jobLogs)
    (hstation : l.stationId = stationId) (lo hi now : Time) (field : DurationField) :
    e.activeMs stationId lo hi now field l ≤ e.jobMs stationId lo hi now field l.jobId := by
  refine List.single_le_sum (fun ms hms ↦ ?_) _ (List.mem_map_of_mem (List.mem_filter.mpr ⟨hl, ?_⟩))
  · obtain ⟨l', -, rfl⟩ := List.mem_map.mp hms
    exact activeMs_nonneg e stationId lo hi now field l'
  · rw [hstation, beq_self_eq_true, beq_self_eq_true, Bool.and_self]

theorem mathRound_thousandth (ms : ℤ) : mathRound (ms / 1000) = (ms + 500) / 1000 := by
  have hround := Rounding.round_div_two_mul ms (Nat.succ_pos 499)
  norm_num at hround
  exact hround

/-- Seconds are rounded to the same number iff what is added does not reach the next one. -/
theorem mathRound_eq_iff {ms total : ℤ} (h : ms ≤ total) :
    mathRound (ms / 1000) = mathRound (total / 1000) ↔
      (ms + 500) % 1000 + (total - ms) < 1000 := by
  rw [mathRound_thousandth, mathRound_thousandth]
  omega

/-- What the query finds are rows of the job log, with the items of a cycle of their job. -/
theorem mem_jobLogs {l : ActiveJobLog} (hl : l ∈ call.jobLogs) :
    l.toJobLogRow ∈ call.events.jobLogs ∧ l.stationId = call.stationId := by
  obtain ⟨row, hrow, rfl⟩ := List.mem_map.mp hl
  obtain ⟨hmem, hactive⟩ := List.mem_filter.mp (mem_orderBy.mp hrow)
  rw [JobLogRow.isActiveIn, Bool.and_eq_true, Bool.and_eq_true, beq_iff_eq] at hactive
  exact ⟨hmem, hactive.1.1⟩

end

end JobRecomputeCall

section

variable {f : Facility} {call : JobRecomputeCall} {t : BucketTables} {jobId : Uuid}
  {bucket : BucketWindow}

/-- After a recomputation an hour of a job has the values of its last entry. -/
theorem find_recomputeJobBucketsForRange {log : ActiveJobLog}
    (hids : ∀ l ∈ call.events.jobLogs, call.jobEntityId call.stationId l.jobId
      = call.jobEntityId call.stationId jobId → l.jobId = jobId)
    (hstarts : (call.baseBuckets.map BucketWindow.startTime).Nodup)
    (hb : bucket ∈ call.baseBuckets) (hlast : (call.logsOf jobId bucket).getLast? = some log) :
    ∃ r, (recomputeJobBucketsForRange f call t).live.find (call.keyOf jobId bucket.startTime)
      = some r ∧ r.kpis.additive = (call.kpis log bucket).additive := by
  have hvalues : additiveOf (call.recomputeAll f t.live).1 (call.keyOf jobId bucket.startTime)
      = some (call.kpis log bucket).additive :=
    JobRecomputeCall.additiveOf_recomputeAll
      (fun l hl ↦ hids l.toJobLogRow (JobRecomputeCall.mem_jobLogs hl).1) hstarts hb hlast
  obtain ⟨r, hr, hadditive⟩ := Option.map_eq_some_iff.mp hvalues
  have hne : call.baseBuckets.isEmpty = false :=
    List.isEmpty_eq_false_iff.mpr (List.ne_nil_of_mem hb)
  refine ⟨r, ?_, hadditive⟩
  rw [recomputeJobBucketsForRange, hne, if_neg Bool.false_ne_true]
  exact (JobRecomputeCall.find_live_rollups _ _ rfl).trans hr

/-- **The hour of a job holds the time of all its entries** iff those before the last one are
negligible. -/
theorem jobHours_cover_iff
    (hids : ∀ l ∈ call.events.jobLogs, call.jobEntityId call.stationId l.jobId
      = call.jobEntityId call.stationId jobId → l.jobId = jobId)
    (hstarts : (call.baseBuckets.map BucketWindow.startTime).Nodup)
    (hb : bucket ∈ call.baseBuckets) (hactive : call.logsOf jobId bucket ≠ []) :
    ∃ log r, (call.logsOf jobId bucket).getLast? = some log ∧
      (recomputeJobBucketsForRange f call t).live.find (call.keyOf jobId bucket.startTime)
        = some r ∧
      (call.CoversRuns jobId bucket r ↔
        call.OthersNegligible jobId bucket log .run ∧
          call.OthersNegligible jobId bucket log .down) := by
  have hlast := List.getLast?_eq_some_getLast hactive
  generalize (call.logsOf jobId bucket).getLast hactive = log at hlast
  obtain ⟨hlog, hof⟩ := List.mem_filter.mp (List.mem_of_getLast? hlast)
  obtain ⟨hmem, hstation⟩ := JobRecomputeCall.mem_jobLogs hlog
  have hjob : log.jobId = jobId := beq_iff_eq.mp (Bool.and_eq_true_iff.mp hof).1
  obtain ⟨r, hr, hadditive⟩ :=
    find_recomputeJobBucketsForRange (f := f) (t := t) hids hstarts hb hlast
  refine ⟨log, r, hlast, hr, ?_⟩
  -- the last entry is one of those of the job
  have hle : ∀ field, call.events.activeMs call.stationId bucket.startTime bucket.endTime call.now
      field log.toJobLogRow ≤ call.events.jobMs call.stationId bucket.startTime bucket.endTime
        call.now field jobId := fun field ↦
    hjob ▸ JobRecomputeCall.activeMs_le_jobMs hmem hstation _ _ _ field
  obtain ⟨hrun, hdown⟩ := call.kpis_additive log bucket
  rw [← hadditive] at hrun hdown
  rw [JobRecomputeCall.OthersNegligible, JobRecomputeCall.OthersNegligible,
    ← JobRecomputeCall.mathRound_eq_iff (hle .run),
    ← JobRecomputeCall.mathRound_eq_iff (hle .down), ← hrun, ← hdown]
  exact ⟨fun h ↦ ⟨h.runSeconds, h.downSeconds⟩, fun h ↦ ⟨h.1, h.2⟩⟩

end

/-! ### A job that is assigned twice -/

/-- One job makes way for another for twenty minutes, on a station that goes down meanwhile. -/
def twiceAssigned : JobEvents where
  db := { (default : Database) with stateLog := sampleLog }
  reasons := [⟨9, true⟩]
  dispositions := []
  productBlobs := []
  jobLogs := [⟨⟨⟨2, 0, some 1200000, 4⟩, 1, 7⟩, none⟩,
    ⟨⟨⟨2, 1200000, some 2400000, 5⟩, 2, 8⟩, none⟩, ⟨⟨⟨2, 2400000, none, 4⟩, 3, 7⟩, none⟩]

/-- The hour is recomputed an hour after its end. -/
def twiceAssignedCall : JobRecomputeCall where
  stationId := 2
  siteId := 1
  baseBuckets := [⟨0, 3600000⟩]
  timezone := (oneShiftFacility 0 28800000).siteTimezone 1
  businessDate := some 0
  businessShift := some "Early"
  events := twiceAssigned
  jobEntityId := Nat.pair
  jobName _ := "Housing"
  now := 7200000

theorem jobHours_cover_twiceAssigned :
    ∃ log r, (twiceAssignedCall.logsOf 7 ⟨0, 3600000⟩).getLast? = some log ∧
      (recomputeJobBucketsForRange (oneShiftFacility 0 28800000) twiceAssignedCall
        default).live.find (twiceAssignedCall.keyOf 7 0) = some r ∧
      (twiceAssignedCall.CoversRuns 7 ⟨0, 3600000⟩ r ↔
        twiceAssignedCall.OthersNegligible 7 ⟨0, 3600000⟩ log .run ∧
          twiceAssignedCall.OthersNegligible 7 ⟨0, 3600000⟩ log .down) :=
  jobHours_cover_iff (by decide +kernel) (by decide) List.mem_cons_self (by decide +kernel)

/-- The twenty minutes in which the station ran under the job are gone. -/
theorem not_jobHours_cover : ∃ r,
    (recomputeJobBucketsForRange (oneShiftFacility 0 28800000) twiceAssignedCall default).live.find
      (twiceAssignedCall.keyOf 7 0) = some r ∧
    r.kpis.additive .runSeconds = 0 ∧ twiceAssigned.jobMs 2 0 3600000 7200000 .run 7 = 1200000 ∧
    ¬twiceAssignedCall.CoversRuns 7 ⟨0, 3600000⟩ r := by
  have hdecide : ((recomputeJobBucketsForRange (oneShiftFacility 0 28800000) twiceAssignedCall
      default).live.find (twiceAssignedCall.keyOf 7 0)).any (fun r ↦
        decide (r.kpis.additive .runSeconds = 0)) = true := by
    decide +kernel
  have htotal : twiceAssigned.jobMs 2 0 3600000 7200000 .run 7 = 1200000 := by decide +kernel
  obtain ⟨r, hr, hzero⟩ := (Option.any_eq_true _ _).mp hdecide
  have hzero := of_decide_eq_true hzero
  refine ⟨r, hr, hzero, htotal, fun h ↦ ?_⟩
  have hrun : r.kpis.additive .runSeconds = mathRound ((1200000 : ℤ) / 1000) :=
    htotal ▸ h.runSeconds
  rw [hzero] at hrun
  exact absurd hrun (by decide +kernel)

end RwServer
