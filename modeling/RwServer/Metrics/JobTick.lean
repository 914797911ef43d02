import Mathlib
import RwServer.Foundation.FirstByKey
import RwServer.Metrics.JobTally
import RwServer.Metrics.LiveSums

/-!
# The tick of a job

`cascadeJobRollup` is one statement: it computes the values of the current job of a station for the
hour of a timestamp, upserts the row of the hour, and sums the hours of the job in the shift into
the row of the shift. All parts of a statement read the tables as they were before it, so the sum is
one over the hours before the upsert. `jobShift_sumsHours_iff` says exactly when it is the sum of
the hours afterwards all the same.
-/

namespace RwServer

open Relational Windows

/-! ## Upserts -/

/-- `INSERT .. ON CONFLICT .. DO UPDATE SET ..`. -/
def upsertRow (live : Table bucketRowSchema) (row : BucketRow) (set : BucketRow → BucketRow)
    (hset : Table.Mild bucketRowSchema set) : Table bucketRowSchema :=
  if (live.find row.key).isSome then live.modify (fun r ↦ decide (r.key = row.key)) set hset
  else insertBucket live row

/-! ## The statement -/

/-- The arguments of a call, and what it reads beside the buckets. -/
structure JobTickCall where
  stationId : Uuid
  siteId : Uuid
  timestamp : Time
  events : JobEvents
  /-- `md5(station_id || ':job:' || job_id)`. -/
  jobEntityId : Uuid → Uuid → Uuid
  /-- `"name"` of a `JobBlob`. -/
  blobName : Uuid → Option String
  /-- `NOW()`. -/
  vNow : Time

/-- `items_per_cycle`; a sum over no row is `NULL`. -/
def JobEvents.sumItemsPerCycle (e : JobEvents) (jobId : Uuid) : ℤ :=
  if (e.activeQuantities jobId).isEmpty then 1 else (e.activeQuantities jobId).sum

structure CycleStats where
  totalCycles : ℤ
  totalItems : ℤ
  idealCycleSeconds : ℤ
  totalCycleSeconds : ℤ
deriving DecidableEq, Repr

/-- `job_dur`. -/
structure JobDur where
  runSeconds : ℤ
  downSeconds : ℤ
  plannedDownSeconds : ℤ
  unplannedDownSeconds : ℤ
deriving DecidableEq, Repr

namespace JobTickCall

variable (f : Facility) (call : JobTickCall) (hour : BucketWindow)

/-- `active_job`, whose `ORDER BY "startTime" DESC LIMIT 1` takes the last row. -/
def activeJob : Option JobLogRow :=
  (orderBy (fun l : JobLogRow ↦ l.startTime) (call.events.jobLogs.filter
    (JobLogRow.isActiveIn call.stationId hour.startTime hour.endTime))).getLast?

/-- `job_path`. -/
def jobPath (live : Table bucketRowSchema) (jobId : Uuid) : List (BucketEntityType × Uuid) :=
  ((live.find (hourKey call.stationId hour.startTime)).map BucketRow.path).getD
    [(.site, call.siteId), (.station, call.stationId)] ++ [(.job, jobId)]

/-- `shift_info`, which is the one of `cascadeStationShiftDay` at the start of the hour. -/
def shiftInfo : Option ShiftInstance :=
  MeteredTicks.shiftInfo
    { f := f
      siteId := call.siteId
      stationId := call.stationId
      reasons := call.events.reasons
      localToUtc := id } hour.startTime

/-- The `WHERE` of `cycle_stats`, which does not look at `"deletedAt"`. -/
def isCounted (jobId : Uuid) (c : Cycle) : Bool :=
  c.stationId == call.stationId && isOfJob call.events.db jobId c &&
    c.cycleEnd.any fun t ↦ decide (hour.startTime ≤ t) && decide (t < hour.endTime)

def countedCycles (jobId : Uuid) : List Cycle :=
  call.events.db.cycles.rows.filter (call.isCounted hour jobId)

/-- `EXTRACT(EPOCH FROM (c."end" - c.start))::int`. -/
def cycleSeconds (c : Cycle) : ℤ :=
  (c.cycleEnd.map fun t ↦ sqlRound ((t - c.start : ℤ) / 1000)).getD 0

def cycleStats (log : JobLogRow) : CycleStats :=
  let cycles := call.countedCycles hour log.jobId
  { totalCycles := cycles.length
    totalItems := (cycles.map fun c ↦ call.events.db.itemCount c.id).sum
    idealCycleSeconds := (cycles.map fun _ ↦ (log.standardCycle.map fun s ↦
      if 0 < s then sqlRound s else 0).getD 0).sum
    totalCycleSeconds := (cycles.map cycleSeconds).sum }

/-- `bad_items` of `disposition_stats`. -/
def badItems (jobId : Uuid) : ℤ :=
  ((call.events.dispositions.filter (call.events.isBadIn call.stationId hour.startTime hour.endTime
    (some jobId))).map fun d ↦ d.quantity).sum

/-- `GREATEST(p.hour_start, jm.job_start)`. -/
def jobStart (log : JobLogRow) : Time := max hour.startTime log.startTime

/-- `LEAST(p.hour_end, COALESCE(jm.job_end, p.v_now))`; `isInHour` and `epochMs` take the least of
this and `p.v_now`. -/
def jobEnd (log : JobLogRow) : Time := min hour.endTime (log.endTime.getD call.vNow)

/-- `COALESCE(ROUND(SUM(CASE WHEN .. THEN .. ELSE 0 END))::int, 0)` over the rows of `job_dur`. -/
def jobSeconds (log : JobLogRow) (isCase : StationStateLog → Bool) : ℤ :=
  let rows := (stateSlice call.events.db.stateLog call.stationId hour.startTime).filter
    (isInHour (jobStart hour log) (call.jobEnd hour log) call.vNow)
  let ms : ℤ := (rows.map fun e ↦
    if isCase e then epochMs (jobStart hour log) (call.jobEnd hour log) call.vNow e else 0).sum
  sqlRound (ms / 1000)

def jobDur (log : JobLogRow) : JobDur where
  runSeconds := call.jobSeconds hour log fun e ↦ e.state == .up
  downSeconds := call.jobSeconds hour log fun e ↦ e.state == .down
  plannedDownSeconds := call.jobSeconds hour log fun e ↦
    e.state == .down && isPlannedDown call.events.reasons e
  unplannedDownSeconds := call.jobSeconds hour log fun e ↦
    e.state == .down && !isPlannedDown call.events.reasons e

/-- `EXTRACT(EPOCH FROM (LEAST(..) - GREATEST(..)))::int`. -/
def windowSeconds (log : JobLogRow) : ℤ :=
  sqlRound ((min (call.jobEnd hour log) call.vNow - jobStart hour log : ℤ) / 1000)

/-- `job_derived`, with the statistics: the values of the hour. -/
def hourKpis (log : JobLogRow) : BucketKPIs :=
  let cs := call.cycleStats hour log
  let jd := call.jobDur hour log
  let stdCycle := log.standardCycle.getD 0
  let itemsPerCycle := call.events.sumItemsPerCycle log.jobId
  -- both operands are `int`: what is divided is a number of whole seconds
  let expectedCycles :=
    sqlCycles (call.windowSeconds hour log - jd.plannedDownSeconds : ℤ) stdCycle
  let elapsedExpectedCycles :=
    sqlCycles (jd.runSeconds + jd.unplannedDownSeconds : ℤ) stdCycle
  { additive := fun
      | .totalCycles => cs.totalCycles
      | .badCycles => 0
      | .totalItems => cs.totalItems
      | .badItems => call.badItems hour log.jobId
      | .expectedCycles => expectedCycles
      | .expectedItems => expectedCycles * itemsPerCycle
      | .runSeconds => jd.runSeconds
      | .downSeconds => jd.downSeconds
      | .plannedDownSeconds => jd.plannedDownSeconds
      | .unplannedDownSeconds => jd.unplannedDownSeconds
      | .idealCycleSeconds => cs.idealCycleSeconds
      | .totalCycleSeconds => cs.totalCycleSeconds
      | .elapsedExpectedCycles => elapsedExpectedCycles
      | .elapsedExpectedItems => elapsedExpectedCycles * itemsPerCycle
      | .elapsedPlannedProductionSeconds => jd.runSeconds + jd.unplannedDownSeconds
    currentStandardCycle := log.standardCycle }

/-- `job_name`. -/
def jobName (log : JobLogRow) : String := (call.blobName log.jobBlobId).getD ""

def jobHourKey (jobId : Uuid) : BucketKey :=
  ⟨.job, call.jobEntityId call.stationId jobId, .hour, hour.startTime⟩

def jobShiftKey (jobId : Uuid) (shift : ShiftInstance) : BucketKey :=
  ⟨.job, call.jobEntityId call.stationId jobId, .shift, shift.startTime⟩

/-- The `VALUES` of `upsert_job_hour`. -/
def hourRow (live : Table bucketRowSchema) (log : JobLogRow) : BucketRow where
  id := 0
  siteId := call.siteId
  key := call.jobHourKey hour log.jobId
  entityName := call.jobName log
  path := call.jobPath hour live log.jobId
  granularityName := "Hour"
  durationMs := hour.durationMs
  shiftInstanceId := (call.shiftInfo f hour).map ShiftInstance.id
  businessDate := (call.shiftInfo f hour).map ShiftInstance.businessDate
  businessShift := (call.shiftInfo f hour).map ShiftInstance.shiftName
  kpis := (call.hourKpis hour log).store
  currentJobId := some log.jobId
  currentJobName := some (call.jobName log)

/-- The `SET` of `upsert_job_hour`, which leaves `"badCycles"` alone. -/
def setHour (log : JobLogRow) (r : BucketRow) : BucketRow :=
  { r with
    kpis := BucketKPIs.store ⟨fun key ↦ if key = .badCycles then r.kpis.additive .badCycles
      else (call.hourKpis hour log).additive key, log.standardCycle⟩
    currentJobId := some log.jobId
    currentJobName := some (call.jobName log) }

/-- The rows of the `FROM` of `job_shift_sum`. -/
def isJobHourIn (jobId : Uuid) (shift : ShiftInstance) (r : BucketRow) : Bool :=
  r.key.entityType == .job && r.key.entityId == call.jobEntityId call.stationId jobId &&
    r.key.granularity == .hour && decide (shift.startTime ≤ r.startTime) &&
    decide (r.startTime < shift.endTime)

def hoursInShift (live : Table bucketRowSchema) (jobId : Uuid) (shift : ShiftInstance) :
    List BucketRow :=
  live.rows.filter (call.isJobHourIn jobId shift)

/-- `job_shift_sum`, with the standard cycle of the job. -/
def shiftKpis (live : Table bucketRowSchema) (log : JobLogRow) (shift : ShiftInstance) :
    BucketKPIs where
  additive key := ((call.hoursInShift live log.jobId shift).map fun r ↦ r.kpis.additive key).sum
  currentStandardCycle := log.standardCycle

/-- The `VALUES` of `upsert_job_shift`. -/
def shiftRow (live : Table bucketRowSchema) (log : JobLogRow) (shift : ShiftInstance) :
    BucketRow where
  id := 0
  siteId := call.siteId
  key := call.jobShiftKey log.jobId shift
  entityName := call.jobName log
  path := call.jobPath hour live log.jobId
  granularityName := shift.shiftName
  durationMs := sqlRound ((shift.endTime - shift.startTime : ℤ) / 1000) * 1000
  shiftInstanceId := some shift.id
  businessDate := some shift.businessDate
  businessShift := some shift.shiftName
  kpis := (call.shiftKpis live log shift).store
  currentJobId := some log.jobId
  currentJobName := some (call.jobName log)

/-- The `SET` of `upsert_job_shift`. -/
def setShift (live : Table bucketRowSchema) (log : JobLogRow) (shift : ShiftInstance)
    (r : BucketRow) : BucketRow :=
  { r with
    kpis := (call.shiftKpis live log shift).store
    currentJobId := some log.jobId
    currentJobName := some (call.jobName log) }

theorem mild_setHour (log : JobLogRow) :
    Table.Mild bucketRowSchema (call.setHour hour log) :=
  mild_of_same (fun _ ↦ rfl) (fun _ ↦ rfl)

theorem mild_setShift (live : Table bucketRowSchema) (log : JobLogRow) (shift : ShiftInstance) :
    Table.Mild bucketRowSchema (call.setShift live log shift) :=
  mild_of_same (fun _ ↦ rfl) (fun _ ↦ rfl)

/-- `upsert_job_hour`. -/
def upsertJobHour (live : Table bucketRowSchema) (log : JobLogRow) : Table bucketRowSchema :=
  upsertRow live (call.hourRow f hour live log) (call.setHour hour log) (call.mild_setHour hour log)

/-- `upsert_job_shift`, of the sums over the rows of `snapshot`. -/
def upsertJobShift (snapshot live : Table bucketRowSchema) (log : JobLogRow)
    (shift : ShiftInstance) : Table bucketRowSchema :=
  -- a sum over no hour is `NULL`, which `"totalCycles" IS NOT NULL` sorts out
  if (call.hoursInShift snapshot log.jobId shift).isEmpty then live
  else upsertRow live (call.shiftRow hour snapshot log shift) (call.setShift snapshot log shift)
    (call.mild_setShift snapshot log shift)

end JobTickCall

/-- The window of a row. -/
def BucketRow.bucketWindow (r : BucketRow) : BucketWindow := ⟨r.startTime, r.durationMs⟩

/-- Without a target hour or an active job nothing is written, and without a shift no shift. -/
def cascadeJobRollup (f : Facility) (call : JobTickCall) (live : Table bucketRowSchema)
    (target : Option BucketRow) : Table bucketRowSchema :=
  target.elim live fun bucket ↦
    let hour := bucket.bucketWindow
    (call.activeJob hour).elim live fun log ↦
      let withHour := call.upsertJobHour f hour live log
      (call.shiftInfo f hour).elim withHour (call.upsertJobShift hour live withHour log)

/-! ## What an upsert changes -/

section

variable {live : Table bucketRowSchema} {row : BucketRow} {set : BucketRow → BucketRow}
  {hset : Table.Mild bucketRowSchema set} {k : BucketKey} {p : BucketRow → Bool}

theorem find_upsertRow_of_ne (hk : k ≠ row.key) :
    (upsertRow live row set hset).find k = live.find k := by
  rw [upsertRow]
  split_ifs
  · refine (live.find_modify_key row.key hset k).trans ?_
    simp only [if_neg hk, Option.map_id']
  · exact find_insertBucket_of_ne (Ne.symm hk)

theorem find_upsertRow_of_some {r : BucketRow} (h : live.find row.key = some r) :
    (upsertRow live row set hset).find row.key = some (set r) := by
  rw [upsertRow, h, if_pos Option.isSome_some]
  refine (live.find_modify_key row.key hset row.key).trans ?_
  rw [h, Option.map_some, if_pos rfl]

theorem find_upsertRow_of_none (h : live.find row.key = none) :
    (upsertRow live row set hset).find row.key = some { row with id := freshId live } := by
  have hnone : ¬(live.find row.key).isSome = true := by rw [h]; exact Bool.false_ne_true
  rw [upsertRow, if_neg hnone]
  refine find_insertBucket_self.trans ?_
  rw [h, Option.getD_none]

/-- An upsert leaves the rows of a condition alone that no row with its key meets. -/
theorem filter_upsertRow (hp : ∀ r, r.key = row.key → p r = false) :
    (upsertRow live row set hset).rows.filter p = live.rows.filter p := by
  rw [upsertRow]
  split_ifs
  · refine live.filter_rows_modify _ hset fun r _ hr ↦ ?_
    have hkey : r.key = row.key := of_decide_eq_true hr
    exact ⟨hp r hkey, hp _ ((hset.key r).trans hkey)⟩
  · exact live.filter_rows_insertMissing (hp _ rfl)

/-- An upsert changes a sum over the rows of a condition on the key by the new value, less the old
one. -/
theorem sum_upsertRow (hp : ∀ r, r.key = row.key → p r = true)
    (hset' : ∀ r, p (set r) = p r) (g : BucketRow → ℤ) :
    (((upsertRow live row set hset).rows.filter p).map g).sum
      = ((live.rows.filter p).map g).sum
        + ((live.find row.key).elim (g { row with id := freshId live })
            fun r ↦ g (set r) - g r) := by
  cases h : live.find row.key with
  | some r =>
    have hkeyed : live.rows.filter (fun a ↦ p a && decide (a.key = row.key)) = [r] := by
      have hsame : ∀ a ∈ live.rows,
          (p a && decide (a.key = row.key)) = decide (a.key = row.key) := by
        intro a _
        by_cases hkey : a.key = row.key
        · rw [hp a hkey, Bool.true_and]
        · rw [decide_eq_false hkey, Bool.and_false]
      rw [List.filter_congr hsame]
      exact Table.filter_key h
    -- one row has the key, and the update keeps it in the condition
    rw [upsertRow, h, if_pos Option.isSome_some, Table.sum_filter_modify _ _ _ hset hset', hkeyed,
      List.map_singleton, List.sum_singleton]
    rfl
  | none =>
    have hnone : ¬(live.find row.key).isSome = true := by rw [h]; exact Bool.false_ne_true
    have hrows : (insertBucket live row).rows = live.rows ++ [{ row with id := freshId live }] := by
      have hadmits : live.Admits { row with id := freshId live } :=
        ⟨h, fun a ha ↦ beq_eq_false_iff_ne.mpr (id_lt_freshId ha).ne⟩
      rw [insertBucket, Table.insertMissing_of_admits hadmits]
    rw [upsertRow, if_neg hnone, hrows, List.filter_append, List.map_append, List.sum_append,
      List.filter_singleton, hp { row with id := freshId live } rfl]
    exact congrArg _ (List.sum_singleton)

end

/-! ## The sums of a shift -/

namespace JobTickCall

variable (call : JobTickCall) (hour : BucketWindow) (live : Table bucketRowSchema)
  (log : JobLogRow) (shift : ShiftInstance)

/-- The row of the shift holds the sums over the hours of the job in the shift. -/
def ShiftSumsHours (jobId : Uuid) : Prop :=
  ∃ s, live.find (call.jobShiftKey jobId shift) = some s ∧ ∀ key, s.kpis.additive key
    = ((call.hoursInShift live jobId shift).map fun r ↦ r.kpis.additive key).sum

/-- The row of the hour holds the values of the hour before they are written. -/
def HourSettled : Prop :=
  ∃ r, live.find (call.jobHourKey hour log.jobId) = some r ∧ ∀ key, key ≠ .badCycles →
    r.kpis.additive key = (call.hourKpis hour log).additive key

/-- The hour gets its row now, is not the first one of the shift, and has no values. -/
def NewHourEmpty : Prop :=
  live.find (call.jobHourKey hour log.jobId) = none ∧
    call.hoursInShift live log.jobId shift ≠ [] ∧ ∀ key, (call.hourKpis hour log).additive key = 0

/-- The hour is the first one of the shift, whose row holds the values of the hour already. -/
def FirstHourForeseen : Prop :=
  call.hoursInShift live log.jobId shift = [] ∧
    ∃ s, live.find (call.jobShiftKey log.jobId shift) = some s ∧ ∀ key,
      s.kpis.additive key = (call.hourKpis hour log).additive key

variable {call hour live log shift} {f : Facility}

theorem isJobHourIn_iff {jobId : Uuid} {r : BucketRow} : call.isJobHourIn jobId shift r = true ↔
    r.key = ⟨.job, call.jobEntityId call.stationId jobId, .hour, r.startTime⟩ ∧
      shift.window.Contains r.startTime := by
  simp only [isJobHourIn, Bool.and_eq_true, beq_iff_eq, decide_eq_true_eq, BucketKey.ext_iff]
  constructor
  · rintro ⟨⟨⟨⟨h₁, h₂⟩, h₃⟩, h₄⟩, h₅⟩
    exact ⟨⟨h₁, h₂, h₃, rfl⟩, h₄, h₅⟩
  · rintro ⟨⟨h₁, h₂, h₃, -⟩, h₄, h₅⟩
    exact ⟨⟨⟨⟨h₁, h₂⟩, h₃⟩, h₄⟩, h₅⟩

theorem isJobHourIn_of_key (hin : shift.window.Contains hour.startTime) {r : BucketRow}
    (hr : r.key = call.jobHourKey hour log.jobId) : call.isJobHourIn log.jobId shift r = true := by
  have hstart : r.startTime = hour.startTime := congrArg BucketKey.startTime hr
  exact isJobHourIn_iff.mpr ⟨hstart ▸ hr, hstart ▸ hin⟩

theorem mem_hoursInShift_of_find (hin : shift.window.Contains hour.startTime) {r : BucketRow}
    (hr : live.find (call.jobHourKey hour log.jobId) = some r) :
    r ∈ call.hoursInShift live log.jobId shift :=
  have hfind := Table.find_eq_some_iff.mp hr
  List.mem_filter.mpr ⟨hfind.1, isJobHourIn_of_key hin hfind.2⟩

/-- The upsert of the hour changes the sums by the values of the hour, less those in its row. -/
theorem sum_upsertJobHour (hin : shift.window.Contains hour.startTime) (key : KpiKey) :
    ((call.hoursInShift (call.upsertJobHour f hour live log) log.jobId shift).map
        fun r ↦ r.kpis.additive key).sum
      = ((call.hoursInShift live log.jobId shift).map fun r ↦ r.kpis.additive key).sum
        + (live.find (call.jobHourKey hour log.jobId)).elim ((call.hourKpis hour log).additive key)
          fun r ↦ (call.setHour hour log r).kpis.additive key - r.kpis.additive key := by
  have hp : ∀ r : BucketRow, r.key = (call.hourRow f hour live log).key →
      call.isJobHourIn log.jobId shift r = true := fun r hr ↦ isJobHourIn_of_key hin hr
  have hset : ∀ r, call.isJobHourIn log.jobId shift (call.setHour hour log r)
      = call.isJobHourIn log.jobId shift r := fun _ ↦ rfl
  exact sum_upsertRow hp hset fun r ↦ r.kpis.additive key

/-- The upsert of the shift leaves the hours alone. -/
theorem hoursInShift_upsertJobShift (snapshot : Table bucketRowSchema) :
    call.hoursInShift (call.upsertJobShift hour snapshot live log shift) log.jobId shift
      = call.hoursInShift live log.jobId shift := by
  rw [upsertJobShift]
  split_ifs
  · rfl
  · refine filter_upsertRow fun r hr ↦ ?_
    rw [← Bool.not_eq_true, isJobHourIn_iff]
    intro h
    exact BucketGranularity.noConfusion (congrArg BucketKey.granularity (h.1.symm.trans hr))

/-- The upsert of the shift leaves its sums in the row of the shift. -/
theorem exists_find_upsertJobShift {snapshot : Table bucketRowSchema}
    (hne : call.hoursInShift snapshot log.jobId shift ≠ []) :
    ∃ s, (call.upsertJobShift hour snapshot live log shift).find (call.jobShiftKey log.jobId shift)
      = some s ∧ s.kpis.additive = (call.shiftKpis snapshot log shift).additive := by
  rw [upsertJobShift, if_neg fun h ↦ hne (List.isEmpty_iff.mp h)]
  cases h : live.find (call.jobShiftKey log.jobId shift) with
  | some s => exact ⟨_, find_upsertRow_of_some h, rfl⟩
  | none => exact ⟨_, find_upsertRow_of_none h, rfl⟩

/-- The upsert of the hour leaves the row of the shift alone. -/
theorem find_upsertJobHour_shift : (call.upsertJobHour f hour live log).find
    (call.jobShiftKey log.jobId shift) = live.find (call.jobShiftKey log.jobId shift) :=
  find_upsertRow_of_ne fun h ↦ BucketGranularity.noConfusion (congrArg BucketKey.granularity h)

/-- With hours in the shift before the call, the row of the shift is their sum before the call. -/
theorem sumsHours_iff_of_ne (hin : shift.window.Contains hour.startTime)
    (hne : call.hoursInShift live log.jobId shift ≠ []) :
    call.ShiftSumsHours (call.upsertJobShift hour live (call.upsertJobHour f hour live log) log
        shift) shift log.jobId ↔
      ∀ key, (live.find (call.jobHourKey hour log.jobId)).elim
        ((call.hourKpis hour log).additive key)
        (fun r ↦ (call.setHour hour log r).kpis.additive key - r.kpis.additive key) = 0 := by
  obtain ⟨s, hs, hkpis⟩ : ∃ s, (call.upsertJobShift hour live (call.upsertJobHour f hour live log)
      log shift).find (call.jobShiftKey log.jobId shift) = some s ∧
        s.kpis.additive = (call.shiftKpis live log shift).additive :=
    exists_find_upsertJobShift hne
  rw [ShiftSumsHours, hoursInShift_upsertJobShift, hs]
  constructor
  · rintro ⟨s', hs', hsums⟩ key
    obtain rfl := Option.some.inj hs'
    have hsum := hsums key
    rw [sum_upsertJobHour hin, hkpis] at hsum
    exact left_eq_add.mp hsum
  · intro hzero
    refine ⟨s, rfl, fun key ↦ ?_⟩
    rw [sum_upsertJobHour hin, hzero key, add_zero, hkpis]
    rfl

theorem sumsHours_iff_settled (hin : shift.window.Contains hour.startTime) {r : BucketRow}
    (hr : live.find (call.jobHourKey hour log.jobId) = some r) :
    call.ShiftSumsHours (call.upsertJobShift hour live (call.upsertJobHour f hour live log) log
        shift) shift log.jobId ↔ call.HourSettled hour live log := by
  have hne := List.ne_nil_of_mem (mem_hoursInShift_of_find hin hr)
  rw [sumsHours_iff_of_ne hin hne, HourSettled, hr]
  constructor
  · intro hzero
    refine ⟨r, rfl, fun key hkey ↦ ?_⟩
    have hdiff : (call.setHour hour log r).kpis.additive key - r.kpis.additive key = 0 := hzero key
    have hset : (call.setHour hour log r).kpis.additive key
        = (call.hourKpis hour log).additive key :=
      if_neg hkey
    rw [← hset, sub_eq_zero.mp hdiff]
  · rintro ⟨r', hr', hvalues⟩ key
    obtain rfl := Option.some.inj hr'
    refine sub_eq_zero.mpr ?_
    by_cases hkey : key = .badCycles
    -- `"badCycles"` is not in the `SET`
    · subst hkey
      rfl
    · exact (if_neg hkey).trans (hvalues key hkey).symm

theorem sumsHours_iff_empty (hin : shift.window.Contains hour.startTime)
    (hnone : live.find (call.jobHourKey hour log.jobId) = none)
    (hne : call.hoursInShift live log.jobId shift ≠ []) :
    call.ShiftSumsHours (call.upsertJobShift hour live (call.upsertJobHour f hour live log) log
        shift) shift log.jobId ↔ call.NewHourEmpty hour live log shift := by
  rw [sumsHours_iff_of_ne hin hne, hnone]
  exact ⟨fun hzero ↦ ⟨hnone, hne, hzero⟩, fun h ↦ h.2.2⟩

/-- Without hours in the shift before the call its row is not written. -/
theorem sumsHours_iff_foreseen (hin : shift.window.Contains hour.startTime)
    (hnil : call.hoursInShift live log.jobId shift = []) :
    call.ShiftSumsHours (call.upsertJobShift hour live (call.upsertJobHour f hour live log) log
        shift) shift log.jobId ↔ call.FirstHourForeseen hour live log shift := by
  have hnone : live.find (call.jobHourKey hour log.jobId) = none := by
    refine Option.eq_none_iff_forall_ne_some.mpr fun r hr ↦ ?_
    exact List.ne_nil_of_mem (mem_hoursInShift_of_find hin hr) hnil
  have hsum : ∀ key, ((call.hoursInShift (call.upsertJobHour f hour live log) log.jobId shift).map
      fun r ↦ r.kpis.additive key).sum = (call.hourKpis hour log).additive key := by
    intro key
    rw [sum_upsertJobHour hin, hnil, hnone]
    exact zero_add _
  rw [upsertJobShift, if_pos (List.isEmpty_iff.mpr hnil), ShiftSumsHours, find_upsertJobHour_shift]
  simp only [hsum]
  exact ⟨fun h ↦ ⟨hnil, h⟩, fun h ↦ h.2⟩

end JobTickCall

/-- The first hour of a job on a station that ran for half of it. -/
def halfHourRun (jobId : Uuid) : BucketRow :=
  { sampleHour 0 0 with
    key := ⟨.job, Nat.pair 2 jobId, .hour, 0⟩
    kpis := BucketKPIs.store ⟨fun key ↦ if key ∈ [.runSeconds, .downSeconds] then 1800 else 0, none⟩
    currentJobId := some jobId }

/-- Two hours of a station, and the first one of its job. -/
def secondHour : Table bucketRowSchema :=
  insertBuckets (.empty _) [sampleHour 0 0, sampleHour 3600000 0, halfHourRun 7]

/-- The tick in the middle of the second hour; the station is still down. -/
def secondHourTick : JobTickCall where
  stationId := 2
  siteId := 1
  timestamp := 5400000
  events :=
    { db := { (default : Database) with stateLog := sampleLog }
      reasons := [⟨9, true⟩]
      dispositions := []
      productBlobs := []
      jobLogs := [⟨⟨⟨2, 0, none, 4⟩, 1, 7⟩, none⟩] }
  jobEntityId := Nat.pair
  blobName _ := some "Housing"
  vNow := 5400000

/-- The tables afterwards. -/
def afterSecondHourTick : Table bucketRowSchema :=
  cascadeJobRollup (oneShiftFacility 0 28800000) secondHourTick secondHour
    (some (sampleHour 3600000 0))

end RwServer
