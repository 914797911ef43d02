import Mathlib
import RwServer.Metrics.TimeBased
import RwServer.Station.Chain

/-!
# The metrics tick among state transitions

`combinedTick` recomputes the durations of one hour of every active station, corrects its expected
cycles from its jobs, and then sums the hours into one shift and one day; each phase finds its row
by the timestamp that the tick began with. A state holds the state log and the live rows of one
station and how far the tick has come; a step is a state transition or the next statement of the
tick.

Where a statement runs is known to the database only: it reads `NOW()`, which is no earlier than the
timestamp of the tick. The phases that write rows of jobs and parents are left out, and so is a tick
that finds the station without an open entry. What the job rows sum to is left open.
-/

namespace RwServer

open Windows Relational Transition

/-! ## One station -/

/-- What the tick reads and does not write. -/
structure MeteredTicks where
  f : Facility
  siteId : Uuid
  stationId : Uuid
  reasons : List StatusReason
  /-- A local time of the site, in seconds, `AT TIME ZONE tz`. -/
  localToUtc : ℤ → Time

/-- A shift or a day, as the tick finds it. -/
structure ParentWindow where
  granularity : BucketGranularity
  window : Window Time
deriving DecidableEq

namespace MeteredTicks

variable (sc : MeteredTicks)

/-- `shift_info`. -/
def shiftInfo (bucketTs : Time) : Option ShiftInstance :=
  let workcenterId := (sc.f.station sc.stationId).bind MeteredStation.workcenterId
  let current := sc.f.shiftInstances.filter fun i ↦ i.siteId == sc.siteId && i.isAt bucketTs
  let isOfStation (i : ShiftInstance) := workcenterId.isSome && i.workCenterId == workcenterId
  newest (current.filter fun i ↦
    isOfStation i || (i.workCenterId.isNone && !current.any isOfStation))

/-- `date_trunc('day', bucket_ts AT TIME ZONE tz) AT TIME ZONE tz`, up to a day later. -/
def localDay (bucketTs : Time) : Window Time :=
  let localSeconds := (sc.f.siteTimezone sc.siteId).wallClock (bucketTs / 1000)
  let midnight := localSeconds / 86400 * 86400
  ⟨sc.localToUtc midnight, sc.localToUtc (midnight + 86400)⟩

/-- The shift and the day that a tick sums. -/
def windowsAt (bucketTs : Time) : List ParentWindow :=
  (sc.shiftInfo bucketTs).toList.map (fun i ↦ ⟨.shift, i.window⟩) ++ [⟨.day, sc.localDay bucketTs⟩]

/-- The key of the row of a shift or day. -/
def keyOf (w : ParentWindow) : BucketKey := ⟨.station, sc.stationId, w.granularity, w.window.start⟩

/-- The shift or day that a row is about. -/
def parentWindow (r : BucketRow) : Option ParentWindow :=
  (sc.windowsAt r.startTime).find? fun w ↦ decide (sc.keyOf w = r.key)

/-- A row of an hour of the station. -/
def IsHour (r : BucketRow) : Prop := r.key = hourKey sc.stationId r.startTime

instance decidableIsHour (r : BucketRow) : Decidable (sc.IsHour r) :=
  inferInstanceAs (Decidable (_ = _))

/-- The hours of a shift or day, live ones only. -/
def hoursIn (w : ParentWindow) (live : Table bucketRowSchema) : List BucketRow :=
  live.rows.filter fun r ↦ decide (sc.IsHour r ∧ w.window.Contains r.startTime)

/-- The tally of the state log over a whole window. -/
def fullTally (log : StateLog) (window : Window Time) : DurationTally :=
  queryAndTallyStateLogs log sc.reasons sc.stationId window.start window.stop window.stop none

end MeteredTicks

/-! ## Statements -/

/-- `upd_hour`. -/
def BucketRow.updHour (d : BucketDurations) (r : BucketRow) : BucketRow :=
  { r with
    kpis := BucketKPIs.store ⟨fun key ↦ (d.column key).getD (r.kpis.additive key),
      d.currentStandardCycle⟩ }

theorem mild_updHour (d : BucketDurations) : Table.Mild bucketRowSchema (BucketRow.updHour d) :=
  mild_of_same (fun _ ↦ rfl) (fun _ ↦ rfl)

/-- `job_sums`. -/
structure JobSums where
  expectedCycles : ℤ
  expectedItems : ℤ
  elapsedExpectedCycles : ℤ
  elapsedExpectedItems : ℤ
  currentStandardCycle : Option ℚ
deriving DecidableEq

/-- The columns that are written from the sums of the jobs. -/
def JobSums.column (js : JobSums) : KpiKey → Option ℤ
  | .expectedCycles => some js.expectedCycles
  | .expectedItems => some js.expectedItems
  | .elapsedExpectedCycles => some js.elapsedExpectedCycles
  | .elapsedExpectedItems => some js.elapsedExpectedItems
  | _ => none

/-- The `UPDATE` of `syncExpectedCyclesFromJobs`. -/
def BucketRow.syncExpected (js : JobSums) (r : BucketRow) : BucketRow :=
  { r with
    kpis := BucketKPIs.store ⟨fun key ↦ (js.column key).getD (r.kpis.additive key),
      js.currentStandardCycle.or r.kpis.currentStandardCycle⟩ }

theorem mild_syncExpected (js : JobSums) :
    Table.Mild bucketRowSchema (BucketRow.syncExpected js) :=
  mild_of_same (fun _ ↦ rfl) (fun _ ↦ rfl)

/-- `shift_sums` and `day_sums`. -/
structure HourSums where
  additive : KpiKey → ℤ
  durationMs : ℤ
deriving DecidableEq

def sumHours (hours : List BucketRow) : HourSums where
  additive key := (hours.map fun r ↦ r.kpis.additive key).sum
  durationMs := (hours.map BucketRow.durationMs).sum

/-- The `SET` of `upd_shift` and `upd_day`. -/
def BucketRow.setSums (sums : HourSums) (r : BucketRow) : BucketRow :=
  { r with kpis := { r.kpis with additive := sums.additive }, durationMs := sums.durationMs }

theorem mild_setSums (sums : HourSums) : Table.Mild bucketRowSchema (BucketRow.setSums sums) :=
  mild_of_same (fun _ ↦ rfl) (fun _ ↦ rfl)

/-- The `WHERE` of `upd_shift` and `upd_day`: rows that have the sums already are skipped. -/
def isStale (key : BucketKey) (sums : HourSums) (r : BucketRow) : Bool :=
  decide (r.key = key) &&
    decide (r.kpis.additive ≠ sums.additive ∨ r.durationMs ≠ sums.durationMs)

namespace MeteredTicks

variable (sc : MeteredTicks)

/-- `upd_shift` or `upd_day`. -/
def resum (live : Table bucketRowSchema) (w : ParentWindow) : Table bucketRowSchema :=
  let sums := sumHours (sc.hoursIn w live)
  live.modify (isStale (sc.keyOf w) sums) (BucketRow.setSums sums) (mild_setSums sums)

/-- A sum over no row is `NULL`, which no column of the row takes. -/
def isNullSum (live : Table bucketRowSchema) (w : ParentWindow) : Bool :=
  (live.find (sc.keyOf w)).isSome && (sc.hoursIn w live).isEmpty

end MeteredTicks

/-- `cascadeStationShiftDay`; `none` is an error of the database. -/
def cascadeStationShiftDay (sc : MeteredTicks) (live : Table bucketRowSchema) (bucketTs : Time) :
    Option (Table bucketRowSchema) :=
  if (sc.windowsAt bucketTs).any (sc.isNullSum live) then none
  else some ((sc.windowsAt bucketTs).foldl sc.resum live)

/-! ## Ticks -/

/-- How far a tick has come. -/
inductive TickPhase
  | idle
  | started (timestamp : Time)
  | counted (timestamp : Time)
  | synced (timestamp : Time)
deriving DecidableEq, Repr

structure TickState where
  log : StateLog
  live : Table bucketRowSchema
  phase : TickPhase
  /-- The timestamp of the latest tick. -/
  lastTick : Option Time
  /-- When the latest statement of a tick has run. -/
  clock : Time
  /-- The latest timestamp of a transition. -/
  latest : Time
  /-- When the durations of the hour that begins at a time have last been computed. -/
  computedAt : Time → Option Time
  /-- The shifts and days that have been summed. -/
  summed : List ParentWindow

inductive TickStatement
  | transition (op : StateOp)
  /-- `now` is read, and the station is found to have an open entry. -/
  | start (timestamp : Time)
  /-- `batchDurationRollup`, where `target_bucket` finds `bucket`; the standard cycle and the items
  per cycle have been read before. -/
  | durations (vNow : Time) (bucket : Option BucketRow) (stdCycle : Option ℚ) (itemsPerCycle : ℤ)
  | sync (js : JobSums)
  | shiftDay

section

variable (sc : MeteredTicks)

/-- A row that `target_bucket` can yield; its `LIMIT 1` has no order. -/
def MeteredTicks.IsTarget (live : Table bucketRowSchema) (timestamp : Time) :
    Option BucketRow → Prop
  | some bucket => bucket ∈ live.rows ∧ bucket.isHourAt sc.stationId timestamp = true
  | none => ∀ r ∈ live.rows, ¬r.isHourAt sc.stationId timestamp = true

instance decidableIsTarget (live : Table bucketRowSchema) (timestamp : Time)
    (bucket : Option BucketRow) : Decidable (sc.IsTarget live timestamp bucket) := by
  cases bucket <;> unfold MeteredTicks.IsTarget <;> infer_instance

/-- The `UPDATE` of `batchDurationRollup`. -/
def TickState.updHour (s : TickState) (vNow : Time) (stdCycle : Option ℚ) (itemsPerCycle : ℤ)
    (bucket : BucketRow) : TickState :=
  let d := batchDurations s.log sc.reasons sc.stationId bucket.startTime bucket.durationMs vNow
    stdCycle itemsPerCycle
  { s with
    live := s.live.modify (fun r ↦ decide (r.key = hourKey sc.stationId bucket.startTime))
      (BucketRow.updHour d) (mild_updHour d)
    computedAt := Function.update s.computedAt bucket.startTime (some vNow) }

/-- A transition, or the next statement of a tick. Ticks do not overlap, and no transition lies
after the next tick. -/
def tickStep (statement : TickStatement) (s : TickState) : Option TickState :=
  match statement, s.phase with
  | .transition op, _ => (op.apply sc.stationId s.log).map fun log ↦
    { s with log := log, latest := max s.latest op.time }
  | .start timestamp, .idle =>
    if s.clock < timestamp ∧ s.latest ≤ timestamp ∧
        (findOpenStateEntry s.log sc.stationId).isSome = true then
      some { s with phase := .started timestamp, lastTick := some timestamp, clock := timestamp }
    else none
  | .durations vNow bucket stdCycle itemsPerCycle, .started timestamp =>
    if s.clock ≤ vNow ∧ sc.IsTarget s.live timestamp bucket then
      some { bucket.elim s (s.updHour sc vNow stdCycle itemsPerCycle) with
        phase := .counted timestamp, clock := vNow }
    else none
  | .sync js, .counted timestamp => some { s with
      live := s.live.modify (BucketRow.isHourAt sc.stationId timestamp)
        (BucketRow.syncExpected js) (mild_syncExpected js)
      phase := .synced timestamp }
  | .shiftDay, .synced timestamp => match cascadeStationShiftDay sc s.live timestamp with
    | some live => some { s with
        live := live, phase := .idle, summed := sc.windowsAt timestamp ++ s.summed }
    -- the error is logged, and the tick goes on
    | none => some { s with phase := .idle }
  | _, _ => none

end

/-- Before the first tick of a run that begins at `since`. -/
def TickState.init (log : StateLog) (live : Table bucketRowSchema) (since : Time) : TickState where
  log := log
  live := live
  phase := .idle
  lastTick := none
  clock := since
  latest := since
  computedAt _ := none
  summed := []

end RwServer
