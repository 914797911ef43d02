import Mathlib
import RwServer.Foundation.Overlay
import RwServer.Metrics.Buckets
import RwServer.Metrics.Shifts

/-!
# Reports on buckets, live or archived

The white board and the shift recap list buckets by a filter. Each of the three queries tries the
archived rows first and falls back to the live ones, for the shifts that are still going on; none
reads both. The rollups read both tables at once and prefer the live row of a bucket.

Archiving takes one bucket at a time over, so there are filters that meet archived and live buckets:
a range of dates that reaches over the cutoff, or a shift of which the first hours are old enough.
`bucketReports_complete_iff` says when a report has every bucket of its filter once, with the values
that the bucket stands for.

The order of names in the database, and the step to the next calendar day on the server, are
parameters. What a `select` leaves out is not left out here.
-/

open scoped List

namespace RwServer

open Relational

/-- Archived rows first, and the live ones only where there are none. -/
def findArchivedFirst (t : BucketTables) (filter : BucketRow → Bool)
    (orderBy : BucketRow → BucketRow → Bool) : List BucketRow :=
  Table.firstNonempty ((t.log.rows.filter filter).mergeSort orderBy)
    ((t.live.rows.filter filter).mergeSort orderBy)

/-! ## The white board -/

structure HourlyBucketSearchInput where
  siteId : Uuid
  workCenterId : Option Uuid
  stationId : Option Uuid
  /-- `new Date(input.startDate)`. -/
  startDate : Option Time
  endDate : Option Time
  shiftInstanceId : Option Uuid

namespace HourlyBucketSearchInput

/-- The entities the search is about: the station, the workcenter or all stations. -/
def isEntity (input : HourlyBucketSearchInput) (key : BucketKey) : Bool :=
  match input.stationId, input.workCenterId with
  | some stationId, _ => key.entityType == .station && key.entityId == stationId
  | none, some workCenterId => key.entityType == .workcenter && key.entityId == workCenterId
  | none, none => key.entityType == .station

/-- The filter on the business date; `NULL` meets none. -/
def isInRange (nextDay : Time → Time) (input : HourlyBucketSearchInput)
    (businessDate : Option Time) : Bool :=
  input.startDate.isNone && input.endDate.isNone || businessDate.any fun date ↦
    input.startDate.all (fun start ↦ decide (start ≤ date)) &&
      input.endDate.all fun last ↦ decide (date < nextDay last)

/-- The `where` of the search. -/
def filter (nextDay : Time → Time) (input : HourlyBucketSearchInput) (r : BucketRow) : Bool :=
  r.siteId == input.siteId && r.key.granularity == .hour &&
    input.shiftInstanceId.all (fun shift ↦ r.shiftInstanceId == some shift) &&
    input.isEntity r.key && input.isInRange nextDay r.businessDate

end HourlyBucketSearchInput

/-- `[{ startTime: "asc" }, { entityName: "asc" }]`. -/
def byStartAndName (nameLe : String → String → Bool) (a b : BucketRow) : Bool :=
  decide (a.startTime < b.startTime) ||
    a.startTime == b.startTime && nameLe a.entityName b.entityName

def hourlyBucketSearch (nameLe : String → String → Bool) (nextDay : Time → Time)
    (t : BucketTables) (input : HourlyBucketSearchInput) : List BucketRow :=
  findArchivedFirst t (input.filter nextDay) (byStartAndName nameLe)

/-! ## The shift recap -/

/-- The input of `metricBucketLogList` and of `jobMetricsList`. -/
structure ShiftRecapInput where
  siteId : Uuid
  shiftInstanceId : Uuid
  workCenterId : Uuid

namespace ShiftRecapInput

/-- The ids of the stations of the workcenter. -/
def stationIds (input : ShiftRecapInput) (stations : List MeteredStation) : List Uuid :=
  (stations.filter fun s ↦
    s.siteId == input.siteId && s.workcenterId == some input.workCenterId).map MeteredStation.id

/-- What the filters of both lists have in common. -/
def isOfShift (input : ShiftRecapInput) (r : BucketRow) : Bool :=
  r.siteId == input.siteId && r.shiftInstanceId == some input.shiftInstanceId &&
    r.key.granularity == .shift

/-- The `where` of `metricBucketLogList`. -/
def filter (stations : List MeteredStation) (input : ShiftRecapInput) (r : BucketRow) : Bool :=
  input.isOfShift r &&
    (r.key.entityType == .workcenter && r.key.entityId == input.workCenterId ||
      r.key.entityType == .station && (input.stationIds stations).contains r.key.entityId)

/-- The `where` of `jobMetricsList`: a path contains the text `.station.{id}.` where the station is
neither its first nor its last segment. Without stations the `OR` is empty and no row meets it. -/
def jobFilter (stations : List MeteredStation) (input : ShiftRecapInput) (r : BucketRow) : Bool :=
  input.isOfShift r && r.key.entityType == .job &&
    (input.stationIds stations).any fun stationId ↦
      r.path.tail.dropLast.contains (.station, stationId)

end ShiftRecapInput

/-- The place of an entity type in the order of its enum. -/
def BucketEntityType.rank : BucketEntityType → ℕ
  | .station => 0
  | .workcenter => 1
  | .site => 2
  | .job => 3

/-- `[{ entityType: "asc" }, { entityName: "asc" }]`. -/
def byTypeAndName (nameLe : String → String → Bool) (a b : BucketRow) : Bool :=
  decide (a.key.entityType.rank < b.key.entityType.rank) ||
    a.key.entityType == b.key.entityType && nameLe a.entityName b.entityName

def metricBucketLogList (nameLe : String → String → Bool) (t : BucketTables)
    (stations : List MeteredStation) (input : ShiftRecapInput) : List BucketRow :=
  findArchivedFirst t (input.filter stations) (byTypeAndName nameLe)

/-- What `jobMetricsList` answers for a row. -/
structure JobMetric where
  id : Uuid
  jobId : Uuid
  jobName : String
  stationId : Option Uuid
  additive : KpiKey → ℤ
  standardCycle : Option ℚ
  avgCycleTimeSeconds : Option ℚ

def jobMetric (r : BucketRow) : JobMetric where
  id := r.id
  jobId := r.key.entityId
  jobName := r.entityName
  stationId := (r.path.tail.dropLast.find? fun segment ↦ segment.1 == .station).map Prod.snd
  additive := r.kpis.additive
  standardCycle := r.kpis.currentStandardCycle
  avgCycleTimeSeconds :=
    if 0 < r.kpis.additive .totalCycles then
      some (r.kpis.additive .totalCycleSeconds / r.kpis.additive .totalCycles)
    else none

/-- The `rows` of `jobMetricsList`. -/
def jobMetricsRows (nameLe : String → String → Bool) (t : BucketTables)
    (stations : List MeteredStation) (input : ShiftRecapInput) : List BucketRow :=
  findArchivedFirst t (input.jobFilter stations) fun a b ↦ nameLe a.entityName b.entityName

def jobMetricsList (nameLe : String → String → Bool) (t : BucketTables)
    (stations : List MeteredStation) (input : ShiftRecapInput) : List JobMetric :=
  (jobMetricsRows nameLe t stations input).map jobMetric

/-! ## When they are complete -/

/-- The order makes no difference to what is listed. -/
theorem findArchivedFirst_perm (t : BucketTables) (filter : BucketRow → Bool)
    (orderBy : BucketRow → BucketRow → Bool) : findArchivedFirst t filter orderBy ~
      Table.firstNonempty (t.log.rows.filter filter) (t.live.rows.filter filter) := by
  rw [findArchivedFirst, Table.firstNonempty, Table.firstNonempty, List.length_mergeSort]
  split
  · exact List.mergeSort_perm _ _
  · exact List.mergeSort_perm _ _

theorem reports_findArchivedFirst_iff {t : BucketTables} {filter : BucketRow → Bool}
    {orderBy : BucketRow → BucketRow → Bool} :
    Table.Reports t.live t.log filter (findArchivedFirst t filter orderBy) ↔
      Table.OneSided t.live t.log filter := by
  have hperm := findArchivedFirst_perm t filter orderBy
  rw [← Table.reports_firstNonempty_iff]
  exact ⟨fun h ↦ h.perm hperm.symm, fun h ↦ h.perm hperm⟩

/-- **When the reports have every bucket of their filter once**, with the values it stands for:
when no archived bucket meets the filter, or no live one does, copies apart. -/
theorem bucketReports_complete_iff (nameLe : String → String → Bool) (nextDay : Time → Time)
    (t : BucketTables) (stations : List MeteredStation) :
    (∀ input : HourlyBucketSearchInput,
      Table.Reports t.live t.log (input.filter nextDay)
          (hourlyBucketSearch nameLe nextDay t input) ↔
        Table.OneSided t.live t.log (input.filter nextDay)) ∧
    (∀ input : ShiftRecapInput,
      Table.Reports t.live t.log (input.filter stations)
          (metricBucketLogList nameLe t stations input) ↔
        Table.OneSided t.live t.log (input.filter stations)) ∧
    ∀ input : ShiftRecapInput,
      jobMetricsList nameLe t stations input =
          (jobMetricsRows nameLe t stations input).map jobMetric ∧
        (Table.Reports t.live t.log (input.jobFilter stations)
            (jobMetricsRows nameLe t stations input) ↔
          Table.OneSided t.live t.log (input.jobFilter stations)) := by
  refine ⟨fun input ↦ ?_, fun input ↦ ?_, fun input ↦ ⟨rfl, ?_⟩⟩
  · exact reports_findArchivedFirst_iff
  · exact reports_findArchivedFirst_iff
  · exact reports_findArchivedFirst_iff

/-- Two hours of a station, of which the first is archived. -/
def firstHourArchived : BucketTables where
  live := insertBuckets default [sampleHour 3600000 5]
  log := insertBuckets default [sampleHour 0 4]

/-- The search for the hours of the station. -/
def hoursOfStation : HourlyBucketSearchInput where
  siteId := 1
  workCenterId := none
  stationId := some 2
  startDate := none
  endDate := none
  shiftInstanceId := none

/-- The search lists the archived hour, and not the live one. -/
theorem not_hourlyBucketSearch_complete :
    ¬ Table.Reports firstHourArchived.live firstHourArchived.log (hoursOfStation.filter id)
      (hourlyBucketSearch (fun a b ↦ decide (a ≤ b)) id firstHourArchived hoursOfStation) := by
  intro h
  have hstart : ∀ r ∈ hourlyBucketSearch (fun a b ↦ decide (a ≤ b)) id firstHourArchived
      hoursOfStation, r.startTime = 0 := by decide +kernel
  obtain ⟨r, hr⟩ : ∃ r, firstHourArchived.live.find (hourKey 2 3600000) = some r :=
    Option.isSome_iff_exists.mp (by decide +kernel)
  obtain ⟨hmem, hkey⟩ := Table.find_eq_some_iff.mp hr
  have hfilter : hoursOfStation.filter id r = true := by
    have hall : ∀ r ∈ firstHourArchived.live.rows, hoursOfStation.filter id r = true := by
      decide +kernel
    exact hall r hmem
  have hvisible : Table.visible firstHourArchived.live firstHourArchived.log
      (bucketRowSchema.key r) = some r := by
    rw [Table.visible, hkey, hr, Option.some_or]
  have hzero := hstart r ((h.mem_iff r).mpr ⟨hfilter, hvisible⟩)
  have hlater : r.startTime = 3600000 := congrArg BucketKey.startTime hkey
  exact absurd (hzero.symm.trans hlater) (by decide)

end RwServer
