import Mathlib
import RwServer.Metrics.Buckets
import RwServer.Metrics.Shifts

/-!
# Scaffolding empty buckets

`ensureBuckets` inserts an empty row for the shift of a timestamp and for each hour of that shift,
or for the 24 clock hours of the local day where the timestamp is in no shift. A row whose key is
taken is skipped, so what is there stays as it is, and what is missing becomes an empty row.
-/

namespace RwServer

open Windows Relational

/-! ## Names, paths and business dates -/

/-- A workcenter and its ancestors, the nearest first. The recursion goes up at most as many steps
as there are workcenters. -/
def workcenterChain (workcenters : List Workcenter) : ℕ → Uuid → List Workcenter
  | 0, _ => []
  | steps + 1, id => match workcenters.find? (·.id == id) with
    | none => []
    | some w => w :: (w.parentId.map (workcenterChain workcenters steps)).getD []

/-- A workcenter of the chain is the row under its id. -/
theorem find_of_mem_workcenterChain {workcenters : List Workcenter} {steps : ℕ} {id : Uuid}
    {w : Workcenter} (h : w ∈ workcenterChain workcenters steps id) :
    workcenters.find? (·.id == w.id) = some w := by
  induction steps generalizing id with
  | zero => exact absurd h (by simp [workcenterChain])
  | succ steps ih =>
    rw [workcenterChain] at h
    split at h
    · exact absurd h (by simp)
    · rename_i v hv
      rcases List.mem_cons.mp h with rfl | h
      · rw [beq_iff_eq.mp (List.find?_some (p := fun x : Workcenter ↦ x.id == id) hv)]
        exact hv
      · cases hparent : v.parentId with
        | none => exact absurd h (by simp [hparent])
        | some parentId =>
          rw [hparent] at h
          exact ih h

namespace Facility

/-- The workcenters above a station, the nearest first. -/
def workcentersAbove (f : Facility) (stationId : Uuid) : List Workcenter :=
  ((f.workcenterIdOf .station stationId).map
    (workcenterChain f.workcenters f.workcenters.length)).getD []

/-- The path of the nearest of some workcenters, which are listed upwards. -/
def pathThrough (siteId : Uuid) (chain : List Workcenter) : List (BucketEntityType × Uuid) :=
  (.site, siteId) :: (chain.reverse.map fun w ↦ (.workcenter, w.id))

/-- `resolveEntityPath` of a station. -/
def stationPath (f : Facility) (siteId stationId : Uuid) : List (BucketEntityType × Uuid) :=
  pathThrough siteId (f.workcentersAbove stationId) ++ [(.station, stationId)]

/-- `resolveEntityName` of a station. -/
def stationName (f : Facility) (stationId : Uuid) : String :=
  ((f.station stationId).map MeteredStation.name).getD ""

end Facility

def getLocalCalendarDate (timestamp : Time) (timezone : Timezone) : Time :=
  let offsetMs := getTimezoneOffsetMs timezone timestamp
  let localMs := timestamp + offsetMs
  localMs / msPerDay * msPerDay

def resolveBusinessDate (f : Facility) (startTime : Time) (shiftInstanceId : Option Uuid)
    (timezone : Timezone) : Time :=
  let instanceRow := shiftInstanceId.bind fun id ↦ f.shiftInstances.find? (·.id == id)
  (instanceRow.map ShiftInstance.businessDate).getD (getLocalCalendarDate startTime timezone)

theorem eq_of_mem_workcentersAbove {f : Facility} {stationId : Uuid} {w v : Workcenter}
    (hw : w ∈ f.workcentersAbove stationId) (hv : v ∈ f.workcentersAbove stationId)
    (h : w.id = v.id) : w = v := by
  have hfind : ∀ x ∈ f.workcentersAbove stationId, f.workcenters.find? (·.id == x.id) = some x := by
    intro x hx
    rw [Facility.workcentersAbove] at hx
    cases hid : f.workcenterIdOf .station stationId with
    | none => exact absurd hx (by simp [hid])
    | some id =>
      rw [hid] at hx
      exact find_of_mem_workcenterChain hx
  have hw' := hfind w hw
  rw [h, hfind v hv] at hw'
  exact (Option.some_inj.mp hw').symm

/-! ## `ensureBuckets` -/

section

variable (f : Facility) (siteId stationId : Uuid) (timestamp : Time)

/-- The shift of a station at a timestamp. -/
def stationShift : Option ShiftWindow := getShiftForEntity f .station stationId siteId timestamp

/-- The hours of a station around a timestamp. -/
def stationHours : List HourBucket :=
  getHourBucketsForEntity f .station stationId siteId timestamp (f.siteTimezone siteId)

/-- An empty row of a station; the id is drawn when the row is inserted. -/
def emptyRow (granularity : BucketGranularity) (granularityName : String) (startTime : Time)
    (durationMs : ℤ) : BucketRow :=
  let shift := stationShift f siteId stationId timestamp
  let shiftInstanceId := shift.map ShiftWindow.shiftInstanceId
  let station := f.station stationId
  { id := 0
    siteId := siteId
    key := ⟨.station, stationId, granularity, startTime⟩
    entityName := f.stationName stationId
    path := f.stationPath siteId stationId
    granularityName := granularityName
    durationMs := durationMs
    shiftInstanceId := shiftInstanceId
    businessDate :=
      some (resolveBusinessDate f timestamp shiftInstanceId (f.siteTimezone siteId))
    businessShift := shift.map ShiftWindow.shiftName
    kpis := zeroKpis.store
    currentJobId := station.bind MeteredStation.currentJobId
    currentJobName := station.bind MeteredStation.currentJobName }

/-- The rows of the `INSERT`. -/
def scaffoldRows : List BucketRow :=
  let empty := emptyRow f siteId stationId timestamp
  let shiftRows := (stationShift f siteId stationId timestamp).toList.map fun shift ↦
    empty .shift shift.shiftName shift.startTime shift.durationMs
  shiftRows ++ (stationHours f siteId stationId timestamp).map fun b ↦
    empty .hour "Hour" b.startTime b.durationMs

/-- The empty row of an hour. -/
def emptyHour (b : HourBucket) : BucketRow :=
  emptyRow f siteId stationId timestamp .hour "Hour" b.startTime b.durationMs

/-- `ensureBuckets` for a station. -/
def ensureBuckets (live : Table bucketRowSchema) : Table bucketRowSchema :=
  insertBuckets live (scaffoldRows f siteId stationId timestamp)

end

section

variable {f : Facility} {siteId stationId : Uuid} {timestamp : Time}
  {live : Table bucketRowSchema} {r : BucketRow} {k : BucketKey}

/-- What a scaffolded row is, apart from names and dates. -/
theorem of_mem_scaffoldRows (h : r ∈ scaffoldRows f siteId stationId timestamp) :
    r.kpis = zeroKpis.store ∧
      ((∃ shift ∈ stationShift f siteId stationId timestamp,
          r.key = ⟨.station, stationId, .shift, shift.startTime⟩) ∨
        ∃ b ∈ stationHours f siteId stationId timestamp,
          r.key = hourKey stationId b.startTime ∧ r.window = b.window) := by
  rcases List.mem_append.mp h with h | h
  · obtain ⟨shift, hshift, rfl⟩ := List.mem_map.mp h
    exact ⟨rfl, .inl ⟨shift, Option.mem_toList.mp hshift, rfl⟩⟩
  · obtain ⟨b, hb, rfl⟩ := List.mem_map.mp h
    exact ⟨rfl, .inr ⟨b, hb, rfl, rfl⟩⟩

theorem exists_scaffoldRow {b : HourBucket} (hb : b ∈ stationHours f siteId stationId timestamp) :
    ∃ r ∈ scaffoldRows f siteId stationId timestamp, r.key = hourKey stationId b.startTime :=
  ⟨_, List.mem_append_right _ (List.mem_map_of_mem hb), rfl⟩

theorem mem_of_mem_ensureBuckets (h : r ∈ (ensureBuckets f siteId stationId timestamp live).rows) :
    r ∈ live.rows ∨
      ∃ a ∈ scaffoldRows f siteId stationId timestamp, ∃ id, r = { a with id := id } :=
  mem_of_mem_insertBuckets h

/-- A row that is there stays as it is. -/
theorem find_ensureBuckets_of_some (h : live.find k = some r) :
    (ensureBuckets f siteId stationId timestamp live).find k = some r :=
  find_insertBuckets_of_some h

/-- A missing hour of the grid becomes an empty row. -/
theorem find_ensureBuckets_of_hour {b : HourBucket}
    (hb : b ∈ stationHours f siteId stationId timestamp)
    (h : live.find (hourKey stationId b.startTime) = none) :
    ∃ r, (ensureBuckets f siteId stationId timestamp live).find (hourKey stationId b.startTime)
      = some r ∧ r.kpis = zeroKpis.store := by
  obtain ⟨a, ha, id, -, hfind⟩ := find_insertBuckets_of_none h (exists_scaffoldRow hb)
  exact ⟨_, hfind, (of_mem_scaffoldRows ha).1⟩

/-- Every hour of the grid has a row. -/
theorem exists_find_ensureBuckets (live : Table bucketRowSchema) {b : HourBucket}
    (hb : b ∈ stationHours f siteId stationId timestamp) : ∃ r,
      (ensureBuckets f siteId stationId timestamp live).find (hourKey stationId b.startTime)
        = some r := by
  cases h : live.find (hourKey stationId b.startTime) with
  | none =>
    obtain ⟨r, hr, -⟩ := find_ensureBuckets_of_hour hb h
    exact ⟨r, hr⟩
  | some r => exact ⟨r, find_ensureBuckets_of_some h⟩

/-- Other hours stay missing. -/
theorem find_ensureBuckets_of_forall_ne {start : Time}
    (h : ∀ b ∈ stationHours f siteId stationId timestamp, b.startTime ≠ start) :
    (ensureBuckets f siteId stationId timestamp live).find (hourKey stationId start)
      = live.find (hourKey stationId start) := by
  refine find_insertBuckets_of_forall_ne fun a ha hkey ↦ ?_
  rcases (of_mem_scaffoldRows ha).2 with ⟨shift, -, hshift⟩ | ⟨b, hb, hb', -⟩
  · rw [hkey] at hshift
    exact nomatch (congrArg BucketKey.granularity hshift : BucketGranularity.hour = .shift)
  · rw [hkey] at hb'
    exact h b hb (congrArg BucketKey.startTime hb').symm

end

end RwServer
