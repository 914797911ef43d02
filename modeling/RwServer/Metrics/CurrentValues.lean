import Mathlib
import RwServer.Foundation.FirstByKey
import RwServer.Metrics.ScheduleEdits

/-!
# The current value of a bucket metric

A stream of metric values begins with the current ones, and a metric of a bucket is read from the
row of its entity and granularity that starts last. The hours of a shift or of a day are scaffolded
ahead of the time, so that the row that starts last may lie in the future.

`current_bucket_iff` says when the value that is read belongs to the present.
-/

namespace RwServer

open Windows Relational Transition

/-! ## The values of a row -/

/-- The keys of a `BucketSnapshot`. -/
inductive SnapshotKey
  | kpi (key : KpiKey)
  | goodCycles
  | goodItems
  | plannedProductionSeconds
  | currentStandardCycle
  | availability
  | performance
  | quality
  | oee
  | shiftInstanceId
  | businessDate
  | businessShift
  | currentJobId
  | currentJobName
deriving DecidableEq, Repr

inductive MetricValue
  | number (value : ℚ)
  | text (value : String)
  | uuid (value : Uuid)
  | date (value : Time)
  | null
deriving DecidableEq, Repr

/-- `DECIMAL(10,6)`. -/
def toDecimalSix (x : ℚ) : ℚ := sqlRound (x * 1000000) / 1000000

namespace BucketRow

variable (r : BucketRow)

/-- A column, as a rational number. -/
def kpi (key : KpiKey) : ℚ := r.kpis.additive key

/-- The generated columns of the ratios; `none` where nothing was to be produced. -/
def generatedRatio (positive : ℚ) (numerator denominator : ℚ) : Option ℚ :=
  if r.kpi .elapsedPlannedProductionSeconds = 0 then none
  else if 0 < positive then some (toDecimalSix (numerator / denominator))
  else some 0

def availability : Option ℚ :=
  if 0 < r.kpi .elapsedPlannedProductionSeconds then
    some (toDecimalSix (r.kpi .runSeconds / r.kpi .elapsedPlannedProductionSeconds))
  else none

def performance : Option ℚ :=
  r.generatedRatio (r.kpi .runSeconds) (r.kpi .idealCycleSeconds) (r.kpi .runSeconds)

def quality : Option ℚ :=
  r.generatedRatio (r.kpi .totalItems) (r.kpi .totalItems - r.kpi .badItems) (r.kpi .totalItems)

def oee : Option ℚ :=
  r.generatedRatio (r.kpi .totalItems)
    (r.kpi .idealCycleSeconds * (r.kpi .totalItems - r.kpi .badItems))
    (r.kpi .elapsedPlannedProductionSeconds * r.kpi .totalItems)

end BucketRow

def MetricValue.ofOption {α : Type*} (value : α → MetricValue) : Option α → MetricValue
  | none => .null
  | some a => value a

/-- `rowToSnapshot`, at one key. -/
def rowToSnapshot (r : BucketRow) : SnapshotKey → MetricValue
  | .kpi key => .number (r.kpi key)
  | .goodCycles => .number (r.kpi .totalCycles - r.kpi .badCycles)
  | .goodItems => .number (r.kpi .totalItems - r.kpi .badItems)
  | .plannedProductionSeconds => .number (r.durationMs / 1000 - r.kpi .plannedDownSeconds)
  | .currentStandardCycle => .ofOption .number r.kpis.currentStandardCycle
  | .availability => .ofOption .number r.availability
  | .performance => .ofOption .number r.performance
  | .quality => .ofOption .number r.quality
  | .oee => .ofOption .number r.oee
  | .shiftInstanceId => .ofOption .uuid r.shiftInstanceId
  | .businessDate => .ofOption .date r.businessDate
  | .businessShift => .ofOption .text r.businessShift
  | .currentJobId => .ofOption .uuid r.currentJobId
  | .currentJobName => .ofOption .text r.currentJobName

/-! ## Reading the current values -/

/-- The columns of `metricValueKey`. -/
structure MetricValueKey where
  entityType : BucketEntityType
  entityId : Uuid
  granularity : BucketGranularity
deriving DecidableEq, Repr

/-- A requested metric; a name that is no key of a snapshot is `none`. -/
structure BucketMetricRequest where
  key : MetricValueKey
  metricKey : Option SnapshotKey
deriving DecidableEq, Repr

/-- A current value, without the names of the entity. -/
structure CurrentMetricValue where
  siteId : Uuid
  request : BucketMetricRequest
  value : MetricValue
  observedAt : Time
  granularity : BucketGranularity
  granularityName : Option String
  startTime : Option Time
  durationMs : Option ℤ
  shiftInstanceId : Option Uuid
  businessDate : Option Time
  businessShift : Option String
deriving DecidableEq, Repr

def BucketRow.metricValueKey (r : BucketRow) : MetricValueKey :=
  ⟨r.key.entityType, r.key.entityId, r.key.granularity⟩

/-- The place of a value in the enumeration of the column. -/
def entityTypeRank : BucketEntityType → ℕ
  | .station => 0
  | .workcenter => 1
  | .site => 2
  | .job => 3

def granularityRank : BucketGranularity → ℕ
  | .minute => 0
  | .hour => 1
  | .shift => 2
  | .day => 3

/-- The columns of the order: entity type, entity and granularity upwards, start and update
downwards. -/
def bucketOrder (updatedAt : Uuid → Time) (r : BucketRow) : ℕ ×ₗ ℕ ×ₗ ℕ ×ₗ ℤ ×ₗ ℤ :=
  toLex (entityTypeRank r.key.entityType, toLex (r.key.entityId,
    toLex (granularityRank r.key.granularity, toLex (-r.startTime, -updatedAt r.id))))

/-- The value of a request, from the row that has been selected for it, where there is one. -/
def currentMetricValue (updatedAt : Uuid → Time) (siteId : Uuid) (request : BucketMetricRequest)
    (row : Option BucketRow) : CurrentMetricValue where
  siteId := siteId
  request := request
  value := MetricValue.ofOption id
    (row.bind fun r ↦ request.metricKey.map fun metricKey ↦ rowToSnapshot r metricKey)
  observedAt := (row.map fun r ↦ updatedAt r.id).getD 0
  granularity := (row.map fun r ↦ r.key.granularity).getD request.key.granularity
  granularityName := row.map BucketRow.granularityName
  startTime := row.map BucketRow.startTime
  durationMs := row.map BucketRow.durationMs
  shiftInstanceId := row.bind BucketRow.shiftInstanceId
  businessDate := row.bind BucketRow.businessDate
  businessShift := row.bind BucketRow.businessShift

/-- `getCurrentBucketMetricValues`; `updatedAt` is the column of the rows by their ids. -/
def getCurrentBucketMetricValues (live : Table bucketRowSchema) (updatedAt : Uuid → Time)
    (siteId : Uuid) (requests : List BucketMetricRequest) : List CurrentMetricValue :=
  let queryKeys := requests.map BucketMetricRequest.key
  let rows := orderBy (bucketOrder updatedAt) (live.rows.filter fun r ↦
    decide (r.siteId = siteId) &&
      requests.any fun request ↦ decide (r.metricValueKey = request.key))
  let latestRowByKey := firstByKey BucketRow.metricValueKey
    (rows.filter fun r ↦ decide (r.metricValueKey ∈ queryKeys))
  requests.map fun request ↦
    currentMetricValue updatedAt siteId request (latestRowByKey request.key)

/-! ## Which row is read -/

/-- The rows of a requested entity and granularity. -/
def requestedRows (live : Table bucketRowSchema) (siteId : Uuid) (key : MetricValueKey) :
    List BucketRow :=
  live.rows.filter fun r ↦ decide (r.siteId = siteId ∧ r.metricValueKey = key)

/-- The value belongs to a row whose window contains the time. -/
def IsCurrent (live : Table bucketRowSchema) (updatedAt : Uuid → Time) (now : Time)
    (v : CurrentMetricValue) : Prop :=
  ∃ r ∈ requestedRows live v.siteId v.request.key, r.window.Contains now ∧
    v = currentMetricValue updatedAt v.siteId v.request (some r)

/-- No row starts later than all that contain the time. -/
def NoneLater (live : Table bucketRowSchema) (siteId : Uuid) (key : MetricValueKey) (now : Time) :
    Prop :=
  ∀ r ∈ requestedRows live siteId key, ∃ current ∈ requestedRows live siteId key,
    current.window.Contains now ∧ r.startTime ≤ current.startTime

section

variable {live : Table bucketRowSchema} {updatedAt : Uuid → Time} {siteId : Uuid}
  {requests : List BucketMetricRequest} {key : MetricValueKey} {now : Time} {r a : BucketRow}

theorem mem_requestedRows :
    r ∈ requestedRows live siteId key
      ↔ r ∈ live.rows ∧ r.siteId = siteId ∧ r.metricValueKey = key := by
  rw [requestedRows, List.mem_filter, decide_eq_true_eq]

/-- The order of the query puts the later row of two of a key first. -/
theorem startTime_le_of_bucketOrder_le (hkey : r.metricValueKey = a.metricValueKey)
    (hle : bucketOrder updatedAt r ≤ bucketOrder updatedAt a) : a.startTime ≤ r.startTime := by
  have htype : r.key.entityType = a.key.entityType := congrArg MetricValueKey.entityType hkey
  have hentity : r.key.entityId = a.key.entityId := congrArg MetricValueKey.entityId hkey
  have hgranularity : r.key.granularity = a.key.granularity :=
    congrArg MetricValueKey.granularity hkey
  simp only [bucketOrder, htype, hentity, hgranularity, Prod.Lex.toLex_le_toLex, lt_irrefl,
    true_and, false_or] at hle
  rcases hle with hlt | ⟨heq, -⟩
  · exact (neg_lt_neg_iff.mp hlt).le
  · exact (neg_injective heq).ge

/-- A row of the unique index. -/
theorem eq_of_startTime_eq (hr : r ∈ requestedRows live siteId key)
    (ha : a ∈ requestedRows live siteId key) (hstart : r.startTime = a.startTime) : r = a := by
  obtain ⟨hr, -, hrkey⟩ := mem_requestedRows.mp hr
  obtain ⟨ha, -, hakey⟩ := mem_requestedRows.mp ha
  have hkey := hrkey.trans hakey.symm
  exact live.eq_of_key_eq hr ha (BucketKey.ext (congrArg MetricValueKey.entityType hkey)
    (congrArg MetricValueKey.entityId hkey) (congrArg MetricValueKey.granularity hkey) hstart)

/-- The row that is selected for a request: the one that starts last. -/
theorem exists_selected {v : CurrentMetricValue}
    (hv : v ∈ getCurrentBucketMetricValues live updatedAt siteId requests) : v.siteId = siteId ∧
      (requestedRows live siteId v.request.key ≠ [] →
        ∃ a ∈ requestedRows live siteId v.request.key,
          v = currentMetricValue updatedAt siteId v.request (some a) ∧
            ∀ b ∈ requestedRows live siteId v.request.key, b.startTime ≤ a.startTime) := by
  obtain ⟨request, hrequest, rfl⟩ := List.mem_map.mp hv
  refine ⟨rfl, fun hne ↦ ?_⟩
  -- the rows of the loop, as far as they have the key of the request
  set rows := (orderBy (bucketOrder updatedAt) (live.rows.filter fun r ↦
    decide (r.siteId = siteId) && requests.any fun request ↦
      decide (r.metricValueKey = request.key))).filter fun r ↦
        decide (r.metricValueKey ∈ requests.map BucketMetricRequest.key) with hrows
  have hmem : ∀ b, b ∈ rows ∧ b.metricValueKey = request.key ↔
      b ∈ requestedRows live siteId request.key := by
    intro b
    rw [mem_requestedRows, hrows, List.mem_filter, mem_orderBy, List.mem_filter]
    simp only [Bool.and_eq_true, decide_eq_true_eq, List.any_eq_true]
    constructor
    · rintro ⟨⟨⟨hb, hsite, -⟩, -⟩, hkey⟩
      exact ⟨hb, hsite, hkey⟩
    · rintro ⟨hb, hsite, hkey⟩
      exact ⟨⟨⟨hb, hsite, request, hrequest, hkey⟩, hkey ▸ List.mem_map_of_mem hrequest⟩, hkey⟩
  have hsorted := (pairwise_orderBy (bucketOrder updatedAt) (live.rows.filter fun r ↦
    decide (r.siteId = siteId) && requests.any fun request ↦
      decide (r.metricValueKey = request.key))).filter fun r ↦
        decide (r.metricValueKey ∈ requests.map BucketMetricRequest.key)
  obtain ⟨b, hb⟩ := List.exists_mem_of_ne_nil _ hne
  obtain ⟨hbrows, hbkey⟩ := (hmem b).mpr hb
  obtain ⟨a, ha⟩ := Option.isSome_iff_exists.mp (isSome_firstByKey_iff.mpr ⟨b, hbrows, hbkey⟩)
  obtain ⟨harows, hakey, hfirst⟩ := rel_of_firstByKey hsorted ha
  refine ⟨a, (hmem a).mp ⟨harows, hakey⟩, congrArg _ ha, fun c hc ↦ ?_⟩
  obtain ⟨hcrows, hckey⟩ := (hmem c).mpr hc
  rcases hfirst c hcrows hckey with rfl | hle
  · exact le_rfl
  · exact startTime_le_of_bucketOrder_le (hakey.trans hckey.symm) hle

/-- **The current value is that of the present bucket** exactly when no row starts later than all
that contain the time of the call. -/
theorem current_bucket_iff {v : CurrentMetricValue}
    (hv : v ∈ getCurrentBucketMetricValues live updatedAt siteId requests)
    (hpresent : ∃ r ∈ requestedRows live siteId v.request.key, r.window.Contains now) :
    IsCurrent live updatedAt now v ↔ NoneLater live siteId v.request.key now := by
  obtain ⟨rfl, hselected⟩ := exists_selected hv
  obtain ⟨present, hpresent, -⟩ := hpresent
  obtain ⟨a, ha, hva, hlast⟩ := hselected (List.ne_nil_of_mem hpresent)
  constructor
  · rintro ⟨r, hr, hcontains, hvr⟩ b hb
    have hstart : r.startTime = a.startTime :=
      Option.some.inj (congrArg CurrentMetricValue.startTime (hvr.symm.trans hva))
    exact ⟨r, hr, hcontains, hstart ▸ hlast b hb⟩
  · intro hnone
    obtain ⟨current, hcurrent, hcontains, hle⟩ := hnone a ha
    have heq := eq_of_startTime_eq hcurrent ha (le_antisymm (hlast current hcurrent) hle)
    exact ⟨a, ha, heq ▸ hcontains, hva⟩

end

/-! ## Hours that are scaffolded ahead -/

section

variable {f : Facility} {siteId stationId : Uuid} {t now : Time} {live : Table bucketRowSchema}

/-- While an hour of the shift or day around a scaffolded timestamp lies ahead, the value that is
read for the hour of a station is that of a later one. -/
theorem not_noneLater_of_hour_ahead
    (hsite : ∀ r ∈ live.rows, r.key.entityId = stationId → r.siteId = siteId) {b : HourBucket}
    (hb : b ∈ stationHours f siteId stationId t) (hahead : now < b.startTime) :
    ¬NoneLater (ensureBuckets f siteId stationId t live) siteId ⟨.station, stationId, .hour⟩
      now := by
  intro hnone
  obtain ⟨r, hr⟩ := exists_find_ensureBuckets live hb
  obtain ⟨hmem, hkey⟩ := Table.find_eq_some_iff.mp hr
  replace hkey : r.key = hourKey stationId b.startTime := hkey
  have hrsite : r.siteId = siteId := by
    rcases mem_of_mem_ensureBuckets hmem with hold | ⟨a, ha, id, rfl⟩
    · exact hsite r hold (congrArg BucketKey.entityId hkey)
    · rcases List.mem_append.mp ha with ha | ha
      all_goals
        obtain ⟨_, -, rfl⟩ := List.mem_map.mp ha
        rfl
  have hrequested : r ∈ requestedRows (ensureBuckets f siteId stationId t live) siteId
      ⟨.station, stationId, .hour⟩ :=
    mem_requestedRows.mpr ⟨hmem, hrsite, by rw [BucketRow.metricValueKey, hkey]; rfl⟩
  obtain ⟨current, -, ⟨hstart, -⟩, hle⟩ := hnone r hrequested
  have hrstart : r.startTime = b.startTime := congrArg BucketKey.startTime hkey
  exact lt_irrefl now (hahead.trans_le (hrstart ▸ hle.trans hstart))

end

/-! ## A day of clock hours -/

instance decidableNoneLater (live : Table bucketRowSchema) (siteId : Uuid) (key : MetricValueKey)
    (now : Time) : Decidable (NoneLater live siteId key now) :=
  inferInstanceAs (Decidable (∀ r ∈ requestedRows live siteId key,
    ∃ current ∈ requestedRows live siteId key,
      (current.startTime ≤ now ∧ now < current.endTime) ∧ r.startTime ≤ current.startTime))

/-- The cycles of the hour of the station. -/
def hourRequest : BucketMetricRequest := ⟨⟨.station, 2, .hour⟩, some (.kpi .totalCycles)⟩

/-- A scaffold at a time of the first day. -/
def scaffoldAt (now : Time) : List SiteCall := [⟨now, .ensureBuckets now⟩]

/-- Whether a row of the entity and granularity of a value contains the time. -/
def presentRows (live : Table bucketRowSchema) (now : Time) (v : CurrentMetricValue) : Bool :=
  (requestedRows live v.siteId v.request.key).any fun r ↦ decide (r.window.Contains now)

theorem exists_of_presentRows {live : Table bucketRowSchema} {now : Time} {v : CurrentMetricValue}
    (h : presentRows live now v = true) :
    ∃ r ∈ requestedRows live v.siteId v.request.key, r.window.Contains now := by
  obtain ⟨r, hr, hcontains⟩ := List.any_eq_true.mp h
  exact ⟨r, hr, of_decide_eq_true hcontains⟩

/-- In the last hour of the day the value is that of the hour. -/
theorem current_bucket_lastHour : ∃ s : ScheduledSite,
    Run (siteStep 1 2) (fun _ _ ↦ True) unscheduledSite (scaffoldAt (23 * msPerHour + 1)) s ∧
    ∃ v ∈ getCurrentBucketMetricValues s.live (fun _ ↦ 0) 1 [hourRequest],
      v.startTime = some (23 * msPerHour) ∧
        IsCurrent s.live (fun _ ↦ 0) (23 * msPerHour + 1) v := by
  have hexecute : (execute (siteStep 1 2) (fun _ _ ↦ True) (scaffoldAt (23 * msPerHour + 1))
      unscheduledSite).any (fun s ↦
        (getCurrentBucketMetricValues s.live (fun _ ↦ 0) 1 [hourRequest]).any fun v ↦
          decide (v.startTime = some (23 * msPerHour) ∧
            NoneLater s.live 1 v.request.key (23 * msPerHour + 1) ∧
            presentRows s.live (23 * msPerHour + 1) v = true)) = true := by
    decide +kernel
  obtain ⟨s, hs, hany⟩ := (Option.any_eq_true _ _).mp hexecute
  obtain ⟨v, hv, hfacts⟩ := List.any_eq_true.mp hany
  obtain ⟨hstart, hnone, hpresent⟩ := of_decide_eq_true hfacts
  obtain ⟨hsite, -⟩ := exists_selected hv
  have hrows := exists_of_presentRows hpresent
  rw [hsite] at hrows
  exact ⟨s, run_of_execute hs, v, hv, hstart, (current_bucket_iff hv hrows).mpr hnone⟩

/-- At half past five the value is that of the hour before midnight. -/
theorem not_current_bucket : ∃ s : ScheduledSite,
    Run (siteStep 1 2) (fun _ _ ↦ True) unscheduledSite
      (scaffoldAt (5 * msPerHour + 30 * msPerMinute)) s ∧
    ∃ v ∈ getCurrentBucketMetricValues s.live (fun _ ↦ 0) 1 [hourRequest],
      v.startTime = some (23 * msPerHour) ∧
      (∃ r ∈ requestedRows s.live v.siteId v.request.key,
        r.window.Contains (5 * msPerHour + 30 * msPerMinute)) ∧
      ¬IsCurrent s.live (fun _ ↦ 0) (5 * msPerHour + 30 * msPerMinute) v := by
  have hexecute : (execute (siteStep 1 2) (fun _ _ ↦ True)
      (scaffoldAt (5 * msPerHour + 30 * msPerMinute)) unscheduledSite).any (fun s ↦
        (getCurrentBucketMetricValues s.live (fun _ ↦ 0) 1 [hourRequest]).any fun v ↦
          decide (v.startTime = some (23 * msPerHour) ∧
            presentRows s.live (5 * msPerHour + 30 * msPerMinute) v = true)) = true := by
    decide +kernel
  obtain ⟨s, hs, hany⟩ := (Option.any_eq_true _ _).mp hexecute
  obtain ⟨v, hv, hfacts⟩ := List.any_eq_true.mp hany
  obtain ⟨hstart, hpresent⟩ := of_decide_eq_true hfacts
  refine ⟨s, run_of_execute hs, v, hv, hstart, exists_of_presentRows hpresent, ?_⟩
  rintro ⟨r, -, ⟨hlo, -⟩, hvr⟩
  have hrstart : r.startTime = 23 * msPerHour :=
    Option.some.inj ((congrArg CurrentMetricValue.startTime hvr).symm.trans hstart)
  replace hlo : r.startTime ≤ 5 * msPerHour + 30 * msPerMinute := hlo
  rw [hrstart] at hlo
  exact absurd hlo (by decide)

end RwServer
