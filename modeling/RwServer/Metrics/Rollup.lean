import Mathlib
import RwServer.Metrics.Scaffold
import RwServer.Metrics.Upsert

/-!
# Rollups

After the hours of a station have been recomputed, `rollupStationBuckets` sums them into the shifts
and days they touch, and then sums the stations of each workcenter above the station and of the site
into the rows of the parents. Each sum goes over the live and the archived rows together, and counts
a start time that has both once, with the live row.

A rollup is a list of steps, each of which computes the values of one row from the tables as they
are then and upserts them (`runSteps`). No step changes what it or an earlier one reads, so at the
end every row holds what its step computes, and to run the steps again changes nothing
(`runSteps_settled`).
-/

namespace RwServer

open Relational

/-! ## Windows -/

structure BucketWindow where
  startTime : Time
  /-- `durationSeconds`, in milliseconds. -/
  durationMs : ℤ
deriving DecidableEq, Repr

namespace BucketWindow

/-- `windowEnd`. -/
def endTime (w : BucketWindow) : Time := w.startTime + w.durationMs

/-- `bucketEnd`, the last millisecond. -/
def lastMs (w : BucketWindow) : Time := w.startTime + w.durationMs - 1

end BucketWindow

def ShiftWindow.bucketWindow (s : ShiftWindow) : BucketWindow := ⟨s.startTime, s.durationMs⟩

/-- Add a value unless one with the same start time has been seen. -/
def addUnseen {α : Type} (startTime : α → Time) (seen : List α) (x : α) : List α :=
  if seen.any fun y ↦ startTime y == startTime x then seen else seen ++ [x]

/-- Add the shift at a timestamp, if there is one. -/
def addShiftAt (f : Facility) (stationId siteId : Uuid) (seen : List ShiftWindow)
    (timestamp : Time) : List ShiftWindow :=
  match stationShift f siteId stationId timestamp with
  | some shift => addUnseen ShiftWindow.startTime seen shift
  | none => seen

def resolveAffectedShifts (f : Facility) (stationId siteId : Uuid) (buckets : List BucketWindow) :
    List ShiftWindow :=
  buckets.foldl (fun seen bucket ↦ addShiftAt f stationId siteId
    (addShiftAt f stationId siteId seen bucket.startTime) bucket.lastMs) []

def resolveAffectedDays (buckets : List BucketWindow) (timezone : Timezone) : List BucketWindow :=
  let addDayAt (seen : List BucketWindow) (timestamp : Time) :=
    addUnseen BucketWindow.startTime seen ⟨getLocalMidnightUTC timestamp timezone, msPerDay⟩
  buckets.foldl (fun seen bucket ↦
    addDayAt (addDayAt seen bucket.startTime) bucket.lastMs) []

/-! ## Parents and children -/

structure IncrementTarget where
  entityType : BucketEntityType
  entityId : Uuid
  entityName : String
  path : List (BucketEntityType × Uuid)
deriving DecidableEq

/-- The station, the workcenters above it, and the site. -/
def getIncrementTargets (f : Facility) (stationId siteId : Uuid) : List IncrementTarget :=
  let wcChain := f.workcentersAbove stationId
  let wcTargets := wcChain.map fun w ↦ (⟨.workcenter, w.id, w.name,
    Facility.pathThrough siteId (wcChain.dropWhile fun v ↦ v.id != w.id)⟩ : IncrementTarget)
  ⟨.station, stationId, f.stationName stationId, f.stationPath siteId stationId⟩ ::
    (wcTargets ++
      [⟨.site, siteId, ((f.site siteId).map Site.name).getD "", Facility.pathThrough siteId []⟩])

/-- `parentTargets`. -/
def parentTargets (f : Facility) (stationId siteId : Uuid) : List IncrementTarget :=
  (getIncrementTargets f stationId siteId).filter fun t ↦ t.entityType != .station

/-- The recursion goes down at most as many levels as there are workcenters. -/
def collectDescendantWorkcenters (workcenters : List Workcenter) : ℕ → Uuid → List Uuid
  | 0, _ => []
  | levels + 1, parentId => (workcenters.filter fun w ↦ w.parentId == some parentId).flatMap
      fun w ↦ w.id :: collectDescendantWorkcenters workcenters levels w.id

def getChildStationIds (f : Facility) : BucketEntityType → Uuid → List Uuid
  | .site, entityId =>
    (f.stations.filter fun s ↦ s.siteId == entityId && s.deletedAt.isNone).map MeteredStation.id
  | .workcenter, entityId =>
    let wcIds :=
      collectDescendantWorkcenters f.workcenters f.workcenters.length entityId ++ [entityId]
    (f.stations.filter fun s ↦ s.workcenterId.any wcIds.contains && s.deletedAt.isNone).map
      MeteredStation.id
  | .station, _ => []
  | .job, _ => []

/-! ## Sums -/

def sumKPIs (buckets : List BucketKPIs) : BucketKPIs :=
  buckets.foldl (fun result b ↦
    { result with additive := fun key ↦ result.additive key + b.additive key }) zeroKpis

def rowToKPIs (row : BucketRow) : BucketKPIs := { row.kpis with currentStandardCycle := none }

/-- The row condition of `sumBucketsInWindowWithStdCycle`. -/
def isSubBucket (entityType : BucketEntityType) (entityId : Uuid)
    (baseGranularity : BucketGranularity) (window : BucketWindow) (r : BucketRow) : Bool :=
  r.key.entityType == entityType && r.key.entityId == entityId &&
    r.key.granularity == baseGranularity && decide (window.startTime ≤ r.startTime) &&
    decide (r.startTime < window.endTime)

/-- The `buckets` of `sumBucketsInWindowWithStdCycle`, by start time. -/
def subBuckets (t : BucketTables) (entityType : BucketEntityType) (entityId : Uuid)
    (baseGranularity : BucketGranularity) (window : BucketWindow) : List BucketRow :=
  let p := isSubBucket entityType entityId baseGranularity window
  (Table.preferFirst BucketRow.startTime (t.live.rows.filter p) (t.log.rows.filter p)).insertionSort
    fun a b ↦ a.startTime ≤ b.startTime

/-- What the walk backwards through the buckets has found. -/
structure LatestValues where
  currentStandardCycle : Option ℚ := none
  currentJobId : Option Uuid := none
  currentJobName : Option String := none
deriving DecidableEq

/-- One round of the walk. The source stops it when there is nothing more to find. -/
def LatestValues.addBucket (latest : LatestValues) (b : BucketRow) : LatestValues :=
  { currentStandardCycle := latest.currentStandardCycle.or b.kpis.currentStandardCycle
    currentJobId := latest.currentJobId.or b.currentJobId
    currentJobName := if latest.currentJobId.isNone && b.currentJobId.isSome then b.currentJobName
      else latest.currentJobName }

structure WindowSum where
  kpis : BucketKPIs
  latest : LatestValues

def sumBucketsInWindowWithStdCycle (t : BucketTables) (entityType : BucketEntityType)
    (entityId : Uuid) (baseGranularity : BucketGranularity) (window : BucketWindow) : WindowSum :=
  let buckets := subBuckets t entityType entityId baseGranularity window
  ⟨sumKPIs (buckets.map rowToKPIs), buckets.reverse.foldl LatestValues.addBucket {}⟩

/-- The row condition of `sumEntityBucketsInWindow`. -/
def isChildBucket (childEntityIds : List Uuid) (childEntityType : BucketEntityType)
    (granularity : BucketGranularity) (startTime : Time) (r : BucketRow) : Bool :=
  r.key.entityType == childEntityType && childEntityIds.contains r.key.entityId &&
    r.key.granularity == granularity && decide (r.startTime = startTime)

def sumEntityBucketsInWindow (t : BucketTables) (childEntityIds : List Uuid)
    (childEntityType : BucketEntityType) (granularity : BucketGranularity) (window : BucketWindow) :
    BucketKPIs :=
  if childEntityIds.isEmpty then zeroKpis
  else
    let p := isChildBucket childEntityIds childEntityType granularity window.startTime
    sumKPIs ((Table.preferFirst (fun r : BucketRow ↦ r.key.entityId) (t.live.rows.filter p)
      (t.log.rows.filter p)).map rowToKPIs)

/-! ## `rollupStationBuckets` -/

structure RollupInput where
  stationId : Uuid
  siteId : Uuid
  affectedBuckets : List BucketWindow
  timezone : Timezone
  businessDate : Option Time
  businessShift : Option String
  /-- `stationName` and `stationPath`; looked up where they are not given. -/
  stationEntity : Option (String × List (BucketEntityType × Uuid))
  skipParentRollup : Bool

/-- An element of `stationRollupTargets`. -/
structure RollupTarget where
  granularity : BucketGranularity
  window : BucketWindow
  granularityName : String
  shiftInstanceId : Option Uuid
  businessDate : Option Time
  businessShift : Option String
deriving DecidableEq

section

variable (f : Facility) (input : RollupInput)

def RollupInput.stationName : String :=
  (input.stationEntity.map Prod.fst).getD (f.stationName input.stationId)

def RollupInput.stationPath : List (BucketEntityType × Uuid) :=
  (input.stationEntity.map Prod.snd).getD (f.stationPath input.siteId input.stationId)

def RollupInput.affectedShifts : List ShiftWindow :=
  resolveAffectedShifts f input.stationId input.siteId input.affectedBuckets

def RollupInput.affectedDays : List BucketWindow :=
  resolveAffectedDays input.affectedBuckets input.timezone

/-- What is stored for a row of the station, summed over its hours. -/
def timeInput (target : RollupTarget) (t : BucketTables) : UpsertInput :=
  let sum := sumBucketsInWindowWithStdCycle t .station input.stationId .hour target.window
  { siteId := input.siteId
    key := ⟨.station, input.stationId, target.granularity, target.window.startTime⟩
    granularityName := target.granularityName
    durationMs := target.window.durationMs
    kpis := sum.kpis
    entityName := input.stationName f
    path := input.stationPath f
    currentStandardCycle := some sum.latest.currentStandardCycle
    shiftInstanceId := target.shiftInstanceId
    businessDate := target.businessDate
    businessShift := target.businessShift
    currentJobId := sum.latest.currentJobId
    currentJobName := sum.latest.currentJobName }

def hourTarget (bucket : BucketWindow) : RollupTarget where
  granularity := .hour
  window := bucket
  granularityName := "Hour"
  shiftInstanceId := (stationShift f input.siteId input.stationId bucket.startTime).map
    ShiftWindow.shiftInstanceId
  businessDate := input.businessDate
  businessShift := input.businessShift

def shiftTarget (shift : ShiftWindow) : RollupTarget where
  granularity := .shift
  window := shift.bucketWindow
  granularityName := shift.shiftName
  shiftInstanceId := some shift.shiftInstanceId
  businessDate :=
    some (resolveBusinessDate f shift.startTime (some shift.shiftInstanceId) input.timezone)
  businessShift := some shift.shiftName

def dayTarget (day : BucketWindow) : RollupTarget where
  granularity := .day
  window := day
  granularityName := "Day"
  shiftInstanceId := none
  businessDate := input.businessDate
  businessShift := none

/-- The targets whose rows of the station are rolled up from its hours. -/
def timeTargets : List RollupTarget :=
  (input.affectedShifts f).map (shiftTarget f input) ++ input.affectedDays.map (dayTarget input)

def stationRollupTargets : List RollupTarget :=
  input.affectedBuckets.map (hourTarget f input) ++ timeTargets f input

/-- What is stored for a row of a parent, summed over its stations. -/
def parentInput (parent : IncrementTarget) (target : RollupTarget) (t : BucketTables) :
    UpsertInput where
  siteId := input.siteId
  key := ⟨parent.entityType, parent.entityId, target.granularity, target.window.startTime⟩
  granularityName := target.granularityName
  durationMs := target.window.durationMs
  kpis := sumEntityBucketsInWindow t (getChildStationIds f parent.entityType parent.entityId)
    .station target.granularity target.window
  entityName := parent.entityName
  path := parent.path
  currentStandardCycle := none
  shiftInstanceId := target.shiftInstanceId.bind fun _ ↦
    (getShiftForEntity f parent.entityType parent.entityId input.siteId
      target.window.startTime).map ShiftWindow.shiftInstanceId
  businessDate := target.businessDate
  businessShift := target.businessShift
  currentJobId := none
  currentJobName := none

def rollupStationBuckets (t : BucketTables) : BucketTables :=
  let t :=
    (timeTargets f input).foldl (fun t target ↦ upsertBucket t (timeInput f input target t)) t
  if input.skipParentRollup then t
  else (parentTargets f input.stationId input.siteId).foldl (fun t parent ↦
    (stationRollupTargets f input).foldl (fun t target ↦
      upsertBucket t (parentInput f input parent target t)) t) t

/-- `rollupBuckets` without a job. -/
def rollupBuckets (t : BucketTables) : BucketTables :=
  if input.affectedBuckets.isEmpty then t else rollupStationBuckets f input t

end

/-! ## What the sums are -/

theorem sumKPIs_additive (buckets : List BucketKPIs) (key : KpiKey) :
    (sumKPIs buckets).additive key = (buckets.map fun b ↦ b.additive key).sum := by
  have hacc : ∀ acc : BucketKPIs, (buckets.foldl (fun result b ↦
      { result with additive := fun key ↦ result.additive key + b.additive key }) acc).additive key
        = acc.additive key + (buckets.map fun b ↦ b.additive key).sum := by
    induction buckets with
    | nil => exact fun acc ↦ (add_zero _).symm
    | cons b buckets ih =>
      intro acc
      rw [List.foldl_cons, ih, List.map_cons, List.sum_cons, add_assoc]
  rw [sumKPIs, hacc, zeroKpis, zero_add]

theorem sumKPIs_currentStandardCycle (buckets : List BucketKPIs) :
    (sumKPIs buckets).currentStandardCycle = none := by
  have hacc : ∀ acc : BucketKPIs, (buckets.foldl (fun result b ↦
      { result with additive := fun key ↦ result.additive key + b.additive key })
        acc).currentStandardCycle = acc.currentStandardCycle := by
    induction buckets with
    | nil => exact fun acc ↦ rfl
    | cons b buckets ih => exact fun acc ↦ ih _
  exact hacc zeroKpis

/-- The keys of the sub-buckets of an entity that begin in a window. -/
structure IsSubKey (entityType : BucketEntityType) (entityId : Uuid)
    (granularity : BucketGranularity) (window : BucketWindow) (k : BucketKey) : Prop where
  entityType : k.entityType = entityType
  entityId : k.entityId = entityId
  granularity : k.granularity = granularity
  start_le : window.startTime ≤ k.startTime
  lt_end : k.startTime < window.endTime

section

variable {entityType : BucketEntityType} {entityId : Uuid} {granularity : BucketGranularity}
  {window : BucketWindow} {t : BucketTables} {r : BucketRow} {k : BucketKey}

theorem isSubKey_iff : IsSubKey entityType entityId granularity window k ↔
    (k.entityType = entityType ∧ k.entityId = entityId ∧ k.granularity = granularity) ∧
      window.startTime ≤ k.startTime ∧ k.startTime < window.endTime :=
  ⟨fun ⟨h₁, h₂, h₃, h₄, h₅⟩ ↦ ⟨⟨h₁, h₂, h₃⟩, h₄, h₅⟩, fun ⟨⟨h₁, h₂, h₃⟩, h₄, h₅⟩ ↦
    ⟨h₁, h₂, h₃, h₄, h₅⟩⟩

instance decidableIsSubKey : Decidable (IsSubKey entityType entityId granularity window k) :=
  decidable_of_iff _ isSubKey_iff.symm

theorem isSubBucket_iff : isSubBucket entityType entityId granularity window r = true ↔
    IsSubKey entityType entityId granularity window r.key := by
  simp only [isSubBucket, Bool.and_eq_true, beq_iff_eq, decide_eq_true_eq, isSubKey_iff, and_assoc]
  rfl

/-- Among the sub-buckets the start time is as good as the key. -/
theorem tags_isSubBucket : Table.Tags bucketRowSchema
    (isSubBucket entityType entityId granularity window) BucketRow.startTime where
  congr {a b} hkey := by
    have hab : a.key = b.key := hkey
    refine ⟨?_, congrArg BucketKey.startTime hab⟩
    rw [Bool.eq_iff_iff, isSubBucket_iff, isSubBucket_iff, hab]
  inj {a b} ha hb hstart := by
    have ha' := isSubBucket_iff.mp ha
    have hb' := isSubBucket_iff.mp hb
    exact BucketKey.ext (ha'.entityType.trans hb'.entityType.symm)
      (ha'.entityId.trans hb'.entityId.symm) (ha'.granularity.trans hb'.granularity.symm) hstart

theorem mem_subBuckets : r ∈ subBuckets t entityType entityId granularity window ↔
    IsSubKey entityType entityId granularity window r.key ∧ t.effective r.key = some r := by
  rw [subBuckets, List.mem_insertionSort, Table.mem_preferFirst tags_isSubBucket, isSubBucket_iff]
  rfl

/-- **The sums are over the keys**, each counted once, with the live row where there is one. -/
theorem sumBuckets_additive (t : BucketTables) (entityType : BucketEntityType) (entityId : Uuid)
    (granularity : BucketGranularity) (window : BucketWindow) (key : KpiKey) :
    (sumBucketsInWindowWithStdCycle t entityType entityId granularity window).kpis.additive key
      = ∑ k ∈ t.keys.filter (IsSubKey entityType entityId granularity window), t.kpi k key := by
  rw [sumBucketsInWindowWithStdCycle, sumKPIs_additive, List.map_map, subBuckets,
    ((List.perm_insertionSort _ _).map _).sum_eq]
  exact Table.sum_preferFirst tags_isSubBucket (fun r ↦ isSubBucket_iff)
    fun r : BucketRow ↦ r.kpis.additive key

/-- A value is the last one that is not null, by start time, among some keys. -/
def IsLastStandardCycle (t : BucketTables) (q : BucketKey → Prop) (value : Option ℚ) : Prop :=
  (value = none → ∀ k, q k → t.standardCycle k = none) ∧
    ∀ x ∈ value, ∃ k, q k ∧ t.standardCycle k = some x ∧
      ∀ k', q k' → k.startTime < k'.startTime → t.standardCycle k' = none

theorem currentStandardCycle_foldl_addBucket (buckets : List BucketRow) (latest : LatestValues) :
    (buckets.foldl LatestValues.addBucket latest).currentStandardCycle
      = latest.currentStandardCycle.or
        (buckets.findSome? fun b ↦ b.kpis.currentStandardCycle) := by
  induction buckets generalizing latest with
  | nil => exact (Option.or_none).symm
  | cons b buckets ih =>
    rw [List.foldl_cons, ih, LatestValues.addBucket, List.findSome?_cons, Option.or_assoc]
    cases b.kpis.currentStandardCycle <;> rfl

theorem sorted_subBuckets (t : BucketTables) (entityType : BucketEntityType) (entityId : Uuid)
    (granularity : BucketGranularity) (window : BucketWindow) :
    (subBuckets t entityType entityId granularity window).Pairwise
      fun a b ↦ a.startTime ≤ b.startTime := by
  have htotal : Std.Total fun a b : BucketRow ↦ a.startTime ≤ b.startTime :=
    ⟨fun a b ↦ le_total a.startTime b.startTime⟩
  have htrans : IsTrans BucketRow fun a b ↦ a.startTime ≤ b.startTime :=
    ⟨fun _ _ _ ↦ le_trans⟩
  exact List.pairwise_insertionSort _ _

/-- **The standard cycle is the last one** of the sub-buckets that have one. -/
theorem sumBuckets_isLast (t : BucketTables) (entityType : BucketEntityType) (entityId : Uuid)
    (granularity : BucketGranularity) (window : BucketWindow) :
    IsLastStandardCycle t (IsSubKey entityType entityId granularity window)
      (sumBucketsInWindowWithStdCycle t entityType entityId granularity
        window).latest.currentStandardCycle := by
  have hrow : ∀ k, IsSubKey entityType entityId granularity window k → ∀ x,
      t.standardCycle k = some x → ∃ r ∈ subBuckets t entityType entityId granularity window,
        r.key = k ∧ r.kpis.currentStandardCycle = some x := by
    intro k hk x hx
    obtain ⟨r, hr, hstd⟩ := Option.bind_eq_some_iff.mp hx
    obtain rfl := BucketTables.key_of_effective hr
    exact ⟨r, mem_subBuckets.mpr ⟨hk, hr⟩, rfl, hstd⟩
  rw [sumBucketsInWindowWithStdCycle, currentStandardCycle_foldl_addBucket, Option.none_or]
  constructor
  · intro hnone k hk
    rw [List.findSome?_eq_none_iff] at hnone
    cases hstd : t.standardCycle k with
    | none => rfl
    | some x =>
      obtain ⟨r, hr, -, hx⟩ := hrow k hk x hstd
      exact absurd ((hnone r (List.mem_reverse.mpr hr)).symm.trans hx) (by simp)
  · intro x hx
    obtain ⟨later, r, earlier, hsplit, hstd, hlater⟩ := List.findSome?_eq_some_iff.mp hx
    have hmem : r ∈ subBuckets t entityType entityId granularity window := by
      rw [← List.mem_reverse, hsplit]
      exact List.mem_append_right _ List.mem_cons_self
    obtain ⟨hkey, heff⟩ := mem_subBuckets.mp hmem
    refine ⟨r.key, hkey, by rw [BucketTables.standardCycle, heff, Option.bind_some, hstd], ?_⟩
    intro k' hk' hlt
    cases hstd' : t.standardCycle k' with
    | none => rfl
    | some y =>
      -- the walk has passed every row that begins later
      obtain ⟨r', hr', rfl, hy⟩ := hrow k' hk' y hstd'
      have hsorted := List.pairwise_reverse.mpr
        (sorted_subBuckets t entityType entityId granularity window)
      rw [hsplit, List.pairwise_append, List.pairwise_cons] at hsorted
      rw [← List.mem_reverse, hsplit, List.mem_append, List.mem_cons] at hr'
      rcases hr' with hr' | rfl | hr'
      · exact absurd ((hlater r' hr').symm.trans hy) (by simp)
      · exact absurd hlt (lt_irrefl _)
      · exact absurd (hsorted.2.1.1 r' hr') (not_le.mpr hlt)

end

/-! ## Steps -/

/-- A step computes what is stored for one row from the tables as they are then. -/
def runSteps (steps : List (BucketTables → UpsertInput)) (t : BucketTables) : BucketTables :=
  steps.foldl (fun t step ↦ upsertBucket t (step t)) t

/-- The first step computes the same before and after the upsert of the second. -/
def StableUnder (step step' : BucketTables → UpsertInput) : Prop :=
  ∀ t, step (upsertBucket t (step' t)) = step t

/-- Steps that settle: none changes what it or an earlier one reads, and two that store under one
key store the same. -/
structure Settles (steps : List (BucketTables → UpsertInput)) : Prop where
  self : ∀ step ∈ steps, StableUnder step step
  later : steps.Pairwise StableUnder
  same : ∀ step ∈ steps, ∀ step' ∈ steps, ∀ t, (step t).key = (step' t).key →
    (step t).isHeldBy = (step' t).isHeldBy
  decimals : ∀ step ∈ steps, ∀ t, ∀ q ∈ (step t).stdCycle, HasTwoDecimals q

section

variable {step step' : BucketTables → UpsertInput} {steps : List (BucketTables → UpsertInput)}
  {t : BucketTables} {k : BucketKey}

theorem runSteps_cons : runSteps (step :: steps) t = runSteps steps (upsertBucket t (step t)) := rfl

theorem Settles.tail (h : Settles (step :: steps)) : Settles steps where
  self s hs := h.self s (List.mem_cons_of_mem _ hs)
  later := (List.pairwise_cons.mp h.later).2
  same s hs s' hs' := h.same s (List.mem_cons_of_mem _ hs) s' (List.mem_cons_of_mem _ hs')
  decimals s hs := h.decimals s (List.mem_cons_of_mem _ hs)

/-- Rows under other keys are as before, in both tables. -/
theorem find_runSteps_of_forall_ne (hk : ∀ step ∈ steps, ∀ t, (step t).key ≠ k) :
    (runSteps steps t).live.find k = t.live.find k ∧
      (runSteps steps t).log.find k = t.log.find k := by
  induction steps generalizing t with
  | nil => exact ⟨rfl, rfl⟩
  | cons step steps ih =>
    obtain ⟨hlive, hlog⟩ := ih (t := upsertBucket t (step t))
      fun s hs ↦ hk s (List.mem_cons_of_mem _ hs)
    obtain ⟨hlive', hlog'⟩ := find_upsertBucket_of_ne (t := t)
      (Ne.symm (hk step List.mem_cons_self t))
    exact ⟨hlive.trans hlive', hlog.trans hlog'⟩

/-- A row that holds what its step computes keeps doing so. -/
theorem holds_step (hdist : StableUnder step step')
    (hsame : (step t).key = (step' t).key → (step t).isHeldBy = (step' t).isHeldBy)
    (h : Holds t (step t)) :
    Holds (upsertBucket t (step' t)) (step (upsertBucket t (step' t))) := by
  rw [hdist t]
  by_cases hkey : (step t).key = (step' t).key
  · obtain ⟨row, hrow, hheld⟩ := h
    rw [upsertBucket_of_holds ⟨row, hkey ▸ hrow, hsame hkey ▸ hheld⟩]
    exact ⟨row, hrow, hheld⟩
  · obtain ⟨row, hrow, hheld⟩ := h
    exact ⟨row, (effective_upsertBucket_of_ne hkey).trans hrow, hheld⟩

theorem holds_runSteps_of_holds (hdist : ∀ step' ∈ steps, StableUnder step step')
    (hsame : ∀ step' ∈ steps, ∀ t, (step t).key = (step' t).key →
      (step t).isHeldBy = (step' t).isHeldBy) (h : Holds t (step t)) :
    Holds (runSteps steps t) (step (runSteps steps t)) := by
  induction steps generalizing t with
  | nil => exact h
  | cons s steps ih =>
    refine ih (fun s' hs' ↦ hdist s' (List.mem_cons_of_mem _ hs'))
      (fun s' hs' ↦ hsame s' (List.mem_cons_of_mem _ hs')) ?_
    exact holds_step (hdist s List.mem_cons_self) (hsame s List.mem_cons_self t) h

/-- **Every row holds what its step computes** after the steps. -/
theorem holds_runSteps (hsettles : Settles steps) (t : BucketTables) :
    ∀ step ∈ steps, Holds (runSteps steps t) (step (runSteps steps t)) := by
  induction steps generalizing t with
  | nil => exact fun s hs ↦ absurd hs (by simp)
  | cons s steps ih =>
    have hdec := hsettles.decimals s List.mem_cons_self t
    intro step hstep
    rcases List.mem_cons.mp hstep with rfl | hstep
    · rw [runSteps_cons]
      refine holds_runSteps_of_holds (List.pairwise_cons.mp hsettles.later).1 (fun s' hs' ↦
        hsettles.same step List.mem_cons_self s' (List.mem_cons_of_mem _ hs')) ?_
      rw [hsettles.self step List.mem_cons_self t]
      exact holds_upsertBucket hdec
    · exact ih hsettles.tail (upsertBucket t (s t)) step hstep

/-- **To run the steps again changes nothing.** -/
theorem runSteps_settled (hsettles : Settles steps) (t : BucketTables) :
    runSteps steps (runSteps steps t) = runSteps steps t := by
  have hsettled : ∀ (l : List (BucketTables → UpsertInput)) (t : BucketTables),
      (∀ step ∈ l, Holds t (step t)) → runSteps l t = t := by
    intro l
    induction l with
    | nil => exact fun _ _ ↦ rfl
    | cons s l ih =>
      intro t h
      rw [runSteps_cons, upsertBucket_of_holds (h s List.mem_cons_self)]
      exact ih t fun s' hs' ↦ h s' (List.mem_cons_of_mem _ hs')
  exact hsettled steps _ (holds_runSteps hsettles t)

end

end RwServer
