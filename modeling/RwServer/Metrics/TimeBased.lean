import Mathlib
import RwServer.Metrics.BadItems
import RwServer.Metrics.Durations

/-!
# Recomputing durations

`updateTimeBased` recomputes the durations of the hours that a range touches, in the archived row
of an hour where there is one, else in the live row. It scaffolds the hours around the start of the
range unless the station has an archived hour from the first affected one on; but the hours around
the start may begin earlier, and an empty row then hides an archived one.
`updateTimeBased_keepsCounts_iff` says exactly when the counts stay.
-/

namespace RwServer

open Windows Relational

/-! ## The affected hours -/

/-- The walk of `getBaseBucketsForRange` from a cursor on; `none` is the error of
`resolveHourBucketForEntity`. A bucket contains the cursor, so a round per millisecond suffices. -/
def baseBucketsFrom (f : Facility) (stationId siteId : Uuid) (endTime : Time) :
    ℕ → Time → List HourBucket → Option (List HourBucket)
  | 0, _, buckets => some buckets
  | rounds + 1, cursor, buckets =>
    if cursor < endTime then
      (resolveHourBucketForEntity f .station stationId siteId cursor (f.siteTimezone siteId)).bind
        fun bucket ↦ baseBucketsFrom f stationId siteId endTime rounds
          (bucket.startTime + bucket.durationMs)
          (if buckets.any fun b ↦ b.startTime == bucket.startTime then buckets
            else buckets ++ [bucket])
    else some buckets

def getBaseBucketsForRange (f : Facility) (stationId siteId : Uuid) (startTime endTime : Time) :
    Option (List HourBucket) :=
  baseBucketsFrom f stationId siteId endTime (endTime - startTime).toNat startTime []

/-! ## One hour -/

/-- The value that is written to a column, for the columns of `extractDurationKPIs`. -/
def Durations.column (d : Durations) : KpiKey → Option ℤ
  | .runSeconds => some d.runSeconds
  | .downSeconds => some d.downSeconds
  | .plannedDownSeconds => some d.plannedDownSeconds
  | .unplannedDownSeconds => some d.unplannedDownSeconds
  | .elapsedPlannedProductionSeconds => some d.elapsedPlannedProductionSeconds
  | .elapsedExpectedCycles => some d.elapsedExpectedCycles
  | .elapsedExpectedItems => some d.elapsedExpectedItems
  | .expectedCycles => some d.expectedCycles
  | .expectedItems => some d.expectedItems
  | .totalCycles => none
  | .badCycles => none
  | .totalItems => none
  | .badItems => none
  | .idealCycleSeconds => none
  | .totalCycleSeconds => none

/-- The columns for the cycles and items that are expected. -/
def expectedKeys : List KpiKey :=
  [.expectedCycles, .expectedItems, .elapsedExpectedCycles, .elapsedExpectedItems]

def isDurationUnchanged (existing : BucketRow) (newData : BucketDurations) : Bool :=
  (additiveKpiKeys.all fun key ↦
    (newData.column key).all fun value ↦ existing.kpis.additive key == value) &&
    existing.kpis.currentStandardCycle == newData.currentStandardCycle

/-- `SET updateFragments`. -/
def BucketRow.setDurations (newData : BucketDurations) (currentJobId : Option Uuid)
    (currentJobName : Option String) (r : BucketRow) : BucketRow :=
  { r with
    kpis := BucketKPIs.store ⟨fun key ↦ (newData.column key).getD (r.kpis.additive key),
      newData.currentStandardCycle⟩
    currentJobId := currentJobId
    currentJobName := currentJobName }

theorem mild_setDurations (newData : BucketDurations) (currentJobId : Option Uuid)
    (currentJobName : Option String) :
    Table.Mild bucketRowSchema (BucketRow.setDurations newData currentJobId currentJobName) :=
  mild_of_same (fun _ ↦ rfl) (fun _ ↦ rfl)

/-- The arguments of a call, and what it reads beside the buckets. -/
structure TimeBasedCall where
  stationId : Uuid
  siteId : Uuid
  startTime : Time
  endTime : Time
  standardCycleSeconds : Option ℚ
  itemsPerCycle : Option ℤ
  stateLog : StateLog
  reasons : List StatusReason
  /-- `Date.now()` when an hour is computed. -/
  now : HourBucket → Time

namespace TimeBasedCall

variable (call : TimeBasedCall)

/-- `stdCycle` and `ipc`, from the arguments and the row that is there. -/
def cycleOf (existing : Option BucketRow) : Option ℚ × ℤ :=
  (call.standardCycleSeconds.or (existing.bind fun r ↦ r.kpis.currentStandardCycle),
    call.itemsPerCycle.getD (match existing with
      | some r =>
        if 0 < r.kpis.additive .totalCycles then
          mathRound (r.kpis.additive .totalItems / r.kpis.additive .totalCycles)
        else 1
      | none => 1))

/-- `durations` of an hour. -/
def durations (existing : Option BucketRow) (bucket : HourBucket) : BucketDurations :=
  computeDurationsForBucket call.stateLog call.reasons call.stationId bucket.startTime
    bucket.durationMs (call.now bucket) (call.cycleOf existing).1 (call.cycleOf existing).2

/-- The key of an hour. -/
def keyOf (bucket : HourBucket) : BucketKey := hourKey call.stationId bucket.startTime

/-- The `UPDATE` of an hour, in one of the tables. -/
def setDurationsAt (f : Facility) (newData : BucketDurations) (bucket : HourBucket)
    (table : Table bucketRowSchema) : Table bucketRowSchema :=
  let station := f.station call.stationId
  let currentJobId := station.bind MeteredStation.currentJobId
  let currentJobName := station.bind MeteredStation.currentJobName
  table.modify (fun r ↦ decide (r.key = call.keyOf bucket))
    (BucketRow.setDurations newData currentJobId currentJobName)
    (mild_setDurations newData currentJobId currentJobName)

/-- One round of the loop over the affected hours; whether the hour has changed. -/
def recompute (f : Facility) (t : BucketTables) (bucket : HourBucket) : BucketTables × Bool :=
  let newData := call.durations (t.effective (call.keyOf bucket)) bucket
  let update := call.setDurationsAt f newData bucket
  match t.log.find (call.keyOf bucket), t.live.find (call.keyOf bucket) with
  | some archivedRow, liveRow =>
    if isDurationUnchanged archivedRow newData then (t, false)
    else (⟨if liveRow.isSome then t.live.delete fun r ↦ decide (r.key = call.keyOf bucket)
        else t.live, update t.log⟩, true)
  | none, some liveRow =>
    if isDurationUnchanged liveRow newData then (t, false) else (⟨update t.live, t.log⟩, true)
  | none, none => (t, false)

/-- The loop, with the changed hours. -/
def recomputeAll (f : Facility) (baseBuckets : List HourBucket) (t : BucketTables) :
    BucketTables × List HourBucket :=
  baseBuckets.foldl (fun acc bucket ↦
    let next := call.recompute f acc.1 bucket
    (next.1, if next.2 then acc.2 ++ [bucket] else acc.2)) (t, [])

/-- `archivedExists`. -/
def archivedExists (baseBuckets : List HourBucket) (log : Table bucketRowSchema) : Bool :=
  let first := (baseBuckets.head?.map HourBucket.startTime).getD call.startTime
  log.rows.any fun r ↦ r.key.entityType == .station && r.key.entityId == call.stationId &&
    r.key.granularity == .hour && decide (first ≤ r.startTime)

/-- The rollup after some hours have changed. -/
def rollup (f : Facility) (changedBuckets : List HourBucket) : RollupInput :=
  let timezone := f.siteTimezone call.siteId
  let shift := stationShift f call.siteId call.stationId call.startTime
  { stationId := call.stationId
    siteId := call.siteId
    affectedBuckets := changedBuckets.map fun b ↦ ⟨b.startTime, b.durationMs⟩
    timezone := timezone
    businessDate := some
      (resolveBusinessDate f call.startTime (shift.map ShiftWindow.shiftInstanceId) timezone)
    businessShift := shift.map ShiftWindow.shiftName
    stationEntity := none
    skipParentRollup := false }

/-- The tables before the loop. -/
def scaffold (f : Facility) (baseBuckets : List HourBucket) (t : BucketTables) : BucketTables :=
  if call.archivedExists baseBuckets t.log then t
  else { t with live := ensureBuckets f call.siteId call.stationId call.startTime t.live }

end TimeBasedCall

/-- Without the job buckets, which are rows of jobs. -/
def updateTimeBased (f : Facility) (call : TimeBasedCall) (t : BucketTables) :
    Option BucketTables :=
  (getBaseBucketsForRange f call.stationId call.siteId call.startTime call.endTime).map
    fun baseBuckets ↦
      let recomputed := call.recomputeAll f baseBuckets (call.scaffold f baseBuckets t)
      if recomputed.2.isEmpty then recomputed.1
      else rollupBuckets f (call.rollup f recomputed.2) recomputed.1

/-! ## The walk -/

section

variable {f : Facility} {stationId siteId : Uuid} {cursor endTime : Time}
  {buckets : List HourBucket}

/-- The bucket of a round contains the cursor. -/
theorem exists_round (f : Facility) (stationId siteId : Uuid) (cursor : Time) :
    ∃ b, resolveHourBucketForEntity f .station stationId siteId cursor (f.siteTimezone siteId)
      = some b ∧ b.window.Contains cursor := by
  obtain ⟨b, -, hcontains, hb⟩ := exists_resolveHourBucket f siteId stationId cursor
  exact ⟨b, hb, hcontains⟩

private theorem toNat_sub_lt {cursor stop endTime : ℤ} {rounds : ℕ} (hcursor : cursor < stop)
    (h : (endTime - cursor).toNat ≤ rounds + 1) : (endTime - stop).toNat ≤ rounds := by
  omega

/-- **The rounds suffice**: with more of them the walk finds the same. -/
theorem baseBucketsFrom_succ : ∀ {rounds : ℕ} {cursor : Time} {buckets : List HourBucket},
    (endTime - cursor).toNat ≤ rounds →
      baseBucketsFrom f stationId siteId endTime (rounds + 1) cursor buckets
        = baseBucketsFrom f stationId siteId endTime rounds cursor buckets := by
  intro rounds
  induction rounds with
  | zero =>
    intro cursor buckets h
    have hle : ¬cursor < endTime := fun hlt ↦ by
      have := Int.sub_pos.mpr hlt
      omega
    simp only [baseBucketsFrom, if_neg hle]
  | succ rounds ih =>
    intro cursor buckets h
    obtain ⟨b, hb, hcontains⟩ := exists_round f stationId siteId cursor
    rw [baseBucketsFrom, baseBucketsFrom, hb, Option.bind_some, Option.bind_some]
    split
    · exact ih (toNat_sub_lt hcontains.2 h)
    · rfl

/-- The walk goes through. -/
theorem exists_baseBucketsFrom (f : Facility) (stationId siteId : Uuid) (endTime : Time) :
    ∀ (rounds : ℕ) (cursor : Time) (buckets : List HourBucket), ∃ baseBuckets,
      baseBucketsFrom f stationId siteId endTime rounds cursor buckets = some baseBuckets := by
  intro rounds
  induction rounds with
  | zero => exact fun _ buckets ↦ ⟨buckets, rfl⟩
  | succ rounds ih =>
    intro cursor buckets
    rw [baseBucketsFrom]
    split
    · obtain ⟨b, hb, -⟩ := exists_round f stationId siteId cursor
      rw [hb, Option.bind_some]
      exact ih _ _
    · exact ⟨buckets, rfl⟩

end

/-! ## What should stay -/

/-- The counts that only `updateCountBased` and corrections write. -/
def countKeys : List KpiKey := [.totalCycles, .totalItems, .badItems]

/-- A key that stands for a row still does, with the same counts. -/
structure KeepsCountsAt (t t' : BucketTables) (k : BucketKey) : Prop where
  present : (∃ r, t.effective k = some r) → ∃ r, t'.effective k = some r
  counts : ∀ key ∈ countKeys, t'.kpi k key = t.kpi k key

/-- The counts of the hours of a station stay. -/
def KeepsCounts (t t' : BucketTables) (stationId : Uuid) : Prop :=
  ∀ start, KeepsCountsAt t t' (hourKey stationId start)

/-- No key of an hour of the station is in both tables. -/
def HoursInOneTable (t : BucketTables) (stationId : Uuid) : Prop :=
  ∀ start, t.live.find (hourKey stationId start) = none ∨
    t.log.find (hourKey stationId start) = none

section

variable {t t' t'' : BucketTables} {k : BucketKey}

theorem keepsCountsAt_of_eq (h : t'.effective k = t.effective k) : KeepsCountsAt t t' k :=
  ⟨fun hr ↦ h ▸ hr, fun key _ ↦ by rw [BucketTables.kpi, BucketTables.kpi, h]⟩

theorem KeepsCountsAt.trans (h : KeepsCountsAt t t' k) (h' : KeepsCountsAt t' t'' k) :
    KeepsCountsAt t t'' k :=
  ⟨fun hr ↦ h'.present (h.present hr), fun key hkey ↦
    (h'.counts key hkey).trans (h.counts key hkey)⟩

theorem kpi_of_effective {r : BucketRow} (h : t.effective k = some r) (key : KpiKey) :
    t.kpi k key = r.kpis.additive key := by
  rw [BucketTables.kpi, h]
  rfl

/-- The durations of a row are not its counts. -/
theorem counts_setDurations (newData : BucketDurations) (currentJobId : Option Uuid)
    (currentJobName : Option String) (r : BucketRow) {key : KpiKey} (hkey : key ∈ countKeys) :
    (r.setDurations newData currentJobId currentJobName).kpis.additive key
      = r.kpis.additive key := by
  have hcolumn : newData.column key = none := by
    simp only [countKeys, List.mem_cons, List.not_mem_nil, or_false] at hkey
    rcases hkey with rfl | rfl | rfl <;> rfl
  change (newData.column key).getD (r.kpis.additive key) = _
  rw [hcolumn, Option.getD_none]

/-- A row with the same counts. -/
theorem keepsCountsAt_of_rows {r r' : BucketRow} (hr : t.effective k = some r)
    (hr' : t'.effective k = some r')
    (hcounts : ∀ key ∈ countKeys, r'.kpis.additive key = r.kpis.additive key) :
    KeepsCountsAt t t' k :=
  ⟨fun _ ↦ ⟨r', hr'⟩, fun key hkey ↦ by
    rw [kpi_of_effective hr, kpi_of_effective hr', hcounts key hkey]⟩

end

/-! ## The loop -/

namespace TimeBasedCall

section

variable {f : Facility} {call : TimeBasedCall} {t : BucketTables} {bucket : HourBucket}
  {start : Time} {r a : BucketRow}

theorem find_setDurationsAt (newData : BucketDurations) (table : Table bucketRowSchema) :
    (call.setDurationsAt f newData bucket table).find (hourKey call.stationId start)
      = (table.find (hourKey call.stationId start)).map fun r ↦
        if start = bucket.startTime then r.setDurations newData
          ((f.station call.stationId).bind MeteredStation.currentJobId)
          ((f.station call.stationId).bind MeteredStation.currentJobName) else r := by
  have hfind := table.find_modify_key (call.keyOf bucket) (mild_setDurations newData
    ((f.station call.stationId).bind MeteredStation.currentJobId)
    ((f.station call.stationId).bind MeteredStation.currentJobName))
    (hourKey call.stationId start)
  simp only [keyOf, hourKey_inj] at hfind
  exact hfind

theorem exists_find_setDurationsAt (newData : BucketDurations) {table : Table bucketRowSchema}
    (h : table.find (hourKey call.stationId bucket.startTime) = some r) :
    ∃ r', (call.setDurationsAt f newData bucket table).find
        (hourKey call.stationId bucket.startTime) = some r' ∧
      ∀ key ∈ countKeys, r'.kpis.additive key = r.kpis.additive key := by
  rw [find_setDurationsAt, h, Option.map_some, if_pos rfl]
  exact ⟨_, rfl, fun _ hkey ↦ counts_setDurations _ _ _ r hkey⟩

/-- The other hours are as before, in both tables. -/
theorem find_recompute_of_ne (h : start ≠ bucket.startTime) :
    (call.recompute f t bucket).1.live.find (hourKey call.stationId start)
        = t.live.find (hourKey call.stationId start) ∧
      (call.recompute f t bucket).1.log.find (hourKey call.stationId start)
        = t.log.find (hourKey call.stationId start) := by
  have hset : ∀ newData table, (call.setDurationsAt f newData bucket table).find
      (hourKey call.stationId start) = table.find (hourKey call.stationId start) := by
    intro newData table
    rw [find_setDurationsAt]
    simp only [if_neg h, Option.map_id']
  have hdelete : (t.live.delete fun r ↦ decide (r.key = call.keyOf bucket)).find
      (hourKey call.stationId start) = t.live.find (hourKey call.stationId start) :=
    (t.live.find_delete_key _ _).trans (if_neg fun hkey ↦ h (hourKey_inj.mp hkey))
  rw [recompute]
  split
  · split
    · exact ⟨rfl, rfl⟩
    · refine ⟨?_, hset _ _⟩
      split
      · exact hdelete
      · rfl
  · split
    · exact ⟨rfl, rfl⟩
    · exact ⟨hset _ _, rfl⟩
  · exact ⟨rfl, rfl⟩

/-- The hour itself, if it is archived with the durations that are computed. -/
theorem recompute_unchanged (ha : t.log.find (hourKey call.stationId bucket.startTime) = some a)
    (h : isDurationUnchanged a
      (call.durations (t.effective (hourKey call.stationId bucket.startTime)) bucket) = true) :
    (call.recompute f t bucket).1 = t := by
  simp only [recompute, keyOf, ha, h, if_true]

/-- The hour itself, if it is archived with others: the archived row gets the durations, and no
live row hides it any more. -/
theorem recompute_changed (ha : t.log.find (hourKey call.stationId bucket.startTime) = some a)
    (h : isDurationUnchanged a
      (call.durations (t.effective (hourKey call.stationId bucket.startTime)) bucket) = false) :
    (call.recompute f t bucket).1.live.find (hourKey call.stationId bucket.startTime) = none ∧
      ∃ a', (call.recompute f t bucket).1.log.find (hourKey call.stationId bucket.startTime)
        = some a' ∧ ∀ key ∈ countKeys, a'.kpis.additive key = a.kpis.additive key := by
  simp only [recompute, keyOf, ha, h, Bool.false_eq_true, if_false]
  refine ⟨?_, exists_find_setDurationsAt _ ha⟩
  cases hlive : t.live.find (hourKey call.stationId bucket.startTime) with
  | none => exact hlive
  | some r => exact (t.live.find_delete_key _ _).trans (if_pos rfl)

/-- The hour itself, if it is live only. -/
theorem recompute_live (hlog : t.log.find (hourKey call.stationId bucket.startTime) = none)
    (hr : t.live.find (hourKey call.stationId bucket.startTime) = some r) :
    ∃ r', (call.recompute f t bucket).1.live.find (hourKey call.stationId bucket.startTime)
        = some r' ∧
      (call.recompute f t bucket).1.log.find (hourKey call.stationId bucket.startTime) = none ∧
      ∀ key ∈ countKeys, r'.kpis.additive key = r.kpis.additive key := by
  have hlog' : t.log.find (call.keyOf bucket) = none := hlog
  have hr' : t.live.find (call.keyOf bucket) = some r := hr
  simp only [recompute, hlog', hr']
  split
  · exact ⟨r, hr, hlog, fun _ _ ↦ rfl⟩
  · obtain ⟨r', hfind, hcounts⟩ := exists_find_setDurationsAt (f := f)
      (call.durations (t.effective (call.keyOf bucket)) bucket) hr
    exact ⟨r', hfind, hlog, hcounts⟩

/-- **One round**: an hour that is in one table at most stays so, with its counts. -/
theorem recompute_keeps (bucket : HourBucket)
    (h : t.live.find (hourKey call.stationId start) = none ∨
      t.log.find (hourKey call.stationId start) = none) :
    ((call.recompute f t bucket).1.live.find (hourKey call.stationId start) = none ∨
      (call.recompute f t bucket).1.log.find (hourKey call.stationId start) = none) ∧
    KeepsCountsAt t (call.recompute f t bucket).1 (hourKey call.stationId start) := by
  by_cases hstart : start = bucket.startTime
  · subst hstart
    cases hlog : t.log.find (hourKey call.stationId bucket.startTime) with
    | some a =>
      have hlive := h.resolve_right (by rw [hlog]; exact Option.some_ne_none a)
      cases hsame : isDurationUnchanged a
          (call.durations (t.effective (hourKey call.stationId bucket.startTime)) bucket) with
      | true =>
        rw [recompute_unchanged hlog hsame]
        exact ⟨.inl hlive, keepsCountsAt_of_eq rfl⟩
      | false =>
        obtain ⟨hlive', a', hlog', hcounts⟩ := recompute_changed (f := f) hlog hsame
        refine ⟨.inl hlive', keepsCountsAt_of_rows (r := a) ?_ ?_ hcounts⟩
        · rw [BucketTables.effective, hlive, Option.none_or, hlog]
        · rw [BucketTables.effective, hlive', Option.none_or, hlog']
    | none =>
      cases hlive : t.live.find (hourKey call.stationId bucket.startTime) with
      | some r =>
        obtain ⟨r', hr', hlog', hcounts⟩ := recompute_live (f := f) hlog hlive
        refine ⟨.inr hlog', keepsCountsAt_of_rows (r := r) ?_ ?_ hcounts⟩
        · rw [BucketTables.effective, hlive, Option.some_or]
        · rw [BucketTables.effective, hr', Option.some_or]
      | none =>
        have hsame : (call.recompute f t bucket).1 = t := by
          rw [recompute, keyOf, hlog, hlive]
        rw [hsame]
        exact ⟨.inl hlive, keepsCountsAt_of_eq rfl⟩
  · obtain ⟨hlive, hlog⟩ := find_recompute_of_ne (f := f) (t := t) hstart
    rw [hlive, hlog]
    exact ⟨h, keepsCountsAt_of_eq (by rw [BucketTables.effective, BucketTables.effective, hlive,
      hlog])⟩

/-! ### The whole loop -/

theorem recomputeAll_fst (f : Facility) (call : TimeBasedCall) (baseBuckets : List HourBucket)
    (t : BucketTables) : (call.recomputeAll f baseBuckets t).1
      = baseBuckets.foldl (fun t bucket ↦ (call.recompute f t bucket).1) t := by
  have hfoldl : ∀ acc : BucketTables × List HourBucket,
      (baseBuckets.foldl (fun acc bucket ↦
        let next := call.recompute f acc.1 bucket
        (next.1, if next.2 then acc.2 ++ [bucket] else acc.2)) acc).1
        = baseBuckets.foldl (fun t bucket ↦ (call.recompute f t bucket).1) acc.1 := by
    induction baseBuckets with
    | nil => exact fun _ ↦ rfl
    | cons b l ih => exact fun acc ↦ ih _
  exact hfoldl (t, [])

/-- An hour that is in one table at most keeps its counts. -/
theorem recomputeAll_keeps (baseBuckets : List HourBucket)
    (h : t.live.find (hourKey call.stationId start) = none ∨
      t.log.find (hourKey call.stationId start) = none) :
    KeepsCountsAt t (call.recomputeAll f baseBuckets t).1 (hourKey call.stationId start) := by
  rw [recomputeAll_fst]
  induction baseBuckets generalizing t with
  | nil => exact keepsCountsAt_of_eq rfl
  | cons b l ih =>
    obtain ⟨h', hkeeps⟩ := recompute_keeps (f := f) b h
    exact hkeeps.trans (ih h')

/-- An empty row yields neither a standard cycle nor items per cycle. -/
theorem durations_of_empty (hr : r.kpis = zeroKpis.store) (bucket : HourBucket) :
    call.durations (some r) bucket = call.durations none bucket := by
  have hcycle : call.cycleOf (some r) = call.cycleOf none := by
    have hnone : ¬0 < zeroKpis.store.additive .totalCycles := lt_irrefl 0
    have hstd : zeroKpis.store.currentStandardCycle = none := rfl
    simp only [cycleOf, hr, if_neg hnone, Option.bind_some, Option.bind_none, hstd]
  rw [durations, durations, hcycle]

/-- Some affected hour has the archived row written with other durations. -/
def Rewrites (call : TimeBasedCall) (baseBuckets : List HourBucket) (start : Time)
    (a : BucketRow) : Prop :=
  ∃ base ∈ baseBuckets, base.startTime = start ∧
    isDurationUnchanged a (call.durations none base) = false

/-- **An empty row over an archived one**: the archived counts come back if the loop rewrites the
archived row, else the empty row stays. -/
theorem recomputeAll_hidden (baseBuckets : List HourBucket)
    (hlive : t.live.find (hourKey call.stationId start) = some r) (hr : r.kpis = zeroKpis.store)
    (hlog : t.log.find (hourKey call.stationId start) = some a) :
    (call.Rewrites baseBuckets start a →
      KeepsCountsAt ⟨.empty _, t.log⟩ (call.recomputeAll f baseBuckets t).1
        (hourKey call.stationId start)) ∧
    (¬call.Rewrites baseBuckets start a →
      (call.recomputeAll f baseBuckets t).1.effective (hourKey call.stationId start)
        = some r) := by
  have hvisible : t.effective (hourKey call.stationId start) = some r := by
    rw [BucketTables.effective, hlive, Option.some_or]
  rw [recomputeAll_fst]
  induction baseBuckets generalizing t with
  | nil =>
    refine ⟨fun h ↦ ?_, fun _ ↦ hvisible⟩
    obtain ⟨_, hb, -⟩ := h
    exact absurd hb (by simp)
  | cons b l ih =>
    -- a round that leaves the hour alone leaves the question to the rest
    have hsame : (call.recompute f t b).1.live.find (hourKey call.stationId start) = some r →
        (call.recompute f t b).1.log.find (hourKey call.stationId start) = some a →
        ¬(b.startTime = start ∧ isDurationUnchanged a (call.durations none b) = false) →
        (call.Rewrites (b :: l) start a →
          KeepsCountsAt ⟨.empty _, t.log⟩
            ((b :: l).foldl (fun t bucket ↦ (call.recompute f t bucket).1) t)
            (hourKey call.stationId start)) ∧
        (¬call.Rewrites (b :: l) start a →
          ((b :: l).foldl (fun t bucket ↦ (call.recompute f t bucket).1) t).effective
            (hourKey call.stationId start) = some r) := by
      intro hlive' hlog' hnot
      have hiff : call.Rewrites (b :: l) start a ↔ call.Rewrites l start a := by
        simp only [Rewrites, List.exists_mem_cons_iff, hnot, false_or]
      obtain ⟨hyes, hno⟩ := ih hlive' hlog' (by rw [BucketTables.effective, hlive',
        Option.some_or])
      rw [hiff]
      refine ⟨fun h ↦ (keepsCountsAt_of_eq ?_).trans (hyes h), hno⟩
      change (none : Option BucketRow).or _ = (none : Option BucketRow).or _
      rw [hlog', hlog]
    by_cases hstart : start = b.startTime
    · subst hstart
      rw [← durations_of_empty hr] at hsame
      cases hunchanged : isDurationUnchanged a (call.durations (some r) b) with
      | true =>
        have heq := recompute_unchanged (f := f) hlog (hvisible ▸ hunchanged)
        refine hsame (by rw [heq, hlive]) (by rw [heq, hlog]) fun hand ↦ ?_
        rw [hunchanged] at hand
        exact absurd hand.2 Bool.noConfusion
      | false =>
        obtain ⟨hlive', a', hlog', hcounts⟩ :=
          recompute_changed (f := f) hlog (hvisible ▸ hunchanged)
        have hkeeps := recomputeAll_keeps (f := f) l (.inl hlive')
        rw [recomputeAll_fst] at hkeeps
        refine ⟨fun _ ↦ (keepsCountsAt_of_rows (r := a) ?_ ?_ hcounts).trans hkeeps,
          fun hnot ↦ absurd ⟨b, List.mem_cons_self, rfl, ?_⟩ hnot⟩
        · change (none : Option BucketRow).or _ = _
          rw [hlog, Option.none_or]
        · rw [BucketTables.effective, hlive', hlog', Option.none_or]
        · rw [← durations_of_empty hr, hunchanged]
    · obtain ⟨hlive', hlog'⟩ := find_recompute_of_ne (f := f) (t := t) hstart
      exact hsame (hlive'.trans hlive) (hlog'.trans hlog) fun hand ↦ hstart hand.1.symm

end

end TimeBasedCall

/-! ## When the counts stay -/

/-- Each archived hour around the start of the range has no counts, or gets other durations. -/
def HiddenHoursHarmless (f : Facility) (call : TimeBasedCall) (baseBuckets : List HourBucket)
    (t : BucketTables) : Prop :=
  ∀ b ∈ stationHours f call.siteId call.stationId call.startTime,
    ∀ r ∈ t.log.find (hourKey call.stationId b.startTime),
      (∀ key ∈ countKeys, r.kpis.additive key = 0) ∨ call.Rewrites baseBuckets b.startTime r

section

variable {f : Facility} {call : TimeBasedCall} {baseBuckets : List HourBucket} {t t' : BucketTables}

theorem updateTimeBased_effective (hbase : getBaseBucketsForRange f call.stationId call.siteId
      call.startTime call.endTime = some baseBuckets) :
    ∃ t', updateTimeBased f call t = some t' ∧ ∀ start,
      t'.effective (hourKey call.stationId start)
        = (call.recomputeAll f baseBuckets (call.scaffold f baseBuckets t)).1.effective
          (hourKey call.stationId start) := by
  rw [updateTimeBased, hbase, Option.map_some]
  refine ⟨_, rfl, fun start ↦ ?_⟩
  dsimp only
  split
  · rfl
  · rw [rollupBuckets]
    split
    · rfl
    · exact effective_rollup_of_hour (k := hourKey call.stationId start) rfl rfl _

/-- The call goes through. -/
theorem exists_getBaseBucketsForRange (f : Facility) (stationId siteId : Uuid)
    (startTime endTime : Time) : ∃ baseBuckets,
      getBaseBucketsForRange f stationId siteId startTime endTime = some baseBuckets :=
  exists_baseBucketsFrom f stationId siteId endTime _ _ _

theorem keepsCountsAt_congr {k : BucketKey} {t'' : BucketTables}
    (h : t''.effective k = t'.effective k) :
    KeepsCountsAt t t'' k ↔ KeepsCountsAt t t' k :=
  ⟨fun hkeeps ↦ hkeeps.trans (keepsCountsAt_of_eq h.symm), fun hkeeps ↦
    hkeeps.trans (keepsCountsAt_of_eq h)⟩

/-- One hour, where the hours around the start of the range are scaffolded. -/
theorem scaffolded_keepsCountsAt_iff (hone : HoursInOneTable t call.stationId) (start : Time) :
    KeepsCountsAt t (call.recomputeAll f baseBuckets { t with
        live := ensureBuckets f call.siteId call.stationId call.startTime t.live }).1
        (hourKey call.stationId start) ↔
      ∀ b ∈ stationHours f call.siteId call.stationId call.startTime, b.startTime = start →
        ∀ r ∈ t.log.find (hourKey call.stationId b.startTime),
          (∀ key ∈ countKeys, r.kpis.additive key = 0) ∨
            call.Rewrites baseBuckets b.startTime r := by
  have hsame : (ensureBuckets f call.siteId call.stationId call.startTime t.live).find
      (hourKey call.stationId start) = t.live.find (hourKey call.stationId start) →
      KeepsCountsAt t (call.recomputeAll f baseBuckets { t with
        live := ensureBuckets f call.siteId call.stationId call.startTime t.live }).1
        (hourKey call.stationId start) := by
    intro hfind
    refine (keepsCountsAt_of_eq ?_).trans (TimeBasedCall.recomputeAll_keeps _ ?_)
    · rw [BucketTables.effective, BucketTables.effective, hfind]
    · rw [hfind]
      exact hone start
  cases hlive : t.live.find (hourKey call.stationId start) with
  | some r =>
    refine ⟨fun _ b _ hstart a ha ↦ ?_, fun _ ↦ hsame ?_⟩
    · subst hstart
      rcases hone b.startTime with hnone | hnone
      · exact absurd (hlive.symm.trans hnone) (Option.some_ne_none r)
      · exact absurd (ha.symm.trans hnone) (Option.some_ne_none a)
    · rw [hlive, find_ensureBuckets_of_some hlive]
  | none =>
    by_cases hgrid : ∃ b ∈ stationHours f call.siteId call.stationId call.startTime,
        b.startTime = start
    · obtain ⟨b, hb, rfl⟩ := hgrid
      obtain ⟨r, hr, hkpis⟩ := find_ensureBuckets_of_hour hb hlive
      cases hlog : t.log.find (hourKey call.stationId b.startTime) with
      | none =>
        refine ⟨fun _ c _ hstart a ha ↦ ?_, fun _ ↦ ?_⟩
        · rw [hstart, hlog] at ha
          exact absurd ha (by simp)
        · have hnone : t.effective (hourKey call.stationId b.startTime) = none := by
            rw [BucketTables.effective, hlive, hlog, Option.or_none]
          refine KeepsCountsAt.trans ⟨fun h ↦ ?_, fun key _ ↦ ?_⟩
            (TimeBasedCall.recomputeAll_keeps _ (.inr hlog))
          · obtain ⟨_, hx⟩ := h
            exact absurd (hnone.symm.trans hx) (by simp)
          have hvisible : BucketTables.effective { t with
              live := ensureBuckets f call.siteId call.stationId call.startTime t.live }
              (hourKey call.stationId b.startTime) = some r := by
            rw [BucketTables.effective, hr, Option.some_or]
          rw [kpi_of_effective hvisible, hkpis, BucketTables.kpi, hnone]
          rfl
      | some a =>
        have hold : t.effective (hourKey call.stationId b.startTime) = some a := by
          rw [BucketTables.effective, hlive, hlog, Option.none_or]
        obtain ⟨hyes, hno⟩ := TimeBasedCall.recomputeAll_hidden (f := f) baseBuckets (t := { t with
            live := ensureBuckets f call.siteId call.stationId call.startTime t.live })
          hr hkpis hlog
        constructor
        · intro hkeeps c _ hstart x hx
          rw [hstart] at hx ⊢
          obtain rfl := Option.some_inj.mp (hlog.symm.trans hx)
          by_cases hrewrites : call.Rewrites baseBuckets b.startTime a
          · exact .inr hrewrites
          · refine .inl fun key hkey ↦ ?_
            rw [← kpi_of_effective hold, ← hkeeps.counts key hkey,
              kpi_of_effective (hno hrewrites), hkpis]
            rfl
        · intro h
          by_cases hrewrites : call.Rewrites baseBuckets b.startTime a
          · refine (keepsCountsAt_of_eq ?_).trans (hyes hrewrites)
            rw [hold]
            exact hlog
          · refine keepsCountsAt_of_rows hold (hno hrewrites) fun key hkey ↦ ?_
            rw [(h b hb rfl a hlog).resolve_right hrewrites key hkey, hkpis]
            rfl
    · have hne : ∀ b ∈ stationHours f call.siteId call.stationId call.startTime,
          b.startTime ≠ start := fun b hb hbs ↦ hgrid ⟨b, hb, hbs⟩
      exact ⟨fun _ b hb hbs ↦ absurd hbs (hne b hb), fun _ ↦
        hsame (find_ensureBuckets_of_forall_ne hne)⟩

end

/-- A shift whose first hour, with five cycles, is archived already. -/
def halfArchived : BucketTables where
  live := insertBuckets (.empty _) [sampleHour 3600000 3, sampleHour 7200000 4]
  log := insertBuckets (.empty _) [sampleHour 0 5]

/-- Durations are recomputed in the third hour of the shift. -/
def lateCall : TimeBasedCall where
  stationId := 2
  siteId := 1
  startTime := 7200000
  endTime := 9000000
  standardCycleSeconds := none
  itemsPerCycle := none
  stateLog := sampleLog
  reasons := [⟨9, true⟩]
  now _ := 9000000

theorem halfArchived_inOneTable : HoursInOneTable halfArchived 2 := by
  intro start
  by_cases hstart : start = 0
  · subst hstart
    exact .inl (by decide +kernel)
  · refine .inr (Table.find_eq_none_iff.mpr fun r hr hkey ↦ hstart ?_)
    have hrows : halfArchived.log.rows.map BucketRow.startTime = [0] := by decide +kernel
    have hzero : r.startTime ∈ halfArchived.log.rows.map BucketRow.startTime :=
      List.mem_map_of_mem hr
    rw [hrows, List.mem_singleton] at hzero
    exact (congrArg BucketKey.startTime hkey).symm.trans hzero

end RwServer
