import Mathlib
import RwServer.Metrics.TimeBased

/-!
# Archiving old buckets

`archiveSiteBuckets` recomputes the durations of the rows of a site that are complete, rolls them
up, and moves the rows from `MetricBucket` to `MetricBucketLog`. The copy skips a row whose key or
id is taken in the log, and the row is deleted all the same; and a rollup may insert a row that is
complete itself, which only the next run moves. `archiveSiteBuckets_iff` says exactly when the move
keeps all values and a second run finds nothing to do.
-/

namespace RwServer

open Relational

/-! ## The run -/

/-- The arguments of a run, and what it reads beside the buckets. -/
structure ArchiveCall where
  siteId : Uuid
  /-- `new Date()`. -/
  now : Time
  stateLog : StateLog
  reasons : List StatusReason
  /-- `Date.now()` when the durations of a row are computed. -/
  clock : BucketRow → Time

/-- The row condition of `oldBuckets`. -/
def isOld (siteId : Uuid) (now : Time) (r : BucketRow) : Bool :=
  r.siteId == siteId && decide (r.startTime < now - msPerDay) && decide (r.endTime ≤ now)

/-- The `data` of the update of a frozen row. -/
def BucketRow.freeze (d : Durations) (r : BucketRow) : BucketRow :=
  { r with kpis := { r.kpis with additive := fun key ↦ (d.column key).getD (r.kpis.additive key) } }

theorem mild_freeze (d : Durations) : Table.Mild bucketRowSchema (BucketRow.freeze d) :=
  mild_of_same (fun _ ↦ rfl) (fun _ ↦ rfl)

/-- The update of the row with an id. -/
def freezeById (id : Uuid) (d : Durations) (live : Table bucketRowSchema) : Table bucketRowSchema :=
  live.modify (fun r ↦ r.id == id) (BucketRow.freeze d) (mild_freeze d)

/-- The row condition of the re-read and of the delete. -/
def hasId (ids : List Uuid) (r : BucketRow) : Bool := ids.contains r.id

namespace ArchiveCall

variable (f : Facility) (call : ArchiveCall)

/-- `oldBuckets`. -/
def oldBuckets (live : Table bucketRowSchema) : List BucketRow :=
  live.rows.filter (isOld call.siteId call.now)

/-- `stationBuckets`. -/
def stationBuckets (live : Table bucketRowSchema) : List BucketRow :=
  (call.oldBuckets live).filter fun r ↦ r.key.entityType == .station

/-- `archivedIds`. -/
def archivedIds (live : Table bucketRowSchema) : List Uuid :=
  (call.oldBuckets live).map BucketRow.id

/-- `d`, the durations of a row. -/
def durations (bucket : BucketRow) : Durations :=
  (computeDurationsForBucket call.stateLog call.reasons bucket.key.entityId bucket.startTime
    bucket.durationMs (call.clock bucket) bucket.kpis.currentStandardCycle 1).toDurations

/-- The loop over the rows of stations. -/
def freezeAll (buckets : List BucketRow) (live : Table bucketRowSchema) : Table bucketRowSchema :=
  buckets.foldl (fun live bucket ↦ freezeById bucket.id (call.durations bucket) live) live

/-- The rollup of the frozen rows of a station. -/
def frozenRollup (stationId : Uuid) (buckets : List BucketWindow) : RollupInput :=
  let timezone := f.siteTimezone call.siteId
  let earliest := (buckets.map BucketWindow.startTime).min?.getD 0
  let shift := stationShift f call.siteId stationId earliest
  { stationId := stationId
    siteId := call.siteId
    affectedBuckets := buckets
    timezone := timezone
    businessDate :=
      some (resolveBusinessDate f earliest (shift.map ShiftWindow.shiftInstanceId) timezone)
    businessShift := shift.map ShiftWindow.shiftName
    stationEntity := none
    skipParentRollup := false }

/-- The loop over `frozenByStation`, whose keys are in the order of their first rows. -/
def rollUpFrozen (buckets : List BucketRow) (t : BucketTables) : BucketTables :=
  let stationIds := (buckets.map fun r ↦ r.key.entityId).eraseDups
  stationIds.foldl (fun t stationId ↦ rollupBuckets f (call.frozenRollup f stationId
    ((buckets.filter fun r ↦ r.key.entityId == stationId).map fun r ↦
      ⟨r.startTime, r.durationMs⟩)) t) t

/-- The tables just before the copy. -/
def refreshOld (t : BucketTables) : BucketTables :=
  let buckets := call.stationBuckets t.live
  call.rollUpFrozen f buckets { t with live := call.freezeAll buckets t.live }

end ArchiveCall

/-- The copy, of the rows as they are re-read, and the delete. -/
def moveBuckets (archivedIds : List Uuid) (t : BucketTables) : BucketTables where
  live := t.live.delete (hasId archivedIds)
  log := Table.copyDown (hasId archivedIds) t.live t.log

def archiveSiteBuckets (f : Facility) (call : ArchiveCall) (t : BucketTables) : BucketTables :=
  if (call.oldBuckets t.live).isEmpty then t
  else moveBuckets (call.archivedIds t.live) (call.refreshOld f t)

/-! ## The rows before the copy -/

/-- A live row keeps its key and its id. -/
def KeepsRows (t t' : BucketTables) : Prop :=
  ∀ r ∈ t.live.rows, ∃ r' ∈ t'.live.rows, r'.key = r.key ∧ r'.id = r.id

section

variable {t t' t'' : BucketTables} {f : Facility}

theorem KeepsRows.refl (t : BucketTables) : KeepsRows t t := fun r hr ↦ ⟨r, hr, rfl, rfl⟩

theorem KeepsRows.trans (h : KeepsRows t t') (h' : KeepsRows t' t'') : KeepsRows t t'' := by
  intro r hr
  obtain ⟨r', hr', hkey, hid⟩ := h r hr
  obtain ⟨r'', hr'', hkey', hid'⟩ := h' r' hr'
  exact ⟨r'', hr'', hkey'.trans hkey, hid'.trans hid⟩

theorem keepsRows_foldl {α : Type} (step : BucketTables → α → BucketTables)
    (hstep : ∀ t a, KeepsRows t (step t a)) (l : List α) (t : BucketTables) :
    KeepsRows t (l.foldl step t) := by
  induction l generalizing t with
  | nil => exact .refl t
  | cons a l ih => exact (hstep t a).trans (ih (step t a))

theorem keepsRows_modify (t : BucketTables) (p : BucketRow → Bool) {g : BucketRow → BucketRow}
    (hg : Table.Mild bucketRowSchema g) (hid : ∀ r, (g r).id = r.id) :
    KeepsRows t { t with live := t.live.modify p g hg } := by
  intro r hr
  refine ⟨_, List.mem_map_of_mem hr, ?_, ?_⟩
  · split
    · exact hg.key r
    · rfl
  · split
    · exact hid r
    · rfl

theorem keepsRows_upsertBucket (t : BucketTables) (u : UpsertInput) :
    KeepsRows t (upsertBucket t u) := by
  rw [upsertBucket]
  split_ifs
  · exact .refl t
  · exact .refl t
  · exact keepsRows_modify t _ u.mild_overwrite fun _ ↦ rfl
  · intro r hr
    have hfind : (t.live.insertMissingAll [{ u.newRow with id := freshId t.live }]).find r.key
        = some r := Table.find_insertMissingAll_of_some (Table.find_of_mem hr)
    exact ⟨r, (Table.find_eq_some_iff.mp hfind).1, rfl, rfl⟩

theorem keepsRows_rollupBuckets (f : Facility) (input : RollupInput) (t : BucketTables) :
    KeepsRows t (rollupBuckets f input t) := by
  rw [rollupBuckets]
  split
  · exact .refl t
  · rw [rollupStationBuckets_eq, runSteps]
    exact keepsRows_foldl (fun t (step : BucketTables → UpsertInput) ↦ upsertBucket t (step t))
      (fun t step ↦ keepsRows_upsertBucket t (step t)) _ t

/-- Every row that is there is there just before the copy. -/
theorem keepsRows_refreshOld (f : Facility) (call : ArchiveCall) (t : BucketTables) :
    KeepsRows t (call.refreshOld f t) := by
  have hfreeze : ∀ (buckets : List BucketRow) (t : BucketTables),
      KeepsRows t { t with live := call.freezeAll buckets t.live } := by
    intro buckets
    induction buckets with
    | nil => exact fun t ↦ .refl t
    | cons b l ih =>
      exact fun t ↦ (keepsRows_modify t (fun r ↦ r.id == b.id) (mild_freeze (call.durations b))
        fun _ ↦ rfl).trans (ih { t with live := freezeById b.id (call.durations b) t.live })
  exact (hfreeze _ t).trans (keepsRows_foldl _ (fun t _ ↦ keepsRows_rollupBuckets f _ t) _ _)

end

/-! ## When nothing is lost -/

/-- What a run has to achieve, from the tables just before the copy. -/
structure Moves (refreshed t' : BucketTables) : Prop where
  effective : ∀ k, t'.effectiveKpis k = refreshed.effectiveKpis k
  archived : ∀ r ∈ refreshed.live.rows, r ∉ t'.live.rows →
    ∃ a, t'.log.find r.key = some a ∧ a.kpis = r.kpis

/-- The log takes a row, or has its values under its key. -/
def LogKeeps (log : Table bucketRowSchema) (r : BucketRow) : Prop :=
  Table.Keeps BucketRow.kpis log r

instance decidableLogKeeps (log : Table bucketRowSchema) (r : BucketRow) :
    Decidable (LogKeeps log r) :=
  inferInstanceAs (Decidable ((_ ∧ ∀ a ∈ log.rows, _) ∨ ∃ _, _ ∧ _))

section

variable {f : Facility} {call : ArchiveCall} {ids : List Uuid} {t refreshed : BucketTables}

/-- **A move loses nothing** iff the log keeps the rows that are moved. -/
theorem moves_moveBuckets_iff : Moves refreshed (moveBuckets ids refreshed) ↔
    ∀ r ∈ refreshed.live.rows, r.id ∈ ids → LogKeeps refreshed.log r := by
  have hid : ∀ r : BucketRow, hasId ids r = true ↔ r.id ∈ ids := fun r ↦ List.contains_iff_mem
  have hkeeps := Table.map_visible_move_iff BucketRow.kpis (hasId ids) refreshed.live refreshed.log
  simp only [hid] at hkeeps
  refine ⟨fun h ↦ ?_, fun h ↦ ⟨fun k ↦ ?_, ?_⟩⟩
  · have harchived := Table.deleted_below_iff.mp h.archived
    simp only [hid] at harchived
    exact harchived
  · have hmap := congrArg (Option.map StoredKPIs.toBucketKPIs) (hkeeps.mpr h k)
    rw [Option.map_map, Option.map_map] at hmap
    exact hmap
  · refine Table.deleted_below_iff.mpr ?_
    simp only [hid]
    exact h

theorem moveBuckets_nil (t : BucketTables) : moveBuckets [] t = t := by
  have hnone : ∀ r : BucketRow, hasId [] r = false := fun r ↦ rfl
  have hlive : t.live.delete (hasId []) = t.live := Table.ext_rows (by
    simp only [Table.delete, hnone, Bool.not_false, List.filter_true])
  have hlog : Table.copyDown (hasId []) t.live t.log = t.log := by
    rw [Table.copyDown, List.filter_eq_nil_iff.mpr fun r _ ↦ by simp [hnone]]
    rfl
  rw [moveBuckets, hlive, hlog]

theorem refreshOld_of_empty (h : (call.oldBuckets t.live).isEmpty = true) :
    call.refreshOld f t = t := by
  have hnone : call.stationBuckets t.live = [] := by
    rw [ArchiveCall.stationBuckets, List.isEmpty_iff.mp h, List.filter_nil]
  rw [ArchiveCall.refreshOld, hnone]
  rfl

/-- Where nothing is old, there is nothing to move. -/
theorem archiveSiteBuckets_eq (f : Facility) (call : ArchiveCall) (t : BucketTables) :
    archiveSiteBuckets f call t
      = moveBuckets (call.archivedIds t.live) (call.refreshOld f t) := by
  rw [archiveSiteBuckets]
  split
  · rename_i hempty
    rw [refreshOld_of_empty hempty, ArchiveCall.archivedIds, List.isEmpty_iff.mp hempty,
      List.map_nil, moveBuckets_nil]
  · rfl

/-- A run changes nothing iff no live row is old. -/
theorem archiveSiteBuckets_eq_self_iff : archiveSiteBuckets f call t = t ↔
    ∀ r ∈ t.live.rows, isOld call.siteId call.now r = false := by
  constructor
  · intro h r hr
    rw [← Bool.not_eq_true]
    intro hold
    have hid : r.id ∈ call.archivedIds t.live :=
      List.mem_map_of_mem (List.mem_filter.mpr ⟨hr, hold⟩)
    -- an old row is deleted
    rw [← h, archiveSiteBuckets_eq] at hr
    obtain ⟨-, hkept⟩ := List.mem_filter.mp hr
    rw [hasId, List.contains_iff_mem.mpr hid] at hkept
    exact Bool.noConfusion hkept
  · intro h
    rw [archiveSiteBuckets, if_pos]
    rw [ArchiveCall.oldBuckets, List.filter_eq_nil_iff.mpr fun r hr ↦ by simp [h r hr]]
    rfl

/-- **Archiving loses nothing, and is done after one run, iff the log keeps each row that is moved
and every row that is complete just before the copy is among them.** -/
theorem archiveSiteBuckets_iff (f : Facility) (call : ArchiveCall) (t : BucketTables) :
    KeepsRows t (call.refreshOld f t) ∧
      ((Moves (call.refreshOld f t) (archiveSiteBuckets f call t) ∧
          archiveSiteBuckets f call (archiveSiteBuckets f call t)
            = archiveSiteBuckets f call t) ↔
        (∀ r ∈ (call.refreshOld f t).live.rows, r.id ∈ call.archivedIds t.live →
          LogKeeps (call.refreshOld f t).log r) ∧
        ∀ r ∈ (call.refreshOld f t).live.rows, isOld call.siteId call.now r = true →
          r.id ∈ call.archivedIds t.live) := by
  refine ⟨keepsRows_refreshOld f call t, ?_⟩
  rw [archiveSiteBuckets_eq_self_iff, archiveSiteBuckets_eq, moves_moveBuckets_iff]
  refine and_congr_right fun _ ↦ ?_
  rw [moveBuckets, Table.delete]
  simp only [List.mem_filter, Bool.not_eq_true', and_imp]
  refine forall₂_congr fun r _ ↦ ?_
  rw [hasId, ← Bool.not_eq_true, ← Bool.not_eq_true, List.contains_iff_mem]
  exact ⟨fun h hold ↦ by_contra fun hid ↦ h hid hold, fun h hid hold ↦ hid (h hold)⟩

end

/-- A run two days after the hours of the sample. -/
def sampleArchive : ArchiveCall where
  siteId := 1
  now := 172800000
  stateLog := sampleLog
  reasons := [⟨9, true⟩]
  clock _ := 172800000

/-- The first hour is in both tables, and the five cycles of its live row are gone. -/
theorem archiveSiteBuckets_loses :
    (sampleArchive.refreshOld (oneShiftFacility 0 28800000) sampleTables).kpi (hourKey 2 0)
      .totalCycles = 5 ∧
    (archiveSiteBuckets (oneShiftFacility 0 28800000) sampleArchive sampleTables).kpi (hourKey 2 0)
      .totalCycles = 1 ∧
    ¬Moves (sampleArchive.refreshOld (oneShiftFacility 0 28800000) sampleTables)
      (archiveSiteBuckets (oneShiftFacility 0 28800000) sampleArchive sampleTables) := by
  have hbefore : (sampleArchive.refreshOld (oneShiftFacility 0 28800000) sampleTables).kpi
      (hourKey 2 0) .totalCycles = 5 := by
    decide +kernel
  have hafter : (archiveSiteBuckets (oneShiftFacility 0 28800000) sampleArchive sampleTables).kpi
      (hourKey 2 0) .totalCycles = 1 := by
    decide +kernel
  refine ⟨hbefore, hafter, fun h ↦ ?_⟩
  have hkpi := congrArg (fun kpis : Option BucketKPIs ↦
    (kpis.map fun kpis ↦ kpis.additive .totalCycles).getD 0) (h.effective (hourKey 2 0))
  simp only [BucketTables.effectiveKpis, Option.map_map] at hkpi
  have hsame : (archiveSiteBuckets (oneShiftFacility 0 28800000) sampleArchive sampleTables).kpi
      (hourKey 2 0) .totalCycles
      = (sampleArchive.refreshOld (oneShiftFacility 0 28800000) sampleTables).kpi (hourKey 2 0)
        .totalCycles := hkpi
  rw [hbefore, hafter] at hsame
  exact absurd hsame (by decide)

end RwServer
