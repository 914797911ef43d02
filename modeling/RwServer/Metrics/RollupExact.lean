import Mathlib
import RwServer.Metrics.Rollup

/-!
# A rollup is exact and idempotent

The steps of `rollupStationBuckets` settle: those for the station read its hours, which no step
writes, and those for the parents read rows of stations, which only the steps before them write.
-/

namespace RwServer

open Relational

/-! ## The steps of a rollup -/

section

variable (f : Facility) (input : RollupInput)

def timeSteps : List (BucketTables → UpsertInput) := (timeTargets f input).map (timeInput f input)

def parentSteps : List (BucketTables → UpsertInput) :=
  if input.skipParentRollup then []
  else (parentTargets f input.stationId input.siteId).flatMap fun parent ↦
    (stationRollupTargets f input).map (parentInput f input parent)

theorem rollupStationBuckets_eq (t : BucketTables) :
    rollupStationBuckets f input t = runSteps (timeSteps f input ++ parentSteps f input) t := by
  rw [runSteps, List.foldl_append, timeSteps, List.foldl_map, parentSteps, rollupStationBuckets]
  split
  · rfl
  · rw [List.foldl_flatMap]
    simp only [List.foldl_map]

end

section

variable {f : Facility} {input : RollupInput} {t : BucketTables} {u : UpsertInput}

theorem subBuckets_upsertBucket {entityType : BucketEntityType} {entityId : Uuid}
    {granularity : BucketGranularity} {window : BucketWindow}
    (hu : ¬(u.key.entityType = entityType ∧ u.key.granularity = granularity)) :
    subBuckets (upsertBucket t u) entityType entityId granularity window
      = subBuckets t entityType entityId granularity window := by
  obtain ⟨hlive, hlog⟩ := filter_upsertBucket t u
    (p := isSubBucket entityType entityId granularity window) fun r hr ↦ by
      rw [← Bool.not_eq_true, isSubBucket_iff, hr]
      exact fun h ↦ hu ⟨h.entityType, h.granularity⟩
  rw [subBuckets, subBuckets, hlive, hlog]

theorem sumEntityBuckets_upsertBucket {childEntityIds : List Uuid}
    {childEntityType : BucketEntityType} {granularity : BucketGranularity} {window : BucketWindow}
    (hu : u.key.entityType ≠ childEntityType) :
    sumEntityBucketsInWindow (upsertBucket t u) childEntityIds childEntityType granularity window
      = sumEntityBucketsInWindow t childEntityIds childEntityType granularity window := by
  obtain ⟨hlive, hlog⟩ := filter_upsertBucket t u
    (p := isChildBucket childEntityIds childEntityType granularity window.startTime) fun r hr ↦ by
      rw [← Bool.not_eq_true, isChildBucket, hr]
      simp [hu]
  simp only [sumEntityBucketsInWindow, hlive, hlog]

theorem granularity_of_mem_timeTargets {target : RollupTarget}
    (h : target ∈ timeTargets f input) : target.granularity ≠ .hour := by
  rcases List.mem_append.mp h with h | h
  · obtain ⟨shift, -, rfl⟩ := List.mem_map.mp h
    exact BucketGranularity.noConfusion
  · obtain ⟨day, -, rfl⟩ := List.mem_map.mp h
    exact BucketGranularity.noConfusion

theorem entityType_of_mem_parentTargets {stationId siteId : Uuid} {parent : IncrementTarget}
    (h : parent ∈ parentTargets f stationId siteId) : parent.entityType ≠ .station :=
  bne_iff_ne.mp (List.mem_filter.mp h).2

theorem exists_of_mem_timeSteps {step : BucketTables → UpsertInput}
    (h : step ∈ timeSteps f input) :
    ∃ target ∈ timeTargets f input, step = timeInput f input target := by
  obtain ⟨target, ht, rfl⟩ := List.mem_map.mp h
  exact ⟨target, ht, rfl⟩

theorem exists_of_mem_parentSteps {step : BucketTables → UpsertInput}
    (h : step ∈ parentSteps f input) : ∃ parent ∈ parentTargets f input.stationId input.siteId,
      ∃ target ∈ stationRollupTargets f input, step = parentInput f input parent target := by
  rw [parentSteps] at h
  split at h
  · exact absurd h (by simp)
  · obtain ⟨parent, hparent, h⟩ := List.mem_flatMap.mp h
    obtain ⟨target, htarget, rfl⟩ := List.mem_map.mp h
    exact ⟨parent, hparent, target, htarget, rfl⟩

/-- A step for the station reads its hours, which no step of the rollup writes. -/
theorem timeInput_upsertBucket (target : RollupTarget)
    (hu : ¬(u.key.entityType = .station ∧ u.key.granularity = .hour)) :
    timeInput f input target (upsertBucket t u) = timeInput f input target t := by
  rw [timeInput, timeInput, sumBucketsInWindowWithStdCycle, sumBucketsInWindowWithStdCycle,
    subBuckets_upsertBucket hu]

/-- A step for a parent reads rows of stations, which no step for a parent writes. -/
theorem parentInput_upsertBucket (parent : IncrementTarget) (target : RollupTarget)
    (hu : u.key.entityType ≠ .station) :
    parentInput f input parent target (upsertBucket t u) = parentInput f input parent target t := by
  rw [parentInput, parentInput, sumEntityBuckets_upsertBucket hu]

/-- Parents with the same key have the same name and path. -/
theorem eq_of_mem_parentTargets {stationId siteId : Uuid} {a b : IncrementTarget}
    (ha : a ∈ parentTargets f stationId siteId) (hb : b ∈ parentTargets f stationId siteId)
    (htype : a.entityType = b.entityType) (hid : a.entityId = b.entityId) : a = b := by
  have hcases : ∀ c ∈ parentTargets f stationId siteId,
      (∃ w ∈ f.workcentersAbove stationId, c = ⟨.workcenter, w.id, w.name,
        Facility.pathThrough siteId
          ((f.workcentersAbove stationId).dropWhile fun v ↦ v.id != w.id)⟩) ∨
        c = ⟨.site, siteId, ((f.site siteId).map Site.name).getD "",
          Facility.pathThrough siteId []⟩ := by
    intro c hc
    obtain ⟨hmem, hne⟩ := List.mem_filter.mp hc
    rcases List.mem_cons.mp hmem with rfl | hmem
    · exact absurd hne (by simp)
    · rcases List.mem_append.mp hmem with hmem | hmem
      · obtain ⟨w, hw, rfl⟩ := List.mem_map.mp hmem
        exact .inl ⟨w, hw, rfl⟩
      · exact .inr (List.mem_singleton.mp hmem)
  rcases hcases a ha with ⟨w, hw, rfl⟩ | rfl <;> rcases hcases b hb with ⟨v, hv, rfl⟩ | rfl
  · obtain rfl : w = v := eq_of_mem_workcentersAbove hw hv hid
    rfl
  · exact BucketEntityType.noConfusion htype
  · exact BucketEntityType.noConfusion htype
  · rfl

theorem isHeldBy_congr {u u' : UpsertInput} (hkpis : u.kpis = u'.kpis)
    (hstd : u.stdCycle = u'.stdCycle) (hjob : u.currentJobId = u'.currentJobId)
    (hname : u.currentJobName = u'.currentJobName) (hentity : u.entityName = u'.entityName)
    (hpath : u.path = u'.path) : u.isHeldBy = u'.isHeldBy := by
  funext row
  rw [Bool.eq_iff_iff, isHeldBy_iff, isHeldBy_iff, hkpis, hstd, hjob, hname, hentity, hpath]

theorem timeInput_key (target : RollupTarget) : (timeInput f input target t).key
    = ⟨.station, input.stationId, target.granularity, target.window.startTime⟩ := rfl

theorem sumEntityBuckets_standardCycle (childEntityIds : List Uuid)
    (childEntityType : BucketEntityType) (granularity : BucketGranularity) (window : BucketWindow) :
    (sumEntityBucketsInWindow t childEntityIds childEntityType granularity
      window).currentStandardCycle = none := by
  rw [sumEntityBucketsInWindow]
  split
  · rfl
  · exact sumKPIs_currentStandardCycle _

theorem timeInput_stdCycle (target : RollupTarget) : (timeInput f input target t).stdCycle
    = (sumBucketsInWindowWithStdCycle t .station input.stationId .hour
        target.window).latest.currentStandardCycle := rfl

theorem parentInput_stdCycle (parent : IncrementTarget) (target : RollupTarget) :
    (parentInput f input parent target t).stdCycle = none :=
  sumEntityBuckets_standardCycle _ _ _ _

/-! ### Affected windows -/

/-- A list in which no two values begin together. -/
def UniqueBy {α : Type} (startTime : α → Time) (l : List α) : Prop :=
  ∀ a ∈ l, ∀ b ∈ l, startTime a = startTime b → a = b

theorem uniqueBy_addUnseen {α : Type} {startTime : α → Time} {seen : List α}
    (h : UniqueBy startTime seen) (x : α) : UniqueBy startTime (addUnseen startTime seen x) := by
  rw [addUnseen]
  split
  · exact h
  · rename_i hnew
    have hne : ∀ y ∈ seen, startTime y ≠ startTime x := fun y hy hyx ↦
      hnew (List.any_eq_true.mpr ⟨y, hy, beq_iff_eq.mpr hyx⟩)
    intro a ha b hb hab
    rcases List.mem_append.mp ha with ha' | ha' <;> rcases List.mem_append.mp hb with hb' | hb'
    · exact h a ha' b hb' hab
    · obtain rfl := List.mem_singleton.mp hb'
      exact absurd hab (hne a ha')
    · obtain rfl := List.mem_singleton.mp ha'
      exact absurd hab.symm (hne b hb')
    · exact (List.mem_singleton.mp ha').trans (List.mem_singleton.mp hb').symm

theorem uniqueBy_resolveAffectedShifts (f : Facility) (stationId siteId : Uuid)
    (buckets : List BucketWindow) :
    UniqueBy ShiftWindow.startTime (resolveAffectedShifts f stationId siteId buckets) := by
  have hadd : ∀ seen, UniqueBy ShiftWindow.startTime seen → ∀ timestamp,
      UniqueBy ShiftWindow.startTime (addShiftAt f stationId siteId seen timestamp) := by
    intro seen h timestamp
    rw [addShiftAt]
    split
    · exact uniqueBy_addUnseen h _
    · exact h
  rw [resolveAffectedShifts]
  exact List.foldlRecOn (motive := UniqueBy ShiftWindow.startTime) buckets _
    (fun a ha ↦ absurd ha (by simp)) fun seen h bucket _ ↦ hadd _ (hadd seen h _) _

theorem uniqueBy_resolveAffectedDays (buckets : List BucketWindow) (timezone : Timezone) :
    UniqueBy BucketWindow.startTime (resolveAffectedDays buckets timezone) := by
  rw [resolveAffectedDays]
  exact List.foldlRecOn (motive := UniqueBy BucketWindow.startTime) buckets _
    (fun a ha ↦ absurd ha (by simp)) fun seen h bucket _ ↦
      uniqueBy_addUnseen (uniqueBy_addUnseen h _) _

/-- Targets of the station with the same key are the same. -/
theorem eq_of_mem_timeTargets {a b : RollupTarget} (ha : a ∈ timeTargets f input)
    (hb : b ∈ timeTargets f input) (hgran : a.granularity = b.granularity)
    (hstart : a.window.startTime = b.window.startTime) : a = b := by
  rcases List.mem_append.mp ha with ha | ha <;> rcases List.mem_append.mp hb with hb | hb <;>
    obtain ⟨x, hx, rfl⟩ := List.mem_map.mp ha <;> obtain ⟨y, hy, rfl⟩ := List.mem_map.mp hb
  · rw [uniqueBy_resolveAffectedShifts _ _ _ _ x hx y hy hstart]
  · exact BucketGranularity.noConfusion hgran
  · exact BucketGranularity.noConfusion hgran
  · rw [uniqueBy_resolveAffectedDays _ _ x hx y hy hstart]

/-! ### The steps settle -/

theorem not_stationHour_of_mem_steps {step : BucketTables → UpsertInput}
    (h : step ∈ timeSteps f input ++ parentSteps f input) (t : BucketTables) :
    ¬((step t).key.entityType = .station ∧ (step t).key.granularity = .hour) := by
  rintro ⟨htype, hgran⟩
  rcases List.mem_append.mp h with h | h
  · obtain ⟨target, htarget, rfl⟩ := exists_of_mem_timeSteps h
    exact granularity_of_mem_timeTargets htarget hgran
  · obtain ⟨parent, hparent, target, -, rfl⟩ := exists_of_mem_parentSteps h
    exact entityType_of_mem_parentTargets hparent htype

theorem settles_rollup (f : Facility) (input : RollupInput) :
    Settles (timeSteps f input ++ parentSteps f input) := by
  have htime : ∀ step ∈ timeSteps f input, ∀ step' ∈ timeSteps f input ++ parentSteps f input,
      StableUnder step step' := by
    intro step hstep step' hstep' t
    obtain ⟨target, -, rfl⟩ := exists_of_mem_timeSteps hstep
    exact timeInput_upsertBucket target (not_stationHour_of_mem_steps hstep' t)
  have hparent : ∀ step ∈ parentSteps f input, ∀ step' ∈ parentSteps f input,
      StableUnder step step' := by
    intro step hstep step' hstep' t
    obtain ⟨parent, -, target, -, rfl⟩ := exists_of_mem_parentSteps hstep
    obtain ⟨parent', hparent', target', -, rfl⟩ := exists_of_mem_parentSteps hstep'
    exact parentInput_upsertBucket parent target (entityType_of_mem_parentTargets hparent')
  refine ⟨?_, ?_, ?_, ?_⟩
  · intro step hstep
    rcases List.mem_append.mp hstep with h | h
    · exact htime step h step hstep
    · exact hparent step h step h
  · refine List.pairwise_append.mpr ⟨?_, ?_, ?_⟩
    · exact List.pairwise_of_forall_mem_list fun step h step' h' ↦
        htime step h step' (List.mem_append_left _ h')
    · exact List.pairwise_of_forall_mem_list hparent
    · exact fun step h step' h' ↦ htime step h step' (List.mem_append_right _ h')
  · intro step hstep step' hstep' t hkey
    rcases List.mem_append.mp hstep with h | h <;> rcases List.mem_append.mp hstep' with h' | h'
    · obtain ⟨target, htarget, rfl⟩ := exists_of_mem_timeSteps h
      obtain ⟨target', htarget', rfl⟩ := exists_of_mem_timeSteps h'
      rw [eq_of_mem_timeTargets htarget htarget' (congrArg BucketKey.granularity hkey)
        (congrArg BucketKey.startTime hkey)]
    · obtain ⟨target, -, rfl⟩ := exists_of_mem_timeSteps h
      obtain ⟨parent, hparent, target', -, rfl⟩ := exists_of_mem_parentSteps h'
      exact absurd (congrArg BucketKey.entityType hkey).symm
        (entityType_of_mem_parentTargets hparent)
    · obtain ⟨parent, hparent, target, -, rfl⟩ := exists_of_mem_parentSteps h
      obtain ⟨target', -, rfl⟩ := exists_of_mem_timeSteps h'
      exact absurd (congrArg BucketKey.entityType hkey) (entityType_of_mem_parentTargets hparent)
    · obtain ⟨parent, hparent, target, -, rfl⟩ := exists_of_mem_parentSteps h
      obtain ⟨parent', hparent', target', -, rfl⟩ := exists_of_mem_parentSteps h'
      obtain rfl := eq_of_mem_parentTargets hparent hparent'
        (congrArg BucketKey.entityType hkey) (congrArg BucketKey.entityId hkey)
      -- the sum of a parent depends on the granularity and the start time only
      have hgran : target.granularity = target'.granularity := congrArg BucketKey.granularity hkey
      have hstart : target.window.startTime = target'.window.startTime :=
        congrArg BucketKey.startTime hkey
      refine isHeldBy_congr ?_ ?_ rfl rfl rfl rfl
      · simp only [parentInput, sumEntityBucketsInWindow, hgran, hstart]
      · rw [parentInput_stdCycle, parentInput_stdCycle]
  · intro step hstep t q hq
    rcases List.mem_append.mp hstep with h | h
    · obtain ⟨target, -, rfl⟩ := exists_of_mem_timeSteps h
      obtain ⟨k, -, hk, -⟩ := (sumBuckets_isLast t .station input.stationId .hour
        target.window).2 q hq
      exact BucketTables.hasTwoDecimals_standardCycle hk
    · obtain ⟨parent, -, target, -, rfl⟩ := exists_of_mem_parentSteps h
      rw [parentInput_stdCycle] at hq
      exact absurd hq (by simp)

/-! ## What a rollup stores -/

/-- The row of a station stores the sums of the hours that begin in the window, and the last
standard cycle among them. -/
structure StoresHourSums (t : BucketTables) (stationId : Uuid) (granularity : BucketGranularity)
    (window : BucketWindow) : Prop where
  present : ∃ row, t.effective ⟨.station, stationId, granularity, window.startTime⟩ = some row
  additive : ∀ key, t.kpi ⟨.station, stationId, granularity, window.startTime⟩ key
    = ∑ k ∈ t.keys.filter (IsSubKey .station stationId .hour window), t.kpi k key
  standardCycle : IsLastStandardCycle t (IsSubKey .station stationId .hour window)
    (t.standardCycle ⟨.station, stationId, granularity, window.startTime⟩)

/-- The row of a parent stores the sums of the rows of its stations at the same start time. -/
structure StoresStationSums (t : BucketTables) (f : Facility) (parent : IncrementTarget)
    (granularity : BucketGranularity) (startTime : Time) : Prop where
  present : ∃ row,
    t.effective ⟨parent.entityType, parent.entityId, granularity, startTime⟩ = some row
  additive : ∀ key, t.kpi ⟨parent.entityType, parent.entityId, granularity, startTime⟩ key
    = ∑ id ∈ (getChildStationIds f parent.entityType parent.entityId).toFinset,
      t.kpi ⟨.station, id, granularity, startTime⟩ key

/-- What is read of a row that holds an input. -/
theorem kpi_of_holds (h : Holds t u) : (∃ row, t.effective u.key = some row) ∧
    (∀ key, t.kpi u.key key = u.kpis.additive key) ∧ t.standardCycle u.key = u.stdCycle := by
  obtain ⟨row, hrow, hheld⟩ := h
  obtain ⟨hadd, hstd, -⟩ := isHeldBy_iff.mp hheld
  refine ⟨⟨row, hrow⟩, fun key ↦ ?_, ?_⟩
  · rw [BucketTables.kpi, hrow, Option.map_some, Option.getD_some, hadd]
  · rw [BucketTables.standardCycle, hrow, Option.bind_some, hstd]

/-- The sums of a parent are over its stations. -/
theorem sumEntityBuckets_additive (t : BucketTables) (childEntityIds : List Uuid)
    (granularity : BucketGranularity) (window : BucketWindow) (key : KpiKey) :
    (sumEntityBucketsInWindow t childEntityIds .station granularity window).additive key
      = ∑ id ∈ childEntityIds.toFinset,
        t.kpi ⟨.station, id, granularity, window.startTime⟩ key := by
  let q : BucketKey → Prop := fun k ↦ k.entityType = .station ∧ k.entityId ∈ childEntityIds ∧
    k.granularity = granularity ∧ k.startTime = window.startTime
  have hq : ∀ r : BucketRow, isChildBucket childEntityIds .station granularity window.startTime r
      = true ↔ q r.key := by
    intro r
    simp only [isChildBucket, Bool.and_eq_true, beq_iff_eq, List.contains_iff_mem,
      decide_eq_true_eq, and_assoc, q]
    rfl
  have htag : Table.Tags bucketRowSchema
      (isChildBucket childEntityIds .station granularity window.startTime)
      fun r : BucketRow ↦ r.key.entityId := by
    constructor
    · intro a b hkey
      have hab : a.key = b.key := hkey
      exact ⟨by rw [Bool.eq_iff_iff, hq, hq, hab], congrArg BucketKey.entityId hab⟩
    · intro a b ha hb hid
      obtain ⟨ha₁, -, ha₂, ha₃⟩ := (hq a).mp ha
      obtain ⟨hb₁, -, hb₂, hb₃⟩ := (hq b).mp hb
      exact BucketKey.ext (ha₁.trans hb₁.symm) hid (ha₂.trans hb₂.symm) (ha₃.trans hb₃.symm)
  rw [sumEntityBucketsInWindow]
  split
  · rename_i hempty
    rw [List.isEmpty_iff.mp hempty]
    rfl
  · rw [sumKPIs_additive, List.map_map]
    refine (Table.sum_preferFirst htag hq fun r : BucketRow ↦ r.kpis.additive key).trans ?_
    refine Finset.sum_of_injOn BucketKey.entityId ?_ ?_ ?_ ?_
    · intro a ha b hb hid
      obtain ⟨-, ha₁, -, ha₂, ha₃⟩ := Finset.mem_filter.mp ha
      obtain ⟨-, hb₁, -, hb₂, hb₃⟩ := Finset.mem_filter.mp hb
      exact BucketKey.ext (ha₁.trans hb₁.symm) hid (ha₂.trans hb₂.symm) (ha₃.trans hb₃.symm)
    · intro a ha
      exact List.mem_toFinset.mpr (Finset.mem_filter.mp ha).2.2.1
    · intro id hid hnot
      -- a station without a row
      cases hrow : t.effective ⟨.station, id, granularity, window.startTime⟩ with
      | none => rw [BucketTables.kpi, hrow, Option.map_none, Option.getD_none]
      | some row =>
        refine absurd ⟨⟨.station, id, granularity, window.startTime⟩, ?_, rfl⟩ hnot
        exact Finset.mem_filter.mpr ⟨Table.mem_visibleKeys.mpr ⟨row, hrow⟩, rfl,
          List.mem_toFinset.mp hid, rfl, rfl⟩
    · intro a ha
      obtain ⟨-, ha₁, -, ha₂, ha₃⟩ := Finset.mem_filter.mp ha
      rw [← ha₁, ← ha₂, ← ha₃]
      rfl

/-- The rows of the station store the sums of its hours. -/
theorem storesHourSums_rollup {target : RollupTarget} (htarget : target ∈ timeTargets f input)
    (t : BucketTables) : StoresHourSums (rollupStationBuckets f input t) input.stationId
      target.granularity target.window := by
  rw [rollupStationBuckets_eq]
  obtain ⟨hpresent, hadd, hstd⟩ := kpi_of_holds (holds_runSteps (settles_rollup f input) t _
    (List.mem_append_left _ (List.mem_map_of_mem htarget)))
  refine ⟨hpresent, fun key ↦ (hadd key).trans (sumBuckets_additive _ _ _ _ _ key), ?_⟩
  rw [timeInput_key, timeInput_stdCycle] at hstd
  rw [hstd]
  exact sumBuckets_isLast _ _ _ _ _

/-- The rows of a parent store the sums of its stations. -/
theorem storesStationSums_rollup (hparents : input.skipParentRollup = false)
    {parent : IncrementTarget} (hparent : parent ∈ parentTargets f input.stationId input.siteId)
    {target : RollupTarget} (htarget : target ∈ stationRollupTargets f input) (t : BucketTables) :
    StoresStationSums (rollupStationBuckets f input t) f parent target.granularity
      target.window.startTime := by
  have hmem : parentInput f input parent target ∈ parentSteps f input := by
    rw [parentSteps, if_neg (by rw [hparents]; exact Bool.false_ne_true)]
    exact List.mem_flatMap.mpr ⟨parent, hparent, List.mem_map_of_mem htarget⟩
  rw [rollupStationBuckets_eq]
  obtain ⟨hpresent, hadd, -⟩ := kpi_of_holds (holds_runSteps (settles_rollup f input) t _
    (List.mem_append_right _ hmem))
  exact ⟨hpresent, fun key ↦ (hadd key).trans (sumEntityBuckets_additive _ _ _ _ key)⟩

/-- The hours of every station are as before, in both tables. -/
theorem find_rollup_of_hour (f : Facility) (input : RollupInput) {k : BucketKey}
    (htype : k.entityType = .station) (hgran : k.granularity = .hour) (t : BucketTables) :
    (rollupStationBuckets f input t).live.find k = t.live.find k ∧
      (rollupStationBuckets f input t).log.find k = t.log.find k := by
  rw [rollupStationBuckets_eq]
  refine find_runSteps_of_forall_ne fun step hstep t hkey ↦ ?_
  exact not_stationHour_of_mem_steps hstep t (by rw [hkey]; exact ⟨htype, hgran⟩)

theorem effective_rollup_of_hour {k : BucketKey} (htype : k.entityType = .station)
    (hgran : k.granularity = .hour) (t : BucketTables) :
    (rollupStationBuckets f input t).effective k = t.effective k := by
  obtain ⟨hlive, hlog⟩ := find_rollup_of_hour f input htype hgran t
  rw [BucketTables.effective, BucketTables.effective, hlive, hlog]

/-- A second rollup changes nothing. -/
theorem rollup_rollup (f : Facility) (input : RollupInput) (t : BucketTables) :
    rollupStationBuckets f input (rollupStationBuckets f input t)
      = rollupStationBuckets f input t := by
  simp only [rollupStationBuckets_eq]
  exact runSteps_settled (settles_rollup f input) t

end

/-- The first hour is in both tables, the second in the archive only. -/
def sampleTables : BucketTables where
  live := insertBuckets (.empty _) [sampleHour 0 5]
  log := insertBuckets (.empty _) [sampleHour 0 1, sampleHour 3600000 3]

/-- A rollup for the second hour of the shift. -/
def sampleRollup : RollupInput where
  stationId := 2
  siteId := 1
  affectedBuckets := [⟨3600000, msPerHour⟩]
  timezone := .utc
  businessDate := some 0
  businessShift := some "Early"
  stationEntity := none
  skipParentRollup := false

example : (rollupStationBuckets (oneShiftFacility 0 28800000) sampleRollup sampleTables).kpi
    ⟨.station, 2, .shift, 0⟩ .totalCycles = 8 := by
  decide +kernel

end RwServer
