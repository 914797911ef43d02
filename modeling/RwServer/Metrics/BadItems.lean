import Mathlib
import RwServer.Metrics.HourWindows
import RwServer.Metrics.RollupExact

/-!
# Correcting scrap

`updateDispositionBadItems` adds a quantity to `badItems` of the hour that contains a timestamp: in
the live row, or in the archived one where there is no live row. But it scaffolds the hours around
the timestamp first, so there always is a live row, and a scaffolded row hides the archived one of
its hour. `updateDispositionBadItems_iff` says exactly when nothing is hidden.
-/

namespace RwServer

open Windows Relational

/-! ## The call -/

/-- `SET "badItems" = "badItems" + quantity`. -/
def StoredKPIs.addBadItems (quantity : ℤ) (kpis : StoredKPIs) : StoredKPIs :=
  { kpis with
    additive := Function.update kpis.additive .badItems (kpis.additive .badItems + quantity) }

def BucketRow.addBadItems (quantity : ℤ) (r : BucketRow) : BucketRow :=
  { r with kpis := r.kpis.addBadItems quantity }

theorem mild_addBadItems (quantity : ℤ) :
    Table.Mild bucketRowSchema (BucketRow.addBadItems quantity) :=
  mild_of_same (fun _ ↦ rfl) (fun _ ↦ rfl)

/-- The `UPDATE` of one hour of a station, in one of the tables. -/
def addBadItemsAt (stationId : Uuid) (startTime : Time) (quantity : ℤ)
    (table : Table bucketRowSchema) : Table bucketRowSchema :=
  table.modify (fun r ↦ decide (r.key = hourKey stationId startTime))
    (BucketRow.addBadItems quantity) (mild_addBadItems quantity)

/-- The rollup after the base bucket of a timestamp has been corrected. -/
def badItemsRollup (f : Facility) (stationId siteId : Uuid) (timestamp : Time)
    (baseBucket : HourBucket) : RollupInput :=
  let timezone := f.siteTimezone siteId
  let shift := stationShift f siteId stationId timestamp
  { stationId := stationId
    siteId := siteId
    affectedBuckets := [⟨baseBucket.startTime, baseBucket.durationMs⟩]
    timezone := timezone
    businessDate := some
      (resolveBusinessDate f timestamp (shift.map ShiftWindow.shiftInstanceId) timezone)
    businessShift := shift.map ShiftWindow.shiftName
    stationEntity := some (f.stationName stationId, f.stationPath siteId stationId)
    skipParentRollup := false }

/-- `none` is the error of `getBaseBucketForTimestamp`. -/
def updateDispositionBadItems (f : Facility) (stationId siteId : Uuid) (timestamp : Time)
    (quantity : ℤ) (t : BucketTables) : Option BucketTables :=
  (resolveHourBucketForEntity f .station stationId siteId timestamp (f.siteTimezone siteId)).map
    fun baseBucket ↦
      let live := ensureBuckets f siteId stationId timestamp t.live
      let addAt := addBadItemsAt stationId baseBucket.startTime quantity
      let incremented : BucketTables :=
        if (live.find (hourKey stationId baseBucket.startTime)).isSome then ⟨addAt live, t.log⟩
        else ⟨live, addAt t.log⟩
      rollupBuckets f (badItemsRollup f stationId siteId timestamp baseBucket) incremented

/-! ## What it should change -/

/-- The columns of a row other than the id. -/
def BucketRow.data (r : BucketRow) : BucketRow := { r with id := 0 }

theorem BucketRow.kpis_of_data_eq {r r' : BucketRow} (h : r.data = r'.data) : r.kpis = r'.kpis := by
  have hkpis := congrArg BucketRow.kpis h
  exact hkpis

/-- The rows of the hours of a station are as before, except that one of them has more scrap; an
hour without a row may have got an empty one. -/
structure AddsBadItemsOnly (t t' : BucketTables) (stationId : Uuid) (hourStart : Time)
    (quantity : ℤ) : Prop where
  counted : ∃ r', t'.effective (hourKey stationId hourStart) = some r'
  kept : ∀ start r, t.effective (hourKey stationId start) = some r →
    ∃ r', t'.effective (hourKey stationId start) = some r' ∧
      r'.data = (if start = hourStart then r.addBadItems quantity else r).data
  fresh : ∀ start r', t.effective (hourKey stationId start) = none →
    t'.effective (hourKey stationId start) = some r' →
      r'.kpis = if start = hourStart then zeroKpis.store.addBadItems quantity else zeroKpis.store

/-- The row of a shift stores the sums of the hours as they were, and the scrap that was added to
one of them. -/
structure ResumsWithBadItems (t t' : BucketTables) (stationId : Uuid) (shift : ShiftWindow)
    (hourStart : Time) (quantity : ℤ) : Prop where
  additive : ∀ key, t'.kpi ⟨.station, stationId, .shift, shift.startTime⟩ key
    = ∑ k ∈ t.keys.filter (IsSubKey .station stationId .hour shift.bucketWindow), t.kpi k key +
      if key = .badItems ∧ shift.startTime ≤ hourStart ∧ hourStart < shift.endTime then quantity
      else 0
  standardCycle : IsLastStandardCycle t (IsSubKey .station stationId .hour shift.bucketWindow)
    (t'.standardCycle ⟨.station, stationId, .shift, shift.startTime⟩)

/-! ## Adding to one hour -/

section

variable {stationId : Uuid} {start hourStart : Time} {quantity : ℤ} {table : Table bucketRowSchema}
  {t t' : BucketTables}

theorem hourKey_inj : hourKey stationId start = hourKey stationId hourStart ↔ start = hourStart :=
  ⟨congrArg BucketKey.startTime, fun h ↦ h ▸ rfl⟩

theorem find_addBadItemsAt : (addBadItemsAt stationId hourStart quantity table).find
    (hourKey stationId start) = (table.find (hourKey stationId start)).map fun r ↦
      if start = hourStart then r.addBadItems quantity else r := by
  have hfind := table.find_modify_key (hourKey stationId hourStart) (mild_addBadItems quantity)
    (hourKey stationId start)
  simp only [hourKey_inj] at hfind
  exact hfind

theorem addBadItems_neg (r : BucketRow) : (r.addBadItems quantity).addBadItems (-quantity) = r := by
  have hkpis : (r.kpis.addBadItems quantity).addBadItems (-quantity) = r.kpis := by
    refine StoredKPIs.ext_columns (funext fun key ↦ ?_) rfl
    by_cases hkey : key = .badItems
    · subst hkey
      simp [StoredKPIs.addBadItems]
    · simp [StoredKPIs.addBadItems]
  rw [BucketRow.addBadItems, BucketRow.addBadItems, hkpis]

theorem data_addBadItems_inj {r r' : BucketRow} :
    (r.addBadItems quantity).data = (r'.addBadItems quantity).data ↔ r.data = r'.data := by
  constructor
  · intro h
    have hback : ((r.addBadItems quantity).addBadItems (-quantity)).data
        = ((r'.addBadItems quantity).addBadItems (-quantity)).data :=
      congrArg (BucketRow.addBadItems (-quantity)) h
    rwa [addBadItems_neg, addBadItems_neg] at hback
  · exact congrArg (BucketRow.addBadItems quantity)

/-! ### What is added to the sums -/

theorem hourKey_of_isSubKey {window : BucketWindow} {k : BucketKey}
    (h : IsSubKey .station stationId .hour window k) : k = hourKey stationId k.startTime :=
  BucketKey.ext h.entityType h.entityId h.granularity rfl

theorem additive_addBadItems (kpis : StoredKPIs) (key : KpiKey) :
    (kpis.addBadItems quantity).additive key
      = kpis.additive key + if key = .badItems then quantity else 0 := by
  by_cases hkey : key = .badItems
  · subst hkey
    simp [StoredKPIs.addBadItems]
  · simp [StoredKPIs.addBadItems, hkey]

variable (h : AddsBadItemsOnly t t' stationId hourStart quantity)
include h

theorem AddsBadItemsOnly.kpi (start : Time) (key : KpiKey) :
    t'.kpi (hourKey stationId start) key = t.kpi (hourKey stationId start) key
      + if key = .badItems ∧ start = hourStart then quantity else 0 := by
  cases hrow : t.effective (hourKey stationId start) with
  | some r =>
    obtain ⟨r', hr', hdata⟩ := h.kept start r hrow
    rw [BucketTables.kpi, BucketTables.kpi, hrow, hr', Option.map_some, Option.map_some,
      Option.getD_some, Option.getD_some, BucketRow.kpis_of_data_eq hdata]
    by_cases hstart : start = hourStart
    · rw [if_pos hstart]
      simp only [hstart, and_true]
      exact additive_addBadItems r.kpis key
    · rw [if_neg hstart, if_neg fun hand ↦ hstart hand.2, add_zero]
  | none =>
    rw [BucketTables.kpi, BucketTables.kpi, hrow, Option.map_none, Option.getD_none, zero_add]
    cases hrow' : t'.effective (hourKey stationId start) with
    | none =>
      -- the corrected hour has a row
      have hne : start ≠ hourStart := by
        rintro rfl
        obtain ⟨r', hr'⟩ := h.counted
        exact absurd (hrow'.symm.trans hr') (by simp)
      rw [Option.map_none, Option.getD_none, if_neg fun hand ↦ hne hand.2]
    | some r' =>
      rw [Option.map_some, Option.getD_some, h.fresh start r' hrow hrow']
      by_cases hstart : start = hourStart
      · rw [if_pos hstart]
        simp only [hstart, and_true]
        exact (additive_addBadItems zeroKpis.store key).trans (zero_add _)
      · rw [if_neg hstart, if_neg fun hand ↦ hstart hand.2]
        rfl

theorem AddsBadItemsOnly.standardCycle (start : Time) :
    t'.standardCycle (hourKey stationId start) = t.standardCycle (hourKey stationId start) := by
  rw [BucketTables.standardCycle, BucketTables.standardCycle]
  cases hrow : t.effective (hourKey stationId start) with
  | some r =>
    obtain ⟨r', hr', hdata⟩ := h.kept start r hrow
    rw [hr', Option.bind_some, Option.bind_some, BucketRow.kpis_of_data_eq hdata]
    split <;> rfl
  | none =>
    cases hrow' : t'.effective (hourKey stationId start) with
    | none => rfl
    | some r' =>
      rw [Option.bind_some, Option.bind_none, h.fresh start r' hrow hrow']
      split <;> rfl

/-- The sum over some hours grows by what is added to the hour, if it is one of them. -/
theorem AddsBadItemsOnly.sum_kpi (window : BucketWindow) (key : KpiKey) :
    ∑ k ∈ t'.keys.filter (IsSubKey .station stationId .hour window), t'.kpi k key
      = ∑ k ∈ t.keys.filter (IsSubKey .station stationId .hour window), t.kpi k key +
        if key = .badItems ∧ window.startTime ≤ hourStart ∧ hourStart < window.endTime then quantity
        else 0 := by
  have hsub : t.keys.filter (IsSubKey .station stationId .hour window)
      ⊆ t'.keys.filter (IsSubKey .station stationId .hour window) := by
    intro k hk
    obtain ⟨hmem, hsubKey⟩ := Finset.mem_filter.mp hk
    obtain ⟨r, hr⟩ := Table.mem_visibleKeys.mp hmem
    rw [hourKey_of_isSubKey hsubKey] at hr
    obtain ⟨r', hr', -⟩ := h.kept _ r hr
    rw [← hourKey_of_isSubKey hsubKey] at hr'
    exact Finset.mem_filter.mpr ⟨Table.mem_visibleKeys.mpr ⟨r', hr'⟩, hsubKey⟩
  have hterm : ∀ k ∈ t'.keys.filter (IsSubKey .station stationId .hour window),
      t'.kpi k key = t.kpi k key +
        if k = hourKey stationId hourStart then (if key = .badItems then quantity else 0)
        else 0 := by
    intro k hk
    have hkey := hourKey_of_isSubKey (Finset.mem_filter.mp hk).2
    rw [hkey, h.kpi]
    simp only [hourKey_inj]
    congr 1
    split_ifs <;> tauto
  rw [Finset.sum_congr rfl hterm, Finset.sum_add_distrib, Finset.sum_ite_eq',
    ← BucketTables.sum_kpi_of_subset hsub fun k hk ↦ (Finset.mem_filter.mp hk).2]
  congr 1
  -- the corrected hour has a row, so it is among the keys iff it begins in the window
  have hmem : hourKey stationId hourStart ∈ t'.keys := Table.mem_visibleKeys.mpr h.counted
  have hiff : hourKey stationId hourStart
      ∈ t'.keys.filter (IsSubKey .station stationId .hour window) ↔
        window.startTime ≤ hourStart ∧ hourStart < window.endTime := by
    rw [Finset.mem_filter, isSubKey_iff]
    exact ⟨fun hand ↦ hand.2.2, fun hand ↦ ⟨hmem, ⟨rfl, rfl, rfl⟩, hand⟩⟩
  simp only [hiff]
  split_ifs <;> tauto

end

/-! ## When nothing is hidden -/

/-- Each hour around a timestamp that has an archived row and no live one has an archived row like
the empty row that would be scaffolded for it. -/
def ArchivedHoursEmpty (f : Facility) (siteId stationId : Uuid) (timestamp : Time)
    (t : BucketTables) : Prop :=
  ∀ b ∈ stationHours f siteId stationId timestamp,
    t.live.find (hourKey stationId b.startTime) = none →
      ∀ r ∈ t.log.find (hourKey stationId b.startTime),
        r.data = emptyHour f siteId stationId timestamp b

section

variable {f : Facility} {siteId stationId : Uuid} {timestamp : Time} {quantity : ℤ}
  {t t' : BucketTables} {base : HourBucket}

/-- The call goes through: the timestamp is in one of the hours around it, which has a live row
after the scaffolding. -/
theorem exists_updateDispositionBadItems (f : Facility) (stationId siteId : Uuid)
    (timestamp : Time) (quantity : ℤ) (t : BucketTables) :
    ∃ b ∈ stationHours f siteId stationId timestamp, b.window.Contains timestamp ∧
      updateDispositionBadItems f stationId siteId timestamp quantity t
        = some (rollupStationBuckets f (badItemsRollup f stationId siteId timestamp b)
          ⟨addBadItemsAt stationId b.startTime quantity
            (ensureBuckets f siteId stationId timestamp t.live), t.log⟩) := by
  obtain ⟨b, hb, hcontains, hresolve⟩ := exists_resolveHourBucket f siteId stationId timestamp
  obtain ⟨r, hr⟩ := exists_find_ensureBuckets t.live hb
  refine ⟨b, hb, hcontains, ?_⟩
  rw [updateDispositionBadItems, hresolve, Option.map_some]
  simp only [hr, Option.isSome_some, if_true]
  rfl

theorem effective_badItems (input : RollupInput) (start : Time) :
    (rollupStationBuckets f input ⟨addBadItemsAt stationId base.startTime quantity
        (ensureBuckets f siteId stationId timestamp t.live), t.log⟩).effective
          (hourKey stationId start)
      = (((ensureBuckets f siteId stationId timestamp t.live).find (hourKey stationId start)).map
          fun r ↦ if start = base.startTime then r.addBadItems quantity else r).or
        (t.log.find (hourKey stationId start)) := by
  rw [effective_rollup_of_hour rfl rfl, BucketTables.effective, find_addBadItemsAt]

/-- Only the scrap of one hour changes iff no scaffolded row hides an archived one. -/
theorem addsBadItemsOnly_iff (hbase : base ∈ stationHours f siteId stationId timestamp)
    (heff : ∀ start, t'.effective (hourKey stationId start)
      = (((ensureBuckets f siteId stationId timestamp t.live).find (hourKey stationId start)).map
          fun r ↦ if start = base.startTime then r.addBadItems quantity else r).or
        (t.log.find (hourKey stationId start))) :
    AddsBadItemsOnly t t' stationId base.startTime quantity ↔
      ArchivedHoursEmpty f siteId stationId timestamp t := by
  have hlive : ∀ {start r}, t.live.find (hourKey stationId start) = some r →
      t.effective (hourKey stationId start) = some r ∧ t'.effective (hourKey stationId start)
        = some (if start = base.startTime then r.addBadItems quantity else r) := by
    intro start r hr
    rw [heff, find_ensureBuckets_of_some hr, BucketTables.effective, hr]
    exact ⟨rfl, rfl⟩
  have hscaffolded : ∀ {b}, b ∈ stationHours f siteId stationId timestamp →
      t.live.find (hourKey stationId b.startTime) = none → ∃ id,
        t.effective (hourKey stationId b.startTime) = t.log.find (hourKey stationId b.startTime) ∧
          t'.effective (hourKey stationId b.startTime) = some (if b.startTime = base.startTime
            then { emptyHour f siteId stationId timestamp b with id := id }.addBadItems quantity
            else { emptyHour f siteId stationId timestamp b with id := id }) := by
    intro b hb hnone
    obtain ⟨id, hid⟩ := find_ensureBuckets_emptyHour hb hnone
    refine ⟨id, ?_, ?_⟩
    · rw [BucketTables.effective, hnone, Option.none_or]
    · rw [heff, hid]
      rfl
  have hother : ∀ {start}, t.live.find (hourKey stationId start) = none →
      (∀ b ∈ stationHours f siteId stationId timestamp, b.startTime ≠ start) →
        t'.effective (hourKey stationId start) = t.effective (hourKey stationId start) := by
    intro start hnone hne
    rw [heff, find_ensureBuckets_of_forall_ne hne, BucketTables.effective, hnone, Option.map_none]
  constructor
  · intro h b hb hnone r hr
    obtain ⟨id, hold, hnew⟩ := hscaffolded hb hnone
    obtain ⟨r', hr', hdata⟩ := h.kept b.startTime r (hold.trans hr)
    obtain rfl := Option.some_inj.mp (hnew.symm.trans hr')
    split at hdata
    · exact (data_addBadItems_inj.mp hdata).symm
    · exact hdata.symm
  · intro h
    refine ⟨?_, fun start r hr ↦ ?_, fun start r' hnone hr' ↦ ?_⟩
    · cases hbaseLive : t.live.find (hourKey stationId base.startTime) with
      | some r => exact ⟨_, (hlive hbaseLive).2⟩
      | none =>
        obtain ⟨id, -, hnew⟩ := hscaffolded hbase hbaseLive
        exact ⟨_, hnew⟩
    · cases hstart : t.live.find (hourKey stationId start) with
      | some a =>
        obtain ⟨hold, hnew⟩ := hlive hstart
        obtain rfl := Option.some_inj.mp (hold.symm.trans hr)
        exact ⟨_, hnew, rfl⟩
      | none =>
        by_cases hgrid : ∃ b ∈ stationHours f siteId stationId timestamp, b.startTime = start
        · obtain ⟨b, hb, rfl⟩ := hgrid
          obtain ⟨id, hold, hnew⟩ := hscaffolded hb hstart
          have hdata : r.data = { emptyHour f siteId stationId timestamp b with id := id }.data :=
            h b hb hstart r (hold.symm.trans hr)
          refine ⟨_, hnew, ?_⟩
          split
          · exact data_addBadItems_inj.mpr hdata.symm
          · exact hdata.symm
        · have hne : ∀ b ∈ stationHours f siteId stationId timestamp, b.startTime ≠ start :=
            fun b hb hbs ↦ hgrid ⟨b, hb, hbs⟩
          refine ⟨r, (hother hstart hne).trans hr, ?_⟩
          rw [if_neg (hne base hbase).symm]
    · have hstart : t.live.find (hourKey stationId start) = none :=
        (Option.or_eq_none_iff.mp hnone).1
      by_cases hgrid : ∃ b ∈ stationHours f siteId stationId timestamp, b.startTime = start
      · obtain ⟨b, hb, rfl⟩ := hgrid
        obtain ⟨id, -, hnew⟩ := hscaffolded hb hstart
        obtain rfl := Option.some_inj.mp (hnew.symm.trans hr')
        split <;> rfl
      · have hne : ∀ b ∈ stationHours f siteId stationId timestamp, b.startTime ≠ start :=
          fun b hb hbs ↦ hgrid ⟨b, hb, hbs⟩
        rw [hother hstart hne, hnone] at hr'
        exact absurd hr' (by simp)

/-- The sums follow from what is added to the hours. -/
theorem resums_of_addsBadItemsOnly {hourStart : Time} {shift : ShiftWindow}
    (h : AddsBadItemsOnly t t' stationId hourStart quantity)
    (hsums : StoresHourSums t' stationId .shift shift.bucketWindow) :
    ResumsWithBadItems t t' stationId shift hourStart quantity where
  additive key := (hsums.additive key).trans (h.sum_kpi shift.bucketWindow key)
  standardCycle := by
    have hsame : ∀ k, IsSubKey .station stationId .hour shift.bucketWindow k →
        t'.standardCycle k = t.standardCycle k := fun k hk ↦ by
      rw [hourKey_of_isSubKey hk]
      exact h.standardCycle k.startTime
    obtain ⟨hnone, hsome⟩ := hsums.standardCycle
    refine ⟨fun hvalue k hk ↦ (hsame k hk).symm.trans (hnone hvalue k hk), fun x hx ↦ ?_⟩
    obtain ⟨k, hk, hkx, hlater⟩ := hsome x hx
    exact ⟨k, hk, (hsame k hk).symm.trans hkx, fun k' hk' hlt ↦
      (hsame k' hk').symm.trans (hlater k' hk' hlt)⟩

/-- **Correcting scrap hides nothing iff what it would hide is empty.** The call adds the quantity
to `badItems` of the hour that contains the timestamp and leaves the other hours alone, and re-sums
the shifts to match, iff no archived row is hidden by a scaffolded one that differs from it. -/
theorem updateDispositionBadItems_iff (f : Facility) (stationId siteId : Uuid) (timestamp : Time)
    (quantity : ℤ) (t : BucketTables) :
    ∃ b ∈ stationHours f siteId stationId timestamp, b.window.Contains timestamp ∧
      ∃ t', updateDispositionBadItems f stationId siteId timestamp quantity t = some t' ∧
        ((AddsBadItemsOnly t t' stationId b.startTime quantity ∧
          ∀ shift ∈ resolveAffectedShifts f stationId siteId [⟨b.startTime, b.durationMs⟩],
            ResumsWithBadItems t t' stationId shift b.startTime quantity) ↔
          ArchivedHoursEmpty f siteId stationId timestamp t) := by
  obtain ⟨b, hb, hcontains, hcall⟩ :=
    exists_updateDispositionBadItems f stationId siteId timestamp quantity t
  refine ⟨b, hb, hcontains, _, hcall, ?_⟩
  rw [← addsBadItemsOnly_iff hb (effective_badItems _)]
  refine ⟨And.left, fun h ↦ ⟨h, fun shift hshift ↦ resums_of_addsBadItemsOnly h ?_⟩⟩
  have htarget : shiftTarget f (badItemsRollup f stationId siteId timestamp b) shift
      ∈ timeTargets f (badItemsRollup f stationId siteId timestamp b) :=
    List.mem_append_left _ (List.mem_map_of_mem hshift)
  exact storesHourSums_rollup htarget _

end

/-- A station whose first hour, with five cycles, is archived. -/
def archivedHour : BucketTables where
  live := .empty _
  log := insertBuckets (.empty _) [sampleHour 0 5]

/-- Scrap is reported for the archived hour, and its cycles are gone. -/
theorem updateDispositionBadItems_hides :
    (∀ k, archivedHour.live.find k = none ∨ archivedHour.log.find k = none) ∧
      archivedHour.kpi (hourKey 2 0) .totalCycles = 5 ∧
        ∃ t', updateDispositionBadItems (oneShiftFacility 0 28800000) 2 1 1800000 2 archivedHour
          = some t' ∧ t'.kpi (hourKey 2 0) .totalCycles = 0 ∧
            ¬AddsBadItemsOnly archivedHour t' 2 0 2 := by
  have hbefore : archivedHour.kpi (hourKey 2 0) .totalCycles = 5 := by decide +kernel
  have hafter : (updateDispositionBadItems (oneShiftFacility 0 28800000) 2 1 1800000 2
      archivedHour).map (fun t ↦ t.kpi (hourKey 2 0) .totalCycles) = some 0 := by
    decide +kernel
  obtain ⟨t', ht', hcycles⟩ := Option.map_eq_some_iff.mp hafter
  refine ⟨fun k ↦ .inl rfl, hbefore, t', ht', hcycles, fun h ↦ ?_⟩
  have hkpi := h.kpi 0 .totalCycles
  rw [hbefore, hcycles, if_neg (by decide)] at hkpi
  exact absurd hkpi (by decide)

end RwServer
