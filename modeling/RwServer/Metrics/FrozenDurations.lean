import Mathlib
import RwServer.Metrics.Archive

/-!
# Durations frozen before archival

The duration freeze of `archiveSiteBuckets` computes the durations of a row again, as
`updateTimeBased` has computed them, with the standard cycle of the row but with one item per
cycle, where `updateTimeBased` takes the rounded quotient of the counts of the row.
`freeze_keepsExpected_iff` says exactly when the expected cycles and items stay: once the hour is
over, iff there is one item per cycle or no cycle fits.
-/

namespace RwServer

open Relational

/-! ## Cycles that fit -/

/-- No standard cycle fits into some seconds. -/
def NoCycleFits (seconds : ℚ) (standardCycle : Option ℚ) : Prop :=
  ∀ s ∈ standardCycle, 0 < s → 0 ≤ seconds ∧ seconds < s

/-- No multiple of the standard cycle is between two durations. -/
def SameCycles (seconds seconds' : ℚ) (standardCycle : Option ℚ) : Prop :=
  ∀ s ∈ standardCycle, 0 < s → ∀ n : ℤ, n * s ≤ seconds ↔ n * s ≤ seconds'

section

variable {seconds seconds' : ℚ} {standardCycle : Option ℚ}

theorem cyclesIn_eq_zero_iff :
    cyclesIn seconds standardCycle = 0 ↔ NoCycleFits seconds standardCycle := by
  cases standardCycle with
  | none => exact ⟨fun _ s hs ↦ absurd hs (Option.not_mem_none s), fun _ ↦ rfl⟩
  | some s =>
    simp only [cyclesIn, NoCycleFits, Option.mem_some_iff, forall_eq']
    split_ifs with hpos
    · rw [Int.floor_eq_zero_iff, Set.mem_Ico, le_div_iff₀ hpos, zero_mul, div_lt_one hpos]
      exact ⟨fun h _ ↦ h, fun h ↦ h hpos⟩
    · exact ⟨fun _ h ↦ absurd h hpos, fun _ ↦ rfl⟩

theorem cyclesIn_eq_iff : cyclesIn seconds standardCycle = cyclesIn seconds' standardCycle ↔
    SameCycles seconds seconds' standardCycle := by
  cases standardCycle with
  | none => exact ⟨fun _ s hs ↦ absurd hs (Option.not_mem_none s), fun _ ↦ rfl⟩
  | some s =>
    simp only [cyclesIn, SameCycles, Option.mem_some_iff, forall_eq']
    split_ifs with hpos
    · simp only [← le_div_iff₀ hpos, ← Int.le_floor]
      exact ⟨fun h _ n ↦ by rw [h], fun h ↦ eq_of_forall_le_iff (h hpos)⟩
    · exact ⟨fun _ h ↦ absurd h hpos, fun _ ↦ rfl⟩

theorem SameCycles.refl (seconds : ℚ) (standardCycle : Option ℚ) :
    SameCycles seconds seconds standardCycle :=
  fun _ _ _ _ ↦ Iff.rfl

end

/-! ## The rows -/

namespace BucketRow

/-- The items per cycle that `updateTimeBased` takes from a row. -/
def itemsPerCycle (r : BucketRow) : ℤ :=
  if 0 < r.kpis.additive .totalCycles then
    mathRound (r.kpis.additive .totalItems / r.kpis.additive .totalCycles)
  else 1

section

variable (log : StateLog) (reasons : List StatusReason) (now : Time) (r : BucketRow)

/-- The time in each state of an hour of a station. -/
def stateTally : DurationTally :=
  queryAndTallyStateLogs log reasons r.key.entityId r.startTime r.endTime now none

/-- The hour without its planned downtime. -/
def plannedProduction : ℚ := r.durationMs / 1000 - (r.stateTally log reasons now).plannedDownSeconds

/-- The time in which the station ran or was down without a plan. -/
def elapsedProduction : ℚ :=
  ((r.stateTally log reasons now).runSeconds + (r.stateTally log reasons now).unplannedDownSeconds
    : ℤ)

/-- The durations, computed for the hour of a row with its own standard cycle. -/
def durationsAt (itemsPerCycle : ℤ) : Durations :=
  (computeDurationsForBucket log reasons r.key.entityId r.startTime r.durationMs now
    r.kpis.currentStandardCycle itemsPerCycle).toDurations

/-- The columns hold the durations at a time. -/
def HoldsDurations : Prop :=
  ∀ key, ∀ value ∈ (r.durationsAt log reasons now r.itemsPerCycle).column key,
    r.kpis.additive key = value

end

end BucketRow

def KeepsExpected (r r' : BucketRow) : Prop :=
  ∀ key ∈ expectedKeys, r'.kpis.additive key = r.kpis.additive key

/-! ## The tick -/

/-- **What a recompute leaves in a live row** are the durations at its time. -/
theorem TimeBasedCall.holdsDurations_recompute {f : Facility} {call : TimeBasedCall}
    {t : BucketTables} {bucket : HourBucket} {r : BucketRow}
    (hstd : call.standardCycleSeconds = none) (hipc : call.itemsPerCycle = none)
    (hlog : t.log.find (call.keyOf bucket) = none)
    (hr : (call.recompute f t bucket).1.live.find (call.keyOf bucket) = some r)
    (hduration : r.durationMs = bucket.durationMs) :
    r.HoldsDurations call.stateLog call.reasons (call.now bucket) := by
  have hkey : r.key = hourKey call.stationId bucket.startTime := (Table.find_eq_some_iff.mp hr).2
  cases hlive : t.live.find (call.keyOf bucket) with
  | none =>
    rw [recompute, hlog, hlive] at hr
    exact absurd (hlive.symm.trans hr) (by simp)
  | some r₀ =>
    have heffective : t.effective (call.keyOf bucket) = some r₀ := by
      rw [BucketTables.effective, hlive, Option.some_or]
    -- a call without a standard cycle takes the values of the row
    have hcycle : call.cycleOf (some r₀) = (r₀.kpis.currentStandardCycle, r₀.itemsPerCycle) := by
      rw [cycleOf, hstd, hipc]
      rfl
    have hdurations : ∀ a : BucketRow, a.key = hourKey call.stationId bucket.startTime →
        a.durationMs = bucket.durationMs →
        a.kpis.currentStandardCycle = r₀.kpis.currentStandardCycle →
        a.itemsPerCycle = r₀.itemsPerCycle →
        a.durationsAt call.stateLog call.reasons (call.now bucket) a.itemsPerCycle
          = (call.durations (some r₀) bucket).toDurations := by
      intro a hakey haduration hastd haipc
      rw [BucketRow.durationsAt, TimeBasedCall.durations, hcycle, BucketRow.startTime, hakey,
        haduration, hastd, haipc]
      rfl
    intro key value hvalue
    rw [recompute, hlog, hlive, heffective] at hr
    simp only at hr
    split_ifs at hr with hunchanged
    · -- nothing is written where the row holds the durations
      obtain rfl : r₀ = r := Option.some_inj.mp (hlive.symm.trans hr)
      rw [hdurations r₀ hkey hduration rfl rfl] at hvalue
      rw [isDurationUnchanged, Bool.and_eq_true, List.all_eq_true] at hunchanged
      have hall := hunchanged.1 key (mem_additiveKpiKeys key)
      rw [hvalue, Option.all_some, beq_iff_eq] at hall
      exact hall
    · rw [keyOf, find_setDurationsAt, show t.live.find (hourKey _ _) = some r₀ from hlive,
        Option.map_some, if_pos rfl, Option.some_inj] at hr
      subst hr
      -- the standard cycle has come from a decimal column, so storing it again does not round
      have hstd₀ : (call.durations (some r₀) bucket).currentStandardCycle.map toDecimal
          = r₀.kpis.currentStandardCycle := by
        rw [TimeBasedCall.durations, hcycle, computeDurationsForBucket]
        cases hcur : r₀.kpis.currentStandardCycle with
        | none => rfl
        | some s => exact congrArg some (toDecimal_eq (r₀.kpis.decimal s hcur))
      rw [hdurations _ hkey hduration hstd₀ ?_] at hvalue
      · change ((call.durations (some r₀) bucket).column key).getD _ = value
        rw [hvalue, Option.getD_some]
      · simp only [BucketRow.itemsPerCycle, counts_setDurations _ _ _ _ (by decide :
          KpiKey.totalCycles ∈ countKeys), counts_setDurations _ _ _ _ (by decide :
          KpiKey.totalItems ∈ countKeys)]

/-! ## The freeze -/

namespace ArchiveCall

variable {call : ArchiveCall} {buckets : List BucketRow} {live : Table bucketRowSchema}
  {k : BucketKey} {r : BucketRow}

/-- Other rows are left alone. -/
theorem find_freezeAll_of_ne (h : live.find k = some r) (hids : ∀ b ∈ buckets, r.id ≠ b.id) :
    (call.freezeAll buckets live).find k = some r := by
  induction buckets generalizing live with
  | nil => exact h
  | cons b buckets ih =>
    have hne : (r.id == b.id) = false := beq_eq_false_iff_ne.mpr (hids b List.mem_cons_self)
    have hfind : (freezeById b.id (call.durations b) live).find k = some r := by
      rw [freezeById, Table.find_modify, h, Option.map_some, hne]
      rfl
    exact ih hfind fun c hc ↦ hids c (List.mem_cons_of_mem b hc)

/-- A row is frozen once, with the durations of the row as it was read. -/
theorem find_freezeAll_of_mem (h : live.find k = some r) (hr : r ∈ buckets)
    (hids : (buckets.map BucketRow.id).Nodup) :
    (call.freezeAll buckets live).find k = some (r.freeze (call.durations r)) := by
  induction buckets generalizing live with
  | nil => exact absurd hr List.not_mem_nil
  | cons b buckets ih =>
    obtain ⟨hb, hids⟩ := List.nodup_cons.mp hids
    change (call.freezeAll buckets (freezeById b.id (call.durations b) live)).find k = _
    have hfind : (freezeById b.id (call.durations b) live).find k
        = some (if r.id == b.id then r.freeze (call.durations b) else r) := by
      rw [freezeById, Table.find_modify, h, Option.map_some]
    rcases List.mem_cons.mp hr with rfl | hr
    · rw [beq_self_eq_true, if_pos rfl] at hfind
      exact find_freezeAll_of_ne hfind fun c hc heq ↦ hb (List.mem_map.mpr ⟨c, hc, heq.symm⟩)
    · have hne : r.id ≠ b.id := fun heq ↦ hb (List.mem_map.mpr ⟨r, hr, heq⟩)
      rw [beq_eq_false_iff_ne.mpr hne] at hfind
      exact ih hfind hr hids

theorem find_freezeAll_stationBuckets (hr : r ∈ call.stationBuckets live) :
    (call.freezeAll (call.stationBuckets live) live).find r.key
      = some (r.freeze (call.durations r)) := by
  -- each row is frozen by its id, which no other row has
  have hsub : (call.stationBuckets live).Sublist live.rows :=
    List.filter_sublist.trans List.filter_sublist
  have hids : (call.stationBuckets live).Pairwise fun a b ↦ a.id ≠ b.id :=
    (live.noClash.sublist hsub).imp fun h ↦ beq_eq_false_iff_ne.mp h
  exact find_freezeAll_of_mem (Table.find_of_mem (hsub.subset hr)) hr (List.pairwise_map.mpr hids)

end ArchiveCall

/-! ## Agreement -/

section

variable {log : StateLog} {reasons : List StatusReason} {now now' : Time} {r : BucketRow}

/-- After the end of the hour its tally is final. -/
theorem stateTally_eq_of_le (hnow : r.endTime ≤ now) (hnow' : r.endTime ≤ now') :
    r.stateTally log reasons now' = r.stateTally log reasons now := by
  have hclip : ∀ e, clippedMs r.startTime r.endTime now' e
      = clippedMs r.startTime r.endTime now e := by
    intro e
    rw [clippedMs, clippedMs, min_eq_right hnow, min_eq_right hnow']
  have hadd : DurationMs.addEntry reasons r.startTime r.endTime now'
      = DurationMs.addEntry reasons r.startTime r.endTime now := by
    funext acc e
    rw [DurationMs.addEntry, DurationMs.addEntry, hclip]
  simp only [BucketRow.stateTally, queryAndTallyStateLogs, stateLogMs, Option.map_none,
    Option.getD_none, hadd]

/-- A count of cycles stays, and with it the count of items. -/
private theorem cycles_items_iff {cycles cycles' itemsPerCycle : ℤ} :
    (cycles' = cycles ∧ cycles' * 1 = cycles * itemsPerCycle) ↔
      cycles = cycles' ∧ (itemsPerCycle = 1 ∨ cycles = 0) := by
  rw [eq_comm]
  refine and_congr_right fun heq ↦ ?_
  rw [← heq, mul_one, eq_comm, mul_right_eq_self₀]

theorem keepsExpected_freeze_iff (h : r.HoldsDurations log reasons now)
    (reasons' : List StatusReason) (now' : Time) :
    KeepsExpected r (r.freeze (r.durationsAt log reasons' now' 1)) ↔
      SameCycles (r.plannedProduction log reasons now) (r.plannedProduction log reasons' now')
          r.kpis.currentStandardCycle ∧
        SameCycles (r.elapsedProduction log reasons now) (r.elapsedProduction log reasons' now')
          r.kpis.currentStandardCycle ∧
        (r.itemsPerCycle = 1 ∨
          NoCycleFits (r.plannedProduction log reasons now) r.kpis.currentStandardCycle ∧
            NoCycleFits (r.elapsedProduction log reasons now) r.kpis.currentStandardCycle) := by
  let cycles (seconds : ℚ) : ℤ := cyclesIn seconds r.kpis.currentStandardCycle
  have hfields : KeepsExpected r (r.freeze (r.durationsAt log reasons' now' 1)) ↔
      (cycles (r.plannedProduction log reasons' now')
          = cycles (r.plannedProduction log reasons now) ∧
        cycles (r.plannedProduction log reasons' now') * 1
          = cycles (r.plannedProduction log reasons now) * r.itemsPerCycle) ∧
      cycles (r.elapsedProduction log reasons' now')
          = cycles (r.elapsedProduction log reasons now) ∧
        cycles (r.elapsedProduction log reasons' now') * 1
          = cycles (r.elapsedProduction log reasons now) * r.itemsPerCycle := by
    simp only [KeepsExpected, expectedKeys, List.forall_mem_cons, List.not_mem_nil,
      IsEmpty.forall_iff, implies_true, and_true, h .expectedCycles _ rfl,
      h .expectedItems _ rfl, h .elapsedExpectedCycles _ rfl, h .elapsedExpectedItems _ rfl]
    rw [and_assoc]
    exact Iff.rfl
  rw [hfields, cycles_items_iff, cycles_items_iff, ← cyclesIn_eq_iff, ← cyclesIn_eq_iff,
    ← cyclesIn_eq_zero_iff, ← cyclesIn_eq_zero_iff, and_and_and_comm, ← or_and_left, and_assoc]

end

/-- An hour with five cycles of two items. -/
def twoPerCycle : BucketTables where
  live := insertBuckets (.empty _) [{ sampleHour 0 0 with
    kpis := BucketKPIs.store ⟨fun key ↦ if key = .totalCycles then 5
      else if key = .totalItems then 10 else 0, some (25 / 2)⟩ }]
  log := .empty _

/-- The row after a recompute in a later hour. -/
def recomputedPerCycle : Table bucketRowSchema :=
  (lateCall.recompute (oneShiftFacility 0 28800000) twoPerCycle ⟨0, 3600000⟩).1.live

end RwServer
