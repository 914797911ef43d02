import Mathlib
import RwServer.Metrics.CurrentValues
import RwServer.Metrics.Rollup

/-!
# The OEE ratios

The four ratios of a bucket are computed twice: by `computeAllKpis`, and by the generated columns of
`MetricBucket` and `MetricBucketLog`. On counts the two are the same (`computeAllKpis_eq_columns`),
and no division by zero occurs in either; a column holds its expression rounded to six decimals.

OEE is computed directly, not as the product of the three factors. It is their product except for a
bucket with ideal time and good items but no run time (`oeeConsistent_iff`): there the performance
is set to zero and OEE is not.
-/

namespace RwServer

inductive ArithmeticError
  | divisionByZero
  deriving DecidableEq

/-- Division, where the divisor has to be there. -/
def divide (a b : ℚ) : Except ArithmeticError ℚ :=
  if b = 0 then .error .divisionByZero else .ok (a / b)

theorem divide_of_pos (a : ℚ) {b : ℚ} (h : 0 < b) : divide a b = .ok (a / b) := if_neg h.ne'

/-- Computed OEE ratios; `none` where there is no production window. -/
structure ComputedKPIs where
  availability : Option ℚ
  performance : Option ℚ
  quality : Option ℚ
  oee : Option ℚ
  deriving DecidableEq

namespace BucketKPIs

variable (kpis : BucketKPIs)

/-- A field, as a rational number. -/
def value (key : KpiKey) : ℚ := kpis.additive key

/-! ## The code -/

def computeAvailability : Except ArithmeticError (Option ℚ) := do
  if kpis.value .elapsedPlannedProductionSeconds ≤ 0 then return none
  return some (← divide (kpis.value .runSeconds) (kpis.value .elapsedPlannedProductionSeconds))

def computePerformance : Except ArithmeticError (Option ℚ) := do
  if kpis.value .elapsedPlannedProductionSeconds ≤ 0 then return none
  if kpis.value .runSeconds ≤ 0 then return some 0
  return some (← divide (kpis.value .idealCycleSeconds) (kpis.value .runSeconds))

def computeQuality : Except ArithmeticError (Option ℚ) := do
  if kpis.value .elapsedPlannedProductionSeconds ≤ 0 then return none
  if kpis.value .totalItems ≤ 0 then return some 0
  return some (← divide (kpis.value .totalItems - kpis.value .badItems) (kpis.value .totalItems))

def computeOee : Except ArithmeticError (Option ℚ) := do
  if kpis.value .elapsedPlannedProductionSeconds ≤ 0 then return none
  if kpis.value .totalItems ≤ 0 then return some 0
  return some (← divide
    (kpis.value .idealCycleSeconds * (kpis.value .totalItems - kpis.value .badItems))
    (kpis.value .elapsedPlannedProductionSeconds * kpis.value .totalItems))

def computeAllKpis : Except ArithmeticError ComputedKPIs := do
  return {
    availability := ← kpis.computeAvailability
    performance := ← kpis.computePerformance
    quality := ← kpis.computeQuality
    oee := ← kpis.computeOee }

/-! ## The columns -/

/-- The column has a `WHEN` for an empty window, then one for what it divides by. -/
def generatedCase (positive numerator denominator : ℚ) : Except ArithmeticError (Option ℚ) := do
  if kpis.value .elapsedPlannedProductionSeconds = 0 then return none
  if 0 < positive then return some (← divide numerator denominator)
  return some 0

def availabilityColumn : Except ArithmeticError (Option ℚ) := do
  if 0 < kpis.value .elapsedPlannedProductionSeconds then
    return some (← divide (kpis.value .runSeconds) (kpis.value .elapsedPlannedProductionSeconds))
  return none

def performanceColumn : Except ArithmeticError (Option ℚ) :=
  kpis.generatedCase (kpis.value .runSeconds) (kpis.value .idealCycleSeconds)
    (kpis.value .runSeconds)

def qualityColumn : Except ArithmeticError (Option ℚ) :=
  kpis.generatedCase (kpis.value .totalItems) (kpis.value .totalItems - kpis.value .badItems)
    (kpis.value .totalItems)

def oeeColumn : Except ArithmeticError (Option ℚ) :=
  kpis.generatedCase (kpis.value .totalItems)
    (kpis.value .idealCycleSeconds * (kpis.value .totalItems - kpis.value .badItems))
    (kpis.value .elapsedPlannedProductionSeconds * kpis.value .totalItems)

/-- The expressions of the generated columns, before they are rounded. -/
def generatedColumns : Except ArithmeticError ComputedKPIs := do
  return {
    availability := ← kpis.availabilityColumn
    performance := ← kpis.performanceColumn
    quality := ← kpis.qualityColumn
    oee := ← kpis.oeeColumn }

end BucketKPIs

/-- KPI values that count something. -/
structure CountedKPIs extends BucketKPIs where
  nonneg : ∀ key, 0 ≤ additive key

namespace CountedKPIs

/-- The sum of counts is one. -/
def sum (buckets : List CountedKPIs) : CountedKPIs where
  toBucketKPIs := sumKPIs (buckets.map toBucketKPIs)
  nonneg key := by
    rw [sumKPIs_additive, List.map_map]
    refine List.sum_nonneg fun x hx ↦ ?_
    obtain ⟨b, -, rfl⟩ := List.mem_map.mp hx
    exact b.nonneg key

theorem sum_additive (buckets : List CountedKPIs) (key : KpiKey) :
    (sum buckets).additive key = (buckets.map fun b ↦ b.additive key).sum := by
  rw [sum, sumKPIs_additive, List.map_map]
  rfl

/-- A field of the sum is zero when it is zero in every bucket. -/
theorem sum_additive_eq_zero_iff (buckets : List CountedKPIs) (key : KpiKey) :
    (sum buckets).additive key = 0 ↔ ∀ b ∈ buckets, b.additive key = 0 := by
  rw [sum_additive]
  constructor
  · intro hzero b hb
    refine List.all_zero_of_le_zero_le_of_sum_eq_zero (fun x hx ↦ ?_) hzero
      (List.mem_map_of_mem hb)
    obtain ⟨b, -, rfl⟩ := List.mem_map.mp hx
    exact b.nonneg key
  · intro hzero
    refine List.sum_eq_zero fun x hx ↦ ?_
    obtain ⟨b, hb, rfl⟩ := List.mem_map.mp hx
    exact hzero b hb

theorem sum_additive_pos_iff (buckets : List CountedKPIs) (key : KpiKey) :
    0 < (sum buckets).additive key ↔ ∃ b ∈ buckets, 0 < b.additive key := by
  rw [((sum buckets).nonneg key).lt_iff_ne', Ne, sum_additive_eq_zero_iff]
  push Not
  exact exists_congr fun b ↦ and_congr_right fun _ ↦ ((b.nonneg key).lt_iff_ne').symm

end CountedKPIs

/-! ## The code and the columns -/

section Ratios

variable {kpis : BucketKPIs}

/-- A ratio, or zero where there is nothing to divide by. -/
def ratioOrZero (positive numerator denominator : ℚ) : ℚ :=
  if 0 < positive then numerator / denominator else 0

/-- The ratios of a bucket with a production window. -/
def windowRatios (kpis : BucketKPIs) : ComputedKPIs where
  availability := some (kpis.value .runSeconds / kpis.value .elapsedPlannedProductionSeconds)
  performance := some (ratioOrZero (kpis.value .runSeconds) (kpis.value .idealCycleSeconds)
    (kpis.value .runSeconds))
  quality := some (ratioOrZero (kpis.value .totalItems)
    (kpis.value .totalItems - kpis.value .badItems) (kpis.value .totalItems))
  oee := some (ratioOrZero (kpis.value .totalItems)
    (kpis.value .idealCycleSeconds * (kpis.value .totalItems - kpis.value .badItems))
    (kpis.value .elapsedPlannedProductionSeconds * kpis.value .totalItems))

/-- Without a production window there are no ratios. -/
def noRatios : ComputedKPIs := ⟨none, none, none, none⟩

/-- What the code divides by once it has found something positive. -/
theorem ite_divide (numerator : ℚ) {positive denominator : ℚ}
    (h : 0 < positive → 0 < denominator) :
    (if positive ≤ 0 then return some 0 else return some (← divide numerator denominator) :
      Except ArithmeticError (Option ℚ)) =
      .ok (some (ratioOrZero positive numerator denominator)) := by
  rw [ratioOrZero]
  obtain hzero | hpos := le_or_gt positive 0
  · rw [if_pos hzero, if_neg hzero.not_gt]
    rfl
  · rw [if_neg hpos.not_ge, if_pos hpos, divide_of_pos _ (h hpos)]
    rfl

/-- The code on a production window. -/
theorem computeAllKpis_of_window (h : 0 < kpis.value .elapsedPlannedProductionSeconds) :
    kpis.computeAllKpis = .ok (windowRatios kpis) := by
  have havailability : kpis.computeAvailability = .ok (windowRatios kpis).availability := by
    rw [BucketKPIs.computeAvailability, if_neg h.not_ge, divide_of_pos _ h]
    rfl
  have hperformance : kpis.computePerformance = .ok (windowRatios kpis).performance := by
    rw [BucketKPIs.computePerformance, if_neg h.not_ge]
    exact ite_divide _ id
  have hquality : kpis.computeQuality = .ok (windowRatios kpis).quality := by
    rw [BucketKPIs.computeQuality, if_neg h.not_ge]
    exact ite_divide _ id
  have hoee : kpis.computeOee = .ok (windowRatios kpis).oee := by
    rw [BucketKPIs.computeOee, if_neg h.not_ge]
    exact ite_divide _ (mul_pos h)
  rw [BucketKPIs.computeAllKpis, havailability, hperformance, hquality, hoee]
  rfl

theorem computeAllKpis_of_no_window (h : kpis.value .elapsedPlannedProductionSeconds ≤ 0) :
    kpis.computeAllKpis = .ok noRatios := by
  rw [BucketKPIs.computeAllKpis, BucketKPIs.computeAvailability, BucketKPIs.computePerformance,
    BucketKPIs.computeQuality, BucketKPIs.computeOee]
  simp only [if_pos h]
  rfl

/-- A column on a production window divides by what its second `WHEN` has found positive. -/
theorem generatedCase_of_window (h : 0 < kpis.value .elapsedPlannedProductionSeconds)
    (numerator : ℚ) {positive denominator : ℚ} (hpositive : 0 < positive → 0 < denominator) :
    kpis.generatedCase positive numerator denominator =
      .ok (some (ratioOrZero positive numerator denominator)) := by
  rw [BucketKPIs.generatedCase, if_neg h.ne', ratioOrZero]
  split_ifs with hcase
  · rw [divide_of_pos _ (hpositive hcase)]
    rfl
  · rfl

theorem generatedColumns_of_window (h : 0 < kpis.value .elapsedPlannedProductionSeconds) :
    kpis.generatedColumns = .ok (windowRatios kpis) := by
  rw [BucketKPIs.generatedColumns, BucketKPIs.availabilityColumn, BucketKPIs.performanceColumn,
    BucketKPIs.qualityColumn, BucketKPIs.oeeColumn, if_pos h, divide_of_pos _ h,
    generatedCase_of_window h _ id, generatedCase_of_window h _ id,
    generatedCase_of_window h _ (mul_pos h)]
  rfl

theorem generatedColumns_of_no_window (h : kpis.value .elapsedPlannedProductionSeconds = 0) :
    kpis.generatedColumns = .ok noRatios := by
  rw [BucketKPIs.generatedColumns, BucketKPIs.availabilityColumn, BucketKPIs.performanceColumn,
    BucketKPIs.qualityColumn, BucketKPIs.oeeColumn]
  simp only [BucketKPIs.generatedCase, h, lt_irrefl, if_true, if_false]
  rfl

theorem toDecimalSix_zero : toDecimalSix 0 = 0 := by
  have hround := sqlRound_intCast 0
  rw [Int.cast_zero] at hround
  rw [toDecimalSix, zero_mul, hround, Int.cast_zero, zero_div]

/-- The columns of a row hold these expressions, rounded to six decimals. -/
theorem columns_rounded (r : BucketRow) {columns : ComputedKPIs}
    (h : r.kpis.toBucketKPIs.generatedColumns = .ok columns)
    (hwindow : 0 ≤ r.kpi .elapsedPlannedProductionSeconds) :
    r.availability = columns.availability.map toDecimalSix ∧
      r.performance = columns.performance.map toDecimalSix ∧
      r.quality = columns.quality.map toDecimalSix ∧
      r.oee = columns.oee.map toDecimalSix := by
  obtain hzero | hpos := hwindow.eq_or_lt
  · obtain rfl := Except.ok.inj ((generatedColumns_of_no_window hzero.symm).symm.trans h)
    rw [BucketRow.availability, BucketRow.performance, BucketRow.quality, BucketRow.oee]
    simp only [BucketRow.generatedRatio, ← hzero, lt_irrefl, if_true, if_false]
    exact ⟨rfl, rfl, rfl, rfl⟩
  · obtain rfl := Except.ok.inj ((generatedColumns_of_window hpos).symm.trans h)
    have hratio (positive numerator denominator : ℚ) :
        r.generatedRatio positive numerator denominator =
          some (toDecimalSix (ratioOrZero positive numerator denominator)) := by
      rw [BucketRow.generatedRatio, if_neg hpos.ne', ratioOrZero]
      split_ifs
      · rfl
      · rw [toDecimalSix_zero]
    rw [BucketRow.availability, if_pos hpos, BucketRow.performance, BucketRow.quality,
      BucketRow.oee, hratio, hratio, hratio]
    exact ⟨rfl, rfl, rfl, rfl⟩

/-- **The code and the columns say the same of counts**, and neither divides by zero. -/
theorem computeAllKpis_eq_columns (kpis : CountedKPIs) :
    ∃ ratios, kpis.computeAllKpis = .ok ratios ∧ kpis.generatedColumns = .ok ratios := by
  have hnonneg : 0 ≤ kpis.value .elapsedPlannedProductionSeconds :=
    Int.cast_nonneg (kpis.nonneg _)
  obtain hzero | hpos := hnonneg.eq_or_lt
  · exact ⟨_, computeAllKpis_of_no_window hzero.ge, generatedColumns_of_no_window hzero.symm⟩
  · exact ⟨_, computeAllKpis_of_window hpos, generatedColumns_of_window hpos⟩

end Ratios

/-! ## The product law -/

/-- The ratios of a bucket are consistent: the code and the columns divide by nothing that is zero
and agree, OEE is missing with any of its factors, and it is their product. -/
def OeeConsistent (kpis : BucketKPIs) : Prop :=
  ∃ ratios, kpis.computeAllKpis = .ok ratios ∧ kpis.generatedColumns = .ok ratios ∧
    (ratios.oee = none ↔
      ratios.availability = none ∨ ratios.performance = none ∨ ratios.quality = none) ∧
    ∀ a ∈ ratios.availability, ∀ p ∈ ratios.performance, ∀ q ∈ ratios.quality,
      ratios.oee = some (a * p * q)

/-- Good items of a production window without run time took no ideal time. -/
def IdealTimeHasRun (kpis : BucketKPIs) : Prop :=
  0 < kpis.additive .elapsedPlannedProductionSeconds → 0 < kpis.additive .totalItems →
    kpis.additive .runSeconds = 0 →
      kpis.additive .idealCycleSeconds = 0 ∨ kpis.additive .badItems = kpis.additive .totalItems

/-- With run time the direct formula is the product; without, the product is zero. -/
theorem oee_eq_product_iff {elapsed run ideal items bad : ℚ} (helapsed : 0 < elapsed)
    (hrun : 0 ≤ run) :
    ratioOrZero items (ideal * (items - bad)) (elapsed * items) =
        run / elapsed * ratioOrZero run ideal run * ratioOrZero items (items - bad) items ↔
      (0 < items → run = 0 → ideal = 0 ∨ bad = items) := by
  by_cases hitems : 0 < items
  · rw [ratioOrZero, if_pos hitems, ratioOrZero, ratioOrZero, if_pos hitems]
    obtain rfl | hrun := hrun.eq_or_lt
    · simp [helapsed.ne', hitems.ne', hitems, sub_eq_zero, eq_comm]
    · rw [if_pos hrun]
      refine iff_of_true ?_ fun _ hzero ↦ absurd hzero hrun.ne'
      field_simp
  · simp [ratioOrZero, hitems]

/-- Without a production window there is nothing to be inconsistent. -/
theorem oeeConsistent_of_no_window {kpis : BucketKPIs}
    (h : kpis.value .elapsedPlannedProductionSeconds = 0) : OeeConsistent kpis := by
  refine ⟨_, computeAllKpis_of_no_window h.le, generatedColumns_of_no_window h, ?_, ?_⟩
  · simp [noRatios]
  · exact fun a ha ↦ nomatch ha

theorem oeeConsistent_of_window_iff {kpis : BucketKPIs}
    (hwindow : 0 < kpis.value .elapsedPlannedProductionSeconds)
    (hrun : 0 ≤ kpis.value .runSeconds) :
    OeeConsistent kpis ↔ (0 < kpis.value .totalItems → kpis.value .runSeconds = 0 →
      kpis.value .idealCycleSeconds = 0 ∨ kpis.value .badItems = kpis.value .totalItems) := by
  rw [← oee_eq_product_iff hwindow hrun]
  constructor
  · rintro ⟨ratios, hcode, -, -, hproduct⟩
    obtain rfl := Except.ok.inj ((computeAllKpis_of_window hwindow).symm.trans hcode)
    exact Option.some.inj (hproduct _ rfl _ rfl _ rfl)
  · intro hproduct
    refine ⟨_, computeAllKpis_of_window hwindow, generatedColumns_of_window hwindow, ?_, ?_⟩
    · simp [windowRatios]
    · intro a ha p hp q hq
      obtain rfl := Option.some.inj ha
      obtain rfl := Option.some.inj hp
      obtain rfl := Option.some.inj hq
      exact congrArg some hproduct

/-- **Counts are consistent exactly when ideal time has run time.** -/
theorem oeeConsistent_counts_iff (kpis : CountedKPIs) :
    OeeConsistent kpis.toBucketKPIs ↔ IdealTimeHasRun kpis.toBucketKPIs := by
  have hrun : 0 ≤ kpis.value .runSeconds := Int.cast_nonneg (kpis.nonneg _)
  obtain hzero | hpos := (kpis.nonneg .elapsedPlannedProductionSeconds).eq_or_lt
  · refine iff_of_true (oeeConsistent_of_no_window ?_) fun hpos ↦ absurd hzero hpos.ne
    exact (congrArg Int.cast hzero.symm).trans Int.cast_zero
  · rw [oeeConsistent_of_window_iff (Int.cast_pos.mpr hpos) hrun]
    simp [IdealTimeHasRun, BucketKPIs.value, hpos]

/-- **When the ratios are consistent**, of a bucket and of a sum of buckets: where good items of a
production window took ideal time, there is run time. In a sum it may be another bucket's. -/
theorem oeeConsistent_iff (kpis : CountedKPIs) (buckets : List CountedKPIs) :
    (OeeConsistent kpis.toBucketKPIs ↔ IdealTimeHasRun kpis.toBucketKPIs) ∧
      (OeeConsistent (sumKPIs (buckets.map CountedKPIs.toBucketKPIs)) ↔
        ((∃ b ∈ buckets, 0 < b.additive .elapsedPlannedProductionSeconds) →
          (∃ b ∈ buckets, 0 < b.additive .totalItems) →
          (∀ b ∈ buckets, b.additive .runSeconds = 0) →
            (∀ b ∈ buckets, b.additive .idealCycleSeconds = 0) ∨
              (buckets.map fun b ↦ b.additive .badItems).sum =
                (buckets.map fun b ↦ b.additive .totalItems).sum)) := by
  refine ⟨oeeConsistent_counts_iff kpis, ?_⟩
  have hsum := oeeConsistent_counts_iff (CountedKPIs.sum buckets)
  simp only [IdealTimeHasRun, CountedKPIs.sum_additive_pos_iff,
    CountedKPIs.sum_additive_eq_zero_iff] at hsum
  rw [CountedKPIs.sum_additive, CountedKPIs.sum_additive] at hsum
  exact hsum

/-! ### An hour of cycles in a station that is down -/

/-- Ten good items of six seconds each, and no run time. -/
def downCycles : CountedKPIs where
  additive key :=
    match key with
    | .elapsedPlannedProductionSeconds => 3600
    | .downSeconds => 3600
    | .totalItems => 10
    | .idealCycleSeconds => 60
    | _ => 0
  currentStandardCycle := none
  nonneg key := by cases key <;> decide

/-- OEE is one sixtieth, and the product of its factors is zero. -/
theorem not_oeeConsistent : ¬ ∀ kpis : CountedKPIs, OeeConsistent kpis.toBucketKPIs := by
  intro h
  have hlaw := (oeeConsistent_counts_iff downCycles).mp (h downCycles)
  exact absurd (hlaw (by decide) (by decide) (by decide)) (by decide)

end RwServer
