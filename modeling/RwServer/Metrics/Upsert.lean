import Mathlib
import RwServer.Foundation.Overlay
import RwServer.Metrics.Buckets

/-!
# Replacing the values of a bucket

`upsertBucket` stores computed values under a key: in the live row if there is one, else in the
archived row if there is one, else in a new live row. It writes nothing when the row that the key
stands for has these values already, so storing the same values twice is storing them once
(`upsertBucket_of_holds`), and storing them leaves every other key alone.
-/

namespace RwServer

open Relational

/-! ## What the keys stand for -/

namespace BucketTables

/-- The keys that stand for a row. -/
def keys (t : BucketTables) : Finset BucketKey := Table.visibleKeys t.live t.log

/-- The value of a column under a key; zero where the key stands for no row. -/
def kpi (t : BucketTables) (k : BucketKey) (key : KpiKey) : ℤ :=
  ((t.effective k).map fun r ↦ r.kpis.additive key).getD 0

/-- The standard cycle under a key. -/
def standardCycle (t : BucketTables) (k : BucketKey) : Option ℚ :=
  (t.effective k).bind fun r ↦ r.kpis.currentStandardCycle

theorem key_of_effective {t : BucketTables} {k : BucketKey} {r : BucketRow}
    (h : t.effective k = some r) : r.key = k :=
  Table.visible_key h

theorem kpi_of_not_mem_keys {t : BucketTables} {k : BucketKey} (h : k ∉ t.keys) (key : KpiKey) :
    t.kpi k key = 0 := by
  cases hrow : t.effective k with
  | none => rw [kpi, hrow, Option.map_none, Option.getD_none]
  | some r => exact absurd (Table.mem_visibleKeys.mpr ⟨r, hrow⟩) h

/-- Keys without a row add nothing to a sum. -/
theorem sum_kpi_of_subset {t : BucketTables} {q : BucketKey → Prop} [DecidablePred q]
    {s : Finset BucketKey} (hsub : t.keys.filter q ⊆ s) (hq : ∀ k ∈ s, q k) {key : KpiKey} :
    ∑ k ∈ t.keys.filter q, t.kpi k key = ∑ k ∈ s, t.kpi k key :=
  Finset.sum_subset hsub fun k hk hnot ↦
    kpi_of_not_mem_keys (fun hmem ↦ hnot (Finset.mem_filter.mpr ⟨hmem, hq k hk⟩)) key

theorem hasTwoDecimals_standardCycle {t : BucketTables} {k : BucketKey} {q : ℚ}
    (h : t.standardCycle k = some q) : HasTwoDecimals q := by
  obtain ⟨r, -, hstd⟩ := Option.bind_eq_some_iff.mp h
  exact r.kpis.decimal q hstd

end BucketTables

/-! ## `upsertBucket` -/

structure UpsertInput where
  siteId : Uuid
  key : BucketKey
  granularityName : String
  durationMs : ℤ
  kpis : BucketKPIs
  entityName : String
  path : List (BucketEntityType × Uuid)
  /-- `none` where it is not given, and then the one of `kpis` is taken. -/
  currentStandardCycle : Option (Option ℚ)
  shiftInstanceId : Option Uuid
  businessDate : Option Time
  businessShift : Option String
  currentJobId : Option Uuid
  currentJobName : Option String

namespace UpsertInput

variable (input : UpsertInput)

/-- `stdCycle`. -/
def stdCycle : Option ℚ := input.currentStandardCycle.getD input.kpis.currentStandardCycle

/-- The comparison with the row that is there: `unchanged`, and the same name and path. -/
def isHeldBy (row : BucketRow) : Bool :=
  (additiveKpiKeys.all fun key ↦ row.kpis.additive key == input.kpis.additive key) &&
    row.kpis.currentStandardCycle == input.stdCycle && row.currentJobId == input.currentJobId &&
    row.currentJobName == input.currentJobName && row.entityName == input.entityName &&
    row.path == input.path

/-- The values as they are stored. -/
def storedKpis : StoredKPIs := BucketKPIs.store ⟨input.kpis.additive, input.stdCycle⟩

/-- The `SET` of the two `UPDATE`s. -/
def overwrite (row : BucketRow) : BucketRow :=
  { row with
    entityName := input.entityName
    path := input.path
    shiftInstanceId := input.shiftInstanceId
    businessDate := input.businessDate
    businessShift := input.businessShift
    currentJobId := input.currentJobId
    currentJobName := input.currentJobName
    kpis := input.storedKpis }

/-- The `VALUES` of the `INSERT`; the id is drawn when the row is inserted. -/
def newRow : BucketRow where
  id := 0
  siteId := input.siteId
  key := input.key
  entityName := input.entityName
  path := input.path
  granularityName := input.granularityName
  durationMs := input.durationMs
  shiftInstanceId := input.shiftInstanceId
  businessDate := input.businessDate
  businessShift := input.businessShift
  kpis := input.storedKpis
  currentJobId := input.currentJobId
  currentJobName := input.currentJobName

theorem mild_overwrite : Table.Mild bucketRowSchema input.overwrite :=
  mild_of_same (fun _ ↦ rfl) (fun _ ↦ rfl)

/-- An `UPDATE` of the row under the key. -/
def update (table : Table bucketRowSchema) : Table bucketRowSchema :=
  table.modify (fun r ↦ decide (r.key = input.key)) input.overwrite input.mild_overwrite

end UpsertInput

def upsertBucket (t : BucketTables) (input : UpsertInput) : BucketTables :=
  if (t.effective input.key).any input.isHeldBy then t
  else if (t.live.find input.key).isNone && (t.log.find input.key).isSome then
    { t with log := input.update t.log }
  else if (t.live.find input.key).isSome then { t with live := input.update t.live }
  else { t with live := insertBucket t.live input.newRow }

section

variable {t : BucketTables} {input : UpsertInput} {k : BucketKey}

/-- What the key stands for has the values of the input. -/
def Holds (t : BucketTables) (input : UpsertInput) : Prop :=
  ∃ row, t.effective input.key = some row ∧ input.isHeldBy row = true

theorem isHeldBy_iff {row : BucketRow} : input.isHeldBy row = true ↔
    row.kpis.additive = input.kpis.additive ∧ row.kpis.currentStandardCycle = input.stdCycle ∧
      row.currentJobId = input.currentJobId ∧ row.currentJobName = input.currentJobName ∧
      row.entityName = input.entityName ∧ row.path = input.path := by
  have hall :
      (additiveKpiKeys.all fun key ↦ row.kpis.additive key == input.kpis.additive key) = true
      ↔ row.kpis.additive = input.kpis.additive := by
    rw [List.all_eq_true]
    constructor
    · exact fun h ↦ funext fun key ↦ beq_iff_eq.mp (h key (mem_additiveKpiKeys key))
    · exact fun h key _ ↦ beq_iff_eq.mpr (congrFun h key)
  simp only [UpsertInput.isHeldBy, Bool.and_eq_true, beq_iff_eq, hall, and_assoc]

/-- **Nothing is written** when the values are there. -/
theorem upsertBucket_of_holds (h : Holds t input) : upsertBucket t input = t := by
  obtain ⟨row, hrow, hheld⟩ := h
  rw [upsertBucket, hrow, Option.any_some, if_pos hheld]

theorem find_update_of_ne {table : Table bucketRowSchema} (hk : k ≠ input.key) :
    (input.update table).find k = table.find k := by
  rw [UpsertInput.update, Table.find_modify]
  cases h : table.find k with
  | none => rfl
  | some r =>
    have hkey : r.key = k := (Table.find_eq_some_iff.mp h).2
    rw [Option.map_some, if_neg (by rw [decide_eq_true_eq, hkey]; exact hk)]

theorem find_update_self {table : Table bucketRowSchema} {r : BucketRow}
    (h : table.find input.key = some r) :
    (input.update table).find input.key = some (input.overwrite r) := by
  have hkey : r.key = input.key := (Table.find_eq_some_iff.mp h).2
  rw [UpsertInput.update, Table.find_modify, h, Option.map_some,
    if_pos (decide_eq_true hkey)]

/-- Other keys are left alone, in both tables. -/
theorem find_upsertBucket_of_ne (hk : k ≠ input.key) :
    (upsertBucket t input).live.find k = t.live.find k ∧
      (upsertBucket t input).log.find k = t.log.find k := by
  rw [upsertBucket]
  split_ifs
  · exact ⟨rfl, rfl⟩
  · exact ⟨rfl, find_update_of_ne hk⟩
  · exact ⟨find_update_of_ne hk, rfl⟩
  · exact ⟨find_insertBucket_of_ne (Ne.symm hk), rfl⟩

theorem effective_upsertBucket_of_ne (hk : k ≠ input.key) :
    (upsertBucket t input).effective k = t.effective k := by
  obtain ⟨hlive, hlog⟩ := find_upsertBucket_of_ne (t := t) hk
  rw [BucketTables.effective, BucketTables.effective, hlive, hlog]

/-- The key stands for a row with the stored values afterwards, whatever was written. -/
theorem exists_effective_upsertBucket (t : BucketTables) (input : UpsertInput) : ∃ row,
    (upsertBucket t input).effective input.key = some row ∧ (input.isHeldBy row = true ∨
      row.kpis = input.storedKpis ∧ row.currentJobId = input.currentJobId ∧
        row.currentJobName = input.currentJobName ∧ row.entityName = input.entityName ∧
        row.path = input.path) := by
  rw [upsertBucket]
  split_ifs with hheld harchived hlive
  · rw [Option.any_eq_true] at hheld
    obtain ⟨row, hrow, hheld⟩ := hheld
    exact ⟨row, hrow, .inl hheld⟩
  · rw [Bool.and_eq_true, Option.isNone_iff_eq_none, Option.isSome_iff_exists] at harchived
    obtain ⟨hnone, r, hr⟩ := harchived
    refine ⟨input.overwrite r, ?_, .inr ⟨rfl, rfl, rfl, rfl, rfl⟩⟩
    rw [BucketTables.effective, hnone, Option.none_or]
    exact find_update_self hr
  · obtain ⟨r, hr⟩ := Option.isSome_iff_exists.mp hlive
    refine ⟨input.overwrite r, ?_, .inr ⟨rfl, rfl, rfl, rfl, rfl⟩⟩
    rw [BucketTables.effective, find_update_self hr, Option.some_or]
  · rw [Option.not_isSome_iff_eq_none] at hlive
    have hself := find_insertBucket_self (t := t.live) (r := input.newRow)
    rw [show input.newRow.key = input.key from rfl, hlive, Option.getD_none] at hself
    refine ⟨{ input.newRow with id := freshId t.live }, ?_, .inr ⟨rfl, rfl, rfl, rfl, rfl⟩⟩
    rw [BucketTables.effective, hself, Option.some_or]
    rfl

/-- **The values are there afterwards**, if the standard cycle has two decimals. -/
theorem holds_upsertBucket (hdec : ∀ q ∈ input.stdCycle, HasTwoDecimals q) :
    Holds (upsertBucket t input) input := by
  obtain ⟨row, hrow, hheld | ⟨hkpis, hrest⟩⟩ := exists_effective_upsertBucket t input
  · exact ⟨row, hrow, hheld⟩
  · refine ⟨row, hrow, isHeldBy_iff.mpr ⟨?_, ?_, hrest⟩⟩
    · rw [hkpis]
      rfl
    · rw [hkpis, UpsertInput.storedKpis, BucketKPIs.store]
      dsimp only
      cases hstd : input.stdCycle with
      | none => rfl
      | some q => rw [Option.map_some, toDecimal_eq (hdec q hstd)]

/-- A selection of rows by their keys, other than the key of the input, is as before. -/
theorem filter_upsertBucket (t : BucketTables) (input : UpsertInput) {p : BucketRow → Bool}
    (hp : ∀ r : BucketRow, r.key = input.key → p r = false) :
    (upsertBucket t input).live.rows.filter p = t.live.rows.filter p ∧
      (upsertBucket t input).log.rows.filter p = t.log.rows.filter p := by
  have hupdate : ∀ table : Table bucketRowSchema,
      (input.update table).rows.filter p = table.rows.filter p := fun table ↦
    Table.filter_rows_modify _ _ _ fun r _ hr ↦
      ⟨hp r (of_decide_eq_true hr), hp (input.overwrite r) (of_decide_eq_true hr)⟩
  rw [upsertBucket]
  split_ifs
  · exact ⟨rfl, rfl⟩
  · exact ⟨rfl, hupdate t.log⟩
  · exact ⟨hupdate t.live, rfl⟩
  · exact ⟨Table.filter_rows_insertMissing _ (hp _ rfl), rfl⟩

end

end RwServer
