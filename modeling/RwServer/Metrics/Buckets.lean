import Mathlib
import RwServer.Database.Tables
import RwServer.Foundation.Windows

/-!
# Metric buckets, live and archived

`MetricBucket` and `MetricBucketLog` have the same columns and the same constraints: the primary
key `id`, and the unique index on entity, granularity and start time, which is taken as the key of
the table here. Every reader prefers the live row of a key over the archived one, so what a key
stands for is its *effective* row.

The fifteen additive columns are one function on `KpiKey`, as the source goes through them by
`ADDITIVE_KPI_KEYS`. A path is the list of its segments, the text of which the source joins with
dots; lengths are in milliseconds. Generated columns and audit columns are left out. The standard
cycle of a row is the value of a `Decimal(10, 2)` column and carries that it has two decimals.
-/

namespace RwServer

open Windows Relational

/-- The additive columns. -/
inductive KpiKey
  | totalCycles
  | badCycles
  | totalItems
  | badItems
  | expectedCycles
  | expectedItems
  | runSeconds
  | downSeconds
  | plannedDownSeconds
  | unplannedDownSeconds
  | idealCycleSeconds
  | totalCycleSeconds
  | elapsedExpectedCycles
  | elapsedExpectedItems
  | elapsedPlannedProductionSeconds
deriving DecidableEq, Repr

/-- `ADDITIVE_KPI_KEYS`. -/
def additiveKpiKeys : List KpiKey :=
  [.totalCycles, .badCycles, .totalItems, .badItems, .expectedCycles, .expectedItems, .runSeconds,
    .downSeconds, .plannedDownSeconds, .unplannedDownSeconds, .idealCycleSeconds,
    .totalCycleSeconds, .elapsedExpectedCycles, .elapsedExpectedItems,
    .elapsedPlannedProductionSeconds]

theorem mem_additiveKpiKeys (key : KpiKey) : key ∈ additiveKpiKeys := by
  cases key <;> decide

instance fintypeKpiKey : Fintype KpiKey := ⟨⟨additiveKpiKeys, by decide⟩, mem_additiveKpiKeys⟩

/-- All KPI values of a bucket, as they are computed. -/
@[ext] structure BucketKPIs where
  additive : KpiKey → ℤ
  /-- Not additive. -/
  currentStandardCycle : Option ℚ
deriving DecidableEq

def zeroKpis : BucketKPIs := ⟨fun _ ↦ 0, none⟩

/-! ## Decimal columns -/

/-- `ROUND` of a numeric: half away from zero. -/
def sqlRound (x : ℚ) : ℤ := if 0 ≤ x then ⌊x + 1 / 2⌋ else -⌊-x + 1 / 2⌋

/-- `::decimal(10,2)`. -/
def toDecimal (x : ℚ) : ℚ := sqlRound (x * 100) / 100

def HasTwoDecimals (x : ℚ) : Prop := ∃ n : ℤ, x = n / 100

instance decidableHasTwoDecimals (x : ℚ) : Decidable (HasTwoDecimals x) :=
  decidable_of_iff ((x * 100).den = 1) <| by
    rw [Rat.den_eq_one_iff]
    constructor
    · exact fun h ↦ ⟨(x * 100).num, by rw [h]; ring⟩
    · rintro ⟨n, rfl⟩
      rw [div_mul_cancel₀ _ (by norm_num : (100 : ℚ) ≠ 0), Rat.num_intCast]

theorem sqlRound_intCast (n : ℤ) : sqlRound n = n := by
  have hhalf : ∀ m : ℤ, ⌊(m : ℚ) + 1 / 2⌋ = m := fun m ↦ by
    rw [Int.floor_intCast_add, Int.floor_eq_zero_iff.mpr ⟨by norm_num, by norm_num⟩, add_zero]
  rw [sqlRound]
  split
  · exact hhalf n
  · rw [← Int.cast_neg, hhalf, neg_neg]

theorem toDecimal_eq {x : ℚ} (h : HasTwoDecimals x) : toDecimal x = x := by
  obtain ⟨n, rfl⟩ := h
  rw [toDecimal, div_mul_cancel₀ _ (by norm_num : (100 : ℚ) ≠ 0), sqlRound_intCast]

theorem hasTwoDecimals_toDecimal (x : ℚ) : HasTwoDecimals (toDecimal x) := ⟨_, rfl⟩

/-- KPI values as the columns hold them. -/
structure StoredKPIs extends BucketKPIs where
  decimal : ∀ q ∈ currentStandardCycle, HasTwoDecimals q
deriving DecidableEq

/-- The columns after some values have been written to them. -/
def BucketKPIs.store (kpis : BucketKPIs) : StoredKPIs where
  additive := kpis.additive
  currentStandardCycle := kpis.currentStandardCycle.map toDecimal
  decimal q hq := by
    obtain ⟨x, -, rfl⟩ := Option.mem_map.mp hq
    exact hasTwoDecimals_toDecimal x

@[ext] theorem StoredKPIs.ext_columns {a b : StoredKPIs} (hadd : a.additive = b.additive)
    (hstd : a.currentStandardCycle = b.currentStandardCycle) : a = b := by
  obtain ⟨⟨_, _⟩, _⟩ := a
  obtain ⟨⟨_, _⟩, _⟩ := b
  subst hadd hstd
  rfl

/-! ## Rows -/

/-- The columns of the unique index. -/
@[ext] structure BucketKey where
  entityType : BucketEntityType
  entityId : Uuid
  granularity : BucketGranularity
  startTime : Time
deriving DecidableEq, Repr

/-- The key of an hour of a station. -/
def hourKey (stationId : Uuid) (startTime : Time) : BucketKey :=
  ⟨.station, stationId, .hour, startTime⟩

/-- A row of `MetricBucket` or `MetricBucketLog`. -/
structure BucketRow where
  id : Uuid
  siteId : Uuid
  key : BucketKey
  entityName : String
  /-- From the site down to the entity itself. -/
  path : List (BucketEntityType × Uuid)
  granularityName : String
  /-- `durationSeconds`, in milliseconds. -/
  durationMs : ℤ
  shiftInstanceId : Option Uuid
  businessDate : Option Time
  businessShift : Option String
  kpis : StoredKPIs
  currentJobId : Option Uuid
  currentJobName : Option String
deriving DecidableEq

namespace BucketRow

def startTime (r : BucketRow) : Time := r.key.startTime

/-- `"startTime" + "durationSeconds" * INTERVAL '1 second'`. -/
def endTime (r : BucketRow) : Time := r.startTime + r.durationMs

/-- The time the row covers. -/
def window (r : BucketRow) : Window Time := ⟨r.startTime, r.endTime⟩

/-- The row condition by which the containment updates find the hour of a station, such as
`incrementHourCounts` and the `target_bucket` of the tick. -/
def isHourAt (stationId : Uuid) (timestamp : Time) (r : BucketRow) : Bool :=
  r.key.entityType == .station && r.key.entityId == stationId && r.key.granularity == .hour &&
    decide (r.startTime ≤ timestamp) && decide (timestamp < r.endTime)

theorem isHourAt_iff {stationId : Uuid} {t : Time} {r : BucketRow} : r.isHourAt stationId t = true ↔
    r.key = hourKey stationId r.startTime ∧ r.window.Contains t := by
  simp only [isHourAt, Bool.and_eq_true, beq_iff_eq, decide_eq_true_eq]
  constructor
  · rintro ⟨⟨⟨⟨h₁, h₂⟩, h₃⟩, h₄⟩, h₅⟩
    refine ⟨?_, h₄, h₅⟩
    rw [hourKey, ← h₁, ← h₂, ← h₃]
    rfl
  · rintro ⟨hkey, h₄, h₅⟩
    rw [hkey]
    exact ⟨⟨⟨⟨rfl, rfl⟩, rfl⟩, h₄⟩, h₅⟩

end BucketRow

def bucketRowSchema : Schema BucketRow BucketKey where
  key := BucketRow.key
  clash a b := a.id == b.id
  clash_symm _ _ := Bool.beq_comm

/-- A change of columns other than the key and the id. -/
theorem mild_of_same {f : BucketRow → BucketRow} (hkey : ∀ r, (f r).key = r.key)
    (hid : ∀ r, (f r).id = r.id) : Table.Mild bucketRowSchema f where
  key := hkey
  clash a b h := by
    change (a.id == b.id) = true
    rw [← hid a]
    exact h

/-! ## New rows -/

/-- `gen_random_uuid()`: an id that no row of the table has. -/
def freshId (t : Table bucketRowSchema) : Uuid := (t.rows.map BucketRow.id).foldr max 0 + 1

theorem id_lt_freshId {t : Table bucketRowSchema} {r : BucketRow} (hr : r ∈ t.rows) :
    r.id < freshId t := by
  have hle : ∀ l : List Uuid, ∀ x ∈ l, x ≤ l.foldr max 0 := by
    intro l
    induction l with
    | nil => exact fun x hx ↦ absurd hx (by simp)
    | cons y l ih =>
      intro x hx
      rcases List.mem_cons.mp hx with rfl | hx
      · exact le_max_left _ _
      · exact (ih x hx).trans (le_max_right _ _)
  exact Nat.lt_succ_of_le (hle _ _ (List.mem_map_of_mem hr))

/-- `INSERT .. ON CONFLICT (entityType, entityId, granularity, startTime) DO NOTHING` of a row
with a generated id. -/
def insertBucket (t : Table bucketRowSchema) (r : BucketRow) : Table bucketRowSchema :=
  t.insertMissing { r with id := freshId t }

section

variable {t : Table bucketRowSchema} {r a : BucketRow} {k : BucketKey}

theorem find_insertBucket_of_ne (hk : r.key ≠ k) : (insertBucket t r).find k = t.find k :=
  t.find_insertMissing_of_ne hk

theorem find_insertBucket_self : (insertBucket t r).find r.key
    = some ((t.find r.key).getD { r with id := freshId t }) :=
  t.find_insertMissing_self (r := { r with id := freshId t }) fun _ ha ↦
    beq_eq_false_iff_ne.mpr (id_lt_freshId ha).ne

theorem mem_of_mem_insertBucket (ha : a ∈ (insertBucket t r).rows) :
    a ∈ t.rows ∨ a = { r with id := freshId t } :=
  Table.mem_of_mem_insertMissing ha

end

/-- One `INSERT` of several rows. -/
def insertBuckets (t : Table bucketRowSchema) (rs : List BucketRow) : Table bucketRowSchema :=
  rs.foldl insertBucket t

section

variable {t : Table bucketRowSchema} {rs : List BucketRow} {r : BucketRow} {k : BucketKey}

/-- Inserting rows leaves a row that is there alone. -/
theorem find_insertBuckets_of_some (h : t.find k = some r) :
    (insertBuckets t rs).find k = some r := by
  induction rs generalizing t with
  | nil => exact h
  | cons a rs ih =>
    refine ih ?_
    by_cases hk : a.key = k
    · subst hk
      rw [find_insertBucket_self, h, Option.getD_some]
    · rw [find_insertBucket_of_ne hk, h]

theorem find_insertBuckets_of_forall_ne (h : ∀ a ∈ rs, a.key ≠ k) :
    (insertBuckets t rs).find k = t.find k := by
  induction rs generalizing t with
  | nil => rfl
  | cons a rs ih =>
    exact (ih fun b hb ↦ h b (List.mem_cons_of_mem _ hb)).trans
      (find_insertBucket_of_ne (h a List.mem_cons_self))

/-- A missing key gets one of the rows, up to the id. -/
theorem find_insertBuckets_of_none (h : t.find k = none) (hk : ∃ a ∈ rs, a.key = k) :
    ∃ a ∈ rs, ∃ id, a.key = k ∧ (insertBuckets t rs).find k = some { a with id := id } := by
  induction rs generalizing t with
  | nil => exact absurd hk (by simp)
  | cons b rs ih =>
    by_cases hb : b.key = k
    · subst hb
      have hself : (insertBucket t b).find b.key = some { b with id := freshId t } := by
        rw [find_insertBucket_self, h, Option.getD_none]
      exact ⟨b, List.mem_cons_self, freshId t, rfl,
        find_insertBuckets_of_some (t := insertBucket t b) hself⟩
    · obtain ⟨c, hc, hck⟩ := hk
      have hc : c ∈ rs := (List.mem_cons.mp hc).resolve_left fun heq ↦ hb (heq ▸ hck)
      obtain ⟨a, ha, id, hak, hfind⟩ := ih ((find_insertBucket_of_ne hb).trans h) ⟨c, hc, hck⟩
      exact ⟨a, List.mem_cons_of_mem _ ha, id, hak, hfind⟩

theorem mem_of_mem_insertBuckets (hr : r ∈ (insertBuckets t rs).rows) :
    r ∈ t.rows ∨ ∃ a ∈ rs, ∃ id, r = { a with id := id } := by
  induction rs generalizing t with
  | nil => exact .inl hr
  | cons b rs ih =>
    rcases ih hr with hr | ⟨a, ha, id, rfl⟩
    · rcases mem_of_mem_insertBucket hr with hr | rfl
      · exact .inl hr
      · exact .inr ⟨b, List.mem_cons_self, _, rfl⟩
    · exact .inr ⟨a, List.mem_cons_of_mem _ ha, id, rfl⟩

end

/-- An hour of a station with some cycles, and a standard cycle of 12.5 seconds. -/
def sampleHour (startTime : Time) (totalCycles : ℤ) : BucketRow where
  id := 0
  siteId := 1
  key := hourKey 2 startTime
  entityName := "Press"
  path := [(.site, 1), (.station, 2)]
  granularityName := "Hour"
  durationMs := 3600000
  shiftInstanceId := some 3
  businessDate := some 0
  businessShift := some "Early"
  kpis := BucketKPIs.store ⟨fun key ↦ if key = .totalCycles then totalCycles else 0, some (25 / 2)⟩
  currentJobId := none
  currentJobName := none

/-! ## The two tables -/

structure BucketTables where
  /-- `MetricBucket`. -/
  live : Table bucketRowSchema
  /-- `MetricBucketLog`. -/
  log : Table bucketRowSchema

instance inhabitedBucketTables : Inhabited BucketTables := ⟨⟨default, default⟩⟩

namespace BucketTables

/-- What a key stands for: the live row if present, else the archived one. -/
def effective (t : BucketTables) (k : BucketKey) : Option BucketRow :=
  (t.live.find k).or (t.log.find k)

/-- The effective KPI values of a key. -/
def effectiveKpis (t : BucketTables) (k : BucketKey) : Option BucketKPIs :=
  (t.effective k).map fun r ↦ r.kpis.toBucketKPIs

end BucketTables

end RwServer
