import Mathlib
import RwServer.Metrics.Buckets
import RwServer.Metrics.StateTally

/-!
# The durations of an hour, computed twice

`computeDurationsForBucket` adds up the state log of a station over a bucket in a loop, and clips
each entry with a guard against negative lengths. The tick has the database do it: `state_slice`
selects closed and open entries apart, `dur` sums the clipped lengths without such a guard. On the
hour that contains the time of the tick the two agree (`batchDurations_eq`), because an entry that
`dur` selects overlaps the hour before now.
-/

namespace RwServer

open Relational

/-! ## In the service -/

/-- The values that follow from the time spent in each state. -/
structure Durations where
  runSeconds : ℤ
  downSeconds : ℤ
  plannedDownSeconds : ℤ
  unplannedDownSeconds : ℤ
  elapsedPlannedProductionSeconds : ℤ
  elapsedExpectedCycles : ℤ
  elapsedExpectedItems : ℤ
  expectedCycles : ℤ
  expectedItems : ℤ
deriving DecidableEq, Repr

structure BucketDurations extends Durations where
  currentStandardCycle : Option ℚ
deriving DecidableEq

/-- The cycles that fit into some seconds. -/
def cyclesIn (seconds : ℚ) (standardCycle : Option ℚ) : ℤ :=
  match standardCycle with
  | some s => if 0 < s then ⌊seconds / s⌋ else 0
  | none => 0

def computeDurationsForBucket (log : StateLog) (reasons : List StatusReason) (stationId : Uuid)
    (bucketStart : Time) (bucketDurationMs : ℤ) (now : Time) (standardCycle : Option ℚ)
    (itemsPerCycle : ℤ) : BucketDurations :=
  let bucketDurationSeconds : ℚ := bucketDurationMs / 1000
  let tally := queryAndTallyStateLogs log reasons stationId bucketStart
    (bucketStart + bucketDurationMs) now none
  let plannedProductionSeconds := bucketDurationSeconds - tally.plannedDownSeconds
  let elapsedPlannedProductionSeconds := tally.runSeconds + tally.unplannedDownSeconds
  let expectedCycles := cyclesIn plannedProductionSeconds standardCycle
  let elapsedExpectedCycles := cyclesIn elapsedPlannedProductionSeconds standardCycle
  { runSeconds := tally.runSeconds
    downSeconds := tally.downSeconds
    plannedDownSeconds := tally.plannedDownSeconds
    unplannedDownSeconds := tally.unplannedDownSeconds
    elapsedPlannedProductionSeconds := elapsedPlannedProductionSeconds
    elapsedExpectedCycles := elapsedExpectedCycles
    elapsedExpectedItems := elapsedExpectedCycles * itemsPerCycle
    expectedCycles := expectedCycles
    expectedItems := expectedCycles * itemsPerCycle
    currentStandardCycle := standardCycle }

/-! ## In the database -/

/-- `target_bucket`. -/
def targetBucket (live : Table bucketRowSchema) (stationId : Uuid) (timestamp : Time) :
    Option BucketRow :=
  live.rows.find? (BucketRow.isHourAt stationId timestamp)

/-- `state_slice`. -/
def stateSlice (log : StateLog) (stationId : Uuid) (hourStart : Time) : List StationStateLog :=
  (log.live stationId).filter (fun e ↦ e.endTime.any fun t ↦ decide (hourStart ≤ t)) ++
    (log.live stationId).filter fun e ↦ e.endTime.isNone

/-- The `WHERE` of `dur`. -/
def isInHour (hourStart hourEnd vNow : Time) (e : StationStateLog) : Bool :=
  decide (e.startTime < min hourEnd vNow) && e.endTime.all fun t ↦ decide (hourStart < t)

/-- The clipped length of an entry, in milliseconds. -/
def epochMs (hourStart hourEnd vNow : Time) (e : StationStateLog) : ℤ :=
  min (e.endTime.getD vNow) (min hourEnd vNow) - max e.startTime hourStart

/-- `COALESCE(ROUND(SUM(CASE WHEN .. THEN .. ELSE 0 END))::int, 0)` over the rows of `dur`. -/
def durSeconds (log : StateLog) (stationId : Uuid) (hourStart hourEnd vNow : Time)
    (isCase : StationStateLog → Bool) : ℤ :=
  let rows := (stateSlice log stationId hourStart).filter (isInHour hourStart hourEnd vNow)
  let ms : ℤ := (rows.map fun e ↦ if isCase e then epochMs hourStart hourEnd vNow e else 0).sum
  sqlRound (ms / 1000)

/-- `CASE WHEN std_cycle > 0 THEN FLOOR(seconds / std_cycle)::int ELSE 0 END`. -/
def sqlCycles (seconds stdCycle : ℚ) : ℤ := if 0 < stdCycle then ⌊seconds / stdCycle⌋ else 0

/-- `dur` and `derived`, as they are written by `upd_hour`. -/
def batchDurations (log : StateLog) (reasons : List StatusReason) (stationId : Uuid)
    (hourStart : Time) (durationMs : ℤ) (vNow : Time) (stdCycle : Option ℚ) (itemsPerCycle : ℤ) :
    BucketDurations :=
  let seconds := durSeconds log stationId hourStart (hourStart + durationMs) vNow
  let runSeconds := seconds fun e ↦ e.state == .up
  let downSeconds := seconds fun e ↦ e.state == .down
  let plannedDownSeconds := seconds fun e ↦ e.state == .down && isPlannedDown reasons e
  let unplannedDownSeconds := seconds fun e ↦ e.state == .down && !isPlannedDown reasons e
  let durationSeconds : ℚ := durationMs / 1000
  let expectedCycles := sqlCycles (durationSeconds - plannedDownSeconds) (stdCycle.getD 0)
  let elapsedExpectedCycles :=
    sqlCycles (runSeconds + unplannedDownSeconds : ℤ) (stdCycle.getD 0)
  { runSeconds := runSeconds
    downSeconds := downSeconds
    plannedDownSeconds := plannedDownSeconds
    unplannedDownSeconds := unplannedDownSeconds
    elapsedPlannedProductionSeconds := runSeconds + unplannedDownSeconds
    elapsedExpectedCycles := elapsedExpectedCycles
    elapsedExpectedItems := elapsedExpectedCycles * itemsPerCycle
    expectedCycles := expectedCycles
    expectedItems := expectedCycles * itemsPerCycle
    currentStandardCycle := some (stdCycle.getD 0) }

/-! ## The loop as sums -/

/-- The milliseconds of an entry, if it counts for a sum. -/
def caseMs (isCase : StationStateLog → Bool) (lo hi now : Time) (e : StationStateLog) : ℤ :=
  if isCase e then clippedMs lo hi now e else 0

theorem foldl_addEntry (reasons : List StatusReason) (lo hi now : Time)
    (entries : List StationStateLog) (acc : DurationMs) :
    entries.foldl (DurationMs.addEntry reasons lo hi now) acc =
      { runMs := acc.runMs + (entries.map (caseMs (fun e ↦ e.state == .up) lo hi now)).sum
        downMs := acc.downMs + (entries.map (caseMs (fun e ↦ e.state == .down) lo hi now)).sum
        plannedDownMs := acc.plannedDownMs + (entries.map
          (caseMs (fun e ↦ e.state == .down && isPlannedDown reasons e) lo hi now)).sum
        unplannedDownMs := acc.unplannedDownMs + (entries.map
          (caseMs (fun e ↦ e.state == .down && !isPlannedDown reasons e) lo hi now)).sum } := by
  induction entries generalizing acc with
  | nil => simp
  | cons e entries ih =>
    have hadd : acc.addEntry reasons lo hi now e =
        { runMs := acc.runMs + caseMs (fun e ↦ e.state == .up) lo hi now e
          downMs := acc.downMs + caseMs (fun e ↦ e.state == .down) lo hi now e
          plannedDownMs := acc.plannedDownMs +
            caseMs (fun e ↦ e.state == .down && isPlannedDown reasons e) lo hi now e
          unplannedDownMs := acc.unplannedDownMs +
            caseMs (fun e ↦ e.state == .down && !isPlannedDown reasons e) lo hi now e } := by
      have hstate : e.state = .up ∨ e.state = .down := by cases e.state <;> simp
      rw [DurationMs.addEntry]
      simp only [caseMs]
      by_cases hzero : clippedMs lo hi now e = 0
      · simp [hzero]
      · rcases hstate with hstate | hstate
        · simp [hzero, hstate]
        · by_cases hplanned : isPlannedDown reasons e = true
          · simp [hzero, hstate, hplanned]
          · simp [hzero, hstate, hplanned]
    rw [List.foldl_cons, ih, hadd]
    simp only [List.map_cons, List.sum_cons, add_assoc]

/-! ## The same sums -/

/-- An open entry: one that begins before now and before the end has its time in the hour. -/
private theorem openMs_eq (s lo hi now : ℤ) (hhour : lo < hi) (hlo : lo ≤ now) :
    (if s < min hi now then min now (min hi now) - max s lo else 0)
      = if s < hi then max 0 (min now hi - max s lo) else 0 := by
  split_ifs <;> omega

/-- A closed entry: one that ends after the start, too. -/
private theorem closedMs_eq (s t lo hi now : ℤ) (hhour : lo < hi) (hlo : lo ≤ now) (hst : s ≤ t)
    (hnow : t ≤ now ∨ hi ≤ now) :
    (if (s < min hi now ∧ lo < t) ∧ lo ≤ t then min t (min hi now) - max s lo else 0)
      = if s < hi ∧ lo < t then max 0 (min t hi - max s lo) else 0 := by
  split_ifs <;> omega

section

variable {log : StateLog} {stationId : Uuid} {start stop now : Time}

/-- One entry counts the same in both sums: an entry that `dur` selects overlaps the hour before
now, and one that it leaves out has no time in the hour. -/
theorem epochMs_eq_clippedMs {e : StationStateLog} (hhour : start < stop) (hstart : start ≤ now)
    (he : ∀ t ∈ e.endTime, e.startTime ≤ t ∧ (t ≤ now ∨ stop ≤ now)) :
    (if isInHour start stop now e && e.endTime.any fun t ↦ decide (start ≤ t) then
        epochMs start stop now e else 0) +
      (if isInHour start stop now e && e.endTime.isNone then epochMs start stop now e else 0) =
    if decide (e.startTime < stop) && e.endTime.all fun t ↦ decide (start < t) then
      clippedMs start stop now e else 0 := by
  simp only [isInHour, epochMs, clippedMs]
  obtain hend | ⟨t, hend⟩ : e.endTime = none ∨ ∃ t, e.endTime = some t := by
    cases e.endTime <;> simp
  · simp only [hend, Option.any_none, Option.isNone_none, Option.all_none, Option.getD_none,
      Bool.and_true, Bool.and_false, Bool.false_eq_true, if_false, zero_add, decide_eq_true_eq]
    exact openMs_eq e.startTime start stop now hhour hstart
  · obtain ⟨hlen, hnow⟩ := he t hend
    simp only [hend, Option.any_some, Option.isNone_some, Option.all_some, Option.getD_some,
      Bool.and_false, Bool.false_eq_true, if_false, add_zero, Bool.and_eq_true, decide_eq_true_eq]
    exact closedMs_eq e.startTime t start stop now hhour hstart hlen hnow

/-- The sum of the database is the sum of the loop. -/
theorem durMs_eq (hhour : start < stop) (hstart : start ≤ now)
    (hlog : ∀ e ∈ log.live stationId, ∀ t ∈ e.endTime,
      e.startTime ≤ t ∧ (t ≤ now ∨ stop ≤ now))
    (isCase : StationStateLog → Bool) :
    (((stateSlice log stationId start).filter (isInHour start stop now)).map fun e ↦
        if isCase e then epochMs start stop now e else 0).sum
      = ((stateLogsInBucket log stationId start stop).map (caseMs isCase start stop now)).sum := by
  rw [stateSlice, List.filter_append, List.map_append, List.sum_append, List.filter_filter,
    List.filter_filter, Table.sum_filter, Table.sum_filter, ← List.sum_map_add, stateLogsInBucket,
    Table.sum_filter]
  congr 1
  refine List.map_congr_left fun e he ↦ ?_
  have heq := epochMs_eq_clippedMs hhour hstart (hlog e he)
  rw [caseMs]
  cases isCase e with
  | true => simpa only [if_true] using heq
  | false => simp

/-- `ROUND` and `Math.round` agree from zero on. -/
theorem sqlRound_eq_mathRound {x : ℚ} (h : 0 ≤ x) : sqlRound x = mathRound x := by
  rw [sqlRound, if_pos h, mathRound, round_eq]

theorem durSeconds_eq (hhour : start < stop) (hstart : start ≤ now)
    (hlog : ∀ e ∈ log.live stationId, ∀ t ∈ e.endTime,
      e.startTime ≤ t ∧ (t ≤ now ∨ stop ≤ now))
    (isCase : StationStateLog → Bool) : durSeconds log stationId start stop now isCase
      = mathRound ((((stateLogsInBucket log stationId start stop).map
        (caseMs isCase start stop now)).sum : ℤ) / 1000) := by
  have hnonneg : 0 ≤ ((stateLogsInBucket log stationId start stop).map
      (caseMs isCase start stop now)).sum := by
    refine List.sum_nonneg fun ms hms ↦ ?_
    obtain ⟨e, -, rfl⟩ := List.mem_map.mp hms
    rw [caseMs]
    split
    · exact le_max_left _ _
    · exact le_rfl
  rw [durSeconds]
  simp only [durMs_eq hhour hstart hlog]
  exact sqlRound_eq_mathRound (div_nonneg (Int.cast_nonneg hnonneg) (by norm_num))

end

theorem sqlCycles_getD (seconds : ℚ) (standardCycle : Option ℚ) :
    sqlCycles seconds (standardCycle.getD 0) = cyclesIn seconds standardCycle := by
  cases standardCycle with
  | none => exact if_neg (lt_irrefl 0)
  | some s => rfl

/-- **The tick of the database computes what the service computes** on an hour of the station that
`target_bucket` can select. -/
theorem batchDurations_eq {log : StateLog} {stationId : Uuid} {bucket : BucketRow}
    {timestamp now : Time} (hbucket : bucket.isHourAt stationId timestamp = true)
    (hstart : bucket.startTime ≤ now)
    (hlog : ∀ e ∈ log.live stationId, ∀ t ∈ e.endTime, e.startTime ≤ t ∧ t ≤ now)
    (reasons : List StatusReason) (standardCycle : Option ℚ) (itemsPerCycle : ℤ) :
    (batchDurations log reasons stationId bucket.startTime bucket.durationMs now standardCycle
        itemsPerCycle).toDurations
      = (computeDurationsForBucket log reasons stationId bucket.startTime bucket.durationMs now
        standardCycle itemsPerCycle).toDurations := by
  obtain ⟨-, hlo, hhi⟩ := BucketRow.isHourAt_iff.mp hbucket
  have hhour : bucket.startTime < bucket.startTime + bucket.durationMs := hlo.trans_lt hhi
  have hseconds := durSeconds_eq hhour hstart fun e he t ht ↦ (hlog e he t ht).imp_right .inl
  simp only [batchDurations, computeDurationsForBucket, queryAndTallyStateLogs, stateLogMs,
    foldl_addEntry, hseconds, sqlCycles_getD, zero_add, Option.map_none, Option.getD_none]

/-- A station that ran for half an hour and has been down since, for a planned reason. -/
def sampleLog : StateLog where
  rows := [⟨1, 2, 0, some 1800000, .up, none, 1, none, none, none⟩,
    ⟨2, 2, 1800000, none, .down, none, 1, some 9, none, none⟩]
  nodup := by decide
  noClash := by decide

theorem batchDurations_eq_sample :
    (batchDurations sampleLog [⟨9, true⟩] 2 0 3600000 2700000 (some 30) 2).toDurations
      = (computeDurationsForBucket sampleLog [⟨9, true⟩] 2 0 3600000 2700000 (some 30)
        2).toDurations :=
  batchDurations_eq (by decide : (sampleHour 0 0).isHourAt 2 60000 = true) (by decide) (by decide)
    [⟨9, true⟩] (some 30) 2

example : (batchDurations sampleLog [⟨9, true⟩] 2 0 3600000 2700000 (some 30) 2).toDurations
    = ⟨1800, 900, 900, 0, 1800, 60, 120, 90, 180⟩ := by
  decide +kernel

end RwServer
