import Mathlib
import RwServer.Metrics.JobRecompute
import RwServer.Metrics.JobTick

/-!
# The tick and the recomputation of a job

The hour of a job is written by `cascadeJobRollup` every few seconds, and by
`recomputeJobBucketsForRange` when a range is recomputed. With one entry of the job in the hour both
compute the same columns from the same tables, each in its own way: the tick counts deleted cycles,
rounds each cycle and the window of the job to seconds, ends at now and lets a length be negative,
and does without a standard cycle where the recomputation takes the one of the cycles.
`jobTick_agrees_iff` says exactly when the columns are the same.
-/

namespace RwServer

open Relational

namespace JobTickCall

variable (call : JobTickCall) (hour : BucketWindow) (log : JobLogRow)

/-- What the recomputation stores for the entry, at the same time. -/
def recomputed : BucketKPIs :=
  call.events.computeBucketFromEvents call.stationId hour.startTime hour.durationMs
    (some (toJobFilter ⟨log, call.events.queryItemsPerCycle log.jobId⟩)) call.vNow

/-! ## Where they differ -/

/-- The milliseconds of a sum in the time of the job, as the tick adds them up. -/
def stateMs (field : DurationField) : ℤ :=
  (((stateSlice call.events.db.stateLog call.stationId hour.startTime).filter
    (isInHour (jobStart hour log) (call.jobEnd hour log) call.vNow)).map fun e ↦
      if field.counts call.events.reasons e then
        epochMs (jobStart hour log) (call.jobEnd hour log) call.vNow e
      else 0).sum

/-- The seconds of a sum in the time of the job. -/
def stateSeconds (field : DurationField) : ℤ :=
  mathRound (call.events.activeMs call.stationId hour.startTime hour.endTime call.vNow field log
    / 1000)

/-- The time of the job in the hour, less the planned downtime. -/
def plannedProduction : ℚ :=
  (max 0 (call.jobEnd hour log - jobStart hour log) : ℤ) / 1000
    - call.stateSeconds hour log .plannedDown

def elapsedProduction : ℤ :=
  call.stateSeconds hour log .run + call.stateSeconds hour log .unplannedDown

/-- The standard cycles of the counted cycles, summed. -/
def idealSeconds : ℚ :=
  ((call.countedCycles hour log.jobId).map
    (idealSecondsOf call.events.db (some ⟨log.jobId, log.standardCycle⟩))).sum

/-- The mean standard cycle of the counted cycles. -/
def meanCycle : Option ℚ :=
  if 0 < (call.countedCycles hour log.jobId).length ∧ 0 < call.idealSeconds hour log then
    some (call.idealSeconds hour log / (call.countedCycles hour log.jobId).length)
  else none

/-- The time of the job is the same, and nothing is counted without any. -/
structure TimesMatch : Prop where
  active : jobStart hour log < call.jobEnd hour log ∨
    call.countedCycles hour log.jobId = [] ∧ call.badItems hour log.jobId = 0
  states : ∀ field, sqlRound (call.stateMs hour log field / 1000) = call.stateSeconds hour log field

/-- With a standard cycle, rounding it for each cycle and rounding the window change nothing, and
the quantities of the products add up to something where anything is expected. -/
structure StandardMatches (standardCycle : ℚ) : Prop where
  ideal : (call.countedCycles hour log.jobId).length * sqlRound standardCycle
    = mathRound ((call.countedCycles hour log.jobId).length * standardCycle)
  expected : ⌊(call.windowSeconds hour log - call.stateSeconds hour log .plannedDown : ℤ)
      / standardCycle⌋ = ⌊call.plannedProduction hour log / standardCycle⌋
  items : call.events.activeQuantities log.jobId = [] ∨
    0 < (call.events.activeQuantities log.jobId).sum ∨
      ⌊call.plannedProduction hour log / standardCycle⌋ = 0 ∧
        ⌊call.elapsedProduction hour log / standardCycle⌋ = 0

/-- Without a standard cycle, the ones of the cycles come to nothing. -/
structure MeanMatches : Prop where
  ideal : mathRound (call.idealSeconds hour log) = 0
  expected : cyclesIn (call.plannedProduction hour log) (call.meanCycle hour log) = 0
  elapsed : cyclesIn (call.elapsedProduction hour log) (call.meanCycle hour log) = 0

/-- The counts are the same. -/
structure CountsMatch : Prop where
  live : ∀ c ∈ call.countedCycles hour log.jobId, c.deletedAt = none
  lengths : ((call.countedCycles hour log.jobId).map cycleSeconds).sum
    = mathRound (((call.countedCycles hour log.jobId).map
        (clippedCycleMs hour.startTime hour.endTime)).sum / 1000)
  withStandard : ∀ s ∈ log.standardCycle, 0 < s → call.StandardMatches hour log s
  withoutStandard : (∀ s ∈ log.standardCycle, s ≤ 0) → call.MeanMatches hour log

/-! ## What the recomputation stores -/

/-- The cycles that the recomputation tallies. -/
def talliedCycles : List Cycle :=
  (call.countedCycles hour log.jobId).filter fun c ↦
    decide (jobStart hour log < call.jobEnd hour log) && c.deletedAt.isNone

/-- Their tally. -/
def cycleTally : CycleTally where
  totalCycles := (call.talliedCycles hour log).length
  totalItems := ((call.talliedCycles hour log).map fun c ↦ call.events.db.itemCount c.id).sum
  idealCycleSeconds := ((call.talliedCycles hour log).map
    (idealSecondsOf call.events.db (some ⟨log.jobId, log.standardCycle⟩))).sum
  totalCycleSeconds := mathRound (((call.talliedCycles hour log).map
    (clippedCycleMs hour.startTime hour.endTime)).sum / 1000)

def durationTally : DurationTally where
  runSeconds := call.stateSeconds hour log .run
  downSeconds := call.stateSeconds hour log .down
  plannedDownSeconds := call.stateSeconds hour log .plannedDown
  unplannedDownSeconds := call.stateSeconds hour log .unplannedDown

variable {call hour log}

theorem max_start_eq : max log.startTime hour.startTime = jobStart hour log := max_comm _ _

theorem min_end_eq : min (log.endTime.getD (min call.vNow hour.endTime)) hour.endTime
    = call.jobEnd hour log := by
  rw [jobEnd]
  cases log.endTime with
  | none =>
    exact (min_assoc call.vNow hour.endTime hour.endTime).trans
      ((congrArg (min call.vNow) (min_self hour.endTime)).trans (min_comm _ _))
  | some t => exact min_comm _ _

variable (call hour log) in
theorem resolveJobClip_eq (itemsPerCycle : ℤ) :
    resolveJobClip (toJobFilter ⟨log, itemsPerCycle⟩) hour.startTime hour.endTime call.vNow
      = if jobStart hour log < call.jobEnd hour log then
          some ⟨jobStart hour log, call.jobEnd hour log⟩
        else none := by
  rw [resolveJobClip]
  simp only [toJobFilter, max_start_eq, min_end_eq, ge_iff_le, ← not_lt, ite_not]

theorem stateSeconds_of_empty (hempty : ¬jobStart hour log < call.jobEnd hour log)
    (field : DurationField) : call.stateSeconds hour log field = 0 := by
  have hclip := (call.resolveJobClip_eq hour log 1).trans (if_neg hempty)
  rw [stateSeconds, JobRecomputeCall.activeMs_of_resolveJobClip_none hclip]
  norm_num [mathRound]

/-- With time of the job, the query of the cycles finds those that are tallied. -/
theorem cyclesInBucket_eq (hactive : jobStart hour log < call.jobEnd hour log)
    (standardCycle : Option ℚ) :
    cyclesInBucket call.events.db call.stationId hour.startTime hour.endTime
      (some ⟨log.jobId, standardCycle⟩) = call.talliedCycles hour log := by
  rw [cyclesInBucket, talliedCycles, countedCycles, List.filter_filter]
  refine List.filter_congr fun c _ ↦ ?_
  rw [endsInBucket, isCounted, decide_eq_true hactive, Option.all_some, Bool.true_and]
  ac_rfl

theorem cyclesIn_zero (standardCycle : Option ℚ) : cyclesIn 0 standardCycle = 0 := by
  cases standardCycle with
  | none => rfl
  | some s =>
    rw [cyclesIn]
    split_ifs
    · rw [zero_div, Int.floor_zero]
    · rfl

/-- Without time of the job nothing is tallied. -/
theorem bucketKpis_of_empty (hempty : ¬jobStart hour log < call.jobEnd hour log)
    (standardCycle : Option ℚ) (itemsPerCycle : ℤ) :
    (bucketKpis (call.cycleTally hour log) 0 (call.durationTally hour log)
      ((max 0 (call.jobEnd hour log - jobStart hour log) : ℤ) / 1000) standardCycle
        itemsPerCycle).additive = zeroKpis.additive := by
  have hcycles : call.talliedCycles hour log = [] := by
    rw [talliedCycles, decide_eq_false hempty]
    exact List.filter_false _
  have htally : call.cycleTally hour log = ⟨0, 0, 0, 0⟩ := by
    rw [cycleTally, hcycles]
    norm_num [mathRound]
  have hdurations : call.durationTally hour log = ⟨0, 0, 0, 0⟩ := by
    rw [durationTally]
    simp only [stateSeconds_of_empty hempty]
  have hspan : max 0 (call.jobEnd hour log - jobStart hour log) = 0 :=
    max_eq_left (Int.sub_nonpos_of_le (not_lt.mp hempty))
  rw [htally, hdurations, hspan]
  funext key
  cases key <;> simp [bucketKpis, zeroKpis, cyclesIn_zero, mathRound]

variable (call hour log) in
theorem recomputed_additive : (call.recomputed hour log).additive
    = (bucketKpis (call.cycleTally hour log)
        (if jobStart hour log < call.jobEnd hour log then call.badItems hour log.jobId else 0)
        (call.durationTally hour log)
        ((max 0 (call.jobEnd hour log - jobStart hour log) : ℤ) / 1000)
        (resolveStandardCycle
          (some (toJobFilter ⟨log, call.events.queryItemsPerCycle log.jobId⟩))
          (call.cycleTally hour log))
        (call.events.queryItemsPerCycle log.jobId)).additive := by
  have hclip := call.resolveJobClip_eq hour log (call.events.queryItemsPerCycle log.jobId)
  have hend : hour.startTime + hour.durationMs = hour.endTime := rfl
  rw [recomputed, JobEvents.computeBucketFromEvents]
  simp only [Option.isSome_some, true_and, Option.bind_some, hend, hclip]
  -- without a clip the recomputation stores zeros
  by_cases hactive : jobStart hour log < call.jobEnd hour log
  · rw [if_pos hactive] at hclip
    have hcycles : queryAndTallyCycles call.events.db call.stationId hour.startTime hour.endTime
        (some ⟨log.jobId, log.standardCycle⟩) = call.cycleTally hour log := by
      rw [queryAndTallyCycles_eq, cyclesInBucket_eq hactive]
      rfl
    have hdurations : queryAndTallyStateLogs call.events.db.stateLog call.events.reasons
        call.stationId hour.startTime hour.endTime call.vNow
        (some ⟨jobStart hour log, call.jobEnd hour log⟩) = call.durationTally hour log := by
      refine DurationTally.ext_get fun field ↦ ?_
      rw [queryAndTallyStateLogs_eq, DurationMs.get_tally,
        JobRecomputeCall.get_entriesMs_of_resolveJobClip hclip]
      cases field <;> rfl
    have hspan : max 0 (call.jobEnd hour log - jobStart hour log)
        = call.jobEnd hour log - jobStart hour log :=
      max_eq_right (Int.sub_nonneg_of_le hactive.le)
    rw [if_pos hactive, if_pos hactive, if_neg (Option.some_ne_none _), hdurations, hspan,
      ← hcycles]
    rfl
  · rw [if_neg hactive, if_neg hactive, if_pos rfl]
    exact (bucketKpis_of_empty hactive _ _).symm

/-! ## Column by column -/

theorem talliedCycles_eq_iff : call.talliedCycles hour log = call.countedCycles hour log.jobId ↔
    (jobStart hour log < call.jobEnd hour log ∨ call.countedCycles hour log.jobId = []) ∧
      ∀ c ∈ call.countedCycles hour log.jobId, c.deletedAt = none := by
  rw [talliedCycles, List.filter_eq_self]
  simp only [Bool.and_eq_true, decide_eq_true_eq, Option.isNone_iff_eq_none]
  constructor
  · refine fun h ↦ ⟨?_, fun c hc ↦ (h c hc).2⟩
    by_cases hnil : call.countedCycles hour log.jobId = []
    · exact .inr hnil
    · obtain ⟨c, hc⟩ := List.exists_mem_of_ne_nil _ hnil
      exact .inl (h c hc).1
  · rintro ⟨hactive | hnil, hlive⟩ c hc
    · exact ⟨hactive, hlive c hc⟩
    · exact absurd (hnil ▸ hc) List.not_mem_nil

theorem sumItemsPerCycle_eq_iff (e : JobEvents) (jobId : Uuid) :
    e.sumItemsPerCycle jobId = e.queryItemsPerCycle jobId ↔
      e.activeQuantities jobId = [] ∨ 0 < (e.activeQuantities jobId).sum := by
  rw [JobEvents.sumItemsPerCycle, JobEvents.queryItemsPerCycle]
  simp only [List.isEmpty_iff]
  by_cases hnil : e.activeQuantities jobId = []
  · simp [hnil]
  · simp only [hnil, if_false, false_or]
    split_ifs with hpos
    · exact iff_of_true rfl hpos
    · exact iff_of_false (by omega) hpos

theorem resolveStandardCycle_of_pos {s : ℚ} (hs : log.standardCycle = some s) (hpos : 0 < s)
    (itemsPerCycle : ℤ) (tally : CycleTally) :
    resolveStandardCycle (some (toJobFilter ⟨log, itemsPerCycle⟩)) tally = some s := by
  have hfilter : ((some (toJobFilter ⟨log, itemsPerCycle⟩)).bind
      fun f ↦ f.standardCycle).filter (fun s ↦ decide (0 < s)) = some s := by
    rw [Option.bind_some, toJobFilter, hs, Option.filter_some, if_pos (decide_eq_true hpos)]
  rw [resolveStandardCycle, hfilter]

theorem resolveStandardCycle_of_nonpos (hs : ∀ s ∈ log.standardCycle, s ≤ 0)
    (htallied : call.talliedCycles hour log = call.countedCycles hour log.jobId)
    (itemsPerCycle : ℤ) :
    resolveStandardCycle (some (toJobFilter ⟨log, itemsPerCycle⟩)) (call.cycleTally hour log)
      = call.meanCycle hour log := by
  have hfilter : ((some (toJobFilter ⟨log, itemsPerCycle⟩)).bind
      fun f ↦ f.standardCycle).filter (fun s ↦ decide (0 < s)) = none := by
    rw [Option.bind_some, toJobFilter, Option.filter_eq_none_iff]
    exact fun s h ↦ by rw [decide_eq_true_eq]; exact not_lt.mpr (hs s h)
  rw [resolveStandardCycle, hfilter, meanCycle, cycleTally, htallied, idealSeconds]
  simp only [Int.natCast_pos, Int.cast_natCast]

/-- The columns that the standard cycle enters. -/
def standardKeys : List KpiKey :=
  [.idealCycleSeconds, .expectedCycles, .expectedItems, .elapsedExpectedCycles,
    .elapsedExpectedItems]

/-- Items are expected for expected cycles, at a rate of each side. -/
theorem standardKeys_iff : (∀ key ∈ standardKeys,
      (call.hourKpis hour log).additive key = (call.recomputed hour log).additive key) ↔
    ((call.hourKpis hour log).additive .idealCycleSeconds
        = (call.recomputed hour log).additive .idealCycleSeconds ∧
      (call.hourKpis hour log).additive .expectedCycles
        = (call.recomputed hour log).additive .expectedCycles ∧
      (call.hourKpis hour log).additive .elapsedExpectedCycles
        = (call.recomputed hour log).additive .elapsedExpectedCycles) ∧
    ((call.events.activeQuantities log.jobId = [] ∨
        0 < (call.events.activeQuantities log.jobId).sum) ∨
      (call.recomputed hour log).additive .expectedCycles = 0 ∧
        (call.recomputed hour log).additive .elapsedExpectedCycles = 0) := by
  have hitems : (call.hourKpis hour log).additive .expectedItems
        = (call.hourKpis hour log).additive .expectedCycles
          * call.events.sumItemsPerCycle log.jobId ∧
      (call.hourKpis hour log).additive .elapsedExpectedItems
        = (call.hourKpis hour log).additive .elapsedExpectedCycles
          * call.events.sumItemsPerCycle log.jobId :=
    ⟨rfl, rfl⟩
  have hitems' : (call.recomputed hour log).additive .expectedItems
        = (call.recomputed hour log).additive .expectedCycles
          * call.events.queryItemsPerCycle log.jobId ∧
      (call.recomputed hour log).additive .elapsedExpectedItems
        = (call.recomputed hour log).additive .elapsedExpectedCycles
          * call.events.queryItemsPerCycle log.jobId := by
    rw [recomputed_additive]
    exact ⟨rfl, rfl⟩
  simp only [standardKeys, List.forall_mem_cons, List.not_mem_nil, false_imp_iff, implies_true,
    and_true]
  rw [hitems.1, hitems.2, hitems'.1, hitems'.2, ← sumItemsPerCycle_eq_iff]
  constructor
  · rintro ⟨hideal, hexpected, hexpectedItems, helapsed, helapsedItems⟩
    rw [hexpected, mul_eq_mul_left_iff] at hexpectedItems
    rw [helapsed, mul_eq_mul_left_iff] at helapsedItems
    tauto
  · rintro ⟨⟨hideal, hexpected, helapsed⟩, hrate | ⟨hexpected₀, helapsed₀⟩⟩
    · rw [hexpected, helapsed, hrate]
      exact ⟨hideal, rfl, rfl, rfl, rfl⟩
    · rw [hexpected, helapsed, hexpected₀, helapsed₀, zero_mul, zero_mul]
      exact ⟨hideal, rfl, rfl, rfl, rfl⟩

theorem jobDur_eq (hstates : ∀ field, sqlRound (call.stateMs hour log field / 1000)
      = call.stateSeconds hour log field) :
    call.jobDur hour log = ⟨call.stateSeconds hour log .run, call.stateSeconds hour log .down,
      call.stateSeconds hour log .plannedDown, call.stateSeconds hour log .unplannedDown⟩ := by
  rw [← hstates, ← hstates, ← hstates, ← hstates]
  rfl

theorem hourKpis_standard (hstates : ∀ field, sqlRound (call.stateMs hour log field / 1000)
      = call.stateSeconds hour log field) :
    (call.hourKpis hour log).additive .expectedCycles
        = cyclesIn (call.windowSeconds hour log - call.stateSeconds hour log .plannedDown : ℤ)
          log.standardCycle ∧
      (call.hourKpis hour log).additive .elapsedExpectedCycles
        = cyclesIn (call.elapsedProduction hour log) log.standardCycle := by
  rw [← sqlCycles_getD, ← sqlCycles_getD, hourKpis, jobDur_eq hstates]
  exact ⟨rfl, rfl⟩

theorem recomputed_standard
    (htallied : call.talliedCycles hour log = call.countedCycles hour log.jobId)
    {standardCycle : Option ℚ} (hs : resolveStandardCycle
      (some (toJobFilter ⟨log, call.events.queryItemsPerCycle log.jobId⟩))
        (call.cycleTally hour log) = standardCycle) :
    (call.recomputed hour log).additive .idealCycleSeconds
        = mathRound (call.idealSeconds hour log) ∧
      (call.recomputed hour log).additive .expectedCycles
        = cyclesIn (call.plannedProduction hour log) standardCycle ∧
      (call.recomputed hour log).additive .elapsedExpectedCycles
        = cyclesIn (call.elapsedProduction hour log) standardCycle := by
  rw [recomputed_additive, hs, idealSeconds, ← htallied]
  exact ⟨rfl, rfl, rfl⟩

theorem cyclesIn_of_pos {s : ℚ} (hpos : 0 < s) (seconds : ℚ) :
    cyclesIn seconds (some s) = ⌊seconds / s⌋ := if_pos hpos

theorem cyclesIn_of_nonpos {standardCycle : Option ℚ} (hs : ∀ s ∈ standardCycle, s ≤ 0)
    (seconds : ℚ) : cyclesIn seconds standardCycle = 0 := by
  cases standardCycle with
  | none => rfl
  | some s => exact if_neg (hs s rfl).not_gt

/-- With a standard cycle the columns that it enters agree iff rounding it does not matter. -/
theorem standardMatches_iff
    (htallied : call.talliedCycles hour log = call.countedCycles hour log.jobId)
    (hstates : ∀ field, sqlRound (call.stateMs hour log field / 1000)
      = call.stateSeconds hour log field)
    {s : ℚ} (hs : log.standardCycle = some s) (hpos : 0 < s) :
    (∀ key ∈ standardKeys,
      (call.hourKpis hour log).additive key = (call.recomputed hour log).additive key) ↔
    call.StandardMatches hour log s := by
  have hideal : (call.hourKpis hour log).additive .idealCycleSeconds
      = (call.countedCycles hour log.jobId).length * sqlRound s := by
    have hsum : (call.hourKpis hour log).additive .idealCycleSeconds
        = ((call.countedCycles hour log.jobId).map fun _ ↦ (log.standardCycle.map fun s ↦
          if 0 < s then sqlRound s else 0).getD 0).sum := rfl
    rw [hsum, hs]
    simp [hpos]
  have hsum : call.idealSeconds hour log = (call.countedCycles hour log.jobId).length * s := by
    have hconst : idealSecondsOf call.events.db (some ⟨log.jobId, some s⟩) = fun _ ↦ s := rfl
    rw [idealSeconds, hs, hconst, List.map_const', List.sum_replicate, nsmul_eq_mul]
  obtain ⟨hexpected, helapsed⟩ := hourKpis_standard hstates
  obtain ⟨hideal', hexpected', helapsed'⟩ :=
    recomputed_standard htallied (resolveStandardCycle_of_pos hs hpos _ _)
  rw [hs, cyclesIn_of_pos hpos] at hexpected helapsed
  rw [cyclesIn_of_pos hpos] at hexpected' helapsed'
  rw [standardKeys_iff, hideal, hexpected, helapsed, hideal', hexpected', helapsed', hsum, or_assoc]
  constructor
  · rintro ⟨⟨hideal, hexpected, -⟩, hitems⟩
    exact ⟨hideal, hexpected, hitems⟩
  · rintro ⟨hideal, hexpected, hitems⟩
    exact ⟨⟨hideal, hexpected, rfl⟩, hitems⟩

/-- Without a standard cycle they agree iff the mean of the cycles yields nothing. -/
theorem meanMatches_iff
    (htallied : call.talliedCycles hour log = call.countedCycles hour log.jobId)
    (hstates : ∀ field, sqlRound (call.stateMs hour log field / 1000)
      = call.stateSeconds hour log field)
    (hs : ∀ s ∈ log.standardCycle, s ≤ 0) :
    (∀ key ∈ standardKeys,
      (call.hourKpis hour log).additive key = (call.recomputed hour log).additive key) ↔
    call.MeanMatches hour log := by
  have hideal : (call.hourKpis hour log).additive .idealCycleSeconds = 0 := by
    have hsum : (call.hourKpis hour log).additive .idealCycleSeconds
        = ((call.countedCycles hour log.jobId).map fun _ ↦ (log.standardCycle.map fun s ↦
          if 0 < s then sqlRound s else 0).getD 0).sum := rfl
    rw [hsum]
    refine List.sum_eq_zero fun seconds hseconds ↦ ?_
    obtain ⟨c, -, rfl⟩ := List.mem_map.mp hseconds
    cases hlog : log.standardCycle with
    | none => rfl
    | some s => exact if_neg (hs s hlog).not_gt
  obtain ⟨hexpected, helapsed⟩ := hourKpis_standard hstates
  obtain ⟨hideal', hexpected', helapsed'⟩ :=
    recomputed_standard htallied (resolveStandardCycle_of_nonpos hs htallied _)
  rw [cyclesIn_of_nonpos hs] at hexpected helapsed
  rw [standardKeys_iff, hideal, hexpected, helapsed, hideal', hexpected', helapsed']
  constructor
  · rintro ⟨⟨hideal, hexpected, helapsed⟩, -⟩
    exact ⟨hideal.symm, hexpected.symm, helapsed.symm⟩
  · rintro ⟨hideal, hexpected, helapsed⟩
    exact ⟨⟨hideal.symm, hexpected.symm, helapsed.symm⟩, .inr ⟨hexpected, helapsed⟩⟩

/-- The column of a sum. -/
def stateKey : DurationField → KpiKey
  | .run => .runSeconds
  | .down => .downSeconds
  | .plannedDown => .plannedDownSeconds
  | .unplannedDown => .unplannedDownSeconds

theorem hourKpis_state (field : DurationField) :
    (call.hourKpis hour log).additive (stateKey field)
      = sqlRound (call.stateMs hour log field / 1000) := by
  cases field <;> rfl

theorem recomputed_state (field : DurationField) :
    (call.recomputed hour log).additive (stateKey field) = call.stateSeconds hour log field := by
  rw [recomputed_additive]
  cases field <;> rfl

theorem recomputed_badItems : (call.recomputed hour log).additive .badItems
    = if jobStart hour log < call.jobEnd hour log then call.badItems hour log.jobId else 0 := by
  rw [recomputed_additive]
  rfl

/-- What the recomputation counts where it tallies the counted cycles. -/
theorem recomputed_counts
    (htallied : call.talliedCycles hour log = call.countedCycles hour log.jobId) :
    (call.recomputed hour log).additive .totalCycles
        = (call.hourKpis hour log).additive .totalCycles ∧
      (call.recomputed hour log).additive .totalItems
        = (call.hourKpis hour log).additive .totalItems ∧
      (call.recomputed hour log).additive .totalCycleSeconds
        = mathRound (((call.countedCycles hour log.jobId).map
            (clippedCycleMs hour.startTime hour.endTime)).sum / 1000) := by
  rw [recomputed_additive, hourKpis, cycleStats, ← htallied]
  exact ⟨rfl, rfl, rfl⟩

/-- **Column by column**: the tick and the recomputation have the same values iff the time of the
job and the counts are the same. -/
theorem additive_eq_iff : (∀ key,
      (call.hourKpis hour log).additive key = (call.recomputed hour log).additive key) ↔
    call.TimesMatch hour log ∧ call.CountsMatch hour log := by
  constructor
  · intro h
    -- the tallied cycles are among the counted ones, so as many are the same
    have hlength : ((call.countedCycles hour log.jobId).length : ℤ)
        = (call.talliedCycles hour log).length :=
      (h .totalCycles).trans (congrFun (call.recomputed_additive hour log) .totalCycles)
    have htallied : call.talliedCycles hour log = call.countedCycles hour log.jobId :=
      List.filter_sublist.eq_of_length (Int.natCast_inj.mp hlength).symm
    obtain ⟨hactive, hlive⟩ := talliedCycles_eq_iff.mp htallied
    have hstates : ∀ field, sqlRound (call.stateMs hour log field / 1000)
        = call.stateSeconds hour log field := fun field ↦
      (hourKpis_state field).symm.trans ((h (stateKey field)).trans (recomputed_state field))
    refine ⟨⟨?_, hstates⟩, hlive, ?_, fun s hs hpos ↦ ?_, fun hs ↦ ?_⟩
    · by_cases hempty : jobStart hour log < call.jobEnd hour log
      · exact .inl hempty
      · refine .inr ⟨hactive.resolve_left hempty, ?_⟩
        exact (h .badItems).trans (recomputed_badItems.trans (if_neg hempty))
    · exact (h .totalCycleSeconds).trans (recomputed_counts htallied).2.2
    · exact (standardMatches_iff htallied hstates hs hpos).mp fun key _ ↦ h key
    · exact (meanMatches_iff htallied hstates hs).mp fun key _ ↦ h key
  · rintro ⟨⟨hactive, hstates⟩, hlive, hlengths, hwith, hwithout⟩
    have htallied := talliedCycles_eq_iff.mpr ⟨hactive.imp_right And.left, hlive⟩
    obtain ⟨hcycles, hitems, hseconds⟩ := recomputed_counts htallied
    have hstate : ∀ field, (call.hourKpis hour log).additive (stateKey field)
        = (call.recomputed hour log).additive (stateKey field) := fun field ↦
      (hourKpis_state field).trans ((hstates field).trans (recomputed_state field).symm)
    have hstandard : ∀ key ∈ standardKeys,
        (call.hourKpis hour log).additive key = (call.recomputed hour log).additive key := by
      by_cases hs : ∃ s, log.standardCycle = some s ∧ 0 < s
      · obtain ⟨s, hs, hpos⟩ := hs
        exact (standardMatches_iff htallied hstates hs hpos).mpr (hwith s hs hpos)
      · have hs : ∀ s ∈ log.standardCycle, s ≤ 0 := fun s h ↦ not_lt.mp fun hpos ↦ hs ⟨s, h, hpos⟩
        exact (meanMatches_iff htallied hstates hs).mpr (hwithout hs)
    have hbad : call.badItems hour log.jobId = (call.recomputed hour log).additive .badItems := by
      rw [recomputed_badItems]
      split_ifs with hactive'
      · rfl
      · exact (hactive.resolve_left hactive').2
    intro key
    cases key with
    | totalCycles => exact hcycles.symm
    | badCycles => exact (congrFun (call.recomputed_additive hour log) .badCycles).symm
    | totalItems => exact hitems.symm
    | badItems => exact hbad
    | expectedCycles => exact hstandard _ (by decide)
    | expectedItems => exact hstandard _ (by decide)
    | runSeconds => exact hstate .run
    | downSeconds => exact hstate .down
    | plannedDownSeconds => exact hstate .plannedDown
    | unplannedDownSeconds => exact hstate .unplannedDown
    | idealCycleSeconds => exact hstandard _ (by decide)
    | totalCycleSeconds => exact hlengths.trans hseconds.symm
    | elapsedExpectedCycles => exact hstandard _ (by decide)
    | elapsedExpectedItems => exact hstandard _ (by decide)
    | elapsedPlannedProductionSeconds =>
      exact (congrArg₂ (· + ·) (hstates .run) (hstates .unplannedDown)).trans
        (congrFun (call.recomputed_additive hour log) .elapsedPlannedProductionSeconds).symm

/-! ## Where the time is the same -/

variable (call hour log) in
/-- The job has time in the hour and has begun, and each entry of the state log that is over ends
after its start, and by now if the time of the job does not. -/
structure Regular : Prop where
  active : jobStart hour log < call.jobEnd hour log
  started : jobStart hour log ≤ call.vNow
  closed : ∀ e ∈ call.events.db.stateLog.live call.stationId, ∀ t ∈ e.endTime,
    e.startTime ≤ t ∧ (t ≤ call.vNow ∨ call.jobEnd hour log ≤ call.vNow)

/-- The rows of the hour and those of a later start are the same ones, as far as they are in the
time from then on. -/
theorem filter_stateSlice (stateLog : StateLog) (stationId : Uuid) {lo start stop now : Time}
    (hlo : lo ≤ start) : (stateSlice stateLog stationId lo).filter (isInHour start stop now)
      = (stateSlice stateLog stationId start).filter (isInHour start stop now) := by
  rw [stateSlice, stateSlice, List.filter_append, List.filter_append, List.filter_filter,
    List.filter_filter, List.filter_filter]
  congr 1
  refine List.filter_congr fun e _ ↦ ?_
  rw [isInHour]
  cases e.endTime with
  | none => rfl
  | some t =>
    simp only [Option.any_some, Option.all_some]
    -- an entry that ends by the later start is in neither selection
    by_cases ht : start < t
    · rw [decide_eq_true (hlo.trans ht.le), decide_eq_true ht.le]
    · rw [decide_eq_false ht, Bool.and_false, Bool.false_and, Bool.false_and]

theorem sum_stateLogsInBucket (reasons : List StatusReason) (stateLog : StateLog)
    (stationId : Uuid) (lo hi now : Time) (field : DurationField) :
    ((stateLogsInBucket stateLog stationId lo hi).map
        (caseMs (field.counts reasons) lo hi now)).sum
      = ((stateLog.live stationId).map (caseMs (field.counts reasons) lo hi now)).sum := by
  have hget : (entriesMs reasons (stateLog.live stationId) lo hi now none).get field
      = ((stateLog.live stationId).map (caseMs (field.counts reasons) lo hi now)).sum :=
    get_entriesMs (clipInBucket_none lo hi) field
  rw [entriesMs, foldl_addEntry] at hget
  refine Eq.trans ?_ hget
  cases field <;> exact (zero_add _).symm

/-- **The time of the job is the same** as long as no entry ends in the future or before its
start. -/
theorem timesMatch_of_regular (h : call.Regular hour log) : call.TimesMatch hour log where
  active := .inl h.active
  states field := by
    have hactive : call.events.activeMs call.stationId hour.startTime hour.endTime call.vNow field
        log = ((call.events.db.stateLog.live call.stationId).map (caseMs
          (field.counts call.events.reasons) (jobStart hour log) (call.jobEnd hour log)
            call.vNow)).sum := by
      rw [JobEvents.activeMs, max_start_eq, min_end_eq]
    have hseconds := durSeconds_eq h.active h.started h.closed
      (field.counts call.events.reasons)
    have hstart : hour.startTime ≤ jobStart hour log := le_max_left _ _
    rw [stateSeconds, hactive, ← sum_stateLogsInBucket, ← hseconds, stateMs,
      filter_stateSlice _ _ hstart]
    rfl

/-! ## The rows -/

/-- The columns of the row of the hour that a tick writes. -/
def Writes (call : JobTickCall) (live : Table bucketRowSchema) (hour : BucketWindow) (jobId : Uuid)
    (key : KpiKey) : Prop :=
  key ≠ .badCycles ∨ live.find (call.jobHourKey hour jobId) = none

/-- A tick leaves the values of the hour in its row. -/
theorem find_cascadeJobRollup {f : Facility} {live : Table bucketRowSchema} {bucket : BucketRow}
    (hlog : call.activeJob bucket.bucketWindow = some log) :
    ∃ r, (cascadeJobRollup f call live (some bucket)).find
        (call.jobHourKey bucket.bucketWindow log.jobId) = some r ∧
      ∀ key, call.Writes live bucket.bucketWindow log.jobId key →
        r.kpis.additive key = (call.hourKpis bucket.bucketWindow log).additive key := by
  generalize hhour : bucket.bucketWindow = hour at hlog
  have hrow : (cascadeJobRollup f call live (some bucket)).find (call.jobHourKey hour log.jobId)
      = (call.upsertJobHour f hour live log).find (call.jobHourKey hour log.jobId) := by
    rw [cascadeJobRollup, Option.elim_some]
    dsimp only
    rw [hhour, hlog, Option.elim_some]
    -- the row of a shift has another key
    cases call.shiftInfo f hour with
    | none => rfl
    | some shift =>
      rw [Option.elim_some, upsertJobShift]
      split_ifs
      · rfl
      · exact find_upsertRow_of_ne fun h ↦
          BucketGranularity.noConfusion (congrArg BucketKey.granularity h)
  rw [hrow]
  cases hfind : live.find (call.jobHourKey hour log.jobId) with
  | none =>
    exact ⟨_, find_upsertRow_of_none hfind, fun _ _ ↦ rfl⟩
  | some r =>
    refine ⟨_, find_upsertRow_of_some hfind, fun key hkey ↦ if_neg (hkey.resolve_right ?_)⟩
    rw [hfind]
    exact Option.some_ne_none r

end JobTickCall

/-! ## The entry of the job -/

namespace JobRecomputeCall

variable {call : JobRecomputeCall} {bucket : BucketWindow} {log : JobLogRow}

/-- The range of a call contains its buckets. -/
theorem bucket_in_range (hb : bucket ∈ call.baseBuckets) :
    call.rangeStart ≤ bucket.startTime ∧ bucket.endTime ≤ call.rangeEnd := by
  have hne := List.ne_nil_of_mem hb
  have hstart : call.baseBuckets.map BucketWindow.startTime ≠ [] := mt List.map_eq_nil_iff.mp hne
  have hend : call.baseBuckets.map BucketWindow.endTime ≠ [] := mt List.map_eq_nil_iff.mp hne
  rw [rangeStart, rangeEnd, List.min?_eq_some_min hstart, List.max?_eq_some_max hend]
  exact ⟨List.min_le_of_mem (List.mem_map_of_mem hb), List.le_max_of_mem (List.mem_map_of_mem hb)⟩

/-- Where one entry of a job overlaps a bucket, it is the one for which the bucket is recomputed. -/
theorem logsOf_eq_singleton (hb : bucket ∈ call.baseBuckets)
    (hone : call.events.jobLogs.filter (fun l ↦ l.jobId == log.jobId &&
      l.isActiveIn call.stationId bucket.startTime bucket.endTime) = [log])
    (hbegun : log.endTime = none → bucket.startTime < call.now) :
    call.logsOf log.jobId bucket = [⟨log, call.events.queryItemsPerCycle log.jobId⟩] := by
  obtain ⟨hlo, hhi⟩ := bucket_in_range hb
  have hsame : ∀ l : JobLogRow,
      (l.jobId == log.jobId && call.overlaps ⟨l, call.events.queryItemsPerCycle l.jobId⟩ bucket &&
        l.isActiveIn call.stationId call.rangeStart call.rangeEnd)
      = ((l.endTime.isSome || decide (bucket.startTime < call.now)) && (l.jobId == log.jobId &&
        l.isActiveIn call.stationId bucket.startTime bucket.endTime)) := by
    intro l
    rw [overlaps, JobLogRow.isActiveIn, JobLogRow.isActiveIn, Bool.eq_iff_iff]
    have hstop : l.startTime < bucket.endTime → l.startTime < call.rangeEnd := (·.trans_le hhi)
    cases l.endTime with
    | none =>
      simp only [Bool.and_eq_true, decide_eq_true_eq, Option.getD_none, Option.all_none,
        Option.isSome_none, Bool.false_or]
      tauto
    | some t =>
      have hstart : bucket.startTime < t → call.rangeStart < t := hlo.trans_lt
      simp only [Bool.and_eq_true, decide_eq_true_eq, Option.getD_some, Option.all_some,
        Option.isSome_some, Bool.true_or]
      tauto
  have hself : (log.endTime.isSome || decide (bucket.startTime < call.now)) = true := by
    cases hend : log.endTime with
    | none => exact decide_eq_true (hbegun hend)
    | some t => rfl
  -- the query of the range finds the entry, and the check of the bucket leaves no other
  have hfilter : (call.events.jobLogs.filter (JobLogRow.isActiveIn call.stationId call.rangeStart
      call.rangeEnd)).filter (fun l ↦ l.jobId == log.jobId &&
        call.overlaps ⟨l, call.events.queryItemsPerCycle l.jobId⟩ bucket) = [log] := by
    rw [List.filter_filter, List.filter_congr fun l _ ↦ hsame l, ← List.filter_filter, hone,
      List.filter_singleton, hself]
    rfl
  rw [logsOf, jobLogs, JobEvents.getActiveJobLogsForRange, List.filter_map]
  exact congrArg _ (filter_orderBy_eq_singleton hfilter)

end JobRecomputeCall

/-! ## Both rows -/

/-- A tick and a recomputation of a station that read the same tables at the same time. -/
structure SameReads (tick : JobTickCall) (call : JobRecomputeCall) : Prop where
  stationId : tick.stationId = call.stationId
  events : tick.events = call.events
  jobEntityId : tick.jobEntityId = call.jobEntityId
  now : tick.vNow = call.now

/-- **The tick of a job agrees with its recomputation** iff the time of the job and the counts are
the same; where the state log is regular, iff the counts are. -/
theorem jobTick_agrees_iff {f : Facility} {tick : JobTickCall} {call : JobRecomputeCall}
    {live : Table bucketRowSchema} {t : BucketTables} {bucket : BucketRow} {log : JobLogRow}
    (hreads : SameReads tick call)
    (hids : ∀ l ∈ call.events.jobLogs, call.jobEntityId call.stationId l.jobId
      = call.jobEntityId call.stationId log.jobId → l.jobId = log.jobId)
    (hstarts : (call.baseBuckets.map BucketWindow.startTime).Nodup)
    (hb : bucket.bucketWindow ∈ call.baseBuckets)
    (hone : call.events.jobLogs.filter (fun l ↦ l.jobId == log.jobId &&
      l.isActiveIn call.stationId bucket.startTime bucket.endTime) = [log])
    (hlatest : tick.activeJob bucket.bucketWindow = some log)
    (hbegun : log.endTime = none → bucket.startTime < call.now) :
    ∃ r r', (cascadeJobRollup f tick live (some bucket)).find
        (tick.jobHourKey bucket.bucketWindow log.jobId) = some r ∧
      (recomputeJobBucketsForRange f call t).live.find
        (call.keyOf log.jobId bucket.startTime) = some r' ∧
      ((∀ key, tick.Writes live bucket.bucketWindow log.jobId key →
          r.kpis.additive key = r'.kpis.additive key) ↔
        tick.TimesMatch bucket.bucketWindow log ∧ tick.CountsMatch bucket.bucketWindow log) ∧
      (tick.Regular bucket.bucketWindow log →
        ((∀ key, tick.Writes live bucket.bucketWindow log.jobId key →
          r.kpis.additive key = r'.kpis.additive key) ↔
        tick.CountsMatch bucket.bucketWindow log)) := by
  have hlast : (call.logsOf log.jobId bucket.bucketWindow).getLast?
      = some ⟨log, call.events.queryItemsPerCycle log.jobId⟩ :=
    congrArg List.getLast? (JobRecomputeCall.logsOf_eq_singleton hb hone hbegun)
  obtain ⟨r, hr, hvalues⟩ : ∃ r, (cascadeJobRollup f tick live (some bucket)).find
        (tick.jobHourKey bucket.bucketWindow log.jobId) = some r ∧
      ∀ key, tick.Writes live bucket.bucketWindow log.jobId key →
        r.kpis.additive key = (tick.hourKpis bucket.bucketWindow log).additive key :=
    JobTickCall.find_cascadeJobRollup hlatest
  obtain ⟨r', hr', hvalues'⟩ := find_recomputeJobBucketsForRange (f := f) (t := t) hids hstarts hb
    hlast
  have hrecomputed : r'.kpis.additive = (tick.recomputed bucket.bucketWindow log).additive := by
    rw [hvalues', JobTickCall.recomputed, hreads.events, hreads.stationId, hreads.now]
    rfl
  have hiff : (∀ key, tick.Writes live bucket.bucketWindow log.jobId key →
      r.kpis.additive key = r'.kpis.additive key) ↔
        tick.TimesMatch bucket.bucketWindow log ∧ tick.CountsMatch bucket.bucketWindow log := by
    rw [← JobTickCall.additive_eq_iff, hrecomputed]
    constructor
    -- the bad cycles are zero on both sides, whether they are written or not
    · intro h key
      by_cases hkey : key = .badCycles
      · subst hkey
        exact (congrFun (tick.recomputed_additive bucket.bucketWindow log) .badCycles).symm
      · exact (hvalues key (.inl hkey)).symm.trans (h key (.inl hkey))
    · exact fun h key hkey ↦ (hvalues key hkey).trans (h key)
  refine ⟨r, r', hr, hr', hiff, fun hregular ↦ hiff.trans ?_⟩
  exact and_iff_right (JobTickCall.timesMatch_of_regular hregular)

/-! ### A deleted cycle -/

/-- An entry of a job that began with the hour. -/
def openJobLog : JobLogRow := ⟨⟨⟨2, 0, none, 1⟩, 1, 7⟩, some (62 / 5)⟩

/-- The job has three cycles, one of which has been deleted. -/
def deletedCycle : JobEvents where
  db :=
    { (default : Database) with
      stateLog := sampleLog
      cycles := ⟨[⟨1, 2, 600000, some 612400, 1, none⟩, ⟨2, 2, 612400, some 624800, 1, none⟩,
        ⟨3, 2, 624800, some 637200, 1, some 2000000⟩], by decide, by decide⟩
      jobBlobs := [⟨1, 7, some (62 / 5)⟩] }
  reasons := [⟨9, true⟩]
  dispositions := []
  productBlobs := []
  jobLogs := [openJobLog]

/-- A tick after three quarters of the hour. -/
def deletedCycleTick : JobTickCall where
  stationId := 2
  siteId := 1
  timestamp := 2700000
  events := deletedCycle
  jobEntityId := Nat.pair
  blobName _ := some "Housing"
  vNow := 2700000

/-- The recomputation of the hour at the same time. -/
def deletedCycleRecompute : JobRecomputeCall where
  stationId := 2
  siteId := 1
  baseBuckets := [⟨0, 3600000⟩]
  timezone := (oneShiftFacility 0 28800000).siteTimezone 1
  businessDate := some 0
  businessShift := some "Early"
  events := deletedCycle
  jobEntityId := Nat.pair
  jobName _ := "Housing"
  now := 2700000

/-- An hour of the station. -/
def stationHour : Table bucketRowSchema := insertBuckets (.empty _) [sampleHour 0 0]

/-- The rows after the tick. -/
def deletedCycleTicked : Table bucketRowSchema :=
  cascadeJobRollup (oneShiftFacility 0 28800000) deletedCycleTick stationHour
    (some (sampleHour 0 0))

/-- The rows after the recomputation. -/
def deletedCycleRecomputed : Table bucketRowSchema :=
  (recomputeJobBucketsForRange (oneShiftFacility 0 28800000) deletedCycleRecompute default).live

theorem jobTick_agrees_deletedCycle : ∃ r r',
    deletedCycleTicked.find (deletedCycleTick.jobHourKey ⟨0, 3600000⟩ 7) = some r ∧
    deletedCycleRecomputed.find (deletedCycleRecompute.keyOf 7 0) = some r' ∧
    ((∀ key, deletedCycleTick.Writes stationHour ⟨0, 3600000⟩ 7 key →
        r.kpis.additive key = r'.kpis.additive key) ↔
      deletedCycleTick.TimesMatch ⟨0, 3600000⟩ openJobLog ∧
        deletedCycleTick.CountsMatch ⟨0, 3600000⟩ openJobLog) := by
  have hreads : SameReads deletedCycleTick deletedCycleRecompute := ⟨rfl, rfl, rfl, rfl⟩
  have hids : ∀ l ∈ deletedCycleRecompute.events.jobLogs,
      deletedCycleRecompute.jobEntityId deletedCycleRecompute.stationId l.jobId
        = deletedCycleRecompute.jobEntityId deletedCycleRecompute.stationId openJobLog.jobId →
      l.jobId = openJobLog.jobId := by
    decide +kernel
  have hone : deletedCycleRecompute.events.jobLogs.filter (fun l ↦ l.jobId == openJobLog.jobId &&
      l.isActiveIn deletedCycleRecompute.stationId (sampleHour 0 0).startTime
        (sampleHour 0 0).endTime) = [openJobLog] := by
    decide +kernel
  have hlatest : deletedCycleTick.activeJob (sampleHour 0 0).bucketWindow = some openJobLog := by
    decide +kernel
  obtain ⟨r, r', hr, hr', hiff, -⟩ := jobTick_agrees_iff hreads hids (by decide)
    List.mem_cons_self hone hlatest (by decide)
  exact ⟨r, r', hr, hr', hiff⟩

/-- The tick counts the deleted cycle, and rounds the standard cycle of each. -/
theorem not_jobTick_agrees : ∃ r r',
    deletedCycleTicked.find (deletedCycleTick.jobHourKey ⟨0, 3600000⟩ 7) = some r ∧
    deletedCycleRecomputed.find (deletedCycleRecompute.keyOf 7 0) = some r' ∧
    (r.kpis.additive .totalCycles = 3 ∧ r.kpis.additive .idealCycleSeconds = 36) ∧
    (r'.kpis.additive .totalCycles = 2 ∧ r'.kpis.additive .idealCycleSeconds = 25) ∧
    ¬∀ key, deletedCycleTick.Writes stationHour ⟨0, 3600000⟩ 7 key →
      r.kpis.additive key = r'.kpis.additive key := by
  have hticked : (deletedCycleTicked.find (deletedCycleTick.jobHourKey ⟨0, 3600000⟩ 7)).any
      (fun r ↦ decide (r.kpis.additive .totalCycles = 3 ∧
        r.kpis.additive .idealCycleSeconds = 36)) = true := by
    decide +kernel
  have hrecomputed : (deletedCycleRecomputed.find (deletedCycleRecompute.keyOf 7 0)).any
      (fun r ↦ decide (r.kpis.additive .totalCycles = 2 ∧
        r.kpis.additive .idealCycleSeconds = 25)) = true := by
    decide +kernel
  obtain ⟨r, hr, hthree⟩ := (Option.any_eq_true _ _).mp hticked
  obtain ⟨r', hr', htwo⟩ := (Option.any_eq_true _ _).mp hrecomputed
  have hthree := of_decide_eq_true hthree
  have htwo := of_decide_eq_true htwo
  refine ⟨r, r', hr, hr', hthree, htwo, fun h ↦ ?_⟩
  have hcycles := hthree.1.symm.trans ((h .totalCycles (.inl (by decide))).trans htwo.1)
  exact absurd hcycles (by decide)

end RwServer
