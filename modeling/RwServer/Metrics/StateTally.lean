import Mathlib
import RwServer.Station.StateLog

/-!
# The duration tally of a metric bucket

`queryAndTallyStateLogs` clips the live entries of a station to a bucket, and to the period of a
job where one is given, and adds up their milliseconds by state. The sums are rounded to seconds
at the end; they are exact here, where the source computes with floating-point numbers.

The total of the tally is the length of the clipped timeline, so it is the number of instants
covered as soon as the entries are pairwise apart (`totalMs_eq_card`).
-/

open scoped List

namespace RwServer

open Timeline Relational

/-- `Math.round`: half is rounded up. -/
def mathRound (q : ℚ) : ℤ := round q

/-- A row of `StatusReason`, as far as the tally reads it. -/
structure StatusReason where
  id : Uuid
  isPlannedDown : Bool
deriving DecidableEq, Repr

/-- The period of a job within a bucket. -/
structure JobClipWindow where
  startMs : Time
  endMs : Time
deriving DecidableEq, Repr

/-- The milliseconds accumulated over the entries. -/
structure DurationMs where
  runMs : ℤ := 0
  downMs : ℤ := 0
  plannedDownMs : ℤ := 0
  unplannedDownMs : ℤ := 0
deriving DecidableEq, Repr

structure DurationTally where
  runSeconds : ℤ
  downSeconds : ℤ
  plannedDownSeconds : ℤ
  unplannedDownSeconds : ℤ
deriving DecidableEq, Repr

/-- The rows the query selects: live entries of the station that overlap the bucket. -/
def stateLogsInBucket (log : StateLog) (stationId : Uuid) (bucketStart bucketEnd : Time) :
    List StationStateLog :=
  (log.live stationId).filter fun e ↦
    decide (e.startTime < bucketEnd) && e.endTime.all fun t ↦ decide (bucketStart < t)

/-- The `isPlannedDown` column of the query, whose `LEFT JOIN` yields `null` without a reason. -/
def isPlannedDown (reasons : List StatusReason) (e : StationStateLog) : Bool :=
  reasons.any fun r ↦ e.statusReasonId == some r.id && r.isPlannedDown

/-- The milliseconds of an entry inside the clip window; an open entry reaches up to `now`. -/
def clippedMs (clipStartMs clipEndMs now : Time) (e : StationStateLog) : ℤ :=
  let effectiveStartMs := max e.startTime clipStartMs
  let effectiveEndMs := match e.endTime with
    | some endTime => min endTime clipEndMs
    | none => min now clipEndMs
  max 0 (effectiveEndMs - effectiveStartMs)

/-- One round of the loop. -/
def DurationMs.addEntry (reasons : List StatusReason) (clipStartMs clipEndMs now : Time)
    (acc : DurationMs) (e : StationStateLog) : DurationMs :=
  let ms := clippedMs clipStartMs clipEndMs now e
  if ms = 0 then acc
  else match e.state with
    | .up => { acc with runMs := acc.runMs + ms }
    | .down =>
      if isPlannedDown reasons e then
        { acc with downMs := acc.downMs + ms, plannedDownMs := acc.plannedDownMs + ms }
      else
        { acc with downMs := acc.downMs + ms, unplannedDownMs := acc.unplannedDownMs + ms }

/-- The sums of the loop, before they are rounded. -/
def stateLogMs (log : StateLog) (reasons : List StatusReason) (stationId : Uuid)
    (bucketStart bucketEnd now : Time) (jobClip : Option JobClipWindow) : DurationMs :=
  let clipStartMs := (jobClip.map JobClipWindow.startMs).getD bucketStart
  let clipEndMs := (jobClip.map JobClipWindow.endMs).getD bucketEnd
  (stateLogsInBucket log stationId bucketStart bucketEnd).foldl
    (DurationMs.addEntry reasons clipStartMs clipEndMs now) {}

def queryAndTallyStateLogs (log : StateLog) (reasons : List StatusReason) (stationId : Uuid)
    (bucketStart bucketEnd now : Time) (jobClip : Option JobClipWindow) : DurationTally :=
  let ms := stateLogMs log reasons stationId bucketStart bucketEnd now jobClip
  { runSeconds := mathRound (ms.runMs / 1000)
    downSeconds := mathRound (ms.downMs / 1000)
    plannedDownSeconds := mathRound (ms.plannedDownMs / 1000)
    unplannedDownSeconds := mathRound (ms.unplannedDownMs / 1000) }

/-! ## What the tally counts -/

theorem clippedMs_eq (lo hi now : Time) (e : StationStateLog) :
    clippedMs lo hi now e = e.span.clippedLength lo hi now := by
  rw [clippedMs, Span.clippedLength, StationStateLog.span_stop, StationStateLog.span_start]
  cases e.endTime <;> rfl

/-- Running and down time together. -/
def DurationMs.totalMs (ms : DurationMs) : ℤ := ms.runMs + ms.downMs

theorem totalMs_addEntry (reasons : List StatusReason) (lo hi now : Time) (acc : DurationMs)
    (e : StationStateLog) :
    (acc.addEntry reasons lo hi now e).totalMs = acc.totalMs + clippedMs lo hi now e := by
  rw [DurationMs.addEntry]
  split
  · rename_i hzero
    rw [hzero, add_zero]
  · split
    · exact add_right_comm _ _ _
    · split <;> exact (add_assoc _ _ _).symm

theorem totalMs_foldl (reasons : List StatusReason) (lo hi now : Time)
    (entries : List StationStateLog) (acc : DurationMs) :
    (entries.foldl (DurationMs.addEntry reasons lo hi now) acc).totalMs
      = acc.totalMs + (entries.map (clippedMs lo hi now)).sum := by
  induction entries generalizing acc with
  | nil => rw [List.foldl_nil, List.map_nil, List.sum_nil, add_zero]
  | cons e entries ih =>
    rw [List.foldl_cons, ih, totalMs_addEntry, List.map_cons, List.sum_cons, add_assoc]

/-- The instants of the bucket that some live entry covers; an open entry covers none from `now`
on. -/
def coveredInstants (log : StateLog) (stationId : Uuid) (bucketStart bucketEnd now : Time) :
    Finset ℤ :=
  (Finset.Ico bucketStart bucketEnd).filter fun t ↦
    ∃ e ∈ log.live stationId, e.span.Covers t ∧ (e.endTime = none → t < now)

private theorem mem_clippedPart_iff {lo hi now t : ℤ} {s : Span ℤ} :
    t ∈ s.clippedPart lo hi now ↔
      (lo ≤ t ∧ t < hi) ∧ s.Covers t ∧ (s.stop = none → t < now) := by
  rw [Span.clippedPart, Finset.mem_Ico, max_le_iff, lt_min_iff]
  cases hstop : s.stop with
  | none => simp [Span.covers_open hstop]; tauto
  | some e => simp [Span.covers_closed hstop]; tauto

/-- **Entries pairwise apart are counted once**: the total of the tally is the number of instants
of the bucket that are covered. -/
theorem totalMs_eq_card {log : StateLog} {stationId : Uuid}
    (hapart : (log.live stationId).Pairwise fun a b ↦ a.span.Apart b.span)
    (reasons : List StatusReason) (bucketStart bucketEnd now : Time) :
    (stateLogMs log reasons stationId bucketStart bucketEnd now none).totalMs
      = (coveredInstants log stationId bucketStart bucketEnd now).card := by
  have hsub : ((stateLogsInBucket log stationId bucketStart bucketEnd).map
      StationStateLog.span).Pairwise Span.Apart :=
    List.pairwise_map.mpr (hapart.sublist List.filter_sublist)
  obtain ⟨U, hcard, hmem⟩ :=
    exists_card_eq_sum_clippedLength hsub bucketStart bucketEnd now
  have hU : U = coveredInstants log stationId bucketStart bucketEnd now := by
    ext t
    rw [hmem, coveredInstants, Finset.mem_filter, Finset.mem_Ico]
    constructor
    · rintro ⟨s, hs, hts⟩
      obtain ⟨e, he, rfl⟩ := List.mem_map.mp hs
      obtain ⟨hbucket, hcov⟩ := mem_clippedPart_iff.mp hts
      exact ⟨hbucket, e, (List.mem_filter.mp he).1, hcov⟩
    · rintro ⟨hbucket, e, he, hcov⟩
      refine ⟨e.span, List.mem_map_of_mem (List.mem_filter.mpr ⟨he, ?_⟩),
        mem_clippedPart_iff.mpr ⟨hbucket, hcov⟩⟩
      -- an entry that covers an instant of the bucket is selected
      rw [Bool.and_eq_true, decide_eq_true_iff]
      refine ⟨lt_of_le_of_lt hcov.1.1 hbucket.2, ?_⟩
      cases hend : e.endTime with
      | none => rfl
      | some t' =>
        rw [Option.all_some, decide_eq_true_iff]
        exact lt_of_le_of_lt hbucket.1 (hcov.1.2 t' hend)
  have hlen : clippedMs bucketStart bucketEnd now
      = Span.clippedLength bucketStart bucketEnd now ∘ StationStateLog.span :=
    funext fun e ↦ clippedMs_eq bucketStart bucketEnd now e
  rw [stateLogMs, totalMs_foldl, ← hU, hcard, List.map_map, ← hlen]
  exact zero_add _

end RwServer
