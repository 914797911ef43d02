import Mathlib
import RwServer.Foundation.Clipping
import RwServer.Metrics.JobTally
import RwServer.Station.Transitions

/-!
# Duration tallies in parts

A tally selects the entries that overlap a bucket and adds up their clipped lengths. An entry that
is not selected has no length in the bucket, so each sum of a tally is one over all entries
(`get_entriesMs`), and is additive as the length of a single entry is: over adjacent buckets
(`tallies_additive`), and over the two parts that a downtime is split into (`split_keepsTallies`).
-/

open scoped List

namespace RwServer

open Timeline Relational

/-! ## The four sums -/

/-- The four sums of a tally. -/
inductive DurationField
  | run
  | down
  | plannedDown
  | unplannedDown
deriving DecidableEq, Repr

/-- The entries that count for a sum. -/
def DurationField.counts (reasons : List StatusReason) : DurationField → StationStateLog → Bool
  | run, e => e.state == .up
  | down, e => e.state == .down
  | plannedDown, e => e.state == .down && isPlannedDown reasons e
  | unplannedDown, e => e.state == .down && !isPlannedDown reasons e

def DurationMs.get (ms : DurationMs) : DurationField → ℤ
  | .run => ms.runMs
  | .down => ms.downMs
  | .plannedDown => ms.plannedDownMs
  | .unplannedDown => ms.unplannedDownMs

def DurationTally.get (tally : DurationTally) : DurationField → ℤ
  | .run => tally.runSeconds
  | .down => tally.downSeconds
  | .plannedDown => tally.plannedDownSeconds
  | .unplannedDown => tally.unplannedDownSeconds

theorem DurationTally.ext_get {tally tally' : DurationTally}
    (h : ∀ field, tally.get field = tally'.get field) : tally = tally' := by
  obtain ⟨_, _, _, _⟩ := tally
  obtain ⟨_, _, _, _⟩ := tally'
  obtain rfl := h .run
  obtain rfl := h .down
  obtain rfl := h .plannedDown
  obtain rfl := h .unplannedDown
  rfl

/-! ## The tally of a list of entries -/

section

variable (reasons : List StatusReason) (entries : List StationStateLog)
  (bucketStart bucketEnd now : Time) (jobClip : Option JobClipWindow)

/-- The overlap condition of the query. -/
def overlapsBucket (e : StationStateLog) : Bool :=
  decide (e.startTime < bucketEnd) && e.endTime.all fun t ↦ decide (bucketStart < t)

/-- `stateLogMs`, of any entries in place of the live ones of a station. -/
def entriesMs : DurationMs :=
  let clipStartMs := (jobClip.map JobClipWindow.startMs).getD bucketStart
  let clipEndMs := (jobClip.map JobClipWindow.endMs).getD bucketEnd
  (entries.filter (overlapsBucket bucketStart bucketEnd)).foldl
    (DurationMs.addEntry reasons clipStartMs clipEndMs now) {}

/-- The rounding at the end. -/
def DurationMs.tally (ms : DurationMs) : DurationTally where
  runSeconds := mathRound (ms.runMs / 1000)
  downSeconds := mathRound (ms.downMs / 1000)
  plannedDownSeconds := mathRound (ms.plannedDownMs / 1000)
  unplannedDownSeconds := mathRound (ms.unplannedDownMs / 1000)

end

section

variable {reasons : List StatusReason} {entries entries' : List StationStateLog}
  {bucketStart bucketEnd now : Time} {jobClip : Option JobClipWindow}

theorem queryAndTallyStateLogs_eq (log : StateLog) (stationId : Uuid) :
    queryAndTallyStateLogs log reasons stationId bucketStart bucketEnd now jobClip
      = (entriesMs reasons (log.live stationId) bucketStart bucketEnd now jobClip).tally := rfl

theorem DurationMs.get_tally (ms : DurationMs) (field : DurationField) :
    ms.tally.get field = mathRound (ms.get field / 1000) := by
  cases field <;> rfl

theorem caseMs_eq (isCase : StationStateLog → Bool) (lo hi : Time) (e : StationStateLog) :
    caseMs isCase lo hi now e = if isCase e then e.span.clippedLength lo hi now else 0 := by
  rw [caseMs, clippedMs_eq]

/-- The clip of a tally lies in its bucket. -/
def ClipInBucket (bucketStart bucketEnd : Time) (jobClip : Option JobClipWindow) : Prop :=
  ∀ clip ∈ jobClip, clip.InBucket bucketStart bucketEnd

theorem clipInBucket_none (bucketStart bucketEnd : Time) :
    ClipInBucket bucketStart bucketEnd none :=
  fun clip hclip ↦ absurd hclip (Option.not_mem_none clip)

theorem clipInBucket_resolve (jobFilter : Option JobLogFilter) (bucketStart bucketEnd now : Time) :
    ClipInBucket bucketStart bucketEnd
      (jobFilter.bind fun f ↦ resolveJobClip f bucketStart bucketEnd now) := by
  intro clip hclip
  obtain ⟨f, -, hf⟩ := Option.bind_eq_some_iff.mp hclip
  exact inBucket_of_resolveJobClip hf

/-- **Each sum of a tally is one over all entries**: what the query leaves out has no length. -/
theorem get_entriesMs (hclip : ClipInBucket bucketStart bucketEnd jobClip)
    (field : DurationField) :
    (entriesMs reasons entries bucketStart bucketEnd now jobClip).get field
      = (entries.map (caseMs (field.counts reasons)
          ((jobClip.map JobClipWindow.startMs).getD bucketStart)
          ((jobClip.map JobClipWindow.endMs).getD bucketEnd) now)).sum := by
  have hbounds : bucketStart ≤ (jobClip.map JobClipWindow.startMs).getD bucketStart ∧
      (jobClip.map JobClipWindow.endMs).getD bucketEnd ≤ bucketEnd := by
    cases jobClip with
    | none => exact ⟨le_rfl, le_rfl⟩
    | some clip => exact ⟨(hclip clip rfl).start, (hclip clip rfl).stop⟩
  rw [entriesMs]
  generalize (jobClip.map JobClipWindow.startMs).getD bucketStart = lo at *
  generalize (jobClip.map JobClipWindow.endMs).getD bucketEnd = hi at *
  have hfold : ((entries.filter (overlapsBucket bucketStart bucketEnd)).foldl
      (DurationMs.addEntry reasons lo hi now) {}).get field
      = ((entries.filter (overlapsBucket bucketStart bucketEnd)).map
          (caseMs (field.counts reasons) lo hi now)).sum := by
    rw [foldl_addEntry]
    cases field <;> exact zero_add _
  rw [hfold, Table.sum_filter]
  congr 1
  refine List.map_congr_left fun e _ ↦ ?_
  split_ifs with hoverlaps
  · rfl
  · rw [caseMs_eq, Span.clippedLength_eq_zero hbounds.1 hbounds.2, ite_self]
    rw [overlapsBucket, Bool.and_eq_true, decide_eq_true_eq, Option.all_eq_true] at hoverlaps
    simp only [decide_eq_true_eq] at hoverlaps
    exact hoverlaps

/-- The clipped lengths of one entry in adjacent buckets. -/
theorem sum_caseMs (isCase : StationStateLog → Bool) (e : StationStateLog) {cut : ℕ → Time}
    {n : ℕ} (hcut : ∀ i < n, cut i ≤ cut (i + 1)) :
    ∑ i ∈ Finset.range n, caseMs isCase (cut i) (cut (i + 1)) now e
      = caseMs isCase (cut 0) (cut n) now e := by
  simp only [caseMs_eq]
  split_ifs
  · exact e.span.sum_clippedLength now hcut
  · exact Finset.sum_const_zero

end

/-! ## Adjacent buckets -/

/-- The sums over adjacent buckets, and what is off after rounding: `ms` and `tally` yield those of
a bucket, and `cut` the instants at which a bucket is cut into `n`. -/
def TallyAdditive (ms : Time → Time → DurationMs) (tally : Time → Time → DurationTally) : Prop :=
  ∀ (cut : ℕ → Time) (n : ℕ), (∀ i < n, cut i ≤ cut (i + 1)) → ∀ field,
    ∑ i ∈ Finset.range n, (ms (cut i) (cut (i + 1))).get field = (ms (cut 0) (cut n)).get field ∧
    |((∑ i ∈ Finset.range n, (tally (cut i) (cut (i + 1))).get field
        - (tally (cut 0) (cut n)).get field : ℤ) : ℚ)| ≤ (n + 1) / 2

theorem tallyAdditive_entriesMs (reasons : List StatusReason) (entries : List StationStateLog)
    (now : Time) :
    TallyAdditive (fun lo hi ↦ entriesMs reasons entries lo hi now none)
      (fun lo hi ↦ (entriesMs reasons entries lo hi now none).tally) := by
  intro cut n hcut field
  have hget : ∀ lo hi, (entriesMs reasons entries lo hi now none).get field
      = (entries.map (caseMs (field.counts reasons) lo hi now)).sum :=
    fun lo hi ↦ get_entriesMs (clipInBucket_none lo hi) field
  have hsum : ∑ i ∈ Finset.range n, (entriesMs reasons entries (cut i) (cut (i + 1)) now
      none).get field = (entriesMs reasons entries (cut 0) (cut n) now none).get field := by
    simp only [hget]
    induction entries with
    | nil => exact Finset.sum_const_zero
    | cons e entries ih =>
      simp only [List.map_cons, List.sum_cons]
      rw [Finset.sum_add_distrib, sum_caseMs _ e hcut,
        ih fun lo hi ↦ get_entriesMs (clipInBucket_none lo hi) field]
  refine ⟨hsum, ?_⟩
  simp only [DurationMs.get_tally, mathRound]
  have hbound := Rounding.abs_sum_round_sub_round_sum_le (Finset.range n) fun i ↦
    ((entriesMs reasons entries (cut i) (cut (i + 1)) now none).get field : ℚ) / 1000
  rwa [← Finset.sum_div, ← Int.cast_sum, hsum, Finset.card_range] at hbound

/-- **Tallies are additive over adjacent buckets**, up to half a second for each rounding: of any
entries, and so of the state log of a station. -/
theorem tallies_additive (reasons : List StatusReason) (now : Time) :
    (∀ entries, TallyAdditive (fun lo hi ↦ entriesMs reasons entries lo hi now none)
      (fun lo hi ↦ (entriesMs reasons entries lo hi now none).tally)) ∧
    ∀ log stationId, TallyAdditive (fun lo hi ↦ stateLogMs log reasons stationId lo hi now none)
      (fun lo hi ↦ queryAndTallyStateLogs log reasons stationId lo hi now none) :=
  ⟨fun entries ↦ tallyAdditive_entriesMs reasons entries now,
    fun log stationId ↦ tallyAdditive_entriesMs reasons (log.live stationId) now⟩

/-! ## A downtime that is split -/

section

variable {log log' : StateLog} {id entryId : Uuid} {splitAt now later : Time}
  {r : Except SplitError (StationStateLog × StationStateLog)}

/-- The two parts count for the sums that the downtime has counted for, with its length. -/
theorem caseMs_parts (field : DurationField) (reasons : List StatusReason)
    {entry : StationStateLog} (hcut : entry.span.CutAt splitAt)
    (hnow : entry.span.stop = none → splitAt ≤ now) (lo hi : Time) :
    caseMs (field.counts reasons) lo hi now (secondPart entry id splitAt) +
        caseMs (field.counts reasons) lo hi now { entry with endTime := some splitAt }
      = caseMs (field.counts reasons) lo hi now entry := by
  have hsecond : field.counts reasons (secondPart entry id splitAt)
      = field.counts reasons entry := by
    cases field <;> rfl
  have hfirst : field.counts reasons { entry with endTime := some splitAt }
      = field.counts reasons entry := by
    cases field <;> rfl
  rw [caseMs_eq, caseMs_eq, caseMs_eq, hsecond, hfirst]
  split_ifs
  · rw [add_comm]
    exact Span.clippedLength_before_add_after hcut hnow lo hi
  · exact add_zero 0

/-- **A split changes no tally**, of no bucket and no job on a station, from then on. -/
theorem split_keepsTallies (h : splitDownEntry log id entryId splitAt now = some (log', r))
    (hlater : now ≤ later) (reasons : List StatusReason) (stationId : Uuid)
    (bucketStart bucketEnd : Time) (jobFilter : Option JobLogFilter) :
    queryAndTallyStateLogs log' reasons stationId bucketStart bucketEnd later
        (jobFilter.bind fun f ↦ resolveJobClip f bucketStart bucketEnd later)
      = queryAndTallyStateLogs log reasons stationId bucketStart bucketEnd later
        (jobFilter.bind fun f ↦ resolveJobClip f bucketStart bucketEnd later) := by
  rcases splitDownEntry_rows h with rfl | ⟨entry, rest, hrows, hrows', hdeleted, hstart, hend⟩
  · rfl
  · refine DurationTally.ext_get fun field ↦ ?_
    rw [queryAndTallyStateLogs_eq, queryAndTallyStateLogs_eq, DurationMs.get_tally,
      DurationMs.get_tally, get_entriesMs (clipInBucket_resolve _ _ _ _),
      get_entriesMs (clipInBucket_resolve _ _ _ _), StateLog.live, StateLog.live,
      ((hrows.filter _).map _).sum_eq, ((hrows'.filter _).map _).sum_eq]
    have hfirst : ({ entry with endTime := some splitAt } : StationStateLog).isLive stationId
        = entry.isLive stationId := rfl
    rw [List.filter_cons, List.filter_cons, List.filter_cons, hfirst,
      isLive_secondPart hdeleted]
    -- both parts are live entries of the station iff the downtime is one
    cases entry.isLive stationId with
    | false => rfl
    | true =>
      simp only [if_true, List.map_cons, List.sum_cons]
      obtain ⟨hcut, hnow⟩ := cutAt_of_split hstart hend
      rw [← add_assoc, caseMs_parts field reasons hcut fun hopen ↦ (hnow hopen).trans hlater]

end

/-- The downtime of the sample log, which is open, is split ten minutes after it has begun. -/
theorem split_keepsTallies_openDowntime : ∃ log' : StateLog,
    log'.rows.length = 3 ∧
    queryAndTallyStateLogs log' [⟨9, true⟩] 2 0 3600000 3000000 none
      = queryAndTallyStateLogs sampleLog [⟨9, true⟩] 2 0 3600000 3000000 none := by
  have hsplit : (splitDownEntry sampleLog 7 2 2400000 2700000).any
      (fun split ↦ decide (split.1.rows.length = 3)) = true := by
    decide +kernel
  obtain ⟨split, hsome, hlength⟩ := (Option.any_eq_true _ _).mp hsplit
  exact ⟨split.1, of_decide_eq_true hlength,
    split_keepsTallies (r := split.2) hsome (by decide : (2700000 : Time) ≤ 3000000) [⟨9, true⟩] 2 0
      3600000 none⟩

end RwServer
