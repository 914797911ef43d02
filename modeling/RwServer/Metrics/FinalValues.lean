import Mathlib
import RwServer.Metrics.TickSteps

/-!
# Completed hours, shifts and days hold their final values

A tick computes the hour that contains its timestamp, up to the moment its statement runs. The time
from the last such moment to the end of the hour is counted by no tick, since the next one addresses
the next hour; and a shift or a day is not summed again once it is over. Completed rows hold their
final values where the last statement for an hour runs after its end, transitions leave completed
hours alone, and no hour is written without the shift and the day it is in being summed
(`KeepsFinal`, `ticks_final`).

An hour is *final* once it has been computed after its end, and stays so. The rows of the shifts and
days that have been summed are sums of their hours, but for the ones that the tick under way is
going to sum.
-/

namespace RwServer

open Windows Relational Transition

/-! ## Where a final value is missed -/

section

variable (sc : MeteredTicks)

/-- The hour has been computed after its end. -/
def TickState.IsFinal (s : TickState) (r : BucketRow) : Prop :=
  ∃ v ∈ s.computedAt r.startTime, r.endTime ≤ v

/-- The hours that have ended since the run began are final. -/
def MeteredTicks.HoursFinal (since : Time) (s : TickState) (timestamp : Time) : Prop :=
  ∀ r ∈ s.live.rows, sc.IsHour r → since < r.endTime → r.endTime ≤ timestamp → s.IsFinal r

/-- The shifts and days that have ended since the run began have been summed. -/
def MeteredTicks.ParentsSummed (since : Time) (s : TickState) (timestamp : Time) : Prop :=
  ∀ r ∈ s.live.rows, ∀ w ∈ sc.parentWindow r, since < w.window.stop → w.window.stop ≤ timestamp →
    w ∈ s.summed

/-- The tick sums the shifts and days of the hours that it writes, of those summed before. -/
def MeteredTicks.SumsParents (s : TickState) (timestamp : Time) : Prop :=
  ∀ r ∈ s.live.rows, r.isHourAt sc.stationId timestamp = true → ∀ w ∈ s.summed,
    w.window.Contains r.startTime → w ∈ sc.windowsAt timestamp

/-- Entries do not end before they begin, as far as the final durations of an hour depend on it. -/
def MeteredTicks.ClosedInOrder (s : TickState) (vNow : Time) (bucket : Option BucketRow) : Prop :=
  ∀ b ∈ bucket, b.endTime ≤ vNow → ∀ e ∈ s.log.live sc.stationId, ∀ t ∈ e.endTime, e.startTime ≤ t

/-- The sums exist, and none is written to the row of another shift or day. -/
def MeteredTicks.WritesSums (s : TickState) (timestamp : Time) : Prop :=
  (∀ w ∈ sc.windowsAt timestamp, sc.isNullSum s.live w = false) ∧
    ∀ w ∈ sc.windowsAt timestamp, ∀ w' ∈ sc.windowsAt timestamp ++ s.summed,
      sc.keyOf w = sc.keyOf w' → w = w'

/-- A transition leaves the tally of the final hours as it is. -/
def MeteredTicks.LeavesFinal (s : TickState) (op : StateOp) : Prop :=
  ∀ log ∈ op.apply sc.stationId s.log, ∀ r ∈ s.live.rows, sc.IsHour r → s.IsFinal r →
    sc.fullTally log r.window = sc.fullTally s.log r.window

/-- A step at which no final value is missed, in a run that begins at `since`. -/
def MeteredTicks.KeepsFinal (since : Time) (s : TickState) : TickStatement → Prop
  | .transition op => sc.LeavesFinal s op
  | .start timestamp => sc.HoursFinal since s timestamp ∧ sc.ParentsSummed since s timestamp
  | .durations vNow bucket _ _ => sc.ClosedInOrder s vNow bucket ∧
      ∀ timestamp ∈ s.lastTick, sc.SumsParents s timestamp
  | .sync _ => ∀ timestamp ∈ s.lastTick, sc.SumsParents s timestamp
  | .shiftDay => ∀ timestamp ∈ s.lastTick, sc.WritesSums s timestamp

instance decidableIsFinal (s : TickState) (r : BucketRow) : Decidable (s.IsFinal r) :=
  inferInstanceAs (Decidable (∃ v ∈ _, _))

instance decidableHoursFinal (since : Time) (s : TickState) (timestamp : Time) :
    Decidable (sc.HoursFinal since s timestamp) :=
  inferInstanceAs (Decidable (∀ r ∈ _, _))

instance decidableParentsSummed (since : Time) (s : TickState) (timestamp : Time) :
    Decidable (sc.ParentsSummed since s timestamp) :=
  inferInstanceAs (Decidable (∀ r ∈ _, ∀ w ∈ _, _))

instance decidableSumsParents (s : TickState) (timestamp : Time) :
    Decidable (sc.SumsParents s timestamp) :=
  inferInstanceAs (Decidable (∀ r ∈ _, _ → ∀ w ∈ _, _))

instance decidableClosedInOrder (s : TickState) (vNow : Time) (bucket : Option BucketRow) :
    Decidable (sc.ClosedInOrder s vNow bucket) :=
  inferInstanceAs (Decidable (∀ b ∈ _, _ → ∀ e ∈ _, ∀ t ∈ _, _))

instance decidableWritesSums (s : TickState) (timestamp : Time) :
    Decidable (sc.WritesSums s timestamp) :=
  inferInstanceAs (Decidable ((∀ w ∈ _, _) ∧ ∀ w ∈ _, ∀ w' ∈ _, _))

instance decidableLeavesFinal (s : TickState) (op : StateOp) : Decidable (sc.LeavesFinal s op) :=
  inferInstanceAs (Decidable (∀ log ∈ _, ∀ r ∈ _, _))

instance decidableKeepsFinal (since : Time) (s : TickState) (statement : TickStatement) :
    Decidable (sc.KeepsFinal since s statement) := by
  cases statement <;> unfold MeteredTicks.KeepsFinal <;> infer_instance

/-! ## What is final -/

/-- The durations of the row are those of a tally. -/
structure HoldsTally (r : BucketRow) (tally : DurationTally) : Prop where
  runSeconds : r.kpis.additive .runSeconds = tally.runSeconds
  downSeconds : r.kpis.additive .downSeconds = tally.downSeconds
  plannedDownSeconds : r.kpis.additive .plannedDownSeconds = tally.plannedDownSeconds
  unplannedDownSeconds : r.kpis.additive .unplannedDownSeconds = tally.unplannedDownSeconds

/-- The row stores the sums over the hours of a shift or day. -/
def MeteredTicks.IsSumOf (live : Table bucketRowSchema) (w : ParentWindow) (r : BucketRow) : Prop :=
  ∀ key, r.kpis.additive key = ((sc.hoursIn w live).map fun h ↦ h.kpis.additive key).sum

/-- The row of a shift or day, if there is one, stores the sums over its hours. -/
def MeteredTicks.InSync (live : Table bucketRowSchema) (w : ParentWindow) : Prop :=
  ∀ r, live.find (sc.keyOf w) = some r → sc.IsSumOf live w r

/-- The timestamp of the tick that has written hours and not yet summed them. -/
def TickPhase.pending : TickPhase → Option Time
  | .counted timestamp | .synced timestamp => some timestamp
  | _ => none

/-- The timestamp of the tick under way. -/
def TickPhase.current : TickPhase → Option Time
  | .idle => none
  | .started timestamp | .counted timestamp | .synced timestamp => some timestamp

structure TickInvariant (since : Time) (s : TickState) : Prop where
  current : ∀ timestamp ∈ s.phase.current, s.lastTick = some timestamp ∧ timestamp ≤ s.clock
  clock : ∀ start, ∀ v ∈ s.computedAt start, v ≤ s.clock
  tally : ∀ r ∈ s.live.rows, sc.IsHour r → s.IsFinal r →
    HoldsTally r (sc.fullTally s.log r.window)
  hours : ∀ timestamp ∈ s.lastTick, sc.HoursFinal since s timestamp
  parents : ∀ timestamp ∈ s.lastTick, sc.ParentsSummed since s timestamp
  kinds : ∀ w ∈ s.summed, w.granularity ≠ .hour
  sums : ∀ w ∈ s.summed, sc.InSync s.live w ∨
    ∃ timestamp ∈ s.phase.pending, w ∈ sc.windowsAt timestamp

end

/-! ## The last computation of an hour -/

section

variable {sc : MeteredTicks} {log : StateLog}

/-- After the end of the hour the sums go over the whole hour. -/
private theorem clippedMs_of_le {lo hi now : Time} (h : hi ≤ now) (e : StationStateLog) :
    clippedMs lo hi now e = clippedMs lo hi hi e := by
  rw [clippedMs, clippedMs, min_eq_right h, min_self]

theorem durSeconds_of_le {stationId : Uuid} {start stop now : Time} (hhour : start < stop)
    (h : stop ≤ now)
    (hlog : ∀ e ∈ log.live stationId, ∀ t ∈ e.endTime, e.startTime ≤ t)
    (isCase : StationStateLog → Bool) : durSeconds log stationId start stop now isCase
      = mathRound ((((stateLogsInBucket log stationId start stop).map
        (caseMs isCase start stop stop)).sum : ℤ) / 1000) := by
  have hcase : caseMs isCase start stop now = caseMs isCase start stop stop := by
    funext e
    rw [caseMs, caseMs, clippedMs_of_le h]
  rw [durSeconds_eq hhour (hhour.le.trans h) fun e he t ht ↦ ⟨hlog e he t ht, .inr h⟩, hcase]

/-- **A statement that runs after the end** of the hour writes its final durations. -/
theorem holdsTally_updHour {bucket : BucketRow} {timestamp vNow : Time} {stdCycle : Option ℚ}
    {itemsPerCycle : ℤ} (hbucket : bucket.isHourAt sc.stationId timestamp = true)
    (hend : bucket.endTime ≤ vNow)
    (hlog : ∀ e ∈ log.live sc.stationId, ∀ t ∈ e.endTime, e.startTime ≤ t) :
    HoldsTally (bucket.updHour (batchDurations log sc.reasons sc.stationId bucket.startTime
      bucket.durationMs vNow stdCycle itemsPerCycle)) (sc.fullTally log bucket.window) := by
  obtain ⟨-, hlo, hhi⟩ := BucketRow.isHourAt_iff.mp hbucket
  have hseconds := durSeconds_of_le (hlo.trans_lt hhi) hend hlog
  have htally : sc.fullTally log bucket.window = queryAndTallyStateLogs log sc.reasons sc.stationId
      bucket.window.start bucket.window.stop bucket.window.stop none := rfl
  rw [queryAndTallyStateLogs, stateLogMs, foldl_addEntry] at htally
  simp only [zero_add, Option.map_none, Option.getD_none] at htally
  rw [htally]
  exact ⟨hseconds _, hseconds _, hseconds _, hseconds _⟩

end

/-! ## Rows that stay what they are about -/

/-- Every row is a version of an old one: its key is the same, and for an hour its length. -/
def Follows (live live' : Table bucketRowSchema) : Prop :=
  ∀ r' ∈ live'.rows, ∃ r ∈ live.rows, r.key = r'.key ∧
    (r.key.granularity = .hour → r.durationMs = r'.durationMs)

section

variable {sc : MeteredTicks} {since : Time} {s : TickState} {live live' : Table bucketRowSchema}
  {r r' : BucketRow} {w : ParentWindow} {timestamp : Time}

theorem follows_modify {p : BucketRow → Bool} {f : BucketRow → BucketRow}
    (hf : Table.Mild bucketRowSchema f)
    (h : ∀ r, p r = true → r.key.granularity = .hour → (f r).durationMs = r.durationMs) :
    Follows live (live.modify p f hf) := by
  intro r' hr'
  obtain ⟨r, hr, rfl⟩ := List.mem_map.mp hr'
  refine ⟨r, hr, ?_, fun hhour ↦ ?_⟩
  · split
    · exact (hf.key r).symm
    · rfl
  · split
    · rename_i hp
      exact (h r hp hhour).symm
    · rfl

theorem MeteredTicks.isHour_congr (h : r.key = r'.key) : sc.IsHour r ↔ sc.IsHour r' := by
  rw [IsHour, IsHour, BucketRow.startTime, BucketRow.startTime, h]

theorem MeteredTicks.granularity_of_isHour (h : sc.IsHour r) : r.key.granularity = .hour := by
  rw [h]
  rfl

theorem BucketRow.endTime_congr (hkey : r.key = r'.key) (hlen : r.durationMs = r'.durationMs) :
    r.endTime = r'.endTime := by
  rw [BucketRow.endTime, BucketRow.endTime, BucketRow.startTime, BucketRow.startTime, hkey, hlen]

theorem MeteredTicks.parentWindow_congr (h : r.key = r'.key) :
    sc.parentWindow r = sc.parentWindow r' := by
  rw [parentWindow, parentWindow, BucketRow.startTime, BucketRow.startTime, h]

theorem TickState.isFinal_congr {s' : TickState} (hkey : r.key = r'.key)
    (hlen : r.durationMs = r'.durationMs) (hcomputed : s'.computedAt = s.computedAt) :
    s'.IsFinal r' ↔ s.IsFinal r := by
  rw [IsFinal, IsFinal, hcomputed, BucketRow.endTime_congr hkey hlen, BucketRow.startTime,
    BucketRow.startTime, hkey]

/-- What has ended stays final. -/
theorem MeteredTicks.HoursFinal.follows {s' : TickState} (h : sc.HoursFinal since s timestamp)
    (hrows : Follows s.live s'.live)
    (hfinal : ∀ r, s.IsFinal r → s'.IsFinal r) : sc.HoursFinal since s' timestamp := by
  intro r' hr' hhour hsince hend
  obtain ⟨r, hr, hkey, hlen⟩ := hrows r' hr'
  have hold := (isHour_congr hkey).mpr hhour
  have hlen := hlen (granularity_of_isHour hold)
  have hstop := BucketRow.endTime_congr hkey hlen
  have hr := hfinal r (h r hr hold (hstop ▸ hsince) (hstop ▸ hend))
  exact (TickState.isFinal_congr (s := s') hkey hlen rfl).mpr hr

theorem MeteredTicks.ParentsSummed.follows {s' : TickState}
    (h : sc.ParentsSummed since s timestamp) (hrows : Follows s.live s'.live)
    (hsummed : ∀ w ∈ s.summed, w ∈ s'.summed) : sc.ParentsSummed since s' timestamp := by
  intro r' hr' w hw hsince hend
  obtain ⟨r, hr, hkey, -⟩ := hrows r' hr'
  exact hsummed w (h r hr w (parentWindow_congr hkey ▸ hw) hsince hend)

/-! ### Sums -/

theorem MeteredTicks.InSync.modify (h : sc.InSync live w) {p : BucketRow → Bool}
    {f : BucketRow → BucketRow} (hf : Table.Mild bucketRowSchema f)
    (hhours : ∀ r ∈ live.rows, p r = true → ¬(sc.IsHour r ∧ w.window.Contains r.startTime))
    (hrow : ∀ r, p r = true → r.key ≠ sc.keyOf w) : sc.InSync (live.modify p f hf) w := by
  have hsame : sc.hoursIn w (live.modify p f hf) = sc.hoursIn w live :=
    Table.filter_rows_modify live p hf fun r hr hp ↦ by
      have hnot := hhours r hr hp
      have hkey : (f r).key = r.key := hf.key r
      refine ⟨decide_eq_false hnot, decide_eq_false ?_⟩
      rwa [isHour_congr hkey, BucketRow.startTime, hkey]
  intro r hr
  rw [Table.find_modify, Option.map_eq_some_iff] at hr
  obtain ⟨a, ha, rfl⟩ := hr
  have hkey : a.key = sc.keyOf w := (Table.find_eq_some_iff.mp ha).2
  rw [if_neg fun hp ↦ hrow a hp hkey, IsSumOf, hsame]
  exact h a ha

/-- A statement for the hours that contain a timestamp: what has been summed stays in sync, or is
about to be summed. -/
theorem sums_modify_hours {p : BucketRow → Bool} {f : BucketRow → BucketRow}
    (hf : Table.Mild bucketRowSchema f)
    (hp : ∀ r ∈ live.rows, p r = true → r.isHourAt sc.stationId timestamp = true)
    (hgran : ∀ r, p r = true → r.key.granularity = .hour)
    (hparent : w.granularity ≠ .hour)
    (hsums : ∀ r ∈ live.rows, r.isHourAt sc.stationId timestamp = true →
      w.window.Contains r.startTime → w ∈ sc.windowsAt timestamp)
    (h : sc.InSync live w) :
    sc.InSync (live.modify p f hf) w ∨ w ∈ sc.windowsAt timestamp := by
  by_cases hin : ∃ r ∈ live.rows, p r = true ∧ w.window.Contains r.startTime
  · obtain ⟨r, hr, hpr, hcontains⟩ := hin
    exact .inr (hsums r hr (hp r hr hpr) hcontains)
  · refine .inl (h.modify hf (fun r hr hpr hand ↦ hin ⟨r, hr, hpr, hand.2⟩) fun r hpr hkey ↦ ?_)
    exact hparent ((congrArg BucketKey.granularity hkey).symm.trans (hgran r hpr))

theorem MeteredTicks.granularity_of_mem_windowsAt (h : w ∈ sc.windowsAt timestamp) :
    w.granularity ≠ .hour := by
  rw [windowsAt, List.mem_append, List.mem_map, List.mem_singleton] at h
  rcases h with ⟨i, -, rfl⟩ | rfl <;> simp

theorem key_of_isStale {key : BucketKey} {sums : HourSums} (h : isStale key sums r = true) :
    r.key = key := by
  rw [isStale, Bool.and_eq_true, decide_eq_true_eq] at h
  exact h.1

/-- A row that has been summed is in sync; the sums go over other rows. -/
theorem MeteredTicks.inSync_resum (h : w.granularity ≠ .hour) :
    sc.InSync (sc.resum live w) w := by
  have hsame : sc.hoursIn w (sc.resum live w) = sc.hoursIn w live :=
    Table.filter_rows_modify live _ (mild_setSums _) fun r _ hr ↦ by
      have hnot : ¬sc.IsHour r := fun hhour ↦ h <|
        (congrArg BucketKey.granularity (key_of_isStale hr)).symm.trans
          (granularity_of_isHour hhour)
      refine ⟨decide_eq_false fun hand ↦ hnot hand.1, decide_eq_false fun hand ↦ hnot ?_⟩
      exact hand.1
  intro r hr key
  rw [hsame]
  rw [resum, Table.find_modify, Option.map_eq_some_iff] at hr
  obtain ⟨a, ha, rfl⟩ := hr
  have hkey : a.key = sc.keyOf w := (Table.find_eq_some_iff.mp ha).2
  split
  · rfl
  · rename_i hfresh
    rw [isStale, hkey, decide_eq_true rfl, Bool.true_and, decide_eq_true_eq, not_or, not_not,
      not_not] at hfresh
    rw [hfresh.1]
    rfl

theorem MeteredTicks.mem_of_mem_resum (hw : w.granularity ≠ .hour) (hhour : sc.IsHour r)
    (hr : r ∈ (sc.resum live w).rows) : r ∈ live.rows := by
  obtain ⟨a, ha, rfl⟩ := List.mem_map.mp hr
  split at hhour
  · rename_i hstale
    have hgran := congrArg BucketKey.granularity (key_of_isStale hstale)
    exact absurd (hgran.symm.trans (granularity_of_isHour hhour)) hw
  · rename_i hfresh
    rwa [if_neg hfresh]

theorem MeteredTicks.follows_resum (hw : w.granularity ≠ .hour) :
    Follows live (sc.resum live w) :=
  follows_modify (mild_setSums _) fun _ hstale hhour ↦
    absurd ((congrArg BucketKey.granularity (key_of_isStale hstale)).symm.trans hhour) hw

theorem Follows.refl (live : Table bucketRowSchema) : Follows live live :=
  fun r hr ↦ ⟨r, hr, rfl, fun _ ↦ rfl⟩

theorem Follows.trans {live'' : Table bucketRowSchema} (h : Follows live live')
    (h' : Follows live' live'') : Follows live live'' := by
  intro r'' hr''
  obtain ⟨r', hr', hkey', hlen'⟩ := h' r'' hr''
  obtain ⟨r, hr, hkey, hlen⟩ := h r' hr'
  exact ⟨r, hr, hkey.trans hkey', fun hhour ↦ (hlen hhour).trans (hlen' (hkey ▸ hhour))⟩

/-- Summing other shifts and days leaves a row in sync. -/
theorem MeteredTicks.InSync.resum {w' : ParentWindow} (h : sc.InSync live w)
    (hw' : w'.granularity ≠ .hour) (hkey : sc.keyOf w' = sc.keyOf w → w' = w) :
    sc.InSync (sc.resum live w') w := by
  by_cases heq : w' = w
  · rw [← heq]
    exact inSync_resum hw'
  · refine h.modify (mild_setSums _) (fun r _ hr hand ↦ hw' ?_) fun r hr hrw ↦ heq (hkey ?_)
    · exact (congrArg BucketKey.granularity (key_of_isStale hr)).symm.trans
        (granularity_of_isHour hand.1)
    · exact (key_of_isStale hr).symm.trans hrw

/-- The rows after a tick has summed some shifts and days. -/
theorem foldl_resum (sc : MeteredTicks) {ws : List ParentWindow} :
    ∀ live : Table bucketRowSchema, (∀ w ∈ ws, w.granularity ≠ .hour) →
    Follows live (ws.foldl sc.resum live) ∧
    (∀ r ∈ (ws.foldl sc.resum live).rows, sc.IsHour r → r ∈ live.rows) ∧
    ∀ w, (∀ w' ∈ ws, sc.keyOf w' = sc.keyOf w → w' = w) → sc.InSync live w ∨ w ∈ ws →
      sc.InSync (ws.foldl sc.resum live) w := by
  induction ws with
  | nil =>
    intro live _
    exact ⟨.refl live, fun r hr _ ↦ hr, fun w _ h ↦ h.resolve_right List.not_mem_nil⟩
  | cons v ws ih =>
    intro live hkinds
    have hv := hkinds v List.mem_cons_self
    obtain ⟨hfollows, hhours, hsync⟩ :=
      ih (sc.resum live v) fun w hw ↦ hkinds w (List.mem_cons_of_mem _ hw)
    refine ⟨(MeteredTicks.follows_resum hv).trans hfollows, fun r hr hhour ↦ ?_,
      fun w hkeys h ↦ ?_⟩
    · exact MeteredTicks.mem_of_mem_resum hv hhour (hhours r hr hhour)
    · refine hsync w (fun w' hw' ↦ hkeys w' (List.mem_cons_of_mem _ hw')) ?_
      rcases h with h | h
      · exact .inl (h.resum hv (hkeys v List.mem_cons_self))
      · rcases List.mem_cons.mp h with rfl | h
        · exact .inl (MeteredTicks.inSync_resum hv)
        · exact .inr h

end

/-! ## Steps -/

section

variable {sc : MeteredTicks} {since : Time} {s s' : TickState}

theorem HoldsTally.congr {r r' : BucketRow} {tally : DurationTally} (h : HoldsTally r tally)
    (heq : ∀ key ∈ [KpiKey.runSeconds, .downSeconds, .plannedDownSeconds, .unplannedDownSeconds],
      r'.kpis.additive key = r.kpis.additive key) : HoldsTally r' tally where
  runSeconds := (heq _ (by simp)).trans h.runSeconds
  downSeconds := (heq _ (by simp)).trans h.downSeconds
  plannedDownSeconds := (heq _ (by simp)).trans h.plannedDownSeconds
  unplannedDownSeconds := (heq _ (by simp)).trans h.unplannedDownSeconds

theorem TickInvariant.transition {op : StateOp} {log : StateLog} (h : TickInvariant sc since s)
    (hok : sc.LeavesFinal s op) (hlog : op.apply sc.stationId s.log = some log) (latest : Time) :
    TickInvariant sc since { s with log := log, latest := latest } where
  current := h.current
  clock := h.clock
  tally r hr hhour hfinal := by
    change HoldsTally r (sc.fullTally log r.window)
    rw [hok log hlog r hr hhour hfinal]
    exact h.tally r hr hhour hfinal
  hours := h.hours
  parents := h.parents
  kinds := h.kinds
  sums := h.sums

/-- What has been summed is in sync, while no sums are on their way. -/
theorem TickInvariant.inSync_of_summed (h : TickInvariant sc since s)
    (hnone : s.phase.pending = none) {w : ParentWindow} (hw : w ∈ s.summed) :
    sc.InSync s.live w := by
  refine (h.sums w hw).resolve_right ?_
  rintro ⟨t, ht, -⟩
  rw [hnone] at ht
  cases ht

theorem TickInvariant.start {timestamp : Time} (h : TickInvariant sc since s)
    (hphase : s.phase = .idle) (hclock : s.clock < timestamp)
    (hhours : sc.HoursFinal since s timestamp) (hparents : sc.ParentsSummed since s timestamp) :
    TickInvariant sc since
      { s with phase := .started timestamp, lastTick := some timestamp, clock := timestamp } where
  current t ht := by
    cases ht
    exact ⟨rfl, le_rfl⟩
  clock start v hv := (h.clock start v hv).trans hclock.le
  tally := h.tally
  hours t ht := by
    cases ht
    exact hhours
  parents t ht := by
    cases ht
    exact hparents
  kinds := h.kinds
  sums w hw := .inl (h.inSync_of_summed (by rw [hphase]; rfl) hw)

/-- The statement finds no row for its hour. -/
theorem TickInvariant.durations_none {timestamp vNow : Time} (h : TickInvariant sc since s)
    (hphase : s.phase = .started timestamp) (hclock : s.clock ≤ vNow) :
    TickInvariant sc since { s with phase := .counted timestamp, clock := vNow } where
  current t ht := by
    cases ht
    have hold := h.current timestamp (by rw [hphase]; rfl)
    exact ⟨hold.1, hold.2.trans hclock⟩
  clock start v hv := (h.clock start v hv).trans hclock
  tally := h.tally
  hours := h.hours
  parents := h.parents
  kinds := h.kinds
  sums w hw := .inl (h.inSync_of_summed (by rw [hphase]; rfl) hw)

/-- The statement writes the row of its hour, whose durations are final if the hour is over. -/
theorem TickInvariant.durations_some {timestamp vNow : Time} {b : BucketRow} {stdCycle : Option ℚ}
    {itemsPerCycle : ℤ} (h : TickInvariant sc since s) (hphase : s.phase = .started timestamp)
    (hclock : s.clock ≤ vNow) (hb : b ∈ s.live.rows)
    (hat : b.isHourAt sc.stationId timestamp = true)
    (hclosed : sc.ClosedInOrder s vNow (some b)) (hsums : sc.SumsParents s timestamp) :
    TickInvariant sc since { s.updHour sc vNow stdCycle itemsPerCycle b with
      phase := .counted timestamp, clock := vNow } := by
  have hbkey := (BucketRow.isHourAt_iff.mp hat).1
  have heq : ∀ r ∈ s.live.rows, decide (r.key = hourKey sc.stationId b.startTime) = true →
      r = b := fun r hr hkey ↦
    s.live.eq_of_key_eq hr hb ((of_decide_eq_true hkey).trans hbkey.symm)
  have hcomputed : ∀ start, ∀ v ∈ s.computedAt start, v ≤ vNow := fun start v hv ↦
    (h.clock start v hv).trans hclock
  have hfollows : Follows s.live (s.updHour sc vNow stdCycle itemsPerCycle b).live :=
    follows_modify (mild_updHour _) fun _ _ _ ↦ rfl
  refine ⟨?_, ?_, ?_, ?_, ?_, h.kinds, ?_⟩
  · intro t ht
    cases ht
    have hold := h.current timestamp (by rw [hphase]; rfl)
    exact ⟨hold.1, hold.2.trans hclock⟩
  · intro start v hv
    change v ∈ Function.update s.computedAt b.startTime (some vNow) start at hv
    rw [Function.update_apply] at hv
    split at hv
    · cases hv
      exact le_rfl
    · exact hcomputed start v hv
  · intro r' hr' hhour hfinal
    obtain ⟨v, hv, hend⟩ := hfinal
    change v ∈ Function.update s.computedAt b.startTime (some vNow) r'.startTime at hv
    obtain ⟨r, hr, rfl⟩ := List.mem_map.mp hr'
    split at hv
    · rename_i hkey
      obtain rfl := heq r hr hkey
      rw [if_pos hkey] at hend ⊢
      rw [Function.update_apply, if_pos (by rfl)] at hv
      cases hv
      exact holdsTally_updHour hat hend (hclosed r rfl hend)
    · rename_i hkey
      rw [if_neg hkey] at hhour hend ⊢
      have hne : r.startTime ≠ b.startTime := fun hstart ↦ hkey <| decide_eq_true <| by
        rw [← hstart]
        exact hhour
      rw [Function.update_of_ne hne] at hv
      exact h.tally r hr hhour ⟨v, hv, hend⟩
  · intro t ht
    refine (h.hours t ht).follows hfollows fun r hr ↦ ?_
    obtain ⟨v, hv, hend⟩ := hr
    change ∃ v ∈ Function.update s.computedAt b.startTime (some vNow) r.startTime, _
    rw [Function.update_apply]
    split
    · exact ⟨vNow, rfl, hend.trans (hcomputed _ v hv)⟩
    · exact ⟨v, hv, hend⟩
  · exact fun t ht ↦ (h.parents t ht).follows hfollows fun w hw ↦ hw
  · intro w hw
    have hsync : sc.InSync s.live w := (h.sums w hw).resolve_right <| by
      rintro ⟨t, ht, -⟩
      rw [hphase] at ht
      cases ht
    refine (sums_modify_hours (mild_updHour _) (fun r hr hkey ↦ ?_) (fun r hkey ↦ ?_)
      (h.kinds w hw) (fun r hr hrt hcontains ↦ hsums r hr hrt w hw hcontains) hsync).imp_right
        fun hmem ↦ ⟨timestamp, rfl, hmem⟩
    · obtain rfl := heq r hr hkey
      exact hat
    · rw [of_decide_eq_true hkey]
      rfl

theorem TickInvariant.sync {timestamp : Time} {js : JobSums} (h : TickInvariant sc since s)
    (hphase : s.phase = .counted timestamp) (hsums : sc.SumsParents s timestamp) :
    TickInvariant sc since { s with
      live := s.live.modify (BucketRow.isHourAt sc.stationId timestamp)
        (BucketRow.syncExpected js) (mild_syncExpected js)
      phase := .synced timestamp } where
  current t ht := by
    cases ht
    exact h.current timestamp (by rw [hphase]; rfl)
  clock := h.clock
  tally r' hr' hhour hfinal := by
    obtain ⟨r, hr, rfl⟩ := List.mem_map.mp hr'
    split at hhour
    · rename_i hat
      rw [if_pos hat] at hfinal ⊢
      refine (h.tally r hr hhour hfinal).congr fun key hkey ↦ ?_
      fin_cases hkey <;> rfl
    · rename_i hat
      rw [if_neg hat] at hfinal ⊢
      exact h.tally r hr hhour hfinal
  hours t ht := (h.hours t ht).follows (follows_modify (mild_syncExpected js) fun _ _ _ ↦ rfl)
    fun _ hr ↦ hr
  parents t ht := (h.parents t ht).follows (follows_modify (mild_syncExpected js) fun _ _ _ ↦ rfl)
    fun _ hw ↦ hw
  kinds := h.kinds
  sums w hw := by
    rcases h.sums w hw with hsync | ⟨t, ht, hmem⟩
    · refine (sums_modify_hours (mild_syncExpected js) (fun _ _ hat ↦ hat) (fun r hat ↦ ?_)
        (h.kinds w hw) (fun r hr hrt hcontains ↦ hsums r hr hrt w hw hcontains) hsync).imp_right
          fun hmem ↦ ⟨timestamp, rfl, hmem⟩
      rw [(BucketRow.isHourAt_iff.mp hat).1]
      rfl
    · rw [hphase] at ht
      cases ht
      exact .inr ⟨timestamp, rfl, hmem⟩

theorem TickInvariant.shiftDay {timestamp : Time} {live : Table bucketRowSchema}
    (h : TickInvariant sc since s) (hphase : s.phase = .synced timestamp)
    (hok : sc.WritesSums s timestamp)
    (hlive : cascadeStationShiftDay sc s.live timestamp = some live) :
    TickInvariant sc since { s with
      live := live, phase := .idle, summed := sc.windowsAt timestamp ++ s.summed } := by
  have hkinds : ∀ w ∈ sc.windowsAt timestamp, w.granularity ≠ .hour := fun w hw ↦
    MeteredTicks.granularity_of_mem_windowsAt hw
  rw [cascadeStationShiftDay] at hlive
  split at hlive
  · exact absurd hlive (by simp)
  cases hlive
  obtain ⟨hfollows, hhours, hsync⟩ := foldl_resum sc s.live hkinds
  refine ⟨fun t ht ↦ absurd ht (by simp [TickPhase.current]), h.clock, ?_, ?_, ?_, ?_, ?_⟩
  · exact fun r hr hhour hfinal ↦ h.tally r (hhours r hr hhour) hhour hfinal
  · exact fun t ht ↦ (h.hours t ht).follows hfollows fun _ hr ↦ hr
  · exact fun t ht ↦ (h.parents t ht).follows hfollows fun _ hw ↦ List.mem_append_right _ hw
  · exact fun w hw ↦ (List.mem_append.mp hw).elim (hkinds w) (h.kinds w)
  · intro w hw
    refine .inl (hsync w (fun w' hw' hkey ↦ hok.2 w' hw' w hw hkey) ?_)
    rcases List.mem_append.mp hw with hw | hw
    · exact .inr hw
    · refine (h.sums w hw).imp_right ?_
      rintro ⟨t, ht, hmem⟩
      rw [hphase] at ht
      cases ht
      exact hmem

/-- **A step at which no final value is missed** keeps what is final. -/
theorem TickInvariant.step {statement : TickStatement} (h : TickInvariant sc since s)
    (hok : sc.KeepsFinal since s statement) (hs : tickStep sc statement s = some s') :
    TickInvariant sc since s' := by
  cases statement with
  | transition op =>
    obtain ⟨log, hlog, rfl⟩ := Option.map_eq_some_iff.mp hs
    exact h.transition hok hlog _
  | start timestamp =>
    cases hphase : s.phase with
    | idle =>
      unfold tickStep at hs
      simp only [hphase] at hs
      split at hs
      · rename_i hguard
        cases hs
        exact h.start hphase hguard.1 hok.1 hok.2
      · cases hs
    | _ =>
      unfold tickStep at hs
      simp only [hphase] at hs
      cases hs
  | durations vNow bucket stdCycle itemsPerCycle =>
    cases hphase : s.phase with
    | started timestamp =>
      have hlast := (h.current timestamp (by rw [hphase]; rfl)).1
      unfold tickStep at hs
      simp only [hphase] at hs
      split at hs
      · rename_i hguard
        cases hs
        cases bucket with
        | none => exact h.durations_none hphase hguard.1
        | some b =>
          exact h.durations_some hphase hguard.1 hguard.2.1 hguard.2.2 hok.1 (hok.2 timestamp hlast)
      · cases hs
    | _ =>
      unfold tickStep at hs
      simp only [hphase] at hs
      cases hs
  | sync js =>
    cases hphase : s.phase with
    | counted timestamp =>
      have hlast := (h.current timestamp (by rw [hphase]; rfl)).1
      unfold tickStep at hs
      simp only [hphase] at hs
      cases hs
      exact h.sync hphase (hok timestamp hlast)
    | _ =>
      unfold tickStep at hs
      simp only [hphase] at hs
      cases hs
  | shiftDay =>
    cases hphase : s.phase with
    | synced timestamp =>
      have hlast := (h.current timestamp (by rw [hphase]; rfl)).1
      have hwrites := hok timestamp hlast
      unfold tickStep at hs
      simp only [hphase] at hs
      split at hs
      · rename_i live hlive
        cases hs
        exact h.shiftDay hphase hwrites hlive
      · -- with every sum in place the statement does not fail
        rename_i hnull
        rw [cascadeStationShiftDay, if_neg] at hnull
        · cases hnull
        · rw [Bool.not_eq_true, List.any_eq_false]
          exact fun w hw ↦ Bool.eq_false_iff.mp (hwrites.1 w hw)
    | _ =>
      unfold tickStep at hs
      simp only [hphase] at hs
      cases hs

theorem tickInvariant_init (log : StateLog) (live : Table bucketRowSchema) :
    TickInvariant sc since (.init log live since) where
  current t ht := absurd ht (by simp [TickState.init, TickPhase.current])
  clock start v hv := absurd hv (by simp [TickState.init])
  tally r hr hhour hfinal := by
    obtain ⟨v, hv, -⟩ := hfinal
    exact absurd hv (by simp [TickState.init])
  hours t ht := absurd ht (by simp [TickState.init])
  parents t ht := absurd ht (by simp [TickState.init])
  kinds w hw := absurd hw List.not_mem_nil
  sums w hw := absurd hw List.not_mem_nil

/-- **Completed hours, shifts and days hold their final values** between the ticks of a run in
which no final value is missed. -/
theorem ticks_final {log : StateLog} {live : Table bucketRowSchema}
    {statements : List TickStatement}
    (hrun : Run (tickStep sc) (sc.KeepsFinal since) (.init log live since) statements s)
    (hphase : s.phase = .idle) {lastTick : Time} (hlast : s.lastTick = some lastTick) :
    (∀ r ∈ s.live.rows, sc.IsHour r → since < r.endTime → r.endTime ≤ lastTick →
      HoldsTally r (sc.fullTally s.log r.window)) ∧
    ∀ r ∈ s.live.rows, ∀ w ∈ sc.parentWindow r, since < w.window.stop → w.window.stop ≤ lastTick →
      sc.IsSumOf s.live w r := by
  have h : TickInvariant sc since s :=
    hrun.invariant (tickInvariant_init log live) fun s a s' hinv hok hs ↦ hinv.step hok hs
  refine ⟨fun r hr hhour hsince hend ↦ ?_, fun r hr w hw hsince hend ↦ ?_⟩
  · exact h.tally r hr hhour (h.hours lastTick hlast r hr hhour hsince hend)
  · have hfind : (sc.windowsAt r.startTime).find? (fun w ↦ decide (sc.keyOf w = r.key))
        = some w := hw
    have hkey : sc.keyOf w = r.key := by
      simpa only [decide_eq_true_eq] using List.find?_some hfind
    have hsync : sc.InSync s.live w :=
      (h.sums w (h.parents lastTick hlast r hr w hw hsince hend)).resolve_right <| by
        rintro ⟨t, ht, -⟩
        rw [hphase] at ht
        cases ht
    exact hsync r (hkey ▸ s.live.find_of_mem hr)

end

/-! ## Samples -/

def sampleTicks : MeteredTicks where
  f := oneShiftFacility 0 28800000
  siteId := 1
  stationId := 2
  reasons := [⟨9, true⟩]
  localToUtc seconds := seconds * 1000

/-- Two hours, with the shift and the day they are in. -/
def sampleScaffold : Table bucketRowSchema where
  rows := [sampleHour 0 0, { sampleHour 3600000 0 with id := 1 },
    { sampleHour 0 0 with id := 2, key := ⟨.station, 2, .shift, 0⟩, durationMs := 28800000 },
    { sampleHour 0 0 with id := 3, key := ⟨.station, 2, .day, 0⟩, durationMs := 86400000 }]
  nodup := by decide
  noClash := by decide

/-- A tick whose statement for `bucket` runs at `vNow`. -/
def sampleTick (timestamp vNow : Time) (bucket : Option BucketRow) : List TickStatement :=
  [.start timestamp, .durations vNow bucket (some 30) 2, .sync ⟨0, 0, 0, 0, none⟩, .shiftDay]

/-- Statements that are half a second late write final values: the shift is over at the last
tick. -/
theorem ticks_final_sample : ∃ s : TickState, s.lastTick = some 28805000 ∧
    (∀ r ∈ s.live.rows, sampleTicks.IsHour r → 0 < r.endTime → r.endTime ≤ 28805000 →
      HoldsTally r (sampleTicks.fullTally s.log r.window)) ∧
    ∀ r ∈ s.live.rows, ∀ w ∈ sampleTicks.parentWindow r, 0 < w.window.stop →
      w.window.stop ≤ 28805000 → sampleTicks.IsSumOf s.live w r := by
  have hexec : (execute (tickStep sampleTicks) (sampleTicks.KeepsFinal 0)
      (sampleTick 3599000 3600500 (some (sampleHour 0 0)) ++
        sampleTick 7199000 7200500 (some { sampleHour 3600000 0 with id := 1 }) ++
        sampleTick 28805000 28805100 none)
      (.init sampleLog sampleScaffold 0)).map (fun s ↦ (s.phase, s.lastTick))
      = some (.idle, some 28805000) := by
    decide +kernel
  obtain ⟨s, hs, hphase⟩ := Option.map_eq_some_iff.mp hexec
  have hlast := congrArg Prod.snd hphase
  exact ⟨s, hlast, ticks_final (run_of_execute hs) (congrArg Prod.fst hphase) hlast⟩

/-- Ticks five seconds apart: the last three seconds of the first hour are never counted. -/
theorem ticks_miss_end : ¬∀ (statements : List TickStatement) (s : TickState),
    Run (tickStep sampleTicks) (fun _ _ ↦ True) (.init sampleLog sampleScaffold 0) statements s →
    s.phase = .idle → ∀ lastTick ∈ s.lastTick, ∀ r ∈ s.live.rows, sampleTicks.IsHour r →
      0 < r.endTime → r.endTime ≤ lastTick →
        HoldsTally r (sampleTicks.fullTally s.log r.window) := by
  intro h
  have hexec : ((execute (tickStep sampleTicks) (fun _ _ ↦ True)
      (sampleTick 3597000 3597100 (some (sampleHour 0 0)) ++
        sampleTick 3602000 3602100 (some { sampleHour 3600000 0 with id := 1 }))
      (.init sampleLog sampleScaffold 0)).map fun s ↦ (s.phase, s.lastTick,
        s.live.rows.find? (fun r ↦ decide (sampleTicks.IsHour r ∧ 0 < r.endTime ∧
          r.endTime ≤ 3602000 ∧ r.kpis.additive .downSeconds
            ≠ (sampleTicks.fullTally s.log r.window).downSeconds)) |>.isSome))
      = some (.idle, some 3602000, true) := by
    decide +kernel
  obtain ⟨s, hs, hsample⟩ := Option.map_eq_some_iff.mp hexec
  have hlast : s.lastTick = some 3602000 := congrArg (fun x ↦ x.2.1) hsample
  obtain ⟨r, hfind⟩ := Option.isSome_iff_exists.mp (congrArg (fun x ↦ x.2.2) hsample)
  have hr := List.find?_some hfind
  rw [decide_eq_true_eq] at hr
  obtain ⟨hhour, hsince, hend, hdown⟩ := hr
  exact hdown (h _ s (run_of_execute hs) (congrArg Prod.fst hsample) _ hlast r
    (List.mem_of_find?_eq_some hfind) hhour hsince hend).downSeconds

end RwServer
