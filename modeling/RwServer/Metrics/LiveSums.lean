import Mathlib
import RwServer.Metrics.Archive
import RwServer.Metrics.FinalValues
import RwServer.Metrics.RollupExact

/-!
# Live sums and archived hours

The tick sums the hours of the current shift and of the current local day from `MetricBucket` alone,
where a rollup reads `MetricBucketLog` as well. The archive takes hours away from the tick once they
began more than 24 hours ago. A shift of 24 hours at most has none of them while it runs; a local
day has one of them in its 25th hour, where the clock has been put back (`liveSums_eq`).

What a run keeps is that the hours that only the log has began more than 24 hours before the clock
(`ArchivedBefore`).
-/

namespace RwServer

open Windows Relational Transition

/-! ## Archiving and ticks -/

/-- The statements of a tick for one station, and what they find. -/
structure TickCall where
  timestamp : Time
  log : StateLog
  /-- `NOW()`. -/
  vNow : Time
  bucket : Option BucketRow
  stdCycle : Option ℚ
  itemsPerCycle : ℤ
  js : JobSums

section

variable (sc : MeteredTicks)

/-- The live rows after `batchDurationRollup` and `syncExpectedCyclesFromJobs`. -/
def TickCall.writeHours (call : TickCall) (live : Table bucketRowSchema) : Table bucketRowSchema :=
  let counted := call.bucket.elim live fun bucket ↦
    live.modify (fun r ↦ decide (r.key = hourKey sc.stationId bucket.startTime))
      (BucketRow.updHour (batchDurations call.log sc.reasons sc.stationId bucket.startTime
        bucket.durationMs call.vNow call.stdCycle call.itemsPerCycle)) (mild_updHour _)
  counted.modify (BucketRow.isHourAt sc.stationId call.timestamp) (BucketRow.syncExpected call.js)
    (mild_syncExpected call.js)

/-- A tick. Its error, a sum over no row, is logged. -/
def combinedTick (call : TickCall) (t : BucketTables) : BucketTables :=
  let hours := call.writeHours sc t.live
  { t with live := (cascadeStationShiftDay sc hours call.timestamp).getD hours }

structure ClockedTables where
  tables : BucketTables
  /-- When the last call ran. -/
  clock : Time

inductive BucketCall
  | archive (call : ArchiveCall)
  | tick (call : TickCall)

/-- A call runs at one instant, none before the one before it. -/
def bucketStep : BucketCall → ClockedTables → Option ClockedTables
  | .archive call, s =>
    if s.clock ≤ call.now then some ⟨archiveSiteBuckets sc.f call s.tables, call.now⟩ else none
  | .tick call, s =>
    if s.clock ≤ call.timestamp ∧ sc.IsTarget s.tables.live call.timestamp call.bucket then
      some ⟨combinedTick sc call s.tables, call.timestamp⟩
    else none

/-- The hour of the station that begins at a time is in the log alone. -/
def MeteredTicks.LogOnly (t : BucketTables) (start : Time) : Prop :=
  t.live.find (hourKey sc.stationId start) = none ∧
    (t.log.find (hourKey sc.stationId start)).isSome = true

/-- The hours that only the log has began more than 24 hours before a time. -/
def MeteredTicks.ArchivedBefore (t : BucketTables) (now : Time) : Prop :=
  ∀ start, sc.LogOnly t start → start < now - msPerDay

/-- The shift or day, as a rollup takes it. -/
def ParentWindow.bucketWindow (w : ParentWindow) : BucketWindow :=
  ⟨w.window.start, w.window.stop - w.window.start⟩

/-- The row of a shift or day, if there is one, stores what a rollup stores from both tables. -/
def MeteredTicks.StoresBoth (t : BucketTables) (w : ParentWindow) : Prop :=
  ∀ r, t.live.find (sc.keyOf w) = some r → ∀ key, r.kpis.additive key =
    (sumBucketsInWindowWithStdCycle t .station sc.stationId .hour w.bucketWindow).kpis.additive key

end

/-! ## What only the log has -/

section

variable {sc : MeteredTicks} {t t' : BucketTables} {start now : Time}

/-- An archive run leaves the hours alone until it moves them. -/
theorem find_refreshOld_hour (f : Facility) (call : ArchiveCall) (t : BucketTables)
    (stationId : Uuid) (start : Time) :
    (((call.refreshOld f t).live.find (hourKey stationId start)).map BucketRow.id
        = (t.live.find (hourKey stationId start)).map BucketRow.id) ∧
      (call.refreshOld f t).log.find (hourKey stationId start)
        = t.log.find (hourKey stationId start) := by
  have hfreeze : ∀ (buckets : List BucketRow) (live : Table bucketRowSchema) (k : BucketKey),
      ((call.freezeAll buckets live).find k).map BucketRow.id
        = (live.find k).map BucketRow.id := by
    intro buckets
    induction buckets with
    | nil => exact fun live k ↦ rfl
    | cons b buckets ih =>
      intro live k
      refine (ih (freezeById b.id (call.durations b) live) k).trans ?_
      rw [freezeById, Table.find_modify, Option.map_map]
      refine congrArg (fun f ↦ Option.map f (live.find k)) (funext fun r ↦ ?_)
      rw [Function.comp_apply]
      split <;> rfl
  have hroll : ∀ (l : List Uuid) (input : Uuid → RollupInput) (t : BucketTables),
      (l.foldl (fun t stationId ↦ rollupBuckets f (input stationId) t) t).live.find
          (hourKey stationId start) = t.live.find (hourKey stationId start) ∧
        (l.foldl (fun t stationId ↦ rollupBuckets f (input stationId) t) t).log.find
          (hourKey stationId start) = t.log.find (hourKey stationId start) := by
    intro l input
    induction l with
    | nil => exact fun t ↦ ⟨rfl, rfl⟩
    | cons x l ih =>
      intro t
      have hone : (rollupBuckets f (input x) t).live.find (hourKey stationId start)
            = t.live.find (hourKey stationId start) ∧
          (rollupBuckets f (input x) t).log.find (hourKey stationId start)
            = t.log.find (hourKey stationId start) := by
        rw [rollupBuckets]
        split
        · exact ⟨rfl, rfl⟩
        · exact find_rollup_of_hour f (input x) rfl rfl t
      rw [List.foldl_cons]
      exact ⟨(ih _).1.trans hone.1, (ih _).2.trans hone.2⟩
  obtain ⟨hlive, hlog⟩ := hroll ((call.stationBuckets t.live).map fun r ↦ r.key.entityId).eraseDups
    (fun stationId ↦ call.frozenRollup f stationId (((call.stationBuckets t.live).filter
      fun r ↦ r.key.entityId == stationId).map fun r ↦ ⟨r.startTime, r.durationMs⟩))
    { t with live := call.freezeAll (call.stationBuckets t.live) t.live }
  exact ⟨(congrArg (Option.map BucketRow.id) hlive).trans (hfreeze _ _ _), hlog⟩

/-- **Archiving** takes an hour away from the live rows only once it began 24 hours ago. -/
theorem MeteredTicks.ArchivedBefore.archive {call : ArchiveCall} (h : sc.ArchivedBefore t now)
    (hnow : now ≤ call.now) (f : Facility) :
    sc.ArchivedBefore (archiveSiteBuckets f call t) call.now := by
  rintro start ⟨hlive, hlog⟩
  rw [archiveSiteBuckets_eq, moveBuckets] at hlive hlog
  obtain ⟨hid, hlog'⟩ := find_refreshOld_hour f call t sc.stationId start
  rw [Table.find_delete, Option.filter_eq_none_iff] at hlive
  cases hfind : (call.refreshOld f t).live.find (hourKey sc.stationId start) with
  | none =>
    -- the hour was in the log alone before
    have hkeys : ∀ r ∈ (call.refreshOld f t).live.rows, hasId (call.archivedIds t.live) r = true →
        r.key ≠ hourKey sc.stationId start := fun r hr _ ↦ Table.find_eq_none_iff.mp hfind r hr
    rw [Table.find_copyDown_of_forall_ne hkeys, hlog'] at hlog
    rw [hfind, Option.map_none, eq_comm, Option.map_eq_none_iff] at hid
    exact (h start ⟨hid, hlog⟩).trans_le (sub_le_sub_right hnow _)
  | some r =>
    -- the hour is moved, so that it is one of the old ones
    rw [hfind, Option.map_some, eq_comm, Option.map_eq_some_iff] at hid
    obtain ⟨a, ha, hida⟩ := hid
    obtain ⟨hamem, hakey⟩ := Table.find_eq_some_iff.mp ha
    have hmoved := hlive r (by rw [hfind])
    rw [Bool.not_eq_true', Bool.not_eq_false, hasId, List.contains_iff_mem] at hmoved
    obtain ⟨o, ho, hido⟩ := List.mem_map.mp hmoved
    obtain ⟨homem, hold⟩ := List.mem_filter.mp ho
    have heq : o = a := by
      by_contra hne
      have hids : (o.id == a.id) = false := t.live.clash_eq_false homem hamem hne
      rw [hido, hida, beq_self_eq_true] at hids
      exact Bool.noConfusion hids
    rw [isOld, Bool.and_eq_true, Bool.and_eq_true, decide_eq_true_eq] at hold
    have hstart : o.startTime = start := congrArg BucketKey.startTime (heq ▸ hakey)
    exact hstart ▸ hold.1.2

/-! ### Ticks -/

theorem find_modify_eq_none_iff {live : Table bucketRowSchema} {p : BucketRow → Bool}
    {f : BucketRow → BucketRow} (hf : Table.Mild bucketRowSchema f) {k : BucketKey} :
    (live.modify p f hf).find k = none ↔ live.find k = none := by
  rw [Table.find_modify, Option.map_eq_none_iff]

theorem find_foldl_resum_eq_none_iff {ws : List ParentWindow} {k : BucketKey} :
    ∀ live : Table bucketRowSchema, (ws.foldl sc.resum live).find k = none ↔
      live.find k = none := by
  induction ws with
  | nil => exact fun live ↦ Iff.rfl
  | cons w ws ih =>
    exact fun live ↦ (ih (sc.resum live w)).trans (find_modify_eq_none_iff (mild_setSums _))

theorem find_writeHours_eq_none_iff {call : TickCall} {live : Table bucketRowSchema}
    {k : BucketKey} : (call.writeHours sc live).find k = none ↔ live.find k = none := by
  rw [TickCall.writeHours, find_modify_eq_none_iff]
  cases call.bucket with
  | none => exact Iff.rfl
  | some bucket => exact find_modify_eq_none_iff (mild_updHour _)

/-- What `cascadeStationShiftDay` returns, if it returns. -/
theorem cascade_eq_some {live live' : Table bucketRowSchema} {timestamp : Time}
    (h : cascadeStationShiftDay sc live timestamp = some live') :
    (sc.windowsAt timestamp).foldl sc.resum live = live' := by
  rw [cascadeStationShiftDay] at h
  split at h
  · exact absurd h (Option.some_ne_none _).symm
  · exact Option.some_inj.mp h

/-- A tick neither adds nor removes a row. -/
theorem logOnly_combinedTick_iff {call : TickCall} :
    sc.LogOnly (combinedTick sc call t) start ↔ sc.LogOnly t start := by
  have hkeys : ∀ k, (combinedTick sc call t).live.find k = none ↔ t.live.find k = none := by
    intro k
    rw [combinedTick]
    dsimp only
    cases hcascade : cascadeStationShiftDay sc (call.writeHours sc t.live) call.timestamp with
    | none => exact find_writeHours_eq_none_iff
    | some live =>
      rw [Option.getD_some, ← cascade_eq_some hcascade, find_foldl_resum_eq_none_iff]
      exact find_writeHours_eq_none_iff
  exact and_congr_left fun _ ↦ hkeys _

/-- **A step keeps the hours of the last 24 hours** out of the log alone. -/
theorem MeteredTicks.ArchivedBefore.step {s s' : ClockedTables} {call : BucketCall}
    (h : sc.ArchivedBefore s.tables s.clock) (hs : bucketStep sc call s = some s') :
    sc.ArchivedBefore s'.tables s'.clock ∧ s.clock ≤ s'.clock := by
  cases call with
  | archive call =>
    rw [bucketStep] at hs
    split at hs
    · rename_i hclock
      cases hs
      exact ⟨h.archive hclock sc.f, hclock⟩
    · cases hs
  | tick call =>
    rw [bucketStep] at hs
    split at hs
    · rename_i hguard
      cases hs
      exact ⟨fun start hstart ↦ (h start (logOnly_combinedTick_iff.mp hstart)).trans_le
        (sub_le_sub_right hguard.1 _), hguard.1⟩
    · cases hs

theorem MeteredTicks.ArchivedBefore.run {s s' : ClockedTables} {calls : List BucketCall}
    (h : sc.ArchivedBefore s.tables s.clock)
    (hrun : Run (bucketStep sc) (fun _ _ ↦ True) s calls s') :
    sc.ArchivedBefore s'.tables s'.clock := by
  induction hrun with
  | nil => exact h
  | snoc _ _ hs ih => exact (ih.step hs).1

/-! ## Sums -/

/-- Without an hour that only the log has, both queries select the same hours. -/
theorem sumBuckets_eq_hoursIn {w : ParentWindow}
    (h : ∀ start, sc.LogOnly t start → ¬w.window.Contains start) (key : KpiKey) :
    (sumBucketsInWindowWithStdCycle t .station sc.stationId .hour w.bucketWindow).kpis.additive key
      = ((sc.hoursIn w t.live).map fun r ↦ r.kpis.additive key).sum := by
  have hsub : ∀ r : BucketRow,
      isSubBucket .station sc.stationId .hour w.bucketWindow r
        = decide (sc.IsHour r ∧ w.window.Contains r.startTime) := by
    intro r
    have hend : w.bucketWindow.endTime = w.window.stop := add_sub_cancel _ _
    rw [Bool.eq_iff_iff, isSubBucket_iff, isSubKey_iff, decide_eq_true_eq, hend]
    refine and_congr_left fun _ ↦ ⟨fun hkey ↦ ?_, fun hkey ↦ ?_⟩
    · exact BucketKey.ext hkey.1 hkey.2.1 hkey.2.2 rfl
    · rw [hkey]
      exact ⟨rfl, rfl, rfl⟩
  have hlog : (t.log.rows.filter (isSubBucket .station sc.stationId .hour w.bucketWindow)).filter
      (fun r ↦ decide (r.startTime ∉ (t.live.rows.filter
        (isSubBucket .station sc.stationId .hour w.bucketWindow)).map BucketRow.startTime))
      = [] := by
    refine List.filter_eq_nil_iff.mpr fun r hr hhidden ↦ ?_
    obtain ⟨hmem, hp⟩ := List.mem_filter.mp hr
    rw [hsub, decide_eq_true_eq] at hp
    rw [decide_eq_true_eq] at hhidden
    cases hlive : t.live.find (hourKey sc.stationId r.startTime) with
    | none =>
      refine h r.startTime ⟨hlive, ?_⟩ hp.2
      have hfind : t.log.find r.key = some r := Table.find_of_mem hmem
      rw [hp.1] at hfind
      rw [hfind]
      rfl
    | some a =>
      obtain ⟨hamem, hakey⟩ := Table.find_eq_some_iff.mp hlive
      have hstart : a.startTime = r.startTime := by
        rw [BucketRow.startTime, show a.key = _ from hakey]
        rfl
      refine hhidden (List.mem_map.mpr ⟨a, List.mem_filter.mpr ⟨hamem, ?_⟩, hstart⟩)
      rw [hsub, decide_eq_true_eq, hstart]
      refine ⟨?_, hp.2⟩
      rw [MeteredTicks.IsHour, hstart]
      exact hakey
  rw [sumBucketsInWindowWithStdCycle, sumKPIs_additive, List.map_map, subBuckets,
    ((List.perm_insertionSort _ _).map _).sum_eq, Table.preferFirst, hlog, List.append_nil,
    MeteredTicks.hoursIn, funext hsub]
  rfl

/-! ## The windows of a tick -/

theorem mem_of_shiftInfo {timestamp : Time} {i : ShiftInstance}
    (h : sc.shiftInfo timestamp = some i) :
    i ∈ sc.f.shiftInstances ∧ i.window.Contains timestamp := by
  have hmem := (List.mem_filter.mp (List.mem_filter.mp (mem_of_newest h)).1)
  rw [Bool.and_eq_true] at hmem
  exact ⟨hmem.1, ShiftInstance.isAt_iff.mp hmem.2.2⟩

private theorem not_contains_of_lt {start timestamp lo : ℤ} (hstart : start < timestamp - msPerDay)
    (hlo : timestamp ≤ lo + msPerDay) : ¬lo ≤ start := by
  omega

/-- What began more than 24 hours ago is in no shift that runs, and not in a day whose 24 hours are
not over. -/
theorem not_contains_of_mem_windowsAt
    (hshifts : ∀ i ∈ sc.f.shiftInstances, i.endTime ≤ i.startTime + msPerDay) {timestamp : Time}
    {w : ParentWindow} (hw : w ∈ sc.windowsAt timestamp)
    (hday : w.granularity = .day → timestamp ≤ w.window.start + msPerDay)
    (hstart : start < timestamp - msPerDay) : ¬w.window.Contains start := by
  refine fun hcontains ↦ not_contains_of_lt hstart ?_ hcontains.1
  rw [MeteredTicks.windowsAt, List.mem_append, List.mem_map, List.mem_singleton] at hw
  rcases hw with ⟨i, hi, rfl⟩ | rfl
  · obtain ⟨hmem, hin⟩ := mem_of_shiftInfo (Option.mem_toList.mp hi)
    exact hin.2.le.trans (hshifts i hmem)
  · exact hday rfl

/-- Different shifts and days of a tick have different rows. -/
theorem eq_of_keyOf_eq {timestamp : Time} {w w' : ParentWindow} (hw : w ∈ sc.windowsAt timestamp)
    (hw' : w' ∈ sc.windowsAt timestamp) (h : sc.keyOf w' = sc.keyOf w) : w' = w := by
  have hgran : w'.granularity = w.granularity := congrArg BucketKey.granularity h
  rw [MeteredTicks.windowsAt, List.mem_append, List.mem_map, List.mem_singleton] at hw hw'
  rcases hw with ⟨i, hi, rfl⟩ | rfl <;> rcases hw' with ⟨j, hj, rfl⟩ | rfl
  · rw [Option.mem_toList.mp hi |>.symm.trans (Option.mem_toList.mp hj) |> Option.some_inj.mp]
  · cases hgran
  · cases hgran
  · rfl

end

/-- **The sums of a tick are the sums of both tables**, in every run of archiving and ticks, and no
hour that they are about is in the log alone: for the shift that runs always, and for the local day
where the tick runs within 24 hours of its start. -/
theorem liveSums_eq {sc : MeteredTicks}
    (hshifts : ∀ i ∈ sc.f.shiftInstances, i.endTime ≤ i.startTime + msPerDay)
    {s₀ s s' : ClockedTables} {calls : List BucketCall} {call : TickCall}
    (h₀ : sc.ArchivedBefore s₀.tables s₀.clock)
    (hrun : Run (bucketStep sc) (fun _ _ ↦ True) s₀ calls s)
    (hstep : bucketStep sc (.tick call) s = some s') :
    ∀ w ∈ sc.windowsAt call.timestamp,
      (w.granularity = .day → call.timestamp ≤ w.window.start + msPerDay) →
      (∀ start, sc.LogOnly s'.tables start → ¬w.window.Contains start) ∧
        ((cascadeStationShiftDay sc (call.writeHours sc s.tables.live)
            call.timestamp).isSome = true →
          sc.StoresBoth s'.tables w) := by
  intro w hw hday
  obtain ⟨hbefore, -⟩ := (h₀.run hrun).step hstep
  rw [bucketStep] at hstep
  split at hstep
  · cases hstep
    have hlogOnly : ∀ start, sc.LogOnly (combinedTick sc call s.tables) start →
        ¬w.window.Contains start := fun start hstart ↦
      not_contains_of_mem_windowsAt hshifts hw hday (hbefore start hstart)
    refine ⟨hlogOnly, fun hsome r hr key ↦ ?_⟩
    rw [sumBuckets_eq_hoursIn hlogOnly]
    obtain ⟨live, hlive⟩ := Option.isSome_iff_exists.mp hsome
    have hkinds : ∀ w ∈ sc.windowsAt call.timestamp, w.granularity ≠ .hour := fun w hw ↦
      MeteredTicks.granularity_of_mem_windowsAt hw
    obtain ⟨-, -, hsync⟩ := foldl_resum sc (call.writeHours sc s.tables.live) hkinds
    rw [cascade_eq_some hlive] at hsync
    have htables : (combinedTick sc call s.tables).live = live := by
      rw [combinedTick]
      dsimp only
      rw [hlive, Option.getD_some]
    rw [htables] at hr ⊢
    exact hsync w (fun w' hw' ↦ eq_of_keyOf_eq hw hw') (.inr hw) r hr key
  · cases hstep

/-! ## Samples -/

/-- Two hours ahead of UTC, and one hour from 1:00 UTC on. -/
def fallBack : Timezone := ⟨fun s ↦ if s < 3600 then s + 7200 else s + 3600⟩

/-- A site where the clock is put back, with a shift on the day after. -/
def fallBackTicks : MeteredTicks where
  f := { oneShiftFacility 100000000 110000000 with sites := [⟨1, "Plant", fallBack⟩] }
  siteId := 1
  stationId := 2
  reasons := []
  localToUtc seconds := (if seconds < 7200 then seconds - 7200 else seconds - 3600) * 1000

/-- The first hour of the day of 25 hours, one in the middle, and the row of the day. -/
def fallBackHours : Table bucketRowSchema where
  rows := [sampleHour (-7200000) 5, { sampleHour 3600000 3 with id := 1 },
    { sampleHour (-7200000) 0 with
      id := 2, key := ⟨.station, 2, .day, -7200000⟩, durationMs := 90000000 }]
  nodup := by decide
  noClash := by decide

/-- Before the first call. -/
def fallBackStart : ClockedTables := ⟨⟨fallBackHours, .empty _⟩, 0⟩

def fallBackArchive (now : Time) : BucketCall := .archive ⟨1, now, sampleLog, [], fun _ ↦ now⟩

def fallBackTick (now : Time) : TickCall := ⟨now, sampleLog, now, none, none, 1, ⟨0, 0, 0, 0, none⟩⟩

theorem fallBackStart_archivedBefore :
    fallBackTicks.ArchivedBefore fallBackStart.tables fallBackStart.clock :=
  fun _ h ↦ absurd h.2 Bool.false_ne_true

/-- In the 23rd hour of the day its first hour is still live. -/
theorem liveSums_eq_fallBack : ∃ s s' : ClockedTables,
    Run (bucketStep fallBackTicks) (fun _ _ ↦ True) fallBackStart [fallBackArchive 75000000] s ∧
    bucketStep fallBackTicks (.tick (fallBackTick 75000000)) s = some s' ∧
    fallBackTicks.StoresBoth s'.tables ⟨.day, fallBackTicks.localDay 75000000⟩ := by
  have hexec : (execute (bucketStep fallBackTicks) (fun _ _ ↦ True) [fallBackArchive 75000000]
      fallBackStart).any (fun s ↦
        (bucketStep fallBackTicks (.tick (fallBackTick 75000000)) s).isSome &&
        (cascadeStationShiftDay fallBackTicks ((fallBackTick 75000000).writeHours fallBackTicks
          s.tables.live) 75000000).isSome) = true := by
    decide +kernel
  obtain ⟨s, hs, hboth⟩ := (Option.any_eq_true _ _).mp hexec
  obtain ⟨hstep, hsome⟩ := Bool.and_eq_true_iff.mp hboth
  obtain ⟨s', hs'⟩ := Option.isSome_iff_exists.mp hstep
  refine ⟨s, s', run_of_execute hs, hs', ?_⟩
  exact (liveSums_eq (by decide +kernel) fallBackStart_archivedBefore (run_of_execute hs) hs' _
    (List.mem_append_right _ (List.mem_singleton_self _)) fun _ ↦ by decide +kernel).2 hsome

/-- In the 25th hour of the day its first hour is archived: the row of the day stores three cycles
where both tables have eight. -/
theorem not_liveSums_eq : ∃ s : ClockedTables,
    Run (bucketStep fallBackTicks) (fun _ _ ↦ True) fallBackStart
      [fallBackArchive 82000000, .tick (fallBackTick 82000000)] s ∧
    (fallBackTicks.localDay 82000000).Contains (-7200000) ∧
    fallBackTicks.LogOnly s.tables (-7200000) ∧
    ((s.tables.live.find ⟨.station, 2, .day, -7200000⟩).map fun r ↦ r.kpis.additive .totalCycles)
      = some 3 ∧
    (sumBucketsInWindowWithStdCycle s.tables .station 2 .hour
      (ParentWindow.bucketWindow ⟨.day, fallBackTicks.localDay 82000000⟩)).kpis.additive
        .totalCycles = 8 := by
  have hexec : (execute (bucketStep fallBackTicks) (fun _ _ ↦ True)
      [fallBackArchive 82000000, .tick (fallBackTick 82000000)] fallBackStart).any (fun s ↦ decide
        ((s.tables.live.find (hourKey 2 (-7200000))).isNone = true ∧
        (s.tables.log.find (hourKey 2 (-7200000))).isSome = true ∧
        ((s.tables.live.find ⟨.station, 2, .day, -7200000⟩).map
          fun r ↦ r.kpis.additive .totalCycles) = some 3 ∧
        (sumBucketsInWindowWithStdCycle s.tables .station 2 .hour
          (ParentWindow.bucketWindow ⟨.day, fallBackTicks.localDay 82000000⟩)).kpis.additive
            .totalCycles = 8)) = true := by
    decide +kernel
  obtain ⟨s, hs, hall⟩ := (Option.any_eq_true _ _).mp hexec
  obtain ⟨hlive, hlog, hday, hboth⟩ := of_decide_eq_true hall
  exact ⟨s, run_of_execute hs, by decide +kernel, ⟨Option.isNone_iff_eq_none.mp hlive, hlog⟩, hday,
    hboth⟩

end RwServer
