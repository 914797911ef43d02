import RwServer.Metrics.StateTally
import RwServer.Station.Chain

/-!
# Reconciling the state log after a replay burst

`fixStateEntries` soft-deletes every live entry that overlaps the replay window or is open, and
puts a closed `UP` entry over the window and an open `UP` entry after it. On the timeline: the
spans that do not overlap the window stay, and `[minTs, maxTs)` and `[maxTs, ∞)` are added
(`fixStateEntries_timeline`).

From a gap-free chain this keeps the entries disjoint exactly when nothing was recorded after the
window (`fixStateEntries_disjoint_iff`), and loses no covered instant exactly when nothing was
recorded before it (`fixStateEntries_keepsCoverage_iff`).
-/

open scoped List

namespace RwServer

open Timeline Relational

/-! ## The transaction -/

/-- The row condition of the soft delete, besides the station. -/
def overlapsWindow (minTs maxTs : Time) (s : Span Time) : Bool :=
  (decide (s.start ≤ maxTs) && s.stop.all fun t ↦ decide (minTs ≤ t)) || s.stop.isNone

/-- The soft delete; `now` is the `NOW()` of the transaction. -/
def softDeleteOverlapping (log : StateLog) (stationId : Uuid) (minTs maxTs now : Time) :
    Option StateLog :=
  log.updateMany (fun e ↦ e.isLive stationId && overlapsWindow minTs maxTs e.span)
    fun e ↦ { e with deletedAt := some now }

/-- A replacement entry: `UP`, without a reason. -/
def replacementEntry (id stationId : Uuid) (startTime : Time) (endTime : Option Time)
    (blockId : Uuid) (jobBlobId : Option Uuid) : StationStateLog where
  id := id
  stationId := stationId
  startTime := startTime
  endTime := endTime
  state := .up
  status := some .up
  blockId := blockId
  statusReasonId := none
  jobBlobId := jobBlobId
  deletedAt := none

/-- `closedId` and `openId` are the row ids the database draws, `blockId` the `randomUUID()`. -/
def fixStateEntries (log : StateLog) (jobLog : List StationJobLog)
    (closedId openId blockId stationId : Uuid) (minTs maxTs now : Time) : Option StateLog := do
  let log ← softDeleteOverlapping log stationId minTs maxTs now
  let jobBlobId := activeJobBlobId jobLog stationId
  let log ← log.insert (replacementEntry closedId stationId minTs (some maxTs) blockId jobBlobId)
  log.insert (replacementEntry openId stationId maxTs none blockId jobBlobId)

/-! ## Its move on the timeline -/

theorem overlapsWindow_eq_false {minTs maxTs : Time} {s : Span Time} :
    overlapsWindow minTs maxTs s = false ↔ ∃ e ∈ s.stop, maxTs < s.start ∨ e < minTs := by
  rw [overlapsWindow]
  cases hstop : s.stop with
  | none => simp
  | some e =>
    simp only [Option.all_some, Option.isNone_some, Bool.or_false, Bool.and_eq_false_iff,
      decide_eq_false_iff_not, not_le, Option.mem_def, Option.some.injEq, exists_eq_left']

theorem mild_softDelete (now : Time) :
    Table.Mild stateLogSchema fun e ↦ { e with deletedAt := some now } :=
  mild_of_keeps (fun _ ↦ rfl) (fun _ ↦ rfl) fun e h ↦ by
    rw [StationStateLog.isOpen_iff] at h
    exact absurd h.2 (by simp)

/-- A soft delete takes spans out of the timeline. -/
theorem timeline_of_softDelete {log log' : StateLog} {stationId : Uuid} {minTs maxTs now : Time}
    (h : softDeleteOverlapping log stationId minTs maxTs now = some log') :
    log'.timeline stationId
      = (log.timeline stationId).filter fun s ↦ !overlapsWindow minTs maxTs s := by
  rw [StateLog.timeline, StateLog.timeline, StateLog.live, StateLog.live,
    Table.rows_of_updateMany (mild_softDelete now) h, List.filter_map, List.filter_map,
    List.map_map, List.filter_filter]
  have hfilter : log.rows.filter ((·.isLive stationId) ∘ fun e ↦
        if (e.isLive stationId && overlapsWindow minTs maxTs e.span) = true
        then { e with deletedAt := some now } else e)
      = log.rows.filter fun e ↦
        ((fun s ↦ !overlapsWindow minTs maxTs s) ∘ StationStateLog.span) e
          && e.isLive stationId := by
    refine List.filter_congr fun e _ ↦ ?_
    rw [Function.comp_apply, Function.comp_apply]
    split
    · rename_i hp
      rw [Bool.and_eq_true] at hp
      rw [hp.2, StationStateLog.isLive]
      simp
    · rename_i hp
      rw [Bool.not_eq_true, Bool.and_eq_false_iff] at hp
      rcases hp with hp | hp <;> rw [hp] <;> simp
  rw [hfilter]
  refine List.map_congr_left fun e _ ↦ ?_
  rw [Function.comp_apply]
  split <;> rfl

/-- **The move of `fixStateEntries`**: what overlaps the window or is open goes, the window and
the open tail after it come. -/
theorem fixStateEntries_timeline {log log' : StateLog} {jobLog : List StationJobLog}
    {closedId openId blockId stationId : Uuid} {minTs maxTs now : Time}
    (h : fixStateEntries log jobLog closedId openId blockId stationId minTs maxTs now
      = some log') :
    log'.timeline stationId ~ ⟨maxTs, none⟩ :: ⟨minTs, some maxTs⟩ ::
      (log.timeline stationId).filter fun s ↦ !overlapsWindow minTs maxTs s := by
  rw [fixStateEntries] at h
  obtain ⟨log₁, hdelete, h⟩ := Option.bind_eq_some_iff.mp h
  obtain ⟨log₂, hclosed, hopen⟩ := Option.bind_eq_some_iff.mp h
  have h₂ : StateLog.timeline log₂ stationId ~
      ⟨minTs, some maxTs⟩ :: StateLog.timeline log₁ stationId :=
    timeline_of_insert (StationStateLog.isLive_iff.mpr ⟨rfl, rfl⟩) hclosed
  have h₃ : log'.timeline stationId ~ ⟨maxTs, none⟩ :: StateLog.timeline log₂ stationId :=
    timeline_of_insert (StationStateLog.isLive_iff.mpr ⟨rfl, rfl⟩) hopen
  rw [timeline_of_softDelete hdelete] at h₂
  exact h₃.trans (h₂.cons _)

/-- With fresh row ids the transaction always commits: after the soft delete nothing is open. -/
theorem exists_fixStateEntries (log : StateLog) (jobLog : List StationJobLog)
    (closedId openId blockId stationId : Uuid) (minTs maxTs now : Time)
    (hclosed : closedId ∉ log.rows.map StationStateLog.id)
    (hopen : openId ∉ log.rows.map StationStateLog.id) (hne : openId ≠ closedId) :
    ∃ log', fixStateEntries log jobLog closedId openId blockId stationId minTs maxTs now
      = some log' := by
  obtain ⟨log₁, hdelete, hrows₁⟩ := Table.exists_updateMany (mild_softDelete now) log
    fun e ↦ e.isLive stationId && overlapsWindow minTs maxTs e.span
  have hids : log₁.rows.map StationStateLog.id = log.rows.map StationStateLog.id :=
    Table.map_key_of_updateMany (mild_softDelete now) hdelete
  have hnone : ∀ e ∈ log₁.rows, isOpenOf stationId e = false := by
    intro e he
    rw [hrows₁, List.mem_map] at he
    obtain ⟨e₀, -, rfl⟩ := he
    rw [← Bool.not_eq_true, isOpenOf_iff]
    rintro ⟨hst, hend, hdel⟩
    split at hst <;> rename_i hp
    · rw [if_pos hp] at hdel
      exact absurd hdel (by simp)
    · rw [if_neg hp] at hend hdel
      exact hp (by simp [StationStateLog.isLive, overlapsWindow, hst, hend, hdel])
  let closedEntry := replacementEntry closedId stationId minTs (some maxTs) blockId
    (activeJobBlobId jobLog stationId)
  let openEntry := replacementEntry openId stationId maxTs none blockId
    (activeJobBlobId jobLog stationId)
  obtain ⟨log₂, hlog₂⟩ : ∃ log₂, log₁.insert closedEntry = some log₂ := by
    refine Table.exists_insert (hids ▸ hclosed) fun a _ ↦ ?_
    rw [← Bool.not_eq_true, clash_iff]
    exact fun hc ↦ absurd hc.2.2 (by simp [closedEntry, replacementEntry, StationStateLog.isOpen])
  obtain ⟨log₃, hlog₃⟩ : ∃ log₃, log₂.insert openEntry = some log₃ := by
    rw [← hids] at hopen
    have hrows₂ := Table.rows_of_insert hlog₂
    refine Table.exists_insert ?_ fun a ha ↦ ?_
    · rw [hrows₂, List.map_append, List.mem_append, not_or]
      exact ⟨hopen, fun hmem ↦ hne (List.mem_singleton.mp hmem)⟩
    · rw [← Bool.not_eq_true, clash_iff]
      rintro ⟨hst, haopen, -⟩
      rw [hrows₂, List.mem_append, List.mem_singleton] at ha
      rcases ha with ha | rfl
      · have hopenOf : isOpenOf stationId a = true := by
          rw [isOpenOf, Bool.and_eq_true, beq_iff_eq]
          exact ⟨hst, haopen⟩
        rw [hnone a ha] at hopenOf
        exact absurd hopenOf (by simp)
      · exact absurd haopen (by simp [closedEntry, replacementEntry, StationStateLog.isOpen])
  refine ⟨log₃, ?_⟩
  rw [fixStateEntries, softDeleteOverlapping, hdelete]
  exact Option.bind_eq_some_iff.mpr ⟨log₁, rfl, Option.bind_eq_some_iff.mpr ⟨log₂, hlog₂, hlog₃⟩⟩

/-! ## When the entries stay disjoint -/

/-- No two live entries of the station overlap, exactly one is open, and no tally counts an instant
twice. -/
structure DisjointEntries (log : StateLog) (stationId : Uuid) : Prop where
  apart : (log.live stationId).Pairwise fun a b ↦ a.span.Apart b.span
  one_open : ∃! e, e ∈ log.live stationId ∧ e.endTime = none
  counted_once : ∀ reasons bucketStart bucketEnd now,
    (stateLogMs log reasons stationId bucketStart bucketEnd now none).totalMs
      = (coveredInstants log stationId bucketStart bucketEnd now).card

/-- A span that was kept stops before the window, or starts after it. -/
theorem mem_kept {minTs maxTs : Time} {l : List (Span Time)} {s : Span Time} :
    s ∈ l.filter (fun s ↦ !overlapsWindow minTs maxTs s) ↔
      s ∈ l ∧ ∃ e ∈ s.stop, maxTs < s.start ∨ e < minTs := by
  rw [List.mem_filter, Bool.not_eq_true', overlapsWindow_eq_false]

/-- After the window there are only empty spans. -/
theorem apart_of_emptyAfter {minTs maxTs : Time} {l : List (Span Time)}
    (hapart : l.Pairwise Span.Apart) (hle : minTs ≤ maxTs)
    (hempty : ∀ s ∈ l, maxTs < s.start → ∀ e ∈ s.stop, e ≤ s.start) :
    ((⟨maxTs, none⟩ : Span Time) :: ⟨minTs, some maxTs⟩ ::
      l.filter fun s ↦ !overlapsWindow minTs maxTs s).Pairwise Span.Apart := by
  rw [List.pairwise_cons, List.pairwise_cons]
  refine ⟨?_, ?_, hapart.sublist List.filter_sublist⟩
  · intro s hs
    rcases List.mem_cons.mp hs with rfl | hs
    · exact (Span.Precedes.apart ⟨maxTs, rfl, le_rfl⟩).symm
    · obtain ⟨hsl, e, he, hafter | hbefore⟩ := mem_kept.mp hs
      · intro t _ hst
        exact absurd (hst.1.trans_lt (hst.2 e he)) (not_lt.mpr (hempty s hsl hafter e he))
      · exact (Span.Precedes.apart ⟨e, he, (hbefore.trans_le hle).le⟩).symm
  · intro s hs
    obtain ⟨-, e, he, hafter | hbefore⟩ := mem_kept.mp hs
    · exact Span.Precedes.apart ⟨maxTs, rfl, hafter.le⟩
    · exact (Span.Precedes.apart ⟨e, he, hbefore.le⟩).symm

/-- **Reconciliation keeps the entries disjoint exactly when nothing was recorded after the
window**: from a gap-free chain, the live entries are pairwise disjoint with one open entry if and
only if every closed live entry that starts after `maxTs` is empty. -/
theorem fixStateEntries_disjoint_iff {log log' : StateLog} {jobLog : List StationJobLog}
    {closedId openId blockId stationId : Uuid} {minTs maxTs now : Time}
    (hgap : GapFree log stationId) (hle : minTs ≤ maxTs)
    (h : fixStateEntries log jobLog closedId openId blockId stationId minTs maxTs now
      = some log') :
    DisjointEntries log' stationId ↔
      ∀ e ∈ log.live stationId, maxTs < e.startTime → ∀ t ∈ e.endTime, t = e.startTime := by
  have hmove := fixStateEntries_timeline h
  constructor
  · intro hdisj e he hafter t ht
    by_contra hne
    have hlt : e.startTime < t :=
      lt_of_le_of_ne (hgap.tiling.wellFormed e.span (List.mem_map_of_mem he) t ht) (Ne.symm hne)
    have hapart : (log'.timeline stationId).Pairwise Span.Apart := List.pairwise_map.mpr hdisj.apart
    rw [hmove.pairwise_iff fun h ↦ h.symm, List.pairwise_cons] at hapart
    have hkept : e.span ∈ (log.timeline stationId).filter
        fun s ↦ !overlapsWindow minTs maxTs s :=
      mem_kept.mpr ⟨List.mem_map_of_mem he, t, ht, Or.inl hafter⟩
    -- its first instant also lies in the new open entry
    refine hapart.1 e.span (List.mem_cons_of_mem _ hkept) e.startTime ?_ ?_
    · exact (Span.covers_open rfl).mpr hafter.le
    · exact (Span.covers_closed (Option.mem_def.mp ht)).mpr ⟨le_rfl, hlt⟩
  · intro hempty
    have hspans : (log'.timeline stationId).Pairwise Span.Apart := by
      rw [hmove.pairwise_iff fun h ↦ h.symm]
      refine apart_of_emptyAfter hgap.tiling.tiles.apart hle fun s hs hafter e he ↦ ?_
      obtain ⟨entry, hentry, rfl⟩ := StateLog.mem_timeline.mp hs
      exact (hempty entry hentry hafter e he).le
    have hapart := List.pairwise_map.mp hspans
    refine ⟨hapart, ?_, fun reasons bucketStart bucketEnd now ↦
      totalMs_eq_card hapart reasons bucketStart bucketEnd now⟩
    obtain ⟨e, he, hspan⟩ := StateLog.mem_timeline.mp (hmove.mem_iff.mpr List.mem_cons_self)
    refine ⟨e, ⟨he, congrArg Span.stop hspan⟩, ?_⟩
    rintro e' ⟨he', hopen'⟩
    rw [StateLog.mem_live] at he he'
    exact log'.eq_of_isOpenOf he'.1 he.1 (isOpenOf_iff.mpr ⟨he'.2.1, hopen', he'.2.2⟩)
      (isOpenOf_iff.mpr ⟨he.2.1, congrArg Span.stop hspan, he.2.2⟩)

/-- Three live cycles: `[0, 10)`, `[10, 20)`, `[20, 30)` and an open entry. -/
def threeCycles : StateLog where
  rows := [replacementEntry 1 1 0 (some 10) 1 none, replacementEntry 2 1 10 (some 20) 1 none,
    replacementEntry 3 1 20 (some 30) 1 none, replacementEntry 4 1 30 none 1 none]
  nodup := by decide
  noClash := by decide

private theorem gapFree_threeCycles : GapFree threeCycles 1 :=
  ⟨threeCycles.rows, .refl _, by decide, by decide, by decide, by decide⟩

/-- A window that lies before the last cycles leaves them under the new open entry. -/
theorem fixStateEntries_overlaps_threeCycles : GapFree threeCycles 1 ∧ ∃ log',
    fixStateEntries threeCycles [] 5 6 7 1 2 5 100 = some log' ∧ ¬DisjointEntries log' 1 := by
  have hresult : (fixStateEntries threeCycles [] 5 6 7 1 2 5 100).map (·.timeline 1)
      = some [⟨10, some 20⟩, ⟨20, some 30⟩, ⟨2, some 5⟩, ⟨5, none⟩] := by decide
  obtain ⟨log', hlog', htimeline⟩ := Option.map_eq_some_iff.mp hresult
  refine ⟨gapFree_threeCycles, log', hlog', fun hdisj ↦ ?_⟩
  have hapart : (log'.timeline 1).Pairwise Span.Apart := List.pairwise_map.mpr hdisj.apart
  rw [htimeline, List.pairwise_cons] at hapart
  exact hapart.1 ⟨5, none⟩ (by simp) 15 (by decide) (by decide)

/-- A window after the last cycle. -/
theorem fixStateEntries_disjoint_threeCycles : ∃ log',
    fixStateEntries threeCycles [] 5 6 7 1 35 40 100 = some log' ∧ DisjointEntries log' 1 := by
  obtain ⟨log', hlog'⟩ := exists_fixStateEntries threeCycles [] 5 6
    7 1 35 40 100 (by decide) (by decide) (by decide)
  exact ⟨log', hlog', (fixStateEntries_disjoint_iff gapFree_threeCycles (by decide) hlog').mpr
    (by decide)⟩

/-- Where nothing ends before the window and only empty entries start after it, the entries still
tile: they cover everything from `minTs` on. -/
theorem tiles_fixStateEntries {log log' : StateLog} {jobLog : List StationJobLog}
    {closedId openId blockId stationId : Uuid} {minTs maxTs now : Time}
    (htiles : Tiles (log.timeline stationId)) (hle : minTs ≤ maxTs)
    (hends : ∀ s ∈ log.timeline stationId, ∀ e ∈ s.stop, minTs ≤ e)
    (hempty : ∀ s ∈ log.timeline stationId, maxTs < s.start → ∀ e ∈ s.stop, e ≤ s.start)
    (h : fixStateEntries log jobLog closedId openId blockId stationId minTs maxTs now
      = some log') : Tiles (log'.timeline stationId) := by
  refine Tiles.perm (fixStateEntries_timeline h).symm
    ⟨apart_of_emptyAfter htiles.apart hle hempty, fun s hs t ht ↦ ?_⟩
  have hmin : minTs ≤ t := by
    rcases List.mem_cons.mp hs with rfl | hs
    · exact hle.trans ht
    · rcases List.mem_cons.mp hs with rfl | hs
      · exact ht
      · obtain ⟨hsl, e, he, hafter | hbefore⟩ := mem_kept.mp hs
        · exact hle.trans (hafter.le.trans ht)
        · exact absurd hbefore (not_lt.mpr (hends s hsl e he))
  rcases le_or_gt maxTs t with hge | hlt
  · exact ⟨_, List.mem_cons_self, (Span.covers_open rfl).mpr hge⟩
  · exact ⟨_, List.mem_cons_of_mem _ List.mem_cons_self, (Span.covers_closed rfl).mpr ⟨hmin, hlt⟩⟩

/-! ## When no covered instant is lost -/

/-- Every instant that a live entry of `log` covers is covered by a live entry of `log'`. -/
def KeepsCoverage (log log' : StateLog) (stationId : Uuid) : Prop :=
  ∀ t, (∃ e ∈ log.live stationId, e.span.Covers t) → ∃ e ∈ log'.live stationId, e.span.Covers t

theorem keepsCoverage_iff {log log' : StateLog} {stationId : Uuid} :
    KeepsCoverage log log' stationId ↔ ∀ t, (∃ s ∈ log.timeline stationId, s.Covers t) →
      ∃ s ∈ log'.timeline stationId, s.Covers t := by
  simp [KeepsCoverage, StateLog.timeline]

/-- The last stop before the window, or `x` where there is none later. -/
private theorem exists_lastStop (l : List (Span Time)) {x minTs : Time} (hx : x < minTs) :
    ∃ m, x ≤ m ∧ m < minTs ∧ ∀ s ∈ l, ∀ e ∈ s.stop, e < minTs → e ≤ m := by
  induction l with
  | nil => exact ⟨x, le_rfl, hx, fun s hs ↦ absurd hs (by simp)⟩
  | cons a l ih =>
    obtain ⟨m, hxm, hm, hmax⟩ := ih
    by_cases ha : ∃ e ∈ a.stop, m < e ∧ e < minTs
    · obtain ⟨e, he, hme, hlt⟩ := ha
      refine ⟨e, hxm.trans hme.le, hlt, fun s hs e' he' hlt' ↦ ?_⟩
      rcases List.mem_cons.mp hs with rfl | hs
      · exact (Option.mem_unique he' he).le
      · exact (hmax s hs e' he' hlt').trans hme.le
    · refine ⟨m, hxm, hm, fun s hs e' he' hlt' ↦ ?_⟩
      rcases List.mem_cons.mp hs with rfl | hs
      · exact not_lt.mp fun hme ↦ ha ⟨e', he', hme, hlt'⟩
      · exact hmax s hs e' he' hlt'

/-- **Reconciliation loses no covered instant exactly when nothing was recorded before the
window**: from a gap-free chain, every instant covered before is covered afterwards if and only if
no live entry starts before `minTs`. -/
theorem fixStateEntries_keepsCoverage_iff {log log' : StateLog} {jobLog : List StationJobLog}
    {closedId openId blockId stationId : Uuid} {minTs maxTs now : Time}
    (hgap : GapFree log stationId) (hle : minTs ≤ maxTs)
    (h : fixStateEntries log jobLog closedId openId blockId stationId minTs maxTs now
      = some log') :
    KeepsCoverage log log' stationId ↔ ∀ e ∈ log.live stationId, minTs ≤ e.startTime := by
  have hmove := fixStateEntries_timeline h
  have hcovers : ∀ t, (∃ s ∈ log'.timeline stationId, s.Covers t) ↔ minTs ≤ t ∨
      ∃ s ∈ log.timeline stationId, (∃ e ∈ s.stop, maxTs < s.start ∨ e < minTs) ∧ s.Covers t := by
    intro t
    simp only [hmove.mem_iff, List.mem_cons, exists_eq_or_imp, mem_kept, and_assoc]
    rw [Span.covers_open rfl, Span.covers_closed rfl, ← or_assoc]
    refine or_congr_left ?_
    constructor
    · rintro (ht | ht)
      · exact hle.trans ht
      · exact ht.1
    · exact fun ht ↦ (le_or_gt maxTs t).imp id fun hlt ↦ ⟨ht, hlt⟩
  rw [keepsCoverage_iff]
  constructor
  · intro hkeep e he
    by_contra hlt
    obtain ⟨m, hem, hm, hmax⟩ := exists_lastStop (log.timeline stationId) (not_le.mp hlt)
    -- the last stop before the window was covered, by an entry that reaches into it
    have hbefore := hgap.tiling.tiles.gapless e.span (List.mem_map_of_mem he) m hem
    rcases (hcovers m).mp (hkeep m hbefore) with hge | ⟨s, hs, ⟨e', he', hafter | hstop⟩, hcov⟩
    · exact absurd hm (not_lt.mpr hge)
    · exact absurd (hcov.1.trans_lt (hm.trans_le hle)) (not_lt.mpr hafter.le)
    · exact absurd (hcov.2 e' he') (not_lt.mpr (hmax s hs e' he' hstop))
  · rintro hstarts t ⟨s, hs, hcov⟩
    obtain ⟨e, he, rfl⟩ := StateLog.mem_timeline.mp hs
    exact (hcovers t).mpr (Or.inl ((hstarts e he).trans hcov.1))

/-- One open entry, since `0`. -/
def oneOpenEntry : StateLog where
  rows := [replacementEntry 1 1 0 none 1 none]
  nodup := by decide
  noClash := by decide

private theorem gapFree_oneOpenEntry : GapFree oneOpenEntry 1 :=
  ⟨oneOpenEntry.rows, .refl _, by decide, by decide, by decide, by decide⟩

/-- The part of the open entry before the window goes with the entry. -/
theorem fixStateEntries_drops_oneOpenEntry : GapFree oneOpenEntry 1 ∧ ∃ log',
    fixStateEntries oneOpenEntry [] 5 6 7 1 5 10 100 = some log' ∧
      ¬KeepsCoverage oneOpenEntry log' 1 := by
  have hresult : (fixStateEntries oneOpenEntry [] 5 6 7 1 5 10 100).map (·.timeline 1)
      = some [⟨5, some 10⟩, ⟨10, none⟩] := by decide
  obtain ⟨log', hlog', htimeline⟩ := Option.map_eq_some_iff.mp hresult
  refine ⟨gapFree_oneOpenEntry, log', hlog', fun hkeep ↦ ?_⟩
  rw [keepsCoverage_iff, htimeline] at hkeep
  exact absurd (hkeep 0 (by decide)) (by decide)

/-- A window that starts with the log. -/
theorem fixStateEntries_keepsCoverage_oneOpenEntry : ∃ log',
    fixStateEntries oneOpenEntry [] 5 6 7 1 0 10 100 = some log' ∧
      KeepsCoverage oneOpenEntry log' 1 := by
  obtain ⟨log', hlog'⟩ := exists_fixStateEntries oneOpenEntry [] 5 6
    7 1 0 10 100 (by decide) (by decide) (by decide)
  exact ⟨log', hlog',
    (fixStateEntries_keepsCoverage_iff gapFree_oneOpenEntry (by decide) hlog').mpr (by decide)⟩

end RwServer
