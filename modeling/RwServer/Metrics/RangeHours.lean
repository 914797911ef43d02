import Mathlib
import RwServer.Foundation.WindowWalk
import RwServer.Metrics.TimeBased

/-!
# The hours of a shift, and those of a range

`getHourBucketsForShift` cuts a shift into hours, so that `findHourBucketInShift` finds one for each
instant of it (`shift_hours_partition`).

`getBaseBucketsForRange` walks through the hours of a range, inside shifts and between them, and
keeps one hour of each start. A clock hour that begins together with an hour of a shift is longer
than it and is dropped, with what comes after the end of the shift. `range_covered_iff` says when
the kept hours cover the range.
-/

namespace RwServer

open Windows

/-! ## The hours of a shift -/

section

variable {a b anchor : ℤ} {ws : List (Window ℤ)} {w : Window ℤ}

/-- No window of an hour grid is longer than an hour: there is a line in each hour. -/
theorem IsHourGrid.stop_le (h : IsHourGrid a b anchor ws) (hw : w ∈ ws) :
    w.stop ≤ w.start + msPerHour := by
  obtain ⟨hstart, -, hstop⟩ := h.partition.bounds hw
  by_contra! hlong
  obtain ⟨hge, hnext, hline⟩ := firstGridLine_spec (w.start + 1) anchor
  refine h.partition.not_isCut_inside hw (x := firstGridLine (w.start + 1) anchor) (by omega)
    (by omega) ((h.isCut_iff _).mpr (.inr (.inr ⟨by omega, by omega, hline⟩)))

/-- A window of an hour grid that begins inside the stretch begins on a line. -/
theorem IsHourGrid.dvd_start (h : IsHourGrid a b anchor ws) (hw : w ∈ ws) (hne : w.start ≠ a) :
    msPerHour ∣ w.start - anchor := by
  obtain ⟨hstart, hlt, hstop⟩ := h.partition.bounds hw
  rcases (h.isCut_iff _).mp (h.partition.isCut_start hw) with heq | heq | ⟨-, -, hline⟩
  · exact absurd heq hne
  · exact absurd (heq ▸ hlt.trans_le hstop) (lt_irrefl _)
  · exact hline

end

/-- **The hours of a shift** follow one another from its start to its end, each of a positive length
of one hour at most, and meet on the hours from the anchor; each instant of the shift is in one of
them, which is found. -/
theorem shift_hours_partition {shift : ShiftWindow} (hlt : shift.startTime < shift.endTime)
    (anchor : Time) :
    Partition shift.startTime shift.endTime
        ((getHourBucketsForShift shift anchor).map HourBucket.window) ∧
      (∀ b ∈ getHourBucketsForShift shift anchor, 0 < b.durationMs ∧ b.durationMs ≤ msPerHour ∧
        (b.startTime ≠ shift.startTime → msPerHour ∣ b.startTime - anchor)) ∧
      ∀ t, shift.startTime ≤ t → t < shift.endTime → ∃ b ∈ getHourBucketsForShift shift anchor,
        findHourBucketInShift shift anchor t = some b ∧ b.window.Contains t ∧
          ∀ b' ∈ getHourBucketsForShift shift anchor, b'.window.Contains t → b' = b := by
  have hgrid := isHourGrid_getHourBucketsForShift hlt anchor
  refine ⟨hgrid.partition, fun b hb ↦ ?_, fun t hstart hstop ↦ ?_⟩
  · have hmem := List.mem_map_of_mem (f := HourBucket.window) hb
    have hpos : b.startTime < b.startTime + b.durationMs := (hgrid.partition.bounds hmem).2.1
    have hhour : b.startTime + b.durationMs ≤ b.startTime + msPerHour := hgrid.stop_le hmem
    exact ⟨pos_of_lt_add_right hpos, le_of_add_le_add_left hhour, hgrid.dvd_start hmem⟩
  · obtain ⟨b, hb, hfind, hbt⟩ := exists_findHourBucketInShift hstart hstop anchor
    refine ⟨b, hb, hfind, hbt, fun b' hb' hbt' ↦ ?_⟩
    rcases hgrid.partition.eq_or_apart (List.mem_map_of_mem hb') (List.mem_map_of_mem hb) with
      heq | hapart
    · exact HourBucket.window_injective heq
    · exact absurd hbt (hapart t hbt')

/-- A shift from 06:20 to 14:30 whose hours tick on the whole hours. -/
theorem shift_hours_partition_early :
    Partition (22800000 : ℤ) 52200000 ((getHourBucketsForShift ⟨"Early", 22800000, 29400000, 3⟩
        0).map HourBucket.window) ∧
      ∃ b ∈ getHourBucketsForShift ⟨"Early", 22800000, 29400000, 3⟩ 0,
        findHourBucketInShift ⟨"Early", 22800000, 29400000, 3⟩ 0 52199999 = some b := by
  have hlt : (⟨"Early", 22800000, 29400000, 3⟩ : ShiftWindow).startTime
      < (⟨"Early", 22800000, 29400000, 3⟩ : ShiftWindow).endTime := by
    decide
  obtain ⟨hpartition, -, hfind⟩ := shift_hours_partition hlt 0
  obtain ⟨b, hb, hfound, -⟩ := hfind 52199999 (by decide) (by decide)
  exact ⟨hpartition, b, hb, hfound⟩

/-! ## The hours of a range -/

section

variable (f : Facility) (siteId stationId : Uuid)

/-- The hour of a station that `resolveHourBucketForEntity` finds. -/
def hourAt (t : Time) : HourBucket :=
  (resolveHourBucketForEntity f .station stationId siteId t (f.siteTimezone siteId)).getD ⟨t, 0⟩

def hourWindow (t : ℤ) : Window ℤ := (hourAt f siteId stationId t).window

/-- Each instant of the range is in one of the hours. -/
def RangeCovered (buckets : List HourBucket) (startTime endTime : Time) : Prop :=
  ∀ t, startTime ≤ t → t < endTime → ∃ b ∈ buckets, b.window.Contains t

/-- No clock hour of an instant of the range begins together with an hour of a shift that reaches
into the range. -/
def NoHourHidden (startTime endTime : Time) : Prop :=
  ∀ t u, startTime ≤ t → t < endTime → stationShift f siteId stationId t = none →
    (stationShift f siteId stationId u).isSome = true →
    (hourWindow f siteId stationId u).start = (hourWindow f siteId stationId t).start →
      (hourWindow f siteId stationId u).stop ≤ startTime

/-- Where the walk comes to a clock hour that begins together with an hour of a shift it has come
through, a later clock hour reaches back: they are on different grids. -/
def HiddenHoursMet (startTime endTime : Time) : Prop :=
  ∀ c u, Visits (hourWindow f siteId stationId) startTime endTime c →
    Visits (hourWindow f siteId stationId) startTime endTime u → u < c →
    stationShift f siteId stationId c = none →
    (stationShift f siteId stationId u).isSome = true →
    (hourWindow f siteId stationId u).start = (hourWindow f siteId stationId c).start →
      ∃ v, Visits (hourWindow f siteId stationId) startTime endTime v ∧
        Fresh (hourWindow f siteId stationId) startTime endTime v ∧ c < v ∧
          (hourWindow f siteId stationId v).Contains c

/-- The clock hours of the range are on one hour grid: the offset of the time zone changes by whole
hours in it, if at all. -/
def OnOneGrid (startTime endTime : Time) : Prop :=
  ∀ t t', startTime ≤ t → t < endTime → startTime ≤ t' → t' < endTime →
    stationShift f siteId stationId t = none → stationShift f siteId stationId t' = none →
      msPerHour ∣ siteMidnight f siteId t - siteMidnight f siteId t'

end

/-! ### One hour -/

section

variable {f : Facility} {siteId stationId : Uuid} {t t' : ℤ}

theorem resolve_eq_hourAt (f : Facility) (siteId stationId : Uuid) (t : Time) :
    resolveHourBucketForEntity f .station stationId siteId t (f.siteTimezone siteId)
      = some (hourAt f siteId stationId t) := by
  obtain ⟨b, -, -, hb⟩ := exists_resolveHourBucket f siteId stationId t
  rw [hourAt, hb, Option.getD_some]

theorem hourAt_mem (f : Facility) (siteId stationId : Uuid) (t : Time) :
    hourAt f siteId stationId t ∈ stationHours f siteId stationId t ∧
      (hourWindow f siteId stationId t).Contains t := by
  obtain ⟨b, hb, hcontains, hresolve⟩ := exists_resolveHourBucket f siteId stationId t
  rw [resolve_eq_hourAt, Option.some_inj] at hresolve
  rw [hourWindow, hresolve]
  exact ⟨hb, hcontains⟩

theorem hourWindow_contains (t : ℤ) : (hourWindow f siteId stationId t).Contains t :=
  (hourAt_mem f siteId stationId t).2

theorem hourWindow_mem (t : ℤ) : hourWindow f siteId stationId t
    ∈ (stationHours f siteId stationId t).map HourBucket.window :=
  List.mem_map_of_mem (hourAt_mem f siteId stationId t).1

theorem hourWindow_stop_le (t : ℤ) : (hourWindow f siteId stationId t).stop
    ≤ (hourWindow f siteId stationId t).start + msPerHour := by
  cases h : stationShift f siteId stationId t with
  | none => exact (isHourGrid_of_none h).stop_le (hourWindow_mem t)
  | some shift => exact (isHourGrid_of_some h).stop_le (hourWindow_mem t)

/-- Between the shifts the hour is a whole one, on the grid of the local midnight. -/
theorem hourWindow_of_none (h : stationShift f siteId stationId t = none) :
    (hourWindow f siteId stationId t).stop
        = (hourWindow f siteId stationId t).start + msPerHour ∧
      msPerHour ∣ (hourWindow f siteId stationId t).start - siteMidnight f siteId t := by
  have hhour : hourAt f siteId stationId t = resolveClockHourBucket t (f.siteTimezone siteId) := by
    rw [stationShift] at h
    rw [hourAt, resolveHourBucketForEntity, h, Option.getD_some]
  rw [hourWindow, hhour]
  refine ⟨rfl, (t - siteMidnight f siteId t) / msPerHour, ?_⟩
  rw [mul_comm]
  exact add_sub_cancel_left _ _

/-- Two instants of shifts: their hours are the same, or apart. -/
theorem hourWindow_eq_of_contains (hshifts : ShiftsApart f siteId stationId)
    (h : (stationShift f siteId stationId t).isSome = true)
    (h' : (stationShift f siteId stationId t').isSome = true) {x : ℤ}
    (hx : (hourWindow f siteId stationId t).Contains x)
    (hx' : (hourWindow f siteId stationId t').Contains x) :
    hourWindow f siteId stationId t = hourWindow f siteId stationId t' := by
  obtain ⟨shift, hshift⟩ := Option.isSome_iff_exists.mp h
  obtain ⟨shift', hshift'⟩ := Option.isSome_iff_exists.mp h'
  have hagree := hoursAgree_iff.mp (shiftHours_agree hshifts hshift hshift')
  exact (hagree _ (hourWindow_mem t) _ (hourWindow_mem t')).resolve_right fun hapart ↦
    hapart x hx hx'

/-- What is in an hour of a shift is in the shift. -/
theorem isSome_of_contains (h : (stationShift f siteId stationId t).isSome = true) {x : ℤ}
    (hx : (hourWindow f siteId stationId t).Contains x) :
    (stationShift f siteId stationId x).isSome = true := by
  obtain ⟨shift, hshift⟩ := Option.isSome_iff_exists.mp h
  obtain ⟨hlo, hhi⟩ := (isHourGrid_of_some hshift).partition.contains_of_mem (hourWindow_mem t) hx
  obtain ⟨i, hi, -, rfl⟩ := exists_of_queryShift hshift
  rw [ShiftWindow.ofInstance_startTime] at hlo
  rw [ShiftWindow.ofInstance_endTime] at hhi
  rw [← Option.not_isNone, Bool.not_eq_true', ← Bool.not_eq_true, Option.isNone_iff_eq_none]
  exact fun hnone ↦ queryShift_eq_none_iff.mp hnone i hi ⟨hlo, hhi⟩

/-- **Two hours begin together** only if the earlier one is of a shift, and the later one a clock
hour. -/
theorem hidden_of_start_eq (hshifts : ShiftsApart f siteId stationId) {c u : ℤ}
    (hstart : (hourWindow f siteId stationId u).start = (hourWindow f siteId stationId c).start)
    (hstop : (hourWindow f siteId stationId u).stop ≤ c) :
    stationShift f siteId stationId c = none ∧
      (stationShift f siteId stationId u).isSome = true := by
  have hc : (hourWindow f siteId stationId c).Contains c := hourWindow_contains c
  have hu : (hourWindow f siteId stationId u).Contains u := hourWindow_contains u
  have hsome : (stationShift f siteId stationId u).isSome = true := by
    by_contra hnone
    rw [Bool.not_eq_true, Option.isSome_eq_false_iff, Option.isNone_iff_eq_none] at hnone
    have hlong := (hourWindow_of_none hnone).1
    have hshort : (hourWindow f siteId stationId c).stop
        ≤ (hourWindow f siteId stationId c).start + msPerHour := hourWindow_stop_le c
    have := hc.2
    omega
  refine ⟨?_, hsome⟩
  by_contra hcshift
  have hsame := hourWindow_eq_of_contains hshifts hsome (Option.isSome_iff_ne_none.mpr hcshift)
    ⟨le_rfl, hu.1.trans_lt hu.2⟩ ⟨hstart ▸ le_rfl, hstart ▸ hc.1.trans_lt hc.2⟩
  exact absurd (hsame ▸ hstop) (not_le.mpr hc.2)

end

/-! ### The walk of the loop -/

section

variable {f : Facility} {siteId stationId : Uuid} {startTime endTime cursor : ℤ}
  {buckets baseBuckets : List HourBucket}

/-- What the loop has collected when it comes to the cursor. -/
structure KeptUpTo (f : Facility) (siteId stationId : Uuid) (startTime endTime cursor : ℤ)
    (buckets : List HourBucket) : Prop where
  sound : ∀ b ∈ buckets, ∃ c, Visits (hourWindow f siteId stationId) startTime endTime c ∧
    Fresh (hourWindow f siteId stationId) startTime endTime c ∧ c < cursor ∧
      hourAt f siteId stationId c = b
  complete : ∀ c, Visits (hourWindow f siteId stationId) startTime endTime c → c < cursor →
    (Fresh (hourWindow f siteId stationId) startTime endTime c →
      hourAt f siteId stationId c ∈ buckets) ∧
    ∃ b ∈ buckets, b.startTime = (hourWindow f siteId stationId c).start

/-- One round. -/
theorem KeptUpTo.next (h : KeptUpTo f siteId stationId startTime endTime cursor buckets)
    (hcursor : Visits (hourWindow f siteId stationId) startTime endTime cursor) :
    KeptUpTo f siteId stationId startTime endTime (hourWindow f siteId stationId cursor).stop
      (if buckets.any fun b ↦ b.startTime == (hourAt f siteId stationId cursor).startTime
        then buckets else buckets ++ [hourAt f siteId stationId cursor]) := by
  have hwin : ∀ t, (hourWindow f siteId stationId t).Contains t := hourWindow_contains
  have hlater := (hwin cursor).2
  -- of the instants of the walk, only the cursor is new
  have hnew : ∀ c, Visits (hourWindow f siteId stationId) startTime endTime c →
      c < (hourWindow f siteId stationId cursor).stop → c = cursor ∨ c < cursor := by
    intro c hc hlt
    rcases lt_trichotomy c cursor with hlt' | heq | hgt
    · exact .inr hlt'
    · exact .inl heq
    · exact absurd hlt (not_lt.mpr (hcursor.stop_le hwin hc hgt))
  split_ifs with hseen
  · obtain ⟨b, hb, hstart⟩ := List.any_eq_true.mp hseen
    refine ⟨fun b' hb' ↦ ?_, fun c hc hlt ↦ ?_⟩
    · obtain ⟨c, hc, hfresh, hlt, heq⟩ := h.sound b' hb'
      exact ⟨c, hc, hfresh, hlt.trans hlater, heq⟩
    · rcases hnew c hc hlt with rfl | hlt'
      · refine ⟨fun hfresh ↦ ?_, b, hb, beq_iff_eq.mp hstart⟩
        obtain ⟨u, hu, -, hult, rfl⟩ := h.sound b hb
        exact absurd (beq_iff_eq.mp hstart) (hfresh u hu hult)
      · exact h.complete c hc hlt'
  · have hfresh : Fresh (hourWindow f siteId stationId) startTime endTime cursor := by
      intro u hu hult hsame
      obtain ⟨b, hb, hstart⟩ := (h.complete u hu hult).2
      exact hseen (List.any_eq_true.mpr ⟨b, hb, beq_iff_eq.mpr (hstart.trans hsame)⟩)
    refine ⟨fun b' hb' ↦ ?_, fun c hc hlt ↦ ?_⟩
    · rcases List.mem_append.mp hb' with hb' | hb'
      · obtain ⟨c, hc, hcfresh, hlt, heq⟩ := h.sound b' hb'
        exact ⟨c, hc, hcfresh, hlt.trans hlater, heq⟩
      · exact ⟨cursor, hcursor, hfresh, hlater, (List.mem_singleton.mp hb').symm⟩
    · rcases hnew c hc hlt with rfl | hlt'
      · have hmem := List.mem_append_right buckets
          (List.mem_singleton_self (hourAt f siteId stationId c))
        exact ⟨fun _ ↦ hmem, _, hmem, rfl⟩
      · obtain ⟨hkept, b, hb, hstart⟩ := h.complete c hc hlt'
        exact ⟨fun hcfresh ↦ List.mem_append_left _ (hkept hcfresh), b,
          List.mem_append_left _ hb, hstart⟩

/-- **The loop** keeps the hours of the fresh instants. -/
theorem keptUpTo_baseBucketsFrom : ∀ (rounds n : ℕ) {buckets : List HourBucket},
    (endTime - cursorAt (hourWindow f siteId stationId) startTime n).toNat ≤ rounds →
    KeptUpTo f siteId stationId startTime endTime
      (cursorAt (hourWindow f siteId stationId) startTime n) buckets →
    baseBucketsFrom f stationId siteId endTime rounds
      (cursorAt (hourWindow f siteId stationId) startTime n) buckets = some baseBuckets →
    KeptUpTo f siteId stationId startTime endTime endTime baseBuckets := by
  intro rounds
  -- past the end nothing is left of the walk
  have hdone : ∀ {cursor : ℤ} {buckets : List HourBucket}, endTime ≤ cursor →
      KeptUpTo f siteId stationId startTime endTime cursor buckets →
      KeptUpTo f siteId stationId startTime endTime endTime buckets := by
    intro cursor buckets hle h
    refine ⟨fun b hb ↦ ?_, fun c hc hlt ↦ h.complete c hc (hlt.trans_le hle)⟩
    obtain ⟨c, hc, hfresh, -, heq⟩ := h.sound b hb
    exact ⟨c, hc, hfresh, hc.1, heq⟩
  induction rounds with
  | zero =>
    intro n buckets hrounds h hresult
    rw [baseBucketsFrom, Option.some_inj] at hresult
    exact hresult ▸ hdone (by omega) h
  | succ rounds ih =>
    intro n buckets hrounds h hresult
    rw [baseBucketsFrom] at hresult
    split_ifs at hresult with hcursor
    · rw [resolve_eq_hourAt, Option.bind_some] at hresult
      have hnext := h.next ⟨hcursor, n, rfl⟩
      have hprogress : cursorAt (hourWindow f siteId stationId) startTime n
          < (hourWindow f siteId stationId
            (cursorAt (hourWindow f siteId stationId) startTime n)).stop :=
        (hourWindow_contains _).2
      rw [← cursorAt_succ] at hnext hprogress
      refine ih (n + 1) (by omega) hnext ?_
      rw [cursorAt_succ]
      exact hresult
    · rw [Option.some_inj] at hresult
      exact hresult ▸ hdone (not_lt.mp hcursor) h

theorem mem_getBaseBucketsForRange
    (h : getBaseBucketsForRange f stationId siteId startTime endTime = some baseBuckets)
    (b : HourBucket) : b ∈ baseBuckets ↔
      ∃ c, Visits (hourWindow f siteId stationId) startTime endTime c ∧
        Fresh (hourWindow f siteId stationId) startTime endTime c ∧
          hourAt f siteId stationId c = b := by
  have hkept : KeptUpTo f siteId stationId startTime endTime endTime baseBuckets := by
    refine keptUpTo_baseBucketsFrom (endTime - startTime).toNat 0 le_rfl ?_ h
    refine ⟨fun b hb ↦ absurd hb List.not_mem_nil, fun c hc hlt ↦ ?_⟩
    exact absurd hlt (not_lt.mpr (hc.start_le hourWindow_contains))
  constructor
  · intro hb
    obtain ⟨c, hc, hfresh, -, heq⟩ := hkept.sound b hb
    exact ⟨c, hc, hfresh, heq⟩
  · rintro ⟨c, hc, hfresh, rfl⟩
    exact (hkept.complete c hc hc.1).1 hfresh

/-- No two hours of a range begin together. -/
theorem nodup_startTime_getBaseBucketsForRange
    (h : getBaseBucketsForRange f stationId siteId startTime endTime = some baseBuckets) :
    (baseBuckets.map HourBucket.startTime).Nodup := by
  have hloop : ∀ (rounds : ℕ) (cursor : Time) (buckets : List HourBucket),
      (buckets.map HourBucket.startTime).Nodup →
      baseBucketsFrom f stationId siteId endTime rounds cursor buckets = some baseBuckets →
        (baseBuckets.map HourBucket.startTime).Nodup := by
    intro rounds
    induction rounds with
    | zero => exact fun cursor buckets hnodup hresult ↦ Option.some_inj.mp hresult ▸ hnodup
    | succ rounds ih =>
      intro cursor buckets hnodup hresult
      rw [baseBucketsFrom] at hresult
      split_ifs at hresult
      · rw [resolve_eq_hourAt, Option.bind_some] at hresult
        refine ih _ _ ?_ hresult
        split_ifs with hseen
        · exact hnodup
        · rw [List.map_append, List.map_singleton, List.nodup_append_comm, List.singleton_append,
            List.nodup_cons]
          refine ⟨fun hmem ↦ hseen ?_, hnodup⟩
          obtain ⟨b, hb, heq⟩ := List.mem_map.mp hmem
          exact List.any_eq_true.mpr ⟨b, hb, beq_iff_eq.mpr heq⟩
      · exact Option.some_inj.mp hresult ▸ hnodup
  exact hloop _ _ [] List.nodup_nil h

theorem rangeCovered_iff_walkCovers
    (h : getBaseBucketsForRange f stationId siteId startTime endTime = some baseBuckets) :
    RangeCovered baseBuckets startTime endTime ↔
      WalkCovers (hourWindow f siteId stationId) startTime endTime := by
  refine forall_congr' fun t ↦ imp_congr_right fun _ ↦ imp_congr_right fun _ ↦ ⟨?_, ?_⟩
  · rintro ⟨b, hb, hcontains⟩
    obtain ⟨c, hc, hfresh, rfl⟩ := (mem_getBaseBucketsForRange h b).mp hb
    exact ⟨c, hc, hfresh, hcontains⟩
  · rintro ⟨c, hc, hfresh, hcontains⟩
    exact ⟨_, (mem_getBaseBucketsForRange h _).mpr ⟨c, hc, hfresh, rfl⟩, hcontains⟩

end

/-! ### Coverage -/

section

variable {f : Facility} {siteId stationId : Uuid} {startTime endTime : ℤ}

theorem walkCovers_iff_hiddenHoursMet (hshifts : ShiftsApart f siteId stationId) :
    WalkCovers (hourWindow f siteId stationId) startTime endTime ↔
      HiddenHoursMet f siteId stationId startTime endTime := by
  rw [walkCovers_iff hourWindow_contains]
  constructor
  · exact fun h c u hc hu huc _ _ hsame ↦ h c u hc hu huc hsame
  · intro h c u hc hu huc hsame
    obtain ⟨hnone, hsome⟩ :=
      hidden_of_start_eq hshifts hsame (hu.stop_le hourWindow_contains hc huc)
    exact h c u hc hu huc hnone hsome hsame

/-- Where no hour is hidden, the walk comes to none that is. -/
theorem NoHourHidden.met (h : NoHourHidden f siteId stationId startTime endTime) :
    HiddenHoursMet f siteId stationId startTime endTime := by
  intro c u hc hu huc hnone hsome hsame
  have hstop := h c u (hc.start_le hourWindow_contains) hc.1 hnone hsome hsame
  have hu' : (hourWindow f siteId stationId u).Contains u := hourWindow_contains u
  exact absurd (hu'.2.trans_le hstop) (not_lt.mpr (hu.start_le hourWindow_contains))

/-- Clock hours of one grid that share an instant begin together. -/
theorem OnOneGrid.start_eq (h : OnOneGrid f siteId stationId startTime endTime) {t t' x : ℤ}
    (ht : startTime ≤ t ∧ t < endTime) (ht' : startTime ≤ t' ∧ t' < endTime)
    (hnone : stationShift f siteId stationId t = none)
    (hnone' : stationShift f siteId stationId t' = none)
    (hx : (hourWindow f siteId stationId t).start ≤ x ∧
      x < (hourWindow f siteId stationId t).start + msPerHour)
    (hx' : (hourWindow f siteId stationId t').start ≤ x ∧
      x < (hourWindow f siteId stationId t').start + msPerHour) :
    (hourWindow f siteId stationId t).start = (hourWindow f siteId stationId t').start := by
  have hgrid := h t t' ht.1 ht.2 ht'.1 ht'.2 hnone hnone'
  have hline := (hourWindow_of_none hnone).2
  have hline' := (hourWindow_of_none hnone').2
  have hdvd := dvd_sub hline hline'
  simp only [msPerHour] at *
  omega

/-- On one grid nothing reaches back over a hidden hour. -/
theorem noHourHidden_of_walkCovers (hshifts : ShiftsApart f siteId stationId)
    (hgrid : OnOneGrid f siteId stationId startTime endTime)
    (h : WalkCovers (hourWindow f siteId stationId) startTime endTime) :
    NoHourHidden f siteId stationId startTime endTime := by
  have hwin : ∀ t, (hourWindow f siteId stationId t).Contains t := hourWindow_contains
  intro t u hstart hstop hnone hsome hsame
  by_contra! hreaches
  have hoff : ∀ x, (hourWindow f siteId stationId u).Contains x →
      stationShift f siteId stationId x ≠ none := fun x hx ↦
    Option.isSome_iff_ne_none.mp (isSome_of_contains hsome hx)
  -- the instant comes after the hour of the shift, in a kept hour that is a clock hour
  obtain ⟨c, hc, hfresh, hct⟩ := h t hstart hstop
  have hcnone : stationShift f siteId stationId c = none := by
    by_contra hcsome
    have := isSome_of_contains (Option.isSome_iff_ne_none.mpr hcsome) hct
    rw [hnone] at this
    exact absurd this (by decide)
  have hc' : startTime ≤ c ∧ c < endTime := ⟨hc.start_le hwin, hc.1⟩
  have hhour : (hourWindow f siteId stationId t).start
      = (hourWindow f siteId stationId c).start := by
    refine hgrid.start_eq ⟨hstart, hstop⟩ hc' hnone hcnone ⟨(hwin t).1, ?_⟩ ⟨hct.1, ?_⟩
    · rw [← (hourWindow_of_none hnone).1]
      exact (hwin t).2
    · rw [← (hourWindow_of_none hcnone).1]
      exact hct.2
  have hafter : (hourWindow f siteId stationId u).stop ≤ c := by
    by_contra! hinside
    exact hoff c ⟨(hsame.trans hhour).le.trans (hwin c).1, hinside⟩ hcnone
  -- the walk has come through an hour with the same start before
  have hmax : max (hourWindow f siteId stationId u).start startTime
      < (hourWindow f siteId stationId u).stop :=
    max_lt ((hwin u).1.trans_lt (hwin u).2) hreaches
  obtain ⟨v, hv, hvle, hvlt⟩ := exists_visits hwin (le_max_right _ _)
    (hmax.trans_le (hafter.trans hc.1.le))
  have hvmax : (hourWindow f siteId stationId v).Contains
      (max (hourWindow f siteId stationId u).start startTime) := contains_of_le hwin hvle hvlt
  refine hfresh v hv (hvle.trans_lt (hmax.trans_le hafter)) ?_
  by_cases hvnone : stationShift f siteId stationId v = none
  · refine hgrid.start_eq ⟨hv.start_le hwin, hv.1⟩ hc' hvnone hcnone
      ⟨hvmax.1, (hourWindow_of_none hvnone).1 ▸ hvmax.2⟩ ⟨?_, ?_⟩
    · rw [← hhour, ← hsame]
      exact le_max_left _ _
    · rw [← hhour, ← hsame]
      exact hmax.trans_le (hourWindow_stop_le u)
  · rw [hourWindow_eq_of_contains hshifts (Option.isSome_iff_ne_none.mpr hvnone) hsome hvmax
      ⟨le_max_left _ _, hmax⟩]
    exact hsame.trans hhour

/-- **A range is covered** iff each clock hour of the walk that begins together with an hour of a
shift before it is reached back over by a later one; on one hour grid, iff there is none. -/
theorem range_covered_iff (hshifts : ShiftsApart f siteId stationId) (startTime endTime : Time) :
    ∃ baseBuckets, getBaseBucketsForRange f stationId siteId startTime endTime = some baseBuckets ∧
      (RangeCovered baseBuckets startTime endTime ↔
        HiddenHoursMet f siteId stationId startTime endTime) ∧
      (NoHourHidden f siteId stationId startTime endTime →
        RangeCovered baseBuckets startTime endTime) ∧
      (OnOneGrid f siteId stationId startTime endTime →
        RangeCovered baseBuckets startTime endTime →
          NoHourHidden f siteId stationId startTime endTime) := by
  obtain ⟨baseBuckets, hbase⟩ := exists_getBaseBucketsForRange f stationId siteId startTime endTime
  have hcovered := rangeCovered_iff_walkCovers hbase
  have hmet : WalkCovers (hourWindow f siteId stationId) startTime endTime ↔
      HiddenHoursMet f siteId stationId startTime endTime := walkCovers_iff_hiddenHoursMet hshifts
  refine ⟨baseBuckets, hbase, hcovered.trans hmet, fun hnone ↦ ?_, fun hgrid hcov ↦ ?_⟩
  · exact (hcovered.trans hmet).mpr hnone.met
  · exact noHourHidden_of_walkCovers hshifts hgrid (hcovered.mp hcov)

end

/-- The range from 14:00 to 15:00, with a shift from 06:00 to 14:30. -/
theorem range_covered_iff_halfHour : ∃ baseBuckets,
    getBaseBucketsForRange (oneShiftFacility 21600000 52200000) 2 1 50400000 54000000
        = some baseBuckets ∧
      (RangeCovered baseBuckets 50400000 54000000 ↔
        HiddenHoursMet (oneShiftFacility 21600000 52200000) 1 2 50400000 54000000) := by
  obtain ⟨baseBuckets, hbase, hiff, -⟩ :=
    range_covered_iff (shiftsApart_oneShift 21600000 52200000) 50400000 54000000
  exact ⟨baseBuckets, hbase, hiff⟩

/-- The last half hour is in no hour that is kept. -/
theorem not_range_covered : ShiftsApart (oneShiftFacility 21600000 52200000) 1 2 ∧
    getBaseBucketsForRange (oneShiftFacility 21600000 52200000) 2 1 50400000 54000000
      = some [⟨50400000, 1800000⟩] ∧
    ¬RangeCovered [⟨50400000, 1800000⟩] 50400000 54000000 := by
  refine ⟨shiftsApart_oneShift _ _, by decide +kernel, fun h ↦ ?_⟩
  obtain ⟨b, hb, hcontains⟩ := h 52200000 (by decide) (by decide)
  rw [List.mem_singleton.mp hb] at hcontains
  exact absurd hcontains (by decide)

end RwServer
