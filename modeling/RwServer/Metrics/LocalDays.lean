import Mathlib
import RwServer.Metrics.Rollup
import RwServer.Metrics.TickSteps

/-!
# Local days

`getLocalMidnightUTC` takes the offset of the timestamp for the offset of the whole local date, and
`resolveAffectedDays` gives the day 24 hours; `cascadeStationShiftDay` leaves both midnights to
`AT TIME ZONE`. The three readings of a day come apart on a date with a jump of the offset, and
nowhere else: `localDay_iff` says exactly on which dates they are one.

A local time that one instant shows is read as that instant (`ReadsShownTimes`). What
`AT TIME ZONE` makes of a time that is shown twice, or skipped, is left open.
-/

namespace RwServer

open Windows

namespace Timezone

/-- The offset of local time from UTC, in seconds. -/
def offset (tz : Timezone) (t : Time) : ℤ := tz.wallClock (t / 1000) - t / 1000

/-- The local date of a timestamp, in days. -/
def localDate (tz : Timezone) (t : Time) : ℤ := tz.wallClock (t / 1000) / 86400

/-- The timestamps of a local date. -/
def dateOf (tz : Timezone) (t : Time) : Set Time := {u | tz.localDate u = tz.localDate t}

theorem mem_dateOf_iff {tz : Timezone} {t u : Time} :
    u ∈ tz.dateOf t ↔ tz.localDate u = tz.localDate t := Iff.rfl

/-- The seconds of local time at which the date of a timestamp begins. -/
def midnightOf (tz : Timezone) (t : Time) : ℤ := tz.localDate t * 86400

/-- `AT TIME ZONE` reads a local time that exactly one second shows as that second. -/
def ReadsShownTimes (tz : Timezone) (localToUtc : ℤ → Time) : Prop :=
  ∀ s, (∀ s', tz.wallClock s' = tz.wallClock s → s' = s) →
    localToUtc (tz.wallClock s) = s * 1000

/-- A local date without a jump: its timestamps have one offset, it begins at 0:00, and the next
midnight is read 24 hours after. -/
structure RegularDate (tz : Timezone) (localToUtc : ℤ → Time) (t : Time) : Prop where
  offset_eq : ∀ u ∈ tz.dateOf t, tz.offset u = tz.offset t
  begins : ∃ u, IsLeast (tz.dateOf t) u ∧ tz.wallClock (u / 1000) = tz.midnightOf t
  length : localToUtc (tz.midnightOf t + 86400) = localToUtc (tz.midnightOf t) + msPerDay

end Timezone

section

variable {tz : Timezone} {t u : Time}

private theorem localMidnight_eq (s wall : ℤ) :
    (s * 1000 + (wall * 1000 - s * 1000)) / 86400000 * 86400000 - (wall * 1000 - s * 1000)
      = (wall / 86400 * 86400 - (wall - s)) * 1000 := by omega

/-- The midnight of the date, had it the offset of the timestamp all along. -/
theorem getLocalMidnightUTC_eq (t : Time) (tz : Timezone) :
    getLocalMidnightUTC t tz = (tz.midnightOf t - tz.offset t) * 1000 := by
  have hsecond : t / 1000 * 1000 / 1000 = t / 1000 := Int.mul_ediv_cancel _ (by decide)
  rw [getLocalMidnightUTC]
  simp only [getTimezoneOffsetMs, hsecond, msPerDay]
  exact localMidnight_eq (t / 1000) (tz.wallClock (t / 1000))

theorem getLocalMidnightUTC_ediv (t : Time) (tz : Timezone) :
    getLocalMidnightUTC t tz / 1000 = tz.midnightOf t - tz.offset t := by
  rw [getLocalMidnightUTC_eq]
  exact Int.mul_ediv_cancel _ (by decide)

theorem midnightOf_eq_of_mem (h : u ∈ tz.dateOf t) : tz.midnightOf u = tz.midnightOf t := by
  rw [Timezone.midnightOf, Timezone.midnightOf, Timezone.mem_dateOf_iff.mp h]

/-- Two timestamps of a date get one midnight iff they have one offset. -/
theorem getLocalMidnightUTC_eq_iff (h : u ∈ tz.dateOf t) :
    getLocalMidnightUTC u tz = getLocalMidnightUTC t tz ↔ tz.offset u = tz.offset t := by
  rw [getLocalMidnightUTC_eq, getLocalMidnightUTC_eq, midnightOf_eq_of_mem h]
  constructor
  · intro heq
    exact sub_right_injective (mul_right_cancel₀ (by decide) heq)
  · intro heq
    rw [heq]

theorem floor_mem_dateOf (h : u ∈ tz.dateOf t) : u / 1000 * 1000 ∈ tz.dateOf t := by
  have hsecond : u / 1000 * 1000 / 1000 = u / 1000 := Int.mul_ediv_cancel _ (by decide)
  rw [Timezone.mem_dateOf_iff, Timezone.localDate, hsecond]
  exact h

/-- **The midnight of a date with one offset** is where the date begins iff it begins at 0:00. -/
theorem isLeast_getLocalMidnightUTC_iff (h : ∀ u ∈ tz.dateOf t, tz.offset u = tz.offset t) :
    IsLeast (tz.dateOf t) (getLocalMidnightUTC t tz) ↔
      ∃ u, IsLeast (tz.dateOf t) u ∧ tz.wallClock (u / 1000) = tz.midnightOf t := by
  constructor
  · intro hleast
    have hoffset := h _ hleast.1
    rw [Timezone.offset, getLocalMidnightUTC_ediv] at hoffset
    refine ⟨_, hleast, ?_⟩
    rw [getLocalMidnightUTC_ediv, eq_add_of_sub_eq hoffset, add_sub_cancel]
  · rintro ⟨u, hleast, hwall⟩
    have hoffset := h u hleast.1
    rw [Timezone.offset, hwall] at hoffset
    have hfloor : u / 1000 * 1000 = u := le_antisymm (Int.ediv_mul_le u (by decide))
      (hleast.2 (floor_mem_dateOf hleast.1))
    have hmidnight : getLocalMidnightUTC t tz = u := by
      rw [getLocalMidnightUTC_eq, ← hoffset, sub_sub_cancel, hfloor]
    rwa [hmidnight]

/-- A date with one offset shows each local time at most once. -/
theorem wallClock_injOn (h : ∀ u ∈ tz.dateOf t, tz.offset u = tz.offset t) {s s' : ℤ}
    (hs : s * 1000 ∈ tz.dateOf t) (heq : tz.wallClock s' = tz.wallClock s) : s' = s := by
  have hsecond : ∀ s : ℤ, s * 1000 / 1000 = s := fun s ↦ Int.mul_ediv_cancel _ (by decide)
  have hs' : s' * 1000 ∈ tz.dateOf t := by
    rw [Timezone.mem_dateOf_iff, Timezone.localDate, hsecond, heq]
    rwa [Timezone.mem_dateOf_iff, Timezone.localDate, hsecond] at hs
  have hoffset := (h _ hs').trans (h _ hs).symm
  rw [Timezone.offset, Timezone.offset, hsecond, hsecond, heq] at hoffset
  exact sub_right_injective hoffset

end

/-! ## The days of a rollup -/

/-- The window of a day that a rollup sums. -/
def BucketWindow.window (w : BucketWindow) : Window Time := ⟨w.startTime, w.endTime⟩

/-- The day that `resolveAffectedDays` makes for a timestamp. -/
def dayAt (tz : Timezone) (t : Time) : BucketWindow := ⟨getLocalMidnightUTC t tz, msPerDay⟩

section

variable {buckets : List BucketWindow} {seen : List BucketWindow} {tz : Timezone} {t : Time}

theorem mem_addUnseen_of_mem {x day : BucketWindow} (h : day ∈ seen) :
    day ∈ addUnseen BucketWindow.startTime seen x := by
  rw [addUnseen]
  split
  · exact h
  · exact List.mem_append_left _ h

/-- Days with the same start are the same, as all have 24 hours. -/
theorem dayAt_mem_addUnseen (tz : Timezone) (t : Time)
    (h : ∀ day ∈ seen, day.durationMs = msPerDay) :
    dayAt tz t ∈ addUnseen BucketWindow.startTime seen (dayAt tz t) ∧
      ∀ day ∈ addUnseen BucketWindow.startTime seen (dayAt tz t), day.durationMs = msPerDay := by
  rw [addUnseen]
  split
  · rename_i hany
    obtain ⟨day, hday, hstart⟩ := List.any_eq_true.mp hany
    obtain ⟨start, duration⟩ := day
    obtain rfl : duration = msPerDay := h _ hday
    obtain rfl : start = getLocalMidnightUTC t tz := eq_of_beq hstart
    exact ⟨hday, h⟩
  · refine ⟨List.mem_append_right _ (List.mem_singleton_self _), fun day hday ↦ ?_⟩
    rcases List.mem_append.mp hday with hday | hday
    · exact h day hday
    · rw [List.mem_singleton.mp hday]
      rfl

/-- A bucket has the days of its first and of its last millisecond. -/
theorem dayAt_mem_resolveAffectedDays {b : BucketWindow} (hb : b ∈ buckets)
    (ht : t = b.startTime ∨ t = b.lastMs) : dayAt tz t ∈ resolveAffectedDays buckets tz := by
  have hround : ∀ (seen : List BucketWindow), (∀ day ∈ seen, day.durationMs = msPerDay) →
      dayAt tz t ∈ seen ∨ b ∈ buckets → dayAt tz t ∈ buckets.foldl (fun seen b ↦
        addUnseen BucketWindow.startTime (addUnseen BucketWindow.startTime seen
          (dayAt tz b.startTime)) (dayAt tz b.lastMs)) seen := by
    clear hb
    induction buckets with
    | nil => exact fun seen _ h ↦ h.resolve_right List.not_mem_nil
    | cons b' buckets ih =>
      intro seen hseen h
      obtain ⟨hfirst, hseen'⟩ := dayAt_mem_addUnseen tz b'.startTime hseen
      obtain ⟨hlast, hseen''⟩ := dayAt_mem_addUnseen tz b'.lastMs hseen'
      rw [List.foldl_cons]
      refine ih _ hseen'' ?_
      rcases h with hmem | hb
      · exact .inl (mem_addUnseen_of_mem (mem_addUnseen_of_mem hmem))
      · rcases List.mem_cons.mp hb with rfl | hb
        · rcases ht with rfl | rfl
          · exact .inl (mem_addUnseen_of_mem hfirst)
          · exact .inl hlast
        · exact .inr hb
  exact hround [] (fun _ h ↦ absurd h List.not_mem_nil) (.inr hb)

/-- A bucket of one millisecond has the day it is in. -/
theorem resolveAffectedDays_singleton (t : Time) (tz : Timezone) :
    resolveAffectedDays [⟨t, 1⟩] tz = [dayAt tz t] := by
  have hlast : BucketWindow.lastMs ⟨t, 1⟩ = t := add_sub_cancel_right t 1
  rw [resolveAffectedDays, List.foldl_cons, List.foldl_nil]
  dsimp only
  rw [hlast]
  simp [addUnseen, dayAt]

end

/-! ## One day -/

/-- **The local day is one and the same** in all three readings iff its date is regular. -/
theorem localDay_iff (sc : MeteredTicks)
    (hreads : (sc.f.siteTimezone sc.siteId).ReadsShownTimes sc.localToUtc) (t : Time) :
    (IsLeast ((sc.f.siteTimezone sc.siteId).dateOf t)
          (getLocalMidnightUTC t (sc.f.siteTimezone sc.siteId)) ∧
        (∀ u ∈ (sc.f.siteTimezone sc.siteId).dateOf t,
          getLocalMidnightUTC u (sc.f.siteTimezone sc.siteId)
            = getLocalMidnightUTC t (sc.f.siteTimezone sc.siteId)) ∧
        ∀ buckets, ∀ b ∈ buckets, t = b.startTime ∨ t = b.lastMs →
          ∃ day ∈ resolveAffectedDays buckets (sc.f.siteTimezone sc.siteId),
            day.window = sc.localDay t) ↔
      (sc.f.siteTimezone sc.siteId).RegularDate sc.localToUtc t := by
  have hlocalDay : sc.localDay t
      = ⟨sc.localToUtc ((sc.f.siteTimezone sc.siteId).midnightOf t),
        sc.localToUtc ((sc.f.siteTimezone sc.siteId).midnightOf t + 86400)⟩ := rfl
  rw [hlocalDay]
  generalize sc.f.siteTimezone sc.siteId = tz at hreads ⊢
  have hdays : (∀ buckets, ∀ b ∈ buckets, t = b.startTime ∨ t = b.lastMs →
      ∃ day ∈ resolveAffectedDays buckets tz, day.window
        = ⟨sc.localToUtc (tz.midnightOf t), sc.localToUtc (tz.midnightOf t + 86400)⟩) ↔
      (dayAt tz t).window
        = ⟨sc.localToUtc (tz.midnightOf t), sc.localToUtc (tz.midnightOf t + 86400)⟩ := by
    constructor
    · intro h
      obtain ⟨day, hday, heq⟩ := h [⟨t, 1⟩] ⟨t, 1⟩ (List.mem_singleton_self _) (.inl rfl)
      rw [resolveAffectedDays_singleton, List.mem_singleton] at hday
      rwa [hday] at heq
    · exact fun h buckets b hb ht ↦ ⟨_, dayAt_mem_resolveAffectedDays hb ht, h⟩
  have hmidnights : (∀ u ∈ tz.dateOf t, getLocalMidnightUTC u tz = getLocalMidnightUTC t tz) ↔
      ∀ u ∈ tz.dateOf t, tz.offset u = tz.offset t :=
    forall₂_congr fun u hu ↦ getLocalMidnightUTC_eq_iff hu
  -- where the date begins at 0:00 the database reads that midnight as its beginning
  have hreadsMidnight : (∀ u ∈ tz.dateOf t, tz.offset u = tz.offset t) →
      IsLeast (tz.dateOf t) (getLocalMidnightUTC t tz) →
        sc.localToUtc (tz.midnightOf t) = getLocalMidnightUTC t tz := by
    intro hoffset hleast
    have hseconds : getLocalMidnightUTC t tz / 1000 * 1000 = getLocalMidnightUTC t tz := by
      rw [getLocalMidnightUTC_ediv, getLocalMidnightUTC_eq]
    have hwall : tz.wallClock (getLocalMidnightUTC t tz / 1000) = tz.midnightOf t := by
      have heq := hoffset _ hleast.1
      rw [Timezone.offset, getLocalMidnightUTC_ediv] at heq
      rw [getLocalMidnightUTC_ediv, eq_add_of_sub_eq heq, add_sub_cancel]
    rw [← hwall, hreads _ fun s' ↦ wallClock_injOn hoffset (by rw [hseconds]; exact hleast.1),
      hseconds]
  rw [hdays, hmidnights]
  constructor
  · rintro ⟨hleast, hoffset, hwindow⟩
    refine ⟨hoffset, (isLeast_getLocalMidnightUTC_iff hoffset).mp hleast, ?_⟩
    rw [hreadsMidnight hoffset hleast]
    exact (congrArg Window.stop hwindow).symm
  · rintro ⟨hoffset, hbegins, hlength⟩
    have hleast := (isLeast_getLocalMidnightUTC_iff hoffset).mpr hbegins
    refine ⟨hleast, hoffset, ?_⟩
    rw [hlength, hreadsMidnight hoffset hleast]
    rfl

/-! ## Samples -/

/-- An hour ahead of UTC, and two hours from 1:00 UTC on. -/
def springForward : Timezone := ⟨fun s ↦ if s < 3600 then s + 3600 else s + 7200⟩

/-- A site where the clock is put forward, and its local times as the database reads them. -/
def springForwardTicks : MeteredTicks where
  f := { oneShiftFacility 0 28800000 with sites := [⟨1, "Plant", springForward⟩] }
  siteId := 1
  stationId := 2
  reasons := []
  localToUtc seconds := (if seconds < 10800 then seconds - 3600 else seconds - 7200) * 1000

private theorem springForward_back (s : ℤ) :
    (if (if s < 3600 then s + 3600 else s + 7200) < 10800
      then (if s < 3600 then s + 3600 else s + 7200) - 3600
      else (if s < 3600 then s + 3600 else s + 7200) - 7200) * 1000 = s * 1000 := by
  split_ifs <;> omega

theorem springForward_readsShownTimes :
    springForward.ReadsShownTimes springForwardTicks.localToUtc := fun s _ ↦ springForward_back s

private theorem springForward_date {s : ℤ}
    (h : (if s < 3600 then s + 3600 else s + 7200) / 86400 = 1) :
    79200 ≤ s ∧ ¬s < 3600 := by
  split at h <;> omega

private theorem springForward_least {u : ℤ} (h : 79200 ≤ u / 1000) : 22 * 3600000 ≤ u := by omega

/-- The date after the jump is regular. -/
theorem springForward_regularDate :
    springForward.RegularDate springForwardTicks.localToUtc (36 * msPerHour) where
  offset_eq u hu := by
    have hahead := (springForward_date hu).2
    rw [Timezone.offset, springForward]
    dsimp only
    rw [if_neg hahead, add_sub_cancel_left]
    decide
  begins := by
    refine ⟨22 * msPerHour, ⟨?_, fun u hu ↦ springForward_least (springForward_date hu).1⟩, ?_⟩
    · rw [Timezone.mem_dateOf_iff]
      decide +kernel
    · decide +kernel
  length := by decide +kernel

theorem localDay_iff_springForward : springForward.RegularDate springForwardTicks.localToUtc
      (36 * msPerHour) ∧
    IsLeast (springForward.dateOf (36 * msPerHour))
      (getLocalMidnightUTC (36 * msPerHour) springForward) :=
  ⟨springForward_regularDate, ((localDay_iff springForwardTicks springForward_readsShownTimes
    _).mpr springForward_regularDate).1⟩

/-- On the date of the jump the midnight of a timestamp at noon is an hour before the one of a
timestamp at 1:00, where the date begins, and its day one hour longer than the one that the tick
sums. -/
theorem not_localDay_springForward :
    springForward.ReadsShownTimes springForwardTicks.localToUtc ∧
    (0 : Time) ∈ springForward.dateOf (12 * msPerHour) ∧
    getLocalMidnightUTC 0 springForward = -1 * msPerHour ∧
    getLocalMidnightUTC (12 * msPerHour) springForward = -2 * msPerHour ∧
    -2 * msPerHour ∉ springForward.dateOf (12 * msPerHour) ∧
    (resolveAffectedDays [⟨12 * msPerHour, 1⟩] springForward).map BucketWindow.window
      = [⟨-2 * msPerHour, 22 * msPerHour⟩] ∧
    springForwardTicks.localDay (12 * msPerHour) = ⟨-1 * msPerHour, 22 * msPerHour⟩ := by
  refine ⟨springForward_readsShownTimes, ?_⟩
  simp only [Timezone.mem_dateOf_iff]
  decide +kernel

end RwServer
