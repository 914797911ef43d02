import Mathlib
import RwServer.Metrics.LocalDays
import RwServer.Shift.Materialize

/-!
# Business dates

The shifts of a rotation day share one business date. It is the local date of one instant: of the
UTC midnight that anchors the day, or of the end of the last shift, which the shift itself does not
contain. Shifts that all lie within one local date get that date exactly where this instant is on it
(`businessDate_eq_iff`); west of Greenwich the anchor is on the date before, and a shift up to
midnight ends on the date after.
-/

namespace RwServer

open Windows

theorem getLocalCalendarDate_eq (t : Time) (tz : Timezone) :
    getLocalCalendarDate t tz = tz.localDate t * msPerDay := by
  have hday : ∀ wall : ℤ, (t + (wall * 1000 - t)) / 86400000 = wall / 86400 := by
    intro wall
    rw [add_sub_cancel, show (86400000 : ℤ) = 86400 * 1000 by decide]
    exact Int.mul_ediv_mul_of_pos_left wall 86400 (by decide)
  rw [getLocalCalendarDate, getTimezoneOffsetMs, Timezone.localDate]
  exact congrArg (· * msPerDay) (hday _)

/-! ## The instant that dates a rotation day -/

namespace ShiftAssignment

variable (a : ShiftAssignment) (reservedWindows : List (Window Time)) (targetMs : Time)

/-- The shifts of a date that meet no reserved window. -/
def openDefsOn : List ShiftDefinition :=
  (a.defsOn targetMs).filter fun d ↦ !overlapsAny (computeShiftUtcTimes targetMs d) reservedWindows

/-- The instant whose local date is the business date. -/
def datedAt : Time :=
  if a.pattern.useEndDateForBusinessDate then
    (((a.openDefsOn reservedWindows targetMs).map fun d ↦
      (computeShiftUtcTimes targetMs d).stop).max?).getD 0
  else targetMs

/-- The row of a definition. -/
def rowOf (businessDate : Time) (d : ShiftDefinition) : InstanceRow where
  assignmentId := a.id
  definitionId := d.id
  scope := a.scope
  shiftName := d.shiftName
  businessDate := businessDate
  startTime := (computeShiftUtcTimes targetMs d).start
  endTime := (computeShiftUtcTimes targetMs d).stop

variable {a reservedWindows targetMs} {tz : Timezone} {r : InstanceRow}

theorem rowsOn_eq : a.rowsOn reservedWindows tz targetMs =
    (a.openDefsOn reservedWindows targetMs).map
      (a.rowOf targetMs (tz.localDate (a.datedAt reservedWindows targetMs) * msPerDay)) := by
  have hshifts : ((a.defsOn targetMs).map fun d ↦ (d, computeShiftUtcTimes targetMs d)).filter
      (fun s ↦ !overlapsAny s.2 reservedWindows)
      = (a.openDefsOn reservedWindows targetMs).map fun d ↦
          (d, computeShiftUtcTimes targetMs d) := by
    rw [List.filter_map]
    rfl
  have hdate : computeBusinessDate targetMs
      (((a.openDefsOn reservedWindows targetMs).map fun d ↦
        (d, computeShiftUtcTimes targetMs d)).map fun s ↦ s.2.stop)
      a.pattern.useEndDateForBusinessDate tz
      = tz.localDate (a.datedAt reservedWindows targetMs) * msPerDay := by
    rw [computeBusinessDate, datedAt, List.map_map, getLocalCalendarDate_eq,
      getLocalCalendarDate_eq]
    split <;> rfl
  rw [rowsOn, hshifts, hdate, List.map_map]
  rfl

theorem mem_rowsOn_iff : r ∈ a.rowsOn reservedWindows tz targetMs ↔
    ∃ d ∈ a.openDefsOn reservedWindows targetMs,
      a.rowOf targetMs (tz.localDate (a.datedAt reservedWindows targetMs) * msPerDay) d = r := by
  rw [rowsOn_eq, List.mem_map]

/-- The last shift of a date ends at the instant of the end date. -/
theorem isGreatest_datedAt (huse : a.pattern.useEndDateForBusinessDate = true)
    (hopen : a.openDefsOn reservedWindows targetMs ≠ []) :
    ∃ d ∈ a.openDefsOn reservedWindows targetMs,
      (computeShiftUtcTimes targetMs d).stop = a.datedAt reservedWindows targetMs ∧
        ∀ e ∈ a.openDefsOn reservedWindows targetMs,
          (computeShiftUtcTimes targetMs e).stop ≤ a.datedAt reservedWindows targetMs := by
  have hne : (a.openDefsOn reservedWindows targetMs).map
      (fun d ↦ (computeShiftUtcTimes targetMs d).stop) ≠ [] := by
    rwa [ne_eq, List.map_eq_nil_iff]
  obtain ⟨m, hm⟩ := Option.ne_none_iff_exists'.mp fun h ↦ hne (List.max?_eq_none_iff.mp h)
  obtain ⟨hmem, hmax⟩ := List.max?_eq_some_iff.mp hm
  have hdated : a.datedAt reservedWindows targetMs = m := by
    rw [datedAt, if_pos huse, hm, Option.getD_some]
  obtain ⟨d, hd, hstop⟩ := List.mem_map.mp hmem
  refine ⟨d, hd, hstop.trans hdated.symm, fun e he ↦ ?_⟩
  rw [hdated]
  exact hmax _ (List.mem_map_of_mem he)

/-! ## Shifts within one local date -/

variable (a reservedWindows tz targetMs) in
/-- The shifts of a date lie within one local date. -/
def WithinDate (date : ℤ) : Prop :=
  ∀ d ∈ a.openDefsOn reservedWindows targetMs, ∀ t,
    (computeShiftUtcTimes targetMs d).Contains t → tz.localDate t = date

variable (a reservedWindows tz targetMs) in
/-- The anchor of a rotation day is on the local date of its shifts, or no local date ends with the
last of them. -/
def KeepsDate : Prop :=
  if a.pattern.useEndDateForBusinessDate then
    ∀ d ∈ a.openDefsOn reservedWindows targetMs,
      (∀ e ∈ a.openDefsOn reservedWindows targetMs,
        (computeShiftUtcTimes targetMs e).stop ≤ (computeShiftUtcTimes targetMs d).stop) →
      tz.localDate (computeShiftUtcTimes targetMs d).stop
        = tz.localDate ((computeShiftUtcTimes targetMs d).stop - 1)
  else ∀ d ∈ a.openDefsOn reservedWindows targetMs,
    tz.localDate targetMs = tz.localDate (computeShiftUtcTimes targetMs d).start

instance decidableKeepsDate : Decidable (a.KeepsDate reservedWindows targetMs tz) :=
  inferInstanceAs (Decidable (if a.pattern.useEndDateForBusinessDate = true then
    ∀ d ∈ a.openDefsOn reservedWindows targetMs,
      (∀ e ∈ a.openDefsOn reservedWindows targetMs, _ ≤ _) → _ = _
  else ∀ d ∈ a.openDefsOn reservedWindows targetMs, _ = _))

theorem contains_start (d : ShiftDefinition) :
    (computeShiftUtcTimes targetMs d).Contains (computeShiftUtcTimes targetMs d).start :=
  ⟨le_rfl, lt_add_of_pos_right _ d.durationMs_pos⟩

/-- The last millisecond of a shift. -/
theorem contains_stop_sub_one (d : ShiftDefinition) :
    (computeShiftUtcTimes targetMs d).Contains ((computeShiftUtcTimes targetMs d).stop - 1) := by
  have hlast : ∀ start duration : ℤ, 0 < duration →
      start ≤ start + duration - 1 ∧ start + duration - 1 < start + duration := by
    intro start duration h
    omega
  exact hlast _ _ d.durationMs_pos

/-- The instant that dates shifts of one local date is on this date. -/
theorem localDate_datedAt_iff {date : ℤ} (hopen : a.openDefsOn reservedWindows targetMs ≠ [])
    (hwithin : a.WithinDate reservedWindows targetMs tz date) :
    tz.localDate (a.datedAt reservedWindows targetMs) = date ↔
      a.KeepsDate reservedWindows targetMs tz := by
  cases huse : a.pattern.useEndDateForBusinessDate with
  | false =>
    have hanchor : a.datedAt reservedWindows targetMs = targetMs := by
      rw [datedAt, huse, if_neg Bool.false_ne_true]
    rw [hanchor, KeepsDate, huse, if_neg Bool.false_ne_true]
    constructor
    · intro h d hd
      rw [h, hwithin d hd _ (contains_start d)]
    · intro h
      obtain ⟨d, hd⟩ := List.exists_mem_of_ne_nil _ hopen
      rw [h d hd, hwithin d hd _ (contains_start d)]
  | true =>
    obtain ⟨d, hd, hstop, hmax⟩ := isGreatest_datedAt huse hopen
    rw [KeepsDate, huse, if_pos rfl]
    constructor
    · intro h e he hlast
      -- all shifts that end last end at the same time
      have heq : (computeShiftUtcTimes targetMs e).stop = a.datedAt reservedWindows targetMs :=
        le_antisymm (hmax e he) (hstop ▸ hlast d hd)
      rw [hwithin e he _ (contains_stop_sub_one e), heq, h]
    · intro h
      rw [← hstop, h d hd fun e he ↦ hstop ▸ hmax e he,
        hwithin d hd _ (contains_stop_sub_one d)]

/-- **Shifts within one local date** get this date exactly where the anchor of their day is on it,
or where it does not end with the last of them. -/
theorem businessDate_eq_iff {date : ℤ} (hwithin : a.WithinDate reservedWindows targetMs tz date) :
    (∀ r ∈ a.rowsOn reservedWindows tz targetMs, r.businessDate = date * msPerDay) ↔
      a.KeepsDate reservedWindows targetMs tz := by
  by_cases hopen : a.openDefsOn reservedWindows targetMs = []
  · have hrows : a.rowsOn reservedWindows tz targetMs = [] := by
      rw [rowsOn_eq, hopen, List.map_nil]
    rw [hrows, KeepsDate, hopen]
    split <;> simp
  · rw [← localDate_datedAt_iff hopen hwithin]
    constructor
    · intro h
      obtain ⟨d, hd⟩ := List.exists_mem_of_ne_nil _ hopen
      exact mul_right_cancel₀ (by decide) (h _ (mem_rowsOn_iff.mpr ⟨d, hd, rfl⟩))
    · rintro h r hr
      obtain ⟨d, -, rfl⟩ := mem_rowsOn_iff.mp hr
      rw [← h]
      rfl

end ShiftAssignment

/-- From 5 pm to midnight in New York, in summer. -/
def untilMidnight : ShiftDefinition where
  id := 1
  dayOfRotation := 1
  sortOrder := 1
  startDayOffset := 0
  startHours := 21
  startMinutes := 0
  durationMs := 7 * msPerHour
  shiftName := "Evening"
  durationMs_pos := by decide

/-- The shift on every day. -/
def everyEvening (useEndDateForBusinessDate : Bool) : ShiftAssignment where
  id := 1
  scope := ⟨1, none⟩
  rotationStartDate := 0
  rotationEndDate := none
  rotationStartDefinition := none
  pattern := ⟨1, useEndDateForBusinessDate, [untilMidnight]⟩

/-- A zone with one offset, in seconds. -/
def Timezone.ofOffset (offset : ℤ) : Timezone := ⟨fun s ↦ s + offset⟩

private theorem withinDate_of_le {useEnd : Bool} {offset : ℤ} (hlow : -18000 ≤ offset)
    (hhigh : offset ≤ -14400) :
    (everyEvening useEnd).WithinDate [] 0 (Timezone.ofOffset offset) 0 := by
  have hdate : ∀ t : ℤ, 75600000 ≤ t → t < 100800000 → (t / 1000 + offset) / 86400 = 0 := by
    intro t hle hlt
    omega
  have hopen : (everyEvening useEnd).openDefsOn [] 0 = [untilMidnight] := by
    cases useEnd <;> decide
  intro d hd t ht
  rw [hopen, List.mem_singleton] at hd
  subst hd
  exact hdate t ht.1 ht.2

/-- In winter the shift ends at 11 pm. -/
theorem businessDate_everyEvening_of_winter :
    (everyEvening true).openDefsOn [] 0 = [untilMidnight] ∧
      ∀ r ∈ (everyEvening true).rowsOn [] (Timezone.ofOffset (-18000)) 0,
        r.businessDate = 0 * msPerDay :=
  ⟨by decide, (ShiftAssignment.businessDate_eq_iff
    (withinDate_of_le (by decide) (by decide))).mpr (by decide +kernel)⟩

/-- Shifts that lie within one local date are given the date before, or the date after. -/
theorem not_businessDate_of_withinDate :
    (∃ (a : ShiftAssignment) (tz : Timezone) (date : ℤ),
      a.pattern.useEndDateForBusinessDate = false ∧ a.WithinDate [] 0 tz date ∧
        ∃ r ∈ a.rowsOn [] tz 0, r.businessDate ≠ date * msPerDay) ∧
    ∃ (a : ShiftAssignment) (tz : Timezone) (date : ℤ),
      a.pattern.useEndDateForBusinessDate = true ∧ a.WithinDate [] 0 tz date ∧
        ∃ r ∈ a.rowsOn [] tz 0, r.businessDate ≠ date * msPerDay := by
  refine ⟨⟨everyEvening false, Timezone.ofOffset (-14400), 0, rfl, ?_, ?_⟩,
    ⟨everyEvening true, Timezone.ofOffset (-14400), 0, rfl, ?_, ?_⟩⟩
  · exact withinDate_of_le (by decide) (by decide)
  · decide +kernel
  · exact withinDate_of_le (by decide) (by decide)
  · decide +kernel

end RwServer
