import Mathlib
import RwServer.Metrics.Scaffold

/-!
# Materializing shift instances

An assignment gives a scope, a site or a workcenter, the rotation of a pattern. A reconcile ends the
assignments that a new one replaces, deletes their instances that nothing refers to, and inserts the
instances of the new one around those that stay; a tick inserts the instances of all assignments for
the days ahead, and does not know of any that stay.

What an assignment *plans* for some days (`ShiftAssignment.Plans`) is a matter of its dates and its
pattern alone; the rows that are built are its plans without those that meet a reserved window
(`exists_window_buildInstanceRows_iff`).
-/

namespace RwServer

open Windows Relational

def msPerMinute : ℤ := 60000

/-! ## Patterns and assignments -/

/-- A row of `ShiftDefinition`. -/
structure ShiftDefinition where
  id : Uuid
  dayOfRotation : ℤ
  sortOrder : ℤ
  startDayOffset : ℤ
  /-- `startTime` is `HH:mm`. -/
  startHours : ℤ
  startMinutes : ℤ
  /-- `durationHrs`, in milliseconds. -/
  durationMs : ℤ
  shiftName : String
  durationMs_pos : 0 < durationMs
deriving DecidableEq

/-- A row of `ShiftPattern`, with its definitions by `sortOrder`. -/
structure ShiftPattern where
  totalDaysInRotation : ℤ
  useEndDateForBusinessDate : Bool
  shifts : List ShiftDefinition
deriving DecidableEq

/-- What is selected of `rotationStartDefinition`. -/
structure RotationStart where
  dayOfRotation : ℤ
  sortOrder : ℤ
deriving DecidableEq

/-- A site, or one of its workcenters. -/
structure ShiftScope where
  siteId : Uuid
  workCenterId : Option Uuid
deriving DecidableEq

/-- A row of `ShiftAssignment`, with its pattern. -/
structure ShiftAssignment where
  id : Uuid
  scope : ShiftScope
  rotationStartDate : Time
  rotationEndDate : Option Time
  rotationStartDefinition : Option RotationStart
  pattern : ShiftPattern
deriving DecidableEq

/-- An instance before insertion. -/
structure InstanceRow where
  assignmentId : Uuid
  definitionId : Uuid
  scope : ShiftScope
  shiftName : String
  businessDate : Time
  startTime : Time
  endTime : Time
deriving DecidableEq

/-- The time an instance lasts. -/
def InstanceRow.window (r : InstanceRow) : Window Time := ⟨r.startTime, r.endTime⟩

def floorToDay (date : Time) : Time := date / msPerDay * msPerDay

def parseLocalTime (hours minutes : ℤ) : ℤ := hours * msPerHour + minutes * msPerMinute

/-- `utcStartMs` and `utcEndMs`. -/
def computeShiftUtcTimes (targetDayMs : Time) (d : ShiftDefinition) : Window Time :=
  let timeMs := parseLocalTime d.startHours d.startMinutes
  let utcStartMs := targetDayMs + d.startDayOffset * msPerDay + timeMs
  ⟨utcStartMs, utcStartMs + d.durationMs⟩

def computeBusinessDate (targetDate : Time) (shiftEndTimesMs : List Time)
    (useEndDateForBusinessDate : Bool) (timezone : Timezone) : Time :=
  if useEndDateForBusinessDate then getLocalCalendarDate (shiftEndTimesMs.max?.getD 0) timezone
  else getLocalCalendarDate targetDate timezone

def overlapsAny (w : Window Time) (windows : List (Window Time)) : Bool :=
  windows.any fun v ↦ decide (w.start < v.stop) && decide (v.start < w.stop)

/-! ## `buildInstanceRows` -/

/-- The day of the rotation, from 1 on. -/
def ShiftPattern.rotationDay (p : ShiftPattern) (day : ℤ) : ℤ := day % p.totalDaysInRotation + 1

namespace ShiftAssignment

variable (a : ShiftAssignment)

/-- `startDay`. -/
def startDay : ℤ := (a.rotationStartDefinition.map RotationStart.dayOfRotation).getD 1

/-- `defsForDay`. -/
def defsForDay (daysSinceStart : ℤ) : List ShiftDefinition :=
  let rotationDay := a.pattern.rotationDay (daysSinceStart + a.startDay - 1)
  let defsForDay := a.pattern.shifts.filter fun d ↦ d.dayOfRotation == rotationDay
  match a.rotationStartDefinition with
  | some start =>
    if daysSinceStart = 0 then defsForDay.filter fun d ↦ decide (start.sortOrder ≤ d.sortOrder)
    else defsForDay
  | none => defsForDay

/-- The definitions for a date, none of them before the assignment takes effect and after it
ends. -/
def defsOn (targetMs : Time) : List ShiftDefinition :=
  let rotationStartMs := floorToDay a.rotationStartDate
  if targetMs < rotationStartMs then []
  else if a.rotationEndDate.any fun date ↦ decide (floorToDay date < targetMs) then []
  else a.defsForDay ((targetMs - rotationStartMs) / msPerDay)

/-- The rows of a date. -/
def rowsOn (reservedWindows : List (Window Time)) (timezone : Timezone) (targetMs : Time) :
    List InstanceRow :=
  let shiftsForDay := ((a.defsOn targetMs).map fun d ↦ (d, computeShiftUtcTimes targetMs d)).filter
    fun s ↦ !overlapsAny s.2 reservedWindows
  let businessDate := computeBusinessDate targetMs (shiftsForDay.map fun s ↦ s.2.stop)
    a.pattern.useEndDateForBusinessDate timezone
  shiftsForDay.map fun s ↦
    { assignmentId := a.id
      definitionId := s.1.id
      scope := a.scope
      shiftName := s.1.shiftName
      businessDate := businessDate
      startTime := s.2.start
      endTime := s.2.stop }

/-- The dates of a loop, from a UTC midnight on. -/
def targetDays (fromDayMs : Time) (lookaheadDays : ℕ) : List Time :=
  (List.range (lookaheadDays + 1)).map fun dayOffset : ℕ ↦ fromDayMs + dayOffset * msPerDay

def buildInstanceRows (fromDayMs : Time) (lookaheadDays : ℕ)
    (reservedWindows : List (Window Time)) (timezone : Timezone) : List InstanceRow :=
  (targetDays fromDayMs lookaheadDays).flatMap (a.rowsOn reservedWindows timezone)

/-- The assignment has a shift with a window for one of the days. -/
def Plans (fromDayMs : Time) (lookaheadDays : ℕ) (w : Window Time) : Prop :=
  ∃ targetMs ∈ targetDays fromDayMs lookaheadDays, ∃ d ∈ a.defsOn targetMs,
    computeShiftUtcTimes targetMs d = w

end ShiftAssignment

/-! ## The schedule -/

/-- A row of `ShiftInstance`. -/
structure ShiftRow extends InstanceRow where
  id : Uuid
deriving DecidableEq

/-- `@@unique([assignmentId, startTime])`, and the primary key. -/
def shiftSchema : Schema ShiftRow (Uuid × Time) where
  key r := (r.assignmentId, r.startTime)
  clash r s := r.id == s.id
  clash_symm _ _ := Bool.beq_comm

structure Schedule where
  assignments : List ShiftAssignment
  instances : Table shiftSchema

/-- An id that no row has. -/
def freshShiftId (t : Table shiftSchema) : Uuid := (t.rows.map ShiftRow.id).sum + 1

/-- `createMany` with `skipDuplicates`. -/
def createMany (t : Table shiftSchema) (data : List InstanceRow) : Table shiftSchema :=
  data.foldl (fun t r ↦ t.insertMissing ⟨r, freshShiftId t⟩) t

def defaultLookaheadDays : ℕ := 7

namespace Schedule

variable (sch : Schedule)

def assignment (assignmentId : Uuid) : Option ShiftAssignment :=
  sch.assignments.find? (·.id == assignmentId)

/-- The assignments a tick is about. -/
def active (now : Time) : List ShiftAssignment :=
  let today := floorToDay now
  sch.assignments.filter fun a ↦ a.rotationEndDate.all fun date ↦ decide (today ≤ date)

def materializeShiftInstances (timezoneOf : Uuid → Timezone) (now : Time) (lookaheadDays : ℕ) :
    Schedule :=
  let fromMs := floorToDay now - msPerDay
  let allRows := (sch.active now).flatMap fun a ↦
    a.buildInstanceRows fromMs (lookaheadDays + 1) [] (timezoneOf a.scope.siteId)
  { sch with instances := createMany sch.instances allRows }

/-- The row condition of `oldAssignments`. -/
def isOldAssignment (newAssignment a : ShiftAssignment) : Bool :=
  a.id != newAssignment.id && a.scope == newAssignment.scope &&
    a.rotationEndDate.all fun date ↦ decide (newAssignment.rotationStartDate ≤ date)

/-- The row condition of `oldInstances`. -/
def isOldInstance (newAssignment : ShiftAssignment) (i : ShiftRow) : Bool :=
  (sch.assignments.any fun a ↦ isOldAssignment newAssignment a && a.id == i.assignmentId) &&
    decide (newAssignment.rotationStartDate < i.endTime)

/-- `reservedWindows`. -/
def reservedWindows (newAssignment : ShiftAssignment) (inUse : Uuid → Bool) : List (Window Time) :=
  (sch.instances.rows.filter fun i ↦ sch.isOldInstance newAssignment i && inUse i.id).map
    fun i ↦ i.window

/-- The `updateMany` of the old assignments. -/
def endOld (newAssignment a : ShiftAssignment) : ShiftAssignment :=
  if isOldAssignment newAssignment a &&
      a.rotationEndDate.all fun date ↦ decide (newAssignment.rotationStartDate < date) then
    { a with rotationEndDate := some newAssignment.rotationStartDate }
  else a

/-- `inUse` are the instances that a bucket or a disposition refers to. -/
def reconcileShiftInstances (timezoneOf : Uuid → Timezone) (inUse : Uuid → Bool) (now : Time)
    (assignmentId : Uuid) : Schedule :=
  match sch.assignment assignmentId with
  | none => sch
  | some newAssignment =>
    let reservedWindows := sch.reservedWindows newAssignment inUse
    let kept := sch.instances.delete fun i ↦ sch.isOldInstance newAssignment i && !inUse i.id
    let fromMs := floorToDay now - msPerDay
    let rows := newAssignment.buildInstanceRows fromMs (defaultLookaheadDays + 1) reservedWindows
      (timezoneOf newAssignment.scope.siteId)
    { assignments := sch.assignments.map (endOld newAssignment)
      instances := createMany kept rows }

variable {sch} {a : ShiftAssignment}

/-- An assignment does not replace itself. -/
theorem isOldAssignment_of_id {b : ShiftAssignment} (h : b.id = a.id) :
    isOldAssignment a b = false := by
  rw [isOldAssignment, h, bne_self_eq_false, Bool.false_and, Bool.false_and]

/-- A new assignment is not among the old ones. -/
theorem isOldInstance_append (i : ShiftRow) :
    Schedule.isOldInstance ⟨sch.assignments ++ [a], sch.instances⟩ a i = sch.isOldInstance a i := by
  rw [isOldInstance, isOldInstance, List.any_append, List.any_cons, isOldAssignment_of_id rfl,
    Bool.false_and, List.any_nil, Bool.or_false, Bool.or_false]

end Schedule

/-! ## What is built -/

section

variable {a : ShiftAssignment} {fromDayMs targetMs : Time} {lookaheadDays : ℕ}
  {reservedWindows : List (Window Time)} {timezone : Timezone} {r : InstanceRow} {w v : Window Time}

/-- A window that meets none of some windows is apart from each of them. -/
theorem apart_of_overlapsAny {windows : List (Window Time)} (h : overlapsAny w windows = false)
    (hv : v ∈ windows) : w.Apart v := by
  rw [overlapsAny, List.any_eq_false] at h
  have hv := h v hv
  rw [Bool.and_eq_true, decide_eq_true_eq, decide_eq_true_eq] at hv
  exact fun t hw hv' ↦ hv ⟨hw.1.trans_lt hv'.2, hv'.1.trans_lt hw.2⟩

namespace ShiftAssignment

theorem mem_rowsOn (h : r ∈ a.rowsOn reservedWindows timezone targetMs) :
    r.assignmentId = a.id ∧ r.scope = a.scope ∧ overlapsAny r.window reservedWindows = false ∧
      ∃ d ∈ a.defsOn targetMs, computeShiftUtcTimes targetMs d = r.window := by
  obtain ⟨s, hs, rfl⟩ := List.mem_map.mp h
  obtain ⟨hs, hfree⟩ := List.mem_filter.mp hs
  obtain ⟨d, hd, rfl⟩ := List.mem_map.mp hs
  rw [Bool.not_eq_true'] at hfree
  exact ⟨rfl, rfl, hfree, d, hd, rfl⟩

theorem exists_mem_rowsOn {d : ShiftDefinition} (hd : d ∈ a.defsOn targetMs)
    (hfree : overlapsAny (computeShiftUtcTimes targetMs d) reservedWindows = false) :
    ∃ r ∈ a.rowsOn reservedWindows timezone targetMs,
      r.window = computeShiftUtcTimes targetMs d :=
  ⟨_, List.mem_map_of_mem (List.mem_filter.mpr
    ⟨List.mem_map_of_mem hd, by rw [hfree, Bool.not_false]⟩), rfl⟩

/-- The rows of an assignment carry its id and its scope. -/
theorem assignment_of_mem_build
    (h : r ∈ a.buildInstanceRows fromDayMs lookaheadDays reservedWindows timezone) :
    r.assignmentId = a.id ∧ r.scope = a.scope := by
  obtain ⟨targetMs, -, hr⟩ := List.mem_flatMap.mp h
  exact ⟨(mem_rowsOn hr).1, (mem_rowsOn hr).2.1⟩

/-- **The rows are the plans** that meet no reserved window. -/
theorem exists_window_buildInstanceRows_iff :
    (∃ r ∈ a.buildInstanceRows fromDayMs lookaheadDays reservedWindows timezone, r.window = w) ↔
      a.Plans fromDayMs lookaheadDays w ∧ overlapsAny w reservedWindows = false := by
  constructor
  · rintro ⟨r, hr, rfl⟩
    obtain ⟨targetMs, htarget, hr⟩ := List.mem_flatMap.mp hr
    obtain ⟨-, -, hfree, d, hd, hwindow⟩ := mem_rowsOn hr
    exact ⟨⟨targetMs, htarget, d, hd, hwindow⟩, hfree⟩
  · rintro ⟨⟨targetMs, htarget, d, hd, rfl⟩, hfree⟩
    obtain ⟨r, hr, hwindow⟩ : ∃ r ∈ a.rowsOn reservedWindows timezone targetMs,
        r.window = computeShiftUtcTimes targetMs d := exists_mem_rowsOn hd hfree
    exact ⟨r, List.mem_flatMap.mpr ⟨targetMs, htarget, hr⟩, hwindow⟩

theorem Plans.nonempty (h : a.Plans fromDayMs lookaheadDays w) : w.start < w.stop := by
  obtain ⟨targetMs, -, d, -, rfl⟩ := h
  exact lt_add_of_pos_right _ d.durationMs_pos

end ShiftAssignment

end

/-! ### Plans of one assignment -/

/-- No two shifts of the rotation overlap, within a day or across days. -/
def ShiftPattern.Disjoint (p : ShiftPattern) : Prop :=
  ∀ d ∈ p.shifts, ∀ e ∈ p.shifts, ∀ n m : ℤ, p.rotationDay n = d.dayOfRotation →
    p.rotationDay m = e.dayOfRotation → (n, d) ≠ (m, e) →
      (computeShiftUtcTimes (n * msPerDay) d).Apart (computeShiftUtcTimes (m * msPerDay) e)

section

variable {a : ShiftAssignment} {fromDayMs targetMs : Time} {lookaheadDays : ℕ} {w v : Window Time}

private theorem shifted_iff (target c offset time duration t : ℤ) :
    (target + c + offset + time ≤ t ∧ t < target + c + offset + time + duration) ↔
      (target + offset + time ≤ t - c ∧ t - c < target + offset + time + duration) := by
  omega

/-- A shift is at the same time of every day. -/
theorem contains_computeShiftUtcTimes_add (targetMs c t : ℤ) (d : ShiftDefinition) :
    (computeShiftUtcTimes (targetMs + c) d).Contains t ↔
      (computeShiftUtcTimes targetMs d).Contains (t - c) :=
  shifted_iff targetMs c _ _ _ t

theorem mem_shifts_of_mem_defsOn {d : ShiftDefinition} (h : d ∈ a.defsOn targetMs) :
    d ∈ a.pattern.shifts ∧ a.pattern.rotationDay
      ((targetMs - floorToDay a.rotationStartDate) / msPerDay + a.startDay - 1)
        = d.dayOfRotation := by
  have hday : ∀ n, d ∈ a.defsForDay n → d ∈ a.pattern.shifts ∧
      a.pattern.rotationDay (n + a.startDay - 1) = d.dayOfRotation := by
    intro n hd
    have hd : d ∈ a.pattern.shifts.filter fun d ↦
        d.dayOfRotation == a.pattern.rotationDay (n + a.startDay - 1) := by
      rw [ShiftAssignment.defsForDay] at hd
      split at hd
      · split at hd
        · exact (List.mem_filter.mp hd).1
        · exact hd
      · exact hd
    exact ⟨(List.mem_filter.mp hd).1, (eq_of_beq (List.mem_filter.mp hd).2).symm⟩
  rw [ShiftAssignment.defsOn] at h
  split at h
  · exact absurd h List.not_mem_nil
  · split at h
    · exact absurd h List.not_mem_nil
    · exact hday _ h

theorem dvd_of_mem_targetDays (hfrom : msPerDay ∣ (fromDayMs : ℤ))
    (h : targetMs ∈ ShiftAssignment.targetDays fromDayMs lookaheadDays) :
    msPerDay ∣ (targetMs : ℤ) := by
  obtain ⟨k, -, rfl⟩ := List.mem_map.mp h
  exact dvd_add hfrom (dvd_mul_left _ _)

/-- Plans of one assignment do not overlap, whatever days they are for. -/
theorem ShiftAssignment.Plans.eq_or_apart_of_dvd {fromDayMs' : Time} {lookaheadDays' : ℕ}
    (hpattern : a.pattern.Disjoint) (hfrom : msPerDay ∣ (fromDayMs : ℤ))
    (hfrom' : msPerDay ∣ (fromDayMs' : ℤ)) (hw : a.Plans fromDayMs lookaheadDays w)
    (hv : a.Plans fromDayMs' lookaheadDays' v) : w = v ∨ w.Apart v := by
  obtain ⟨target, htarget, d, hd, rfl⟩ := hw
  obtain ⟨target', htarget', e, he, rfl⟩ := hv
  obtain ⟨hdmem, hday⟩ := mem_shifts_of_mem_defsOn hd
  obtain ⟨hemem, hday'⟩ := mem_shifts_of_mem_defsOn he
  -- days are counted from the first day of the rotation
  have hstart : msPerDay ∣ (floorToDay a.rotationStartDate : ℤ) := dvd_mul_left _ _
  have hshift : ∀ target : ℤ, msPerDay ∣ target →
      target = ((target - floorToDay a.rotationStartDate) / msPerDay + a.startDay - 1) * msPerDay
        + (floorToDay a.rotationStartDate - (a.startDay - 1) * msPerDay) := by
    intro target htarget
    have := Int.ediv_mul_cancel (dvd_sub htarget hstart)
    linarith
  have hdvd := dvd_of_mem_targetDays hfrom htarget
  have hdvd' := dvd_of_mem_targetDays hfrom' htarget'
  by_cases heq : (((target - floorToDay a.rotationStartDate) / msPerDay + a.startDay - 1, d)
      : ℤ × ShiftDefinition)
      = ((target' - floorToDay a.rotationStartDate) / msPerDay + a.startDay - 1, e)
  · obtain ⟨hday, rfl⟩ := Prod.mk.inj heq
    left
    rw [hshift target hdvd, hshift target' hdvd', hday]
  · right
    intro t ht ht'
    rw [hshift target hdvd, contains_computeShiftUtcTimes_add] at ht
    rw [hshift target' hdvd', contains_computeShiftUtcTimes_add] at ht'
    exact hpattern d hdmem e hemem _ _ hday hday' heq _ ht ht'

/-- **The plans of one assignment** do not overlap. -/
theorem ShiftAssignment.Plans.eq_or_apart (hpattern : a.pattern.Disjoint)
    (hfrom : msPerDay ∣ (fromDayMs : ℤ)) (hw : a.Plans fromDayMs lookaheadDays w)
    (hv : a.Plans fromDayMs lookaheadDays v) : w = v ∨ w.Apart v :=
  hw.eq_or_apart_of_dvd hpattern hfrom hfrom hv

end

/-! ## What is inserted -/

section

variable {t : Table shiftSchema} {data : List InstanceRow} {r : InstanceRow} {x : ShiftRow}
  {k : Uuid × Time}

theorem noClash_freshShiftId (t : Table shiftSchema) (r : InstanceRow) :
    ∀ a ∈ t.rows, shiftSchema.clash a ⟨r, freshShiftId t⟩ = false := fun _ ha ↦
  beq_eq_false_iff_ne.mpr
    (Nat.lt_succ_of_le (List.le_sum_of_mem (List.mem_map_of_mem (f := ShiftRow.id) ha))).ne

/-- A row that is there stays as it is. -/
theorem find_createMany_of_some (h : t.find k = some x) : (createMany t data).find k = some x := by
  induction data generalizing t with
  | nil => exact h
  | cons r data ih =>
    refine ih (t := t.insertMissing ⟨r, freshShiftId t⟩) ?_
    by_cases hk : shiftSchema.key ⟨r, freshShiftId t⟩ = k
    · rw [← hk, t.find_insertMissing_self (noClash_freshShiftId t r), hk, h, Option.getD_some]
    · rw [t.find_insertMissing_of_ne hk, h]

theorem mem_createMany_of_mem (h : x ∈ t.rows) : x ∈ (createMany t data).rows :=
  (Table.find_eq_some_iff.mp (find_createMany_of_some (Table.find_of_mem h))).1

/-- A row that is new is one of the data, under a key that was free. -/
theorem of_mem_createMany (h : x ∈ (createMany t data).rows) :
    x ∈ t.rows ∨ t.find (shiftSchema.key x) = none ∧ x.toInstanceRow ∈ data := by
  induction data generalizing t with
  | nil => exact .inl h
  | cons r data ih =>
    rcases ih (t := t.insertMissing ⟨r, freshShiftId t⟩) h with hmem | ⟨hfree, hdata⟩
    · rcases Table.mem_of_mem_insertMissing hmem with hold | rfl
      · exact .inl hold
      · cases hfind : t.find (shiftSchema.key ⟨r, freshShiftId t⟩) with
        | none => exact .inr ⟨rfl, List.mem_cons_self⟩
        | some a =>
          -- the key is taken, so that nothing was inserted
          have hself := t.find_insertMissing_self (noClash_freshShiftId t r)
          rw [hfind, Option.getD_some, Table.find_of_mem hmem] at hself
          obtain ⟨ha, -⟩ := Table.find_eq_some_iff.mp hfind
          exact .inl (Option.some_inj.mp hself ▸ ha)
    · refine .inr ⟨?_, List.mem_cons_of_mem r hdata⟩
      cases hfind : t.find (shiftSchema.key x) with
      | none => rfl
      | some a =>
        have hkept : (createMany t [r]).find (shiftSchema.key x) = some a :=
          find_createMany_of_some hfind
        exact absurd (hkept.symm.trans hfree) (Option.some_ne_none a)

/-- Every row of the data finds a row under its key. -/
theorem exists_mem_createMany (h : r ∈ data) : ∃ x ∈ (createMany t data).rows,
    x.assignmentId = r.assignmentId ∧ x.startTime = r.startTime := by
  have hfind : ((createMany t data).find (r.assignmentId, r.startTime)).isSome = true := by
    induction data generalizing t with
    | nil => exact absurd h List.not_mem_nil
    | cons s data ih =>
      rcases List.mem_cons.mp h with rfl | h
      · have hself := t.find_insertMissing_self (noClash_freshShiftId t r)
        exact Option.isSome_iff_exists.mpr ⟨_, find_createMany_of_some
          (t := t.insertMissing ⟨r, freshShiftId t⟩) hself⟩
      · exact ih (t := t.insertMissing ⟨s, freshShiftId t⟩) h
  obtain ⟨x, hx⟩ := Option.isSome_iff_exists.mp hfind
  obtain ⟨hmem, hkey⟩ := Table.find_eq_some_iff.mp hx
  exact ⟨x, hmem, congrArg Prod.fst hkey, congrArg Prod.snd hkey⟩

end

end RwServer
