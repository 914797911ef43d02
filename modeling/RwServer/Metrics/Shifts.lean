import Mathlib
import RwServer.Database.Tables
import RwServer.Foundation.Windows

/-!
# Shifts and hour windows

Which `ShiftInstance` a timestamp falls in, and the hours a station is measured in. Inside a shift
the hours tick every 60 minutes from the *anchor*, the start of the first shift of the business
date, with a partial hour at either end of the shift; outside every shift they are the 24 clock
hours of the local day.

Both are partitions of a stretch, the shift and the 24 hours from local midnight, which cut it at
the lines of an hour grid (`isHourGrid_getHourBucketsForShift`,
`isHourGrid_getClockHourBucketsForDay`).

Lengths are kept in milliseconds, where the source divides by 1000 and multiplies back. What
`Intl.DateTimeFormat` shows in a time zone is a parameter.
-/

namespace RwServer

open Windows

def msPerHour : ℤ := 3600000

def msPerDay : ℤ := 86400000

/-! ## The configuration that is read -/

/-- A row of `ShiftInstance`, joined with the `rotationStartDate` of its assignment. -/
structure ShiftInstance where
  id : Uuid
  assignmentId : Uuid
  siteId : Uuid
  workCenterId : Option Uuid
  shiftName : String
  /-- A `Date` column: UTC midnight. -/
  businessDate : Time
  startTime : Time
  endTime : Time
  rotationStartDate : Time
deriving DecidableEq, Repr

/-- The time a shift lasts. -/
def ShiftInstance.window (i : ShiftInstance) : Window Time := ⟨i.startTime, i.endTime⟩

/-- An IANA time zone: the local date and time that `Intl.DateTimeFormat` shows at an epoch second,
read as seconds of UTC. -/
structure Timezone where
  wallClock : ℤ → ℤ

def Timezone.utc : Timezone := ⟨id⟩

/-- A row of `Site`. -/
structure Site where
  id : Uuid
  name : String
  timezone : Timezone

/-- A row of `Workcenter`. -/
structure Workcenter where
  id : Uuid
  name : String
  parentId : Option Uuid
deriving DecidableEq, Repr

/-- A row of `Station` as the metrics read it, joined with the name of the current job. -/
structure MeteredStation where
  id : Uuid
  name : String
  siteId : Uuid
  workcenterId : Option Uuid
  deletedAt : Option Time
  currentJobId : Option Uuid
  currentJobName : Option String
deriving DecidableEq, Repr

/-- The configuration that the metrics read and do not write. -/
structure Facility where
  sites : List Site
  workcenters : List Workcenter
  stations : List MeteredStation
  shiftInstances : List ShiftInstance

namespace Facility

def site (f : Facility) (siteId : Uuid) : Option Site := f.sites.find? (·.id == siteId)

def station (f : Facility) (stationId : Uuid) : Option MeteredStation :=
  f.stations.find? (·.id == stationId)

/-- `getSiteTimezone`. -/
def siteTimezone (f : Facility) (siteId : Uuid) : Timezone :=
  ((f.site siteId).map Site.timezone).getD .utc

/-- `resolveWorkcenterId`. -/
def workcenterIdOf (f : Facility) : BucketEntityType → Uuid → Option Uuid
  | .workcenter, entityId => some entityId
  | .station, entityId => (f.station entityId).bind MeteredStation.workcenterId
  | .site, _ => none
  | .job, _ => none

end Facility

/-- A site in UTC with one station and one shift. -/
def oneShiftFacility (startTime endTime : Time) : Facility where
  sites := [⟨1, "Plant", .utc⟩]
  workcenters := []
  stations := [⟨2, "Press", 1, none, none, none, none⟩]
  shiftInstances := [⟨3, 4, 1, none, "Early", 0, startTime, endTime, 0⟩]

/-! ## Shift resolution -/

structure ShiftWindow where
  shiftName : String
  startTime : Time
  /-- `durationSeconds`, in milliseconds. -/
  durationMs : ℤ
  shiftInstanceId : Uuid
deriving DecidableEq, Repr

namespace ShiftWindow

def endTime (s : ShiftWindow) : Time := s.startTime + s.durationMs

/-- The window of a `ShiftInstance` row. -/
def ofInstance (i : ShiftInstance) : ShiftWindow :=
  ⟨i.shiftName, i.startTime, i.endTime - i.startTime, i.id⟩

@[simp] theorem ofInstance_startTime (i : ShiftInstance) :
    (ofInstance i).startTime = i.startTime := rfl

@[simp] theorem ofInstance_endTime (i : ShiftInstance) : (ofInstance i).endTime = i.endTime :=
  add_sub_cancel i.startTime i.endTime

end ShiftWindow

/-- `ORDER BY "rotationStartDate" DESC LIMIT 1`. -/
def newest (instances : List ShiftInstance) : Option ShiftInstance :=
  instances.foldl (fun best i ↦ match best with
    | some b => if b.rotationStartDate < i.rotationStartDate then some i else some b
    | none => some i) none

/-- The rows of a workcenter, or of the site where no workcenter is given. -/
def ShiftInstance.isScopedTo (siteId : Uuid) (workCenterId : Option Uuid) (i : ShiftInstance) :
    Bool :=
  i.siteId == siteId && i.workCenterId == workCenterId

/-- The row condition of the first query of `queryShiftForEntity`, which does not look at the
site. -/
def ShiftInstance.isOfWorkcenter (workCenterId : Uuid) (i : ShiftInstance) : Bool :=
  i.workCenterId == some workCenterId

/-- `"startTime" <= timestamp AND "endTime" > timestamp`. -/
def ShiftInstance.isAt (timestamp : Time) (i : ShiftInstance) : Bool :=
  decide (i.startTime ≤ timestamp) && decide (timestamp < i.endTime)

def queryShiftForEntity (instances : List ShiftInstance) (workCenterId : Option Uuid)
    (siteId : Uuid) (timestamp : Time) : Option ShiftWindow :=
  let wcRow := workCenterId.bind fun wc ↦
    newest (instances.filter fun i ↦ i.isOfWorkcenter wc && i.isAt timestamp)
  let siteRow := newest (instances.filter fun i ↦ i.isScopedTo siteId none && i.isAt timestamp)
  (wcRow.or siteRow).map ShiftWindow.ofInstance

def getShiftForEntity (f : Facility) (entityType : BucketEntityType) (entityId siteId : Uuid)
    (timestamp : Time) : Option ShiftWindow :=
  queryShiftForEntity f.shiftInstances (f.workcenterIdOf entityType entityId) siteId timestamp

/-- The business-day anchor of a shift: the first start among the shifts of its business date. -/
def getAnchorTime (instances : List ShiftInstance) (shift : ShiftWindow) (siteId : Uuid)
    (workCenterId : Option Uuid) : Time :=
  let atStart (wc : Option Uuid) := newest (instances.filter fun i ↦
    i.isScopedTo siteId wc && i.startTime == shift.startTime)
  let currentInstance :=
    (workCenterId.bind fun wc ↦ atStart (some wc)).or (atStart none)
  let firstOn (wc : Option Uuid) (businessDate : Time) :=
    ((instances.filter fun i ↦ i.isScopedTo siteId wc && i.businessDate == businessDate).map
      ShiftInstance.startTime).min?
  let firstShift := currentInstance.bind fun i ↦
    (workCenterId.bind fun wc ↦ firstOn (some wc) i.businessDate).or (firstOn none i.businessDate)
  firstShift.getD shift.startTime

/-! ## Hours -/

@[ext] structure HourBucket where
  startTime : Time
  /-- `durationSeconds`, in milliseconds. -/
  durationMs : ℤ
deriving DecidableEq, Repr

/-- The time an hour bucket covers. -/
def HourBucket.window (b : HourBucket) : Window Time := ⟨b.startTime, b.startTime + b.durationMs⟩

theorem HourBucket.window_injective : Function.Injective HourBucket.window := by
  intro b b' h
  have hstart : b.startTime = b'.startTime := congrArg Window.start h
  have hstop : b.startTime + b.durationMs = b'.startTime + b'.durationMs := congrArg Window.stop h
  rw [hstart] at hstop
  exact HourBucket.ext hstart (add_left_cancel hstop)

/-- The loop over the full hours, and the partial last bucket after it. -/
def fullHourBuckets (shiftEndMs : ℤ) : ℕ → ℤ → List HourBucket
  | 0, _ => []
  | rounds + 1, gridCursor =>
    if gridCursor + msPerHour ≤ shiftEndMs then
      ⟨gridCursor, msPerHour⟩ :: fullHourBuckets shiftEndMs rounds (gridCursor + msPerHour)
    else if gridCursor < shiftEndMs then [⟨gridCursor, shiftEndMs - gridCursor⟩]
    else []

/-- The first line of the grid that is not before the start of the shift. -/
def firstGridLine (shiftStartMs anchorMs : ℤ) : ℤ :=
  let fullHoursBefore := (shiftStartMs - anchorMs) / msPerHour
  let gridCursor := anchorMs + fullHoursBefore * msPerHour
  if gridCursor < shiftStartMs then gridCursor + msPerHour else gridCursor

def getHourBucketsForShift (shift : ShiftWindow) (anchorMs : Time) : List HourBucket :=
  let shiftStartMs := shift.startTime
  let shiftEndMs := shift.endTime
  let gridCursor := firstGridLine shiftStartMs anchorMs
  let rounds := ((shiftEndMs - gridCursor) / msPerHour).toNat + 1
  if shiftStartMs < gridCursor ∧ gridCursor ≤ shiftEndMs then
    ⟨shiftStartMs, gridCursor - shiftStartMs⟩ :: fullHourBuckets shiftEndMs rounds gridCursor
  else if shiftEndMs < gridCursor then [⟨shiftStartMs, shift.durationMs⟩]
  else fullHourBuckets shiftEndMs rounds gridCursor

def getTimezoneOffsetMs (timezone : Timezone) (date : Time) : ℤ :=
  timezone.wallClock (date / 1000) * 1000 - date

def getLocalMidnightUTC (timestamp : Time) (timezone : Timezone) : Time :=
  let flooredMs := timestamp / 1000 * 1000
  let offsetMs := getTimezoneOffsetMs timezone flooredMs
  let localMs := flooredMs + offsetMs
  let localDayMs := localMs / msPerDay * msPerDay
  localDayMs - offsetMs

def getClockHourBucketsForDay (timestamp : Time) (timezone : Timezone) : List HourBucket :=
  let midnight := getLocalMidnightUTC timestamp timezone
  (List.range 24).map fun i : ℕ ↦ ⟨midnight + i * msPerHour, msPerHour⟩

def resolveClockHourBucket (timestamp : Time) (timezone : Timezone) : HourBucket :=
  let midnight := getLocalMidnightUTC timestamp timezone
  let hourIndex := (timestamp - midnight) / msPerHour
  ⟨midnight + hourIndex * msPerHour, msPerHour⟩

def findHourBucketInShift (shift : ShiftWindow) (anchorMs timestamp : Time) : Option HourBucket :=
  (getHourBucketsForShift shift anchorMs).find? fun b ↦ decide (b.window.Contains timestamp)

def getHourBucketsForEntity (f : Facility) (entityType : BucketEntityType)
    (entityId siteId : Uuid) (timestamp : Time) (timezone : Timezone) : List HourBucket :=
  match getShiftForEntity f entityType entityId siteId timestamp with
  | some shift => getHourBucketsForShift shift
      (getAnchorTime f.shiftInstances shift siteId (f.workcenterIdOf entityType entityId))
  | none => getClockHourBucketsForDay timestamp timezone

/-- `none` is the error of `findHourBucketInShift`. -/
def resolveHourBucketForEntity (f : Facility) (entityType : BucketEntityType)
    (entityId siteId : Uuid) (timestamp : Time) (timezone : Timezone) : Option HourBucket :=
  match getShiftForEntity f entityType entityId siteId timestamp with
  | some shift => findHourBucketInShift shift
      (getAnchorTime f.shiftInstances shift siteId (f.workcenterIdOf entityType entityId)) timestamp
  | none => some (resolveClockHourBucket timestamp timezone)

/-! ## Which shift is resolved -/

theorem newest_cons_eq_some (i : ShiftInstance) (l : List ShiftInstance) :
    ∃ b ∈ i :: l, newest (i :: l) = some b := by
  rw [newest, List.foldl_cons]
  dsimp only
  induction l generalizing i with
  | nil => exact ⟨i, List.mem_cons_self, rfl⟩
  | cons j l ih =>
    rw [List.foldl_cons]
    dsimp only
    split
    · obtain ⟨b, hb, h⟩ := ih j
      exact ⟨b, List.mem_cons_of_mem _ hb, h⟩
    · obtain ⟨b, hb, h⟩ := ih i
      refine ⟨b, ?_, h⟩
      rcases List.mem_cons.mp hb with rfl | hb
      · exact List.mem_cons_self
      · exact List.mem_cons_of_mem _ (List.mem_cons_of_mem _ hb)

theorem mem_of_newest {l : List ShiftInstance} {i : ShiftInstance} (h : newest l = some i) :
    i ∈ l := by
  cases l with
  | nil => exact absurd h (by simp [newest])
  | cons j l =>
    obtain ⟨b, hb, hj⟩ := newest_cons_eq_some j l
    exact Option.some_inj.mp (hj.symm.trans h) ▸ hb

theorem newest_eq_none_iff {l : List ShiftInstance} : newest l = none ↔ l = [] := by
  cases l with
  | nil => exact ⟨fun _ ↦ rfl, fun _ ↦ rfl⟩
  | cons j l =>
    obtain ⟨b, -, hj⟩ := newest_cons_eq_some j l
    rw [hj]
    simp

/-- The rows that shift resolution looks at for an entity. -/
def shiftsOf (instances : List ShiftInstance) (workCenterId : Option Uuid) (siteId : Uuid) :
    List ShiftInstance :=
  instances.filter fun i ↦ workCenterId.any (fun wc ↦ i.isOfWorkcenter wc) ||
    i.isScopedTo siteId none

theorem ShiftInstance.isAt_iff {i : ShiftInstance} {t : Time} :
    i.isAt t = true ↔ i.window.Contains t := by
  rw [isAt, Bool.and_eq_true, decide_eq_true_eq, decide_eq_true_eq]
  rfl

section

variable {instances : List ShiftInstance} {workCenterId : Option Uuid} {siteId : Uuid} {t : Time}

/-- A resolved shift is the window of a row that contains the timestamp. -/
theorem exists_of_queryShift {shift : ShiftWindow}
    (h : queryShiftForEntity instances workCenterId siteId t = some shift) :
    ∃ i ∈ shiftsOf instances workCenterId siteId, i.window.Contains t ∧
      shift = ShiftWindow.ofInstance i := by
  obtain ⟨i, hi, rfl⟩ := Option.map_eq_some_iff.mp h
  have hfound : i ∈ instances ∧ (workCenterId.any (fun wc ↦ i.isOfWorkcenter wc) ||
      i.isScopedTo siteId none) = true ∧ i.isAt t = true := by
    rcases Option.or_eq_some_iff.mp hi with hwc | ⟨-, hsite⟩
    · obtain ⟨wc, rfl, hwc⟩ := Option.bind_eq_some_iff.mp hwc
      obtain ⟨hmem, hand⟩ := List.mem_filter.mp (mem_of_newest hwc)
      rw [Bool.and_eq_true] at hand
      exact ⟨hmem, by rw [Option.any_some, hand.1, Bool.true_or], hand.2⟩
    · obtain ⟨hmem, hand⟩ := List.mem_filter.mp (mem_of_newest hsite)
      rw [Bool.and_eq_true] at hand
      exact ⟨hmem, by rw [hand.1, Bool.or_true], hand.2⟩
  exact ⟨i, List.mem_filter.mpr ⟨hfound.1, hfound.2.1⟩, ShiftInstance.isAt_iff.mp hfound.2.2, rfl⟩

/-- No shift is resolved iff no row contains the timestamp. -/
theorem queryShift_eq_none_iff : queryShiftForEntity instances workCenterId siteId t = none ↔
    ∀ i ∈ shiftsOf instances workCenterId siteId, ¬i.window.Contains t := by
  rw [queryShiftForEntity, Option.map_eq_none_iff, Option.or_eq_none_iff, newest_eq_none_iff,
    List.filter_eq_nil_iff]
  constructor
  · rintro ⟨hwc, hsite⟩ i hi ht
    obtain ⟨hmem, hscope⟩ := List.mem_filter.mp hi
    rcases Bool.or_eq_true_iff.mp hscope with hof | hof
    · obtain ⟨wc, rfl, hwcOf⟩ := (Option.any_eq_true _ _).mp hof
      rw [Option.bind_some, newest_eq_none_iff, List.filter_eq_nil_iff] at hwc
      exact hwc i hmem (by rw [hwcOf, ShiftInstance.isAt_iff.mpr ht]; rfl)
    · exact hsite i hmem (by rw [hof, ShiftInstance.isAt_iff.mpr ht]; rfl)
  · intro h
    have hno : ∀ i ∈ instances, ∀ p : Bool, (p = true → (workCenterId.any
        (fun wc ↦ i.isOfWorkcenter wc) || i.isScopedTo siteId none) = true) →
        ¬(p && i.isAt t) = true := by
      intro i hi p hp hand
      rw [Bool.and_eq_true] at hand
      exact h i (List.mem_filter.mpr ⟨hi, hp hand.1⟩) (ShiftInstance.isAt_iff.mp hand.2)
    refine ⟨?_, fun i hi ↦ hno i hi _ fun hp ↦ by simp [hp]⟩
    cases workCenterId with
    | none => rfl
    | some wc =>
      rw [Option.bind_some, newest_eq_none_iff, List.filter_eq_nil_iff]
      exact fun i hi ↦ hno i hi _ fun hp ↦ by simp [hp]

end

/-! ## Hours are partitions -/

/-- The windows cut the stretch from `a` to `b` at the lines of the hour grid through `anchor`
that lie inside it, and nowhere else. -/
structure IsHourGrid (a b anchor : ℤ) (ws : List (Window ℤ)) : Prop where
  partition : Partition a b ws
  isCut_iff : ∀ x, Partition.IsCut a ws x ↔
    x = a ∨ x = b ∨ a < x ∧ x < b ∧ msPerHour ∣ x - anchor

namespace IsHourGrid

variable {a b m anchor line : ℤ} {ws : List (Window ℤ)}

/-- A stretch that reaches no further than the next line. -/
theorem single (hlt : a < b) (hle : b ≤ line) (hline : msPerHour ∣ line - anchor)
    (hnext : line ≤ a + msPerHour) : IsHourGrid a b anchor [⟨a, b⟩] where
  partition := .cons hlt (.nil b)
  isCut_iff x := by
    rw [Partition.isCut_cons_iff, Partition.IsCut]
    simp only [msPerHour] at *
    constructor
    · rintro (rfl | rfl | ⟨w, hw, -⟩)
      · exact .inl rfl
      · exact .inr (.inl rfl)
      · exact absurd hw (by simp)
    · rintro (rfl | rfl | ⟨h₁, h₂, h₃⟩)
      · exact .inl rfl
      · exact .inr (.inl rfl)
      · omega

/-- One more window in front, which ends on a line and has none inside. -/
theorem cons (h : IsHourGrid m b anchor ws) (hlt : a < m) (hline : msPerHour ∣ m - anchor)
    (hnext : m ≤ a + msPerHour) : IsHourGrid a b anchor (⟨a, m⟩ :: ws) where
  partition := .cons hlt h.partition
  isCut_iff x := by
    have hle := h.partition.le
    rw [Partition.isCut_cons_iff, h.isCut_iff]
    simp only [msPerHour] at *
    omega

end IsHourGrid

theorem isHourGrid_fullHourBuckets {anchor shiftEnd : ℤ} : ∀ {rounds : ℕ} {cursor : ℤ},
    cursor ≤ shiftEnd → msPerHour ∣ cursor - anchor → (shiftEnd - cursor) / msPerHour < rounds →
      IsHourGrid cursor shiftEnd anchor
        ((fullHourBuckets shiftEnd rounds cursor).map HourBucket.window) := by
  intro rounds
  induction rounds with
  | zero =>
    intro cursor hle hline hrounds
    simp only [msPerHour] at *
    omega
  | succ rounds ih =>
    intro cursor hle hline hrounds
    have hpos : 0 < msPerHour := by decide
    rw [fullHourBuckets]
    split
    · rename_i hfull
      have hnext : msPerHour ∣ cursor + msPerHour - anchor := by
        simp only [msPerHour] at *
        omega
      have hfewer : (shiftEnd - (cursor + msPerHour)) / msPerHour < rounds := by
        simp only [msPerHour] at *
        omega
      exact (ih hfull hnext hfewer).cons (lt_add_of_pos_right _ hpos) hnext le_rfl
    · rename_i hfull
      split
      · rename_i hpart
        have heq : cursor + (shiftEnd - cursor) = shiftEnd := by omega
        have hnext : msPerHour ∣ cursor + msPerHour - anchor := by
          simp only [msPerHour] at *
          omega
        rw [List.map_singleton, HourBucket.window, heq]
        exact .single hpart (not_le.mp hfull).le hnext le_rfl
      · rename_i hpart
        obtain rfl : cursor = shiftEnd := by omega
        refine ⟨.nil _, fun x ↦ ?_⟩
        rw [List.map_nil, Partition.IsCut]
        simp only [List.not_mem_nil, false_and, exists_false, or_false]
        omega

/-- The first grid line of a shift: on the grid, and less than an hour after the start. -/
theorem firstGridLine_spec (start anchor : ℤ) : start ≤ firstGridLine start anchor ∧
    firstGridLine start anchor < start + msPerHour ∧
      msPerHour ∣ firstGridLine start anchor - anchor := by
  rw [firstGridLine]
  simp only [msPerHour]
  split_ifs <;> omega

private theorem isHourGrid_ofShift (shift : ShiftWindow) {start stop anchor : ℤ}
    (hstart : shift.startTime = start) (hstop : shift.endTime = stop) (hlt : start < stop) :
    IsHourGrid start stop anchor
      ((getHourBucketsForShift shift anchor).map HourBucket.window) := by
  have hduration : shift.durationMs = stop - start := by
    rw [← hstop, ← hstart, ShiftWindow.endTime, add_sub_cancel_left]
  obtain ⟨hge, hnext, hline⟩ := firstGridLine_spec start anchor
  have hfull : firstGridLine start anchor ≤ stop → IsHourGrid (firstGridLine start anchor) stop
      anchor ((fullHourBuckets stop (((stop - firstGridLine start anchor) / msPerHour).toNat + 1)
        (firstGridLine start anchor)).map HourBucket.window) := fun hle ↦
    isHourGrid_fullHourBuckets hle hline (by omega)
  rw [getHourBucketsForShift, hstart, hstop, hduration]
  split
  · rename_i hpart
    have hwindow : HourBucket.window ⟨start, firstGridLine start anchor - start⟩
        = ⟨start, firstGridLine start anchor⟩ := by rw [HourBucket.window, add_sub_cancel]
    rw [List.map_cons, hwindow]
    exact (hfull hpart.2).cons hpart.1 hline hnext.le
  · rename_i hpart
    split
    · rename_i hwhole
      rw [List.map_singleton, HourBucket.window, add_sub_cancel]
      exact .single hlt hwhole.le hline hnext.le
    · rename_i hwhole
      rw [not_lt] at hwhole
      have heq : firstGridLine start anchor = start := by
        by_contra hne
        exact hpart ⟨lt_of_le_of_ne hge (Ne.symm hne), hwhole⟩
      rw [heq] at hfull ⊢
      exact hfull hlt.le

/-- **The hours of a shift** cut it at the lines of the grid through the anchor. -/
theorem isHourGrid_getHourBucketsForShift {shift : ShiftWindow}
    (hlt : shift.startTime < shift.endTime) (anchor : Time) :
    IsHourGrid shift.startTime shift.endTime anchor
      ((getHourBucketsForShift shift anchor).map HourBucket.window) :=
  isHourGrid_ofShift shift rfl rfl hlt

/-- **The clock hours of a day** cut the 24 hours from local midnight at the whole hours. -/
theorem isHourGrid_getClockHourBucketsForDay (t : Time) (timezone : Timezone) :
    IsHourGrid (getLocalMidnightUTC t timezone) (getLocalMidnightUTC t timezone + msPerDay)
      (getLocalMidnightUTC t timezone)
      ((getClockHourBucketsForDay t timezone).map HourBucket.window) := by
  rw [getClockHourBucketsForDay]
  generalize (getLocalMidnightUTC t timezone : ℤ) = midnight
  -- the hours from the `k`-th on, for `k` from 24 down to 0
  have hfrom : ∀ n k : ℕ, k + n = 24 → IsHourGrid (midnight + k * msPerHour)
      (midnight + msPerDay) midnight (((List.range' k n).map fun i : ℕ ↦
        (⟨midnight + i * msPerHour, msPerHour⟩ : HourBucket)).map HourBucket.window) := by
    intro n
    induction n with
    | zero =>
      intro k hk
      obtain rfl : k = 24 := by omega
      refine ⟨?_, fun x ↦ ?_⟩
      · exact .nil _
      · rw [List.range'_zero, List.map_nil, List.map_nil, Partition.IsCut]
        simp only [List.not_mem_nil, false_and, exists_false, or_false, msPerHour, msPerDay]
        push_cast
        omega
    | succ n ih =>
      intro k hk
      have hnext : midnight + ((k + 1 : ℕ) : ℤ) * msPerHour
          = midnight + k * msPerHour + msPerHour := by push_cast; ring
      have hrest := ih (k + 1) (by omega)
      rw [hnext] at hrest
      rw [List.range'_succ, List.map_cons, List.map_cons]
      refine hrest.cons ?_ ?_ le_rfl
      · simp only [msPerHour]
        omega
      · rw [msPerHour]
        omega
  have := hfrom 24 0 rfl
  rwa [Nat.cast_zero, zero_mul, add_zero, ← List.range_eq_range'] at this

/-! ## The hour of an instant -/

/-- An instant of a shift is in one of its hours, which is found. -/
theorem exists_findHourBucketInShift {shift : ShiftWindow} {t : Time}
    (hstart : shift.startTime ≤ t) (hstop : t < shift.endTime) (anchor : Time) :
    ∃ b ∈ getHourBucketsForShift shift anchor,
      findHourBucketInShift shift anchor t = some b ∧ b.window.Contains t := by
  have hgrid := isHourGrid_getHourBucketsForShift (hstart.trans_lt hstop) anchor
  obtain ⟨w, hw, hcontains⟩ := hgrid.partition.exists_contains hstart hstop
  obtain ⟨c, hc, rfl⟩ := List.mem_map.mp hw
  obtain ⟨b, hfind⟩ : ∃ b, findHourBucketInShift shift anchor t = some b := by
    rw [← Option.isSome_iff_exists, findHourBucketInShift, List.find?_isSome]
    exact ⟨c, hc, decide_eq_true hcontains⟩
  exact ⟨b, List.mem_of_find?_eq_some hfind, hfind, of_decide_eq_true
    (List.find?_some (p := fun b : HourBucket ↦ decide (b.window.Contains t)) hfind)⟩

/-- The hours from any instant on: the one that another instant is in. -/
private theorem hourIndex_spec (m t : ℤ) : m + (t - m) / msPerHour * msPerHour ≤ t ∧
    t < m + (t - m) / msPerHour * msPerHour + msPerHour := by
  simp only [msPerHour]
  omega

/-- A clock hour contains the timestamp that it is resolved for, wherever the midnight is. -/
theorem contains_resolveClockHourBucket (t : Time) (timezone : Timezone) :
    (resolveClockHourBucket t timezone).window.Contains t :=
  hourIndex_spec (getLocalMidnightUTC t timezone) t

end RwServer
