import Mathlib
import RwServer.Foundation.Run
import RwServer.Metrics.HourWindows
import RwServer.Metrics.TickSteps
import RwServer.Shift.ScopesApart

/-!
# Hours across schedule edits

`ensureBuckets` scaffolds the hours of a whole shift, or of a whole local day, and skips those whose
start is taken. The rows are never withdrawn, so that an edit of the schedule that gives a timestamp
another shift, or another anchor, lets the next call lay the hours of a second grid across the
first.

`ScaffoldFits` says when a call does not: wherever a live hour lies in the stretch that is
scaffolded, the hour of the grid there has its row already. These are the calls that keep the live
hours of a station disjoint (`hoursDisjoint_ensureBuckets_iff`), so that a cycle is counted in one
row, and once in the sums of a shift or day (`hours_stay_disjoint`).
-/

namespace RwServer

open Windows Relational Transition

/-! ## The site -/

/-- `FROM "ShiftInstance" si JOIN "ShiftAssignment" sa ON sa."id" = si."assignmentId"`. -/
def Schedule.shiftInstances (sch : Schedule) : List ShiftInstance :=
  sch.instances.rows.filterMap fun i ↦ (sch.assignment i.assignmentId).map fun a ↦
    { id := i.id
      assignmentId := i.assignmentId
      siteId := i.scope.siteId
      workCenterId := i.scope.workCenterId
      shiftName := i.shiftName
      businessDate := i.businessDate
      startTime := i.startTime
      endTime := i.endTime
      rotationStartDate := a.rotationStartDate }

/-- What decides over the hours of a station, and the live buckets. -/
structure ScheduledSite where
  sites : List Site
  workcenters : List Workcenter
  stations : List MeteredStation
  schedule : Schedule
  /-- `MetricBucket`. -/
  live : Table bucketRowSchema
  /-- When the last call ran. -/
  clock : Time

namespace ScheduledSite

variable (s : ScheduledSite)

/-- The configuration, as the metrics read it without a cache. -/
def facility : Facility where
  sites := s.sites
  workcenters := s.workcenters
  stations := s.stations
  shiftInstances := s.schedule.shiftInstances

/-- `findInUseShiftInstanceIds`; `disposed` are the instances that a disposition refers to. -/
def inUse (disposed : Uuid → Bool) (instanceId : Uuid) : Bool :=
  s.live.rows.any (fun r ↦ r.shiftInstanceId == some instanceId) || disposed instanceId

end ScheduledSite

/-! ## Edits -/

/-- A field that is not given stays as it is. -/
structure UpdateShiftAssignmentInput where
  rotationStartDate : Option Time
  rotationEndDate : Option (Option Time)
  rotationStartDefinitionId : Option (Option Uuid)

namespace UpdateShiftAssignmentInput

variable (input : UpdateShiftAssignmentInput) (a : ShiftAssignment)

/-- What the rotation of an assignment starts with after an update; `none` where the definition is
not one of its pattern. -/
def rotationStart : Option (Option RotationStart) :=
  match input.rotationStartDefinitionId with
  | none => some a.rotationStartDefinition
  | some none => some none
  | some (some definitionId) =>
    (a.pattern.shifts.find? (·.id == definitionId)).map fun d ↦ some ⟨d.dayOfRotation, d.sortOrder⟩

/-- The assignment after an update. -/
def apply (start : Option RotationStart) : ShiftAssignment :=
  { a with
    rotationStartDate := input.rotationStartDate.getD a.rotationStartDate
    rotationEndDate := input.rotationEndDate.getD a.rotationEndDate
    rotationStartDefinition := start }

end UpdateShiftAssignmentInput

namespace Schedule

variable (sch : Schedule)

/-- `update` of an assignment; `none` is an error. -/
def update (timezoneOf : Uuid → Timezone) (inUse : Uuid → Bool) (now : Time) (id : Uuid)
    (input : UpdateShiftAssignmentInput) : Option Schedule :=
  (sch.assignment id).bind fun current ↦ (input.rotationStart current).map fun start ↦
    let updated : Schedule := { sch with
      assignments := sch.assignments.map fun a ↦ if a.id == id then input.apply a start else a }
    if input.rotationStartDate.isSome || input.rotationStartDefinitionId.isSome then
      updated.reconcileShiftInstances timezoneOf inUse now id
    else updated

/-- `remove` of an assignment, with its instances; `none` is an error. -/
def remove (id : Uuid) : Option Schedule :=
  (sch.assignment id).map fun _ ↦
    { assignments := sch.assignments.filter fun a ↦ a.id != id
      instances := sch.instances.delete fun i ↦ i.assignmentId == id }

end Schedule

inductive SiteStep
  | ensureBuckets (timestamp : Time)
  /-- A first assignment, or one that replaces others. -/
  | createAssignment (a : ShiftAssignment) (disposed : Uuid → Bool)
  | updateAssignment (id : Uuid) (input : UpdateShiftAssignmentInput) (disposed : Uuid → Bool)
  | removeAssignment (id : Uuid)
  /-- The tick that materializes the days ahead. -/
  | materialize (lookaheadDays : ℕ)
  /-- `move` of the station. -/
  | moveStation (workcenterId : Option Uuid)

/-- A step, and when it is done. -/
structure SiteCall where
  now : Time
  step : SiteStep

section

variable (siteId stationId : Uuid)

/-- A step that goes through. -/
def ScheduledSite.apply (s : ScheduledSite) (now : Time) : SiteStep → Option ScheduledSite
  | .ensureBuckets timestamp =>
    some { s with live := ensureBuckets s.facility siteId stationId timestamp s.live }
  | .createAssignment a disposed =>
    (scheduleStep s.facility.siteTimezone (.create a now (s.inUse disposed)) s.schedule).map
      fun schedule ↦ { s with schedule := schedule }
  | .updateAssignment id input disposed =>
    (s.schedule.update s.facility.siteTimezone (s.inUse disposed) now id input).map
      fun schedule ↦ { s with schedule := schedule }
  | .removeAssignment id =>
    (s.schedule.remove id).map fun schedule ↦ { s with schedule := schedule }
  | .materialize lookaheadDays =>
    (scheduleStep s.facility.siteTimezone (.tick now lookaheadDays) s.schedule).map
      fun schedule ↦ { s with schedule := schedule }
  | .moveStation workcenterId =>
    if workcenterId.all fun id ↦ s.workcenters.any (·.id == id) then
      some { s with
        stations := s.stations.map fun station ↦
          if station.id == stationId then { station with workcenterId := workcenterId }
          else station }
    else none

/-- A call is not made before the one before it. -/
def siteStep (call : SiteCall) (s : ScheduledSite) : Option ScheduledSite :=
  if s.clock ≤ call.now then
    (s.apply siteId stationId call.now call.step).map fun s' ↦ { s' with clock := call.now }
  else none

end

/-! ## Live hours -/

/-- The live hours of a station. -/
def hourRows (stationId : Uuid) (live : Table bucketRowSchema) : List BucketRow :=
  live.rows.filter fun r ↦ decide (r.key = hourKey stationId r.startTime)

/-- No two live hours of a station overlap. -/
def HoursDisjoint (stationId : Uuid) (live : Table bucketRowSchema) : Prop :=
  ∀ r ∈ hourRows stationId live, ∀ r' ∈ hourRows stationId live, r ≠ r' → r.window.Apart r'.window

/-- The line of an hour grid at or before an instant, or the start of the stretch. -/
def hourMark (start anchor x : ℤ) : ℤ := max start (x - (x - anchor) % msPerHour)

section

variable (f : Facility) (siteId stationId : Uuid) (timestamp : Time)

/-- The stretch that is cut into hours around a timestamp: its shift, or 24 hours from local
midnight. -/
def stationStretch : Window Time :=
  match stationShift f siteId stationId timestamp with
  | some shift => ⟨shift.startTime, shift.endTime⟩
  | none => ⟨siteMidnight f siteId timestamp, siteMidnight f siteId timestamp + msPerDay⟩

/-- The line that the hours around a timestamp tick from. -/
def stretchAnchor : Time :=
  match stationShift f siteId stationId timestamp with
  | some shift => stationAnchor f siteId stationId shift
  | none => siteMidnight f siteId timestamp

/-- Wherever a live hour lies in the stretch around a timestamp, the hour of the grid there has its
row already. -/
def ScaffoldFits (live : Table bucketRowSchema) : Prop :=
  ∀ x, (stationStretch f siteId stationId timestamp).Contains x →
    (∃ r ∈ hourRows stationId live, r.window.Contains x) →
      ∃ r ∈ hourRows stationId live, r.startTime
        = hourMark (stationStretch f siteId stationId timestamp).start
          (stretchAnchor f siteId stationId timestamp) x

end

theorem mem_hourRows {stationId : Uuid} {live : Table bucketRowSchema} {r : BucketRow} :
    r ∈ hourRows stationId live ↔ r ∈ live.rows ∧ r.key = hourKey stationId r.startTime := by
  rw [hourRows, List.mem_filter, decide_eq_true_eq]

/-- An hour that begins at a time has its row iff one is found under its key. -/
theorem find_hourKey_eq_none_iff {stationId : Uuid} {live : Table bucketRowSchema} {start : Time} :
    live.find (hourKey stationId start) = none ↔
      ∀ r ∈ hourRows stationId live, r.startTime ≠ start := by
  rw [Table.find_eq_none_iff]
  constructor
  · rintro h r hr rfl
    exact h r (mem_hourRows.mp hr).1 (mem_hourRows.mp hr).2
  · intro h r hr hkey
    have hstart : r.startTime = start := congrArg BucketKey.startTime hkey
    exact h r (mem_hourRows.mpr ⟨hr, by rw [hstart]; exact hkey⟩) hstart

/-- A window of a grid begins at the mark of each of its instants. -/
theorem IsHourGrid.start_eq_hourMark {a b anchor x : ℤ} {ws : List (Window ℤ)} {w : Window ℤ}
    (h : IsHourGrid a b anchor ws) (hw : w ∈ ws) (hx : w.Contains x) :
    w.start = hourMark a anchor x := by
  obtain ⟨hlo, hlt, hhi⟩ := h.partition.bounds hw
  have hcut := (h.isCut_iff w.start).mp (h.partition.isCut_start hw)
  -- no line lies inside the window
  have hnone := h.partition.not_isCut_inside (x := x - (x - anchor) % msPerHour) hw
  rw [h.isCut_iff] at hnone
  obtain ⟨hxlo, hxhi⟩ := hx
  rw [hourMark]
  simp only [msPerHour] at *
  omega

section

variable {f : Facility} {siteId stationId : Uuid} {t : Time} {live : Table bucketRowSchema}
  {r : BucketRow}

/-- The hours around a timestamp cut the stretch around it at the lines through the anchor. -/
theorem isHourGrid_stationHours (f : Facility) (siteId stationId : Uuid) (t : Time) :
    IsHourGrid (stationStretch f siteId stationId t).start
      (stationStretch f siteId stationId t).stop (stretchAnchor f siteId stationId t)
      ((stationHours f siteId stationId t).map HourBucket.window) := by
  cases h : stationShift f siteId stationId t with
  | none =>
    rw [stationStretch, stretchAnchor, h]
    exact isHourGrid_of_none h
  | some shift =>
    rw [stationStretch, stretchAnchor, h]
    exact isHourGrid_of_some h

/-- A live hour after the scaffold was there, or is one of the hours that were missing. -/
theorem of_mem_hourRows_ensureBuckets
    (hr : r ∈ hourRows stationId (ensureBuckets f siteId stationId t live)) :
    r ∈ hourRows stationId live ∨ ∃ b ∈ stationHours f siteId stationId t,
      live.find (hourKey stationId b.startTime) = none ∧ r.window = b.window := by
  obtain ⟨hmem, hkey⟩ := mem_hourRows.mp hr
  cases hfind : live.find r.key with
  | some a =>
    -- the row was there: nothing is inserted under its key
    have hsame : (ensureBuckets f siteId stationId t live).find r.key = some a :=
      find_ensureBuckets_of_some hfind
    obtain rfl := Option.some_inj.mp ((Table.find_of_mem hmem).symm.trans hsame)
    exact .inl (mem_hourRows.mpr ⟨(Table.find_eq_some_iff.mp hfind).1, hkey⟩)
  | none =>
    rcases mem_of_mem_ensureBuckets hmem with hold | ⟨a, ha, id, rfl⟩
    · exact .inl (mem_hourRows.mpr ⟨hold, hkey⟩)
    · rcases (of_mem_scaffoldRows ha).2 with ⟨shift, -, hshift⟩ | ⟨b, hb, hbkey, hwindow⟩
      · have hgran := congrArg BucketKey.granularity (hshift.symm.trans hkey)
        exact nomatch (hgran : BucketGranularity.shift = .hour)
      · exact .inr ⟨b, hb, by rw [← hbkey]; exact hfind, hwindow⟩

/-- A live hour stays. -/
theorem mem_hourRows_ensureBuckets (hr : r ∈ hourRows stationId live) :
    r ∈ hourRows stationId (ensureBuckets f siteId stationId t live) := by
  obtain ⟨hmem, hkey⟩ := mem_hourRows.mp hr
  have hfind : (ensureBuckets f siteId stationId t live).find r.key = some r :=
    find_ensureBuckets_of_some (Table.find_of_mem hmem)
  exact mem_hourRows.mpr ⟨(Table.find_eq_some_iff.mp hfind).1, hkey⟩

/-- A missing hour becomes a live one. -/
theorem exists_mem_hourRows_ensureBuckets {b : HourBucket}
    (hb : b ∈ stationHours f siteId stationId t)
    (hfree : live.find (hourKey stationId b.startTime) = none) :
    ∃ r ∈ hourRows stationId (ensureBuckets f siteId stationId t live),
      r.window = b.window ∧ r ∉ hourRows stationId live := by
  obtain ⟨id, hfind⟩ := find_ensureBuckets_emptyHour hb hfree
  obtain ⟨hmem, hkey⟩ := Table.find_eq_some_iff.mp hfind
  refine ⟨_, mem_hourRows.mpr ⟨hmem, hkey⟩, rfl, fun hold ↦ ?_⟩
  exact find_hourKey_eq_none_iff.mp hfree _ hold rfl

/-- **A scaffold keeps the live hours disjoint** iff each missing hour is apart from them. -/
theorem hoursDisjoint_ensureBuckets_iff_forall (h : HoursDisjoint stationId live) :
    HoursDisjoint stationId (ensureBuckets f siteId stationId t live) ↔
      ∀ b ∈ stationHours f siteId stationId t, live.find (hourKey stationId b.startTime) = none →
        ∀ r ∈ hourRows stationId live, b.window.Apart r.window := by
  constructor
  · intro hdisjoint b hb hfree r hr
    obtain ⟨n, hn, hwindow, hnew⟩ := exists_mem_hourRows_ensureBuckets hb hfree
    rw [← hwindow]
    exact hdisjoint n hn r (mem_hourRows_ensureBuckets hr) fun heq ↦ hnew (heq ▸ hr)
  · intro hfits r hr r' hr' hne
    rcases of_mem_hourRows_ensureBuckets hr with hold | ⟨b, hb, hfree, hwindow⟩ <;>
      rcases of_mem_hourRows_ensureBuckets hr' with hold' | ⟨b', hb', hfree', hwindow'⟩
    · exact h r hold r' hold' hne
    · rw [hwindow']
      exact (hfits b' hb' hfree' r hold).symm
    · rw [hwindow]
      exact hfits b hb hfree r' hold'
    · -- both are hours of the grid, and hours that begin together are the same row
      rw [hwindow, hwindow']
      refine ((isHourGrid_stationHours f siteId stationId t).partition.eq_or_apart
        (List.mem_map_of_mem hb) (List.mem_map_of_mem hb')).resolve_left fun heq ↦ hne ?_
      obtain ⟨hmem, hkey⟩ := mem_hourRows.mp hr
      obtain ⟨hmem', hkey'⟩ := mem_hourRows.mp hr'
      have hstart : r.startTime = r'.startTime :=
        congrArg Window.start (hwindow.trans (heq.trans hwindow'.symm))
      refine Table.eq_of_key_eq _ hmem hmem' ?_
      exact hkey.trans ((congrArg (hourKey stationId) hstart).trans hkey'.symm)

/-- A call fits iff each missing hour of the grid is apart from the live ones. -/
theorem scaffoldFits_iff_forall : ScaffoldFits f siteId stationId t live ↔
    ∀ b ∈ stationHours f siteId stationId t, live.find (hourKey stationId b.startTime) = none →
      ∀ r ∈ hourRows stationId live, b.window.Apart r.window := by
  have hgrid := isHourGrid_stationHours f siteId stationId t
  constructor
  · intro hfits b hb hfree r hr x hx hrx
    have hmem := List.mem_map_of_mem (f := HourBucket.window) hb
    obtain ⟨r', hr', hmark⟩ := hfits x (hgrid.partition.contains_of_mem hmem hx) ⟨r, hr, hrx⟩
    refine find_hourKey_eq_none_iff.mp hfree r' hr' (hmark.trans ?_)
    exact (hgrid.start_eq_hourMark hmem hx).symm
  · rintro hfits x hx ⟨r, hr, hrx⟩
    obtain ⟨w, hw, hwx⟩ := hgrid.partition.exists_contains hx.1 hx.2
    obtain ⟨b, hb, rfl⟩ := List.mem_map.mp hw
    rw [← hgrid.start_eq_hourMark hw hwx]
    by_contra! hnone
    exact hfits b hb (find_hourKey_eq_none_iff.mpr hnone) r hr x hwx hrx

/-- **A scaffold keeps the live hours disjoint iff it fits.** -/
theorem hoursDisjoint_ensureBuckets_iff (h : HoursDisjoint stationId live) :
    HoursDisjoint stationId (ensureBuckets f siteId stationId t live) ↔
      ScaffoldFits f siteId stationId t live := by
  rw [hoursDisjoint_ensureBuckets_iff_forall h, scaffoldFits_iff_forall]

instance decidableScaffoldFits : Decidable (ScaffoldFits f siteId stationId t live) :=
  decidable_of_iff _ scaffoldFits_iff_forall.symm

end

/-! ## Counting a cycle -/

/-- What a completion adds to the columns. -/
def cycleCounts (cycles items idealSeconds totalCycleSeconds : ℤ) : KpiKey → ℤ
  | .totalCycles => cycles
  | .totalItems => items
  | .idealCycleSeconds => idealSeconds
  | .totalCycleSeconds => totalCycleSeconds
  | _ => 0

/-- The `SET` of `incrementHourCounts`. -/
def BucketRow.addCounts (counts : KpiKey → ℤ) (r : BucketRow) : BucketRow :=
  { r with kpis := { r.kpis with additive := fun key ↦ r.kpis.additive key + counts key } }

theorem mild_addCounts (counts : KpiKey → ℤ) :
    Table.Mild bucketRowSchema (BucketRow.addCounts counts) :=
  mild_of_same (fun _ ↦ rfl) (fun _ ↦ rfl)

def incrementHourCounts (stationId : Uuid) (timestamp : Time)
    (cycles items idealSeconds totalCycleSeconds : ℤ) (live : Table bucketRowSchema) :
    Table bucketRowSchema :=
  live.modify (BucketRow.isHourAt stationId timestamp)
    (BucketRow.addCounts (cycleCounts cycles items idealSeconds totalCycleSeconds))
    (mild_addCounts _)

/-- A cycle is counted in one live hour at most, and once in the sum of every shift or day that this
hour begins in. -/
structure CountsOnce (stationId : Uuid) (live : Table bucketRowSchema) : Prop where
  row : ∀ timestamp, (live.rows.filter (BucketRow.isHourAt stationId timestamp)).length ≤ 1
  sums : ∀ (sc : MeteredTicks) (timestamp : Time)
    (cycles items idealSeconds totalCycleSeconds : ℤ) (w : ParentWindow) (key : KpiKey),
    sc.stationId = stationId →
      (sumHours (sc.hoursIn w (incrementHourCounts stationId timestamp cycles items idealSeconds
          totalCycleSeconds live))).additive key
        = (sumHours (sc.hoursIn w live)).additive key
          + if ∃ r ∈ live.rows, r.isHourAt stationId timestamp = true ∧
              w.window.Contains r.startTime
            then cycleCounts cycles items idealSeconds totalCycleSeconds key else 0

section

variable {stationId : Uuid} {live : Table bucketRowSchema} {timestamp : Time}

/-- A sum over hours grows by what the completion adds, once for each of its rows. -/
theorem sumHours_incrementHourCounts (sc : MeteredTicks) (w : ParentWindow) (key : KpiKey)
    (cycles items idealSeconds totalCycleSeconds : ℤ) :
    (sumHours (sc.hoursIn w (incrementHourCounts sc.stationId timestamp cycles items idealSeconds
        totalCycleSeconds live))).additive key
      = (sumHours (sc.hoursIn w live)).additive key
        + (live.rows.filter fun r ↦ decide (sc.IsHour r ∧ w.window.Contains r.startTime) &&
            r.isHourAt sc.stationId timestamp).length
          * cycleCounts cycles items idealSeconds totalCycleSeconds key := by
  rw [sumHours, sumHours, MeteredTicks.hoursIn, MeteredTicks.hoursIn, incrementHourCounts]
  dsimp only
  rw [Table.sum_filter_modify (f := BucketRow.addCounts _) live _ _ (mild_addCounts _) fun _ ↦ rfl]
  refine congrArg _ ?_
  have hadd : ∀ r : BucketRow, (r.addCounts (cycleCounts cycles items idealSeconds
      totalCycleSeconds)).kpis.additive key - r.kpis.additive key
        = cycleCounts cycles items idealSeconds totalCycleSeconds key := fun r ↦
    add_sub_cancel_left _ _
  simp only [hadd, List.map_const', List.sum_replicate, nsmul_eq_mul]

/-- Hours that are disjoint count a cycle once. -/
theorem HoursDisjoint.countsOnce (h : HoursDisjoint stationId live) :
    CountsOnce stationId live := by
  have huniq : ∀ timestamp, ∀ r ∈ live.rows, ∀ r' ∈ live.rows,
      r.isHourAt stationId timestamp = true → r'.isHourAt stationId timestamp = true →
        r = r' := by
    intro timestamp r hr r' hr' hat hat'
    obtain ⟨hkey, hx⟩ := BucketRow.isHourAt_iff.mp hat
    obtain ⟨hkey', hx'⟩ := BucketRow.isHourAt_iff.mp hat'
    by_contra hne
    exact h r (mem_hourRows.mpr ⟨hr, hkey⟩) r' (mem_hourRows.mpr ⟨hr', hkey'⟩) hne _ hx hx'
  -- so a condition that finds one of the hours of a cycle finds it alone
  have hone : ∀ (timestamp : Time) (p : BucketRow → Bool),
      (∀ r, p r = true → r.isHourAt stationId timestamp = true) →
        (live.rows.filter p).length = if ∃ r ∈ live.rows, p r = true then 1 else 0 := by
    intro timestamp p hp
    split
    · rename_i hex
      exact Table.length_filter_eq_one hex fun r hr r' hr' hpr hpr' ↦
        congrArg BucketRow.key (huniq timestamp r hr r' hr' (hp r hpr) (hp r' hpr'))
    · rename_i hex
      rw [List.filter_eq_nil_iff.mpr fun r hr hpr ↦ hex ⟨r, hr, hpr⟩, List.length_nil]
  constructor
  · intro timestamp
    rw [hone timestamp _ fun _ ↦ id]
    split
    · exact le_rfl
    · exact Nat.zero_le 1
  · rintro sc timestamp cycles items idealSeconds totalCycleSeconds w key rfl
    rw [sumHours_incrementHourCounts, hone timestamp _ fun r hr ↦ (Bool.and_eq_true _ _ ▸ hr).2]
    have hex : (∃ r ∈ live.rows, (decide (sc.IsHour r ∧ w.window.Contains r.startTime) &&
        r.isHourAt sc.stationId timestamp) = true) ↔ ∃ r ∈ live.rows,
          r.isHourAt sc.stationId timestamp = true ∧ w.window.Contains r.startTime := by
      simp only [Bool.and_eq_true, decide_eq_true_eq]
      refine exists_congr fun r ↦ and_congr_right fun _ ↦ ?_
      exact ⟨fun hr ↦ ⟨hr.2, hr.1.2⟩, fun hr ↦ ⟨⟨(BucketRow.isHourAt_iff.mp hr.1).1, hr.2⟩, hr.1⟩⟩
    simp only [hex]
    split
    · rw [Nat.cast_one, one_mul]
    · rw [Nat.cast_zero, zero_mul]

end

/-! ## Runs -/

/-- A step that lays no hour across a live one. -/
def SiteStep.Fits (siteId stationId : Uuid) (s : ScheduledSite) : SiteStep → Prop
  | .ensureBuckets timestamp => ScaffoldFits s.facility siteId stationId timestamp s.live
  | _ => True

instance decidableStepFits (siteId stationId : Uuid) (s : ScheduledSite) :
    ∀ step : SiteStep, Decidable (step.Fits siteId stationId s)
  | .ensureBuckets timestamp =>
    inferInstanceAs (Decidable (ScaffoldFits s.facility siteId stationId timestamp s.live))
  | .createAssignment _ _ => .isTrue trivial
  | .updateAssignment _ _ _ => .isTrue trivial
  | .removeAssignment _ => .isTrue trivial
  | .materialize _ => .isTrue trivial
  | .moveStation _ => .isTrue trivial

section

variable {siteId stationId : Uuid} {s s' : ScheduledSite} {call : SiteCall}

/-- **A step keeps the live hours disjoint iff it fits**: a scaffold inserts hours, and an edit
leaves the live rows alone. -/
theorem hoursDisjoint_apply_iff {now : Time} {step : SiteStep} (h : HoursDisjoint stationId s.live)
    (hs : s.apply siteId stationId now step = some s') :
    HoursDisjoint stationId s'.live ↔ step.Fits siteId stationId s := by
  have hedit : s'.live = s.live → (HoursDisjoint stationId s'.live ↔ True) := fun heq ↦
    ⟨fun _ ↦ trivial, fun _ ↦ heq ▸ h⟩
  cases step with
  | ensureBuckets timestamp =>
    cases hs
    exact hoursDisjoint_ensureBuckets_iff h
  | createAssignment a disposed =>
    obtain ⟨schedule, -, rfl⟩ := Option.map_eq_some_iff.mp hs
    exact hedit rfl
  | updateAssignment id input disposed =>
    obtain ⟨schedule, -, rfl⟩ := Option.map_eq_some_iff.mp hs
    exact hedit rfl
  | removeAssignment id =>
    obtain ⟨schedule, -, rfl⟩ := Option.map_eq_some_iff.mp hs
    exact hedit rfl
  | materialize lookaheadDays =>
    cases hs
    exact hedit rfl
  | moveStation workcenterId =>
    rw [ScheduledSite.apply] at hs
    split at hs
    · cases hs
      exact hedit rfl
    · cases hs

theorem hoursDisjoint_step_iff (h : HoursDisjoint stationId s.live)
    (hs : siteStep siteId stationId call s = some s') :
    HoursDisjoint stationId s'.live ↔ call.step.Fits siteId stationId s := by
  rw [siteStep] at hs
  split at hs
  · obtain ⟨s₁, hs₁, rfl⟩ := Option.map_eq_some_iff.mp hs
    have hiff := hoursDisjoint_apply_iff h hs₁
    exact hiff
  · cases hs

/-- **The live hours of a station stay disjoint** in every run of scaffolds, schedule edits and
moves whose scaffolds fit, and a cycle is counted once; and where a scaffold does not fit, two live
hours overlap after it. -/
theorem hours_stay_disjoint {s₀ : ScheduledSite} {calls : List SiteCall}
    (h₀ : HoursDisjoint stationId s₀.live)
    (hrun : Run (siteStep siteId stationId) (fun s call ↦ call.step.Fits siteId stationId s)
      s₀ calls s) :
    HoursDisjoint stationId s.live ∧ CountsOnce stationId s.live ∧
      ∀ call s', siteStep siteId stationId call s = some s' →
        (HoursDisjoint stationId s'.live ↔ call.step.Fits siteId stationId s) := by
  have hinv : HoursDisjoint stationId s.live := by
    induction hrun with
    | nil => exact h₀
    | snoc _ hok hs ih => exact (hoursDisjoint_step_iff ih hs).mpr hok
  exact ⟨hinv, hinv.countsOnce, fun call s' hs ↦ hoursDisjoint_step_iff hinv hs⟩

end

/-! ## The first assignment of a site -/

theorem eightHours_pos : 0 < 8 * msPerHour := by decide

/-- A shift of eight hours a day from 06:00 on, or some minutes later. -/
def earlyAssignment (startMinutes : ℤ) : ShiftAssignment where
  id := 2
  scope := ⟨1, none⟩
  rotationStartDate := 0
  rotationEndDate := none
  rotationStartDefinition := none
  pattern :=
    { totalDaysInRotation := 1
      useEndDateForBusinessDate := false
      shifts := [⟨1, 1, 1, 0, 6, startMinutes, 8 * msPerHour, "Early", eightHours_pos⟩] }

/-- A site in UTC without a schedule. -/
def unscheduledSite : ScheduledSite where
  sites := [⟨1, "Plant", .utc⟩]
  workcenters := []
  stations := [⟨2, "Press", 1, none, none, none, none⟩]
  schedule := ⟨[], .empty _⟩
  live := .empty _
  clock := 0

/-- A scaffold at 05:00, the first assignment of the site, and a scaffold in its shift at 06:45. -/
def firstAssignment (startMinutes : ℤ) : List SiteCall :=
  [⟨5 * msPerHour, .ensureBuckets (5 * msPerHour)⟩,
    ⟨5 * msPerHour + 1, .createAssignment (earlyAssignment startMinutes) fun _ ↦ false⟩,
    ⟨6 * msPerHour + 45 * msPerMinute, .ensureBuckets (6 * msPerHour + 45 * msPerMinute)⟩]

theorem hoursDisjoint_empty (stationId : Uuid) : HoursDisjoint stationId (.empty _) :=
  fun _ hr ↦ absurd hr List.not_mem_nil

/-- A shift from 06:00 has the hours of the clock. -/
theorem hours_stay_disjoint_wholeHour : ∃ s : ScheduledSite,
    Run (siteStep 1 2) (fun s call ↦ call.step.Fits 1 2 s) unscheduledSite (firstAssignment 0) s ∧
      s.schedule.instances.rows.length = 8 ∧ s.live.rows.length = 25 ∧
      HoursDisjoint 2 s.live ∧ CountsOnce 2 s.live := by
  have hexec : (execute (siteStep 1 2) (fun s call ↦ call.step.Fits 1 2 s) (firstAssignment 0)
      unscheduledSite).any (fun s ↦ s.schedule.instances.rows.length == 8 &&
        s.live.rows.length == 25) = true := by
    decide +kernel
  obtain ⟨s, hs, hlength⟩ := (Option.any_eq_true _ _).mp hexec
  rw [Bool.and_eq_true, beq_iff_eq, beq_iff_eq] at hlength
  have h := hours_stay_disjoint (hoursDisjoint_empty 2) (run_of_execute hs)
  exact ⟨s, run_of_execute hs, hlength.1, hlength.2, h.1, h.2.1⟩

/-- A shift from 06:30 has hours of its own: 06:45 is in one of them and in a clock hour. -/
theorem not_hours_stay_disjoint : HoursDisjoint 2 unscheduledSite.live ∧
    ∃ s, Run (siteStep 1 2) (fun _ _ ↦ True) unscheduledSite (firstAssignment 30) s ∧
      ¬HoursDisjoint 2 s.live ∧ (s.live.rows.filter
        (BucketRow.isHourAt 2 (6 * msPerHour + 45 * msPerMinute))).length = 2 := by
  refine ⟨hoursDisjoint_empty 2, ?_⟩
  have hexec : (execute (siteStep 1 2) (fun _ _ ↦ True) (firstAssignment 30) unscheduledSite).any
      (fun s ↦ decide ((s.live.rows.filter
        (BucketRow.isHourAt 2 (6 * msPerHour + 45 * msPerMinute))).length = 2)) = true := by
    decide +kernel
  obtain ⟨s, hs, htwo⟩ := (Option.any_eq_true _ _).mp hexec
  have htwo := of_decide_eq_true htwo
  refine ⟨s, run_of_execute hs, fun h ↦ ?_, htwo⟩
  have hone := h.countsOnce.row (6 * msPerHour + 45 * msPerMinute)
  rw [htwo] at hone
  exact absurd hone (by decide)

end RwServer
