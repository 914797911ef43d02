import Mathlib
import RwServer.Foundation.Run
import RwServer.Metrics.ScheduleEdits

/-!
# The future of an assignment

An update of an assignment changes when its rotation starts and ends, and with which shift. It
reconciles when a start has been given, which deletes nothing where the scope has no other
assignment, and then, and with every tick, the instances of the new settings are inserted. Those of
the old settings stay.

`futureInstances_follow` says which updates and ticks leave the future of an assignment as its
settings have it.
-/

namespace RwServer

open Windows Relational Transition

/-! ## Updates and ticks, one after the other -/

/-- The schedule, what a bucket or a disposition refers to, the time, and the lookahead of the tick
that has just been. -/
structure PlannedState where
  sch : Schedule
  inUse : Uuid → Bool
  now : Time
  ticked : Option ℕ

inductive PlanMove
  | update (input : UpdateShiftAssignmentInput) (now : Time)
  | tick (now : Time) (lookaheadDays : ℕ)
  /-- A bucket or a disposition of an instance is stored. -/
  | refer (instanceId : Uuid)

/-- One move; a refused update changes nothing. -/
def planStep (timezoneOf : Uuid → Timezone) (assignmentId : Uuid) (move : PlanMove)
    (s : PlannedState) : Option PlannedState :=
  match move with
  | .update input now =>
    if s.now ≤ now then
      let sch := (s.sch.update timezoneOf s.inUse now assignmentId input).getD s.sch
      some { s with sch, now, ticked := none }
    else none
  | .tick now lookaheadDays =>
    if s.now ≤ now then
      some { s with
        sch := s.sch.materializeShiftInstances timezoneOf now lookaheadDays
        now := now
        ticked := some lookaheadDays }
    else none
  | .refer instanceId =>
    if instanceId ∈ s.sch.instances.rows.map ShiftRow.id then
      some { s with inUse := Function.update s.inUse instanceId true, ticked := none }
    else none

/-! ## The instances of the settings -/

namespace ShiftAssignment

variable (a : ShiftAssignment) (timezone : Timezone)

/-- `buildInstanceRows` yields the row, for one of the days. -/
def Yields (r : InstanceRow) : Prop :=
  ∃ fromDayMs : ℤ, msPerDay ∣ fromDayMs ∧ r ∈ a.buildInstanceRows fromDayMs 0 [] timezone

/-- The day that a row is for, if it is the one of a definition. -/
def dayOf (r : InstanceRow) (d : ShiftDefinition) : ℤ :=
  r.startTime - parseLocalTime d.startHours d.startMinutes - d.startDayOffset * msPerDay

variable {a timezone}

theorem buildInstanceRows_zero {fromDayMs : Time} {reservedWindows : List (Window Time)} :
    a.buildInstanceRows fromDayMs 0 reservedWindows timezone
      = a.rowsOn reservedWindows timezone fromDayMs := by
  rw [buildInstanceRows, targetDays, List.range_one, List.map_singleton, List.flatMap_singleton]
  simp

theorem yields_of_mem_build {fromDayMs : Time} {lookaheadDays : ℕ} {r : InstanceRow}
    (hfrom : msPerDay ∣ (fromDayMs : ℤ))
    (h : r ∈ a.buildInstanceRows fromDayMs lookaheadDays [] timezone) : a.Yields timezone r := by
  obtain ⟨targetMs, htarget, hr⟩ := List.mem_flatMap.mp h
  refine ⟨targetMs, dvd_of_mem_targetDays hfrom htarget, ?_⟩
  rwa [buildInstanceRows_zero]

theorem Yields.assignmentId_eq {r : InstanceRow} (h : a.Yields timezone r) :
    r.assignmentId = a.id := by
  obtain ⟨fromDayMs, -, hr⟩ := h
  exact (assignment_of_mem_build hr).1

theorem Yields.plans {r : InstanceRow} (h : a.Yields timezone r) :
    ∃ fromDayMs : ℤ, msPerDay ∣ fromDayMs ∧ a.Plans fromDayMs 0 r.window := by
  obtain ⟨fromDayMs, hfrom, hr⟩ := h
  exact ⟨fromDayMs, hfrom, (exists_window_buildInstanceRows_iff.mp ⟨r, hr, rfl⟩).1⟩

theorem yields_iff {r : InstanceRow} : a.Yields timezone r ↔ ∃ d ∈ a.pattern.shifts,
    msPerDay ∣ dayOf r d ∧ r ∈ a.buildInstanceRows (dayOf r d) 0 [] timezone := by
  constructor
  · rintro ⟨fromDayMs, hfrom, hr⟩
    rw [buildInstanceRows_zero] at hr
    obtain ⟨-, -, -, d, hd, hwindow⟩ := mem_rowsOn hr
    have hstart := congrArg Window.start hwindow
    have hday : dayOf r d = fromDayMs := by
      have hstart : fromDayMs + d.startDayOffset * msPerDay
          + parseLocalTime d.startHours d.startMinutes = r.startTime := hstart
      rw [dayOf, ← hstart]
      ring
    refine ⟨d, (mem_shifts_of_mem_defsOn hd).1, hday ▸ hfrom, ?_⟩
    rwa [hday, buildInstanceRows_zero]
  · rintro ⟨d, -, hdvd, hr⟩
    exact ⟨_, hdvd, hr⟩

instance decidableYields (r : InstanceRow) : Decidable (a.Yields timezone r) :=
  decidable_of_iff _ yields_iff.symm

end ShiftAssignment

/-! ## The only assignment of a scope -/

/-- The assignment with the id is the only one of its scope. -/
structure Schedule.Alone (sch : Schedule) (assignmentId : Uuid) (a : ShiftAssignment) : Prop where
  ids : (sch.assignments.map ShiftAssignment.id).Nodup
  mem : a ∈ sch.assignments
  id_eq : a.id = assignmentId
  scope : ∀ b ∈ sch.assignments, b.scope = a.scope → b.id = assignmentId

section

variable {sch : Schedule} {assignmentId : Uuid} {a : ShiftAssignment}
  {timezoneOf : Uuid → Timezone} {inUse : Uuid → Bool} {now : Time}

namespace Schedule.Alone

theorem eq_of_id (h : sch.Alone assignmentId a) {b : ShiftAssignment} (hb : b ∈ sch.assignments)
    (hid : b.id = assignmentId) : b = a :=
  List.inj_on_of_nodup_map h.ids hb h.mem (hid.trans h.id_eq.symm)

theorem assignment_eq (h : sch.Alone assignmentId a) : sch.assignment assignmentId = some a := by
  cases hfind : sch.assignment assignmentId with
  | none =>
    have hnone := List.find?_eq_none.mp hfind a h.mem
    rw [beq_iff_eq] at hnone
    exact absurd h.id_eq hnone
  | some b =>
    have hid := List.find?_some hfind
    rw [h.eq_of_id (List.mem_of_find?_eq_some hfind) (eq_of_beq hid)]

theorem isOldAssignment_eq (h : sch.Alone assignmentId a) {b : ShiftAssignment}
    (hb : b ∈ sch.assignments) : isOldAssignment a b = false := by
  rw [isOldAssignment, Bool.and_assoc]
  by_cases hscope : b.scope = a.scope
  · rw [h.scope b hb hscope, h.id_eq, bne_self_eq_false, Bool.false_and]
  · rw [beq_eq_false_iff_ne.mpr hscope, Bool.false_and, Bool.and_false]

theorem isOldInstance_eq (h : sch.Alone assignmentId a) (i : ShiftRow) :
    sch.isOldInstance a i = false := by
  rw [isOldInstance, List.any_eq_false.mpr, Bool.false_and]
  intro b hb
  rw [h.isOldAssignment_eq hb, Bool.false_and]
  exact Bool.false_ne_true

/-- **A reconcile of the only assignment** of a scope deletes nothing and reserves nothing. -/
theorem reconcile_eq (h : sch.Alone assignmentId a) :
    sch.reconcileShiftInstances timezoneOf inUse now assignmentId =
      { sch with
        instances := createMany sch.instances (a.buildInstanceRows (floorToDay now - msPerDay)
          (defaultLookaheadDays + 1) [] (timezoneOf a.scope.siteId)) } := by
  have hkept : sch.instances.delete (fun i ↦ sch.isOldInstance a i && !inUse i.id)
      = sch.instances := Table.ext_rows <| by
    rw [Table.delete]
    refine List.filter_eq_self.mpr fun i _ ↦ ?_
    rw [h.isOldInstance_eq, Bool.false_and, Bool.not_false]
  have hreserved : sch.reservedWindows a inUse = [] := by
    rw [reservedWindows, List.map_eq_nil_iff]
    refine List.filter_eq_nil_iff.mpr fun i _ ↦ ?_
    rw [h.isOldInstance_eq, Bool.false_and]
    exact Bool.false_ne_true
  have hend : sch.assignments.map (endOld a) = sch.assignments := by
    refine (List.map_congr_left fun b hb ↦ ?_).trans (List.map_id _)
    rw [endOld, h.isOldAssignment_eq hb, Bool.false_and, if_neg Bool.false_ne_true]
    rfl
  rw [reconcileShiftInstances, h.assignment_eq]
  dsimp only
  rw [hkept, hreserved, hend]

/-- The assignment with its new settings is the only one, too. -/
theorem updated (h : sch.Alone assignmentId a) (input : UpdateShiftAssignmentInput)
    (start : Option RotationStart) :
    Alone { sch with
      assignments := sch.assignments.map fun a ↦
        if a.id == assignmentId then input.apply a start else a }
      assignmentId (input.apply a start) where
  ids := by
    rw [List.map_map, show ShiftAssignment.id ∘ (fun a ↦
      if a.id == assignmentId then input.apply a start else a) = ShiftAssignment.id by
        funext b
        rw [Function.comp_apply]
        split <;> rfl]
    exact h.ids
  mem := List.mem_map.mpr ⟨a, h.mem, if_pos (beq_iff_eq.mpr h.id_eq)⟩
  id_eq := h.id_eq
  scope b hb hscope := by
    obtain ⟨c, hc, rfl⟩ := List.mem_map.mp hb
    by_cases hid : (c.id == assignmentId) = true
    · rw [if_pos hid]
      exact eq_of_beq hid
    · rw [if_neg hid] at hscope ⊢
      exact h.scope c hc hscope

end Schedule.Alone

end

/-! ## What follows the settings -/

section

variable (timezoneOf : Uuid → Timezone) (assignmentId : Uuid)

namespace PlannedState

variable (s : PlannedState) (a : ShiftAssignment)

/-- An instance of the assignment in the future, which nothing refers to. -/
def IsOpen (x : ShiftRow) : Prop :=
  x.assignmentId = a.id ∧ s.now < x.startTime ∧ s.inUse x.id = false

/-- An instance of the assignment that is in use starts at the time. -/
def Taken (time : Time) : Prop := ∃ x ∈ s.sch.instances.rows,
  s.inUse x.id = true ∧ x.assignmentId = a.id ∧ x.startTime = time

/-- The rows of a tick. -/
def tickRows (now : Time) (lookaheadDays : ℕ) : List InstanceRow :=
  a.buildInstanceRows (floorToDay now - msPerDay) (lookaheadDays + 1) []
    (timezoneOf a.scope.siteId)

/-- The future of the assignment is the one of its settings: its open instances are rows that the
settings yield, each row of the tick in the future is there, unless an instance in use starts at its
time, and the open instances do not overlap where the pattern does not. -/
structure Follows (lookaheadDays : ℕ) : Prop where
  yields : ∀ x ∈ s.sch.instances.rows, s.IsOpen a x →
    a.Yields (timezoneOf a.scope.siteId) x.toInstanceRow
  exist : ∀ r ∈ tickRows timezoneOf a s.now lookaheadDays, s.now < r.startTime →
    (∃ x ∈ s.sch.instances.rows, x.toInstanceRow = r) ∨ s.Taken a r.startTime
  apart : a.pattern.Disjoint → ∀ x ∈ s.sch.instances.rows, ∀ y ∈ s.sch.instances.rows,
    s.IsOpen a x → s.IsOpen a y → x ≠ y → x.window.Apart y.window

instance decidableTaken (time : Time) : Decidable (s.Taken a time) :=
  inferInstanceAs (Decidable (∃ x ∈ s.sch.instances.rows, _))

end PlannedState

/-- An update that is carried out leaves no instance in the future that nothing refers to and that
the new settings do not yield. -/
def LeavesNone (s : PlannedState) (input : UpdateShiftAssignmentInput) (now : Time) : Prop :=
  ∀ a ∈ s.sch.assignment assignmentId, ∀ start ∈ input.rotationStart a,
    ∀ x ∈ s.sch.instances.rows, x.assignmentId = a.id → now < x.startTime →
      s.inUse x.id = false →
        (input.apply a start).Yields (timezoneOf a.scope.siteId) x.toInstanceRow

/-- Where a tick has a row in the future, and no instance in use starts at its time, no other
instance and no other row of it starts then; and the assignment has not ended before the day of the
tick, unless the row is there. -/
def FindsRoom (s : PlannedState) (now : Time) (lookaheadDays : ℕ) : Prop :=
  ∀ a ∈ s.sch.assignment assignmentId,
    ∀ r ∈ PlannedState.tickRows timezoneOf a now lookaheadDays, now < r.startTime →
      ¬s.Taken a r.startTime →
        (∀ x ∈ s.sch.instances.rows, x.assignmentId = a.id → x.startTime = r.startTime →
          x.toInstanceRow = r) ∧
        (∀ r' ∈ PlannedState.tickRows timezoneOf a now lookaheadDays,
          r'.startTime = r.startTime → r' = r) ∧
        (a ∈ s.sch.active now ∨
          ∃ x ∈ s.sch.instances.rows, x.assignmentId = a.id ∧ x.startTime = r.startTime)

/-- The condition on a move. -/
def PlanFits (s : PlannedState) : PlanMove → Prop
  | .update input now => LeavesNone timezoneOf assignmentId s input now
  | .tick now lookaheadDays => FindsRoom timezoneOf assignmentId s now lookaheadDays
  | .refer _ => True

instance decidableLeavesNone (s : PlannedState) (input : UpdateShiftAssignmentInput)
    (now : Time) : Decidable (LeavesNone timezoneOf assignmentId s input now) :=
  inferInstanceAs (Decidable (∀ a ∈ s.sch.assignment assignmentId,
    ∀ start ∈ input.rotationStart a, ∀ x ∈ s.sch.instances.rows, _ → _ → _ → _))

instance decidableFindsRoom (s : PlannedState) (now : Time) (lookaheadDays : ℕ) :
    Decidable (FindsRoom timezoneOf assignmentId s now lookaheadDays) :=
  inferInstanceAs (Decidable (∀ a ∈ s.sch.assignment assignmentId,
    ∀ r ∈ PlannedState.tickRows timezoneOf a now lookaheadDays, _ → _ → _ ∧ _ ∧ _))

instance decidablePlanFits (s : PlannedState) :
    ∀ move, Decidable (PlanFits timezoneOf assignmentId s move)
  | .update input now =>
    inferInstanceAs (Decidable (LeavesNone timezoneOf assignmentId s input now))
  | .tick now lookaheadDays =>
    inferInstanceAs (Decidable (FindsRoom timezoneOf assignmentId s now lookaheadDays))
  | .refer _ => isTrue trivial

/-- What holds throughout a run, of the only assignment of its scope: its open instances are rows
that its settings yield. -/
structure PlanInv (a : ShiftAssignment) (s : PlannedState) : Prop where
  alone : s.sch.Alone assignmentId a
  yields : ∀ x ∈ s.sch.instances.rows, s.IsOpen a x →
    a.Yields (timezoneOf a.scope.siteId) x.toInstanceRow
  refs : ∀ i, s.inUse i = true → i ∈ s.sch.instances.rows.map ShiftRow.id

end

section

variable {timezoneOf : Uuid → Timezone} {assignmentId : Uuid}
  {s s' : PlannedState} {a : ShiftAssignment} {now : Time} {lookaheadDays : ℕ}

/-- A new row has an id that no old one has. -/
theorem id_of_mem_createMany {t : Table shiftSchema} {data : List InstanceRow} {x : ShiftRow}
    (hx : x ∈ (createMany t data).rows) (hnew : x ∉ t.rows) : x.id ∉ t.rows.map ShiftRow.id := by
  intro hid
  obtain ⟨y, hy, hyid⟩ := List.mem_map.mp hid
  have hne : y ≠ x := fun heq ↦ hnew (heq ▸ hy)
  have hclash := Table.clash_eq_false _ (mem_createMany_of_mem hy) hx hne
  rw [show shiftSchema.clash y x = (y.id == x.id) from rfl, hyid, beq_self_eq_true] at hclash
  cases hclash

/-- Open instances that the settings yield do not overlap. -/
theorem apart_of_yields {t : Table shiftSchema} {timezone : Timezone} {x y : ShiftRow}
    (hpattern : a.pattern.Disjoint) (hxmem : x ∈ t.rows) (hymem : y ∈ t.rows)
    (hx : a.Yields timezone x.toInstanceRow) (hy : a.Yields timezone y.toInstanceRow)
    (hne : x ≠ y) : x.window.Apart y.window := by
  obtain ⟨day, hday, hxplan⟩ := hx.plans
  obtain ⟨day', hday', hyplan⟩ := hy.plans
  rcases ShiftAssignment.Plans.eq_or_apart_of_dvd hpattern hday hday' hxplan hyplan with heq | h
  · refine absurd (t.eq_of_key_eq hxmem hymem ?_) hne
    exact Prod.ext (hx.assignmentId_eq.trans hy.assignmentId_eq.symm) (congrArg Window.start heq)
  · exact h

theorem dvd_tickFrom (now : Time) : msPerDay ∣ (floorToDay now - msPerDay : ℤ) :=
  dvd_fromMs now

/-- An instance is open later only if it has been before. -/
theorem PlannedState.IsOpen.of_le {x : ShiftRow} (hx : PlannedState.IsOpen s' a x)
    (hnow : s.now ≤ s'.now) (huse : s'.inUse x.id = s.inUse x.id) : s.IsOpen a x :=
  ⟨hx.1, hnow.trans_lt hx.2.1, huse ▸ hx.2.2⟩

/-- What is inserted for the assignment by a tick is one of its rows. -/
theorem PlanInv.of_tick {x : ShiftRow} (h : PlanInv timezoneOf assignmentId a s)
    (hx : x ∈ (s.sch.materializeShiftInstances timezoneOf now lookaheadDays).instances.rows)
    (hid : x.assignmentId = a.id) : x ∈ s.sch.instances.rows ∨
      x ∉ s.sch.instances.rows ∧
        s.sch.instances.find (shiftSchema.key x) = none ∧
          x.toInstanceRow ∈ PlannedState.tickRows timezoneOf a now lookaheadDays := by
  by_cases hmem : x ∈ s.sch.instances.rows
  · exact .inl hmem
  · rcases of_mem_createMany hx with hold | ⟨hfree, hdata⟩
    · exact .inl hold
    · obtain ⟨b, hb, hr⟩ := List.mem_flatMap.mp hdata
      have hbid := (ShiftAssignment.assignment_of_mem_build hr).1
      have hba : b = a := h.alone.eq_of_id (List.mem_filter.mp hb).1
        (hbid.symm.trans (hid.trans h.alone.id_eq))
      exact .inr ⟨hmem, hfree, hba ▸ hr⟩

/-- **A tick keeps the invariant.** -/
theorem PlanInv.tick (h : PlanInv timezoneOf assignmentId a s)
    (hstep : planStep timezoneOf assignmentId (.tick now lookaheadDays) s
      = some s') : PlanInv timezoneOf assignmentId a s' := by
  rw [planStep] at hstep
  split_ifs at hstep with hnow
  cases hstep
  refine ⟨⟨h.alone.ids, h.alone.mem, h.alone.id_eq, h.alone.scope⟩, fun x hx hopen ↦ ?_,
    fun i hi ↦ ?_⟩
  · rcases h.of_tick hx hopen.1 with hold | ⟨-, -, hrow⟩
    · exact h.yields x hold (hopen.of_le hnow rfl)
    · exact ShiftAssignment.yields_of_mem_build (dvd_tickFrom now) hrow
  · obtain ⟨x, hx, hid⟩ := List.mem_map.mp (h.refs i hi)
    exact List.mem_map.mpr ⟨x, mem_createMany_of_mem hx, hid⟩

/-- **After a tick the future follows the settings** exactly when the tick finds room. -/
theorem PlanInv.follows_tick_iff (h : PlanInv timezoneOf assignmentId a s)
    (hstep : planStep timezoneOf assignmentId (.tick now lookaheadDays) s
      = some s') :
    s'.Follows timezoneOf a lookaheadDays ↔
      FindsRoom timezoneOf assignmentId s now lookaheadDays := by
  have hinv := h.tick hstep
  rw [planStep] at hstep
  split_ifs at hstep with hnow
  cases hstep
  rw [FindsRoom, h.alone.assignment_eq]
  simp only [Option.mem_def, Option.some.injEq, forall_eq']
  -- an instance that is in use has been there before
  have htaken : ∀ time, PlannedState.Taken ⟨s.sch.materializeShiftInstances timezoneOf now
      lookaheadDays, s.inUse, now, some lookaheadDays⟩ a time → s.Taken a time := by
    rintro time ⟨x, hx, huse, hid, htime⟩
    by_cases hold : x ∈ s.sch.instances.rows
    · exact ⟨x, hold, huse, hid, htime⟩
    · exact absurd (h.refs x.id huse) (id_of_mem_createMany hx hold)
  constructor
  · intro hfollows r hr hfuture hfree
    obtain ⟨x, hx, rfl⟩ := (hfollows.exist r hr hfuture).resolve_right fun ht ↦
      hfree (htaken _ ht)
    have hid : x.assignmentId = a.id := (ShiftAssignment.assignment_of_mem_build hr).1
    have hsame : ∀ y ∈ s.sch.instances.rows, y.assignmentId = a.id → y.startTime = x.startTime →
        y = x := fun y hy hyid hystart ↦
      Table.eq_of_key_eq _ (mem_createMany_of_mem hy) hx (Prod.ext (hyid.trans hid.symm) hystart)
    refine ⟨fun y hy hyid hystart ↦ congrArg ShiftRow.toInstanceRow (hsame y hy hyid hystart),
      fun r' hr' hstart ↦ ?_, ?_⟩
    · obtain ⟨x', hx', rfl⟩ := (hfollows.exist r' hr' (hstart ▸ hfuture)).resolve_right fun ht ↦
        hfree (hstart ▸ htaken _ ht)
      have hid' : x'.assignmentId = a.id := (ShiftAssignment.assignment_of_mem_build hr').1
      exact congrArg ShiftRow.toInstanceRow
        (Table.eq_of_key_eq _ hx' hx (Prod.ext (hid'.trans hid.symm) hstart))
    · by_cases hold : x ∈ s.sch.instances.rows
      · exact .inr ⟨x, hold, hid, rfl⟩
      · obtain ⟨-, hdata⟩ := (of_mem_createMany hx).resolve_left hold
        obtain ⟨b, hb, hbr⟩ := List.mem_flatMap.mp hdata
        have hbid := (ShiftAssignment.assignment_of_mem_build hbr).1
        have hba : b = a := h.alone.eq_of_id (List.mem_filter.mp hb).1
          (hbid.symm.trans (hid.trans h.alone.id_eq))
        exact .inl (hba ▸ hb)
  · intro hroom
    refine ⟨hinv.yields, fun r hr hfuture ↦ ?_, fun hpattern x hx y hy hxopen hyopen hne ↦
      apart_of_yields hpattern hx hy (hinv.yields x hx hxopen) (hinv.yields y hy hyopen) hne⟩
    by_cases hfree : s.Taken a r.startTime
    · obtain ⟨x, hx, hrest⟩ := hfree
      exact .inr ⟨x, mem_createMany_of_mem hx, hrest⟩
    · obtain ⟨hstored, hrows, hthere⟩ := hroom r hr hfuture hfree
      have hid : r.assignmentId = a.id := (ShiftAssignment.assignment_of_mem_build hr).1
      by_cases hex : ∃ x ∈ s.sch.instances.rows, x.assignmentId = a.id ∧ x.startTime = r.startTime
      · obtain ⟨x, hx, hxid, hxstart⟩ := hex
        exact .inl ⟨x, mem_createMany_of_mem hx, hstored x hx hxid hxstart⟩
      · have hactive := hthere.resolve_right hex
        have hdata : r ∈ (s.sch.active now).flatMap fun b ↦
            PlannedState.tickRows timezoneOf b now lookaheadDays :=
          List.mem_flatMap.mpr ⟨a, hactive, hr⟩
        obtain ⟨x, hx, hxid, hxstart⟩ := exists_mem_createMany (t := s.sch.instances) hdata
        rcases h.of_tick hx (hxid.trans hid) with hold | ⟨-, -, hrow⟩
        · exact absurd ⟨x, hold, hxid.trans hid, hxstart⟩ hex
        · exact .inl ⟨x, hx, hrows x.toInstanceRow hrow hxstart⟩

/-- An update that is refused changes nothing; one that is carried out sets the assignment, and
then inserts rows of the new settings at most. -/
theorem PlanInv.update_cases (h : PlanInv timezoneOf assignmentId a s)
    {input : UpdateShiftAssignmentInput}
    (hstep : planStep timezoneOf assignmentId (.update input now) s = some s') :
    s.now ≤ now ∧ s'.now = now ∧ s'.inUse = s.inUse ∧ s'.ticked = none ∧
      ((input.rotationStart a = none ∧ s'.sch = s.sch) ∨
        ∃ start, input.rotationStart a = some start ∧
          s'.sch.Alone assignmentId (input.apply a start) ∧
          (∀ x ∈ s.sch.instances.rows, x ∈ s'.sch.instances.rows) ∧
          ∀ x ∈ s'.sch.instances.rows, x ∈ s.sch.instances.rows ∨
            (input.apply a start).Yields (timezoneOf a.scope.siteId) x.toInstanceRow) := by
  rw [planStep] at hstep
  split_ifs at hstep with hnow
  cases hstep
  refine ⟨hnow, rfl, rfl, rfl, ?_⟩
  dsimp only
  rw [Schedule.update, h.alone.assignment_eq, Option.bind_some]
  cases hstart : input.rotationStart a with
  | none => exact .inl ⟨rfl, rfl⟩
  | some start =>
    refine .inr ⟨start, rfl, ?_⟩
    have halone := h.alone.updated input start
    rw [Option.map_some, Option.getD_some]
    dsimp only
    split_ifs
    · rw [halone.reconcile_eq]
      refine ⟨⟨halone.ids, halone.mem, halone.id_eq, halone.scope⟩,
        fun x hx ↦ mem_createMany_of_mem hx, fun x hx ↦ ?_⟩
      rcases of_mem_createMany hx with hold | ⟨-, hdata⟩
      · exact .inl hold
      · exact .inr (ShiftAssignment.yields_of_mem_build (dvd_tickFrom now) hdata)
    · exact ⟨halone, fun x hx ↦ hx, fun x hx ↦ .inl hx⟩

/-- **An update that leaves none keeps the invariant**, for the new settings. -/
theorem PlanInv.update (h : PlanInv timezoneOf assignmentId a s)
    {input : UpdateShiftAssignmentInput} (hok : LeavesNone timezoneOf assignmentId s input now)
    (hstep : planStep timezoneOf assignmentId (.update input now) s = some s') :
    ∃ a', PlanInv timezoneOf assignmentId a' s' := by
  obtain ⟨hle, hnow, huse, -, hcases⟩ := h.update_cases hstep
  rcases hcases with ⟨-, hsch⟩ | ⟨start, hstart, halone, hkept, hrows⟩
  · refine ⟨a, hsch ▸ h.alone, fun x hx hopen ↦ ?_, fun i hi ↦ ?_⟩
    · exact h.yields x (hsch ▸ hx) (hopen.of_le (hnow ▸ hle) (congrFun huse _))
    · rw [hsch]
      exact h.refs i (huse ▸ hi)
  · refine ⟨input.apply a start, halone, fun x hx hopen ↦ ?_, fun i hi ↦ ?_⟩
    · rcases hrows x hx with hold | hyields
      · exact hok a h.alone.assignment_eq start hstart x hold hopen.1 (hnow ▸ hopen.2.1)
          (huse ▸ hopen.2.2)
      · exact hyields
    · obtain ⟨x, hx, hid⟩ := List.mem_map.mp (h.refs i (huse ▸ hi))
      exact List.mem_map.mpr ⟨x, hkept x hx, hid⟩

/-- **An update leaves none** exactly when the open instances are those of the settings after a tick
that follows it at the same time. -/
theorem PlanInv.leavesNone_iff (h : PlanInv timezoneOf assignmentId a s)
    {input : UpdateShiftAssignmentInput} {s'' : PlannedState}
    (hstep : planStep timezoneOf assignmentId (.update input now) s = some s')
    (htick : planStep timezoneOf assignmentId (.tick now lookaheadDays) s' = some s'') :
    LeavesNone timezoneOf assignmentId s input now ↔
      ∀ a' ∈ s''.sch.assignment assignmentId, ∀ x ∈ s''.sch.instances.rows, s''.IsOpen a' x →
        a'.Yields (timezoneOf a'.scope.siteId) x.toInstanceRow := by
  constructor
  · intro hok a' ha' x hx hopen
    obtain ⟨a₁, hinv⟩ := h.update hok hstep
    have hinv' := hinv.tick htick
    cases hinv'.alone.assignment_eq.symm.trans ha'
    exact hinv'.yields x hx hopen
  · intro hlaw a₀ ha₀ start hstart x hx hid hfuture hfree
    cases h.alone.assignment_eq.symm.trans ha₀
    obtain ⟨-, -, huse, -, hcases⟩ := h.update_cases hstep
    rcases hcases with ⟨hnone, -⟩ | ⟨start', hstart', halone, hkept, -⟩
    · rw [hnone] at hstart
      cases hstart
    · cases hstart'.symm.trans hstart
      rw [planStep] at htick
      split_ifs at htick
      cases htick
      refine hlaw (input.apply a start) ?_ x (mem_createMany_of_mem (hkept x hx))
        ⟨hid, hfuture, huse ▸ hfree⟩
      exact halone.assignment_eq

theorem PlanInv.refer (h : PlanInv timezoneOf assignmentId a s) {instanceId : Uuid}
    (hstep : planStep timezoneOf assignmentId (.refer instanceId) s = some s') :
    PlanInv timezoneOf assignmentId a s' ∧ s'.ticked = none := by
  rw [planStep] at hstep
  split_ifs at hstep with hmem
  cases hstep
  refine ⟨⟨h.alone, fun x hx hopen ↦ ?_, fun i hi ↦ ?_⟩, rfl⟩
  · refine h.yields x hx ⟨hopen.1, hopen.2.1, ?_⟩
    have hfree := hopen.2.2
    dsimp only at hfree
    by_cases hid : x.id = instanceId
    · rw [hid, Function.update_self] at hfree
      cases hfree
    · rwa [Function.update_of_ne hid] at hfree
  · by_cases hid : i = instanceId
    · exact hid ▸ hmem
    · dsimp only at hi
      rw [Function.update_of_ne hid] at hi
      exact h.refs i hi

/-- **Future instances follow their assignment.** In every run whose updates leave none and whose
ticks find room, the future is the one of the settings after every tick. An update from there leaves
none exactly when a tick after it finds no open instance that the settings do not yield; and a tick
from there finds room exactly when the future is the one of the settings after it. -/
theorem futureInstances_follow {s₀ : PlannedState} {moves : List PlanMove} {a₀ : ShiftAssignment}
    (h₀ : PlanInv timezoneOf assignmentId a₀ s₀) (hticked : s₀.ticked = none)
    (hrun : Run (planStep timezoneOf assignmentId)
      (PlanFits timezoneOf assignmentId) s₀ moves s) :
    ∃ a, s.sch.assignment assignmentId = some a ∧
      (∀ lookaheadDays, s.ticked = some lookaheadDays → s.Follows timezoneOf a lookaheadDays) ∧
      (∀ input now lookaheadDays s' s'',
        planStep timezoneOf assignmentId (.update input now) s = some s' →
        planStep timezoneOf assignmentId (.tick now lookaheadDays) s' = some s'' →
          (LeavesNone timezoneOf assignmentId s input now ↔
            ∀ a' ∈ s''.sch.assignment assignmentId, ∀ x ∈ s''.sch.instances.rows,
              s''.IsOpen a' x → a'.Yields (timezoneOf a'.scope.siteId) x.toInstanceRow)) ∧
      ∀ now lookaheadDays s',
        planStep timezoneOf assignmentId (.tick now lookaheadDays) s = some s' →
          (FindsRoom timezoneOf assignmentId s now lookaheadDays ↔
            s'.Follows timezoneOf a lookaheadDays) := by
  suffices hkept : ∃ a, PlanInv timezoneOf assignmentId a s ∧
      ∀ lookaheadDays, s.ticked = some lookaheadDays → s.Follows timezoneOf a lookaheadDays by
    obtain ⟨a, hinv, hfollows⟩ := hkept
    exact ⟨a, hinv.alone.assignment_eq, hfollows,
      fun _ _ _ _ _ hstep htick ↦ hinv.leavesNone_iff hstep htick,
      fun _ _ _ hstep ↦ (hinv.follows_tick_iff hstep).symm⟩
  induction hrun with
  | nil => exact ⟨a₀, h₀, fun _ h ↦ by rw [hticked] at h; cases h⟩
  | @snoc _ _ move _ _ hok hstep ih =>
    obtain ⟨a, hinv, -⟩ := ih
    cases move with
    | update input now =>
      obtain ⟨a', hinv'⟩ := hinv.update hok hstep
      obtain ⟨-, -, -, hnone, -⟩ := hinv.update_cases hstep
      exact ⟨a', hinv', fun _ h ↦ by rw [hnone] at h; cases h⟩
    | tick now lookaheadDays =>
      have hfollows := (hinv.follows_tick_iff hstep).mpr hok
      refine ⟨a, hinv.tick hstep, fun days hdays ↦ ?_⟩
      rw [planStep] at hstep
      split_ifs at hstep
      cases hstep
      cases hdays
      exact hfollows
    | refer instanceId =>
      obtain ⟨hinv', hnone⟩ := hinv.refer hstep
      exact ⟨a, hinv', fun _ h ↦ by rw [hnone] at h; cases h⟩

end

/-! ## A daily shift -/

/-- A daily shift from 8:00, without instances yet. -/
def dailyPlan : PlannedState where
  sch := ⟨[dailyAssignment 2 0 8], .empty _⟩
  inUse _ := false
  now := 5 * msPerDay
  ticked := none

/-- The rotation gets an end with the thirtieth day. -/
def extended : UpdateShiftAssignmentInput := ⟨none, some (some (30 * msPerDay)), none⟩

theorem planInv_dailyPlan : PlanInv (fun _ ↦ .utc) 2 (dailyAssignment 2 0 8) dailyPlan where
  alone := ⟨List.nodup_singleton _, List.mem_singleton_self _, rfl, fun _ hb _ ↦ by
    rw [List.mem_singleton.mp hb]
    rfl⟩
  yields _ hx := absurd hx List.not_mem_nil
  refs _ hi := absurd hi Bool.false_ne_true

/-- The rotation gets an end after the days that are there. A bucket of the first shift is stored,
and the next tick adds the shift of its last day. -/
theorem futureInstances_follow_extended : ∃ s : PlannedState,
    s.sch.instances.rows.length = 10 ∧ s.Follows (fun _ ↦ .utc)
      (extended.apply (dailyAssignment 2 0 8) none) 7 := by
  have hexecute : (execute (planStep (fun _ ↦ .utc) 2)
      (PlanFits (fun _ ↦ .utc) 2)
      [.tick (5 * msPerDay) 7, .refer 1,
        .update extended (5 * msPerDay),
        .tick (6 * msPerDay) 7] dailyPlan).any (fun s ↦
        decide (s.sch.instances.rows.length = 10 ∧ s.ticked = some 7 ∧
          s.sch.assignment 2 = some (extended.apply (dailyAssignment 2 0 8) none))) = true := by
    decide +kernel
  obtain ⟨s, hs, hfacts⟩ := (Option.any_eq_true _ _).mp hexecute
  obtain ⟨hlength, hticked, ha⟩ := of_decide_eq_true hfacts
  obtain ⟨a, ha', hfollows, -⟩ :=
    futureInstances_follow planInv_dailyPlan rfl (run_of_execute hs)
  cases ha.symm.trans ha'
  exact ⟨s, hlength, hfollows 7 hticked⟩

/-- **The shifts run on** after the rotation has been ended with the sixth day. -/
theorem not_futureInstances_follow : ∃ s : PlannedState,
    Run (planStep (fun _ ↦ .utc) 2) (fun _ _ ↦ True) dailyPlan
      [.tick (5 * msPerDay) 7, .update ⟨none, some (some (6 * msPerDay)), none⟩ (5 * msPerDay),
        .tick (5 * msPerDay) 7] s ∧
    ∀ a ∈ s.sch.assignment 2, ¬s.Follows (fun _ ↦ .utc) a 7 := by
  have hexecute : (execute (planStep (fun _ ↦ .utc) 2) (fun _ _ ↦ True)
      [.tick (5 * msPerDay) 7, .update ⟨none, some (some (6 * msPerDay)), none⟩ (5 * msPerDay),
        .tick (5 * msPerDay) 7] dailyPlan).any (fun s ↦
        decide (∀ a ∈ s.sch.assignment 2, ∃ x ∈ s.sch.instances.rows, x.assignmentId = a.id ∧
          s.now < x.startTime ∧ s.inUse x.id = false ∧
            ¬a.Yields .utc x.toInstanceRow)) = true := by
    decide +kernel
  obtain ⟨s, hs, hfacts⟩ := (Option.any_eq_true _ _).mp hexecute
  refine ⟨s, run_of_execute hs, fun a ha hfollows ↦ ?_⟩
  obtain ⟨x, hx, hid, hfuture, hfree, hnot⟩ := of_decide_eq_true hfacts a ha
  exact hnot (hfollows.yields x hx ⟨hid, hfuture, hfree⟩)

end RwServer
