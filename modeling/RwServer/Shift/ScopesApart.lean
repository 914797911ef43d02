import Mathlib
import RwServer.Foundation.Run
import RwServer.Shift.Materialize

/-!
# Shifts of one scope do not overlap

A reconcile inserts the shifts of a new assignment around the instances that it reserves. It looks
neither at the instances of assignments that have ended before, nor at those that end by the start
of the new one; and the ticks afterwards reserve nothing: they insert what the reconcile has left
out, and what an old assignment plans for its last day. `StepFits` says when a step is not affected,
and `instances_disjoint` that these are the steps that keep the instances of a scope disjoint.
-/

namespace RwServer

open Windows Relational Transition

/-- No two instances of a scope overlap. -/
def DisjointIn (S : ShiftScope) (t : Table shiftSchema) : Prop :=
  ∀ i ∈ t.rows, ∀ j ∈ t.rows, i.scope = S → j.scope = S → i ≠ j → i.window.Apart j.window

/-! ## Insertion -/

section

variable {S : ShiftScope} {t : Table shiftSchema} {data : List InstanceRow}

/-- The rows of an assignment are of one scope, and those with different windows do not overlap. -/
structure OwnRowsApart (data : List InstanceRow) : Prop where
  nonempty : ∀ r ∈ data, r.window.start < r.window.stop
  scope : ∀ r ∈ data, ∀ s ∈ data, r.assignmentId = s.assignmentId → r.scope = s.scope
  apart : ∀ r ∈ data, ∀ s ∈ data, r.assignmentId = s.assignmentId →
    r.window = s.window ∨ r.window.Apart s.window

/-- A row whose key is free has its window among the new rows. -/
theorem exists_inserted (h : OwnRowsApart data) {r : InstanceRow} (hr : r ∈ data)
    (hfree : t.find (r.assignmentId, r.startTime) = none) : ∃ x ∈ (createMany t data).rows,
      x.assignmentId = r.assignmentId ∧ x.scope = r.scope ∧ x.window = r.window ∧ x ∉ t.rows := by
  obtain ⟨x, hx, hid, hstart⟩ := exists_mem_createMany (t := t) hr
  have hkey : shiftSchema.key x = (r.assignmentId, r.startTime) := Prod.ext hid hstart
  have hnew : x ∉ t.rows := fun hmem ↦ Table.find_eq_none_iff.mp hfree x hmem hkey
  obtain ⟨-, hdata⟩ := (of_mem_createMany hx).resolve_left hnew
  refine ⟨x, hx, hid, h.scope _ hdata r hr hid, ?_, hnew⟩
  -- windows that begin together overlap
  refine (h.apart _ hdata r hr hid).resolve_right fun hapart ↦ hapart x.startTime ?_ ?_
  · exact ⟨le_rfl, h.nonempty _ hdata⟩
  · have := h.nonempty r hr
    rw [hstart]
    exact ⟨le_rfl, this⟩

/-- **What is inserted keeps a scope disjoint** iff each new window is apart from the instances of
the scope and from the new windows of other assignments. -/
theorem disjointIn_createMany_iff (h : OwnRowsApart data) (ht : DisjointIn S t) :
    DisjointIn S (createMany t data) ↔
      ∀ r ∈ data, r.scope = S → t.find (r.assignmentId, r.startTime) = none →
        (∀ i ∈ t.rows, i.scope = S → r.window.Apart i.window) ∧
          ∀ s ∈ data, s.scope = S → s.assignmentId ≠ r.assignmentId →
            t.find (s.assignmentId, s.startTime) = none → r.window.Apart s.window := by
  constructor
  · intro hdisjoint r hr hscope hfree
    obtain ⟨x, hx, hid, hxscope, hwindow, hnew⟩ := exists_inserted h hr hfree
    rw [← hwindow]
    refine ⟨fun i hi hiscope ↦ ?_, fun s hs hsscope hne hsfree ↦ ?_⟩
    · exact hdisjoint x hx i (mem_createMany_of_mem hi) (hxscope.trans hscope) hiscope
        fun heq ↦ hnew (heq ▸ hi)
    · obtain ⟨y, hy, hyid, hyscope, hywindow, -⟩ := exists_inserted h hs hsfree
      rw [← hywindow]
      refine hdisjoint x hx y hy (hxscope.trans hscope) (hyscope.trans hsscope) fun heq ↦ hne ?_
      rw [← hyid, ← heq, hid]
  · intro hfits i hi j hj hiscope hjscope hne
    rcases of_mem_createMany hi with hiold | ⟨hifree, hidata⟩ <;>
      rcases of_mem_createMany hj with hjold | ⟨hjfree, hjdata⟩
    · exact ht i hiold j hjold hiscope hjscope hne
    · exact ((hfits _ hjdata hjscope hjfree).1 i hiold hiscope).symm
    · exact (hfits _ hidata hiscope hifree).1 j hjold hjscope
    · by_cases hid : j.assignmentId = i.assignmentId
      · rcases h.apart _ hidata _ hjdata hid.symm with heq | hapart
        · -- rows of an assignment that begin together are the same row
          refine absurd (Table.eq_of_key_eq _ hi hj ?_) hne
          exact Prod.ext hid.symm (congrArg Window.start heq)
        · exact hapart
      · exact (hfits _ hidata hiscope hifree).2 _ hjdata hjscope hid hjfree

end

/-! ## Steps -/

inductive ScheduleStep
  /-- A new assignment, which is reconciled at `now`. -/
  | create (a : ShiftAssignment) (now : Time) (inUse : Uuid → Bool)
  /-- A tick. -/
  | tick (now : Time) (lookaheadDays : ℕ)

/-- A new assignment has a new id. -/
def scheduleStep (timezoneOf : Uuid → Timezone) : ScheduleStep → Schedule → Option Schedule
  | .create a now inUse, sch =>
    if (∀ b ∈ sch.assignments, b.id ≠ a.id) ∧ ∀ i ∈ sch.instances.rows, i.assignmentId ≠ a.id then
      some (Schedule.reconcileShiftInstances ⟨sch.assignments ++ [a], sch.instances⟩ timezoneOf
        inUse now a.id)
    else none
  | .tick now lookaheadDays, sch =>
    some (sch.materializeShiftInstances timezoneOf now lookaheadDays)

/-- The pattern of a new assignment has no overlaps. -/
def ScheduleStep.HasDisjointPattern : ScheduleStep → Prop
  | .create a _ _ => a.pattern.Disjoint
  | .tick _ _ => True

/-- A shift that the new assignment plans, and that meets no reserved window, meets no instance
that the reconcile does not look at either. -/
def Schedule.ReconcileFits (S : ShiftScope) (sch : Schedule) (a : ShiftAssignment) (now : Time)
    (inUse : Uuid → Bool) : Prop :=
  a.scope = S → ∀ w, a.Plans (floorToDay now - msPerDay) (defaultLookaheadDays + 1) w →
    overlapsAny w (sch.reservedWindows a inUse) = false →
      ∀ i ∈ sch.instances.rows, i.scope = S → sch.isOldInstance a i = false → w.Apart i.window

/-- A shift of the tick's days that is not there yet meets no instance of the scope, and no such
shift of another assignment. -/
def Schedule.TickFits (S : ShiftScope) (sch : Schedule) (now : Time) (lookaheadDays : ℕ) : Prop :=
  let isNew (a : ShiftAssignment) (w : Window Time) : Prop :=
    a.Plans (floorToDay now - msPerDay) (lookaheadDays + 1) w ∧
      sch.instances.find (a.id, w.start) = none
  ∀ a ∈ sch.active now, a.scope = S → ∀ w, isNew a w →
    (∀ i ∈ sch.instances.rows, i.scope = S → w.Apart i.window) ∧
      ∀ b ∈ sch.active now, b.scope = S → b.id ≠ a.id → ∀ v, isNew b v → w.Apart v

/-- A step whose new shifts meet nothing in the scope. -/
def StepFits (S : ShiftScope) (sch : Schedule) : ScheduleStep → Prop
  | .create a now inUse => sch.ReconcileFits S a now inUse
  | .tick now lookaheadDays => sch.TickFits S now lookaheadDays

/-- The assignments have ids of their own, and patterns without overlaps. -/
structure Schedule.WellFormed (sch : Schedule) : Prop where
  ids : (sch.assignments.map ShiftAssignment.id).Nodup
  patterns : ∀ a ∈ sch.assignments, a.pattern.Disjoint

section

variable {S : ShiftScope} {sch sch' : Schedule} {timezoneOf : Uuid → Timezone}

theorem dvd_fromMs (now : Time) : msPerDay ∣ (floorToDay now - msPerDay : ℤ) :=
  dvd_sub (dvd_mul_left _ _) dvd_rfl

/-- A tick keeps a scope disjoint iff it fits. -/
theorem disjointIn_materialize_iff (hwf : sch.WellFormed) (h : DisjointIn S sch.instances)
    (now : Time) (lookaheadDays : ℕ) :
    DisjointIn S (sch.materializeShiftInstances timezoneOf now lookaheadDays).instances ↔
      sch.TickFits S now lookaheadDays := by
  have hbuild : ∀ r ∈ (sch.active now).flatMap (fun a ↦ a.buildInstanceRows
      (floorToDay now - msPerDay) (lookaheadDays + 1) [] (timezoneOf a.scope.siteId)),
      ∃ a ∈ sch.active now, r.assignmentId = a.id ∧ r.scope = a.scope ∧
        a.Plans (floorToDay now - msPerDay) (lookaheadDays + 1) r.window := by
    intro r hr
    obtain ⟨a, ha, hr⟩ := List.mem_flatMap.mp hr
    obtain ⟨hid, hscope⟩ := ShiftAssignment.assignment_of_mem_build hr
    exact ⟨a, ha, hid, hscope,
      (ShiftAssignment.exists_window_buildInstanceRows_iff.mp ⟨r, hr, rfl⟩).1⟩
  have hplan : ∀ a ∈ sch.active now, ∀ w,
      a.Plans (floorToDay now - msPerDay) (lookaheadDays + 1) w →
      ∃ r ∈ (sch.active now).flatMap (fun a ↦ a.buildInstanceRows (floorToDay now - msPerDay)
        (lookaheadDays + 1) [] (timezoneOf a.scope.siteId)),
        r.assignmentId = a.id ∧ r.scope = a.scope ∧ r.window = w := by
    intro a ha w hw
    obtain ⟨r, hr, hwindow⟩ := ShiftAssignment.exists_window_buildInstanceRows_iff.mpr
      (⟨hw, rfl⟩ : a.Plans _ _ w ∧ overlapsAny w [] = false)
    obtain ⟨hid, hscope⟩ := ShiftAssignment.assignment_of_mem_build hr
    exact ⟨r, List.mem_flatMap.mpr ⟨a, ha, hr⟩, hid, hscope, hwindow⟩
  have hsame : ∀ a ∈ sch.active now, ∀ b ∈ sch.active now, a.id = b.id → a = b :=
    fun a ha b hb ↦ List.inj_on_of_nodup_map hwf.ids (List.mem_filter.mp ha).1
      (List.mem_filter.mp hb).1
  have hown : OwnRowsApart ((sch.active now).flatMap (fun a ↦ a.buildInstanceRows
      (floorToDay now - msPerDay) (lookaheadDays + 1) [] (timezoneOf a.scope.siteId))) := by
    refine ⟨fun r hr ↦ ?_, fun r hr s hs hid ↦ ?_, fun r hr s hs hid ↦ ?_⟩
    · obtain ⟨a, -, -, -, hw⟩ := hbuild r hr
      exact hw.nonempty
    · obtain ⟨a, ha, hida, hscope, -⟩ := hbuild r hr
      obtain ⟨b, hb, hidb, hscope', -⟩ := hbuild s hs
      rw [hscope, hscope', hsame a ha b hb (hida.symm.trans (hid.trans hidb))]
    · obtain ⟨a, ha, hida, -, hw⟩ := hbuild r hr
      obtain ⟨b, hb, hidb, -, hv⟩ := hbuild s hs
      rw [← hsame a ha b hb (hida.symm.trans (hid.trans hidb))] at hv
      exact hw.eq_or_apart (hwf.patterns a (List.mem_filter.mp ha).1) (dvd_fromMs now) hv
  rw [Schedule.materializeShiftInstances, disjointIn_createMany_iff hown h]
  constructor
  · intro hfits a ha hscope w hw
    obtain ⟨r, hr, hid, hrscope, rfl⟩ := hplan a ha w hw.1
    have hfree : sch.instances.find (r.assignmentId, r.startTime) = none := by
      rw [hid]
      exact hw.2
    obtain ⟨hstored, hothers⟩ := hfits r hr (hrscope.trans hscope) hfree
    refine ⟨hstored, fun b hb hbscope hne v hv ↦ ?_⟩
    obtain ⟨s, hs, hids, hsscope, rfl⟩ := hplan b hb v hv.1
    refine hothers s hs (hsscope.trans hbscope) (by rwa [hid, hids]) ?_
    rw [hids]
    exact hv.2
  · intro hfits r hr hscope hfree
    obtain ⟨a, ha, hid, hrscope, hw⟩ := hbuild r hr
    rw [hid] at hfree ⊢
    obtain ⟨hstored, hothers⟩ := hfits a ha (hrscope.symm.trans hscope) r.window ⟨hw, hfree⟩
    refine ⟨hstored, fun s hs hsscope hne hsfree ↦ ?_⟩
    obtain ⟨b, hb, hidb, hbscope, hv⟩ := hbuild s hs
    rw [hidb] at hne hsfree
    exact hothers b hb (hbscope.symm.trans hsscope) hne s.window ⟨hv, hsfree⟩

theorem reservedWindows_append (a : ShiftAssignment) (inUse : Uuid → Bool) :
    Schedule.reservedWindows ⟨sch.assignments ++ [a], sch.instances⟩ a inUse
      = sch.reservedWindows a inUse := by
  rw [Schedule.reservedWindows, Schedule.reservedWindows]
  simp only [Schedule.isOldInstance_append]

/-- The schedule after a new assignment is reconciled. -/
theorem reconcile_append {a : ShiftAssignment} (hnew : ∀ b ∈ sch.assignments, b.id ≠ a.id)
    (inUse : Uuid → Bool) (now : Time) :
    Schedule.reconcileShiftInstances ⟨sch.assignments ++ [a], sch.instances⟩ timezoneOf inUse now
        a.id =
      { assignments := (sch.assignments ++ [a]).map (Schedule.endOld a)
        instances := createMany
          (sch.instances.delete fun i ↦ sch.isOldInstance a i && !inUse i.id)
          (a.buildInstanceRows (floorToDay now - msPerDay) (defaultLookaheadDays + 1)
            (sch.reservedWindows a inUse) (timezoneOf a.scope.siteId)) } := by
  have hfind : Schedule.assignment ⟨sch.assignments ++ [a], sch.instances⟩ a.id = some a := by
    have hold : sch.assignments.find? (·.id == a.id) = none :=
      List.find?_eq_none.mpr fun b hb ↦ by rw [beq_iff_eq]; exact hnew b hb
    rw [Schedule.assignment, List.find?_append, hold, Option.none_or]
    exact List.find?_cons_of_pos (beq_self_eq_true a.id)
  rw [Schedule.reconcileShiftInstances, hfind]
  simp only [Schedule.isOldInstance_append, reservedWindows_append]

/-- A reconcile keeps a scope disjoint iff it fits. -/
theorem disjointIn_reconcile_iff {a : ShiftAssignment} (h : DisjointIn S sch.instances)
    (hnew : ∀ b ∈ sch.assignments, b.id ≠ a.id)
    (hunused : ∀ i ∈ sch.instances.rows, i.assignmentId ≠ a.id) (hpattern : a.pattern.Disjoint)
    (inUse : Uuid → Bool) (now : Time) :
    DisjointIn S (Schedule.reconcileShiftInstances ⟨sch.assignments ++ [a], sch.instances⟩
        timezoneOf inUse now a.id).instances ↔
      sch.ReconcileFits S a now inUse := by
  rw [reconcile_append hnew]
  dsimp only
  have hkept : ∀ i, i ∈ (sch.instances.delete fun i ↦ sch.isOldInstance a i && !inUse i.id).rows ↔
      i ∈ sch.instances.rows ∧ (sch.isOldInstance a i && !inUse i.id) = false := fun i ↦ by
    rw [Table.delete, List.mem_filter, Bool.not_eq_true']
  have hown : OwnRowsApart (a.buildInstanceRows (floorToDay now - msPerDay)
      (defaultLookaheadDays + 1) (sch.reservedWindows a inUse) (timezoneOf a.scope.siteId)) := by
    have hplan : ∀ r ∈ a.buildInstanceRows (floorToDay now - msPerDay) (defaultLookaheadDays + 1)
        (sch.reservedWindows a inUse) (timezoneOf a.scope.siteId),
        a.Plans (floorToDay now - msPerDay) (defaultLookaheadDays + 1) r.window := fun r hr ↦
      (ShiftAssignment.exists_window_buildInstanceRows_iff.mp ⟨r, hr, rfl⟩).1
    refine ⟨fun r hr ↦ (hplan r hr).nonempty, fun r hr s hs _ ↦ ?_, fun r hr s hs _ ↦ ?_⟩
    · rw [(ShiftAssignment.assignment_of_mem_build hr).2,
        (ShiftAssignment.assignment_of_mem_build hs).2]
    · exact (hplan r hr).eq_or_apart hpattern (dvd_fromMs now) (hplan s hs)
  have hdisjoint : DisjointIn S
      (sch.instances.delete fun i ↦ sch.isOldInstance a i && !inUse i.id) := fun i hi j hj ↦
    h i ((hkept i).mp hi).1 j ((hkept j).mp hj).1
  rw [disjointIn_createMany_iff hown hdisjoint]
  constructor
  · intro hfits hscope w hw hfree i hi hiscope hold
    obtain ⟨r, hr, rfl⟩ := ShiftAssignment.exists_window_buildInstanceRows_iff.mpr ⟨hw, hfree⟩
    obtain ⟨hid, hrscope⟩ := ShiftAssignment.assignment_of_mem_build hr
    have hkey : (sch.instances.delete fun i ↦ sch.isOldInstance a i && !inUse i.id).find
        (r.assignmentId, r.startTime) = none := by
      refine Table.find_eq_none_iff.mpr fun i hi hkey ↦ hunused i ((hkept i).mp hi).1 ?_
      exact (congrArg Prod.fst hkey).trans hid
    refine (hfits r hr (hrscope.trans hscope) hkey).1 i ((hkept i).mpr ⟨hi, ?_⟩) hiscope
    rw [hold, Bool.false_and]
  · intro hfits r hr hscope _
    obtain ⟨hid, hrscope⟩ := ShiftAssignment.assignment_of_mem_build hr
    obtain ⟨hw, hfree⟩ := ShiftAssignment.exists_window_buildInstanceRows_iff.mp ⟨r, hr, rfl⟩
    refine ⟨fun i hi hiscope ↦ ?_, fun s hs _ hne ↦ absurd ?_ hne⟩
    · obtain ⟨himem, hstays⟩ := (hkept i).mp hi
      cases hold : sch.isOldInstance a i with
      | false => exact hfits (hrscope.symm.trans hscope) _ hw hfree i himem hiscope hold
      | true =>
        -- an old instance that stays is reserved
        rw [hold, Bool.true_and, Bool.not_eq_false'] at hstays
        refine apart_of_overlapsAny hfree
          (List.mem_map.mpr ⟨i, List.mem_filter.mpr ⟨himem, ?_⟩, rfl⟩)
        rw [hold, hstays, Bool.true_and]
    · rw [hid, (ShiftAssignment.assignment_of_mem_build hs).1]

/-! ## Runs -/

theorem Schedule.WellFormed.step {step : ScheduleStep} (h : sch.WellFormed)
    (hpattern : step.HasDisjointPattern) (hs : scheduleStep timezoneOf step sch = some sch') :
    sch'.WellFormed := by
  cases step with
  | tick now lookaheadDays =>
    cases hs
    exact ⟨h.ids, h.patterns⟩
  | create a now inUse =>
    rw [scheduleStep] at hs
    split at hs
    · rename_i hnew
      cases hs
      rw [reconcile_append hnew.1]
      have hend : ∀ b,
          (Schedule.endOld a b).id = b.id ∧ (Schedule.endOld a b).pattern = b.pattern := by
        intro b
        rw [Schedule.endOld]
        split <;> exact ⟨rfl, rfl⟩
      constructor
      · have hids : ((sch.assignments ++ [a]).map (Schedule.endOld a)).map ShiftAssignment.id
            = sch.assignments.map ShiftAssignment.id ++ [a.id] := by
          rw [List.map_map, List.map_append]
          exact congrArg₂ _ (List.map_congr_left fun b _ ↦ (hend b).1)
            (congrArg (fun id ↦ [id]) (hend a).1)
        dsimp only
        rw [hids]
        refine List.nodup_append.mpr ⟨h.ids, List.nodup_singleton _, fun id hid id' hid' heq ↦ ?_⟩
        obtain ⟨b, hb, rfl⟩ := List.mem_map.mp hid
        exact hnew.1 b hb (heq.trans (List.mem_singleton.mp hid'))
      · intro b' hb'
        obtain ⟨b, hb, rfl⟩ := List.mem_map.mp hb'
        rw [(hend b).2]
        rcases List.mem_append.mp hb with hb | hb
        · exact h.patterns b hb
        · rw [List.mem_singleton.mp hb]
          exact hpattern
    · cases hs

/-- **A step keeps a scope disjoint iff it fits.** -/
theorem disjointIn_step_iff {step : ScheduleStep} (hwf : sch.WellFormed)
    (h : DisjointIn S sch.instances) (hpattern : step.HasDisjointPattern)
    (hs : scheduleStep timezoneOf step sch = some sch') :
    DisjointIn S sch'.instances ↔ StepFits S sch step := by
  cases step with
  | tick now lookaheadDays =>
    cases hs
    exact disjointIn_materialize_iff hwf h now lookaheadDays
  | create a now inUse =>
    rw [scheduleStep] at hs
    split at hs
    · rename_i hnew
      cases hs
      exact disjointIn_reconcile_iff h hnew.1 hnew.2 hpattern inUse now
    · cases hs

/-- **The instances of a scope stay disjoint** in every run of new assignments and ticks whose
steps fit; and where one of them does not fit, two instances overlap after it. -/
theorem instances_disjoint {sch₀ : Schedule} {steps : List ScheduleStep} (hwf : sch₀.WellFormed)
    (h₀ : DisjointIn S sch₀.instances)
    (hrun : Run (scheduleStep timezoneOf)
      (fun sch step ↦ step.HasDisjointPattern ∧ StepFits S sch step) sch₀ steps sch) :
    DisjointIn S sch.instances ∧ ∀ step sch', step.HasDisjointPattern →
      scheduleStep timezoneOf step sch = some sch' →
        (DisjointIn S sch'.instances ↔ StepFits S sch step) := by
  have hinv : sch.WellFormed ∧ DisjointIn S sch.instances := by
    induction hrun with
    | nil => exact ⟨hwf, h₀⟩
    | snoc _ hok hs ih =>
      exact ⟨ih.1.step hok.1 hs, (disjointIn_step_iff ih.1 ih.2 hok.1 hs).mpr hok.2⟩
  exact ⟨hinv.2, fun step sch' hpattern hs ↦ disjointIn_step_iff hinv.1 hinv.2 hpattern hs⟩

end

/-! ## Samples -/

/-- One shift of eight hours a day. -/
def dailyPattern (startHours : ℤ) : ShiftPattern where
  totalDaysInRotation := 1
  useEndDateForBusinessDate := false
  shifts := [⟨1, 1, 1, 0, startHours, 0, 8 * msPerHour, "Day", by decide⟩]

/-- An assignment of a daily shift to the site. -/
def dailyAssignment (id : Uuid) (rotationStartDate : Time) (startHours : ℤ) : ShiftAssignment where
  id := id
  scope := ⟨1, none⟩
  rotationStartDate := rotationStartDate
  rotationEndDate := none
  rotationStartDefinition := none
  pattern := dailyPattern startHours

private theorem apart_of_ne {n m time t : ℤ} (hne : n ≠ m)
    (h : n * 86400000 + 0 * 86400000 + time ≤ t ∧
      t < n * 86400000 + 0 * 86400000 + time + 8 * 3600000) :
    ¬(m * 86400000 + 0 * 86400000 + time ≤ t ∧
      t < m * 86400000 + 0 * 86400000 + time + 8 * 3600000) := by
  omega

theorem dailyPattern_disjoint (startHours : ℤ) : (dailyPattern startHours).Disjoint := by
  intro d hd e he n m _ _ hne t ht ht'
  obtain rfl := List.mem_singleton.mp hd
  obtain rfl := List.mem_singleton.mp he
  exact apart_of_ne (fun heq ↦ hne (by rw [heq])) ht ht'

theorem disjointIn_empty (S : ShiftScope) : DisjointIn S (Table.empty shiftSchema) :=
  fun _ hi ↦ absurd hi List.not_mem_nil

/-- The first assignment of a site. -/
theorem instances_disjoint_first : ∃ sch,
    scheduleStep (fun _ ↦ .utc)
      (.create (dailyAssignment 2 0 8) (5 * msPerDay) fun _ ↦ false) ⟨[], .empty _⟩ = some sch ∧
    sch.instances.rows.length = 9 ∧ DisjointIn ⟨1, none⟩ sch.instances := by
  have hstep : (scheduleStep (fun _ ↦ .utc)
      (.create (dailyAssignment 2 0 8) (5 * msPerDay) fun _ ↦ false) ⟨[], .empty _⟩).any
        (fun sch ↦ sch.instances.rows.length == 9) = true := by
    decide +kernel
  obtain ⟨sch, hs, hlength⟩ := (Option.any_eq_true _ _).mp hstep
  have hwf : Schedule.WellFormed ⟨[], .empty _⟩ :=
    ⟨List.nodup_nil, fun _ h ↦ absurd h List.not_mem_nil⟩
  have hrun : Run (scheduleStep fun _ ↦ .utc)
      (fun sch step ↦ step.HasDisjointPattern ∧ StepFits ⟨1, none⟩ sch step) ⟨[], .empty _⟩
      [.create (dailyAssignment 2 0 8) (5 * msPerDay) fun _ ↦ false] sch :=
    Run.snoc .nil ⟨dailyPattern_disjoint 8, fun _ _ _ _ _ hi ↦ absurd hi List.not_mem_nil⟩ hs
  exact ⟨sch, hs, eq_of_beq hlength,
    (instances_disjoint hwf (disjointIn_empty _) hrun).1⟩

/-- A shift from 8:00 is replaced by one from 6:00, from the tenth day on. The next tick inserts the
shift from 8:00 for that day. -/
theorem not_instances_disjoint : (dailyPattern 8).Disjoint ∧ (dailyPattern 6).Disjoint ∧
    DisjointIn ⟨1, none⟩ (Table.empty shiftSchema) ∧
    ∃ sch, Run (scheduleStep fun _ ↦ .utc) (fun _ _ ↦ True)
        ⟨[dailyAssignment 2 0 8], .empty _⟩
        [.create (dailyAssignment 3 (10 * msPerDay) 6) (5 * msPerDay) fun _ ↦ false,
          .tick (6 * msPerDay) defaultLookaheadDays] sch ∧
      ¬DisjointIn ⟨1, none⟩ sch.instances := by
  refine ⟨dailyPattern_disjoint 8, dailyPattern_disjoint 6, disjointIn_empty _, ?_⟩
  have hexec : (execute (scheduleStep fun _ ↦ .utc) (fun _ _ ↦ True)
      [.create (dailyAssignment 3 (10 * msPerDay) 6) (5 * msPerDay) fun _ ↦ false,
        .tick (6 * msPerDay) defaultLookaheadDays] ⟨[dailyAssignment 2 0 8], .empty _⟩).any
      (fun sch ↦ decide (∃ i ∈ sch.instances.rows, ∃ j ∈ sch.instances.rows,
        i.scope = ⟨1, none⟩ ∧ j.scope = ⟨1, none⟩ ∧ i ≠ j ∧
          i.window.Contains (10 * msPerDay + 9 * msPerHour) ∧
          j.window.Contains (10 * msPerDay + 9 * msPerHour))) = true := by
    decide +kernel
  obtain ⟨sch, hs, hoverlap⟩ := (Option.any_eq_true _ _).mp hexec
  obtain ⟨i, hi, j, hj, hiscope, hjscope, hne, hit, hjt⟩ := of_decide_eq_true hoverlap
  exact ⟨sch, run_of_execute hs, fun h ↦ h i hi j hj hiscope hjscope hne _ hit hjt⟩

end RwServer
