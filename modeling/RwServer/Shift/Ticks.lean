import Mathlib
import RwServer.Foundation.Spans
import RwServer.Shift.BusinessDates

/-!
# Ticks

A tick inserts the instances of the active assignments for the days from the one before its own up
to its lookahead. The rows of a day are a matter of the assignment, so that a row is inserted by the
first tick that has its day, and a later tick finds it there. Ticks whose days overlap then insert
what a single one would for all of these days (`inserted_runTicks`): an assignment that has ended
when a later tick begins has no row for a day that this tick is the first to have.
-/

namespace RwServer

open Windows Relational Spans

/-! ## What a tick finds -/

/-- `@@unique([assignmentId, startTime])`. -/
def InstanceRow.key (r : InstanceRow) : Uuid × Time := (r.assignmentId, r.startTime)

section

variable {t : Table shiftSchema} {data : List InstanceRow} {k : Uuid × Time}

/-- **The row of a key** is the one that is there, or the first of the data. -/
theorem map_find_createMany :
    ((createMany t data).find k).map ShiftRow.toInstanceRow
      = ((t.find k).map ShiftRow.toInstanceRow).or (data.find? fun r ↦ decide (r.key = k)) := by
  induction data generalizing t with
  | nil =>
    rw [List.find?_nil, Option.or_none]
    rfl
  | cons r data ih =>
    refine (ih (t := t.insertMissing ⟨r, freshShiftId t⟩)).trans ?_
    rw [List.find?_cons]
    by_cases hk : r.key = k
    · have hself := t.find_insertMissing_self (noClash_freshShiftId t r)
      have hkey : shiftSchema.key ⟨r, freshShiftId t⟩ = k := hk
      rw [hkey] at hself
      rw [hself, decide_eq_true hk]
      cases t.find k <;> rfl
    · rw [t.find_insertMissing_of_ne (r := ⟨r, freshShiftId t⟩) hk, decide_eq_false hk]

end

/-- The assignment is one that a tick is about. -/
def ShiftAssignment.isActive (now : Time) (a : ShiftAssignment) : Bool :=
  a.rotationEndDate.all fun date ↦ decide (floorToDay now ≤ date)

theorem ShiftAssignment.isActive_of_le {now now' : Time} {a : ShiftAssignment}
    (hle : now ≤ now') (h : a.isActive now' = true) : a.isActive now = true := by
  rw [isActive, Option.all_eq_true] at h ⊢
  have hfloor : floorToDay now ≤ floorToDay now' :=
    Int.mul_le_mul_of_nonneg_right (Int.ediv_le_ediv (by decide) hle) (by decide)
  exact fun date hdate ↦ decide_eq_true (hfloor.trans (of_decide_eq_true (h date hdate)))

/-- An assignment has no row for a day after it has become inactive. -/
theorem ShiftAssignment.rowsOn_of_not_isActive {now : Time} {a : ShiftAssignment}
    {reservedWindows : List (Window Time)} {tz : Timezone} {day : ℤ}
    (h : a.isActive now = false) (hday : now / msPerDay ≤ day) :
    a.rowsOn reservedWindows tz (day * msPerDay) = [] := by
  obtain ⟨date, hdate, hlt⟩ : ∃ date, a.rotationEndDate = some date ∧ date < floorToDay now := by
    rw [isActive] at h
    cases hend : a.rotationEndDate with
    | none => rw [hend] at h; cases h
    | some date =>
      rw [hend, Option.all_some, decide_eq_false_iff_not, not_le] at h
      exact ⟨date, rfl, h⟩
  have hended : floorToDay date < day * msPerDay :=
    (Int.ediv_mul_le _ (by decide)).trans_lt
      (hlt.trans_le (Int.mul_le_mul_of_nonneg_right hday (by decide)))
  have hdefs : a.defsOn (day * msPerDay) = [] := by
    rw [defsOn, hdate, Option.any_some, decide_eq_true hended, if_pos rfl, ite_self]
  rw [rowsOn_eq, openDefsOn, hdefs, List.filter_nil, List.map_nil]

namespace Schedule

variable (timezoneOf : Uuid → Timezone) (sch : Schedule) (now : Time) (length : ℕ)
  (k : Uuid × Time) (day : ℤ)

/-- The first row of a day under a key. -/
def rowAt : Option InstanceRow :=
  (sch.assignment k.1).bind fun a ↦
    (a.rowsOn [] (timezoneOf a.scope.siteId) (day * msPerDay)).find? fun r ↦ decide (r.key = k)

/-- The first row under a key of a tick for some days. -/
def found : Option InstanceRow :=
  if (sch.assignment k.1).any (ShiftAssignment.isActive now) then
    (span (now / msPerDay - 1) length).findSome? (sch.rowAt timezoneOf k)
  else none

variable {timezoneOf sch now length k day} {a b : ShiftAssignment}

/-- The id of an assignment identifies it. -/
theorem assignment_eq_some_iff (hids : (sch.assignments.map ShiftAssignment.id).Nodup) {id : Uuid} :
    sch.assignment id = some a ↔ a ∈ sch.assignments ∧ a.id = id := by
  constructor
  · intro h
    exact ⟨List.mem_of_find?_eq_some h, eq_of_beq (List.find?_some
      (p := fun a : ShiftAssignment ↦ a.id == id) h)⟩
  · rintro ⟨hmem, rfl⟩
    obtain ⟨b, hb⟩ : ∃ b, sch.assignment a.id = some b :=
      Option.isSome_iff_exists.mp (List.find?_isSome.mpr ⟨a, hmem, beq_self_eq_true a.id⟩)
    have hid : b.id = a.id := eq_of_beq (List.find?_some
      (p := fun b : ShiftAssignment ↦ b.id == a.id) hb)
    rw [hb, List.inj_on_of_nodup_map hids (List.mem_of_find?_eq_some hb) hmem hid]

theorem targetDays_eq (now : Time) (lookaheadDays : ℕ) :
    ShiftAssignment.targetDays (floorToDay now - msPerDay) (lookaheadDays + 1)
      = (span (now / msPerDay - 1) (lookaheadDays + 2)).map (· * msPerDay) := by
  rw [ShiftAssignment.targetDays, span, List.map_map]
  refine List.map_congr_left fun i _ ↦ ?_
  rw [Function.comp_apply, floorToDay]
  ring

/-- What an assignment finds for a key: nothing, unless it is its own. -/
theorem find_buildInstanceRows_of_ne {fromDayMs : Time} {lookaheadDays : ℕ} {tz : Timezone}
    (h : a.id ≠ k.1) : (a.buildInstanceRows fromDayMs lookaheadDays [] tz).find?
      (fun r ↦ decide (r.key = k)) = none := by
  refine List.find?_eq_none.mpr fun r hr ↦ ?_
  rw [decide_eq_true_eq]
  rintro rfl
  exact h (ShiftAssignment.assignment_of_mem_build hr).1.symm

/-- **What a tick finds for a key** is the first row under it of the assignment it is about. -/
theorem find_tickRows (hids : (sch.assignments.map ShiftAssignment.id).Nodup) (lookaheadDays : ℕ) :
    ((sch.active now).flatMap fun a ↦ a.buildInstanceRows (floorToDay now - msPerDay)
      (lookaheadDays + 1) [] (timezoneOf a.scope.siteId)).find? (fun r ↦ decide (r.key = k))
      = sch.found timezoneOf now (lookaheadDays + 2) k := by
  rw [List.find?_flatMap]
  cases hfind : sch.assignment k.1 with
  | none =>
    rw [found, hfind, Option.any_none, if_neg Bool.false_ne_true, List.findSome?_eq_none_iff]
    intro b hb
    refine find_buildInstanceRows_of_ne fun hid ↦ ?_
    rw [(assignment_eq_some_iff hids).mpr ⟨(List.mem_filter.mp hb).1, hid⟩] at hfind
    cases hfind
  | some a =>
    obtain ⟨hmem, hid⟩ := (assignment_eq_some_iff hids).mp hfind
    have hother : ∀ b ∈ sch.assignments, b ≠ a → b.id ≠ k.1 := fun b hb hne hbid ↦
      hne (List.inj_on_of_nodup_map hids hb hmem (hbid.trans hid.symm))
    have hdays : (a.buildInstanceRows (floorToDay now - msPerDay) (lookaheadDays + 1) []
        (timezoneOf a.scope.siteId)).find? (fun r ↦ decide (r.key = k))
        = (span (now / msPerDay - 1) (lookaheadDays + 2)).findSome? (sch.rowAt timezoneOf k) := by
      rw [ShiftAssignment.buildInstanceRows, List.find?_flatMap, targetDays_eq,
        List.findSome?_map]
      refine congrArg (List.findSome? · _) (funext fun day ↦ ?_)
      rw [rowAt, hfind]
      rfl
    rw [found, hfind, Option.any_some, ← hdays]
    cases hactive : a.isActive now with
    | false =>
      rw [if_neg Bool.false_ne_true, List.findSome?_eq_none_iff]
      intro b hb
      obtain ⟨hbmem, hbactive⟩ := List.mem_filter.mp hb
      refine find_buildInstanceRows_of_ne (hother b hbmem ?_)
      rintro rfl
      exact absurd (hbactive.symm.trans hactive) (by decide)
    | true =>
      rw [if_pos rfl]
      refine findSome?_eq_of_forall_ne (List.mem_filter.mpr ⟨hmem, hactive⟩) fun b hb hne ↦ ?_
      exact find_buildInstanceRows_of_ne (hother b (List.mem_filter.mp hb).1 hne)

end Schedule

/-! ## Ticks one after the other -/

/-- A call of `materializeShiftInstances`. -/
structure Tick where
  now : Time
  lookaheadDays : ℕ
deriving DecidableEq

namespace Tick

def today (t : Tick) : ℤ := t.now / msPerDay

def firstDay (t : Tick) : ℤ := t.today - 1

def lastDay (t : Tick) : ℤ := t.today + t.lookaheadDays

/-- The tick at the time of the first for the days of both. -/
def extend (t t' : Tick) : Tick := ⟨t.now, (max t.lastDay t'.lastDay - t.today).toNat⟩

/-- One tick for the days of all. -/
def union (t : Tick) (ts : List Tick) : Tick := ts.foldl extend t

/-- No tick is before the one that precedes it, and its days begin among those that the ticks so far
have had. -/
def Overlap (covered : Tick) (now : Time) : List Tick → Prop
  | [] => True
  | t :: ts => now ≤ t.now ∧ t.firstDay ≤ covered.lastDay ∧ Overlap (covered.extend t) t.now ts

instance decidableOverlap (covered : Tick) (now : Time) :
    ∀ ts, Decidable (Overlap covered now ts)
  | [] => isTrue trivial
  | t :: ts =>
    have := decidableOverlap (covered.extend t) t.now ts
    inferInstanceAs (Decidable (_ ≤ _ ∧ _ ≤ _ ∧ Overlap (covered.extend t) t.now ts))

end Tick

namespace Schedule

variable (timezoneOf : Uuid → Timezone) (sch : Schedule)

def runTicks (ts : List Tick) : Schedule :=
  ts.foldl (fun sch t ↦ sch.materializeShiftInstances timezoneOf t.now t.lookaheadDays) sch

/-- The instances that have been inserted since. -/
def inserted (sch' : Schedule) : Set InstanceRow :=
  {r | ∃ x ∈ sch'.instances.rows, x ∉ sch.instances.rows ∧ x.toInstanceRow = r}

/-- Since, what a tick finds has been inserted. -/
structure Filled (t : Tick) (sch' : Schedule) : Prop where
  assignments : sch'.assignments = sch.assignments
  kept : ∀ x ∈ sch.instances.rows, x ∈ sch'.instances.rows
  find : ∀ k, (sch'.instances.find k).map ShiftRow.toInstanceRow
    = ((sch.instances.find k).map ShiftRow.toInstanceRow).or
        (sch.found timezoneOf t.now (t.lookaheadDays + 2) k)

variable {timezoneOf sch} {sch' sch'' : Schedule} {t t' : Tick} {k : Uuid × Time}

theorem found_congr (h : sch'.assignments = sch.assignments) {now : Time} {length : ℕ} :
    sch'.found timezoneOf now length k = sch.found timezoneOf now length k := by
  have hassignment : sch'.assignment = sch.assignment := by
    funext id
    rw [assignment, assignment, h]
  have hrow : sch'.rowAt timezoneOf k = sch.rowAt timezoneOf k := by
    funext day
    rw [rowAt, rowAt, hassignment]
  rw [found, found, hassignment, hrow]

/-- **One tick** inserts what it finds. -/
theorem filled_tick (hids : (sch.assignments.map ShiftAssignment.id).Nodup) :
    sch.Filled timezoneOf t (sch.materializeShiftInstances timezoneOf t.now t.lookaheadDays) where
  assignments := rfl
  kept _ hx := mem_createMany_of_mem hx
  find k := by
    rw [← find_tickRows hids]
    exact map_find_createMany

/-- An assignment that becomes inactive before a tick has no row for a day from it on. -/
theorem rowAt_of_not_isActive {now : Time} {day : ℤ}
    (h : (sch.assignment k.1).any (ShiftAssignment.isActive now) = false)
    (hday : now / msPerDay ≤ day) : sch.rowAt timezoneOf k day = none := by
  rw [rowAt]
  cases hfind : sch.assignment k.1 with
  | none => rfl
  | some a =>
    rw [hfind, Option.any_some] at h
    rw [Option.bind_some, ShiftAssignment.rowsOn_of_not_isActive h hday, List.find?_nil]

private theorem extend_days (covered : Tick) (t : Tick) (hle : covered.today ≤ t.today) :
    (covered.extend t).lookaheadDays + 2
      = max (covered.lookaheadDays + 2)
          ((t.today - covered.today).toNat + (t.lookaheadDays + 2)) := by
  simp only [Tick.extend, Tick.lastDay]
  omega

/-- **A tick adds to another** what one tick for the days of both finds. -/
theorem or_found (hle : t.now ≤ t'.now) (hdays : t'.firstDay ≤ t.lastDay) :
    (sch.found timezoneOf t.now (t.lookaheadDays + 2) k).or
        (sch.found timezoneOf t'.now (t'.lookaheadDays + 2) k)
      = sch.found timezoneOf (t.extend t').now ((t.extend t').lookaheadDays + 2) k := by
  have htoday : t.today ≤ t'.today := Int.ediv_le_ediv (by decide) hle
  have hshift : t.now / msPerDay - 1 + ((t'.today - t.today).toNat : ℤ)
      = t'.now / msPerDay - 1 := by
    rw [Int.toNat_of_nonneg (sub_nonneg.mpr htoday), Tick.today, Tick.today]
    ring
  rw [extend_days t t' htoday, show (t.extend t').now = t.now from rfl]
  cases hactive : (sch.assignment k.1).any (ShiftAssignment.isActive t.now) with
  | false =>
    -- an assignment does not become active again
    have hlater : (sch.assignment k.1).any (ShiftAssignment.isActive t'.now) = false := by
      cases hfind : sch.assignment k.1 with
      | none => rfl
      | some a =>
        rw [hfind, Option.any_some] at hactive
        rw [Option.any_some, Bool.eq_false_iff]
        intro h
        rw [ShiftAssignment.isActive_of_le hle h] at hactive
        cases hactive
    rw [found, found, found, hactive, hlater, if_neg Bool.false_ne_true, if_neg Bool.false_ne_true]
    rfl
  | true =>
    cases hlater : (sch.assignment k.1).any (ShiftAssignment.isActive t'.now) with
    | true =>
      rw [found, found, found, hactive, hlater, if_pos rfl, if_pos rfl, if_pos rfl, ← hshift]
      refine or_findSome?_span ?_
      simp only [Tick.firstDay, Tick.lastDay] at hdays
      omega
    | false =>
      rw [found, found, found, hactive, hlater, if_pos rfl, if_pos rfl, if_neg Bool.false_ne_true,
        Option.or_none]
      refine (findSome?_span_of_le (le_max_left _ _) fun x hx ↦ ?_).symm
      refine rowAt_of_not_isActive hlater ?_
      simp only [Tick.firstDay, Tick.lastDay, Tick.today] at hdays
      push_cast at hx
      have hle : ∀ a b c : ℤ, c - 1 ≤ a + b → a - 1 + (b + 2) ≤ x → c ≤ x := by
        intro a b c h h'
        omega
      exact hle _ _ _ hdays hx

/-- **A further tick** extends what the ticks so far have inserted. -/
theorem Filled.tick (h : sch.Filled timezoneOf t sch')
    (hids : (sch.assignments.map ShiftAssignment.id).Nodup) (hle : t.now ≤ t'.now)
    (hdays : t'.firstDay ≤ t.lastDay) :
    sch.Filled timezoneOf (t.extend t')
      (sch'.materializeShiftInstances timezoneOf t'.now t'.lookaheadDays) := by
  have htick : sch'.Filled timezoneOf t'
      (sch'.materializeShiftInstances timezoneOf t'.now t'.lookaheadDays) :=
    filled_tick (h.assignments ▸ hids)
  refine ⟨h.assignments, fun x hx ↦ htick.kept x (h.kept x hx), fun k ↦ ?_⟩
  rw [htick.find, h.find, found_congr h.assignments, Option.or_assoc, or_found hle hdays]

/-- **A run of ticks** inserts what one tick for all of their days finds. -/
theorem Filled.runTicks (h : sch.Filled timezoneOf t sch')
    (hids : (sch.assignments.map ShiftAssignment.id).Nodup) {now : Time} (hle : t.now ≤ now)
    {ts : List Tick} (hoverlap : Tick.Overlap t now ts) :
    sch.Filled timezoneOf (t.union ts) (sch'.runTicks timezoneOf ts) := by
  induction ts generalizing sch' t now with
  | nil => exact h
  | cons t' ts ih =>
    obtain ⟨hnow, hdays, hoverlap⟩ := hoverlap
    exact ih (h.tick hids (hle.trans hnow) hdays) (hle.trans hnow) hoverlap

/-- What one tick finds is inserted, and nothing else. -/
theorem Filled.inserted_eq (h : sch.Filled timezoneOf t sch') :
    sch.inserted sch' = {r | sch.instances.find r.key = none ∧
      sch.found timezoneOf t.now (t.lookaheadDays + 2) r.key = some r} := by
  ext r
  constructor
  · rintro ⟨x, hx, hnew, rfl⟩
    have hfind := h.find (shiftSchema.key x)
    rw [Table.find_of_mem hx] at hfind
    cases hold : sch.instances.find (shiftSchema.key x) with
    | some y =>
      obtain ⟨hy, hkey⟩ := Table.find_eq_some_iff.mp hold
      exact absurd (Table.eq_of_key_eq _ (h.kept y hy) hx hkey ▸ hy) hnew
    | none =>
      rw [hold] at hfind
      exact ⟨hold, hfind.symm⟩
  · rintro ⟨hold, hfound⟩
    have hfind := h.find r.key
    rw [hold, hfound] at hfind
    obtain ⟨x, hx, rfl⟩ := Option.map_eq_some_iff.mp hfind
    refine ⟨x, (Table.find_eq_some_iff.mp hx).1, fun hmem ↦ ?_, rfl⟩
    have hsome : sch.instances.find (shiftSchema.key x) = some x := Table.find_of_mem hmem
    exact absurd (hold.symm.trans hsome) (Option.some_ne_none x).symm

/-- **Ticks whose days overlap** insert what one tick for all of these days inserts. -/
theorem inserted_runTicks (hids : (sch.assignments.map ShiftAssignment.id).Nodup) (t : Tick)
    {ts : List Tick} (hoverlap : Tick.Overlap t t.now ts) :
    sch.inserted (sch.runTicks timezoneOf (t :: ts))
      = sch.inserted (sch.runTicks timezoneOf [t.union ts]) := by
  have hrun : sch.Filled timezoneOf (t.union ts) (sch.runTicks timezoneOf (t :: ts)) :=
    (filled_tick hids).runTicks hids le_rfl hoverlap
  have hone : sch.Filled timezoneOf (t.union ts) (sch.runTicks timezoneOf [t.union ts]) :=
    filled_tick hids
  rw [hrun.inserted_eq, hone.inserted_eq]

end Schedule

/-! ## Days of the rotation -/

theorem ShiftPattern.rotationDay_mem {p : ShiftPattern} (h : 0 < p.totalDaysInRotation) (day : ℤ) :
    1 ≤ p.rotationDay day ∧ p.rotationDay day ≤ p.totalDaysInRotation := by
  have hnonneg := Int.emod_nonneg day h.ne'
  have hlt := Int.emod_lt_of_pos day h
  rw [rotationDay]
  omega

theorem ShiftPattern.rotationDay_add (p : ShiftPattern) (day : ℤ) :
    p.rotationDay (day + p.totalDaysInRotation) = p.rotationDay day := by
  rw [rotationDay, rotationDay, Int.add_emod_right]

/-- A row some time later, with another business date. -/
def InstanceRow.later (r : InstanceRow) (ms : ℤ) (businessDate : Time) : InstanceRow :=
  { r with businessDate, startTime := r.startTime + ms, endTime := r.endTime + ms }

namespace ShiftAssignment

variable {a : ShiftAssignment} {day : ℤ} {tz : Timezone}

/-- The rows of each day are those of a run for that day alone. -/
theorem buildInstanceRows_eq_flatMap (a : ShiftAssignment) (fromDayMs : Time) (lookaheadDays : ℕ)
    (reservedWindows : List (Window Time)) (tz : Timezone) :
    a.buildInstanceRows fromDayMs lookaheadDays reservedWindows tz
      = (targetDays fromDayMs lookaheadDays).flatMap fun targetMs ↦
          a.buildInstanceRows targetMs 0 reservedWindows tz := by
  have hday : ∀ targetMs, targetDays targetMs 0 = [targetMs] := by
    intro targetMs
    rw [targetDays, List.range_one, List.map_singleton, Nat.cast_zero, zero_mul, add_zero]
  simp only [buildInstanceRows, hday, List.flatMap_singleton]

theorem daysSinceStart_eq (a : ShiftAssignment) (day : ℤ) :
    (day * msPerDay - floorToDay a.rotationStartDate) / msPerDay
      = day - a.rotationStartDate / msPerDay := by
  rw [floorToDay, ← Int.sub_mul]
  exact Int.mul_ediv_cancel _ (by decide)

variable (a day) in
/-- The rotation does not end between a day and the same day of the next round. -/
def KeepsOn : Prop :=
  ∀ date ∈ a.rotationEndDate, day * msPerDay ≤ floorToDay date →
    (day + a.pattern.totalDaysInRotation) * msPerDay ≤ floorToDay date

instance decidableKeepsOn : Decidable (a.KeepsOn day) :=
  inferInstanceAs (Decidable (∀ date ∈ a.rotationEndDate, _ ≤ _ → _ ≤ _))

/-- **A rotation repeats** its shifts after its first day. -/
theorem defsOn_add_rotation (htotal : 0 < a.pattern.totalDaysInRotation)
    (hfirst : a.rotationStartDate / msPerDay < day) (hend : a.KeepsOn day) :
    a.defsOn ((day + a.pattern.totalDaysInRotation) * msPerDay) = a.defsOn (day * msPerDay) := by
  have hlater : day < day + a.pattern.totalDaysInRotation := lt_add_of_pos_right _ htotal
  have hstarted : ∀ n : ℤ, a.rotationStartDate / msPerDay < n →
      ¬n * msPerDay < floorToDay a.rotationStartDate := by
    intro n hn hlt
    exact absurd (Int.lt_of_mul_lt_mul_right hlt (by decide)) (not_lt.mpr hn.le)
  have hended : (a.rotationEndDate.any fun date ↦
      decide (floorToDay date < (day + a.pattern.totalDaysInRotation) * msPerDay))
      = a.rotationEndDate.any fun date ↦ decide (floorToDay date < day * msPerDay) := by
    cases hdate : a.rotationEndDate with
    | none => rfl
    | some date =>
      rw [Option.any_some, Option.any_some, decide_eq_decide, ← not_le, ← not_le, not_iff_not]
      refine ⟨fun h ↦ ?_, hend date hdate⟩
      exact (Int.mul_le_mul_of_nonneg_right hlater.le (by decide)).trans h
  have hdays : a.defsForDay (day + a.pattern.totalDaysInRotation - a.rotationStartDate / msPerDay)
      = a.defsForDay (day - a.rotationStartDate / msPerDay) := by
    have hrotation : day + a.pattern.totalDaysInRotation - a.rotationStartDate / msPerDay
        + a.startDay - 1 = day - a.rotationStartDate / msPerDay + a.startDay - 1
          + a.pattern.totalDaysInRotation := by ring
    -- neither of the days is the first
    have hne : day - a.rotationStartDate / msPerDay ≠ 0 := (sub_pos.mpr hfirst).ne'
    have hne' : day + a.pattern.totalDaysInRotation - a.rotationStartDate / msPerDay ≠ 0 :=
      (sub_pos.mpr (hfirst.trans hlater)).ne'
    rw [defsForDay, defsForDay, hrotation, ShiftPattern.rotationDay_add]
    simp only [if_neg hne, if_neg hne']
  rw [defsOn, defsOn, if_neg (hstarted _ hfirst), if_neg (hstarted _ (hfirst.trans hlater)), hended,
    daysSinceStart_eq, daysSinceStart_eq, hdays]

theorem openDefsOn_nil (a : ShiftAssignment) (targetMs : Time) :
    a.openDefsOn [] targetMs = a.defsOn targetMs :=
  List.filter_eq_self.mpr fun _ _ ↦ rfl

theorem stop_computeShiftUtcTimes_add (targetMs ms : ℤ) (d : ShiftDefinition) :
    (computeShiftUtcTimes (targetMs + ms) d).stop
      = (computeShiftUtcTimes targetMs d).stop + ms := by
  simp only [computeShiftUtcTimes]
  ring

theorem start_computeShiftUtcTimes_add (targetMs ms : ℤ) (d : ShiftDefinition) :
    (computeShiftUtcTimes (targetMs + ms) d).start
      = (computeShiftUtcTimes targetMs d).start + ms := by
  simp only [computeShiftUtcTimes]
  ring

/-- The same shifts some days later are dated by an instant as many days later. -/
theorem datedAt_add {targetMs ms : ℤ} (hdefs : a.defsOn (targetMs + ms) = a.defsOn targetMs)
    (hne : a.defsOn targetMs ≠ []) :
    a.datedAt [] (targetMs + ms) = a.datedAt [] targetMs + ms := by
  cases huse : a.pattern.useEndDateForBusinessDate with
  | false => rw [datedAt, datedAt, huse, if_neg Bool.false_ne_true, if_neg Bool.false_ne_true]
  | true =>
    have hopen : a.openDefsOn [] (targetMs + ms) = a.openDefsOn [] targetMs := by
      rw [openDefsOn_nil, openDefsOn_nil, hdefs]
    have hne : a.openDefsOn [] targetMs ≠ [] := by rwa [openDefsOn_nil]
    have hne' : a.openDefsOn [] (targetMs + ms) ≠ [] := by rwa [hopen]
    obtain ⟨d, hd, hstop, hmax⟩ := isGreatest_datedAt huse hne
    obtain ⟨e, he, hstop', hmax'⟩ := isGreatest_datedAt huse hne'
    rw [hopen] at he
    apply le_antisymm
    · rw [← hstop', stop_computeShiftUtcTimes_add]
      exact Int.add_le_add_right (hmax e he) ms
    · rw [← hstop, ← stop_computeShiftUtcTimes_add]
      exact hmax' d (hopen ▸ hd)

/-- **The rows of the next round** are those of a day, with the date of the instant that dates
them. -/
theorem rowsOn_add_rotation (tz : Timezone) (htotal : 0 < a.pattern.totalDaysInRotation)
    (hfirst : a.rotationStartDate / msPerDay < day) (hend : a.KeepsOn day) :
    a.rowsOn [] tz ((day + a.pattern.totalDaysInRotation) * msPerDay)
      = (a.rowsOn [] tz (day * msPerDay)).map fun r ↦
          r.later (a.pattern.totalDaysInRotation * msPerDay)
            (tz.localDate (a.datedAt [] (day * msPerDay)
              + a.pattern.totalDaysInRotation * msPerDay) * msPerDay) := by
  have hdefs := defsOn_add_rotation htotal hfirst hend
  rw [Int.add_mul] at hdefs ⊢
  rw [rowsOn_eq, rowsOn_eq, openDefsOn_nil, openDefsOn_nil, hdefs, List.map_map]
  refine List.map_congr_left fun d hd ↦ ?_
  rw [datedAt_add hdefs (List.ne_nil_of_mem hd), Function.comp_apply, rowOf, rowOf,
    start_computeShiftUtcTimes_add, stop_computeShiftUtcTimes_add, InstanceRow.later]

/-- A zone that has the same offset again some days later is on the date as many days later. -/
theorem localDate_add {t : Time} {days : ℤ}
    (h : tz.offset (t + days * msPerDay) = tz.offset t) :
    tz.localDate (t + days * msPerDay) = tz.localDate t + days := by
  have hseconds : ∀ t : ℤ, (t + days * 86400000) / 1000 = t / 1000 + days * 86400 := by
    intro t
    omega
  have hwall : tz.wallClock ((t + days * msPerDay) / 1000)
      = tz.wallClock (t / 1000) + days * 86400 := by
    rw [Timezone.offset, Timezone.offset] at h
    have hsecond : (t + days * msPerDay) / 1000 = t / 1000 + days * 86400 := hseconds t
    rw [hsecond] at h ⊢
    linarith
  rw [Timezone.localDate, Timezone.localDate, hwall]
  exact Int.add_mul_ediv_right _ _ (by decide)

/-- **A rotation moves on** by its length: all of a row, where the zone has the same offset again
when the row is dated. -/
theorem rowsOn_add_rotation_of_offset (htotal : 0 < a.pattern.totalDaysInRotation)
    (hfirst : a.rotationStartDate / msPerDay < day) (hend : a.KeepsOn day)
    (hoffset : tz.offset (a.datedAt [] (day * msPerDay) + a.pattern.totalDaysInRotation * msPerDay)
      = tz.offset (a.datedAt [] (day * msPerDay))) :
    a.rowsOn [] tz ((day + a.pattern.totalDaysInRotation) * msPerDay)
      = (a.rowsOn [] tz (day * msPerDay)).map fun r ↦
          r.later (a.pattern.totalDaysInRotation * msPerDay)
            (r.businessDate + a.pattern.totalDaysInRotation * msPerDay) := by
  rw [rowsOn_add_rotation tz htotal hfirst hend]
  refine List.map_congr_left fun r hr ↦ ?_
  obtain ⟨d, -, rfl⟩ := mem_rowsOn_iff.mp hr
  rw [localDate_add hoffset, Int.add_mul]
  rfl

end ShiftAssignment

/-! ## Incremental materialization -/

section

variable {sch : Schedule} {a : ShiftAssignment} {timezoneOf : Uuid → Timezone}

/-- **Materializing in ticks** is materializing at once: the rows of a day do not depend on the run,
ticks whose days overlap insert what one tick for all of these days does, and the rows repeat with
the rotation, as long as it does not end. -/
theorem materialize_incremental (hids : (sch.assignments.map ShiftAssignment.id).Nodup)
    (htotal : 0 < a.pattern.totalDaysInRotation) :
    (∀ fromDayMs lookaheadDays tz, a.buildInstanceRows fromDayMs lookaheadDays [] tz
      = (ShiftAssignment.targetDays fromDayMs lookaheadDays).flatMap fun targetMs ↦
          a.buildInstanceRows targetMs 0 [] tz) ∧
    (∀ t ts, Tick.Overlap t t.now ts →
      sch.inserted (sch.runTicks timezoneOf (t :: ts))
        = sch.inserted (sch.runTicks timezoneOf [t.union ts])) ∧
    (∀ day, 1 ≤ a.pattern.rotationDay day ∧
      a.pattern.rotationDay day ≤ a.pattern.totalDaysInRotation) ∧
    ∀ (tz : Timezone) (day : ℤ), a.rotationStartDate / msPerDay < day → a.KeepsOn day →
      a.rowsOn [] tz ((day + a.pattern.totalDaysInRotation) * msPerDay)
        = (a.rowsOn [] tz (day * msPerDay)).map (fun r ↦
            r.later (a.pattern.totalDaysInRotation * msPerDay)
              (tz.localDate (a.datedAt [] (day * msPerDay)
                + a.pattern.totalDaysInRotation * msPerDay) * msPerDay)) ∧
      (tz.offset (a.datedAt [] (day * msPerDay) + a.pattern.totalDaysInRotation * msPerDay)
          = tz.offset (a.datedAt [] (day * msPerDay)) →
        a.rowsOn [] tz ((day + a.pattern.totalDaysInRotation) * msPerDay)
          = (a.rowsOn [] tz (day * msPerDay)).map fun r ↦
              r.later (a.pattern.totalDaysInRotation * msPerDay)
                (r.businessDate + a.pattern.totalDaysInRotation * msPerDay)) :=
  ⟨fun _ _ tz ↦ a.buildInstanceRows_eq_flatMap _ _ [] tz,
    fun t _ hoverlap ↦ Schedule.inserted_runTicks hids t hoverlap,
    ShiftPattern.rotationDay_mem htotal,
    fun tz _ hfirst hend ↦ ⟨ShiftAssignment.rowsOn_add_rotation tz htotal hfirst hend,
      ShiftAssignment.rowsOn_add_rotation_of_offset htotal hfirst hend⟩⟩

end

/-- An hour less from the third day on. -/
def backOnThirdDay : Timezone := ⟨fun s ↦ if s < 172800 then s else s - 3600⟩

/-- The evenings have no row after the end of their rotation, and a date too early after an offset
has changed. -/
theorem not_rowsOn_add_rotation :
    (∃ (a : ShiftAssignment) (tz : Timezone) (day : ℤ), 0 < a.pattern.totalDaysInRotation ∧
      a.rotationStartDate / msPerDay < day ∧
        a.rowsOn [] tz ((day + a.pattern.totalDaysInRotation) * msPerDay)
          ≠ (a.rowsOn [] tz (day * msPerDay)).map fun r ↦
              r.later (a.pattern.totalDaysInRotation * msPerDay)
                (r.businessDate + a.pattern.totalDaysInRotation * msPerDay)) ∧
    ∃ (a : ShiftAssignment) (tz : Timezone) (day : ℤ), 0 < a.pattern.totalDaysInRotation ∧
      a.rotationStartDate / msPerDay < day ∧ a.KeepsOn day ∧
        a.rowsOn [] tz ((day + a.pattern.totalDaysInRotation) * msPerDay)
          ≠ (a.rowsOn [] tz (day * msPerDay)).map fun r ↦
              r.later (a.pattern.totalDaysInRotation * msPerDay)
                (r.businessDate + a.pattern.totalDaysInRotation * msPerDay) :=
  ⟨⟨{ everyEvening true with rotationEndDate := some msPerDay }, Timezone.utc, 1,
      by decide +kernel⟩,
    ⟨everyEvening false, backOnThirdDay, 1, by decide +kernel⟩⟩

/-- Two ticks with a day between them, and the evenings of a week. -/
theorem materialize_incremental_evenings :
    let sch : Schedule := ⟨[everyEvening true], ⟨[], by simp, by simp⟩⟩
    sch.inserted (sch.runTicks (fun _ ↦ Timezone.utc) [⟨0, 3⟩, ⟨2 * msPerDay, 5⟩])
        = sch.inserted (sch.runTicks (fun _ ↦ Timezone.utc) [⟨0, 7⟩]) ∧
      (everyEvening true).rowsOn [] Timezone.utc (2 * msPerDay)
        = ((everyEvening true).rowsOn [] Timezone.utc (1 * msPerDay)).map fun r ↦
            r.later msPerDay (r.businessDate + msPerDay) := by
  intro sch
  obtain ⟨-, hticks, -, hrows⟩ := @materialize_incremental sch (everyEvening true)
    (fun _ ↦ Timezone.utc) (by decide +kernel) (by decide)
  exact ⟨hticks ⟨0, 3⟩ [⟨2 * msPerDay, 5⟩] (by decide +kernel),
    (hrows Timezone.utc 1 (by decide +kernel) (by decide +kernel)).2 (by decide +kernel)⟩

end RwServer
