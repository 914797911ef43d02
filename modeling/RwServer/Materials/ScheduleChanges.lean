import Mathlib
import RwServer.Materials.UnitChanges
import RwServer.Metrics.Archive
import RwServer.Metrics.ScheduleEdits

/-!
# Consumption across schedule changes

The staging rows of a shift hang on its instance by a cascading key. A reconcile deletes the
instances of other assignments that no bucket and no disposition refers to, and the archive takes
the buckets away after a day; to remove an assignment deletes its instances without a test. With an
instance go its staging rows, and what is not flushed of them comes back to the balance.

`scheduleChanges_keepConsumption` says which changes of the schedule lose nothing.
-/

namespace RwServer

open Relational Transition

/-! ## A site with its stock -/

structure StockedSite where
  site : ScheduledSite
  /-- `MetricBucketLog`. -/
  log : Table bucketRowSchema
  stock : MaterialState

namespace StockedSite

variable (s : StockedSite)

/-- The stock, with the shifts as they are scheduled now. -/
def current : MaterialState :=
  { s.stock with db := { s.stock.db with facility := s.site.facility } }

end StockedSite

/-- An instance that was there, and is not any more. -/
def Schedule.deleted (before after : Schedule) (instanceId : Uuid) : Bool :=
  before.instances.rows.any fun i ↦ i.id == instanceId && decide (i ∉ after.instances.rows)

/-- `onDelete: Cascade` from the instances to the staging rows. -/
def StockedSite.cascade (s : StockedSite) (site : ScheduledSite) : StockedSite where
  site := site
  log := s.log
  stock :=
    { s.stock with
      db := s.stock.db.setUsage (s.stock.db.usage.delete fun r ↦
        s.site.schedule.deleted site.schedule r.scope.shiftInstanceId) }

inductive StockMove
  /-- A cycle completes: its use is booked, and its hour counted. -/
  | cycle (c : CycleClose) (newId : UsageScope → Uuid) (idealSeconds totalCycleSeconds : ℤ)
  | flush (shiftInstanceId : Uuid) (now : Time) (ledgerId : FlushKey → Uuid)
  | archive (call : ArchiveCall)
  /-- A change of the schedule, a tick or a scaffold. -/
  | edit (siteId stationId : Uuid) (call : SiteCall)

/-- One move after the other; a transaction that fails is rolled back, and a call that is refused
changes nothing: neither is a step. -/
def stockStep (move : StockMove) (s : StockedSite) : Option StockedSite :=
  match move with
  | .cycle c newId idealSeconds totalCycleSeconds =>
    (materialStep (.cycle c newId) s.current).map fun stock ↦
      { s with
        site := { s.site with
          live := incrementHourCounts c.stationId c.time 1 c.items.length idealSeconds
            totalCycleSeconds s.site.live }
        stock := stock }
  | .flush shiftInstanceId now ledgerId =>
    (materialStep (.flush shiftInstanceId now ledgerId) s.current).map fun stock ↦
      { s with stock := stock }
  | .archive call =>
    let t := archiveSiteBuckets s.site.facility call ⟨s.site.live, s.log⟩
    some { s with site := { s.site with live := t.live }, log := t.log }
  | .edit siteId stationId call => (siteStep siteId stationId call s.site).map s.cascade

/-! ## What a change deletes -/

/-- The instances that a step deletes. A reconcile spares those that a bucket or a disposition
refers to. -/
def ScheduledSite.Drops (s : ScheduledSite) : SiteStep → ShiftRow → Prop
  | .createAssignment a disposed, i =>
    s.schedule.isOldInstance a i = true ∧ s.inUse disposed i.id = false
  | .updateAssignment id input disposed, i =>
    (input.rotationStartDate.isSome || input.rotationStartDefinitionId.isSome) = true ∧
      ∃ a ∈ s.schedule.assignment id, ∃ start ∈ input.rotationStart a,
        s.schedule.isOldInstance (input.apply a start) i = true ∧ s.inUse disposed i.id = false
  | .removeAssignment id, i => i.assignmentId = id
  | _, _ => False

/-- No staging row belongs to an instance that the step deletes. -/
def StockedSite.NoneStaged (s : StockedSite) (step : SiteStep) : Prop :=
  ∀ i ∈ s.site.schedule.instances.rows, s.site.Drops step i →
    ∀ r ∈ s.stock.db.usage.rows, r.scope.shiftInstanceId ≠ i.id

/-- The condition on a move. -/
def KeepsStaging (s : StockedSite) : StockMove → Prop
  | .edit _ _ call => s.NoneStaged call.step
  | _ => True

instance decidableDrops (s : ScheduledSite) : ∀ step i, Decidable (s.Drops step i)
  | .createAssignment _ _, _ => inferInstanceAs (Decidable (_ ∧ _))
  | .updateAssignment id input _, _ => inferInstanceAs (Decidable (_ ∧
      ∃ a ∈ s.schedule.assignment id, ∃ start ∈ input.rotationStart a, _ ∧ _))
  | .removeAssignment id, i => inferInstanceAs (Decidable (i.assignmentId = id))
  | .ensureBuckets _, _ | .materialize _, _ | .moveStation _, _ => isFalse id

instance decidableNoneStaged (s : StockedSite) (step : SiteStep) :
    Decidable (s.NoneStaged step) :=
  inferInstanceAs (Decidable (∀ i ∈ s.site.schedule.instances.rows, s.site.Drops step i →
    ∀ r ∈ s.stock.db.usage.rows, r.scope.shiftInstanceId ≠ i.id))

instance decidableKeepsStaging (s : StockedSite) : ∀ move, Decidable (KeepsStaging s move)
  | .edit _ _ call => inferInstanceAs (Decidable (s.NoneStaged call.step))
  | .cycle _ _ _ _ | .flush _ _ _ | .archive _ => isTrue trivial

/-- Nothing of the consumption is lost. -/
structure StockedSite.Keeps (s s' : StockedSite) : Prop where
  balance : ∀ m, onHand s'.stock.db m = onHand s.stock.db m
  rows : ∀ r ∈ s.stock.db.usage.rows, r ∈ s'.stock.db.usage.rows

section

variable {sch : Schedule} {a : ShiftAssignment} {i : ShiftRow} {timezoneOf : Uuid → Timezone}
  {inUse : Uuid → Bool} {now : Time} {id : Uuid}

namespace Schedule

theorem isOldInstance_map (f : ShiftAssignment → ShiftAssignment)
    (hid : ∀ b, (f b).id = b.id) (hf : ∀ b, b.id ≠ a.id → f b = b) (i : ShiftRow) :
    Schedule.isOldInstance ⟨sch.assignments.map f, sch.instances⟩ a i
      = sch.isOldInstance a i := by
  rw [isOldInstance, isOldInstance, List.any_map]
  congr 2
  funext b
  rw [Function.comp_apply]
  by_cases hb : b.id = a.id
  · rw [isOldAssignment_of_id hb, isOldAssignment_of_id ((hid b).trans hb), Bool.false_and,
      Bool.false_and]
  · rw [hf b hb]

theorem assignment_map (f : ShiftAssignment → ShiftAssignment) (hid : ∀ b, (f b).id = b.id)
    (id : Uuid) : Schedule.assignment ⟨sch.assignments.map f, sch.instances⟩ id
      = (sch.assignment id).map f := by
  rw [assignment, assignment, List.find?_map]
  congr 2
  funext b
  rw [Function.comp_apply, hid]

/-- **A reconcile deletes** the instances of the assignments it ends that nothing refers to. -/
theorem notMem_reconcile_iff (ha : sch.assignment id = some a) (hi : i ∈ sch.instances.rows) :
    i ∉ (sch.reconcileShiftInstances timezoneOf inUse now id).instances.rows ↔
      sch.isOldInstance a i = true ∧ inUse i.id = false := by
  rw [reconcileShiftInstances, ha]
  dsimp only
  constructor
  · intro hgone
    by_contra hkept
    refine hgone (mem_createMany_of_mem (List.mem_filter.mpr ⟨hi, ?_⟩))
    rwa [Bool.not_eq_true', ← Bool.not_eq_true, Bool.and_eq_true, Bool.not_eq_true']
  · rintro ⟨hold, hfree⟩ hmem
    rcases of_mem_createMany hmem with hkept | ⟨-, hdata⟩
    · have hkept := (List.mem_filter.mp hkept).2
      dsimp only at hkept
      rw [hold, hfree] at hkept
      cases hkept
    · -- what is built belongs to the assignment, and what is deleted to another one
      obtain ⟨b, -, hb⟩ := List.any_eq_true.mp (Bool.and_eq_true_iff.mp hold).1
      obtain ⟨hb, hbid⟩ := Bool.and_eq_true_iff.mp hb
      have hid := (ShiftAssignment.assignment_of_mem_build hdata).1
      rw [isOldAssignment_of_id ((eq_of_beq hbid).trans hid)] at hb
      cases hb

end Schedule

/-- **What a step deletes**: the instances that it drops, and no others. -/
theorem notMem_apply_iff {s s' : ScheduledSite} {siteId stationId : Uuid} {step : SiteStep}
    (h : s.apply siteId stationId now step = some s') (hi : i ∈ s.schedule.instances.rows) :
    i ∉ s'.schedule.instances.rows ↔ s.Drops step i := by
  cases step with
  | ensureBuckets timestamp =>
    cases h
    exact iff_of_false (fun hgone ↦ hgone hi) id
  | createAssignment a disposed =>
    obtain ⟨schedule, hschedule, rfl⟩ := Option.map_eq_some_iff.mp h
    rw [scheduleStep] at hschedule
    split_ifs at hschedule with hfresh
    cases hschedule
    have ha : Schedule.assignment ⟨s.schedule.assignments ++ [a], s.schedule.instances⟩ a.id
        = some a := by
      rw [Schedule.assignment, List.find?_append, List.find?_eq_none.mpr fun b hb ↦ ?_]
      · simp
      · rw [beq_iff_eq]
        exact hfresh.1 b hb
    rw [Schedule.notMem_reconcile_iff ha hi, Schedule.isOldInstance_append]
    rfl
  | updateAssignment id input disposed =>
    obtain ⟨schedule, hschedule, rfl⟩ := Option.map_eq_some_iff.mp h
    obtain ⟨current, hcurrent, hschedule⟩ := Option.bind_eq_some_iff.mp hschedule
    obtain ⟨start, hstart, rfl⟩ := Option.map_eq_some_iff.mp hschedule
    have hid : current.id = id := by
      have hid := List.find?_some hcurrent
      exact eq_of_beq hid
    rw [ScheduledSite.Drops, hcurrent]
    simp only [Option.mem_def, Option.some.injEq, exists_eq_left', hstart]
    have hkeeps : ∀ b : ShiftAssignment,
        (if b.id == id then input.apply b start else b).id = b.id := by
      intro b
      split <;> rfl
    split_ifs with hgiven
    · have ha := s.schedule.assignment_map _ hkeeps id
      rw [hcurrent, Option.map_some, if_pos (beq_iff_eq.mpr hid)] at ha
      refine (Schedule.notMem_reconcile_iff ha hi).trans ?_
      rw [Schedule.isOldInstance_map _ hkeeps fun b hb ↦ if_neg fun hbid ↦ hb ?_]
      · exact (and_iff_right hgiven).symm
      · exact (eq_of_beq hbid).trans hid.symm
    · exact iff_of_false (fun hgone ↦ hgone hi) fun hdrops ↦ hgiven hdrops.1
  | removeAssignment id =>
    obtain ⟨schedule, hschedule, rfl⟩ := Option.map_eq_some_iff.mp h
    obtain ⟨current, -, rfl⟩ := Option.map_eq_some_iff.mp hschedule
    rw [Table.delete, List.mem_filter]
    simp [hi, ScheduledSite.Drops]
  | materialize lookaheadDays =>
    cases h
    exact iff_of_false (fun hgone ↦ hgone (mem_createMany_of_mem hi)) id
  | moveStation workcenterId =>
    rw [ScheduledSite.apply] at h
    split_ifs at h
    cases h
    exact iff_of_false (fun hgone ↦ hgone hi) id

end

/-! ## What a change of the schedule leaves -/

section

variable {s s' : StockedSite}

theorem Schedule.deleted_iff {before after : Schedule} {instanceId : Uuid} :
    before.deleted after instanceId = true ↔
      ∃ i ∈ before.instances.rows, i.id = instanceId ∧ i ∉ after.instances.rows := by
  rw [deleted, List.any_eq_true]
  simp only [Bool.and_eq_true, beq_iff_eq, decide_eq_true_eq]

/-- **A change of the schedule loses nothing** exactly when no staging row belongs to an instance
that it deletes. -/
theorem keeps_edit_iff {siteId stationId : Uuid} {call : SiteCall}
    (h : stockStep (.edit siteId stationId call) s = some s') :
    s.Keeps s' ↔ s.NoneStaged call.step := by
  obtain ⟨site, hsite, rfl⟩ := Option.map_eq_some_iff.mp h
  rw [siteStep] at hsite
  split_ifs at hsite with hnow
  obtain ⟨site, happly, rfl⟩ := Option.map_eq_some_iff.mp hsite
  constructor
  · intro hkeeps i hi hdrops r hr hid
    have hkept : (!s.site.schedule.deleted site.schedule r.scope.shiftInstanceId) = true :=
      (List.mem_filter.mp (hkeeps.rows r hr)).2
    have hdeleted : s.site.schedule.deleted site.schedule r.scope.shiftInstanceId = true :=
      Schedule.deleted_iff.mpr ⟨i, hi, hid.symm, (notMem_apply_iff happly hi).mpr hdrops⟩
    rw [hdeleted] at hkept
    cases hkept
  · intro hnone
    have hsame : s.stock.db.usage.delete (fun r ↦
        s.site.schedule.deleted site.schedule r.scope.shiftInstanceId) = s.stock.db.usage := by
      refine Table.ext_rows (List.filter_eq_self.mpr fun r hr ↦ ?_)
      rw [Bool.not_eq_true', ← Bool.not_eq_true, Schedule.deleted_iff]
      rintro ⟨i, hi, hid, hgone⟩
      exact hnone i hi ((notMem_apply_iff happly hi).mp hgone) r hr hid.symm
    exact ⟨fun m ↦ congrArg (fun usage ↦ onHand (s.stock.db.setUsage usage) m) hsame,
      fun r hr ↦ congrArg Table.rows hsame ▸ hr⟩

/-! ## Runs -/

/-- The staging rows of `db` are there in `db'`, and its balances have gone down by the bookings. -/
structure LowersBy (db : MaterialDatabase) (later : List Booking) (db' : MaterialDatabase) :
    Prop where
  rows : ∀ r ∈ db.usage.rows, ∃ r' ∈ db'.usage.rows, r'.id = r.id
  balance : ∀ m, onHand db' m = onHand db m - (later.map (Booking.bare m)).sum

theorem LowersBy.refl (db : MaterialDatabase) : LowersBy db [] db where
  rows r hr := ⟨r, hr, rfl⟩
  balance m := by rw [List.map_nil, List.sum_nil, sub_zero]

theorem LowersBy.trans {db db' db'' : MaterialDatabase} {later later' : List Booking}
    (h : LowersBy db later db') (h' : LowersBy db' later' db'') :
    LowersBy db (later ++ later') db'' where
  rows r hr := by
    obtain ⟨r', hr', hid⟩ := h.rows r hr
    obtain ⟨r'', hr'', hid'⟩ := h'.rows r' hr'
    exact ⟨r'', hr'', hid'.trans hid⟩
  balance m := by
    rw [h'.balance, h.balance, List.map_append, List.sum_append]
    ring

theorem rows_of_books {jobId : Uuid} {newId : UsageScope → Uuid} {want : List UsageRow}
    {db db' : MaterialDatabase} {bookings : List Booking}
    (h : Books jobId newId want db bookings db') {r : MaterialShiftUsage}
    (hr : r ∈ db.usage.rows) : ∃ r' ∈ db'.usage.rows, r'.id = r.id := by
  refine h.keeps (P := fun x ↦ ∃ r' ∈ x.usage.rows, r'.id = r.id) ?_ ?_ ⟨r, hr, rfl⟩
  · rintro x x' new ⟨r', hr', hid⟩ - - hwrite
    obtain ⟨usage, husage, rfl⟩ := Option.map_eq_some_iff.mp hwrite
    refine ⟨r', ?_, hid⟩
    rw [MaterialDatabase.setUsage, Table.rows_of_insert husage]
    exact List.mem_append_left _ hr'
  · rintro x x' old quantity itemCount ⟨r', hr', hid⟩ hfind - hwrite
    rw [MaterialDatabase.write, hfind, if_pos Option.isSome_some] at hwrite
    cases hwrite
    refine ⟨_, List.mem_map_of_mem hr', ?_⟩
    split
    · exact hid
    · exact hid

/-- **What one move books**, and nothing else, is taken from the balances. -/
theorem lowersBy_step {move : StockMove} (hok : KeepsStaging s move)
    (h : stockStep move s = some s') : ∃ later, s'.stock.bookings = s.stock.bookings ++ later ∧
      LowersBy s.stock.db later s'.stock.db := by
  cases move with
  | cycle c newId idealSeconds totalCycleSeconds =>
    obtain ⟨stock, hstock, rfl⟩ := Option.map_eq_some_iff.mp h
    obtain ⟨later, hbooks, hbookings⟩ := books_of_cycle hstock
    exact ⟨later, hbookings, fun r hr ↦ rows_of_books hbooks hr, fun m ↦ onHand_books hbooks m⟩
  | flush shiftInstanceId now ledgerId =>
    obtain ⟨stock, hstock, rfl⟩ := Option.map_eq_some_iff.mp h
    obtain ⟨hflush, hbookings⟩ := flushes_of_flush hstock
    refine ⟨[], hbookings.trans (List.append_nil _).symm, fun r hr ↦ ?_, fun m ↦ ?_⟩
    · rw [hflush.usage]
      refine ⟨_, List.mem_map_of_mem hr, ?_⟩
      split <;> rfl
    · rw [List.map_nil, List.sum_nil, sub_zero]
      exact hflush.balance_eq m fun t ht ↦ absurd ht (by simp)
  | archive call =>
    cases h
    exact ⟨[], (List.append_nil _).symm, .refl _⟩
  | edit siteId stationId call =>
    have hkeeps := (keeps_edit_iff h).mpr hok
    obtain ⟨site, -, rfl⟩ := Option.map_eq_some_iff.mp h
    refine ⟨[], (List.append_nil _).symm, fun r hr ↦ ⟨r, hkeeps.rows r hr, rfl⟩, fun m ↦ ?_⟩
    rw [List.map_nil, List.sum_nil, sub_zero]
    exact hkeeps.balance m

/-- **Schedule changes lose no consumption.** From any state, a change of the schedule keeps the
balances and the staging rows exactly when no staging row belongs to an instance that it deletes.
In a run whose changes are all of this kind, every staging row stays, and the balances go down by
what cycles book. -/
theorem scheduleChanges_keepConsumption {s₀ : StockedSite} {moves : List StockMove} :
    (∀ siteId stationId call s', stockStep (.edit siteId stationId call) s = some s' →
      (s.Keeps s' ↔ s.NoneStaged call.step)) ∧
    (Run stockStep KeepsStaging s₀ moves s → ∃ later,
      s.stock.bookings = s₀.stock.bookings ++ later ∧
        LowersBy s₀.stock.db later s.stock.db) := by
  refine ⟨fun _ _ _ _ hstep ↦ keeps_edit_iff hstep, fun hrun ↦ ?_⟩
  induction hrun with
  | nil => exact ⟨[], (List.append_nil _).symm, .refl _⟩
  | snoc _ hok hstep ih =>
    obtain ⟨later, hbookings, hlowers⟩ := ih
    obtain ⟨later', hbookings', hlowers'⟩ := lowersBy_step hok hstep
    exact ⟨later ++ later', by rw [hbookings', hbookings, List.append_assoc],
      hlowers.trans hlowers'⟩

end

/-! ## Two kilograms of a shift -/

/-- The site without a schedule, and the material in stock. -/
def stockedSite : StockedSite where
  site := unscheduledSite
  log := .empty _
  stock := .init sampleMaterials

def siteEdit (now : Time) (step : SiteStep) : StockMove := .edit 1 2 ⟨now, step⟩

/-- The site gets its shift, and a cycle at 07:00 uses two kilograms. -/
def firstShift : List StockMove :=
  [siteEdit 0 (.createAssignment (earlyAssignment 0) fun _ ↦ false),
    siteEdit (7 * msPerHour) (.ensureBuckets (7 * msPerHour)),
    .cycle ⟨1, 2, 6, 7 * msPerHour, [⟨5, 0, 1, 0⟩]⟩ (fun _ ↦ 20) 30 30]

/-- The assignment that takes the place of the first one, from a date on. -/
def laterAssignment (rotationStartDate : Time) : ShiftAssignment :=
  { earlyAssignment 0 with id := 3, rotationStartDate }

/-- The next assignment starts with the second day, and deletes the instances from there on. -/
theorem scheduleChanges_keepConsumption_tomorrow : ∃ s : StockedSite,
    s.site.schedule.instances.rows.length = 8 ∧ onHand s.stock.db 7 = -2 ∧
      ∃ r ∈ s.stock.db.usage.rows, r.scope.shiftInstanceId = 1 := by
  have hexecute : (execute stockStep KeepsStaging (firstShift ++
      [siteEdit (8 * msPerHour) (.createAssignment (laterAssignment msPerDay) fun _ ↦ false)])
      stockedSite).any (fun s ↦ decide (s.site.schedule.instances.rows.length = 8 ∧
        (s.stock.bookings.map (Booking.bare 7)).sum = 2 ∧
        ∃ r ∈ s.stock.db.usage.rows, r.scope.shiftInstanceId = 1)) = true := by
    decide +kernel
  obtain ⟨s, hs, hfacts⟩ := (Option.any_eq_true _ _).mp hexecute
  obtain ⟨hlength, hbooked, hstaged⟩ := of_decide_eq_true hfacts
  obtain ⟨later, hbookings, hlowers⟩ := scheduleChanges_keepConsumption.2 (run_of_execute hs)
  refine ⟨s, hlength, ?_, hstaged⟩
  have hlater : s.stock.bookings = later := hbookings
  rw [hlowers.balance, ← hlater, hbooked]
  decide +kernel

/-- What the cycle has used comes back with a step after some moves. -/
def ComesBack (moves : List StockMove) (move : StockMove) : Prop :=
  ∃ s s', Run stockStep (fun _ _ ↦ True) stockedSite moves s ∧ stockStep move s = some s' ∧
    onHand s.stock.db 7 = -2 ∧ onHand s'.stock.db 7 = 0 ∧ s'.stock.db.usage.rows = []

theorem comesBack_of_execute {moves : List StockMove} {move : StockMove}
    (h : (execute stockStep (fun _ _ ↦ True) moves stockedSite).any (fun s ↦
      (stockStep move s).any fun s' ↦ decide (onHand s.stock.db 7 = -2 ∧
        onHand s'.stock.db 7 = 0 ∧ s'.stock.db.usage.rows = [])) = true) :
    ComesBack moves move := by
  obtain ⟨s, hs, h⟩ := (Option.any_eq_true _ _).mp h
  obtain ⟨s', hs', h⟩ := (Option.any_eq_true _ _).mp h
  exact ⟨s, s', run_of_execute hs, hs', of_decide_eq_true h⟩

/-- Three days after the hours of the shift. -/
def stockedArchive : StockMove := .archive ⟨1, 3 * msPerDay, default, [], fun _ ↦ 3 * msPerDay⟩

/-- **The two kilograms come back** when the assignment is removed; and when it is replaced from
its start on, after two runs of the archive. -/
theorem not_scheduleChanges_keepConsumption :
    ComesBack firstShift (siteEdit (8 * msPerHour) (.removeAssignment 2)) ∧
    ComesBack (firstShift ++ [stockedArchive, stockedArchive])
      (siteEdit (3 * msPerDay) (.createAssignment (laterAssignment 0) fun _ ↦ false)) :=
  ⟨comesBack_of_execute (by decide +kernel), comesBack_of_execute (by decide +kernel)⟩

end RwServer
