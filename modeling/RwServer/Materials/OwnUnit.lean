import Mathlib
import RwServer.Materials.Balance

/-!
# The unit of a staging row

A staging row keeps the canonical unit that its material had when the row was created, and a later
cycle adds its weight in the canonical unit of its own time. The quantity of a row is what has been
booked on it in its own unit as long as the two are the same unit (`InRowUnit`,
`usage_inOwnUnit`); a change of the unit while the shift is under way mixes units
(`not_usage_inOwnUnit`).
-/

namespace RwServer

open Relational ReadCommitted Grouping Transition

/-- The unflushed rows that the cycle adds to are in the canonical unit of the material. -/
def UsageRow.Fits (db : MaterialDatabase) (jobId : Uuid) (w : UsageRow) : Prop :=
  ∀ unit ∈ w.materialUnit, ∀ r ∈ db.usage.rows, r.scope = w.scope jobId → r.flushedAt = none →
    r.unit = unit ∨ w.qty = 0

/-- A cycle adds to rows in the canonical unit of their material only. -/
def InRowUnit (s : MaterialState) : MaterialCall → Prop
  | .cycle c _ => ∀ w ∈ s.db.want c, w.Fits s.db c.jobId
  | .flush _ _ _ => True
  | .configure _ _ _ _ => True

instance decidableFits (db : MaterialDatabase) (jobId : Uuid) (w : UsageRow) :
    Decidable (w.Fits db jobId) :=
  inferInstanceAs (Decidable (∀ unit ∈ w.materialUnit, ∀ r ∈ _, _))

instance decidableInRowUnit (s : MaterialState) (call : MaterialCall) :
    Decidable (InRowUnit s call) := by
  cases call <;> unfold InRowUnit <;> infer_instance

/-- What has been booked on a row, in a unit. -/
def bookedOn (bookings : List Booking) (usageId : Uuid) (unit : WeightUnit) : ℚ :=
  ((bookings.filter fun b ↦ decide (b.usageId = usageId)).map fun b ↦
    convertWeight b.weight b.unit unit).sum

/-- The rows hold what has been booked on them, and nothing else has been booked. -/
structure HoldsBookings (db : MaterialDatabase) (bookings : List Booking) : Prop where
  quantity : ∀ r ∈ db.usage.rows, r.quantity = bookedOn bookings r.id r.unit
  onRow : ∀ b ∈ bookings, b.usageId ∈ db.usage.rows.map MaterialShiftUsage.id

theorem bookedOn_append (bookings later : List Booking) (usageId : Uuid) (unit : WeightUnit) :
    bookedOn (bookings ++ later) usageId unit
      = bookedOn bookings usageId unit + bookedOn later usageId unit := by
  rw [bookedOn, List.filter_append, List.map_append, List.sum_append, bookedOn, bookedOn]

theorem bookedOn_singleton (b : Booking) (usageId : Uuid) (unit : WeightUnit) :
    bookedOn [b] usageId unit
      = if b.usageId = usageId then convertWeight b.weight b.unit unit else 0 := by
  rw [bookedOn, List.filter_cons, List.filter_nil]
  split
  · rename_i h
    rw [if_pos (of_decide_eq_true h), List.map_singleton, List.sum_singleton]
  · rename_i h
    rw [if_neg fun heq ↦ h (decide_eq_true heq), List.map_nil, List.sum_nil]

/-- A material has one canonical unit at a time. -/
theorem materialUnit_of_want {db : MaterialDatabase} {c : CycleClose} {w : UsageRow}
    (hw : w ∈ db.want c) :
    w.materialUnit = (db.material w.materialId).bind Material.weightUnits := by
  rw [MaterialDatabase.want] at hw
  split at hw
  · exact absurd hw List.not_mem_nil
  · obtain ⟨g, hg, rfl⟩ := List.mem_map.mp hw
    obtain ⟨x, hx, hkey⟩ := mem_keys_groupBy.mp (List.mem_map_of_mem hg)
    obtain ⟨item, -, hx⟩ := List.mem_flatMap.mp hx
    obtain ⟨blob, -, hx⟩ := List.mem_filterMap.mp hx
    split at hx
    · rename_i weight m hweight hm
      cases hx
      rw [← hkey]
      dsimp only [ItemMaterial.key]
      rw [hm]
      rfl
    · exact absurd hx (by simp)

section

variable {db db' : MaterialDatabase} {bookings : List Booking} {jobId : Uuid} {w : UsageRow}
  {rest : List UsageRow} {unit : WeightUnit} {r : MaterialShiftUsage}

private theorem HoldsBookings.increment (h : HoldsBookings db bookings)
    (hfind : db.usage.find r.id = some r) (hunit : r.unit = unit ∨ w.qty = 0)
    (hwrite : db.write (.incrementUsage r.id (w.qtyDelta unit) w.itemCount) = some db') :
    HoldsBookings db' (bookings ++ [w.booking r.id unit]) := by
  have hr := (Table.find_eq_some_iff.mp hfind).1
  rw [MaterialDatabase.write, hfind, if_pos Option.isSome_some] at hwrite
  cases hwrite
  -- the quantity added is the weight in the unit of the row
  have hdelta : w.qtyDelta unit = convertWeight w.qty (w.pmUnit.getD unit) r.unit := by
    rw [UsageRow.qtyDelta]
    exact convertWeight_eq_iff.mpr (hunit.imp_left Eq.symm)
  refine ⟨fun a ha ↦ ?_, fun b hb ↦ ?_⟩
  · obtain ⟨a₀, ha₀, rfl⟩ := List.mem_map.mp ha
    rw [bookedOn_append, bookedOn_singleton, UsageRow.booking]
    by_cases hid : a₀.id = r.id
    · have hsame := db.usage.eq_of_key_eq ha₀ hr hid
      rw [if_pos (decide_eq_true hid), hsame, MaterialShiftUsage.increment]
      dsimp only
      rw [if_pos rfl, ← hdelta, ← h.quantity r hr]
    · rw [if_neg fun heq ↦ hid (of_decide_eq_true heq), if_neg fun heq ↦ hid heq.symm, add_zero]
      exact h.quantity a₀ ha₀
  · have hids : (db.usage.modify (fun a ↦ decide (a.id = r.id))
        (MaterialShiftUsage.increment (w.qtyDelta unit) w.itemCount)
        (MaterialShiftUsage.mild_increment _ _)).rows.map MaterialShiftUsage.id
          = db.usage.rows.map MaterialShiftUsage.id := by
      rw [Table.modify]
      dsimp only
      rw [List.map_map]
      refine List.map_congr_left fun a _ ↦ ?_
      rw [Function.comp_apply]
      split <;> rfl
    refine hids ▸ (List.mem_append.mp hb).elim (h.onRow b) fun hb ↦ ?_
    rw [List.mem_singleton.mp hb]
    exact List.mem_map_of_mem hr

private theorem HoldsBookings.create {newId : Uuid} (h : HoldsBookings db bookings)
    (hwrite : db.write (.createUsage (w.newUsage jobId newId unit)) = some db') :
    HoldsBookings db' (bookings ++ [w.booking newId unit]) := by
  obtain ⟨usage, husage, rfl⟩ := Option.map_eq_some_iff.mp hwrite
  obtain ⟨hnew, -, hrows⟩ := Table.insert_eq_some_iff.mp husage
  refine ⟨fun a ha ↦ ?_, fun b hb ↦ ?_⟩
  · rw [MaterialDatabase.setUsage, hrows, List.mem_append, List.mem_singleton] at ha
    rw [bookedOn_append, bookedOn_singleton, UsageRow.booking]
    rcases ha with ha | rfl
    · have hne : newId ≠ a.id := fun heq ↦ hnew (List.mem_map.mpr ⟨a, ha, heq.symm⟩)
      rw [if_neg hne, add_zero]
      exact h.quantity a ha
    · -- nothing has been booked on the new row
      have hnone : bookings.filter (fun b ↦ decide (b.usageId = newId)) = [] :=
        List.filter_eq_nil_iff.mpr fun b hb heq ↦
          hnew ((of_decide_eq_true heq : b.usageId = newId) ▸ h.onRow b hb)
      rw [UsageRow.newUsage, bookedOn]
      dsimp only
      rw [hnone, if_pos rfl, List.map_nil, List.sum_nil, zero_add, UsageRow.qtyDelta]
  · rw [MaterialDatabase.setUsage, hrows, List.map_append]
    rcases List.mem_append.mp hb with hb | hb
    · exact List.mem_append_left _ (h.onRow b hb)
    · rw [List.mem_singleton.mp hb]
      exact List.mem_append_right _ List.mem_cons_self

/-- A row that a cycle has created or added to is in the unit of the material, as are the rows of
the other things that the cycle wants. -/
private theorem fits_increment (hfits : ∀ w ∈ rest, w.Fits db jobId) {id : Uuid} {quantity : ℚ}
    {itemCount : ℤ} (hwrite : db.write (.incrementUsage id quantity itemCount) = some db') :
    ∀ w ∈ rest, w.Fits db' jobId := by
  intro w hw unit hunit r hr
  rw [MaterialDatabase.write] at hwrite
  split at hwrite
  · cases hwrite
    obtain ⟨a, ha, rfl⟩ := List.mem_map.mp hr
    have hfit := hfits w hw unit hunit a ha
    split <;> exact hfit
  · exact absurd hwrite (by simp)

private theorem fits_create (hfits : ∀ w ∈ rest, w.Fits db jobId)
    (hunit : w.materialUnit = some unit)
    (hsame : ∀ w' ∈ rest, w'.materialId = w.materialId → w'.materialUnit = w.materialUnit)
    {newId : Uuid} (hwrite : db.write (.createUsage (w.newUsage jobId newId unit)) = some db') :
    ∀ w ∈ rest, w.Fits db' jobId := by
  intro w' hw' unit' hunit' r hr hscope hopen
  obtain ⟨usage, husage, rfl⟩ := Option.map_eq_some_iff.mp hwrite
  rw [MaterialDatabase.setUsage, Table.rows_of_insert husage, List.mem_append,
    List.mem_singleton] at hr
  rcases hr with hr | rfl
  · exact hfits w' hw' unit' hunit' r hr hscope hopen
  · -- the scope has the material, which has one unit
    have hmaterial : w'.materialId = w.materialId := congrArg UsageScope.materialId hscope.symm
    have hunits := (hsame w' hw' hmaterial).trans hunit
    rw [Option.mem_def, hunits, Option.some_inj] at hunit'
    exact .inl hunit'

/-- A cycle that adds to rows in the canonical unit keeps the law. -/
theorem HoldsBookings.books {newId : UsageScope → Uuid} {want : List UsageRow}
    {later : List Booking} (hbooks : Books jobId newId want db later db') :
    ∀ {bookings : List Booking}, HoldsBookings db bookings → (∀ w ∈ want, w.Fits db jobId) →
      (∀ w ∈ want, ∀ w' ∈ want, w'.materialId = w.materialId →
        w'.materialUnit = w.materialUnit) → HoldsBookings db' (bookings ++ later) := by
  induction hbooks with
  | nil =>
    intro bookings h _ _
    rwa [List.append_nil]
  | noUnit _ _ ih =>
    intro bookings h hfits hsame
    exact ih h (fun w hw ↦ hfits w (List.mem_cons_of_mem _ hw))
      fun w hw w' hw' ↦ hsame w (List.mem_cons_of_mem _ hw) w' (List.mem_cons_of_mem _ hw')
  | frozen _ _ _ _ ih =>
    intro bookings h hfits hsame
    exact ih h (fun w hw ↦ hfits w (List.mem_cons_of_mem _ hw))
      fun w hw w' hw' ↦ hsame w (List.mem_cons_of_mem _ hw) w' (List.mem_cons_of_mem _ hw')
  | @increment w _ _ _ _ _ unit r hunit hfind hopen hwrite _ ih =>
    intro bookings h hfits hsame
    have hr := List.mem_of_find?_eq_some hfind
    have hscope := List.find?_some hfind
    rw [decide_eq_true_eq] at hscope
    have hfit := hfits w List.mem_cons_self unit hunit r hr hscope hopen
    rw [List.append_cons]
    exact ih (h.increment (Table.find_of_mem hr) hfit hwrite)
      (fits_increment (fun w hw ↦ hfits w (List.mem_cons_of_mem _ hw)) hwrite)
      fun w hw w' hw' ↦ hsame w (List.mem_cons_of_mem _ hw) w' (List.mem_cons_of_mem _ hw')
  | @create w _ _ _ _ _ unit hunit hfind hwrite _ ih =>
    intro bookings h hfits hsame
    rw [List.append_cons]
    exact ih (h.create hwrite)
      (fits_create (fun w hw ↦ hfits w (List.mem_cons_of_mem _ hw)) hunit
        (fun w' hw' ↦ hsame w List.mem_cons_self w' (List.mem_cons_of_mem _ hw')) hwrite)
      fun w hw w' hw' ↦ hsame w (List.mem_cons_of_mem _ hw) w' (List.mem_cons_of_mem _ hw')

theorem HoldsBookings.flush {p : MaterialShiftUsage → Bool} {now : Time}
    {ledgerId : FlushKey → Uuid}
    (h : HoldsBookings db bookings) (hflush : Flushes p now ledgerId db db') :
    HoldsBookings db' bookings := by
  have husage := hflush.usage
  refine ⟨fun r hr ↦ ?_, fun b hb ↦ ?_⟩
  · rw [husage] at hr
    obtain ⟨a, ha, rfl⟩ := List.mem_map.mp hr
    have hquantity := h.quantity a ha
    split <;> exact hquantity
  · have hids : db'.usage.rows.map MaterialShiftUsage.id
        = db.usage.rows.map MaterialShiftUsage.id := by
      rw [husage, List.map_map]
      refine List.map_congr_left fun a _ ↦ ?_
      rw [Function.comp_apply]
      split <;> rfl
    exact hids ▸ h.onRow b hb

theorem HoldsBookings.init (db : MaterialDatabase) :
    HoldsBookings db (MaterialState.init db).bookings where
  quantity r hr := by
    have hone : db.usage.rows.filter (fun a ↦ decide (a.id = r.id)) = [r] :=
      Table.filter_key (Table.find_of_mem hr)
    rw [bookedOn, MaterialState.init, List.filter_map, List.map_map]
    have hfilter : db.usage.rows.filter ((fun b : Booking ↦ decide (b.usageId = r.id)) ∘
        fun r ↦ ⟨r.id, r.scope.materialId, r.quantity, r.unit, r.quantity⟩) = [r] := hone
    rw [hfilter, List.map_singleton, List.sum_singleton, Function.comp_apply, convertWeight_self]
  onRow b hb := by
    obtain ⟨r, hr, rfl⟩ := List.mem_map.mp hb
    exact List.mem_map_of_mem hr

end

/-- **The quantity of a row is in its own unit**, in every run whose cycles add to rows in the
canonical unit only. -/
theorem usage_inOwnUnit {db : MaterialDatabase} {calls : List MaterialCall} {s : MaterialState}
    (hrun : Run materialStep InRowUnit (.init db) calls s) :
    ∀ r ∈ s.db.usage.rows, r.quantity = bookedOn s.bookings r.id r.unit := by
  have h : HoldsBookings s.db s.bookings := by
    induction hrun with
    | nil => exact .init db
    | @snoc _ _ call _ _ hok hstep h =>
      cases call with
      | cycle c newId =>
        obtain ⟨later, hbooks, hbookings⟩ := books_of_cycle hstep
        rw [hbookings]
        refine h.books hbooks hok fun w hw w' hw' hmaterial ↦ ?_
        rw [materialUnit_of_want hw, materialUnit_of_want hw', hmaterial]
      | flush shiftInstanceId now ledgerId =>
        obtain ⟨hflush, hbookings⟩ := flushes_of_flush hstep
        exact hbookings ▸ h.flush hflush
      | configure materials productMaterials altGroups facility =>
        cases hstep
        exact ⟨h.quantity, h.onRow⟩
  exact h.quantity

theorem usage_inOwnUnit_sample : ∃ s,
    Run materialStep InRowUnit (.init sampleMaterials) [sampleCycle 20, sampleCycle 21] s ∧
      (∃ r ∈ s.db.usage.rows, r.quantity = 4) ∧
      ∀ r ∈ s.db.usage.rows, r.quantity = bookedOn s.bookings r.id r.unit := by
  have hrun : ((execute materialStep InRowUnit [sampleCycle 20, sampleCycle 21]
      (.init sampleMaterials)).any fun s ↦
        decide (∃ r ∈ s.db.usage.rows, r.quantity = 4)) = true := by
    decide +kernel
  obtain ⟨s, hs, hfour⟩ := (Option.any_eq_true _ _).mp hrun
  exact ⟨s, run_of_execute hs, of_decide_eq_true hfour, usage_inOwnUnit (run_of_execute hs)⟩

/-- The material is stocked in grams from now on. -/
def sampleUnitChange : MaterialCall :=
  .configure [⟨7, some .g, none, none⟩] sampleMaterials.productMaterials []
    sampleMaterials.facility

/-- Two kilograms, and another two that are added as two thousand grams. -/
theorem not_usage_inOwnUnit : ∃ s, Run materialStep (fun _ _ ↦ True) (.init sampleMaterials)
    [sampleCycle 20, sampleUnitChange, sampleCycle 21] s ∧
      ∃ r ∈ s.db.usage.rows, r.unit = .kg ∧ r.quantity = 2002 ∧
        bookedOn s.bookings r.id r.unit = 4 := by
  have hrun : ((execute materialStep (fun _ _ ↦ True)
      [sampleCycle 20, sampleUnitChange, sampleCycle 21] (.init sampleMaterials)).any fun s ↦
        decide (∃ r ∈ s.db.usage.rows, r.unit = .kg ∧ r.quantity = 2002 ∧
          bookedOn s.bookings r.id r.unit = 4)) = true := by
    decide +kernel
  obtain ⟨s, hs, hmixed⟩ := (Option.any_eq_true _ _).mp hrun
  exact ⟨s, run_of_execute hs, of_decide_eq_true hmixed⟩

end RwServer
