import Mathlib
import RwServer.Cycle.Effects
import RwServer.Foundation.LeadingRow
import RwServer.Materials.Balance

/-!
# The shift of a cycle

`createFromCycle` and the metrics look the shift of a cycle up on their own, among the same
instances: those of the station's workcenter at a time, or those of its site where the workcenter
has none. The material goes to the one that starts last, at the time that the row of the cycle shows
when the items are created; the metrics count the cycle in the one of the newest rotation, at its
end. So they part where instances of two rotations overlap, and for a cycle that is still open when
its items are created and began in another shift (`cycleShift_eq_iff`).
-/

namespace RwServer

open Relational ReadCommitted

/-! ## The instances that apply -/

namespace ShiftInstance

/-- `ORDER BY si."startTime" DESC`. -/
def startsLater (i j : ShiftInstance) : Bool := decide (j.startTime < i.startTime)

/-- `ORDER BY sa."rotationStartDate" DESC`. -/
def isNewer (i j : ShiftInstance) : Bool := decide (j.rotationStartDate < i.rotationStartDate)

/-- `ORDER BY (si."workCenterId" IS NOT NULL) DESC, si."startTime" DESC`. -/
def comesBefore (i b : ShiftInstance) : Bool :=
  (b.workCenterId.isNone && i.workCenterId.isSome) ||
    (b.workCenterId.isSome == i.workCenterId.isSome && decide (b.startTime < i.startTime))

theorem isOrder_startsLater : IsOrder startsLater := isOrder_desc ShiftInstance.startTime

theorem isOrder_isNewer : IsOrder isNewer := isOrder_desc ShiftInstance.rotationStartDate

theorem isOrder_comesBefore : IsOrder comesBefore where
  trans {a b c} hab hbc := by
    rw [comesBefore] at hab hbc ⊢
    cases ha : a.workCenterId <;> cases hb : b.workCenterId <;> cases hc : c.workCenterId <;>
      simp_all <;> exact hbc.trans hab
  not_trans {a b c} hab hbc := by
    rw [comesBefore] at hab hbc ⊢
    cases ha : a.workCenterId <;> cases hb : b.workCenterId <;> cases hc : c.workCenterId <;>
      simp_all <;> exact hab.trans hbc

end ShiftInstance

namespace Facility

variable (f : Facility) (stationId siteId : Uuid) (t : Time)

/-- The instances of the station's workcenter at a time. -/
def overridesAt : List ShiftInstance :=
  f.shiftInstances.filter fun i ↦
    ((f.workcenterIdOf .station stationId).any fun wc ↦ i.isOfWorkcenter wc) && i.isAt t

/-- The instances of the site at a time. -/
def siteShiftsAt : List ShiftInstance :=
  f.shiftInstances.filter fun i ↦ i.isScopedTo siteId none && i.isAt t

/-- The instances that apply to a station at a time. -/
def applicableAt : List ShiftInstance :=
  if f.overridesAt stationId t = [] then f.siteShiftsAt siteId t else f.overridesAt stationId t

/-- The instances of the station's workcenter are instances of its site. -/
def OverridesOfSite : Prop :=
  ∀ i ∈ f.shiftInstances, ((f.workcenterIdOf .station stationId).any fun wc ↦
    i.isOfWorkcenter wc) = true → i.siteId = siteId

end Facility

section

variable {f : Facility} {stationId siteId : Uuid} {t : Time}

private theorem newest_eq_leading (rows : List ShiftInstance) :
    newest rows = leading ShiftInstance.isNewer rows := by
  rw [newest, leading]
  congr 1
  funext best i
  cases best with
  | none => rfl
  | some b => simp only [ShiftInstance.isNewer, decide_eq_true_eq]

/-- **The metrics** take the newest of the instances that apply. -/
theorem getShiftForEntity_eq : getShiftForEntity f .station stationId siteId t
    = (leading ShiftInstance.isNewer (f.applicableAt stationId siteId t)).map
        ShiftWindow.ofInstance := by
  have hoverrides : ((f.workcenterIdOf .station stationId).bind fun wc ↦
      newest (f.shiftInstances.filter fun i ↦ i.isOfWorkcenter wc && i.isAt t))
      = leading ShiftInstance.isNewer (f.overridesAt stationId t) := by
    rw [Facility.overridesAt]
    cases f.workcenterIdOf .station stationId with
    | none =>
      simp only [Option.any_none, Bool.false_and, Option.bind_none]
      rw [List.filter_false]
      rfl
    | some wc =>
      rw [Option.bind_some, newest_eq_leading]
      rfl
  rw [getShiftForEntity, queryShiftForEntity, hoverrides, newest_eq_leading, Facility.applicableAt]
  split
  · rename_i hnone
    rw [hnone]
    rfl
  · rename_i hsome
    obtain ⟨r, hr, -⟩ := exists_leading ShiftInstance.isOrder_isNewer hsome
    rw [hr, Option.some_or]

/-- An instance of a workcenter is a candidate of `cycle_shift` if it is one of the station's. -/
private theorem candidate_of_some {c : CycleClose} {i : ShiftInstance}
    (hi : i ∈ f.shiftInstances) (hsite : f.OverridesOfSite c.stationId c.siteId) :
    (i.workCenterId.isSome && (i.siteId == c.siteId && i.isAt c.time &&
      (i.workCenterId.isNone || ((f.workcenterIdOf .station c.stationId).isSome &&
        i.workCenterId == f.workcenterIdOf .station c.stationId))))
      = (((f.workcenterIdOf .station c.stationId).any fun wc ↦ i.isOfWorkcenter wc)
          && i.isAt c.time) := by
  have hown := hsite i hi
  rw [Bool.eq_iff_iff]
  cases hwc : f.workcenterIdOf .station c.stationId with
  | none => cases i.workCenterId <;> simp
  | some wc =>
    rw [hwc, Option.any_some, ShiftInstance.isOfWorkcenter] at hown
    rw [Option.any_some, ShiftInstance.isOfWorkcenter]
    cases hi : i.workCenterId with
    | none => simp
    | some w =>
      rw [hi] at hown
      simp only [Option.isSome_some, Option.isNone_some, Bool.true_and, Bool.false_or,
        Bool.and_eq_true, beq_iff_eq] at hown ⊢
      exact ⟨fun h ↦ ⟨h.2, h.1.2⟩, fun h ↦ ⟨⟨hown h.1, h.2⟩, h.1⟩⟩

/-- **The material** goes to the last of the instances that apply. -/
theorem cycleShift_eq {db : MaterialDatabase} {c : CycleClose}
    (hsite : db.facility.OverridesOfSite c.stationId c.siteId) :
    db.cycleShift c = (leading ShiftInstance.startsLater
      (db.facility.applicableAt c.stationId c.siteId c.time)).map ShiftInstance.id := by
  set candidates := db.facility.shiftInstances.filter fun i ↦
    i.siteId == c.siteId && i.isAt c.time &&
      (i.workCenterId.isNone || ((db.facility.workcenterIdOf .station c.stationId).isSome &&
        i.workCenterId == db.facility.workcenterIdOf .station c.stationId)) with hcandidates
  have hleading : db.cycleShift c
      = (leading ShiftInstance.comesBefore candidates).map ShiftInstance.id := by
    rw [MaterialDatabase.cycleShift, leading]
    congr 2
    funext best i
    cases best <;> rfl
  have hoverrides : candidates.filter (fun i ↦ i.workCenterId.isSome)
      = db.facility.overridesAt c.stationId c.time := by
    rw [hcandidates, List.filter_filter, Facility.overridesAt]
    exact List.filter_congr fun i hi ↦ candidate_of_some hi hsite
  rw [hleading, Facility.applicableAt, ← hoverrides]
  split
  · rename_i hnone
    -- all candidates are instances of the site
    have hsame : candidates = db.facility.siteShiftsAt c.siteId c.time := by
      rw [hcandidates, Facility.siteShiftsAt]
      refine List.filter_congr fun i hi ↦ ?_
      cases hwc : i.workCenterId with
      | none => simp [ShiftInstance.isScopedTo, hwc]
      | some wc =>
        have hnot : i ∉ candidates := fun hmem ↦
          List.filter_eq_nil_iff.mp hnone i hmem (by rw [hwc]; rfl)
        rw [hcandidates, List.mem_filter, not_and, hwc] at hnot
        rw [Bool.eq_false_iff.mpr (hnot hi), ShiftInstance.isScopedTo, hwc]
        simp
    rw [← hsame, leading_congr ShiftInstance.isOrder_comesBefore
      ShiftInstance.isOrder_startsLater fun a ha b hb ↦ ?_]
    have hnil : ∀ i ∈ candidates, i.workCenterId.isSome = false := fun i hi ↦
      Bool.eq_false_iff.mpr (List.filter_eq_nil_iff.mp hnone i hi)
    rw [ShiftInstance.comesBefore, hnil a ha, hnil b hb, Bool.and_false, Bool.false_or,
      beq_self_eq_true, Bool.true_and]
    rfl
  · rename_i hsome
    rw [leading_filter ShiftInstance.isOrder_comesBefore (fun a _ b _ ha hb ↦ ?_)
      (fun a _ b _ ha hb ↦ ?_) hsome, leading_congr ShiftInstance.isOrder_comesBefore
      ShiftInstance.isOrder_startsLater fun a ha b hb ↦ ?_]
    · rw [ShiftInstance.comesBefore, (List.mem_filter.mp ha).2, (List.mem_filter.mp hb).2,
        beq_self_eq_true, Bool.true_and, ← Option.not_isSome, (List.mem_filter.mp hb).2]
      rfl
    · rw [ShiftInstance.comesBefore, ← Option.not_isSome, ha, hb]
      rfl
    · rw [ShiftInstance.comesBefore, ← Option.not_isSome, ha, hb]
      rfl

end

/-! ## The cycles of a completion -/

/-- The cycles that a completion calls `createFromCycle` for, as they are stored when it does. -/
def bookedCycles (db : Database) (input : StartCycleInput) (args : StrategyArgs) : List Cycle :=
  if input.keepOpen then
    match db.cycles.rows.filter (isOpenCycleOf args.stationId) with
    | [] =>
      if db.cycles.rows.any (·.stationId == args.stationId) then []
      else [args.newCycle args.zeroCycleId args.timestamp (some args.timestamp)]
    -- their end is stored after the items have been created
    | openCycles => openCycles
  else [args.immediateCycle (prevCycleEnd db args.stationId)]

/-- The cycle as the query of `createFromCycle` reads it. -/
def Cycle.toClose (c : Cycle) (siteId jobId : Uuid) (items : List ItemSpec) : CycleClose where
  siteId := siteId
  stationId := c.stationId
  jobId := jobId
  -- `COALESCE(c."end", c."start")`
  time := c.cycleEnd.getD c.start
  items := items

section

variable {db db' : Database} {input : StartCycleInput} {args : StrategyArgs} {r : StrategyResult}
  {c : Cycle}

theorem stationId_of_mem_bookedCycles (hc : c ∈ bookedCycles db input args) :
    c.stationId = args.stationId := by
  rw [bookedCycles] at hc
  split at hc
  · split at hc
    · split at hc
      · exact absurd hc List.not_mem_nil
      · rw [List.mem_singleton.mp hc]
        rfl
    · exact (isOpenCycleOf_iff.mp (List.mem_filter.mp hc).2).1
  · rw [List.mem_singleton.mp hc]
    rfl

/-- The first half of an open/close completion creates the items of the booked cycles, which end at
its timestamp. -/
private theorem bookedCycles_of_halfDone {openStart : Option Time} {items : List InventoryItem}
    (hkeep : input.keepOpen = true) (h : HalfDone args db openStart items db') :
    db'.inventory.map InventoryBatch.cycleId = db.inventory.map InventoryBatch.cycleId
        ++ (bookedCycles db input args).map Cycle.id ∧
      ∀ c ∈ bookedCycles db input args, c.close args.timestamp ∈ db'.cycles.rows := by
  rw [bookedCycles, hkeep, if_pos rfl]
  cases h with
  | @closed first rest batches cycles hopen hbatches hcycles =>
    rw [hopen]
    refine ⟨?_, fun c hc ↦ ?_⟩
    · rw [Database.setCycles, Database.addBatches, List.map_append, map_cycleId_of_mapM hbatches]
    · have hmem : c ∈ db.cycles.rows ∧ isOpenCycleOf args.stationId c = true :=
        List.mem_filter.mp (hopen ▸ hc)
      rw [Database.setCycles, Table.rows_of_updateMany (mild_closeCycle _) hcycles]
      exact List.mem_map.mpr ⟨c, hmem.1, if_pos hmem.2⟩
  | previous hopen hprevious =>
    rw [hopen, hprevious]
    exact ⟨(List.append_nil _).symm, fun c hc ↦ absurd hc List.not_mem_nil⟩
  | @zero cycles batch hnone hcycles hbatch =>
    have hopen : db.cycles.rows.filter (isOpenCycleOf args.stationId) = [] := by
      refine List.filter_eq_nil_iff.mpr fun c hc hopen ↦ ?_
      exact List.any_eq_false.mp hnone c hc (beq_iff_eq.mpr (isOpenCycleOf_iff.mp hopen).1)
    rw [hopen, hnone]
    refine ⟨?_, fun c hc ↦ ?_⟩
    · rw [Database.addItems, List.map_append, List.map_singleton, createFromCycle_cycleId hbatch]
      rfl
    · rw [List.mem_singleton.mp hc, Database.addItems, Database.setCycles,
        Table.rows_of_insert hcycles]
      exact List.mem_append_right _ List.mem_cons_self

/-- **A completion creates the items** of the booked cycles, and these end at its timestamp. -/
theorem bookedCycles_strategy (h : (strategy input args).alone store db = some (db', r)) :
    db'.inventory.map InventoryBatch.cycleId = db.inventory.map InventoryBatch.cycleId
        ++ (bookedCycles db input args).map Cycle.id ∧
      ∀ c ∈ bookedCycles db input args, c.close args.timestamp ∈ db'.cycles.rows := by
  rw [strategy] at h
  cases hkeep : input.keepOpen with
  | true =>
    -- the new open cycle is inserted after the first half
    have hinsert : ∀ {db₁ : Database} {cycles : Table cycleSchema} {openStart items},
        HalfDone args db openStart items db₁ →
        db₁.cycles.insert (args.newCycle args.cycleId args.timestamp none) = some cycles →
        db'.cycles = cycles → db'.inventory = db₁.inventory →
        db'.inventory.map InventoryBatch.cycleId = db.inventory.map InventoryBatch.cycleId
            ++ (bookedCycles db input args).map Cycle.id ∧
          ∀ c ∈ bookedCycles db input args, c.close args.timestamp ∈ db'.cycles.rows := by
      intro db₁ cycles openStart items hhalf hcycles hdb' hinventory
      obtain ⟨hids, hends⟩ := bookedCycles_of_halfDone hkeep hhalf
      refine ⟨hinventory ▸ hids, fun c hc ↦ ?_⟩
      rw [hdb', Table.rows_of_insert hcycles]
      exact List.mem_append_left _ (hends c hc)
    cases hreplayed : input.replayed with
    | true =>
      rw [hreplayed, hkeep, if_pos rfl, if_pos rfl] at h
      obtain ⟨openStart, items, db₁, cycles, hhalf, hcycles, rfl⟩ :=
        alone_completeOpenCloseReplay h
      exact hinsert hhalf hcycles rfl rfl
    | false =>
      rw [hreplayed, hkeep, if_neg Bool.false_ne_true, if_pos rfl] at h
      obtain ⟨openStart, items, db₁, log, cycles, buckets, hhalf, -, hcycles, -, rfl⟩ :=
        alone_completeOpenClose h
      exact hinsert hhalf hcycles rfl rfl
  | false =>
    have hone : ∀ {cycles : Table cycleSchema} {batch : InventoryBatch},
        db.cycles.insert (args.immediateCycle (prevCycleEnd db args.stationId)) = some cycles →
        createFromCycle db args.cycleId args.jobId = some batch →
        db'.cycles = cycles → db'.inventory = db.inventory ++ [batch] →
        db'.inventory.map InventoryBatch.cycleId = db.inventory.map InventoryBatch.cycleId
            ++ (bookedCycles db input args).map Cycle.id ∧
          ∀ c ∈ bookedCycles db input args, c.close args.timestamp ∈ db'.cycles.rows := by
      intro cycles batch hcycles hbatch hdb' hinventory
      rw [bookedCycles, hkeep, if_neg Bool.false_ne_true, hinventory, List.map_append,
        List.map_singleton, createFromCycle_cycleId hbatch]
      refine ⟨rfl, fun c hc ↦ ?_⟩
      rw [List.mem_singleton.mp hc, hdb', Table.rows_of_insert hcycles]
      exact List.mem_append_right _ List.mem_cons_self
    cases hreplayed : input.replayed with
    | true =>
      rw [hreplayed, hkeep, if_pos rfl, if_neg Bool.false_ne_true, Tx.completeImmediateReplay,
        Program.alone_read] at h
      obtain ⟨cycles, batch, hcycles, hbatch, rfl⟩ := alone_immediateReplayLocked h
      exact hone hcycles hbatch rfl rfl
    | false =>
      rw [hreplayed, hkeep, if_neg Bool.false_ne_true, if_neg Bool.false_ne_true,
        Tx.completeImmediate, Program.alone_read] at h
      obtain ⟨cycles, log, batch, buckets, hcycles, -, hbatch, -, rfl⟩ := alone_immediateLocked h
      exact hone hcycles hbatch rfl rfl

end

/-! ## Agreement -/

/-- At both times no instance applies, or one does that starts last of those at the first, and is of
the newest rotation of those at the second. Of equals, the one that is found first counts. -/
def Facility.OneShift (f : Facility) (stationId siteId : Uuid) (booked ended : Time) : Prop :=
  f.applicableAt stationId siteId booked = [] ∧ f.applicableAt stationId siteId ended = [] ∨
    ∃ i, Leads ShiftInstance.startsLater (f.applicableAt stationId siteId booked) i ∧
      Leads ShiftInstance.isNewer (f.applicableAt stationId siteId ended) i

section

variable {db : Database} {mdb : MaterialDatabase} {input : StartCycleInput} {args : StrategyArgs}
  {c : Cycle} {siteId : Uuid}

private theorem mem_of_mem_applicableAt {f : Facility} {stationId : Uuid} {t : Time}
    {i : ShiftInstance} (h : i ∈ f.applicableAt stationId siteId t) : i ∈ f.shiftInstances := by
  rw [Facility.applicableAt] at h
  split at h <;> exact (List.mem_filter.mp h).1

/-- **Material and metrics agree on the shift of a cycle** exactly where one shift applies from the
time at which the items are created to the end of the cycle, and both queries prefer it. -/
theorem cycleShift_eq_iff (hids : (mdb.facility.shiftInstances.map ShiftInstance.id).Nodup)
    (hsite : mdb.facility.OverridesOfSite args.stationId siteId)
    (hc : c ∈ bookedCycles db input args) (items : List ItemSpec) :
    mdb.cycleShift (c.toClose siteId args.jobId items)
        = (getShiftForEntity mdb.facility .station args.stationId siteId args.timestamp).map
            ShiftWindow.shiftInstanceId ↔
      mdb.facility.OneShift args.stationId siteId (c.cycleEnd.getD c.start) args.timestamp := by
  have hstation := stationId_of_mem_bookedCycles hc
  have hmaterial : mdb.cycleShift (c.toClose siteId args.jobId items)
      = (leading ShiftInstance.startsLater (mdb.facility.applicableAt args.stationId siteId
          (c.cycleEnd.getD c.start))).map ShiftInstance.id := by
    rw [← hstation] at hsite ⊢
    exact cycleShift_eq hsite
  have hmetrics : (getShiftForEntity mdb.facility .station args.stationId siteId
      args.timestamp).map ShiftWindow.shiftInstanceId
      = (leading ShiftInstance.isNewer (mdb.facility.applicableAt args.stationId siteId
          args.timestamp)).map ShiftInstance.id := by
    rw [getShiftForEntity_eq, Option.map_map]
    rfl
  rw [hmaterial, hmetrics, Facility.OneShift]
  constructor
  · intro heq
    cases hlast : leading ShiftInstance.startsLater
        (mdb.facility.applicableAt args.stationId siteId (c.cycleEnd.getD c.start)) with
    | none =>
      rw [hlast, Option.map_none, eq_comm, Option.map_eq_none_iff] at heq
      exact .inl ⟨(leading_eq_none_iff ShiftInstance.isOrder_startsLater).mp hlast,
        (leading_eq_none_iff ShiftInstance.isOrder_isNewer).mp heq⟩
    | some i =>
      rw [hlast, Option.map_some, eq_comm] at heq
      obtain ⟨j, hj, hid⟩ := Option.map_eq_some_iff.mp heq
      have hleads := (leading_eq_some_iff ShiftInstance.isOrder_startsLater).mp hlast
      have hleads' := (leading_eq_some_iff ShiftInstance.isOrder_isNewer).mp hj
      -- an id identifies an instance
      have hsame : j = i := List.inj_on_of_nodup_map hids (mem_of_mem_applicableAt hleads'.mem)
        (mem_of_mem_applicableAt hleads.mem) hid
      exact .inr ⟨i, hleads, hsame ▸ hleads'⟩
  · rintro (⟨hbooked, hended⟩ | ⟨i, hbooked, hended⟩)
    · rw [hbooked, hended]
      rfl
    · rw [(leading_eq_some_iff ShiftInstance.isOrder_startsLater).mpr hbooked,
        (leading_eq_some_iff ShiftInstance.isOrder_isNewer).mpr hended]

end

/-- Two shifts of a site, one after the other. -/
def twoShifts : Facility :=
  { oneShiftFacility 0 1000 with
    shiftInstances := [⟨3, 4, 1, none, "Early", 0, 0, 1000, 0⟩,
      ⟨5, 4, 1, none, "Late", 0, 1000, 2000, 0⟩] }

/-- The second shift, and one of a newer rotation that began before it. -/
def twoRotations : Facility :=
  { oneShiftFacility 0 1000 with
    shiftInstances := [⟨5, 4, 1, none, "Late", 0, 1000, 2000, 0⟩,
      ⟨6, 7, 1, none, "New", 0, 900, 2000, 800⟩] }

/-- A station whose cycle has been open since the first shift. -/
def openPress : Database :=
  { (default : Database) with cycles := ⟨[⟨8, 2, 500, none, 9, none⟩], by simp, by simp⟩ }

/-- A completion in the second shift. -/
def pressArgs : StrategyArgs where
  stationId := 2
  timestamp := 1500
  jobId := 6
  jobBlobId := 9
  cycleId := 10
  zeroCycleId := 11
  stateId := 12
  freshBlockId := 13

theorem cycleShift_eq_immediate :
    MaterialDatabase.cycleShift { sampleMaterials with facility := twoShifts }
        ((pressArgs.immediateCycle none).toClose 1 6 [])
      = (getShiftForEntity twoShifts .station 2 1 1500).map ShiftWindow.shiftInstanceId := by
  have hsite : twoShifts.OverridesOfSite pressArgs.stationId 1 :=
    fun _ _ hover ↦ absurd hover Bool.false_ne_true
  have hlate : Leads ShiftInstance.startsLater (twoShifts.applicableAt 2 1 1500)
      ⟨5, 4, 1, none, "Late", 0, 1000, 2000, 0⟩ ∧
      Leads ShiftInstance.isNewer (twoShifts.applicableAt 2 1 1500)
        ⟨5, 4, 1, none, "Late", 0, 1000, 2000, 0⟩ :=
    ⟨⟨[], [], by decide +kernel, by simp, by simp⟩, ⟨[], [], by decide +kernel, by simp, by simp⟩⟩
  exact (@cycleShift_eq_iff default { sampleMaterials with facility := twoShifts }
    ⟨2, 1500, 6, false, false⟩ pressArgs (pressArgs.immediateCycle none) 1 (by decide) hsite
    (by decide +kernel) []).mpr (.inr ⟨_, hlate⟩)

/-- Material of a cycle that began in the first shift, and of one in the second. -/
theorem not_cycleShift_eq :
    (∃ c ∈ bookedCycles openPress ⟨2, 1500, 6, true, false⟩ pressArgs,
      MaterialDatabase.cycleShift { sampleMaterials with facility := twoShifts } (c.toClose 1 6 [])
          = some 3 ∧
        (getShiftForEntity twoShifts .station 2 1 1500).map ShiftWindow.shiftInstanceId = some 5) ∧
    ∃ c ∈ bookedCycles openPress ⟨2, 1500, 6, false, false⟩ pressArgs,
      MaterialDatabase.cycleShift { sampleMaterials with facility := twoRotations }
          (c.toClose 1 6 []) = some 5 ∧
        (getShiftForEntity twoRotations .station 2 1 1500).map ShiftWindow.shiftInstanceId
          = some 6 := by
  decide +kernel

end RwServer
