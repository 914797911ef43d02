import RwServer.Cycle.Intervals

/-!
# Concurrent open/close completions

`completeOpenClose` reads the open cycles and creates their inventory before it takes the lock, and
`completeOpenCloseReplay` takes no lock at all. Run alone, either keeps at most one cycle open and
creates the inventory of each cycle once, when it closes it (`ClosedOnce.alone`). Two of them that
read the same open cycles both create its inventory and both open a new cycle.

So the law holds in every interleaving in which no completion commits after another one has
committed since its first step, which is the step that reads the open cycles
(`closedOnce_of_unoverlapped`).
-/

namespace RwServer

open Relational Transition ReadCommitted

/-- How often `createFromCycle` has been carried out for a cycle. -/
def Database.batchCount (db : Database) (cycleId : Uuid) : ℕ :=
  (db.inventory.map InventoryBatch.cycleId).count cycleId

/-- At most one cycle of the station is open, and the inventory of each of its cycles has been
created once if the cycle is closed, and not at all if it is open. -/
structure ClosedOnce (db : Database) (stationId : Uuid) : Prop where
  one_open : (db.cycles.rows.filter (isOpenCycleOf stationId)).length ≤ 1
  closed_once : ∀ c ∈ stationCycles db stationId, c.cycleEnd.isSome → db.batchCount c.id = 1
  open_none : ∀ c ∈ stationCycles db stationId, c.cycleEnd = none → db.batchCount c.id = 0
  /-- The foreign key of the inventory. -/
  known : ∀ b ∈ db.inventory, b.cycleId ∈ db.cycles.rows.map Cycle.id

/-- The same without an open cycle, as it is between the two halves of a completion. -/
structure Settled (db : Database) (stationId : Uuid) : Prop where
  closed_once : ∀ c ∈ stationCycles db stationId, c.cycleEnd.isSome ∧ db.batchCount c.id = 1
  known : ∀ b ∈ db.inventory, b.cycleId ∈ db.cycles.rows.map Cycle.id

theorem mem_stationCycles {db : Database} {stationId : Uuid} {c : Cycle} :
    c ∈ stationCycles db stationId ↔ c ∈ db.cycles.rows ∧ c.stationId = stationId := by
  rw [stationCycles, List.mem_filter, beq_iff_eq]

theorem batchCount_addBatches (db : Database) (batches : List InventoryBatch) (cycleId : Uuid) :
    (db.addBatches batches).batchCount cycleId
      = db.batchCount cycleId + (batches.map InventoryBatch.cycleId).count cycleId := by
  rw [Database.batchCount, Database.addBatches, List.map_append, List.count_append,
    Database.batchCount]

/-- A batch for a cycle that is not stored does not exist. -/
theorem batchCount_eq_zero {db : Database}
    (hknown : ∀ b ∈ db.inventory, b.cycleId ∈ db.cycles.rows.map Cycle.id) {cycleId : Uuid}
    (h : cycleId ∉ db.cycles.rows.map Cycle.id) : db.batchCount cycleId = 0 := by
  refine List.count_eq_zero.mpr fun hmem ↦ h ?_
  obtain ⟨b, hb, rfl⟩ := List.mem_map.mp hmem
  exact hknown b hb

/-! ## One completion -/

/-- **The first half settles the station.** -/
theorem ClosedOnce.settled {args : StrategyArgs} {db db₁ : Database} {openStart : Option Time}
    {items : List InventoryItem} (h : ClosedOnce db args.stationId)
    (hhalf : HalfDone args db openStart items db₁) : Settled db₁ args.stationId := by
  cases hhalf with
  | @closed first rest batches cycles hopen hbatches hcycles =>
    have hrows := Table.rows_of_updateMany (mild_closeCycle args.timestamp) hcycles
    have hids := map_cycleId_of_mapM hbatches
    refine ⟨fun c hc ↦ ?_, fun b hb ↦ ?_⟩
    · obtain ⟨hmem, hst⟩ := mem_stationCycles.mp hc
      change c ∈ cycles.rows at hmem
      rw [hrows, List.mem_map] at hmem
      obtain ⟨c₀, hc₀, rfl⟩ := hmem
      change _ ∧ (db.addBatches batches).batchCount _ = 1
      by_cases hisOpen : isOpenCycleOf args.stationId c₀ = true
      · -- a cycle that this completion closes
        rw [if_pos hisOpen, batchCount_addBatches, hids, ← hopen]
        have hst₀ := isOpenCycleOf_iff.mp hisOpen
        refine ⟨rfl, ?_⟩
        have hzero := h.open_none c₀ (mem_stationCycles.mpr ⟨hc₀, hst₀.1⟩) hst₀.2
        have hone : ((db.cycles.rows.filter (isOpenCycleOf args.stationId)).map Cycle.id).count
            c₀.id = 1 :=
          List.count_eq_one_of_mem ((List.filter_sublist.map _).nodup db.cycles.nodup)
            (List.mem_map_of_mem (List.mem_filter.mpr ⟨hc₀, hisOpen⟩))
        exact (congrArg₂ (· + ·) hzero hone).trans rfl
      · -- a cycle that was closed before
        rw [if_neg hisOpen] at hst ⊢
        have hclosed : c₀.cycleEnd.isSome := by
          rw [Option.isSome_iff_ne_none]
          exact fun hnone ↦ hisOpen (isOpenCycleOf_iff.mpr ⟨hst, hnone⟩)
        refine ⟨hclosed, ?_⟩
        rw [batchCount_addBatches, hids, ← hopen,
          h.closed_once c₀ (mem_stationCycles.mpr ⟨hc₀, hst⟩) hclosed,
          List.count_eq_zero_of_not_mem]
        intro hid
        obtain ⟨c', hc', hkey⟩ := List.mem_map.mp hid
        rw [List.mem_filter] at hc'
        exact hisOpen (db.cycles.eq_of_key_eq hc'.1 hc₀ hkey ▸ hc'.2)
    · have hkeys : cycles.rows.map Cycle.id = db.cycles.rows.map Cycle.id :=
        Table.map_key_of_updateMany (mild_closeCycle args.timestamp) hcycles
      change b.cycleId ∈ cycles.rows.map Cycle.id
      rw [hkeys]
      rcases List.mem_append.mp hb with hb | hb
      · exact h.known b hb
      · have hid := List.mem_map_of_mem (f := InventoryBatch.cycleId) hb
        rw [hids, ← hopen] at hid
        exact (List.filter_sublist.map _).subset hid
  | previous hopen hprev =>
    -- nothing is open, so nothing is left to be settled
    refine ⟨fun c hc ↦ ?_, h.known⟩
    have hclosed : c.cycleEnd.isSome := by
      rw [Option.isSome_iff_ne_none]
      intro hnone
      have hmem : c ∈ db.cycles.rows.filter (isOpenCycleOf args.stationId) := by
        rw [mem_stationCycles] at hc
        exact List.mem_filter.mpr ⟨hc.1, isOpenCycleOf_iff.mpr ⟨hc.2, hnone⟩⟩
      rw [hopen] at hmem
      exact absurd hmem (by simp)
    exact ⟨hclosed, h.closed_once c hc hclosed⟩
  | @zero cycles batch hprev hcycles hbatch =>
    obtain ⟨hfresh, -, hrows⟩ := Table.insert_eq_some_iff.mp hcycles
    have hbatchId := createFromCycle_cycleId hbatch
    -- the zero cycle is the only one of the station
    have hempty : ∀ c ∈ db.cycles.rows, c.stationId ≠ args.stationId := by
      intro c hc hst
      rw [List.any_eq_false] at hprev
      exact hprev c hc (beq_iff_eq.mpr hst)
    refine ⟨fun c hc ↦ ?_, fun b hb ↦ ?_⟩
    · obtain ⟨hmem, hst⟩ := mem_stationCycles.mp hc
      change c ∈ cycles.rows at hmem
      rw [hrows, List.mem_append, List.mem_singleton] at hmem
      rcases hmem with hmem | rfl
      · exact absurd hst (hempty c hmem)
      · refine ⟨rfl, ?_⟩
        have hzero : db.batchCount args.zeroCycleId = 0 := batchCount_eq_zero h.known hfresh
        change (db.addBatches [batch]).batchCount args.zeroCycleId = 1
        rw [batchCount_addBatches, hzero, List.map_singleton, hbatchId, List.count_singleton_self]
    · change b.cycleId ∈ cycles.rows.map Cycle.id
      rw [hrows, List.map_append]
      rcases List.mem_append.mp hb with hb | hb
      · exact List.mem_append_left _ (h.known b hb)
      · rw [List.mem_singleton.mp hb, hbatchId]
        exact List.mem_append_right _ (List.mem_singleton_self _)

/-- The new open cycle after that. -/
theorem Settled.closedOnce {args : StrategyArgs} {db db' : Database}
    (h : Settled db args.stationId) {cycles : Table cycleSchema}
    (hcycles : db.cycles.insert (args.newCycle args.cycleId args.timestamp none) = some cycles)
    (hdb : db'.cycles = cycles) (hinv : db'.inventory = db.inventory) :
    ClosedOnce db' args.stationId := by
  obtain ⟨hfresh, -, hrows⟩ := Table.insert_eq_some_iff.mp hcycles
  have hcount : ∀ id, db'.batchCount id = db.batchCount id := fun id ↦ by
    rw [Database.batchCount, hinv, Database.batchCount]
  have hmem : ∀ c ∈ stationCycles db' args.stationId, c ∈ stationCycles db args.stationId ∨
      c = args.newCycle args.cycleId args.timestamp none := by
    intro c hc
    obtain ⟨hmem, hst⟩ := mem_stationCycles.mp hc
    rw [hdb, hrows, List.mem_append, List.mem_singleton] at hmem
    exact hmem.imp (fun hm ↦ mem_stationCycles.mpr ⟨hm, hst⟩) id
  refine ⟨?_, fun c hc hsome ↦ ?_, fun c hc hnone ↦ ?_, fun b hb ↦ ?_⟩
  · have hnil : db.cycles.rows.filter (isOpenCycleOf args.stationId) = [] := by
      refine List.filter_eq_nil_iff.mpr fun c hc hopen ↦ ?_
      rw [isOpenCycleOf_iff] at hopen
      have := (h.closed_once c (mem_stationCycles.mpr ⟨hc, hopen.1⟩)).1
      rw [hopen.2] at this
      exact absurd this (by simp)
    rw [hdb, hrows, List.filter_append, hnil, List.nil_append]
    exact List.length_filter_le _ _
  · rcases hmem c hc with hold | rfl
    · rw [hcount]
      exact (h.closed_once c hold).2
    · exact absurd hsome (by simp [StrategyArgs.newCycle])
  · rcases hmem c hc with hold | rfl
    · have := (h.closed_once c hold).1
      rw [hnone] at this
      exact absurd this (by simp)
    · rw [hcount]
      exact batchCount_eq_zero h.known hfresh
  · rw [hdb, hrows, List.map_append]
    rw [hinv] at hb
    exact List.mem_append_left _ (h.known b hb)

/-! ## Any number of completions -/

/-- A call of an open/close strategy. -/
inductive OpenCloseCall
  | live (args : StrategyArgs)
  | replayed (args : StrategyArgs)
deriving DecidableEq

namespace OpenCloseCall

def args : OpenCloseCall → StrategyArgs
  | live args => args
  | replayed args => args

def program : OpenCloseCall → Tx StrategyResult
  | live args => Tx.completeOpenClose args
  | replayed args => Tx.completeOpenCloseReplay args

end OpenCloseCall

/-- **One completion alone** keeps the law. -/
theorem ClosedOnce.alone {call : OpenCloseCall} {db db' : Database} {r : StrategyResult}
    (h : ClosedOnce db call.args.stationId)
    (halone : call.program.alone store db = some (db', r)) :
    ClosedOnce db' call.args.stationId := by
  cases call with
  | live args =>
    obtain ⟨openStart, items, db₁, log, cycles, buckets, hhalf, -, hcycles, -, rfl⟩ :=
      alone_completeOpenClose halone
    exact (h.settled hhalf).closedOnce hcycles rfl rfl
  | replayed args =>
    obtain ⟨openStart, items, db₁, cycles, hhalf, hcycles, rfl⟩ :=
      alone_completeOpenCloseReplay halone
    exact (h.settled hhalf).closedOnce hcycles rfl rfl

/-- **Each cycle is closed once where no commit overlaps another completion.** In every
interleaving of open/close completions of a station in which none commits after another one has
committed since its first step, the step that reads the open cycles, at most one cycle is open and
every closed cycle had its inventory created exactly once, in every state that is reached. -/
theorem closedOnce_of_unoverlapped {ι : Type} [Fintype ι] [DecidableEq ι]
    {calls : ι → OpenCloseCall} {stationId : Uuid}
    (hstation : ∀ i, (calls i).args.stationId = stationId) {db : Database}
    (hstart : ClosedOnce db stationId) {ms : List (Move ι)}
    {y : System Database Write LockInfo StrategyResult ι}
    (hrun : Run (step store) Unoverlapped (.start db fun i ↦ (calls i).program) ms y) :
    ClosedOnce y.committed stationId := by
  refine committed_of_unoverlapped (ClosedOnce · stationId) hstart ?_ hrun
  intro i s s' r hs halone
  rw [← hstation i] at hs ⊢
  exact hs.alone halone

/-- A station whose only cycle is open. -/
def openCycleDatabase : Database :=
  { (default : Database) with cycles := ⟨[⟨1, 1, 0, none, 1, none⟩], by decide, by decide⟩ }

private theorem closedOnce_openCycleDatabase : ClosedOnce openCycleDatabase 1 :=
  ⟨by decide, by decide, by decide, by decide⟩

/-- A live and a replayed completion. -/
def liveAndReplayed (i : Bool) : OpenCloseCall :=
  if i then .replayed (completionAt 300 3) else .live (completionAt 200 2)

/-- Both read the open cycle before one of them commits. -/
def bothReadFirst : List (Move Bool) :=
  List.replicate 3 (.run false) ++ List.replicate 3 (.run true) ++
    List.replicate 7 (.run false) ++ List.replicate 3 (.run true)

/-- Two overlapping completions create the inventory of the open cycle twice, and leave two cycles
open. -/
theorem openClose_twice : ClosedOnce openCycleDatabase 1 ∧
    ∃ y, Run (step store) (fun _ _ ↦ True)
        (.start openCycleDatabase fun i ↦ (liveAndReplayed i).program) bothReadFirst y ∧
      (∀ i, (y.sessions i).phase = .committed) ∧ y.committed.batchCount 1 = 2 ∧
      (y.committed.cycles.rows.filter (isOpenCycleOf 1)).length = 2 ∧
      ¬ClosedOnce y.committed 1 := by
  have hexec : (execute (step store) (fun _ _ ↦ True) bothReadFirst
      (.start openCycleDatabase fun i ↦ (liveAndReplayed i).program)).map
      (fun y ↦ ((y.sessions false).phase, (y.sessions true).phase, y.committed.batchCount 1,
        (y.committed.cycles.rows.filter (isOpenCycleOf 1)).length))
      = some (.committed, .committed, 2, 2) := by decide
  obtain ⟨y, hy, hres⟩ := Option.map_eq_some_iff.mp hexec
  obtain ⟨hfalse, htrue, hbatches, hopen⟩ :
      (y.sessions false).phase = .committed ∧ (y.sessions true).phase = .committed ∧
        y.committed.batchCount 1 = 2 ∧
        (y.committed.cycles.rows.filter (isOpenCycleOf 1)).length = 2 := by
    simpa only [Prod.mk.injEq] using hres
  refine ⟨closedOnce_openCycleDatabase, y, run_of_execute hy, ?_, hbatches, hopen, fun h ↦ ?_⟩
  · rintro (_ | _)
    · exact hfalse
    · exact htrue
  · have := h.one_open
    rw [hopen] at this
    exact absurd this (by decide)

/-- One completion after the other. -/
theorem closedOnce_of_unoverlapped_serial : ∃ y, Run (step store) Unoverlapped
      (.start openCycleDatabase fun i ↦ (liveAndReplayed i).program)
      (List.replicate 10 (.run false) ++ List.replicate 6 (.run true)) y ∧
    (∀ i, (y.sessions i).phase = .committed) ∧ ClosedOnce y.committed 1 := by
  have hexec : (execute (step store) Unoverlapped
      (List.replicate 10 (.run false) ++ List.replicate 6 (.run true))
      (.start openCycleDatabase fun i ↦ (liveAndReplayed i).program)).map
      (fun y ↦ ((y.sessions false).phase, (y.sessions true).phase))
      = some (.committed, .committed) := by decide
  obtain ⟨y, hy, hres⟩ := Option.map_eq_some_iff.mp hexec
  obtain ⟨hfalse, htrue⟩ := Prod.mk.inj hres
  have hrun := run_of_execute hy
  refine ⟨y, hrun, ?_, closedOnce_of_unoverlapped
    (show ∀ i, (liveAndReplayed i).args.stationId = 1 by decide) closedOnce_openCycleDatabase hrun⟩
  rintro (_ | _)
  · exact hfalse
  · exact htrue

end RwServer
