import RwServer.Cycle.Complete

/-!
# What a completion does when nothing else runs

One theorem for each statement, and from them one for each strategy: the database a strategy
commits is the old one with the new rows put in. The proofs about runs of completions cite these
and never look into a strategy again.
-/

namespace RwServer

open Relational ReadCommitted

namespace Database

/-- The items of several batches. -/
def addBatches (db : Database) (batches : List InventoryBatch) : Database :=
  { db with inventory := db.inventory ++ batches }

end Database

namespace Tx

variable {α : Type}

/-! ## Statements -/

theorem alone_insertCycle (c : Cycle) (next : Tx α) (db : Database) :
    (insertCycle c next).alone store db
      = (db.cycles.insert c).bind fun cycles ↦ next.alone store (db.setCycles cycles) := by
  rw [insertCycle, Program.alone_exec, writeAll_singleton, Database.write, Option.bind_map]
  rfl

theorem alone_createFromCycle (cycleId jobId : Uuid) (next : InventoryBatch → Tx α)
    (db : Database) : (createFromCycle cycleId jobId next).alone store db
      = (RwServer.createFromCycle db cycleId jobId).bind
        fun batch ↦ (next batch).alone store (db.addItems batch) := by
  rw [createFromCycle, Program.alone]
  cases RwServer.createFromCycle db cycleId jobId with
  | none => rfl
  | some batch => rfl

theorem alone_createFromCycles (jobId : Uuid) (cycleIds : List Uuid)
    (next : List InventoryBatch → Tx α) (db : Database) :
    (createFromCycles jobId next cycleIds).alone store db
      = (cycleIds.mapM fun id ↦ RwServer.createFromCycle db id jobId).bind
        fun batches ↦ (next batches).alone store (db.addBatches batches) := by
  induction cycleIds generalizing next db with
  | nil =>
    have hnone : db.addBatches [] = db := by rw [Database.addBatches, List.append_nil]
    rw [createFromCycles, List.mapM_nil, Option.pure_def, Option.bind_some, hnone]
  | cons id ids ih =>
    rw [createFromCycles, alone_createFromCycle, List.mapM_cons, Option.bind_eq_bind,
      Option.bind_assoc]
    refine Option.bind_congr fun batch _ ↦ ?_
    rw [ih, Option.bind_eq_bind, Option.bind_assoc]
    refine Option.bind_congr fun batches _ ↦ ?_
    rw [Database.addBatches, Database.addItems, List.append_assoc]
    rfl

/-- When nothing runs in between, the update closes what it found. -/
theorem alone_closeOpenCycles (stationId : Uuid) (timestamp : Time) (next : Tx α)
    (db : Database) : (closeOpenCycles stationId timestamp next).alone store db
      = (db.cycles.updateMany (isOpenCycleOf stationId) (Cycle.close timestamp)).bind
        fun cycles ↦ next.alone store (db.setCycles cycles) := by
  have hfound : db.cycles.changed
      (fun c ↦ ((db.cycles.rows.filter (isOpenCycleOf stationId)).map Cycle.id).contains c.id
        && isOpenCycleOf stationId c) (Cycle.close timestamp)
      = db.cycles.changed (isOpenCycleOf stationId) (Cycle.close timestamp) := by
    rw [Table.changed, Table.changed]
    congr 1
    refine List.filter_congr fun c hc ↦ ?_
    cases hopen : isOpenCycleOf stationId c with
    | false => rw [Bool.and_false]
    | true =>
      rw [Bool.and_true, List.contains_iff_mem]
      exact List.mem_map_of_mem (List.mem_filter.mpr ⟨hc, hopen⟩)
  rw [closeOpenCycles, Program.alone_read, Program.alone_exec, hfound, writeAll_updateCycle,
    Table.updateMany, Option.bind_map]
  rfl

theorem alone_markIfSlow (isSlow : Bool) (stateId : Uuid) (next : Tx α) (db : Database) :
    (markIfSlow isSlow stateId next).alone store db
      = (if isSlow then
          updateStateEntry db.stateLog stateId fun e ↦ { e with status := some .slow }
        else some db.stateLog).bind fun log ↦ next.alone store (db.setStateLog log) := by
  cases isSlow with
  | false => rfl
  | true =>
    rw [markIfSlow, if_pos rfl, if_pos rfl, markSlow, alone_updateStates]
    rfl

end Tx

/-! ## Facts about single rows -/

theorem isOpenCycleOf_iff {stationId : Uuid} {c : Cycle} :
    isOpenCycleOf stationId c = true ↔ c.stationId = stationId ∧ c.cycleEnd = none := by
  rw [isOpenCycleOf, Bool.and_eq_true, beq_iff_eq, Option.isNone_iff_eq_none]

theorem createFromCycle_cycleId {db : Database} {cycleId jobId : Uuid} {batch : InventoryBatch}
    (h : createFromCycle db cycleId jobId = some batch) : batch.cycleId = cycleId := by
  rw [createFromCycle] at h
  split at h
  · cases h
    rfl
  · split at h
    · cases h
    · cases h
      rfl

/-- The items of a batch belong to the cycle of the batch. -/
theorem cycleId_of_createFromCycle {db : Database} {cycleId jobId : Uuid} {batch : InventoryBatch}
    (h : createFromCycle db cycleId jobId = some batch) :
    ∀ item ∈ batch.items, item.cycleId = cycleId := by
  rw [createFromCycle] at h
  split at h
  · cases h
    exact fun item hitem ↦ absurd hitem (by simp)
  · split at h
    · cases h
    · cases h
      intro item hitem
      obtain ⟨spec, -, rfl⟩ := List.mem_map.mp hitem
      rfl

/-- A batch for each of the cycles, in their order. -/
theorem map_cycleId_of_mapM {db : Database} {jobId : Uuid} {cycleIds : List Uuid}
    {batches : List InventoryBatch}
    (h : cycleIds.mapM (fun id ↦ createFromCycle db id jobId) = some batches) :
    batches.map InventoryBatch.cycleId = cycleIds := by
  induction cycleIds generalizing batches with
  | nil =>
    cases h
    rfl
  | cons id ids ih =>
    rw [List.mapM_cons] at h
    obtain ⟨batch, hbatch, h⟩ := Option.bind_eq_some_iff.mp h
    obtain ⟨rest, hrest, h⟩ := Option.bind_eq_some_iff.mp h
    cases h
    rw [List.map_cons, createFromCycle_cycleId hbatch, ih hrest]

/-- Each of their items belongs to one of the cycles. -/
theorem cycleId_mem_of_mapM {db : Database} {jobId : Uuid} {cycleIds : List Uuid}
    {batches : List InventoryBatch}
    (h : cycleIds.mapM (fun id ↦ createFromCycle db id jobId) = some batches) :
    ∀ item ∈ batches.flatMap InventoryBatch.items, item.cycleId ∈ cycleIds := by
  induction cycleIds generalizing batches with
  | nil =>
    cases h
    exact fun item hitem ↦ absurd hitem (by simp)
  | cons id ids ih =>
    rw [List.mapM_cons] at h
    obtain ⟨batch, hbatch, h⟩ := Option.bind_eq_some_iff.mp h
    obtain ⟨rest, hrest, h⟩ := Option.bind_eq_some_iff.mp h
    cases h
    intro item hitem
    rw [List.flatMap_cons, List.mem_append] at hitem
    rcases hitem with hitem | hitem
    · exact cycleId_of_createFromCycle hbatch item hitem ▸ List.mem_cons_self
    · exact List.mem_cons_of_mem _ (ih hrest item hitem)

theorem mild_closeCycle (timestamp : Time) : Table.Mild cycleSchema (Cycle.close timestamp) where
  key _ := rfl
  clash _ _ h := h

/-! ## Immediate completions -/

/-- The duration of the cycle that an immediate completion inserts, in seconds. -/
def StrategyArgs.immediateSeconds (args : StrategyArgs) (prevEnd : Option Time) : ℚ :=
  args.secondsSince (args.immediateCycle prevEnd).start

/-- What `completeImmediate` does from the lock on. -/
theorem alone_immediateLocked {args : StrategyArgs} {prevEnd : Option Time}
    {row : Option StationStateLog} {db db' : Database} {r : StrategyResult}
    (h : (Tx.immediateLocked args prevEnd row).alone store db = some (db', r)) :
    ∃ cycles log batch buckets,
      db.cycles.insert (args.immediateCycle prevEnd) = some cycles ∧
      closeAndOpen row db.stateLog args.stateId args.freshBlockId args.stationId args.timestamp
        args.jobBlobId (args.isSlow (args.immediateSeconds prevEnd)) = some log ∧
      createFromCycle db args.cycleId args.jobId = some batch ∧
      IncrementedBy args.stationId args.timestamp 1 batch.items.length args.idealCycleIncrement
        (mathRound (max 0 (args.immediateSeconds prevEnd))) db.buckets buckets ∧
      db' = (((db.setCycles cycles).setStateLog log).addItems batch).setBuckets buckets := by
  rw [Tx.immediateLocked, Tx.alone_insertCycle] at h
  obtain ⟨cycles, hcycles, h⟩ := Option.bind_eq_some_iff.mp h
  rw [Tx.closeOpenStateEntries, Tx.alone_updateStates] at h
  obtain ⟨log₁, hclose, h⟩ := Option.bind_eq_some_iff.mp h
  rw [Tx.alone_insertState] at h
  obtain ⟨log₂, hinsert, h⟩ := Option.bind_eq_some_iff.mp h
  rw [Tx.alone_markIfSlow] at h
  obtain ⟨log, hlog, h⟩ := Option.bind_eq_some_iff.mp h
  rw [Tx.alone_createFromCycle] at h
  obtain ⟨batch, hbatch, h⟩ := Option.bind_eq_some_iff.mp h
  obtain ⟨buckets, hbuckets, h⟩ := Tx.alone_incrementHourCounts h
  cases h
  refine ⟨cycles, log, batch, buckets, hcycles, ?_, hbatch, hbuckets, rfl⟩
  rw [closeAndOpen]
  exact Option.bind_eq_some_iff.mpr ⟨log₁, hclose, Option.bind_eq_some_iff.mpr
    ⟨log₂, hinsert, hlog⟩⟩

theorem alone_immediateReplayLocked {args : StrategyArgs} {prevEnd : Option Time}
    {db db' : Database} {r : StrategyResult}
    (h : (Tx.immediateReplayLocked args prevEnd).alone store db = some (db', r)) :
    ∃ cycles batch, db.cycles.insert (args.immediateCycle prevEnd) = some cycles ∧
      createFromCycle db args.cycleId args.jobId = some batch ∧
      db' = (db.setCycles cycles).addItems batch := by
  rw [Tx.immediateReplayLocked, Tx.alone_insertCycle] at h
  obtain ⟨cycles, hcycles, h⟩ := Option.bind_eq_some_iff.mp h
  rw [Tx.alone_createFromCycle] at h
  obtain ⟨batch, hbatch, h⟩ := Option.bind_eq_some_iff.mp h
  cases h
  exact ⟨cycles, batch, hcycles, hbatch, rfl⟩

/-! ## Open/close completions -/

/-- What the first half of an open/close completion can do to the database, with the start of the
first closed cycle and the items it created. -/
inductive HalfDone (args : StrategyArgs) (db : Database) :
    Option Time → List InventoryItem → Database → Prop
  | closed {first : Cycle} {rest : List Cycle} {batches : List InventoryBatch}
      {cycles : Table cycleSchema} :
      db.cycles.rows.filter (isOpenCycleOf args.stationId) = first :: rest →
      ((first :: rest).map Cycle.id).mapM (fun id ↦ createFromCycle db id args.jobId)
        = some batches →
      db.cycles.updateMany (isOpenCycleOf args.stationId) (Cycle.close args.timestamp)
        = some cycles →
      HalfDone args db (some first.start) (batches.flatMap InventoryBatch.items)
        ((db.addBatches batches).setCycles cycles)
  | previous : db.cycles.rows.filter (isOpenCycleOf args.stationId) = [] →
      db.cycles.rows.any (·.stationId == args.stationId) = true →
      HalfDone args db none [] db
  | zero {cycles : Table cycleSchema} {batch : InventoryBatch} :
      db.cycles.rows.any (·.stationId == args.stationId) = false →
      db.cycles.insert (args.newCycle args.zeroCycleId args.timestamp (some args.timestamp))
        = some cycles →
      createFromCycle db args.zeroCycleId args.jobId = some batch →
      HalfDone args db none batch.items ((db.setCycles cycles).addItems batch)

theorem alone_closeOrCreateZero {α : Type} {args : StrategyArgs}
    {next : Option Time → List InventoryItem → Tx α} {db : Database} {r : Database × α}
    (h : (Tx.closeOrCreateZero args next).alone store db = some r) :
    ∃ openStart items db₁, HalfDone args db openStart items db₁ ∧
      (next openStart items).alone store db₁ = some r := by
  rw [Tx.closeOrCreateZero, Program.alone_read] at h
  cases hopen : db.cycles.rows.filter (isOpenCycleOf args.stationId) with
  | cons first rest =>
    rw [hopen] at h
    dsimp only at h
    rw [Tx.alone_createFromCycles] at h
    obtain ⟨batches, hbatches, h⟩ := Option.bind_eq_some_iff.mp h
    rw [Tx.alone_closeOpenCycles] at h
    obtain ⟨cycles, hcycles, h⟩ := Option.bind_eq_some_iff.mp h
    exact ⟨_, _, _, .closed hopen hbatches hcycles, h⟩
  | nil =>
    rw [hopen] at h
    dsimp only at h
    rw [Program.alone_read] at h
    cases hprev : db.cycles.rows.any (·.stationId == args.stationId) with
    | true =>
      rw [hprev, if_pos rfl] at h
      exact ⟨_, _, _, .previous hopen hprev, h⟩
    | false =>
      rw [hprev, if_neg (by simp), Tx.alone_insertCycle] at h
      obtain ⟨cycles, hcycles, h⟩ := Option.bind_eq_some_iff.mp h
      rw [Tx.alone_createFromCycle] at h
      obtain ⟨batch, hbatch, h⟩ := Option.bind_eq_some_iff.mp h
      exact ⟨_, _, _, .zero hprev hcycles hbatch, h⟩

/-- What `completeOpenClose` does. -/
theorem alone_completeOpenClose {args : StrategyArgs} {db db' : Database} {r : StrategyResult}
    (h : (Tx.completeOpenClose args).alone store db = some (db', r)) :
    ∃ openStart items db₁ log cycles buckets, HalfDone args db openStart items db₁ ∧
      (∃ res, transitionToUp db₁.stateLog args.stateId args.freshBlockId args.stationId
        args.timestamp
        { cycleDurationSeconds := openStart.map args.secondsSince
          slowThresholdSeconds := args.slowThresholdSeconds
          jobBlobId := some args.jobBlobId } = some (log, res)) ∧
      db₁.cycles.insert (args.newCycle args.cycleId args.timestamp none) = some cycles ∧
      IncrementedBy args.stationId args.timestamp 1 items.length args.idealCycleIncrement 0
        db₁.buckets buckets ∧
      db' = ((db₁.setStateLog log).setCycles cycles).setBuckets buckets := by
  rw [Tx.completeOpenClose] at h
  obtain ⟨openStart, items, db₁, hhalf, h⟩ := alone_closeOrCreateZero h
  rw [Tx.alone_transitionToUp] at h
  obtain ⟨⟨log, res⟩, hup, h⟩ := Option.bind_eq_some_iff.mp h
  dsimp only at h
  rw [Tx.alone_insertCycle] at h
  obtain ⟨cycles, hcycles, h⟩ := Option.bind_eq_some_iff.mp h
  obtain ⟨buckets, hbuckets, h⟩ := Tx.alone_incrementHourCounts h
  cases h
  exact ⟨openStart, items, db₁, log, cycles, buckets, hhalf, ⟨res, hup⟩, hcycles, hbuckets, rfl⟩

/-- What `completeOpenCloseReplay` does. -/
theorem alone_completeOpenCloseReplay {args : StrategyArgs} {db db' : Database}
    {r : StrategyResult} (h : (Tx.completeOpenCloseReplay args).alone store db = some (db', r)) :
    ∃ openStart items db₁ cycles, HalfDone args db openStart items db₁ ∧
      db₁.cycles.insert (args.newCycle args.cycleId args.timestamp none) = some cycles ∧
      db' = db₁.setCycles cycles := by
  rw [Tx.completeOpenCloseReplay] at h
  obtain ⟨openStart, items, db₁, hhalf, h⟩ := alone_closeOrCreateZero h
  rw [Tx.alone_insertCycle] at h
  obtain ⟨cycles, hcycles, h⟩ := Option.bind_eq_some_iff.mp h
  cases h
  exact ⟨openStart, items, db₁, cycles, hhalf, hcycles, rfl⟩

end RwServer
