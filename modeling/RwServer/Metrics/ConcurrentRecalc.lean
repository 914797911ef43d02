import Mathlib
import RwServer.Metrics.RecalcSteps

/-!
# Counts survive a concurrent recalculation

A recalculation overwrites the counts of an hour with what it has read before. A cycle that is
committed in between is lost from the counts; a correction of scrap is lost if it is made in
between, and counted twice if its log is read and its increment comes after the overwrite. Where
neither happens (`KeepsCounts`), the row of the hour ends up with the counts that the stored rows
give (`recalc_keepsCounts`).

The row has the stored counts in every state, but for the scrap that is recorded and not yet added;
and what a recalculation has read is what is stored, but for what has been recorded since.
-/

namespace RwServer

open Relational ReadCommitted Transition

/-! ## Where a count is lost -/

section

variable {m n : ℕ} (sc : Recalculations m)

/-- A log is written as it has been read. -/
def Recalculations.StillAsFound (s : RecalcState m n) (id : Uuid) (current : ℤ) : Prop :=
  ∀ log ∈ s.dispositions.find id, log.quantity = current ∧ log.deletedAt = none

/-- A recalculation overwrites the row with what is stored: the cycles it has read are those of the
hour, and the corrections it has read are those that have been added to the row. -/
def Recalculations.IsCurrent (s : RecalcState m n) (phase : RecalcPhase m) : Prop :=
  phase.cycles = some (cyclesInBucket s.db sc.w.stationId sc.w.startTime sc.w.endTime none) ∧
    ∀ j, phase.seen j = (s.calls j).isAdded

/-- A step at which no count is lost. -/
def Recalculations.KeepsCounts (s : RecalcState m n) : RecalcStatement m n → Prop
  | .record j => match s.calls j, sc.calls j with
    | .found current, .update id _ => StillAsFound s id current
    | .found current, .remove id _ => StillAsFound s id current
    | _, _ => True
  | .overwrite i => sc.IsCurrent s (s.recalcs i)
  | _ => True

instance decidableStillAsFound (s : RecalcState m n) (id : Uuid) (current : ℤ) :
    Decidable (Recalculations.StillAsFound s id current) :=
  inferInstanceAs (Decidable (∀ log ∈ _, _))

instance decidableIsCurrent (s : RecalcState m n) (phase : RecalcPhase m) :
    Decidable (sc.IsCurrent s phase) :=
  inferInstanceAs (Decidable (_ ∧ _))

instance decidableKeepsCounts (s : RecalcState m n) (statement : RecalcStatement m n) :
    Decidable (sc.KeepsCounts s statement) := by
  unfold Recalculations.KeepsCounts
  split
  · split <;> infer_instance
  · infer_instance
  · infer_instance

end

/-! ## The invariant -/

namespace DispositionPhase

/-- What the call changes the scrap of the hour by, once it is recorded. -/
def quantity : DispositionPhase → ℤ
  | recorded q | added q => q
  | _ => 0

/-- What is recorded and not yet added. -/
def pending : DispositionPhase → ℤ
  | recorded q => q
  | _ => 0

theorem pending_eq (phase : DispositionPhase) :
    phase.pending = if phase.isAdded then 0 else phase.quantity := by
  cases phase <;> rfl

theorem quantity_eq_zero {phase : DispositionPhase} (h : phase.isRecorded = false) :
    phase.quantity = 0 := by
  cases phase <;> first | rfl | exact absurd h (by simp [isRecorded])

end DispositionPhase

section

variable {m n : ℕ}

/-- The scrap that the stored logs give. -/
def RecalcState.storedBadItems (s : RecalcState m n) (w : HourWindow) : ℤ :=
  queryDispositionBadItems w s.dispositions

/-- What a recalculation has read. -/
structure RecalcOk (w : HourWindow) (s : RecalcState m n) (phase : RecalcPhase m) : Prop where
  known : ∀ cycles ∈ phase.cycles, ∀ c ∈ cycles, c.id ∈ s.db.cycles.rows.map Cycle.id
  tally : ∀ tally ∈ phase.tally, ∃ cycles ∈ phase.cycles, tally.totalCycles = cycles.length ∧
    tally.totalItems = (cycles.map fun c ↦ s.db.itemCount c.id).sum
  seen : ∀ j, phase.seen j = true → (s.calls j).isRecorded = true
  badItems : ∀ badItems ∈ phase.badItems, s.storedBadItems w
    = badItems + ∑ j, if phase.seen j then 0 else (s.calls j).quantity

/-- The row has the stored counts, but for what is pending, and every item belongs to a cycle. -/
structure RecalcInvariant (w : HourWindow) (s : RecalcState m n) : Prop where
  known : ∀ item ∈ s.db.items, item.cycleId ∈ s.db.cycles.rows.map Cycle.id
  totalCycles : Agrees BucketCounts.totalCycles w s.db
  totalItems : Agrees BucketCounts.totalItems w s.db
  badItems : s.storedBadItems w = s.badItems + ∑ j, (s.calls j).pending
  recalcs : ∀ i, RecalcOk w s (s.recalcs i)

end

/-! ## A completion -/

section

variable {w : HourWindow} {args : StrategyArgs} {prevEnd : Option Time}
  {row : Option StationStateLog} {db db' : Database} {r : StrategyResult}

/-- The completion is one of the hour. -/
def StrategyArgs.IsIn (args : StrategyArgs) (w : HourWindow) : Prop :=
  args.stationId = w.stationId ∧ w.startTime ≤ args.timestamp ∧ args.timestamp < w.endTime

instance decidableIsIn (args : StrategyArgs) (w : HourWindow) : Decidable (args.IsIn w) :=
  inferInstanceAs (Decidable (_ ∧ _))

theorem endsInBucket_immediateCycle : endsInBucket w.stationId w.startTime w.endTime
    (args.immediateCycle prevEnd) = decide (args.IsIn w) := by
  rw [Bool.eq_iff_iff, decide_eq_true_eq]
  simp [endsInBucket, StrategyArgs.immediateCycle, StrategyArgs.newCycle, StrategyArgs.IsIn]

theorem isHourOf_eq {b : MetricBucket} (h : w.IsRow b) :
    b.isHourOf args.stationId args.timestamp = decide (args.IsIn w) := by
  obtain ⟨htype, hid, hgran, hstart, hdur⟩ := h
  have hend : b.endTime = w.endTime := by
    rw [MetricBucket.endTime, hstart, hdur, HourWindow.endTime]
  rw [Bool.eq_iff_iff, decide_eq_true_eq]
  simp [MetricBucket.isHourOf, htype, hid, hgran, hstart, hend, StrategyArgs.IsIn, and_assoc,
    eq_comm (a := w.stationId)]

/-- What a commit stores: a cycle with a new id, and its items. -/
structure Committed (args : StrategyArgs) (prevEnd : Option Time) (batch : InventoryBatch)
    (db db' : Database) : Prop where
  cycles : db'.cycles.rows = db.cycles.rows ++ [args.immediateCycle prevEnd]
  fresh : args.cycleId ∉ db.cycles.rows.map Cycle.id
  items : db'.items = db.items ++ batch.items
  owned : ∀ item ∈ batch.items, item.cycleId = args.cycleId
  buckets : ∃ idealSeconds totalCycleSeconds, IncrementedBy args.stationId args.timestamp 1
    batch.items.length idealSeconds totalCycleSeconds db.buckets db'.buckets

theorem committed_of_alone
    (h : (Tx.immediateLocked args prevEnd row).alone store db = some (db', r)) :
    ∃ batch, Committed args prevEnd batch db db' := by
  obtain ⟨cycles, log, batch, buckets, hcycles, -, hbatch, hbuckets, rfl⟩ :=
    alone_immediateLocked h
  obtain ⟨hfresh, -, hrows⟩ := Table.insert_eq_some_iff.mp hcycles
  exact ⟨batch, hrows, hfresh, List.flatMap_append.trans (by
    rw [List.flatMap_singleton]; rfl), cycleId_of_createFromCycle hbatch, _, _, hbuckets⟩

variable {batch : InventoryBatch}

theorem Committed.known (h : Committed args prevEnd batch db db')
    (hknown : ∀ item ∈ db.items, item.cycleId ∈ db.cycles.rows.map Cycle.id) :
    ∀ item ∈ db'.items, item.cycleId ∈ db'.cycles.rows.map Cycle.id := by
  intro item hitem
  rw [h.cycles, List.map_append]
  rw [h.items, List.mem_append] at hitem
  rcases hitem with hitem | hitem
  · exact List.mem_append_left _ (hknown item hitem)
  · exact List.mem_append_right _ (List.mem_singleton.mpr (h.owned item hitem))

theorem Committed.itemCount_of_ne (h : Committed args prevEnd batch db db') {id : Uuid}
    (hid : id ≠ args.cycleId) : db'.itemCount id = db.itemCount id := by
  have hnone : batch.items.countP (·.cycleId == id) = 0 :=
    List.countP_eq_zero.mpr fun item hitem ↦ by
      rw [h.owned item hitem, beq_iff_eq]
      exact hid.symm
  change ((db'.items.countP (·.cycleId == id) : ℕ) : ℤ) = (db.items.countP (·.cycleId == id) : ℕ)
  rw [h.items, List.countP_append, hnone, add_zero]

/-- The new cycle has the new items. -/
theorem Committed.itemCount_self (h : Committed args prevEnd batch db db')
    (hknown : ∀ item ∈ db.items, item.cycleId ∈ db.cycles.rows.map Cycle.id) :
    db'.itemCount args.cycleId = batch.items.length := by
  have hnone : db.items.countP (·.cycleId == args.cycleId) = 0 :=
    List.countP_eq_zero.mpr fun item hitem ↦ by
      rw [beq_iff_eq]
      exact fun heq ↦ h.fresh (heq ▸ hknown item hitem)
  have hall : batch.items.countP (·.cycleId == args.cycleId) = batch.items.length :=
    List.countP_eq_length.mpr fun item hitem ↦ by rw [h.owned item hitem, beq_self_eq_true]
  change ((db'.items.countP (·.cycleId == args.cycleId) : ℕ) : ℤ) = _
  rw [h.items, List.countP_append, hnone, hall, zero_add]

theorem Committed.cyclesInBucket (h : Committed args prevEnd batch db db') :
    cyclesInBucket db' w.stationId w.startTime w.endTime none
      = cyclesInBucket db w.stationId w.startTime w.endTime none ++
        if args.IsIn w then [args.immediateCycle prevEnd] else [] := by
  rw [cyclesInBucket_none, cyclesInBucket_none, h.cycles, List.filter_append, List.filter_cons,
    endsInBucket_immediateCycle, List.filter_nil]
  simp only [decide_eq_true_eq]

/-- The stored rows give one cycle more, and its items. -/
theorem Committed.recomputed (h : Committed args prevEnd batch db db')
    (hknown : ∀ item ∈ db.items, item.cycleId ∈ db.cycles.rows.map Cycle.id) :
    (w.recomputed db').totalCycles
        = (w.recomputed db).totalCycles + (if args.IsIn w then 1 else 0) ∧
      (w.recomputed db').totalItems
        = (w.recomputed db).totalItems
          + (if args.IsIn w then (batch.items.length : ℤ) else 0) := by
  have hold : (RwServer.cyclesInBucket db w.stationId w.startTime w.endTime none).map
      (fun c ↦ db'.itemCount c.id) = (RwServer.cyclesInBucket db w.stationId w.startTime w.endTime
        none).map fun c ↦ db.itemCount c.id :=
    List.map_congr_left fun c hc ↦ h.itemCount_of_ne fun heq ↦ h.fresh (heq ▸
      List.mem_map_of_mem (List.mem_of_mem_filter hc))
  rw [HourWindow.recomputed_eq, HourWindow.recomputed_eq]
  dsimp only
  rw [h.cyclesInBucket, List.map_append, List.sum_append, hold, List.length_append, Nat.cast_add]
  split
  · refine ⟨rfl, ?_⟩
    rw [List.map_singleton, List.sum_singleton]
    exact congrArg _ (h.itemCount_self hknown)
  · exact ⟨rfl, rfl⟩

/-- The row of the hour counts what the stored rows count. -/
theorem Agrees.commit {count : BucketCounts → ℤ} {δ : ℤ} (h : Agrees count w db)
    (hcommit : Committed args prevEnd batch db db')
    (hadd : ∀ (b : MetricBucket) idealSeconds totalCycleSeconds, count (b.increment 1
      batch.items.length idealSeconds totalCycleSeconds).counts = count b.counts + δ)
    (hgrow : count (w.recomputed db') = count (w.recomputed db) + if args.IsIn w then δ else 0) :
    Agrees count w db' := by
  obtain ⟨b, hb, hrow, hcount⟩ := h
  obtain ⟨idealSeconds, totalCycleSeconds, hbuckets⟩ := hcommit.buckets
  refine ⟨if b.isHourOf args.stationId args.timestamp then
    b.increment 1 batch.items.length idealSeconds totalCycleSeconds else b, ?_, ?_, ?_⟩
  · rw [hbuckets]
    exact List.mem_map_of_mem hb
  · split
    · exact hrow
    · exact hrow
  · rw [isHourOf_eq hrow, hgrow, ← hcount]
    simp only [decide_eq_true_eq]
    split
    · exact hadd b _ _
    · rw [add_zero]

end

/-! ## A disposition log -/

section

variable {w : HourWindow} {dispositions dispositions' : Table dispositionSchema}
  {log : ItemDispositionLog} {id : Uuid}

theorem query_insert (h : dispositions.insert log = some dispositions') :
    queryDispositionBadItems w dispositions'
      = queryDispositionBadItems w dispositions + w.scrapOf log := by
  rw [queryDispositionBadItems, queryDispositionBadItems, Table.rows_of_insert h, List.map_append,
    List.sum_append, List.map_singleton, List.sum_singleton]

/-- The logs besides the updated one count as before. -/
theorem query_updateLog {f : ItemDispositionLog → ItemDispositionLog}
    (hf : Table.Mild dispositionSchema f) (h : dispositions.find id = some log) :
    queryDispositionBadItems w (updateLog id f hf dispositions)
      = queryDispositionBadItems w dispositions - w.scrapOf log + w.scrapOf (f log) := by
  obtain ⟨hlog, hid⟩ := Table.find_eq_some_iff.mp h
  obtain ⟨rest, hperm, hrest⟩ := dispositions.exists_perm_cons hlog
  have hsame : rest.map (fun a ↦ w.scrapOf (if decide (dispositionSchema.key a = id) then f a
      else a)) = rest.map w.scrapOf := List.map_congr_left fun a ha ↦ by
    rw [if_neg (by rw [decide_eq_true_eq, ← hid]; exact hrest a ha)]
  have hnew := (hperm.map fun a ↦ w.scrapOf (if decide (dispositionSchema.key a = id) then f a
    else a)).sum_eq
  have hold := (hperm.map w.scrapOf).sum_eq
  rw [List.map_cons, List.sum_cons, hsame, if_pos (by rw [decide_eq_true_eq, hid])] at hnew
  rw [List.map_cons, List.sum_cons] at hold
  rw [queryDispositionBadItems, queryDispositionBadItems, updateLog, Table.modify, List.map_map]
  refine hnew.trans ?_
  rw [hold]
  ring

end

/-! ## The statements keep the invariant -/

section

variable {m n : ℕ} {sc : Recalculations m} {s s' : RecalcState m n} {w : HourWindow}

theorem RecalcInvariant.complete (h : RecalcInvariant w s) {args : StrategyArgs}
    {prevEnd : Option Time} {batch : InventoryBatch} {db : Database}
    (hcommit : Committed args prevEnd batch s.db db) :
    RecalcInvariant w { s with db := db } := by
  obtain ⟨hcycles, hitems⟩ := hcommit.recomputed (w := w) h.known
  refine ⟨hcommit.known h.known, h.totalCycles.commit hcommit (fun _ _ _ ↦ rfl) hcycles,
    h.totalItems.commit hcommit (fun _ _ _ ↦ rfl) hitems, h.badItems, fun i ↦ ?_⟩
  obtain ⟨hknown, htally, hseen, hbad⟩ := h.recalcs i
  refine ⟨fun cycles hc c hmem ↦ ?_, fun tally ht ↦ ?_, hseen, hbad⟩
  · rw [hcommit.cycles, List.map_append]
    exact List.mem_append_left _ (hknown cycles hc c hmem)
  · obtain ⟨cycles, hc, hcount, hsum⟩ := htally tally ht
    refine ⟨cycles, hc, hcount, hsum.trans (congrArg List.sum ?_)⟩
    exact List.map_congr_left fun c hmem ↦ (hcommit.itemCount_of_ne fun heq ↦
      hcommit.fresh (heq ▸ hknown cycles hc c hmem)).symm

/-- A step of one call: the stored scrap changes by what it records, and the row by what it adds. -/
theorem RecalcInvariant.setCall (h : RecalcInvariant w s) {j : Fin m} {phase : DispositionPhase}
    (dispositions : Table dispositionSchema) (badItems : ℤ)
    (hstored : queryDispositionBadItems w dispositions
      = s.storedBadItems w + (phase.quantity - (s.calls j).quantity))
    (hbad : badItems = s.badItems + (phase.quantity - (s.calls j).quantity)
      - (phase.pending - (s.calls j).pending))
    (hkept : (s.calls j).isRecorded = true →
      phase.isRecorded = true ∧ phase.quantity = (s.calls j).quantity) :
    RecalcInvariant w
      ({ s with dispositions := dispositions, badItems := badItems }.setCall j phase) := by
  refine ⟨h.known, h.totalCycles, h.totalItems, ?_, fun i ↦ ?_⟩
  · change queryDispositionBadItems w dispositions
      = badItems + ∑ k, (Function.update s.calls j phase k).pending
    rw [sum_update (fun _ phase ↦ DispositionPhase.pending phase), hstored, h.badItems, hbad]
    ring
  · obtain ⟨hknown, htally, hseen, hread⟩ := h.recalcs i
    refine ⟨hknown, htally, fun k hk ↦ ?_, fun b hb ↦ ?_⟩
    · change (Function.update s.calls j phase k).isRecorded = true
      rw [Function.update_apply]
      split
      · rename_i hkj
        exact (hkept (hkj ▸ hseen k hk)).1
      · exact hseen k hk
    · change queryDispositionBadItems w dispositions
        = b + ∑ k, if (s.recalcs i).seen k then 0
          else (Function.update s.calls j phase k).quantity
      rw [sum_update (fun k phase ↦
        if (s.recalcs i).seen k then 0 else DispositionPhase.quantity phase), hstored, hread b hb]
      cases hk : (s.recalcs i).seen j with
      | true =>
        rw [(hkept (hseen j hk)).2]
        simp
      | false =>
        simp only [Bool.false_eq_true, if_false]
        ring

theorem RecalcInvariant.findLog (h : RecalcInvariant w s) {j : Fin m}
    (hstep : findLogStep sc s j = some s') : RecalcInvariant w s' := by
  have hset : ∀ phase : DispositionPhase, phase.quantity = 0 → phase.pending = 0 →
      s.calls j = .start → RecalcInvariant w (s.setCall j phase) := by
    intro phase hquantity hpending hstart
    refine h.setCall s.dispositions s.badItems ?_ ?_ ?_
    · rw [hquantity, hstart]
      exact (add_zero _).symm
    · rw [hquantity, hpending, hstart]
      simp [DispositionPhase.quantity, DispositionPhase.pending]
    · rw [hstart]
      exact fun hrec ↦ absurd hrec (by simp [DispositionPhase.isRecorded])
  rw [findLogStep] at hstep
  split at hstep
  all_goals try exact absurd hstep (by simp)
  all_goals
    rename_i hstart _
    split at hstep
    · obtain rfl := Option.some_inj.mp hstep
      split
      · exact hset _ rfl rfl hstart
      · exact hset _ rfl rfl hstart
    · obtain rfl := Option.some_inj.mp hstep
      exact hset _ rfl rfl hstart

/-- A correction is recorded, and from then on pending. -/
theorem RecalcInvariant.record (h : RecalcInvariant sc.w s) {j : Fin m}
    (hok : sc.KeepsCounts s (.record j : RecalcStatement m n))
    (hstep : recordStep sc s j = some s') : RecalcInvariant sc.w s' := by
  have hset : ∀ {dispositions : Table dispositionSchema} {phase : DispositionPhase},
      (s.calls j).isRecorded = false → phase.quantity = phase.pending →
      queryDispositionBadItems sc.w dispositions = s.storedBadItems sc.w + phase.quantity →
      RecalcInvariant sc.w ((s.setDispositions dispositions).setCall j phase) := by
    intro dispositions phase hold hnew hstored
    have hzero := DispositionPhase.quantity_eq_zero hold
    have hpending : (s.calls j).pending = 0 := by
      rw [DispositionPhase.pending_eq, hzero, ite_self]
    refine h.setCall dispositions s.badItems ?_ ?_ ?_
    · rw [hstored, hzero, sub_zero]
    · rw [hzero, hpending, hnew]
      ring
    · exact fun hrec ↦ absurd hrec (by rw [hold]; exact Bool.false_ne_true)
  rw [Recalculations.KeepsCounts] at hok
  rw [recordStep] at hstep
  split at hstep
  · rename_i hstart _
    dsimp only at hstep
    split at hstep
    · rename_i hof
      obtain ⟨dispositions, hinsert, rfl⟩ := Option.map_eq_some_iff.mp hstep
      refine hset (by rw [hstart]; rfl) rfl ((query_insert hinsert).trans (congrArg _ ?_))
      exact if_pos ⟨hof, rfl⟩
    · exact absurd hstep (by simp)
  · rename_i current id quantity hfound hcall
    rw [hfound, hcall] at hok
    obtain ⟨log, hlog, rfl⟩ := Option.map_eq_some_iff.mp hstep
    obtain ⟨hfind, hof⟩ := Option.filter_eq_some_iff.mp hlog
    obtain ⟨rfl, hlive⟩ := hok log hfind
    have hold : sc.w.scrapOf log = log.quantity := if_pos ⟨of_decide_eq_true hof, hlive⟩
    have hnew : sc.w.scrapOf { log with quantity := quantity } = quantity :=
      if_pos ⟨of_decide_eq_true hof, hlive⟩
    have hquery := query_updateLog (w := sc.w) (mild_setQuantity quantity) hfind
    rw [hold, hnew] at hquery
    split
    · refine hset (by rw [hfound]; rfl) rfl (hquery.trans ?_)
      rw [DispositionPhase.quantity, RecalcState.storedBadItems]
      ring
    · rename_i hsame
      refine hset (by rw [hfound]; rfl) rfl (hquery.trans ?_)
      rw [not_not.mp hsame, sub_add_cancel]
      exact (add_zero _).symm
  · rename_i current id now hfound hcall
    rw [hfound, hcall] at hok
    obtain ⟨log, hlog, rfl⟩ := Option.map_eq_some_iff.mp hstep
    obtain ⟨hfind, hof⟩ := Option.filter_eq_some_iff.mp hlog
    obtain ⟨rfl, hlive⟩ := hok log hfind
    have hold : sc.w.scrapOf log = log.quantity := if_pos ⟨of_decide_eq_true hof, hlive⟩
    have hnew : sc.w.scrapOf { log with deletedAt := some now } = 0 := if_neg (by simp)
    have hquery := query_updateLog (w := sc.w) (mild_setDeletedAt now) hfind
    rw [hold, hnew] at hquery
    refine hset (by rw [hfound]; rfl) rfl (hquery.trans ?_)
    rw [DispositionPhase.quantity, RecalcState.storedBadItems]
    ring
  · exact absurd hstep (by simp)

theorem RecalcInvariant.addBadItems (h : RecalcInvariant w s) {j : Fin m} {quantity : ℤ}
    (hphase : s.calls j = .recorded quantity) : RecalcInvariant w
      ({ s with badItems := s.badItems + quantity }.setCall j (.added quantity)) := by
  refine h.setCall s.dispositions _ ?_ ?_ fun _ ↦ ⟨rfl, by rw [hphase]; rfl⟩
  · rw [hphase]
    exact (add_eq_left.mpr (sub_self quantity)).symm
  · rw [hphase]
    simp only [DispositionPhase.quantity, DispositionPhase.pending]
    ring

/-- A recalculation reads. -/
theorem RecalcInvariant.setRecalc (h : RecalcInvariant w s) {i : Fin n} {phase : RecalcPhase m}
    (hphase : RecalcOk w s phase) : RecalcInvariant w (s.setRecalc i phase) := by
  refine ⟨h.known, h.totalCycles, h.totalItems, h.badItems, fun k ↦ ?_⟩
  have hk : RecalcOk w s (Function.update s.recalcs i phase k) := by
    rw [Function.update_apply]
    split
    · exact hphase
    · exact h.recalcs k
  exact ⟨hk.known, hk.tally, hk.seen, hk.badItems⟩

theorem RecalcOk.readDispositions {phase : RecalcPhase m} (h : RecalcOk w s phase) :
    RecalcOk w s { phase with
      badItems := some (queryDispositionBadItems w s.dispositions)
      seen := fun j ↦ (s.calls j).isRecorded } := by
  refine ⟨h.known, h.tally, fun _ hj ↦ hj, fun b hb ↦ ?_⟩
  obtain rfl := Option.some_inj.mp hb
  have hnone : ∀ j, (if (s.calls j).isRecorded then 0 else (s.calls j).quantity) = 0 := fun j ↦ by
    cases hrec : (s.calls j).isRecorded with
    | true => rfl
    | false => exact DispositionPhase.quantity_eq_zero hrec
  rw [RecalcState.storedBadItems]
  dsimp only
  rw [Finset.sum_congr rfl fun j _ ↦ hnone j, Finset.sum_const_zero, add_zero]

/-- The loop over the cycles that have been read. -/
theorem tallyCycles_eq (db : Database) (w : HourWindow) (cycles : List Cycle) :
    (tallyCycles db w cycles).totalCycles = cycles.length ∧
      (tallyCycles db w cycles).totalItems = (cycles.map fun c ↦ db.itemCount c.id).sum := by
  rw [tallyCycles, foldl_addCycle]
  exact ⟨zero_add _, zero_add _⟩

/-- A count that is overwritten with what is stored. -/
theorem Agrees.overwrite {count : BucketCounts → ℤ} {db : Database} (h : Agrees count w db)
    {counts : BucketCounts} (hcount : count counts = count (w.recomputed db)) :
    Agrees count w (db.setBuckets (w.overwrite counts db.buckets)) := by
  obtain ⟨b, hb, hrow, -⟩ := h
  have hkey : bucketSchema.key b = w.key := by
    obtain ⟨htype, hid, hgran, hstart, -⟩ := hrow
    rw [HourWindow.key, ← htype, ← hid, ← hgran, ← hstart]
    rfl
  refine ⟨b.setCounts counts, ?_, hrow, hcount⟩
  exact List.mem_map.mpr ⟨b, hb, if_pos (decide_eq_true hkey)⟩

theorem RecalcInvariant.overwrite (h : RecalcInvariant sc.w s) {i : Fin n} {phase : RecalcPhase m}
    {tally : CycleTally} {badItems : ℤ} (hphase : s.recalcs i = phase)
    (htally : phase.tally = some tally) (hbad : phase.badItems = some badItems)
    (hok : sc.IsCurrent s phase) : RecalcInvariant sc.w ({ s with
      db := s.db.setBuckets (sc.w.overwrite tally.counts s.db.buckets)
      badItems := badItems }.setRecalc i { phase with isDone := true }) := by
  obtain ⟨hcycles, hseen⟩ := hok
  have hread := h.recalcs i
  rw [hphase] at hread
  obtain ⟨cycles, hc, hlength, hsum⟩ := hread.tally tally htally
  obtain rfl := Option.some_inj.mp (hcycles.symm.trans hc)
  have hcounts := HourWindow.recomputed_eq sc.w s.db
  have hover : RecalcInvariant sc.w { s with
      db := s.db.setBuckets (sc.w.overwrite tally.counts s.db.buckets)
      badItems := badItems } := by
    refine ⟨h.known, h.totalCycles.overwrite ?_, h.totalItems.overwrite ?_, ?_, fun k ↦ ?_⟩
    · rw [hcounts]
      exact hlength
    · rw [hcounts]
      exact hsum
    · -- what the recalculation has not read is what is pending
      refine (hread.badItems badItems hbad).trans (congrArg _ (Finset.sum_congr rfl fun j _ ↦ ?_))
      rw [hseen j, DispositionPhase.pending_eq]
    · exact ⟨(h.recalcs k).known, (h.recalcs k).tally, (h.recalcs k).seen, (h.recalcs k).badItems⟩
  refine hover.setRecalc ?_
  have hk := hover.recalcs i
  rw [hphase] at hk
  exact ⟨hk.known, hk.tally, hk.seen, hk.badItems⟩

/-- **One statement** at which no count is lost keeps the invariant. -/
theorem RecalcInvariant.recalcStep {statement : RecalcStatement m n} (h : RecalcInvariant sc.w s)
    (hok : sc.KeepsCounts s statement) (hstep : RwServer.recalcStep sc statement s = some s') :
    RecalcInvariant sc.w s' := by
  cases statement with
  | complete args prevEnd row =>
    obtain ⟨r, hr, rfl⟩ := Option.map_eq_some_iff.mp hstep
    obtain ⟨batch, hcommit⟩ := committed_of_alone hr
    exact h.complete hcommit
  | findLog j => exact h.findLog hstep
  | record j => exact h.record hok hstep
  | addBadItems j =>
    rw [RwServer.recalcStep] at hstep
    split at hstep
    · rename_i hphase
      obtain rfl := Option.some_inj.mp hstep
      exact h.addBadItems hphase
    · exact absurd hstep (by simp)
  | readCycles i =>
    rw [RwServer.recalcStep] at hstep
    split at hstep
    · rename_i hnone
      obtain rfl := Option.some_inj.mp hstep
      obtain ⟨hknown, htally, hseen, hbad⟩ := h.recalcs i
      refine h.setRecalc ⟨fun cycles hc c hmem ↦ ?_, fun tally ht ↦ ?_, hseen, hbad⟩
      · obtain rfl := Option.some_inj.mp hc
        exact List.mem_map_of_mem (List.mem_of_mem_filter hmem)
      · obtain ⟨_, hc, -⟩ := htally tally ht
        exact absurd (hnone.symm.trans hc) (by simp)
    · exact absurd hstep (by simp)
  | readItems i =>
    rw [RwServer.recalcStep] at hstep
    split at hstep
    · rename_i cycles hcycles hnone
      obtain rfl := Option.some_inj.mp hstep
      obtain ⟨hknown, -, hseen, hbad⟩ := h.recalcs i
      refine h.setRecalc ⟨hknown, fun tally ht ↦ ⟨cycles, hcycles, ?_⟩, hseen, hbad⟩
      obtain rfl := Option.some_inj.mp ht
      exact tallyCycles_eq s.db sc.w cycles
    · exact absurd hstep (by simp)
  | readDispositions i =>
    rw [RwServer.recalcStep] at hstep
    split at hstep
    · obtain rfl := Option.some_inj.mp hstep
      exact h.setRecalc (h.recalcs i).readDispositions
    · exact absurd hstep (by simp)
  | overwrite i =>
    rw [RwServer.recalcStep] at hstep
    split at hstep
    · rename_i hphase
      obtain rfl := Option.some_inj.mp hstep
      rw [Recalculations.KeepsCounts, hphase] at hok
      exact h.overwrite hphase rfl rfl hok
    · exact absurd hstep (by simp)

end

/-! ## The whole run -/

section

variable {m n : ℕ} {sc : Recalculations m} {db : Database}
  {dispositions : Table dispositionSchema} {badItems : ℤ} {s : RecalcState m n}

/-- **No count is lost or counted twice** in a run whose steps lose none: when all calls have
returned, the row of the hour has the counts that the stored rows give, as it had before. The
foreign key of the items is `hknown`. -/
theorem recalc_keepsCounts {statements : List (RecalcStatement m n)}
    (hknown : ∀ item ∈ db.items, item.cycleId ∈ db.cycles.rows.map Cycle.id)
    (hstored : (RecalcState.init db dispositions badItems : RecalcState m n).CountsStored sc.w)
    (hrun : Run (recalcStep sc) sc.KeepsCounts (.init db dispositions badItems) statements s)
    (hfinished : s.Finished) : s.CountsStored sc.w := by
  have hinit : RecalcInvariant sc.w
      (RecalcState.init db dispositions badItems : RecalcState m n) := by
    refine ⟨hknown, hstored.totalCycles, hstored.totalItems, ?_, fun i ↦ ⟨?_, ?_, ?_, ?_⟩⟩
    · refine hstored.badItems.symm.trans ?_
      simp [RecalcState.init, DispositionPhase.pending]
    all_goals simp [RecalcState.init]
  have h := hrun.invariant hinit fun s a s' hinv hok hstep ↦ hinv.recalcStep hok hstep
  have hnone : ∀ j, (s.calls j).pending = 0 := fun j ↦ by
    have hj := hfinished.1 j
    cases hphase : s.calls j with
    | recorded => rw [hphase] at hj; exact Bool.noConfusion hj
    | _ => rfl
  refine ⟨h.totalCycles, h.totalItems, ?_⟩
  have hbad := h.badItems
  rw [Finset.sum_congr rfl fun j _ ↦ hnone j, Finset.sum_const_zero, add_zero] at hbad
  exact hbad.symm

end

/-- Two items of scrap are recorded in the first hour of station 1. -/
def sampleRecalculations : Recalculations 1 where
  w := ⟨1, 0, 3600⟩
  calls _ := .create 7 2 1000

def recalcStart : RecalcState 1 1 := .init (firstHour 2) (.empty _) 0

/-- A cycle that ends at a timestamp. -/
def sampleCommit (timestamp : Time) (id : Uuid) : RecalcStatement 1 1 :=
  .complete ⟨1, timestamp, 1, 1, 2, none, id, 0, id, id⟩ none none

/-- The one call, of either kind. -/
def onlyCall : Fin 1 := ⟨0, Nat.one_pos⟩

/-- The recalculation comes between the completions, and after the correction. -/
def recalculatedBetween : List (RecalcStatement 1 1) :=
  [.record onlyCall, .addBadItems onlyCall, sampleCommit 2000 1, .readDispositions onlyCall,
    .readCycles onlyCall, .readItems onlyCall, .overwrite onlyCall, sampleCommit 4000 2]

/-- The recalculation reads the log and no cycle; then a cycle is committed. -/
def committedMeanwhile : List (RecalcStatement 1 1) :=
  [.record onlyCall, .readCycles onlyCall, .readItems onlyCall, .readDispositions onlyCall,
    sampleCommit 2000 1, .overwrite onlyCall, .addBadItems onlyCall]

theorem countsStored_recalcStart : recalcStart.CountsStored ⟨1, 0, 3600⟩ where
  totalCycles := by decide +kernel
  totalItems := by decide +kernel
  badItems := by decide +kernel

theorem recalc_keepsCounts_between :
    ∃ s, Run (recalcStep sampleRecalculations) sampleRecalculations.KeepsCounts recalcStart
        recalculatedBetween s ∧ s.Finished ∧ s.CountsStored ⟨1, 0, 3600⟩ := by
  have hexec : ((execute (recalcStep sampleRecalculations) sampleRecalculations.KeepsCounts
      recalculatedBetween recalcStart).map fun s ↦ decide s.Finished) = some true := by
    decide +kernel
  obtain ⟨s, hs, hfinished⟩ := Option.map_eq_some_iff.mp hexec
  exact ⟨s, run_of_execute hs, of_decide_eq_true hfinished,
    recalc_keepsCounts (fun _ hitem ↦ absurd hitem List.not_mem_nil)
      (show recalcStart.CountsStored sampleRecalculations.w from countsStored_recalcStart)
      (run_of_execute hs) (of_decide_eq_true hfinished)⟩

/-- The cycle is lost from the counts, and the scrap is counted twice. -/
theorem recalc_losesCycle : recalcStart.CountsStored ⟨1, 0, 3600⟩ ∧
    ∃ s, Run (recalcStep sampleRecalculations) (fun _ _ ↦ True) recalcStart committedMeanwhile s ∧
      s.Finished ∧ ¬Agrees BucketCounts.totalCycles ⟨1, 0, 3600⟩ s.db ∧ s.badItems = 4 ∧
      queryDispositionBadItems ⟨1, 0, 3600⟩ s.dispositions = 2 ∧
      ¬s.CountsStored ⟨1, 0, 3600⟩ := by
  have hexec : ((execute (recalcStep sampleRecalculations) (fun _ _ ↦ True) committedMeanwhile
      recalcStart).map fun s ↦ (decide (s.Finished ∧
        ¬Agrees BucketCounts.totalCycles ⟨1, 0, 3600⟩ s.db), s.badItems,
          queryDispositionBadItems ⟨1, 0, 3600⟩ s.dispositions)) = some (true, 4, 2) := by
    decide +kernel
  obtain ⟨s, hs, hresult⟩ := Option.map_eq_some_iff.mp hexec
  obtain ⟨hboth, hresult⟩ := Prod.mk.inj hresult
  obtain ⟨hbad, hstored⟩ := Prod.mk.inj hresult
  obtain ⟨hfinished, hcycles⟩ := of_decide_eq_true hboth
  exact ⟨countsStored_recalcStart, s, run_of_execute hs, hfinished, hcycles, hbad, hstored,
    fun h ↦ hcycles h.totalCycles⟩

end RwServer
