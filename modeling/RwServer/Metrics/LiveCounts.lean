import Mathlib
import RwServer.Cycle.Effects
import RwServer.Foundation.Run

/-!
# Live counts and recomputed counts

A completion adds to the counts of its `HOUR` bucket as it goes, and a recomputation derives the
same counts from the stored cycles and items. One completion brings the cycles it closes into the
bucket together with their new items (`Entered`), so the recomputed sums grow by what these cycles
contribute, and the counts go on to agree where that is what the completion has added.

The items always agree. A completion counts as one cycle however many cycles it closes, its standard
cycle is rounded before it is added, and an open/close completion adds no cycle time at all. So the
other counts agree over runs whose completions close one cycle each, with standard cycles of whole
seconds, and with durations of whole seconds inside the bucket (`liveCounts_agree`).
-/

open scoped List

namespace RwServer

open Relational ReadCommitted Transition

/-! ## Two facts about lists -/

/-- Entries that come to satisfy `p` by an update of those that satisfy `q`. -/
private theorem filter_map_ite_perm {α : Type} {p q : α → Bool} {f : α → α} {l : List α}
    (hpq : ∀ a ∈ l, q a = true → p a = false ∧ p (f a) = true) :
    (l.map fun a ↦ if q a then f a else a).filter p ~ l.filter p ++ (l.filter q).map f := by
  induction l with
  | nil => rfl
  | cons a l ih =>
    have hl := ih fun b hb ↦ hpq b (List.mem_cons_of_mem _ hb)
    cases hq : q a with
    | true =>
      obtain ⟨hold, hnew⟩ := hpq a List.mem_cons_self hq
      rw [List.map_cons, hq, if_pos rfl, List.filter_cons_of_pos hnew,
        List.filter_cons_of_neg (by rw [hold]; exact Bool.false_ne_true),
        List.filter_cons_of_pos hq, List.map_cons]
      exact (hl.cons _).trans List.perm_middle.symm
    | false =>
      rw [List.map_cons, hq, if_neg Bool.false_ne_true,
        List.filter_cons_of_neg (p := q) (by rw [hq]; exact Bool.false_ne_true)]
      cases hp : p a with
      | true =>
        rw [List.filter_cons_of_pos hp, List.filter_cons_of_pos hp, List.cons_append]
        exact hl.cons a
      | false =>
        have hneg : ¬p a = true := by rw [hp]; exact Bool.false_ne_true
        rwa [List.filter_cons_of_neg hneg, List.filter_cons_of_neg hneg]

private theorem sum_ite_eq {ids : List Uuid} (hnodup : ids.Nodup) (x : Uuid) :
    (ids.map fun id ↦ if x == id then 1 else 0).sum = if ids.contains x then 1 else 0 := by
  induction ids with
  | nil => rfl
  | cons id ids ih =>
    obtain ⟨hid, hids⟩ := List.nodup_cons.mp hnodup
    rw [List.map_cons, List.sum_cons, ih hids, List.contains_cons]
    by_cases hx : x = id
    · have hnot : ids.contains x = false := by
        rw [hx, ← Bool.not_eq_true, List.contains_iff_mem]
        exact hid
      rw [hnot, hx, beq_self_eq_true]
      rfl
    · rw [beq_eq_false_iff_ne.mpr hx, Bool.false_or, if_neg Bool.false_ne_true, zero_add]

/-- Counting by owner, and then summing over the owners. -/
private theorem sum_countP_owner {α : Type} (owner : α → Uuid) (l : List α) {ids : List Uuid}
    (hnodup : ids.Nodup) : (ids.map fun id ↦ l.countP (owner · == id)).sum
      = l.countP fun a ↦ ids.contains (owner a) := by
  induction l with
  | nil => simp
  | cons a l ih =>
    simp only [List.countP_cons, List.sum_map_add, ih, sum_ite_eq hnodup]

/-! ## What a completion brings into the bucket -/

/-- All inventory items. -/
def Database.items (db : Database) : List InventoryItem :=
  db.inventory.flatMap InventoryBatch.items

/-- The cycles `closed` come into the bucket `[lo, hi)` of the station with their new `items`. -/
structure Entered (stationId : Uuid) (lo hi : Time) (closed : List Cycle)
    (items : List InventoryItem) (db db' : Database) : Prop where
  cycles : cyclesInBucket db' stationId lo hi none ~
    cyclesInBucket db stationId lo hi none ++ closed
  inventory : db'.items = db.items ++ items
  owned : ∀ item ∈ items, item.cycleId ∈ closed.map Cycle.id
  fresh : ∀ item ∈ db.items, item.cycleId ∉ closed.map Cycle.id
  jobBlobs : db'.jobBlobs = db.jobBlobs

section

variable {stationId : Uuid} {lo hi : Time} {closed : List Cycle} {items : List InventoryItem}
  {db db' : Database}

theorem nodup_cyclesInBucket (db : Database) (stationId : Uuid) (lo hi : Time) :
    ((cyclesInBucket db stationId lo hi none).map Cycle.id).Nodup :=
  (List.filter_sublist.map _).nodup db.cycles.nodup

/-- The items of a bucket, counted once each. -/
theorem sum_itemCount (db : Database) (stationId : Uuid) (lo hi : Time) :
    ((cyclesInBucket db stationId lo hi none).map fun c ↦ db.itemCount c.id).sum
      = db.items.countP fun item ↦
        ((cyclesInBucket db stationId lo hi none).map Cycle.id).contains item.cycleId := by
  rw [← sum_countP_owner InventoryItem.cycleId db.items (nodup_cyclesInBucket db stationId lo hi),
    List.map_map, Nat.cast_list_sum, List.map_map]
  rfl

theorem Entered.length (h : Entered stationId lo hi closed items db db') :
    (cyclesInBucket db' stationId lo hi none).length
      = (cyclesInBucket db stationId lo hi none).length + closed.length := by
  rw [h.cycles.length_eq, List.length_append]

theorem Entered.sum_map {M : Type} [AddCommMonoid M]
    (h : Entered stationId lo hi closed items db db') (f : Cycle → M) :
    ((cyclesInBucket db' stationId lo hi none).map f).sum
      = ((cyclesInBucket db stationId lo hi none).map f).sum + (closed.map f).sum := by
  rw [(h.cycles.map f).sum_eq, List.map_append, List.sum_append]

theorem Entered.idealSecondsOf (h : Entered stationId lo hi closed items db db') :
    idealSecondsOf db' none = idealSecondsOf db none := by
  funext c
  rw [RwServer.idealSecondsOf, RwServer.idealSecondsOf, Database.standardCycleOf,
    Database.standardCycleOf, Database.jobBlobOf, Database.jobBlobOf, h.jobBlobs]

/-- The new items are counted, and the old ones as before. -/
theorem Entered.sum_itemCount (h : Entered stationId lo hi closed items db db') :
    ((cyclesInBucket db' stationId lo hi none).map fun c ↦ db'.itemCount c.id).sum
      = ((cyclesInBucket db stationId lo hi none).map fun c ↦ db.itemCount c.id).sum
        + items.length := by
  rw [RwServer.sum_itemCount, RwServer.sum_itemCount, h.inventory, List.countP_append]
  have hmem : ∀ id, ((cyclesInBucket db' stationId lo hi none).map Cycle.id).contains id = true ↔
      ((cyclesInBucket db stationId lo hi none).map Cycle.id).contains id = true ∨
        id ∈ closed.map Cycle.id := fun id ↦ by
    rw [List.contains_iff_mem, List.contains_iff_mem, (h.cycles.map Cycle.id).mem_iff,
      List.map_append, List.mem_append]
  have hold : db.items.countP (fun item ↦
      ((cyclesInBucket db' stationId lo hi none).map Cycle.id).contains item.cycleId)
      = db.items.countP fun item ↦
        ((cyclesInBucket db stationId lo hi none).map Cycle.id).contains item.cycleId := by
    refine List.countP_congr fun item hitem ↦ ?_
    rw [hmem]
    exact or_iff_left (h.fresh item hitem)
  -- the new items are those of the new cycles
  have hnew : items.countP (fun item ↦
      ((cyclesInBucket db' stationId lo hi none).map Cycle.id).contains item.cycleId)
      = items.length :=
    List.countP_eq_length.mpr fun item hitem ↦ (hmem _).mpr (.inr (h.owned item hitem))
  rw [hold, hnew, Nat.cast_add]

end

/-! ## One completion -/

/-- Every item belongs to a stored cycle, and the open cycles of the station have no items yet, and
are not deleted. -/
structure OpenUncounted (db : Database) (stationId : Uuid) : Prop where
  known : ∀ item ∈ db.items, item.cycleId ∈ db.cycles.rows.map Cycle.id
  uncounted : ∀ c ∈ db.cycles.rows, isOpenCycleOf stationId c = true →
    c.deletedAt = none ∧ ∀ item ∈ db.items, item.cycleId ≠ c.id

/-- The cycles that an open/close completion closes, or the zero cycle. -/
def StrategyArgs.closedCycles (args : StrategyArgs) (db : Database) : List Cycle :=
  match db.cycles.rows.filter (isOpenCycleOf args.stationId) with
  | [] =>
    if db.cycles.rows.any (·.stationId == args.stationId) then []
    else [args.newCycle args.zeroCycleId args.timestamp (some args.timestamp)]
  | openCycles => openCycles.map (Cycle.close args.timestamp)

theorem StrategyArgs.closedCycles_of_open {args : StrategyArgs} {db : Database}
    {first : Cycle} {rest : List Cycle}
    (h : db.cycles.rows.filter (isOpenCycleOf args.stationId) = first :: rest) :
    args.closedCycles db = (first :: rest).map (Cycle.close args.timestamp) := by
  rw [closedCycles, h]

theorem StrategyArgs.closedCycles_of_previous {args : StrategyArgs} {db : Database}
    (hopen : db.cycles.rows.filter (isOpenCycleOf args.stationId) = [])
    (h : db.cycles.rows.any (·.stationId == args.stationId) = true) :
    args.closedCycles db = [] := by
  rw [closedCycles, hopen]
  exact if_pos h

theorem StrategyArgs.closedCycles_of_first {args : StrategyArgs} {db : Database}
    (h : db.cycles.rows.any (·.stationId == args.stationId) = false) :
    args.closedCycles db
      = [args.newCycle args.zeroCycleId args.timestamp (some args.timestamp)] := by
  have hopen : db.cycles.rows.filter (isOpenCycleOf args.stationId) = [] := by
    rw [List.any_eq_false] at h
    exact List.filter_eq_nil_iff.mpr fun c hc hq ↦
      h c hc (beq_iff_eq.mpr (isOpenCycleOf_iff.mp hq).1)
  rw [closedCycles, hopen]
  exact if_neg (by rw [h]; exact Bool.false_ne_true)

theorem cyclesInBucket_none (db : Database) (stationId : Uuid) (lo hi : Time) :
    cyclesInBucket db stationId lo hi none
      = db.cycles.rows.filter (endsInBucket stationId lo hi) := by
  rw [cyclesInBucket]
  exact List.filter_congr fun c _ ↦ Bool.and_true _

theorem endsInBucket_of_end {stationId : Uuid} {lo hi t : Time} {c : Cycle}
    (hst : c.stationId = stationId) (hend : c.cycleEnd = some t) (hdel : c.deletedAt = none)
    (hlo : lo ≤ t) (hhi : t < hi) : endsInBucket stationId lo hi c = true := by
  simp [endsInBucket, hst, hend, hdel, hlo, hhi]

theorem endsInBucket_of_open (stationId : Uuid) (lo hi : Time) {c : Cycle}
    (hend : c.cycleEnd = none) : endsInBucket stationId lo hi c = false := by
  simp [endsInBucket, hend]

section

variable {args : StrategyArgs} {lo hi : Time} {db db' db₁ : Database}

/-- An id that is not stored has no items. -/
theorem OpenUncounted.ne_of_fresh {stationId id : Uuid} (h : OpenUncounted db stationId)
    (hid : id ∉ db.cycles.rows.map Cycle.id) : ∀ item ∈ db.items, item.cycleId ≠ id :=
  fun item hitem heq ↦ hid (heq ▸ h.known item hitem)

/-- A new closed cycle with its items. -/
theorem OpenUncounted.insert (h : OpenUncounted db args.stationId) {id : Uuid} {start : Time}
    {cycles : Table cycleSchema} {batch : InventoryBatch} (hlo : lo ≤ args.timestamp)
    (hhi : args.timestamp < hi)
    (hcycles : db.cycles.insert (args.newCycle id start (some args.timestamp)) = some cycles)
    (hbatch : createFromCycle db id args.jobId = some batch) (hrows : db'.cycles = cycles)
    (hinv : db'.inventory = db.inventory ++ [batch]) (hblobs : db'.jobBlobs = db.jobBlobs) :
    Entered args.stationId lo hi [args.newCycle id start (some args.timestamp)] batch.items db db' ∧
      OpenUncounted db' args.stationId := by
  obtain ⟨hkey, -, hadded⟩ := Table.insert_eq_some_iff.mp hcycles
  have hfresh : id ∉ db.cycles.rows.map Cycle.id := hkey
  have howner := cycleId_of_createFromCycle hbatch
  have hitems : db'.items = db.items ++ batch.items := by
    rw [Database.items, hinv, List.flatMap_append, List.flatMap_singleton, Database.items]
  have hnew : endsInBucket args.stationId lo hi (args.newCycle id start (some args.timestamp))
      = true := endsInBucket_of_end rfl rfl rfl hlo hhi
  refine ⟨⟨?_, hitems, fun item hitem ↦ ?_, fun item hitem ↦ ?_, hblobs⟩,
    fun item hitem ↦ ?_, fun c hc hopen ↦ ?_⟩
  · rw [cyclesInBucket_none, cyclesInBucket_none, hrows, hadded, List.filter_append,
      List.filter_cons_of_pos hnew, List.filter_nil]
  · rw [howner item hitem]
    exact List.mem_singleton_self _
  · exact fun hmem ↦ h.ne_of_fresh hfresh item hitem (List.mem_singleton.mp hmem)
  · rw [hrows, hadded, List.map_append]
    rw [hitems] at hitem
    rcases List.mem_append.mp hitem with hitem | hitem
    · exact List.mem_append_left _ (h.known item hitem)
    · exact List.mem_append_right _ (howner item hitem ▸ List.mem_singleton_self _)
  · rw [hrows, hadded, List.mem_append, List.mem_singleton] at hc
    rcases hc with hc | rfl
    · obtain ⟨hdel, hnone⟩ := h.uncounted c hc hopen
      refine ⟨hdel, fun item hitem ↦ ?_⟩
      rw [hitems] at hitem
      rcases List.mem_append.mp hitem with hitem | hitem
      · exact hnone item hitem
      · rw [howner item hitem]
        exact fun heq ↦ hfresh (heq ▸ List.mem_map_of_mem hc)
    · exact absurd (isOpenCycleOf_iff.mp hopen).2 (by simp [StrategyArgs.newCycle])

/-- The first half of an open/close completion. Afterwards no cycle of the station is open. -/
theorem HalfDone.entered {openStart : Option Time} {items : List InventoryItem}
    (hhalf : HalfDone args db openStart items db₁) (h : OpenUncounted db args.stationId)
    (hlo : lo ≤ args.timestamp) (hhi : args.timestamp < hi) :
    Entered args.stationId lo hi (args.closedCycles db) items db db₁ ∧
      OpenUncounted db₁ args.stationId ∧ db₁.buckets = db.buckets := by
  cases hhalf with
  | @closed first rest batches cycles hopen hbatches hcycles =>
    have hrows := Table.rows_of_updateMany (mild_closeCycle args.timestamp) hcycles
    have hclosed := StrategyArgs.closedCycles_of_open hopen
    have hids : (args.closedCycles db).map Cycle.id = (first :: rest).map Cycle.id := by
      rw [hclosed, List.map_map]
      rfl
    have hitems : ((db.addBatches batches).setCycles cycles).items
        = db.items ++ batches.flatMap InventoryBatch.items := List.flatMap_append
    have howner := cycleId_mem_of_mapM hbatches
    have hkeys : cycles.rows.map Cycle.id = db.cycles.rows.map Cycle.id :=
      Table.map_key_of_updateMany (mild_closeCycle args.timestamp) hcycles
    have hmem : ∀ {id}, id ∈ (first :: rest).map Cycle.id →
        ∃ c ∈ db.cycles.rows, isOpenCycleOf args.stationId c = true ∧ c.id = id := by
      intro id hid
      obtain ⟨c, hc, rfl⟩ := List.mem_map.mp hid
      rw [← hopen, List.mem_filter] at hc
      exact ⟨c, hc.1, hc.2, rfl⟩
    refine ⟨⟨?_, hitems, ?_, fun item hitem hid ↦ ?_, rfl⟩, ⟨fun item hitem ↦ ?_, ?_⟩, rfl⟩
    · -- an open cycle is in no bucket, and a closed one ends at the timestamp
      rw [cyclesInBucket_none, cyclesInBucket_none, hclosed, ← hopen]
      refine (List.Perm.of_eq (congrArg _ hrows)).trans (filter_map_ite_perm fun c hc hq ↦ ?_)
      obtain ⟨hst, hend⟩ := isOpenCycleOf_iff.mp hq
      exact ⟨endsInBucket_of_open _ _ _ hend,
        endsInBucket_of_end hst rfl (h.uncounted c hc hq).1 hlo hhi⟩
    · rw [hids]
      exact howner
    · obtain ⟨c, hc, hq, hcid⟩ := hmem (hids ▸ hid)
      exact (h.uncounted c hc hq).2 item hitem hcid.symm
    · change item.cycleId ∈ cycles.rows.map Cycle.id
      rw [hkeys]
      rw [hitems] at hitem
      rcases List.mem_append.mp hitem with hitem | hitem
      · exact h.known item hitem
      · obtain ⟨c, hc, -, hcid⟩ := hmem (howner item hitem)
        exact hcid ▸ List.mem_map_of_mem hc
    · intro c hc hq
      change c ∈ cycles.rows at hc
      rw [hrows, List.mem_map] at hc
      obtain ⟨c₀, -, rfl⟩ := hc
      split at hq
      · exact absurd (isOpenCycleOf_iff.mp hq).2 (by simp [Cycle.close])
      · rename_i hnot
        exact absurd hq hnot
  | previous hopen hprev =>
    rw [StrategyArgs.closedCycles_of_previous hopen hprev]
    refine ⟨⟨?_, ?_, ?_, ?_, rfl⟩, h, rfl⟩
    · rw [List.append_nil]
    · rw [List.append_nil]
    · exact fun item hitem ↦ absurd hitem (by simp)
    · exact fun item _ ↦ by simp
  | @zero cycles batch hprev hcycles hbatch =>
    rw [StrategyArgs.closedCycles_of_first hprev]
    exact and_assoc.mp ⟨h.insert hlo hhi hcycles hbatch rfl rfl rfl, rfl⟩

/-- The second half opens a cycle, which is not in the bucket. -/
theorem Entered.openNext {closed : List Cycle} {items : List InventoryItem}
    (h : Entered args.stationId lo hi closed items db db₁)
    (hkept : OpenUncounted db₁ args.stationId) {cycles : Table cycleSchema}
    (hcycles : db₁.cycles.insert (args.newCycle args.cycleId args.timestamp none) = some cycles)
    (hrows : db'.cycles = cycles)
    (hinv : db'.inventory = db₁.inventory) (hblobs : db'.jobBlobs = db₁.jobBlobs) :
    Entered args.stationId lo hi closed items db db' ∧ OpenUncounted db' args.stationId := by
  obtain ⟨hkey, -, hadded⟩ := Table.insert_eq_some_iff.mp hcycles
  have hfresh : args.cycleId ∉ db₁.cycles.rows.map Cycle.id := hkey
  have hitems : db'.items = db₁.items := by rw [Database.items, hinv, Database.items]
  have hopen := endsInBucket_of_open args.stationId lo hi
    (show (args.newCycle args.cycleId args.timestamp none).cycleEnd = none from rfl)
  refine ⟨⟨?_, hitems.trans h.inventory, h.owned, h.fresh, hblobs.trans h.jobBlobs⟩,
    fun item hitem ↦ ?_, fun c hc hq ↦ ?_⟩
  · rw [cyclesInBucket_none, hrows, hadded, List.filter_append,
      List.filter_cons_of_neg (by rw [hopen]; exact Bool.false_ne_true), List.filter_nil,
      List.append_nil, ← cyclesInBucket_none]
    exact h.cycles
  · rw [hitems] at hitem
    rw [hrows, hadded, List.map_append]
    exact List.mem_append_left _ (hkept.known item hitem)
  · rw [hrows, hadded, List.mem_append, List.mem_singleton] at hc
    rw [hitems]
    rcases hc with hc | rfl
    · exact hkept.uncounted c hc hq
    · exact ⟨rfl, hkept.ne_of_fresh hfresh⟩

end

/-! ## The completions of a station -/

/-- A completion that is not replayed, with the ids it draws. -/
structure CompletionCall where
  timestamp : Time
  jobId : Uuid
  keepOpen : Bool
  ids : DrawnIds
deriving DecidableEq

/-- A `STATION` `HOUR` bucket. -/
structure HourWindow where
  stationId : Uuid
  startTime : Time
  durationSeconds : ℤ

namespace HourWindow

def endTime (w : HourWindow) : Time := w.startTime + w.durationSeconds * 1000

/-- The row of the bucket. -/
def IsRow (w : HourWindow) (b : MetricBucket) : Prop :=
  b.entityType = .station ∧ b.entityId = w.stationId ∧ b.granularity = .hour ∧
    b.startTime = w.startTime ∧ b.durationSeconds = w.durationSeconds

instance (w : HourWindow) (b : MetricBucket) : Decidable (w.IsRow b) :=
  inferInstanceAs (Decidable (_ ∧ _))

/-- The counts that a recomputation of the bucket comes to. -/
def recomputed (w : HourWindow) (db : Database) : BucketCounts :=
  computeBucketFromEvents db w.stationId w.startTime w.durationSeconds none

end HourWindow

def MetricBucket.counts (b : MetricBucket) : BucketCounts :=
  ⟨b.totalCycles, b.totalItems, b.idealCycleSeconds, b.totalCycleSeconds⟩

/-! ### The recomputed counts grow -/

section

variable {w : HourWindow} {closed : List Cycle} {items : List InventoryItem} {db db' : Database}

theorem HourWindow.recomputed_eq (w : HourWindow) (db : Database) : w.recomputed db =
    { totalCycles := (cyclesInBucket db w.stationId w.startTime w.endTime none).length
      totalItems := ((cyclesInBucket db w.stationId w.startTime w.endTime none).map
        fun c ↦ db.itemCount c.id).sum
      idealCycleSeconds := mathRound ((cyclesInBucket db w.stationId w.startTime w.endTime
        none).map (idealSecondsOf db none)).sum
      totalCycleSeconds := mathRound (((cyclesInBucket db w.stationId w.startTime w.endTime
        none).map (clippedCycleMs w.startTime w.endTime)).sum / 1000) } := by
  rw [HourWindow.recomputed, computeBucketFromEvents, queryAndTallyCycles_eq]
  rfl

theorem Entered.totalCycles_eq
    (h : Entered w.stationId w.startTime w.endTime closed items db db') :
    (w.recomputed db').totalCycles = (w.recomputed db).totalCycles + closed.length := by
  rw [HourWindow.recomputed_eq, HourWindow.recomputed_eq]
  dsimp only
  rw [h.length, Nat.cast_add]

theorem Entered.totalItems_eq
    (h : Entered w.stationId w.startTime w.endTime closed items db db') :
    (w.recomputed db').totalItems = (w.recomputed db).totalItems + items.length := by
  rw [HourWindow.recomputed_eq, HourWindow.recomputed_eq]
  exact h.sum_itemCount

/-- Whole seconds are not lost in the rounding of the sum. -/
theorem Entered.idealCycleSeconds_eq {n : ℤ}
    (h : Entered w.stationId w.startTime w.endTime closed items db db')
    (hn : (closed.map (RwServer.idealSecondsOf db none)).sum = n) :
    (w.recomputed db').idealCycleSeconds = (w.recomputed db).idealCycleSeconds + n := by
  rw [HourWindow.recomputed_eq, HourWindow.recomputed_eq]
  dsimp only
  rw [h.idealSecondsOf, h.sum_map, hn]
  exact round_add_intCast _ n

theorem Entered.totalCycleSeconds_eq {n : ℤ}
    (h : Entered w.stationId w.startTime w.endTime closed items db db')
    (hn : (closed.map (clippedCycleMs w.startTime w.endTime)).sum = 1000 * n) :
    (w.recomputed db').totalCycleSeconds = (w.recomputed db).totalCycleSeconds + n := by
  have hthousand (a : ℤ) : ((a + 1000 * n : ℤ) : ℚ) / 1000 = (a : ℚ) / 1000 + n := by
    rw [Int.cast_add, Int.cast_mul, add_div, Int.cast_ofNat,
      mul_div_cancel_left₀ _ (by norm_num : (1000 : ℚ) ≠ 0)]
  rw [HourWindow.recomputed_eq, HourWindow.recomputed_eq]
  dsimp only
  rw [h.sum_map, hn, hthousand]
  exact round_add_intCast _ n

end

/-- A count of the bucket is what a recomputation of the bucket comes to. -/
def Agrees (count : BucketCounts → ℤ) (w : HourWindow) (db : Database) : Prop :=
  ∃ b ∈ db.buckets.rows, w.IsRow b ∧ count b.counts = count (w.recomputed db)

instance (count : BucketCounts → ℤ) (w : HourWindow) (db : Database) :
    Decidable (Agrees count w db) :=
  inferInstanceAs (Decidable (∃ b ∈ db.buckets.rows, w.IsRow b ∧ _))

/-- The counts go on to agree where the recomputed one grows by what is added. -/
theorem Agrees.increment {count : BucketCounts → ℤ} {w : HourWindow} {db db' : Database}
    {timestamp : Time} {cycles items idealSeconds totalCycleSeconds δ : ℤ}
    (h : Agrees count w db) (hlo : w.startTime ≤ timestamp) (hhi : timestamp < w.endTime)
    (hbuckets : IncrementedBy w.stationId timestamp cycles items idealSeconds totalCycleSeconds
      db.buckets db'.buckets)
    (hadd : ∀ b : MetricBucket, count (b.increment cycles items idealSeconds
      totalCycleSeconds).counts = count b.counts + δ)
    (hgrow : count (w.recomputed db') = count (w.recomputed db) + δ) : Agrees count w db' := by
  obtain ⟨b, hb, hrow, hcount⟩ := h
  have hhour : b.isHourOf w.stationId timestamp = true := by
    obtain ⟨htype, hid, hgran, hstart, hdur⟩ := hrow
    have hend : b.endTime = w.endTime := by
      rw [MetricBucket.endTime, hstart, hdur, HourWindow.endTime]
    simp [MetricBucket.isHourOf, htype, hid, hgran, hstart, hend, hlo, hhi]
  refine ⟨b.increment cycles items idealSeconds totalCycleSeconds, ?_, hrow, ?_⟩
  · rw [hbuckets]
    exact List.mem_map.mpr ⟨b, hb, if_pos hhour⟩
  · rw [hadd, hcount, hgrow]

namespace CompletionCall

/-- The arguments that `complete` passes to the strategy. -/
def args (call : CompletionCall) (w : HourWindow) (setup : Setup) : StrategyArgs :=
  strategyArgs
    { stationId := w.stationId, timestamp := call.timestamp, jobId := call.jobId,
      keepOpen := call.keepOpen } call.ids setup

/-- The database after a completion that goes through. -/
def apply (w : HourWindow) (call : CompletionCall) (db : Database) : Option Database :=
  match complete db
    { stationId := w.stationId, timestamp := call.timestamp, jobId := call.jobId,
      keepOpen := call.keepOpen } call.ids with
  | .ok (some (db', _)) => some db'
  | _ => none

/-- The cycles that a completion closes. -/
def closed (call : CompletionCall) (w : HourWindow) (setup : Setup) (db : Database) : List Cycle :=
  if call.keepOpen then (call.args w setup).closedCycles db
  else [(call.args w setup).immediateCycle (prevCycleEnd db w.stationId)]

/-- The cycle time that it adds. -/
def seconds (call : CompletionCall) (w : HourWindow) (setup : Setup) (db : Database) : ℤ :=
  if call.keepOpen then 0
  else mathRound (max 0 ((call.args w setup).immediateSeconds (prevCycleEnd db w.stationId)))

/-- **What a completion does to the counts**: its closed cycles come into the bucket with their
items, and the bucket is incremented. -/
theorem counted {w : HourWindow} {call : CompletionCall} {db db' : Database}
    (h : call.apply w db = some db') (hkept : OpenUncounted db w.stationId)
    (hlo : w.startTime ≤ call.timestamp) (hhi : call.timestamp < w.endTime) :
    ∃ setup items, readSetup db w.stationId call.jobId = .ok setup ∧
      Entered w.stationId w.startTime w.endTime (call.closed w setup db) items db db' ∧
      OpenUncounted db' w.stationId ∧
      IncrementedBy w.stationId call.timestamp 1 items.length setup.idealCycleIncrement
        (call.seconds w setup db) db.buckets db'.buckets := by
  rw [apply, complete] at h
  cases hsetup : readSetup db w.stationId call.jobId with
  | error err =>
    rw [hsetup] at h
    cases h
  | ok setup =>
    rw [hsetup, Except.map] at h
    refine ⟨setup, ?_⟩
    obtain ⟨r, hr⟩ : ∃ r, (if call.keepOpen then Tx.completeOpenClose (call.args w setup)
        else Tx.completeImmediate (call.args w setup)).alone store db = some (db', r) := by
      split at h
      · rename_i db₁ r heq
        cases h
        exact ⟨r, Except.ok.inj heq⟩
      · cases h
    rw [closed, seconds]
    cases hkeep : call.keepOpen with
    | true =>
      rw [hkeep, if_pos rfl] at hr
      -- the buckets are incremented after the second half, the first one leaves them alone
      obtain ⟨openStart, items, db₁, log, cycles, buckets, hhalf, -, hcycles, hbuckets, rfl⟩ :=
        alone_completeOpenClose hr
      obtain ⟨hentered, hkept₁, hsame⟩ := hhalf.entered hkept hlo hhi
      exact ⟨items, rfl, and_assoc.mp
        ⟨hentered.openNext hkept₁ hcycles rfl rfl rfl, hsame ▸ hbuckets⟩⟩
    | false =>
      rw [hkeep, if_neg Bool.false_ne_true] at hr
      obtain ⟨cycles, log, batch, buckets, hcycles, -, hbatch, hbuckets, rfl⟩ :=
        alone_immediateLocked hr
      exact ⟨batch.items, rfl, and_assoc.mp
        ⟨hkept.insert hlo hhi hcycles hbatch rfl rfl rfl, hbuckets⟩⟩

/-! ## The conditions on a completion -/

/-- Its timestamp is in the bucket. -/
def EndsIn (call : CompletionCall) (w : HourWindow) : Prop :=
  w.startTime ≤ call.timestamp ∧ call.timestamp < w.endTime

/-- An open/close completion finds one open cycle, or the station has no cycle at all. -/
def ClosesOne (call : CompletionCall) (w : HourWindow) (db : Database) : Prop :=
  call.keepOpen = true → (db.cycles.rows.filter (isOpenCycleOf w.stationId)).length = 1 ∨
    db.cycles.rows.any (·.stationId == w.stationId) = false

/-- The standard cycle of the job is a number of whole seconds, and the open cycles that an
open/close completion closes have the same one. -/
def WholeStandard (call : CompletionCall) (w : HourWindow) (db : Database) : Prop :=
  ∀ setup ∈ (readSetup db w.stationId call.jobId).toOption,
    (setup.standardCycle.getD 0).den = 1 ∧ (call.keepOpen = true →
      ∀ c ∈ db.cycles.rows.filter (isOpenCycleOf w.stationId),
        db.standardCycleOf c = setup.standardCycle)

/-- An immediate cycle begins in the bucket and takes whole seconds, or takes no time; the open
cycles that an open/close completion closes take no time in the bucket. -/
def WholeSeconds (call : CompletionCall) (w : HourWindow) (db : Database) : Prop :=
  (call.keepOpen = true → ∀ c ∈ db.cycles.rows.filter (isOpenCycleOf w.stationId),
    call.timestamp ≤ max c.start w.startTime) ∧
  (call.keepOpen = false →
    let start := (prevCycleEnd db w.stationId).getD call.timestamp
    call.timestamp ≤ start ∨ w.startTime ≤ start ∧ (1000 : ℤ) ∣ call.timestamp - start)

instance (call : CompletionCall) (w : HourWindow) : Decidable (call.EndsIn w) :=
  inferInstanceAs (Decidable (_ ∧ _))

instance (call : CompletionCall) (w : HourWindow) (db : Database) :
    Decidable (call.ClosesOne w db) :=
  inferInstanceAs (Decidable (_ → _))

instance (call : CompletionCall) (w : HourWindow) (db : Database) :
    Decidable (call.WholeStandard w db) :=
  Option.decidableForallMem _

instance (call : CompletionCall) (w : HourWindow) (db : Database) :
    Decidable (call.WholeSeconds w db) :=
  inferInstanceAs (Decidable ((_ → _) ∧ (_ → _ ∨ _)))

section

variable {w : HourWindow} {call : CompletionCall} {setup : Setup} {db : Database}

/-- The cycles that an open/close completion closes were open, or are the zero cycle. -/
theorem mem_closed {c : Cycle} (hkeep : call.keepOpen = true) (hc : c ∈ call.closed w setup db) :
    (∃ c₀ ∈ db.cycles.rows.filter (isOpenCycleOf w.stationId), c = c₀.close call.timestamp) ∨
      c = (call.args w setup).newCycle call.ids.zeroCycleId call.timestamp
        (some call.timestamp) := by
  rw [closed, if_pos hkeep] at hc
  cases hopen : db.cycles.rows.filter (isOpenCycleOf w.stationId) with
  | cons first rest =>
    rw [StrategyArgs.closedCycles_of_open hopen] at hc
    obtain ⟨c₀, hc₀, rfl⟩ := List.mem_map.mp hc
    exact .inl ⟨c₀, hc₀, rfl⟩
  | nil =>
    cases hprev : db.cycles.rows.any (·.stationId == w.stationId) with
    | true =>
      rw [StrategyArgs.closedCycles_of_previous hopen hprev] at hc
      exact absurd hc (by simp)
    | false =>
      rw [StrategyArgs.closedCycles_of_first hprev] at hc
      exact .inr (List.mem_singleton.mp hc)

theorem length_closed (h : call.ClosesOne w db) : (call.closed w setup db).length = 1 := by
  rw [closed]
  cases hkeep : call.keepOpen with
  | false => rfl
  | true =>
    rw [if_pos rfl]
    rcases h hkeep with hone | hfirst
    · obtain ⟨c, hc⟩ := List.length_eq_one_iff.mp hone
      rw [StrategyArgs.closedCycles_of_open hc]
      rfl
    · rw [StrategyArgs.closedCycles_of_first hfirst]
      rfl

/-- A cycle on the current blob of the job has the standard cycle of the job. -/
theorem idealSecondsOf_newCycle (hsetup : readSetup db w.stationId call.jobId = .ok setup)
    (id : Uuid) (start : Time) (cycleEnd : Option Time) :
    idealSecondsOf db none ((call.args w setup).newCycle id start cycleEnd)
      = setup.standardCycle.getD 0 := by
  have hstandard : setup.standardCycle
      = (db.jobBlobs.find? (·.id == setup.currentBlobId)).bind JobBlob.standardCycle := by
    rw [readSetup] at hsetup
    split at hsetup
    · split at hsetup
      · cases hsetup
      · split at hsetup
        · cases hsetup
        · cases hsetup
          rfl
    · cases hsetup
  rw [hstandard]
  rfl

theorem sum_idealSecondsOf_closed (hsetup : readSetup db w.stationId call.jobId = .ok setup)
    (hone : call.ClosesOne w db) (h : call.WholeStandard w db) :
    ((call.closed w setup db).map (idealSecondsOf db none)).sum
      = (setup.idealCycleIncrement : ℚ) := by
  obtain ⟨hden, hsame⟩ := h setup (by rw [hsetup]; rfl)
  have hwhole : (setup.idealCycleIncrement : ℚ) = setup.standardCycle.getD 0 := by
    rw [Setup.idealCycleIncrement]
    cases hstandard : setup.standardCycle with
    | none => rfl
    | some q =>
      rw [hstandard] at hden
      have hq : ((q.num : ℤ) : ℚ) = q := Rat.den_eq_one_iff q |>.mp hden
      rw [Option.map_some, Option.getD_some, Option.getD_some, ← hq, mathRound, round_intCast]
  have hlength : (call.closed w setup db).length = 1 := length_closed hone
  obtain ⟨c, hc⟩ := List.length_eq_one_iff.mp hlength
  rw [hwhole, hc, List.map_singleton, List.sum_singleton]
  cases hkeep : call.keepOpen with
  | false =>
    rw [closed, hkeep, if_neg Bool.false_ne_true] at hc
    rw [← List.singleton_inj.mp hc]
    exact idealSecondsOf_newCycle hsetup _ _ _
  | true =>
    have hmem : c ∈ call.closed w setup db := hc ▸ List.mem_singleton_self c
    rcases mem_closed hkeep hmem with ⟨c₀, hc₀, rfl⟩ | rfl
    · exact congrArg (Option.getD · 0) (hsame hkeep c₀ hc₀)
    · exact idealSecondsOf_newCycle hsetup _ _ _

theorem clippedCycleMs_of_end {c : Cycle} (hin : call.EndsIn w)
    (hend : c.cycleEnd = some call.timestamp) :
    clippedCycleMs w.startTime w.endTime c
      = max 0 (call.timestamp - max c.start w.startTime) := by
  rw [clippedCycleMs, hend]
  dsimp only
  rw [min_eq_left hin.2.le]

theorem sum_clippedCycleMs_closed (hin : call.EndsIn w) (h : call.WholeSeconds w db) :
    ((call.closed w setup db).map (clippedCycleMs w.startTime w.endTime)).sum
      = 1000 * call.seconds w setup db := by
  cases hkeep : call.keepOpen with
  | true =>
    rw [seconds, if_pos hkeep, mul_zero]
    refine List.sum_eq_zero fun ms hms ↦ ?_
    obtain ⟨c, hc, rfl⟩ := List.mem_map.mp hms
    rcases mem_closed hkeep hc with ⟨c₀, hc₀, rfl⟩ | rfl
    · rw [clippedCycleMs_of_end hin rfl]
      exact max_eq_left (sub_nonpos.mpr (h.1 hkeep c₀ hc₀))
    · rw [clippedCycleMs_of_end hin rfl]
      exact max_eq_left (sub_nonpos.mpr (le_max_left _ _))
  | false =>
    have hneg : ¬call.keepOpen = true := by rw [hkeep]; exact Bool.false_ne_true
    have htime := h.2 hkeep
    rw [seconds, if_neg hneg, closed, if_neg hneg, List.map_singleton, List.sum_singleton,
      clippedCycleMs_of_end hin rfl]
    have hseconds : (call.args w setup).immediateSeconds (prevCycleEnd db w.stationId)
        = (call.timestamp - (prevCycleEnd db w.stationId).getD call.timestamp : ℤ) / 1000 := rfl
    have hstart : ((call.args w setup).immediateCycle (prevCycleEnd db w.stationId)).start
        = (prevCycleEnd db w.stationId).getD call.timestamp := rfl
    rw [hseconds, hstart]
    dsimp only at htime
    generalize (prevCycleEnd db w.stationId).getD call.timestamp = start at htime ⊢
    -- a cycle that takes no time is clipped to nothing; the other one is not clipped
    rcases htime with hback | ⟨hlo, k, hk⟩
    · have hneg : ((call.timestamp - start : ℤ) : ℚ) / 1000 ≤ 0 :=
        div_nonpos_of_nonpos_of_nonneg (Int.cast_nonpos.mpr (sub_nonpos.mpr hback)) (by norm_num)
      rw [max_eq_left (sub_nonpos.mpr (hback.trans (le_max_left _ _))), max_eq_left hneg,
        mathRound, round_zero, mul_zero]
    · have hsec : ((call.timestamp - start : ℤ) : ℚ) / 1000 = k := by
        rw [hk, Int.cast_mul, Int.cast_ofNat, mul_div_cancel_left₀ _ (by norm_num : (1000 : ℚ) ≠ 0)]
      have hmax : max 0 (k : ℚ) = ((max 0 k : ℤ) : ℚ) := by rw [Int.cast_max, Int.cast_zero]
      rw [max_eq_left hlo, hsec, hk, hmax, mathRound, round_intCast]
      omega

end

end CompletionCall

/-! ## Runs -/

section

variable {w : HourWindow} {calls : List CompletionCall} {db db' : Database}
  {count : BucketCounts → ℤ}

/-- The invariant of a run. -/
def Counted (count : BucketCounts → ℤ) (w : HourWindow) (db : Database) : Prop :=
  OpenUncounted db w.stationId ∧ Agrees count w db

/-- A run keeps a count in agreement when each of its completions adds to the bucket what its closed
cycles bring into it. -/
theorem agrees_of_run (cond : CompletionCall → HourWindow → Database → Prop)
    (hstep : ∀ {db db' : Database} {call : CompletionCall} {setup : Setup}
      {items : List InventoryItem}, call.EndsIn w → cond call w db →
      readSetup db w.stationId call.jobId = .ok setup →
      Entered w.stationId w.startTime w.endTime (call.closed w setup db) items db db' →
      ∃ δ, (∀ b : MetricBucket, count (b.increment 1 items.length setup.idealCycleIncrement
        (call.seconds w setup db)).counts = count b.counts + δ) ∧
        count (w.recomputed db') = count (w.recomputed db) + δ)
    (hkept : OpenUncounted db w.stationId) (hagrees : Agrees count w db)
    (h : Run (CompletionCall.apply w) (fun db call ↦ call.EndsIn w ∧ cond call w db) db calls
      db') : Agrees count w db' := by
  have h₀ : Counted count w db := ⟨hkept, hagrees⟩
  have hinv := h.invariant h₀ fun db call db' hinv hok happly ↦ by
    obtain ⟨hkept, hagrees⟩ := hinv
    obtain ⟨hin, hcond⟩ := hok
    obtain ⟨setup, items, hsetup, hentered, hkept', hbuckets⟩ :=
      CompletionCall.counted happly hkept hin.1 hin.2
    obtain ⟨δ, hadd, hgrow⟩ := hstep hin hcond hsetup hentered
    exact ⟨hkept', hagrees.increment hin.1 hin.2 hbuckets hadd hgrow⟩
  exact hinv.2

end

/-- A station and its job, with two items for each cycle, and an empty bucket of the first hour. -/
def firstHour (standardCycle : ℚ) : Database :=
  { (default : Database) with
    buckets := ⟨[⟨.station, 1, .hour, 0, 3600, 0, 0, 0, 0⟩], by decide, by decide⟩
    stations := [⟨1, 1, none⟩]
    jobs := [⟨1, 1, some 1⟩]
    jobBlobs := [⟨1, 1, some standardCycle⟩]
    jobProducts := [⟨1, 1, some ⟨1, 2, true⟩, some 1, none⟩] }

def completionCall (keepOpen : Bool) (timestamp : Time) (id : Uuid) : CompletionCall :=
  ⟨timestamp, 1, keepOpen, ⟨id, 0, id, id⟩⟩

private theorem openUncounted_firstHour (standardCycle : ℚ) :
    OpenUncounted (firstHour standardCycle) 1 where
  known _ hitem := absurd hitem List.not_mem_nil
  uncounted _ hc := absurd hc List.not_mem_nil

end RwServer
