import Mathlib
import RwServer.Orders.Coherence

/-!
# Finished orders

A user moves an order along `STATUS_TRANSITIONS`, and a completed cycle allocates its items to
orders; both read the status first and write it later by the id of the order. A finished order stays
finished where every such update finds its order unfinished still (`finishedOrders_stay`); one that
comes late takes the order back (`not_finishedOrders_stay`).

The updates that find their orders by a condition check the status in the statement itself and need
no such assumption.
-/

namespace RwServer

open Relational ReadCommitted Transition

/-! ## Statements and statuses -/

/-- The statuses that a statement sets. -/
def OrderWrite.sets : OrderWrite → List (Uuid × OrderStatus)
  | .updateOrder id u => [(id, u.status)]
  | .updateOrders ids u => ids.map fun id ↦ (id, u.status)
  | .createOrder _ | .createLineItem _ | .updateLineItem _ _ | .updateLineItems _ _
  | .deleteLineItem _ | .createAllocation _ => []

/-- An update by id does not find its order finished, or leaves its status as it is. -/
def OrderWrite.FindsUnfinished (v : OrderDatabase) : OrderWrite → Prop
  | .updateOrder id u => ∀ o ∈ v.orders.find id, o.status.isFinished = true → u.status = o.status
  | .updateOrders _ _ | .createOrder _ | .createLineItem _ | .updateLineItem _ _
  | .updateLineItems _ _ | .deleteLineItem _ | .createAllocation _ => True

/-- An update by a condition has found unfinished orders only. -/
def OrderWrite.MatchesUnfinished (v : OrderDatabase) : OrderWrite → Prop
  | .updateOrders ids _ => ∀ id ∈ ids, ∀ o ∈ v.orders.find id, o.status.isFinished = false
  | .updateOrder _ _ | .createOrder _ | .createLineItem _ | .updateLineItem _ _
  | .updateLineItems _ _ | .deleteLineItem _ | .createAllocation _ => True

instance decidableFindsUnfinished (v : OrderDatabase) :
    (w : OrderWrite) → Decidable (w.FindsUnfinished v)
  | .updateOrder id u => inferInstanceAs
      (Decidable (∀ o ∈ v.orders.find id, o.status.isFinished = true → u.status = o.status))
  | .updateOrders _ _ | .createOrder _ | .createLineItem _ | .updateLineItem _ _
  | .updateLineItems _ _ | .deleteLineItem _ | .createAllocation _ => .isTrue trivial

/-- The updates by id of a statement find their orders unfinished. -/
def UpdatesUnfinished (v : OrderDatabase) (ws : List OrderWrite) : Prop :=
  ∀ w ∈ ws, w.FindsUnfinished v

instance decidableUpdatesUnfinished (v : OrderDatabase) (ws : List OrderWrite) :
    Decidable (UpdatesUnfinished v ws) :=
  inferInstanceAs (Decidable (∀ w ∈ ws, _))

section

variable {db db' : OrderDatabase} {w : OrderWrite} {ws ws' : List OrderWrite} {id : Uuid}
  {status : OrderStatus}

theorem mem_orderIds_of_sets {x : Uuid × OrderStatus} (hx : x ∈ w.sets) : x.1 ∈ w.orderIds := by
  cases w with
  | updateOrder id u =>
    rw [List.mem_singleton.mp hx]
    exact List.mem_singleton.mpr rfl
  | updateOrders ids u =>
    obtain ⟨id, hid, rfl⟩ := List.mem_map.mp hx
    exact hid
  | createOrder o => exact absurd hx List.not_mem_nil
  | createLineItem li => exact absurd hx List.not_mem_nil
  | updateLineItem id u => exact absurd hx List.not_mem_nil
  | updateLineItems ids u => exact absurd hx List.not_mem_nil
  | deleteLineItem id => exact absurd hx List.not_mem_nil
  | createAllocation a => exact absurd hx List.not_mem_nil

/-- A statement leaves the orders alone that it does not lock. -/
theorem find_of_write (hwrite : db.write w = some db') (hnot : id ∉ w.orderIds) :
    db'.orders.find id = db.orders.find id := by
  cases w with
  | createOrder a =>
    obtain ⟨orders, hinsert, rfl⟩ := Option.map_eq_some_iff.mp hwrite
    rw [OrderDatabase.setOrders, Table.find, Table.rows_of_insert hinsert, List.find?_append,
      Table.find, List.find?_cons_of_neg, List.find?_nil, Option.or_none]
    exact fun heq ↦ hnot (List.mem_singleton.mpr (of_decide_eq_true heq).symm)
  | updateOrder id' u =>
    cases hwrite
    have hmodify := Table.find_modify_key db.orders id' (Order.mild_update u) id
    have hne : id ≠ id' := fun heq ↦ hnot (List.mem_singleton.mpr heq)
    refine hmodify.trans ?_
    simp only [if_neg hne]
    exact Option.map_id'
  | updateOrders ids u =>
    cases hwrite
    refine (Table.find_modify db.orders _ (Order.mild_update u) id).trans ?_
    cases hfind : db.orders.find id with
    | none => rfl
    | some o =>
      have hid : o.id = id := (Table.find_eq_some_iff.mp hfind).2
      have hout : ¬ids.contains o.id = true := fun hin ↦
        hnot (hid ▸ List.contains_iff_mem.mp hin)
      rw [Option.map_some, if_neg hout]
  | createLineItem li =>
    obtain ⟨lineItems, -, rfl⟩ := Option.map_eq_some_iff.mp hwrite
    rfl
  | updateLineItem id' u =>
    cases hwrite
    rfl
  | updateLineItems ids u =>
    cases hwrite
    rfl
  | deleteLineItem id' =>
    cases hwrite
    rfl
  | createAllocation a =>
    obtain ⟨allocations, -, rfl⟩ := Option.map_eq_some_iff.mp hwrite
    rfl

/-- **What a statement does to an order**: it sets the status that it says, or none. -/
theorem status_of_write (hwrite : db.write w = some db') {o : Order}
    (hfind : db.orders.find id = some o) : ∃ o', db'.orders.find id = some o' ∧
      ((∃ x ∈ w.sets, x.1 = id ∧ o'.status = x.2) ∨ o'.status = o.status) := by
  by_cases hnot : id ∈ w.orderIds
  · have hid : o.id = id := (Table.find_eq_some_iff.mp hfind).2
    cases w with
    | createOrder a =>
      -- the id of an order that is there is not drawn again
      obtain ⟨orders, hinsert, rfl⟩ := Option.map_eq_some_iff.mp hwrite
      have hnew := (Table.insert_eq_some_iff.mp hinsert).1
      refine absurd (List.mem_map.mpr ⟨o, (Table.find_eq_some_iff.mp hfind).1, ?_⟩) hnew
      exact hid.trans (List.mem_singleton.mp hnot)
    | updateOrder id' u =>
      cases hwrite
      have hmodify := Table.find_modify_key db.orders id' (Order.mild_update u) id
      rw [hfind, Option.map_some, if_pos (List.mem_singleton.mp hnot)] at hmodify
      exact ⟨_, hmodify, .inl
        ⟨_, List.mem_singleton.mpr rfl, (List.mem_singleton.mp hnot).symm, rfl⟩⟩
    | updateOrders ids u =>
      cases hwrite
      have hin : ids.contains id = true := List.contains_iff_mem.mpr hnot
      have hmodify := Table.find_modify db.orders (fun o ↦ ids.contains o.id)
        (Order.mild_update u) id
      rw [hfind, Option.map_some, hid, if_pos hin] at hmodify
      exact ⟨_, hmodify, .inl ⟨_, List.mem_map_of_mem hnot, rfl, rfl⟩⟩
    | createLineItem li => exact absurd hnot List.not_mem_nil
    | updateLineItem id' u => exact absurd hnot List.not_mem_nil
    | updateLineItems ids u => exact absurd hnot List.not_mem_nil
    | deleteLineItem id' => exact absurd hnot List.not_mem_nil
    | createAllocation a => exact absurd hnot List.not_mem_nil
  · exact ⟨o, (find_of_write hwrite hnot).trans hfind, .inr rfl⟩

theorem find_of_writeAll (hwrites : orderStore.writeAll db ws = some db')
    (hnot : ∀ w ∈ ws, id ∉ w.orderIds) : db'.orders.find id = db.orders.find id := by
  induction ws generalizing db with
  | nil =>
    cases hwrites
    rfl
  | cons w ws ih =>
    rw [Store.writeAll_cons] at hwrites
    obtain ⟨db₁, hwrite, hrest⟩ := Option.bind_eq_some_iff.mp hwrites
    exact (ih hrest fun w hw ↦ hnot w (List.mem_cons_of_mem _ hw)).trans
      (find_of_write hwrite (hnot w List.mem_cons_self))

/-- An order keeps its status under statements that set no other one. -/
theorem status_of_writeAll (hwrites : orderStore.writeAll db ws = some db')
    (hsets : ∀ w ∈ ws, ∀ x ∈ w.sets, x.1 = id → x.2 = status) {o : Order}
    (hfind : db.orders.find id = some o) (hstatus : o.status = status) :
    ∃ o', db'.orders.find id = some o' ∧ o'.status = status := by
  induction ws generalizing db o with
  | nil =>
    cases hwrites
    exact ⟨o, hfind, hstatus⟩
  | cons w ws ih =>
    rw [Store.writeAll_cons] at hwrites
    obtain ⟨db₁, hwrite, hrest⟩ := Option.bind_eq_some_iff.mp hwrites
    obtain ⟨o₁, hfind₁, hcases⟩ := status_of_write hwrite hfind
    have hstatus₁ : o₁.status = status := by
      rcases hcases with ⟨x, hx, hid, heq⟩ | heq
      · exact heq.trans (hsets w List.mem_cons_self x hx hid)
      · exact heq.trans hstatus
    exact ih hrest (fun w hw ↦ hsets w (List.mem_cons_of_mem _ hw)) hfind₁ hstatus₁

end

/-! ## Sessions -/

/-- The updates by a condition of the program find unfinished orders only, whatever it reads. -/
inductive KeepsMatched : OrderTx → Prop
  | commit (result : OrderResult) : KeepsMatched (.commit result)
  | run {writes : OrderDatabase → List OrderWrite} {next : OrderDatabase → OrderTx} :
      (∀ v, ∀ w ∈ writes v, w.MatchesUnfinished v) → (∀ v, KeepsMatched (next v)) →
      KeepsMatched (.run writes next)

namespace KeepsMatched

theorem read {γ : Type*} {f : OrderDatabase → γ} {next : γ → OrderTx}
    (h : ∀ v, KeepsMatched (next (f v))) : KeepsMatched (.read f next) :=
  .run (fun _ _ hw ↦ absurd hw List.not_mem_nil) h

theorem exec {w : OrderDatabase → OrderWrite} {next : OrderTx}
    (hw : ∀ v, (w v).MatchesUnfinished v) (h : KeepsMatched next) :
    KeepsMatched (.exec (fun v ↦ [w v]) next) :=
  .run (fun v _ hmem ↦ List.mem_singleton.mp hmem ▸ hw v) fun _ ↦ h

theorem execIf {needed : Bool} {w : OrderDatabase → OrderWrite} {next : OrderTx}
    (hw : ∀ v, (w v).MatchesUnfinished v) (h : KeepsMatched next) :
    KeepsMatched (execIf needed (fun v ↦ [w v]) next) := by
  rw [RwServer.execIf]
  split
  · exact exec hw h
  · exact h

theorem transitionStatus (id : Uuid) (targetStatus : OrderStatus) :
    KeepsMatched (Order.transitionStatus id targetStatus) := by
  unfold Order.transitionStatus
  refine read fun v ↦ ?_
  split
  · exact .commit _
  · split
    · dsimp only
      split
      · exact read fun v ↦ exec (fun _ ↦ trivial) (.commit _)
      · exact exec (fun _ ↦ trivial) (.commit _)
    · exact .commit _

/-- Orders that a condition on the status has found. -/
private theorem matches_of_status {v : OrderDatabase} {inSnapshot : Uuid → Bool} {l : List Order}
    {u : OrderUpdate} (hl : ∀ o ∈ l, o ∈ v.orders.rows ∧ o.status.isFinished = false) :
    (OrderWrite.updateOrders (foundIds inSnapshot (l.map Order.id)) u).MatchesUnfinished v := by
  intro id hid o ho
  obtain ⟨o', ho', heq⟩ := List.mem_map.mp (List.mem_filter.mp hid).1
  obtain ⟨hmem, hkey⟩ := Table.find_eq_some_iff.mp ho
  obtain ⟨hmem', hunfinished⟩ := hl o' ho'
  rwa [← v.orders.eq_of_key_eq hmem' hmem (heq.trans hkey.symm)]

theorem allocateInventory (siteId productId inventoryItemId allocationId : Uuid)
    (inSnapshot : Uuid → Bool) : KeepsMatched (RwServer.allocateInventory siteId productId
      inventoryItemId allocationId inSnapshot) := by
  unfold RwServer.allocateInventory
  refine exec (fun _ ↦ trivial) (exec (fun v ↦ matches_of_status fun o ho ↦ ?_) (read fun v ↦ ?_))
  · obtain ⟨ho, hcond⟩ := List.mem_filter.mp ho
    simp only [Bool.and_eq_true, Bool.or_eq_true, decide_eq_true_eq] at hcond
    refine ⟨ho, ?_⟩
    rcases hcond.1.1.1.1.2 with hstatus | hstatus <;> rw [hstatus] <;> rfl
  · split
    · exact .commit _
    · unfold allocateTo
      refine exec (fun _ ↦ trivial) (exec (fun _ ↦ trivial) (execIf (fun _ ↦ trivial) ?_))
      refine execIf (fun v ↦ matches_of_status fun o ho ↦ ?_) ?_
      · obtain ⟨ho, hcond⟩ := List.mem_filter.mp ho
        simp only [Bool.and_eq_true, decide_eq_true_eq] at hcond
        refine ⟨ho, ?_⟩
        rw [hcond.1.1.1.1.2]
        rfl
      · split
        · exact read fun v ↦ execIf (fun _ ↦ trivial) (.commit _)
        · exact .commit _

end KeepsMatched

/-- The writes leave the status of the orders that are finished. -/
def LeavesFinished (db : OrderDatabase) (ws : List OrderWrite) : Prop :=
  ∀ w ∈ ws, ∀ x ∈ w.sets, ∀ o, db.orders.find x.1 = some o → o.status.isFinished = true →
    x.2 = o.status

/-- An order that is finished is found with its status after the writes. -/
def FinishedIn (db db' : OrderDatabase) : Prop :=
  ∀ id o, db.orders.find id = some o → o.status.isFinished = true →
    ∃ o', db'.orders.find id = some o' ∧ o'.status = o.status

section

variable {db v : OrderDatabase} {ws ws' : List OrderWrite}

theorem LeavesFinished.finishedIn (h : LeavesFinished db ws)
    (hwrites : orderStore.writeAll db ws = some v) : FinishedIn db v := by
  intro id o hfind hfinished
  refine status_of_writeAll hwrites (fun w hw x hx hid ↦ ?_) hfind rfl
  exact h w hw x hx o (hid ▸ hfind) hfinished

/-- A statement that finds no order finished. -/
private theorem LeavesFinished.append (h : LeavesFinished db ws)
    (hview : orderStore.writeAll db ws = some v) (hcond : UpdatesUnfinished v ws')
    (hmatched : ∀ w ∈ ws', w.MatchesUnfinished v) : LeavesFinished db (ws ++ ws') := by
  intro w hw x hx o hfind hfinished
  rcases List.mem_append.mp hw with hw | hw
  · exact h w hw x hx o hfind hfinished
  · obtain ⟨o', hfind', hstatus⟩ := h.finishedIn hview x.1 o hfind hfinished
    cases w with
    | updateOrder id u =>
      rw [List.mem_singleton.mp hx] at hfind' ⊢
      exact (hcond _ hw o' hfind' (hstatus ▸ hfinished)).trans hstatus
    | updateOrders ids u =>
      obtain ⟨id, hid, rfl⟩ := List.mem_map.mp hx
      have hunfinished := hmatched _ hw id hid o' hfind'
      rw [hstatus, hfinished] at hunfinished
      exact absurd hunfinished (by simp)
    | createOrder a => exact absurd hx List.not_mem_nil
    | createLineItem li => exact absurd hx List.not_mem_nil
    | updateLineItem id u => exact absurd hx List.not_mem_nil
    | updateLineItems ids u => exact absurd hx List.not_mem_nil
    | deleteLineItem id => exact absurd hx List.not_mem_nil
    | createAllocation a => exact absurd hx List.not_mem_nil

/-- Another session that commits has written other orders. -/
private theorem LeavesFinished.frame (h : LeavesFinished db ws')
    (hcommit : orderStore.writeAll db ws = some v)
    (hapart : ∀ w ∈ ws, ∀ w' ∈ ws', w.conflict w' = false) : LeavesFinished v ws' := by
  intro w' hw' x hx o hfind hfinished
  refine h w' hw' x hx o ?_ hfinished
  rw [← hfind, find_of_writeAll hcommit fun w hw hid ↦ ?_]
  have hconflict := hapart w hw w' hw'
  rw [OrderWrite.conflict, Bool.or_eq_false_iff, Bool.or_eq_false_iff, List.any_eq_false]
    at hconflict
  exact hconflict.1.1 x.1 hid (List.contains_iff_mem.mpr (mem_orderIds_of_sets hx))

end

/-! ## All interleavings -/

/-- A user action, or the allocation of an item of a completed cycle. -/
inductive StatusCall
  | transitionStatus (id : Uuid) (targetStatus : OrderStatus)
  | allocateInventory (siteId productId inventoryItemId allocationId : Uuid)
      (inSnapshot : Uuid → Bool)

def StatusCall.program : StatusCall → OrderTx
  | .transitionStatus id targetStatus => Order.transitionStatus id targetStatus
  | .allocateInventory siteId productId inventoryItemId allocationId inSnapshot =>
    RwServer.allocateInventory siteId productId inventoryItemId allocationId inSnapshot

theorem keepsMatched_program (call : StatusCall) : KeepsMatched call.program := by
  cases call with
  | transitionStatus id targetStatus => exact .transitionStatus id targetStatus
  | allocateInventory siteId productId inventoryItemId allocationId inSnapshot =>
    exact .allocateInventory siteId productId inventoryItemId allocationId inSnapshot

section

variable {ι : Type*} [DecidableEq ι]

/-- Sessions write no finished order. -/
def statusOutline (ι : Type*) [DecidableEq ι] :
    RowOutline orderStore UpdatesUnfinished Unit ι OrderResult where
  Inv _ _ := True
  Local _ ws p db := LeavesFinished db ws ∧ KeepsMatched p
  run := by
    rintro i ws writes next results s v v' - ⟨hleaves, hmatched⟩ hview hcond -
    cases hmatched with
    | run hwrites hnext => exact ⟨hleaves.append hview hcond (hwrites v), hnext v⟩
  lock := by
    rintro i ws label next s ⟨-, hmatched⟩
    cases hmatched
  commit _ _ _ _ := trivial
  frame _ _ _ h hcommit hapart := ⟨h.1.frame hcommit hapart, h.2⟩

variable [Fintype ι] {db : OrderDatabase} {calls : ι → StatusCall} {moves later : List (Move ι)}
  {y y' : System OrderDatabase OrderWrite Unit OrderResult ι}

/-- **Finished orders stay finished** as long as no update by id finds its order finished: an order
that is `COMPLETED` or `CANCELLED` at some moment has that status at every later one. -/
theorem finishedOrders_stay
    (hrun : Run (step orderStore) (RunWhen orderStore UpdatesUnfinished)
      (.start db fun i ↦ (calls i).program) moves y)
    (hlater : Run (step orderStore) (RunWhen orderStore UpdatesUnfinished) y later y') :
    ∀ id o, y.committed.orders.find id = some o → o.status = .completed ∨ o.status = .cancelled →
      ∃ o', y'.committed.orders.find id = some o' ∧ o'.status = o.status := by
  have hlocal : ∀ i, (statusOutline ι).Local i [] (calls i).program db := fun i ↦
    ⟨fun _ hw ↦ absurd hw List.not_mem_nil, keepsMatched_program (calls i)⟩
  have h := (statusOutline ι).sound OrderWrite.conflict_comm trivial hlocal hrun
  have hcommit : ∀ {i ws result results s v}, (statusOutline ι).Inv results s →
      (statusOutline ι).Local i ws (.commit result) s → orderStore.writeAll s ws = some v →
      FinishedIn s v := fun _ hlocal hwrites ↦ LeavesFinished.finishedIn hlocal.1 hwrites
  have hkeeps : FinishedIn y.committed y'.committed := by
    refine h.keeps OrderWrite.conflict_comm FinishedIn (fun _ _ o hfind _ ↦ ⟨o, hfind, rfl⟩)
      (fun h h' id o hfind hfinished ↦ ?_) hcommit hlater
    obtain ⟨o', hfind', hstatus⟩ := h id o hfind hfinished
    obtain ⟨o'', hfind'', hstatus'⟩ := h' id o' hfind' (hstatus ▸ hfinished)
    exact ⟨o'', hfind'', hstatus'.trans hstatus⟩
  exact fun id o hfind hstatus ↦ hkeeps id o hfind (OrderStatus.isFinished_iff.mpr hstatus)

end

/-! ## An update that comes late -/

/-- An open order of two items. -/
def sampleOpenOrder : OrderDatabase where
  orders := (Table.empty orderSchema).insertMissing
    ⟨10, 1, "ORD-001", .open, none, some 1, none, none⟩
  lineItems := (Table.empty lineItemSchema).insertMissing (.new 11 10 5 2)
  allocations := .empty allocationSchema
  sites := [⟨1, none⟩]
  customers := []

/-- A cycle that allocates an item, and a user who cancels the order by session `true`. -/
def allocateAndCancel : Bool → StatusCall
  | false => .allocateInventory 1 5 20 30 fun _ ↦ true
  | true => .transitionStatus 10 .cancelled

/-- The order is cancelled before the cycle looks for it. -/
theorem finishedOrders_stay_sample : ∃ y y',
    Run (step orderStore) (RunWhen orderStore UpdatesUnfinished)
      (.start sampleOpenOrder fun i ↦ (allocateAndCancel i).program)
      [.run true, .run true, .run true] y ∧
    Run (step orderStore) (RunWhen orderStore UpdatesUnfinished) y
      [.run false, .run false, .run false, .run false] y' ∧
    ∃ o, y'.committed.orders.find 10 = some o ∧ o.status = .cancelled := by
  have hrun : ((execute (step orderStore) (RunWhen orderStore UpdatesUnfinished)
      [.run true, .run true, .run true]
      (.start sampleOpenOrder fun i ↦ (allocateAndCancel i).program)).any fun y ↦
        decide (∃ o ∈ y.committed.orders.find 10, o.status = .cancelled) &&
        (execute (step orderStore) (RunWhen orderStore UpdatesUnfinished)
          [.run false, .run false, .run false, .run false] y).isSome) = true := by
    decide +kernel
  obtain ⟨y, hy, hrest⟩ := (Option.any_eq_true _ _).mp hrun
  rw [Bool.and_eq_true, decide_eq_true_eq] at hrest
  obtain ⟨⟨o, hfind, hcancelled⟩, hsome⟩ := hrest
  obtain ⟨y', hy'⟩ := Option.isSome_iff_exists.mp hsome
  refine ⟨y, y', run_of_execute hy, run_of_execute hy', ?_⟩
  obtain ⟨o', hfind', hstatus⟩ := finishedOrders_stay (run_of_execute hy) (run_of_execute hy') 10 o
    hfind (.inr hcancelled)
  exact ⟨o', hfind', hstatus.trans hcancelled⟩

/-- The order is cancelled after the cycle has found it open, and is running again when the cycle
commits. -/
theorem not_finishedOrders_stay : ∃ y y',
    Run (step orderStore) (fun _ _ ↦ True)
      (.start sampleOpenOrder fun i ↦ (allocateAndCancel i).program)
      [.run false, .run false, .run false, .run true, .run true, .run true] y ∧
    Run (step orderStore) (fun _ _ ↦ True) y
      [.run false, .run false, .run false, .run false, .run false] y' ∧
    (∃ o, y.committed.orders.find 10 = some o ∧ o.status = .cancelled) ∧
    ∃ o, y'.committed.orders.find 10 = some o ∧ o.status = .inProgress := by
  have hrun : ((execute (step orderStore) (fun _ _ ↦ True)
      [.run false, .run false, .run false, .run true, .run true, .run true]
      (.start sampleOpenOrder fun i ↦ (allocateAndCancel i).program)).any fun y ↦
        decide (∃ o ∈ y.committed.orders.find 10, o.status = .cancelled) &&
        (execute (step orderStore) (fun _ _ ↦ True)
          [.run false, .run false, .run false, .run false, .run false] y).any fun y' ↦
            decide (∃ o ∈ y'.committed.orders.find 10, o.status = .inProgress)) = true := by
    decide +kernel
  obtain ⟨y, hy, hrest⟩ := (Option.any_eq_true _ _).mp hrun
  rw [Bool.and_eq_true, decide_eq_true_eq] at hrest
  obtain ⟨hcancelled, hrest⟩ := hrest
  obtain ⟨y', hy', hrunning⟩ := (Option.any_eq_true _ _).mp hrest
  exact ⟨y, y', run_of_execute hy, run_of_execute hy', hcancelled, of_decide_eq_true hrunning⟩

end RwServer
