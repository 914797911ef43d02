import Mathlib
import RwServer.Orders.Operations

/-!
# Line items and their allocations

The allocation of an item adds one to `completedQuantity`, a disposition adds its quantity to
`scrapQuantity`, and both put a row into the allocations. Along every run of operations, one at a
time, the two quantities are the sums of these rows, and the status of a line item is that of its
quantities (`lineItems_coherent`).

A disposition may be a correction, of a negative quantity, and then its allocation is positive; so
the two kinds are told apart by the inventory item, not by the sign
(`not_lineItems_coherent`).
-/

namespace RwServer

open Relational ReadCommitted Transition

/-! ## Coherent databases -/

/-- The status that belongs to the quantities of a line item. -/
def OrderLineItem.expectedStatus (li : OrderLineItem) : LineItemStatus :=
  if li.completedQuantity = 0 then .pending
  else if 0 < li.completedQuantity ∧ li.isFulfilled then .completed
  else .inProgress

/-- The allocations of inventory items to a line item, summed. -/
def OrderDatabase.produced (db : OrderDatabase) (lineItemId : Uuid) : ℤ :=
  (((db.allocationsOf lineItemId).filter fun a ↦ a.inventoryItemId.isSome).map
    OrderInventoryAllocation.quantity).sum

/-- The other allocations of a line item, those of dispositions, summed. -/
def OrderDatabase.deducted (db : OrderDatabase) (lineItemId : Uuid) : ℤ :=
  (((db.allocationsOf lineItemId).filter fun a ↦ a.inventoryItemId.isNone).map
    OrderInventoryAllocation.quantity).sum

/-- Quantities, allocations and statuses agree. -/
structure OrderDatabase.Coherent (db : OrderDatabase) : Prop where
  /-- The foreign key of `orderLineItemId`. -/
  owned : ∀ a ∈ db.allocations.rows, ∃ li ∈ db.lineItems.rows, li.id = a.orderLineItemId
  one_of_item : ∀ a ∈ db.allocations.rows, a.inventoryItemId.isSome = true → 0 < a.quantity
  completed : ∀ li ∈ db.lineItems.rows, li.completedQuantity = db.produced li.id
  scrap : ∀ li ∈ db.lineItems.rows, li.scrapQuantity = -db.deducted li.id
  status : ∀ li ∈ db.lineItems.rows, li.status = li.expectedStatus

namespace OrderDatabase.Coherent

variable {db db' : OrderDatabase} {li : OrderLineItem}

theorem completed_nonneg (h : db.Coherent) (hli : li ∈ db.lineItems.rows) :
    0 ≤ li.completedQuantity := by
  rw [h.completed li hli, produced]
  refine List.sum_nonneg fun q hq ↦ ?_
  obtain ⟨a, ha, rfl⟩ := List.mem_map.mp hq
  obtain ⟨ha, hitem⟩ := List.mem_filter.mp ha
  exact (h.one_of_item a (List.mem_filter.mp ha).1 hitem).le

/-- Nothing is completed of a line item without allocations. -/
theorem completed_of_unallocated (h : db.Coherent) (hli : li ∈ db.lineItems.rows)
    (hnone : db.allocationsOf li.id = []) : li.completedQuantity = 0 := by
  rw [h.completed li hli, produced, hnone, List.filter_nil, List.map_nil, List.sum_nil]

/-- Statements about orders do not matter. -/
theorem of_orders (h : db.Coherent) (orders : Table orderSchema) :
    (db.setOrders orders).Coherent :=
  ⟨h.owned, h.one_of_item, h.completed, h.scrap, h.status⟩

theorem createLineItem {id orderId productId : Uuid} {targetQuantity : ℤ} (h : db.Coherent)
    (hwrite : db.write (.createLineItem (.new id orderId productId targetQuantity)) = some db') :
    db'.Coherent := by
  obtain ⟨lineItems, hinsert, rfl⟩ := Option.map_eq_some_iff.mp hwrite
  obtain ⟨hnew, -, hrows⟩ := Table.insert_eq_some_iff.mp hinsert
  -- no allocation has named the new line item
  have hnone : db.allocationsOf id = [] := List.filter_eq_nil_iff.mpr fun a ha hid ↦ by
    obtain ⟨li, hli, heq⟩ := h.owned a ha
    exact hnew (List.mem_map.mpr ⟨li, hli, heq.trans (of_decide_eq_true hid)⟩)
  have hmem : ∀ li ∈ lineItems.rows, li ∈ db.lineItems.rows ∨
      li = .new id orderId productId targetQuantity := fun li hli ↦ by
    rw [hrows, List.mem_append, List.mem_singleton] at hli
    exact hli
  refine ⟨fun a ha ↦ ?_, h.one_of_item, fun li hli ↦ ?_, fun li hli ↦ ?_, fun li hli ↦ ?_⟩
  · obtain ⟨li, hli, heq⟩ := h.owned a ha
    refine ⟨li, ?_, heq⟩
    rw [setLineItems, hrows]
    exact List.mem_append_left _ hli
  · rcases hmem li hli with hli | rfl
    · exact h.completed li hli
    · change 0 = (((db.allocationsOf id).filter _).map _).sum
      rw [hnone, List.filter_nil, List.map_nil, List.sum_nil]
  · rcases hmem li hli with hli | rfl
    · exact h.scrap li hli
    · change 0 = -(((db.allocationsOf id).filter _).map _).sum
      rw [hnone, List.filter_nil, List.map_nil, List.sum_nil, neg_zero]
  · rcases hmem li hli with hli | rfl
    · exact h.status li hli
    · rfl

theorem createLineItems {items : List (Uuid × ℤ)} {orderId : Uuid} {newId : Uuid → Uuid} :
    ∀ {db db' : OrderDatabase}, db.Coherent → orderStore.writeAll db (items.map fun li ↦
      .createLineItem (.new (newId li.1) orderId li.1 li.2)) = some db' → db'.Coherent := by
  induction items with
  | nil =>
    intro db db' h hwrite
    cases hwrite
    exact h
  | cons li items ih =>
    intro db db' h hwrite
    rw [List.map_cons, Store.writeAll_cons] at hwrite
    obtain ⟨db₁, hfirst, hrest⟩ := Option.bind_eq_some_iff.mp hwrite
    exact ih (h.createLineItem hfirst) hrest

/-- Line items whose quantities stay, with the status of these. -/
theorem modifyLineItems {p : OrderLineItem → Bool} {u : LineItemUpdate} (h : db.Coherent)
    (hcompleted : u.completedIncrement = 0) (hscrap : u.scrapIncrement = 0)
    (hstatus : ∀ li ∈ db.lineItems.rows, p li = true →
      (li.update u).status = (li.update u).expectedStatus) :
    (db.setLineItems
      (db.lineItems.modify p (OrderLineItem.update u) (OrderLineItem.mild_update u))).Coherent := by
  have hcompleted' : ∀ li : OrderLineItem,
      (li.update u).completedQuantity = li.completedQuantity := fun li ↦ by
    rw [OrderLineItem.update, hcompleted, add_zero]
  have hscrap' : ∀ li : OrderLineItem, (li.update u).scrapQuantity = li.scrapQuantity := fun li ↦ by
    rw [OrderLineItem.update, hscrap, add_zero]
  refine ⟨fun a ha ↦ ?_, h.one_of_item, fun li' hli' ↦ ?_, fun li' hli' ↦ ?_, fun li' hli' ↦ ?_⟩
  · obtain ⟨li, hli, heq⟩ := h.owned a ha
    refine ⟨_, List.mem_map_of_mem hli, ?_⟩
    split <;> exact heq
  · obtain ⟨li, hli, rfl⟩ := List.mem_map.mp hli'
    split
    · exact (hcompleted' li).trans (h.completed li hli)
    · exact h.completed li hli
  · obtain ⟨li, hli, rfl⟩ := List.mem_map.mp hli'
    split
    · exact (hscrap' li).trans (h.scrap li hli)
    · exact h.scrap li hli
  · obtain ⟨li, hli, rfl⟩ := List.mem_map.mp hli'
    split
    · rename_i hp
      exact hstatus li hli hp
    · exact h.status li hli

/-- Line items whose status is brought up to their quantities. -/
theorem updateLineItems {ids : List Uuid} (h : db.Coherent)
    (hstale : ∀ li ∈ db.lineItems.rows, li.id ∈ ids →
      0 < li.completedQuantity ∧ li.isFulfilled = true)
    (hwrite : db.write (.updateLineItems ids { status := some .completed }) = some db') :
    db'.Coherent := by
  cases hwrite
  refine h.modifyLineItems rfl rfl fun li hli hid ↦ ?_
  obtain ⟨hpos, hfulfilled⟩ := hstale li hli (List.contains_iff_mem.mp hid)
  rw [OrderLineItem.isFulfilled, decide_eq_true_eq] at hfulfilled
  rw [OrderLineItem.expectedStatus, OrderLineItem.isFulfilled, OrderLineItem.update]
  simp [hpos.ne', hpos, hfulfilled]

/-- A target is edited as long as nothing has been allocated. -/
theorem updateTarget {id : Uuid} {targetQuantity : Option ℤ} (h : db.Coherent)
    (hnone : db.allocationsOf id = [])
    (hwrite : db.write (.updateLineItem id { targetQuantity }) = some db') : db'.Coherent := by
  cases hwrite
  refine h.modifyLineItems rfl rfl fun li hli hid ↦ ?_
  have hzero := h.completed_of_unallocated hli (by rwa [of_decide_eq_true hid])
  have hstatus := h.status li hli
  rw [OrderLineItem.expectedStatus, if_pos hzero] at hstatus
  rw [OrderLineItem.expectedStatus, OrderLineItem.update]
  simp [hzero, hstatus]

theorem deleteLineItem {id : Uuid} (h : db.Coherent)
    (hwrite : db.write (.deleteLineItem id) = some db') : db'.Coherent := by
  cases hwrite
  -- the allocations of the other line items stay
  have hsame : ∀ id', id' ≠ id → OrderDatabase.allocationsOf
      { db with
        lineItems := db.lineItems.delete fun li ↦ decide (li.id = id)
        allocations := db.allocations.delete fun a ↦ decide (a.orderLineItemId = id) } id'
      = db.allocationsOf id' := by
    intro id' hne
    rw [allocationsOf, allocationsOf]
    dsimp only [Table.delete]
    rw [List.filter_filter]
    refine List.filter_congr fun a _ ↦ ?_
    by_cases ha : a.orderLineItemId = id'
    · simp [ha, hne]
    · simp [ha]
  have hmem : ∀ li ∈ (db.lineItems.delete fun li ↦ decide (li.id = id)).rows,
      li ∈ db.lineItems.rows ∧ li.id ≠ id := fun li hli ↦ by
    obtain ⟨hli, hid⟩ := List.mem_filter.mp hli
    exact ⟨hli, by simpa using hid⟩
  refine ⟨fun a ha ↦ ?_, fun a ha ↦ ?_, fun li hli ↦ ?_, fun li hli ↦ ?_, fun li hli ↦ ?_⟩
  · obtain ⟨ha, hid⟩ := List.mem_filter.mp ha
    obtain ⟨li, hli, heq⟩ := h.owned a ha
    refine ⟨li, List.mem_filter.mpr ⟨hli, ?_⟩, heq⟩
    change (!decide (li.id = id)) = true
    rw [heq]
    exact hid
  · exact h.one_of_item a (List.mem_filter.mp ha).1
  · obtain ⟨hli, hne⟩ := hmem li hli
    rw [produced, hsame li.id hne]
    exact h.completed li hli
  · obtain ⟨hli, hne⟩ := hmem li hli
    rw [deducted, hsame li.id hne]
    exact h.scrap li hli
  · exact h.status li (hmem li hli).1

/-- An allocation, and the update of its line item that goes with it. -/
theorem allocate {db₁ : OrderDatabase} {a : OrderInventoryAllocation} {u : LineItemUpdate}
    (h : db.Coherent) (hli : li ∈ db.lineItems.rows) (hid : a.orderLineItemId = li.id)
    (hinsert : db.write (.createAllocation a) = some db₁)
    (hupdate : db₁.write (.updateLineItem li.id u) = some db')
    (hitem : a.inventoryItemId.isSome = true → 0 < a.quantity)
    (hcompleted : u.completedIncrement = if a.inventoryItemId.isSome then a.quantity else 0)
    (hscrap : u.scrapIncrement = if a.inventoryItemId.isSome then 0 else -a.quantity)
    (hstatus : u.status = some (li.update u).expectedStatus) : db'.Coherent := by
  obtain ⟨allocations, hallocations, rfl⟩ := Option.map_eq_some_iff.mp hinsert
  have hrows := Table.rows_of_insert hallocations
  cases hupdate
  have hof : ∀ id, ((db.setAllocations allocations).setLineItems
      ((db.setAllocations allocations).lineItems.modify (fun li' ↦ decide (li'.id = li.id))
        (OrderLineItem.update u) (OrderLineItem.mild_update u))).allocationsOf id
      = db.allocationsOf id ++ if li.id = id then [a] else [] := by
    intro id
    rw [allocationsOf, setLineItems, setAllocations]
    dsimp only
    rw [hrows, List.filter_append, allocationsOf, List.filter_cons, List.filter_nil]
    by_cases heq : li.id = id
    · rw [if_pos (decide_eq_true (hid.trans heq)), if_pos heq]
    · rw [if_neg fun hin ↦ heq (hid.symm.trans (of_decide_eq_true hin)), if_neg heq]
  refine ⟨fun b hb ↦ ?_, fun b hb ↦ ?_, fun li' hli' ↦ ?_, fun li' hli' ↦ ?_, fun li' hli' ↦ ?_⟩
  · change b ∈ allocations.rows at hb
    have howned : ∃ li ∈ db.lineItems.rows, li.id = b.orderLineItemId := by
      rw [hrows, List.mem_append, List.mem_singleton] at hb
      rcases hb with hb | rfl
      · exact h.owned b hb
      · exact ⟨li, hli, hid.symm⟩
    obtain ⟨li', hli', heq⟩ := howned
    refine ⟨_, List.mem_map_of_mem hli', ?_⟩
    split <;> exact heq
  · change b ∈ allocations.rows at hb
    rw [hrows, List.mem_append, List.mem_singleton] at hb
    rcases hb with hb | rfl
    · exact h.one_of_item b hb
    · exact hitem
  · obtain ⟨x, hx, rfl⟩ := List.mem_map.mp hli'
    rw [produced, hof]
    split
    · rename_i heq
      have hxli := db.lineItems.eq_of_key_eq hx hli (of_decide_eq_true heq)
      rw [hxli]
      change li.completedQuantity + u.completedIncrement = _
      rw [show (li.update u).id = li.id from rfl, if_pos rfl, List.filter_append, List.map_append,
        List.sum_append, hcompleted, h.completed li hli, produced]
      cases hitem : a.inventoryItemId <;> simp [hitem]
    · rename_i heq
      rw [if_neg fun hid ↦ heq (decide_eq_true hid.symm), List.append_nil]
      exact h.completed x hx
  · obtain ⟨x, hx, rfl⟩ := List.mem_map.mp hli'
    rw [deducted, hof]
    split
    · rename_i heq
      have hxli := db.lineItems.eq_of_key_eq hx hli (of_decide_eq_true heq)
      rw [hxli]
      change li.scrapQuantity + u.scrapIncrement = _
      rw [show (li.update u).id = li.id from rfl, if_pos rfl, List.filter_append, List.map_append,
        List.sum_append, hscrap, h.scrap li hli, deducted]
      cases hitem : a.inventoryItemId
      · simp [hitem]
        ring
      · simp [hitem]
    · rename_i heq
      rw [if_neg fun hid ↦ heq (decide_eq_true hid.symm), List.append_nil]
      exact h.scrap x hx
  · obtain ⟨x, hx, rfl⟩ := List.mem_map.mp hli'
    split
    · rename_i heq
      rw [db.lineItems.eq_of_key_eq hx hli (of_decide_eq_true heq)]
      change u.status.getD li.status = _
      rw [hstatus, Option.getD_some]
    · exact h.status x hx

end OrderDatabase.Coherent

/-! ## Operations -/

/-- The statement writes orders only. -/
def OrderWrite.onOrders : OrderWrite → Bool
  | .createOrder _ | .updateOrder _ _ | .updateOrders _ _ => true
  | .createLineItem _ | .updateLineItem _ _ | .updateLineItems _ _ | .deleteLineItem _
  | .createAllocation _ => false

section

open Program

variable {db : OrderDatabase}

theorem writeAll_order (db : OrderDatabase) (w : OrderWrite) :
    orderStore.writeAll db [w] = db.write w := by
  rw [Store.writeAll_cons]
  cases h : orderStore.write db w <;> exact h.symm

/-- A statement that writes orders, and what follows it. -/
private theorem ensures_orders {w : OrderWrite} {next : OrderTx} (h : db.Coherent)
    (hw : w.onOrders = true)
    (hnext : ∀ db₁ : OrderDatabase, db₁.Coherent → next.Ensures orderStore (·.Coherent) db₁) :
    (Program.exec (fun _ ↦ [w]) next).Ensures orderStore (·.Coherent) db := by
  refine ensures_exec fun db₁ hwrite ↦ hnext db₁ ?_
  rw [writeAll_order] at hwrite
  cases w with
  | createOrder o =>
    obtain ⟨orders, -, rfl⟩ := Option.map_eq_some_iff.mp hwrite
    exact h.of_orders orders
  | updateOrder id u =>
    cases hwrite
    exact h.of_orders _
  | updateOrders ids u =>
    cases hwrite
    exact h.of_orders _
  | createLineItem li => exact absurd hw (by simp [OrderWrite.onOrders])
  | updateLineItem id u => exact absurd hw (by simp [OrderWrite.onOrders])
  | updateLineItems ids u => exact absurd hw (by simp [OrderWrite.onOrders])
  | deleteLineItem id => exact absurd hw (by simp [OrderWrite.onOrders])
  | createAllocation a => exact absurd hw (by simp [OrderWrite.onOrders])

private theorem ensures_execIf {needed : Bool} {w : OrderDatabase → OrderWrite} {next : OrderTx}
    (h : db.Coherent) (hw : ∀ db, (w db).onOrders = true)
    (hnext : ∀ db₁ : OrderDatabase, db₁.Coherent → next.Ensures orderStore (·.Coherent) db₁) :
    (execIf needed (fun db ↦ [w db]) next).Ensures orderStore (·.Coherent) db := by
  rw [execIf]
  split
  · exact fun db' result halone ↦ ensures_orders h (hw db) hnext db' result halone
  · exact hnext db h

theorem create_coherent (h : db.Coherent) (input : CreateOrderInput) (id : Uuid)
    (lineItemId : Uuid → Uuid) :
    (Order.create input id lineItemId).Ensures orderStore (·.Coherent) db := by
  have hinsert : ∀ o : Order, (Program.exec (fun _ ↦ OrderWrite.createOrder o ::
      input.lineItems.map fun li ↦ .createLineItem (.new (lineItemId li.1) id li.1 li.2))
        (.commit (.data id)) : OrderTx).Ensures orderStore (·.Coherent) db := by
    refine fun o ↦ ensures_exec fun db₂ hwrite ↦ ensures_commit ?_
    rw [Store.writeAll_cons] at hwrite
    obtain ⟨db₁, hfirst, hrest⟩ := Option.bind_eq_some_iff.mp hwrite
    obtain ⟨orders, -, rfl⟩ := Option.map_eq_some_iff.mp hfirst
    exact (h.of_orders orders).createLineItems hrest
  unfold Order.create
  refine ensures_read ?_
  split
  · exact ensures_commit h
  · refine ensures_read ?_
    split
    · exact ensures_commit h
    · refine ensures_read ?_
      split
      · exact ensures_commit h
      · split
        · exact ensures_commit h
        · split
          · exact ensures_read (hinsert _)
          · exact hinsert _

theorem transitionStatus_coherent (h : db.Coherent) (id : Uuid) (targetStatus : OrderStatus) :
    (Order.transitionStatus id targetStatus).Ensures orderStore (·.Coherent) db := by
  unfold Order.transitionStatus
  refine ensures_read ?_
  split
  · exact ensures_commit h
  · split
    · dsimp only
      split
      · exact ensures_read (ensures_orders h rfl fun _ h₁ ↦ ensures_commit h₁)
      · exact ensures_orders h rfl fun _ h₁ ↦ ensures_commit h₁
    · exact ensures_commit h

theorem addLineItem_coherent (h : db.Coherent) (orderId productId : Uuid) (targetQuantity : ℤ)
    (lineItemId : Uuid) : (Order.addLineItem orderId productId targetQuantity
      lineItemId).Ensures orderStore (·.Coherent) db := by
  unfold Order.addLineItem
  refine ensures_read ?_
  split
  · exact ensures_commit h
  · refine ensures_read ?_
    split
    · exact ensures_commit h
    · refine ensures_read ?_
      split
      · exact ensures_commit h
      · refine ensures_exec fun db₁ hwrite ↦ ensures_commit ?_
        rw [writeAll_order] at hwrite
        exact h.createLineItem hwrite

/-- An order without allocations has line items without allocations. -/
private theorem allocationsOf_eq_nil {li : OrderLineItem} (hli : li ∈ db.lineItems.rows)
    (hcount : ¬0 < db.allocationCount li.orderId) : db.allocationsOf li.id = [] := by
  rw [Nat.not_lt, Nat.le_zero, OrderDatabase.allocationCount, List.length_eq_zero_iff] at hcount
  refine List.filter_eq_nil_iff.mpr fun a ha hid ↦ ?_
  refine List.filter_eq_nil_iff.mp hcount a ha ?_
  have hfind : db.lineItems.find a.orderLineItemId = some li :=
    Table.find_eq_some_iff.mpr ⟨hli, (of_decide_eq_true hid).symm⟩
  rw [hfind, Option.any_some, beq_self_eq_true]

theorem updateLineItem_coherent (h : db.Coherent) (lineItemId : Uuid)
    (targetQuantity : Option ℤ) :
    (Order.updateLineItem lineItemId targetQuantity).Ensures orderStore (·.Coherent) db := by
  unfold Order.updateLineItem
  refine ensures_read ?_
  split
  · exact ensures_commit h
  · rename_i li hfind
    obtain ⟨hli, hid⟩ := Table.find_eq_some_iff.mp hfind
    refine ensures_read ?_
    split
    · exact ensures_commit h
    · rename_i hcount
      refine ensures_exec fun db₁ hwrite ↦ ensures_commit ?_
      rw [writeAll_order] at hwrite
      exact h.updateTarget (hid ▸ allocationsOf_eq_nil hli hcount) hwrite

theorem removeLineItem_coherent (h : db.Coherent) (lineItemId : Uuid) :
    (Order.removeLineItem lineItemId).Ensures orderStore (·.Coherent) db := by
  unfold Order.removeLineItem
  refine ensures_read ?_
  split
  · exact ensures_commit h
  · refine ensures_read ?_
    split
    · exact ensures_commit h
    · refine ensures_exec fun db₁ hwrite ↦ ensures_commit ?_
      rw [writeAll_order] at hwrite
      exact h.deleteLineItem hwrite

/-- A fold whose rounds keep the best or take the element ends at an element. -/
private theorem mem_of_foldl {α : Type*} {f : Option α → α → Option α}
    (hf : ∀ best a, f best a = some a ∨ f best a = best) {l : List α} {best : Option α} {a : α}
    (h : l.foldl f best = some a) : a ∈ l ∨ best = some a := by
  induction l generalizing best with
  | nil => exact .inr h
  | cons x l ih =>
    rw [List.foldl_cons] at h
    rcases ih h with hmem | hbest
    · exact .inl (List.mem_cons_of_mem _ hmem)
    · rcases hf best x with hx | hx
      · exact .inl (Option.some_inj.mp (hx.symm.trans hbest) ▸ List.mem_cons_self)
      · exact .inr (hx.symm.trans hbest)

theorem mem_of_firstBySequence {α : Type*} {sequence : α → Option ℤ} {l : List α} {a : α}
    (h : firstBySequence sequence l = some a) : a ∈ l := by
  refine (mem_of_foldl (fun best a ↦ ?_) h).resolve_right (by simp)
  cases best with
  | none => exact .inl rfl
  | some b =>
    dsimp only
    split
    · exact .inl rfl
    · exact .inr rfl

/-- What the query for an eligible order finds. -/
theorem eligible_eq_some {siteId productId : Uuid} {e : Eligible}
    (h : db.eligible siteId productId = some e) : e.lineItem ∈ db.lineItems.rows ∧
      e.order ∈ db.orders.rows ∧ e.order.status.isFinished = false := by
  obtain ⟨site, -, hfirst⟩ := Option.bind_eq_some_iff.mp h
  obtain ⟨o, ho, he⟩ := List.mem_flatMap.mp (mem_of_firstBySequence hfirst)
  obtain ⟨li, hli, rfl⟩ := List.mem_map.mp he
  rw [List.mem_filter] at ho hli
  refine ⟨(List.mem_filter.mp hli.1).1, ho.1, ?_⟩
  have hstatus := ho.2
  simp only [Bool.and_eq_true, Bool.or_eq_true, decide_eq_true_eq] at hstatus
  rcases hstatus.1.2 with hopen | hrunning
  · rw [hopen]
    rfl
  · rw [hrunning]
    rfl

theorem allocateTo_coherent (h : db.Coherent) (siteId productId inventoryItemId allocationId : Uuid)
    (inSnapshot : Uuid → Bool) {e : Eligible} (he : e.lineItem ∈ db.lineItems.rows) :
    (allocateTo siteId productId inventoryItemId allocationId inSnapshot e).Ensures orderStore
      (·.Coherent) db := by
  unfold allocateTo
  refine ensures_exec fun db₁ hinsert ↦ ensures_exec fun db₂ hupdate ↦ ?_
  rw [writeAll_order] at hinsert hupdate
  have h₂ : db₂.Coherent := by
    refine h.allocate he rfl hinsert hupdate (fun _ ↦ one_pos) rfl rfl ?_
    have hnonneg := h.completed_nonneg he
    have hpos : 0 < e.lineItem.completedQuantity + 1 := by omega
    rw [OrderLineItem.expectedStatus, OrderLineItem.isFulfilled, OrderLineItem.update]
    dsimp only [Option.getD_none]
    rw [if_neg hpos.ne', add_zero]
    refine congrArg some (if_congr ?_ rfl rfl)
    rw [decide_eq_true_eq]
    exact ⟨fun hle ↦ ⟨hpos, hle⟩, fun hle ↦ hle.2⟩
  refine ensures_execIf h₂ (fun _ ↦ rfl) fun db₃ h₃ ↦ ?_
  refine ensures_execIf h₃ (fun _ ↦ rfl) fun db₄ h₄ ↦ ?_
  split
  · exact ensures_read (ensures_execIf h₄ (fun _ ↦ rfl) fun db₅ h₅ ↦ ensures_commit h₅)
  · exact ensures_commit h₄

theorem allocateInventory_coherent (h : db.Coherent)
    (siteId productId inventoryItemId allocationId : Uuid) (inSnapshot : Uuid → Bool) :
    (allocateInventory siteId productId inventoryItemId allocationId inSnapshot).Ensures orderStore
      (·.Coherent) db := by
  unfold allocateInventory
  refine ensures_exec fun db₁ hheal ↦ ?_
  rw [writeAll_order] at hheal
  have h₁ : db₁.Coherent := by
    refine h.updateLineItems (fun li hli hid ↦ ?_) hheal
    obtain ⟨li', hli', heq⟩ := List.mem_map.mp (List.mem_filter.mp hid).1
    obtain ⟨hli', hstale⟩ := List.mem_filter.mp hli'
    rw [← db.lineItems.eq_of_key_eq hli' hli heq]
    simp only [Bool.and_eq_true, decide_eq_true_eq] at hstale
    exact ⟨hstale.1.1.2, hstale.1.2⟩
  refine fun db' result halone ↦ ensures_orders h₁ rfl (fun db₂ h₂ ↦ ?_) db' result halone
  refine ensures_read ?_
  split
  · exact ensures_commit h₂
  · rename_i e he
    exact allocateTo_coherent h₂ _ _ _ _ _ (eligible_eq_some he).1

theorem deductScrap_coherent (h : db.Coherent) (siteId productId : Uuid) (quantity : ℤ)
    (allocationId : Uuid) :
    (deductScrap siteId productId quantity allocationId).Ensures orderStore (·.Coherent) db := by
  unfold deductScrap
  refine ensures_read (ensures_read ?_)
  split
  · exact ensures_commit h
  · rename_i order li hfind
    obtain ⟨o, ho, hli⟩ := Option.bind_eq_some_iff.mp hfind
    obtain ⟨li', hli, heq⟩ := Option.map_eq_some_iff.mp hli
    cases heq
    have hmem : li ∈ db.lineItems.rows :=
      (List.mem_filter.mp (List.mem_of_find?_eq_some hli)).1
    refine ensures_exec fun db₁ hinsert ↦ ensures_exec fun db₂ hupdate ↦ ?_
    rw [writeAll_order] at hinsert hupdate
    have h₂ : db₂.Coherent := by
      refine h.allocate hmem rfl hinsert hupdate (fun hitem ↦ absurd hitem (by simp)) rfl
        (neg_neg quantity).symm ?_
      have hpos := h.completed_nonneg hmem
      rw [OrderLineItem.expectedStatus, OrderLineItem.isFulfilled, OrderLineItem.update]
      dsimp only [Option.getD_none]
      rw [add_zero]
      refine congrArg some (if_ctx_congr Iff.rfl (fun _ ↦ rfl) fun hne ↦ if_congr ?_ rfl rfl)
      rw [decide_eq_true_eq]
      exact ⟨fun hle ↦ ⟨by omega, hle⟩, fun hle ↦ hle.2⟩
    split
    · exact ensures_read (ensures_execIf h₂ (fun _ ↦ rfl) fun db₃ h₃ ↦ ensures_commit h₃)
    · exact ensures_commit h₂

end

/-! ## Runs -/

inductive OrderCall
  | create (input : CreateOrderInput) (id : Uuid) (lineItemId : Uuid → Uuid)
  | addLineItem (orderId productId : Uuid) (targetQuantity : ℤ) (lineItemId : Uuid)
  | updateLineItem (lineItemId : Uuid) (targetQuantity : Option ℤ)
  | removeLineItem (lineItemId : Uuid)
  | transitionStatus (id : Uuid) (targetStatus : OrderStatus)
  | allocateInventory (siteId productId inventoryItemId allocationId : Uuid)
  | deductScrap (siteId productId : Uuid) (quantity : ℤ) (allocationId : Uuid)

def OrderCall.program : OrderCall → OrderTx
  | .create input id lineItemId => Order.create input id lineItemId
  | .addLineItem orderId productId targetQuantity lineItemId =>
    Order.addLineItem orderId productId targetQuantity lineItemId
  | .updateLineItem lineItemId targetQuantity => Order.updateLineItem lineItemId targetQuantity
  | .removeLineItem lineItemId => Order.removeLineItem lineItemId
  | .transitionStatus id targetStatus => Order.transitionStatus id targetStatus
  | .allocateInventory siteId productId inventoryItemId allocationId =>
    RwServer.allocateInventory siteId productId inventoryItemId allocationId fun _ ↦ true
  | .deductScrap siteId productId quantity allocationId =>
    RwServer.deductScrap siteId productId quantity allocationId

/-- One operation after the other; one that fails is rolled back, and no step. -/
def orderStep (call : OrderCall) (db : OrderDatabase) : Option OrderDatabase :=
  (call.program.alone orderStore db).map Prod.fst

theorem coherent_step {db db' : OrderDatabase} {call : OrderCall} (h : db.Coherent)
    (hstep : orderStep call db = some db') : db'.Coherent := by
  obtain ⟨⟨db₁, result⟩, halone, rfl⟩ := Option.map_eq_some_iff.mp hstep
  cases call with
  | create input id lineItemId => exact create_coherent h _ _ _ _ _ halone
  | addLineItem orderId productId targetQuantity lineItemId =>
    exact addLineItem_coherent h _ _ _ _ _ _ halone
  | updateLineItem lineItemId targetQuantity => exact updateLineItem_coherent h _ _ _ _ halone
  | removeLineItem lineItemId => exact removeLineItem_coherent h _ _ _ halone
  | transitionStatus id targetStatus => exact transitionStatus_coherent h _ _ _ _ halone
  | allocateInventory siteId productId inventoryItemId allocationId =>
    exact allocateInventory_coherent h _ _ _ _ _ _ _ halone
  | deductScrap siteId productId quantity allocationId =>
    exact deductScrap_coherent h _ _ _ _ _ _ halone

/-- The allocations of a line item that meet a condition, summed. -/
def OrderDatabase.allocated (db : OrderDatabase) (lineItemId : Uuid) (p : ℤ → Bool) : ℤ :=
  (((db.allocationsOf lineItemId).filter fun a ↦ p a.quantity).map
    OrderInventoryAllocation.quantity).sum

/-- **Quantities, allocations and statuses agree** after every run of operations: completed is what
has been allocated of inventory items, scrap what the other allocations deduct, and these are the
positive and the negative ones where no disposition has been a correction. -/
theorem lineItems_coherent {db db' : OrderDatabase} {calls : List OrderCall} (h : db.Coherent)
    (hrun : Run orderStep (fun _ _ ↦ True) db calls db') : ∀ li ∈ db'.lineItems.rows,
      li.completedQuantity = db'.produced li.id ∧ li.scrapQuantity = -db'.deducted li.id ∧
      li.status = li.expectedStatus ∧
      ((∀ a ∈ db'.allocationsOf li.id, a.inventoryItemId = none → a.quantity < 0) →
        li.completedQuantity = db'.allocated li.id (fun q ↦ decide (0 < q)) ∧
        li.scrapQuantity = -db'.allocated li.id fun q ↦ decide (q < 0)) := by
  have h' : db'.Coherent := hrun.invariant h fun _ _ _ h _ hstep ↦ coherent_step h hstep
  refine fun li hli ↦ ⟨h'.completed li hli, h'.scrap li hli, h'.status li hli, fun hneg ↦ ?_⟩
  -- then the sign tells the two kinds apart
  have hkind : ∀ a ∈ db'.allocationsOf li.id,
      (a.inventoryItemId.isSome = true ∧ 0 < a.quantity) ∨
        (a.inventoryItemId.isSome = false ∧ a.quantity < 0) := by
    intro a ha
    cases hitem : a.inventoryItemId with
    | none => exact .inr ⟨rfl, hneg a ha hitem⟩
    | some item =>
      exact .inl ⟨rfl, h'.one_of_item a (List.mem_filter.mp ha).1 (by rw [hitem]; rfl)⟩
  rw [h'.completed li hli, h'.scrap li hli, OrderDatabase.produced, OrderDatabase.deducted,
    OrderDatabase.allocated, OrderDatabase.allocated]
  constructor
  · refine congrArg (fun l ↦ (List.map _ l).sum) (List.filter_congr fun a ha ↦ ?_)
    rcases hkind a ha with ⟨hsome, hpos⟩ | ⟨hnone, hlt⟩
    · rw [hsome, decide_eq_true hpos]
    · rw [hnone, decide_eq_false hlt.le.not_gt]
  · refine congrArg (fun l ↦ -(List.map _ l).sum) (List.filter_congr fun a ha ↦ ?_)
    rcases hkind a ha with ⟨hsome, hpos⟩ | ⟨hnone, hlt⟩
    · rw [← Option.not_isSome, hsome, decide_eq_false hpos.le.not_gt]
      rfl
    · rw [← Option.not_isSome, hnone, decide_eq_true hlt]
      rfl

/-- A site without orders. -/
def sampleOrders : OrderDatabase where
  orders := .empty orderSchema
  lineItems := .empty lineItemSchema
  allocations := .empty allocationSchema
  sites := [⟨1, none⟩]
  customers := []

/-- An order of two items, of which one is made; then a disposition. -/
def sampleOrderCalls (quantity : ℤ) : List OrderCall :=
  [.create { siteId := 1, orderNumber := "ORD-001", opened := true, lineItems := [(5, 2)] } 10
      fun _ ↦ 11,
    .allocateInventory 1 5 20 30, .deductScrap 1 5 quantity 31]

theorem lineItems_coherent_sample : ∃ db li,
    Run orderStep (fun _ _ ↦ True) sampleOrders (sampleOrderCalls 1) db ∧
      li ∈ db.lineItems.rows ∧ li.completedQuantity = 1 ∧
      li.completedQuantity = db.allocated li.id (fun q ↦ decide (0 < q)) ∧
      li.scrapQuantity = -db.allocated li.id fun q ↦ decide (q < 0) := by
  have hrun : ((execute orderStep (fun _ _ ↦ True) (sampleOrderCalls 1) sampleOrders).any fun db ↦
      decide (∃ li ∈ db.lineItems.rows, li.completedQuantity = 1 ∧
        ∀ a ∈ db.allocationsOf li.id, a.inventoryItemId = none → a.quantity < 0)) = true := by
    decide +kernel
  obtain ⟨db, hdb, hli⟩ := (Option.any_eq_true _ _).mp hrun
  obtain ⟨li, hli, hone, hneg⟩ := of_decide_eq_true hli
  have hempty : sampleOrders.Coherent :=
    ⟨fun _ h ↦ absurd h List.not_mem_nil, fun _ h ↦ absurd h List.not_mem_nil,
      fun _ h ↦ absurd h List.not_mem_nil, fun _ h ↦ absurd h List.not_mem_nil,
      fun _ h ↦ absurd h List.not_mem_nil⟩
  exact ⟨db, li, run_of_execute hdb, hli, hone,
    (lineItems_coherent hempty (run_of_execute hdb) li hli).2.2.2 hneg⟩

/-- A correction of a disposition: its allocation is positive, and no item has been completed. -/
theorem not_lineItems_coherent : ∃ db li,
    Run orderStep (fun _ _ ↦ True) sampleOrders (sampleOrderCalls (-1)) db ∧
      li ∈ db.lineItems.rows ∧ li.completedQuantity = 1 ∧
      db.allocated li.id (fun q ↦ decide (0 < q)) = 2 ∧ li.scrapQuantity = -1 ∧
      db.allocated li.id (fun q ↦ decide (q < 0)) = 0 := by
  have hrun : ((execute orderStep (fun _ _ ↦ True) (sampleOrderCalls (-1)) sampleOrders).any
      fun db ↦ decide (∃ li ∈ db.lineItems.rows, li.completedQuantity = 1 ∧
        db.allocated li.id (fun q ↦ decide (0 < q)) = 2 ∧ li.scrapQuantity = -1 ∧
        db.allocated li.id (fun q ↦ decide (q < 0)) = 0)) = true := by
    decide +kernel
  obtain ⟨db, hdb, hli⟩ := (Option.any_eq_true _ _).mp hrun
  obtain ⟨li, hli⟩ := of_decide_eq_true hli
  exact ⟨db, li, run_of_execute hdb, hli⟩

end RwServer
