import Mathlib
import RwServer.Foundation.LeadingRow
import RwServer.Orders.Coherence

/-!
# The order that an item goes to

`allocateInventory` first heals: line items whose status lags behind, then orders whose line items
are all fulfilled. It allocates the item to the order with the smallest sequence among those that
still want the product, starts that order, takes back the running orders behind it, and completes it
once nothing is left to do (`allocateInventory_first`).

Every statement on orders is a `setStatus`, so the status of an order is followed through the run by
one lemma. Healing does not change who wants the product, since a healed order has a fulfilled line
wherever it has one (`mem_eligibleRows_heal`).
-/

namespace RwServer

open Relational ReadCommitted

/-! ## What the operation is for -/

/-- A live order of the site that is open or in progress. -/
structure Order.OpenAt (siteId : Uuid) (o : Order) : Prop where
  site : o.siteId = siteId
  status : o.status = .open ∨ o.status = .inProgress
  live : o.deletedAt = none

/-- The status that a line item has with one more item. -/
def OrderLineItem.nextStatus (li : OrderLineItem) : LineItemStatus :=
  if li.targetQuantity ≤ li.completedQuantity + 1 - li.scrapQuantity then .completed
  else .inProgress

namespace OrderDatabase

/-- The order contains the product. -/
def Contains (db : OrderDatabase) (orderId productId : Uuid) : Prop :=
  ∃ li ∈ db.lineItemsOf orderId, li.productId = productId

/-- The order wants the product: with auto-complete on, its line is below the target. -/
structure EligibleLine (db : OrderDatabase) (siteId productId : Uuid) (o : Order)
    (li : OrderLineItem) : Prop where
  mem : o ∈ db.orders.rows
  openAt : o.OpenAt siteId
  line : li ∈ db.lineItemsOf o.id
  product : li.productId = productId
  wanted : db.autoComplete siteId = true →
    li.completedQuantity - li.scrapQuantity < li.targetQuantity

/-- No two open orders of the site have the same sequence. -/
def DistinctSequences (db : OrderDatabase) (siteId : Uuid) : Prop :=
  ∀ o ∈ db.orders.rows, ∀ o' ∈ db.orders.rows, o.OpenAt siteId → o'.OpenAt siteId →
    o.sequence.isSome = true → o.sequence = o'.sequence → o = o'

def statusOf (db : OrderDatabase) (orderId : Uuid) : Option OrderStatus :=
  (db.orders.find orderId).map Order.status

/-- One allocation has been made, to the first of the orders that want the product. -/
structure AllocatesFirst (db db' : OrderDatabase)
    (siteId productId inventoryItemId allocationId : Uuid) (o : Order) (li : OrderLineItem) :
    Prop where
  eligible : db.EligibleLine siteId productId o li
  /-- The other orders with a sequence come later. -/
  first : ∀ o' li', db.EligibleLine siteId productId o' li' → o' ≠ o →
    ∀ sequence' ∈ o'.sequence, ∃ sequence ∈ o.sequence, sequence < sequence'
  allocation : db'.allocations.rows
    = db.allocations.rows ++ [⟨allocationId, some inventoryItemId, li.id, 1⟩]
  status : db'.statusOf o.id = some
    (if db'.autoComplete siteId && (db'.lineItemsOf o.id).all OrderLineItem.isFulfilled
      then .completed else .inProgress)
  behind : ∀ o' ∈ db'.orders.rows, o'.siteId = siteId → o'.deletedAt = none → o'.id ≠ o.id →
    db'.Contains o'.id productId → ∀ sequence ∈ o.sequence, ∀ sequence' ∈ o'.sequence,
    sequence < sequence' → o'.status ≠ .inProgress

/-! ## Statements that set a status -/

/-- `UPDATE "Order" SET .. WHERE p`. -/
def setStatus (db : OrderDatabase) (p : Order → Bool) (u : OrderUpdate) : OrderDatabase :=
  db.setOrders (db.orders.modify p (Order.update u) (Order.mild_update u))

/-- `UPDATE "OrderLineItem" SET .. WHERE p`. -/
def setLines (db : OrderDatabase) (p : OrderLineItem → Bool) (u : LineItemUpdate) : OrderDatabase :=
  db.setLineItems (db.lineItems.modify p (OrderLineItem.update u) (OrderLineItem.mild_update u))

variable {db db' : OrderDatabase} {siteId productId : Uuid} {p : Order → Bool} {u : OrderUpdate}

theorem setStatus_eq_self (h : ∀ o ∈ db.orders.rows, p o = false) : db.setStatus p u = db := by
  have hrows : db.orders.modify p (Order.update u) (Order.mild_update u) = db.orders := by
    refine Table.ext_rows ?_
    conv_rhs => rw [← List.map_id db.orders.rows]
    exact List.map_congr_left fun o ho ↦ if_neg (by rw [h o ho]; exact Bool.false_ne_true)
  rw [setStatus, hrows]
  rfl

theorem statusOf_setStatus (db : OrderDatabase) (p : Order → Bool) (u : OrderUpdate) (id : Uuid) :
    (db.setStatus p u).statusOf id
      = (db.orders.find id).map fun o ↦ if p o then u.status else o.status := by
  rw [statusOf, setStatus, setOrders]
  dsimp only
  rw [Table.find_modify, Option.map_map]
  refine congrArg (fun f ↦ Option.map f _) (funext fun o ↦ ?_)
  rw [Function.comp_apply]
  split
  · rfl
  · rfl

/-- A statement that does not name the order. -/
theorem statusOf_setStatus_of_false {id : Uuid}
    (h : ∀ o ∈ db.orders.rows, o.id = id → p o = false) :
    (db.setStatus p u).statusOf id = db.statusOf id := by
  rw [statusOf_setStatus, statusOf]
  refine Option.map_congr fun o ho ↦ ?_
  obtain ⟨hmem, hid⟩ := Table.find_eq_some_iff.mp ho
  rw [h o hmem hid]
  rfl

/-- An order and what the statement has made of it. -/
theorem mem_setStatus {o : Order} (h : o ∈ (db.setStatus p u).orders.rows) :
    ∃ o₀ ∈ db.orders.rows, o = if p o₀ then o₀.update u else o₀ := by
  obtain ⟨o₀, ho₀, heq⟩ := List.mem_map.mp h
  exact ⟨o₀, ho₀, heq.symm⟩

/-! ## Statements on line items -/

theorem lineItemsOf_setLines (db : OrderDatabase) (p : OrderLineItem → Bool) (u : LineItemUpdate)
    (orderId : Uuid) : (db.setLines p u).lineItemsOf orderId
      = (db.lineItemsOf orderId).map fun li ↦ if p li then li.update u else li := by
  rw [lineItemsOf, lineItemsOf, setLines, setLineItems, Table.modify]
  dsimp only
  rw [List.filter_map]
  refine congrArg _ (List.filter_congr fun li _ ↦ ?_)
  rw [Function.comp_apply]
  split
  · rfl
  · rfl

/-- No statement on line items changes what an order contains. -/
theorem contains_setLines {q : OrderLineItem → Bool} {v : LineItemUpdate} {orderId : Uuid} :
    (db.setLines q v).Contains orderId productId ↔ db.Contains orderId productId := by
  have hproduct : ∀ li : OrderLineItem,
      (if q li = true then li.update v else li).productId = li.productId := fun li ↦ by
    split
    · rfl
    · rfl
  rw [Contains, lineItemsOf_setLines]
  constructor
  · rintro ⟨li', hli', h⟩
    obtain ⟨li, hli, rfl⟩ := List.mem_map.mp hli'
    exact ⟨li, hli, (hproduct li).symm.trans h⟩
  · rintro ⟨li, hli, h⟩
    exact ⟨_, List.mem_map_of_mem hli, (hproduct li).trans h⟩

/-! ## Healing -/

/-- The line items after the first statement. -/
def healedLine (db : OrderDatabase) (siteId : Uuid) (li : OrderLineItem) : OrderLineItem :=
  if ((db.staleLineItems siteId).map OrderLineItem.id).contains li.id
    then li.update { status := some .completed } else li

/-- The database after the two statements that heal. -/
def heal (db : OrderDatabase) (siteId : Uuid) : OrderDatabase :=
  (db.setLines (fun li ↦ ((db.staleLineItems siteId).map OrderLineItem.id).contains li.id)
    { status := some .completed }).setStatus
      (fun o ↦ ((db.fulfilledOrders siteId).map Order.id).contains o.id) ⟨.completed, none, none⟩

theorem lineItemsOf_heal (db : OrderDatabase) (siteId orderId : Uuid) :
    (db.heal siteId).lineItemsOf orderId = (db.lineItemsOf orderId).map (db.healedLine siteId) :=
  lineItemsOf_setLines db _ _ orderId

theorem isFulfilled_healedLine (db : OrderDatabase) (siteId : Uuid) (li : OrderLineItem) :
    (db.healedLine siteId li).isFulfilled = li.isFulfilled := by
  rw [healedLine]
  split
  · rw [OrderLineItem.isFulfilled, OrderLineItem.update]
    dsimp only [Option.getD_none]
    rw [add_zero, add_zero]
    rfl
  · rfl

theorem productId_healedLine (db : OrderDatabase) (siteId : Uuid) (li : OrderLineItem) :
    (db.healedLine siteId li).productId = li.productId := by
  rw [healedLine]
  split
  · rfl
  · rfl

theorem id_healedLine (db : OrderDatabase) (siteId : Uuid) (li : OrderLineItem) :
    (db.healedLine siteId li).id = li.id := by
  rw [healedLine]
  split
  · rfl
  · rfl

/-- The second statement finds what it would have found before the first. -/
theorem fulfilledOrders_setLines (db : OrderDatabase) (siteId : Uuid) :
    (db.setLines (fun li ↦ ((db.staleLineItems siteId).map OrderLineItem.id).contains li.id)
      { status := some .completed }).fulfilledOrders siteId = db.fulfilledOrders siteId := by
  refine List.filter_congr fun o _ ↦ ?_
  have hlines : (db.setLines (fun li ↦ ((db.staleLineItems siteId).map OrderLineItem.id).contains
      li.id) { status := some .completed }).lineItemsOf o.id
      = (db.lineItemsOf o.id).map (db.healedLine siteId) := lineItemsOf_setLines db _ _ o.id
  have hall : ((db.lineItemsOf o.id).map (db.healedLine siteId)).all OrderLineItem.isFulfilled
      = (db.lineItemsOf o.id).all OrderLineItem.isFulfilled := by
    rw [List.all_map]
    exact congrArg _ (funext (db.isFulfilled_healedLine siteId))
  rw [hlines, hall, List.isEmpty_map]
  rfl

/-- An order is named among others by its id. -/
theorem contains_id_iff {l : List Order} (hl : ∀ o ∈ l, o ∈ db.orders.rows) {o : Order}
    (ho : o ∈ db.orders.rows) : (l.map Order.id).contains o.id = true ↔ o ∈ l := by
  rw [List.contains_iff_mem, List.mem_map]
  constructor
  · rintro ⟨o', ho', hid⟩
    exact db.orders.eq_of_key_eq (hl o' ho') ho hid ▸ ho'
  · exact fun h ↦ ⟨o, h, rfl⟩

theorem mem_fulfilledOrders {o : Order} : o ∈ db.fulfilledOrders siteId ↔
    o ∈ db.orders.rows ∧ o.OpenAt siteId ∧ db.autoComplete siteId = true ∧
      db.lineItemsOf o.id ≠ [] ∧ ∀ li ∈ db.lineItemsOf o.id, li.isFulfilled = true := by
  rw [fulfilledOrders, List.mem_filter]
  simp only [Bool.and_eq_true, Bool.or_eq_true, beq_iff_eq, decide_eq_true_eq,
    Option.isNone_iff_eq_none, Bool.not_eq_true', List.isEmpty_eq_false_iff, List.all_eq_true]
  constructor
  · rintro ⟨hmem, ⟨⟨⟨⟨hsite, hstatus⟩, hlive⟩, hauto⟩, hsome⟩, hall⟩
    exact ⟨hmem, ⟨hsite, hstatus, hlive⟩, hauto, hsome, hall⟩
  · rintro ⟨hmem, hopen, hauto, hsome, hall⟩
    exact ⟨hmem, ⟨⟨⟨⟨hopen.site, hopen.status⟩, hopen.live⟩, hauto⟩, hsome⟩, hall⟩

/-- An order that wants a product is not healed. -/
theorem EligibleLine.not_mem_fulfilledOrders {o : Order} {li : OrderLineItem}
    (h : db.EligibleLine siteId productId o li) : o ∉ db.fulfilledOrders siteId := by
  intro hmem
  obtain ⟨-, -, hauto, -, hall⟩ := mem_fulfilledOrders.mp hmem
  have hfull := hall li h.line
  rw [OrderLineItem.isFulfilled, decide_eq_true_eq] at hfull
  exact absurd (h.wanted hauto) (not_lt.mpr hfull)

/-- What healing makes of an order. -/
def healedOrder (db : OrderDatabase) (siteId : Uuid) (o : Order) : Order :=
  if ((db.fulfilledOrders siteId).map Order.id).contains o.id
    then o.update ⟨.completed, none, none⟩ else o

theorem orders_heal (db : OrderDatabase) (siteId : Uuid) :
    (db.heal siteId).orders.rows = db.orders.rows.map (db.healedOrder siteId) := rfl

theorem healedOrder_of_not_mem {o : Order} (ho : o ∈ db.orders.rows)
    (hnot : o ∉ db.fulfilledOrders siteId) : db.healedOrder siteId o = o :=
  if_neg fun h ↦ hnot ((contains_id_iff (fun _ h ↦ (List.mem_filter.mp h).1) ho).mp h)

theorem statusOf_heal {o : Order} (ho : o ∈ db.orders.rows) : (db.heal siteId).statusOf o.id
    = some (if o ∈ db.fulfilledOrders siteId then .completed else o.status) := by
  have hfind : (db.setLines (fun li ↦ ((db.staleLineItems siteId).map OrderLineItem.id).contains
      li.id) { status := some .completed }).orders.find o.id = some o := Table.find_of_mem ho
  rw [heal, statusOf_setStatus, hfind, Option.map_some]
  exact congrArg some (if_congr (contains_id_iff (fun _ h ↦ (mem_fulfilledOrders.mp h).1) ho)
    rfl rfl)

theorem contains_heal {orderId : Uuid} :
    (db.heal siteId).Contains orderId productId ↔ db.Contains orderId productId :=
  contains_setLines

/-- An order that is open after healing has not been healed. -/
theorem eq_of_openAt_healedOrder {o : Order} (h : (db.healedOrder siteId o).OpenAt siteId) :
    db.healedOrder siteId o = o := by
  rw [healedOrder] at h ⊢
  split
  · rename_i hid
    rw [if_pos hid] at h
    rcases h.status with hopen | hrunning
    · cases hopen
    · cases hrunning
  · rfl

/-! ## The query -/

/-- `ORDER BY o.sequence ASC NULLS LAST` is an order. -/
theorem isOrder_sequence {α : Type*} (sequence : α → Option ℤ) :
    IsOrder fun a b ↦ sequenceBefore (sequence a) (sequence b) where
  trans {a b c} hab hbc := by
    cases ha : sequence a <;> cases hb : sequence b <;> cases hc : sequence c <;>
      grind [sequenceBefore]
  not_trans {a b c} hab hbc := by
    cases ha : sequence a <;> cases hb : sequence b <;> cases hc : sequence c <;>
      grind [sequenceBefore]

/-- The rows that the query sorts. -/
def eligibleRows (db : OrderDatabase) (siteId productId : Uuid) (autoComplete : Bool) :
    List Eligible :=
  (db.orders.rows.filter fun o ↦ o.siteId == siteId &&
    (decide (o.status = .open) || decide (o.status = .inProgress)) &&
    o.deletedAt.isNone).flatMap fun o ↦
      ((db.lineItemsOf o.id).filter fun li ↦ li.productId == productId &&
        !(autoComplete && li.isFulfilled)).map (⟨autoComplete, o, ·⟩)

theorem eligible_eq_leading (hsite : (db.site siteId).isSome = true) :
    db.eligible siteId productId
      = leading (fun e e' ↦ sequenceBefore e.order.sequence e'.order.sequence)
          (db.eligibleRows siteId productId (db.autoComplete siteId)) := by
  obtain ⟨site, hfound⟩ := Option.isSome_iff_exists.mp hsite
  rw [eligible, autoComplete, hfound]
  rfl

theorem mem_eligibleRows {e : Eligible} :
    e ∈ db.eligibleRows siteId productId (db.autoComplete siteId) ↔
      db.EligibleLine siteId productId e.order e.lineItem ∧
        e.autoComplete = db.autoComplete siteId := by
  have hwanted : ∀ li : OrderLineItem, (!(db.autoComplete siteId && li.isFulfilled)) = true ↔
      (db.autoComplete siteId = true →
        li.completedQuantity - li.scrapQuantity < li.targetQuantity) := fun li ↦ by
    rw [OrderLineItem.isFulfilled]
    cases db.autoComplete siteId <;> simp
  rw [eligibleRows, List.mem_flatMap]
  simp only [List.mem_filter, List.mem_map, Bool.and_eq_true, Bool.or_eq_true, beq_iff_eq,
    decide_eq_true_eq, Option.isNone_iff_eq_none, hwanted]
  constructor
  · rintro ⟨o, ⟨hmem, ⟨hsite, hstatus⟩, hlive⟩, li, ⟨hline, hproduct, hw⟩, rfl⟩
    exact ⟨⟨hmem, ⟨hsite, hstatus, hlive⟩, hline, hproduct, hw⟩, rfl⟩
  · rintro ⟨h, hauto⟩
    refine ⟨e.order, ⟨h.mem, ⟨h.openAt.site, h.openAt.status⟩, h.openAt.live⟩, e.lineItem,
      ⟨h.line, h.product, h.wanted⟩, ?_⟩
    rw [← hauto]

/-- A line item is wanted after healing if it was before. -/
theorem wanted_healedLine (db : OrderDatabase) (siteId : Uuid) (li : OrderLineItem) :
    (db.healedLine siteId li).completedQuantity - (db.healedLine siteId li).scrapQuantity
        < (db.healedLine siteId li).targetQuantity ↔
      li.completedQuantity - li.scrapQuantity < li.targetQuantity := by
  have h := db.isFulfilled_healedLine siteId li
  rw [OrderLineItem.isFulfilled, OrderLineItem.isFulfilled, decide_eq_decide] at h
  rw [← not_le, ← not_le, h]

/-- **Healing does not change who wants the product.** -/
theorem EligibleLine.heal {o : Order} {li : OrderLineItem}
    (h : db.EligibleLine siteId productId o li) :
    (db.heal siteId).EligibleLine siteId productId o (db.healedLine siteId li) where
  mem := by
    rw [orders_heal, ← healedOrder_of_not_mem h.mem h.not_mem_fulfilledOrders]
    exact List.mem_map_of_mem h.mem
  openAt := h.openAt
  line := by
    rw [lineItemsOf_heal]
    exact List.mem_map_of_mem h.line
  product := (productId_healedLine db siteId li).trans h.product
  wanted hauto := (wanted_healedLine db siteId li).mpr (h.wanted hauto)

theorem EligibleLine.of_heal {o : Order} {li : OrderLineItem}
    (h : (db.heal siteId).EligibleLine siteId productId o li) :
    ∃ li₀, db.EligibleLine siteId productId o li₀ ∧ li = db.healedLine siteId li₀ := by
  have hmem := h.mem
  have hline := h.line
  rw [orders_heal] at hmem
  rw [lineItemsOf_heal] at hline
  obtain ⟨o₀, ho₀, rfl⟩ := List.mem_map.mp hmem
  have hsame : db.healedOrder siteId o₀ = o₀ := eq_of_openAt_healedOrder h.openAt
  obtain ⟨li₀, hli₀, rfl⟩ := List.mem_map.mp hline
  have hopen := h.openAt
  rw [hsame] at hli₀ hopen ⊢
  exact ⟨li₀, ⟨ho₀, hopen, hli₀, (productId_healedLine db siteId li₀).symm.trans h.product,
    fun hauto ↦ (wanted_healedLine db siteId li₀).mp (h.wanted hauto)⟩, rfl⟩

/-- The query finds an order if one wants the product. -/
theorem eligible_heal_eq_none_iff (hsite : (db.site siteId).isSome = true) :
    (db.heal siteId).eligible siteId productId = none ↔
      ¬∃ o li, db.EligibleLine siteId productId o li := by
  have hsite' : ((db.heal siteId).site siteId).isSome = true := hsite
  rw [eligible_eq_leading hsite',
    leading_eq_none_iff (isOrder_sequence fun e : Eligible ↦ e.order.sequence)]
  constructor
  · rintro hnil ⟨o, li, h⟩
    have hmem : Eligible.mk ((db.heal siteId).autoComplete siteId) o (db.healedLine siteId li) ∈
        (db.heal siteId).eligibleRows siteId productId ((db.heal siteId).autoComplete siteId) :=
      mem_eligibleRows.mpr ⟨h.heal, rfl⟩
    rw [hnil] at hmem
    exact absurd hmem List.not_mem_nil
  · refine fun hnone ↦ List.eq_nil_iff_forall_not_mem.mpr fun e he ↦ hnone ?_
    obtain ⟨li, hli, -⟩ := (mem_eligibleRows.mp he).1.of_heal
    exact ⟨e.order, li, hli⟩

/-- It finds the first of those that want the product. -/
theorem eligible_heal_eq_some {e : Eligible} (hsite : (db.site siteId).isSome = true)
    (hdistinct : db.DistinctSequences siteId)
    (he : (db.heal siteId).eligible siteId productId = some e) :
    e.autoComplete = db.autoComplete siteId ∧ ∃ li, db.EligibleLine siteId productId e.order li ∧
      e.lineItem = db.healedLine siteId li ∧
      ∀ o' li', db.EligibleLine siteId productId o' li' → o' ≠ e.order →
        ∀ sequence' ∈ o'.sequence, ∃ sequence ∈ e.order.sequence, sequence < sequence' := by
  have hsite' : ((db.heal siteId).site siteId).isSome = true := hsite
  rw [eligible_eq_leading hsite',
    leading_eq_some_iff (isOrder_sequence fun e : Eligible ↦ e.order.sequence)] at he
  obtain ⟨hline, hauto⟩ := mem_eligibleRows.mp he.mem
  obtain ⟨li, hli, heq⟩ := hline.of_heal
  refine ⟨hauto, li, hli, heq, fun o' li' h' hne sequence' hsequence' ↦ ?_⟩
  have hmem : Eligible.mk ((db.heal siteId).autoComplete siteId) o' (db.healedLine siteId li') ∈
      (db.heal siteId).eligibleRows siteId productId ((db.heal siteId).autoComplete siteId) :=
    mem_eligibleRows.mpr ⟨h'.heal, rfl⟩
  obtain ⟨above, below, hsplit, habove, hbelow⟩ := he
  rw [hsplit, List.mem_append, List.mem_cons] at hmem
  have hseq : o'.sequence = some sequence' := hsequence'
  rcases hmem with hmem | heq' | hmem
  · -- the order found comes before it
    have hbefore : sequenceBefore e.order.sequence o'.sequence = true := habove _ hmem
    cases hfound : e.order.sequence with
    | none => simp [hfound, sequenceBefore] at hbefore
    | some sequence =>
      rw [hfound, hseq] at hbefore
      exact ⟨sequence, rfl, of_decide_eq_true hbefore⟩
  · exact absurd (congrArg Eligible.order heq') hne
  · -- it does not come before the order found, and has another sequence
    have hnot : sequenceBefore o'.sequence e.order.sequence = false := hbelow _ hmem
    cases hfound : e.order.sequence with
    | none => simp [hfound, hseq, sequenceBefore] at hnot
    | some sequence =>
      rw [hfound, hseq] at hnot
      refine ⟨sequence, rfl, lt_of_le_of_ne (not_lt.mp (of_decide_eq_false hnot)) fun heq' ↦ ?_⟩
      refine hne (hdistinct o' h'.mem e.order hli.mem h'.openAt hli.openAt ?_ ?_)
      · rw [hseq]
        rfl
      · rw [hseq, hfound, heq']

/-! ## The statements that allocate -/

/-- The item is counted on the line. -/
def addItem (db : OrderDatabase) (e : Eligible) : OrderDatabase :=
  db.setLines (fun li ↦ decide (li.id = e.lineItem.id))
    { completedIncrement := 1, status := some e.lineItem.nextStatus }

/-- The order that takes the item is started. -/
def start (db : OrderDatabase) (e : Eligible) : OrderDatabase :=
  db.setStatus (fun o ↦ decide (e.order.status = .open) && decide (o.id = e.order.id))
    ⟨.inProgress, some (some .open), none⟩

/-- The running orders behind it are taken back. -/
def takeBack (db : OrderDatabase) (siteId productId : Uuid) (e : Eligible) : OrderDatabase :=
  db.setStatus (fun o ↦ e.order.sequence.isSome &&
    ((db.lowerPriority siteId productId e.order.id (e.order.sequence.getD 0)).map
      Order.id).contains o.id) ⟨.open, some (some .inProgress), none⟩

/-- It is completed once all its line items are fulfilled. -/
def close (db : OrderDatabase) (e : Eligible) : OrderDatabase :=
  db.setStatus (fun o ↦ (e.autoComplete &&
    (db.lineItemsOf e.order.id).all OrderLineItem.isFulfilled) && decide (o.id = e.order.id))
    ⟨.completed, none, none⟩

/-- The database after the statements that follow the insert. -/
def afterAllocation (db : OrderDatabase) (siteId productId : Uuid) (e : Eligible) : OrderDatabase :=
  (((db.addItem e).start e).takeBack siteId productId e).close e

theorem statusOf_start {e : Eligible} (hmem : e.order ∈ db.orders.rows)
    (hopen : e.order.OpenAt siteId) : (db.start e).statusOf e.order.id = some .inProgress := by
  have hfind : db.orders.find e.order.id = some e.order := Table.find_of_mem hmem
  rw [start, statusOf_setStatus, hfind, Option.map_some, decide_eq_true (rfl : e.order.id = _),
    Bool.and_true]
  rcases hopen.status with h | h
  · rw [h]
    rfl
  · rw [h]
    rfl

theorem mem_lowerPriority {orderId : Uuid} {sequence : ℤ} {o : Order} :
    o ∈ db.lowerPriority siteId productId orderId sequence ↔ o ∈ db.orders.rows ∧
      o.siteId = siteId ∧ o.status = .inProgress ∧ o.deletedAt = none ∧
      (∃ sequence' ∈ o.sequence, sequence < sequence') ∧ o.id ≠ orderId ∧
      db.Contains o.id productId := by
  have hlater : (o.sequence.any fun s ↦ decide (sequence < s)) = true ↔
      ∃ sequence' ∈ o.sequence, sequence < sequence' := by
    rw [Option.any_eq_true]
    simp only [decide_eq_true_eq, Option.mem_def]
  rw [lowerPriority, List.mem_filter]
  simp only [Bool.and_eq_true, beq_iff_eq, decide_eq_true_eq, Option.isNone_iff_eq_none,
    List.any_eq_true, hlater, and_assoc]
  rfl

theorem takeBack_names {e : Eligible} {o : Order} (ho : o ∈ db.orders.rows) :
    (e.order.sequence.isSome && ((db.lowerPriority siteId productId e.order.id
        (e.order.sequence.getD 0)).map Order.id).contains o.id) = true ↔
      ∃ sequence ∈ e.order.sequence,
        o ∈ db.lowerPriority siteId productId e.order.id sequence := by
  rw [Bool.and_eq_true, contains_id_iff (fun _ h ↦ (mem_lowerPriority.mp h).1) ho]
  constructor
  · rintro ⟨hsome, hmem⟩
    obtain ⟨sequence, hsequence⟩ := Option.isSome_iff_exists.mp hsome
    rw [hsequence] at hmem
    exact ⟨sequence, hsequence, hmem⟩
  · rintro ⟨sequence, hsequence, hmem⟩
    have heq : e.order.sequence = some sequence := hsequence
    rw [heq]
    exact ⟨rfl, hmem⟩

/-- Only orders with the product are taken back, and the one that takes the item is none of them. -/
theorem statusOf_takeBack {e : Eligible} {id : Uuid}
    (h : id = e.order.id ∨ ¬db.Contains id productId) :
    (db.takeBack siteId productId e).statusOf id = db.statusOf id := by
  refine statusOf_setStatus_of_false fun o ho hid ↦ Bool.eq_false_iff.mpr fun hnamed ↦ ?_
  obtain ⟨sequence, -, hmem⟩ := (takeBack_names ho).mp hnamed
  obtain ⟨-, -, -, -, -, hne, hcontains⟩ := mem_lowerPriority.mp hmem
  rw [hid] at hne hcontains
  rcases h with h | h
  · exact hne h
  · exact h hcontains

/-- No order behind with the product runs on. -/
theorem not_inProgress_takeBack {e : Eligible} {o : Order}
    (ho : o ∈ (db.takeBack siteId productId e).orders.rows) (hsite : o.siteId = siteId)
    (hlive : o.deletedAt = none) (hne : o.id ≠ e.order.id) (hcontains : db.Contains o.id productId)
    {sequence sequence' : ℤ} (hsequence : sequence ∈ e.order.sequence)
    (hsequence' : sequence' ∈ o.sequence) (hlt : sequence < sequence') :
    o.status ≠ .inProgress := by
  obtain ⟨o₀, ho₀, heq⟩ := mem_setStatus ho
  split at heq
  · rw [heq]
    exact fun h ↦ OrderStatus.noConfusion h
  · -- an order that still ran would have been found
    rename_i hnot
    subst heq
    exact fun hstatus ↦ hnot ((takeBack_names ho₀).mpr ⟨sequence, hsequence,
      mem_lowerPriority.mpr ⟨ho₀, hsite, hstatus, hlive, ⟨sequence', hsequence', hlt⟩, hne,
        hcontains⟩⟩)

theorem statusOf_close {e : Eligible} :
    (db.close e).statusOf e.order.id = (db.statusOf e.order.id).map fun status ↦
      if e.autoComplete && (db.lineItemsOf e.order.id).all OrderLineItem.isFulfilled
        then .completed else status := by
  rw [close, statusOf_setStatus, statusOf, Option.map_map]
  refine Option.map_congr fun o ho ↦ ?_
  have hid : o.id = e.order.id := (Table.find_eq_some_iff.mp ho).2
  rw [decide_eq_true hid, Bool.and_true]
  rfl

theorem statusOf_of_ne {id : Uuid} {e : Eligible} {q : Bool} {u : OrderUpdate}
    (h : id ≠ e.order.id) :
    (db.setStatus (fun o ↦ q && decide (o.id = e.order.id)) u).statusOf id = db.statusOf id :=
  statusOf_setStatus_of_false fun o _ hid ↦ by
    rw [hid, decide_eq_false h, Bool.and_false]

end OrderDatabase

/-! ## The run -/

section

variable {db db₁ : OrderDatabase} {next : OrderTx}

theorem alone_write {w : OrderDatabase → OrderWrite} (h : db.write (w db) = some db₁) :
    (Program.exec (fun db ↦ [w db]) next).alone orderStore db = next.alone orderStore db₁ := by
  rw [Program.alone_exec, writeAll_order, h, Option.bind_some]

/-- A statement on orders that is skipped unless it is needed. -/
theorem alone_execIf {needed : Bool} {w : OrderDatabase → OrderWrite} {p : Order → Bool}
    {u : OrderUpdate} (h : db.write (w db) = some (db.setStatus p u)) :
    (execIf needed (fun db ↦ [w db]) next).alone orderStore db
      = next.alone orderStore (db.setStatus (fun o ↦ needed && p o) u) := by
  cases needed with
  | true => exact alone_write h
  | false =>
    rw [OrderDatabase.setStatus_eq_self fun _ _ ↦ Bool.false_and _]
    rfl

theorem foundIds_all (ids : List Uuid) : foundIds (fun _ ↦ true) ids = ids :=
  List.filter_eq_self.mpr fun _ _ ↦ rfl

/-- No line item is unfulfilled. -/
theorem unfulfilled_eq_zero (l : List OrderLineItem) :
    decide ((l.filter fun li ↦ !li.isFulfilled).length = 0) = l.all OrderLineItem.isFulfilled := by
  rw [Bool.eq_iff_iff, decide_eq_true_eq, List.length_eq_zero_iff, List.filter_eq_nil_iff,
    List.all_eq_true]
  simp only [Bool.not_eq_true', Bool.not_eq_false]

/-- The check that completes an order. -/
theorem alone_close (db : OrderDatabase) (e : Eligible) :
    (if e.autoComplete then
        .read (fun db ↦ ((db.lineItemsOf e.order.id).filter fun li ↦ !li.isFulfilled).length)
          fun unfulfilled ↦ execIf (decide (unfulfilled = 0))
            (fun _ ↦ [.updateOrder e.order.id ⟨.completed, none, none⟩]) (.commit .done)
      else .commit .done : OrderTx).alone orderStore db = some (db.close e, .done) := by
  rw [OrderDatabase.close]
  cases hauto : e.autoComplete with
  | true =>
    rw [if_pos rfl, Program.alone_read, alone_execIf rfl, unfulfilled_eq_zero]
    rfl
  | false =>
    have hsame : db.setStatus (fun o ↦ false && decide (o.id = e.order.id)) ⟨.completed, none, none⟩
        = db := OrderDatabase.setStatus_eq_self fun _ _ ↦ rfl
    exact congrArg (fun db' ↦ some (db', OrderResult.done)) hsame.symm

theorem alone_allocateTo {siteId productId inventoryItemId allocationId : Uuid} {e : Eligible}
    (hinsert : db.write (.createAllocation
      ⟨allocationId, some inventoryItemId, e.lineItem.id, 1⟩) = some db₁) :
    (allocateTo siteId productId inventoryItemId allocationId (fun _ ↦ true) e).alone orderStore db
      = some (db₁.afterAllocation siteId productId e, .done) := by
  rw [allocateTo]
  simp only [foundIds_all]
  rw [alone_write hinsert, alone_write rfl, alone_execIf rfl, alone_execIf rfl]
  exact alone_close _ e

theorem alone_allocateInventory (db : OrderDatabase)
    (siteId productId inventoryItemId allocationId : Uuid) :
    (allocateInventory siteId productId inventoryItemId allocationId fun _ ↦ true).alone
        orderStore db
      = match (db.heal siteId).eligible siteId productId with
        | none => some (db.heal siteId, .done)
        | some e => (allocateTo siteId productId inventoryItemId allocationId (fun _ ↦ true)
            e).alone orderStore (db.heal siteId) := by
  rw [allocateInventory]
  simp only [foundIds_all]
  have hsecond : (db.setLines
      (fun li ↦ ((db.staleLineItems siteId).map OrderLineItem.id).contains li.id)
      { status := some .completed }).write (.updateOrders
        ((db.fulfilledOrders siteId).map Order.id) ⟨.completed, none, none⟩)
      = some (db.heal siteId) := rfl
  rw [← OrderDatabase.fulfilledOrders_setLines] at hsecond
  rw [alone_write rfl, alone_write hsecond, Program.alone_read]
  cases (db.heal siteId).eligible siteId productId with
  | none => rfl
  | some e => rfl

end

/-! ## What the run does -/

namespace OrderDatabase

variable {db db₁ : OrderDatabase} {siteId productId inventoryItemId allocationId : Uuid}
  {e : Eligible} {o : Order} {li : OrderLineItem}

/-- The order that takes the item runs, or is done. -/
theorem statusOf_afterAllocation (hmem : e.order ∈ db.orders.rows) (hopen : e.order.OpenAt siteId)
    (hauto : e.autoComplete = db.autoComplete siteId) :
    (db.afterAllocation siteId productId e).statusOf e.order.id = some
      (if (db.afterAllocation siteId productId e).autoComplete siteId &&
          ((db.afterAllocation siteId productId e).lineItemsOf e.order.id).all
            OrderLineItem.isFulfilled
        then .completed else .inProgress) := by
  have hmem' : e.order ∈ (db.addItem e).orders.rows := hmem
  rw [afterAllocation, statusOf_close, statusOf_takeBack (.inl rfl), statusOf_start hmem' hopen,
    Option.map_some, hauto]
  rfl

/-- No order behind runs on. -/
theorem not_inProgress_afterAllocation {o' : Order}
    (ho' : o' ∈ (db.afterAllocation siteId productId e).orders.rows) (hsite : o'.siteId = siteId)
    (hlive : o'.deletedAt = none) (hne : o'.id ≠ e.order.id)
    (hcontains : (db.afterAllocation siteId productId e).Contains o'.id productId)
    {sequence sequence' : ℤ} (hsequence : sequence ∈ e.order.sequence)
    (hsequence' : sequence' ∈ o'.sequence) (hlt : sequence < sequence') :
    o'.status ≠ .inProgress := by
  obtain ⟨o₀, ho₀, heq⟩ := mem_setStatus ho'
  split at heq
  · -- only the order that takes the item is completed
    rename_i hnamed
    rw [Bool.and_eq_true, decide_eq_true_eq] at hnamed
    rw [heq] at hne
    exact absurd hnamed.2 hne
  · subst heq
    exact not_inProgress_takeBack ho₀ hsite hlive hne hcontains hsequence hsequence' hlt

/-- An order without the product is not touched. -/
theorem statusOf_afterAllocation_of_not_contains {id : Uuid} (hne : id ≠ e.order.id)
    (hnot : ¬db.Contains id productId) :
    (db.afterAllocation siteId productId e).statusOf id = db.statusOf id := by
  have hnot' : ¬((db.addItem e).start e).Contains id productId :=
    fun h ↦ hnot (contains_setLines.mp h)
  rw [afterAllocation, close, statusOf_of_ne hne, statusOf_takeBack (.inr hnot'), start,
    statusOf_of_ne hne]
  rfl

end OrderDatabase

variable {db : OrderDatabase} {siteId productId inventoryItemId allocationId : Uuid}

/-- **The item goes to the first order that wants it**, and to none if none does. That order runs
afterwards, or is completed where the site completes orders and all its line items are fulfilled; no
order behind it that contains the product runs on; and an order without the product has the status
it had, unless it was healed. -/
theorem allocateInventory_first (hsite : (db.site siteId).isSome = true)
    (hfresh : db.allocations.find allocationId = none) (hdistinct : db.DistinctSequences siteId) :
    ∃ db', (allocateInventory siteId productId inventoryItemId allocationId fun _ ↦ true).alone
        orderStore db = some (db', .done) ∧
      ((∃ o li, db.EligibleLine siteId productId o li) → ∃ o li,
        db.AllocatesFirst db' siteId productId inventoryItemId allocationId o li) ∧
      ((¬∃ o li, db.EligibleLine siteId productId o li) →
        db'.allocations.rows = db.allocations.rows) ∧
      ∀ o ∈ db.orders.rows, ¬db.Contains o.id productId → db'.statusOf o.id
        = some (if o ∈ db.fulfilledOrders siteId then .completed else o.status) := by
  rw [alone_allocateInventory]
  cases hfound : (db.heal siteId).eligible siteId productId with
  | none =>
    have hnone := (OrderDatabase.eligible_heal_eq_none_iff hsite).mp hfound
    exact ⟨db.heal siteId, rfl, fun h ↦ absurd h hnone, fun _ ↦ rfl,
      fun o ho _ ↦ OrderDatabase.statusOf_heal ho⟩
  | some e =>
    obtain ⟨hauto, li, hli, heq, hfirst⟩ :=
      OrderDatabase.eligible_heal_eq_some hsite hdistinct hfound
    -- the allocation goes in
    obtain ⟨allocations, hinsert⟩ : ∃ t, db.allocations.insert
        ⟨allocationId, some inventoryItemId, e.lineItem.id, 1⟩ = some t := by
      refine Table.exists_insert (fun hmem ↦ ?_) fun _ _ ↦ rfl
      obtain ⟨a, ha, hid⟩ := List.mem_map.mp hmem
      exact Table.find_eq_none_iff.mp hfresh a ha hid
    have hwrite : (db.heal siteId).write (.createAllocation
        ⟨allocationId, some inventoryItemId, e.lineItem.id, 1⟩)
        = some ((db.heal siteId).setAllocations allocations) := by
      change Option.map _ (db.allocations.insert _) = _
      rw [hinsert]
      rfl
    have hrows : allocations.rows
        = db.allocations.rows ++ [⟨allocationId, some inventoryItemId, li.id, 1⟩] := by
      rw [Table.rows_of_insert hinsert, heq, OrderDatabase.id_healedLine]
    have hmem : e.order ∈ ((db.heal siteId).setAllocations allocations).orders.rows := hli.heal.mem
    refine ⟨_, alone_allocateTo hwrite, fun _ ↦ ⟨e.order, li, hli, hfirst, hrows, ?_, ?_⟩,
      fun hnone ↦ absurd ⟨e.order, li, hli⟩ hnone, fun o ho hnot ↦ ?_⟩
    · exact OrderDatabase.statusOf_afterAllocation hmem hli.openAt hauto
    · exact fun o' ho' hsite' hlive hne hcontains sequence hsequence sequence' hsequence' ↦
        OrderDatabase.not_inProgress_afterAllocation ho' hsite' hlive hne hcontains hsequence
          hsequence'
    · have hne : o.id ≠ e.order.id := fun hid ↦ hnot (hid ▸ ⟨li, hli.line, hli.product⟩)
      exact Eq.trans (OrderDatabase.statusOf_afterAllocation_of_not_contains hne
        fun h ↦ hnot (OrderDatabase.contains_heal.mp h)) (OrderDatabase.statusOf_heal ho)

/-- An order of one item, and behind it a running order for the same product. -/
def twoOrders : OrderDatabase where
  orders := ⟨[⟨10, 1, "ORD-002", .inProgress, some .open, some 2, none, none⟩,
    ⟨11, 1, "ORD-001", .open, none, some 1, none, none⟩], by decide, by decide⟩
  lineItems := ⟨[⟨12, 10, 5, 4, 1, 0, .inProgress⟩, ⟨13, 11, 5, 1, 0, 0, .pending⟩], by decide,
    by decide⟩
  allocations := .empty allocationSchema
  sites := [⟨1, some true⟩]
  customers := []

theorem allocateInventory_first_twoOrders : ∃ db' o li,
    (allocateInventory 1 5 20 30 fun _ ↦ true).alone orderStore twoOrders = some (db', .done) ∧
      twoOrders.AllocatesFirst db' 1 5 20 30 o li := by
  have hdistinct : ∀ o ∈ twoOrders.orders.rows, ∀ o' ∈ twoOrders.orders.rows,
      o.sequence = o'.sequence → o = o' := by decide
  have heligible : twoOrders.EligibleLine 1 5 ⟨11, 1, "ORD-001", .open, none, some 1, none, none⟩
      ⟨13, 11, 5, 1, 0, 0, .pending⟩ :=
    ⟨by decide, ⟨rfl, .inl rfl, rfl⟩, by decide, rfl, fun _ ↦ by decide⟩
  obtain ⟨db', hrun, hfirst, -⟩ := @allocateInventory_first twoOrders 1 5 20 30 (by decide)
    (by decide) fun o ho o' ho' _ _ _ ↦ hdistinct o ho o' ho'
  obtain ⟨o, li, h⟩ := hfirst ⟨_, _, heligible⟩
  exact ⟨db', o, li, hrun, h⟩

end RwServer
