import Mathlib
import RwServer.Database.Tables
import RwServer.Foundation.ReadCommitted
import RwServer.Foundation.Table

/-!
# Orders, line items and allocations

The tables of order fulfillment, and the statements that write them. A statement that updates rows
found by a condition carries the ids that it has found, since it locks those rows; a statement that
updates a row by its id does not look at the row again.

The columns that no operation on orders reads (notes, dates, priorities) are left out.
-/

namespace RwServer

open Relational ReadCommitted

/-! ## Rows -/

inductive OrderStatus
  | draft
  | open
  | inProgress
  | onHold
  | completed
  | cancelled
deriving DecidableEq, Repr

def OrderStatus.name : OrderStatus → String
  | .draft => "DRAFT"
  | .open => "OPEN"
  | .inProgress => "IN_PROGRESS"
  | .onHold => "ON_HOLD"
  | .completed => "COMPLETED"
  | .cancelled => "CANCELLED"

/-- `STATUS_TRANSITIONS`. -/
def statusTransitions : OrderStatus → List OrderStatus
  | .draft => [.open, .cancelled]
  | .open => [.completed, .onHold, .cancelled]
  | .inProgress => [.onHold, .completed, .cancelled]
  | .onHold => [.open, .inProgress, .cancelled]
  | .completed => []
  | .cancelled => []

/-- No transition leaves the status. -/
def OrderStatus.isFinished (status : OrderStatus) : Bool := (statusTransitions status).isEmpty

theorem OrderStatus.isFinished_iff {status : OrderStatus} :
    status.isFinished = true ↔ status = .completed ∨ status = .cancelled := by
  cases status <;> decide

inductive LineItemStatus
  | pending
  | inProgress
  | completed
deriving DecidableEq, Repr

/-- A row of `Order`. -/
structure Order where
  id : Uuid
  siteId : Uuid
  orderNumber : String
  status : OrderStatus
  previousStatus : Option OrderStatus
  sequence : Option ℤ
  customerId : Option Uuid
  deletedAt : Option Time
deriving DecidableEq, Repr

/-- A row of `OrderLineItem`. -/
structure OrderLineItem where
  id : Uuid
  orderId : Uuid
  productId : Uuid
  targetQuantity : ℤ
  completedQuantity : ℤ
  scrapQuantity : ℤ
  status : LineItemStatus
deriving DecidableEq, Repr

/-- A row of `OrderInventoryAllocation`. -/
structure OrderInventoryAllocation where
  id : Uuid
  inventoryItemId : Option Uuid
  orderLineItemId : Uuid
  quantity : ℤ
deriving DecidableEq, Repr

/-- What orders read of a site: `attrs.orderAutoComplete`. -/
structure OrderSite where
  id : Uuid
  orderAutoComplete : Option Bool
deriving DecidableEq, Repr

structure Customer where
  id : Uuid
  deletedAt : Option Time
deriving DecidableEq, Repr

/-! ## The database -/

def orderSchema : Schema Order Uuid where
  key := Order.id
  clash a b := a.siteId == b.siteId && a.orderNumber == b.orderNumber
  clash_symm a b := by
    rw [Bool.eq_iff_iff, Bool.and_eq_true, Bool.and_eq_true, beq_iff_eq, beq_iff_eq, beq_iff_eq,
      beq_iff_eq, eq_comm, @eq_comm _ a.orderNumber]

def lineItemSchema : Schema OrderLineItem Uuid where
  key := OrderLineItem.id
  clash a b := a.orderId == b.orderId && a.productId == b.productId
  clash_symm a b := by
    rw [Bool.eq_iff_iff, Bool.and_eq_true, Bool.and_eq_true, beq_iff_eq, beq_iff_eq, beq_iff_eq,
      beq_iff_eq, eq_comm, @eq_comm _ a.productId]

def allocationSchema : Schema OrderInventoryAllocation Uuid where
  key := OrderInventoryAllocation.id
  clash _ _ := false
  clash_symm _ _ := rfl

structure OrderDatabase where
  orders : Table orderSchema
  lineItems : Table lineItemSchema
  allocations : Table allocationSchema
  sites : List OrderSite
  customers : List Customer

/-! ## Statements -/

/-- The columns that an update of an order sets; `none` is a column it does not set. -/
structure OrderUpdate where
  status : OrderStatus
  previousStatus : Option (Option OrderStatus)
  sequence : Option ℤ
deriving DecidableEq, Repr

def Order.update (u : OrderUpdate) (o : Order) : Order :=
  { o with
    status := u.status
    previousStatus := u.previousStatus.getD o.previousStatus
    sequence := u.sequence.or o.sequence }

/-- The columns that an update of a line item sets or increments. -/
structure LineItemUpdate where
  targetQuantity : Option ℤ := none
  completedIncrement : ℤ := 0
  scrapIncrement : ℤ := 0
  status : Option LineItemStatus := none
deriving DecidableEq, Repr

def OrderLineItem.update (u : LineItemUpdate) (li : OrderLineItem) : OrderLineItem :=
  { li with
    targetQuantity := u.targetQuantity.getD li.targetQuantity
    completedQuantity := li.completedQuantity + u.completedIncrement
    scrapQuantity := li.scrapQuantity + u.scrapIncrement
    status := u.status.getD li.status }

theorem Order.mild_update (u : OrderUpdate) : Table.Mild orderSchema (Order.update u) where
  key _ := rfl
  clash _ _ h := h

theorem OrderLineItem.mild_update (u : LineItemUpdate) :
    Table.Mild lineItemSchema (OrderLineItem.update u) where
  key _ := rfl
  clash _ _ h := h

/-- A statement that writes. -/
inductive OrderWrite
  | createOrder (o : Order)
  /-- `UPDATE "Order" .. WHERE id = ..`. -/
  | updateOrder (id : Uuid) (u : OrderUpdate)
  /-- An update of the orders that a condition has found. -/
  | updateOrders (ids : List Uuid) (u : OrderUpdate)
  | createLineItem (li : OrderLineItem)
  | updateLineItem (id : Uuid) (u : LineItemUpdate)
  /-- An update of the line items that a condition has found. -/
  | updateLineItems (ids : List Uuid) (u : LineItemUpdate)
  /-- The allocations of a line item go with it. -/
  | deleteLineItem (id : Uuid)
  | createAllocation (a : OrderInventoryAllocation)
deriving DecidableEq

/-- The orders that a statement locks. -/
def OrderWrite.orderIds : OrderWrite → List Uuid
  | .createOrder o => [o.id]
  | .updateOrder id _ => [id]
  | .updateOrders ids _ => ids
  | .createLineItem _ | .updateLineItem _ _ | .updateLineItems _ _ | .deleteLineItem _
  | .createAllocation _ => []

/-- The line items that a statement locks. -/
def OrderWrite.lineItemIds : OrderWrite → List Uuid
  | .createLineItem li => [li.id]
  | .updateLineItem id _ => [id]
  | .updateLineItems ids _ => ids
  | .deleteLineItem id => [id]
  | .createOrder _ | .updateOrder _ _ | .updateOrders _ _ | .createAllocation _ => []

/-- Two statements that a unique index forbids together. -/
def OrderWrite.clash : OrderWrite → OrderWrite → Bool
  | .createOrder o, .createOrder o' => orderSchema.clash o o'
  | .createLineItem li, .createLineItem li' => lineItemSchema.clash li li'
  | .createAllocation a, .createAllocation a' => a.id == a'.id
  | _, _ => false

/-- Two statements of which the second waits for the first one's transaction. -/
def OrderWrite.conflict (w w' : OrderWrite) : Bool :=
  (w.orderIds.any fun id ↦ w'.orderIds.contains id) ||
    (w.lineItemIds.any fun id ↦ w'.lineItemIds.contains id) || w.clash w'

private theorem any_contains_comm (ids ids' : List Uuid) :
    (ids.any fun id ↦ ids'.contains id) = ids'.any fun id ↦ ids.contains id := by
  refine Bool.eq_iff_iff.mpr ?_
  rw [List.any_eq_true, List.any_eq_true]
  constructor <;>
  · rintro ⟨id, hid, hid'⟩
    exact ⟨id, List.contains_iff_mem.mp hid', List.contains_iff_mem.mpr hid⟩

theorem OrderWrite.clash_comm (w w' : OrderWrite) : w.clash w' = w'.clash w := by
  cases w <;> cases w' <;>
    first | rfl | exact BEq.comm | exact orderSchema.clash_symm _ _ |
      exact lineItemSchema.clash_symm _ _

theorem OrderWrite.conflict_comm (w w' : OrderWrite) : w.conflict w' = w'.conflict w := by
  rw [conflict, conflict, clash_comm, any_contains_comm w.orderIds,
    any_contains_comm w.lineItemIds]

namespace OrderDatabase

def setOrders (db : OrderDatabase) (orders : Table orderSchema) : OrderDatabase :=
  { db with orders }

def setLineItems (db : OrderDatabase) (lineItems : Table lineItemSchema) : OrderDatabase :=
  { db with lineItems }

def setAllocations (db : OrderDatabase) (allocations : Table allocationSchema) : OrderDatabase :=
  { db with allocations }

/-- Carry out a statement. Orders are never removed from the table, and a line item is updated only
by who has just found it. -/
def write (db : OrderDatabase) : OrderWrite → Option OrderDatabase
  | .createOrder o => (db.orders.insert o).map db.setOrders
  | .updateOrder id u =>
    some (db.setOrders (db.orders.modify (fun o ↦ decide (o.id = id)) (Order.update u)
      (Order.mild_update u)))
  | .updateOrders ids u =>
    some (db.setOrders (db.orders.modify (fun o ↦ ids.contains o.id) (Order.update u)
      (Order.mild_update u)))
  | .createLineItem li => (db.lineItems.insert li).map db.setLineItems
  | .updateLineItem id u =>
    some (db.setLineItems (db.lineItems.modify (fun li ↦ decide (li.id = id))
      (OrderLineItem.update u) (OrderLineItem.mild_update u)))
  | .updateLineItems ids u =>
    some (db.setLineItems (db.lineItems.modify (fun li ↦ ids.contains li.id)
      (OrderLineItem.update u) (OrderLineItem.mild_update u)))
  | .deleteLineItem id =>
    some { db with
      lineItems := db.lineItems.delete fun li ↦ decide (li.id = id)
      allocations := db.allocations.delete fun a ↦ decide (a.orderLineItemId = id) }
  | .createAllocation a => (db.allocations.insert a).map db.setAllocations

end OrderDatabase

/-- The database as a store of transactions. -/
def orderStore : Store OrderDatabase OrderWrite := ⟨OrderDatabase.write, OrderWrite.conflict⟩

end RwServer
