import Mathlib
import RwServer.Orders.Tables

/-!
# Operations on orders

The operations of the order service and of the allocation of inventory, statement by statement. The
operations of the order service are no transactions: each of their statements commits by itself,
and all but the last one only read. `allocateInventory` runs inside the transaction that stores a
cycle, `deductScrap` in its own.

A statement that updates the rows meeting a condition finds them in its snapshot, waits for their
row locks and checks the condition again; `inSnapshot` names the rows it has found.
-/

namespace RwServer

open Relational ReadCommitted

/-- What an operation refuses with. -/
structure ServiceError where
  error : String
  code : String
deriving DecidableEq, Repr

inductive OrderResult
  | data (id : Uuid)
  | success
  | done
  | refused (e : ServiceError)
deriving DecidableEq, Repr

abbrev OrderTx := Program OrderDatabase OrderWrite Unit OrderResult

/-! ## Reads -/

namespace OrderDatabase

variable (db : OrderDatabase)

def site (id : Uuid) : Option OrderSite := db.sites.find? (·.id == id)

/-- An order that has not been deleted. -/
def liveOrder (id : Uuid) : Option Order := (db.orders.find id).filter fun o ↦ o.deletedAt.isNone

/-- `_max: { sequence: true }` over the orders of a site, and one more. -/
def nextSequence (siteId : Uuid) : ℤ :=
  (((db.orders.rows.filter fun o ↦ o.siteId == siteId && o.deletedAt.isNone).filterMap
    Order.sequence).max?.getD 0) + 1

def lineItemsOf (orderId : Uuid) : List OrderLineItem :=
  db.lineItems.rows.filter fun li ↦ li.orderId == orderId

def allocationsOf (lineItemId : Uuid) : List OrderInventoryAllocation :=
  db.allocations.rows.filter fun a ↦ decide (a.orderLineItemId = lineItemId)

/-- `allocationCount` of an order. -/
def allocationCount (orderId : Uuid) : ℕ :=
  (db.allocations.rows.filter fun a ↦
    (db.lineItems.find a.orderLineItemId).any fun li ↦ li.orderId == orderId).length

end OrderDatabase

/-! ## The order service -/

structure CreateOrderInput where
  siteId : Uuid
  orderNumber : String
  /-- `DRAFT` or `OPEN`; `DRAFT` where none is given. -/
  opened : Bool := false
  customerId : Option Uuid := none
  /-- The products and their target quantities. -/
  lineItems : List (Uuid × ℤ) := []
deriving DecidableEq, Repr

def OrderLineItem.new (id orderId productId : Uuid) (targetQuantity : ℤ) : OrderLineItem :=
  ⟨id, orderId, productId, targetQuantity, 0, 0, .pending⟩

namespace Order

def notFound : ServiceError := ⟨"Order not found", "ORDER_NOT_FOUND"⟩

def hasAllocations : ServiceError :=
  ⟨"Cannot modify line items on an order with allocations", "HAS_ALLOCATIONS"⟩

def lineItemNotFound : ServiceError := ⟨"Line item not found", "LINE_ITEM_NOT_FOUND"⟩

/-- `create`; `id` and `lineItemId` draw the ids of the new rows. -/
def create (input : CreateOrderInput) (id : Uuid) (lineItemId : Uuid → Uuid) : OrderTx :=
  let insert (sequence : Option ℤ) : OrderTx :=
    .exec (fun _ ↦ .createOrder
        { id
          siteId := input.siteId
          orderNumber := input.orderNumber
          status := if input.opened then .open else .draft
          previousStatus := none
          sequence
          customerId := input.customerId
          deletedAt := none } ::
        input.lineItems.map fun li ↦ .createLineItem (.new (lineItemId li.1) id li.1 li.2))
      (.commit (.data id))
  .read (fun db ↦ db.site input.siteId) fun site ↦
  if site.isNone then .commit (.refused ⟨"Site not found", "SITE_NOT_FOUND"⟩) else
  .read (fun db ↦ db.orders.rows.find? fun o ↦
    o.siteId == input.siteId && o.orderNumber == input.orderNumber) fun existing ↦
  match existing with
  | some o =>
    .commit (.refused ⟨if o.deletedAt.isSome then
        "This order number was previously used and cannot be reused"
      else "An order with this number already exists", "DUPLICATE_ORDER_NUMBER"⟩)
  | none =>
    .read (fun db ↦ input.customerId.all fun customerId ↦
      (db.customers.find? (·.id == customerId)).any fun c ↦ c.deletedAt.isNone) fun customerOk ↦
    if !customerOk then .commit (.refused ⟨"Customer not found", "CUSTOMER_NOT_FOUND"⟩)
    else if ¬(input.lineItems.map Prod.fst).Nodup then
      .commit (.refused ⟨"Duplicate product in line items", "DUPLICATE_PRODUCT"⟩)
    else if input.opened then
      .read (fun db ↦ db.nextSequence input.siteId) fun sequence ↦ insert (some sequence)
    else insert none

/-- `transitionStatus`. -/
def transitionStatus (id : Uuid) (targetStatus : OrderStatus) : OrderTx :=
  .read (fun db ↦ db.liveOrder id) fun
  | none => .commit (.refused notFound)
  | some order =>
    if (statusTransitions order.status).contains targetStatus then
      let update (sequence : Option ℤ) : OrderTx :=
        .exec (fun _ ↦ [.updateOrder id
          { status := targetStatus
            previousStatus :=
              if targetStatus = .onHold then some (some order.status)
              else if order.status = .onHold ∧ (targetStatus = .open ∨ targetStatus = .inProgress)
              then some none
              else none
            sequence }]) (.commit (.data id))
      if targetStatus = .open ∧ order.sequence = none then
        .read (fun db ↦ db.nextSequence order.siteId) fun sequence ↦ update (some sequence)
      else update none
    else .commit (.refused ⟨"Cannot transition from " ++ order.status.name ++ " to "
      ++ targetStatus.name, "INVALID_TRANSITION"⟩)

/-- `addLineItem`. -/
def addLineItem (orderId productId : Uuid) (targetQuantity : ℤ) (lineItemId : Uuid) : OrderTx :=
  .read (fun db ↦ db.liveOrder orderId) fun order ↦
  if order.isNone then .commit (.refused notFound) else
  .read (fun db ↦ db.allocationCount orderId) fun allocationCount ↦
  if 0 < allocationCount then .commit (.refused hasAllocations) else
  .read (fun db ↦ (db.lineItemsOf orderId).find? (·.productId == productId)) fun existing ↦
  if existing.isSome then
    .commit (.refused ⟨"This product is already on the order", "DUPLICATE_PRODUCT"⟩)
  else
    .exec (fun _ ↦ [.createLineItem (.new lineItemId orderId productId targetQuantity)])
      (.commit (.data lineItemId))

/-- `updateLineItem`. -/
def updateLineItem (lineItemId : Uuid) (targetQuantity : Option ℤ) : OrderTx :=
  .read (fun db ↦ db.lineItems.find lineItemId) fun
  | none => .commit (.refused lineItemNotFound)
  | some lineItem => .read (fun db ↦ db.allocationCount lineItem.orderId) fun allocationCount ↦
    if 0 < allocationCount then .commit (.refused hasAllocations)
    else .exec (fun _ ↦ [.updateLineItem lineItemId { targetQuantity }])
      (.commit (.data lineItemId))

/-- `removeLineItem`. -/
def removeLineItem (lineItemId : Uuid) : OrderTx :=
  .read (fun db ↦ db.lineItems.find lineItemId) fun
  | none => .commit (.refused lineItemNotFound)
  | some lineItem => .read (fun db ↦ db.allocationCount lineItem.orderId) fun allocationCount ↦
    if 0 < allocationCount then .commit (.refused hasAllocations)
    else .exec (fun _ ↦ [.deleteLineItem lineItemId]) (.commit .success)

end Order

/-! ## Allocation -/

/-- `completedQuantity - scrapQuantity >= targetQuantity`. -/
def OrderLineItem.isFulfilled (li : OrderLineItem) : Bool :=
  decide (li.targetQuantity ≤ li.completedQuantity - li.scrapQuantity)

/-- `ORDER BY sequence ASC NULLS LAST`. -/
def sequenceBefore : Option ℤ → Option ℤ → Bool
  | some a, some b => decide (a < b)
  | some _, none => true
  | none, _ => false

/-- The first by sequence; of equal ones the one that comes first. -/
def firstBySequence {α : Type*} (sequence : α → Option ℤ) (l : List α) : Option α :=
  l.foldl (fun best a ↦ match best with
    | none => some a
    | some b => if sequenceBefore (sequence a) (sequence b) then some a else some b) none

/-- A row of the query for an eligible order. -/
structure Eligible where
  autoComplete : Bool
  order : Order
  lineItem : OrderLineItem
deriving DecidableEq, Repr

namespace OrderDatabase

variable (db : OrderDatabase)

/-- Line items whose status lags behind their quantities. -/
def staleLineItems (siteId : Uuid) : List OrderLineItem :=
  db.lineItems.rows.filter fun li ↦ decide (li.status ≠ .completed) &&
    decide (0 < li.completedQuantity) && li.isFulfilled &&
    (db.orders.find li.orderId).any fun o ↦ o.siteId == siteId

def autoComplete (siteId : Uuid) : Bool :=
  (db.site siteId).any fun s ↦ s.orderAutoComplete.getD false

/-- Open orders all of whose line items are fulfilled. -/
def fulfilledOrders (siteId : Uuid) : List Order :=
  db.orders.rows.filter fun o ↦ o.siteId == siteId &&
    (decide (o.status = .open) || decide (o.status = .inProgress)) && o.deletedAt.isNone &&
    db.autoComplete siteId && !(db.lineItemsOf o.id).isEmpty &&
    (db.lineItemsOf o.id).all OrderLineItem.isFulfilled

/-- The highest-priority open order for the product. -/
def eligible (siteId productId : Uuid) : Option Eligible :=
  (db.site siteId).bind fun site ↦
    let autoComplete := site.orderAutoComplete.getD false
    firstBySequence (fun e ↦ e.order.sequence) <|
      (db.orders.rows.filter fun o ↦ o.siteId == siteId &&
        (decide (o.status = .open) || decide (o.status = .inProgress)) &&
        o.deletedAt.isNone).flatMap fun o ↦
          ((db.lineItemsOf o.id).filter fun li ↦ li.productId == productId &&
            !(autoComplete && li.isFulfilled)).map (⟨autoComplete, o, ·⟩)

/-- Running orders with the product that come after a sequence. -/
def lowerPriority (siteId productId orderId : Uuid) (orderSequence : ℤ) : List Order :=
  db.orders.rows.filter fun o ↦ o.siteId == siteId && decide (o.status = .inProgress) &&
    o.deletedAt.isNone && o.sequence.any (fun s ↦ decide (orderSequence < s)) &&
    decide (o.id ≠ orderId) && (db.lineItemsOf o.id).any fun li ↦ li.productId == productId

/-- The highest-priority running order that has completed some of the product. -/
def runningOrder (siteId productId : Uuid) : Option Order :=
  firstBySequence Order.sequence <| db.orders.rows.filter fun o ↦ o.siteId == siteId &&
    decide (o.status = .inProgress) && o.deletedAt.isNone &&
    (db.lineItemsOf o.id).any fun li ↦
      li.productId == productId && decide (0 < li.completedQuantity)

end OrderDatabase

/-- The ids of the rows that a statement has found and still finds. -/
def foundIds (inSnapshot : Uuid → Bool) (ids : List Uuid) : List Uuid := ids.filter inSnapshot

/-- A statement that is skipped unless it is needed. -/
def execIf (needed : Bool) (writes : OrderDatabase → List OrderWrite) (next : OrderTx) : OrderTx :=
  if needed then .exec writes next else next

/-- `allocateInventory`, from the order that is eligible on. -/
def allocateTo (siteId productId inventoryItemId allocationId : Uuid) (inSnapshot : Uuid → Bool)
    (e : Eligible) : OrderTx :=
  let newCompleted := e.lineItem.completedQuantity + 1
  let newStatus : LineItemStatus :=
    if e.lineItem.targetQuantity ≤ newCompleted - e.lineItem.scrapQuantity then .completed
    else .inProgress
  .exec (fun _ ↦ [.createAllocation ⟨allocationId, some inventoryItemId, e.lineItem.id, 1⟩]) <|
  .exec (fun _ ↦ [.updateLineItem e.lineItem.id
    { completedIncrement := 1, status := some newStatus }]) <|
  execIf (decide (e.order.status = .open))
    (fun _ ↦ [.updateOrder e.order.id ⟨.inProgress, some (some .open), none⟩]) <|
  -- demote lower-priority orders
  execIf e.order.sequence.isSome (fun db ↦ [.updateOrders (foundIds inSnapshot
    ((db.lowerPriority siteId productId e.order.id (e.order.sequence.getD 0)).map Order.id))
    ⟨.open, some (some .inProgress), none⟩]) <|
  if e.autoComplete then
    .read (fun db ↦ ((db.lineItemsOf e.order.id).filter fun li ↦ !li.isFulfilled).length)
      fun unfulfilled ↦
    execIf (decide (unfulfilled = 0)) (fun _ ↦ [.updateOrder e.order.id ⟨.completed, none, none⟩])
      (.commit .done)
  else .commit .done

/-- `allocateInventory`. -/
def allocateInventory (siteId productId inventoryItemId allocationId : Uuid)
    (inSnapshot : Uuid → Bool) : OrderTx :=
  .exec (fun db ↦ [.updateLineItems
    (foundIds inSnapshot ((db.staleLineItems siteId).map OrderLineItem.id))
    { status := some .completed }]) <|
  .exec (fun db ↦ [.updateOrders
    (foundIds inSnapshot ((db.fulfilledOrders siteId).map Order.id)) ⟨.completed, none, none⟩]) <|
  .read (fun db ↦ db.eligible siteId productId) fun
  | none => .commit .done
  | some e => allocateTo siteId productId inventoryItemId allocationId inSnapshot e

/-- `deductScrap`. -/
def deductScrap (siteId productId : Uuid) (quantity : ℤ) (allocationId : Uuid) : OrderTx :=
  .read (fun db ↦ db.site siteId) fun site ↦
  let autoComplete := site.any fun s ↦ decide (s.orderAutoComplete = some true)
  .read (fun db ↦ (db.runningOrder siteId productId).bind fun o ↦
    ((db.lineItemsOf o.id).find? (·.productId == productId)).map fun li ↦ (o, li)) fun
  | none => .commit .done
  | some (order, lineItem) =>
    let newScrap := lineItem.scrapQuantity + quantity
    let goodCount := lineItem.completedQuantity - newScrap
    let newStatus : LineItemStatus :=
      if lineItem.completedQuantity = 0 then .pending
      else if lineItem.targetQuantity ≤ goodCount then .completed
      else .inProgress
    .exec (fun _ ↦ [.createAllocation ⟨allocationId, none, lineItem.id, -quantity⟩]) <|
    .exec (fun _ ↦ [.updateLineItem lineItem.id
      { scrapIncrement := quantity, status := some newStatus }]) <|
    if autoComplete && decide (order.status = .completed) then
      .read (fun db ↦ (db.lineItemsOf order.id).all OrderLineItem.isFulfilled) fun stillFulfilled ↦
      execIf (!stillFulfilled) (fun _ ↦ [.updateOrder order.id ⟨.inProgress, none, none⟩])
        (.commit .done)
    else .commit .done

end RwServer
