import Mathlib
import RwServer.Metrics.RecalcSteps
import RwServer.Orders.Coherence

/-!
# Disposition logs and the scrap of an order

A disposition is logged with a quantity, which may be corrected later or removed. The log service
keeps two numbers in step with the log by telling them what has changed: the `badItems` of the
station, through `updateDispositionBadItems`, and the scrap of the order that runs with the product,
through `deductScrap`. Both are background jobs, here done when the call returns.

Each of `create`, `update` and `remove` tells the station, but only `create` tells the order. So the
scrap of the order is what has been logged in the first place, and follows the log exactly where the
corrections add up to nothing (`scrap_follows_log_iff`).

The columns of a log that nothing here reads (the workcenter, the cycle, the shift, the blobs other
than that of the product) are left out.
-/

namespace RwServer

open Relational ReadCommitted Transition

/-! ## Tables -/

/-- A row of `ItemDispositionLog`. -/
structure DispositionLog extends ItemDispositionLog where
  siteId : Uuid
  itemDispositionId : Option Uuid
  dispositionReasonId : Option Uuid
  productBlobId : Uuid
deriving DecidableEq, Repr

def dispositionLogSchema : Schema DispositionLog Uuid where
  key log := log.id
  clash _ _ := false
  clash_symm _ _ := rfl

/-- What the logs read of a station. -/
structure LoggedStation where
  id : Uuid
  siteId : Uuid
deriving DecidableEq, Repr

structure ItemDisposition where
  id : Uuid
  siteId : Uuid
  deletedAt : Option Time
deriving DecidableEq, Repr

/-- A row of `ItemDispositionReason`, with the dispositions it is linked to. -/
structure ItemDispositionReason where
  id : Uuid
  siteId : Uuid
  deletedAt : Option Time
  itemDispositions : List Uuid
deriving DecidableEq, Repr

/-- What the logs read of a row of `ProductBlob`. -/
structure LoggedProductBlob where
  id : Uuid
  productId : Uuid
deriving DecidableEq, Repr

/-- What the log service reads and does not write. -/
structure DispositionCatalog where
  stations : List LoggedStation
  dispositions : List ItemDisposition
  reasons : List ItemDispositionReason
  productBlobs : List LoggedProductBlob

/-- A call of `updateDispositionBadItems`. -/
structure BadItemsUpdate where
  stationId : Uuid
  siteId : Uuid
  timestamp : Time
  quantity : ℤ
deriving DecidableEq, Repr

structure DispositionState where
  logs : Table dispositionLogSchema
  orders : OrderDatabase
  /-- The calls of `updateDispositionBadItems` so far. -/
  badItems : List BadItemsUpdate

inductive DispositionReply
  | data (id : Uuid)
  | success
  | refused (e : ServiceError)
deriving DecidableEq, Repr

/-! ## The log service -/

/-- `validateDispositionReasonPair`. -/
def validateDispositionReasonPair (catalog : DispositionCatalog) (siteId : Uuid)
    (itemDispositionId dispositionReasonId : Option Uuid) :
    Except ServiceError (Option Uuid × Option Uuid) :=
  match itemDispositionId, dispositionReasonId with
  | none, none => .ok (none, none)
  | some itemDispositionId, some dispositionReasonId =>
    match catalog.dispositions.find? fun d ↦ d.id == itemDispositionId with
    | none => .error ⟨"Disposition not found", "DISPOSITION_NOT_FOUND"⟩
    | some disposition =>
      if disposition.deletedAt.isSome then
        .error ⟨"Disposition not found", "DISPOSITION_NOT_FOUND"⟩
      else if disposition.siteId ≠ siteId then
        .error ⟨"Disposition must belong to the same site", "SITE_MISMATCH"⟩
      else match catalog.reasons.find? fun r ↦ r.id == dispositionReasonId with
      | none => .error ⟨"Disposition reason not found", "DISPOSITION_REASON_NOT_FOUND"⟩
      | some reason =>
        if reason.deletedAt.isSome then
          .error ⟨"Disposition reason not found", "DISPOSITION_REASON_NOT_FOUND"⟩
        else if reason.siteId ≠ siteId then
          .error ⟨"Disposition reason must belong to the same site", "SITE_MISMATCH"⟩
        else if !reason.itemDispositions.contains itemDispositionId then
          .error ⟨"Disposition reason is not linked to this disposition",
            "DISPOSITION_REASON_NOT_LINKED"⟩
        else .ok (some itemDispositionId, some dispositionReasonId)
  | _, _ => .error ⟨"Disposition and disposition reason are required together",
      "DISPOSITION_PAIR_REQUIRED"⟩

structure CreateDispositionLogInput where
  siteId : Uuid
  stationId : Uuid
  quantity : Option ℤ := none
  itemDispositionId : Option Uuid := none
  dispositionReasonId : Option Uuid := none
  productBlobId : Uuid

structure UpdateDispositionLogInput where
  quantity : Option ℤ := none
  itemDispositionId : Option (Option Uuid) := none
  dispositionReasonId : Option (Option Uuid) := none

namespace DispositionLog

variable (catalog : DispositionCatalog)

def notFound : ServiceError := ⟨"Disposition log not found", "DISPOSITION_LOG_NOT_FOUND"⟩

/-- `create`; the ids of the log and of the allocation are drawn by the database, and are new. -/
def create (input : CreateDispositionLogInput) (id allocationId : Uuid) (now : Time)
    (s : DispositionState) : Option (DispositionReply × DispositionState) :=
  match catalog.stations.find? fun station ↦ station.id == input.stationId with
  | none => some (.refused ⟨"Station not found", "STATION_NOT_FOUND"⟩, s)
  | some station =>
    if station.siteId ≠ input.siteId then
      some (.refused ⟨"Station must belong to the specified site", "SITE_MISMATCH"⟩, s)
    else match validateDispositionReasonPair catalog input.siteId input.itemDispositionId
        input.dispositionReasonId with
    | .error e => some (.refused e, s)
    | .ok pair =>
      match catalog.productBlobs.find? fun blob ↦ blob.id == input.productBlobId with
      | none => some (.refused ⟨"Product blob not found", "PRODUCT_BLOB_NOT_FOUND"⟩, s)
      | some productBlob =>
        let quantity := input.quantity.getD 1
        (s.logs.insert ⟨⟨id, input.stationId, quantity, now, none⟩, input.siteId, pair.1, pair.2,
          input.productBlobId⟩).bind fun logs ↦
        ((deductScrap input.siteId productBlob.productId quantity allocationId).alone orderStore
          s.orders).map fun deducted ↦
        (.data id, { logs
                     orders := deducted.1
                     badItems := s.badItems ++ [⟨input.stationId, input.siteId, now, quantity⟩] })

/-- A log that has not been removed. -/
def liveLog (s : DispositionState) (id : Uuid) : Option DispositionLog :=
  (s.logs.find id).filter fun log ↦ log.deletedAt.isNone

/-- The columns that an update sets. -/
def setInput (input : UpdateDispositionLogInput) (log : DispositionLog) : DispositionLog :=
  { log with
    quantity := input.quantity.getD log.quantity
    itemDispositionId := input.itemDispositionId.getD log.itemDispositionId
    dispositionReasonId := input.dispositionReasonId.getD log.dispositionReasonId }

def setDeleted (now : Time) (log : DispositionLog) : DispositionLog :=
  { log with deletedAt := some now }

theorem mild_setInput (input : UpdateDispositionLogInput) :
    Table.Mild dispositionLogSchema (setInput input) where
  key _ := rfl
  clash _ _ h := h

theorem mild_setDeleted (now : Time) : Table.Mild dispositionLogSchema (setDeleted now) where
  key _ := rfl
  clash _ _ h := h

/-- Write a log, and tell the station by how much its quantity has changed. -/
def writeLog (s : DispositionState) (log : DispositionLog) (f : DispositionLog → DispositionLog)
    (hf : Table.Mild dispositionLogSchema f) (delta : Option ℤ) : DispositionState :=
  { s with
    logs := s.logs.modify (fun l ↦ decide (l.id = log.id)) f hf
    badItems := s.badItems ++ (delta.map fun quantity ↦
      ⟨log.stationId, log.siteId, log.createdAt, quantity⟩).toList }

def update (id : Uuid) (input : UpdateDispositionLogInput) (s : DispositionState) :
    DispositionReply × DispositionState :=
  match liveLog s id with
  | none => (.refused notFound, s)
  | some current =>
    match validateDispositionReasonPair catalog current.siteId
        (input.itemDispositionId.getD current.itemDispositionId)
        (input.dispositionReasonId.getD current.dispositionReasonId) with
    | .error e => (.refused e, s)
    | .ok _ =>
      let delta := (input.quantity.filter fun quantity ↦ quantity ≠ current.quantity).map
        fun quantity ↦ quantity - current.quantity
      (.data id, writeLog s current (setInput input) (mild_setInput input) delta)

def remove (id : Uuid) (now : Time) (s : DispositionState) : DispositionReply × DispositionState :=
  match liveLog s id with
  | none => (.refused notFound, s)
  | some log =>
    (.success, writeLog s log (setDeleted now) (mild_setDeleted now) (some (-log.quantity)))

end DispositionLog

/-- A call of the log service. -/
inductive DispositionOp
  | create (input : CreateDispositionLogInput) (id allocationId : Uuid) (now : Time)
  | update (id : Uuid) (input : UpdateDispositionLogInput)
  | remove (id : Uuid) (now : Time)

/-- One call after the other, each with its background jobs. -/
def dispositionStep (catalog : DispositionCatalog) (op : DispositionOp) (s : DispositionState) :
    Option DispositionState :=
  match op with
  | .create input id allocationId now =>
    (DispositionLog.create catalog input id allocationId now s).map Prod.snd
  | .update id input => some (DispositionLog.update catalog id input s).2
  | .remove id now => some (DispositionLog.remove id now s).2

/-- By how much a call corrects what has been logged before. -/
def correction (catalog : DispositionCatalog) (op : DispositionOp) (s : DispositionState) : ℤ :=
  match op with
  | .create _ _ _ _ => 0
  | .update id input =>
    match DispositionLog.liveLog s id with
    | none => 0
    | some current =>
      match validateDispositionReasonPair catalog current.siteId
          (input.itemDispositionId.getD current.itemDispositionId)
          (input.dispositionReasonId.getD current.dispositionReasonId) with
      | .error _ => 0
      | .ok _ => input.quantity.getD current.quantity - current.quantity
  | .remove id _ => ((DispositionLog.liveLog s id).map fun log ↦ -log.quantity).getD 0

/-! ## What a call does -/

namespace DispositionLog

/-- What a log counts for. -/
def liveQuantity (log : DispositionLog) : ℤ := if log.deletedAt.isNone then log.quantity else 0

end DispositionLog

namespace DispositionState

/-- The live quantities of the logs that meet a condition, summed. -/
def liveQuantity (s : DispositionState) (p : DispositionLog → Bool) : ℤ :=
  ((s.logs.rows.filter p).map DispositionLog.liveQuantity).sum

/-- What the station has been told in all. -/
def badItemsOf (s : DispositionState) (stationId : Uuid) : ℤ :=
  ((s.badItems.filter fun b ↦ b.stationId == stationId).map BadItemsUpdate.quantity).sum

end DispositionState

/-! ## What a call does to the log -/

/-- The three things a call can do: nothing, log a disposition, or correct what it has logged. -/
inductive Logged (catalog : DispositionCatalog) (s : DispositionState) :
    DispositionOp → DispositionState → Prop
  | refused {op : DispositionOp} : correction catalog op s = 0 → Logged catalog s op s
  | created {input : CreateDispositionLogInput} {allocationId : Uuid} {now : Time}
      {blob : LoggedProductBlob} {log : DispositionLog} {logs : Table dispositionLogSchema}
      {orders : OrderDatabase} {result : OrderResult} {update : BadItemsUpdate} :
      (catalog.productBlobs.find? fun blob ↦ blob.id == input.productBlobId) = some blob →
      s.logs.insert log = some logs → log.deletedAt = none →
      (deductScrap input.siteId blob.productId log.quantity allocationId).alone orderStore s.orders
        = some (orders, result) →
      update.stationId = log.stationId → update.quantity = log.quantity →
      Logged catalog s (.create input log.id allocationId now)
        ⟨logs, orders, s.badItems ++ [update]⟩
  | corrected {op : DispositionOp} {log : DispositionLog} {f : DispositionLog → DispositionLog}
      {hf : Table.Mild dispositionLogSchema f} {delta : Option ℤ} :
      ((∃ input, op = .update log.id input) ∨ ∃ now, op = .remove log.id now) →
      s.logs.find log.id = some log → (∀ l, (f l).stationId = l.stationId) →
      (f log).liveQuantity = log.liveQuantity + correction catalog op s →
      delta.getD 0 = correction catalog op s →
      Logged catalog s op (DispositionLog.writeLog s log f hf delta)

section

variable {catalog : DispositionCatalog} {s s' : DispositionState} {op : DispositionOp}

theorem find_of_liveLog {id : Uuid} {log : DispositionLog}
    (h : DispositionLog.liveLog s id = some log) :
    log.id = id ∧ s.logs.find log.id = some log ∧ log.deletedAt = none := by
  obtain ⟨hfind, hlive⟩ := Option.filter_eq_some_iff.mp h
  have hid : log.id = id := (Table.find_eq_some_iff.mp hfind).2
  exact ⟨hid, hid.symm ▸ hfind, Option.isNone_iff_eq_none.mp hlive⟩

theorem logged_create {input : CreateDispositionLogInput} {id allocationId : Uuid} {now : Time}
    (h : dispositionStep catalog (.create input id allocationId now) s = some s') :
    Logged catalog s (.create input id allocationId now) s' := by
  obtain ⟨⟨reply, s₁⟩, hcreate, rfl⟩ := Option.map_eq_some_iff.mp h
  rw [DispositionLog.create] at hcreate
  split at hcreate
  · cases hcreate
    exact .refused rfl
  · split at hcreate
    · cases hcreate
      exact .refused rfl
    · split at hcreate
      · cases hcreate
        exact .refused rfl
      · split at hcreate
        · cases hcreate
          exact .refused rfl
        · rename_i blob hblob
          obtain ⟨logs, hlogs, hdeduct⟩ := Option.bind_eq_some_iff.mp hcreate
          obtain ⟨⟨orders, result⟩, halone, heq⟩ := Option.map_eq_some_iff.mp hdeduct
          cases heq
          exact .created hblob hlogs rfl halone rfl rfl

/-- The change that an update tells the station. -/
theorem getD_delta (quantity : Option ℤ) (current : ℤ) :
    ((quantity.filter fun q ↦ q ≠ current).map fun q ↦ q - current).getD 0
      = quantity.getD current - current := by
  cases quantity with
  | none => exact (sub_self _).symm
  | some q =>
    rw [Option.filter_some]
    by_cases heq : q = current
    · rw [if_neg (by simp [heq]), heq]
      exact (sub_self _).symm
    · rw [if_pos (by simp [heq])]
      rfl

theorem logged_update {id : Uuid} {input : UpdateDispositionLogInput} :
    Logged catalog s (.update id input) (DispositionLog.update catalog id input s).2 := by
  rw [DispositionLog.update]
  cases hlive : DispositionLog.liveLog s id with
  | none => exact .refused (by rw [correction, hlive])
  | some current =>
    obtain ⟨rfl, hfind, hdeleted⟩ := find_of_liveLog hlive
    dsimp only
    cases hpair : validateDispositionReasonPair catalog current.siteId
        (input.itemDispositionId.getD current.itemDispositionId)
        (input.dispositionReasonId.getD current.dispositionReasonId) with
    | error e =>
      refine .refused ?_
      rw [correction, hlive]
      dsimp only
      rw [hpair]
    | ok pair =>
      have hcorrection : correction catalog (.update current.id input) s
          = input.quantity.getD current.quantity - current.quantity := by
        rw [correction, hlive]
        dsimp only
        rw [hpair]
      refine .corrected (.inl ⟨input, rfl⟩) hfind (fun _ ↦ rfl) ?_ ?_
      · rw [hcorrection, DispositionLog.liveQuantity, DispositionLog.liveQuantity,
          DispositionLog.setInput, hdeleted]
        exact (add_sub_cancel _ _).symm
      · rw [hcorrection]
        exact getD_delta input.quantity current.quantity

theorem logged_remove {id : Uuid} {now : Time} :
    Logged catalog s (.remove id now) (DispositionLog.remove id now s).2 := by
  rw [DispositionLog.remove]
  cases hlive : DispositionLog.liveLog s id with
  | none =>
    refine .refused ?_
    rw [correction, hlive]
    rfl
  | some log =>
    obtain ⟨rfl, hfind, hdeleted⟩ := find_of_liveLog hlive
    have hcorrection : correction catalog (.remove log.id now) s = -log.quantity := by
      rw [correction, hlive]
      rfl
    refine .corrected (.inr ⟨now, rfl⟩) hfind (fun _ ↦ rfl) ?_ hcorrection.symm
    rw [hcorrection, DispositionLog.liveQuantity, DispositionLog.liveQuantity,
      DispositionLog.setDeleted, hdeleted]
    exact (add_neg_cancel _).symm

theorem logged_of_step (h : dispositionStep catalog op s = some s') : Logged catalog s op s' := by
  cases op with
  | create input id allocationId now => exact logged_create h
  | update id input =>
    cases h
    exact logged_update
  | remove id now =>
    cases h
    exact logged_remove

end

/-! ## Sums -/

section

variable {s : DispositionState} {p : DispositionLog → Bool} {log : DispositionLog}

theorem liveQuantity_insert {logs : Table dispositionLogSchema} {orders : OrderDatabase}
    {badItems : List BadItemsUpdate} (h : s.logs.insert log = some logs) :
    DispositionState.liveQuantity ⟨logs, orders, badItems⟩ p
      = s.liveQuantity p + if p log then log.liveQuantity else 0 := by
  rw [DispositionState.liveQuantity, Table.rows_of_insert h, List.filter_append, List.map_append,
    List.sum_append, List.filter_cons]
  split
  · simp [DispositionState.liveQuantity]
  · simp [DispositionState.liveQuantity]

theorem liveQuantity_writeLog {f : DispositionLog → DispositionLog}
    {hf : Table.Mild dispositionLogSchema f} {delta : Option ℤ}
    (hfind : s.logs.find log.id = some log) (hp : ∀ l, p (f l) = p l) :
    (DispositionLog.writeLog s log f hf delta).liveQuantity p
      = s.liveQuantity p + if p log then (f log).liveQuantity - log.liveQuantity else 0 := by
  rw [DispositionState.liveQuantity, DispositionLog.writeLog]
  dsimp only
  rw [Table.sum_filter_modify s.logs _ p hf hp, ← List.filter_filter]
  have hrow : s.logs.rows.filter (fun l ↦ decide (l.id = log.id)) = [log] :=
    Table.filter_key (S := dispositionLogSchema) hfind
  rw [hrow, List.filter_cons, List.filter_nil, DispositionState.liveQuantity]
  split <;> simp

theorem badItemsOf_append (updates : List BadItemsUpdate) (stationId : Uuid)
    {logs : Table dispositionLogSchema} {orders : OrderDatabase} :
    DispositionState.badItemsOf ⟨logs, orders, s.badItems ++ updates⟩ stationId
      = s.badItemsOf stationId
        + ((updates.filter fun b ↦ b.stationId == stationId).map BadItemsUpdate.quantity).sum := by
  rw [DispositionState.badItemsOf, List.filter_append, List.map_append, List.sum_append,
    DispositionState.badItemsOf]

end

/-! ## The order that runs with the product -/

/-- Of the running orders of a site one only holds a product of which items have been made. -/
structure SingleRunningOrder (db : OrderDatabase) (siteId productId : Uuid) (order : Order)
    (li : OrderLineItem) : Prop where
  order_mem : order ∈ db.orders.rows
  site : order.siteId = siteId
  running : order.status = .inProgress
  live : order.deletedAt = none
  line_mem : li ∈ db.lineItems.rows
  line_order : li.orderId = order.id
  product : li.productId = productId
  produced : 0 < li.completedQuantity
  single : ∀ o ∈ db.orders.rows, o.siteId = siteId → o.status = .inProgress → o.deletedAt = none →
    (∃ li' ∈ db.lineItems.rows, li'.orderId = o.id ∧ li'.productId = productId ∧
      0 < li'.completedQuantity) → o = order

theorem firstBySequence_ne_none {α : Type*} {sequence : α → Option ℤ} {l : List α} (h : l ≠ []) :
    firstBySequence sequence l ≠ none := by
  have hfold : ∀ f : Option α → α → Option α, (∀ b a, f (some b) a ≠ none) →
      ∀ (l : List α) (b : α), l.foldl f (some b) ≠ none := by
    intro f hf l
    induction l with
    | nil => exact fun b h ↦ nomatch h
    | cons a l ih =>
      intro b
      obtain ⟨c, hc⟩ := Option.ne_none_iff_exists'.mp (hf b a)
      rw [List.foldl_cons, hc]
      exact ih c
  cases l with
  | nil => exact absurd rfl h
  | cons a l =>
    refine hfold _ (fun b a ↦ ?_) l a
    dsimp only
    split <;> exact Option.some_ne_none _

namespace SingleRunningOrder

variable {db db' : OrderDatabase} {siteId productId : Uuid} {order : Order} {li : OrderLineItem}

theorem runningOrder_eq (h : SingleRunningOrder db siteId productId order li) :
    db.runningOrder siteId productId = some order := by
  have hmem : ∀ o, o ∈ db.orders.rows.filter (fun o ↦ o.siteId == siteId &&
      decide (o.status = .inProgress) && o.deletedAt.isNone && (db.lineItemsOf o.id).any fun li ↦
        li.productId == productId && decide (0 < li.completedQuantity)) ↔ o = order := by
    intro o
    simp only [List.mem_filter, Bool.and_eq_true, beq_iff_eq, decide_eq_true_eq, List.any_eq_true,
      Option.isNone_iff_eq_none, OrderDatabase.lineItemsOf]
    constructor
    · rintro ⟨ho, ⟨⟨hsite, hstatus⟩, hlive⟩, li', ⟨hli', horder⟩, hproduct, hpos⟩
      exact h.single o ho hsite hstatus hlive ⟨li', hli', horder, hproduct, hpos⟩
    · rintro rfl
      exact ⟨h.order_mem, ⟨⟨h.site, h.running⟩, h.live⟩, li, ⟨h.line_mem, h.line_order⟩, h.product,
        h.produced⟩
  rw [OrderDatabase.runningOrder]
  cases hfirst : firstBySequence Order.sequence _ with
  | none =>
    exact absurd hfirst (firstBySequence_ne_none (List.ne_nil_of_mem ((hmem order).mpr rfl)))
  | some o => rw [(hmem o).mp (mem_of_firstBySequence hfirst)]

theorem lineItem_eq (h : SingleRunningOrder db siteId productId order li) :
    (db.lineItemsOf order.id).find? (fun li ↦ li.productId == productId) = some li := by
  have hli : li ∈ db.lineItemsOf order.id :=
    List.mem_filter.mpr ⟨h.line_mem, beq_iff_eq.mpr h.line_order⟩
  cases hfind : (db.lineItemsOf order.id).find? fun li ↦ li.productId == productId with
  | none => exact absurd (beq_iff_eq.mpr h.product) (List.find?_eq_none.mp hfind li hli)
  | some a =>
    -- an order has one line item for a product
    obtain ⟨ha, horder⟩ := List.mem_filter.mp (List.mem_of_find?_eq_some hfind)
    have hproduct := List.find?_some hfind
    by_contra hne
    have hclash := db.lineItems.clash_eq_false ha h.line_mem fun heq ↦ hne (congrArg some heq)
    rw [lineItemSchema] at hclash
    dsimp only at hclash
    rw [beq_iff_eq] at horder hproduct
    rw [horder, hproduct, h.line_order, h.product] at hclash
    simp at hclash

/-- An update of the line item that makes no items. -/
theorem updateLineItem {u : LineItemUpdate} (h : SingleRunningOrder db siteId productId order li)
    (hu : u.completedIncrement = 0) (hwrite : db.write (.updateLineItem li.id u) = some db') :
    SingleRunningOrder db' siteId productId order (li.update u) := by
  cases hwrite
  have hfind := Table.find_modify_key db.lineItems li.id (OrderLineItem.mild_update u) li.id
  have hself : db.lineItems.find li.id = some li := Table.find_of_mem h.line_mem
  rw [hself, Option.map_some, if_pos rfl] at hfind
  have hcompleted : ∀ a : OrderLineItem, (a.update u).completedQuantity = a.completedQuantity := by
    intro a
    rw [OrderLineItem.update, hu, add_zero]
  refine ⟨h.order_mem, h.site, h.running, h.live, (Table.find_eq_some_iff.mp hfind).1,
    h.line_order, h.product, (hcompleted li).symm ▸ h.produced, ?_⟩
  rintro o ho hsite hstatus hlive ⟨li', hli', horder, hproduct, hpos⟩
  refine h.single o ho hsite hstatus hlive ?_
  obtain ⟨a, ha, rfl⟩ := List.mem_map.mp hli'
  refine ⟨a, ha, ?_⟩
  split at horder
  · rename_i hid
    rw [if_pos hid] at hproduct hpos
    exact ⟨horder, hproduct, hcompleted a ▸ hpos⟩
  · rename_i hid
    rw [if_neg hid] at hproduct hpos
    exact ⟨horder, hproduct, hpos⟩

/-- **What a deduction does**: it adds its quantity to the scrap of the line item, and the order
goes on running. -/
theorem deductScrap {quantity : ℤ} {allocationId : Uuid} {result : OrderResult}
    (h : SingleRunningOrder db siteId productId order li)
    (halone : (RwServer.deductScrap siteId productId quantity allocationId).alone orderStore db
      = some (db', result)) :
    ∃ li', SingleRunningOrder db' siteId productId order li' ∧ li'.id = li.id ∧
      li'.scrapQuantity = li.scrapQuantity + quantity := by
  rw [RwServer.deductScrap, Program.alone_read, Program.alone_read, h.runningOrder_eq,
    Option.bind_some, h.lineItem_eq, Option.map_some] at halone
  dsimp only at halone
  rw [Program.alone_exec] at halone
  obtain ⟨db₁, hinsert, halone⟩ := Option.bind_eq_some_iff.mp halone
  rw [Program.alone_exec] at halone
  obtain ⟨db₂, hupdate, halone⟩ := Option.bind_eq_some_iff.mp halone
  rw [writeAll_order] at hinsert hupdate
  rw [h.running, if_neg (by simp)] at halone
  cases halone
  obtain ⟨allocations, -, rfl⟩ := Option.map_eq_some_iff.mp hinsert
  have h₁ : SingleRunningOrder (db.setAllocations allocations) siteId productId order li :=
    ⟨h.order_mem, h.site, h.running, h.live, h.line_mem, h.line_order, h.product, h.produced,
      h.single⟩
  exact ⟨_, h₁.updateLineItem rfl hupdate, rfl, rfl⟩

end SingleRunningOrder

/-! ## Sequences of calls -/

/-- The log has been created since. -/
def newSince (s₀ : DispositionState) (log : DispositionLog) : Bool :=
  (s₀.logs.find log.id).isNone

/-- The calls of a sequence for one product: they log dispositions of the product, and correct logs
of the sequence. -/
def OfSequence (catalog : DispositionCatalog) (s₀ : DispositionState) (siteId productId : Uuid)
    (_ : DispositionState) : DispositionOp → Prop
  | .create input _ _ _ => input.siteId = siteId ∧
    ∀ blob ∈ catalog.productBlobs.find? fun blob ↦ blob.id == input.productBlobId,
      blob.productId = productId
  | .update id _ => s₀.logs.find id = none
  | .remove id _ => s₀.logs.find id = none

instance decidableOfSequence (catalog : DispositionCatalog) (s₀ : DispositionState)
    (siteId productId : Uuid) (s : DispositionState) (op : DispositionOp) :
    Decidable (OfSequence catalog s₀ siteId productId s op) := by
  cases op <;> unfold OfSequence <;> infer_instance

/-- The state after some calls, and by how much they have corrected what was logged before. -/
def correctionsAlong (catalog : DispositionCatalog) (s₀ : DispositionState)
    (ops : List DispositionOp) : DispositionState × ℤ :=
  ops.foldl (fun acc op ↦
    ((dispositionStep catalog op acc.1).getD acc.1, acc.2 + correction catalog op acc.1)) (s₀, 0)

/-- What the calls of a sequence correct in all: the changes of quantities, and the quantities that
are removed. -/
def corrections (catalog : DispositionCatalog) (s₀ : DispositionState) (ops : List DispositionOp) :
    ℤ := (correctionsAlong catalog s₀ ops).2

/-- The invariant of a sequence: the scrap of the order lacks the corrections, the scrap of each
station does not. -/
structure Followed (s₀ s : DispositionState) (siteId productId : Uuid) (order : Order)
    (li : OrderLineItem) (corrected : ℤ) : Prop where
  kept : ∀ id, s.logs.find id = none → s₀.logs.find id = none
  scrap : ∃ li', SingleRunningOrder s.orders siteId productId order li' ∧ li'.id = li.id ∧
    li'.scrapQuantity + corrected = li.scrapQuantity + s.liveQuantity (newSince s₀)
  badItems : ∀ stationId, s.badItemsOf stationId = s₀.badItemsOf stationId
    + s.liveQuantity fun log ↦ newSince s₀ log && log.stationId == stationId

section

variable {catalog : DispositionCatalog} {s₀ s s' : DispositionState} {siteId productId : Uuid}
  {order : Order} {li : OrderLineItem} {corrected : ℤ} {op : DispositionOp}

theorem Followed.start (h : SingleRunningOrder s₀.orders siteId productId order li) :
    Followed s₀ s₀ siteId productId order li 0 := by
  have hnone : ∀ p : DispositionLog → Bool,
      s₀.liveQuantity (fun log ↦ newSince s₀ log && p log) = 0 := by
    intro p
    rw [DispositionState.liveQuantity, List.filter_eq_nil_iff.mpr fun log hlog hnew ↦ ?_]
    · rfl
    · have hself : s₀.logs.find log.id = some log := Table.find_of_mem hlog
      rw [newSince, hself] at hnew
      cases hnew
  refine ⟨fun _ h ↦ h, ⟨li, h, rfl, ?_⟩, fun stationId ↦ ?_⟩
  · have htotal := hnone fun _ ↦ true
    simp only [Bool.and_true] at htotal
    rw [htotal]
  · rw [hnone, add_zero]

/-- **One call.** What is logged reaches both the order and the station, a correction reaches the
station only. -/
theorem Followed.step (h : Followed s₀ s siteId productId order li corrected)
    (hok : OfSequence catalog s₀ siteId productId s op)
    (hstep : dispositionStep catalog op s = some s') :
    Followed s₀ s' siteId productId order li (corrected + correction catalog op s) := by
  obtain ⟨hkept, ⟨li₁, hli₁, hid, hscrap⟩, hbad⟩ := h
  cases logged_of_step hstep with
  | refused hzero =>
    rw [hzero, add_zero]
    exact ⟨hkept, ⟨li₁, hli₁, hid, hscrap⟩, hbad⟩
  | @created input allocationId now blob log logs orders result update hblob hlogs hlive halone
      hstation hquantity =>
    obtain ⟨rfl, hproduct⟩ := hok
    obtain rfl := hproduct blob hblob
    obtain ⟨li₂, hli₂, hid₂, hscrap₂⟩ := hli₁.deductScrap halone
    have hcounts : log.liveQuantity = log.quantity := by
      rw [DispositionLog.liveQuantity, hlive]
      rfl
    have hnew : newSince s₀ log = true := by
      rw [newSince, hkept log.id (Table.find_eq_none_iff.mpr fun a ha hkey ↦
        (Table.insert_eq_some_iff.mp hlogs).1 (List.mem_map.mpr ⟨a, ha, hkey⟩))]
      rfl
    refine ⟨fun id hnone ↦ hkept id ?_, ⟨li₂, hli₂, hid₂.trans hid, ?_⟩, fun stationId ↦ ?_⟩
    · rw [Table.find_eq_none_iff] at hnone ⊢
      exact fun a ha ↦ hnone a (by
        rw [Table.rows_of_insert hlogs]
        exact List.mem_append_left _ ha)
    · rw [liveQuantity_insert hlogs, if_pos hnew, hcounts, hscrap₂, correction]
      omega
    · rw [badItemsOf_append, liveQuantity_insert hlogs, hbad, hcounts, hnew, Bool.true_and,
        List.filter_cons, List.filter_nil, hstation]
      split
      · rw [List.map_singleton, List.sum_singleton, hquantity, add_assoc]
      · rw [List.map_nil, List.sum_nil, add_assoc]
  | @corrected _ log f hf delta hop hfind hstation hlive hdelta =>
    have hnew : newSince s₀ log = true := by
      have hnone : s₀.logs.find log.id = none := by
        rcases hop with ⟨input, rfl⟩ | ⟨now, rfl⟩
        · exact hok
        · exact hok
      rw [newSince, hnone]
      rfl
    have hsame : ∀ l, newSince s₀ (f l) = newSince s₀ l := by
      intro l
      rw [newSince, show (f l).id = l.id from hf.key l, newSince]
    refine ⟨fun id hnone ↦ hkept id ?_, ⟨li₁, hli₁, hid, ?_⟩, fun stationId ↦ ?_⟩
    · rw [DispositionLog.writeLog] at hnone
      dsimp only at hnone
      rw [Table.find_modify, Option.map_eq_none_iff] at hnone
      exact hnone
    · rw [liveQuantity_writeLog hfind hsame, if_pos hnew, hlive]
      omega
    · rw [liveQuantity_writeLog hfind fun l ↦ by rw [hsame, hstation], hlive, hnew, Bool.true_and,
        DispositionLog.writeLog, badItemsOf_append, hbad, add_sub_cancel_left, ← hdelta]
      cases delta with
      | none => simp
      | some quantity =>
        rw [Option.map_some, Option.toList_some, List.filter_cons, List.filter_nil,
          Option.getD_some]
        split
        · rw [List.map_singleton, List.sum_singleton, add_assoc]
        · rw [List.map_nil, List.sum_nil, add_assoc]

theorem followed_of_run {ops : List DispositionOp}
    (h : SingleRunningOrder s₀.orders siteId productId order li)
    (hrun : Run (dispositionStep catalog) (OfSequence catalog s₀ siteId productId) s₀ ops s) :
    (correctionsAlong catalog s₀ ops).1 = s ∧
      Followed s₀ s siteId productId order li (corrections catalog s₀ ops) := by
  induction hrun with
  | nil => exact ⟨rfl, .start h⟩
  | snoc _ hok hstep ih =>
    obtain ⟨hstate, hfollowed⟩ := ih
    have hnext := hfollowed.step hok hstep
    rw [corrections, correctionsAlong, List.foldl_append, List.foldl_cons, List.foldl_nil,
      ← correctionsAlong, hstate, hstep]
    exact ⟨rfl, hnext⟩

/-- **Where the scrap of an order follows the log.** After a sequence of calls for the product of
the order, the line item has got the quantities of the live logs of the sequence as scrap iff the
corrections of the sequence add up to nothing; each station has got those of its logs in any
case. -/
theorem scrap_follows_log_iff {ops : List DispositionOp}
    (h : SingleRunningOrder s₀.orders siteId productId order li)
    (hrun : Run (dispositionStep catalog) (OfSequence catalog s₀ siteId productId) s₀ ops s) :
    ∃ li', s.orders.lineItems.find li.id = some li' ∧
      (li'.scrapQuantity = li.scrapQuantity + s.liveQuantity (newSince s₀) ↔
        corrections catalog s₀ ops = 0) ∧
      ∀ stationId, s.badItemsOf stationId = s₀.badItemsOf stationId
        + s.liveQuantity fun log ↦ newSince s₀ log && log.stationId == stationId := by
  obtain ⟨-, -, ⟨li', hli', hid, hscrap⟩, hbad⟩ := followed_of_run h hrun
  refine ⟨li', hid ▸ Table.find_of_mem hli'.line_mem, ?_, hbad⟩
  constructor
  · intro hfollows
    omega
  · intro hzero
    omega

end

/-! ## A correction -/

/-- A site with one station, where the product needs no reason for a disposition. -/
def oneStation : DispositionCatalog where
  stations := [⟨2, 1⟩]
  dispositions := []
  reasons := []
  productBlobs := [⟨6, 5⟩]

def startedOrder : Order := ⟨10, 1, "ORD-001", .inProgress, some .open, some 1, none, none⟩

/-- Four of ten items have been made. -/
def startedLine : OrderLineItem := ⟨11, 10, 5, 10, 4, 0, .inProgress⟩

/-- The order is running, and nothing has been logged. -/
def startedState : DispositionState where
  logs := .empty dispositionLogSchema
  orders :=
    { orders := (Table.empty orderSchema).insertMissing startedOrder
      lineItems := (Table.empty lineItemSchema).insertMissing startedLine
      allocations := .empty allocationSchema
      sites := [⟨1, none⟩]
      customers := [] }
  badItems := []

theorem singleRunningOrder_started :
    SingleRunningOrder startedState.orders 1 5 startedOrder startedLine where
  order_mem := by decide
  site := rfl
  running := rfl
  live := rfl
  line_mem := by decide
  line_order := rfl
  product := rfl
  produced := by decide
  single := by decide

/-- Two items are logged at first. -/
def logTwo : DispositionOp :=
  .create { siteId := 1, stationId := 2, quantity := some 2, productBlobId := 6 } 20 30 0

/-- The quantity is corrected, and corrected back. -/
def correctedTwice : List DispositionOp :=
  [logTwo, .update 20 { quantity := some 5 }, .update 20 { quantity := some 2 }]

/-- The corrections add up to nothing, and the order follows the log. -/
theorem scrap_follows_log_iff_restored : ∃ s,
    Run (dispositionStep oneStation) (OfSequence oneStation startedState 1 5) startedState
        correctedTwice s ∧
      corrections oneStation startedState correctedTwice = 0 ∧
      ∃ li', s.orders.lineItems.find startedLine.id = some li' ∧
        (li'.scrapQuantity = startedLine.scrapQuantity + s.liveQuantity (newSince startedState) ↔
          corrections oneStation startedState correctedTwice = 0) ∧
        ∀ stationId, s.badItemsOf stationId = startedState.badItemsOf stationId
          + s.liveQuantity fun log ↦ newSince startedState log && log.stationId == stationId := by
  have hrun : (execute (dispositionStep oneStation) (OfSequence oneStation startedState 1 5)
      correctedTwice startedState).isSome = true := by
    decide +kernel
  have hzero : corrections oneStation startedState correctedTwice = 0 := by
    decide +kernel
  obtain ⟨s, hs⟩ := Option.isSome_iff_exists.mp hrun
  exact ⟨s, run_of_execute hs, hzero,
    scrap_follows_log_iff singleRunningOrder_started (run_of_execute hs)⟩

/-- **A correction that the order does not see.** Two items are logged, and the quantity is then
corrected to five: the log and the station have five items, the order has two. -/
theorem not_scrap_follows_log : ∃ s,
    Run (dispositionStep oneStation) (OfSequence oneStation startedState 1 5) startedState
        [logTwo, .update 20 { quantity := some 5 }] s ∧
      s.liveQuantity (newSince startedState) = 5 ∧ s.badItemsOf 2 = 5 ∧
      ∃ li', s.orders.lineItems.find startedLine.id = some li' ∧
        startedLine.scrapQuantity = 0 ∧ li'.scrapQuantity = 2 := by
  have hrun : (execute (dispositionStep oneStation) (OfSequence oneStation startedState 1 5)
      [logTwo, .update 20 { quantity := some 5 }] startedState).any (fun s ↦
        decide (s.liveQuantity (newSince startedState) = 5 ∧ s.badItemsOf 2 = 5 ∧
          ∃ li' ∈ s.orders.lineItems.find startedLine.id,
            startedLine.scrapQuantity = 0 ∧ li'.scrapQuantity = 2)) = true := by
    decide +kernel
  obtain ⟨s, hs, hfacts⟩ := (Option.any_eq_true _ _).mp hrun
  obtain ⟨hlive, hbad, li', hfind, hscrap⟩ := of_decide_eq_true hfacts
  exact ⟨s, run_of_execute hs, hlive, hbad, li', hfind, hscrap⟩

end RwServer
