import Mathlib
import RwServer.Orders.Coherence

/-!
# Items allocated at the same time

Cycles that complete at the same time allocate their items to the same order. Each of them reads the
line item first, decides from this whether the line item takes the item and what its status will be,
and writes it later; the update waits for the other transactions that have written the row, but it
does not look at the quantities again.

A line item is not filled over its target, and its status stays that of its quantities, as long as
each update finds a line item that still needs the item, and that the item fills iff it would have
filled the one that was read (`lines_not_overfilled`). Where the quantities are still those that
were read this is so (`takesItem_of_unchanged`).
-/

namespace RwServer

open Relational ReadCommitted Transition

/-! ## What happens to one line item -/

/-- The row of a line item after a statement. -/
def OrderWrite.onLine (id : Uuid) (li : OrderLineItem) : OrderWrite → OrderLineItem
  | .updateLineItem id' u => if id = id' then li.update u else li
  | .updateLineItems ids u => if ids.contains id then li.update u else li
  | .createOrder _ | .updateOrder _ _ | .updateOrders _ _ | .createLineItem _ | .deleteLineItem _
  | .createAllocation _ => li

/-- The row of a line item after some statements. -/
def onLines (id : Uuid) (ws : List OrderWrite) (li : OrderLineItem) : OrderLineItem :=
  ws.foldl (OrderWrite.onLine id) li

/-- The statement neither creates nor deletes line items. -/
def OrderWrite.keepsLines : OrderWrite → Bool
  | .createLineItem _ | .deleteLineItem _ => false
  | .createOrder _ | .updateOrder _ _ | .updateOrders _ _ | .updateLineItem _ _
  | .updateLineItems _ _ | .createAllocation _ => true

section

variable {db db' : OrderDatabase} {w : OrderWrite} {ws ws' : List OrderWrite} {id : Uuid}
  {li : OrderLineItem}

theorem onLines_append : onLines id (ws ++ ws') li = onLines id ws' (onLines id ws li) :=
  List.foldl_append

/-- A statement leaves the line items alone that it does not lock. -/
theorem onLine_of_not_mem (hnot : id ∉ w.lineItemIds) : w.onLine id li = li := by
  cases w with
  | updateLineItem id' u => exact if_neg fun heq ↦ hnot (List.mem_singleton.mpr heq)
  | updateLineItems ids u => exact if_neg fun hin ↦ hnot (List.contains_iff_mem.mp hin)
  | createOrder o => rfl
  | updateOrder id' u => rfl
  | updateOrders ids u => rfl
  | createLineItem a => rfl
  | deleteLineItem id' => rfl
  | createAllocation a => rfl

theorem onLines_of_not_mem (hnot : ∀ w ∈ ws, id ∉ w.lineItemIds) : onLines id ws li = li := by
  induction ws with
  | nil => rfl
  | cons w ws ih =>
    rw [onLines, List.foldl_cons, onLine_of_not_mem (hnot w List.mem_cons_self)]
    exact ih fun w hw ↦ hnot w (List.mem_cons_of_mem _ hw)

theorem find_line_of_write (hwrite : db.write w = some db') (hkeeps : w.keepsLines = true) :
    db'.lineItems.find id = (db.lineItems.find id).map fun li ↦ w.onLine id li := by
  cases w with
  | updateLineItem id' u =>
    cases hwrite
    exact Table.find_modify_key db.lineItems id' (OrderLineItem.mild_update u) id
  | updateLineItems ids u =>
    cases hwrite
    refine (Table.find_modify db.lineItems _ (OrderLineItem.mild_update u) id).trans ?_
    refine Option.map_congr fun li hli ↦ ?_
    rw [show li.id = id from (Table.find_eq_some_iff.mp hli).2]
    rfl
  | createOrder o =>
    obtain ⟨orders, -, rfl⟩ := Option.map_eq_some_iff.mp hwrite
    exact Option.map_id'.symm
  | updateOrder id' u =>
    cases hwrite
    exact Option.map_id'.symm
  | updateOrders ids u =>
    cases hwrite
    exact Option.map_id'.symm
  | createLineItem a => cases hkeeps
  | deleteLineItem id' => cases hkeeps
  | createAllocation a =>
    obtain ⟨allocations, -, rfl⟩ := Option.map_eq_some_iff.mp hwrite
    exact Option.map_id'.symm

theorem find_line_of_writeAll (hwrites : orderStore.writeAll db ws = some db')
    (hkeeps : ∀ w ∈ ws, w.keepsLines = true) :
    db'.lineItems.find id = (db.lineItems.find id).map (onLines id ws) := by
  induction ws generalizing db with
  | nil =>
    cases hwrites
    exact Option.map_id'.symm
  | cons w ws ih =>
    rw [Store.writeAll_cons] at hwrites
    obtain ⟨db₁, hwrite, hrest⟩ := Option.bind_eq_some_iff.mp hwrites
    rw [ih hrest fun w hw ↦ hkeeps w (List.mem_cons_of_mem _ hw),
      find_line_of_write hwrite (hkeeps w List.mem_cons_self), Option.map_map]
    rfl

end

/-! ## Line items that are kept -/

/-- The items of a line item that are good. -/
def OrderLineItem.goodQuantity (li : OrderLineItem) : ℤ := li.completedQuantity - li.scrapQuantity

/-- What allocations may do to a line item: items are added up to the target, and what is changed
has the status of its quantities. -/
structure LineKept (li₀ li : OrderLineItem) : Prop where
  target : li.targetQuantity = li₀.targetQuantity
  completed : li₀.completedQuantity ≤ li.completedQuantity
  good : li.goodQuantity ≤ max li₀.targetQuantity li₀.goodQuantity
  status : 0 ≤ li₀.completedQuantity →
    li₀.status = li₀.expectedStatus ∨ li₀.completedQuantity ≠ li.completedQuantity →
    li.status = li.expectedStatus

namespace LineKept

variable {li li₁ li₂ : OrderLineItem}

theorem refl (li : OrderLineItem) : LineKept li li where
  target := rfl
  completed := le_rfl
  good := le_max_right _ _
  status _ h := h.resolve_right (not_not_intro rfl)

theorem trans (h : LineKept li li₁) (h' : LineKept li₁ li₂) : LineKept li li₂ where
  target := h'.target.trans h.target
  completed := h.completed.trans h'.completed
  good := h'.good.trans (max_le (h.target ▸ le_max_left _ _) h.good)
  status hnonneg hor := by
    refine h'.status (hnonneg.trans h.completed) ?_
    by_cases heq : li.completedQuantity = li₁.completedQuantity
    · rcases hor with hstatus | hne
      · exact .inl (h.status hnonneg (.inl hstatus))
      · exact .inr (heq ▸ hne)
    · exact .inl (h.status hnonneg (.inr heq))

/-- A line item that lags behind its quantities. -/
theorem heal (hpos : 0 < li.completedQuantity) (hfull : li.isFulfilled = true) :
    LineKept li (li.update { status := some .completed }) where
  target := rfl
  completed := (add_zero _).ge
  good := by
    rw [OrderLineItem.goodQuantity, OrderLineItem.update, add_zero, add_zero]
    exact le_max_right _ _
  status _ _ := by
    rw [OrderLineItem.isFulfilled, decide_eq_true_eq] at hfull
    rw [OrderLineItem.expectedStatus, OrderLineItem.isFulfilled, OrderLineItem.update]
    simp [hpos.ne', hpos, hfull]

/-- A line item that takes one more item. -/
theorem take {u : LineItemUpdate} (htarget : u.targetQuantity = none)
    (hcompleted : u.completedIncrement = 1) (hscrap : u.scrapIncrement = 0)
    (hneeds : li.goodQuantity < li.targetQuantity)
    (hstatus : u.status = some (if li.targetQuantity ≤ li.goodQuantity + 1 then .completed
      else .inProgress)) : LineKept li (li.update u) := by
  rw [OrderLineItem.goodQuantity] at hneeds hstatus
  constructor
  · rw [OrderLineItem.update, htarget]
    rfl
  · rw [OrderLineItem.update, hcompleted]
    exact (lt_add_one _).le
  · rw [OrderLineItem.goodQuantity, OrderLineItem.update, hcompleted, hscrap]
    refine le_max_of_le_left ?_
    dsimp only
    omega
  · intro hnonneg _
    have hpos : 0 < li.completedQuantity + 1 := by omega
    rw [OrderLineItem.expectedStatus, OrderLineItem.isFulfilled, OrderLineItem.update, htarget,
      hcompleted, hscrap, hstatus]
    dsimp only [Option.getD_none, Option.getD_some]
    rw [if_neg hpos.ne', add_zero, add_sub_right_comm]
    refine if_congr ?_ rfl rfl
    rw [decide_eq_true_eq]
    exact ⟨fun hle ↦ ⟨hpos, hle⟩, And.right⟩

end LineKept

/-! ## Statements of an allocation -/

/-- What the statements of `allocateInventory` do to line items. -/
def OrderWrite.Allocates (v : OrderDatabase) : OrderWrite → Prop
  | .updateLineItem _ u =>
    u.targetQuantity = none ∧ u.completedIncrement = 1 ∧ u.scrapIncrement = 0
  | .updateLineItems ids u => u = { status := some .completed } ∧
    ∀ id ∈ ids, ∀ li ∈ v.lineItems.find id, 0 < li.completedQuantity ∧ li.isFulfilled = true
  | .createLineItem _ | .deleteLineItem _ => False
  | .createOrder _ | .updateOrder _ _ | .updateOrders _ _ | .createAllocation _ => True

/-- The condition on an update of a line item by its id: the line item still needs the item, and has
the status that is written once it has taken it. -/
def OrderWrite.TakesItem (v : OrderDatabase) : OrderWrite → Prop
  | .updateLineItem id u => ∀ li ∈ v.lineItems.find id, li.goodQuantity < li.targetQuantity ∧
    u.status = some (if li.targetQuantity ≤ li.goodQuantity + 1 then .completed else .inProgress)
  | .createOrder _ | .updateOrder _ _ | .updateOrders _ _ | .createLineItem _
  | .updateLineItems _ _ | .deleteLineItem _ | .createAllocation _ => True

instance decidableTakesItem (v : OrderDatabase) (w : OrderWrite) : Decidable (w.TakesItem v) := by
  cases w <;> unfold OrderWrite.TakesItem <;> infer_instance

/-- The line items that a statement updates by their id take their items. -/
def LinesTakeItems (v : OrderDatabase) (ws : List OrderWrite) : Prop := ∀ w ∈ ws, w.TakesItem v

instance decidableLinesTakeItems (v : OrderDatabase) (ws : List OrderWrite) :
    Decidable (LinesTakeItems v ws) :=
  inferInstanceAs (Decidable (∀ w ∈ ws, _))

theorem OrderWrite.Allocates.keepsLines {v : OrderDatabase} {w : OrderWrite} (h : w.Allocates v) :
    w.keepsLines = true := by
  cases w <;> first | rfl | exact h.elim

/-- A statement of an allocation keeps the line items, if they take their items. -/
theorem OrderWrite.Allocates.lineKept {v : OrderDatabase} {w : OrderWrite} (h : w.Allocates v)
    (hcond : w.TakesItem v) {id : Uuid} {li : OrderLineItem} (hli : v.lineItems.find id = some li) :
    LineKept li (w.onLine id li) := by
  cases w with
  | updateLineItem id' u =>
    rw [onLine]
    split
    · rename_i heq
      obtain ⟨htarget, hcompleted, hscrap⟩ := h
      obtain ⟨hneeds, hstatus⟩ := hcond li (heq ▸ hli)
      exact .take htarget hcompleted hscrap hneeds hstatus
    · exact .refl li
  | updateLineItems ids u =>
    rw [onLine]
    split
    · rename_i hin
      obtain ⟨rfl, hfound⟩ := h
      obtain ⟨hpos, hfull⟩ := hfound id (List.contains_iff_mem.mp hin) li hli
      exact .heal hpos hfull
    · exact .refl li
  | createOrder o => exact .refl li
  | updateOrder id' u => exact .refl li
  | updateOrders ids u => exact .refl li
  | createLineItem a => exact h.elim
  | deleteLineItem id' => exact h.elim
  | createAllocation a => exact .refl li

/-- **Where the quantities are still those that were read**, the line item takes its item. -/
theorem takesItem_of_unchanged {db v : OrderDatabase} {siteId productId : Uuid} {e : Eligible}
    (he : db.eligible siteId productId = some e) (hauto : db.autoComplete siteId = true)
    (hsame : v.lineItems.find e.lineItem.id = some e.lineItem) :
    OrderWrite.TakesItem v (.updateLineItem e.lineItem.id
      { completedIncrement := 1
        status := some (if e.lineItem.targetQuantity
            ≤ e.lineItem.completedQuantity + 1 - e.lineItem.scrapQuantity then .completed
          else .inProgress) }) := by
  intro li hli
  obtain rfl := Option.some.inj (hsame.symm.trans hli)
  refine ⟨?_, by rw [OrderLineItem.goodQuantity, sub_add_eq_add_sub]⟩
  -- the query has left out the line items that are full
  obtain ⟨site, hsite, hfirst⟩ := Option.bind_eq_some_iff.mp he
  obtain ⟨o, -, hmem⟩ := List.mem_flatMap.mp (mem_of_firstBySequence hfirst)
  obtain ⟨li, hline, rfl⟩ := List.mem_map.mp hmem
  rw [OrderDatabase.autoComplete, hsite] at hauto
  have hauto : site.orderAutoComplete.getD false = true := hauto
  have hcond := (List.mem_filter.mp hline).2
  rw [hauto, Bool.true_and, Bool.and_eq_true, Bool.not_eq_true', OrderLineItem.isFulfilled,
    decide_eq_false_iff_not, not_le] at hcond
  exact hcond.2

/-! ## Programs -/

/-- Every statement of the program is one of an allocation, whatever it reads. -/
inductive Allocating : OrderTx → Prop
  | commit (result : OrderResult) : Allocating (.commit result)
  | read {γ : Type} {f : OrderDatabase → γ} {next : γ → OrderTx} :
      (∀ v, Allocating (next (f v))) → Allocating (.read f next)
  | exec {w : OrderDatabase → OrderWrite} {next : OrderTx} :
      (∀ v, (w v).Allocates v) → Allocating next → Allocating (.exec (fun v ↦ [w v]) next)

namespace Allocating

theorem execIf {needed : Bool} {w : OrderDatabase → OrderWrite} {next : OrderTx}
    (hw : ∀ v, (w v).Allocates v) (h : Allocating next) :
    Allocating (execIf needed (fun v ↦ [w v]) next) := by
  rw [RwServer.execIf]
  split
  · exact exec hw h
  · exact h

theorem allocateTo (siteId productId inventoryItemId allocationId : Uuid) (inSnapshot : Uuid → Bool)
    (e : Eligible) : Allocating (RwServer.allocateTo siteId productId inventoryItemId allocationId
      inSnapshot e) := by
  unfold RwServer.allocateTo
  refine exec (fun _ ↦ trivial) (exec (fun _ ↦ ⟨rfl, rfl, rfl⟩) (execIf (fun _ ↦ trivial) ?_))
  refine execIf (fun _ ↦ trivial) ?_
  split
  · exact read fun v ↦ execIf (fun _ ↦ trivial) (.commit _)
  · exact .commit _

theorem allocateInventory (siteId productId inventoryItemId allocationId : Uuid)
    (inSnapshot : Uuid → Bool) : Allocating (RwServer.allocateInventory siteId productId
      inventoryItemId allocationId inSnapshot) := by
  unfold RwServer.allocateInventory
  refine exec (fun v ↦ ⟨rfl, fun id hid li hli ↦ ?_⟩) (exec (fun _ ↦ trivial) (read fun v ↦ ?_))
  · -- the condition of the statement holds of the row itself
    obtain ⟨li', hli', heq⟩ := List.mem_map.mp (List.mem_filter.mp hid).1
    obtain ⟨hmem', hstale⟩ := List.mem_filter.mp hli'
    obtain ⟨hmem, hkey⟩ := Table.find_eq_some_iff.mp hli
    rw [← v.lineItems.eq_of_key_eq hmem' hmem (heq.trans hkey.symm)]
    simp only [Bool.and_eq_true, decide_eq_true_eq] at hstale
    exact ⟨hstale.1.1.2, hstale.1.2⟩
  · split
    · exact .commit _
    · exact allocateTo ..

end Allocating

/-! ## All interleavings -/

/-- The line items of a database that are still there are kept. -/
def LinesKept (db db' : OrderDatabase) : Prop :=
  ∀ id li, db'.lineItems.find id = some li → ∃ li₀, db.lineItems.find id = some li₀ ∧
    LineKept li₀ li

/-- What an open transaction knows: its writes keep the line items, and the rest of it are
statements of an allocation. -/
structure AllocationOpen (ws : List OrderWrite) (p : OrderTx) (s : OrderDatabase) : Prop where
  keeps : ∀ w ∈ ws, w.keepsLines = true
  lines : ∀ id li, s.lineItems.find id = some li → LineKept li (onLines id ws li)
  program : Allocating p

namespace AllocationOpen

variable {s v : OrderDatabase} {ws ws' : List OrderWrite} {p : OrderTx} {result : OrderResult}

theorem start (h : Allocating p) (s : OrderDatabase) : AllocationOpen [] p s where
  keeps _ hw := absurd hw List.not_mem_nil
  lines _ li _ := .refl li
  program := h

theorem run {writes : OrderDatabase → List OrderWrite} {next : OrderDatabase → OrderTx}
    (h : AllocationOpen ws (.run writes next) s) (hview : orderStore.writeAll s ws = some v)
    (hcond : LinesTakeItems v (writes v)) : AllocationOpen (ws ++ writes v) (next v) s := by
  obtain ⟨hkeeps, hlines, hprogram⟩ := h
  cases hprogram with
  | read hnext =>
    rw [List.append_nil]
    exact ⟨hkeeps, hlines, hnext v⟩
  | @exec w _ hw hnext =>
    refine ⟨fun w' hw' ↦ ?_, fun id li hli ↦ ?_, hnext⟩
    · rcases List.mem_append.mp hw' with hw' | hw'
      · exact hkeeps w' hw'
      · rw [List.mem_singleton.mp hw']
        exact (hw v).keepsLines
    · have hfind : v.lineItems.find id = (s.lineItems.find id).map (onLines id ws) :=
        find_line_of_writeAll hview hkeeps
      rw [hli, Option.map_some] at hfind
      rw [onLines_append]
      exact (hlines id li hli).trans
        ((hw v).lineKept (hcond (w v) List.mem_cons_self) hfind)

theorem commit (h : AllocationOpen ws (.commit result) s)
    (hwrites : orderStore.writeAll s ws = some v) : LinesKept s v := by
  intro id li hli
  rw [find_line_of_writeAll hwrites h.keeps] at hli
  obtain ⟨li₀, hli₀, rfl⟩ := Option.map_eq_some_iff.mp hli
  exact ⟨li₀, hli₀, h.lines id li₀ hli₀⟩

/-- Another transaction that commits has written other line items. -/
theorem frame (h : AllocationOpen ws' p s) (hother : AllocationOpen ws (.commit result) s)
    (hcommit : orderStore.writeAll s ws = some v)
    (hapart : ∀ w ∈ ws, ∀ w' ∈ ws', w.conflict w' = false) : AllocationOpen ws' p v where
  keeps := h.keeps
  program := h.program
  lines id li hli := by
    by_cases hwritten : ∃ w' ∈ ws', id ∈ w'.lineItemIds
    · obtain ⟨w', hw', hid'⟩ := hwritten
      refine h.lines id li ?_
      rw [find_line_of_writeAll hcommit hother.keeps] at hli
      obtain ⟨li₀, hli₀, rfl⟩ := Option.map_eq_some_iff.mp hli
      rw [hli₀, onLines_of_not_mem fun w hw hid ↦ ?_]
      have hconflict := hapart w hw w' hw'
      rw [OrderWrite.conflict, Bool.or_eq_false_iff, Bool.or_eq_false_iff] at hconflict
      exact List.any_eq_false.mp hconflict.1.2 id hid (List.contains_iff_mem.mpr hid')
    · rw [onLines_of_not_mem fun w' hw' hid' ↦ hwritten ⟨w', hw', hid'⟩]
      exact .refl li

end AllocationOpen

/-- The arguments of a call of `allocateInventory`, with the id of the allocation and the rows that
its conditional updates find. -/
structure AllocationCall where
  siteId : Uuid
  productId : Uuid
  inventoryItemId : Uuid
  allocationId : Uuid
  inSnapshot : Uuid → Bool := fun _ ↦ true

def AllocationCall.program (call : AllocationCall) : OrderTx :=
  allocateInventory call.siteId call.productId call.inventoryItemId call.allocationId
    call.inSnapshot

section

variable {ι : Type*} [DecidableEq ι]

/-- Transactions keep the line items. -/
def allocationOutline (ι : Type*) [DecidableEq ι] (db : OrderDatabase) :
    RowOutline orderStore LinesTakeItems Unit ι OrderResult where
  Inv _ s := LinesKept db s
  Local _ ws p s := AllocationOpen ws p s
  run _ h hview hcond _ := h.run hview hcond
  lock h := nomatch h.program
  commit hinv _ h hwrites id li hli := by
    obtain ⟨li₁, hli₁, hkept⟩ := h.commit hwrites id li hli
    obtain ⟨li₀, hli₀, hkept₀⟩ := hinv id li₁ hli₁
    exact ⟨li₀, hli₀, hkept₀.trans hkept⟩
  frame _ _ h h' hcommit hapart := h'.frame h hcommit hapart

/-- **No line item is filled over its target.** In every interleaving of allocations whose updates
find line items that take their items, a line item has at any time no more good items than its
target, or than it had before; and one that has taken an item, or had the status of its quantities
before, has that status. -/
theorem lines_not_overfilled [Fintype ι] {db : OrderDatabase} {calls : ι → AllocationCall}
    {moves : List (Move ι)} {y : System OrderDatabase OrderWrite Unit OrderResult ι}
    (hrun : Run (step orderStore) (RunWhen orderStore LinesTakeItems)
      (.start db fun i ↦ (calls i).program) moves y) :
    ∀ li ∈ y.committed.lineItems.rows, ∃ li₀ ∈ db.lineItems.rows, li₀.id = li.id ∧
      li.goodQuantity ≤ max li.targetQuantity li₀.goodQuantity ∧
      (0 ≤ li₀.completedQuantity →
        li₀.status = li₀.expectedStatus ∨ li₀.completedQuantity ≠ li.completedQuantity →
        li.status = li.expectedStatus) := by
  have hinv : (allocationOutline ι db).Inv (fun _ ↦ none) db := fun id li hli ↦
    ⟨li, hli, .refl li⟩
  have hlocal : ∀ i, (allocationOutline ι db).Local i [] (calls i).program db := fun i ↦
    .start (.allocateInventory ..) db
  have hkept : LinesKept db y.committed :=
    ((allocationOutline ι db).sound OrderWrite.conflict_comm hinv hlocal hrun).inv
  intro li hli
  obtain ⟨li₀, hli₀, h⟩ := hkept li.id li (Table.find_of_mem hli)
  obtain ⟨hmem, hkey⟩ := Table.find_eq_some_iff.mp hli₀
  exact ⟨li₀, hmem, hkey, h.target ▸ h.good, h.status⟩

end

/-! ## Three cycles -/

/-- An open order of two items, at a site that completes its orders by itself. -/
def autoCompletedOrder : OrderDatabase where
  orders := (Table.empty orderSchema).insertMissing
    ⟨10, 1, "ORD-001", .open, none, some 1, none, none⟩
  lineItems := (Table.empty lineItemSchema).insertMissing (.new 11 10 5 2)
  allocations := .empty allocationSchema
  sites := [⟨1, some true⟩]
  customers := []

/-- Three cycles, each with an item of the product. -/
def threeAllocations (i : Fin 3) : AllocationCall where
  siteId := 1
  productId := 5
  inventoryItemId := 20 + i
  allocationId := 30 + i

/-- One cycle after the other: two of them fill the line item, the third one finds it full. -/
theorem lines_not_overfilled_serial :
    ∃ y : System OrderDatabase OrderWrite Unit OrderResult (Fin 3),
    (∀ i, (y.sessions i).phase = .committed) ∧ ∀ li ∈ y.committed.lineItems.rows,
      (li.goodQuantity = 2 ∧ li.status = .completed) ∧
      ∃ li₀ ∈ autoCompletedOrder.lineItems.rows, li₀.id = li.id ∧
        li.goodQuantity ≤ max li.targetQuantity li₀.goodQuantity ∧
        (0 ≤ li₀.completedQuantity →
          li₀.status = li₀.expectedStatus ∨ li₀.completedQuantity ≠ li.completedQuantity →
          li.status = li.expectedStatus) := by
  have hrun : (execute (step orderStore) (RunWhen orderStore LinesTakeItems)
      (List.replicate 9 (Move.run 0) ++ List.replicate 9 (Move.run 1) ++
        List.replicate 4 (Move.run 2))
      (.start autoCompletedOrder fun i ↦ (threeAllocations i).program)).any (fun y ↦
        decide ((∀ i, (y.sessions i).phase = .committed) ∧ ∀ li ∈ y.committed.lineItems.rows,
          li.goodQuantity = 2 ∧ li.status = .completed)) = true := by
    decide +kernel
  obtain ⟨y, hy, hfacts⟩ := (Option.any_eq_true _ _).mp hrun
  obtain ⟨hphases, hlines⟩ := of_decide_eq_true hfacts
  exact ⟨y, hphases, fun li hli ↦
    ⟨hlines li hli, lines_not_overfilled (run_of_execute hy) li hli⟩⟩

/-- **Three items for a line of two.** All three cycles read the line item before the first of them
has updated it. The line item ends with three good items, where it had none and the target is two,
and with the status that the first item has given it. -/
theorem not_lines_not_overfilled :
    ∃ y : System OrderDatabase OrderWrite Unit OrderResult (Fin 3),
      Run (step orderStore) (fun _ _ ↦ True)
        (.start autoCompletedOrder fun i ↦ (threeAllocations i).program)
        (List.replicate 3 (.run 0) ++ List.replicate 3 (.run 1) ++ List.replicate 3 (.run 2) ++
          List.replicate 6 (.run 0) ++ List.replicate 7 (.run 1) ++ List.replicate 7 (.run 2)) y ∧
      (∀ i, (y.sessions i).phase = .committed) ∧
      (∀ li ∈ autoCompletedOrder.lineItems.rows, li.goodQuantity = 0) ∧
      ∃ li ∈ y.committed.lineItems.rows, li.targetQuantity = 2 ∧ li.goodQuantity = 3 ∧
        li.status = .inProgress ∧ li.expectedStatus = .completed := by
  have hrun : (execute (step orderStore) (fun _ _ ↦ True)
      (List.replicate 3 (Move.run 0) ++ List.replicate 3 (Move.run 1) ++
        List.replicate 3 (Move.run 2) ++ List.replicate 6 (Move.run 0) ++
        List.replicate 7 (Move.run 1) ++ List.replicate 7 (Move.run 2))
      (.start autoCompletedOrder fun i ↦ (threeAllocations i).program)).any (fun y ↦
        decide ((∀ i, (y.sessions i).phase = .committed) ∧
          (∀ li ∈ autoCompletedOrder.lineItems.rows, li.goodQuantity = 0) ∧
          ∃ li ∈ y.committed.lineItems.rows, li.targetQuantity = 2 ∧ li.goodQuantity = 3 ∧
            li.status = .inProgress ∧ li.expectedStatus = .completed)) = true := by
    decide +kernel
  obtain ⟨y, hy, hfacts⟩ := (Option.any_eq_true _ _).mp hrun
  exact ⟨y, run_of_execute hy, of_decide_eq_true hfacts⟩

end RwServer
