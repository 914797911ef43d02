import Mathlib
import RwServer.Foundation.Grouping
import RwServer.Materials.Tables

/-!
# Staging, flushing and the balance

`createFromCycle` adds what the items of a cycle consume to the staging rows of the cycle's shift,
in the material's canonical unit; a row that has been flushed is left alone. `flushShiftUsage` sums
the rows of a shift into ledger entries, one for each site, material and unit, and stamps the rows.
Both are programs, statement by statement.

Each statement changes the balance of a material by an amount that the row it writes gives away
(`onHand_createUsage` and its siblings).
-/

namespace RwServer

open Relational ReadCommitted Grouping

/-- A cycle that is being stored, with the items that `createFromCycle` lists for it. -/
structure CycleClose where
  siteId : Uuid
  stationId : Uuid
  jobId : Uuid
  /-- `COALESCE("end", "start")`. -/
  time : Time
  items : List ItemSpec
deriving DecidableEq, Repr

/-! ## What a cycle consumes -/

namespace MaterialDatabase

variable (db : MaterialDatabase)

def material (id : Uuid) : Option Material := db.materials.find? (·.id == id)

/-- The assignment is the pick of its group, or in none. -/
def isPicked (pm : ProductMaterial) : Bool :=
  match pm.altGroupId with
  | none => true
  | some groupId => ((db.altGroups.find? (·.id == groupId)).bind
      ProductMaterialAltGroup.activeProductMaterialId) == some pm.id

/-- `materialBlobIds`. -/
def materialBlobs (productId : Uuid) : List ProductMaterialBlob :=
  db.productMaterials.filterMap fun pm ↦
    let isLive := (db.material pm.materialId).any fun m ↦ m.archivedAt.isNone && m.deletedAt.isNone
    if pm.productId = productId ∧ pm.archivedAt = none ∧ isLive ∧ db.isPicked pm then pm.currentBlob
    else none

/-- `cycle_shift`: a shift of the workcenter before one of the site, and a later one before an
earlier one. -/
def cycleShift (c : CycleClose) : Option Uuid :=
  let workcenterId := (db.facility.station c.stationId).bind MeteredStation.workcenterId
  let candidates := db.facility.shiftInstances.filter fun i ↦
    i.siteId == c.siteId && i.isAt c.time &&
      (i.workCenterId.isNone || (workcenterId.isSome && i.workCenterId == workcenterId))
  (candidates.foldl (fun best i ↦ match best with
    | none => some i
    | some b =>
      if (b.workCenterId.isNone && i.workCenterId.isSome) ||
          (b.workCenterId.isSome == i.workCenterId.isSome && decide (b.startTime < i.startTime))
      then some i else some b) none).map ShiftInstance.id

end MaterialDatabase

/-- One item and one of the materials it is made of. -/
structure ItemMaterial where
  item : ℕ
  productId : Uuid
  materialId : Uuid
  weight : ℚ
  pmUnit : Option WeightUnit
  materialUnit : Option WeightUnit
deriving DecidableEq

/-- The columns that the usage is grouped by, besides those of the cycle. -/
structure UsageKey where
  productId : Uuid
  materialId : Uuid
  pmUnit : Option WeightUnit
  materialUnit : Option WeightUnit
deriving DecidableEq

def ItemMaterial.key (x : ItemMaterial) : UsageKey :=
  ⟨x.productId, x.materialId, x.pmUnit, x.materialUnit⟩

structure UsageRow where
  siteId : Uuid
  shiftInstanceId : Uuid
  stationId : Uuid
  productId : Uuid
  materialId : Uuid
  qty : ℚ
  itemCount : ℤ
  /-- The unit on the product material. -/
  pmUnit : Option WeightUnit
  /-- The canonical unit of the material. -/
  materialUnit : Option WeightUnit
deriving DecidableEq

def UsageRow.scope (w : UsageRow) (jobId : Uuid) : UsageScope :=
  ⟨w.shiftInstanceId, w.stationId, jobId, w.productId, w.materialId⟩

/-- `qtyDelta`, for a canonical unit. -/
def UsageRow.qtyDelta (w : UsageRow) (canonicalUnit : WeightUnit) : ℚ :=
  convertWeight w.qty (w.pmUnit.getD canonicalUnit) canonicalUnit

/-- What is consumed of the material of the row, in its canonical unit. -/
def UsageRow.consumption (w : UsageRow) : ℚ := (w.materialUnit.map w.qtyDelta).getD 0

namespace MaterialDatabase

variable (db : MaterialDatabase)

def itemMaterials (c : CycleClose) : List ItemMaterial :=
  c.items.zipIdx.flatMap fun x ↦ (db.materialBlobs x.1.productId).filterMap fun blob ↦
    match blob.weight, db.material blob.materialId with
    | some weight, some m =>
      some ⟨x.2, x.1.productId, blob.materialId, weight, blob.weightUnits, m.weightUnits⟩
    | _, _ => none

/-- The query `want`: nothing where the cycle has no shift. -/
def want (c : CycleClose) : List UsageRow :=
  match db.cycleShift c with
  | none => []
  | some shiftInstanceId => (groupBy ItemMaterial.key (db.itemMaterials c)).map fun g ↦
    { siteId := c.siteId
      shiftInstanceId
      stationId := c.stationId
      productId := g.1.productId
      materialId := g.1.materialId
      qty := (g.2.map ItemMaterial.weight).sum
      itemCount := (g.2.map ItemMaterial.item).dedup.length
      pmUnit := g.1.pmUnit
      materialUnit := g.1.materialUnit }

/-- The row under a scope. -/
def findScope (scope : UsageScope) : Option MaterialShiftUsage :=
  db.usage.rows.find? fun r ↦ decide (r.scope = scope)

end MaterialDatabase

/-! ## Transactions -/

/-- What has been added to a staging row: a weight in its unit, and the quantity it was taken
for. -/
structure Booking where
  usageId : Uuid
  materialId : Uuid
  weight : ℚ
  unit : WeightUnit
  quantity : ℚ
deriving DecidableEq

structure FlushResult where
  shiftInstanceId : Uuid
  flushedRows : ℕ
  alreadyFlushed : ℕ
deriving DecidableEq, Repr

inductive MaterialResult
  | booked (bookings : List Booking)
  | flushed (result : FlushResult)
deriving DecidableEq

abbrev MaterialTx := Program MaterialDatabase MaterialWrite Unit MaterialResult

/-- The row that `create` stores. -/
def UsageRow.newUsage (w : UsageRow) (jobId id : Uuid) (canonicalUnit : WeightUnit) :
    MaterialShiftUsage where
  id := id
  siteId := w.siteId
  scope := w.scope jobId
  quantity := w.qtyDelta canonicalUnit
  unit := canonicalUnit
  itemCount := w.itemCount
  flushedAt := none
  flushedLedgerEntryId := none

/-- The booking on a row. -/
def UsageRow.booking (w : UsageRow) (usageId : Uuid) (canonicalUnit : WeightUnit) : Booking :=
  ⟨usageId, w.materialId, w.qty, w.pmUnit.getD canonicalUnit, w.qtyDelta canonicalUnit⟩

/-- The loop over `want`. -/
def bookUsage (jobId : Uuid) (newId : UsageScope → Uuid) :
    List UsageRow → List Booking → MaterialTx
  | [], booked => .commit (.booked booked)
  | w :: rest, booked =>
    match w.materialUnit with
    -- without a canonical unit the usage is discarded
    | none => bookUsage jobId newId rest booked
    | some canonicalUnit => .read (fun db ↦ db.findScope (w.scope jobId)) fun
      | some existing =>
        -- a flushed row is a frozen audit record
        if existing.flushedAt.isSome then bookUsage jobId newId rest booked
        else .exec (fun _ ↦ [.incrementUsage existing.id (w.qtyDelta canonicalUnit) w.itemCount])
          (bookUsage jobId newId rest (booked ++ [w.booking existing.id canonicalUnit]))
      | none =>
        let usage := w.newUsage jobId (newId (w.scope jobId)) canonicalUnit
        .exec (fun _ ↦ [.createUsage usage])
          (bookUsage jobId newId rest (booked ++ [w.booking usage.id canonicalUnit]))

/-- The material use of `createFromCycle`; `newId` draws the ids of new rows. -/
def bookCycle (c : CycleClose) (newId : UsageScope → Uuid) : MaterialTx :=
  .read (fun db ↦ db.want c) fun want ↦ bookUsage c.jobId newId want []

/-- The columns that a flush groups by. -/
structure FlushKey where
  siteId : Uuid
  materialId : Uuid
  unit : WeightUnit
deriving DecidableEq, Repr

/-- `groupKey`. -/
def MaterialShiftUsage.groupKey (r : MaterialShiftUsage) : FlushKey :=
  ⟨r.siteId, r.scope.materialId, r.unit⟩

/-- `"shiftInstanceId" = .. AND "flushedAt" IS NULL`. -/
def MaterialShiftUsage.isUnflushedIn (shiftInstanceId : Uuid) (r : MaterialShiftUsage) : Bool :=
  r.scope.shiftInstanceId == shiftInstanceId && r.flushedAt.isNone

/-- The ledger entry of a group. -/
def productionEntry (now : Time) (ledgerId : FlushKey → Uuid)
    (g : FlushKey × List MaterialShiftUsage) : MaterialLedgerEntry where
  id := ledgerId g.1
  siteId := g.1.siteId
  materialId := g.1.materialId
  kind := .production
  quantity := -(g.2.map MaterialShiftUsage.quantity).sum
  unit := g.1.unit
  createdAt := now

/-- The loop over the groups. -/
def flushGroups (now : Time) (ledgerId : FlushKey → Uuid) (result : FlushResult) :
    List (FlushKey × List MaterialShiftUsage) → MaterialTx
  | [] => .commit (.flushed result)
  | g :: gs => .exec (fun _ ↦ [.createLedgerEntry (productionEntry now ledgerId g)]) <|
    .exec (fun _ ↦ [.stampUsage (g.2.map MaterialShiftUsage.id) now (ledgerId g.1)]) <|
    flushGroups now ledgerId result gs

/-- `flushShiftUsageInTx`; `ledgerId` draws the ids of the entries. The rows are found in the
snapshot of the first statement, which those committed while it waits for row locks are not in
(`inSnapshot`). -/
def flushShiftUsageInTx (shiftInstanceId : Uuid) (now : Time) (ledgerId : FlushKey → Uuid)
    (inSnapshot : Uuid → Bool) : MaterialTx :=
  let rows (db : MaterialDatabase) := db.usage.rows.filter fun r ↦
    r.isUnflushedIn shiftInstanceId && inSnapshot r.id
  .run (fun db ↦ [.lockUsage ((rows db).map MaterialShiftUsage.id)]) fun db ↦
  .read (fun db ↦ (db.usage.rows.filter fun r ↦
    r.scope.shiftInstanceId == shiftInstanceId && r.flushedAt.isSome).length) fun alreadyFlushed ↦
  flushGroups now ledgerId ⟨shiftInstanceId, (rows db).length, alreadyFlushed⟩
    (groupBy MaterialShiftUsage.groupKey (rows db))

/-! ## The balance -/

structure MaterialBalance where
  materialId : Uuid
  unit : Option WeightUnit
  received : ℚ
  adjusted : ℚ
  consumed : ℚ
  balance : ℚ
  asOf : Option Time
deriving DecidableEq

/-- The ledger entries of a material of some kinds, summed. -/
def MaterialDatabase.ledgerSum (db : MaterialDatabase) (materialId : Uuid) (asOf : Option Time)
    (kinds : List MaterialLedgerKind) : ℚ :=
  ((db.ledger.rows.filter fun e ↦ decide (e.materialId = materialId) &&
    asOf.all (fun t ↦ decide (e.createdAt ≤ t)) && kinds.contains e.kind).map
      MaterialLedgerEntry.quantity).sum

/-- `pending`: what is staged of a material and not flushed. -/
def MaterialDatabase.pending (db : MaterialDatabase) (materialId : Uuid) : ℚ :=
  ((db.usage.rows.filter fun r ↦ decide (r.scope.materialId = materialId) &&
    r.flushedAt.isNone).map MaterialShiftUsage.quantity).sum

def balance (db : MaterialDatabase) (materialId : Uuid) (asOf : Option Time) : MaterialBalance :=
  let received := db.ledgerSum materialId asOf [.receipt, .transferIn, .openingBalance]
  let adjusted := db.ledgerSum materialId asOf [.adjustment]
  let consumedSigned := db.ledgerSum materialId asOf [.writeOff, .transferOut, .production]
  { materialId
    unit := (db.material materialId).bind Material.weightUnits
    received
    adjusted
    consumed := -consumedSigned + db.pending materialId
    balance := received + adjusted + consumedSigned - db.pending materialId
    asOf }

/-- The balance of today. -/
def onHand (db : MaterialDatabase) (materialId : Uuid) : ℚ := (balance db materialId none).balance

/-- What a ledger entry adds to the balance of a material. -/
def MaterialLedgerEntry.amount (materialId : Uuid) (asOf : Option Time) (e : MaterialLedgerEntry) :
    ℚ :=
  if e.materialId = materialId ∧ asOf.all (fun t ↦ decide (e.createdAt ≤ t)) then e.quantity else 0

/-- What a staging row takes from the balance of a material. -/
def MaterialShiftUsage.staged (materialId : Uuid) (r : MaterialShiftUsage) : ℚ :=
  if r.scope.materialId = materialId ∧ r.flushedAt = none then r.quantity else 0

private theorem ledgerSum_eq (db : MaterialDatabase) (materialId : Uuid) (asOf : Option Time)
    (kinds : List MaterialLedgerKind) : db.ledgerSum materialId asOf kinds
      = (db.ledger.rows.map fun e ↦
        if e.kind ∈ kinds then e.amount materialId asOf else 0).sum := by
  rw [MaterialDatabase.ledgerSum, Table.sum_filter]
  congr 1
  refine List.map_congr_left fun e _ ↦ ?_
  rw [MaterialLedgerEntry.amount, ← ite_and]
  simp only [Bool.and_eq_true, decide_eq_true_eq, List.contains_iff_mem, and_comm]

private theorem pending_eq (db : MaterialDatabase) (materialId : Uuid) : db.pending materialId
    = (db.usage.rows.map (MaterialShiftUsage.staged materialId)).sum := by
  rw [MaterialDatabase.pending, Table.sum_filter]
  congr 1
  refine List.map_congr_left fun r _ ↦ ?_
  rw [MaterialShiftUsage.staged]
  simp only [Bool.and_eq_true, decide_eq_true_eq, Option.isNone_iff_eq_none]

/-- **The balance is the ledger less what is staged.** -/
theorem balance_eq (db : MaterialDatabase) (materialId : Uuid) (asOf : Option Time) :
    (balance db materialId asOf).balance
      = (db.ledger.rows.map (MaterialLedgerEntry.amount materialId asOf)).sum
        - (db.usage.rows.map (MaterialShiftUsage.staged materialId)).sum := by
  have hkinds : MaterialLedgerEntry.amount materialId asOf = fun e ↦
      (if e.kind ∈ [MaterialLedgerKind.receipt, .transferIn, .openingBalance] then
        e.amount materialId asOf else 0)
      + (if e.kind ∈ [MaterialLedgerKind.adjustment] then e.amount materialId asOf else 0)
      + (if e.kind ∈ [MaterialLedgerKind.writeOff, .transferOut, .production] then
        e.amount materialId asOf else 0) := by
    -- every kind is in one of the three lists
    funext e
    cases hkind : e.kind <;> simp
  rw [hkinds, List.sum_map_add, List.sum_map_add, ← ledgerSum_eq, ← ledgerSum_eq, ← ledgerSum_eq,
    ← pending_eq]
  rfl

theorem onHand_eq (db : MaterialDatabase) (materialId : Uuid) : onHand db materialId
    = (db.ledger.rows.map (MaterialLedgerEntry.amount materialId none)).sum
      - (db.usage.rows.map (MaterialShiftUsage.staged materialId)).sum :=
  balance_eq db materialId none

/-! ## Statements and the balance -/

section

variable {db db' : MaterialDatabase} {r : MaterialShiftUsage} {m : Uuid}

theorem onHand_createUsage (h : db.write (.createUsage r) = some db') :
    onHand db' m = onHand db m - r.staged m := by
  obtain ⟨usage, husage, rfl⟩ := Option.map_eq_some_iff.mp h
  rw [onHand_eq, onHand_eq, MaterialDatabase.setUsage, Table.sum_insert husage]
  ring

/-- An increment counts as long as the row is not flushed. -/
theorem onHand_incrementUsage {id : Uuid} {quantity : ℚ} {itemCount : ℤ}
    (h : db.write (.incrementUsage id quantity itemCount) = some db')
    (hr : db.usage.find id = some r) : onHand db' m
      = onHand db m - if r.scope.materialId = m ∧ r.flushedAt = none then quantity else 0 := by
  rw [MaterialDatabase.write, hr, if_pos Option.isSome_some] at h
  cases h
  have hone : db.usage.rows.filter (fun r ↦ decide (r.id = id)) = [r] := Table.filter_key hr
  rw [onHand_eq, onHand_eq, MaterialDatabase.setUsage, Table.sum_modify, hone, List.map_singleton,
    List.sum_singleton, MaterialShiftUsage.staged, MaterialShiftUsage.staged,
    MaterialShiftUsage.increment]
  dsimp only
  split
  · ring
  · ring

end

end RwServer
