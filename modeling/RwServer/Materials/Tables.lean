import Mathlib
import RwServer.Cycle.Complete
import RwServer.Metrics.Shifts

/-!
# Material ledger and shift usage

The material that cycles use is staged in `MaterialShiftUsage`, one row for each shift, station,
job, product and material; at the end of a shift its rows are flushed to the ledger. The balance of
a material is the sum of its ledger entries less what is staged and not flushed.

Quantities and weights are rational numbers; the scale of the columns and the precision of the
decimals are left aside, and so are the costs, notes and users of a ledger entry.
-/

namespace RwServer

open Relational ReadCommitted

/-! ## Units -/

inductive WeightUnit
  | kg
  | lb
  | g
  | oz
  | mt
  | ton
deriving DecidableEq, Repr

/-- `WEIGHT_TO_GRAMS`. -/
def weightToGrams : WeightUnit → ℚ
  | .g => 1
  | .kg => 1000
  | .mt => 1000000
  | .oz => 28349523125 / 1000000000
  | .lb => 45359237 / 100000
  | .ton => 90718474 / 100

def convertWeight (value : ℚ) (source target : WeightUnit) : ℚ :=
  if source = target then value else value * weightToGrams source / weightToGrams target

theorem weightToGrams_pos (unit : WeightUnit) : 0 < weightToGrams unit := by
  cases unit <;> norm_num [weightToGrams]

@[simp] theorem convertWeight_self (value : ℚ) (unit : WeightUnit) :
    convertWeight value unit unit = value := if_pos rfl

theorem convertWeight_eq (value : ℚ) (source target : WeightUnit) :
    convertWeight value source target = value * weightToGrams source / weightToGrams target := by
  rw [convertWeight]
  split
  · rename_i h
    rw [h, mul_div_assoc, div_self (weightToGrams_pos target).ne', mul_one]
  · rfl

@[simp] theorem convertWeight_zero (source target : WeightUnit) :
    convertWeight 0 source target = 0 := by
  rw [convertWeight_eq, zero_mul, zero_div]

theorem weightToGrams_injective : Function.Injective weightToGrams := by
  intro a b h
  cases a <;> cases b <;> first | rfl | (exfalso; norm_num [weightToGrams] at h)

/-- A weight has the same quantity in two units if they are one unit, or there is no weight. -/
theorem convertWeight_eq_iff {value : ℚ} {source a b : WeightUnit} :
    convertWeight value source a = convertWeight value source b ↔ a = b ∨ value = 0 := by
  constructor
  · intro h
    by_cases hvalue : value = 0
    · exact .inr hvalue
    · refine .inl (weightToGrams_injective ?_)
      rw [convertWeight_eq, convertWeight_eq, div_eq_div_iff (weightToGrams_pos a).ne'
        (weightToGrams_pos b).ne'] at h
      exact (mul_left_cancel₀ (mul_ne_zero hvalue (weightToGrams_pos source).ne') h).symm
  · rintro (rfl | rfl)
    · rfl
    · rw [convertWeight_zero, convertWeight_zero]

/-! ## Rows -/

/-- The columns of the unique index of `MaterialShiftUsage`. -/
structure UsageScope where
  shiftInstanceId : Uuid
  stationId : Uuid
  jobId : Uuid
  productId : Uuid
  materialId : Uuid
deriving DecidableEq, Repr

/-- A row of `MaterialShiftUsage`. -/
structure MaterialShiftUsage where
  id : Uuid
  siteId : Uuid
  scope : UsageScope
  /-- What was consumed: positive. -/
  quantity : ℚ
  unit : WeightUnit
  itemCount : ℤ
  flushedAt : Option Time
  flushedLedgerEntryId : Option Uuid
deriving DecidableEq

inductive MaterialLedgerKind
  | receipt
  | adjustment
  | writeOff
  | transferIn
  | transferOut
  | openingBalance
  | production
deriving DecidableEq, Repr

/-- A row of `MaterialLedgerEntry`. -/
structure MaterialLedgerEntry where
  id : Uuid
  siteId : Uuid
  materialId : Uuid
  kind : MaterialLedgerKind
  quantity : ℚ
  unit : WeightUnit
  createdAt : Time
deriving DecidableEq

/-- A row of `ProductMaterialBlob`, joined with the material of its `MaterialBlob`. -/
structure ProductMaterialBlob where
  id : Uuid
  weight : Option ℚ
  weightUnits : Option WeightUnit
  materialId : Uuid
deriving DecidableEq

/-- A row of `ProductMaterial`, joined with its current blob. -/
structure ProductMaterial where
  id : Uuid
  productId : Uuid
  materialId : Uuid
  altGroupId : Option Uuid
  archivedAt : Option Time
  currentBlob : Option ProductMaterialBlob
deriving DecidableEq

/-- A row of `ProductMaterialAltGroup`. -/
structure ProductMaterialAltGroup where
  id : Uuid
  activeProductMaterialId : Option Uuid
deriving DecidableEq, Repr

/-- A row of `Material`, joined with the `weightUnits` of its current blob. -/
structure Material where
  id : Uuid
  weightUnits : Option WeightUnit
  archivedAt : Option Time
  deletedAt : Option Time
deriving DecidableEq, Repr

/-! ## The database -/

def usageSchema : Schema MaterialShiftUsage Uuid where
  key := MaterialShiftUsage.id
  clash a b := a.scope == b.scope
  clash_symm a b := Bool.eq_iff_iff.mpr <| by
    rw [beq_iff_eq, beq_iff_eq, eq_comm]

def ledgerSchema : Schema MaterialLedgerEntry Uuid where
  key := MaterialLedgerEntry.id
  clash _ _ := false
  clash_symm _ _ := rfl

structure MaterialDatabase where
  usage : Table usageSchema
  ledger : Table ledgerSchema
  materials : List Material
  productMaterials : List ProductMaterial
  altGroups : List ProductMaterialAltGroup
  facility : Facility

namespace MaterialShiftUsage

/-- `quantity: { increment: .. }, itemCount: { increment: .. }`. -/
def increment (quantity : ℚ) (itemCount : ℤ) (r : MaterialShiftUsage) : MaterialShiftUsage :=
  { r with quantity := r.quantity + quantity, itemCount := r.itemCount + itemCount }

def stamp (flushedAt : Time) (ledgerId : Uuid) (r : MaterialShiftUsage) : MaterialShiftUsage :=
  { r with flushedAt := some flushedAt, flushedLedgerEntryId := some ledgerId }

theorem mild_increment (quantity : ℚ) (itemCount : ℤ) :
    Table.Mild usageSchema (increment quantity itemCount) where
  key _ := rfl
  clash _ _ h := h

theorem mild_stamp (flushedAt : Time) (ledgerId : Uuid) :
    Table.Mild usageSchema (stamp flushedAt ledgerId) where
  key _ := rfl
  clash _ _ h := h

end MaterialShiftUsage

/-- A statement that writes. -/
inductive MaterialWrite
  | createUsage (r : MaterialShiftUsage)
  | incrementUsage (id : Uuid) (quantity : ℚ) (itemCount : ℤ)
  /-- The row locks of `SELECT .. FOR UPDATE`. -/
  | lockUsage (ids : List Uuid)
  | stampUsage (ids : List Uuid) (flushedAt : Time) (ledgerId : Uuid)
  | createLedgerEntry (e : MaterialLedgerEntry)
deriving DecidableEq

/-- The rows of `MaterialShiftUsage` that a statement locks. -/
def MaterialWrite.usageIds : MaterialWrite → List Uuid
  | .createUsage r => [r.id]
  | .incrementUsage id _ _ => [id]
  | .lockUsage ids => ids
  | .stampUsage ids _ _ => ids
  | .createLedgerEntry _ => []

/-- Two statements that a unique index forbids together. -/
def MaterialWrite.clash : MaterialWrite → MaterialWrite → Bool
  | .createUsage r, .createUsage r' => r.scope == r'.scope
  | .createLedgerEntry e, .createLedgerEntry e' => e.id == e'.id
  | _, _ => false

/-- Two statements of which the second waits for the first one's transaction. -/
def MaterialWrite.conflict (w w' : MaterialWrite) : Bool :=
  (w.usageIds.any fun id ↦ w'.usageIds.contains id) || w.clash w'

theorem MaterialWrite.clash_comm (w w' : MaterialWrite) : w.clash w' = w'.clash w := by
  cases w <;> cases w' <;> first | rfl | exact BEq.comm

theorem MaterialWrite.conflict_comm (w w' : MaterialWrite) : w.conflict w' = w'.conflict w := by
  have hids : (w.usageIds.any fun id ↦ w'.usageIds.contains id)
      = w'.usageIds.any fun id ↦ w.usageIds.contains id := by
    refine Bool.eq_iff_iff.mpr ?_
    rw [List.any_eq_true, List.any_eq_true]
    constructor <;>
    · rintro ⟨id, hid, hid'⟩
      exact ⟨id, List.contains_iff_mem.mp hid', List.contains_iff_mem.mpr hid⟩
  rw [conflict, conflict, hids, clash_comm]

namespace MaterialDatabase

def setUsage (db : MaterialDatabase) (usage : Table usageSchema) : MaterialDatabase :=
  { db with usage }

def setLedger (db : MaterialDatabase) (ledger : Table ledgerSchema) : MaterialDatabase :=
  { db with ledger }

/-- Carry out a statement. An update by id of a row that is gone is an error. -/
def write (db : MaterialDatabase) : MaterialWrite → Option MaterialDatabase
  | .createUsage r => (db.usage.insert r).map db.setUsage
  | .incrementUsage id quantity itemCount =>
    if (db.usage.find id).isSome then
      some (db.setUsage (db.usage.modify (fun r ↦ decide (r.id = id))
        (MaterialShiftUsage.increment quantity itemCount)
        (MaterialShiftUsage.mild_increment quantity itemCount)))
    else none
  | .lockUsage _ => some db
  | .stampUsage ids flushedAt ledgerId =>
    some (db.setUsage (db.usage.modify (fun r ↦ ids.contains r.id)
      (MaterialShiftUsage.stamp flushedAt ledgerId)
      (MaterialShiftUsage.mild_stamp flushedAt ledgerId)))
  | .createLedgerEntry e => (db.ledger.insert e).map db.setLedger

end MaterialDatabase

/-- The database as a store of transactions. -/
def materialStore : Store MaterialDatabase MaterialWrite :=
  ⟨MaterialDatabase.write, MaterialWrite.conflict⟩

end RwServer
