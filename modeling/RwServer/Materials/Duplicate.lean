import Mathlib
import RwServer.Foundation.JsValue
import RwServer.Materials.AltGroups

/-!
# Duplicating a product

`duplicate` makes a new product with the blob, the material assignments and the pictures of another
one. Of an assignment it copies the material and the weight, but not the marks that keep it out of a
cycle: that it is archived, or an alternative that is not the active one of its group. So the copy
consumes every assignment to a live material (`consumption_copyOf`), and the product it was made of
those that contribute (`consumption_eq`): the two are the same when all contribute, and only then
(`duplicate_consumption_iff`).
-/

namespace RwServer

open scoped List

/-! ## Rows -/

/-- A row of `ProductBlob`. -/
structure ProductBlob where
  id : Uuid
  productId : Uuid
  version : ℕ
  sku : String
  name : Option String
  description : Option String
  externalSku : Option String
  weight : Option ℚ
  weightUnits : Option WeightUnit
  itemCost : Option ℚ
  attrs : JsValue
deriving DecidableEq

/-- A row of `ProductPicture`. -/
structure ProductPicture where
  id : Uuid
  productId : Uuid
  key : String
  filename : String
  contentType : String
  size : ℤ
  isPrimary : Bool
deriving DecidableEq, Repr

/-- Products and what they are made of. -/
structure Catalog extends MaterialDatabase where
  products : List CatalogItem
  productBlobs : List ProductBlob
  pictures : List ProductPicture
  /-- `currentBlobId` of a material. -/
  materialBlobId : Uuid → Option Uuid
  /-- A blob of an assignment is made from a blob of its material. -/
  ownBlob : ∀ pm ∈ productMaterials, ∀ blob ∈ pm.currentBlob, blob.materialId = pm.materialId

structure DuplicateProductInput where
  id : Uuid
  sku : String
  name : Option String
deriving DecidableEq, Repr

/-- The identifiers that the database makes; those of copies by the row that is copied. -/
structure DuplicateIds where
  productId : Uuid
  blobId : Uuid
  productMaterialId : Uuid → Uuid
  productMaterialBlobId : Uuid → Uuid
  pictureId : Uuid → Uuid

inductive DuplicateReply
  | data (productId : Uuid)
  | refused (e : ServiceError)
deriving DecidableEq, Repr

/-! ## The copy -/

/-- `source.name || source.sku`. -/
def ProductBlob.title (blob : ProductBlob) : String :=
  match blob.name with
  | some name => if name = "" then blob.sku else name
  | none => blob.sku

/-- The first blob of the copy. -/
def ProductBlob.copy (new : DuplicateIds) (input : DuplicateProductInput) (blob : ProductBlob) :
    ProductBlob :=
  { blob with
    id := new.blobId
    productId := new.productId
    version := 1
    sku := input.sku
    name := some (input.name.getD ("Copy of " ++ blob.title)) }

/-- A copied assignment, with its first blob. -/
def ProductMaterial.copy (new : DuplicateIds) (pm : ProductMaterial) : ProductMaterial where
  id := new.productMaterialId pm.id
  productId := new.productId
  materialId := pm.materialId
  altGroupId := none
  archivedAt := none
  currentBlob := some
    { id := new.productMaterialBlobId pm.id
      weight := pm.currentBlob.bind ProductMaterialBlob.weight
      weightUnits := pm.currentBlob.bind ProductMaterialBlob.weightUnits
      materialId := pm.materialId }

def ProductPicture.copy (new : DuplicateIds) (picture : ProductPicture) : ProductPicture :=
  { picture with id := new.pictureId picture.id, productId := new.productId }

namespace Catalog

variable (db : Catalog)

/-- The assignments of a product. -/
def materialsOf (productId : Uuid) : List ProductMaterial :=
  db.productMaterials.filter fun pm ↦ decide (pm.productId = productId)

/-- What the transaction writes. -/
def copyOf (source : CatalogItem) (sourceBlob : ProductBlob) (input : DuplicateProductInput)
    (new : DuplicateIds) : Catalog :=
  { db with
    products := db.products ++ [⟨new.productId, source.siteId, none, some new.blobId⟩]
    productBlobs := db.productBlobs ++ [sourceBlob.copy new input]
    productMaterials :=
      db.productMaterials ++ (db.materialsOf source.id).map (ProductMaterial.copy new)
    pictures := db.pictures ++ (db.pictures.filter fun picture ↦
      decide (picture.productId = source.id)).map (ProductPicture.copy new)
    ownBlob := fun pm hpm blob hblob ↦ by
      rcases List.mem_append.mp hpm with hpm | hpm
      · exact db.ownBlob pm hpm blob hblob
      · obtain ⟨pm, -, rfl⟩ := List.mem_map.mp hpm
        rw [Option.mem_def, ProductMaterial.copy, Option.some_inj] at hblob
        rw [← hblob]
        rfl }

def duplicate (input : DuplicateProductInput) (new : DuplicateIds) : DuplicateReply × Catalog :=
  match db.products.find? (·.id == input.id) with
  | none => (.refused ⟨"Product not found", "PRODUCT_NOT_FOUND"⟩, db)
  | some source =>
    if source.deletedAt.isSome then
      (.refused ⟨"Cannot duplicate a deleted product", "PRODUCT_DELETED"⟩, db)
    else match source.currentBlobId.bind fun id ↦ db.productBlobs.find? (·.id == id) with
    | none => (.refused ⟨"Product has no current blob", "NO_CURRENT_BLOB"⟩, db)
    | some sourceBlob =>
      if (db.materialsOf source.id).any fun pm ↦ (db.materialBlobId pm.materialId).isNone then
        (.refused ⟨"Material has no current blob", "NO_CURRENT_BLOB"⟩, db)
      else (.data new.productId, db.copyOf source sourceBlob input new)

end Catalog

/-! ## What an item consumes -/

/-- What one item of a product consumes of a material. -/
structure Consumption where
  materialId : Uuid
  weight : Option ℚ
  weightUnits : Option WeightUnit
deriving DecidableEq

/-- What `createFromCycle` lists for an item. -/
def MaterialDatabase.consumption (db : MaterialDatabase) (productId : Uuid) : List Consumption :=
  (db.materialBlobs productId).map fun blob ↦ ⟨blob.materialId, blob.weight, blob.weightUnits⟩

/-- What of it has a weight, and so is booked. -/
def MaterialDatabase.weighedConsumption (db : MaterialDatabase) (productId : Uuid) :
    List Consumption :=
  (db.consumption productId).filter fun x ↦ x.weight.isSome

namespace Catalog

variable (db : Catalog)

/-- The material is neither archived nor deleted. -/
def isLiveMaterial (id : Uuid) : Bool :=
  (db.material id).any fun m ↦ m.archivedAt.isNone && m.deletedAt.isNone

/-- The assignments of a product to live materials. -/
def liveMaterialsOf (productId : Uuid) : List ProductMaterial :=
  (db.materialsOf productId).filter fun pm ↦ db.isLiveMaterial pm.materialId

/-- The assignment is not archived, has a blob, and is in no group or the active one of its group. -/
def contributes (pm : ProductMaterial) : Bool :=
  pm.archivedAt.isNone && db.isPicked pm && pm.currentBlob.isSome

end Catalog

/-- What an assignment consumes if it contributes. -/
def ProductMaterial.consumption (pm : ProductMaterial) : Consumption :=
  ⟨pm.materialId, pm.currentBlob.bind ProductMaterialBlob.weight,
    pm.currentBlob.bind ProductMaterialBlob.weightUnits⟩

namespace Catalog

variable {db : Catalog} {source : CatalogItem} {sourceBlob : ProductBlob}
  {input : DuplicateProductInput} {new : DuplicateIds}

/-- **A product consumes the assignments that contribute.** -/
theorem consumption_eq (db : Catalog) (productId : Uuid) : db.consumption productId
    = ((db.liveMaterialsOf productId).filter db.contributes).map ProductMaterial.consumption := by
  rw [MaterialDatabase.consumption, MaterialDatabase.materialBlobs, liveMaterialsOf, materialsOf,
    List.filter_filter, List.filter_filter, ← List.filterMap_eq_map, List.filterMap_filterMap,
    ← List.filterMap_eq_map, List.filterMap_filter]
  refine List.filterMap_congr fun pm hpm ↦ ?_
  have hconsumption : pm.currentBlob.map (fun blob ↦ (⟨blob.materialId, blob.weight,
      blob.weightUnits⟩ : Consumption))
      = if pm.currentBlob.isSome then some pm.consumption else none := by
    rw [ProductMaterial.consumption]
    cases hblob : pm.currentBlob with
    | none => rfl
    | some blob =>
      rw [Option.map_some, db.ownBlob pm hpm blob hblob]
      rfl
  have hcond : (pm.productId = productId ∧ pm.archivedAt = none ∧
      db.isLiveMaterial pm.materialId = true ∧ db.isPicked pm = true) ∧
      pm.currentBlob.isSome = true ↔
      (db.contributes pm && db.isLiveMaterial pm.materialId && decide (pm.productId = productId))
        = true := by
    rw [contributes]
    simp only [Bool.and_eq_true, Option.isNone_iff_eq_none, decide_eq_true_eq]
    tauto
  change (if pm.productId = productId ∧ pm.archivedAt = none ∧
    db.isLiveMaterial pm.materialId = true ∧ db.isPicked pm = true then pm.currentBlob
    else none).bind _ = _
  split
  · rename_i hlisted
    rw [← Option.map_eq_bind, hconsumption]
    refine if_congr ⟨fun hblob ↦ hcond.mp ⟨hlisted, hblob⟩, fun h ↦ (hcond.mpr h).2⟩ rfl rfl
  · rename_i hnot
    exact (if_neg fun h ↦ hnot (hcond.mpr h).1).symm

/-- **The copy consumes all assignments to live materials.** -/
theorem consumption_copyOf (hnew : ∀ pm ∈ db.productMaterials, pm.productId ≠ new.productId) :
    (db.copyOf source sourceBlob input new).consumption new.productId
      = (db.liveMaterialsOf source.id).map ProductMaterial.consumption := by
  have hnone : db.materialsOf new.productId = [] :=
    List.filter_eq_nil_iff.mpr fun pm hpm h ↦ hnew pm hpm (of_decide_eq_true h)
  have hlinks : (db.copyOf source sourceBlob input new).materialsOf new.productId
      = (db.materialsOf source.id).map (ProductMaterial.copy new) := by
    rw [materialsOf, copyOf]
    dsimp only
    rw [List.filter_append]
    refine (congrArg (· ++ _) hnone).trans (List.filter_eq_self.mpr fun pm hpm ↦ ?_)
    obtain ⟨pm, -, rfl⟩ := List.mem_map.mp hpm
    exact decide_eq_true rfl
  have hall : ∀ pm : ProductMaterial, ((db.copyOf source sourceBlob input new).contributes ∘
      ProductMaterial.copy new) pm = true := fun _ ↦ rfl
  rw [consumption_eq, liveMaterialsOf, hlinks, List.filter_map, List.filter_map, List.map_map,
    List.filter_eq_self.mpr fun pm _ ↦ hall pm]
  rfl

/-! ## When the two agree -/

/-- A list with the elements of a part of it. -/
theorem perm_filter_iff {α β : Type*} {l : List α} {p : α → Bool} {f : α → β} {q : β → Bool} :
    (l.map f).filter q ~ ((l.filter p).map f).filter q ↔
      ∀ a ∈ l, q (f a) = true → p a = true := by
  rw [List.filter_map, List.filter_map, List.filter_comm]
  constructor
  · intro hperm a ha hq
    have hlength := hperm.length_eq
    rw [List.length_map, List.length_map] at hlength
    exact List.length_filter_eq_length_iff.mp hlength.symm a (List.mem_filter.mpr ⟨ha, hq⟩)
  · intro hall
    have hsame : (l.filter (q ∘ f)).filter p = l.filter (q ∘ f) :=
      List.filter_eq_self.mpr fun a ha ↦
        hall a (List.mem_filter.mp ha).1 (List.mem_filter.mp ha).2
    rw [hsame]

/-- What a call that succeeds has written. -/
theorem duplicate_eq_data {productId : Uuid} (h : (db.duplicate input new).1 = .data productId) :
    productId = new.productId ∧ ∃ source sourceBlob, source.id = input.id ∧
      (db.duplicate input new).2 = db.copyOf source sourceBlob input new := by
  rw [duplicate] at h ⊢
  cases hsource : db.products.find? (·.id == input.id) with
  | none =>
    rw [hsource] at h
    cases h
  | some source =>
    have hid : source.id = input.id :=
      eq_of_beq (List.find?_some (p := fun r : CatalogItem ↦ r.id == input.id) hsource)
    rw [hsource] at h
    dsimp only at h ⊢
    split at h
    · cases h
    · split at h
      · cases h
      · split at h
        · cases h
        · rename_i hlive _ sourceBlob _ hcurrent
          rw [if_neg hlive, if_neg hcurrent]
          cases h
          exact ⟨rfl, source, sourceBlob, hid, rfl⟩

/-- **When a copy consumes what the product consumes**: when all assignments to live materials
contribute. For what is booked, those that have a weight must. -/
theorem duplicate_consumption_iff
    (hnew : ∀ pm ∈ db.productMaterials, pm.productId ≠ new.productId) {productId : Uuid}
    (hdone : (db.duplicate input new).1 = .data productId) :
    ((db.duplicate input new).2.consumption productId ~ db.consumption input.id ↔
        ∀ pm ∈ db.liveMaterialsOf input.id, db.contributes pm = true) ∧
      ((db.duplicate input new).2.weighedConsumption productId
          ~ db.weighedConsumption input.id ↔
        ∀ pm ∈ db.liveMaterialsOf input.id, pm.consumption.weight.isSome = true →
          db.contributes pm = true) := by
  obtain ⟨rfl, source, sourceBlob, hid, hdb⟩ := duplicate_eq_data hdone
  rw [MaterialDatabase.weighedConsumption, MaterialDatabase.weighedConsumption, hdb,
    consumption_copyOf hnew, consumption_eq, hid]
  refine ⟨?_, perm_filter_iff⟩
  have h := @perm_filter_iff _ _ (db.liveMaterialsOf input.id) db.contributes
    ProductMaterial.consumption fun _ ↦ true
  rw [List.filter_eq_self.mpr fun _ _ ↦ rfl, List.filter_eq_self.mpr fun _ _ ↦ rfl] at h
  rw [h]
  exact ⟨fun hall pm hpm ↦ hall pm hpm rfl, fun hall pm hpm _ ↦ hall pm hpm⟩

end Catalog

/-- A product of two materials, of which the second assignment may be archived. -/
def twoMaterials (archivedAt : Option Time) : Catalog where
  usage := .empty usageSchema
  ledger := .empty ledgerSchema
  materials := [⟨7, some .kg, none, none⟩, ⟨8, some .kg, none, none⟩]
  productMaterials := [⟨11, 5, 7, none, none, some ⟨21, some 2, some .kg, 7⟩⟩,
    ⟨12, 5, 8, none, archivedAt, some ⟨22, some 3, some .kg, 8⟩⟩]
  altGroups := []
  facility := oneShiftFacility 0 1000
  products := [⟨5, 1, none, some 31⟩]
  productBlobs := [⟨31, 5, 1, "A-1", none, none, none, none, none, none, .null⟩]
  pictures := []
  materialBlobId := some
  ownBlob := by simp

def duplicateIds : DuplicateIds := ⟨6, 32, (· + 100), (· + 100), (· + 100)⟩

theorem duplicate_consumption_iff_twoMaterials :
    ((twoMaterials none).duplicate ⟨5, "A-2", none⟩ duplicateIds).2.consumption 6
      ~ (twoMaterials none).consumption 5 :=
  (Catalog.duplicate_consumption_iff (by decide) (by decide)).1.mpr (by decide)

/-- The copy consumes three kilograms of the material that has been taken out of the product. -/
theorem not_duplicate_consumption :
    ((twoMaterials (some 50)).duplicate ⟨5, "A-2", none⟩ duplicateIds).1 = .data 6 ∧
      ⟨8, some 3, some .kg⟩ ∈
        ((twoMaterials (some 50)).duplicate ⟨5, "A-2", none⟩ duplicateIds).2.consumption 6 ∧
      ¬((twoMaterials (some 50)).duplicate ⟨5, "A-2", none⟩ duplicateIds).2.consumption 6
        ~ (twoMaterials (some 50)).consumption 5 := by
  refine ⟨by decide, by decide, fun hperm ↦ ?_⟩
  have hlength := hperm.length_eq
  revert hlength
  decide

end RwServer
