import Mathlib
import RwServer.Foundation.Run
import RwServer.Materials.Usage
import RwServer.Orders.Operations

/-!
# Alternate groups

The materials a product is made of may be alternatives: an alternate group has several materials of
its product as options, and names one of them as the active one. A cycle consumes a material that
is in no group, or is the active one of its group (`MaterialDatabase.isPicked`); so a group without
an active option would consume nothing, and the pointer of a group must never be to a material that
has left it.

The operations read and check first, and then write in one transaction; a transaction with a
statement that fails is rolled back.
-/

namespace RwServer

open Relational Transition

/-- A row of `ProductMaterialAltGroup`, with its product. -/
structure ProductAltGroup extends ProductMaterialAltGroup where
  productId : Uuid
deriving DecidableEq, Repr

/-- What the operations read of a product or a material. -/
structure CatalogItem where
  id : Uuid
  siteId : Uuid
  deletedAt : Option Time
  currentBlobId : Option Uuid
deriving DecidableEq

def productMaterialSchema : Schema ProductMaterial Uuid where
  key := ProductMaterial.id
  clash a b := a.productId == b.productId && a.materialId == b.materialId
  clash_symm a b := Bool.eq_iff_iff.mpr <| by
    simp only [Bool.and_eq_true, beq_iff_eq]
    exact and_congr eq_comm eq_comm

def altGroupSchema : Schema ProductAltGroup Uuid where
  key g := g.id
  clash a b := a.activeProductMaterialId.isSome &&
    a.activeProductMaterialId == b.activeProductMaterialId
  clash_symm a b := Bool.eq_iff_iff.mpr <| by
    simp only [Bool.and_eq_true, beq_iff_eq]
    constructor
    · rintro ⟨hsome, heq⟩
      exact ⟨heq ▸ hsome, heq.symm⟩
    · rintro ⟨hsome, heq⟩
      exact ⟨heq ▸ hsome, heq.symm⟩

structure ProductDatabase where
  products : List CatalogItem
  materials : List CatalogItem
  links : Table productMaterialSchema
  groups : Table altGroupSchema

/-- What a call answers. -/
inductive ProductReply
  | material (productMaterialId : Uuid)
  | group (altGroupId : Uuid)
  | success
  | detached (productMaterialId altGroupId : Uuid) (groupDeleted : Bool)
      (newActiveProductMaterialId : Option Uuid)
  | deleted (altGroupId : Uuid)
  | refused (e : ServiceError)
  /-- A statement has failed; the transaction is rolled back. -/
  | thrown
deriving DecidableEq, Repr

/-- The call has been rejected. -/
def ProductReply.isRejected : ProductReply → Bool
  | .refused _ => true
  | .thrown => true
  | _ => false

namespace ProductDatabase

variable (db : ProductDatabase)

/-! ## Statements -/

def product (id : Uuid) : Option CatalogItem := db.products.find? (·.id == id)

def material (id : Uuid) : Option CatalogItem := db.materials.find? (·.id == id)

/-- `where: { productId_materialId }`. -/
def linkOf (productId materialId : Uuid) : Option ProductMaterial :=
  db.links.rows.find? fun pm ↦ pm.productId == productId && pm.materialId == materialId

/-- `activeOfAltGroup` of an assignment. -/
def activeOfAltGroup (productMaterialId : Uuid) : Option ProductAltGroup :=
  db.groups.rows.find? fun g ↦ decide (g.activeProductMaterialId = some productMaterialId)

/-- How many other assignments are in a group. -/
def peerCount (altGroupId productMaterialId : Uuid) : ℕ :=
  (db.links.rows.filter fun pm ↦
    decide (pm.altGroupId = some altGroupId ∧ pm.id ≠ productMaterialId)).length

def createLink (pm : ProductMaterial) : Option ProductDatabase :=
  (db.links.insert pm).map fun links ↦ { db with links := links }

def updateLink (id : Uuid) (f : ProductMaterial → ProductMaterial) : Option ProductDatabase :=
  (db.links.update id f).map fun links ↦ { db with links := links }

def createGroup (g : ProductAltGroup) : Option ProductDatabase :=
  (db.groups.insert g).map fun groups ↦ { db with groups := groups }

/-- Set the active option of a group. -/
def setActive (altGroupId : Uuid) (active : Option Uuid) : Option ProductDatabase :=
  (db.groups.update altGroupId fun g ↦ { g with activeProductMaterialId := active }).map
    fun groups ↦ { db with groups := groups }

end ProductDatabase

/-- Take the active option out of a group. -/
def clearActive (g : ProductAltGroup) : ProductAltGroup :=
  { g with activeProductMaterialId := none }

theorem mild_clearActive : Table.Mild altGroupSchema clearActive where
  key _ := rfl
  clash a b h := by simp [altGroupSchema, clearActive] at h

/-- Take an assignment out of its group. -/
def detach (pm : ProductMaterial) : ProductMaterial := { pm with altGroupId := none }

theorem mild_detach : Table.Mild productMaterialSchema detach where
  key _ := rfl
  clash _ _ h := h

namespace ProductDatabase

variable (db : ProductDatabase)

/-- `ON DELETE SET NULL` for the groups whose active option it is. -/
def deleteLink (id : Uuid) : Option ProductDatabase :=
  (db.links.find id).map fun _ ↦
    { db with
      links := db.links.delete fun pm ↦ decide (pm.id = id)
      groups := db.groups.modify (fun g ↦ decide (g.activeProductMaterialId = some id)) clearActive
        mild_clearActive }

/-- `ON DELETE SET NULL` for the assignments in it. -/
def deleteGroup (id : Uuid) : Option ProductDatabase :=
  (db.groups.find id).map fun _ ↦
    { db with
      links := db.links.modify (fun pm ↦ decide (pm.altGroupId = some id)) detach mild_detach
      groups := db.groups.delete fun g ↦ decide (g.id = id) }

/-- `tx.productMaterial.updateMany` of `deleteAltGroup`. -/
def detachAll (altGroupId : Uuid) : Option ProductDatabase :=
  some { db with
    links :=
      db.links.modify (fun pm ↦ decide (pm.altGroupId = some altGroupId)) detach mild_detach }

/-- A new assignment with its first blob. -/
def createLinkWithBlob (pm : ProductMaterial) (blob : ProductMaterialBlob) :
    Option ProductDatabase :=
  (db.createLink pm).bind fun tx ↦ tx.updateLink pm.id fun r ↦ { r with currentBlob := some blob }

/-- Commit what the statements of a transaction have written, or roll back. -/
def transaction (reply : ProductReply) (tx : Option ProductDatabase) :
    ProductReply × ProductDatabase :=
  match tx with
  | some db' => (reply, db')
  | none => (.thrown, db)

/-! ## Operations -/

def refuse (error code : String) : ProductReply × ProductDatabase := (.refused ⟨error, code⟩, db)

structure AddMaterialInput where
  productId : Uuid
  materialId : Uuid
  weight : Option ℚ
  weightUnits : Option WeightUnit

/-- `id` and `blobId` are the identifiers that the database makes. -/
def addMaterial (id blobId : Uuid) (input : AddMaterialInput) : ProductReply × ProductDatabase :=
  match db.product input.productId with
  | none => db.refuse "Product not found" "PRODUCT_NOT_FOUND"
  | some product =>
    if product.deletedAt.isSome then db.refuse "Product has been deleted" "PRODUCT_DELETED"
    else match db.material input.materialId with
    | none => db.refuse "Material not found" "MATERIAL_NOT_FOUND"
    | some material =>
      if material.deletedAt.isSome then db.refuse "Material has been deleted" "MATERIAL_DELETED"
      else if product.siteId ≠ material.siteId then
        db.refuse "Product and material must belong to the same site" "SITE_MISMATCH"
      else if (db.linkOf input.productId input.materialId).isSome then
        db.refuse "Material is already linked to this product" "ALREADY_LINKED"
      else if product.currentBlobId.isNone || material.currentBlobId.isNone then
        db.refuse "Material or product has no current blob" "NO_CURRENT_BLOB"
      else db.transaction (.material id) <|
        db.createLinkWithBlob ⟨id, input.productId, input.materialId, none, none, none⟩
          ⟨blobId, input.weight, input.weightUnits, input.materialId⟩

def createAltGroup (id productMaterialId : Uuid) : ProductReply × ProductDatabase :=
  match db.links.find productMaterialId with
  | none => db.refuse "Product material not found" "PRODUCT_MATERIAL_NOT_FOUND"
  | some pm =>
    if pm.altGroupId.isSome then
      db.refuse "Product material is already in an alternate group" "ALREADY_IN_GROUP"
    else db.transaction (.group id) <|
      (db.createGroup ⟨⟨id, none⟩, pm.productId⟩).bind fun tx ↦
        (tx.updateLink pm.id fun r ↦ { r with altGroupId := some id }).bind fun tx ↦
          tx.setActive id (some pm.id)

def addMaterialToAltGroup (id blobId altGroupId materialId : Uuid) :
    ProductReply × ProductDatabase :=
  match db.groups.find altGroupId with
  | none => db.refuse "Alternate group not found" "ALT_GROUP_NOT_FOUND"
  | some group =>
    match db.product group.productId with
    | none => db.refuse "Alternate group not found" "ALT_GROUP_NOT_FOUND"
    | some product =>
      if product.deletedAt.isSome then db.refuse "Alternate group not found" "ALT_GROUP_NOT_FOUND"
      else match db.material materialId with
      | none => db.refuse "Material not found" "MATERIAL_NOT_FOUND"
      | some material =>
        if material.deletedAt.isSome then db.refuse "Material has been deleted" "MATERIAL_DELETED"
        else if material.siteId ≠ product.siteId then
          db.refuse "Product and material must belong to the same site" "SITE_MISMATCH"
        else match db.linkOf group.productId materialId with
        | some existing =>
          if existing.altGroupId.isSome ∧ existing.altGroupId ≠ some altGroupId then
            db.refuse "Material is already in a different alternate group on this product"
              "IN_OTHER_GROUP"
          else db.transaction (.group altGroupId) <|
            if existing.altGroupId ≠ some altGroupId then
              db.updateLink existing.id fun r ↦ { r with altGroupId := some altGroupId }
            else some db
        | none =>
          if material.currentBlobId.isNone || product.currentBlobId.isNone then
            -- thrown inside the transaction, before its first write, and caught
            db.refuse "Material or product has no current blob" "NO_CURRENT_BLOB"
          else db.transaction (.group altGroupId) <|
            db.createLinkWithBlob
              ⟨id, group.productId, materialId, some altGroupId, none, none⟩
              ⟨blobId, none, none, materialId⟩

def setAltGroupActive (altGroupId productMaterialId : Uuid) : ProductReply × ProductDatabase :=
  match db.groups.find altGroupId with
  | none => db.refuse "Alternate group not found" "ALT_GROUP_NOT_FOUND"
  | some _ =>
    match db.links.find productMaterialId with
    | none => db.refuse "Product material is not a member of this group" "NOT_IN_GROUP"
    | some pm =>
      if pm.altGroupId ≠ some altGroupId then
        db.refuse "Product material is not a member of this group" "NOT_IN_GROUP"
      else db.transaction (.group altGroupId) (db.setActive altGroupId (some productMaterialId))

/-- The check of a replacement that `removeFromAltGroup` and `removeMaterial` make: what is wrong
with the one that is given, or that one has to be given. -/
def replacementError (pm : ProductMaterial) (isActive : Bool) (peers : ℕ)
    (replacement : Option Uuid) : Option ServiceError :=
  match replacement with
  | some r =>
    if r = pm.id then
      some ⟨"Replacement cannot be the material being removed", "REPLACEMENT_IS_SELF"⟩
    else match db.links.find r with
    | none => some ⟨"Replacement product material is not a member of this group",
        "REPLACEMENT_NOT_IN_GROUP"⟩
    | some other =>
      if other.altGroupId ≠ pm.altGroupId then
        some ⟨"Replacement product material is not a member of this group",
          "REPLACEMENT_NOT_IN_GROUP"⟩
      else none
  | none =>
    if pm.altGroupId.isSome && isActive && decide (0 < peers) then
      some ⟨"This is the active material in a multi-member group — choose another to make active first",
        "NEEDS_ACTIVE_SWAP"⟩
    else none

def removeFromAltGroup (productMaterialId : Uuid) (replacement : Option Uuid) :
    ProductReply × ProductDatabase :=
  match db.links.find productMaterialId with
  | none => db.refuse "Product material not found" "PRODUCT_MATERIAL_NOT_FOUND"
  | some pm =>
    match pm.altGroupId with
    | none => db.refuse "Product material is not in an alternate group" "NOT_IN_GROUP"
    | some altGroupId =>
      let isActive := (db.activeOfAltGroup pm.id).isSome
      let peers := db.peerCount altGroupId pm.id
      match db.replacementError pm isActive peers replacement with
      | some e => (.refused e, db)
      | none =>
        let newActive := if isActive && decide (0 < peers) then replacement else none
        db.transaction (.detached pm.id altGroupId (decide (peers = 0)) newActive) <|
          (if isActive then db.setActive altGroupId newActive else some db).bind fun tx ↦
            (tx.updateLink pm.id detach).bind fun tx ↦
              if peers = 0 then tx.deleteGroup altGroupId else some tx

def removeMaterial (productId materialId : Uuid) (replacement : Option Uuid) :
    ProductReply × ProductDatabase :=
  match db.linkOf productId materialId with
  | none => db.refuse "Material is not linked to this product" "NOT_LINKED"
  | some pm =>
    let isActive := (db.activeOfAltGroup pm.id).isSome
    let peers := match pm.altGroupId with
      | some altGroupId => db.peerCount altGroupId pm.id
      | none => 0
    match db.replacementError pm isActive peers replacement with
    | some e => (.refused e, db)
    | none =>
      db.transaction .success <|
        match pm.altGroupId with
        | none => db.deleteLink pm.id
        | some altGroupId =>
          (if isActive && decide (0 < peers) then db.setActive altGroupId replacement
            else some db).bind fun tx ↦
              (tx.deleteLink pm.id).bind fun tx ↦
                if peers = 0 then tx.deleteGroup altGroupId else some tx

def deleteAltGroup (altGroupId : Uuid) : ProductReply × ProductDatabase :=
  match db.groups.find altGroupId with
  | none => db.refuse "Alternate group not found" "ALT_GROUP_NOT_FOUND"
  | some _ => db.transaction (.deleted altGroupId) <|
      (db.setActive altGroupId none).bind fun tx ↦
        (tx.detachAll altGroupId).bind fun tx ↦ tx.deleteGroup altGroupId

end ProductDatabase

/-- A call, with the identifiers the database makes for it. -/
inductive AltGroupCall
  | addMaterial (id blobId : Uuid) (input : ProductDatabase.AddMaterialInput)
  | createAltGroup (id productMaterialId : Uuid)
  | addMaterialToAltGroup (id blobId altGroupId materialId : Uuid)
  | setAltGroupActive (altGroupId productMaterialId : Uuid)
  | removeFromAltGroup (productMaterialId : Uuid) (replacement : Option Uuid)
  | removeMaterial (productId materialId : Uuid) (replacement : Option Uuid)
  | deleteAltGroup (altGroupId : Uuid)

/-- Run one call. -/
def AltGroupCall.run (db : ProductDatabase) : AltGroupCall → ProductReply × ProductDatabase
  | .addMaterial id blobId input => db.addMaterial id blobId input
  | .createAltGroup id productMaterialId => db.createAltGroup id productMaterialId
  | .addMaterialToAltGroup id blobId altGroupId materialId =>
    db.addMaterialToAltGroup id blobId altGroupId materialId
  | .setAltGroupActive altGroupId productMaterialId =>
    db.setAltGroupActive altGroupId productMaterialId
  | .removeFromAltGroup productMaterialId replacement =>
    db.removeFromAltGroup productMaterialId replacement
  | .removeMaterial productId materialId replacement =>
    db.removeMaterial productId materialId replacement
  | .deleteAltGroup altGroupId => db.deleteAltGroup altGroupId

def altGroupStep (call : AltGroupCall) (db : ProductDatabase) : Option ProductDatabase :=
  some (call.run db).2

/-! ## What the statements do -/

section

variable {db db' : ProductDatabase}

theorem mem_updateLink {id : Uuid} {f : ProductMaterial → ProductMaterial}
    (h : db.updateLink id f = some db') (hf : ∀ r, (f r).id = r.id) :
    db'.groups = db.groups ∧ ∀ x, x ∈ db'.links.rows ↔
      (x ∈ db.links.rows ∧ x.id ≠ id) ∨ ∃ r ∈ db.links.rows, r.id = id ∧ x = f r := by
  obtain ⟨links, hlinks, rfl⟩ := Option.map_eq_some_iff.mp h
  exact ⟨rfl, fun _ ↦ Table.mem_update hf hlinks⟩

theorem mem_setActive {id : Uuid} {active : Option Uuid} (h : db.setActive id active = some db') :
    db'.links = db.links ∧ ∀ g, g ∈ db'.groups.rows ↔
      (g ∈ db.groups.rows ∧ g.id ≠ id) ∨
        ∃ r ∈ db.groups.rows, r.id = id ∧ g = { r with activeProductMaterialId := active } := by
  obtain ⟨groups, hgroups, rfl⟩ := Option.map_eq_some_iff.mp h
  have hkey : ∀ g : ProductAltGroup, altGroupSchema.key { g with activeProductMaterialId := active }
      = altGroupSchema.key g := fun _ ↦ rfl
  exact ⟨rfl, fun _ ↦ Table.mem_update hkey hgroups⟩

/-- Another option may become the active one: the assignments stay as they are. -/
theorem links_of_setActive {p : Prop} [Decidable p] {id : Uuid} {active : Option Uuid}
    (h : (if p then db.setActive id active else some db) = some db') : db'.links = db.links := by
  split at h
  · exact (mem_setActive h).1
  · exact congrArg _ (Option.some.inj h).symm

theorem mem_createLinkWithBlob {pm : ProductMaterial} {blob : ProductMaterialBlob}
    (h : db.createLinkWithBlob pm blob = some db') :
    db'.groups = db.groups ∧ ∀ x, x ∈ db'.links.rows ↔
      x ∈ db.links.rows ∨ x = { pm with currentBlob := some blob } := by
  obtain ⟨tx, hcreate, hupdate⟩ := Option.bind_eq_some_iff.mp h
  obtain ⟨links, hlinks, rfl⟩ := Option.map_eq_some_iff.mp hcreate
  obtain ⟨hgroups, hmem⟩ := mem_updateLink hupdate fun _ ↦ rfl
  obtain ⟨hnew, -, hrows⟩ := Table.insert_eq_some_iff.mp hlinks
  have hfresh : ∀ x ∈ db.links.rows, x.id ≠ pm.id := fun x hx hid ↦
    hnew (List.mem_map.mpr ⟨x, hx, hid⟩)
  refine ⟨hgroups, fun x ↦ (hmem x).trans ?_⟩
  simp only [hrows, List.mem_append, List.mem_singleton]
  constructor
  · rintro (⟨hx | rfl, hne⟩ | ⟨r, hr | rfl, hid, rfl⟩)
    · exact .inl hx
    · exact absurd rfl hne
    · exact absurd hid (hfresh r hr)
    · exact .inr rfl
  · rintro (hx | rfl)
    · exact .inl ⟨.inl hx, hfresh x hx⟩
    · exact .inr ⟨pm, .inr rfl, rfl, rfl⟩

theorem mem_deleteLink {id : Uuid} (h : db.deleteLink id = some db') :
    (∀ x, x ∈ db'.links.rows ↔ x ∈ db.links.rows ∧ x.id ≠ id) ∧
      ∀ g, g ∈ db'.groups.rows ↔ ∃ r ∈ db.groups.rows,
        (if r.activeProductMaterialId = some id then clearActive r else r) = g := by
  obtain ⟨-, -, rfl⟩ := Option.map_eq_some_iff.mp h
  constructor
  · intro x
    simp [Table.delete]
  · intro g
    simp only [Table.modify, List.mem_map, decide_eq_true_eq]

theorem mem_deleteGroup {id : Uuid} (h : db.deleteGroup id = some db') :
    (∀ g, g ∈ db'.groups.rows ↔ g ∈ db.groups.rows ∧ g.id ≠ id) ∧
      ∀ x, x ∈ db'.links.rows ↔ ∃ r ∈ db.links.rows,
        (if r.altGroupId = some id then detach r else r) = x := by
  obtain ⟨-, -, rfl⟩ := Option.map_eq_some_iff.mp h
  constructor
  · intro x
    simp [Table.delete]
  · intro g
    simp only [Table.modify, List.mem_map, decide_eq_true_eq]

/-- The assignments that are in a group, after the group `id` has been deleted. -/
theorem mem_deleteGroup_of_grouped {id : Uuid} (h : db.deleteGroup id = some db')
    {x : ProductMaterial} (hx : x.altGroupId ≠ none) :
    x ∈ db'.links.rows ↔ x ∈ db.links.rows ∧ x.altGroupId ≠ some id := by
  rw [(mem_deleteGroup h).2]
  constructor
  · rintro ⟨r, hr, rfl⟩
    split at hx
    · exact absurd rfl hx
    · rename_i hne
      rw [if_neg hne]
      exact ⟨hr, hne⟩
  · rintro ⟨hmem, hne⟩
    exact ⟨x, hmem, if_neg hne⟩

/-! ## The invariant -/

/-- Every group has an active option among its members, and every member belongs to a group of its
product. -/
structure AltGroupsOk (db : ProductDatabase) : Prop where
  active : ∀ g ∈ db.groups.rows, ∃ pm ∈ db.links.rows,
    g.activeProductMaterialId = some pm.id ∧ pm.altGroupId = some g.id
  member : ∀ pm ∈ db.links.rows, ∀ id, pm.altGroupId = some id →
    ∃ g ∈ db.groups.rows, g.id = id ∧ g.productId = pm.productId

theorem AltGroupsOk.createLinkWithBlob (h : AltGroupsOk db) {pm : ProductMaterial}
    {blob : ProductMaterialBlob} (hpm : ∀ id, pm.altGroupId = some id →
      ∃ g ∈ db.groups.rows, g.id = id ∧ g.productId = pm.productId)
    (htx : db.createLinkWithBlob pm blob = some db') : AltGroupsOk db' := by
  obtain ⟨hgroups, hlinks⟩ := mem_createLinkWithBlob htx
  constructor
  · intro g hg
    obtain ⟨m, hm, hactive, hmember⟩ := h.active g (hgroups ▸ hg)
    exact ⟨m, (hlinks m).mpr (.inl hm), hactive, hmember⟩
  · intro m hm id hid
    rw [hgroups]
    rcases (hlinks m).mp hm with hm | rfl
    · exact h.member m hm id hid
    · exact hpm id hid

/-- An assignment that is in no group is none of those in one. -/
theorem ne_of_ungrouped {pm : ProductMaterial} (hpm : pm ∈ db.links.rows)
    (hnone : pm.altGroupId = none) :
    ∀ m ∈ db.links.rows, m.altGroupId ≠ none → m.id ≠ pm.id := by
  intro m hm hgrouped hid
  rw [db.links.eq_of_key_eq hm hpm hid] at hgrouped
  exact hgrouped hnone

/-- An assignment that is in no group joins a group of its product. -/
theorem AltGroupsOk.joins (h : AltGroupsOk db) {pm : ProductMaterial} {g : ProductAltGroup}
    (hpm : pm ∈ db.links.rows) (hnone : pm.altGroupId = none) (hg : g ∈ db.groups.rows)
    (hproduct : g.productId = pm.productId)
    (htx : db.updateLink pm.id (fun r ↦ { r with altGroupId := some g.id }) = some db') :
    AltGroupsOk db' := by
  obtain ⟨hgroups, hlinks⟩ := mem_updateLink htx fun _ ↦ rfl
  have hne := ne_of_ungrouped hpm hnone
  constructor
  · intro g' hg'
    obtain ⟨m, hm, hactive, hmember⟩ := h.active g' (hgroups ▸ hg')
    exact ⟨m, (hlinks m).mpr (.inl ⟨hm, hne m hm (by simp [hmember])⟩), hactive, hmember⟩
  · intro m hm id hid
    rw [hgroups]
    rcases (hlinks m).mp hm with ⟨hm, -⟩ | ⟨r, hr, hrid, rfl⟩
    · exact h.member m hm id hid
    · obtain rfl := db.links.eq_of_key_eq hr hpm hrid
      exact ⟨g, hg, Option.some.inj hid, hproduct⟩

/-- A member of a group becomes its active option. -/
theorem AltGroupsOk.setActive (h : AltGroupsOk db) {pm : ProductMaterial} {id : Uuid}
    (hpm : pm ∈ db.links.rows) (hid : pm.altGroupId = some id)
    (htx : db.setActive id (some pm.id) = some db') : AltGroupsOk db' := by
  obtain ⟨hlinks, hgroups⟩ := mem_setActive htx
  constructor
  · intro g hg
    rw [hlinks]
    rcases (hgroups g).mp hg with ⟨hg, -⟩ | ⟨r, -, rfl, rfl⟩
    · exact h.active g hg
    · exact ⟨pm, hpm, rfl, hid⟩
  · intro m hm id' hid'
    obtain ⟨g, hg, rfl, hproduct⟩ := h.member m (hlinks ▸ hm) id' hid'
    by_cases hg' : g.id = id
    · exact ⟨_, (hgroups _).mpr (.inr ⟨g, hg, hg', rfl⟩), rfl, hproduct⟩
    · exact ⟨g, (hgroups g).mpr (.inl ⟨hg, hg'⟩), rfl, hproduct⟩

/-- A new group with its first member, which is the active one. -/
theorem AltGroupsOk.createAltGroup (h : AltGroupsOk db) {id : Uuid} {pm : ProductMaterial}
    (hpm : pm ∈ db.links.rows) (hnone : pm.altGroupId = none)
    (htx : ((db.createGroup ⟨⟨id, none⟩, pm.productId⟩).bind fun tx ↦
      (tx.updateLink pm.id fun r ↦ { r with altGroupId := some id }).bind fun tx ↦
        tx.setActive id (some pm.id)) = some db') : AltGroupsOk db' := by
  obtain ⟨tx₁, hcreate, htx⟩ := Option.bind_eq_some_iff.mp htx
  obtain ⟨tx₂, hlink, hactive⟩ := Option.bind_eq_some_iff.mp htx
  obtain ⟨groups, hinsert, rfl⟩ := Option.map_eq_some_iff.mp hcreate
  obtain ⟨hfresh, -, hrows⟩ := Table.insert_eq_some_iff.mp hinsert
  obtain ⟨hgroups₂, hlinks₂⟩ := mem_updateLink hlink fun _ ↦ rfl
  obtain ⟨hlinks, hgroups⟩ := mem_setActive hactive
  have hfresh' : ∀ g ∈ db.groups.rows, g.id ≠ id := fun g hg hid ↦
    hfresh (List.mem_map.mpr ⟨g, hg, hid⟩)
  have hmemg : ∀ g, g ∈ db'.groups.rows ↔
      g ∈ db.groups.rows ∨ g = ⟨⟨id, some pm.id⟩, pm.productId⟩ := by
    intro g
    simp only [hgroups g, hgroups₂, hrows, List.mem_append, List.mem_singleton]
    constructor
    · rintro (⟨hg | rfl, hne⟩ | ⟨r, hr | rfl, hid, rfl⟩)
      · exact .inl hg
      · exact absurd rfl hne
      · exact absurd hid (hfresh' r hr)
      · exact .inr rfl
    · rintro (hg | rfl)
      · exact .inl ⟨.inl hg, hfresh' g hg⟩
      · exact .inr ⟨_, .inr rfl, rfl, rfl⟩
  have hmeml : ∀ x, x ∈ db'.links.rows ↔
      (x ∈ db.links.rows ∧ x.id ≠ pm.id) ∨ x = { pm with altGroupId := some id } := by
    intro x
    rw [hlinks, hlinks₂]
    refine or_congr Iff.rfl ⟨?_, ?_⟩
    · rintro ⟨r, hr, hid, rfl⟩
      rw [db.links.eq_of_key_eq hr hpm hid]
    · rintro rfl
      exact ⟨pm, hpm, rfl, rfl⟩
  have hne := ne_of_ungrouped hpm hnone
  constructor
  · intro g hg
    rcases (hmemg g).mp hg with hg | rfl
    · obtain ⟨m, hm, hm', hmember⟩ := h.active g hg
      exact ⟨m, (hmeml m).mpr (.inl ⟨hm, hne m hm (by simp [hmember])⟩), hm', hmember⟩
    · exact ⟨_, (hmeml _).mpr (.inr rfl), rfl, rfl⟩
  · intro m hm id' hid'
    rcases (hmeml m).mp hm with ⟨hm, -⟩ | rfl
    · obtain ⟨g, hg, hg', hproduct⟩ := h.member m hm id' hid'
      exact ⟨g, (hmemg g).mpr (.inl hg), hg', hproduct⟩
    · exact ⟨_, (hmemg _).mpr (.inr rfl), Option.some.inj hid', rfl⟩

/-- **An assignment leaves its group.** The other groups are as they were, and its own group is gone
or has an active option that is another of its members. -/
theorem AltGroupsOk.leaves (h : AltGroupsOk db) {pm : ProductMaterial} {id : Uuid}
    (hpm : pm ∈ db.links.rows) (hid : pm.altGroupId = some id)
    (hlinks : ∀ x, x.altGroupId ≠ none →
      (x ∈ db'.links.rows ↔ x ∈ db.links.rows ∧ x.id ≠ pm.id))
    (hfrom : ∀ g' ∈ db'.groups.rows, ∃ g ∈ db.groups.rows, g'.id = g.id ∧
      ((g.id ≠ id ∧ g'.activeProductMaterialId = g.activeProductMaterialId) ∨
        ∃ m ∈ db.links.rows, m.id ≠ pm.id ∧ m.altGroupId = some g.id ∧
          g'.activeProductMaterialId = some m.id))
    (hkept : ∀ g ∈ db.groups.rows,
      (∃ m ∈ db.links.rows, m.id ≠ pm.id ∧ m.altGroupId = some g.id) →
        ∃ g' ∈ db'.groups.rows, g'.id = g.id ∧ g'.productId = g.productId) : AltGroupsOk db' := by
  constructor
  · intro g' hg'
    obtain ⟨g, hg, hgid, ⟨hne, hsame⟩ | ⟨m, hm, hmne, hmember, hactive⟩⟩ := hfrom g' hg'
    · obtain ⟨m, hm, hactive, hmember⟩ := h.active g hg
      have hmne : m.id ≠ pm.id := by
        intro hmid
        rw [db.links.eq_of_key_eq hm hpm hmid, hid] at hmember
        exact hne (Option.some.inj hmember).symm
      exact ⟨m, (hlinks m (by simp [hmember])).mpr ⟨hm, hmne⟩, hsame.trans hactive,
        hmember.trans (congrArg some hgid.symm)⟩
    · exact ⟨m, (hlinks m (by simp [hmember])).mpr ⟨hm, hmne⟩, hactive,
        hmember.trans (congrArg some hgid.symm)⟩
  · intro m hm id' hid'
    obtain ⟨hm, hmne⟩ := (hlinks m (by simp [hid'])).mp hm
    obtain ⟨g, hg, rfl, hproduct⟩ := h.member m hm id' hid'
    obtain ⟨g', hg', hgid, hproduct'⟩ := hkept g hg ⟨m, hm, hmne, hid'⟩
    exact ⟨g', hg', hgid, hproduct'.trans hproduct⟩

/-! ## Who is active, and who else is there -/

theorem peerCount_eq_zero_iff {id productMaterialId : Uuid} :
    db.peerCount id productMaterialId = 0 ↔
      ∀ m ∈ db.links.rows, m.altGroupId = some id → m.id = productMaterialId := by
  simp only [ProductDatabase.peerCount, List.length_eq_zero_iff, List.filter_eq_nil_iff,
    decide_eq_true_eq, not_and, not_not]

theorem activeOfAltGroup_isSome_iff {productMaterialId : Uuid} :
    (db.activeOfAltGroup productMaterialId).isSome ↔
      ∃ g ∈ db.groups.rows, g.activeProductMaterialId = some productMaterialId := by
  simp only [ProductDatabase.activeOfAltGroup, List.find?_isSome, decide_eq_true_eq]

/-- The group whose active option an assignment is, is its own. -/
theorem AltGroupsOk.id_of_active (h : AltGroupsOk db) {pm : ProductMaterial} {g : ProductAltGroup}
    (hpm : pm ∈ db.links.rows) (hg : g ∈ db.groups.rows)
    (hactive : g.activeProductMaterialId = some pm.id) : pm.altGroupId = some g.id := by
  obtain ⟨m, hm, hm', hmember⟩ := h.active g hg
  have hmid : m.id = pm.id := Option.some.inj (hm'.symm.trans hactive)
  rw [← db.links.eq_of_key_eq hm hpm hmid]
  exact hmember

/-- The only member of a group is its active option. -/
theorem AltGroupsOk.active_of_alone (h : AltGroupsOk db) {pm : ProductMaterial} {id : Uuid}
    (hpm : pm ∈ db.links.rows) (hid : pm.altGroupId = some id)
    (hpeers : db.peerCount id pm.id = 0) :
    (db.activeOfAltGroup pm.id).isSome := by
  obtain ⟨g, hg, rfl, -⟩ := h.member pm hpm id hid
  obtain ⟨m, hm, hactive, hmember⟩ := h.active g hg
  rw [peerCount_eq_zero_iff.mp hpeers m hm hmember] at hactive
  exact activeOfAltGroup_isSome_iff.mpr ⟨g, hg, hactive⟩

/-- What a replacement that passes the check is. -/
theorem of_replacementError_eq_none {pm : ProductMaterial} {isActive : Bool} {peers : ℕ}
    {replacement : Option Uuid} (hgroup : pm.altGroupId.isSome) (hactive : isActive = true)
    (hpeers : 0 < peers) (h : db.replacementError pm isActive peers replacement = none) :
    ∃ m ∈ db.links.rows, m.id ≠ pm.id ∧ m.altGroupId = pm.altGroupId ∧ replacement = some m.id := by
  cases replacement with
  | none => simp [ProductDatabase.replacementError, hgroup, hactive, hpeers] at h
  | some r =>
    rw [ProductDatabase.replacementError] at h
    split at h
    · cases h
    · rename_i hne
      split at h
      · cases h
      · rename_i m hm
        obtain ⟨hmem, rfl⟩ := Table.find_eq_some_iff.mp hm
        split at h
        · cases h
        · rename_i hsame
          exact ⟨m, hmem, hne, not_not.mp hsame, rfl⟩

/-! ## The operations that take an assignment out -/

/-- A transaction keeps the invariant if its statements do; rolled back, it has changed nothing. -/
theorem AltGroupsOk.transaction (h : AltGroupsOk db) (reply : ProductReply)
    {tx : Option ProductDatabase} (htx : ∀ db', tx = some db' → AltGroupsOk db') :
    AltGroupsOk (db.transaction reply tx).2 := by
  cases tx with
  | none => exact h
  | some db' => exact htx db' rfl

/-- The last member of a group leaves it, and the group goes with it. -/
theorem AltGroupsOk.leaves_alone (h : AltGroupsOk db) {tx : ProductDatabase} {pm : ProductMaterial}
    {id : Uuid} (hpm : pm ∈ db.links.rows) (hid : pm.altGroupId = some id)
    (hpeers : db.peerCount id pm.id = 0)
    (hlinks : ∀ x, x.altGroupId ≠ none → (x ∈ tx.links.rows ↔ x ∈ db.links.rows ∧ x.id ≠ pm.id))
    (hgroups : ∀ g, g.id ≠ id → (g ∈ tx.groups.rows ↔ g ∈ db.groups.rows))
    (htx : tx.deleteGroup id = some db') : AltGroupsOk db' := by
  have halone := peerCount_eq_zero_iff.mp hpeers
  have hmemg : ∀ g, g ∈ db'.groups.rows ↔ g ∈ db.groups.rows ∧ g.id ≠ id := fun g ↦
    ((mem_deleteGroup htx).1 g).trans
      ⟨fun ⟨hg, hne⟩ ↦ ⟨(hgroups g hne).mp hg, hne⟩, fun ⟨hg, hne⟩ ↦ ⟨(hgroups g hne).mpr hg, hne⟩⟩
  refine h.leaves hpm hid (fun x hx ↦ ?_) (fun g' hg' ↦ ?_) fun g hg ⟨m, hm, hmne, hmember⟩ ↦ ?_
  · rw [mem_deleteGroup_of_grouped htx hx, hlinks x hx]
    exact ⟨fun hin ↦ hin.1, fun hin ↦ ⟨hin, fun hx' ↦ hin.2 (halone x hin.1 hx')⟩⟩
  · obtain ⟨hg, hne⟩ := (hmemg g').mp hg'
    exact ⟨g', hg, rfl, .inl ⟨hne, rfl⟩⟩
  · refine ⟨g, (hmemg g).mpr ⟨hg, ?_⟩, rfl, rfl⟩
    rintro rfl
    exact hmne (halone m hm hmember)

/-- A member leaves a group that has others, which has another active option if it was the active
one. -/
theorem AltGroupsOk.leaves_others (h : AltGroupsOk db) {pm : ProductMaterial}
    {id : Uuid} (hpm : pm ∈ db.links.rows) (hid : pm.altGroupId = some id)
    (hlinks : ∀ x, x.altGroupId ≠ none → (x ∈ db'.links.rows ↔ x ∈ db.links.rows ∧ x.id ≠ pm.id))
    (hgroups : ((db.activeOfAltGroup pm.id).isSome = false ∧
        ∀ g, g ∈ db'.groups.rows ↔ g ∈ db.groups.rows) ∨
      ∃ m ∈ db.links.rows, m.id ≠ pm.id ∧ m.altGroupId = some id ∧
        ∀ g, g ∈ db'.groups.rows ↔ (g ∈ db.groups.rows ∧ g.id ≠ id) ∨
          ∃ r ∈ db.groups.rows, r.id = id ∧ g = { r with activeProductMaterialId := some m.id }) :
    AltGroupsOk db' := by
  rcases hgroups with ⟨hinactive, hsame⟩ | ⟨m, hm, hmne, hmember, hactive⟩
  · refine h.leaves hpm hid hlinks (fun g hg ↦ ?_) fun g hg _ ↦ ⟨g, (hsame g).mpr hg, rfl, rfl⟩
    have hg := (hsame g).mp hg
    obtain ⟨m, hm, hm', hmember⟩ := h.active g hg
    refine ⟨g, hg, rfl, .inr ⟨m, hm, fun hmid ↦ ?_, hmember, hm'⟩⟩
    have := activeOfAltGroup_isSome_iff.mpr ⟨g, hg, hm'⟩
    rw [hmid, hinactive] at this
    exact absurd this (by decide)
  · refine h.leaves hpm hid hlinks (fun g' hg' ↦ ?_) fun g hg _ ↦ ?_
    · rcases (hactive g').mp hg' with ⟨hg, hne⟩ | ⟨g, hg, rfl, rfl⟩
      · exact ⟨g', hg, rfl, .inl ⟨hne, rfl⟩⟩
      · exact ⟨g, hg, rfl, .inr ⟨m, hm, hmne, hmember, rfl⟩⟩
    · by_cases hg' : g.id = id
      · exact ⟨_, (hactive _).mpr (.inr ⟨g, hg, hg', rfl⟩), rfl, rfl⟩
      · exact ⟨g, (hactive g).mpr (.inl ⟨hg, hg'⟩), rfl, rfl⟩

theorem AltGroupsOk.removeFromAltGroup (h : AltGroupsOk db) (productMaterialId : Uuid)
    (replacement : Option Uuid) :
    AltGroupsOk (db.removeFromAltGroup productMaterialId replacement).2 := by
  rw [ProductDatabase.removeFromAltGroup]
  split
  · exact h
  · rename_i pm hfind
    obtain ⟨hpm, -⟩ := Table.find_eq_some_iff.mp hfind
    split
    · exact h
    · rename_i id hid
      simp only
      split
      · exact h
      · rename_i hcheck
        refine h.transaction _ fun db' htx ↦ ?_
        obtain ⟨tx₁, hactive, htx⟩ := Option.bind_eq_some_iff.mp htx
        obtain ⟨tx₂, hlink, htx⟩ := Option.bind_eq_some_iff.mp htx
        obtain ⟨hgroups₂, hlinks₂⟩ := mem_updateLink hlink fun _ ↦ rfl
        -- the assignments in groups are as before, without the one that leaves
        have hlinks₁ : tx₁.links = db.links := links_of_setActive hactive
        have hlinks : ∀ x : ProductMaterial, x.altGroupId ≠ none →
            (x ∈ tx₂.links.rows ↔ x ∈ db.links.rows ∧ x.id ≠ pm.id) := by
          intro x hx
          rw [hlinks₂, hlinks₁]
          refine ⟨fun hin ↦ hin.resolve_right ?_, Or.inl⟩
          rintro ⟨r, -, -, rfl⟩
          exact hx rfl
        split at htx
        · rename_i hpeers
          refine h.leaves_alone hpm hid hpeers hlinks (fun g hne ↦ ?_) htx
          rw [hgroups₂]
          split at hactive
          · rw [(mem_setActive hactive).2]
            exact ⟨fun hg ↦ (hg.resolve_right fun ⟨r, _, hr, hgr⟩ ↦ hne (hgr ▸ hr)).1,
              fun hg ↦ .inl ⟨hg, hne⟩⟩
          · rw [Option.some.inj hactive]
        · rename_i hpeers
          obtain rfl := Option.some.inj htx
          refine h.leaves_others hpm hid hlinks ?_
          rw [hgroups₂]
          split at hactive
          · rename_i hisActive
            obtain ⟨m, hm, hmne, hmember, hreplacement⟩ := of_replacementError_eq_none
              (by simp [hid]) hisActive (Nat.pos_of_ne_zero hpeers) hcheck
            rw [hisActive, Bool.true_and, if_pos (by simpa using Nat.pos_of_ne_zero hpeers),
              hreplacement] at hactive
            exact .inr ⟨m, hm, hmne, hmember.trans hid, (mem_setActive hactive).2⟩
          · rename_i hisActive
            rw [← Option.some.inj hactive]
            exact .inl ⟨Bool.eq_false_iff.mpr hisActive, fun _ ↦ Iff.rfl⟩

/-- Deleting an assignment, once its group has another active option or was without it. -/
theorem mem_groups_deleteLink {id : Uuid} (h : db.deleteLink id = some db')
    (hfree : ∀ g ∈ db.groups.rows, g.activeProductMaterialId ≠ some id) (g : ProductAltGroup) :
    g ∈ db'.groups.rows ↔ g ∈ db.groups.rows := by
  rw [(mem_deleteLink h).2]
  constructor
  · rintro ⟨r, hr, rfl⟩
    rw [if_neg (hfree r hr)]
    exact hr
  · exact fun hg ↦ ⟨g, hg, if_neg (hfree g hg)⟩

theorem AltGroupsOk.removeMaterial (h : AltGroupsOk db) (productId materialId : Uuid)
    (replacement : Option Uuid) :
    AltGroupsOk (db.removeMaterial productId materialId replacement).2 := by
  rw [ProductDatabase.removeMaterial]
  split
  · exact h
  · rename_i pm hfind
    have hpm : pm ∈ db.links.rows := List.mem_of_find?_eq_some hfind
    simp only
    split
    · exact h
    · rename_i hcheck
      refine h.transaction _ fun db' htx ↦ ?_
      split at htx
      · -- in no group, it is the active option of none
        rename_i hnone
        have hfree : ∀ g ∈ db.groups.rows, g.activeProductMaterialId ≠ some pm.id := by
          intro g hg hactive
          rw [h.id_of_active hpm hg hactive] at hnone
          cases hnone
        have hgroups := mem_groups_deleteLink htx hfree
        obtain ⟨hlinks, -⟩ := mem_deleteLink htx
        constructor
        · intro g hg
          obtain ⟨m, hm, hactive, hmember⟩ := h.active g ((hgroups g).mp hg)
          refine ⟨m, (hlinks m).mpr ⟨hm, fun hmid ↦ ?_⟩, hactive, hmember⟩
          exact hfree g ((hgroups g).mp hg) (hmid ▸ hactive)
        · intro m hm id hid
          obtain ⟨g, hg, hgid⟩ := h.member m ((hlinks m).mp hm).1 id hid
          exact ⟨g, (hgroups g).mpr hg, hgid⟩
      · rename_i id hid
        rw [hid] at hcheck
        simp only [hid] at htx
        obtain ⟨tx₁, hactive, hrest⟩ := Option.bind_eq_some_iff.mp htx
        obtain ⟨tx₂, hlink, hlast⟩ := Option.bind_eq_some_iff.mp hrest
        obtain ⟨hlinks₂, hgroups₂⟩ := mem_deleteLink hlink
        have hlinks₁ : tx₁.links = db.links := links_of_setActive hactive
        have hlinks : ∀ x : ProductMaterial, x.altGroupId ≠ none →
            (x ∈ tx₂.links.rows ↔ x ∈ db.links.rows ∧ x.id ≠ pm.id) := by
          intro x _
          rw [hlinks₂, hlinks₁]
        split at hlast
        · rename_i hpeers
          obtain rfl : db = tx₁ := by
            rw [hpeers] at hactive
            simpa using hactive
          refine h.leaves_alone hpm hid hpeers hlinks (fun g hne ↦ ?_) hlast
          rw [hgroups₂]
          constructor
          · rintro ⟨r, hr, rfl⟩
            split at hne
            · rename_i hr'
              have := h.id_of_active hpm hr hr'
              exact absurd (Option.some.inj (hid.symm.trans this)).symm hne
            · rename_i hr'
              rw [if_neg hr']
              exact hr
          · refine fun hg ↦ ⟨g, hg, if_neg fun hg' ↦ hne ?_⟩
            exact (Option.some.inj (hid.symm.trans (h.id_of_active hpm hg hg'))).symm
        · rename_i hpeers
          obtain rfl := Option.some.inj hlast
          refine h.leaves_others hpm hid hlinks ?_
          split at hactive
          · rename_i hisActive
            rw [Bool.and_eq_true] at hisActive
            obtain ⟨m, hm, hmne, hmember, hreplacement⟩ := of_replacementError_eq_none
              (by simp [hid]) hisActive.1 (Nat.pos_of_ne_zero hpeers) hcheck
            rw [hreplacement] at hactive
            obtain ⟨-, hgroups₁⟩ := mem_setActive hactive
            refine .inr ⟨m, hm, hmne, hmember.trans hid, fun g ↦ ?_⟩
            rw [mem_groups_deleteLink hlink, hgroups₁]
            -- nothing points to the deleted assignment any more
            intro g' hg' hpoint
            rcases (hgroups₁ g').mp hg' with ⟨hg', hne⟩ | ⟨r, -, -, rfl⟩
            · exact hne (Option.some.inj (hid.symm.trans (h.id_of_active hpm hg' hpoint))).symm
            · exact hmne (Option.some.inj hpoint)
          · rename_i hisActive
            obtain rfl := Option.some.inj hactive
            have hinactive : (db.activeOfAltGroup pm.id).isSome = false := by
              have hpos := Nat.pos_of_ne_zero hpeers
              simpa [hpos] using hisActive
            refine .inl ⟨hinactive, mem_groups_deleteLink hlink fun g hg hpoint ↦ ?_⟩
            rw [activeOfAltGroup_isSome_iff.mpr ⟨g, hg, hpoint⟩] at hinactive
            cases hinactive

theorem AltGroupsOk.deleteAltGroup (h : AltGroupsOk db) (id : Uuid) :
    AltGroupsOk (db.deleteAltGroup id).2 := by
  rw [ProductDatabase.deleteAltGroup]
  split
  · exact h
  · refine h.transaction _ fun db' htx ↦ ?_
    obtain ⟨tx₁, hactive, htx⟩ := Option.bind_eq_some_iff.mp htx
    obtain ⟨tx₂, hdetach, htx⟩ := Option.bind_eq_some_iff.mp htx
    obtain rfl := Option.some.inj hdetach
    obtain ⟨hlinks₁, hgroups₁⟩ := mem_setActive hactive
    obtain ⟨hgroups, -⟩ := mem_deleteGroup htx
    have hmemg : ∀ g, g ∈ db'.groups.rows ↔ g ∈ db.groups.rows ∧ g.id ≠ id := by
      intro g
      refine (hgroups g).trans (and_congr_left fun hne ↦ ⟨fun hg ↦ ?_, fun hg ↦ ?_⟩)
      · rcases (hgroups₁ g).mp hg with hin | ⟨r, -, hr, rfl⟩
        · exact hin.1
        · exact absurd hr hne
      · exact (hgroups₁ g).mpr (.inl ⟨hg, hne⟩)
    have hmeml : ∀ x : ProductMaterial, x.altGroupId ≠ none →
        (x ∈ db'.links.rows ↔ x ∈ db.links.rows ∧ x.altGroupId ≠ some id) := by
      intro x hx
      rw [mem_deleteGroup_of_grouped htx hx]
      simp only [Table.modify, List.mem_map, decide_eq_true_eq, hlinks₁]
      constructor
      · rintro ⟨⟨r, hr, rfl⟩, hne⟩
        split at hx
        · exact absurd rfl hx
        · rename_i hr'
          rw [if_neg hr']
          exact ⟨hr, hr'⟩
      · rintro ⟨hin, hne⟩
        exact ⟨⟨x, hin, if_neg hne⟩, hne⟩
    constructor
    · intro g hg
      obtain ⟨hg, hne⟩ := (hmemg g).mp hg
      obtain ⟨m, hm, hm', hmember⟩ := h.active g hg
      refine ⟨m, (hmeml m (by simp [hmember])).mpr ⟨hm, ?_⟩, hm', hmember⟩
      rw [hmember]
      exact fun hid ↦ hne (Option.some.inj hid)
    · intro m hm id' hid'
      obtain ⟨hm, hne⟩ := (hmeml m (by simp [hid'])).mp hm
      obtain ⟨g, hg, rfl, hproduct⟩ := h.member m hm id' hid'
      exact ⟨g, (hmemg g).mpr ⟨hg, fun hgid ↦ hne (hid'.trans (congrArg some hgid))⟩, rfl, hproduct⟩

/-! ## The operations that add or activate -/

theorem AltGroupsOk.addMaterial (h : AltGroupsOk db) (id blobId : Uuid)
    (input : ProductDatabase.AddMaterialInput) :
    AltGroupsOk (db.addMaterial id blobId input).2 := by
  rw [ProductDatabase.addMaterial]
  repeat' split
  all_goals first
    | exact h
    | exact h.transaction _ fun db' htx ↦ h.createLinkWithBlob (fun _ hid ↦ by cases hid) htx

/-- The material joins the group: its assignment, or a new one. -/
theorem AltGroupsOk.addMaterialToAltGroup (h : AltGroupsOk db)
    (id blobId altGroupId materialId : Uuid) :
    AltGroupsOk (db.addMaterialToAltGroup id blobId altGroupId materialId).2 := by
  rw [ProductDatabase.addMaterialToAltGroup]
  split
  · exact h
  · rename_i g hgfind
    obtain ⟨hg, hgid⟩ := Table.find_eq_some_iff.mp hgfind
    have hgid : g.id = altGroupId := hgid
    split
    · exact h
    · split
      · exact h
      · split
        · exact h
        · split
          · exact h
          · split
            · exact h
            · split
              · rename_i pm hpmfind
                have hpm : pm ∈ db.links.rows := List.mem_of_find?_eq_some hpmfind
                have hproduct := List.find?_some hpmfind
                rw [Bool.and_eq_true, beq_iff_eq, beq_iff_eq] at hproduct
                split
                · exact h
                · rename_i hother
                  refine h.transaction _ fun db' htx ↦ ?_
                  split at htx
                  · rename_i hne
                    have hnone : pm.altGroupId = none := by
                      by_contra hsome
                      exact hother ⟨Option.isSome_iff_ne_none.mpr hsome, hne⟩
                    rw [← hgid] at htx
                    exact h.joins hpm hnone hg hproduct.1.symm htx
                  · rw [← Option.some.inj htx]
                    exact h
              · split
                · exact h
                · refine h.transaction _ fun db' htx ↦ h.createLinkWithBlob ?_ htx
                  rintro id' ⟨⟩
                  exact ⟨g, hg, hgid, rfl⟩

theorem AltGroupsOk.step (h : AltGroupsOk db) (call : AltGroupCall) :
    AltGroupsOk (call.run db).2 := by
  cases call with
  | addMaterial id blobId input => exact h.addMaterial id blobId input
  | createAltGroup id productMaterialId =>
    rw [AltGroupCall.run, ProductDatabase.createAltGroup]
    split
    · exact h
    · rename_i pm hfind
      split
      · exact h
      · rename_i hnone
        exact h.transaction _ fun db' htx ↦ h.createAltGroup (Table.find_eq_some_iff.mp hfind).1
          (Option.not_isSome_iff_eq_none.mp hnone) htx
  | addMaterialToAltGroup id blobId altGroupId materialId =>
    exact h.addMaterialToAltGroup id blobId altGroupId materialId
  | setAltGroupActive altGroupId productMaterialId =>
    rw [AltGroupCall.run, ProductDatabase.setAltGroupActive]
    split
    · exact h
    · split
      · exact h
      · rename_i pm hfind
        obtain ⟨hpm, rfl⟩ := Table.find_eq_some_iff.mp hfind
        split
        · exact h
        · rename_i hid
          exact h.transaction _ fun db' htx ↦ h.setActive hpm (not_not.mp hid) htx
  | removeFromAltGroup productMaterialId replacement =>
    exact h.removeFromAltGroup productMaterialId replacement
  | removeMaterial productId materialId replacement =>
    exact h.removeMaterial productId materialId replacement
  | deleteAltGroup altGroupId => exact h.deleteAltGroup altGroupId

/-! ## Any sequence of calls -/

/-- An outcome that leaves the database as it is if it is a rejection. -/
def Atomic (db : ProductDatabase) (outcome : ProductReply × ProductDatabase) : Prop :=
  outcome.1.isRejected = true → outcome.2 = db

theorem atomic_refused (db : ProductDatabase) (e : ServiceError) : Atomic db (.refused e, db) :=
  fun _ ↦ rfl

theorem atomic_transaction {reply : ProductReply} (tx : Option ProductDatabase)
    (hreply : reply.isRejected = false) : Atomic db (db.transaction reply tx) := by
  intro h
  cases tx with
  | none => rfl
  | some db' =>
    have hrejected : reply.isRejected = true := h
    rw [hreply] at hrejected
    cases hrejected

/-- **A rejected call changes nothing**: every check comes before the first write. -/
theorem atomic_run (call : AltGroupCall) : Atomic db (call.run db) := by
  cases call with
  | addMaterial id blobId input =>
    rw [AltGroupCall.run, ProductDatabase.addMaterial]
    repeat' split
    all_goals first
      | exact atomic_refused db _
      | exact atomic_transaction _ rfl
  | createAltGroup id productMaterialId =>
    rw [AltGroupCall.run, ProductDatabase.createAltGroup]
    repeat' split
    all_goals first
      | exact atomic_refused db _
      | exact atomic_transaction _ rfl
  | addMaterialToAltGroup id blobId altGroupId materialId =>
    rw [AltGroupCall.run, ProductDatabase.addMaterialToAltGroup]
    repeat' split
    all_goals first
      | exact atomic_refused db _
      | exact atomic_transaction _ rfl
  | setAltGroupActive altGroupId productMaterialId =>
    rw [AltGroupCall.run, ProductDatabase.setAltGroupActive]
    repeat' split
    all_goals first
      | exact atomic_refused db _
      | exact atomic_transaction _ rfl
  | removeFromAltGroup productMaterialId replacement =>
    rw [AltGroupCall.run, ProductDatabase.removeFromAltGroup]
    split
    · exact atomic_refused db _
    · split
      · exact atomic_refused db _
      · simp only
        split
        · exact atomic_refused db _
        · exact atomic_transaction _ rfl
  | removeMaterial productId materialId replacement =>
    rw [AltGroupCall.run, ProductDatabase.removeMaterial]
    split
    · exact atomic_refused db _
    · simp only
      split
      · exact atomic_refused db _
      · exact atomic_transaction _ rfl
  | deleteAltGroup altGroupId =>
    rw [AltGroupCall.run, ProductDatabase.deleteAltGroup]
    split
    · exact atomic_refused db _
    · exact atomic_transaction _ rfl

/-- A group has a member, its active option is set and is one of its members, and its members belong
to its product. -/
def HasActiveOption (db : ProductDatabase) (g : ProductAltGroup) : Prop :=
  (∃ pm ∈ db.links.rows, pm.altGroupId = some g.id ∧ g.activeProductMaterialId = some pm.id) ∧
    ∀ pm ∈ db.links.rows, pm.altGroupId = some g.id → pm.productId = g.productId

theorem AltGroupsOk.hasActiveOption (h : AltGroupsOk db) {g : ProductAltGroup}
    (hg : g ∈ db.groups.rows) : HasActiveOption db g := by
  obtain ⟨m, hm, hactive, hmember⟩ := h.active g hg
  refine ⟨⟨m, hm, hmember, hactive⟩, fun pm hpm hid ↦ ?_⟩
  obtain ⟨g', hg', hgid, hproduct⟩ := h.member pm hpm _ hid
  rw [← hproduct, db.groups.eq_of_key_eq hg' hg hgid]

/-- Of the members of a group a cycle picks the active option. -/
theorem isPicked_iff_active {consumed : MaterialDatabase}
    (hgroups : consumed.altGroups
      = db.groups.rows.map ProductAltGroup.toProductMaterialAltGroup)
    {g : ProductAltGroup} (hg : g ∈ db.groups.rows) {pm : ProductMaterial}
    (hid : pm.altGroupId = some g.id) :
    consumed.isPicked pm = true ↔ g.activeProductMaterialId = some pm.id := by
  have hfind : consumed.altGroups.find? (·.id == g.id) = some g.toProductMaterialAltGroup := by
    rw [hgroups, List.find?_map]
    have hrow : db.groups.rows.find? (fun r ↦ r.id == g.id) = some g := by
      have hkey := Table.find_of_mem hg
      rw [Table.find] at hkey
      simpa [altGroupSchema, beq_eq_decide] using hkey
    exact congrArg _ hrow
  rw [MaterialDatabase.isPicked, hid]
  simp [hfind]

/-- **A cycle consumes one option of each group**, neither none nor two. -/
theorem AltGroupsOk.exists_isPicked (h : AltGroupsOk db) {consumed : MaterialDatabase}
    (hgroups : consumed.altGroups
      = db.groups.rows.map ProductAltGroup.toProductMaterialAltGroup)
    {g : ProductAltGroup} (hg : g ∈ db.groups.rows) :
    ∃ pm ∈ db.links.rows, pm.altGroupId = some g.id ∧ consumed.isPicked pm = true ∧
      ∀ other ∈ db.links.rows, other.altGroupId = some g.id → consumed.isPicked other = true →
        other = pm := by
  obtain ⟨m, hm, hactive, hmember⟩ := h.active g hg
  refine ⟨m, hm, hmember, (isPicked_iff_active hgroups hg hmember).mpr hactive, ?_⟩
  intro other hother hid hpicked
  have hactive' := (isPicked_iff_active hgroups hg hid).mp hpicked
  exact db.links.eq_of_key_eq hother hm (Option.some.inj (hactive'.symm.trans hactive))

/-- No group is there yet, and so no assignment is in one. -/
def NoAltGroups (db : ProductDatabase) : Prop :=
  db.groups.rows = [] ∧ ∀ pm ∈ db.links.rows, pm.altGroupId = none

theorem NoAltGroups.altGroupsOk (h : NoAltGroups db) : AltGroupsOk db where
  active g hg := by
    rw [h.1] at hg
    cases hg
  member pm hpm id hid := by
    rw [h.2 pm hpm] at hid
    cases hid

/-- **Exactly one active option for each group.** After any sequence of calls, successful or
rejected, every group has a member, its active option is one of its members, and its members belong
to its product; and a call that is rejected leaves everything as it is. -/
theorem one_active_option {db₀ : ProductDatabase} (h₀ : NoAltGroups db₀) {calls : List AltGroupCall}
    (hrun : Run altGroupStep (fun _ _ ↦ True) db₀ calls db) :
    (∀ g ∈ db.groups.rows, HasActiveOption db g) ∧
      ∀ call : AltGroupCall, (call.run db).1.isRejected = true → (call.run db).2 = db := by
  have hok : AltGroupsOk db := by
    induction hrun with
    | nil => exact h₀.altGroupsOk
    | snoc _ _ hstep ih =>
      rename_i call _ _ _
      rw [← Option.some.inj hstep]
      exact ih.step call
  exact ⟨fun g hg ↦ hok.hasActiveOption hg, fun call ↦ atomic_run call⟩

end

/-- A product with three materials. -/
def shopDatabase : ProductDatabase where
  products := [⟨1, 0, none, some 11⟩]
  materials := [⟨2, 0, none, some 12⟩, ⟨3, 0, none, some 13⟩, ⟨4, 0, none, some 14⟩]
  links := .empty _
  groups := .empty _

/-- Two materials become alternatives; the active one can only be removed for the other one. -/
theorem one_active_option_swap : ∃ db : ProductDatabase,
    (db.groups.rows.map fun g ↦ (g.id, g.activeProductMaterialId)) = [(70, some 22)] ∧
      (∀ g ∈ db.groups.rows, HasActiveOption db g) ∧
      ∀ call : AltGroupCall, (call.run db).1.isRejected = true → (call.run db).2 = db := by
  have hrun : (execute altGroupStep (fun _ _ ↦ True)
      [.addMaterial 21 31 ⟨1, 2, none, none⟩, .createAltGroup 70 21,
        .addMaterialToAltGroup 22 32 70 3, .removeMaterial 1 2 none,
        .removeMaterial 1 2 (some 22), .addMaterialToAltGroup 23 33 70 4] shopDatabase).any
      (fun db ↦ decide ((db.groups.rows.map fun g ↦ (g.id, g.activeProductMaterialId))
        = [(70, some 22)])) = true := by
    decide +kernel
  obtain ⟨db, hdb, hgroups⟩ := (Option.any_eq_true _ _).mp hrun
  exact ⟨db, of_decide_eq_true hgroups,
    one_active_option ⟨rfl, fun pm hpm ↦ by cases hpm⟩ (run_of_execute hdb)⟩

end RwServer
