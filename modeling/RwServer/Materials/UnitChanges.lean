import Mathlib
import RwServer.Materials.OwnUnit
import RwServer.Orders.Operations

/-!
# Changes of the canonical unit

A manual ledger entry is refused unless it is in the canonical unit of its material, and the use of
a cycle is converted to it, each at its own time. An update of the material may change the unit, and
what has been booked before stays as it is: the balance adds the bare numbers and names the new
unit.

`balance_inNamedUnit` says which changes of the unit keep the balances right.
-/

namespace RwServer

open Relational Transition

/-! ## Updates and manual entries -/

/-- What else is read of a material: its site, and whether it has a current blob. -/
structure MaterialHead where
  siteId : Uuid
  hasBlob : Bool
deriving DecidableEq, Repr

/-- The checks of `update`, and the material they find. -/
def materialToUpdate (heads : Uuid → MaterialHead) (db : MaterialDatabase) (id : Uuid) :
    Except ServiceError Material :=
  match db.material id with
  | none => .error ⟨"Material not found", "MATERIAL_NOT_FOUND"⟩
  | some m =>
    if m.deletedAt.isSome then .error ⟨"Material has been deleted", "MATERIAL_DELETED"⟩
    else if !(heads id).hasBlob then .error ⟨"Material has no current blob", "NO_CURRENT_BLOB"⟩
    else .ok m

/-- The new current blob. -/
def setWeightUnits (db : MaterialDatabase) (id : Uuid) (weightUnits : Option WeightUnit) :
    MaterialDatabase :=
  { db with materials := db.materials.map fun m ↦ if m.id = id then { m with weightUnits } else m }

/-- `update`, as far as it concerns the unit; `none` stands for `undefined`. -/
def updateMaterial (heads : Uuid → MaterialHead) (db : MaterialDatabase) (id : Uuid)
    (weightUnits : Option (Option WeightUnit)) : Except ServiceError MaterialDatabase :=
  (materialToUpdate heads db id).map fun m ↦ setWeightUnits db id (weightUnits.getD m.weightUnits)

structure LedgerEntryInput where
  siteId : Uuid
  materialId : Uuid
  kind : MaterialLedgerKind
  quantity : ℚ
  unit : WeightUnit
deriving DecidableEq

def WeightUnit.name : WeightUnit → String
  | .kg => "KG"
  | .lb => "LB"
  | .g => "G"
  | .oz => "OZ"
  | .mt => "MT"
  | .ton => "TON"

def MaterialLedgerKind.name : MaterialLedgerKind → String
  | .receipt => "RECEIPT"
  | .adjustment => "ADJUSTMENT"
  | .writeOff => "WRITE_OFF"
  | .transferIn => "TRANSFER_IN"
  | .transferOut => "TRANSFER_OUT"
  | .openingBalance => "OPENING_BALANCE"
  | .production => "PRODUCTION"

/-- `outflowKinds`. -/
def MaterialLedgerKind.isOutflow (kind : MaterialLedgerKind) : Bool :=
  [writeOff, transferOut].contains kind

/-- `inflowKinds`. -/
def MaterialLedgerKind.isInflow (kind : MaterialLedgerKind) : Bool :=
  [receipt, transferIn, openingBalance].contains kind

/-- The row of a manual entry. -/
def LedgerEntryInput.entry (input : LedgerEntryInput) (id : Uuid) (createdAt : Time) :
    MaterialLedgerEntry :=
  ⟨id, input.siteId, input.materialId, input.kind, input.quantity, input.unit, createdAt⟩

/-- The checks of `create`. -/
def checkLedgerEntry (heads : Uuid → MaterialHead) (db : MaterialDatabase)
    (input : LedgerEntryInput) : Except ServiceError Unit :=
  match db.material input.materialId with
  | none => .error ⟨"Material not found", "MATERIAL_NOT_FOUND"⟩
  | some m =>
    if m.deletedAt.isSome then .error ⟨"Material not found", "MATERIAL_NOT_FOUND"⟩
    else if (heads m.id).siteId ≠ input.siteId then
      .error ⟨"Material does not belong to the given site", "SITE_MISMATCH"⟩
    else if m.weightUnits.any fun canonicalUnit ↦ decide (input.unit ≠ canonicalUnit) then
      .error ⟨"Ledger unit " ++ input.unit.name ++ " does not match material canonical unit "
        ++ (m.weightUnits.map WeightUnit.name).getD "null", "UNIT_MISMATCH"⟩
    else if input.quantity = 0 then .error ⟨"Quantity must be non-zero", "INVALID_QUANTITY"⟩
    else if input.kind.isOutflow && decide (0 < input.quantity) then
      .error ⟨input.kind.name ++ " quantity must be negative", "INVALID_SIGN"⟩
    else if input.kind.isInflow && decide (input.quantity < 0) then
      .error ⟨input.kind.name ++ " quantity must be positive", "INVALID_SIGN"⟩
    else .ok ()

/-! ## Calls one after the other -/

inductive UnitCall
  | update (id : Uuid) (weightUnits : Option (Option WeightUnit))
  | createEntry (input : LedgerEntryInput) (id : Uuid) (createdAt : Time)
  | cycle (c : CycleClose) (newId : UsageScope → Uuid)
  | flush (shiftInstanceId : Uuid) (now : Time) (ledgerId : FlushKey → Uuid)

/-- The database, the manual entries, and what cycles have booked. -/
structure BookedState extends MaterialState where
  manual : List MaterialLedgerEntry

/-- The entries of the start count as manual ones, and the open staging rows as booked in their
unit. -/
def BookedState.init (db : MaterialDatabase) : BookedState where
  db := db
  bookings := (db.usage.rows.filter fun r ↦ r.flushedAt.isNone).map fun r ↦
    ⟨r.id, r.scope.materialId, r.quantity, r.unit, r.quantity⟩
  manual := db.ledger.rows

/-- One call after the other; a refused one changes nothing, and a transaction that fails is rolled
back, and no step. -/
def unitStep (heads : Uuid → MaterialHead) (call : UnitCall) (s : BookedState) :
    Option BookedState :=
  match call with
  | .update id weightUnits =>
    match updateMaterial heads s.db id weightUnits with
    | .error _ => some s
    | .ok db => some { s with db }
  | .createEntry input id createdAt =>
    match checkLedgerEntry heads s.db input with
    | .error _ => some s
    | .ok () => (s.db.write (.createLedgerEntry (input.entry id createdAt))).map fun db ↦
        { s with db, manual := s.manual ++ [input.entry id createdAt] }
  | .cycle c newId => (materialStep (.cycle c newId) s.toMaterialState).map fun m ↦
      { s with toMaterialState := m }
  | .flush shiftInstanceId now ledgerId =>
    (materialStep (.flush shiftInstanceId now ledgerId) s.toMaterialState).map fun m ↦
      { s with toMaterialState := m }

/-! ## What has been booked on a material -/

/-- What an entry adds to a material, in a unit. -/
def MaterialLedgerEntry.worth (materialId : Uuid) (unit : WeightUnit) (e : MaterialLedgerEntry) :
    ℚ :=
  if e.materialId = materialId then convertWeight e.quantity e.unit unit else 0

/-- What a booking takes from a material, in a unit. -/
def Booking.worth (materialId : Uuid) (unit : WeightUnit) (b : Booking) : ℚ :=
  if b.materialId = materialId then convertWeight b.weight b.unit unit else 0

/-- The number that a booking takes from a material. -/
def Booking.bare (materialId : Uuid) (b : Booking) : ℚ :=
  if b.materialId = materialId then b.quantity else 0

namespace BookedState

/-- The manual entries less the consumption, each converted from the unit it was booked in. -/
def net (s : BookedState) (materialId : Uuid) (unit : WeightUnit) : ℚ :=
  (s.manual.map (MaterialLedgerEntry.worth materialId unit)).sum
    - (s.bookings.map (Booking.worth materialId unit)).sum

/-- The numbers of the manual entries less those of the consumption, whatever their units. -/
def bare (s : BookedState) (materialId : Uuid) : ℚ :=
  (s.manual.map (MaterialLedgerEntry.amount materialId none)).sum
    - (s.bookings.map (Booking.bare materialId)).sum

/-- The balance of every material is in the unit it names. -/
def InNamedUnit (s : BookedState) : Prop :=
  ∀ m unit, (balance s.db m none).unit = some unit → (balance s.db m none).balance = s.net m unit

end BookedState

/-- A material with the unit `old` may get the unit `new`: from another unit only when what has been
booked comes to nothing, and from none when the numbers that have been booked come to the same in
the new unit. -/
def UnitFits (s : BookedState) (id : Uuid) : Option WeightUnit → Option WeightUnit → Prop
  | _, none => True
  | some old, some new => old = new ∨ s.net id old = 0
  | none, some new => s.bare id = s.net id new

/-- The condition on a call: an update gives a unit that fits. -/
def KeepsUnit (heads : Uuid → MaterialHead) (s : BookedState) : UnitCall → Prop
  | .update id weightUnits => ∀ m ∈ (materialToUpdate heads s.db id).toOption,
      UnitFits s id m.weightUnits (weightUnits.getD m.weightUnits)
  | _ => True

instance decidableUnitFits (s : BookedState) (id : Uuid) :
    ∀ old new, Decidable (UnitFits s id old new)
  | none, none | some _, none => isTrue trivial
  | some old, some new => inferInstanceAs (Decidable (old = new ∨ s.net id old = 0))
  | none, some new => inferInstanceAs (Decidable (s.bare id = s.net id new))

instance decidableKeepsUnit (heads : Uuid → MaterialHead) (s : BookedState) :
    ∀ call, Decidable (KeepsUnit heads s call)
  | .update id weightUnits =>
    inferInstanceAs (Decidable (∀ m ∈ (materialToUpdate heads s.db id).toOption,
      UnitFits s id m.weightUnits (weightUnits.getD m.weightUnits)))
  | .createEntry _ _ _ | .cycle _ _ | .flush _ _ _ => isTrue trivial

/-! ## Numbers and units -/

section

variable {s s' : BookedState} {m : Uuid}

theorem convertWeight_convert (value : ℚ) (source a b : WeightUnit) :
    convertWeight value source b
      = convertWeight value source a * weightToGrams a / weightToGrams b := by
  rw [convertWeight_eq, convertWeight_eq, div_mul_cancel₀ _ (weightToGrams_pos a).ne']

/-- A unit is as good as any other. -/
theorem BookedState.net_convert (s : BookedState) (m : Uuid) (a b : WeightUnit) :
    s.net m b = s.net m a * weightToGrams a / weightToGrams b := by
  have hmanual : MaterialLedgerEntry.worth m b
      = fun e ↦ e.worth m a * (weightToGrams a / weightToGrams b) := by
    funext e
    rw [MaterialLedgerEntry.worth, MaterialLedgerEntry.worth]
    split
    · rw [convertWeight_convert e.quantity e.unit a b, mul_div_assoc]
    · rw [zero_mul]
  have hbookings : Booking.worth m b
      = fun x ↦ x.worth m a * (weightToGrams a / weightToGrams b) := by
    funext x
    rw [Booking.worth, Booking.worth]
    split
    · rw [convertWeight_convert x.weight x.unit a b, mul_div_assoc]
    · rw [zero_mul]
  rw [net, net, hmanual, hbookings, List.sum_map_mul_right, List.sum_map_mul_right]
  ring

/-- What has been booked is the same number in two units if they are one unit, or it comes to
nothing. -/
theorem BookedState.net_eq_iff {a b : WeightUnit} :
    s.net m a = s.net m b ↔ a = b ∨ s.net m a = 0 := by
  constructor
  · intro h
    by_cases hzero : s.net m a = 0
    · exact .inr hzero
    · refine .inl (weightToGrams_injective ?_)
      rw [s.net_convert m a b, eq_div_iff (weightToGrams_pos b).ne'] at h
      exact (mul_left_cancel₀ hzero h).symm
  · rintro (rfl | hzero)
    · rfl
    · rw [s.net_convert m a b, hzero, zero_mul, zero_div]

/-! ## What the calls do -/

/-- The balance adds the bare numbers. -/
def AddsBare (s : BookedState) : Prop := ∀ m, onHand s.db m = s.bare m

theorem addsBare_init (db : MaterialDatabase) : AddsBare (.init db) := by
  intro m
  have hstaged : ((db.usage.rows.filter fun r ↦ r.flushedAt.isNone).map fun r ↦
      (⟨r.id, r.scope.materialId, r.quantity, r.unit, r.quantity⟩ : Booking)).map (Booking.bare m)
        = (db.usage.rows.filter fun r ↦ r.flushedAt.isNone).map fun r ↦
          if r.scope.materialId = m then r.quantity else 0 := by
    rw [List.map_map]
    rfl
  rw [onHand_eq, BookedState.bare, BookedState.init, hstaged, Table.sum_filter]
  congr 2
  refine List.map_congr_left fun r _ ↦ ?_
  rw [MaterialShiftUsage.staged, ← ite_and]
  simp only [Option.isNone_iff_eq_none, and_comm]

theorem materials_of_books {jobId : Uuid} {newId : UsageScope → Uuid} {want : List UsageRow}
    {db db' : MaterialDatabase} {bookings : List Booking}
    (h : Books jobId newId want db bookings db') : db'.materials = db.materials := by
  refine h.keeps (P := fun x ↦ x.materials = db.materials) ?_ ?_ rfl
  · intro x x' r hx _ _ hwrite
    obtain ⟨usage, -, rfl⟩ := Option.map_eq_some_iff.mp hwrite
    exact hx
  · intro x x' r quantity itemCount hx hfind _ hwrite
    rw [MaterialDatabase.write, hfind, if_pos Option.isSome_some] at hwrite
    cases hwrite
    exact hx

/-- A cycle books the quantities in the canonical units. -/
theorem quantity_of_books {jobId : Uuid} {newId : UsageScope → Uuid} {want : List UsageRow}
    {db db' : MaterialDatabase} {bookings : List Booking}
    (h : Books jobId newId want db bookings db') : ∀ b ∈ bookings, ∃ w ∈ want, ∃ unit,
      w.materialUnit = some unit ∧ w.materialId = b.materialId ∧
        b.quantity = convertWeight b.weight b.unit unit := by
  induction h with
  | nil => exact fun _ hb ↦ absurd hb List.not_mem_nil
  | noUnit _ _ ih =>
    intro b hb
    obtain ⟨w, hw, hrest⟩ := ih b hb
    exact ⟨w, List.mem_cons_of_mem _ hw, hrest⟩
  | frozen _ _ _ _ ih =>
    intro b hb
    obtain ⟨w, hw, hrest⟩ := ih b hb
    exact ⟨w, List.mem_cons_of_mem _ hw, hrest⟩
  | increment hunit _ _ _ _ ih =>
    intro b hb
    rcases List.mem_cons.mp hb with rfl | hb
    · exact ⟨_, List.mem_cons_self, _, hunit, rfl, rfl⟩
    · obtain ⟨w, hw, hrest⟩ := ih b hb
      exact ⟨w, List.mem_cons_of_mem _ hw, hrest⟩
  | create hunit _ _ _ ih =>
    intro b hb
    rcases List.mem_cons.mp hb with rfl | hb
    · exact ⟨_, List.mem_cons_self, _, hunit, rfl, rfl⟩
    · obtain ⟨w, hw, hrest⟩ := ih b hb
      exact ⟨w, List.mem_cons_of_mem _ hw, hrest⟩

theorem material_setWeightUnits (db : MaterialDatabase) (id m : Uuid)
    (weightUnits : Option WeightUnit) : (setWeightUnits db id weightUnits).material m
      = (db.material m).map fun a ↦ if a.id = id then { a with weightUnits } else a := by
  rw [MaterialDatabase.material, setWeightUnits, List.find?_map]
  congr 1
  refine List.find?_congr fun a _ ↦ ?_
  rw [Function.comp_apply]
  split <;> rfl

theorem id_of_material {db : MaterialDatabase} {a : Material} (h : db.material m = some a) :
    a.id = m := by
  have hid := List.find?_some h
  exact eq_of_beq hid

/-- The canonical unit of a material. -/
def MaterialDatabase.unitOf (db : MaterialDatabase) (m : Uuid) : Option WeightUnit :=
  (db.material m).bind Material.weightUnits

/-- What a call has booked: entries in the canonical units, and quantities in them. -/
structure Records (s s' : BookedState) (entries : List MaterialLedgerEntry)
    (later : List Booking) : Prop where
  manual : s'.manual = s.manual ++ entries
  bookings : s'.bookings = s.bookings ++ later
  materials : s'.db.materials = s.db.materials
  onHand : ∀ m, onHand s'.db m = onHand s.db m
    + (entries.map (MaterialLedgerEntry.amount m none)).sum - (later.map (Booking.bare m)).sum
  unit : ∀ e ∈ entries, ∀ unit, s.db.unitOf e.materialId = some unit → e.unit = unit
  quantity : ∀ b ∈ later, ∀ unit, s.db.unitOf b.materialId = some unit →
    b.quantity = convertWeight b.weight b.unit unit

namespace Records

variable {entries : List MaterialLedgerEntry} {later : List Booking}

theorem refl (s : BookedState) : Records s s [] [] where
  manual := (List.append_nil _).symm
  bookings := (List.append_nil _).symm
  materials := rfl
  onHand m := by simp
  unit _ he := absurd he List.not_mem_nil
  quantity _ hb := absurd hb List.not_mem_nil

theorem addsBare (h : Records s s' entries later) (hbare : AddsBare s) : AddsBare s' := by
  intro m
  rw [h.onHand, hbare m, BookedState.bare, BookedState.bare, h.manual, h.bookings,
    List.map_append, List.sum_append, List.map_append, List.sum_append]
  ring

/-- **What is booked in the canonical unit keeps the balance in it.** -/
theorem inNamedUnit (h : Records s s' entries later) (hlaw : s.InNamedUnit) : s'.InNamedUnit := by
  intro m unit hunit
  have hmaterial : s'.db.unitOf m = s.db.unitOf m := by
    rw [MaterialDatabase.unitOf, MaterialDatabase.material, h.materials]
    rfl
  have hunit' : s.db.unitOf m = some unit := hmaterial.symm.trans hunit
  have hentries : entries.map (MaterialLedgerEntry.amount m none)
      = entries.map (MaterialLedgerEntry.worth m unit) := by
    refine List.map_congr_left fun e he ↦ ?_
    rw [MaterialLedgerEntry.amount, MaterialLedgerEntry.worth]
    simp only [Option.all_none, and_true]
    split
    · rename_i hm
      rw [h.unit e he unit (hm ▸ hunit'), convertWeight_self]
    · rfl
  have hlater : later.map (Booking.bare m) = later.map (Booking.worth m unit) := by
    refine List.map_congr_left fun b hb ↦ ?_
    rw [Booking.bare, Booking.worth]
    split
    · rename_i hm
      rw [h.quantity b hb unit (hm ▸ hunit')]
    · rfl
  have hold := hlaw m unit hunit'
  have hnew := h.onHand m
  rw [RwServer.onHand, RwServer.onHand, hold, hentries, hlater] at hnew
  rw [hnew, BookedState.net, BookedState.net, h.manual, h.bookings, List.map_append,
    List.sum_append, List.map_append, List.sum_append]
  ring

end Records

variable {heads : Uuid → MaterialHead}

theorem records_of_createEntry {input : LedgerEntryInput} {id : Uuid} {createdAt : Time}
    (h : unitStep heads (.createEntry input id createdAt) s = some s') :
    ∃ entries, Records s s' entries [] := by
  rw [unitStep] at h
  split at h
  · cases h
    exact ⟨[], .refl s⟩
  · rename_i hcheck
    obtain ⟨db', hwrite, rfl⟩ := Option.map_eq_some_iff.mp h
    obtain ⟨ledger, hledger, rfl⟩ := Option.map_eq_some_iff.mp hwrite
    refine ⟨[input.entry id createdAt], ⟨rfl, (List.append_nil _).symm, rfl, fun m ↦ ?_,
      fun e he unit hunit ↦ ?_, fun _ hb ↦ absurd hb List.not_mem_nil⟩⟩
    · rw [onHand_eq, onHand_eq, MaterialDatabase.setLedger, Table.sum_insert hledger]
      simp only [List.map_cons, List.map_nil, List.sum_cons, List.sum_nil]
      ring
    · rw [List.mem_singleton.mp he] at hunit ⊢
      obtain ⟨a, ha, haunit⟩ := Option.bind_eq_some_iff.mp hunit
      rw [checkLedgerEntry, show s.db.material input.materialId = some a from ha] at hcheck
      dsimp only at hcheck
      split_ifs at hcheck with hdeleted hsite hmismatch
      rw [haunit] at hmismatch
      by_contra hne
      exact hmismatch (decide_eq_true hne)

theorem records_of_cycle {c : CycleClose} {newId : UsageScope → Uuid}
    (h : unitStep heads (.cycle c newId) s = some s') : ∃ later, Records s s' [] later := by
  rw [unitStep] at h
  obtain ⟨next, hnext, rfl⟩ := Option.map_eq_some_iff.mp h
  obtain ⟨later, hbooks, hbookings⟩ := books_of_cycle hnext
  refine ⟨later, ⟨(List.append_nil _).symm, hbookings, materials_of_books hbooks, fun m ↦ ?_,
    fun _ he ↦ absurd he List.not_mem_nil, fun b hb unit hunit ↦ ?_⟩⟩
  · rw [onHand_books hbooks m, List.map_nil, List.sum_nil, add_zero]
    rfl
  · obtain ⟨w, hw, unit', hunit', hmaterial, hquantity⟩ := quantity_of_books hbooks b hb
    have hsame : s.db.unitOf b.materialId = some unit' := by
      rw [← hunit', materialUnit_of_want hw, hmaterial]
      rfl
    rw [hsame, Option.some_inj] at hunit
    rw [hquantity, hunit]

theorem records_of_flush {shiftInstanceId : Uuid} {now : Time} {ledgerId : FlushKey → Uuid}
    (h : unitStep heads (.flush shiftInstanceId now ledgerId) s = some s') :
    Records s s' [] [] := by
  rw [unitStep] at h
  obtain ⟨next, hnext, rfl⟩ := Option.map_eq_some_iff.mp h
  obtain ⟨hflush, hbookings⟩ := flushes_of_flush hnext
  obtain ⟨usage, ledger, hframe⟩ := hflush.frame
  refine ⟨(List.append_nil _).symm, ?_, ?_, fun m ↦ ?_, fun _ he ↦ absurd he List.not_mem_nil,
    fun _ hb ↦ absurd hb List.not_mem_nil⟩
  · rw [List.append_nil]
    exact hbookings
  · dsimp only
    rw [hframe]
  · rw [List.map_nil, List.map_nil, List.sum_nil, add_zero, sub_zero]
    exact hflush.balance_eq m fun t ht ↦ absurd ht (by simp)

/-- An update is refused, or the material gets its unit. -/
theorem update_cases {id : Uuid} {weightUnits : Option (Option WeightUnit)}
    (h : unitStep heads (.update id weightUnits) s = some s') :
    (s' = s ∧ (materialToUpdate heads s.db id).toOption = none) ∨
      ∃ a, (materialToUpdate heads s.db id).toOption = some a ∧ s.db.material id = some a ∧
        s' = { s with db := setWeightUnits s.db id (weightUnits.getD a.weightUnits) } := by
  rw [unitStep, updateMaterial] at h
  cases hfound : materialToUpdate heads s.db id with
  | error e =>
    rw [hfound] at h
    cases h
    exact .inl ⟨rfl, rfl⟩
  | ok a =>
    rw [hfound] at h
    cases h
    refine .inr ⟨a, rfl, ?_, rfl⟩
    rw [materialToUpdate] at hfound
    split at hfound
    · cases hfound
    · rename_i b hb
      split_ifs at hfound
      cases hfound
      exact hb

/-- **A new unit keeps the balances in the units they name** exactly when it fits. -/
theorem inNamedUnit_setWeightUnits_iff {id : Uuid} {a : Material} {new : Option WeightUnit}
    (hbare : AddsBare s) (hlaw : s.InNamedUnit) (ha : s.db.material id = some a) :
    BookedState.InNamedUnit { s with db := setWeightUnits s.db id new } ↔
      UnitFits s id a.weightUnits new := by
  have hother : ∀ m ≠ id, (setWeightUnits s.db id new).unitOf m = s.db.unitOf m := by
    intro m hm
    rw [MaterialDatabase.unitOf, material_setWeightUnits, MaterialDatabase.unitOf]
    cases hfound : s.db.material m with
    | none => rfl
    | some b =>
      rw [Option.map_some, if_neg (id_of_material hfound ▸ hm)]
  have hself : (setWeightUnits s.db id new).unitOf id = new := by
    rw [MaterialDatabase.unitOf, material_setWeightUnits, ha, Option.map_some,
      if_pos (id_of_material ha)]
    rfl
  have hold : ∀ old, a.weightUnits = some old → onHand s.db id = s.net id old := by
    intro old hunit
    refine hlaw id old ?_
    rw [balance, ha]
    exact hunit
  constructor
  · intro hnew
    cases new with
    | none => cases a.weightUnits <;> exact trivial
    | some unit =>
      have hunit : onHand s.db id = s.net id unit := hnew id unit hself
      cases hu : a.weightUnits with
      | none =>
        rw [UnitFits, ← hunit]
        exact (hbare id).symm
      | some old => exact BookedState.net_eq_iff.mp ((hold old hu).symm.trans hunit)
  · intro hfits m unit hunit
    by_cases hm : m = id
    · subst hm
      cases hself.symm.trans hunit
      refine Eq.trans (show _ = onHand s.db m from rfl) ?_
      cases hu : a.weightUnits with
      | none =>
        rw [hu, UnitFits] at hfits
        exact (hbare m).trans hfits
      | some old =>
        rw [hu] at hfits
        exact (hold old hu).trans (BookedState.net_eq_iff.mpr hfits)
    · exact hlaw m unit ((hother m hm).symm.trans hunit)

theorem addsBare_step {call : UnitCall} (hbare : AddsBare s)
    (hstep : unitStep heads call s = some s') : AddsBare s' := by
  cases call with
  | update id weightUnits =>
    obtain ⟨rfl, -⟩ | ⟨a, -, -, rfl⟩ := update_cases hstep
    · exact hbare
    · exact hbare
  | createEntry input id createdAt =>
    obtain ⟨entries, hrecords⟩ := records_of_createEntry hstep
    exact hrecords.addsBare hbare
  | cycle c newId =>
    obtain ⟨later, hrecords⟩ := records_of_cycle hstep
    exact hrecords.addsBare hbare
  | flush shiftInstanceId now ledgerId => exact (records_of_flush hstep).addsBare hbare

/-- **One call keeps the balances in the units they name** exactly when it meets the condition. -/
theorem inNamedUnit_step_iff {call : UnitCall} (hbare : AddsBare s) (hlaw : s.InNamedUnit)
    (hstep : unitStep heads call s = some s') : s'.InNamedUnit ↔ KeepsUnit heads s call := by
  cases call with
  | update id weightUnits =>
    rw [KeepsUnit]
    obtain ⟨rfl, hnone⟩ | ⟨a, hfound, ha, rfl⟩ := update_cases hstep
    · rw [hnone]
      exact iff_of_true hlaw nofun
    · rw [inNamedUnit_setWeightUnits_iff hbare hlaw ha, hfound]
      simp only [Option.mem_def, Option.some.injEq, forall_eq']
  | createEntry input id createdAt =>
    obtain ⟨entries, hrecords⟩ := records_of_createEntry hstep
    exact iff_of_true (hrecords.inNamedUnit hlaw) trivial
  | cycle c newId =>
    obtain ⟨later, hrecords⟩ := records_of_cycle hstep
    exact iff_of_true (hrecords.inNamedUnit hlaw) trivial
  | flush shiftInstanceId now ledgerId =>
    exact iff_of_true ((records_of_flush hstep).inNamedUnit hlaw) trivial

/-- Before anything has been booked. -/
theorem inNamedUnit_init {db : MaterialDatabase} (hledger : db.ledger.rows = [])
    (husage : db.usage.rows = []) : (BookedState.init db).InNamedUnit := by
  intro m unit _
  refine (addsBare_init db m).trans ?_
  rw [BookedState.bare, BookedState.net, BookedState.init]
  dsimp only
  rw [hledger, husage]
  rfl

/-- **The balance of every material is in the unit it names**, in every run whose updates of units
fit; and a run after whose every call this is so is one of these. -/
theorem balance_inNamedUnit {db : MaterialDatabase} {calls : List UnitCall}
    (h₀ : (BookedState.init db).InNamedUnit) :
    (Run (unitStep heads) (KeepsUnit heads) (.init db) calls s → ∀ m unit,
      (balance s.db m none).unit = some unit → (balance s.db m none).balance = s.net m unit) ∧
    (Run (unitStep heads) (KeepsUnit heads) (.init db) calls s ↔
      Run (unitStep heads) (fun t call ↦ ∀ t', unitStep heads call t = some t' → t'.InNamedUnit)
        (.init db) calls s) := by
  constructor
  · intro hrun
    suffices hkept : AddsBare s ∧ s.InNamedUnit from hkept.2
    induction hrun with
    | nil => exact ⟨addsBare_init db, h₀⟩
    | snoc _ hok hstep ih =>
      exact ⟨addsBare_step ih.1 hstep, (inNamedUnit_step_iff ih.1 ih.2 hstep).mpr hok⟩
  · exact run_iff_run_keeping ⟨addsBare_init db, h₀⟩
      (fun _ _ _ hbare hstep ↦ addsBare_step hbare hstep)
      fun _ _ _ hbare hlaw hstep ↦ inNamedUnit_step_iff hbare hlaw hstep

end

/-- The material is in the site 1, and has a blob. -/
def sampleHead (_ : Uuid) : MaterialHead := ⟨1, true⟩

def sampleEntry (kind : MaterialLedgerKind) (quantity : ℚ) (unit : WeightUnit) (id : Uuid) :
    UnitCall :=
  .createEntry ⟨1, 7, kind, quantity, unit⟩ id 0

/-- Ten kilograms come in, a cycle uses two, and the rest is written off. Then the material is
stocked in grams, and five hundred of them come in. -/
theorem balance_inNamedUnit_restocked : ∃ s : BookedState,
    (balance s.db 7 none).balance = 500 ∧ (balance s.db 7 none).unit = some .g ∧
      (balance s.db 7 none).balance = s.net 7 .g := by
  have hexecute : (execute (unitStep sampleHead) (KeepsUnit sampleHead)
      [sampleEntry .receipt 10 .kg 40,
        .cycle ⟨1, 2, 6, 10, [⟨5, 0, 1, 0⟩]⟩ fun _ ↦ 20,
        .flush 3 2000 fun _ ↦ 30, sampleEntry .writeOff (-8) .kg 41,
        .update 7 (some (some .g)), sampleEntry .receipt 500 .g 42] (.init sampleMaterials)).any
      (fun s ↦ decide ((balance s.db 7 none).balance = 500 ∧
        (balance s.db 7 none).unit = some .g)) = true := by
    decide +kernel
  obtain ⟨s, hs, hfacts⟩ := (Option.any_eq_true _ _).mp hexecute
  obtain ⟨hbalance, hunit⟩ := of_decide_eq_true hfacts
  exact ⟨s, hbalance, hunit,
    (balance_inNamedUnit (inNamedUnit_init rfl rfl)).1 (run_of_execute hs) 7 .g hunit⟩

/-- **Ten kilograms become ten grams**, when the material is stocked in grams from now on. -/
theorem not_balance_inNamedUnit : ∃ s : BookedState,
    Run (unitStep sampleHead) (fun _ _ ↦ True) (.init sampleMaterials)
      [sampleEntry .receipt 10 .kg 40, .update 7 (some (some .g))] s ∧
    (balance s.db 7 none).unit = some .g ∧ (balance s.db 7 none).balance = 10 ∧
      s.net 7 .g = 10000 := by
  have hexecute : (execute (unitStep sampleHead) (fun _ _ ↦ True)
      [sampleEntry .receipt 10 .kg 40, .update 7 (some (some .g))] (.init sampleMaterials)).any
      (fun s ↦ decide ((balance s.db 7 none).unit = some .g ∧
        (balance s.db 7 none).balance = 10 ∧ s.net 7 .g = 10000)) = true := by
    decide +kernel
  obtain ⟨s, hs, hfacts⟩ := (Option.any_eq_true _ _).mp hexecute
  exact ⟨s, run_of_execute hs, of_decide_eq_true hfacts⟩

end RwServer
