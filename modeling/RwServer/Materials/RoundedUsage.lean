import Mathlib
import RwServer.Foundation.FixedPoint
import RwServer.Materials.Balance

/-!
# Rounded usage

The quantity of a staging row is a column of four decimals. What a cycle adds, in the unit of the
row, is rounded each time on its own, so that a row does not hold what its cycles have consumed,
rounded once, but as many rounded amounts as there were cycles (`stored_bookCycles`). A part of ten
grams, of a material that is stocked in tonnes, is never consumed.
-/

namespace RwServer

open Relational ReadCommitted FixedPoint

/-! ## The column -/

/-- `Decimal(18, 4)`. -/
def columnScale : ℕ := 10000

/-- `quantity: { increment: .. }`, of a column that rounds. -/
def MaterialShiftUsage.incrementRounded (quantity : ℚ) (itemCount : ℤ) (r : MaterialShiftUsage) :
    MaterialShiftUsage :=
  { r with
    quantity := toScale columnScale (r.quantity + quantity)
    itemCount := r.itemCount + itemCount }

theorem MaterialShiftUsage.mild_incrementRounded (quantity : ℚ) (itemCount : ℤ) :
    Table.Mild usageSchema (incrementRounded quantity itemCount) where
  key _ := rfl
  clash _ _ h := h

namespace MaterialDatabase

variable (db : MaterialDatabase)

/-- Carry out a statement on a column that rounds. -/
def writeRounded : MaterialWrite → Option MaterialDatabase
  | .createUsage r => db.write (.createUsage { r with
      quantity := toScale columnScale r.quantity })
  | .incrementUsage id quantity itemCount =>
    if (db.usage.find id).isSome then
      some (db.setUsage (db.usage.modify (fun r ↦ decide (r.id = id))
        (MaterialShiftUsage.incrementRounded quantity itemCount)
        (MaterialShiftUsage.mild_incrementRounded quantity itemCount)))
    else none
  | w => db.write w

/-- The quantity of the row of a scope; without a row, nothing has been used. -/
def stored (scope : UsageScope) : ℚ :=
  ((db.findScope scope).map MaterialShiftUsage.quantity).getD 0

end MaterialDatabase

/-- The database of rounding columns as a store of transactions. -/
def roundedStore : Store MaterialDatabase MaterialWrite :=
  ⟨MaterialDatabase.writeRounded, MaterialWrite.conflict⟩

/-- Cycles one after the other, each with the ids of its new rows. -/
def bookCycles : List (CycleClose × (UsageScope → Uuid)) → MaterialDatabase →
    Option MaterialDatabase
  | [], db => some db
  | x :: rest, db =>
    ((bookCycle x.1 x.2).alone roundedStore db).bind fun r ↦ bookCycles rest r.1

/-! ## Statements -/

section

variable {db db' : MaterialDatabase} {scope : UsageScope} {r : MaterialShiftUsage}

/-- The row of a scope is the only one. -/
theorem findScope_eq_some_iff :
    db.findScope scope = some r ↔ r ∈ db.usage.rows ∧ r.scope = scope := by
  constructor
  · intro h
    exact ⟨List.mem_of_find?_eq_some h, of_decide_eq_true
      (List.find?_some (p := fun r : MaterialShiftUsage ↦ decide (r.scope = scope)) h)⟩
  · rintro ⟨hr, rfl⟩
    obtain ⟨a, ha⟩ : ∃ a, db.findScope r.scope = some a :=
      Option.isSome_iff_exists.mp (List.find?_isSome.mpr ⟨r, hr, decide_eq_true rfl⟩)
    have hscope : a.scope = r.scope := of_decide_eq_true
      (List.find?_some (p := fun a : MaterialShiftUsage ↦ decide (a.scope = r.scope)) ha)
    by_contra hne
    have hclash := db.usage.clash_eq_false (List.mem_of_find?_eq_some ha) hr fun h ↦
      hne (h ▸ ha)
    rw [show usageSchema.clash a r = (a.scope == r.scope) from rfl, hscope,
      beq_self_eq_true] at hclash
    cases hclash

/-- Two databases with the same rows of a scope have the same one. -/
theorem findScope_congr (h : ∀ a : MaterialShiftUsage, a.scope = scope →
    (a ∈ db'.usage.rows ↔ a ∈ db.usage.rows)) : db'.findScope scope = db.findScope scope := by
  ext a
  rw [findScope_eq_some_iff, findScope_eq_some_iff]
  exact ⟨fun ha ↦ ⟨(h a ha.2).mp ha.1, ha.2⟩, fun ha ↦ ⟨(h a ha.2).mpr ha.1, ha.2⟩⟩

/-- A new row is the one of its scope. -/
theorem findScope_createRounded (hwrite : db.writeRounded (.createUsage r) = some db')
    (scope : UsageScope) :
    db'.findScope scope = if r.scope = scope then
      some { r with quantity := toScale columnScale r.quantity } else db.findScope scope := by
  obtain ⟨usage, husage, rfl⟩ := Option.map_eq_some_iff.mp hwrite
  have hrows := Table.rows_of_insert husage
  split
  · rename_i hscope
    refine findScope_eq_some_iff.mpr ⟨?_, hscope⟩
    rw [MaterialDatabase.setUsage, hrows]
    exact List.mem_append_right _ List.mem_cons_self
  · rename_i hscope
    refine findScope_congr fun a ha ↦ ?_
    rw [MaterialDatabase.setUsage, hrows, List.mem_append, List.mem_singleton]
    refine or_iff_left fun heq ↦ hscope ?_
    rw [← ha, heq]

/-- An increment changes the row of its scope only. -/
theorem findScope_incrementRounded {quantity : ℚ} {itemCount : ℤ} (hr : r ∈ db.usage.rows)
    (hwrite : db.writeRounded (.incrementUsage r.id quantity itemCount) = some db')
    (scope : UsageScope) :
    db'.findScope scope = if r.scope = scope then
      some (r.incrementRounded quantity itemCount) else db.findScope scope := by
  rw [MaterialDatabase.writeRounded] at hwrite
  split at hwrite
  · cases hwrite
    have hmem : ∀ b, b ∈ (db.usage.modify (fun a ↦ decide (a.id = r.id))
        (MaterialShiftUsage.incrementRounded quantity itemCount)
        (MaterialShiftUsage.mild_incrementRounded quantity itemCount)).rows ↔
          b = r.incrementRounded quantity itemCount ∨ b ∈ db.usage.rows ∧ b.id ≠ r.id :=
      fun b ↦ db.usage.mem_modify_key _ hr
    split
    · rename_i hscope
      exact findScope_eq_some_iff.mpr ⟨(hmem _).mpr (.inl rfl), hscope⟩
    · rename_i hscope
      refine findScope_congr fun a ha ↦ (hmem a).trans ?_
      constructor
      · rintro (rfl | h)
        · exact absurd ha hscope
        · exact h.1
      · intro h
        refine .inr ⟨h, fun hid ↦ hscope ?_⟩
        rw [← ha, db.usage.eq_of_key_eq h hr hid]
  · exact absurd hwrite (by simp)

/-- A statement on the usage leaves what the cycles want. -/
theorem want_writeRounded {w : MaterialWrite} (hwrite : db.writeRounded w = some db')
    (c : CycleClose) : db'.want c = db.want c := by
  have hinsert : ∀ {r : MaterialShiftUsage} {db' : MaterialDatabase},
      db.write (.createUsage r) = some db' → db'.want c = db.want c := by
    intro r db' h
    obtain ⟨usage, -, rfl⟩ := Option.map_eq_some_iff.mp h
    rfl
  cases w with
  | createUsage r => exact hinsert hwrite
  | incrementUsage id quantity itemCount =>
    rw [MaterialDatabase.writeRounded] at hwrite
    split at hwrite
    · cases hwrite
      rfl
    · exact absurd hwrite (by simp)
  | lockUsage ids =>
    cases hwrite
    rfl
  | stampUsage ids flushedAt ledgerId =>
    cases hwrite
    rfl
  | createLedgerEntry e =>
    obtain ⟨ledger, -, rfl⟩ := Option.map_eq_some_iff.mp hwrite
    rfl

end

/-! ## Cycles -/

/-- The quantity of a row after a cycle has added to it. -/
def UsageRow.addTo (w : UsageRow) (quantity : ℚ) : ℚ :=
  (w.materialUnit.map fun unit ↦ toScale columnScale (quantity + w.qtyDelta unit)).getD quantity

/-- What is left of the row of a scope by something that a cycle wants: it is not flushed, and the
quantity is one that has been added to if the scope is its own. -/
structure Adds (scope : UsageScope) (ws : List UsageRow) (db db' : MaterialDatabase) : Prop where
  isOpen : (∀ r, db.findScope scope = some r → r.flushedAt = none) →
    ∀ r, db'.findScope scope = some r → r.flushedAt = none
  stored : (∀ r, db.findScope scope = some r → r.flushedAt = none) →
    db'.stored scope = ws.foldl (fun q w ↦ w.addTo q) (db.stored scope)
  want : ∀ c, db'.want c = db.want c

section

variable {db db' db'' : MaterialDatabase} {scope : UsageScope} {r : MaterialShiftUsage}
  {w : UsageRow} {ws ws' : List UsageRow} {jobId : Uuid} {unit : WeightUnit}

theorem Adds.refl : Adds scope [] db db := ⟨id, fun _ ↦ rfl, fun _ ↦ rfl⟩

theorem Adds.trans (h : Adds scope ws db db') (h' : Adds scope ws' db' db'') :
    Adds scope (ws ++ ws') db db'' where
  isOpen hopen := h'.isOpen (h.isOpen hopen)
  stored hopen := by rw [h'.stored (h.isOpen hopen), h.stored hopen, List.foldl_append]
  want c := (h'.want c).trans (h.want c)

/-- A statement that sets the quantity of the row of its scope adds to it. -/
private theorem adds_of_findScope {row : MaterialShiftUsage} (hunit : w.materialUnit = some unit)
    (hrow : row.flushedAt = none)
    (hquantity : row.quantity
      = toScale columnScale (db.stored (w.scope jobId) + w.qtyDelta unit))
    (hfind : db'.findScope scope = if w.scope jobId = scope then some row
      else db.findScope scope) (hwant : ∀ c, db'.want c = db.want c) :
    Adds scope ([w].filter fun w ↦ decide (w.scope jobId = scope)) db db' := by
  by_cases hscope : w.scope jobId = scope
  · rw [if_pos hscope] at hfind
    refine ⟨fun _ a ha ↦ ?_, fun _ ↦ ?_, hwant⟩
    · rw [hfind] at ha
      cases ha
      exact hrow
    · rw [List.filter_singleton, decide_eq_true hscope, MaterialDatabase.stored, hfind,
        Option.map_some, Option.getD_some, hquantity, hscope]
      dsimp only [cond_true, List.foldl]
      rw [UsageRow.addTo, hunit]
      rfl
  · rw [if_neg hscope] at hfind
    refine ⟨fun hopen a ha ↦ hopen a (hfind ▸ ha), fun _ ↦ ?_, hwant⟩
    rw [List.filter_singleton, decide_eq_false hscope, MaterialDatabase.stored, hfind]
    rfl

theorem adds_create {newId : Uuid} (hunit : w.materialUnit = some unit)
    (hfree : db.findScope (w.scope jobId) = none)
    (hwrite : db.writeRounded (.createUsage (w.newUsage jobId newId unit)) = some db') :
    Adds scope ([w].filter fun w ↦ decide (w.scope jobId = scope)) db db' := by
  refine adds_of_findScope hunit rfl ?_ (findScope_createRounded hwrite scope)
    (want_writeRounded hwrite)
  rw [MaterialDatabase.stored, hfree, Option.map_none, Option.getD_none, zero_add]
  rfl

theorem adds_increment {itemCount : ℤ} (hunit : w.materialUnit = some unit)
    (hfind : db.findScope (w.scope jobId) = some r) (hopen : r.flushedAt = none)
    (hwrite : db.writeRounded (.incrementUsage r.id (w.qtyDelta unit) itemCount) = some db') :
    Adds scope ([w].filter fun w ↦ decide (w.scope jobId = scope)) db db' := by
  obtain ⟨hr, hscope⟩ := findScope_eq_some_iff.mp hfind
  have hafter := findScope_incrementRounded hr hwrite scope
  rw [hscope] at hafter
  have hrow : (r.incrementRounded (w.qtyDelta unit) itemCount).flushedAt = none := hopen
  refine adds_of_findScope hunit hrow ?_ hafter (want_writeRounded hwrite)
  rw [MaterialDatabase.stored, hfind]
  rfl

private theorem writeAll_rounded (db : MaterialDatabase) (w : MaterialWrite) :
    roundedStore.writeAll db [w] = db.writeRounded w := by
  rw [Store.writeAll_cons]
  cases h : roundedStore.write db w <;> exact h.symm

/-- Usage without a canonical unit is discarded. -/
theorem adds_noUnit (hunit : w.materialUnit = none) :
    Adds scope ([w].filter fun w ↦ decide (w.scope jobId = scope)) db db := by
  refine ⟨id, fun _ ↦ ?_, fun _ ↦ rfl⟩
  rw [List.filter_singleton]
  cases decide (w.scope jobId = scope)
  · rfl
  · rw [cond_true, List.foldl_cons, UsageRow.addTo, hunit]
    rfl

/-- Usage of another scope leaves the row alone. -/
theorem adds_frozen (hopen : ∀ r, db.findScope scope = some r → r.flushedAt = none)
    (hfind : db.findScope (w.scope jobId) = some r) (hflushed : r.flushedAt.isSome = true) :
    Adds scope ([w].filter fun w ↦ decide (w.scope jobId = scope)) db db := by
  have hne : w.scope jobId ≠ scope := by
    rintro rfl
    rw [hopen r hfind] at hflushed
    cases hflushed
  rw [List.filter_singleton, decide_eq_false hne]
  exact .refl

/-- **A cycle adds** what it wants for an open row, in the order of its query. -/
theorem adds_bookUsage {newId : UsageScope → Uuid} {want : List UsageRow} :
    ∀ {booked : List Booking} {db db' : MaterialDatabase} {result : MaterialResult},
      (bookUsage jobId newId want booked).alone roundedStore db = some (db', result) →
      (∀ r, db.findScope scope = some r → r.flushedAt = none) →
      Adds scope (want.filter fun w ↦ decide (w.scope jobId = scope)) db db' := by
  induction want with
  | nil =>
    intro booked db db' result h _
    rw [bookUsage, Program.alone, Option.some_inj, Prod.mk.injEq] at h
    rw [← h.1]
    exact .refl
  | cons w rest ih =>
    intro booked db db' result h hopen
    -- what is wanted first, and the rest
    have hcons : ∀ {db₁ : MaterialDatabase} {booked : List Booking},
        Adds scope ([w].filter fun w ↦ decide (w.scope jobId = scope)) db db₁ →
        (bookUsage jobId newId rest booked).alone roundedStore db₁ = some (db', result) →
        Adds scope ((w :: rest).filter fun w ↦ decide (w.scope jobId = scope)) db db' := by
      intro db₁ booked hfirst hrest
      rw [← List.singleton_append, List.filter_append]
      exact hfirst.trans (ih hrest (hfirst.isOpen hopen))
    rw [bookUsage] at h
    cases hunit : w.materialUnit with
    | none =>
      simp only [hunit] at h
      exact hcons (adds_noUnit hunit) h
    | some unit =>
      simp only [hunit, Program.alone_read] at h
      cases hfind : db.findScope (w.scope jobId) with
      | some r =>
        simp only [hfind] at h
        split at h
        · rename_i hflushed
          exact hcons (adds_frozen hopen hfind hflushed) h
        · rename_i hnot
          rw [Program.alone_exec, writeAll_rounded] at h
          obtain ⟨db₁, hwrite, h⟩ := Option.bind_eq_some_iff.mp h
          rw [Option.not_isSome_iff_eq_none] at hnot
          exact hcons (adds_increment hunit hfind hnot hwrite) h
      | none =>
        simp only [hfind] at h
        rw [Program.alone_exec, writeAll_rounded] at h
        obtain ⟨db₁, hwrite, h⟩ := Option.bind_eq_some_iff.mp h
        exact hcons (adds_create hunit hfind hwrite) h

end

/-! ## The quantity of a row -/

/-- The cycle takes a weight, in a unit, for the row of a scope, whose material has a canonical
unit. -/
def CycleClose.Takes (db : MaterialDatabase) (scope : UsageScope) (weight : ℚ)
    (source target : WeightUnit) (c : CycleClose) : Prop :=
  ∃ w, ((db.want c).filter fun w ↦ decide (w.scope c.jobId = scope)) = [w] ∧ w.qty = weight ∧
    w.pmUnit.getD target = source ∧ w.materialUnit = some target

section

variable {db db' : MaterialDatabase} {scope : UsageScope} {weight : ℚ} {source target : WeightUnit}
  {cycles : List (CycleClose × (UsageScope → Uuid))}

theorem convertWeight_mul (n value : ℚ) (source target : WeightUnit) :
    convertWeight (n * value) source target = n * convertWeight value source target := by
  rw [convertWeight_eq, convertWeight_eq]
  ring

/-- Further cycles add the amount as many times more. -/
private theorem stored_of_stored {db₁ : MaterialDatabase} {n : ℕ}
    (htakes : ∀ x ∈ cycles, x.1.Takes db scope weight source target)
    (hwant : ∀ c, db₁.want c = db.want c)
    (hopen : ∀ r, db₁.findScope scope = some r → r.flushedAt = none)
    (hstored : db₁.stored scope = accumulate columnScale (convertWeight weight source target) n)
    (hrun : bookCycles cycles db₁ = some db') :
    db'.stored scope
      = accumulate columnScale (convertWeight weight source target) (n + cycles.length) := by
  induction cycles generalizing db₁ n with
  | nil =>
    cases hrun
    exact hstored
  | cons x rest ih =>
    obtain ⟨⟨db₂, result⟩, hcycle, hrest⟩ := Option.bind_eq_some_iff.mp hrun
    obtain ⟨w, hone, rfl, rfl, hunit⟩ := htakes x List.mem_cons_self
    rw [bookCycle, Program.alone_read, hwant] at hcycle
    have hadds : Adds scope _ db₁ db₂ := adds_bookUsage hcycle hopen
    rw [hone] at hadds
    have hnext : db₂.stored scope
        = accumulate columnScale (convertWeight w.qty (w.pmUnit.getD target) target) (n + 1) := by
      rw [hadds.stored hopen, hstored, List.foldl_cons, List.foldl_nil, UsageRow.addTo, hunit]
      rfl
    rw [ih (fun y hy ↦ htakes y (List.mem_cons_of_mem x hy))
      (fun c ↦ (hadds.want c).trans (hwant c)) (hadds.isOpen hopen) hnext hrest,
      List.length_cons, Nat.add_assoc, Nat.add_comm 1]

/-- **The quantity after some cycles** is that of a column to which one amount has been added as
many times. -/
theorem stored_bookCycles (hnew : db.findScope scope = none)
    (hrun : bookCycles cycles db = some db')
    (htakes : ∀ x ∈ cycles, x.1.Takes db scope weight source target) :
    db'.stored scope
      = accumulate columnScale (convertWeight weight source target) cycles.length := by
  have hzero : db.stored scope
      = accumulate columnScale (convertWeight weight source target) 0 := by
    rw [MaterialDatabase.stored, hnew]
    rfl
  have hopen : ∀ r, db.findScope scope = some r → r.flushedAt = none := by
    intro r hr
    rw [hnew] at hr
    cases hr
  rw [stored_of_stored htakes (fun _ ↦ rfl) hopen hzero hrun, Nat.zero_add]

/-- **The stored quantity is the exact total, rounded once**, exactly where the error of one
rounding, times the number of cycles, is small enough. -/
theorem abs_stored_sub_le_iff (hnew : db.findScope scope = none)
    (hrun : bookCycles cycles db = some db')
    (htakes : ∀ x ∈ cycles, x.1.Takes db scope weight source target) :
    |db'.stored scope - convertWeight (cycles.length * weight) source target| ≤ 5 / 100000 ↔
      cycles.length * |toScale columnScale (convertWeight weight source target)
        - convertWeight weight source target| ≤ 5 / 100000 := by
  rw [stored_bookCycles hnew hrun htakes, convertWeight_mul,
    abs_accumulate_sub (by decide : 0 < columnScale)]

end

/-- Parts of ten grams, of a material that is stocked in tonnes. -/
def sampleTonnes : MaterialDatabase :=
  { sampleMaterials with
    materials := [⟨7, some .mt, none, none⟩]
    productMaterials := [⟨8, 5, 7, none, none, some ⟨9, some 10, some .g, 7⟩⟩] }

/-- The cycle that makes one part, with the id of a new row. -/
def samplePart : CycleClose × (UsageScope → Uuid) :=
  (⟨1, 2, 6, 10, [⟨5, 0, 1, 0⟩]⟩, fun _ ↦ 20)

/-- Three parts of two kilograms, of a material that is stocked in kilograms. -/
theorem abs_stored_sub_le_sample : ∃ db',
    bookCycles (List.replicate 3 samplePart) sampleMaterials = some db' ∧
      |db'.stored ⟨3, 2, 6, 5, 7⟩
        - convertWeight ((List.replicate 3 samplePart).length * 2) .kg .kg| ≤ 5 / 100000 := by
  have hrun : (bookCycles (List.replicate 3 samplePart) sampleMaterials).isSome = true := by
    decide +kernel
  obtain ⟨db', hdb'⟩ := Option.isSome_iff_exists.mp hrun
  have hexact : toScale columnScale (convertWeight 2 .kg .kg) = convertWeight 2 .kg .kg := by
    decide +kernel
  refine ⟨db', hdb', (abs_stored_sub_le_iff (by decide +kernel) hdb' fun x hx ↦ ?_).mpr ?_⟩
  · rw [List.eq_of_mem_replicate hx]
    exact ⟨⟨1, 3, 2, 5, 7, 2, 1, some .kg, some .kg⟩, by decide +kernel, rfl, rfl, rfl⟩
  · rw [hexact, sub_self, abs_zero, mul_zero]
    norm_num

/-- Ten parts, of 0.0001 tonnes, of which nothing is stored. -/
theorem not_abs_stored_sub_le : ∃ db',
    bookCycles (List.replicate 10 samplePart) sampleTonnes = some db' ∧
      (∀ x ∈ List.replicate 10 samplePart, x.1.Takes sampleTonnes ⟨3, 2, 6, 5, 7⟩ 10 .g .mt) ∧
      db'.stored ⟨3, 2, 6, 5, 7⟩ = 0 ∧
      ¬|db'.stored ⟨3, 2, 6, 5, 7⟩ - convertWeight (10 * 10) .g .mt| ≤ 5 / 100000 := by
  have hrun : (bookCycles (List.replicate 10 samplePart) sampleTonnes).any
      (fun db' ↦ decide (db'.stored ⟨3, 2, 6, 5, 7⟩ = 0)) = true := by
    decide +kernel
  obtain ⟨db', hdb', hzero⟩ := (Option.any_eq_true _ _).mp hrun
  rw [decide_eq_true_eq] at hzero
  refine ⟨db', hdb', fun x hx ↦ ?_, hzero, ?_⟩
  · rw [List.eq_of_mem_replicate hx]
    exact ⟨⟨1, 3, 2, 5, 7, 10, 1, some .g, some .mt⟩, by decide +kernel, rfl, rfl, rfl⟩
  · rw [hzero, convertWeight_eq]
    norm_num [weightToGrams]

end RwServer
