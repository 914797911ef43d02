import Mathlib
import RwServer.Materials.Usage

/-!
# Cycles and flushes one after the other

What the transactions of the staging table do when they run alone. A cycle books its usage row by
row (`Books`); a flush stamps the rows of its shift and puts one entry for each group into the
ledger (`alone_flush`). From these follow, over runs of any calls: a flush leaves every balance as
it is and stamps a row once, with an entry for exactly the rows stamped with it
(`flushes_keepBalances`); a cycle lowers the balances by what it uses, but for the rows that are
flushed already (`cycles_reachBalance`); and a row holds what was booked on it in its own unit as
long as the canonical unit is the one of the row (`usage_inOwnUnit`).
-/

namespace RwServer

open Relational ReadCommitted Grouping Transition

/-! ## A cycle -/

/-- The rows `want`, booked one after the other. -/
inductive Books (jobId : Uuid) (newId : UsageScope → Uuid) :
    List UsageRow → MaterialDatabase → List Booking → MaterialDatabase → Prop
  | nil {db : MaterialDatabase} : Books jobId newId [] db [] db
  | noUnit {w : UsageRow} {rest : List UsageRow} {db db' : MaterialDatabase}
      {bookings : List Booking} : w.materialUnit = none →
      Books jobId newId rest db bookings db' → Books jobId newId (w :: rest) db bookings db'
  | frozen {w : UsageRow} {rest : List UsageRow} {db db' : MaterialDatabase}
      {bookings : List Booking} {unit : WeightUnit} {r : MaterialShiftUsage} :
      w.materialUnit = some unit → db.findScope (w.scope jobId) = some r →
      r.flushedAt.isSome = true →
      Books jobId newId rest db bookings db' → Books jobId newId (w :: rest) db bookings db'
  | increment {w : UsageRow} {rest : List UsageRow} {db db₁ db' : MaterialDatabase}
      {bookings : List Booking} {unit : WeightUnit} {r : MaterialShiftUsage} :
      w.materialUnit = some unit → db.findScope (w.scope jobId) = some r → r.flushedAt = none →
      db.write (.incrementUsage r.id (w.qtyDelta unit) w.itemCount) = some db₁ →
      Books jobId newId rest db₁ bookings db' →
      Books jobId newId (w :: rest) db (w.booking r.id unit :: bookings) db'
  | create {w : UsageRow} {rest : List UsageRow} {db db₁ db' : MaterialDatabase}
      {bookings : List Booking} {unit : WeightUnit} :
      w.materialUnit = some unit → db.findScope (w.scope jobId) = none →
      db.write (.createUsage (w.newUsage jobId (newId (w.scope jobId)) unit)) = some db₁ →
      Books jobId newId rest db₁ bookings db' →
      Books jobId newId (w :: rest) db (w.booking (newId (w.scope jobId)) unit :: bookings) db'

private theorem writeAll_material (db : MaterialDatabase) (w : MaterialWrite) :
    materialStore.writeAll db [w] = db.write w := by
  rw [Store.writeAll_cons]
  cases h : materialStore.write db w <;> exact h.symm

theorem books_of_alone {jobId : Uuid} {newId : UsageScope → Uuid} {want : List UsageRow} :
    ∀ {booked : List Booking} {db db' : MaterialDatabase} {result : MaterialResult},
      (bookUsage jobId newId want booked).alone materialStore db = some (db', result) →
      ∃ bookings, Books jobId newId want db bookings db' ∧
        result = .booked (booked ++ bookings) := by
  induction want with
  | nil =>
    intro booked db db' result h
    rw [bookUsage, Program.alone, Option.some_inj, Prod.mk.injEq] at h
    obtain ⟨rfl, rfl⟩ := h
    exact ⟨[], .nil, by rw [List.append_nil]⟩
  | cons w rest ih =>
    intro booked db db' result h
    rw [bookUsage] at h
    cases hunit : w.materialUnit with
    | none =>
      simp only [hunit] at h
      obtain ⟨bookings, hbooks, hresult⟩ := ih h
      exact ⟨bookings, .noUnit hunit hbooks, hresult⟩
    | some unit =>
      simp only [hunit, Program.alone_read] at h
      cases hfind : db.findScope (w.scope jobId) with
      | some r =>
        simp only [hfind] at h
        split at h
        · rename_i hflushed
          obtain ⟨bookings, hbooks, hresult⟩ := ih h
          exact ⟨bookings, .frozen hunit hfind hflushed hbooks, hresult⟩
        · rename_i hopen
          rw [Program.alone_exec, writeAll_material] at h
          obtain ⟨db₁, hwrite, h⟩ := Option.bind_eq_some_iff.mp h
          obtain ⟨bookings, hbooks, hresult⟩ := ih h
          rw [Option.not_isSome_iff_eq_none] at hopen
          exact ⟨_, .increment hunit hfind hopen hwrite hbooks, by
            rw [hresult, List.append_assoc, List.singleton_append]⟩
      | none =>
        simp only [hfind] at h
        rw [Program.alone_exec, writeAll_material] at h
        obtain ⟨db₁, hwrite, h⟩ := Option.bind_eq_some_iff.mp h
        obtain ⟨bookings, hbooks, hresult⟩ := ih h
        exact ⟨_, .create hunit hfind hwrite hbooks, by
          rw [hresult, List.append_assoc, List.singleton_append]
          rfl⟩

private theorem find_of_findScope {db : MaterialDatabase} {scope : UsageScope}
    {r : MaterialShiftUsage} (h : db.findScope scope = some r) : db.usage.find r.id = some r :=
  Table.find_of_mem (List.mem_of_find?_eq_some h)

/-- What the statements of a cycle keep is kept by the cycle. -/
theorem Books.keeps {jobId : Uuid} {newId : UsageScope → Uuid} {want : List UsageRow}
    {db db' : MaterialDatabase} {bookings : List Booking} {P : MaterialDatabase → Prop}
    (hcreate : ∀ {db db' r}, P db → r.flushedAt = none → r.flushedLedgerEntryId = none →
      db.write (.createUsage r) = some db' → P db')
    (hincrement : ∀ {db db' r quantity itemCount}, P db → db.usage.find r.id = some r →
      r.flushedAt = none → db.write (.incrementUsage r.id quantity itemCount) = some db' → P db')
    (h : Books jobId newId want db bookings db') (hdb : P db) : P db' := by
  induction h with
  | nil => exact hdb
  | noUnit _ _ ih => exact ih hdb
  | frozen _ _ _ _ ih => exact ih hdb
  | increment _ hfind hopen hwrite _ ih =>
    exact ih (hincrement hdb (find_of_findScope hfind) hopen hwrite)
  | create _ _ hwrite _ ih => exact ih (hcreate hdb rfl rfl hwrite)

/-- **A cycle lowers the balances by what it books.** -/
theorem onHand_books {jobId : Uuid} {newId : UsageScope → Uuid} {want : List UsageRow}
    {db db' : MaterialDatabase} {bookings : List Booking}
    (h : Books jobId newId want db bookings db') (m : Uuid) : onHand db' m = onHand db m
      - (bookings.map fun b ↦ if b.materialId = m then b.quantity else 0).sum := by
  induction h with
  | nil => rw [List.map_nil, List.sum_nil, sub_zero]
  | noUnit _ _ ih => exact ih
  | frozen _ _ _ _ ih => exact ih
  | increment _ hfind hopen hwrite _ ih =>
    have hscope := List.find?_some hfind
    rw [decide_eq_true_eq] at hscope
    rw [ih, onHand_incrementUsage hwrite (find_of_findScope hfind), List.map_cons, List.sum_cons,
      hscope, UsageRow.scope, UsageRow.booking]
    simp only [hopen, and_true]
    ring
  | create _ _ hwrite _ ih =>
    rw [ih, onHand_createUsage hwrite, List.map_cons, List.sum_cons, MaterialShiftUsage.staged,
      UsageRow.newUsage, UsageRow.scope, UsageRow.booking]
    simp only [and_true]
    ring

/-- The flushed rows. -/
def MaterialDatabase.flushedRows (db : MaterialDatabase) : List MaterialShiftUsage :=
  db.usage.rows.filter fun r ↦ r.flushedAt.isSome

private theorem flushedRows_createUsage {db db' : MaterialDatabase} {r : MaterialShiftUsage}
    (hopen : r.flushedAt = none) (hwrite : db.write (.createUsage r) = some db') :
    db'.flushedRows = db.flushedRows := by
  obtain ⟨usage, husage, rfl⟩ := Option.map_eq_some_iff.mp hwrite
  rw [MaterialDatabase.flushedRows, MaterialDatabase.setUsage, Table.rows_of_insert husage,
    List.filter_append, MaterialDatabase.flushedRows]
  simp [hopen]

private theorem flushedRows_incrementUsage {db db' : MaterialDatabase} {r : MaterialShiftUsage}
    {quantity : ℚ} {itemCount : ℤ} (hfind : db.usage.find r.id = some r)
    (hopen : r.flushedAt = none)
    (hwrite : db.write (.incrementUsage r.id quantity itemCount) = some db') :
    db'.flushedRows = db.flushedRows := by
  rw [MaterialDatabase.write, hfind, if_pos Option.isSome_some] at hwrite
  cases hwrite
  refine Table.filter_rows_modify _ _ (MaterialShiftUsage.mild_increment _ _) fun a ha hid ↦ ?_
  rw [decide_eq_true_eq] at hid
  have hsame := db.usage.eq_of_key_eq ha (Table.find_eq_some_iff.mp hfind).1 hid
  rw [hsame, MaterialShiftUsage.increment, hopen]
  exact ⟨rfl, rfl⟩

/-- A cycle leaves the flushed rows as they are. -/
theorem Books.flushedRows {jobId : Uuid} {newId : UsageScope → Uuid} {want : List UsageRow}
    {db db' : MaterialDatabase} {bookings : List Booking}
    (h : Books jobId newId want db bookings db') : db'.flushedRows = db.flushedRows := by
  refine h.keeps (P := fun x ↦ x.flushedRows = db.flushedRows) ?_ ?_ rfl
  · exact fun hx hopen _ hwrite ↦ (flushedRows_createUsage hopen hwrite).trans hx
  · exact fun hx hfind hopen hwrite ↦ (flushedRows_incrementUsage hfind hopen hwrite).trans hx

/-- The row of the scope has been flushed. -/
def MaterialDatabase.isFrozen (db : MaterialDatabase) (scope : UsageScope) : Bool :=
  (db.findScope scope).any fun r ↦ r.flushedAt.isSome

private theorem isFrozen_iff {db : MaterialDatabase} {scope : UsageScope} :
    db.isFrozen scope = true ↔ ∃ r ∈ db.flushedRows, r.scope = scope := by
  rw [MaterialDatabase.isFrozen, Option.any_eq_true]
  constructor
  · rintro ⟨r, hr, hflushed⟩
    have hscope := List.find?_some hr
    rw [decide_eq_true_eq] at hscope
    exact ⟨r, List.mem_filter.mpr ⟨List.mem_of_find?_eq_some hr, hflushed⟩, hscope⟩
  · rintro ⟨r, hr, hscope⟩
    obtain ⟨hr, hflushed⟩ := List.mem_filter.mp hr
    cases hfind : db.findScope scope with
    | none => exact absurd (decide_eq_true hscope) (List.find?_eq_none.mp hfind r hr)
    | some r' =>
      have hscope' := List.find?_some hfind
      rw [decide_eq_true_eq] at hscope'
      -- the unique index allows one row of a scope
      have hsame : r' = r := by
        by_contra hne
        have hclash := db.usage.clash_eq_false (List.mem_of_find?_eq_some hfind) hr hne
        rw [← Bool.not_eq_true] at hclash
        exact hclash (beq_iff_eq.mpr (hscope'.trans hscope.symm))
      exact ⟨r', rfl, hsame ▸ hflushed⟩

private theorem isFrozen_congr {db db' : MaterialDatabase} (h : db'.flushedRows = db.flushedRows)
    (scope : UsageScope) : db'.isFrozen scope = db.isFrozen scope := by
  rw [Bool.eq_iff_iff, isFrozen_iff, isFrozen_iff, h]

/-- What a cycle that wants these rows uses of a material, but for the frozen rows. -/
def MaterialDatabase.booked (db : MaterialDatabase) (jobId m : Uuid) (want : List UsageRow) : ℚ :=
  (want.map fun w ↦
    if w.materialId = m ∧ db.isFrozen (w.scope jobId) = false then w.consumption else 0).sum

/-- **A cycle books what it uses**, but for the frozen rows. -/
theorem Books.sum_eq {jobId : Uuid} {newId : UsageScope → Uuid} {want : List UsageRow}
    {db db' : MaterialDatabase} {bookings : List Booking}
    (h : Books jobId newId want db bookings db') (m : Uuid) :
    (bookings.map fun b ↦ if b.materialId = m then b.quantity else 0).sum
      = db.booked jobId m want := by
  have hcongr : ∀ {db db₁ : MaterialDatabase} (want : List UsageRow),
      db₁.flushedRows = db.flushedRows → db₁.booked jobId m want = db.booked jobId m want :=
    fun want h ↦ congrArg List.sum <| List.map_congr_left fun w _ ↦ by rw [isFrozen_congr h]
  induction h with
  | nil => rfl
  | noUnit hunit _ ih =>
    rw [ih, MaterialDatabase.booked, MaterialDatabase.booked, List.map_cons, List.sum_cons,
      UsageRow.consumption, hunit]
    simp
  | frozen _ hfind hflushed _ ih =>
    rw [ih, MaterialDatabase.booked, MaterialDatabase.booked, List.map_cons, List.sum_cons,
      MaterialDatabase.isFrozen, hfind]
    simp [hflushed]
  | @increment w _ _ _ _ _ _ _ hunit hfind hopen hwrite _ ih =>
    have hsame := flushedRows_incrementUsage (find_of_findScope hfind) hopen hwrite
    rw [List.map_cons, List.sum_cons, ih, hcongr _ hsame, MaterialDatabase.booked,
      MaterialDatabase.booked, List.map_cons, List.sum_cons, MaterialDatabase.isFrozen, hfind,
      UsageRow.consumption, hunit]
    by_cases hm : w.materialId = m <;> simp [hopen, UsageRow.booking, hm]
  | @create w _ _ _ _ _ _ hunit hfind hwrite _ ih =>
    have hsame := flushedRows_createUsage rfl hwrite
    rw [List.map_cons, List.sum_cons, ih, hcongr _ hsame, MaterialDatabase.booked,
      MaterialDatabase.booked, List.map_cons, List.sum_cons, MaterialDatabase.isFrozen, hfind,
      UsageRow.consumption, hunit]
    by_cases hm : w.materialId = m <;> simp [UsageRow.booking, hm]

/-! ## A flush -/

/-- A row after it has been stamped for the groups it is in. -/
def stampGroups (now : Time) (ledgerId : FlushKey → Uuid)
    (gs : List (FlushKey × List MaterialShiftUsage)) (r : MaterialShiftUsage) :
    MaterialShiftUsage :=
  gs.foldl (fun r g ↦
    if (g.2.map MaterialShiftUsage.id).contains r.id then r.stamp now (ledgerId g.1) else r) r

section

variable {now : Time} {ledgerId : FlushKey → Uuid} {result : FlushResult}
  {gs : List (FlushKey × List MaterialShiftUsage)} {db db' : MaterialDatabase}
  {res : MaterialResult} {r : MaterialShiftUsage}

/-- The statements of the loop over the groups. -/
def flushWrites (now : Time) (ledgerId : FlushKey → Uuid)
    (gs : List (FlushKey × List MaterialShiftUsage)) : List MaterialWrite :=
  gs.flatMap fun g ↦ [.createLedgerEntry (productionEntry now ledgerId g),
    .stampUsage (g.2.map MaterialShiftUsage.id) now (ledgerId g.1)]

theorem alone_flushGroups : ∀ {db : MaterialDatabase},
    (flushGroups now ledgerId result gs).alone materialStore db
      = (materialStore.writeAll db (flushWrites now ledgerId gs)).map (·, .flushed result) := by
  induction gs with
  | nil => exact fun {db} ↦ rfl
  | cons g gs ih =>
    intro db
    rw [flushGroups, Program.alone_exec, writeAll_material, flushWrites, List.flatMap_cons,
      ← flushWrites, List.cons_append, Store.writeAll_cons, Option.map_bind]
    refine Option.bind_congr fun db₁ _ ↦ ?_
    rw [Program.alone_exec, writeAll_material, Function.comp_apply, List.cons_append,
      Store.writeAll_cons, Option.map_bind]
    exact Option.bind_congr fun db₂ _ ↦ ih

theorem writeAll_flushWrites : ∀ {db : MaterialDatabase},
    materialStore.writeAll db (flushWrites now ledgerId gs) = some db' →
      ∃ usage ledger, db' = { db with usage, ledger } ∧
        ledger.rows = db.ledger.rows ++ gs.map (productionEntry now ledgerId) ∧
        usage.rows = db.usage.rows.map (stampGroups now ledgerId gs) := by
  induction gs with
  | nil =>
    intro db h
    rw [flushWrites, List.flatMap_nil, Store.writeAll_nil, Option.some_inj] at h
    subst h
    refine ⟨db.usage, db.ledger, rfl, by rw [List.map_nil, List.append_nil], ?_⟩
    exact (List.map_id _).symm
  | cons g gs ih =>
    intro db h
    rw [flushWrites, List.flatMap_cons, ← flushWrites, List.cons_append, Store.writeAll_cons] at h
    obtain ⟨db₁, hentry, h⟩ := Option.bind_eq_some_iff.mp h
    rw [List.cons_append, Store.writeAll_cons] at h
    obtain ⟨db₂, hstamp, h⟩ := Option.bind_eq_some_iff.mp h
    obtain ⟨ledger₁, hledger₁, rfl⟩ := Option.map_eq_some_iff.mp hentry
    cases hstamp
    obtain ⟨usage, ledger, rfl, hledger, husage⟩ := ih h
    refine ⟨usage, ledger, rfl, ?_, ?_⟩
    · rw [hledger, MaterialDatabase.setUsage, MaterialDatabase.setLedger,
        Table.rows_of_insert hledger₁, List.append_assoc, List.map_cons, List.singleton_append]
    · rw [husage, MaterialDatabase.setUsage, MaterialDatabase.setLedger, Table.modify]
      dsimp only
      rw [List.map_map]
      exact List.map_congr_left fun r _ ↦ rfl

/-- A row that is in groups of one key only. -/
theorem stampGroups_eq {key : FlushKey}
    (hkey : ∀ g ∈ gs, (g.2.map MaterialShiftUsage.id).contains r.id = true → g.1 = key) :
    stampGroups now ledgerId gs r
      = if ∃ g ∈ gs, (g.2.map MaterialShiftUsage.id).contains r.id = true then
          r.stamp now (ledgerId key) else r := by
  induction gs generalizing r with
  | nil => simp [stampGroups]
  | cons g gs ih =>
    have hrest : ∀ r' : MaterialShiftUsage, r'.id = r.id → ∀ g ∈ gs,
        (g.2.map MaterialShiftUsage.id).contains r'.id = true → g.1 = key :=
      fun r' hid g hg hin ↦ hkey g (List.mem_cons_of_mem _ hg) (hid ▸ hin)
    rw [stampGroups, List.foldl_cons, ← stampGroups]
    by_cases hin : (g.2.map MaterialShiftUsage.id).contains r.id = true
    · have hstamped := ih (r := r.stamp now (ledgerId key)) (hrest (r.stamp now (ledgerId key)) rfl)
      have hsome : ∃ x ∈ g :: gs, (x.2.map MaterialShiftUsage.id).contains r.id = true :=
        ⟨g, List.mem_cons_self, hin⟩
      rw [if_pos hin, hkey g List.mem_cons_self hin, hstamped, if_pos hsome]
      split <;> rfl
    · rw [if_neg hin, ih (hrest r rfl)]
      simp only [List.exists_mem_cons_iff, hin, Bool.false_eq_true, false_or]

/-- What a flush of the rows `p` does to the tables: each is stamped with the entry of its
group. -/
structure Flushes (p : MaterialShiftUsage → Bool) (now : Time) (ledgerId : FlushKey → Uuid)
    (db db' : MaterialDatabase) : Prop where
  open_of : ∀ r ∈ db.usage.rows, p r = true → r.flushedAt = none
  ledger : db'.ledger.rows = db.ledger.rows
    ++ (groupBy MaterialShiftUsage.groupKey (db.usage.rows.filter p)).map
      (productionEntry now ledgerId)
  usage : db'.usage.rows = db.usage.rows.map fun r ↦
    if p r then r.stamp now (ledgerId r.groupKey) else r
  frame : ∃ usage ledger, db' = { db with usage, ledger }

theorem MaterialShiftUsage.isUnflushedIn_iff {shiftInstanceId : Uuid} {r : MaterialShiftUsage} :
    r.isUnflushedIn shiftInstanceId = true
      ↔ r.scope.shiftInstanceId = shiftInstanceId ∧ r.flushedAt = none := by
  rw [isUnflushedIn, Bool.and_eq_true, beq_iff_eq, Option.isNone_iff_eq_none]

theorem flushes_of_writeAll {p : MaterialShiftUsage → Bool}
    (hopen : ∀ r ∈ db.usage.rows, p r = true → r.flushedAt = none)
    (h : materialStore.writeAll db (flushWrites now ledgerId
      (groupBy MaterialShiftUsage.groupKey (db.usage.rows.filter p))) = some db') :
    Flushes p now ledgerId db db' := by
  obtain ⟨usage, ledger, rfl, hledger, husage⟩ := writeAll_flushWrites h
  refine ⟨hopen, hledger, husage.trans (List.map_congr_left fun r hr ↦ ?_), usage, ledger, rfl⟩
  -- a row is in a group if it has been found, and then in the one of its key
  have hmem : ∀ g ∈ groupBy MaterialShiftUsage.groupKey (db.usage.rows.filter p),
      (g.2.map MaterialShiftUsage.id).contains r.id = true → r ∈ g.2 := by
    intro g hg hin
    obtain ⟨a, ha, hid⟩ := List.mem_map.mp (List.contains_iff_mem.mp hin)
    have hrow := (List.mem_filter.mp (mem_of_mem_groupBy hg ha)).1
    exact db.usage.eq_of_key_eq hrow hr hid ▸ ha
  rw [stampGroups_eq fun g hg hin ↦ (key_of_mem_groupBy hg r (hmem g hg hin)).symm]
  refine if_congr ⟨fun ⟨g, hg, hin⟩ ↦ ?_, fun hfound ↦ ?_⟩ rfl rfl
  · exact (List.mem_filter.mp (mem_of_mem_groupBy hg (hmem g hg hin))).2
  · have hin : r ∈ db.usage.rows.filter p := List.mem_filter.mpr ⟨hr, hfound⟩
    obtain ⟨g, hg, hin⟩ : ∃ g ∈ groupBy MaterialShiftUsage.groupKey _, r ∈ g.2 :=
      exists_mem_groupBy hin
    exact ⟨g, hg, List.contains_iff_mem.mpr (List.mem_map_of_mem hin)⟩

/-- **A flush stamps the rows of its shift.** -/
theorem alone_flush {shiftInstanceId : Uuid}
    (h : (flushShiftUsageInTx shiftInstanceId now ledgerId fun _ ↦ true).alone materialStore db
      = some (db', res)) : (∃ result, res = .flushed result) ∧
      Flushes (MaterialShiftUsage.isUnflushedIn shiftInstanceId) now ledgerId db db' := by
  rw [flushShiftUsageInTx, Program.alone, writeAll_material] at h
  obtain ⟨db₁, hlock, h⟩ := Option.bind_eq_some_iff.mp h
  cases hlock
  rw [Program.alone_read, alone_flushGroups] at h
  obtain ⟨db₂, hwrites, hpair⟩ := Option.map_eq_some_iff.mp h
  cases hpair
  simp only [Bool.and_true] at hwrites
  exact ⟨⟨_, rfl⟩, flushes_of_writeAll (fun r _ hr ↦
    (MaterialShiftUsage.isUnflushedIn_iff.mp hr).2) hwrites⟩

end

/-! ## Calls one after the other -/

inductive MaterialCall
  | cycle (c : CycleClose) (newId : UsageScope → Uuid)
  | flush (shiftInstanceId : Uuid) (now : Time) (ledgerId : FlushKey → Uuid)
  /-- Edits of materials with their canonical units, of product materials and of shifts. -/
  | configure (materials : List Material) (productMaterials : List ProductMaterial)
      (altGroups : List ProductMaterialAltGroup) (facility : Facility)

/-- The bookings of a transaction. -/
def MaterialResult.bookings : MaterialResult → List Booking
  | .booked bookings => bookings
  | .flushed _ => []

/-- The database, and what has been booked on its staging rows. -/
structure MaterialState where
  db : MaterialDatabase
  bookings : List Booking

/-- The staging rows of the start count as booked in their unit. -/
def MaterialState.init (db : MaterialDatabase) : MaterialState :=
  ⟨db, db.usage.rows.map fun r ↦ ⟨r.id, r.scope.materialId, r.quantity, r.unit, r.quantity⟩⟩

def MaterialState.commit (s : MaterialState) (r : MaterialDatabase × MaterialResult) :
    MaterialState :=
  ⟨r.1, s.bookings ++ r.2.bookings⟩

/-- One call after the other; a transaction that fails is rolled back, and no step. -/
def materialStep : MaterialCall → MaterialState → Option MaterialState
  | .cycle c newId, s => ((bookCycle c newId).alone materialStore s.db).map s.commit
  | .flush shiftInstanceId now ledgerId, s =>
    ((flushShiftUsageInTx shiftInstanceId now ledgerId fun _ ↦ true).alone materialStore s.db).map
      s.commit
  | .configure materials productMaterials altGroups facility, s =>
    some { s with db := { s.db with materials, productMaterials, altGroups, facility } }

section

variable {s s' : MaterialState}

theorem books_of_cycle {c : CycleClose} {newId : UsageScope → Uuid}
    (h : materialStep (.cycle c newId) s = some s') :
    ∃ bookings, Books c.jobId newId (s.db.want c) s.db bookings s'.db ∧
      s'.bookings = s.bookings ++ bookings := by
  obtain ⟨⟨db', result⟩, halone, rfl⟩ := Option.map_eq_some_iff.mp h
  rw [bookCycle, Program.alone_read] at halone
  obtain ⟨bookings, hbooks, rfl⟩ := books_of_alone halone
  exact ⟨bookings, hbooks, rfl⟩

theorem flushes_of_flush {shiftInstanceId : Uuid} {now : Time} {ledgerId : FlushKey → Uuid}
    (h : materialStep (.flush shiftInstanceId now ledgerId) s = some s') :
    Flushes (MaterialShiftUsage.isUnflushedIn shiftInstanceId) now ledgerId s.db s'.db ∧
      s'.bookings = s.bookings := by
  obtain ⟨⟨db', result⟩, halone, rfl⟩ := Option.map_eq_some_iff.mp h
  obtain ⟨⟨result, rfl⟩, hflush⟩ := alone_flush halone
  refine ⟨hflush, ?_⟩
  rw [MaterialState.commit, MaterialResult.bookings, List.append_nil]

end

/-! ## What a flush keeps -/

namespace Flushes

variable {p : MaterialShiftUsage → Bool} {now : Time} {ledgerId : FlushKey → Uuid}
  {db db' : MaterialDatabase} {r : MaterialShiftUsage}

/-- The entries of a flush, summed for a material. -/
private theorem sum_amount_entries (m : Uuid) {asOf : Option Time} (hasOf : ∀ t ∈ asOf, now ≤ t)
    (rows : List MaterialShiftUsage) :
    (((groupBy MaterialShiftUsage.groupKey rows).map (productionEntry now ledgerId)).map
      (MaterialLedgerEntry.amount m asOf)).sum
        = -(rows.map fun r ↦ if r.scope.materialId = m then r.quantity else 0).sum := by
  have hall : asOf.all (fun t ↦ decide (now ≤ t)) = true := by
    cases asOf with
    | none => rfl
    | some t => exact decide_eq_true (hasOf t rfl)
  have hgroup : ∀ g ∈ groupBy MaterialShiftUsage.groupKey rows,
      (productionEntry now ledgerId g).amount m asOf
        = -(g.2.map fun r ↦ if r.scope.materialId = m then r.quantity else 0).sum := by
    intro g hg
    have hmaterial : ∀ r ∈ g.2, r.scope.materialId = g.1.materialId := fun r hr ↦
      congrArg FlushKey.materialId (key_of_mem_groupBy hg r hr)
    rw [MaterialLedgerEntry.amount, productionEntry]
    simp only [hall, and_true]
    by_cases hm : g.1.materialId = m
    · rw [if_pos hm]
      refine congrArg (fun l ↦ -List.sum l) (List.map_congr_left fun r hr ↦ ?_)
      rw [if_pos ((hmaterial r hr).trans hm)]
    · rw [if_neg hm, eq_comm, neg_eq_zero]
      refine List.sum_eq_zero fun x hx ↦ ?_
      obtain ⟨r, hr, rfl⟩ := List.mem_map.mp hx
      exact if_neg fun h ↦ hm ((hmaterial r hr).symm.trans h)
  rw [List.map_map, ← sum_groupBy MaterialShiftUsage.groupKey, List.sum_neg, List.map_map]
  exact congrArg List.sum (List.map_congr_left hgroup)

/-- **A flush keeps every balance**, as of now or later. -/
theorem balance_eq (h : Flushes p now ledgerId db db') (m : Uuid) {asOf : Option Time}
    (hasOf : ∀ t ∈ asOf, now ≤ t) :
    (balance db' m asOf).balance = (balance db m asOf).balance := by
  have hstaged : ∀ l : List MaterialShiftUsage, (∀ r ∈ l, p r = true → r.flushedAt = none) →
      ((l.map fun r ↦ if p r then r.stamp now (ledgerId r.groupKey) else r).map
        (MaterialShiftUsage.staged m)).sum
        = (l.map (MaterialShiftUsage.staged m)).sum
          - ((l.filter p).map fun r ↦ if r.scope.materialId = m then r.quantity else 0).sum := by
    intro l hopen
    induction l with
    | nil => simp
    | cons a l ih =>
      rw [List.map_cons, List.map_cons, List.sum_cons,
        ih fun r hr ↦ hopen r (List.mem_cons_of_mem _ hr), List.map_cons, List.sum_cons,
        List.filter_cons]
      by_cases ha : p a = true
      · have hstamp : (a.stamp now (ledgerId a.groupKey)).staged m = 0 :=
          if_neg fun h ↦ absurd h.2 (by simp [MaterialShiftUsage.stamp])
        rw [if_pos ha, if_pos ha, hstamp, List.map_cons, List.sum_cons, MaterialShiftUsage.staged]
        simp only [hopen a List.mem_cons_self ha, and_true]
        ring
      · rw [if_neg ha, if_neg ha]
        ring
  rw [RwServer.balance_eq, RwServer.balance_eq, h.ledger, h.usage, List.map_append,
    List.sum_append, sum_amount_entries m hasOf, hstaged _ h.open_of]
  ring

/-- A row after the flush is flushed, or one of those that were not to be. -/
theorem flushed_or (h : Flushes p now ledgerId db db') (hr : r ∈ db'.usage.rows) :
    r.flushedAt.isSome = true ∨ r ∈ db.usage.rows ∧ p r = false := by
  rw [h.usage] at hr
  obtain ⟨a, ha, rfl⟩ := List.mem_map.mp hr
  split
  · exact .inl rfl
  · rename_i hnot
    exact .inr ⟨ha, Bool.not_eq_true _ ▸ hnot⟩

/-- A flush of no row changes nothing. -/
theorem eq_self (h : Flushes p now ledgerId db db') (hnone : ∀ r ∈ db.usage.rows, ¬p r = true) :
    db' = db := by
  obtain ⟨usage, ledger, rfl⟩ := h.frame
  have hledger : ledger = db.ledger := Table.ext_rows <| by
    rw [show ledger.rows = _ from h.ledger, List.filter_eq_nil_iff.mpr hnone, groupBy,
      List.foldl_nil, List.map_nil, List.append_nil]
  have husage : usage = db.usage := Table.ext_rows <| by
    rw [show usage.rows = _ from h.usage]
    exact (List.map_congr_left fun r hr ↦ if_neg (hnone r hr)).trans (List.map_id _)
  rw [hledger, husage]

/-- A flushed row is left as it is. -/
theorem mem_of_flushed (h : Flushes p now ledgerId db db') (hr : r ∈ db.usage.rows)
    (hflushed : r.flushedAt.isSome = true) : r ∈ db'.usage.rows := by
  rw [h.usage]
  refine List.mem_map.mpr ⟨r, hr, if_neg fun ha ↦ ?_⟩
  rw [h.open_of r hr ha] at hflushed
  exact absurd hflushed (by simp)

end Flushes

/-! ## The entries of the ledger -/

/-- The entry is the one of the rows stamped with it, and of all of them. -/
structure MaterialLedgerEntry.Sums (e : MaterialLedgerEntry) (rows : List MaterialShiftUsage) :
    Prop where
  kind : e.kind = .production
  group : ∀ r ∈ rows, r.flushedLedgerEntryId = some e.id →
    r.flushedAt.isSome = true ∧ r.groupKey = ⟨e.siteId, e.materialId, e.unit⟩
  quantity : e.quantity = -((rows.filter fun r ↦ decide (r.flushedLedgerEntryId = some e.id)).map
    MaterialShiftUsage.quantity).sum

/-- The foreign key of `flushedLedgerEntryId`. -/
def MaterialDatabase.EntriesExist (db : MaterialDatabase) : Prop :=
  ∀ r ∈ db.usage.rows, ∀ id ∈ r.flushedLedgerEntryId, id ∈ db.ledger.rows.map MaterialLedgerEntry.id

/-- Rows and ledger match, as far as rows have been flushed since `db₀`. -/
structure LedgerMatches (db₀ db : MaterialDatabase) : Prop where
  kept : ∀ e ∈ db₀.ledger.rows, e ∈ db.ledger.rows
  refs : db.EntriesExist
  stamped : ∀ r ∈ db.usage.rows, r.flushedAt.isSome = true → r ∉ db₀.usage.rows →
    ∃ e ∈ db.ledger.rows, e ∉ db₀.ledger.rows ∧ r.flushedLedgerEntryId = some e.id
  entry : ∀ e ∈ db.ledger.rows, e ∉ db₀.ledger.rows → e.Sums db.usage.rows

namespace LedgerMatches

variable {db₀ db db' : MaterialDatabase}

theorem refl (h : db.EntriesExist) : LedgerMatches db db where
  kept _ he := he
  refs := h
  stamped _ hr _ hnew := absurd hr hnew
  entry _ he hnew := absurd he hnew

theorem createUsage {r : MaterialShiftUsage} (h : LedgerMatches db₀ db) (hopen : r.flushedAt = none)
    (hunstamped : r.flushedLedgerEntryId = none) (hwrite : db.write (.createUsage r) = some db') :
    LedgerMatches db₀ db' := by
  obtain ⟨usage, husage, rfl⟩ := Option.map_eq_some_iff.mp hwrite
  have hrows := Table.rows_of_insert husage
  have hmem : ∀ a ∈ usage.rows, a ∈ db.usage.rows ∨ a = r := fun a ha ↦ by
    rw [hrows, List.mem_append, List.mem_singleton] at ha
    exact ha
  refine ⟨h.kept, fun a ha id hid ↦ ?_, fun a ha hflushed ↦ ?_,
    fun e he hnew ↦ ⟨?_, fun a ha hid ↦ ?_, ?_⟩⟩
  · rcases hmem a ha with ha | rfl
    · exact h.refs a ha id hid
    · rw [hunstamped] at hid
      exact absurd hid (by simp)
  · rcases hmem a ha with ha | rfl
    · exact h.stamped a ha hflushed
    · rw [hopen] at hflushed
      exact absurd hflushed (by simp)
  · exact (h.entry e he hnew).kind
  · rcases hmem a ha with ha | rfl
    · exact (h.entry e he hnew).group a ha hid
    · rw [hunstamped] at hid
      exact absurd hid (by simp)
  · rw [MaterialDatabase.setUsage, hrows, List.filter_append, (h.entry e he hnew).quantity]
    simp [hunstamped]

theorem incrementUsage {r : MaterialShiftUsage} {quantity : ℚ} {itemCount : ℤ}
    (h : LedgerMatches db₀ db) (hfind : db.usage.find r.id = some r) (hopen : r.flushedAt = none)
    (hwrite : db.write (.incrementUsage r.id quantity itemCount) = some db') :
    LedgerMatches db₀ db' := by
  have hr := (Table.find_eq_some_iff.mp hfind).1
  rw [MaterialDatabase.write, hfind, if_pos Option.isSome_some] at hwrite
  cases hwrite
  -- a row is as it was, or the unflushed one
  have hmem : ∀ a ∈ (db.usage.modify (fun a ↦ decide (a.id = r.id))
      (MaterialShiftUsage.increment quantity itemCount)
      (MaterialShiftUsage.mild_increment quantity itemCount)).rows,
      a ∈ db.usage.rows ∨ a = r.increment quantity itemCount := by
    intro a ha
    obtain ⟨b, hb, rfl⟩ := List.mem_map.mp ha
    split
    · rename_i hid
      exact .inr (db.usage.eq_of_key_eq hb hr (of_decide_eq_true hid) ▸ rfl)
    · exact .inl hb
  refine ⟨h.kept, fun a ha id hid ↦ ?_, fun a ha hflushed ↦ ?_,
    fun e he hnew ↦ ⟨?_, fun a ha hid ↦ ?_, ?_⟩⟩
  · rcases hmem a ha with ha | rfl
    · exact h.refs a ha id hid
    · exact h.refs r hr id hid
  · rcases hmem a ha with ha | rfl
    · exact h.stamped a ha hflushed
    · rw [MaterialShiftUsage.increment, hopen] at hflushed
      exact absurd hflushed (by simp)
  · exact (h.entry e he hnew).kind
  · rcases hmem a ha with ha | rfl
    · exact (h.entry e he hnew).group a ha hid
    · have hflushed := ((h.entry e he hnew).group r hr hid).1
      rw [hopen] at hflushed
      exact absurd hflushed (by simp)
  · rw [(h.entry e he hnew).quantity]
    refine congrArg (fun l ↦ -(List.map MaterialShiftUsage.quantity l).sum) (Eq.symm ?_)
    refine Table.filter_rows_modify _ _ (MaterialShiftUsage.mild_increment _ _) fun a ha hid ↦ ?_
    rw [decide_eq_true_eq] at hid
    have hsame := db.usage.eq_of_key_eq ha hr hid
    have hnot : r.flushedLedgerEntryId ≠ some e.id := fun hid ↦ by
      have hflushed := ((h.entry e he hnew).group r hr hid).1
      rw [hopen] at hflushed
      exact absurd hflushed (by simp)
    rw [hsame]
    exact ⟨decide_eq_false hnot, decide_eq_false hnot⟩

theorem books {jobId : Uuid} {newId : UsageScope → Uuid} {want : List UsageRow}
    {bookings : List Booking} (h : LedgerMatches db₀ db)
    (hbooks : Books jobId newId want db bookings db') : LedgerMatches db₀ db' :=
  hbooks.keeps (fun h hopen hunstamped hwrite ↦ h.createUsage hopen hunstamped hwrite)
    (fun h hfind hopen hwrite ↦ h.incrementUsage hfind hopen hwrite) h

section

variable {p : MaterialShiftUsage → Bool} {now : Time} {ledgerId : FlushKey → Uuid}
  {a : MaterialShiftUsage} {g : FlushKey × List MaterialShiftUsage} {e : MaterialLedgerEntry}

/-- A row after a flush. -/
private def swept (p : MaterialShiftUsage → Bool) (now : Time) (ledgerId : FlushKey → Uuid)
    (r : MaterialShiftUsage) : MaterialShiftUsage :=
  if p r then r.stamp now (ledgerId r.groupKey) else r

/-- The ids of the new entries are not those of old ones, and each is the one of its group. -/
private theorem ids_flush (hflush : Flushes p now ledgerId db db') :
    (∀ e ∈ db.ledger.rows, ∀ r ∈ db.usage.rows.filter p, ledgerId r.groupKey ≠ e.id) ∧
    ∀ g ∈ groupBy MaterialShiftUsage.groupKey (db.usage.rows.filter p),
      (∀ r ∈ db.usage.rows.filter p, ledgerId r.groupKey = ledgerId g.1 →
        r.groupKey = g.1) ∧ ∀ e ∈ db.ledger.rows, e.id ≠ ledgerId g.1 := by
  have hnodup : (db'.ledger.rows.map MaterialLedgerEntry.id).Nodup := db'.ledger.nodup
  rw [hflush.ledger, List.map_append, List.nodup_append, List.map_map] at hnodup
  obtain ⟨-, hnew, hdisjoint⟩ := hnodup
  have happart : ∀ g ∈ groupBy MaterialShiftUsage.groupKey (db.usage.rows.filter p),
      ∀ e ∈ db.ledger.rows, e.id ≠ ledgerId g.1 := fun g hg e he ↦
    hdisjoint e.id (List.mem_map_of_mem he) (ledgerId g.1) (List.mem_map_of_mem hg)
  have hgroup : ∀ r ∈ db.usage.rows.filter p,
      ∃ g ∈ groupBy MaterialShiftUsage.groupKey (db.usage.rows.filter p),
        g.1 = r.groupKey := fun r hr ↦ by
    obtain ⟨g, hg, hrg⟩ : ∃ g ∈ groupBy MaterialShiftUsage.groupKey _, r ∈ g.2 :=
      exists_mem_groupBy hr
    exact ⟨g, hg, (key_of_mem_groupBy hg r hrg).symm⟩
  refine ⟨fun e he r hr ↦ ?_, fun g hg ↦ ⟨fun r hr hid ↦ ?_, happart g hg⟩⟩
  · obtain ⟨g, hg, hkey⟩ := hgroup r hr
    exact hkey ▸ (happart g hg e he).symm
  · obtain ⟨g', hg', hkey⟩ := hgroup r hr
    rw [← hkey] at hid ⊢
    exact congrArg Prod.fst (List.inj_on_of_nodup_map hnew hg' hg hid)

/-- The rows that a flush leaves stamped with an old entry are those that were. -/
private theorem stamped_old_iff (h : LedgerMatches db₀ db)
    (hflush : Flushes p now ledgerId db db') (he : e ∈ db.ledger.rows)
    (hnew : e ∉ db₀.ledger.rows) (ha : a ∈ db.usage.rows) :
    (swept p now ledgerId a).flushedLedgerEntryId = some e.id
      ↔ a.flushedLedgerEntryId = some e.id := by
  rw [swept]
  split
  · rename_i hopen
    have hrow : a ∈ db.usage.rows.filter p := List.mem_filter.mpr ⟨ha, hopen⟩
    refine ⟨fun hid ↦ absurd (Option.some_inj.mp hid) ((ids_flush hflush).1 e he a hrow),
      fun hid ↦ ?_⟩
    have hflushed := ((h.entry e he hnew).group a ha hid).1
    rw [hflush.open_of a ha hopen] at hflushed
    exact absurd hflushed (by simp)
  · exact Iff.rfl

/-- The rows that a flush stamps with a new entry are those of its group. -/
private theorem stamped_new_iff (h : LedgerMatches db₀ db)
    (hflush : Flushes p now ledgerId db db')
    (hg : g ∈ groupBy MaterialShiftUsage.groupKey (db.usage.rows.filter p))
    (ha : a ∈ db.usage.rows) :
    (swept p now ledgerId a).flushedLedgerEntryId = some (ledgerId g.1)
      ↔ p a = true ∧ a.groupKey = g.1 := by
  obtain ⟨hkey, hids⟩ := (ids_flush hflush).2 g hg
  rw [swept]
  split
  · rename_i hopen
    have hrow : a ∈ db.usage.rows.filter p := List.mem_filter.mpr ⟨ha, hopen⟩
    exact ⟨fun hid ↦ ⟨hopen, hkey a hrow (Option.some_inj.mp hid)⟩, fun h ↦ by
      rw [← h.2, MaterialShiftUsage.stamp]⟩
  · rename_i hopen
    refine ⟨fun hid ↦ ?_, fun h ↦ absurd h.1 hopen⟩
    obtain ⟨e, he, heid⟩ := List.mem_map.mp (h.refs a ha _ hid)
    exact absurd heid (hids e he)

/-- The rows stamped with an id, summed after the flush. -/
private theorem sum_swept (hflush : Flushes p now ledgerId db db') {id : Uuid}
    {q : MaterialShiftUsage → Bool} (hq : ∀ a ∈ db.usage.rows,
      (swept p now ledgerId a).flushedLedgerEntryId = some id ↔ q a = true) :
    ((db'.usage.rows.filter fun r ↦ decide (r.flushedLedgerEntryId = some id)).map
      MaterialShiftUsage.quantity).sum
        = ((db.usage.rows.filter q).map MaterialShiftUsage.quantity).sum := by
  have husage : db'.usage.rows = db.usage.rows.map (swept p now ledgerId) :=
    hflush.usage
  have hquantity : ∀ r : MaterialShiftUsage,
      (swept p now ledgerId r).quantity = r.quantity := fun r ↦ by
    rw [swept]
    split <;> rfl
  have hfilter : db.usage.rows.filter
      ((fun r ↦ decide (r.flushedLedgerEntryId = some id)) ∘ swept p now ledgerId)
        = db.usage.rows.filter q := List.filter_congr fun a ha ↦ by
    rw [Function.comp_apply, Bool.eq_iff_iff, decide_eq_true_eq, hq a ha]
  rw [husage, List.filter_map, hfilter, List.map_map]
  exact congrArg List.sum (List.map_congr_left fun r _ ↦ hquantity r)

private theorem groupKey_swept (r : MaterialShiftUsage) :
    (swept p now ledgerId r).groupKey = r.groupKey := by
  rw [swept]
  split <;> rfl

private theorem flushedAt_swept {r : MaterialShiftUsage}
    (h : p r = true ∨ r.flushedAt.isSome = true) :
    (swept p now ledgerId r).flushedAt.isSome = true := by
  rw [swept]
  split
  · rfl
  · rename_i hopen
    exact h.resolve_left hopen

theorem flush (h : LedgerMatches db₀ db) (hflush : Flushes p now ledgerId db db') :
    LedgerMatches db₀ db' := by
  have husage : db'.usage.rows = db.usage.rows.map (swept p now ledgerId) :=
    hflush.usage
  have hledger := hflush.ledger
  have hold : ∀ e ∈ db.ledger.rows, e ∈ db'.ledger.rows := fun e he ↦
    hledger ▸ List.mem_append_left _ he
  -- the entry of an unflushed row of the shift
  have hentry : ∀ r ∈ db.usage.rows.filter p, ∃ e ∈ db'.ledger.rows,
      e.id = ledgerId r.groupKey := fun r hr ↦ by
    obtain ⟨g, hg, hrg⟩ : ∃ g ∈ groupBy MaterialShiftUsage.groupKey _, r ∈ g.2 :=
      exists_mem_groupBy hr
    refine ⟨productionEntry now ledgerId g, ?_, ?_⟩
    · rw [hledger]
      exact List.mem_append_right _ (List.mem_map_of_mem hg)
    · rw [key_of_mem_groupBy hg r hrg]
      rfl
  refine ⟨fun e he ↦ hold e (h.kept e he), fun r' hr' id hid ↦ ?_, fun r' hr' hflushed hnew ↦ ?_,
    fun e he hnew ↦ ?_⟩
  · rw [husage] at hr'
    obtain ⟨r, hr, rfl⟩ := List.mem_map.mp hr'
    by_cases hopen : p r = true
    · rw [swept, if_pos hopen] at hid
      obtain ⟨e, he, heid⟩ := hentry r (List.mem_filter.mpr ⟨hr, hopen⟩)
      rw [← Option.some_inj.mp hid, ← heid]
      exact List.mem_map_of_mem he
    · rw [swept, if_neg hopen] at hid
      obtain ⟨e, he, heid⟩ := List.mem_map.mp (h.refs r hr id hid)
      exact heid ▸ List.mem_map_of_mem (hold e he)
  · rw [husage] at hr'
    obtain ⟨r, hr, rfl⟩ := List.mem_map.mp hr'
    by_cases hopen : p r = true
    · obtain ⟨e, he, heid⟩ := hentry r (List.mem_filter.mpr ⟨hr, hopen⟩)
      refine ⟨e, he, fun he₀ ↦ ?_, ?_⟩
      · exact (ids_flush hflush).1 e (h.kept e he₀) r (List.mem_filter.mpr ⟨hr, hopen⟩) heid.symm
      · rw [swept, if_pos hopen, heid]
        rfl
    · rw [swept, if_neg hopen] at hflushed hnew ⊢
      obtain ⟨e, he, hnew, hid⟩ := h.stamped r hr hflushed hnew
      exact ⟨e, hold e he, hnew, hid⟩
  · rw [hledger] at he
    rcases List.mem_append.mp he with he | he
    · have hsums := h.entry e he hnew
      have hstamped := fun a ha ↦ h.stamped_old_iff hflush (a := a) he hnew ha
      refine ⟨hsums.kind, fun r' hr' hid ↦ ?_, ?_⟩
      · rw [husage] at hr'
        obtain ⟨r, hr, rfl⟩ := List.mem_map.mp hr'
        obtain ⟨hflushed, hkey⟩ := hsums.group r hr ((hstamped r hr).mp hid)
        exact ⟨flushedAt_swept (.inr hflushed), (groupKey_swept r).trans hkey⟩
      · rw [hsums.quantity,
          sum_swept hflush fun a ha ↦ (hstamped a ha).trans decide_eq_true_iff.symm]
    · obtain ⟨g, hg, rfl⟩ := List.mem_map.mp he
      have hstamped := fun a ha ↦ h.stamped_new_iff hflush (a := a) hg ha
      refine ⟨rfl, fun r' hr' hid ↦ ?_, ?_⟩
      · rw [husage] at hr'
        obtain ⟨r, hr, rfl⟩ := List.mem_map.mp hr'
        obtain ⟨hopen, hkey⟩ := (hstamped r hr).mp hid
        exact ⟨flushedAt_swept (.inl hopen), (groupKey_swept r).trans hkey⟩
      · have hsum := sum_swept hflush (q := fun a ↦ decide (a.groupKey = g.1) && p a) fun a ha ↦ by
          rw [hstamped a ha, Bool.and_eq_true, decide_eq_true_eq, and_comm]
        have hperm := snd_of_mem_groupBy hg
        rw [List.filter_filter] at hperm
        rw [productionEntry, hsum, (hperm.map MaterialShiftUsage.quantity).sum_eq]

end

end LedgerMatches

/-! ## Runs -/

section

variable {db : MaterialDatabase} {calls : List MaterialCall} {s s' : MaterialState}

private theorem ledgerMatches_step (h : LedgerMatches db s.db) {call : MaterialCall}
    (hstep : materialStep call s = some s') : LedgerMatches db s'.db := by
  cases call with
  | cycle c newId =>
    obtain ⟨bookings, hbooks, -⟩ := books_of_cycle hstep
    exact h.books hbooks
  | flush shiftInstanceId now ledgerId => exact h.flush (flushes_of_flush hstep).1
  | configure materials productMaterials altGroups facility =>
    cases hstep
    exact ⟨h.kept, h.refs, h.stamped, h.entry⟩

/-- No call changes a flushed row. -/
private theorem flushed_step {call : MaterialCall} (hstep : materialStep call s = some s')
    {r : MaterialShiftUsage} (hr : r ∈ s.db.usage.rows) (hflushed : r.flushedAt.isSome = true) :
    r ∈ s'.db.usage.rows := by
  cases call with
  | cycle c newId =>
    obtain ⟨bookings, hbooks, -⟩ := books_of_cycle hstep
    have hmem : r ∈ s.db.flushedRows := List.mem_filter.mpr ⟨hr, hflushed⟩
    rw [← hbooks.flushedRows] at hmem
    exact (List.mem_filter.mp hmem).1
  | flush shiftInstanceId now ledgerId =>
    exact (flushes_of_flush hstep).1.mem_of_flushed hr hflushed
  | configure materials productMaterials altGroups facility =>
    cases hstep
    exact hr

/-- **Flushes keep the balances and stamp a row once.** In every run of cycles, flushes and edits,
the rows flushed match the entries of the ledger, no call changes a flushed row, and a flush keeps
all balances, leaves no row of its shift unflushed, and changes nothing if there was none. -/
theorem flushes_keepBalances (hrefs : db.EntriesExist)
    (hrun : Run materialStep (fun _ _ ↦ True) (.init db) calls s) :
    LedgerMatches db s.db ∧
    (∀ call s', materialStep call s = some s' → ∀ r ∈ s.db.usage.rows, r.flushedAt.isSome = true →
      r ∈ s'.db.usage.rows) ∧
    ∀ shiftInstanceId now ledgerId s',
      materialStep (.flush shiftInstanceId now ledgerId) s = some s' →
      (∀ m asOf, (∀ t ∈ asOf, now ≤ t) →
        (balance s'.db m asOf).balance = (balance s.db m asOf).balance) ∧
      (∀ r ∈ s'.db.usage.rows, r.scope.shiftInstanceId = shiftInstanceId →
        r.flushedAt.isSome = true) ∧
      ((∀ r ∈ s.db.usage.rows, r.scope.shiftInstanceId = shiftInstanceId →
        r.flushedAt.isSome = true) → s' = s) := by
  refine ⟨?_, fun call s' hstep r hr ↦ flushed_step hstep hr,
    fun shiftInstanceId now ledgerId s' hstep ↦ ?_⟩
  · induction hrun with
    | nil => exact .refl hrefs
    | snoc _ _ hstep ih => exact ledgerMatches_step ih hstep
  · obtain ⟨hflush, hbookings⟩ := flushes_of_flush hstep
    refine ⟨fun m asOf hasOf ↦ hflush.balance_eq m hasOf, fun r hr hshift ↦ ?_, fun hall ↦ ?_⟩
    · refine (hflush.flushed_or hr).elim id fun hnot ↦ ?_
      rw [← Option.ne_none_iff_isSome]
      intro hopen
      rw [MaterialShiftUsage.isUnflushedIn_iff.mpr ⟨hshift, hopen⟩] at hnot
      exact absurd hnot.2 (by simp)
    · have hnone : ∀ r ∈ s.db.usage.rows, ¬r.isUnflushedIn shiftInstanceId = true := by
        intro r hr ha
        obtain ⟨hshift, hopen⟩ := MaterialShiftUsage.isUnflushedIn_iff.mp ha
        exact absurd (hall r hr hshift) (by simp [hopen])
      cases s
      cases s'
      rw [MaterialState.mk.injEq]
      exact ⟨hflush.eq_self hnone, hbookings⟩

/-- A plant with one material, of which a product takes two kilograms. -/
def sampleMaterials : MaterialDatabase where
  usage := .empty usageSchema
  ledger := .empty ledgerSchema
  materials := [⟨7, some .kg, none, none⟩]
  productMaterials := [⟨8, 5, 7, none, none, some ⟨9, some 2, some .kg, 7⟩⟩]
  altGroups := []
  facility := oneShiftFacility 0 1000

/-- A cycle of the shift that makes one item. -/
def sampleCycle (usageId : Uuid) : MaterialCall :=
  .cycle ⟨1, 2, 6, 10, [⟨5, 0, 1, 0⟩]⟩ fun _ ↦ usageId

def sampleFlush (ledgerId : Uuid) : MaterialCall := .flush 3 2000 fun _ ↦ ledgerId

theorem flushes_keepBalances_sample : ∃ s,
    Run materialStep (fun _ _ ↦ True) (.init sampleMaterials) [sampleCycle 20, sampleFlush 30] s ∧
      s.db.flushedRows ≠ [] ∧ LedgerMatches sampleMaterials s.db := by
  have hrun : ((execute materialStep (fun _ _ ↦ True) [sampleCycle 20, sampleFlush 30]
      (.init sampleMaterials)).any fun s ↦ decide (s.db.flushedRows ≠ [])) = true := by
    decide +kernel
  obtain ⟨s, hs, hflushed⟩ := (Option.any_eq_true _ _).mp hrun
  have hrefs : sampleMaterials.EntriesExist := fun _ hr ↦ absurd hr List.not_mem_nil
  exact ⟨s, run_of_execute hs, of_decide_eq_true hflushed,
    (flushes_keepBalances hrefs (run_of_execute hs)).1⟩

/-- **What a cycle uses reaches the balance**, but for the rows that have been flushed, which it
leaves alone; and later flushes keep it. -/
theorem cycles_reachBalance {c : CycleClose} {newId : UsageScope → Uuid}
    (hstep : materialStep (.cycle c newId) s = some s') (m : Uuid) :
    onHand s'.db m = onHand s.db m - s.db.booked c.jobId m (s.db.want c) ∧
      s'.db.flushedRows = s.db.flushedRows ∧
      ∀ flushes s'', Run materialStep (fun _ call ↦ ∃ shiftInstanceId now ledgerId,
        call = .flush shiftInstanceId now ledgerId) s' flushes s'' →
          onHand s''.db m = onHand s'.db m := by
  obtain ⟨bookings, hbooks, -⟩ := books_of_cycle hstep
  refine ⟨?_, hbooks.flushedRows, fun flushes s'' hrun ↦ ?_⟩
  · rw [onHand_books hbooks, hbooks.sum_eq]
  · induction hrun with
    | nil => rfl
    | snoc _ hflush hstep ih =>
      obtain ⟨shiftInstanceId, now, ledgerId, rfl⟩ := hflush
      have hflushes := (flushes_of_flush hstep).1
      exact (hflushes.balance_eq m fun t ht ↦ absurd ht (by simp)).trans ih

theorem cycles_reachBalance_sample : ∃ s, materialStep (sampleCycle 20) (.init sampleMaterials)
    = some s ∧ onHand s.db 7 = onHand sampleMaterials 7 - 2 := by
  obtain ⟨s, hs⟩ := Option.isSome_iff_exists.mp
    (show (materialStep (sampleCycle 20) (.init sampleMaterials)).isSome = true by decide +kernel)
  have hbooked : sampleMaterials.booked 6 7 (sampleMaterials.want
      ⟨1, 2, 6, 10, [⟨5, 0, 1, 0⟩]⟩) = 2 := by decide +kernel
  exact ⟨s, hs, hbooked ▸ (cycles_reachBalance hs 7).1⟩

/-- A replayed cycle of a shift that has been flushed: its two kilograms are discarded. -/
theorem not_cycles_reachBalance : ∃ s s', Run materialStep (fun _ _ ↦ True) (.init sampleMaterials)
    [sampleCycle 20, sampleFlush 30] s ∧ materialStep (sampleCycle 21) s = some s' ∧
      ((s.db.want ⟨1, 2, 6, 10, [⟨5, 0, 1, 0⟩]⟩).map fun w ↦
        if w.materialId = 7 then w.consumption else 0).sum = 2 ∧
      onHand s'.db 7 = onHand s.db 7 := by
  have hrun : ((execute materialStep (fun _ _ ↦ True) [sampleCycle 20, sampleFlush 30]
      (.init sampleMaterials)).any fun s ↦ (materialStep (sampleCycle 21) s).any fun s' ↦
        decide (((s.db.want ⟨1, 2, 6, 10, [⟨5, 0, 1, 0⟩]⟩).map fun w ↦
          if w.materialId = 7 then w.consumption else 0).sum = 2) &&
        decide (onHand s'.db 7 = onHand s.db 7)) = true := by
    decide +kernel
  obtain ⟨s, hs, hstep⟩ := (Option.any_eq_true _ _).mp hrun
  obtain ⟨s', hs', hsums⟩ := (Option.any_eq_true _ _).mp hstep
  rw [Bool.and_eq_true, decide_eq_true_eq, decide_eq_true_eq] at hsums
  exact ⟨s, s', run_of_execute hs, hs', hsums⟩

end

end RwServer
