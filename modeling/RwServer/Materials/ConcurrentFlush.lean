import Mathlib
import RwServer.Materials.Balance

/-!
# Cycles and flushes at the same time

A flush locks the rows it has found and a cycle the rows it writes, but a cycle tests `flushedAt`
before it has the lock. Where every increment finds its row unflushed, nothing is lost: the balances
are lower by what the committed cycles have booked, and the rows match the entries of the ledger
(`concurrentFlush_losesNothing`). A flush that commits between the test and the increment makes the
cycle add to a row that counts no more (`not_concurrentFlush_losesNothing`).

A cycle knows of the rows it has written that they are unflushed, and a flush of the rows it has
locked that they are as it read them; both stay so, since others write other rows.
-/

namespace RwServer

open Relational ReadCommitted Grouping Transition

/-! ## What writes do to the rows -/

/-- The rows that the writes create. -/
def createdUsage (ws : List MaterialWrite) : List MaterialShiftUsage :=
  ws.filterMap fun
    | .createUsage r => some r
    | _ => none

theorem createdUsage_append (ws ws' : List MaterialWrite) :
    createdUsage (ws ++ ws') = createdUsage ws ++ createdUsage ws' := List.filterMap_append

theorem mem_createdUsage {ws : List MaterialWrite} {r : MaterialShiftUsage} :
    r ∈ createdUsage ws ↔ .createUsage r ∈ ws := by
  rw [createdUsage, List.mem_filterMap]
  constructor
  · rintro ⟨w, hw, hr⟩
    cases w <;> cases hr
    exact hw
  · exact fun h ↦ ⟨_, h, rfl⟩

section

variable {db db' : MaterialDatabase} {w : MaterialWrite} {ws : List MaterialWrite}
  {r : MaterialShiftUsage}

private theorem map_rows_modify {γ : Type*} (f : MaterialShiftUsage → γ)
    (q : MaterialShiftUsage → Bool) {g : MaterialShiftUsage → MaterialShiftUsage}
    (hg : Table.Mild usageSchema g) (hf : ∀ r, f (g r) = f r) :
    (db.usage.modify q g hg).rows.map f = db.usage.rows.map f := by
  rw [Table.modify]
  dsimp only
  rw [List.map_map]
  refine List.map_congr_left fun r _ ↦ ?_
  rw [Function.comp_apply]
  split
  · exact hf r
  · rfl

private theorem map_rows_of_write {γ : Type*} (f : MaterialShiftUsage → γ)
    (hincrement : ∀ quantity itemCount r, f (r.increment quantity itemCount) = f r)
    (hstamp : ∀ ids t id, w = .stampUsage ids t id → ∀ r, f (r.stamp t id) = f r)
    (h : db.write w = some db') :
    db'.usage.rows.map f = (db.usage.rows ++ createdUsage [w]).map f := by
  cases w with
  | createUsage r =>
    obtain ⟨usage, husage, rfl⟩ := Option.map_eq_some_iff.mp h
    rw [MaterialDatabase.setUsage, Table.rows_of_insert husage]
    rfl
  | incrementUsage id quantity itemCount =>
    rw [MaterialDatabase.write] at h
    split at h
    · cases h
      refine (map_rows_modify f _ (MaterialShiftUsage.mild_increment _ _)
        (hincrement quantity itemCount)).trans ?_
      rw [createdUsage, List.filterMap_cons, List.filterMap_nil, List.append_nil]
    · exact absurd h (by simp)
  | lockUsage ids =>
    cases h
    rw [createdUsage, List.filterMap_cons, List.filterMap_nil, List.append_nil]
  | stampUsage ids t id =>
    cases h
    refine (map_rows_modify f _ (MaterialShiftUsage.mild_stamp _ _) (hstamp ids t id rfl)).trans ?_
    rw [createdUsage, List.filterMap_cons, List.filterMap_nil, List.append_nil]
  | createLedgerEntry e =>
    obtain ⟨ledger, -, rfl⟩ := Option.map_eq_some_iff.mp h
    rw [createdUsage, List.filterMap_cons, List.filterMap_nil, List.append_nil]
    rfl

/-- The rows after some writes, as far as the writes do not change them. -/
theorem map_rows_of_writeAll {γ : Type*} (f : MaterialShiftUsage → γ)
    (hincrement : ∀ quantity itemCount r, f (r.increment quantity itemCount) = f r)
    (hstamp : ∀ w ∈ ws, ∀ ids t id, w = .stampUsage ids t id → ∀ r, f (r.stamp t id) = f r)
    (h : materialStore.writeAll db ws = some db') :
    db'.usage.rows.map f = (db.usage.rows ++ createdUsage ws).map f := by
  induction ws generalizing db with
  | nil =>
    cases h
    rw [createdUsage, List.filterMap_nil, List.append_nil]
  | cons w ws ih =>
    rw [Store.writeAll_cons] at h
    obtain ⟨db₁, hwrite, h⟩ := Option.bind_eq_some_iff.mp h
    have hfirst := map_rows_of_write f hincrement (hstamp w List.mem_cons_self) hwrite
    rw [ih (fun w hw ↦ hstamp w (List.mem_cons_of_mem _ hw)) h, List.map_append, hfirst,
      ← List.map_append, List.append_assoc, ← createdUsage_append, List.singleton_append]

/-- The id and the scope of a row never change. -/
def MaterialShiftUsage.face (r : MaterialShiftUsage) : Uuid × UsageScope := (r.id, r.scope)

theorem faces_of_writeAll (h : materialStore.writeAll db ws = some db') :
    db'.usage.rows.map MaterialShiftUsage.face
      = (db.usage.rows ++ createdUsage ws).map MaterialShiftUsage.face :=
  map_rows_of_writeAll _ (fun _ _ _ ↦ rfl) (fun _ _ _ _ _ _ _ ↦ rfl) h

/-- A row that no write names is as it was. -/
theorem mem_of_writeAll (h : materialStore.writeAll db ws = some db') (hr : r ∈ db'.usage.rows)
    (hnot : ∀ w ∈ ws, r.id ∉ w.usageIds) : r ∈ db.usage.rows := by
  induction ws generalizing db with
  | nil =>
    cases h
    exact hr
  | cons w ws ih =>
    rw [Store.writeAll_cons] at h
    obtain ⟨db₁, hwrite, h⟩ := Option.bind_eq_some_iff.mp h
    have hwrite : db.write w = some db₁ := hwrite
    have hmem := ih h fun w hw ↦ hnot w (List.mem_cons_of_mem _ hw)
    have hown := hnot w List.mem_cons_self
    cases w with
    | createUsage a =>
      obtain ⟨usage, husage, rfl⟩ := Option.map_eq_some_iff.mp hwrite
      rw [MaterialDatabase.setUsage, Table.rows_of_insert husage, List.mem_append,
        List.mem_singleton] at hmem
      exact hmem.resolve_right fun heq ↦ hown (heq ▸ List.mem_cons_self)
    | incrementUsage id quantity itemCount =>
      rw [MaterialDatabase.write] at hwrite
      split at hwrite
      · cases hwrite
        obtain ⟨a, ha, rfl⟩ := List.mem_map.mp hmem
        split
        · rename_i hid
          rw [if_pos hid] at hown
          exact absurd (List.mem_singleton.mpr (of_decide_eq_true hid)) hown
        · exact ha
      · exact absurd hwrite (by simp)
    | lockUsage ids =>
      cases hwrite
      exact hmem
    | stampUsage ids t id =>
      cases hwrite
      obtain ⟨a, ha, rfl⟩ := List.mem_map.mp hmem
      split
      · rename_i hid
        rw [if_pos hid] at hown
        exact absurd (List.contains_iff_mem.mp hid) hown
      · exact ha
    | createLedgerEntry e =>
      obtain ⟨ledger, -, rfl⟩ := Option.map_eq_some_iff.mp hwrite
      exact hmem

/-- Rows that no write names are found as they were. -/
theorem filter_of_writeAll {ids : List Uuid} (h : materialStore.writeAll db ws = some db')
    (hnot : ∀ w ∈ ws, ∀ id ∈ w.usageIds, id ∉ ids) :
    db'.usage.rows.filter (fun r ↦ ids.contains r.id)
      = db.usage.rows.filter fun r ↦ ids.contains r.id := by
  induction ws generalizing db with
  | nil =>
    cases h
    rfl
  | cons w ws ih =>
    rw [Store.writeAll_cons] at h
    obtain ⟨db₁, hwrite, h⟩ := Option.bind_eq_some_iff.mp h
    have hwrite : db.write w = some db₁ := hwrite
    refine (ih h fun w hw ↦ hnot w (List.mem_cons_of_mem _ hw)).trans ?_
    have hown := hnot w List.mem_cons_self
    have houtside : ∀ id ∈ w.usageIds, ids.contains id = false := fun id hid ↦ by
      rw [← Bool.not_eq_true]
      exact fun hin ↦ hown id hid (List.contains_iff_mem.mp hin)
    cases w with
    | createUsage a =>
      obtain ⟨usage, husage, rfl⟩ := Option.map_eq_some_iff.mp hwrite
      rw [MaterialDatabase.setUsage, Table.rows_of_insert husage, List.filter_append,
        List.filter_cons, List.filter_nil, houtside a.id List.mem_cons_self,
        if_neg Bool.false_ne_true, List.append_nil]
    | incrementUsage id quantity itemCount =>
      rw [MaterialDatabase.write] at hwrite
      split at hwrite
      · cases hwrite
        refine Table.filter_rows_modify _ _ (MaterialShiftUsage.mild_increment _ _) fun r _ hid ↦ ?_
        have hr := houtside r.id (List.mem_singleton.mpr (of_decide_eq_true hid))
        exact ⟨hr, hr⟩
      · exact absurd hwrite (by simp)
    | lockUsage locked =>
      cases hwrite
      rfl
    | stampUsage stamped t id =>
      cases hwrite
      refine Table.filter_rows_modify _ _ (MaterialShiftUsage.mild_stamp _ _) fun r _ hid ↦ ?_
      have hr := houtside r.id (List.contains_iff_mem.mp hid)
      exact ⟨hr, hr⟩
    | createLedgerEntry e =>
      obtain ⟨ledger, -, rfl⟩ := Option.map_eq_some_iff.mp hwrite
      rfl

end

/-! ## A cycle under way -/

/-- The write is the one of the booking, on a row that is not flushed. -/
def Charges (rows : List MaterialShiftUsage) : MaterialWrite → Booking → Prop
  | .createUsage r, b => r.flushedAt = none ∧ r.flushedLedgerEntryId = none ∧
      r.scope.materialId = b.materialId ∧ r.quantity = b.quantity
  | .incrementUsage id quantity _, b => quantity = b.quantity ∧ (∃ r ∈ rows, r.id = id) ∧
      ∀ r ∈ rows, r.id = id → r.flushedAt = none ∧ r.scope.materialId = b.materialId
  | _, _ => False

/-- What a charge depends on. -/
def MaterialShiftUsage.chargedFace (r : MaterialShiftUsage) : Uuid × Option Time × UsageScope :=
  (r.id, r.flushedAt, r.scope)

theorem Charges.of_faces {rows rows' : List MaterialShiftUsage} {w : MaterialWrite} {b : Booking}
    (h : Charges rows w b) (hfaces : rows'.map MaterialShiftUsage.chargedFace
      = rows.map MaterialShiftUsage.chargedFace) : Charges rows' w b := by
  have hmem : ∀ {l l' : List MaterialShiftUsage}, l'.map MaterialShiftUsage.chargedFace
      = l.map MaterialShiftUsage.chargedFace → ∀ r ∈ l, ∃ r' ∈ l', r'.chargedFace = r.chargedFace :=
    fun heq r hr ↦ List.mem_map.mp (heq ▸ List.mem_map_of_mem hr)
  cases w with
  | createUsage r => exact h
  | incrementUsage id quantity itemCount =>
    obtain ⟨hquantity, ⟨r, hr, hid⟩, hrows⟩ := h
    obtain ⟨r', hr', hface⟩ := hmem hfaces r hr
    refine ⟨hquantity, ⟨r', hr', (congrArg Prod.fst hface).trans hid⟩, fun a ha haid ↦ ?_⟩
    obtain ⟨a', ha', hface'⟩ := hmem hfaces.symm a ha
    obtain ⟨hopen, hmaterial⟩ := hrows a' ha' ((congrArg Prod.fst hface').trans haid)
    have hrest := congrArg Prod.snd hface'
    have hflushed : a'.flushedAt = a.flushedAt := congrArg Prod.fst hrest
    have hscope : a'.scope = a.scope := congrArg Prod.snd hrest
    exact ⟨hflushed ▸ hopen, hscope ▸ hmaterial⟩
  | lockUsage ids => exact h
  | stampUsage ids t id => exact h
  | createLedgerEntry e => exact h

/-- What is left of a cycle that has made the bookings. -/
inductive CyclePosition (rows : List MaterialShiftUsage) : List Booking → MaterialTx → Prop
  | start (c : CycleClose) (newId : UsageScope → Uuid) :
      CyclePosition rows [] (bookCycle c newId)
  | loop (jobId : Uuid) (newId : UsageScope → Uuid) (want : List UsageRow)
      (booked : List Booking) : CyclePosition rows booked (bookUsage jobId newId want booked)
  | increment {jobId : Uuid} {newId : UsageScope → Uuid} {w : UsageRow} {rest : List UsageRow}
      {booked : List Booking} {unit : WeightUnit} {id : Uuid} : (∃ r ∈ rows, r.id = id) →
      (∀ r ∈ rows, r.id = id → r.scope.materialId = w.materialId) →
      CyclePosition rows booked (.exec (fun _ ↦ [.incrementUsage id (w.qtyDelta unit) w.itemCount])
        (bookUsage jobId newId rest (booked ++ [w.booking id unit])))
  | create {jobId : Uuid} {newId : UsageScope → Uuid} {w : UsageRow} {rest : List UsageRow}
      {booked : List Booking} {unit : WeightUnit} {id : Uuid} :
      CyclePosition rows booked (.exec (fun _ ↦ [.createUsage (w.newUsage jobId id unit)])
        (bookUsage jobId newId rest (booked ++ [w.booking id unit])))

section

variable {rows rows' : List MaterialShiftUsage} {booked : List Booking} {w : MaterialWrite}
  {b : Booking} {writes : MaterialDatabase → List MaterialWrite}
  {next : MaterialDatabase → MaterialTx}

/-- The loop is over, or reads the row of the next scope. -/
private theorem bookUsage_cases (jobId : Uuid) (newId : UsageScope → Uuid) (want : List UsageRow)
    (booked : List Booking) : bookUsage jobId newId want booked = .commit (.booked booked) ∨
      ∃ (w : UsageRow) (rest : List UsageRow) (unit : WeightUnit),
        bookUsage jobId newId want booked = .read (fun db ↦ db.findScope (w.scope jobId)) fun
          | some existing =>
            if existing.flushedAt.isSome then bookUsage jobId newId rest booked
            else .exec (fun _ ↦ [.incrementUsage existing.id (w.qtyDelta unit) w.itemCount])
              (bookUsage jobId newId rest (booked ++ [w.booking existing.id unit]))
          | none => .exec (fun _ ↦ [.createUsage (w.newUsage jobId (newId (w.scope jobId)) unit)])
              (bookUsage jobId newId rest
                (booked ++ [w.booking (newId (w.scope jobId)) unit])) := by
  induction want with
  | nil => exact .inl rfl
  | cons w rest ih =>
    cases hunit : w.materialUnit with
    | none =>
      have hskip :
          bookUsage jobId newId (w :: rest) booked = bookUsage jobId newId rest booked := by
        rw [bookUsage, hunit]
      rw [hskip]
      exact ih
    | some unit =>
      refine .inr ⟨w, rest, unit, ?_⟩
      rw [bookUsage, hunit]
      rfl

/-- The rows that a session sees, by their ids and scopes. -/
def SameFaces (rows : List MaterialShiftUsage) (v : MaterialDatabase) : Prop :=
  v.usage.rows.map MaterialShiftUsage.face = rows.map MaterialShiftUsage.face

private theorem SameFaces.exists_mem {v : MaterialDatabase} (h : SameFaces rows v)
    {r : MaterialShiftUsage} (hr : r ∈ rows) :
    ∃ r' ∈ v.usage.rows, r'.id = r.id ∧ r'.scope = r.scope := by
  have hface : r.face ∈ v.usage.rows.map MaterialShiftUsage.face := by
    rw [h]
    exact List.mem_map_of_mem hr
  obtain ⟨r', hr', heq⟩ := List.mem_map.mp hface
  exact ⟨r', hr', congrArg Prod.fst heq, congrArg Prod.snd heq⟩

private theorem SameFaces.exists_row {v : MaterialDatabase} (h : SameFaces rows v)
    {r : MaterialShiftUsage} (hr : r ∈ v.usage.rows) :
    ∃ r' ∈ rows, r'.id = r.id ∧ r'.scope = r.scope := by
  have hface : r.face ∈ rows.map MaterialShiftUsage.face := by
    rw [← h]
    exact List.mem_map_of_mem hr
  obtain ⟨r', hr', heq⟩ := List.mem_map.mp hface
  exact ⟨r', hr', congrArg Prod.fst heq, congrArg Prod.snd heq⟩

/-- A statement of a cycle reads, or makes the next booking. -/
private theorem CyclePosition.step (h : CyclePosition rows booked (.run writes next))
    {v : MaterialDatabase} (hv : SameFaces rows v) :
    (writes v = [] ∧ CyclePosition rows booked (next v)) ∨
    ∃ w b, writes v = [w] ∧ (∀ rows', CyclePosition rows' (booked ++ [b]) (next v)) ∧
      ((∃ id quantity itemCount, w = .incrementUsage id quantity itemCount ∧
        quantity = b.quantity ∧ (∃ r ∈ rows, r.id = id) ∧
        ∀ r ∈ rows, r.id = id → r.scope.materialId = b.materialId) ∨
      ∃ r, w = .createUsage r ∧ Charges rows w b) := by
  generalize hp : Program.run writes next = p at h
  cases h with
  | start c newId =>
    cases hp
    exact .inl ⟨rfl, .loop _ _ _ _⟩
  | loop jobId newId want booked =>
    rcases bookUsage_cases jobId newId want booked with hend | ⟨w, rest, unit, hread⟩
    · rw [hend] at hp
      cases hp
    · rw [hread] at hp
      cases hp
      refine .inl ⟨rfl, ?_⟩
      cases hfind : v.findScope (w.scope jobId) with
      | none =>
        simp only [hfind]
        exact .create
      | some existing =>
        simp only [hfind]
        split
        · exact .loop _ _ _ _
        · have hscope := List.find?_some hfind
          rw [decide_eq_true_eq] at hscope
          have hmem := List.mem_of_find?_eq_some hfind
          obtain ⟨r, hr, hid, -⟩ := hv.exists_row hmem
          refine .increment ⟨r, hr, hid⟩ fun r hr hid ↦ ?_
          obtain ⟨r', hr', hid', hscope'⟩ := hv.exists_mem hr
          have hsame := v.usage.eq_of_key_eq hr' hmem (hid'.trans hid)
          rw [← hscope', hsame, hscope]
          rfl
  | increment hrow hmaterial =>
    cases hp
    exact .inr ⟨_, _, rfl, fun _ ↦ .loop _ _ _ _, .inl ⟨_, _, _, rfl, rfl, hrow, hmaterial⟩⟩
  | create =>
    cases hp
    exact .inr ⟨_, _, rfl, fun _ ↦ .loop _ _ _ _, .inr ⟨_, rfl, rfl, rfl, rfl, rfl⟩⟩

private theorem CyclePosition.commit {result : MaterialResult}
    (h : CyclePosition rows booked (.commit result)) : result = .booked booked := by
  generalize hp : Program.commit result = p at h
  cases h with
  | start c newId => cases hp
  | loop jobId newId want booked =>
    rcases bookUsage_cases jobId newId want booked with hend | ⟨w, rest, unit, hread⟩
    · rw [hend] at hp
      cases hp
      rfl
    · rw [hread] at hp
      cases hp
  | increment _ _ => cases hp
  | create => cases hp

/-- The rows that matter to a cycle: each of the new ones is an old one, and none is gone. -/
private theorem CyclePosition.mono {p : MaterialTx} (h : CyclePosition rows booked p)
    (hkeep : ∀ r ∈ rows, ∃ r' ∈ rows', r'.id = r.id)
    (hold : ∀ r' ∈ rows', (∃ r ∈ rows, r.id = r'.id) → ∃ r ∈ rows, r.id = r'.id ∧
      r.scope = r'.scope) : CyclePosition rows' booked p := by
  cases h with
  | start c newId => exact .start c newId
  | loop jobId newId want booked => exact .loop jobId newId want booked
  | increment hrow hmaterial =>
    obtain ⟨r, hr, hid⟩ := hrow
    obtain ⟨r', hr', hid'⟩ := hkeep r hr
    refine .increment ⟨r', hr', hid'.trans hid⟩ fun a' ha' haid ↦ ?_
    obtain ⟨a, ha, hsame, hscope⟩ := hold a' ha' ⟨r, hr, hid.trans haid.symm⟩
    rw [← hscope]
    exact hmaterial a ha (hsame.trans haid)
  | create => exact .create

end

/-! ## Sessions -/

/-- The program makes the writes and nothing else, and then commits a flush. -/
inductive Writes : List MaterialWrite → MaterialTx → Prop
  | commit (result : FlushResult) : Writes [] (.commit (.flushed result))
  | read {ws : List MaterialWrite} {next : MaterialDatabase → MaterialTx} :
      (∀ v, Writes ws (next v)) → Writes ws (.run (fun _ ↦ []) next)
  | exec {w : MaterialWrite} {ws : List MaterialWrite} {p : MaterialTx} :
      Writes ws p → Writes (w :: ws) (.exec (fun _ ↦ [w]) p)

theorem writes_flushGroups (now : Time) (ledgerId : FlushKey → Uuid) (result : FlushResult)
    (gs : List (FlushKey × List MaterialShiftUsage)) :
    Writes (flushWrites now ledgerId gs) (flushGroups now ledgerId result gs) := by
  induction gs with
  | nil => exact .commit result
  | cons g gs ih => exact .exec (.exec ih)

/-- Where a session is that stages or flushes: its writes, and the rest of its program. -/
inductive StagingAt (db : MaterialDatabase) : List MaterialWrite → MaterialTx → Prop
  | cycle {ws : List MaterialWrite} {p : MaterialTx} {booked : List Booking} :
      List.Forall₂ (Charges (db.usage.rows ++ createdUsage ws)) ws booked →
      CyclePosition (db.usage.rows ++ createdUsage ws) booked p → StagingAt db ws p
  | start (shiftInstanceId : Uuid) (now : Time) (ledgerId : FlushKey → Uuid)
      (inSnapshot : Uuid → Bool) :
      StagingAt db [] (flushShiftUsageInTx shiftInstanceId now ledgerId inSnapshot)
  | flush {now : Time} {ledgerId : FlushKey → Uuid} {rows : List MaterialShiftUsage}
      {done rest : List MaterialWrite} {p : MaterialTx} :
      db.usage.rows.filter (fun r ↦ (rows.map MaterialShiftUsage.id).contains r.id) = rows →
      (∀ r ∈ rows, r.flushedAt = none) →
      done ++ rest = flushWrites now ledgerId (groupBy MaterialShiftUsage.groupKey rows) →
      Writes rest p → StagingAt db (.lockUsage (rows.map MaterialShiftUsage.id) :: done) p

/-- An increment finds its row unflushed. -/
def MaterialWrite.FindsOpen (v : MaterialDatabase) : MaterialWrite → Prop
  | .incrementUsage id _ _ => ∀ r ∈ v.usage.find id, r.flushedAt = none
  | .createUsage _ | .lockUsage _ | .stampUsage _ _ _ | .createLedgerEntry _ => True

instance decidableFindsOpen (v : MaterialDatabase) (w : MaterialWrite) :
    Decidable (w.FindsOpen v) := by
  cases w <;> unfold MaterialWrite.FindsOpen <;> infer_instance

/-- The increments of a statement find their rows unflushed. -/
def IncrementsOpen (v : MaterialDatabase) (ws : List MaterialWrite) : Prop :=
  ∀ w ∈ ws, w.FindsOpen v

instance decidableIncrementsOpen (v : MaterialDatabase) (ws : List MaterialWrite) :
    Decidable (IncrementsOpen v ws) :=
  inferInstanceAs (Decidable (∀ w ∈ ws, _))

section

variable {db v v' : MaterialDatabase} {ws ws' : List MaterialWrite}
  {writes : MaterialDatabase → List MaterialWrite} {next : MaterialDatabase → MaterialTx}
  {p : MaterialTx} {booked : List Booking}

private theorem not_stamps_of_charges {rows : List MaterialShiftUsage}
    (h : List.Forall₂ (Charges rows) ws booked) : ∀ w ∈ ws, ∀ ids t id,
      w = .stampUsage ids t id → ∀ r : MaterialShiftUsage, (r.id, (r.stamp t id).flushedAt)
        = (r.id, r.flushedAt) := by
  induction h with
  | nil => exact fun w hw ↦ absurd hw List.not_mem_nil
  | cons hcharges _ ih =>
    intro w hw ids t id hstamp
    rcases List.mem_cons.mp hw with rfl | hw
    · rw [hstamp] at hcharges
      exact hcharges.elim
    · exact ih w hw ids t id hstamp

/-- The rows that a cycle sees are flushed if the committed ones are. -/
private theorem flushedAt_of_charges
    (h : List.Forall₂ (Charges (db.usage.rows ++ createdUsage ws)) ws booked)
    (hview : materialStore.writeAll db ws = some v) {r : MaterialShiftUsage}
    (hr : r ∈ db.usage.rows ++ createdUsage ws) :
    ∃ r' ∈ v.usage.rows, r'.id = r.id ∧ r'.flushedAt = r.flushedAt := by
  have hmap := map_rows_of_writeAll (fun r ↦ (r.id, r.flushedAt)) (fun _ _ _ ↦ rfl)
    (not_stamps_of_charges h) hview
  have hmem : (r.id, r.flushedAt) ∈ v.usage.rows.map fun r ↦ (r.id, r.flushedAt) := by
    rw [hmap]
    exact List.mem_map_of_mem hr
  obtain ⟨r', hr', heq⟩ := List.mem_map.mp hmem
  exact ⟨r', hr', congrArg Prod.fst heq, congrArg Prod.snd heq⟩

/-- A statement of a cycle. -/
private theorem StagingAt.run_cycle
    (hcharges : List.Forall₂ (Charges (db.usage.rows ++ createdUsage ws)) ws booked)
    (hposition : CyclePosition (db.usage.rows ++ createdUsage ws) booked (.run writes next))
    (hview : materialStore.writeAll db ws = some v) (hopen : IncrementsOpen v (writes v))
    (hwrite : materialStore.writeAll v (writes v) = some v') :
    StagingAt db (ws ++ writes v) (next v) := by
  have hfaces : SameFaces (db.usage.rows ++ createdUsage ws) v := faces_of_writeAll hview
  rcases hposition.step hfaces with ⟨hnone, hnext⟩ | ⟨w, b, hone, hnext, hown⟩
  · rw [hnone, List.append_nil]
    exact .cycle hcharges hnext
  · rw [hone] at hopen hwrite ⊢
    refine .cycle ?_ (hnext _)
    rw [createdUsage_append, ← List.append_assoc]
    refine List.rel_append ?_ (.cons ?_ .nil)
    · -- a new row has an id of its own
      refine hcharges.imp fun w₀ b₀ h₀ ↦ ?_
      cases w₀ with
      | createUsage r => exact h₀
      | incrementUsage id quantity itemCount =>
        obtain ⟨hquantity, ⟨r₀, hr₀, hid₀⟩, hrows⟩ := h₀
        refine ⟨hquantity, ⟨r₀, List.mem_append_left _ hr₀, hid₀⟩, fun r hr hid ↦ ?_⟩
        rcases List.mem_append.mp hr with hr | hr
        · exact hrows r hr hid
        · rw [mem_createdUsage, List.mem_singleton] at hr
          rw [← hr, Store.writeAll_cons] at hwrite
          obtain ⟨v₁, hinsert, -⟩ := Option.bind_eq_some_iff.mp hwrite
          obtain ⟨usage, husage, -⟩ := Option.map_eq_some_iff.mp hinsert
          obtain ⟨r', hr', hid', -⟩ := hfaces.exists_mem hr₀
          exact absurd (List.mem_map.mpr ⟨r', hr', hid'.trans (hid₀.trans hid.symm)⟩)
            (Table.insert_eq_some_iff.mp husage).1
      | lockUsage ids => exact h₀
      | stampUsage ids t id => exact h₀
      | createLedgerEntry e => exact h₀
    · rcases hown with ⟨id, quantity, itemCount, rfl, hquantity, ⟨r₀, hr₀, hid₀⟩, hmaterial⟩
        | ⟨r, rfl, hcharge⟩
      · refine ⟨hquantity, ⟨r₀, List.mem_append_left _ hr₀, hid₀⟩, fun r hr hid ↦ ?_⟩
        have hcreated : createdUsage [.incrementUsage id quantity itemCount] = [] := rfl
        rw [hcreated, List.append_nil] at hr
        refine ⟨?_, hmaterial r hr hid⟩
        obtain ⟨r', hr', hid', hflushed⟩ := flushedAt_of_charges hcharges hview hr
        rw [← hflushed]
        exact hopen _ List.mem_cons_self r'
          (Table.find_eq_some_iff.mpr ⟨hr', hid'.trans hid⟩)
      · exact hcharge

private theorem Writes.step {rest : List MaterialWrite} (h : Writes rest (.run writes next))
    (v : MaterialDatabase) : (writes v = [] ∧ Writes rest (next v)) ∨
      ∃ w rest', rest = w :: rest' ∧ writes v = [w] ∧ Writes rest' (next v) := by
  generalize hp : Program.run writes next = p at h
  cases h with
  | commit result => cases hp
  | read hnext =>
    cases hp
    exact .inl ⟨rfl, hnext v⟩
  | exec hnext =>
    cases hp
    exact .inr ⟨_, _, rfl, rfl, hnext⟩

/-- The rows found are the ones with their ids. -/
private theorem filter_ids_filter (db : MaterialDatabase) (q : MaterialShiftUsage → Bool) :
    db.usage.rows.filter (fun r ↦
      ((db.usage.rows.filter q).map MaterialShiftUsage.id).contains r.id)
      = db.usage.rows.filter q := by
  refine List.filter_congr fun r hr ↦ ?_
  rw [Bool.eq_iff_iff, List.contains_iff_mem]
  constructor
  · intro hid
    obtain ⟨a, ha, hid⟩ := List.mem_map.mp hid
    obtain ⟨ha, hq⟩ := List.mem_filter.mp ha
    exact db.usage.eq_of_key_eq ha hr hid ▸ hq
  · exact fun hq ↦ List.mem_map_of_mem (List.mem_filter.mpr ⟨hr, hq⟩)

/-- **A statement keeps a session on its way.** -/
theorem StagingAt.run (h : StagingAt db ws (.run writes next))
    (hview : materialStore.writeAll db ws = some v) (hopen : IncrementsOpen v (writes v))
    (hwrite : materialStore.writeAll v (writes v) = some v') :
    StagingAt db (ws ++ writes v) (next v) := by
  generalize hp : Program.run writes next = p at h
  cases h with
  | cycle hcharges hposition =>
    exact run_cycle hcharges (hp ▸ hposition) hview hopen hwrite
  | start shiftInstanceId now ledgerId inSnapshot =>
    cases hp
    cases hview
    rw [List.nil_append]
    refine .flush (filter_ids_filter db _) (fun r hr ↦ ?_) (List.nil_append _)
      (.read fun _ ↦ writes_flushGroups now ledgerId _ _)
    rw [List.mem_filter, Bool.and_eq_true] at hr
    exact (MaterialShiftUsage.isUnflushedIn_iff.mp hr.2.1).2
  | flush hrows hunflushed hwrites hrest =>
    rw [← hp] at hrest
    rcases hrest.step v with ⟨hnone, hnext⟩ | ⟨w, rest, rfl, hone, hnext⟩
    · rw [hnone, List.append_nil]
      exact .flush hrows hunflushed hwrites hnext
    · rw [hone, List.cons_append]
      exact .flush hrows hunflushed ((List.append_assoc _ [w] rest).trans hwrites) hnext

private theorem not_mem_usageIds {w w' : MaterialWrite} (h : w.conflict w' = false) {id : Uuid}
    (hid : id ∈ w'.usageIds) : id ∉ w.usageIds := fun hid' ↦ by
  rw [MaterialWrite.conflict, Bool.or_eq_false_iff, List.any_eq_false] at h
  exact h.1 id hid' (List.contains_iff_mem.mpr hid)

private theorem forall₂_imp_of_mem {α γ : Type*} {R R' : α → γ → Prop} {l : List α} {l' : List γ}
    (h : List.Forall₂ R l l') (himp : ∀ a ∈ l, ∀ b, R a b → R' a b) : List.Forall₂ R' l l' := by
  induction h with
  | nil => exact .nil
  | cons hab _ ih =>
    exact .cons (himp _ List.mem_cons_self _ hab)
      (ih fun a ha ↦ himp a (List.mem_cons_of_mem _ ha))

/-- **A commit that conflicts with none of its writes keeps a session on its way.** -/
theorem StagingAt.frame (h : StagingAt db ws' p) (hcommit : materialStore.writeAll db ws = some v)
    (hapart : ∀ w ∈ ws, ∀ w' ∈ ws', w.conflict w' = false) : StagingAt v ws' p := by
  cases h with
  | @cycle _ _ booked hcharges hposition =>
    have hfaces : SameFaces (db.usage.rows ++ createdUsage ws) v := faces_of_writeAll hcommit
    -- no row is gone, and a new one has an id that none had
    have hkeep : ∀ r ∈ db.usage.rows ++ createdUsage ws', ∃ r' ∈ v.usage.rows ++ createdUsage ws',
        r'.id = r.id := by
      intro r hr
      rcases List.mem_append.mp hr with hr | hr
      · obtain ⟨r', hr', hid, -⟩ := hfaces.exists_mem (List.mem_append_left _ hr)
        exact ⟨r', List.mem_append_left _ hr', hid⟩
      · exact ⟨r, List.mem_append_right _ hr, rfl⟩
    have hold : ∀ r' ∈ v.usage.rows ++ createdUsage ws',
        (∃ r ∈ db.usage.rows ++ createdUsage ws', r.id = r'.id) →
        ∃ r ∈ db.usage.rows ++ createdUsage ws', r.id = r'.id ∧ r.scope = r'.scope := by
      rintro r' hr' ⟨r₀, hr₀, hid₀⟩
      rcases List.mem_append.mp hr' with hr' | hr'
      · obtain ⟨r, hr, hid, hscope⟩ := hfaces.exists_row hr'
        rcases List.mem_append.mp hr with hr | hr
        · exact ⟨r, List.mem_append_left _ hr, hid, hscope⟩
        · exfalso
          rcases List.mem_append.mp hr₀ with hr₀ | hr₀
          · have hnodup : (v.usage.rows.map MaterialShiftUsage.id).Nodup := v.usage.nodup
            have hids : v.usage.rows.map MaterialShiftUsage.id
                = (db.usage.rows ++ createdUsage ws).map MaterialShiftUsage.id := by
              have hmap := congrArg (List.map Prod.fst) hfaces
              rwa [List.map_map, List.map_map] at hmap
            rw [hids, List.map_append, List.nodup_append] at hnodup
            exact hnodup.2.2 r₀.id (List.mem_map_of_mem hr₀) r.id (List.mem_map_of_mem hr)
              (hid₀.trans hid.symm)
          · have hconflict := hapart _ (mem_createdUsage.mp hr) _ (mem_createdUsage.mp hr₀)
            refine not_mem_usageIds hconflict List.mem_cons_self ?_
            exact List.mem_singleton.mpr (hid₀.trans hid.symm)
      · exact ⟨r', List.mem_append_right _ hr', rfl, rfl⟩
    refine .cycle (forall₂_imp_of_mem hcharges fun w' hw' b hcharge ↦ ?_)
      (hposition.mono hkeep hold)
    cases w' with
    | createUsage r => exact hcharge
    | incrementUsage id quantity itemCount =>
      obtain ⟨hquantity, ⟨r₀, hr₀, hid₀⟩, hrows⟩ := hcharge
      obtain ⟨r₁, hr₁, hid₁⟩ := hkeep r₀ hr₀
      refine ⟨hquantity, ⟨r₁, hr₁, hid₁.trans hid₀⟩, fun r hr hid ↦ ?_⟩
      rcases List.mem_append.mp hr with hr | hr
      · -- others have not written the row
        have hcommitted := mem_of_writeAll hcommit hr fun w hw ↦
          not_mem_usageIds (hapart w hw _ hw') (List.mem_singleton.mpr hid)
        exact hrows r (List.mem_append_left _ hcommitted) hid
      · exact hrows r (List.mem_append_right _ hr) hid
    | lockUsage ids => exact hcharge
    | stampUsage ids t id => exact hcharge
    | createLedgerEntry e => exact hcharge
  | start shiftInstanceId now ledgerId inSnapshot => exact .start _ _ _ _
  | flush hrows hunflushed hwrites hrest =>
    refine .flush ((filter_of_writeAll hcommit fun w hw id hid hin ↦ ?_).trans hrows) hunflushed
      hwrites hrest
    exact not_mem_usageIds (hapart w hw _ List.mem_cons_self) hin hid

/-- What a cycle has written lowers the balances by its bookings, and keeps rows and ledger
matching. -/
private theorem commit_cycle
    (hcharges : List.Forall₂ (Charges (db.usage.rows ++ createdUsage ws)) ws booked)
    (hcommit : materialStore.writeAll db ws = some v) {db₀ : MaterialDatabase}
    (hmatches : LedgerMatches db₀ db) : LedgerMatches db₀ v ∧ ∀ m, onHand v m = onHand db m
      - (booked.map fun b ↦ if b.materialId = m then b.quantity else 0).sum := by
  induction ws generalizing db booked with
  | nil =>
    cases hcharges
    cases hcommit
    exact ⟨hmatches, fun m ↦ by rw [List.map_nil, List.sum_nil, sub_zero]⟩
  | cons w ws ih =>
    cases hcharges with
    | @cons _ b _ booked hcharge hcharges =>
      rw [Store.writeAll_cons] at hcommit
      obtain ⟨db₁, hwrite, hrest⟩ := Option.bind_eq_some_iff.mp hcommit
      have hwrite : db.write w = some db₁ := hwrite
      cases w with
      | createUsage r =>
        obtain ⟨hopen, hunstamped, hmaterial, hquantity⟩ := hcharge
        have hrows : db.usage.rows ++ createdUsage (.createUsage r :: ws)
            = db₁.usage.rows ++ createdUsage ws := by
          obtain ⟨usage, husage, rfl⟩ := Option.map_eq_some_iff.mp hwrite
          rw [MaterialDatabase.setUsage, Table.rows_of_insert husage, List.append_assoc]
          rfl
        rw [hrows] at hcharges
        obtain ⟨hmatches', hbalance⟩ := ih hcharges hrest
          (hmatches.createUsage hopen hunstamped hwrite)
        refine ⟨hmatches', fun m ↦ ?_⟩
        rw [hbalance, onHand_createUsage hwrite, List.map_cons, List.sum_cons,
          MaterialShiftUsage.staged, hmaterial, hquantity]
        simp only [hopen, and_true]
        ring
      | incrementUsage id quantity itemCount =>
        obtain ⟨hquantity, -, hrow⟩ := hcharge
        obtain ⟨r, hfind⟩ : ∃ r, db.usage.find id = some r := by
          rw [MaterialDatabase.write] at hwrite
          split at hwrite
          · rename_i hsome
            exact Option.isSome_iff_exists.mp hsome
          · exact absurd hwrite (by simp)
        obtain ⟨hr, hid⟩ := Table.find_eq_some_iff.mp hfind
        have hid : r.id = id := hid
        obtain ⟨hopen, hmaterial⟩ := hrow r (List.mem_append_left _ hr) hid
        have hfaces : db₁.usage.rows.map MaterialShiftUsage.chargedFace
            = db.usage.rows.map MaterialShiftUsage.chargedFace := by
          have hmap := map_rows_of_write MaterialShiftUsage.chargedFace (fun _ _ _ ↦ rfl)
            (fun _ _ _ h ↦ absurd h (by simp)) hwrite
          have hcreated : createdUsage [.incrementUsage id quantity itemCount] = [] := rfl
          rwa [hcreated, List.append_nil] at hmap
        have hcharges' : List.Forall₂ (Charges (db₁.usage.rows ++ createdUsage ws)) ws booked :=
          hcharges.imp fun _ _ h ↦ h.of_faces <| by
            rw [List.map_append, List.map_append, hfaces]
            rfl
        rw [← hid] at hfind hwrite
        obtain ⟨hmatches', hbalance⟩ := ih hcharges' hrest
          (hmatches.incrementUsage hfind hopen hwrite)
        refine ⟨hmatches', fun m ↦ ?_⟩
        rw [hbalance, onHand_incrementUsage hwrite hfind, List.map_cons, List.sum_cons, hmaterial,
          hquantity]
        simp only [hopen, and_true]
        ring
      | lockUsage ids => exact hcharge.elim
      | stampUsage ids t id => exact hcharge.elim
      | createLedgerEntry e => exact hcharge.elim

private theorem commit_flush {now : Time} {ledgerId : FlushKey → Uuid}
    {rows : List MaterialShiftUsage} {done : List MaterialWrite}
    (hrows : db.usage.rows.filter (fun r ↦ (rows.map MaterialShiftUsage.id).contains r.id) = rows)
    (hunflushed : ∀ r ∈ rows, r.flushedAt = none)
    (hwrites : done = flushWrites now ledgerId (groupBy MaterialShiftUsage.groupKey rows))
    (hcommit : materialStore.writeAll db (.lockUsage (rows.map MaterialShiftUsage.id) :: done)
      = some v) {db₀ : MaterialDatabase} (hmatches : LedgerMatches db₀ db) :
    LedgerMatches db₀ v ∧ ∀ m, onHand v m = onHand db m := by
  rw [Store.writeAll_cons] at hcommit
  obtain ⟨db₁, hlock, hrest⟩ := Option.bind_eq_some_iff.mp hcommit
  cases hlock
  have hflush : Flushes (fun r ↦ (rows.map MaterialShiftUsage.id).contains r.id) now ledgerId db
      v := by
    refine flushes_of_writeAll (fun r hr hin ↦ hunflushed r ?_) ?_
    · rw [← hrows]
      exact List.mem_filter.mpr ⟨hr, hin⟩
    · rwa [hrows, ← hwrites]
  exact ⟨hmatches.flush hflush, fun m ↦ hflush.balance_eq m fun t ht ↦ absurd ht (by simp)⟩

/-- What the bookings of a result take from the balance of a material. -/
def MaterialResult.used (m : Uuid) (result : MaterialResult) : ℚ :=
  (result.bookings.map fun b ↦ if b.materialId = m then b.quantity else 0).sum

/-- **A commit** lowers the balances by what it has booked, and keeps rows and ledger matching. -/
theorem StagingAt.commit {result : MaterialResult} (h : StagingAt db ws (.commit result))
    (hcommit : materialStore.writeAll db ws = some v) {db₀ : MaterialDatabase}
    (hmatches : LedgerMatches db₀ db) :
    LedgerMatches db₀ v ∧ ∀ m, onHand v m = onHand db m - result.used m := by
  generalize hp : Program.commit result = p at h
  cases h with
  | @cycle _ _ booked hcharges hposition =>
    rw [← hp] at hposition
    have hresult := hposition.commit
    obtain ⟨hmatches', hbalance⟩ := commit_cycle hcharges hcommit hmatches
    refine ⟨hmatches', fun m ↦ ?_⟩
    rw [hbalance, hresult, MaterialResult.used, MaterialResult.bookings]
  | start shiftInstanceId now ledgerId inSnapshot => cases hp
  | flush hrows hunflushed hwrites hrest =>
    rw [← hp] at hrest
    generalize hq : Program.commit result = q at hrest
    cases hrest with
    | commit flushed =>
      cases hq
      rw [List.append_nil] at hwrites
      obtain ⟨hmatches', hbalance⟩ := commit_flush hrows hunflushed hwrites hcommit hmatches
      refine ⟨hmatches', fun m ↦ ?_⟩
      rw [hbalance, MaterialResult.used, MaterialResult.bookings, List.map_nil, List.sum_nil,
        sub_zero]
    | read _ => cases hq
    | exec _ => cases hq

private theorem StagingAt.not_lock {label : Unit} {next : MaterialTx}
    (h : StagingAt db ws (.lock label next)) : False := by
  generalize hp : Program.lock label next = p at h
  cases h with
  | cycle hcharges hposition =>
    cases hposition with
    | start c newId => cases hp
    | loop jobId newId want =>
      rename_i booked
      rcases bookUsage_cases jobId newId want booked with hend | ⟨w, rest, unit, hread⟩
      · rw [hend] at hp
        cases hp
      · rw [hread] at hp
        cases hp
    | increment _ _ => cases hp
    | create => cases hp
  | start shiftInstanceId now ledgerId inSnapshot => cases hp
  | flush hrows hunflushed hwrites hrest =>
    cases hrest with
    | commit flushed => cases hp
    | read _ => cases hp
    | exec _ => cases hp

end

/-! ## All interleavings -/

/-- A transaction of the staging table. -/
inductive StagingCall
  | cycle (c : CycleClose) (newId : UsageScope → Uuid)
  | flush (shiftInstanceId : Uuid) (now : Time) (ledgerId : FlushKey → Uuid)
      (inSnapshot : Uuid → Bool)

def StagingCall.program : StagingCall → MaterialTx
  | .cycle c newId => bookCycle c newId
  | .flush shiftInstanceId now ledgerId inSnapshot =>
    flushShiftUsageInTx shiftInstanceId now ledgerId inSnapshot

section

variable {ι : Type*} [Fintype ι] [DecidableEq ι]

/-- What the committed sessions have taken from the balance of a material. -/
def usedBy (results : ι → Option MaterialResult) (m : Uuid) : ℚ :=
  ∑ i, ((results i).map (MaterialResult.used m)).getD 0

/-- The balances are lower by what has been used, and rows and ledger match. -/
def stagingOutline (ι : Type*) [Fintype ι] [DecidableEq ι] (db₀ : MaterialDatabase) :
    RowOutline materialStore IncrementsOpen Unit ι MaterialResult where
  Inv results db := LedgerMatches db₀ db ∧ ∀ m, onHand db m = onHand db₀ m - usedBy results m
  Local _ ws p db := StagingAt db ws p
  run _ h hview hopen hwrite := h.run hview hopen hwrite
  lock h := h.not_lock.elim
  commit := by
    rintro i ws result results s v ⟨hmatches, hbalance⟩ hnone h hcommit
    obtain ⟨hmatches', hbalance'⟩ := h.commit hcommit hmatches
    refine ⟨hmatches', fun m ↦ ?_⟩
    have hused := sum_update (fun _ r ↦ (Option.map (MaterialResult.used m) r).getD 0) results i
      (some result)
    rw [hbalance', hbalance, usedBy, usedBy, hused, hnone, Option.map_none, Option.map_some,
      Option.getD_none, Option.getD_some]
    ring
  frame _ _ _ h hcommit hapart := h.frame hcommit hapart

variable {db : MaterialDatabase} {calls : ι → StagingCall} {moves : List (Move ι)}
  {y : System MaterialDatabase MaterialWrite Unit MaterialResult ι}

/-- **Cycles and flushes at the same time lose nothing** as long as increments find their rows
unflushed: every balance is lower by what the committed cycles have booked, and the rows flushed
match the entries of the ledger. -/
theorem concurrentFlush_losesNothing (hrefs : db.EntriesExist)
    (hrun : Run (step materialStore) (RunWhen materialStore IncrementsOpen)
      (.start db fun i ↦ (calls i).program) moves y) :
    (∀ m, onHand y.committed m = onHand db m - usedBy y.results m) ∧
      LedgerMatches db y.committed := by
  have h := (stagingOutline ι db).sound MaterialWrite.conflict_comm
    ⟨.refl hrefs, fun m ↦ by simp [usedBy]⟩ (fun i ↦ ?_) hrun
  · exact ⟨h.inv.2, h.inv.1⟩
  · cases hcall : calls i with
    | cycle c newId =>
      rw [StagingCall.program]
      exact .cycle .nil (.start c newId)
    | flush shiftInstanceId now ledgerId inSnapshot =>
      exact .start shiftInstanceId now ledgerId inSnapshot

end

/-! ## A flush between the test and the increment -/

/-- A cycle of the shift, and a flush of it by session `true`. -/
def cycleAndFlush : Bool → StagingCall
  | false => .cycle ⟨1, 2, 6, 10, [⟨5, 0, 1, 0⟩]⟩ fun _ ↦ 21
  | true => .flush 3 2000 (fun _ ↦ 30) fun _ ↦ true

/-- The plant after a cycle: two kilograms are staged. -/
def stagedMaterials : MaterialDatabase where
  usage := (Table.empty usageSchema).insertMissing
    ⟨20, 1, ⟨3, 2, 6, 5, 7⟩, 2, .kg, 1, none, none⟩
  ledger := .empty ledgerSchema
  materials := sampleMaterials.materials
  productMaterials := sampleMaterials.productMaterials
  altGroups := []
  facility := sampleMaterials.facility

private theorem entriesExist_staged : stagedMaterials.EntriesExist := by
  unfold MaterialDatabase.EntriesExist
  decide +kernel

/-- The flush waits until the cycle has committed, and sweeps what it has added. -/
theorem concurrentFlush_losesNothing_sample : ∃ y,
    Run (step materialStore) (RunWhen materialStore IncrementsOpen)
      (.start stagedMaterials fun i ↦ (cycleAndFlush i).program)
      [.run false, .run false, .run false, .run false, .run true, .run true, .run true, .run true,
        .run true] y ∧
      onHand y.committed 7 = onHand stagedMaterials 7 - usedBy y.results 7 := by
  have hrun : (execute (step materialStore) (RunWhen materialStore IncrementsOpen)
      [.run false, .run false, .run false, .run false, .run true, .run true, .run true, .run true,
        .run true] (.start stagedMaterials fun i ↦ (cycleAndFlush i).program)).isSome = true := by
    decide +kernel
  obtain ⟨y, hy⟩ := Option.isSome_iff_exists.mp hrun
  exact ⟨y, run_of_execute hy, (concurrentFlush_losesNothing entriesExist_staged
    (run_of_execute hy)).1 7⟩

/-- The flush commits after the cycle has tested `flushedAt`: the two kilograms of the cycle stand
on a flushed row, and neither the balance nor the entry of the row knows of them. -/
theorem not_concurrentFlush_losesNothing : ∃ y,
    Run (step materialStore) (fun _ _ ↦ True)
      (.start stagedMaterials fun i ↦ (cycleAndFlush i).program)
      [.run false, .run false, .run true, .run true, .run true, .run true, .run true,
        .run false, .run false] y ∧
      (∀ i, (y.sessions i).phase = .committed) ∧ usedBy y.results 7 = 2 ∧
      onHand y.committed 7 = onHand stagedMaterials 7 ∧
      y.committed.ledger.rows.map MaterialLedgerEntry.quantity = [-2] ∧
      y.committed.flushedRows.map MaterialShiftUsage.quantity = [4] := by
  have hrun : ((execute (step materialStore) (fun _ _ ↦ True)
      [.run false, .run false, .run true, .run true, .run true, .run true, .run true,
        .run false, .run false] (.start stagedMaterials fun i ↦ (cycleAndFlush i).program)).any
      fun y ↦ decide ((∀ i, (y.sessions i).phase = .committed) ∧ usedBy y.results 7 = 2 ∧
        onHand y.committed 7 = onHand stagedMaterials 7 ∧
        y.committed.ledger.rows.map MaterialLedgerEntry.quantity = [-2] ∧
        y.committed.flushedRows.map MaterialShiftUsage.quantity = [4])) = true := by
    decide +kernel
  obtain ⟨y, hy, hlost⟩ := (Option.any_eq_true _ _).mp hrun
  exact ⟨y, run_of_execute hy, of_decide_eq_true hlost⟩

end RwServer
