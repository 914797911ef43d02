import Mathlib
import RwServer.Metrics.ArchiveSteps

/-!
# Archiving loses no concurrent correction

While the archive moves the row of an hour, a correction can go to a row that is about to be
deleted, and is lost with it; and an empty row can be scaffolded over the archived one. Where
neither happens (`KeepsCorrections`), every hour ends up with what has been added to it and the
durations that have been written to it last (`archive_keepsCorrections`).

The invariant follows one hour at a time. What it stands for is its effective row, until the row has
been copied or its archived version has been rewritten; from then on its live row is *doomed*, and
it stands for the archived one. A step changes the live row of an hour in one of four ways
(`LiveChange`), which keep what the calls under way rely on.
-/

namespace RwServer

open Relational Transition

/-! ## The rows of an hour -/

section

variable {m n : ℕ} (sc : Corrections m n)

/-- The live row of an hour. -/
def Corrections.liveAt (s : ArchiveState m n) (start : Time) : Option BucketRow :=
  s.tables.live.find (hourKey sc.stationId start)

/-- The archived row of an hour. -/
def Corrections.logAt (s : ArchiveState m n) (start : Time) : Option BucketRow :=
  s.tables.log.find (hourKey sc.stationId start)

/-- The ids of the rows that have been re-read and not yet deleted. -/
def ArchivePhase.movingIds : ArchivePhase → List Uuid
  | .copying oldBuckets _ => idsOf oldBuckets
  | .copied oldBuckets => idsOf oldBuckets
  | _ => []

/-- The ids of the rows that have been copied and not yet deleted. -/
def ArchivePhase.copiedIds : ArchivePhase → List Uuid
  | .copied oldBuckets => idsOf oldBuckets
  | _ => []

/-- A correction of durations is about to delete the live row of an hour. -/
def ArchiveState.IsCleared (s : ArchiveState m n) (start : Time) : Prop :=
  ∃ i, (s.timed i).clears = some start

/-- What is written to the live row of an hour is lost. -/
def Corrections.IsLeaving (s : ArchiveState m n) (start : Time) : Prop :=
  (∃ r ∈ sc.liveAt s start, r.id ∈ s.archive.movingIds) ∨ s.IsCleared start

/-- The live row of an hour is to go, and the archived one to stay. -/
def Corrections.IsDoomed (s : ArchiveState m n) (start : Time) : Prop :=
  ∃ r ∈ sc.liveAt s start, r.id ∈ s.archive.copiedIds ∨ s.IsCleared start

/-! ## Where a correction is lost -/

/-- Scaffolding inserts no row for an hour that is archived. -/
def Corrections.HidesNothing (s : ArchiveState m n) (timestamp : Time) : Prop :=
  ∀ b ∈ stationHours sc.f sc.siteId sc.stationId timestamp,
    sc.liveAt s b.startTime = none → sc.logAt s b.startTime = none

/-- The next row to be frozen is not an hour that is about to be deleted. -/
def Corrections.FreezeKeeps (s : ArchiveState m n) : ArchivePhase → Prop
  | .freezing _ (bucket :: _) => ∀ r ∈ s.tables.live.rows, r.id = bucket.id →
      r.key = hourKey sc.stationId r.startTime → ¬s.IsCleared r.startTime
  | _ => True

/-- The log keeps the hours that are copied. -/
def Corrections.CopyKeeps (s : ArchiveState m n) : ArchivePhase → Prop
  | .copying _ refreshed => ∀ r ∈ s.tables.live.rows, r ∈ refreshed.rows →
      r.key = hourKey sc.stationId r.startTime → LogKeeps s.tables.log r
  | _ => True

/-- Durations go to a live row that stays, or to an archived row that has the scrap of the live row
over it. -/
def Corrections.WriteKeeps (s : ArchiveState m n) : TimedPhase → Prop
  | .readLive bucket newData none (some liveRow) _ => isDurationUnchanged liveRow newData = false →
      (sc.liveAt s bucket.startTime).isSome = true ∧ ¬sc.IsLeaving s bucket.startTime
  | .readLive bucket newData (some archivedRow) _ _ =>
    isDurationUnchanged archivedRow newData = false →
      ∀ r ∈ sc.liveAt s bucket.startTime, ∀ a ∈ sc.logAt s bucket.startTime,
        a.kpis.additive .badItems = r.kpis.additive .badItems
  | _ => True

/-- A step at which no correction is lost. -/
def Corrections.KeepsCorrections (s : ArchiveState m n) : Statement m n → Prop
  | .archive (.freeze _) => sc.FreezeKeeps s s.archive
  | .archive .copy => sc.CopyKeeps s s.archive
  | .bad i (.scaffold _) => sc.HidesNothing s (sc.bad i).timestamp
  | .bad i .addLive => ¬sc.IsLeaving s (sc.badHour i)
  | .timed i (.scaffold _) => sc.HidesNothing s (sc.timed i).startTime
  | .timed i .write => sc.WriteKeeps s (s.timed i)
  | _ => True

instance decidableIsCleared (s : ArchiveState m n) (start : Time) : Decidable (s.IsCleared start) :=
  inferInstanceAs (Decidable (∃ _, _))

instance decidableIsLeaving (s : ArchiveState m n) (start : Time) :
    Decidable (sc.IsLeaving s start) :=
  inferInstanceAs (Decidable (_ ∨ _))

instance decidableHidesNothing (s : ArchiveState m n) (timestamp : Time) :
    Decidable (sc.HidesNothing s timestamp) :=
  inferInstanceAs (Decidable (∀ b ∈ _, _))

instance decidableKeepsCorrections (s : ArchiveState m n) (statement : Statement m n) :
    Decidable (sc.KeepsCorrections s statement) := by
  unfold Corrections.KeepsCorrections
  split
  · unfold Corrections.FreezeKeeps
    split <;> infer_instance
  · unfold Corrections.CopyKeeps
    split <;> infer_instance
  · infer_instance
  · infer_instance
  · infer_instance
  · unfold Corrections.WriteKeeps
    split <;> infer_instance
  · infer_instance

/-! ## How the rows of an hour change -/

/-- How a step changes the live row of an hour. -/
inductive LiveChange (s s' : ArchiveState m n) (start : Time) : Prop
  | same (h : sc.liveAt s' start = sc.liveAt s start)
  | written {r r' : BucketRow} (h : sc.liveAt s start = some r) (h' : sc.liveAt s' start = some r')
      (hid : r'.id = r.id) (hstays : ¬sc.IsLeaving s start)
  | removed (h' : sc.liveAt s' start = none) (hlog : (sc.logAt s start).isSome = true)
  | inserted {r : BucketRow} (h : sc.liveAt s start = none) (h' : sc.liveAt s' start = some r)
      (hid : r.id ∉ s.usedIds) (hlog : sc.logAt s start = none)

/-- How a step changes the rows of the hours. An archived row is never deleted. -/
structure RowsChange (s s' : ArchiveState m n) : Prop where
  live : ∀ start, LiveChange sc s s' start
  log : ∀ start, (sc.logAt s start).isSome = true → (sc.logAt s' start).isSome = true

/-- An hour has a row. -/
def Corrections.IsPresent (s : ArchiveState m n) (start : Time) : Prop :=
  (sc.liveAt s start).isSome = true ∨ (sc.logAt s start).isSome = true

/-- An hour has an archived row and no live one. -/
def Corrections.IsArchived (s : ArchiveState m n) (start : Time) : Prop :=
  sc.liveAt s start = none ∧ (sc.logAt s start).isSome = true

end

section

variable {m n : ℕ} {sc : Corrections m n} {s s' : ArchiveState m n} {start : Time}

theorem RowsChange.of_rows (hlive : ∀ start, sc.liveAt s' start = sc.liveAt s start)
    (hlog : ∀ start, sc.logAt s' start = sc.logAt s start) : RowsChange sc s s' :=
  ⟨fun start ↦ .same (hlive start), fun start h ↦ by rwa [hlog start]⟩

theorem RowsChange.isPresent (h : RowsChange sc s s') (hs : sc.IsPresent s start) :
    sc.IsPresent s' start := by
  rcases hs with hs | hs
  · cases h.live start with
    | same hsame => exact .inl (hsame ▸ hs)
    | written _ h' => exact .inl (h' ▸ rfl)
    | removed _ hlog => exact .inr (h.log start hlog)
    | inserted _ h' => exact .inl (h' ▸ rfl)
  · exact .inr (h.log start hs)

theorem RowsChange.isArchived (h : RowsChange sc s s') (hs : sc.IsArchived s start) :
    sc.IsArchived s' start := by
  refine ⟨?_, h.log start hs.2⟩
  cases h.live start with
  | same hsame => exact hsame.trans hs.1
  | written hr => exact absurd (hs.1.symm.trans hr) (by simp)
  | removed h' => exact h'
  | inserted _ _ _ hlog => exact absurd hs.2 (by simp [hlog])

end

/-! ## What the calls under way rely on -/

section

variable {m n : ℕ} (sc : Corrections m n)

/-- What a correction of durations relies on: an archived row stays, and gets no live row. -/
def TimedOk (s : ArchiveState m n) : TimedPhase → Prop
  | .readLog bucket _ (some _) _ => (sc.logAt s bucket.startTime).isSome = true
  | .readLive bucket _ (some _) (some _) _ => (sc.logAt s bucket.startTime).isSome = true
  | .readLive bucket _ (some _) none _ => sc.IsArchived s bucket.startTime
  | .deleting bucket _ => (sc.logAt s bucket.startTime).isSome = true
  | _ => True

/-- What a correction of scrap relies on: its hour has a row, and if not a live one, an archived
one. -/
def BadItemsOk (s : ArchiveState m n) (start : Time) : BadItemsPhase → Prop
  | .scaffolded => sc.IsPresent s start
  | .missed => sc.IsArchived s start
  | _ => True

/-- What the archive relies on: a row that it has re-read is as it was, or archived, and a row that
it is going to delete has been re-read and then copied. -/
def ArchiveOk (s : ArchiveState m n) : ArchivePhase → Prop
  | .copying oldBuckets refreshed => (∀ a ∈ refreshed.rows, a.id ∈ idsOf oldBuckets) ∧
      ∀ start, (∀ r ∈ sc.liveAt s start, r.id ∈ idsOf oldBuckets → r ∈ refreshed.rows) ∧
        ∀ a ∈ refreshed.rows, a.key = hourKey sc.stationId start →
          sc.liveAt s start = some a ∨ (sc.logAt s start).isSome = true
  | .copied oldBuckets => ∀ start, ∀ r ∈ sc.liveAt s start, r.id ∈ idsOf oldBuckets →
      (sc.logAt s start).isSome = true
  | _ => True

end

section

variable {m n : ℕ} {sc : Corrections m n} {s s' : ArchiveState m n} {start : Time}

theorem TimedOk.mono {phase : TimedPhase} (h : RowsChange sc s s') (hok : TimedOk sc s phase) :
    TimedOk sc s' phase := by
  unfold TimedOk at hok ⊢
  split at hok
  · exact h.log _ hok
  · exact h.log _ hok
  · exact h.isArchived hok
  · exact h.log _ hok
  · trivial

theorem BadItemsOk.mono {phase : BadItemsPhase} (h : RowsChange sc s s')
    (hok : BadItemsOk sc s start phase) : BadItemsOk sc s' start phase := by
  cases phase with
  | start => trivial
  | scaffolded => exact h.isPresent hok
  | missed => exact h.isArchived hok
  | done => trivial

theorem mem_usedIds_of_mem_ids {id : Uuid} (h : id ∈ s.archive.ids) : id ∈ s.usedIds :=
  List.mem_append_right _ h

/-- The archive is not disturbed by a step that leaves its own place. -/
theorem ArchiveOk.mono (h : RowsChange sc s s') (hok : ArchiveOk sc s s.archive)
    (hsame : s'.archive = s.archive) : ArchiveOk sc s' s'.archive := by
  rw [hsame]
  cases hphase : s.archive with
  | idle => trivial
  | freezing => trivial
  | done => trivial
  | copying oldBuckets refreshed =>
    rw [hphase] at hok
    obtain ⟨hids, hok⟩ := hok
    have hleaving : ∀ {start r}, sc.liveAt s start = some r → r.id ∈ idsOf oldBuckets →
        sc.IsLeaving s start := fun {_ r} hr hid ↦ .inl ⟨r, hr, by rw [hphase]; exact hid⟩
    refine ⟨hids, fun start ↦ ⟨fun r hr hid ↦ ?_, fun a ha hkey ↦ ?_⟩⟩
    · cases h.live start with
      | same hlive => exact (hok start).1 r (hlive ▸ hr) hid
      | written hold hnew hid' hstays =>
        obtain rfl := Option.some_inj.mp (hnew.symm.trans hr)
        exact absurd (hleaving hold (hid' ▸ hid)) hstays
      | removed hnone => exact absurd (hnone.symm.trans hr) (by simp)
      | inserted _ hnew hfresh =>
        obtain rfl := Option.some_inj.mp (hnew.symm.trans hr)
        exact absurd (mem_usedIds_of_mem_ids (by rw [hphase]; exact hid)) hfresh
    · rcases (hok start).2 a ha hkey with hlive | hlog
      · cases h.live start with
        | same hsame => exact .inl (hsame.trans hlive)
        | written _ _ _ hstays => exact absurd (hleaving hlive (hids a ha)) hstays
        | removed _ hlog => exact .inr (h.log start hlog)
        | inserted hnone => exact absurd (hnone.symm.trans hlive) (by simp)
      · exact .inr (h.log start hlog)
  | copied oldBuckets =>
    rw [hphase] at hok
    intro start r hr hid
    cases h.live start with
    | same hlive => exact h.log start (hok start r (hlive ▸ hr) hid)
    | written hold hnew hid' =>
      obtain rfl := Option.some_inj.mp (hnew.symm.trans hr)
      exact h.log start (hok start _ hold (hid' ▸ hid))
    | removed hnone => exact absurd (hnone.symm.trans hr) (by simp)
    | inserted _ hnew hfresh =>
      obtain rfl := Option.some_inj.mp (hnew.symm.trans hr)
      exact absurd (mem_usedIds_of_mem_ids (by rw [hphase]; exact hid)) hfresh

end

/-! ## What an hour stands for -/

/-- The columns that corrections write. -/
def correctedKeys : List KpiKey :=
  [.badItems, .runSeconds, .downSeconds, .plannedDownSeconds, .unplannedDownSeconds,
    .elapsedPlannedProductionSeconds, .elapsedExpectedCycles, .elapsedExpectedItems,
    .expectedCycles, .expectedItems]

/-- The value of a column of a row; zero where there is no row. -/
def rowKpi (row : Option BucketRow) (key : KpiKey) : ℤ :=
  (row.map fun r ↦ r.kpis.additive key).getD 0

section

variable {m n : ℕ} (sc : Corrections m n) (tables : BucketTables)

/-- The value that an hour should have: what has been written last, and what has been added. -/
def Corrections.expected (s : ArchiveState m n) (start : Time) (key : KpiKey) : ℤ :=
  ((s.written start).bind fun d ↦ d.column key).getD
    (tables.kpi (hourKey sc.stationId start) key) + if key = .badItems then s.added start else 0

/-- A row has the values that its hour should have. -/
def Corrections.Matches (s : ArchiveState m n) (start : Time) (row : Option BucketRow) : Prop :=
  ∀ key ∈ correctedKeys, rowKpi row key = sc.expected tables s start key

/-- The row that an hour stands for, which is the archived one while the live one is doomed, has the
values that it should have. -/
structure ValuesOk (s : ArchiveState m n) (start : Time) : Prop where
  visible : ¬sc.IsDoomed s start → sc.Matches tables s start
    ((sc.liveAt s start).or (sc.logAt s start))
  below : sc.IsDoomed s start → sc.Matches tables s start (sc.logAt s start)

/-- The invariant, from the tables before the first statement. -/
structure Invariant (s : ArchiveState m n) : Prop where
  timed : ∀ i, TimedOk sc s (s.timed i)
  bad : ∀ i, BadItemsOk sc s (sc.badHour i) (s.bad i)
  archive : ArchiveOk sc s s.archive
  present : ∀ start, (tables.effective (hourKey sc.stationId start)).isSome = true →
    sc.IsPresent s start
  values : ∀ start, ValuesOk sc tables s start

end

section

variable {m n : ℕ} {sc : Corrections m n} {tables : BucketTables} {s s' : ArchiveState m n}
  {start : Time} {row : Option BucketRow} {r r' : BucketRow}

theorem Corrections.Matches.congr (hadded : s'.added start = s.added start)
    (hwritten : s'.written start = s.written start) :
    sc.Matches tables s' start row ↔ sc.Matches tables s start row := by
  rw [Matches, Matches]
  simp only [expected, hadded, hwritten]

/-- Scrap is added to the row. -/
theorem Corrections.Matches.add {quantity : ℤ} (h : sc.Matches tables s start (some r))
    (hadded : s'.added start = s.added start + quantity)
    (hwritten : s'.written start = s.written start) :
    sc.Matches tables s' start (some (r.addBadItems quantity)) := by
  intro key hkey
  have hrow : rowKpi (some (r.addBadItems quantity)) key
      = rowKpi (some r) key + if key = .badItems then quantity else 0 :=
    additive_addBadItems r.kpis key
  rw [hrow, h key hkey, expected, expected, hadded, hwritten, add_assoc]
  congr 1
  split_ifs <;> rfl

/-- Durations are written to a row that has its scrap. -/
theorem Corrections.Matches.set {d : Durations}
    (h : rowKpi (some r) .badItems = sc.expected tables s start .badItems)
    (hr' : ∀ key, r'.kpis.additive key = (d.column key).getD (r.kpis.additive key))
    (hadded : s'.added start = s.added start) (hwritten : s'.written start = some d) :
    sc.Matches tables s' start (some r') := by
  intro key hkey
  have hrow : rowKpi (some r') key = (d.column key).getD (rowKpi (some r) key) := hr' key
  rw [hrow, expected, hadded, hwritten, Option.bind_some]
  simp only [correctedKeys, List.mem_cons, List.not_mem_nil, or_false] at hkey
  rcases hkey with rfl | hkey
  · -- the scrap is not written
    have hcolumn : d.column .badItems = none := rfl
    rw [hcolumn, Option.getD_none, Option.getD_none, h, expected]
    congr 1
    cases hold : s.written start <;> rfl
  · have hcolumn : ∃ value, d.column key = some value ∧ key ≠ .badItems := by
      rcases hkey with rfl | rfl | rfl | rfl | rfl | rfl | rfl | rfl | rfl <;>
        exact ⟨_, rfl, by decide⟩
    obtain ⟨value, hvalue, hne⟩ := hcolumn
    rw [hvalue, Option.getD_some, Option.getD_some, if_neg hne, add_zero]

theorem Corrections.Matches.badItems (h : sc.Matches tables s start row) :
    rowKpi row .badItems = sc.expected tables s start .badItems :=
  h .badItems (by decide)

/-- The values of an hour whose rows and records are as before, and whose live row is doomed as
before. -/
theorem ValuesOk.congr (h : ValuesOk sc tables s start)
    (hlive : sc.liveAt s' start = sc.liveAt s start) (hlog : sc.logAt s' start = sc.logAt s start)
    (hadded : s'.added start = s.added start) (hwritten : s'.written start = s.written start)
    (hdoomed : sc.IsDoomed s' start ↔ sc.IsDoomed s start) : ValuesOk sc tables s' start := by
  constructor
  · intro hnot
    rw [hlive, hlog, Corrections.Matches.congr hadded hwritten]
    exact h.visible fun hd ↦ hnot (hdoomed.mpr hd)
  · intro hd
    rw [hlog, Corrections.Matches.congr hadded hwritten]
    exact h.below (hdoomed.mp hd)

/-- The values of an hour whose live row is not doomed. -/
theorem ValuesOk.of_visible (hnot : ¬sc.IsDoomed s start)
    (h : sc.Matches tables s start ((sc.liveAt s start).or (sc.logAt s start))) :
    ValuesOk sc tables s start :=
  ⟨fun _ ↦ h, fun hd ↦ absurd hd hnot⟩

theorem not_isDoomed_of_none (h : sc.liveAt s start = none) : ¬sc.IsDoomed s start := by
  rintro ⟨r, hr, -⟩
  rw [h] at hr
  exact absurd hr (by simp)

/-- The values of an hour without a live row. -/
theorem ValuesOk.of_archived (hlive : sc.liveAt s start = none) (hlog : sc.logAt s start = row)
    (h : sc.Matches tables s start row) : ValuesOk sc tables s start := by
  refine .of_visible (not_isDoomed_of_none hlive) ?_
  rwa [hlive, hlog, Option.none_or]

/-- The values of an hour whose live row is doomed. -/
theorem ValuesOk.of_doomed (hdoomed : sc.IsDoomed s start) (hlog : sc.logAt s start = row)
    (h : sc.Matches tables s start row) : ValuesOk sc tables s start :=
  ⟨fun hnot ↦ absurd hdoomed hnot, fun _ ↦ hlog ▸ h⟩

/-- An hour without a live row stands for the archived one. -/
theorem ValuesOk.archived (h : ValuesOk sc tables s start) (hlive : sc.liveAt s start = none) :
    sc.Matches tables s start (sc.logAt s start) := by
  have hvisible := h.visible (not_isDoomed_of_none hlive)
  rwa [hlive, Option.none_or] at hvisible

theorem copiedIds_subset {phase : ArchivePhase} {id : Uuid} (h : id ∈ phase.copiedIds) :
    id ∈ phase.movingIds := by
  cases phase <;> first | exact h | exact absurd h (by simp [ArchivePhase.copiedIds])

theorem not_isDoomed_of_stays (h : ¬sc.IsLeaving s start) : ¬sc.IsDoomed s start := by
  rintro ⟨r, hr, hid | hcleared⟩
  · exact h (.inl ⟨r, hr, copiedIds_subset hid⟩)
  · exact h (.inr hcleared)

/-- A step by a correction of durations that clears no such hour, before or after. -/
theorem isCleared_setTimed {i : Fin n} {phase : TimedPhase}
    (hold : (s.timed i).clears ≠ some start) (hnew : phase.clears ≠ some start) :
    (s.setTimed i phase).IsCleared start ↔ s.IsCleared start := by
  constructor
  · rintro ⟨j, hj⟩
    rw [ArchiveState.timed_setTimed] at hj
    split at hj
    · exact absurd hj hnew
    · exact ⟨j, hj⟩
  · rintro ⟨j, hj⟩
    refine ⟨j, ?_⟩
    rw [ArchiveState.timed_setTimed, if_neg fun hij : j = i ↦ hold (hij ▸ hj)]
    exact hj

end

/-! ## The statements, hour by hour -/

section

variable {m n : ℕ} {sc : Corrections m n} {tables : BucketTables} {s s' : ArchiveState m n}
  {start : Time} {r : BucketRow}

theorem of_mem_withIds {rows : List BucketRow} {ids : List Uuid} (h : r ∈ withIds rows ids) :
    r.id ∈ ids ∧ ∃ a ∈ rows, r.key = a.key ∧ r.kpis = a.kpis := by
  obtain ⟨p, hp, rfl⟩ := List.mem_map.mp h
  obtain ⟨ha, hid⟩ := List.of_mem_zip hp
  exact ⟨hid, p.1, ha, rfl, rfl⟩

/-- Rows with different ids are not in each other's way. -/
theorem pairwise_withIds {rows : List BucketRow} {ids : List Uuid}
    (hlength : ids.length = rows.length) (hnodup : ids.Nodup) :
    (withIds rows ids).Pairwise fun a b ↦ bucketRowSchema.clash a b = false := by
  have hids : (withIds rows ids).map BucketRow.id = ids := by
    rw [withIds, List.map_map]
    exact List.map_snd_zip hlength.le
  refine List.Pairwise.of_map BucketRow.id (S := (· ≠ ·)) (fun a b hab ↦ ?_) ?_
  · exact beq_eq_false_iff_ne.mpr hab
  · rw [hids]
    exact hnodup

theorem exists_mem_withIds {rows : List BucketRow} {ids : List Uuid} {a : BucketRow}
    (hlength : ids.length = rows.length) (ha : a ∈ rows) :
    ∃ r ∈ withIds rows ids, r.key = a.key := by
  rw [← List.map_fst_zip hlength.ge] at ha
  obtain ⟨p, hp, rfl⟩ := List.mem_map.mp ha
  exact ⟨_, List.mem_map_of_mem hp, rfl⟩

/-- What `ensureBuckets` does to the hours: those around its timestamp have a live row afterwards,
which is a new and empty one where there was none. -/
theorem liveAt_scaffold {timestamp : Time} {ids : List Uuid}
    (h : s.scaffold sc timestamp ids = some s') :
    (∃ live, s' = s.setLive live) ∧
      (∀ start, sc.liveAt s' start = sc.liveAt s start ∨ ∃ r, sc.liveAt s start = none ∧
        sc.liveAt s' start = some r ∧ r.id ∉ s.usedIds ∧ r.kpis = zeroKpis.store ∧
          ∃ b ∈ stationHours sc.f sc.siteId sc.stationId timestamp, b.startTime = start) ∧
      ∀ b ∈ stationHours sc.f sc.siteId sc.stationId timestamp,
        (sc.liveAt s' b.startTime).isSome = true := by
  rw [ArchiveState.scaffold] at h
  split at h
  · rename_i hids
    obtain ⟨hlength, hnodup, hfresh⟩ := hids
    obtain rfl := Option.some_inj.mp h
    refine ⟨⟨_, rfl⟩, fun start ↦ ?_, fun b hb ↦ ?_⟩
    · cases hold : sc.liveAt s start with
      | some r => exact .inl (Table.find_insertMissingAll_of_some hold)
      | none =>
        cases hnew : (s.tables.live.insertMissingAll (withIds
            (scaffoldRows sc.f sc.siteId sc.stationId timestamp) ids)).find
              (hourKey sc.stationId start) with
        | none => exact .inl hnew
        | some r =>
          obtain ⟨hmem, hrkey⟩ := Table.find_eq_some_iff.mp hnew
          rcases Table.mem_of_mem_insertMissingAll hmem with hmem | hmem
          · exact absurd hrkey (Table.find_eq_none_iff.mp hold r hmem)
          · obtain ⟨hid, a, ha, hkey, hkpis⟩ := of_mem_withIds hmem
            obtain ⟨hzero, hcases⟩ := of_mem_scaffoldRows ha
            have hakey : a.key = hourKey sc.stationId start := hkey.symm.trans hrkey
            refine .inr ⟨r, rfl, hnew, hfresh _ hid, hkpis.trans hzero, ?_⟩
            rcases hcases with ⟨shift, -, hshift⟩ | ⟨b, hb, hb', -⟩
            · rw [hakey] at hshift
              exact nomatch
                (congrArg BucketKey.granularity hshift : BucketGranularity.hour = .shift)
            · rw [hakey] at hb'
              exact ⟨b, hb, (congrArg BucketKey.startTime hb').symm⟩
    · -- the row of the hour gets an id that is in no other row's way
      obtain ⟨a, ha, hakey⟩ := exists_scaffoldRow hb
      obtain ⟨r, hr, hkey⟩ := exists_mem_withIds hlength ha
      obtain ⟨x, hx⟩ := Table.exists_find_insertMissingAll (t := s.tables.live) hr
        (pairwise_withIds hlength hnodup) fun c hc d hd ↦ by
          have hused : d.id ∈ s.usedIds :=
            List.mem_append_left _ (List.mem_append_left _ (List.mem_map_of_mem hd))
          exact beq_eq_false_iff_ne.mpr fun heq ↦ hfresh _ (of_mem_withIds hc).1 (heq ▸ hused)
      rw [show bucketRowSchema.key r = hourKey sc.stationId b.startTime from hkey.trans hakey] at hx
      exact Option.isSome_iff_exists.mpr ⟨x, hx⟩
  · exact absurd h (by simp)

end

/-! ## Every statement keeps the invariant -/

section

variable {m n : ℕ} {sc : Corrections m n} {tables : BucketTables} {s s' : ArchiveState m n}
  {start : Time}

theorem isDoomed_congr (hlive : sc.liveAt s' start = sc.liveAt s start)
    (hids : s'.archive.copiedIds = s.archive.copiedIds)
    (hcleared : s'.IsCleared start ↔ s.IsCleared start) :
    sc.IsDoomed s' start ↔ sc.IsDoomed s start := by
  rw [Corrections.IsDoomed, Corrections.IsDoomed, hlive, hids, hcleared]

/-- A step keeps the invariant if it keeps what the calls rely on that it moves on, and the values
of the hours. -/
theorem Invariant.step (h : Invariant sc tables s) (hrows : RowsChange sc s s')
    (htimed : ∀ i, s'.timed i = s.timed i ∨ TimedOk sc s' (s'.timed i))
    (hbad : ∀ i, s'.bad i = s.bad i ∨ BadItemsOk sc s' (sc.badHour i) (s'.bad i))
    (harchive : s'.archive = s.archive ∨ ArchiveOk sc s' s'.archive)
    (hvalues : ∀ start, ValuesOk sc tables s' start) : Invariant sc tables s' where
  timed i := by
    rcases htimed i with heq | hok
    · rw [heq]
      exact (h.timed i).mono hrows
    · exact hok
  bad i := by
    rcases hbad i with heq | hok
    · rw [heq]
      exact (h.bad i).mono hrows
    · exact hok
  archive := harchive.elim (h.archive.mono hrows) id
  present start hstart := hrows.isPresent (h.present start hstart)
  values := hvalues

theorem timedOk_setTimed {i : Fin n} {phase : TimedPhase}
    (hphase : TimedOk sc (s.setTimed i phase) phase) (j : Fin n) :
    (s.setTimed i phase).timed j = s.timed j ∨
      TimedOk sc (s.setTimed i phase) ((s.setTimed i phase).timed j) := by
  rw [ArchiveState.timed_setTimed]
  split
  · exact .inr hphase
  · exact .inl rfl

theorem badItemsOk_setBad {i : Fin m} {phase : BadItemsPhase}
    (hphase : BadItemsOk sc (s.setBad i phase) (sc.badHour i) phase) (j : Fin m) :
    (s.setBad i phase).bad j = s.bad j ∨
      BadItemsOk sc (s.setBad i phase) (sc.badHour j) ((s.setBad i phase).bad j) := by
  rw [ArchiveState.bad_setBad]
  split
  · rename_i hij
    exact .inr (hij ▸ hphase)
  · exact .inl rfl

/-! ### Statements that write no hour -/

theorem Invariant.setTimed (h : Invariant sc tables s) {i : Fin n} {phase : TimedPhase}
    (hold : (s.timed i).clears = none) (hnew : phase.clears = none)
    (hphase : TimedOk sc (s.setTimed i phase) phase) :
    Invariant sc tables (s.setTimed i phase) :=
  h.step (.of_rows (fun _ ↦ rfl) fun _ ↦ rfl) (timedOk_setTimed hphase) (fun _ ↦ .inl rfl)
    (.inl rfl) fun start ↦ (h.values start).congr rfl rfl rfl rfl
      (isDoomed_congr rfl rfl (isCleared_setTimed (by simp [hold]) (by simp [hnew])))

theorem Invariant.setArchive (h : Invariant sc tables s) {phase : ArchivePhase}
    (hids : phase.copiedIds = s.archive.copiedIds)
    (hok : ArchiveOk sc (s.setArchive phase) phase) : Invariant sc tables (s.setArchive phase) :=
  h.step (.of_rows (fun _ ↦ rfl) fun _ ↦ rfl) (fun _ ↦ .inl rfl) (fun _ ↦ .inl rfl) (.inr hok)
    fun start ↦ (h.values start).congr rfl rfl rfl rfl (isDoomed_congr rfl hids Iff.rfl)

theorem Invariant.setBad (h : Invariant sc tables s) {i : Fin m} {phase : BadItemsPhase}
    (hphase : BadItemsOk sc (s.setBad i phase) (sc.badHour i) phase) :
    Invariant sc tables (s.setBad i phase) :=
  h.step (.of_rows (fun _ ↦ rfl) fun _ ↦ rfl) (fun _ ↦ .inl rfl) (badItemsOk_setBad hphase)
    (.inl rfl) fun start ↦ (h.values start).congr rfl rfl rfl rfl (isDoomed_congr rfl rfl Iff.rfl)

theorem Invariant.rollup (h : Invariant sc tables s) {input : UpsertInput}
    (hinput : ¬(input.key.entityType = .station ∧ input.key.granularity = .hour)) :
    Invariant sc tables { s with tables := upsertBucket s.tables input } := by
  have hne : ∀ start, hourKey sc.stationId start ≠ input.key := fun start heq ↦
    hinput (heq ▸ ⟨rfl, rfl⟩)
  have hfind := fun start ↦ find_upsertBucket_of_ne (t := s.tables) (hne start)
  exact h.step (.of_rows (fun start ↦ (hfind start).1) fun start ↦ (hfind start).2)
    (fun _ ↦ .inl rfl) (fun _ ↦ .inl rfl) (.inl rfl) fun start ↦
      (h.values start).congr (hfind start).1 (hfind start).2 rfl rfl
        (isDoomed_congr (hfind start).1 rfl Iff.rfl)

/-! ### Writes to live rows -/

/-- Some live rows are written that are not about to be deleted. -/
theorem Invariant.writeLive (h : Invariant sc tables s)
    (hlog : ∀ start, sc.logAt s' start = sc.logAt s start)
    (hids : s'.archive.copiedIds = s.archive.copiedIds)
    (hcleared : ∀ start, s'.IsCleared start ↔ s.IsCleared start)
    (htimed : ∀ i, s'.timed i = s.timed i ∨ TimedOk sc s' (s'.timed i))
    (hbad : ∀ i, s'.bad i = s.bad i ∨ BadItemsOk sc s' (sc.badHour i) (s'.bad i))
    (harchive : s'.archive = s.archive ∨ ArchiveOk sc s' s'.archive)
    (hcases : ∀ start, (sc.liveAt s' start = sc.liveAt s start ∧
        s'.added start = s.added start ∧ s'.written start = s.written start) ∨
      ∃ r r', sc.liveAt s start = some r ∧ sc.liveAt s' start = some r' ∧ r'.id = r.id ∧
        ¬sc.IsLeaving s start ∧
          (sc.Matches tables s start (some r) → sc.Matches tables s' start (some r'))) :
    Invariant sc tables s' := by
  refine h.step ⟨fun start ↦ ?_, fun start hsome ↦ by rwa [hlog start]⟩ htimed hbad harchive
    fun start ↦ ?_
  · rcases hcases start with ⟨hsame, -⟩ | ⟨r, r', hr, hr', hid, hstays, -⟩
    · exact .same hsame
    · exact .written hr hr' hid hstays
  · rcases hcases start with ⟨hsame, hadded, hwritten⟩ | ⟨r, r', hr, hr', hid, hstays, hmatches⟩
    · exact (h.values start).congr hsame (hlog start) hadded hwritten
        (isDoomed_congr hsame hids (hcleared start))
    · refine .of_visible ?_ ?_
      · rintro ⟨x, hx, hgone⟩
        obtain rfl := Option.some_inj.mp (hr'.symm.trans hx)
        rw [hids, hid, hcleared start] at hgone
        exact not_isDoomed_of_stays hstays ⟨r, hr, hgone⟩
      · have hvisible := (h.values start).visible (not_isDoomed_of_stays hstays)
        rw [hr, Option.some_or] at hvisible
        rw [hr', Option.some_or]
        exact hmatches hvisible

/-- The freeze of a row. -/
theorem Invariant.freeze (h : Invariant sc tables s) {oldBuckets stationBuckets : List BucketRow}
    {bucket : BucketRow} {d : Durations} (hphase : s.archive = .freezing oldBuckets
      (bucket :: stationBuckets))
    (hstays : ∀ start, ∀ r ∈ sc.liveAt s start, r.id = bucket.id → ¬s.IsCleared start) :
    Invariant sc tables (((s.setLive (freezeById bucket.id d s.tables.live)).noteWritten
      (fun start ↦ (s.tables.live.find (hourKey sc.stationId start)).any fun r ↦
        r.id == bucket.id) d).setArchive (.freezing oldBuckets stationBuckets)) := by
  have hfind : ∀ start, (freezeById bucket.id d s.tables.live).find (hourKey sc.stationId start)
      = (sc.liveAt s start).map fun r ↦ if r.id == bucket.id then r.freeze d else r :=
    fun start ↦ Table.find_modify _ _ (mild_freeze d) _
  refine h.writeLive (fun _ ↦ rfl) (by rw [hphase]; rfl) (fun _ ↦ Iff.rfl) (fun _ ↦ .inl rfl)
    (fun _ ↦ .inl rfl) (.inr trivial) fun start ↦ ?_
  cases hr : sc.liveAt s start with
  | none =>
    refine .inl ⟨(hfind start).trans (by rw [hr]; rfl), rfl, if_neg ?_⟩
    beta_reduce
    rw [show s.tables.live.find (hourKey sc.stationId start) = none from hr]
    exact Bool.false_ne_true
  | some r =>
    have hany : (s.tables.live.find (hourKey sc.stationId start)).any (fun r ↦ r.id == bucket.id)
        = (r.id == bucket.id) := by
      rw [show s.tables.live.find (hourKey sc.stationId start) = some r from hr]
      rfl
    by_cases hid : r.id = bucket.id
    · refine .inr ⟨r, r.freeze d, rfl, (hfind start).trans ?_, rfl, ?_, fun hmatches ↦
        .set hmatches.badItems (fun _ ↦ rfl) rfl (if_pos ?_)⟩
      · rw [hr, Option.map_some, if_pos (beq_iff_eq.mpr hid)]
      · rintro (⟨x, -, hx⟩ | hcleared)
        · rw [hphase] at hx
          exact absurd hx (by simp [ArchivePhase.movingIds])
        · exact hstays start r hr hid hcleared
      · beta_reduce
        rw [hany, beq_iff_eq]
        exact hid
    · refine .inl ⟨(hfind start).trans ?_, rfl, if_neg ?_⟩
      · rw [hr, Option.map_some, if_neg (by rwa [beq_iff_eq])]
      · beta_reduce
        rw [hany, beq_iff_eq]
        exact hid

/-- Scrap is added to a live row. -/
theorem Invariant.addLive (h : Invariant sc tables s) {i : Fin m}
    (hlive : (s.tables.live.find (hourKey sc.stationId (sc.badHour i))).isSome = true)
    (hstays : ¬sc.IsLeaving s (sc.badHour i)) :
    Invariant sc tables (((s.setLive (addBadItemsAt sc.stationId (sc.badHour i)
      (sc.bad i).quantity s.tables.live)).noteAdded (sc.badHour i) (sc.bad i).quantity).setBad i
        .done) := by
  have hfind : ∀ start, (addBadItemsAt sc.stationId (sc.badHour i) (sc.bad i).quantity
      s.tables.live).find (hourKey sc.stationId start) = (sc.liveAt s start).map fun r ↦
        if start = sc.badHour i then r.addBadItems (sc.bad i).quantity else r :=
    fun start ↦ find_addBadItemsAt
  refine h.writeLive (fun _ ↦ rfl) rfl (fun _ ↦ Iff.rfl) (fun _ ↦ .inl rfl)
    (badItemsOk_setBad (s := (s.setLive _).noteAdded _ _) trivial) (.inl rfl) fun start ↦ ?_
  by_cases hstart : start = sc.badHour i
  · subst hstart
    obtain ⟨r, hr⟩ := Option.isSome_iff_exists.mp hlive
    refine .inr ⟨r, r.addBadItems (sc.bad i).quantity, hr, (hfind _).trans ?_, rfl, hstays,
      fun hmatches ↦ hmatches.add (Function.update_self ..) rfl⟩
    rw [show sc.liveAt s (sc.badHour i) = some r from hr, Option.map_some, if_pos rfl]
  · refine .inl ⟨(hfind start).trans ?_, Function.update_of_ne hstart .., rfl⟩
    simp only [if_neg hstart, Option.map_id']

/-- The hours after the `UPDATE` of a correction of durations. -/
theorem Corrections.find_setDurationsAt (sc : Corrections m n) (i : Fin n) (bucket : HourBucket)
    (newData : BucketDurations) (table : Table bucketRowSchema) (start : Time) :
    ((sc.timed i).setDurationsAt sc.f newData bucket table).find (hourKey sc.stationId start)
      = (table.find (hourKey sc.stationId start)).map fun r ↦
        if start = bucket.startTime then r.setDurations newData
          ((sc.f.station sc.stationId).bind MeteredStation.currentJobId)
          ((sc.f.station sc.stationId).bind MeteredStation.currentJobName) else r := by
  rw [← (sc.sameStation i).1]
  exact TimeBasedCall.find_setDurationsAt newData table

/-- Durations are written to a live row. -/
theorem Invariant.writeDurations (h : Invariant sc tables s) {i : Fin n} {bucket : HourBucket}
    {newData : BucketDurations} {todo : List HourBucket}
    (hold : (s.timed i).clears = none) (hlive : (sc.liveAt s bucket.startTime).isSome = true)
    (hstays : ¬sc.IsLeaving s bucket.startTime) :
    Invariant sc tables (((s.setLive ((sc.timed i).setDurationsAt sc.f newData bucket
      s.tables.live)).noteWritten (fun start ↦ decide (start = bucket.startTime))
        newData.toDurations).setTimed i (.between todo)) := by
  have hfind := sc.find_setDurationsAt i bucket newData s.tables.live
  refine h.writeLive (fun _ ↦ rfl) rfl (fun start ↦ isCleared_setTimed
      (s := (s.setLive _).noteWritten _ _) (show (s.timed i).clears ≠ some start by simp [hold])
      (by simp [TimedPhase.clears]))
    (timedOk_setTimed (s := (s.setLive _).noteWritten _ _) trivial) (fun _ ↦ .inl rfl) (.inl rfl)
    fun start ↦ ?_
  by_cases hstart : start = bucket.startTime
  · subst hstart
    obtain ⟨r, hr⟩ := Option.isSome_iff_exists.mp hlive
    obtain ⟨r', hr', hid, hkpis⟩ : ∃ r', ((sc.timed i).setDurationsAt sc.f newData bucket
        s.tables.live).find (hourKey sc.stationId bucket.startTime) = some r' ∧ r'.id = r.id ∧
          ∀ key, r'.kpis.additive key = (newData.column key).getD (r.kpis.additive key) := by
      rw [hfind, show s.tables.live.find (hourKey sc.stationId bucket.startTime) = some r from hr,
        Option.map_some, if_pos rfl]
      exact ⟨_, rfl, rfl, fun _ ↦ rfl⟩
    refine .inr ⟨r, r', hr, hr', hid, hstays, fun hmatches ↦ ?_⟩
    exact .set hmatches.badItems hkpis rfl (if_pos (decide_eq_true rfl))
  · refine .inl ⟨(hfind start).trans ?_, rfl, if_neg (by rwa [decide_eq_true_eq])⟩
    simp only [if_neg hstart, Option.map_id']
    rfl

/-! ### Writes to archived rows -/

/-- Scrap is added to an archived row. -/
theorem Invariant.addLog (h : Invariant sc tables s) {i : Fin m} (hphase : s.bad i = .missed) :
    Invariant sc tables (((s.setLog (addBadItemsAt sc.stationId (sc.badHour i)
      (sc.bad i).quantity s.tables.log)).noteAdded (sc.badHour i) (sc.bad i).quantity).setBad i
        .done) := by
  have hfind : ∀ start, (addBadItemsAt sc.stationId (sc.badHour i) (sc.bad i).quantity
      s.tables.log).find (hourKey sc.stationId start) = (sc.logAt s start).map fun r ↦
        if start = sc.badHour i then r.addBadItems (sc.bad i).quantity else r :=
    fun start ↦ find_addBadItemsAt
  have harchived : sc.IsArchived s (sc.badHour i) := by
    have hbad := h.bad i
    rw [hphase] at hbad
    exact hbad
  refine h.step ⟨fun _ ↦ .same rfl, fun start hlog ↦ ?_⟩ (fun _ ↦ .inl rfl)
    (badItemsOk_setBad (s := (s.setLog _).noteAdded _ _) trivial) (.inl rfl) fun start ↦ ?_
  · refine (congrArg Option.isSome (hfind start)).trans ?_
    rw [Option.isSome_map]
    exact hlog
  · by_cases hstart : start = sc.badHour i
    · subst hstart
      obtain ⟨hnone, hsome⟩ := harchived
      obtain ⟨a, ha⟩ := Option.isSome_iff_exists.mp hsome
      have harchived := (h.values _).archived hnone
      rw [ha] at harchived
      refine .of_archived hnone ((hfind _).trans ?_) (harchived.add (Function.update_self ..) rfl)
      rw [ha, Option.map_some, if_pos rfl]
    · refine (h.values start).congr rfl ((hfind start).trans ?_) (Function.update_of_ne hstart ..)
        rfl (isDoomed_congr rfl rfl Iff.rfl)
      simp only [if_neg hstart, Option.map_id']

/-- Durations are written to an archived row. A live row of the hour is doomed from then on. -/
theorem Invariant.writeArchived (h : Invariant sc tables s) {i : Fin n} {bucket : HourBucket}
    {newData : BucketDurations} {archivedRow : BucketRow} {liveRow : Option BucketRow}
    {todo : List HourBucket}
    (hphase : s.timed i = .readLive bucket newData (some archivedRow) liveRow todo)
    (hsame : ∀ r ∈ sc.liveAt s bucket.startTime, ∀ a ∈ sc.logAt s bucket.startTime,
      a.kpis.additive .badItems = r.kpis.additive .badItems) :
    Invariant sc tables (((s.setLog ((sc.timed i).setDurationsAt sc.f newData bucket
      s.tables.log)).noteWritten (fun start ↦ decide (start = bucket.startTime))
        newData.toDurations).setTimed i
          (if liveRow.isSome then .deleting bucket todo else .between todo)) := by
  have hfind := sc.find_setDurationsAt i bucket newData s.tables.log
  have hok := h.timed i
  rw [hphase] at hok
  obtain ⟨a, ha⟩ : ∃ a, sc.logAt s bucket.startTime = some a := by
    rw [← Option.isSome_iff_exists]
    cases liveRow with
    | none => exact hok.2
    | some r => exact hok
  obtain ⟨a', ha', hkpis⟩ : ∃ a', ((sc.timed i).setDurationsAt sc.f newData bucket
      s.tables.log).find (hourKey sc.stationId bucket.startTime) = some a' ∧
        ∀ key, a'.kpis.additive key = (newData.column key).getD (a.kpis.additive key) := by
    rw [hfind, show s.tables.log.find (hourKey sc.stationId bucket.startTime) = some a from ha,
      Option.map_some, if_pos rfl]
    exact ⟨_, rfl, fun _ ↦ rfl⟩
  have hset : ∀ {s' : ArchiveState m n}, s'.added bucket.startTime = s.added bucket.startTime →
      s'.written bucket.startTime = some newData.toDurations →
      rowKpi (some a) .badItems = sc.expected tables s bucket.startTime .badItems →
        sc.Matches tables s' bucket.startTime (some a') :=
    fun hadded hwritten hbad ↦ .set hbad hkpis hadded hwritten
  refine h.step ⟨fun _ ↦ .same rfl, fun start hlog ↦ ?_⟩
    (timedOk_setTimed (s := (s.setLog _).noteWritten _ _) ?_) (fun _ ↦ .inl rfl) (.inl rfl)
    fun start ↦ ?_
  · refine (congrArg Option.isSome (hfind start)).trans ?_
    rw [Option.isSome_map]
    exact hlog
  · split
    · exact Option.isSome_iff_exists.mpr ⟨a', ha'⟩
    · trivial
  · by_cases hstart : start = bucket.startTime
    · subst hstart
      cases hr : sc.liveAt s bucket.startTime with
      | none =>
        have harchived := (h.values _).archived hr
        rw [ha] at harchived
        exact .of_archived hr ha' (hset rfl (if_pos (decide_eq_true rfl)) harchived.badItems)
      | some r =>
        obtain ⟨r₀, rfl⟩ : ∃ r₀, liveRow = some r₀ := by
          cases liveRow with
          | none => exact absurd (hr.symm.trans hok.1) (by simp)
          | some r₀ => exact ⟨r₀, rfl⟩
        refine .of_doomed ⟨r, hr, .inr ⟨i, ?_⟩⟩ ha'
          (hset rfl (if_pos (decide_eq_true rfl)) ?_)
        · rw [ArchiveState.timed_setTimed, if_pos rfl]
          rfl
        · by_cases hdoomed : sc.IsDoomed s bucket.startTime
          · have hbelow := (h.values _).below hdoomed
            rw [ha] at hbelow
            exact hbelow.badItems
          · have hvisible := (h.values _).visible hdoomed
            rw [hr, Option.some_or] at hvisible
            exact (hsame r hr a ha).trans hvisible.badItems
    · refine (h.values start).congr rfl ((hfind start).trans ?_) rfl
        (if_neg (by rwa [decide_eq_true_eq])) (isDoomed_congr rfl rfl
          (isCleared_setTimed (s := (s.setLog _).noteWritten _ _) ?_ ?_))
      · simp only [if_neg hstart, Option.map_id']
        rfl
      · change (s.timed i).clears ≠ some start
        simp [hphase, TimedPhase.clears]
      · split
        · exact fun hb ↦ hstart (Option.some_inj.mp hb).symm
        · simp [TimedPhase.clears]

/-! ### Live rows that come and go -/

/-- The live row of an hour is deleted after its archived row has been written. -/
theorem Invariant.deleteLive (h : Invariant sc tables s) {i : Fin n} {bucket : HourBucket}
    {todo : List HourBucket} (hphase : s.timed i = .deleting bucket todo) :
    Invariant sc tables ((s.setLive (s.tables.live.delete fun r ↦
      decide (r.key = hourKey sc.stationId bucket.startTime))).setTimed i (.between todo)) := by
  have hfind : ∀ start, (s.tables.live.delete fun r ↦
      decide (r.key = hourKey sc.stationId bucket.startTime)).find (hourKey sc.stationId start)
        = if start = bucket.startTime then none else sc.liveAt s start := by
    intro start
    refine (s.tables.live.find_delete_key _ _).trans ?_
    simp only [hourKey_inj]
    rfl
  have hlog : (sc.logAt s bucket.startTime).isSome = true := by
    have hok := h.timed i
    rw [hphase] at hok
    exact hok
  refine h.step ⟨fun start ↦ ?_, fun _ ↦ id⟩
    (timedOk_setTimed (s := s.setLive _) trivial) (fun _ ↦ .inl rfl) (.inl rfl) fun start ↦ ?_
  · by_cases hstart : start = bucket.startTime
    · subst hstart
      exact .removed ((hfind _).trans (if_pos rfl)) hlog
    · exact .same ((hfind start).trans (if_neg hstart))
  · by_cases hstart : start = bucket.startTime
    · subst hstart
      have hnone := (hfind bucket.startTime).trans (if_pos rfl)
      refine .of_archived hnone rfl (show sc.Matches tables s bucket.startTime _ from ?_)
      cases hr : sc.liveAt s bucket.startTime with
      | none => exact (h.values _).archived hr
      | some r => exact (h.values _).below ⟨r, hr, .inr ⟨i, by rw [hphase]; rfl⟩⟩
    · have hsame := (hfind start).trans (if_neg hstart)
      refine (h.values start).congr hsame rfl rfl rfl (isDoomed_congr hsame rfl
        (isCleared_setTimed (s := s.setLive _) ?_ ?_))
      · change (s.timed i).clears ≠ some start
        rw [hphase]
        exact fun hb ↦ hstart (Option.some_inj.mp hb).symm
      · simp [TimedPhase.clears]

theorem Invariant.log_of_isCleared (h : Invariant sc tables s) (hcleared : s.IsCleared start) :
    (sc.logAt s start).isSome = true := by
  obtain ⟨i, hi⟩ := hcleared
  have hok := h.timed i
  cases hphase : s.timed i with
  | deleting bucket todo =>
    rw [hphase] at hok hi
    obtain rfl := Option.some_inj.mp hi
    exact hok
  | _ => exact absurd hi (by simp [hphase, TimedPhase.clears])

/-- Hours without a row get empty rows. -/
theorem Invariant.scaffold (h : Invariant sc tables s) {timestamp : Time} {ids : List Uuid}
    (hscaffold : s.scaffold sc timestamp ids = some s') (hhides : sc.HidesNothing s timestamp) :
    Invariant sc tables s' := by
  obtain ⟨⟨live, rfl⟩, hcases, -⟩ := liveAt_scaffold hscaffold
  have hlog : ∀ {start r}, sc.liveAt s start = none → sc.liveAt (s.setLive live) start = some r →
      (∃ b ∈ stationHours sc.f sc.siteId sc.stationId timestamp, b.startTime = start) →
        sc.logAt s start = none := by
    rintro _ r hnone - ⟨b, hb, rfl⟩
    exact hhides b hb hnone
  refine h.step ⟨fun start ↦ ?_, fun _ ↦ id⟩ (fun _ ↦ .inl rfl) (fun _ ↦ .inl rfl) (.inl rfl)
    fun start ↦ ?_
  · rcases hcases start with hsame | ⟨r, hnone, hr, hid, -, hb⟩
    · exact .same hsame
    · exact .inserted hnone hr hid (hlog hnone hr hb)
  · rcases hcases start with hsame | ⟨r, hnone, hr, hid, hzero, hb⟩
    · exact (h.values start).congr hsame rfl rfl rfl (isDoomed_congr hsame rfl Iff.rfl)
    · have harchived := (h.values start).archived hnone
      rw [hlog hnone hr hb] at harchived
      refine .of_visible ?_ ?_
      · rintro ⟨x, hx, hgone | hcleared⟩
        · obtain rfl := Option.some_inj.mp (hr.symm.trans hx)
          refine hid (mem_usedIds_of_mem_ids ?_)
          change r.id ∈ s.archive.copiedIds at hgone
          cases hphase : s.archive with
          | copied => rwa [hphase] at hgone
          | _ => rw [hphase] at hgone; exact absurd hgone (by simp [ArchivePhase.copiedIds])
        · have hsome : (sc.logAt s start).isSome = true := h.log_of_isCleared hcleared
          rw [hlog hnone hr hb] at hsome
          exact Bool.noConfusion hsome
      · rw [hr, Option.some_or]
        intro key hkey
        refine Eq.trans ?_ (harchived key hkey)
        rw [rowKpi, Option.map_some, Option.getD_some, hzero]
        rfl

/-! ### The move -/

/-- The rows are re-read. -/
theorem Invariant.reread (h : Invariant sc tables s) {oldBuckets : List BucketRow}
    (hphase : s.archive = .freezing oldBuckets []) :
    Invariant sc tables (s.setArchive (.copying oldBuckets
      (s.tables.live.delete fun r ↦ !hasId (idsOf oldBuckets) r))) := by
  have hmem : ∀ r : BucketRow, r ∈ (s.tables.live.delete fun r ↦ !hasId (idsOf oldBuckets) r).rows ↔
      r ∈ s.tables.live.rows ∧ r.id ∈ idsOf oldBuckets := by
    intro r
    rw [Table.delete, List.mem_filter, Bool.not_not, hasId, List.contains_iff_mem]
  refine h.setArchive (by rw [hphase]; rfl) ⟨fun a ha ↦ ((hmem a).mp ha).2, fun start ↦
    ⟨fun r hr hid ↦ (hmem r).mpr ⟨(Table.find_eq_some_iff.mp hr).1, hid⟩, fun a ha hkey ↦ ?_⟩⟩
  exact .inl (Table.find_eq_some_iff.mpr ⟨((hmem a).mp ha).1, hkey⟩)

/-- The rows are copied. From then on those that are still live are doomed. -/
theorem Invariant.copy (h : Invariant sc tables s) {oldBuckets : List BucketRow}
    {refreshed : Table bucketRowSchema} (hphase : s.archive = .copying oldBuckets refreshed)
    (hkeeps : ∀ start, ∀ r ∈ sc.liveAt s start, r ∈ refreshed.rows → LogKeeps s.tables.log r) :
    Invariant sc tables ((s.setLog (s.tables.log.insertMissingAll refreshed.rows)).setArchive
      (.copied oldBuckets)) := by
  have hok := h.archive
  rw [hphase] at hok
  obtain ⟨hids, hok⟩ := hok
  have hsome : ∀ {start a}, sc.logAt s start = some a →
      (s.tables.log.insertMissingAll refreshed.rows).find (hourKey sc.stationId start) = some a :=
    Table.find_insertMissingAll_of_some
  -- a live row that has been re-read is archived with its values
  have hmoved : ∀ {start r}, sc.liveAt s start = some r → r ∈ refreshed.rows → ∃ a,
      (s.tables.log.insertMissingAll refreshed.rows).find (hourKey sc.stationId start) = some a ∧
        a.kpis = r.kpis := by
    intro start r hr hmem
    have hkey : bucketRowSchema.key r = hourKey sc.stationId start :=
      (Table.find_eq_some_iff.mp hr).2
    rcases hkeeps start r hr hmem with hadmits | ⟨a, ha, hkpis⟩
    · have hfind := (Table.find_insertMissingAll_of_mem refreshed.nodup refreshed.noClash hmem).1
        hadmits
      rw [hkey] at hfind
      exact ⟨r, hfind, rfl⟩
    · rw [hkey] at ha
      exact ⟨a, hsome ha, hkpis⟩
  -- an hour whose live row, if any, is not moved keeps its archived row
  have hkept : ∀ {start}, (∀ r ∈ sc.liveAt s start, r ∉ refreshed.rows) →
      (s.tables.log.insertMissingAll refreshed.rows).find (hourKey sc.stationId start)
        = sc.logAt s start := by
    intro start hnot
    by_cases hrow : ∃ a ∈ refreshed.rows, a.key = hourKey sc.stationId start
    · obtain ⟨a, ha, hkey⟩ := hrow
      rcases (hok start).2 a ha hkey with hlive | hlog
      · exact absurd ha (hnot a hlive)
      · obtain ⟨x, hx⟩ := Option.isSome_iff_exists.mp hlog
        rw [hx]
        exact hsome hx
    · exact Table.find_insertMissingAll_of_forall_ne fun a ha hkey ↦ hrow ⟨a, ha, hkey⟩
  refine h.step ⟨fun _ ↦ .same rfl, fun start hlog ↦ ?_⟩ (fun _ ↦ .inl rfl) (fun _ ↦ .inl rfl)
    (.inr fun start r hr hid ↦ ?_) fun start ↦ ?_
  · obtain ⟨a, ha⟩ := Option.isSome_iff_exists.mp hlog
    exact Option.isSome_iff_exists.mpr ⟨a, hsome ha⟩
  · obtain ⟨a, ha, -⟩ := hmoved hr ((hok start).1 r hr hid)
    exact Option.isSome_iff_exists.mpr ⟨a, ha⟩
  · cases hr : sc.liveAt s start with
    | none =>
      refine .of_archived hr (hkept fun r hr' ↦ ?_) ((h.values start).archived hr)
      rw [hr] at hr'
      exact absurd hr' (by simp)
    | some r =>
      by_cases hid : r.id ∈ idsOf oldBuckets
      · obtain ⟨a, ha, hkpis⟩ := hmoved hr ((hok start).1 r hr hid)
        refine .of_doomed ⟨r, hr, .inl hid⟩ ha (show sc.Matches tables s start _ from ?_)
        by_cases hcleared : s.IsCleared start
        · obtain ⟨x, hx⟩ := Option.isSome_iff_exists.mp (h.log_of_isCleared hcleared)
          obtain rfl := Option.some_inj.mp ((hsome hx).symm.trans ha)
          exact hx ▸ (h.values start).below ⟨r, hr, .inr hcleared⟩
        · have hvisible := (h.values start).visible (fun ⟨_, _, hgone⟩ ↦ by
            rw [hphase] at hgone
            exact hgone.elim (by simp [ArchivePhase.copiedIds]) hcleared)
          rw [hr, Option.some_or] at hvisible
          intro key hkey
          refine Eq.trans ?_ (hvisible key hkey)
          rw [rowKpi, rowKpi, Option.map_some, Option.map_some, hkpis]
      · have hnot : ∀ x ∈ sc.liveAt s start, x ∉ refreshed.rows := by
          intro x hx hmem
          obtain rfl := Option.some_inj.mp (hr.symm.trans hx)
          exact hid (hids r hmem)
        refine (h.values start).congr rfl (hkept hnot) rfl rfl ?_
        constructor
        · rintro ⟨x, hx, hgone⟩
          obtain rfl := Option.some_inj.mp (hr.symm.trans hx)
          exact ⟨r, hr, .inr (hgone.resolve_left hid)⟩
        · rintro ⟨x, hx, hgone⟩
          rw [hphase] at hgone
          exact ⟨x, hx, .inr (hgone.resolve_left (by simp [ArchivePhase.copiedIds]))⟩

/-- The rows are deleted. -/
theorem Invariant.delete (h : Invariant sc tables s) {oldBuckets : List BucketRow}
    (hphase : s.archive = .copied oldBuckets) :
    Invariant sc tables ((s.setLive (s.tables.live.delete (hasId (idsOf oldBuckets)))).setArchive
      .done) := by
  have hok := h.archive
  rw [hphase] at hok
  have hfind : ∀ {start r}, sc.liveAt s start = some r →
      (s.tables.live.delete (hasId (idsOf oldBuckets))).find (hourKey sc.stationId start)
        = if r.id ∈ idsOf oldBuckets then none else some r := by
    intro start r hr
    refine (Table.find_delete_of_find hr).trans ?_
    simp only [hasId, List.contains_iff_mem]
  have hnone : ∀ {start}, sc.liveAt s start = none →
      (s.tables.live.delete (hasId (idsOf oldBuckets))).find (hourKey sc.stationId start)
        = none := by
    intro start hr
    refine (s.tables.live.find_delete _ _).trans ?_
    rw [show s.tables.live.find (hourKey sc.stationId start) = none from hr, Option.filter_none]
  refine h.step ⟨fun start ↦ ?_, fun _ ↦ id⟩ (fun _ ↦ .inl rfl) (fun _ ↦ .inl rfl) (.inr trivial)
    fun start ↦ ?_
  · cases hr : sc.liveAt s start with
    | none => exact .same ((hnone hr).trans hr.symm)
    | some r =>
      by_cases hid : r.id ∈ idsOf oldBuckets
      · exact .removed ((hfind hr).trans (if_pos hid)) (hok start r hr hid)
      · exact .same ((hfind hr).trans ((if_neg hid).trans hr.symm))
  · cases hr : sc.liveAt s start with
    | none => exact .of_archived (hnone hr) rfl ((h.values start).archived hr)
    | some r =>
      by_cases hid : r.id ∈ idsOf oldBuckets
      · refine .of_archived ((hfind hr).trans (if_pos hid)) rfl
          ((h.values start).below ⟨r, hr, .inl ?_⟩)
        rw [hphase]
        exact hid
      · have hsame := (hfind hr).trans ((if_neg hid).trans hr.symm)
        refine (h.values start).congr hsame rfl rfl rfl ?_
        constructor
        · rintro ⟨x, hx, hgone⟩
          exact ⟨x, hsame ▸ hx, .inr (hgone.resolve_left (by simp [ArchiveState.setArchive,
            ArchivePhase.copiedIds]))⟩
        · rintro ⟨x, hx, hgone⟩
          obtain rfl := Option.some_inj.mp (hr.symm.trans hx)
          rw [hphase] at hgone
          exact ⟨r, hsame.trans hr, .inr (hgone.resolve_left hid)⟩

end

/-! ## Every run -/

section

variable {m n : ℕ} {sc : Corrections m n} {tables : BucketTables} {s s' : ArchiveState m n}

/-- The hour of a correction of scrap is one of those around its timestamp. -/
theorem Corrections.exists_badHour (sc : Corrections m n) (i : Fin m) :
    ∃ b ∈ stationHours sc.f sc.siteId sc.stationId (sc.bad i).timestamp,
      b.startTime = sc.badHour i := by
  obtain ⟨b, hb, -, hresolve⟩ := exists_resolveHourBucket sc.f sc.siteId sc.stationId
    (sc.bad i).timestamp
  exact ⟨b, hb, by rw [badHour, hresolve]; rfl⟩

theorem Invariant.archiveStep {a : ArchiveStatement} (h : Invariant sc tables s)
    (hok : sc.KeepsCorrections s (.archive a)) (hstep : archiveStep sc s a = some s') :
    Invariant sc tables s' := by
  cases a with
  | select now =>
    rw [RwServer.archiveStep] at hstep
    split at hstep
    · rename_i hphase
      obtain rfl := Option.some_inj.mp hstep
      refine h.setArchive ?_ ?_
      · rw [hphase]
        split <;> rfl
      · split <;> trivial
    · exact absurd hstep (by simp)
  | freeze call =>
    rw [RwServer.archiveStep] at hstep
    split at hstep
    · rename_i hphase
      obtain rfl := Option.some_inj.mp hstep
      rw [Corrections.KeepsCorrections, hphase] at hok
      refine h.freeze hphase fun start r hr hid ↦ ?_
      obtain ⟨hmem, hkey⟩ := Table.find_eq_some_iff.mp hr
      have hstart : r.startTime = start := congrArg BucketKey.startTime hkey
      exact hstart ▸ hok r hmem hid (hstart ▸ hkey)
    · exact absurd hstep (by simp)
  | reread =>
    rw [RwServer.archiveStep] at hstep
    split at hstep
    · rename_i hphase
      obtain rfl := Option.some_inj.mp hstep
      exact h.reread hphase
    · exact absurd hstep (by simp)
  | copy =>
    rw [RwServer.archiveStep] at hstep
    split at hstep
    · rename_i hphase
      obtain rfl := Option.some_inj.mp hstep
      rw [Corrections.KeepsCorrections, hphase] at hok
      refine h.copy hphase fun start r hr hmem ↦ ?_
      obtain ⟨hlive, hkey⟩ := Table.find_eq_some_iff.mp hr
      have hstart : r.startTime = start := congrArg BucketKey.startTime hkey
      exact hok r hlive hmem (hstart ▸ hkey)
    · exact absurd hstep (by simp)
  | delete =>
    rw [RwServer.archiveStep] at hstep
    split at hstep
    · rename_i hphase
      obtain rfl := Option.some_inj.mp hstep
      exact h.delete hphase
    · exact absurd hstep (by simp)

theorem Invariant.badItemsStep {i : Fin m} {a : BadItemsStatement} (h : Invariant sc tables s)
    (hok : sc.KeepsCorrections s (.bad i a)) (hstep : badItemsStep sc s i a = some s') :
    Invariant sc tables s' := by
  cases a with
  | scaffold ids =>
    rw [RwServer.badItemsStep] at hstep
    split at hstep
    · obtain ⟨s₁, hs₁, rfl⟩ := Option.map_eq_some_iff.mp hstep
      obtain ⟨b, hb, hbs⟩ := sc.exists_badHour i
      refine (h.scaffold hs₁ hok).setBad (.inl ?_)
      rw [← hbs]
      exact (liveAt_scaffold hs₁).2.2 b hb
    · exact absurd hstep (by simp)
  | addLive =>
    rw [RwServer.badItemsStep] at hstep
    split at hstep
    · rename_i hphase
      dsimp only at hstep
      split at hstep
      · rename_i hlive
        obtain rfl := Option.some_inj.mp hstep
        exact h.addLive hlive hok
      · -- the hour has a row since the scaffolding, so it is the archived one
        rename_i hlive
        obtain rfl := Option.some_inj.mp hstep
        have hpresent := h.bad i
        rw [hphase] at hpresent
        exact h.setBad ⟨Option.not_isSome_iff_eq_none.mp hlive, hpresent.resolve_left hlive⟩
    · exact absurd hstep (by simp)
  | addLog =>
    rw [RwServer.badItemsStep] at hstep
    split at hstep
    · rename_i hphase
      obtain rfl := Option.some_inj.mp hstep
      exact h.addLog hphase
    · exact absurd hstep (by simp)

theorem Invariant.timedStep {i : Fin n} {a : TimedStatement} (h : Invariant sc tables s)
    (hok : sc.KeepsCorrections s (.timed i a)) (hstep : timedStep sc s i a = some s') :
    Invariant sc tables s' := by
  cases a with
  | checkLog =>
    rw [RwServer.timedStep] at hstep
    split at hstep
    · rename_i hphase
      obtain rfl := Option.some_inj.mp hstep
      refine h.setTimed (by rw [hphase]; rfl) ?_ ?_
      · split <;> rfl
      · split <;> trivial
    · exact absurd hstep (by simp)
  | scaffold ids =>
    rw [RwServer.timedStep] at hstep
    split at hstep
    · rename_i hphase
      obtain ⟨s₁, hs₁, rfl⟩ := Option.map_eq_some_iff.mp hstep
      obtain ⟨⟨live, rfl⟩, -⟩ := liveAt_scaffold hs₁
      exact (h.scaffold hs₁ hok).setTimed (by rw [ArchiveState.setLive, hphase]; rfl) rfl trivial
    · exact absurd hstep (by simp)
  | compute stateLog now =>
    rw [RwServer.timedStep] at hstep
    split at hstep
    · rename_i hphase
      obtain rfl := Option.some_inj.mp hstep
      exact h.setTimed (by rw [hphase]; rfl) rfl trivial
    · exact absurd hstep (by simp)
  | readLog =>
    rw [RwServer.timedStep] at hstep
    split at hstep
    · rename_i bucket newData todo hphase
      obtain rfl := Option.some_inj.mp hstep
      refine h.setTimed (by rw [hphase]; rfl) rfl ?_
      cases hlog : s.tables.log.find (hourKey sc.stationId bucket.startTime) with
      | none => trivial
      | some a => exact Option.isSome_iff_exists.mpr ⟨a, hlog⟩
    · exact absurd hstep (by simp)
  | readLive =>
    rw [RwServer.timedStep] at hstep
    split at hstep
    · rename_i bucket newData archivedRow todo hphase
      obtain rfl := Option.some_inj.mp hstep
      refine h.setTimed (by rw [hphase]; rfl) rfl ?_
      have hlog := h.timed i
      rw [hphase] at hlog
      cases archivedRow with
      | none => trivial
      | some a =>
        cases hlive : s.tables.live.find (hourKey sc.stationId bucket.startTime) with
        | none => exact ⟨hlive, hlog⟩
        | some r => exact hlog
    · exact absurd hstep (by simp)
  | write =>
    rw [RwServer.timedStep] at hstep
    split at hstep
    · rename_i bucket newData archivedRow liveRow todo hphase
      rw [Corrections.KeepsCorrections, hphase] at hok
      split at hstep
      · obtain rfl := Option.some_inj.mp hstep
        exact h.setTimed (by rw [hphase]; rfl) rfl trivial
      · rename_i hchanged
        obtain rfl := Option.some_inj.mp hstep
        exact h.writeArchived hphase (hok (Bool.eq_false_iff.mpr hchanged))
    · rename_i bucket newData liveRow todo hphase
      rw [Corrections.KeepsCorrections, hphase] at hok
      split at hstep
      · obtain rfl := Option.some_inj.mp hstep
        exact h.setTimed (by rw [hphase]; rfl) rfl trivial
      · rename_i hchanged
        obtain rfl := Option.some_inj.mp hstep
        obtain ⟨hlive, hstays⟩ := hok (Bool.eq_false_iff.mpr hchanged)
        exact h.writeDurations (by rw [hphase]; rfl) hlive hstays
    · rename_i hphase
      obtain rfl := Option.some_inj.mp hstep
      exact h.setTimed (by rw [hphase]; rfl) rfl trivial
    · exact absurd hstep (by simp)
  | deleteLive =>
    rw [RwServer.timedStep] at hstep
    split at hstep
    · rename_i hphase
      obtain rfl := Option.some_inj.mp hstep
      exact h.deleteLive hphase
    · exact absurd hstep (by simp)

/-- **One statement** that loses no correction keeps the invariant. -/
theorem Invariant.correctionStep {statement : Statement m n} (h : Invariant sc tables s)
    (hok : sc.KeepsCorrections s statement) (hstep : correctionStep sc statement s = some s') :
    Invariant sc tables s' := by
  cases statement with
  | archive a => exact h.archiveStep hok hstep
  | bad i a => exact h.badItemsStep hok hstep
  | timed i a => exact h.timedStep hok hstep
  | rollup input =>
    rw [RwServer.correctionStep] at hstep
    split at hstep
    · exact absurd hstep (by simp)
    · rename_i hinput
      obtain rfl := Option.some_inj.mp hstep
      exact h.rollup hinput

/-! ## What has been added -/

theorem ArchiveState.scaffold_added {timestamp : Time} {ids : List Uuid}
    (h : s.scaffold sc timestamp ids = some s') : s'.added = s.added ∧ s'.bad = s.bad := by
  rw [ArchiveState.scaffold] at h
  split at h
  · obtain rfl := Option.some_inj.mp h
    exact ⟨rfl, rfl⟩
  · exact absurd h (by simp)

theorem archiveStep_added {a : ArchiveStatement} (h : RwServer.archiveStep sc s a = some s') :
    s'.added = s.added ∧ s'.bad = s.bad := by
  cases a <;> rw [RwServer.archiveStep] at h <;> split at h <;> cases h
  all_goals exact ⟨rfl, rfl⟩

theorem timedStep_added {i : Fin n} {a : TimedStatement}
    (h : RwServer.timedStep sc s i a = some s') : s'.added = s.added ∧ s'.bad = s.bad := by
  cases a with
  | scaffold ids =>
    rw [RwServer.timedStep] at h
    split at h
    · obtain ⟨s₁, hs₁, rfl⟩ := Option.map_eq_some_iff.mp h
      have hadded := s.scaffold_added hs₁
      exact hadded
    · exact absurd h (by simp)
  | write =>
    rw [RwServer.timedStep] at h
    split at h
    · split at h <;> cases h <;> exact ⟨rfl, rfl⟩
    · split at h <;> cases h <;> exact ⟨rfl, rfl⟩
    · cases h
      exact ⟨rfl, rfl⟩
    · cases h
  | _ =>
    rw [RwServer.timedStep] at h
    split at h
    · obtain rfl := Option.some_inj.mp h
      exact ⟨rfl, rfl⟩
    · exact absurd h (by simp)

/-- What the corrections of scrap that are done have added to an hour. -/
def Corrections.addedBy (sc : Corrections m n) (s : ArchiveState m n) (start : Time) : ℤ :=
  ∑ i, if s.bad i = .done ∧ sc.badHour i = start then (sc.bad i).quantity else 0

theorem Corrections.addedBy_setBad {i : Fin m} {phase : BadItemsPhase} (hold : s.bad i ≠ .done) :
    sc.addedBy (s.setBad i phase) start = sc.addedBy s start +
      if phase = .done ∧ sc.badHour i = start then (sc.bad i).quantity else 0 := by
  have hsum := sum_update (fun j phase ↦
    if phase = BadItemsPhase.done ∧ sc.badHour j = start then (sc.bad j).quantity else 0) s.bad i
    phase
  rw [if_neg fun h ↦ hold h.1, sub_zero] at hsum
  exact hsum

/-- Each correction of scrap is noted once, when it is done. -/
theorem added_eq_addedBy {statement : Statement m n}
    (h : ∀ start, s.added start = sc.addedBy s start)
    (hstep : RwServer.correctionStep sc statement s = some s') (start : Time) :
    s'.added start = sc.addedBy s' start := by
  have hsame : s'.added = s.added ∧ s'.bad = s.bad → s'.added start = sc.addedBy s' start := by
    rintro ⟨hadded, hbad⟩
    rw [hadded, Corrections.addedBy, hbad]
    exact h start
  have hdone : ∀ (t : ArchiveState m n) (i : Fin m), t.added = s.added → t.bad = s.bad →
      s.bad i ≠ .done → s' = (t.noteAdded (sc.badHour i) (sc.bad i).quantity).setBad i .done →
        s'.added start = sc.addedBy s' start := by
    rintro t i hadded hbad hphase rfl
    rw [Corrections.addedBy_setBad (hbad ▸ hphase)]
    change Function.update t.added (sc.badHour i) (t.added (sc.badHour i) + (sc.bad i).quantity)
      start
      = sc.addedBy t start + _
    rw [show sc.addedBy t start = s.added start by rw [h, Corrections.addedBy, hbad]; rfl, hadded,
      Function.update_apply]
    by_cases hstart : start = sc.badHour i
    · rw [if_pos hstart, if_pos ⟨rfl, hstart.symm⟩, hstart]
    · rw [if_neg hstart, if_neg fun h ↦ hstart h.2.symm, add_zero]
  cases statement with
  | archive a => exact hsame (archiveStep_added hstep)
  | timed i a => exact hsame (timedStep_added hstep)
  | rollup input =>
    rw [RwServer.correctionStep] at hstep
    split at hstep
    · exact absurd hstep (by simp)
    · obtain rfl := Option.some_inj.mp hstep
      exact hsame ⟨rfl, rfl⟩
  | bad i a =>
    have hkeep : ∀ {t : ArchiveState m n} {phase : BadItemsPhase}, t.added = s.added →
        t.bad = s.bad → s.bad i ≠ .done → phase ≠ .done → s' = t.setBad i phase →
          s'.added start = sc.addedBy s' start := by
      rintro t phase hadded hbad hold hnew rfl
      rw [Corrections.addedBy_setBad (hbad ▸ hold), if_neg fun h ↦ hnew h.1, add_zero]
      change t.added start = _
      rw [hadded, h, Corrections.addedBy, Corrections.addedBy, hbad]
    change RwServer.badItemsStep sc s i a = some s' at hstep
    cases a with
    | scaffold ids =>
      rw [RwServer.badItemsStep] at hstep
      split at hstep
      · rename_i hphase
        obtain ⟨s₁, hs₁, rfl⟩ := Option.map_eq_some_iff.mp hstep
        obtain ⟨hadded, hbad⟩ := s.scaffold_added hs₁
        exact hkeep hadded hbad (by simp [hphase]) (by simp) rfl
      · exact absurd hstep (by simp)
    | addLive =>
      rw [RwServer.badItemsStep] at hstep
      split at hstep
      · rename_i hphase
        split at hstep
        · exact hdone (s.setLive (addBadItemsAt sc.stationId (sc.badHour i) (sc.bad i).quantity
            s.tables.live)) i rfl rfl (by simp [hphase]) (Option.some_inj.mp hstep).symm
        · exact hkeep (t := s) rfl rfl (by simp [hphase]) (by simp) (Option.some_inj.mp hstep).symm
      · exact absurd hstep (by simp)
    | addLog =>
      rw [RwServer.badItemsStep] at hstep
      split at hstep
      · rename_i hphase
        exact hdone (s.setLog (addBadItemsAt sc.stationId (sc.badHour i) (sc.bad i).quantity
          s.tables.log)) i rfl rfl (by simp [hphase]) (Option.some_inj.mp hstep).symm
      · exact absurd hstep (by simp)

/-- When all corrections of scrap are done, each has been added to its hour. -/
theorem added_of_finished {statements : List (Statement m n)}
    (hrun : Run (RwServer.correctionStep sc) sc.KeepsCorrections (.init tables) statements s)
    (hdone : ∀ i, s.bad i = .done) (start : Time) :
    s.added start = ∑ i with sc.badHour i = start, (sc.bad i).quantity := by
  have hadded : ∀ start, s.added start = sc.addedBy s start := hrun.invariant
    (fun _ ↦ by simp [ArchiveState.init, Corrections.addedBy])
    fun s a s' hinv _ hstep ↦ added_eq_addedBy hinv hstep
  rw [hadded start, Corrections.addedBy, Finset.sum_filter]
  exact Finset.sum_congr rfl fun i _ ↦ by rw [hdone i]; simp

/-! ## The whole run -/

theorem invariant_init (sc : Corrections m n) (tables : BucketTables) :
    Invariant sc tables (.init tables) where
  timed _ := trivial
  bad _ := trivial
  archive := trivial
  present start hstart := by
    obtain ⟨r, hr⟩ := Option.isSome_iff_exists.mp hstart
    rcases Option.or_eq_some_iff.mp hr with hlive | ⟨-, hlog⟩
    · exact .inl (Option.isSome_iff_exists.mpr ⟨r, hlive⟩)
    · exact .inr (Option.isSome_iff_exists.mpr ⟨r, hlog⟩)
  values start := by
    refine .of_visible (fun ⟨_, _, hgone⟩ ↦ ?_) fun key _ ↦ ?_
    · rcases hgone with hid | ⟨i, hi⟩
      · exact absurd hid (by simp [ArchiveState.init, ArchivePhase.copiedIds])
      · exact absurd hi (by simp [ArchiveState.init, TimedPhase.clears])
    · rw [Corrections.expected]
      change tables.kpi (hourKey sc.stationId start) key
        = tables.kpi (hourKey sc.stationId start) key + if key = .badItems then 0 else 0
      rw [ite_self, add_zero]

/-- **No correction is lost** in a run whose steps lose none: when all calls have returned, every
hour has the scrap it had and what has been added to it, and the durations written to it last. -/
theorem archive_keepsCorrections {statements : List (Statement m n)}
    (hrun : Run (correctionStep sc) sc.KeepsCorrections (.init tables) statements s)
    (hfinished : s.Finished) (start : Time) :
    ((tables.effective (hourKey sc.stationId start)).isSome = true →
      (s.tables.effective (hourKey sc.stationId start)).isSome = true) ∧
    s.tables.kpi (hourKey sc.stationId start) .badItems
      = tables.kpi (hourKey sc.stationId start) .badItems
        + ∑ i with sc.badHour i = start, (sc.bad i).quantity ∧
    ∀ key ∈ correctedKeys, key ≠ .badItems → s.tables.kpi (hourKey sc.stationId start) key
      = ((s.written start).bind fun d ↦ d.column key).getD
        (tables.kpi (hourKey sc.stationId start) key) := by
  have h := hrun.invariant (invariant_init sc tables) fun s a s' hinv hok hstep ↦
    hinv.correctionStep hok hstep
  have hnot : ¬sc.IsDoomed s start := by
    obtain ⟨harchive, -, htimed⟩ := hfinished
    rintro ⟨r, -, hid | ⟨i, hi⟩⟩
    · cases hphase : s.archive with
      | copied => rw [hphase] at harchive; exact Bool.noConfusion harchive
      | _ => rw [hphase] at hid; exact absurd hid (by simp [ArchivePhase.copiedIds])
    · have hdone := htimed i
      cases hphase : s.timed i with
      | deleting => rw [hphase] at hdone; exact Bool.noConfusion hdone
      | _ => rw [hphase] at hi; exact absurd hi (by simp [TimedPhase.clears])
  have hvalues := (h.values start).visible hnot
  refine ⟨fun hstart ↦ ?_, ?_, fun key hkey hne ↦ ?_⟩
  · refine (Option.isSome_or).trans ?_
    rw [Bool.or_eq_true]
    exact h.present start hstart
  · refine (hvalues .badItems (by decide)).trans ?_
    rw [Corrections.expected, if_pos rfl, added_of_finished hrun hfinished.2.1]
    congr 1
    cases s.written start <;> rfl
  · refine (hvalues key hkey).trans ?_
    rw [Corrections.expected, if_neg hne, add_zero]

end

/-- Scrap of two items is corrected in the first hour of the sample. -/
def sampleCorrections : Corrections 1 0 where
  f := oneShiftFacility 0 28800000
  siteId := 1
  stationId := 2
  bad _ := ⟨1800000, 2⟩
  timed i := i.elim0
  sameStation i := i.elim0

def liveHour : BucketTables where
  live := insertBuckets (.empty _) [sampleHour 0 5]
  log := .empty _

/-- The correction comes before the archive. -/
def correctedFirst : List (Statement 1 0) :=
  [.bad 0 (.scaffold (List.range' 11 9)), .bad 0 .addLive, .archive (.select 172800000)] ++
    List.replicate 9 (.archive (.freeze sampleArchive)) ++
    [.archive .reread, .archive .copy, .archive .delete]

/-- The correction comes between the second read of the row and its deletion. -/
def correctedInBetween : List (Statement 1 0) :=
  [.archive (.select 172800000), .archive (.freeze sampleArchive), .archive .reread,
    .bad 0 (.scaffold (List.range' 11 9)), .bad 0 .addLive, .archive .copy, .archive .delete]

theorem archive_keepsCorrections_first :
    ∃ s, Run (correctionStep sampleCorrections) sampleCorrections.KeepsCorrections (.init liveHour)
        correctedFirst s ∧ s.Finished ∧
      ((liveHour.effective (hourKey 2 0)).isSome = true →
        (s.tables.effective (hourKey 2 0)).isSome = true) ∧
      s.tables.kpi (hourKey 2 0) .badItems = liveHour.kpi (hourKey 2 0) .badItems
        + ∑ i with sampleCorrections.badHour i = 0, (sampleCorrections.bad i).quantity ∧
      ∀ key ∈ correctedKeys, key ≠ .badItems → s.tables.kpi (hourKey 2 0) key
        = ((s.written 0).bind fun d ↦ d.column key).getD (liveHour.kpi (hourKey 2 0) key) := by
  have hexec : ((execute (correctionStep sampleCorrections) sampleCorrections.KeepsCorrections
      correctedFirst (.init liveHour)).map fun s ↦ decide s.Finished) = some true := by
    decide +kernel
  obtain ⟨s, hs, hfinished⟩ := Option.map_eq_some_iff.mp hexec
  exact ⟨s, run_of_execute hs, of_decide_eq_true hfinished,
    archive_keepsCorrections (run_of_execute hs) (of_decide_eq_true hfinished) 0⟩

/-- The two items of scrap are gone. -/
theorem archive_losesCorrection :
    ∃ s, Run (correctionStep sampleCorrections) (fun _ _ ↦ True) (.init liveHour)
        correctedInBetween s ∧ s.Finished ∧
      liveHour.kpi (hourKey 2 0) .badItems = 0 ∧
      ∑ i with sampleCorrections.badHour i = 0, (sampleCorrections.bad i).quantity = 2 ∧
      s.tables.kpi (hourKey 2 0) .badItems = 0 := by
  have hexec : ((execute (correctionStep sampleCorrections) (fun _ _ ↦ True)
      correctedInBetween (.init liveHour)).map fun s ↦
        (decide s.Finished, s.tables.kpi (hourKey 2 0) .badItems)) = some (true, 0) := by
    decide +kernel
  obtain ⟨s, hs, hresult⟩ := Option.map_eq_some_iff.mp hexec
  obtain ⟨hfinished, hkpi⟩ := Prod.mk.inj hresult
  exact ⟨s, run_of_execute hs, of_decide_eq_true hfinished, by decide +kernel, by decide +kernel,
    hkpi⟩

end RwServer
