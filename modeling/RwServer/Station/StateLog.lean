import Mathlib
import RwServer.Foundation.Table
import RwServer.Foundation.Timeline

/-!
# The station state log

The `StationStateLog` table and the statements the services run on it. A row records a stretch of
time in which a station was `UP` or `DOWN`; it is *open* while it has no `endTime`, and *live*
until it is soft-deleted. Two constraints come from the schema: the primary key, and the partial
unique index `StationStateLog_stationId_open_unique`, which admits one live open row per station.

Timestamps are milliseconds (`Date.getTime()`, columns `Timestamptz(3)`). The columns `createdAt`,
`updatedAt` and `stationBlobId` are read by no function here and are left out. Row ids drawn by
`gen_random_uuid()` and block ids drawn by `randomUUID()` are arguments.

The *timeline* of a station is the list of the spans of its live rows; everything that is proved
about the log is stated on it.
-/

open scoped List

namespace RwServer

open Timeline Relational

/-- Milliseconds since the epoch. -/
abbrev Time := ℤ

/-- A `uuid` column. -/
abbrev Uuid := ℕ

inductive StationState
  | up
  | down
deriving DecidableEq, Repr

inductive StationStatus
  | fast
  | slow
  | up
  | down
deriving DecidableEq, Repr

/-- A row of `StationStateLog`. -/
structure StationStateLog where
  id : Uuid
  stationId : Uuid
  startTime : Time
  endTime : Option Time
  state : StationState
  status : Option StationStatus
  blockId : Uuid
  statusReasonId : Option Uuid
  jobBlobId : Option Uuid
  deletedAt : Option Time
deriving DecidableEq, Repr

/-- A row of `StationJobLog`, as far as the state log reads it. -/
structure StationJobLog where
  stationId : Uuid
  startTime : Time
  endTime : Option Time
  jobBlobId : Uuid
deriving DecidableEq, Repr

namespace StationStateLog

/-- `"endTime" IS NULL AND "deletedAt" IS NULL`. -/
def isOpen (e : StationStateLog) : Bool := e.endTime.isNone && e.deletedAt.isNone

/-- A row of the station that is not soft-deleted. -/
def isLive (stationId : Uuid) (e : StationStateLog) : Bool :=
  e.stationId == stationId && e.deletedAt.isNone

/-- The stretch of time the row records. -/
def span (e : StationStateLog) : Span Time := ⟨e.startTime, e.endTime⟩

@[simp] theorem span_start (e : StationStateLog) : e.span.start = e.startTime := rfl

@[simp] theorem span_stop (e : StationStateLog) : e.span.stop = e.endTime := rfl

theorem isOpen_iff {e : StationStateLog} :
    e.isOpen = true ↔ e.endTime = none ∧ e.deletedAt = none := by
  rw [isOpen, Bool.and_eq_true, Option.isNone_iff_eq_none, Option.isNone_iff_eq_none]

theorem isLive_iff {stationId : Uuid} {e : StationStateLog} :
    e.isLive stationId = true ↔ e.stationId = stationId ∧ e.deletedAt = none := by
  rw [isLive, Bool.and_eq_true, beq_iff_eq, Option.isNone_iff_eq_none]

end StationStateLog

/-- Primary key `id`; unique index on `stationId` among the live open rows. -/
def stateLogSchema : Schema StationStateLog Uuid where
  key := StationStateLog.id
  clash a b := a.stationId == b.stationId && a.isOpen && b.isOpen
  clash_symm a b := by
    rw [Bool.beq_comm (a := a.stationId), Bool.and_assoc, Bool.and_assoc,
      Bool.and_comm a.isOpen]

/-- The `StationStateLog` table. -/
abbrev StateLog := Table stateLogSchema

namespace StateLog

/-- The live rows of a station. -/
def live (log : StateLog) (stationId : Uuid) : List StationStateLog :=
  log.rows.filter (·.isLive stationId)

/-- The spans of the live rows of a station. -/
def timeline (log : StateLog) (stationId : Uuid) : List (Span Time) :=
  (log.live stationId).map StationStateLog.span

/-- The same, of a list of rows. -/
def timelineOf (stationId : Uuid) (rows : List StationStateLog) : List (Span Time) :=
  (rows.filter (·.isLive stationId)).map StationStateLog.span

theorem timeline_eq (log : StateLog) (stationId : Uuid) :
    log.timeline stationId = timelineOf stationId log.rows := rfl

theorem timelineOf_perm {rows rows' : List StationStateLog} (stationId : Uuid)
    (h : rows ~ rows') : timelineOf stationId rows ~ timelineOf stationId rows' :=
  (h.filter _).map _

theorem timelineOf_cons_live {stationId : Uuid} {e : StationStateLog}
    (h : e.isLive stationId = true) (rows : List StationStateLog) :
    timelineOf stationId (e :: rows) = e.span :: timelineOf stationId rows := by
  rw [timelineOf, List.filter_cons_of_pos h, List.map_cons, timelineOf]

theorem timelineOf_cons_dead {stationId : Uuid} {e : StationStateLog}
    (h : ¬e.isLive stationId = true) (rows : List StationStateLog) :
    timelineOf stationId (e :: rows) = timelineOf stationId rows := by
  rw [timelineOf, List.filter_cons_of_neg h, timelineOf]

theorem mem_live {log : StateLog} {stationId : Uuid} {e : StationStateLog} :
    e ∈ log.live stationId ↔ e ∈ log.rows ∧ e.stationId = stationId ∧ e.deletedAt = none := by
  rw [live, List.mem_filter, StationStateLog.isLive_iff]

theorem mem_timeline {log : StateLog} {stationId : Uuid} {s : Span Time} :
    s ∈ log.timeline stationId ↔ ∃ e ∈ log.live stationId, e.span = s := List.mem_map

end StateLog

/-! ## Statements -/

/-- The row condition of the open entry of a station. -/
def isOpenOf (stationId : Uuid) (e : StationStateLog) : Bool :=
  e.stationId == stationId && e.isOpen

/-- `findFirst({ where: { stationId, endTime: null, deletedAt: null }, orderBy: startTime desc })`.
-/
def findOpenStateEntry (log : StateLog) (stationId : Uuid) : Option StationStateLog :=
  (log.rows.filter (isOpenOf stationId)).argmax StationStateLog.startTime

/-- `updateMany({ where: { stationId, endTime: null, deletedAt: null }, data: { endTime } })`. -/
def closeOpenStateEntries (log : StateLog) (stationId : Uuid) (endTime : Time) : Option StateLog :=
  log.updateMany (isOpenOf stationId) fun e ↦ { e with endTime := some endTime }

/-- The `data` argument of `createStateEntry`. -/
structure CreateStateEntry where
  stationId : Uuid
  startTime : Time
  state : StationState
  status : StationStatus
  blockId : Uuid
  jobBlobId : Option Uuid := none
deriving DecidableEq, Repr

/-- The row `createStateEntry` inserts. -/
def CreateStateEntry.row (data : CreateStateEntry) (id : Uuid) : StationStateLog where
  id := id
  stationId := data.stationId
  startTime := data.startTime
  endTime := none
  state := data.state
  status := some data.status
  blockId := data.blockId
  statusReasonId := none
  jobBlobId := data.jobBlobId
  deletedAt := none

/-- `stationStateLog.create({ data })`; `id` is the drawn row id. -/
def createStateEntry (log : StateLog) (id : Uuid) (data : CreateStateEntry) : Option StateLog :=
  log.insert (data.row id)

/-- `stationStateLog.update({ where: { id }, data })`. -/
def updateStateEntry (log : StateLog) (id : Uuid) (data : StationStateLog → StationStateLog) :
    Option StateLog :=
  log.updateMany (·.id == id) data

/-- `stationJobLog.findFirst({ where: { stationId, endTime: null }, orderBy: startTime desc })`,
reduced to its `jobBlobId`. -/
def activeJobBlobId (jobLog : List StationJobLog) (stationId : Uuid) : Option Uuid :=
  ((jobLog.filter fun j ↦ j.stationId == stationId && j.endTime.isNone).argmax
    StationJobLog.startTime).map StationJobLog.jobBlobId

/-! ## What the statements do to the timeline -/

theorem isOpenOf_iff {stationId : Uuid} {e : StationStateLog} :
    isOpenOf stationId e = true ↔
      e.stationId = stationId ∧ e.endTime = none ∧ e.deletedAt = none := by
  rw [isOpenOf, Bool.and_eq_true, beq_iff_eq, StationStateLog.isOpen_iff]

theorem isLive_of_isOpenOf {stationId : Uuid} {e : StationStateLog}
    (h : isOpenOf stationId e = true) : e.isLive stationId = true := by
  rw [isOpenOf_iff] at h
  exact StationStateLog.isLive_iff.mpr ⟨h.1, h.2.2⟩

theorem clash_iff {a b : StationStateLog} : stateLogSchema.clash a b = true ↔
    a.stationId = b.stationId ∧ a.isOpen = true ∧ b.isOpen = true := by
  rw [stateLogSchema, Bool.and_eq_true, Bool.and_eq_true, beq_iff_eq, and_assoc]

/-- The unique index: a station has at most one live open row. -/
theorem StateLog.eq_of_isOpenOf (log : StateLog) {stationId : Uuid} {a b : StationStateLog}
    (ha : a ∈ log.rows) (hb : b ∈ log.rows) (hoa : isOpenOf stationId a = true)
    (hob : isOpenOf stationId b = true) : a = b := by
  by_contra hne
  have hclash := log.clash_eq_false ha hb hne
  rw [isOpenOf, Bool.and_eq_true, beq_iff_eq] at hoa hob
  rw [clash_iff.mpr ⟨hoa.1.trans hob.1.symm, hoa.2, hob.2⟩] at hclash
  exact absurd hclash (by simp)

theorem findOpenStateEntry_eq_some {log : StateLog} {stationId : Uuid} {e : StationStateLog}
    (h : findOpenStateEntry log stationId = some e) :
    e ∈ log.rows ∧ isOpenOf stationId e = true :=
  List.mem_filter.mp (List.argmax_mem h)

theorem findOpenStateEntry_eq_none {log : StateLog} {stationId : Uuid}
    (h : findOpenStateEntry log stationId = none) :
    ∀ e ∈ log.rows, isOpenOf stationId e = false := by
  rw [findOpenStateEntry, List.argmax_eq_none, List.filter_eq_nil_iff] at h
  exact fun e he ↦ by simpa using h e he

/-- A change of a row that keeps its identity, and opens nothing. -/
theorem mild_of_keeps {f : StationStateLog → StationStateLog} (hid : ∀ e, (f e).id = e.id)
    (hst : ∀ e, (f e).stationId = e.stationId)
    (hopen : ∀ e, (f e).isOpen = true → e.isOpen = true) : Table.Mild stateLogSchema f where
  key := hid
  clash a b h := by
    rw [clash_iff, hst] at h
    exact clash_iff.mpr ⟨h.1, hopen a h.2.1, h.2.2⟩

theorem mild_close (t : Time) :
    Table.Mild stateLogSchema fun e ↦ { e with endTime := some t } :=
  mild_of_keeps (fun _ ↦ rfl) (fun _ ↦ rfl) fun e h ↦ by
    rw [StationStateLog.isOpen_iff] at h
    exact absurd h.1 (by simp)

/-- Closing where nothing is open changes nothing. -/
theorem closeOpenStateEntries_of_none {log : StateLog} {stationId : Uuid}
    (h : findOpenStateEntry log stationId = none) (t : Time) :
    closeOpenStateEntries log stationId t = some log :=
  Table.updateMany_eq_self _ (findOpenStateEntry_eq_none h)

/-- Closing the open entry truncates its span. -/
theorem timeline_of_close {log log' : StateLog} {stationId : Uuid} {t : Time}
    {e : StationStateLog} (he : findOpenStateEntry log stationId = some e)
    (h : closeOpenStateEntries log stationId t = some log') :
    ∃ rest, log.timeline stationId ~ e.span :: rest ∧
      log'.timeline stationId ~ e.span.before t :: rest := by
  obtain ⟨hmem, hopen⟩ := findOpenStateEntry_eq_some he
  obtain ⟨rest, hrows, hrows'⟩ := Table.perm_of_updateMany_one (mild_close t) hmem hopen
    (fun b hb hob ↦ log.eq_of_isOpenOf hb hmem hob hopen) h
  have hlive := isLive_of_isOpenOf hopen
  refine ⟨StateLog.timelineOf stationId rest, ?_, ?_⟩
  · rw [← StateLog.timelineOf_cons_live hlive]
    exact StateLog.timelineOf_perm _ hrows
  · have hlive' : ({ e with endTime := some t } : StationStateLog).isLive stationId = true := hlive
    exact StateLog.timelineOf_cons_live hlive' rest ▸ StateLog.timelineOf_perm _ hrows'

/-- A new row adds its span to the timeline of its station. -/
theorem timeline_of_insert {log log' : StateLog} {e : StationStateLog} {stationId : Uuid}
    (he : e.isLive stationId = true) (h : log.insert e = some log') :
    log'.timeline stationId ~ e.span :: log.timeline stationId := by
  rw [StateLog.timeline_eq, StateLog.timeline_eq, Table.rows_of_insert h,
    ← StateLog.timelineOf_cons_live he]
  exact StateLog.timelineOf_perm _ (List.perm_append_singleton _ _)

/-- A new row of another station, or a soft-deleted one, leaves the timeline as it is. -/
theorem timeline_of_insert_other {log log' : StateLog} {e : StationStateLog} {stationId : Uuid}
    (he : ¬e.isLive stationId = true) (h : log.insert e = some log') :
    log'.timeline stationId = log.timeline stationId := by
  rw [StateLog.timeline_eq, StateLog.timeline_eq, Table.rows_of_insert h, StateLog.timelineOf,
    List.filter_append, List.filter_cons_of_neg he, List.filter_nil, List.append_nil,
    StateLog.timelineOf]

theorem timeline_of_create {log log' : StateLog} {id : Uuid} {data : CreateStateEntry}
    (h : createStateEntry log id data = some log') :
    log'.timeline data.stationId ~ ⟨data.startTime, none⟩ :: log.timeline data.stationId :=
  timeline_of_insert (e := data.row id) (StationStateLog.isLive_iff.mpr ⟨rfl, rfl⟩) h

/-- An update of columns other than the station, the times and the deletion mark. -/
theorem timeline_of_update {log log' : StateLog} {p : StationStateLog → Bool}
    {f : StationStateLog → StationStateLog} (hid : ∀ e, (f e).id = e.id)
    (hst : ∀ e, (f e).stationId = e.stationId) (hspan : ∀ e, (f e).span = e.span)
    (hdel : ∀ e, (f e).deletedAt = e.deletedAt) (h : log.updateMany p f = some log')
    (stationId : Uuid) : log'.timeline stationId = log.timeline stationId := by
  have hend : ∀ e, (f e).endTime = e.endTime := fun e ↦ congrArg Span.stop (hspan e)
  have hmild : Table.Mild stateLogSchema f := mild_of_keeps hid hst fun e he ↦ by
    rwa [StationStateLog.isOpen_iff, hend, hdel, ← StationStateLog.isOpen_iff] at he
  have hlive : ∀ e, (f e).isLive stationId = e.isLive stationId := fun e ↦ by
    rw [StationStateLog.isLive, hst, hdel, StationStateLog.isLive]
  rw [StateLog.timeline_eq, StateLog.timeline_eq, Table.rows_of_updateMany hmild h,
    StateLog.timelineOf, StateLog.timelineOf, List.filter_map, List.map_map]
  have hfilter : log.rows.filter ((·.isLive stationId) ∘ fun e ↦ if p e then f e else e)
      = log.rows.filter (·.isLive stationId) := by
    refine List.filter_congr fun e _ ↦ ?_
    rw [Function.comp_apply]
    split
    · exact hlive e
    · rfl
  rw [hfilter]
  refine List.map_congr_left fun e _ ↦ ?_
  rw [Function.comp_apply]
  split
  · exact hspan e
  · rfl

end RwServer
