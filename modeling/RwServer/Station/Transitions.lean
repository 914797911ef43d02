import Mathlib
import RwServer.Station.StateLog

/-!
# State transitions of a station

`transitionToUp`, `transitionToSlow`, `transitionToDown` and `splitDownEntry`, and the state-log
part of `completeImmediate`, each as one serial transaction: they all run under the station's
advisory lock. `none` is a transaction the database rolls back.

Seen from the timeline, each of them makes one of three moves: it leaves the timeline as it is,
it closes the open span and opens a new one (`ReopenedAt`), or it cuts a span (`CutBy`). The
`_timeline` theorems below say which.
-/

open scoped List

namespace RwServer

open Timeline Relational

/-! ## The transactions -/

structure TransitionToUpOptions where
  /-- Duration of the completed cycle in seconds. -/
  cycleDurationSeconds : Option ℚ := none
  /-- Slow threshold in seconds: `standardCycle * (1 + slowDetect)`. -/
  slowThresholdSeconds : Option ℚ := none
  /-- Snapshot of the job blob version active at cycle time. -/
  jobBlobId : Option Uuid := none
deriving DecidableEq

/-- Info about the state entry that was closed during a transition. -/
structure ClosedEntryInfo where
  startTime : Time
  endTime : Time
  state : StationState
deriving DecidableEq, Repr

/-- The open entry `current`, closed at `timestamp`. -/
def closedEntryInfo (current : Option StationStateLog) (timestamp : Time) :
    Option ClosedEntryInfo :=
  current.map fun c ↦ ⟨c.startTime, timestamp, c.state⟩

/-- The just-completed cycle exceeded the slow threshold. -/
def TransitionToUpOptions.isSlow (options : TransitionToUpOptions) : Bool :=
  match options.cycleDurationSeconds, options.slowThresholdSeconds with
  | some duration, some threshold =>
    decide (duration > 0) && decide (threshold > 0) && decide (duration > threshold)
  | _, _ => false

/-- A fresh block id only on a state change or when no prior entry exists. -/
def upBlockId (current : Option StationStateLog) (freshBlockId : Uuid) : Uuid :=
  match current with
  | some c => if c.state = .up then c.blockId else freshBlockId
  | none => freshBlockId

/-- The close of `transitionToUp`, made only where an open entry was found. -/
def closeCurrent (log : StateLog) (stationId : Uuid) (timestamp : Time) :
    Option StationStateLog → Option StateLog
  | some _ => closeOpenStateEntries log stationId timestamp
  | none => some log

/-- `id` is the row id the database draws and `freshBlockId` the drawn `randomUUID()`. -/
def transitionToUp (log : StateLog) (id freshBlockId stationId : Uuid) (timestamp : Time)
    (options : TransitionToUpOptions) :
    Option (StateLog × StationStateLog × Option ClosedEntryInfo) := do
  let current := findOpenStateEntry log stationId
  let log ← closeCurrent log stationId timestamp current
  let closedEntry := closedEntryInfo current timestamp
  let data : CreateStateEntry :=
    { stationId, startTime := timestamp, state := .up, status := .up,
      blockId := upBlockId current freshBlockId, jobBlobId := options.jobBlobId }
  let log ← createStateEntry log id data
  if options.isSlow then
    let log ← updateStateEntry log id fun e ↦ { e with status := some .slow }
    return (log, { data.row id with status := some .slow }, closedEntry)
  else
    return (log, data.row id, closedEntry)

/-- The state-log statements of `completeImmediate` after its first one, which has read `row`: the
close is an unconditional `UPDATE`, and the new row is marked `SLOW` by a further one. -/
def closeAndOpen (row : Option StationStateLog) (log : StateLog)
    (id freshBlockId stationId : Uuid) (timestamp : Time) (jobBlobId : Uuid) (isSlow : Bool) :
    Option StateLog := do
  let log ← closeOpenStateEntries log stationId timestamp
  let log ← createStateEntry log id
    { stationId, startTime := timestamp, state := .up, status := .up,
      blockId := upBlockId row freshBlockId, jobBlobId := some jobBlobId }
  if isSlow then updateStateEntry log id fun e ↦ { e with status := some .slow }
  else some log

/-- The state-log part of `completeImmediate`: `state_id`, `state_state` and `state_block_id` come
from the `LEFT JOIN` of its first statement. -/
def completeImmediateState (log : StateLog) (id freshBlockId stationId : Uuid) (timestamp : Time)
    (jobBlobId : Uuid) (isSlow : Bool) : Option StateLog :=
  closeAndOpen (findOpenStateEntry log stationId) log id freshBlockId stationId timestamp
    jobBlobId isSlow

def transitionToSlow (log : StateLog) (id freshBlockId stationId : Uuid) (timestamp : Time) :
    Option (StateLog × StationStateLog) :=
  match findOpenStateEntry log stationId with
  | none => do
    -- no open entry: create a SLOW one
    let data : CreateStateEntry :=
      { stationId, startTime := timestamp, state := .up, status := .slow, blockId := freshBlockId }
    let log ← createStateEntry log id data
    return (log, data.row id)
  | some current =>
    if current.state = .down then some (log, current)
    else if current.status = some .slow then some (log, current)
    else do
      let log ← updateStateEntry log current.id fun e ↦ { e with status := some .slow }
      return (log, { current with status := some .slow })

/-- Turn an entry into a `DOWN` one in place: its start is kept. -/
def convertToDown (blockId : Uuid) (jobBlobId : Option Uuid) (e : StationStateLog) :
    StationStateLog :=
  { e with state := .down, status := some .down, blockId, jobBlobId }

/-- The third component is the range that changed from `UP` to `DOWN`. -/
def transitionToDown (log : StateLog) (jobLog : List StationJobLog)
    (id freshBlockId stationId : Uuid) (timestamp : Time) :
    Option (StateLog × StationStateLog × Option (Time × Time)) :=
  let jobBlobId := activeJobBlobId jobLog stationId
  match findOpenStateEntry log stationId with
  | none => do
    let data : CreateStateEntry :=
      { stationId, startTime := timestamp, state := .down, status := .down,
        blockId := freshBlockId, jobBlobId }
    let log ← createStateEntry log id data
    return (log, data.row id, none)
  | some current =>
    if current.state = .down then some (log, current, none)
    else do
      -- close any other open entries of the station
      let log ← log.updateMany (fun e ↦ isOpenOf stationId e && e.id != current.id)
        fun e ↦ { e with endTime := some timestamp }
      let log ← updateStateEntry log current.id (convertToDown freshBlockId jobBlobId)
      return (log, convertToDown freshBlockId jobBlobId current,
        some (current.startTime, timestamp))

/-- Minimum minutes each side of a split must retain. -/
def SPLIT_MIN_MARGIN_MINUTES : ℤ := 5

/-- The error codes of `splitDownEntry`. -/
inductive SplitError
  | notFound
  | invalidState
  | splitTooCloseToStart
  | splitTooCloseToEnd
deriving DecidableEq, Repr

def SplitError.message : SplitError → String
  | .notFound => "State log entry not found"
  | .invalidState => "Only DOWN entries can be split"
  | .splitTooCloseToStart =>
    s!"Split point must be at least {SPLIT_MIN_MARGIN_MINUTES} minutes from the start of the entry"
  | .splitTooCloseToEnd =>
    s!"Split point must be at least {SPLIT_MIN_MARGIN_MINUTES} minutes from the end of the entry"

def SplitError.code : SplitError → String
  | .notFound => "NOT_FOUND"
  | .invalidState => "INVALID_STATE"
  | .splitTooCloseToStart => "SPLIT_TOO_CLOSE_TO_START"
  | .splitTooCloseToEnd => "SPLIT_TOO_CLOSE_TO_END"

/-- The first read of `splitDownEntry`: the live row, which must be a `DOWN` one. -/
def findSplitEntry (log : StateLog) (entryId : Uuid) : Except SplitError StationStateLog :=
  match log.rows.find? fun e ↦ e.id == entryId && e.deletedAt.isNone with
  | none => .error .notFound
  | some entry => if entry.state = .down then .ok entry else .error .invalidState

/-- The margin checks; the effective end of an open entry is `now`. -/
def validateSplit (entry : StationStateLog) (splitAt now : Time) : Except SplitError Unit :=
  if splitAt < entry.startTime + SPLIT_MIN_MARGIN_MINUTES * 60000 then
    .error .splitTooCloseToStart
  else if splitAt > entry.endTime.getD now - SPLIT_MIN_MARGIN_MINUTES * 60000 then
    .error .splitTooCloseToEnd
  else .ok ()

/-- The second part of a split entry, with a row id of its own. -/
def secondPart (entry : StationStateLog) (id : Uuid) (splitAt : Time) : StationStateLog :=
  { id, stationId := entry.stationId, startTime := splitAt, endTime := entry.endTime,
    state := entry.state, status := entry.status, blockId := entry.blockId,
    statusReasonId := entry.statusReasonId, jobBlobId := entry.jobBlobId, deletedAt := none }

/-- The statement that truncates the entry to the split point. -/
def truncateEntry (log : StateLog) (entryId : Uuid) (splitAt : Time) : Option StateLog :=
  updateStateEntry log entryId fun e ↦ { e with endTime := some splitAt }

/-- The part of `splitDownEntry` under the lock, which works on the copy read before. -/
def splitEntry (log : StateLog) (id : Uuid) (entry : StationStateLog) (splitAt now : Time) :
    Option (StateLog × Except SplitError (StationStateLog × StationStateLog)) :=
  match validateSplit entry splitAt now with
  | .error err => some (log, .error err)
  | .ok () => do
    let log ← truncateEntry log entry.id splitAt
    let log ← log.insert (secondPart entry id splitAt)
    return (log, .ok ({ entry with endTime := some splitAt }, secondPart entry id splitAt))

/-- `id` is the drawn id of the second row and `now` the `new Date()` read under the lock. -/
def splitDownEntry (log : StateLog) (id entryId : Uuid) (splitAt now : Time) :
    Option (StateLog × Except SplitError (StationStateLog × StationStateLog)) :=
  match findSplitEntry log entryId with
  | .error err => some (log, .error err)
  | .ok entry => splitEntry log id entry splitAt now

/-! ## Their moves on the timeline -/

/-- Marking rows by id touches no time. -/
private theorem timeline_of_mark {log log' : StateLog} {id : Uuid}
    {status : Option StationStatus}
    (h : (updateStateEntry log id fun e ↦ { e with status }) = some log') (stationId : Uuid) :
    log'.timeline stationId = log.timeline stationId :=
  timeline_of_update (f := fun e ↦ { e with status }) (fun _ ↦ rfl) (fun _ ↦ rfl) (fun _ ↦ rfl)
    (fun _ ↦ rfl) h stationId

/-- Where nothing is open, a new entry is the only open one. -/
private theorem reopenedAt_of_create {log log' : StateLog} {id : Uuid} {data : CreateStateEntry}
    (hnone : findOpenStateEntry log data.stationId = none)
    (h : createStateEntry log id data = some log') :
    ReopenedAt data.startTime (log.timeline data.stationId) (log'.timeline data.stationId) := by
  refine Or.inr ⟨?_, timeline_of_create h⟩
  intro s hs hopen
  obtain ⟨e, he, rfl⟩ := StateLog.mem_timeline.mp hs
  rw [StateLog.mem_live] at he
  have := findOpenStateEntry_eq_none hnone e he.1
  rw [isOpenOf_iff.mpr ⟨he.2.1, hopen, he.2.2⟩] at this
  exact absurd this (by simp)

/-- Closing what is open and creating a new entry at the same time. -/
private theorem reopenedAt_of_close_create {log log₁ log' : StateLog} {id : Uuid}
    {data : CreateStateEntry}
    (hclose : closeOpenStateEntries log data.stationId data.startTime = some log₁)
    (hcreate : createStateEntry log₁ id data = some log') :
    ReopenedAt data.startTime (log.timeline data.stationId) (log'.timeline data.stationId) := by
  cases hfind : findOpenStateEntry log data.stationId with
  | none =>
    rw [closeOpenStateEntries_of_none hfind, Option.some_inj] at hclose
    exact reopenedAt_of_create hfind (hclose ▸ hcreate)
  | some e =>
    obtain ⟨rest, hl, hl₁⟩ := timeline_of_close hfind hclose
    have hopen := isOpenOf_iff.mp (findOpenStateEntry_eq_some hfind).2
    refine Or.inl ⟨e.span, rest, hopen.2.1, hl, ?_⟩
    have hafter : e.span.after data.startTime = ⟨data.startTime, none⟩ := by
      rw [Span.after, StationStateLog.span_stop, hopen.2.1]
    rw [hafter]
    exact (timeline_of_create hcreate).trans ((hl₁.cons _).trans (.swap _ _ _))

/-- The open entry is closed, a new one is created at the same time, and may be marked `SLOW`. -/
def Renewed (log : StateLog) (id : Uuid) (data : CreateStateEntry) (log' : StateLog) : Prop :=
  ∃ log₁ log₂, closeOpenStateEntries log data.stationId data.startTime = some log₁ ∧
    createStateEntry log₁ id data = some log₂ ∧
    (log' = log₂ ∨ (updateStateEntry log₂ id fun e ↦ { e with status := some .slow }) = some log')

theorem Renewed.timeline {log log' : StateLog} {id : Uuid} {data : CreateStateEntry}
    (h : Renewed log id data log') :
    ReopenedAt data.startTime (log.timeline data.stationId) (log'.timeline data.stationId) := by
  obtain ⟨log₁, log₂, hclose, hcreate, hmark⟩ := h
  have hmove := reopenedAt_of_close_create hclose hcreate
  rcases hmark with rfl | hmark
  · exact hmove
  · rwa [timeline_of_mark hmark]

theorem transitionToUp_renewed {log log' : StateLog} {id freshBlockId stationId : Uuid}
    {timestamp : Time} {options : TransitionToUpOptions}
    {r : StationStateLog × Option ClosedEntryInfo}
    (h : transitionToUp log id freshBlockId stationId timestamp options = some (log', r)) :
    Renewed log id
      { stationId, startTime := timestamp, state := .up, status := .up,
        blockId := upBlockId (findOpenStateEntry log stationId) freshBlockId,
        jobBlobId := options.jobBlobId } log' := by
  rw [transitionToUp] at h
  obtain ⟨log₁, hclose, h⟩ := Option.bind_eq_some_iff.mp h
  obtain ⟨log₂, hcreate, h⟩ := Option.bind_eq_some_iff.mp h
  -- where no open entry was found, the close that is not made would change nothing
  have hclose' : closeOpenStateEntries log stationId timestamp = some log₁ := by
    cases hfind : findOpenStateEntry log stationId with
    | none =>
      rw [hfind, closeCurrent] at hclose
      exact (closeOpenStateEntries_of_none hfind timestamp).trans hclose
    | some e => rwa [hfind, closeCurrent] at hclose
  refine ⟨log₁, log₂, hclose', hcreate, ?_⟩
  split at h
  · obtain ⟨log₃, hmark, h⟩ := Option.bind_eq_some_iff.mp h
    cases h
    exact .inr hmark
  · cases h
    exact .inl rfl

theorem transitionToUp_timeline {log log' : StateLog} {id freshBlockId stationId : Uuid}
    {timestamp : Time} {options : TransitionToUpOptions}
    {r : StationStateLog × Option ClosedEntryInfo}
    (h : transitionToUp log id freshBlockId stationId timestamp options = some (log', r)) :
    ReopenedAt timestamp (log.timeline stationId) (log'.timeline stationId) :=
  (transitionToUp_renewed h).timeline

theorem closeAndOpen_renewed {row : Option StationStateLog} {log log' : StateLog}
    {id freshBlockId stationId jobBlobId : Uuid} {timestamp : Time} {isSlow : Bool}
    (h : closeAndOpen row log id freshBlockId stationId timestamp jobBlobId isSlow = some log') :
    Renewed log id
      { stationId, startTime := timestamp, state := .up, status := .up,
        blockId := upBlockId row freshBlockId, jobBlobId := some jobBlobId } log' := by
  rw [closeAndOpen] at h
  obtain ⟨log₁, hclose, h⟩ := Option.bind_eq_some_iff.mp h
  obtain ⟨log₂, hcreate, h⟩ := Option.bind_eq_some_iff.mp h
  refine ⟨log₁, log₂, hclose, hcreate, ?_⟩
  split at h
  · exact .inr h
  · exact .inl (Option.some_inj.mp h).symm

theorem closeAndOpen_timeline {row : Option StationStateLog} {log log' : StateLog}
    {id freshBlockId stationId jobBlobId : Uuid} {timestamp : Time} {isSlow : Bool}
    (h : closeAndOpen row log id freshBlockId stationId timestamp jobBlobId isSlow = some log') :
    ReopenedAt timestamp (log.timeline stationId) (log'.timeline stationId) :=
  (closeAndOpen_renewed h).timeline

/-- What `transitionToSlow` does: it opens an entry where none is open, and marks the open one at
most. -/
theorem transitionToSlow_cases {log log' : StateLog} {id freshBlockId stationId : Uuid}
    {timestamp : Time} {r : StationStateLog}
    (h : transitionToSlow log id freshBlockId stationId timestamp = some (log', r)) :
    (findOpenStateEntry log stationId = none ∧ createStateEntry log id
      { stationId, startTime := timestamp, state := .up, status := .slow, blockId := freshBlockId }
        = some log') ∨
    ∃ e, findOpenStateEntry log stationId = some e ∧ (log' = log ∨
      (updateStateEntry log e.id fun e ↦ { e with status := some .slow }) = some log') := by
  rw [transitionToSlow] at h
  cases hfind : findOpenStateEntry log stationId with
  | none =>
    rw [hfind] at h
    obtain ⟨log₁, hcreate, h⟩ := Option.bind_eq_some_iff.mp h
    cases h
    exact .inl ⟨rfl, hcreate⟩
  | some e =>
    rw [hfind] at h
    dsimp only at h
    refine .inr ⟨e, rfl, ?_⟩
    split at h
    · cases h
      exact .inl rfl
    · split at h
      · cases h
        exact .inl rfl
      · obtain ⟨log₁, hmark, h⟩ := Option.bind_eq_some_iff.mp h
        cases h
        exact .inr hmark

/-- What `transitionToDown` does: it opens an entry where none is open, and converts an open `UP`
one in place; no other entry is open that it would close. -/
theorem transitionToDown_cases {log log' : StateLog} {jobLog : List StationJobLog}
    {id freshBlockId stationId : Uuid} {timestamp : Time}
    {r : StationStateLog × Option (Time × Time)}
    (h : transitionToDown log jobLog id freshBlockId stationId timestamp = some (log', r)) :
    (findOpenStateEntry log stationId = none ∧ createStateEntry log id
      { stationId, startTime := timestamp, state := .down, status := .down,
        blockId := freshBlockId, jobBlobId := activeJobBlobId jobLog stationId } = some log') ∨
    ∃ e, findOpenStateEntry log stationId = some e ∧ (e.state = .down ∧ log' = log ∨
      e.state = .up ∧ updateStateEntry log e.id
        (convertToDown freshBlockId (activeJobBlobId jobLog stationId)) = some log') := by
  rw [transitionToDown] at h
  cases hfind : findOpenStateEntry log stationId with
  | none =>
    rw [hfind] at h
    obtain ⟨log₁, hcreate, h⟩ := Option.bind_eq_some_iff.mp h
    cases h
    exact .inl ⟨rfl, hcreate⟩
  | some e =>
    rw [hfind] at h
    dsimp only at h
    refine .inr ⟨e, rfl, ?_⟩
    split at h
    · rename_i hdown
      cases h
      exact .inl ⟨hdown, rfl⟩
    · rename_i hup
      obtain ⟨hmem, hopen⟩ := findOpenStateEntry_eq_some hfind
      have hothers : ∀ b ∈ log.rows, (isOpenOf stationId b && b.id != e.id) = false := by
        intro b hb
        rw [Bool.and_eq_false_imp]
        intro hob
        rw [log.eq_of_isOpenOf hb hmem hob hopen, bne_self_eq_false]
      obtain ⟨log₁, hclose, h⟩ := Option.bind_eq_some_iff.mp h
      rw [Table.updateMany_eq_self _ hothers, Option.some_inj] at hclose
      obtain ⟨log₂, hconv, h⟩ := Option.bind_eq_some_iff.mp h
      cases h
      subst hclose
      refine .inr ⟨?_, hconv⟩
      cases hs : e.state with
      | up => rfl
      | down => exact absurd hs hup

theorem transitionToSlow_timeline {log log' : StateLog} {id freshBlockId stationId : Uuid}
    {timestamp : Time} {r : StationStateLog}
    (h : transitionToSlow log id freshBlockId stationId timestamp = some (log', r)) :
    Recorded timestamp (log.timeline stationId) (log'.timeline stationId) := by
  obtain ⟨hfind, hcreate⟩ | ⟨e, -, rfl | hmark⟩ := transitionToSlow_cases h
  · exact .reopen (reopenedAt_of_create hfind hcreate)
  · exact .keep (.refl _)
  · exact .keep (.of_eq (timeline_of_mark hmark stationId))

theorem transitionToDown_timeline {log log' : StateLog} {jobLog : List StationJobLog}
    {id freshBlockId stationId : Uuid} {timestamp : Time}
    {r : StationStateLog × Option (Time × Time)}
    (h : transitionToDown log jobLog id freshBlockId stationId timestamp = some (log', r)) :
    Recorded timestamp (log.timeline stationId) (log'.timeline stationId) := by
  obtain ⟨hfind, hcreate⟩ | ⟨e, -, ⟨-, rfl⟩ | ⟨-, hconv⟩⟩ := transitionToDown_cases h
  · exact .reopen (reopenedAt_of_create hfind hcreate)
  · exact .keep (.refl _)
  · exact .keep (.of_eq (timeline_of_update
      (f := convertToDown freshBlockId (activeJobBlobId jobLog stationId))
      (fun _ ↦ rfl) (fun _ ↦ rfl) (fun _ ↦ rfl) (fun _ ↦ rfl) hconv stationId))

/-! ## Splitting -/

theorem findSplitEntry_eq_ok {log : StateLog} {entryId : Uuid} {entry : StationStateLog}
    (h : findSplitEntry log entryId = .ok entry) :
    entry ∈ log.rows ∧ entry.id = entryId ∧ entry.deletedAt = none ∧ entry.state = .down := by
  rw [findSplitEntry] at h
  cases hfind : log.rows.find? fun e ↦ e.id == entryId && e.deletedAt.isNone with
  | none =>
    rw [hfind] at h
    cases h
  | some e =>
    rw [hfind] at h
    dsimp only at h
    split at h
    · rename_i hdown
      cases h
      have hp := List.find?_some hfind
      rw [Bool.and_eq_true, beq_iff_eq, Option.isNone_iff_eq_none] at hp
      exact ⟨List.mem_of_find?_eq_some hfind, hp.1, hp.2, hdown⟩
    · cases h

/-- The margins keep the split point strictly inside the entry, and before `now`. -/
theorem validateSplit_eq_ok {entry : StationStateLog} {splitAt now : Time} {u : Unit}
    (h : validateSplit entry splitAt now = .ok u) :
    entry.startTime < splitAt ∧ splitAt < entry.endTime.getD now := by
  rw [validateSplit, SPLIT_MIN_MARGIN_MINUTES] at h
  split at h
  · cases h
  · split at h
    · cases h
    · constructor <;> linarith

/-- Truncating an entry of the log, and the rows left alone. -/
theorem rows_of_truncateEntry {log log' : StateLog} {entry : StationStateLog} {splitAt : Time}
    (he : entry ∈ log.rows) (h : truncateEntry log entry.id splitAt = some log') :
    ∃ rest, log.rows ~ entry :: rest ∧ log'.rows ~ { entry with endTime := some splitAt } :: rest :=
  Table.perm_of_updateMany_one (p := fun e ↦ e.id == entry.id) (mild_close splitAt) he
    (beq_self_eq_true _) (fun _ hb hid ↦ log.eq_of_key_eq hb he (beq_iff_eq.mp hid)) h

theorem secondPart_span (entry : StationStateLog) (id : Uuid) (splitAt : Time) :
    (secondPart entry id splitAt).span = entry.span.after splitAt := rfl

/-- Truncating a live entry of a station and adding the second part of a copy of it cuts the
timeline, as long as the copy has the station and the end of the entry. -/
theorem cut_of_truncate_insert {log log₁ log' : StateLog} {e entry : StationStateLog}
    {id stationId : Uuid} {splitAt : Time} (he : e ∈ log.rows) (hlive : e.isLive stationId = true)
    (hid : entry.id = e.id) (hst : entry.stationId = stationId) (hend : entry.endTime = e.endTime)
    (htrunc : truncateEntry log entry.id splitAt = some log₁)
    (hins : log₁.insert (secondPart entry id splitAt) = some log') :
    ∃ rest, log.timeline stationId ~ e.span :: rest ∧
      log'.timeline stationId ~ e.span.before splitAt :: e.span.after splitAt :: rest := by
  rw [hid] at htrunc
  obtain ⟨rest, hrows, hrows₁⟩ := rows_of_truncateEntry he htrunc
  have hlive₁ : ({ e with endTime := some splitAt } : StationStateLog).isLive stationId
      = true := hlive
  have hlive₂ : (secondPart entry id splitAt).isLive stationId = true :=
    StationStateLog.isLive_iff.mpr ⟨hst, rfl⟩
  have hspan₂ : (secondPart entry id splitAt).span = e.span.after splitAt := by
    rw [secondPart_span, Span.after, Span.after, StationStateLog.span_stop,
      StationStateLog.span_stop, hend]
  refine ⟨StateLog.timelineOf stationId rest, ?_, ?_⟩
  · rw [← StateLog.timelineOf_cons_live hlive]
    exact StateLog.timelineOf_perm _ hrows
  · have h₁ : log₁.timeline stationId
        ~ e.span.before splitAt :: StateLog.timelineOf stationId rest :=
      StateLog.timelineOf_cons_live hlive₁ rest ▸ StateLog.timelineOf_perm _ hrows₁
    have h₂ := timeline_of_insert hlive₂ hins
    rw [hspan₂] at h₂
    exact h₂.trans ((h₁.cons _).trans (.swap _ _ _))

/-- A split that is not refused truncates its entry and adds the second part. -/
theorem splitEntry_cases {log log' : StateLog} {id : Uuid} {entry : StationStateLog}
    {splitAt now : Time} {r : Except SplitError (StationStateLog × StationStateLog)}
    (h : splitEntry log id entry splitAt now = some (log', r)) :
    log' = log ∨ validateSplit entry splitAt now = .ok () ∧ ∃ log₁,
      truncateEntry log entry.id splitAt = some log₁ ∧
      log₁.insert (secondPart entry id splitAt) = some log' := by
  rw [splitEntry] at h
  cases hval : validateSplit entry splitAt now with
  | error err =>
    rw [hval] at h
    cases h
    exact .inl rfl
  | ok u =>
    rw [hval] at h
    obtain ⟨log₁, htrunc, h⟩ := Option.bind_eq_some_iff.mp h
    obtain ⟨log₂, hins, h⟩ := Option.bind_eq_some_iff.mp h
    cases h
    exact .inr ⟨rfl, log₁, htrunc, hins⟩

/-- A split leaves the log, or replaces a downtime by two, one before and one after an instant
strictly inside it. -/
theorem splitDownEntry_rows {log log' : StateLog} {id entryId : Uuid} {splitAt now : Time}
    {r : Except SplitError (StationStateLog × StationStateLog)}
    (h : splitDownEntry log id entryId splitAt now = some (log', r)) :
    log' = log ∨ ∃ entry rest, log.rows ~ entry :: rest ∧
      log'.rows ~ secondPart entry id splitAt :: { entry with endTime := some splitAt } :: rest ∧
      entry.deletedAt = none ∧ entry.startTime < splitAt ∧ splitAt < entry.endTime.getD now := by
  rw [splitDownEntry] at h
  cases hfind : findSplitEntry log entryId with
  | error err =>
    rw [hfind] at h
    cases h
    exact .inl rfl
  | ok entry =>
    obtain ⟨hmem, -, hdeleted, -⟩ := findSplitEntry_eq_ok hfind
    rw [hfind] at h
    rcases splitEntry_cases h with heq | ⟨hvalid, log₁, htrunc, hinsert⟩
    · exact .inl heq
    · obtain ⟨rest, hrows, hrows₁⟩ := rows_of_truncateEntry hmem htrunc
      refine .inr ⟨entry, rest, hrows, ?_, hdeleted, validateSplit_eq_ok hvalid⟩
      rw [Table.rows_of_insert hinsert]
      exact List.perm_append_comm.trans (hrows₁.cons _)

/-- The second part of an entry that is not deleted is live where the entry is. -/
theorem isLive_secondPart {entry : StationStateLog} (hdeleted : entry.deletedAt = none)
    (id : Uuid) (splitAt : Time) (stationId : Uuid) :
    (secondPart entry id splitAt).isLive stationId = entry.isLive stationId := by
  rw [StationStateLog.isLive, StationStateLog.isLive, secondPart, hdeleted]

/-- The split point is in the entry, and not later than `now` where the entry is open. -/
theorem cutAt_of_split {entry : StationStateLog} {splitAt now : Time}
    (hstart : entry.startTime < splitAt) (hend : splitAt < entry.endTime.getD now) :
    entry.span.CutAt splitAt ∧ (entry.span.stop = none → splitAt ≤ now) := by
  refine ⟨⟨hstart.le, fun e he ↦ ?_⟩, fun hopen ↦ ?_⟩
  · rw [StationStateLog.span_stop, Option.mem_def] at he
    rw [he, Option.getD_some] at hend
    exact hend.le
  · rw [StationStateLog.span_stop] at hopen
    rw [hopen, Option.getD_none] at hend
    exact hend.le

/-- A split changes the timeline of no station but that of its entry, which it cuts. -/
theorem splitDownEntry_timeline {log log' : StateLog} {id entryId : Uuid} {splitAt now : Time}
    {r : Except SplitError (StationStateLog × StationStateLog)}
    (h : splitDownEntry log id entryId splitAt now = some (log', r)) (stationId : Uuid) :
    Recorded now (log.timeline stationId) (log'.timeline stationId) := by
  obtain rfl | ⟨entry, rest, hrows, hrows', hdeleted, hstart, hend⟩ := splitDownEntry_rows h
  · exact .keep (.refl _)
  have hbefore := StateLog.timelineOf_perm stationId hrows
  have hafter := StateLog.timelineOf_perm stationId hrows'
  have hfirst : ({ entry with endTime := some splitAt } : StationStateLog).isLive stationId
      = entry.isLive stationId := rfl
  have hsecond := isLive_secondPart hdeleted id splitAt stationId
  by_cases hlive : entry.isLive stationId = true
  · rw [StateLog.timelineOf_cons_live hlive] at hbefore
    rw [StateLog.timelineOf_cons_live (hsecond.trans hlive),
      StateLog.timelineOf_cons_live (hfirst.trans hlive)] at hafter
    obtain ⟨hcut, hnow⟩ := cutAt_of_split hstart hend
    exact .cut splitAt ⟨entry.span, _, hcut, hnow, hbefore, hafter.trans (.swap _ _ _)⟩
  · -- the rows it writes belong to another station
    rw [StateLog.timelineOf_cons_dead hlive] at hbefore
    rw [StateLog.timelineOf_cons_dead (hsecond ▸ hlive),
      StateLog.timelineOf_cons_dead (hfirst ▸ hlive)] at hafter
    exact .keep (hafter.trans hbefore.symm)

end RwServer
