import Mathlib
import RwServer.Foundation.Run
import RwServer.Metrics.Archive

/-!
# One archive run among corrections

`archiveSiteBuckets`, `updateDispositionBadItems` and `updateTimeBased` run without a transaction:
each is a sequence of statements, and the statements of several calls may alternate in any way. A
state holds the two tables and how far each call has come, and a step is the next statement of one
of them.

The rollups at the end of a call write rows of shifts, days and parents only; where such a write
falls is left open. Ids of new rows are drawn, and differ from all that are in use.
-/

namespace RwServer

open Relational Transition

/-! ## Calls under way -/

/-- A call of `updateDispositionBadItems`. -/
structure BadItemsCall where
  timestamp : Time
  quantity : ℤ
deriving DecidableEq, Repr

/-- The calls for a station that are made while a run of `archiveSiteBuckets` is under way: `m`
corrections of scrap and `n` of durations. -/
structure Corrections (m n : ℕ) where
  f : Facility
  siteId : Uuid
  stationId : Uuid
  bad : Fin m → BadItemsCall
  timed : Fin n → TimeBasedCall
  sameStation : ∀ i, (timed i).stationId = stationId ∧ (timed i).siteId = siteId

/-- How far the archive has come. -/
inductive ArchivePhase
  | idle
  /-- The rows of stations that are still to be frozen. -/
  | freezing (oldBuckets : List BucketRow) (stationBuckets : List BucketRow)
  /-- The rows have been re-read. -/
  | copying (oldBuckets : List BucketRow) (refreshed : Table bucketRowSchema)
  | copied (oldBuckets : List BucketRow)
  | done

/-- How far a correction of scrap has come. -/
inductive BadItemsPhase
  | start
  | scaffolded
  /-- The update of `MetricBucket` has hit no row. -/
  | missed
  | done
deriving DecidableEq, Repr

/-- How far a correction of durations has come. -/
inductive TimedPhase
  | start
  /-- No archived row has been found. -/
  | unarchived
  /-- Before the next of the hours that are left. -/
  | between (todo : List HourBucket)
  | computed (bucket : HourBucket) (newData : BucketDurations) (todo : List HourBucket)
  | readLog (bucket : HourBucket) (newData : BucketDurations) (archivedRow : Option BucketRow)
      (todo : List HourBucket)
  | readLive (bucket : HourBucket) (newData : BucketDurations)
      (archivedRow liveRow : Option BucketRow) (todo : List HourBucket)
  /-- The archived row has been written, and the live one is to go. -/
  | deleting (bucket : HourBucket) (todo : List HourBucket)

namespace TimedPhase

/-- Whether the call has returned, but for its rollup. -/
def isDone : TimedPhase → Bool
  | .between [] => true
  | _ => false

/-- The hour whose live row is to be deleted next. -/
def clears : TimedPhase → Option Time
  | .deleting bucket _ => some bucket.startTime
  | _ => none

end TimedPhase

structure ArchiveState (m n : ℕ) where
  tables : BucketTables
  archive : ArchivePhase
  bad : Fin m → BadItemsPhase
  timed : Fin n → TimedPhase
  /-- What the corrections of scrap that are done have added to the hour that begins at a time. -/
  added : Time → ℤ
  /-- The durations that have been written last to the hour that begins at a time. -/
  written : Time → Option Durations

/-- The statements of `archiveSiteBuckets`. -/
inductive ArchiveStatement
  | select (now : Time)
  /-- The durations of the next row are computed from what is read then. -/
  | freeze (call : ArchiveCall)
  | reread
  | copy
  | delete

/-- The statements of `updateDispositionBadItems`. -/
inductive BadItemsStatement
  | scaffold (ids : List Uuid)
  | addLive
  | addLog

/-- The statements of `updateTimeBased`. -/
inductive TimedStatement
  | checkLog
  | scaffold (ids : List Uuid)
  /-- The durations of the next hour are computed from what is read then. -/
  | compute (stateLog : StateLog) (now : HourBucket → Time)
  | readLog
  | readLive
  | write
  | deleteLive

/-- The next statement of one of the calls. -/
inductive Statement (m n : ℕ)
  | archive (a : ArchiveStatement)
  | bad (i : Fin m) (a : BadItemsStatement)
  | timed (i : Fin n) (a : TimedStatement)
  /-- A write of some rollup, which has computed its values before. -/
  | rollup (input : UpsertInput)

/-- `archivedIds`. -/
def idsOf (buckets : List BucketRow) : List Uuid := buckets.map BucketRow.id

namespace ArchivePhase

/-- The ids of the rows that the archive is about to move. -/
def ids : ArchivePhase → List Uuid
  | .idle => []
  | .freezing oldBuckets _ => idsOf oldBuckets
  | .copying oldBuckets _ => idsOf oldBuckets
  | .copied oldBuckets => idsOf oldBuckets
  | .done => []

def isDone : ArchivePhase → Bool
  | .done => true
  | _ => false

end ArchivePhase

namespace Corrections

variable {m n : ℕ} (sc : Corrections m n)

/-- The start of `baseBucket`, which every timestamp has. -/
def badHour (i : Fin m) : Time :=
  ((resolveHourBucketForEntity sc.f .station sc.stationId sc.siteId (sc.bad i).timestamp
    (sc.f.siteTimezone sc.siteId)).map HourBucket.startTime).getD (sc.bad i).timestamp

/-- `baseBuckets`. -/
def baseBuckets (i : Fin n) : List HourBucket :=
  (getBaseBucketsForRange sc.f sc.stationId sc.siteId (sc.timed i).startTime
    (sc.timed i).endTime).getD []

end Corrections

/-- Rows with the ids that are drawn for them. -/
def withIds (rows : List BucketRow) (ids : List Uuid) : List BucketRow :=
  (rows.zip ids).map fun p ↦ { p.1 with id := p.2 }

/-! ## Statements -/

namespace ArchiveState

variable {m n : ℕ} (s : ArchiveState m n)

def setLive (live : Table bucketRowSchema) : ArchiveState m n :=
  { s with tables := { s.tables with live := live } }

def setLog (log : Table bucketRowSchema) : ArchiveState m n :=
  { s with tables := { s.tables with log := log } }

def setArchive (phase : ArchivePhase) : ArchiveState m n := { s with archive := phase }

def setBad (i : Fin m) (phase : BadItemsPhase) : ArchiveState m n :=
  { s with bad := Function.update s.bad i phase }

def setTimed (i : Fin n) (phase : TimedPhase) : ArchiveState m n :=
  { s with timed := Function.update s.timed i phase }

theorem bad_setBad (i j : Fin m) (phase : BadItemsPhase) :
    (s.setBad i phase).bad j = if j = i then phase else s.bad j :=
  Function.update_apply s.bad i phase j

theorem timed_setTimed (i j : Fin n) (phase : TimedPhase) :
    (s.setTimed i phase).timed j = if j = i then phase else s.timed j :=
  Function.update_apply s.timed i phase j

/-- A correction of scrap is done. -/
def noteAdded (startTime : Time) (quantity : ℤ) : ArchiveState m n :=
  { s with added := Function.update s.added startTime (s.added startTime + quantity) }

/-- Durations have been written. -/
def noteWritten (isWritten : Time → Bool) (d : Durations) : ArchiveState m n :=
  { s with written := fun start ↦ if isWritten start then some d else s.written start }

/-- The ids that a new row does not get. -/
def usedIds : List Uuid :=
  idsOf s.tables.live.rows ++ idsOf s.tables.log.rows ++ s.archive.ids

/-- The `INSERT` of `ensureBuckets`, with the ids that are drawn. -/
def scaffold (sc : Corrections m n) (timestamp : Time) (ids : List Uuid) :
    Option (ArchiveState m n) :=
  let rows := scaffoldRows sc.f sc.siteId sc.stationId timestamp
  if ids.length = rows.length ∧ ids.Nodup ∧ ∀ id ∈ ids, id ∉ s.usedIds then
    some (s.setLive (s.tables.live.insertMissingAll (withIds rows ids)))
  else none

end ArchiveState

section

variable {m n : ℕ} (sc : Corrections m n)

def archiveStep (s : ArchiveState m n) : ArchiveStatement → Option (ArchiveState m n)
  | .select now => match s.archive with
    | .idle =>
      let oldBuckets := s.tables.live.rows.filter (isOld sc.siteId now)
      some (s.setArchive (if oldBuckets.isEmpty then .done
        else .freezing oldBuckets (oldBuckets.filter fun r ↦ r.key.entityType == .station)))
    | _ => none
  | .freeze call => match s.archive with
    | .freezing oldBuckets (bucket :: stationBuckets) =>
      let d := call.durations bucket
      -- where the row is gone, the update fails, and the loop goes on
      some (((s.setLive (freezeById bucket.id d s.tables.live)).noteWritten
        (fun start ↦ (s.tables.live.find (hourKey sc.stationId start)).any fun r ↦
          r.id == bucket.id) d).setArchive (.freezing oldBuckets stationBuckets))
    | _ => none
  | .reread => match s.archive with
    | .freezing oldBuckets [] => some (s.setArchive (.copying oldBuckets
        (s.tables.live.delete fun r ↦ !hasId (idsOf oldBuckets) r)))
    | _ => none
  | .copy => match s.archive with
    | .copying oldBuckets refreshed => some ((s.setLog
        (s.tables.log.insertMissingAll refreshed.rows)).setArchive (.copied oldBuckets))
    | _ => none
  | .delete => match s.archive with
    | .copied oldBuckets => some ((s.setLive
        (s.tables.live.delete (hasId (idsOf oldBuckets)))).setArchive .done)
    | _ => none

def badItemsStep (s : ArchiveState m n) (i : Fin m) :
    BadItemsStatement → Option (ArchiveState m n)
  | .scaffold ids => match s.bad i with
    | .start => (s.scaffold sc (sc.bad i).timestamp ids).map fun s ↦ s.setBad i .scaffolded
    | _ => none
  | .addLive => match s.bad i with
    | .scaffolded =>
      let quantity := (sc.bad i).quantity
      if (s.tables.live.find (hourKey sc.stationId (sc.badHour i))).isSome then
        some (((s.setLive (addBadItemsAt sc.stationId (sc.badHour i) quantity
          s.tables.live)).noteAdded (sc.badHour i) quantity).setBad i .done)
      else some (s.setBad i .missed)
    | _ => none
  | .addLog => match s.bad i with
    | .missed =>
      let quantity := (sc.bad i).quantity
      some (((s.setLog (addBadItemsAt sc.stationId (sc.badHour i) quantity
        s.tables.log)).noteAdded (sc.badHour i) quantity).setBad i .done)
    | _ => none

def timedStep (s : ArchiveState m n) (i : Fin n) :
    TimedStatement → Option (ArchiveState m n)
  | .checkLog => match s.timed i with
    | .start => some (s.setTimed i
        (if (sc.timed i).archivedExists (sc.baseBuckets i) s.tables.log then
          .between (sc.baseBuckets i) else .unarchived))
    | _ => none
  | .scaffold ids => match s.timed i with
    | .unarchived => (s.scaffold sc (sc.timed i).startTime ids).map fun s ↦
        s.setTimed i (.between (sc.baseBuckets i))
    | _ => none
  | .compute stateLog now => match s.timed i with
    | .between (bucket :: todo) =>
      let call := { sc.timed i with stateLog := stateLog, now := now }
      some (s.setTimed i (.computed bucket
        (call.durations (s.tables.effective (hourKey sc.stationId bucket.startTime)) bucket) todo))
    | _ => none
  | .readLog => match s.timed i with
    | .computed bucket newData todo => some (s.setTimed i (.readLog bucket newData
        (s.tables.log.find (hourKey sc.stationId bucket.startTime)) todo))
    | _ => none
  | .readLive => match s.timed i with
    | .readLog bucket newData archivedRow todo => some (s.setTimed i (.readLive bucket newData
        archivedRow (s.tables.live.find (hourKey sc.stationId bucket.startTime)) todo))
    | _ => none
  | .write => match s.timed i with
    | .readLive bucket newData (some archivedRow) liveRow todo =>
      if isDurationUnchanged archivedRow newData then some (s.setTimed i (.between todo))
      else some (((s.setLog ((sc.timed i).setDurationsAt sc.f newData bucket
        s.tables.log)).noteWritten (fun start ↦ decide (start = bucket.startTime))
        newData.toDurations).setTimed i
          (if liveRow.isSome then .deleting bucket todo else .between todo))
    | .readLive bucket newData none (some liveRow) todo =>
      if isDurationUnchanged liveRow newData then some (s.setTimed i (.between todo))
      else some (((s.setLive ((sc.timed i).setDurationsAt sc.f newData bucket
        s.tables.live)).noteWritten (fun start ↦ decide (start = bucket.startTime))
        newData.toDurations).setTimed i (.between todo))
    | .readLive _ _ none none todo => some (s.setTimed i (.between todo))
    | _ => none
  | .deleteLive => match s.timed i with
    | .deleting bucket todo => some ((s.setLive (s.tables.live.delete fun r ↦
        decide (r.key = hourKey sc.stationId bucket.startTime))).setTimed i (.between todo))
    | _ => none

/-- One statement of one call. A rollup writes no hour of a station. -/
def correctionStep (statement : Statement m n) (s : ArchiveState m n) :
    Option (ArchiveState m n) :=
  match statement with
  | .archive a => archiveStep sc s a
  | .bad i a => badItemsStep sc s i a
  | .timed i a => timedStep sc s i a
  | .rollup input =>
    if input.key.entityType = .station ∧ input.key.granularity = .hour then none
    else some { s with tables := upsertBucket s.tables input }

end

/-- Before the first statement. -/
def ArchiveState.init {m n : ℕ} (tables : BucketTables) : ArchiveState m n where
  tables := tables
  archive := .idle
  bad _ := .start
  timed _ := .start
  added _ := 0
  written _ := none

/-- All calls have returned. -/
def ArchiveState.Finished {m n : ℕ} (s : ArchiveState m n) : Prop :=
  s.archive.isDone = true ∧ (∀ i, s.bad i = .done) ∧ ∀ i, (s.timed i).isDone = true

instance decidableFinished {m n : ℕ} (s : ArchiveState m n) : Decidable s.Finished :=
  inferInstanceAs (Decidable (_ ∧ _ ∧ _))

end RwServer
