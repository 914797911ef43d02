import Mathlib
import RwServer.Foundation.Run
import RwServer.Foundation.Table
import RwServer.Foundation.Timeline
import RwServer.Orders.Operations
import RwServer.Station.StateLog

/-!
# Job changes at the same time

A job change closes the open entries of a station's job log, sets the current job of the station and
opens a new entry, in a transaction under an advisory lock of the station. Its timestamp is older
than the lock: it has been taken when the call began, or has come with an event. The ensure tick
looks for stations that have a current job and no open entry, and later inserts an entry for each
of them, without the lock and without looking again.

What a transaction writes is seen by the others when it commits; the open entries it closes are
those it has seen at that statement. `jobLog_stays_chain` says which commits and which inserts keep
the log a chain.

The log is that of one station.
-/

namespace RwServer

open Relational Transition Timeline

/-! ## The log of a station -/

/-- A row of `StationJobLog` with its id and its job. -/
structure JobLogEntry extends StationJobLog where
  id : Uuid
  jobId : Uuid
deriving DecidableEq, Repr

def jobLogSchema : Schema JobLogEntry Uuid where
  key := JobLogEntry.id
  clash _ _ := false
  clash_symm _ _ := rfl

/-- The time that an entry is about. -/
def JobLogEntry.span (l : JobLogEntry) : Span Time := ⟨l.startTime, l.endTime⟩

/-- `SET "endTime" = timestamp`. -/
def JobLogEntry.close (timestamp : Time) (l : JobLogEntry) : JobLogEntry :=
  { l with endTime := some timestamp }

/-- `SET "endTime" = timestamp WHERE "endTime" IS NULL`. -/
def JobLogEntry.closeOpen (timestamp : Time) (l : JobLogEntry) : JobLogEntry :=
  if l.endTime = none then l.close timestamp else l

theorem JobLogEntry.mild_close (timestamp : Time) :
    Table.Mild jobLogSchema (JobLogEntry.close timestamp) where
  key _ := rfl
  clash _ _ h := h

/-- What a job change and the tick read of the station. -/
structure JobStation where
  siteId : Uuid
  deletedAt : Option Time
  currentJobId : Option Uuid
deriving DecidableEq, Repr

/-- A row of `Job`, as far as a job change checks it. -/
structure StationJob where
  id : Uuid
  siteId : Uuid
  deletedAt : Option Time
  currentBlobId : Option Uuid
deriving DecidableEq, Repr

/-! ## Calls -/

/-- The two functions that change a job. -/
inductive JobChanger
  | changeJob
  | jobChangeAction
deriving DecidableEq, Repr

/-- A call, with the id that the database draws for its entry. -/
inductive JobLogCall
  | change (changer : JobChanger) (newJobId : Option Uuid) (timestamp : Time) (logId : Uuid)
  | ensureTick (now : Time) (logId : Uuid)
deriving DecidableEq, Repr

/-- `changeJob`; the timestamp is the time of the call. -/
def changeJob (newJobId : Option Uuid) (timestamp : Time) (logId : Uuid) : JobLogCall :=
  .change .changeJob newJobId timestamp logId

/-- `jobChangeAction.execute`; the timestamp is the one of the input, or the time of the call. -/
def jobChangeAction (jobId : Option Uuid) (timestamp : Time) (logId : Uuid) : JobLogCall :=
  .change .jobChangeAction jobId timestamp logId

/-- The time that a call writes. -/
def JobLogCall.timestamp : JobLogCall → Time
  | .change _ _ timestamp _ => timestamp
  | .ensureTick now _ => now

/-- What a call is refused with, or the message of the error it throws. -/
inductive JobLogFailure
  | refused (e : ServiceError)
  | thrown (message : String)
deriving DecidableEq, Repr

/-- The job that has been found under `newJobId`, with its blob. -/
structure FoundJob where
  id : Uuid
  siteId : Uuid
  jobBlobId : Uuid
deriving DecidableEq, Repr

/-- The validation of the new job, before the transaction. -/
def validateJob (jobs : List StationJob) (changer : JobChanger) (newJobId : Option Uuid) :
    Except JobLogFailure (Option FoundJob) :=
  match newJobId with
  | none => .ok none
  | some newJobId =>
    match changer, jobs.find? fun job ↦ job.id == newJobId with
    | .changeJob, none => .error (.refused ⟨"Job not found", "JOB_NOT_FOUND"⟩)
    | .jobChangeAction, none => .error (.thrown ("Job not found: " ++ toString newJobId))
    | .changeJob, some job =>
      if job.deletedAt.isSome then .error (.refused ⟨"Job not found", "JOB_NOT_FOUND"⟩)
      else match job.currentBlobId with
      | none => .error (.refused ⟨"Job has no current blob version", "NO_CURRENT_BLOB"⟩)
      | some jobBlobId => .ok (some ⟨newJobId, job.siteId, jobBlobId⟩)
    | .jobChangeAction, some job =>
      match job.currentBlobId with
      | none => .error (.thrown "Job has no current blob version")
      | some jobBlobId => .ok (some ⟨newJobId, job.siteId, jobBlobId⟩)

def stationNotFound (stationId : Uuid) : JobChanger → JobLogFailure
  | .changeJob => .refused ⟨"Station not found", "STATION_NOT_FOUND"⟩
  | .jobChangeAction => .thrown ("Station not found: " ++ toString stationId)

def siteMismatch : JobChanger → JobLogFailure
  | .changeJob => .refused ⟨"Job and station must belong to the same site", "SITE_MISMATCH"⟩
  | .jobChangeAction => .thrown "Job and station must belong to the same site"

/-- Which statement of a call comes next. -/
inductive JobPhase
  | start
  /-- The job is validated, and the lock is to be taken. -/
  | waiting (job : Option FoundJob)
  | readingStation (job : Option FoundJob)
  | readingLogs (job : Option FoundJob)
  | closing (job : Option FoundJob)
  /-- The entries that the transaction has closed, not yet visible to the others. -/
  | updatingStation (job : Option FoundJob) (closed : List Uuid)
  | creating (job : Option FoundJob) (closed : List Uuid)
  | committing (job : Option FoundJob) (closed : List Uuid)
  | changed
  | failed (failure : JobLogFailure)
  /-- The tick has found that the station needs an entry. -/
  | inserting (jobId jobBlobId : Uuid)
  | inserted
  | unneeded
deriving DecidableEq, Repr

structure JobLogState (ι : Type*) where
  stationId : Uuid
  station : Option JobStation
  logs : Table jobLogSchema
  /-- Who has the advisory lock of the station. -/
  holder : Option ι
  phases : ι → JobPhase

namespace JobLogState

variable {ι : Type*} (s : JobLogState ι)

def currentJobId : Option Uuid := s.station.bind JobStation.currentJobId

def openLogs : List JobLogEntry := s.logs.rows.filter fun l ↦ l.endTime.isNone

/-- The query of the tick, for the station: its current job and the blob of the job, if an entry
is missing. -/
def needingLog (jobs : List StationJob) : Option (Uuid × Uuid) :=
  s.station.bind fun station ↦
    if station.deletedAt.isSome then none
    else station.currentJobId.bind fun jobId ↦
      (jobs.find? fun job ↦ job.id == jobId).bind fun job ↦
        job.currentBlobId.bind fun jobBlobId ↦
          if s.openLogs = [] then some (jobId, jobBlobId) else none

variable [DecidableEq ι]

def goto (i : ι) (phase : JobPhase) : JobLogState ι :=
  { s with phases := Function.update s.phases i phase }

/-- The transaction ends without a write. -/
def leave (i : ι) (failure : JobLogFailure) : JobLogState ι :=
  { s.goto i (.failed failure) with holder := none }

/-- The entries after the transaction has committed. -/
def logsAfter (timestamp : Time) (logId : Uuid) (job : Option FoundJob) (closed : List Uuid) :
    Option (Table jobLogSchema) :=
  let logs := s.logs.modify (fun l ↦ closed.contains l.id) (JobLogEntry.close timestamp)
    (JobLogEntry.mild_close timestamp)
  match job with
  | none => some logs
  | some job => logs.insert ⟨⟨s.stationId, timestamp, none, job.jobBlobId⟩, logId, job.id⟩

/-- The transaction commits. -/
def commit (i : ι) (job : Option FoundJob) (logs : Table jobLogSchema) : JobLogState ι :=
  { s.goto i .changed with
    station := s.station.map fun station ↦ { station with currentJobId := job.map FoundJob.id }
    logs := logs
    holder := none }

/-- The next statement of the call `i`; `none` while it waits for the lock. -/
def step (jobs : List StationJob) (calls : ι → JobLogCall) (i : ι) (s : JobLogState ι) :
    Option (JobLogState ι) :=
  match s.phases i, calls i with
  | .start, .change changer newJobId _ _ =>
    match validateJob jobs changer newJobId with
    | .error failure => some (s.goto i (.failed failure))
    | .ok job => some (s.goto i (.waiting job))
  | .waiting job, _ =>
    if s.holder = none then some { s.goto i (.readingStation job) with holder := some i } else none
  | .readingStation job, .change changer _ _ _ =>
    match s.station with
    | none => some (s.leave i (stationNotFound s.stationId changer))
    | some station =>
      if job.any fun job ↦ decide (job.siteId ≠ station.siteId) then
        some (s.leave i (siteMismatch changer))
      else some (s.goto i (.readingLogs job))
  | .readingLogs job, _ =>
    if s.openLogs = [] then some (s.goto i (.updatingStation job []))
    else some (s.goto i (.closing job))
  | .closing job, _ => some (s.goto i (.updatingStation job (s.openLogs.map JobLogEntry.id)))
  | .updatingStation job closed, _ => some (s.goto i (.creating job closed))
  | .creating job closed, _ => some (s.goto i (.committing job closed))
  | .committing job closed, .change _ _ timestamp logId =>
    (s.logsAfter timestamp logId job closed).map (s.commit i job)
  | .start, .ensureTick _ _ =>
    match s.needingLog jobs with
    | none => some (s.goto i .unneeded)
    | some (jobId, jobBlobId) => some (s.goto i (.inserting jobId jobBlobId))
  | .inserting jobId jobBlobId, .ensureTick now logId =>
    (s.logs.insert ⟨⟨s.stationId, now, none, jobBlobId⟩, logId, jobId⟩).map fun logs ↦
      { s.goto i .inserted with logs := logs }
  | _, _ => none

end JobLogState

/-! ## Chains -/

/-- The entries do not end before they start, no two of them are about the same instant, and an open
one is for the current job. -/
structure JobLogChain (currentJobId : Option Uuid) (logs : Table jobLogSchema) : Prop where
  wellFormed : ∀ l ∈ logs.rows, l.span.WellFormed
  apart : logs.rows.Pairwise fun a b ↦ a.span.Apart b.span
  open_job : ∀ l ∈ logs.rows, l.endTime = none → currentJobId = some l.jobId

/-- The new entry of a job change fits: the open entries have started before it, and the others have
ended. -/
def FitsChange (timestamp : Time) (job : Option FoundJob) (logs : Table jobLogSchema) : Prop :=
  ∀ l ∈ logs.rows, (l.endTime = none → l.startTime ≤ timestamp) ∧
    (job.isSome = true → ∀ e ∈ l.endTime, l.startTime < e → e ≤ timestamp)

/-- A new open entry fits: it is for the current job, and all the others have ended before it. -/
def FitsEntry (currentJobId : Option Uuid) (jobId : Uuid) (startTime : Time)
    (logs : Table jobLogSchema) : Prop :=
  currentJobId = some jobId ∧
    ∀ l ∈ logs.rows, ∃ e ∈ l.endTime, l.startTime < e → e ≤ startTime

theorem apart_open_iff {s : Span Time} {e x : Time} (hs : s.stop = some e) :
    s.Apart ⟨x, none⟩ ↔ (s.start < e → e ≤ x) := by
  constructor
  · intro h hlt
    by_contra hx
    exact h (max s.start x)
      ((Span.covers_closed hs).mpr ⟨le_max_left _ _, max_lt hlt (not_le.mp hx)⟩)
      ((Span.covers_open rfl).mpr (le_max_right _ _))
  · intro h t ht hx
    obtain ⟨hstart, hend⟩ := (Span.covers_closed hs).mp ht
    have hle := h (hstart.trans_lt hend)
    exact absurd ((Span.covers_open rfl).mp hx) (not_le.mpr (hend.trans_le hle))

/-- Closing an open span leaves it apart from what it was apart from. -/
theorem apart_before {s s' : Span Time} {x : Time} (hs : s.stop = none) (h : s.Apart s') :
    (s.before x).Apart s' := fun t ht ↦
  h t ((Span.covers_open hs).mpr ((Span.covers_closed rfl).mp ht).1)

section

variable {currentJobId : Option Uuid} {logs logs' : Table jobLogSchema}

/-- **A new open entry** keeps the chain iff it fits. -/
theorem chain_insert_iff {stationId jobBlobId logId jobId : Uuid} {startTime : Time}
    (h : ∀ l ∈ logs.rows, l.span.WellFormed) (hapart : logs.rows.Pairwise fun a b ↦
      a.span.Apart b.span)
    (hinsert : logs.insert ⟨⟨stationId, startTime, none, jobBlobId⟩, logId, jobId⟩ = some logs')
    (hjob : ∀ l ∈ logs.rows, l.endTime = none → currentJobId = some l.jobId) :
    JobLogChain currentJobId logs' ↔ FitsEntry currentJobId jobId startTime logs := by
  have hrows := Table.rows_of_insert hinsert
  constructor
  · rintro ⟨-, hchain, hopen⟩
    rw [hrows] at hchain hopen
    refine ⟨hopen _ (List.mem_append_right _ (List.mem_singleton.mpr rfl)) rfl, fun l hl ↦ ?_⟩
    have hnew := (List.pairwise_append.mp hchain).2.2 l hl _ (List.mem_singleton.mpr rfl)
    cases hend : l.endTime with
    | none => exact absurd hnew (Span.not_apart_of_open hend rfl)
    | some e => exact ⟨e, rfl, (apart_open_iff (s := l.span) hend).mp hnew⟩
  · rintro ⟨hcurrent, hends⟩
    refine ⟨fun l hl ↦ ?_, ?_, fun l hl hopen ↦ ?_⟩
    · rw [hrows, List.mem_append, List.mem_singleton] at hl
      rcases hl with hl | rfl
      · exact h l hl
      · exact fun e he ↦ nomatch he
    · rw [hrows]
      refine List.pairwise_append.mpr ⟨hapart, List.pairwise_singleton _ _, fun l hl new hnew ↦ ?_⟩
      obtain ⟨e, he, hle⟩ := hends l hl
      rw [List.mem_singleton.mp hnew]
      exact (apart_open_iff (s := l.span) he).mpr hle
    · rw [hrows, List.mem_append, List.mem_singleton] at hl
      rcases hl with hl | rfl
      · exact hjob l hl hopen
      · exact hcurrent

/-- The entries after the open ones have been closed. -/
theorem rows_close (timestamp : Time) {closed : List Uuid}
    (hclosed : ∀ l ∈ logs.rows, l.endTime = none ↔ l.id ∈ closed) :
    (logs.modify (fun l ↦ closed.contains l.id) (JobLogEntry.close timestamp)
      (JobLogEntry.mild_close timestamp)).rows
      = logs.rows.map (JobLogEntry.closeOpen timestamp) := by
  refine List.map_congr_left fun l hl ↦ ?_
  refine if_congr ?_ rfl rfl
  rw [List.contains_iff_mem]
  exact (hclosed l hl).symm

theorem endTime_closeOpen (timestamp : Time) (l : JobLogEntry) :
    (l.closeOpen timestamp).endTime = some (l.endTime.getD timestamp) := by
  rw [JobLogEntry.closeOpen]
  split
  · rename_i hopen
    rw [hopen]
    rfl
  · rename_i hclosed
    obtain ⟨e, he⟩ := Option.ne_none_iff_exists'.mp hclosed
    rw [he]
    rfl

theorem startTime_closeOpen (timestamp : Time) (l : JobLogEntry) :
    (l.closeOpen timestamp).startTime = l.startTime := by
  rw [JobLogEntry.closeOpen]
  split <;> rfl

theorem apart_closeOpen {a b : JobLogEntry} (timestamp : Time) (h : a.span.Apart b.span) :
    (a.closeOpen timestamp).span.Apart b.span := by
  rw [JobLogEntry.closeOpen]
  split
  · rename_i hopen
    exact apart_before (s := a.span) hopen h
  · exact h

theorem wellFormed_closeOpen_iff {timestamp : Time} {l : JobLogEntry} (h : l.span.WellFormed) :
    (l.closeOpen timestamp).span.WellFormed ↔ (l.endTime = none → l.startTime ≤ timestamp) := by
  have hspan : (l.closeOpen timestamp).span = ⟨l.startTime, some (l.endTime.getD timestamp)⟩ := by
    rw [JobLogEntry.span, endTime_closeOpen, startTime_closeOpen]
  rw [hspan]
  cases hend : l.endTime with
  | none => exact ⟨fun hw _ ↦ hw timestamp rfl, fun hle e he ↦ Option.some.inj he ▸ hle rfl⟩
  | some e =>
    exact ⟨fun _ hnone ↦ (nomatch hnone), fun _ e' he' ↦ (Option.some.inj he') ▸ h e hend⟩

variable {ι : Type*} {s : JobLogState ι} {timestamp : Time} {logId : Uuid} {job : Option FoundJob}
  {closed : List Uuid}

/-- **What one job change does.** Its commit keeps the chain iff its timestamp fits. -/
theorem chain_commit_iff (hs : JobLogChain currentJobId s.logs)
    (hclosed : ∀ l ∈ s.logs.rows, l.endTime = none ↔ l.id ∈ closed)
    (hlogs : s.logsAfter timestamp logId job closed = some logs) :
    JobLogChain (job.map FoundJob.id) logs ↔ FitsChange timestamp job s.logs := by
  have hrows := rows_close timestamp hclosed
  unfold JobLogState.logsAfter at hlogs
  generalize s.logs.modify _ _ _ = ended at hrows hlogs
  have hended : ∀ l ∈ ended.rows, l.endTime ≠ none := by
    rw [hrows, List.forall_mem_map]
    intro l _
    rw [endTime_closeOpen]
    exact Option.some_ne_none _
  have hapart : ended.rows.Pairwise fun a b ↦ a.span.Apart b.span := by
    rw [hrows, List.pairwise_map]
    exact hs.apart.imp fun h ↦
      (apart_closeOpen timestamp (apart_closeOpen timestamp h).symm).symm
  have hwell : (∀ l ∈ ended.rows, l.span.WellFormed) ↔
      ∀ l ∈ s.logs.rows, l.endTime = none → l.startTime ≤ timestamp := by
    rw [hrows, List.forall_mem_map]
    exact forall₂_congr fun l hl ↦ wellFormed_closeOpen_iff (hs.wellFormed l hl)
  have hopen : ∀ current : Option Uuid, ∀ l ∈ ended.rows, l.endTime = none →
      current = some l.jobId := fun _ l hl hnone ↦ absurd hnone (hended l hl)
  cases job with
  | none =>
    cases hlogs
    constructor
    · exact fun h l hl ↦ ⟨hwell.mp h.wellFormed l hl, fun hsome ↦ (nomatch hsome)⟩
    · exact fun h ↦ ⟨hwell.mpr fun l hl ↦ (h l hl).1, hapart, hopen _⟩
  | some job =>
    have hfits : FitsEntry (some job.id) job.id timestamp ended ↔
        ∀ l ∈ s.logs.rows, ∀ e ∈ l.endTime, l.startTime < e → e ≤ timestamp := by
      rw [FitsEntry, hrows, List.forall_mem_map]
      refine (and_iff_right rfl).trans (forall₂_congr fun l hl ↦ ?_)
      rw [endTime_closeOpen, startTime_closeOpen]
      cases l.endTime with
      | none => exact ⟨fun _ e he ↦ (nomatch he), fun _ ↦ ⟨_, rfl, fun _ ↦ le_rfl⟩⟩
      | some e =>
        exact ⟨fun ⟨e', he', hle⟩ e'' he'' ↦ Option.some.inj (he'.symm.trans he'') ▸ hle,
          fun h ↦ ⟨e, rfl, h e rfl⟩⟩
    constructor
    · intro h l hl
      have hwf : ∀ l ∈ ended.rows, l.span.WellFormed := fun l hl ↦
        h.wellFormed l (by
          rw [Table.rows_of_insert hlogs]
          exact List.mem_append_left _ hl)
      have hentry := (chain_insert_iff hwf hapart hlogs (hopen _)).mp h
      exact ⟨hwell.mp hwf l hl, fun _ ↦ hfits.mp hentry l hl⟩
    · intro h
      have hwf := hwell.mpr fun l hl ↦ (h l hl).1
      exact (chain_insert_iff hwf hapart hlogs (hopen _)).mpr
        (hfits.mpr fun l hl ↦ (h l hl).2 rfl)

end

/-! ## What a statement does -/

namespace JobPhase

/-- The transaction has taken the lock and has not ended. -/
def holdsLock : JobPhase → Bool
  | .readingStation _ | .readingLogs _ | .closing _ | .updatingStation _ _ | .creating _ _
  | .committing _ _ => true
  | .start | .waiting _ | .changed | .failed _ | .inserting _ _ | .inserted | .unneeded => false

/-- The transaction has found the station. -/
def foundStation : JobPhase → Bool
  | .readingLogs _ | .closing _ | .updatingStation _ _ | .creating _ _ | .committing _ _ => true
  | .start | .waiting _ | .readingStation _ | .changed | .failed _ | .inserting _ _ | .inserted
  | .unneeded => false

/-- The entries that the transaction has closed, once it has looked for the open ones for the last
time. -/
def closed? : JobPhase → Option (List Uuid)
  | .updatingStation _ closed | .creating _ closed | .committing _ closed => some closed
  | .start | .waiting _ | .readingStation _ | .readingLogs _ | .closing _ | .changed | .failed _
  | .inserting _ _ | .inserted | .unneeded => none

/-- The new job of a transaction that is about to commit. -/
def committing? : JobPhase → Option (Option FoundJob)
  | .committing job _ => some job
  | .start | .waiting _ | .readingStation _ | .readingLogs _ | .closing _ | .updatingStation _ _
  | .creating _ _ | .changed | .failed _ | .inserting _ _ | .inserted | .unneeded => none

/-- The job of the entry that a tick is about to insert. -/
def inserting? : JobPhase → Option Uuid
  | .inserting jobId _ => some jobId
  | .start | .waiting _ | .readingStation _ | .readingLogs _ | .closing _ | .updatingStation _ _
  | .creating _ _ | .committing _ _ | .changed | .failed _ | .inserted | .unneeded => none

theorem holdsLock_of_closed {phase : JobPhase} {closed : List Uuid}
    (h : closed ∈ phase.closed?) : phase.holdsLock = true := by
  cases phase <;> first | rfl | cases h

theorem holdsLock_of_foundStation {phase : JobPhase} (h : phase.foundStation = true) :
    phase.holdsLock = true := by
  cases phase <;> first | rfl | cases h

end JobPhase

section

variable {ι : Type*} [DecidableEq ι] {jobs : List StationJob} {calls : ι → JobLogCall} {i : ι}
  {s s' : JobLogState ι}

/-- What a statement of the call `i` can do. -/
inductive JobLogStepped (jobs : List StationJob) (calls : ι → JobLogCall) (i : ι)
    (s : JobLogState ι) : JobLogState ι → Prop
  /-- Outside the transaction. -/
  | outside {phase : JobPhase} : phase.holdsLock = false → phase ≠ .changed → phase ≠ .inserted →
      (phase = .unneeded → s.needingLog jobs = none) → JobLogStepped jobs calls i s (s.goto i phase)
  | lock {job : Option FoundJob} : s.holder = none →
      JobLogStepped jobs calls i s { s.goto i (.readingStation job) with holder := some i }
  | leave {failure : JobLogFailure} : (s.phases i).holdsLock = true →
      JobLogStepped jobs calls i s (s.leave i failure)
  /-- Under the lock. -/
  | proceed {phase : JobPhase} : (s.phases i).holdsLock = true → phase.holdsLock = true →
      (s.station.isSome = true ∨ (s.phases i).foundStation = true) →
      (∀ closed ∈ phase.closed?,
        closed ∈ (s.phases i).closed? ∨ closed = s.openLogs.map JobLogEntry.id) →
      JobLogStepped jobs calls i s (s.goto i phase)
  | commit {job : Option FoundJob} {closed : List Uuid} {logId : Uuid}
      {logs : Table jobLogSchema} : s.phases i = .committing job closed →
      s.logsAfter (calls i).timestamp logId job closed = some logs →
      JobLogStepped jobs calls i s (s.commit i job logs)
  | insert {jobId jobBlobId logId : Uuid} {logs : Table jobLogSchema} :
      s.phases i = .inserting jobId jobBlobId →
      s.logs.insert ⟨⟨s.stationId, (calls i).timestamp, none, jobBlobId⟩, logId, jobId⟩
        = some logs →
      JobLogStepped jobs calls i s { s.goto i .inserted with logs := logs }

theorem jobLogStepped_of_step (h : JobLogState.step jobs calls i s = some s') :
    JobLogStepped jobs calls i s s' := by
  rw [JobLogState.step] at h
  split at h
  · split at h
    · cases h
      exact .outside rfl (by simp) (by simp) (by simp)
    · cases h
      exact .outside rfl (by simp) (by simp) (by simp)
  · split at h
    · rename_i hfree
      cases h
      exact .lock hfree
    · cases h
  · rename_i hphase _
    split at h
    · cases h
      exact .leave (by rw [hphase]; rfl)
    · rename_i station hstation
      split at h
      · cases h
        exact .leave (by rw [hphase]; rfl)
      · cases h
        exact .proceed (by rw [hphase]; rfl) rfl (.inl (by rw [hstation]; rfl)) (by
          simp [JobPhase.closed?])
  · rename_i hphase
    split at h
    · rename_i hnone
      cases h
      refine .proceed (by rw [hphase]; rfl) rfl (.inr (by rw [hphase]; rfl)) fun closed hclosed ↦ ?_
      rw [hnone, ← Option.some.inj hclosed]
      exact .inr rfl
    · cases h
      exact .proceed (by rw [hphase]; rfl) rfl (.inr (by rw [hphase]; rfl)) (by
        simp [JobPhase.closed?])
  · rename_i hphase
    cases h
    exact .proceed (by rw [hphase]; rfl) rfl (.inr (by rw [hphase]; rfl)) fun closed hclosed ↦
      .inr (Option.some.inj hclosed).symm
  · rename_i hphase
    cases h
    exact .proceed (by rw [hphase]; rfl) rfl (.inr (by rw [hphase]; rfl)) fun closed hclosed ↦
      .inl (by rw [hphase]; exact hclosed)
  · rename_i hphase
    cases h
    exact .proceed (by rw [hphase]; rfl) rfl (.inr (by rw [hphase]; rfl)) fun closed hclosed ↦
      .inl (by rw [hphase]; exact hclosed)
  · rename_i job closed _ _ timestamp logId hphase hcall
    obtain ⟨logs, hlogs, rfl⟩ := Option.map_eq_some_iff.mp h
    have hcommit : s.logsAfter (calls i).timestamp logId job closed = some logs := by
      rw [hcall]
      exact hlogs
    exact .commit hphase hcommit
  · split at h
    · rename_i hnone
      cases h
      exact .outside rfl (by simp) (by simp) fun _ ↦ hnone
    · cases h
      exact .outside rfl (by simp) (by simp) (by simp)
  · rename_i jobId jobBlobId now logId hphase hcall
    obtain ⟨logs, hlogs, rfl⟩ := Option.map_eq_some_iff.mp h
    have hinsert : s.logs.insert ⟨⟨s.stationId, (calls i).timestamp, none, jobBlobId⟩, logId, jobId⟩
        = some logs := by
      rw [hcall]
      exact hlogs
    exact .insert hphase hinsert
  · cases h

/-! ## Runs -/

/-- The condition on a step. A commit: the timestamp fits. An insert of the tick: its entry fits,
and no job change that has looked for the open entries is still under way. -/
def KeepsChain (calls : ι → JobLogCall) (s : JobLogState ι) (i : ι) : Prop :=
  (∀ job ∈ (s.phases i).committing?, FitsChange (calls i).timestamp job s.logs) ∧
    ∀ jobId ∈ (s.phases i).inserting?,
      FitsEntry s.currentJobId jobId (calls i).timestamp s.logs ∧
        ∀ j, (s.phases j).closed? = none

/-- The invariant: the log is a chain, one transaction has the lock, and the entries that it has
closed are the open ones still. -/
structure JobLogInv (s : JobLogState ι) : Prop where
  chain : JobLogChain s.currentJobId s.logs
  holder : ∀ i, (s.phases i).holdsLock = true → s.holder = some i
  station : ∀ i, (s.phases i).foundStation = true → s.station.isSome = true
  closed : ∀ i, ∀ closed ∈ (s.phases i).closed?, ∀ l ∈ s.logs.rows,
    l.endTime = none ↔ l.id ∈ closed

omit [DecidableEq ι] in
theorem endTime_eq_none_iff {l : JobLogEntry} (hl : l ∈ s.logs.rows) :
    l.endTime = none ↔ l.id ∈ s.openLogs.map JobLogEntry.id := by
  rw [List.mem_map]
  constructor
  · exact fun hopen ↦ ⟨l, List.mem_filter.mpr ⟨hl, Option.isNone_iff_eq_none.mpr hopen⟩, rfl⟩
  · rintro ⟨a, ha, hid⟩
    obtain ⟨ha, hopen⟩ := List.mem_filter.mp ha
    rw [← s.logs.eq_of_key_eq ha hl hid]
    exact Option.isNone_iff_eq_none.mp hopen

namespace JobLogState

@[simp] theorem phases_goto_self (phase : JobPhase) : (s.goto i phase).phases i = phase :=
  Function.update_self _ _ _

theorem phases_goto_of_ne {j : ι} (h : j ≠ i) (phase : JobPhase) :
    (s.goto i phase).phases j = s.phases j := Function.update_of_ne h _ _

end JobLogState

/-- A statement that changes neither the log nor the station. -/
theorem JobLogInv.goto (hs : JobLogInv s) {phase : JobPhase} (holder : Option ι)
    (hothers : ∀ j, j ≠ i → (s.phases j).holdsLock = true → holder = some j)
    (hlock : phase.holdsLock = true → holder = some i)
    (hstation : phase.foundStation = true → s.station.isSome = true)
    (hclosed : ∀ closed ∈ phase.closed?, ∀ l ∈ s.logs.rows, l.endTime = none ↔ l.id ∈ closed) :
    JobLogInv { s.goto i phase with holder := holder } where
  chain := hs.chain
  holder j hj := by
    by_cases hji : j = i
    · subst hji
      exact hlock (JobLogState.phases_goto_self (s := s) phase ▸ hj)
    · exact hothers j hji (JobLogState.phases_goto_of_ne hji phase ▸ hj)
  station j hj := by
    by_cases hji : j = i
    · subst hji
      exact hstation (JobLogState.phases_goto_self (s := s) phase ▸ hj)
    · exact hs.station j (JobLogState.phases_goto_of_ne hji phase ▸ hj)
  closed j closed hj := by
    by_cases hji : j = i
    · subst hji
      exact hclosed closed (JobLogState.phases_goto_self (s := s) phase ▸ hj)
    · exact hs.closed j closed (JobLogState.phases_goto_of_ne hji phase ▸ hj)

omit [DecidableEq ι] in
/-- While a transaction has the lock no other one is under it. -/
theorem JobLogInv.others (hs : JobLogInv s) (hi : (s.phases i).holdsLock = true) {j : ι}
    (hj : j ≠ i) : (s.phases j).holdsLock = false := by
  by_contra hlock
  rw [Bool.not_eq_false] at hlock
  exact hj (Option.some.inj ((hs.holder j hlock).symm.trans (hs.holder i hi)))

theorem JobLogInv.commit (hs : JobLogInv s) {job : Option FoundJob} {closed : List Uuid}
    {logId : Uuid} {logs : Table jobLogSchema} (hphase : s.phases i = .committing job closed)
    (hfits : FitsChange (calls i).timestamp job s.logs)
    (hlogs : s.logsAfter (calls i).timestamp logId job closed = some logs) :
    JobLogInv (s.commit i job logs) := by
  have hlock : (s.phases i).holdsLock = true := by
    rw [hphase]
    rfl
  -- nobody is under the lock any more
  have hnone : ∀ j, ((s.commit i job logs).phases j).holdsLock = false := by
    intro j
    by_cases hji : j = i
    · subst hji
      exact congrArg JobPhase.holdsLock (JobLogState.phases_goto_self (s := s) .changed)
    · exact (congrArg JobPhase.holdsLock (JobLogState.phases_goto_of_ne hji .changed)).trans
        (hs.others hlock hji)
  obtain ⟨station, hstation⟩ := Option.isSome_iff_exists.mp (hs.station i (by rw [hphase]; rfl))
  have hcurrent : (s.commit i job logs).currentJobId = job.map FoundJob.id := by
    rw [JobLogState.currentJobId, JobLogState.commit, hstation]
    rfl
  constructor
  · rw [hcurrent]
    exact (chain_commit_iff hs.chain (hs.closed i closed (by rw [hphase]; rfl)) hlogs).mpr hfits
  · intro j hj
    rw [hnone j] at hj
    cases hj
  · intro j hj
    have hj := JobPhase.holdsLock_of_foundStation hj
    rw [hnone j] at hj
    cases hj
  · intro j closed hj
    have hj := JobPhase.holdsLock_of_closed hj
    rw [hnone j] at hj
    cases hj

theorem JobLogInv.insert (hs : JobLogInv s) {jobId jobBlobId logId : Uuid}
    {logs : Table jobLogSchema} {startTime : Time}
    (hfits : FitsEntry s.currentJobId jobId startTime s.logs)
    (hclosed : ∀ j, (s.phases j).closed? = none)
    (hinsert : s.logs.insert ⟨⟨s.stationId, startTime, none, jobBlobId⟩, logId, jobId⟩
      = some logs) : JobLogInv { s.goto i .inserted with logs := logs } := by
  have hphase : ∀ j, (s.goto i .inserted).phases j = .inserted ∨
      (s.goto i .inserted).phases j = s.phases j := by
    intro j
    by_cases hji : j = i
    · subst hji
      exact .inl (JobLogState.phases_goto_self _)
    · exact .inr (JobLogState.phases_goto_of_ne hji _)
  constructor
  · exact (chain_insert_iff hs.chain.wellFormed hs.chain.apart hinsert hs.chain.open_job).mpr hfits
  · intro j hj
    change ((s.goto i .inserted).phases j).holdsLock = true at hj
    rcases hphase j with hdone | hsame
    · rw [hdone] at hj
      cases hj
    · exact hs.holder j (hsame ▸ hj)
  · intro j hj
    change ((s.goto i .inserted).phases j).foundStation = true at hj
    rcases hphase j with hdone | hsame
    · rw [hdone] at hj
      cases hj
    · exact hs.station j (hsame ▸ hj)
  · intro j closed hj
    change closed ∈ ((s.goto i .inserted).phases j).closed? at hj
    rcases hphase j with hdone | hsame
    · rw [hdone] at hj
      cases hj
    · rw [hsame, hclosed j] at hj
      cases hj

theorem JobLogInv.step (hs : JobLogInv s) (hok : KeepsChain calls s i)
    (h : JobLogState.step jobs calls i s = some s') : JobLogInv s' := by
  have hfalse : ∀ {phase : JobPhase} {p : Prop}, phase.holdsLock = false →
      phase.holdsLock = true → p := fun hno hyes ↦ nomatch hno.symm.trans hyes
  cases jobLogStepped_of_step h with
  | outside hlock =>
    exact hs.goto s.holder (fun j _ hj ↦ hs.holder j hj) (hfalse hlock)
      (fun hfound ↦ hfalse hlock (JobPhase.holdsLock_of_foundStation hfound))
      (fun closed hclosed ↦ hfalse hlock (JobPhase.holdsLock_of_closed hclosed))
  | lock hfree =>
    refine hs.goto (some i) (fun j _ hj ↦ ?_) (fun _ ↦ rfl) (fun hfound ↦ nomatch hfound)
      (fun closed hclosed ↦ nomatch hclosed)
    rw [hs.holder j hj] at hfree
    cases hfree
  | leave hlock =>
    exact hs.goto none (fun j hji hj ↦ hfalse (hs.others hlock hji) hj)
      (fun hfound ↦ nomatch hfound) (fun hfound ↦ nomatch hfound)
      (fun closed hclosed ↦ nomatch hclosed)
  | proceed hlock _ hstation hclosed =>
    refine hs.goto s.holder (fun j _ hj ↦ hs.holder j hj) (fun _ ↦ hs.holder i hlock)
      (fun _ ↦ hstation.elim id (hs.station i)) (fun closed hmem ↦ ?_)
    rcases hclosed closed hmem with hsame | rfl
    · exact hs.closed i closed hsame
    · exact fun l hl ↦ endTime_eq_none_iff hl
  | commit hphase hlogs => exact hs.commit hphase (hok.1 _ (by rw [hphase]; rfl)) hlogs
  | insert hphase hinsert =>
    obtain ⟨hfits, hclosed⟩ := hok.2 _ (by rw [hphase]; rfl)
    exact hs.insert hfits hclosed hinsert

/-! ## The open entry -/

/-- A station with a current job has an open entry. -/
def JobLogState.HasOpenLog {ι : Type*} (s : JobLogState ι) : Prop :=
  ∀ jobId, s.currentJobId = some jobId → ∃ l ∈ s.logs.rows, l.endTime = none

omit [DecidableEq ι] in
/-- Then the query of the tick finds nothing to do. -/
theorem JobLogState.HasOpenLog.needingLog_eq_none (h : s.HasOpenLog) :
    s.needingLog jobs = none := by
  rw [JobLogState.needingLog]
  cases hstation : s.station with
  | none => rfl
  | some station =>
    rw [Option.bind_some]
    split
    · rfl
    · cases hcurrent : station.currentJobId with
      | none => rfl
      | some jobId =>
        obtain ⟨l, hl, hopen⟩ := h jobId
          (by rw [JobLogState.currentJobId, hstation]; exact hcurrent)
        have hne : s.openLogs ≠ [] :=
          List.ne_nil_of_mem (List.mem_filter.mpr ⟨hl, Option.isNone_iff_eq_none.mpr hopen⟩)
        refine Option.bind_eq_none_iff.mpr fun jobId _ ↦ ?_
        refine Option.bind_eq_none_iff.mpr fun job _ ↦ Option.bind_eq_none_iff.mpr fun blob _ ↦ ?_
        exact if_neg hne

omit [DecidableEq ι] in
theorem exists_open_of_insert {logs logs' : Table jobLogSchema} {l : JobLogEntry}
    (hopen : l.endTime = none) (h : logs.insert l = some logs') :
    ∃ l ∈ logs'.rows, l.endTime = none :=
  ⟨l, Table.rows_of_insert h ▸ List.mem_append_right _ (List.mem_singleton.mpr rfl), hopen⟩

theorem hasOpenLog_commit {job : Option FoundJob} {closed : List Uuid} {timestamp : Time}
    {logId : Uuid} {logs : Table jobLogSchema}
    (hlogs : s.logsAfter timestamp logId job closed = some logs) :
    (s.commit i job logs).HasOpenLog := by
  intro jobId hcurrent
  unfold JobLogState.logsAfter at hlogs
  cases job with
  | none =>
    obtain ⟨station, hstation, hjob⟩ := Option.bind_eq_some_iff.mp hcurrent
    obtain ⟨old, -, rfl⟩ := Option.map_eq_some_iff.mp hstation
    cases hjob
  | some job => exact exists_open_of_insert rfl hlogs

/-- What is so of the open entry after a statement. -/
theorem open_of_step (h : JobLogState.step jobs calls i s = some s') :
    s'.HasOpenLog ∨ (s'.currentJobId = s.currentJobId ∧ s'.logs = s.logs ∧
      s'.needingLog jobs = s.needingLog jobs ∧
      ∀ j, (s'.phases j = .changed → s.phases j = .changed) ∧
        (s'.phases j = .inserted → s.phases j = .inserted) ∧
        (s'.phases j = .unneeded → s.phases j = .unneeded ∨ s.needingLog jobs = none)) := by
  -- a statement that changes neither the log nor the station
  have hgoto : ∀ {phase : JobPhase}, phase ≠ .changed → phase ≠ .inserted →
      (phase = .unneeded → s.needingLog jobs = none) →
      ∀ j, ((s.goto i phase).phases j = .changed → s.phases j = .changed) ∧
        ((s.goto i phase).phases j = .inserted → s.phases j = .inserted) ∧
        ((s.goto i phase).phases j = .unneeded →
          s.phases j = .unneeded ∨ s.needingLog jobs = none) := by
    intro phase hchanged hinserted hunneeded j
    by_cases hji : j = i
    · subst hji
      rw [JobLogState.phases_goto_self]
      exact ⟨fun h ↦ absurd h hchanged, fun h ↦ absurd h hinserted, fun h ↦ .inr (hunneeded h)⟩
    · rw [JobLogState.phases_goto_of_ne hji]
      exact ⟨id, id, .inl⟩
  cases jobLogStepped_of_step h with
  | outside _ hchanged hinserted hunneeded =>
    exact .inr ⟨rfl, rfl, rfl, hgoto hchanged hinserted hunneeded⟩
  | lock _ => exact .inr ⟨rfl, rfl, rfl, hgoto (by simp) (by simp) (by simp)⟩
  | leave _ => exact .inr ⟨rfl, rfl, rfl, hgoto (by simp) (by simp) (by simp)⟩
  | proceed _ hlock =>
    refine .inr ⟨rfl, rfl, rfl, hgoto ?_ ?_ ?_⟩
    all_goals
      rintro rfl
      cases hlock
  | commit _ hlogs => exact .inl (hasOpenLog_commit hlogs)
  | insert _ hinsert => exact .inl fun _ _ ↦ exists_open_of_insert rfl hinsert

/-- Before any of the calls, with a log that is a chain. -/
structure JobLogStart (s : JobLogState ι) : Prop where
  chain : JobLogChain s.currentJobId s.logs
  holder : s.holder = none
  phases : ∀ i, s.phases i = .start

omit [DecidableEq ι] in
theorem JobLogStart.inv (h : JobLogStart s) : JobLogInv s where
  chain := h.chain
  holder i hi := by
    rw [h.phases i] at hi
    cases hi
  station i hi := by
    rw [h.phases i] at hi
    cases hi
  closed i closed hi := by
    rw [h.phases i] at hi
    cases hi

/-- The open entry in every run: one that was there stays until the next, and where a job has been
changed or an entry been inserted there is one; where a tick has found nothing to do there still is
nothing to do. -/
theorem open_of_run {ok : JobLogState ι → ι → Prop} {s₀ : JobLogState ι} {steps : List ι}
    (h₀ : JobLogStart s₀) (hrun : Run (JobLogState.step jobs calls) ok s₀ steps s) :
    (s₀.HasOpenLog ∨ (∃ i, s.phases i = .changed ∨ s.phases i = .inserted) → s.HasOpenLog) ∧
      ((∃ i, s.phases i = .unneeded) → s.needingLog jobs = none) := by
  induction hrun with
  | nil =>
    refine ⟨fun hor ↦ hor.resolve_right ?_, ?_⟩
    · rintro ⟨i, hi | hi⟩
      · cases (h₀.phases i).symm.trans hi
      · cases (h₀.phases i).symm.trans hi
    · rintro ⟨i, hi⟩
      cases (h₀.phases i).symm.trans hi
  | @snoc _ s i s' _ _ hstep ih =>
    obtain ⟨hopen, hneed⟩ := ih
    rcases open_of_step hstep with hnow | ⟨hcurrent, hlogs, hquery, hphases⟩
    · exact ⟨fun _ ↦ hnow, fun _ ↦ hnow.needingLog_eq_none⟩
    · constructor
      · intro hor jobId hjob
        rw [hlogs]
        refine hopen (hor.imp_right ?_) jobId (hcurrent ▸ hjob)
        rintro ⟨j, hj | hj⟩
        · exact ⟨j, .inl ((hphases j).1 hj)⟩
        · exact ⟨j, .inr ((hphases j).2.1 hj)⟩
      · rintro ⟨j, hj⟩
        rw [hquery]
        rcases (hphases j).2.2 hj with hsame | hnone
        · exact hneed ⟨j, hsame⟩
        · exact hnone

omit [DecidableEq ι] in
/-- A chain has one open entry at most. -/
theorem JobLogChain.length_open_le {currentJobId : Option Uuid} {logs : Table jobLogSchema}
    (h : JobLogChain currentJobId logs) :
    (logs.rows.filter fun l ↦ l.endTime.isNone).length ≤ 1 := by
  have hpair := h.apart.filter fun l ↦ l.endTime.isNone
  generalize hopen : logs.rows.filter (fun l ↦ l.endTime.isNone) = opened at hpair
  cases opened with
  | nil => exact Nat.zero_le 1
  | cons a rest =>
    cases rest with
    | nil => exact le_rfl
    | cons b rest =>
      have hnone : ∀ l ∈ a :: b :: rest, l.endTime = none := fun l hl ↦ by
        rw [← hopen] at hl
        exact Option.isNone_iff_eq_none.mp (List.mem_filter.mp hl).2
      refine absurd ((List.pairwise_cons.mp hpair).1 b List.mem_cons_self) ?_
      exact Span.not_apart_of_open (hnone a List.mem_cons_self)
        (hnone b (List.mem_cons_of_mem _ List.mem_cons_self))

/-- **The job log stays a chain** in every interleaving of job changes and ticks whose commits and
inserts meet the condition: its entries do not end before they start, no two of them overlap, one at
most is open, and an open one is for the current job. It is there if the station has a current job,
provided that there was one in the beginning, or that a job has been changed or an entry inserted;
and where a tick has found nothing to do, its query would still find nothing. -/
theorem jobLog_stays_chain {s₀ : JobLogState ι} {steps : List ι} (h₀ : JobLogStart s₀)
    (hrun : Run (JobLogState.step jobs calls) (KeepsChain calls) s₀ steps s) :
    ((∀ l ∈ s.logs.rows, ∀ e ∈ l.endTime, l.startTime ≤ e) ∧
      s.logs.rows.Pairwise (fun a b ↦ a.span.Apart b.span) ∧
      (s.logs.rows.filter fun l ↦ l.endTime.isNone).length ≤ 1 ∧
      ∀ l ∈ s.logs.rows, l.endTime = none → s.currentJobId = some l.jobId) ∧
    (s₀.HasOpenLog ∨ (∃ i, s.phases i = .changed ∨ s.phases i = .inserted) → s.HasOpenLog) ∧
    ((∃ i, s.phases i = .unneeded) → s.needingLog jobs = none) := by
  have hinv : JobLogInv s := by
    induction hrun with
    | nil => exact h₀.inv
    | snoc _ hok hstep ih => exact ih.step hok hstep
  have hchain := hinv.chain
  exact ⟨⟨hchain.wellFormed, hchain.apart, hchain.length_open_le, hchain.open_job⟩,
    open_of_run h₀ hrun⟩

end

/-! ## A tick and a job change -/

def twoJobs : List StationJob := [⟨7, 1, none, some 70⟩, ⟨8, 1, none, some 80⟩]

/-- The tick, and a user who changes the job. -/
def tickAndChange : Bool → JobLogCall
  | false => .ensureTick 20 101
  | true => changeJob (some 8) 25 102

/-- The station has a current job, whose entry has ended. -/
def endedJobLog : JobLogState Bool where
  stationId := 2
  station := some ⟨1, none, some 7⟩
  logs := (Table.empty jobLogSchema).insertMissing ⟨⟨2, 0, some 10, 70⟩, 100, 7⟩
  holder := none
  phases _ := .start

theorem start_endedJobLog : JobLogStart endedJobLog where
  chain := by
    have hrows : endedJobLog.logs.rows = [⟨⟨2, 0, some 10, 70⟩, 100, 7⟩] := by decide
    constructor
    · rw [hrows, List.forall_mem_singleton]
      intro e he
      rw [← Option.some.inj he]
      decide
    · rw [hrows]
      exact List.pairwise_singleton _ _
    · rw [hrows, List.forall_mem_singleton]
      exact fun hnone ↦ nomatch hnone
  holder := rfl
  phases _ := rfl

instance decidableFitsChange (timestamp : Time) (job : Option FoundJob)
    (logs : Table jobLogSchema) : Decidable (FitsChange timestamp job logs) :=
  inferInstanceAs (Decidable (∀ l ∈ logs.rows, _ ∧ _))

instance decidableFitsEntry (currentJobId : Option Uuid) (jobId : Uuid) (startTime : Time)
    (logs : Table jobLogSchema) : Decidable (FitsEntry currentJobId jobId startTime logs) :=
  inferInstanceAs (Decidable (_ ∧ ∀ l ∈ logs.rows, _))

instance decidableKeepsChain {ι : Type*} [Fintype ι] (calls : ι → JobLogCall) (s : JobLogState ι)
    (i : ι) : Decidable (KeepsChain calls s i) :=
  inferInstanceAs (Decidable ((∀ job ∈ (s.phases i).committing?, _) ∧
    ∀ jobId ∈ (s.phases i).inserting?, _ ∧ _))

/-- The tick inserts the missing entry, and the job change closes it. -/
theorem jobLog_stays_chain_reconciled : ∃ s : JobLogState Bool,
    ((s.logs.rows.map fun l ↦ (l.jobId, l.startTime, l.endTime))
        = [(7, 0, some 10), (7, 20, some 25), (8, 25, none)]) ∧
    ((∀ l ∈ s.logs.rows, ∀ e ∈ l.endTime, l.startTime ≤ e) ∧
      s.logs.rows.Pairwise (fun a b ↦ a.span.Apart b.span) ∧
      (s.logs.rows.filter fun l ↦ l.endTime.isNone).length ≤ 1 ∧
      ∀ l ∈ s.logs.rows, l.endTime = none → s.currentJobId = some l.jobId) ∧
    (endedJobLog.HasOpenLog ∨ (∃ i, s.phases i = .changed ∨ s.phases i = .inserted) →
      s.HasOpenLog) ∧
    ((∃ i, s.phases i = .unneeded) → s.needingLog twoJobs = none) := by
  have hrun : (execute (JobLogState.step twoJobs tickAndChange) (KeepsChain tickAndChange)
      ([false, false] ++ List.replicate 8 true) endedJobLog).any (fun s ↦
        decide ((s.logs.rows.map fun l ↦ (l.jobId, l.startTime, l.endTime))
          = [(7, 0, some 10), (7, 20, some 25), (8, 25, none)])) = true := by
    decide +kernel
  obtain ⟨s, hs, hrows⟩ := (Option.any_eq_true _ _).mp hrun
  exact ⟨s, of_decide_eq_true hrows, jobLog_stays_chain start_endedJobLog (run_of_execute hs)⟩

/-- **An entry that comes late.** The tick finds that the entry of the current job is missing; the
job is changed before the tick inserts it. Both calls have ended, and two entries are open, one of
them for a job that is not the current one. -/
theorem not_jobLog_stays_chain : ∃ s : JobLogState Bool,
    Run (JobLogState.step twoJobs tickAndChange) (fun _ _ ↦ True) endedJobLog
        ([false] ++ List.replicate 7 true ++ [false]) s ∧
      s.phases false = .inserted ∧ s.phases true = .changed ∧ s.currentJobId = some 8 ∧
      ((s.logs.rows.filter fun l ↦ l.endTime.isNone).map fun l ↦ (l.jobId, l.startTime))
        = [(8, 25), (7, 20)] := by
  have hrun : (execute (JobLogState.step twoJobs tickAndChange) (fun _ _ ↦ True)
      ([false] ++ List.replicate 7 true ++ [false]) endedJobLog).any (fun s ↦
        decide (s.phases false = .inserted ∧ s.phases true = .changed ∧ s.currentJobId = some 8 ∧
          ((s.logs.rows.filter fun l ↦ l.endTime.isNone).map fun l ↦ (l.jobId, l.startTime))
            = [(8, 25), (7, 20)])) = true := by
    decide +kernel
  obtain ⟨s, hs, hfacts⟩ := (Option.any_eq_true _ _).mp hrun
  exact ⟨s, run_of_execute hs, of_decide_eq_true hfacts⟩

end RwServer
