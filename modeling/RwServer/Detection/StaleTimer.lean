import RwServer.Cycle.Intervals
import RwServer.Detection.Schedule

/-!
# Stale down timers

Immediate completions of one station run with the worker of its down timer. A completion waits for
the station's lock with the snapshot of its first statement, prepares its detection under the lock,
commits, and enqueues what it has prepared after that. The worker reads the clock when it takes a
timer, waits for the lock, and runs `transitionToDown`, which looks neither at the age of the entry
that it finds open nor at the time the timer was added for.

A timer that was added for an earlier cycle can therefore meet the entry of a later one: it fires
before that cycle's call has removed it, or while its transaction holds the lock, or it holds the id
that the add of the later call wanted. In every run in which the worker never meets an open `UP`
entry with such a timer, an entry is turned to `DOWN` only once the `downStartAfter` of the last
committed cycle, and of every earlier one, has come (`downStartAfter_le_of_ownTimer`).
-/

namespace RwServer

open Relational ReadCommitted Transition

/-! ## The system -/

/-- A station and the thresholds of its detection, which do not change. -/
structure DetectionConfig where
  stationId : Uuid
  blob : Option StationBlob
  standardCycle : Option ℚ

/-- What a cycle prepares that reads the clock at `now`. -/
def DetectionConfig.prepare (config : DetectionConfig) (now : Time) : PreparedDetection :=
  prepareDetection config.blob config.standardCycle config.stationId now

/-- How far the completion of a cycle has come. -/
inductive CompletionState
  | idle
  /-- It waits for the lock with the snapshot of its first statement. -/
  | waiting (prevEnd : Option Time) (row : Option StationStateLog)
  | locked (prevEnd : Option Time) (row : Option StationStateLog)
  /-- `prepareDetection` has read the clock at `preparedAt`. -/
  | prepared (prevEnd : Option Time) (row : Option StationStateLog) (preparedAt : Time)
  /-- It is committed, and its detection is being enqueued. -/
  | enqueueing (preparedAt : Time) (call : CallState)
  | rolledBack

/-- Who holds the lock of the station. -/
inductive LockHolder (ι : Type)
  | cycle (i : ι)
  | downWorker
deriving DecidableEq

/-- How far the worker of the down queue has come with the timer that it has taken. -/
inductive DownWorker
  | idle
  | waiting (timestamp : Time)
  | locked (timestamp : Time)
  | done

structure DetectionSystem (ι : Type) where
  now : Time
  /-- The committed database. -/
  db : Database
  holder : Option (LockHolder ι)
  queues : DetectionQueues ι
  cycles : ι → CompletionState
  worker : DownWorker
  /-- The committed cycles in their order, each with the time at which it prepared. -/
  committed : List (ι × Time)

inductive DetectionMove (ι : Type)
  | begin (i : ι)
  | lock (i : ι)
  | prepare (i : ι)
  | commit (i : ι)
  | rollback (i : ι)
  | enqueue (i : ι) (m : CallMove)
  | fire
  | lockDown
  | transitionToDown (id freshBlockId : Uuid)
  | failDown
  | finish
  | tick (now : Time)
deriving DecidableEq, Repr

namespace DetectionSystem

variable {ι : Type} [DecidableEq ι]

def setCycle (y : DetectionSystem ι) (i : ι) (s : CompletionState) : DetectionSystem ι :=
  { y with cycles := Function.update y.cycles i s }

/-- No cycle has begun, and no timer is queued. -/
def start (now : Time) (db : Database) : DetectionSystem ι :=
  ⟨now, db, none, ⟨.empty, .empty⟩, fun _ ↦ .idle, .idle, []⟩

/-- One move. The writes of a transaction become visible with its commit, and since every writer of
the state log holds the lock, they are what the rest of the transaction does alone. -/
def step (config : DetectionConfig) (args : ι → StrategyArgs) :
    DetectionMove ι → DetectionSystem ι → Option (DetectionSystem ι)
  | .begin i, y =>
    match y.cycles i with
    | .idle => some (y.setCycle i (.waiting (prevCycleEnd y.db config.stationId)
        (findOpenStateEntry y.db.stateLog config.stationId)))
    | _ => none
  | .lock i, y =>
    match y.cycles i, y.holder with
    | .waiting prevEnd row, none =>
      some { y.setCycle i (.locked prevEnd row) with holder := some (.cycle i) }
    | _, _ => none
  | .prepare i, y =>
    match y.cycles i with
    | .locked prevEnd row => some (y.setCycle i (.prepared prevEnd row y.now))
    | _ => none
  | .commit i, y =>
    match y.cycles i with
    | .prepared prevEnd row preparedAt =>
      ((Tx.immediateLocked { args i with stationId := config.stationId } prevEnd row).alone store
        y.db).map fun r ↦
        { y.setCycle i (.enqueueing preparedAt .idle) with
          db := r.1, holder := none, committed := y.committed ++ [(i, preparedAt)] }
    | _ => none
  | .rollback i, y =>
    match y.cycles i with
    | .waiting _ _ => some (y.setCycle i .rolledBack)
    | .locked _ _ | .prepared _ _ _ => some { y.setCycle i .rolledBack with holder := none }
    | _ => none
  | .enqueue i m, y =>
    match y.cycles i with
    | .enqueueing preparedAt call =>
      (m.apply (config.prepare preparedAt) i y.now y.queues call).map fun r ↦
        { y.setCycle i (.enqueueing preparedAt r.1) with queues := r.2 }
    | _ => none
  | .fire, y =>
    match y.worker with
    | .idle => (y.queues.down.fire config.stationId y.now).map fun q ↦
      { y with queues := { y.queues with down := q }, worker := .waiting y.now }
    | _ => none
  | .lockDown, y =>
    match y.worker, y.holder with
    | .waiting timestamp, none =>
      some { y with worker := .locked timestamp, holder := some .downWorker }
    | _, _ => none
  | .transitionToDown id freshBlockId, y =>
    match y.worker with
    | .locked timestamp =>
      (RwServer.transitionToDown y.db.stateLog y.db.jobLog id freshBlockId config.stationId
        timestamp).map fun r ↦
        { y with db := y.db.setStateLog r.1, worker := .done, holder := none }
    | _ => none
  | .failDown, y =>
    match y.worker with
    | .waiting _ => some { y with worker := .done }
    | .locked _ => some { y with worker := .done, holder := none }
    | _ => none
  | .finish, y =>
    match y.worker with
    | .done => (y.queues.down.finish config.stationId).map fun q ↦
      { y with queues := { y.queues with down := q }, worker := .idle }
    | _ => none
  | .tick now, y => if y.now ≤ now then some { y with now } else none

variable {y y' : DetectionSystem ι} {config : DetectionConfig} {args : ι → StrategyArgs}
  {i j : ι}

@[simp] theorem setCycle_cycles_self (s : CompletionState) : (y.setCycle i s).cycles i = s :=
  Function.update_self _ _ _

theorem setCycle_cycles_of_ne (h : j ≠ i) (s : CompletionState) :
    (y.setCycle i s).cycles j = y.cycles j :=
  Function.update_of_ne h _ _

/-- What a move does to everything but the database. -/
inductive Moved (config : DetectionConfig) (y : DetectionSystem ι) :
    DetectionMove ι → DetectionSystem ι → Prop
  | begin {i : ι} {prevEnd : Option Time} {row : Option StationStateLog} :
      y.cycles i = .idle → Moved config y (.begin i) (y.setCycle i (.waiting prevEnd row))
  | lock {i : ι} {prevEnd : Option Time} {row : Option StationStateLog} :
      y.cycles i = .waiting prevEnd row → y.holder = none →
      Moved config y (.lock i)
        { y.setCycle i (.locked prevEnd row) with holder := some (.cycle i) }
  | prepare {i : ι} {prevEnd : Option Time} {row : Option StationStateLog} :
      y.cycles i = .locked prevEnd row →
      Moved config y (.prepare i) (y.setCycle i (.prepared prevEnd row y.now))
  | commit {i : ι} {prevEnd : Option Time} {row : Option StationStateLog} {preparedAt : Time}
      {db : Database} : y.cycles i = .prepared prevEnd row preparedAt →
      Moved config y (.commit i) { y.setCycle i (.enqueueing preparedAt .idle) with
        db, holder := none, committed := y.committed ++ [(i, preparedAt)] }
  | leave {i : ι} {prevEnd : Option Time} {row : Option StationStateLog} :
      y.cycles i = .waiting prevEnd row → Moved config y (.rollback i) (y.setCycle i .rolledBack)
  | rollback {i : ι} {prevEnd : Option Time} {row : Option StationStateLog} :
      (y.cycles i = .locked prevEnd row ∨
        ∃ preparedAt, y.cycles i = .prepared prevEnd row preparedAt) →
      Moved config y (.rollback i) { y.setCycle i .rolledBack with holder := none }
  | enqueue {i : ι} {m : CallMove} {preparedAt : Time} {call call' : CallState}
      {queues : DetectionQueues ι} : y.cycles i = .enqueueing preparedAt call →
      Called (config.prepare preparedAt) i y.now y.queues m call call' queues →
      Moved config y (.enqueue i m) { y.setCycle i (.enqueueing preparedAt call') with queues }
  | fire {q : DelayQueue Uuid Time (DetectionJob ι)} : y.worker = .idle →
      y.queues.down.fire config.stationId y.now = some q →
      Moved config y .fire
        { y with queues := { y.queues with down := q }, worker := .waiting y.now }
  | lockDown {timestamp : Time} : y.worker = .waiting timestamp → y.holder = none →
      Moved config y .lockDown
        { y with worker := .locked timestamp, holder := some .downWorker }
  | transitionToDown {id freshBlockId : Uuid} {timestamp : Time} {db : Database} :
      y.worker = .locked timestamp →
      Moved config y (.transitionToDown id freshBlockId)
        { y with db, worker := .done, holder := none }
  | giveUp {timestamp : Time} : y.worker = .waiting timestamp →
      Moved config y .failDown { y with worker := .done }
  | failDown {timestamp : Time} : y.worker = .locked timestamp →
      Moved config y .failDown { y with worker := .done, holder := none }
  | finish {q : DelayQueue Uuid Time (DetectionJob ι)} : y.worker = .done →
      y.queues.down.finish config.stationId = some q →
      Moved config y .finish { y with queues := { y.queues with down := q }, worker := .idle }
  | tick {now : Time} : y.now ≤ now → Moved config y (.tick now) { y with now }

theorem step_cases {m : DetectionMove ι} (h : step config args m y = some y') :
    Moved config y m y' := by
  rw [step.eq_def] at h
  cases m with
  | begin i =>
    dsimp only at h
    split at h
    · cases h
      exact .begin ‹_›
    · cases h
  | lock i =>
    dsimp only at h
    split at h
    · cases h
      exact .lock ‹_› ‹_›
    · cases h
  | prepare i =>
    dsimp only at h
    split at h
    · cases h
      exact .prepare ‹_›
    · cases h
  | commit i =>
    dsimp only at h
    split at h
    · obtain ⟨r, -, rfl⟩ := Option.map_eq_some_iff.mp h
      exact .commit ‹_›
    · cases h
  | rollback i =>
    dsimp only at h
    split at h
    · cases h
      exact .leave ‹_›
    · cases h
      exact .rollback (.inl ‹_›)
    · cases h
      exact .rollback (.inr ⟨_, ‹_›⟩)
    · cases h
  | enqueue i m =>
    dsimp only at h
    split at h
    · obtain ⟨r, hcall, rfl⟩ := Option.map_eq_some_iff.mp h
      exact .enqueue ‹_› (call_cases hcall)
    · cases h
  | fire =>
    dsimp only at h
    split at h
    · obtain ⟨q, hfire, rfl⟩ := Option.map_eq_some_iff.mp h
      exact .fire ‹_› hfire
    · cases h
  | lockDown =>
    dsimp only at h
    split at h
    · cases h
      exact .lockDown ‹_› ‹_›
    · cases h
  | transitionToDown id freshBlockId =>
    dsimp only at h
    split at h
    · obtain ⟨r, -, rfl⟩ := Option.map_eq_some_iff.mp h
      exact .transitionToDown ‹_›
    · cases h
  | failDown =>
    dsimp only at h
    split at h
    · cases h
      exact .giveUp ‹_›
    · cases h
      exact .failDown ‹_›
    · cases h
  | finish =>
    dsimp only at h
    split at h
    · obtain ⟨q, hfinish, rfl⟩ := Option.map_eq_some_iff.mp h
      exact .finish ‹_› hfinish
    · cases h
  | tick now =>
    dsimp only at h
    split at h
    · cases h
      exact .tick ‹_›
    · cases h

/-! ## The completions and the lock -/

/-- What is known of a completion: it works under the lock, it prepares after every committed cycle,
and it is committed once, before it enqueues. -/
def CompletionOk (holder : Option (LockHolder ι)) (committed : List (ι × Time)) (now : Time)
    (i : ι) : CompletionState → Prop
  | .locked _ _ => holder = some (.cycle i) ∧ ∀ c ∈ committed, c.1 ≠ i
  | .prepared _ _ preparedAt => holder = some (.cycle i) ∧ preparedAt ≤ now ∧
    ∀ c ∈ committed, c.1 ≠ i ∧ c.2 ≤ preparedAt
  | .enqueueing preparedAt call => call.ReadBy now ∧ (i, preparedAt) ∈ committed ∧
    ∀ c ∈ committed, c.1 = i → c.2 = preparedAt
  | _ => ∀ c ∈ committed, c.1 ≠ i

section

variable {holder holder' : Option (LockHolder ι)} {committed : List (ι × Time)} {now now' : Time}
  {s : CompletionState}

omit [DecidableEq ι] in
/-- The lock moves between others, and time goes on. -/
theorem CompletionOk.mono (h : CompletionOk holder committed now i s)
    (hholder : holder = some (.cycle i) → holder' = some (.cycle i)) (hnow : now ≤ now') :
    CompletionOk holder' committed now' i s := by
  cases s with
  | locked => exact ⟨hholder h.1, h.2⟩
  | prepared => exact ⟨hholder h.1, h.2.1.trans hnow, h.2.2⟩
  | enqueueing => exact ⟨h.1.mono hnow, h.2⟩
  | _ => exact h

omit [DecidableEq ι] in
/-- Another cycle is committed, by the holder of the lock. -/
theorem CompletionOk.append (h : CompletionOk (some (.cycle j)) committed now i s) (hne : j ≠ i)
    (t : Time) : CompletionOk holder' (committed ++ [(j, t)]) now i s := by
  have hold : ∀ {P : ι × Time → Prop}, (∀ c ∈ committed, P c) → P (j, t) →
      ∀ c ∈ committed ++ [(j, t)], P c := by
    intro P hall hlast c hc
    rcases List.mem_append.mp hc with hc | hc
    · exact hall c hc
    · rwa [List.mem_singleton.mp hc]
  cases s with
  | locked => exact absurd h.1 (by simpa using hne)
  | prepared => exact absurd h.1 (by simpa using hne)
  | enqueueing => exact ⟨h.1, List.mem_append_left _ h.2.1, hold h.2.2 fun hji ↦ absurd hji hne⟩
  | _ => exact hold h hne

end

/-- The completions, the lock and the committed cycles fit together. -/
structure CyclesOk (y : DetectionSystem ι) : Prop where
  each : ∀ i, CompletionOk y.holder y.committed y.now i (y.cycles i)
  sorted : y.committed.Pairwise (·.2 ≤ ·.2)
  past : ∀ c ∈ y.committed, c.2 ≤ y.now
  lockedWorker : ∀ {timestamp}, y.worker = .locked timestamp → y.holder = some .downWorker

/-- A step of one completion that commits nothing. -/
theorem CyclesOk.setCycle (h : CyclesOk y) {s : CompletionState}
    {holder : Option (LockHolder ι)} (hs : CompletionOk holder y.committed y.now i s)
    (hothers : ∀ j, j ≠ i → y.holder = some (.cycle j) → holder = some (.cycle j))
    (hworker : y.holder = some .downWorker → holder = some .downWorker) :
    CyclesOk { y.setCycle i s with holder } where
  each j := by
    by_cases hji : j = i
    · subst hji
      exact (setCycle_cycles_self (y := y) s).symm ▸ hs
    · exact (setCycle_cycles_of_ne (y := y) hji s).symm ▸ (h.each j).mono (hothers j hji) le_rfl
  sorted := h.sorted
  past := h.past
  lockedWorker hw := hworker (h.lockedWorker hw)

omit [DecidableEq ι] in
/-- A step of the worker, or of the clock. -/
theorem CyclesOk.frame (h : CyclesOk y) {now : Time} {db : Database}
    {holder : Option (LockHolder ι)} {queues : DetectionQueues ι} {worker : DownWorker}
    (hnow : y.now ≤ now) (hothers : ∀ j, y.holder = some (.cycle j) → holder = some (.cycle j))
    (hworker : ∀ {timestamp}, worker = .locked timestamp → holder = some .downWorker) :
    CyclesOk { y with now, db, holder, queues, worker } where
  each j := (h.each j).mono (hothers j) hnow
  sorted := h.sorted
  past c hc := (h.past c hc).trans hnow
  lockedWorker := hworker

theorem CyclesOk.moved {m : DetectionMove ι} (h : CyclesOk y) (hmoved : Moved config y m y') :
    CyclesOk y' := by
  cases hmoved with
  | @begin i _ _ hi =>
    have hfree := h.each i
    rw [hi] at hfree
    exact h.setCycle hfree (fun _ _ hj ↦ hj) id
  | @lock i _ _ hi hnone =>
    have hfree := h.each i
    rw [hi] at hfree
    exact h.setCycle ⟨rfl, hfree⟩ (fun j _ hj ↦ absurd (hnone.symm.trans hj) (by simp))
      fun hw ↦ absurd (hnone.symm.trans hw) (by simp)
  | @prepare i _ _ hi =>
    have hlocked := h.each i
    rw [hi] at hlocked
    exact h.setCycle
      ⟨hlocked.1, le_rfl, fun c hc ↦ ⟨hlocked.2 c hc, h.past c hc⟩⟩ (fun _ _ hj ↦ hj) id
  | @commit i _ _ preparedAt _ hi =>
    obtain ⟨hhold, hpast, hold⟩ : CompletionOk _ _ _ i (.prepared _ _ preparedAt) := hi ▸ h.each i
    refine ⟨fun j ↦ ?_, ?_, fun c hc ↦ ?_, fun hw ↦ ?_⟩
    · by_cases hji : j = i
      · subst hji
        refine (setCycle_cycles_self (y := y) _).symm ▸ ⟨trivial, List.mem_append_right _
          (List.mem_singleton_self _), fun c hc hci ↦ ?_⟩
        rcases List.mem_append.mp hc with hc | hc
        · exact absurd hci (hold c hc).1
        · rw [List.mem_singleton.mp hc]
      · exact (setCycle_cycles_of_ne (y := y) hji _).symm ▸
          (hhold ▸ h.each j : CompletionOk (some (.cycle i)) _ _ j _).append (Ne.symm hji) _
    · exact List.pairwise_append.mpr ⟨h.sorted, List.pairwise_singleton _ _, fun c hc c' hc' ↦
        List.mem_singleton.mp hc' ▸ (hold c hc).2⟩
    · rcases List.mem_append.mp hc with hc | hc
      · exact h.past c hc
      · rw [List.mem_singleton.mp hc]
        exact hpast
    · exact absurd ((h.lockedWorker hw).symm.trans hhold) (by simp)
  | @leave i _ _ hi =>
    have hfree := h.each i
    rw [hi] at hfree
    exact h.setCycle hfree (fun _ _ hj ↦ hj) id
  | @rollback i prevEnd row hi =>
    obtain ⟨hhold, hfree⟩ : y.holder = some (.cycle i) ∧ ∀ c ∈ y.committed, c.1 ≠ i := by
      have hboth := h.each i
      rcases hi with hi | ⟨preparedAt, hi⟩
      · rw [hi] at hboth
        exact hboth
      · rw [hi] at hboth
        exact ⟨hboth.1, fun c hc ↦ (hboth.2.2 c hc).1⟩
    refine h.setCycle hfree (fun j hji hj ↦ ?_) fun hw ↦ ?_
    · exact absurd (hhold.symm.trans hj) (by simpa using Ne.symm hji)
    · exact absurd (hhold.symm.trans hw) (by simp)
  | @enqueue i _ preparedAt call call' queues hi hcalled =>
    obtain ⟨hread, hmem, huniq⟩ : CompletionOk _ _ _ i (.enqueueing preparedAt call) :=
      hi ▸ h.each i
    have hs : CompletionOk y.holder y.committed y.now i (.enqueueing preparedAt call') :=
      ⟨hcalled.readBy hread, hmem, huniq⟩
    exact (h.setCycle hs (fun _ _ hj ↦ hj) id).frame le_rfl (fun _ hj ↦ hj) h.lockedWorker
  | fire => exact h.frame le_rfl (fun _ hj ↦ hj) fun hw ↦ by cases hw
  | lockDown _ hnone =>
    exact h.frame le_rfl (fun j hj ↦ absurd (hnone.symm.trans hj) (by simp)) fun _ ↦ rfl
  | transitionToDown hw =>
    exact h.frame le_rfl (fun j hj ↦ absurd ((h.lockedWorker hw).symm.trans hj) (by simp))
      fun hw' ↦ by cases hw'
  | giveUp => exact h.frame le_rfl (fun _ hj ↦ hj) fun hw ↦ by cases hw
  | failDown hw =>
    exact h.frame le_rfl (fun j hj ↦ absurd ((h.lockedWorker hw).symm.trans hj) (by simp))
      fun hw' ↦ by cases hw'
  | finish => exact h.frame le_rfl (fun _ hj ↦ hj) fun hw ↦ by cases hw
  | tick hnow => exact h.frame hnow (fun _ hj ↦ hj) h.lockedWorker

omit [DecidableEq ι] in
/-- A committed cycle has prepared once. -/
theorem CyclesOk.preparedAt_eq (h : CyclesOk y) {c c' : ι × Time} (hc : c ∈ y.committed)
    (hc' : c' ∈ y.committed) (hcc' : c.1 = c'.1) : c.2 = c'.2 := by
  have hok := h.each c'.1
  cases hs : y.cycles c'.1 with
  | enqueueing preparedAt call =>
    rw [hs] at hok
    rw [hok.2.2 c hc hcc', hok.2.2 c' hc' rfl]
  | locked =>
    rw [hs] at hok
    exact absurd rfl (hok.2 c' hc')
  | prepared =>
    rw [hs] at hok
    exact absurd rfl (hok.2.2 c' hc').1
  | _ =>
    rw [hs] at hok
    exact absurd rfl (hok c' hc')

omit [DecidableEq ι] in
/-- The last committed cycle has prepared last. -/
theorem CyclesOk.le_last (h : CyclesOk y) {c last : ι × Time} (hc : c ∈ y.committed)
    (hlast : last ∈ y.committed.getLast?) : c.2 ≤ last.2 := by
  obtain ⟨before, hsplit⟩ := List.getLast?_eq_some_iff.mp hlast
  have hsorted := h.sorted
  rw [hsplit, List.pairwise_append] at hsorted
  rw [hsplit, List.mem_append, List.mem_singleton] at hc
  rcases hc with hc | rfl
  · exact hsorted.2.2 c hc last (List.mem_singleton_self _)
  · exact le_rfl

/-! ## The timers -/

/-- A timer was added for a committed cycle and waits for its time, and one that the worker has
taken was due. -/
def TimerOk (config : DetectionConfig) (committed : List (ι × Time)) (now : Time)
    (job : DelayedJob Time (DetectionJob ι)) : Prop :=
  (job.active = true → job.due ≤ now) ∧ ∃ c ∈ committed, c.1 = job.data.addedBy ∧
    ∀ d ∈ (config.prepare c.2).downStartAfter, d ≤ job.due

omit [DecidableEq ι] in
theorem TimerOk.mono {committed committed' : List (ι × Time)} {now now' : Time}
    {job : DelayedJob Time (DetectionJob ι)} (h : TimerOk config committed now job)
    (hsub : committed ⊆ committed') (hnow : now ≤ now') : TimerOk config committed' now' job := by
  obtain ⟨hdue, c, hc, hcycle⟩ := h
  exact ⟨fun hactive ↦ (hdue hactive).trans hnow, c, hsub hc, hcycle⟩

/-- The down timers, and the one that a busy worker has taken. -/
structure TimersOk (config : DetectionConfig) (y : DetectionSystem ι) : Prop where
  jobs : y.queues.down.All fun _ job ↦ TimerOk config y.committed y.now job
  busy : y.worker ≠ .idle →
    ∃ job, y.queues.down.find config.stationId = some job ∧ job.active = true

omit [DecidableEq ι] in
/-- A step that leaves the down queue alone, and does not wake the worker up. -/
theorem TimersOk.frame (h : TimersOk config y) (hdown : y'.queues.down = y.queues.down)
    (hworker : y'.worker ≠ .idle → y.worker ≠ .idle) (hsub : y.committed ⊆ y'.committed)
    (hnow : y.now ≤ y'.now) : TimersOk config y' where
  jobs := hdown ▸ h.jobs.mono fun _ _ hjob ↦ hjob.mono hsub hnow
  busy hw := hdown ▸ h.busy (hworker hw)

/-- A request to the down queue. It leaves alone the timer that the worker has taken. -/
theorem TimersOk.called (h : TimersOk config y) {m : CallMove} {preparedAt : Time}
    {call call' : CallState} {queues : DetectionQueues ι}
    (hi : CompletionOk y.holder y.committed y.now i (.enqueueing preparedAt call))
    (hcalled : Called (config.prepare preparedAt) i y.now y.queues m call call' queues) :
    TimersOk config { y.setCycle i (.enqueueing preparedAt call') with queues } := by
  have hid : (config.prepare preparedAt).stationId = config.stationId :=
    prepareDetection_stationId _ _ _ _
  rcases hcalled.down with hsame | hremove | ⟨now, hadding, hadd⟩
  · exact h.frame hsame id (List.Subset.refl _) le_rfl
  · -- a timer that the worker has taken is not removed
    rw [hid] at hremove
    refine ⟨?_, fun hw ↦ ?_⟩
    · exact hremove ▸ h.jobs.remove
    · obtain ⟨job, hfind, hactive⟩ := h.busy hw
      refine ⟨job, ?_, hactive⟩
      rw [hremove, DelayQueue.remove_of_active hfind hactive, hfind]
  · rw [hid] at hadd
    cases hdown : (config.prepare preparedAt).downStartAfter with
    | none =>
      rw [hdown, addTimer] at hadd
      exact h.frame hadd id (List.Subset.refl _) le_rfl
    | some d =>
      rw [hdown, addTimer] at hadd
      obtain ⟨hread, hmem, -⟩ := hi
      rw [hadding] at hread
      refine ⟨?_, fun hw ↦ ?_⟩
      · refine hadd ▸ h.jobs.add ⟨fun hactive ↦ absurd hactive (by simp), _, hmem, rfl, ?_⟩
        intro d' hd'
        cases hdown.symm.trans hd'
        exact le_delayed hread
      · obtain ⟨job, hfind, hactive⟩ := h.busy hw
        refine ⟨job, ?_, hactive⟩
        rw [hadd, DelayQueue.add_of_some hfind, hfind]

theorem TimersOk.moved {m : DetectionMove ι} (h : TimersOk config y) (hcycles : CyclesOk y)
    (hmoved : Moved config y m y') : TimersOk config y' := by
  cases hmoved with
  | @enqueue i m preparedAt call call' queues hi hcalled =>
    exact h.called (hi ▸ hcycles.each i) hcalled
  | fire hidle hfire =>
    obtain ⟨job, hfind, -, hdue, hq⟩ := DelayQueue.fire_cases hfire
    refine ⟨h.jobs.fire (fun job hjob hdue ↦ ⟨fun _ ↦ hdue, hjob.2⟩) hfire, fun _ ↦ ?_⟩
    exact ⟨_, hq ▸ DelayQueue.find_set_self _, rfl⟩
  | finish hdone hfinish =>
    exact ⟨h.jobs.finish hfinish, fun hw ↦ absurd rfl hw⟩
  | commit => exact h.frame rfl id (List.subset_append_left _ _) le_rfl
  | lockDown hw =>
    exact h.frame rfl (fun _ hidle ↦ by rw [hidle] at hw; cases hw) (List.Subset.refl _) le_rfl
  | transitionToDown hw =>
    exact h.frame rfl (fun _ hidle ↦ by rw [hidle] at hw; cases hw) (List.Subset.refl _) le_rfl
  | giveUp hw =>
    exact h.frame rfl (fun _ hidle ↦ by rw [hidle] at hw; cases hw) (List.Subset.refl _) le_rfl
  | failDown hw =>
    exact h.frame rfl (fun _ hidle ↦ by rw [hidle] at hw; cases hw) (List.Subset.refl _) le_rfl
  | tick hnow => exact h.frame rfl id (List.Subset.refl _) hnow
  | _ => exact h.frame rfl id (List.Subset.refl _) le_rfl

/-- What every reachable state meets. -/
structure DetectionOk (config : DetectionConfig) (y : DetectionSystem ι) : Prop where
  cycles : CyclesOk y
  timers : TimersOk config y

omit [DecidableEq ι] in
theorem detectionOk_start (config : DetectionConfig) (now : Time) (db : Database) :
    DetectionOk config (.start now db : DetectionSystem ι) := by
  refine ⟨⟨fun _ _ hc ↦ ?_, .nil, fun _ hc ↦ ?_, fun hw ↦ ?_⟩, DelayQueue.all_empty, fun hw ↦ ?_⟩
  · exact absurd hc (by simp [start])
  · exact absurd hc (by simp [start])
  · cases hw
  · exact absurd rfl hw

theorem detectionOk_of_run {ok : DetectionSystem ι → DetectionMove ι → Prop} {now : Time}
    {db : Database} {ms : List (DetectionMove ι)}
    (hrun : Run (step config args) ok (.start now db) ms y) : DetectionOk config y :=
  hrun.invariant (detectionOk_start config now db) fun _ _ _ h _ hstep ↦
    ⟨h.cycles.moved (step_cases hstep), h.timers.moved h.cycles (step_cases hstep)⟩

end DetectionSystem

/-! ## When the worker declares downtime -/

section

variable {ι : Type} [DecidableEq ι]

/-- Where the worker finds an open `UP` entry, the timer it has taken is the one that the last
committed cycle added. -/
def OwnTimer (config : DetectionConfig) (y : DetectionSystem ι) : DetectionMove ι → Prop
  | .transitionToDown _ _ =>
    match findOpenStateEntry y.db.stateLog config.stationId,
        y.queues.down.find config.stationId with
    | some current, some job =>
      current.state = .up → y.committed.getLast?.map Prod.fst = some job.data.addedBy
    | _, _ => True
  | _ => True

instance (config : DetectionConfig) (y : DetectionSystem ι) (m : DetectionMove ι) :
    Decidable (OwnTimer config y m) := by
  rw [OwnTimer.eq_def]
  split
  · split <;> infer_instance
  · infer_instance

/-- An open `UP` entry of the station becomes a `DOWN` one. -/
def TurnsDown (stationId : Uuid) (log log' : StateLog) : Prop :=
  ∃ e ∈ log.live stationId, e.endTime = none ∧ e.state = .up ∧
    ∃ e' ∈ log'.rows, e'.id = e.id ∧ e'.state = .down

instance (stationId : Uuid) (log log' : StateLog) : Decidable (TurnsDown stationId log log') :=
  inferInstanceAs (Decidable (∃ e ∈ log.live stationId, e.endTime = none ∧ e.state = .up ∧
    ∃ e' ∈ log'.rows, e'.id = e.id ∧ e'.state = .down))

/-- What turns down is what `findOpenStateEntry` finds. -/
theorem TurnsDown.findOpen {stationId : Uuid} {log log' : StateLog}
    (h : TurnsDown stationId log log') :
    ∃ e, findOpenStateEntry log stationId = some e ∧ e.state = .up := by
  obtain ⟨e, he, hopen, hup, -⟩ := h
  obtain ⟨hmem, hst, hdel⟩ := StateLog.mem_live.mp he
  have hopenOf := isOpenOf_iff.mpr ⟨hst, hopen, hdel⟩
  cases hfind : findOpenStateEntry log stationId with
  | none => exact absurd (findOpenStateEntry_eq_none hfind e hmem) (by simp [hopenOf])
  | some e' =>
    obtain ⟨hmem', hopenOf'⟩ := findOpenStateEntry_eq_some hfind
    exact ⟨e', rfl, log.eq_of_isOpenOf hmem' hmem hopenOf' hopenOf ▸ hup⟩

open DetectionSystem in
/-- **A timer declares downtime in time where it is the last committed cycle's own**: in every run
in which the worker meets an open `UP` entry only with the timer of the last committed cycle,
whenever `transitionToDown` turns an open `UP` entry into a `DOWN` one, no `downStartAfter` of a
committed cycle is in the future. -/
theorem downStartAfter_le_of_ownTimer {config : DetectionConfig} {args : ι → StrategyArgs}
    {now : Time} {db : Database} {ms : List (DetectionMove ι)} {y y' : DetectionSystem ι}
    (hrun : Run (step config args) (OwnTimer config) (.start now db) ms y)
    {id freshBlockId : Uuid} (hown : OwnTimer config y (.transitionToDown id freshBlockId))
    (hstep : step config args (.transitionToDown id freshBlockId) y = some y')
    (hdown : TurnsDown config.stationId y.db.stateLog y'.db.stateLog) :
    ∀ c ∈ y.committed, ∀ d ∈ (config.prepare c.2).downStartAfter, d ≤ y.now := by
  obtain ⟨hcycles, htimers⟩ := detectionOk_of_run hrun
  obtain ⟨current, hfind, hup⟩ := hdown.findOpen
  have hbusy : y.worker ≠ .idle := by
    cases step_cases hstep with
    | transitionToDown hw => simp [hw]
  obtain ⟨job, hjob, hactive⟩ := htimers.busy hbusy
  rw [OwnTimer, hfind, hjob] at hown
  obtain ⟨last, hlast, hadded⟩ := Option.map_eq_some_iff.mp (hown hup)
  obtain ⟨hdue, own, hmem, howner, hle⟩ := htimers.jobs _ job hjob
  -- the cycle that added the timer is the last one
  have hown : own.2 = last.2 :=
    hcycles.preparedAt_eq hmem (List.mem_of_getLast? hlast) (howner.trans hadded.symm)
  intro c hc d hd
  obtain ⟨d', hd', hdd'⟩ := downStartAfter_mono (hcycles.le_last hc hlast) hd
  calc d ≤ d' := hdd'
    _ ≤ job.due := hle d' (hown ▸ hd')
    _ ≤ y.now := hdue hactive

end

/-- A standard cycle of 60 s and a downtime threshold of 40 s. -/
def hundredSeconds : DetectionConfig := ⟨1, some ⟨none, some 40⟩, some 60⟩

/-- Completions at `0` and at `90000`. -/
def cyclesNinetySecondsApart (i : Bool) : StrategyArgs :=
  if i then completionAt 90000 2 else completionAt 0 1

/-- The transaction of a completion. -/
def transactionOf (i : Bool) : List (DetectionMove Bool) :=
  [.begin i, .lock i, .prepare i, .commit i]

/-- The call that enqueues what it has prepared. -/
def enqueueingOf (i : Bool) : List (DetectionMove Bool) :=
  [.enqueue i .start, .enqueue i .removeSlow, .enqueue i .removeDown, .enqueue i .proceed,
    .enqueue i .addSlow, .enqueue i .addDown]

/-- The timer of the first cycle fires at `100000`, after the second cycle has been committed at
`95000` and before its call has removed the timer. -/
def staleTimerFires : List (DetectionMove Bool) :=
  transactionOf false ++ enqueueingOf false ++ .tick 95000 :: transactionOf true ++
    [.tick 100000, .fire, .lockDown]

/-- The timer of the first cycle declares downtime at `100000`, while the last committed cycle has
until `195000`. -/
theorem staleTimer_declaresDown : ∃ y y',
    Run (DetectionSystem.step hundredSeconds cyclesNinetySecondsApart) (fun _ _ ↦ True)
        (.start 0 default) staleTimerFires y ∧
      DetectionSystem.step hundredSeconds cyclesNinetySecondsApart (.transitionToDown 9 9) y
        = some y' ∧
      TurnsDown 1 y.db.stateLog y'.db.stateLog ∧ y.now = 100000 ∧
      y.committed.getLast? = some (true, 95000) ∧
      (hundredSeconds.prepare 95000).downStartAfter = some 195000 := by
  have hexec : ((execute (DetectionSystem.step hundredSeconds cyclesNinetySecondsApart)
      (fun _ _ ↦ True) staleTimerFires (.start 0 default)).any fun y ↦
        y.now = 100000 ∧ y.committed.getLast? = some (true, 95000) ∧
        (DetectionSystem.step hundredSeconds cyclesNinetySecondsApart
          (.transitionToDown 9 9) y).any fun y' ↦
            TurnsDown 1 y.db.stateLog y'.db.stateLog) = true := by decide +kernel
  obtain ⟨y, hy, hres⟩ := (Option.any_eq_true _ _).mp hexec
  obtain ⟨hnow, hlast, hstep⟩ := of_decide_eq_true hres
  obtain ⟨y', hy', hdown⟩ := (Option.any_eq_true _ _).mp hstep
  exact ⟨y, y', run_of_execute hy, hy', of_decide_eq_true hdown, hnow, hlast, by decide +kernel⟩

/-- The station stops after the second cycle, whose own timer declares the downtime. -/
theorem downStartAfter_le_of_ownTimer_secondCycle : ∃ y y',
    Run (DetectionSystem.step hundredSeconds cyclesNinetySecondsApart) (OwnTimer hundredSeconds)
        (.start 0 default) (transactionOf false ++ enqueueingOf false ++ .tick 95000 ::
          transactionOf true ++ enqueueingOf true ++ [.tick 195000, .fire, .lockDown]) y ∧
      DetectionSystem.step hundredSeconds cyclesNinetySecondsApart (.transitionToDown 9 9) y
        = some y' ∧
      TurnsDown 1 y.db.stateLog y'.db.stateLog ∧
      ∀ c ∈ y.committed, ∀ d ∈ (hundredSeconds.prepare c.2).downStartAfter, d ≤ y.now := by
  have hexec : ((execute (DetectionSystem.step hundredSeconds cyclesNinetySecondsApart)
      (OwnTimer hundredSeconds) (transactionOf false ++ enqueueingOf false ++ .tick 95000 ::
        transactionOf true ++ enqueueingOf true ++ [.tick 195000, .fire, .lockDown])
      (.start 0 default)).any fun y ↦ OwnTimer hundredSeconds y (.transitionToDown 9 9) ∧
        (DetectionSystem.step hundredSeconds cyclesNinetySecondsApart
          (.transitionToDown 9 9) y).any fun y' ↦
            TurnsDown 1 y.db.stateLog y'.db.stateLog) = true := by decide +kernel
  obtain ⟨y, hy, hres⟩ := (Option.any_eq_true _ _).mp hexec
  obtain ⟨hown, hstep⟩ := of_decide_eq_true hres
  obtain ⟨y', hy', hdown⟩ := (Option.any_eq_true _ _).mp hstep
  have hrun := run_of_execute hy
  have hdown := of_decide_eq_true hdown
  exact ⟨y, y', hrun, hy', hdown, downStartAfter_le_of_ownTimer hrun hown hy' hdown⟩

end RwServer
