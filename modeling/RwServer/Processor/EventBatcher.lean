import Mathlib
import RwServer.Foundation.Run

/-!
# The batcher of database events

Events are collected, and inserted some at a time: when there are enough of them, when a timer
fires, or when a flush is asked for. A flush loop takes batches from the queue until it is empty, or
waits for the timer again; while it runs, its promise keeps a second one from being started.

What runs between two waits is one step. Before its first wait the body of a loop runs at once, when
its promise has not been stored; a loop that finds the queue empty is over by then, and the promise
that is stored afterwards is that of a loop that has ended. No loop is started from then on.

`events_batched` says what holds in all runs, and what holds in those in which no flush is asked for
while the queue is empty and no loop runs; after any other request for a flush, events are stranded.
-/

namespace RwServer

open Transition

/-! ## The batcher -/

structure DbEventsConfig where
  batchWindowMs : ℕ
  batchMaxRows : ℕ
  batchMaxRows_pos : 0 < batchMaxRows

/-- An event whose promise is not settled, numbered by its submission. -/
structure PendingEvent (Event : Type*) where
  number : ℕ
  event : Event

inductive EventSettlement
  | resolved
  | rejected
deriving DecidableEq, Repr

/-- The events that wait, and what has become of the others. -/
structure EventLog (Event Row : Type*) where
  submitted : List Event
  pending : List (PendingEvent Event)
  /-- The rows of each `INSERT`, with the numbers of the events. -/
  inserts : List (List (ℕ × Row))
  /-- Those that have succeeded. -/
  inserted : List (List (ℕ × Row))
  settled : List (ℕ × EventSettlement)

/-- What a flush loop waits for. -/
inductive FlushLoop (Event Row : Type*)
  /-- For nothing: it has not begun, or is over. -/
  | ended
  /-- For the `INSERT` of a batch, or the timeout of it. -/
  | inserting (rows : List (ℕ × Row)) (batch : List (PendingEvent Event))
  /-- To go on, after a batch. -/
  | flushed

/-- A call of `flushPending`. -/
structure FlushCall where
  /-- The loop that it awaits. -/
  loop : Option ℕ
  /-- The events that had been submitted before. -/
  submitted : ℕ
deriving DecidableEq, Repr

structure DbEvents (Event Row : Type*) where
  log : EventLog Event Row
  /-- A timer is armed. -/
  flushTimer : Bool
  flushLoopPromise : Option ℕ
  forceFlush : Bool
  abortListenerAttached : Bool
  /-- The state of the signal. -/
  aborted : Bool
  loops : ℕ → FlushLoop Event Row
  nextLoop : ℕ
  /-- The calls of `flushPending` that have not returned, and those that have. -/
  waiting : List FlushCall
  returned : List FlushCall

/-- Before the first event. -/
def dbEventsStart (Event Row : Type*) (aborted : Bool) : DbEvents Event Row where
  log := ⟨[], [], [], [], []⟩
  flushTimer := false
  flushLoopPromise := none
  forceFlush := false
  abortListenerAttached := false
  aborted := aborted
  loops _ := .ended
  nextLoop := 0
  waiting := []
  returned := []

/-! ## Its functions -/

namespace FlushLoop

variable {Event Row : Type*}

def hasEnded : FlushLoop Event Row → Bool
  | .ended => true
  | _ => false

/-- The events whose `INSERT` the loop waits for. -/
def batch : FlushLoop Event Row → List (PendingEvent Event)
  | .inserting _ batch => batch
  | _ => []

end FlushLoop

section

variable {Event Row : Type*}

/-- The rows of a batch; an event without one is left out. -/
def batchRows (buildPointValueRow : Event → Except String Row) (batch : List (PendingEvent Event)) :
    List (ℕ × Row) :=
  batch.filterMap fun entry ↦
    (buildPointValueRow entry.event).toOption.map fun row ↦ (entry.number, row)

/-- The promises of a batch are settled. -/
def EventLog.settle (log : EventLog Event Row) (batch : List (PendingEvent Event))
    (settlement : EventSettlement) : EventLog Event Row :=
  { log with settled := log.settled ++ batch.map fun entry ↦ (entry.number, settlement) }

namespace DbEvents

variable (config : DbEventsConfig) (buildPointValueRow : Event → Except String Row)
  (s : DbEvents Event Row)

def pendingLength : ℕ := s.log.pending.length

/-- There are enough events, or none is to wait. -/
def isFull : Bool :=
  decide (config.batchWindowMs = 0) || decide (config.batchMaxRows ≤ s.pendingLength)

/-- Events may wait for the timer. -/
def mayWait : Bool :=
  !s.forceFlush && decide (0 < config.batchWindowMs) &&
    decide (s.pendingLength < config.batchMaxRows)

def setLoop (loop : ℕ) (state : FlushLoop Event Row) : DbEvents Event Row :=
  { s with loops := Function.update s.loops loop state }

def clearFlushTimer : DbEvents Event Row := { s with flushTimer := false }

def scheduleFlushTimer : DbEvents Event Row :=
  if config.batchWindowMs = 0 ∨ s.flushTimer = true then s else { s with flushTimer := true }

/-- `flushBatch`, until the query has been made. -/
def flushBatch (loop : ℕ) (batch : List (PendingEvent Event)) : DbEvents Event Row :=
  let rows := batchRows buildPointValueRow batch
  if rows.isEmpty then { s.setLoop loop .flushed with log := s.log.settle batch .resolved }
  else { s.setLoop loop (.inserting rows batch) with
    log := { s.log with inserts := s.log.inserts ++ [rows] } }

/-- The body of the `while` until its `await`. -/
def takeBatch (loop : ℕ) : DbEvents Event Row :=
  flushBatch buildPointValueRow
    { s.clearFlushTimer with
      log := { s.log with pending := s.log.pending.drop config.batchMaxRows } }
    loop (s.log.pending.take config.batchMaxRows)

/-- A loop that takes a batch at once. -/
def openLoop : DbEvents Event Row :=
  { takeBatch config buildPointValueRow { s with nextLoop := s.nextLoop + 1 } s.nextLoop with
    flushLoopPromise := some s.nextLoop }

/-- The `finally` of a loop. The loop that it may start takes a batch at once
(`startFlushLoop_eq_openLoop`). -/
def endLoop (loop : ℕ) : DbEvents Event Row :=
  let s := { s.setLoop loop .ended with flushLoopPromise := none, forceFlush := false }
  if 0 < s.pendingLength ∧ s.isFull config = true then openLoop config buildPointValueRow s else s

/-- The loop from its `while` on. -/
def runLoop (loop : ℕ) : DbEvents Event Row :=
  if s.pendingLength = 0 ∨ s.mayWait config = true ∧ s.flushTimer = true then
    endLoop config buildPointValueRow s loop
  else takeBatch config buildPointValueRow s loop

/-- The promise is stored when the body of the loop has come to its first wait, or to its end. -/
def startFlushLoop : DbEvents Event Row :=
  match s.flushLoopPromise with
  | some _ => s
  | none =>
    { runLoop config buildPointValueRow { s with nextLoop := s.nextLoop + 1 } s.nextLoop with
      flushLoopPromise := some s.nextLoop }

def forced : DbEvents Event Row := { s.clearFlushTimer with forceFlush := true }

/-- A flush that does not wait for the timer, or for more events. -/
def flushNow : DbEvents Event Row := startFlushLoop config buildPointValueRow s.forced

/-- The loop after the `await` of a batch. -/
def afterFlush (loop : ℕ) : DbEvents Event Row :=
  if s.mayWait config = true ∧ 0 < s.pendingLength then
    endLoop config buildPointValueRow (s.scheduleFlushTimer config) loop
  else runLoop config buildPointValueRow s loop

def ensureAbortListener : DbEvents Event Row :=
  if s.abortListenerAttached then s
  else if s.aborted then
    flushNow config buildPointValueRow { s with abortListenerAttached := true }
  else { s with abortListenerAttached := true }

/-- The event is in the queue. -/
def push (event : Event) : DbEvents Event Row :=
  { s with log := { s.log with
    submitted := s.log.submitted ++ [event]
    pending := s.log.pending ++ [⟨s.log.submitted.length, event⟩] } }

def process (event : Event) : DbEvents Event Row :=
  let s := (ensureAbortListener config buildPointValueRow s).push event
  if s.isFull config then startFlushLoop config buildPointValueRow s
  else s.scheduleFlushTimer config

def flushPending : DbEvents Event Row :=
  let call (s' : DbEvents Event Row) : FlushCall := ⟨s'.flushLoopPromise, s.log.submitted.length⟩
  let s' := flushNow config buildPointValueRow s
  { s' with waiting := call s' :: s'.waiting }

/-- The query of a batch has succeeded, or it has failed or timed out. -/
def settleBatch (loop : ℕ) (ok : Bool) : Option (DbEvents Event Row) :=
  match s.loops loop with
  | .inserting rows batch =>
    some { s.setLoop loop .flushed with
      log :=
        if ok then { s.log.settle batch .resolved with inserted := s.log.inserted ++ [rows] }
        else s.log.settle batch .rejected }
  | _ => none

end DbEvents

/-! ## Runs -/

/-- What may happen next. -/
inductive DbEventsStep (Event : Type*)
  | process (event : Event)
  | timer
  | abort
  | flushPending
  | settle (loop : ℕ) (ok : Bool)
  | resume (loop : ℕ)
  /-- A call of `flushPending` returns. -/
  | flushReturns (call : FlushCall)

open DbEvents in
def dbEventsStep (config : DbEventsConfig) (buildPointValueRow : Event → Except String Row)
    (step : DbEventsStep Event) (s : DbEvents Event Row) : Option (DbEvents Event Row) :=
  match step with
  | .process event => some (process config buildPointValueRow s event)
  | .timer =>
    if s.flushTimer then some (startFlushLoop config buildPointValueRow s.clearFlushTimer) else none
  | .abort =>
    if s.aborted then none
    else if s.abortListenerAttached then
      some (flushNow config buildPointValueRow { s with aborted := true })
    else some { s with aborted := true }
  | .flushPending => some (flushPending config buildPointValueRow s)
  | .settle loop ok => s.settleBatch loop ok
  | .resume loop =>
    match s.loops loop with
    | .flushed => some (afterFlush config buildPointValueRow s loop)
    | _ => none
  | .flushReturns call =>
    if call ∈ s.waiting ∧ (call.loop.all fun loop ↦ (s.loops loop).hasEnded) = true then
      some { s with waiting := s.waiting.erase call, returned := call :: s.returned }
    else none

/-- Whether a step asks for a flush. -/
def DbEventsStep.asksForFlush (step : DbEventsStep Event) (s : DbEvents Event Row) : Bool :=
  match step with
  | .process _ => !s.abortListenerAttached && s.aborted
  | .abort => s.abortListenerAttached
  | .flushPending => true
  | _ => false

/-- The condition on a step: where it asks for a flush, there is an event in the queue, or a loop
runs. -/
def FindsEvents (s : DbEvents Event Row) (step : DbEventsStep Event) : Prop :=
  step.asksForFlush s = true → 0 < s.pendingLength ∨ s.flushLoopPromise ≠ none

instance decidableFindsEvents (s : DbEvents Event Row) (step : DbEventsStep Event) :
    Decidable (FindsEvents s step) :=
  inferInstanceAs (Decidable (_ → _ ∨ _))

end

/-! ## What happens to the events -/

section

variable {Event Row : Type*} {config : DbEventsConfig}
  {build : Event → Except String Row} {log : EventLog Event Row}
  {flight batch : List (PendingEvent Event)} {rows : List (ℕ × Row)}

theorem mem_batchRows {n : ℕ} {row : Row} : (n, row) ∈ batchRows build batch ↔
    ∃ entry ∈ batch, entry.number = n ∧ build entry.event = .ok row := by
  rw [batchRows, List.mem_filterMap]
  refine exists_congr fun entry ↦ and_congr_right fun _ ↦ ?_
  cases build entry.event with
  | error => exact ⟨nofun, fun h ↦ absurd h.2 nofun⟩
  | ok r => simp [Except.toOption]

theorem numbers_batchRows_sublist :
    ((batchRows build batch).map Prod.fst).Sublist (batch.map PendingEvent.number) := by
  induction batch with
  | nil => exact .slnil
  | cons entry batch ih =>
    rw [batchRows, List.filterMap_cons, ← batchRows, List.map_cons]
    cases build entry.event with
    | error => exact ih.cons _
    | ok row => exact ih.cons_cons _

theorem length_batchRows_le : (batchRows build batch).length ≤ batch.length :=
  List.length_filterMap_le _ _

/-- Every event that has been submitted is settled, or with the loop, or waits, in the order of
their submission. -/
structure Accounted (config : DbEventsConfig) (build : Event → Except String Row)
    (log : EventLog Event Row) (flight : List (PendingEvent Event)) : Prop where
  inOrder : log.settled.map Prod.fst ++ flight.map PendingEvent.number ++
    log.pending.map PendingEvent.number = List.range log.submitted.length
  events : ∀ entry ∈ flight ++ log.pending, log.submitted[entry.number]? = some entry.event
  insertsInOrder : (log.inserts.flatten.map Prod.fst).Sublist
    (log.settled.map Prod.fst ++ flight.map PendingEvent.number)
  atMost : ∀ rows ∈ log.inserts, rows.length ≤ config.batchMaxRows
  inserted : ∀ rows ∈ log.inserted, rows ∈ log.inserts
  resolved : ∀ n event row, (n, .resolved) ∈ log.settled → log.submitted[n]? = some event →
    build event = .ok row → ∃ rows ∈ log.inserted, (n, row) ∈ rows

theorem Accounted.push (h : Accounted config build log flight) (event : Event) :
    Accounted config build { log with
      submitted := log.submitted ++ [event]
      pending := log.pending ++ [⟨log.submitted.length, event⟩] } flight where
  inOrder := by
    rw [List.map_append, ← List.append_assoc, h.inOrder, List.length_append, List.length_singleton,
      List.range_succ]
    rfl
  events entry hentry := by
    rw [← List.append_assoc, List.mem_append, List.mem_singleton] at hentry
    rcases hentry with hold | rfl
    · exact List.getElem?_append_left (List.getElem?_eq_some_iff.mp (h.events entry hold)).1 ▸
        h.events entry hold
    · exact List.getElem?_concat_length
  insertsInOrder := h.insertsInOrder
  atMost := h.atMost
  inserted := h.inserted
  resolved n e row hn he hrow := by
    refine h.resolved n e row hn ?_ hrow
    have hmem : n ∈ List.range log.submitted.length := by
      rw [← h.inOrder, List.append_assoc]
      exact List.mem_append_left _ (List.mem_map_of_mem hn)
    rwa [List.getElem?_append_left (List.mem_range.mp hmem)] at he

/-- A batch is taken. -/
theorem Accounted.take (h : Accounted config build log []) :
    Accounted config build { log with pending := log.pending.drop config.batchMaxRows }
      (log.pending.take config.batchMaxRows) where
  inOrder := by
    rw [List.append_assoc, ← List.map_append, List.take_append_drop]
    rw [← h.inOrder, List.map_nil, List.append_nil]
  events entry hentry := by
    rw [List.take_append_drop] at hentry
    exact h.events entry hentry
  insertsInOrder := by
    rw [← List.append_nil (log.inserts.flatten.map Prod.fst)]
    have hold := h.insertsInOrder
    rw [List.map_nil, List.append_nil] at hold
    exact hold.append (List.nil_sublist _)
  atMost := h.atMost
  inserted := h.inserted
  resolved := h.resolved

/-- The batch is settled; when its promises are resolved, its rows have been inserted. -/
theorem Accounted.settle (h : Accounted config build log flight) {settlement : EventSettlement}
    {inserted : List (List (ℕ × Row))} (hsub : log.inserted ⊆ inserted)
    (hinserts : ∀ rows ∈ inserted, rows ∈ log.inserts)
    (hresolved : settlement = .resolved → batchRows build flight = [] ∨
      batchRows build flight ∈ inserted) :
    Accounted config build { log.settle flight settlement with inserted := inserted } [] where
  inOrder := by
    refine Eq.trans ?_ h.inOrder
    rw [EventLog.settle, List.map_nil, List.append_nil, List.map_append, List.map_map]
    rfl
  events entry hentry := h.events entry (List.mem_append_right _ hentry)
  insertsInOrder := by
    rw [EventLog.settle, List.map_nil, List.append_nil, List.map_append, List.map_map]
    exact h.insertsInOrder
  atMost := h.atMost
  inserted := hinserts
  resolved n event row hn hevent hrow := by
    rcases List.mem_append.mp hn with hold | hnew
    · obtain ⟨rows, hrows, hmem⟩ := h.resolved n event row hold hevent hrow
      exact ⟨rows, hsub hrows, hmem⟩
    · obtain ⟨entry, hentry, heq⟩ := List.mem_map.mp hnew
      cases heq
      obtain rfl : entry.event = event :=
        Option.some_inj.mp ((h.events entry (List.mem_append_left _ hentry)).symm.trans hevent)
      have hmem : (entry.number, row) ∈ batchRows build flight :=
        mem_batchRows.mpr ⟨entry, hentry, rfl, hrow⟩
      rcases hresolved rfl with hnone | hin
      · exact absurd (hnone ▸ hmem) List.not_mem_nil
      · exact ⟨_, hin, hmem⟩

/-- The rows of the batch are to be inserted. -/
theorem Accounted.insert (h : Accounted config build log flight)
    (hinserts : (log.inserts.flatten.map Prod.fst).Sublist (log.settled.map Prod.fst))
    (hlength : flight.length ≤ config.batchMaxRows) :
    Accounted config build { log with inserts := log.inserts ++ [batchRows build flight] }
      flight where
  inOrder := h.inOrder
  events := h.events
  insertsInOrder := by
    rw [List.flatten_append, List.flatten_singleton, List.map_append]
    exact hinserts.append numbers_batchRows_sublist
  atMost rows hrows := by
    rcases List.mem_append.mp hrows with hold | hnew
    · exact h.atMost rows hold
    · obtain rfl := List.mem_singleton.mp hnew
      exact length_batchRows_le.trans hlength
  inserted rows hrows := List.mem_append_left _ (h.inserted rows hrows)
  resolved := h.resolved

end

/-! ## What a flush loop does -/

section

variable {Event Row : Type*} {config : DbEventsConfig} {build : Event → Except String Row}
  {s s' : DbEvents Event Row} {loop : ℕ}

namespace DbEvents

/-- The events whose `INSERT` is waited for. -/
def flight (s : DbEvents Event Row) : List (PendingEvent Event) :=
  (s.flushLoopPromise.map fun loop ↦ (s.loops loop).batch).getD []

/-- What holds in every run: no loop runs but that whose promise is stored, and the events are
accounted for. -/
structure Sound (config : DbEventsConfig) (build : Event → Except String Row)
    (s : DbEvents Event Row) : Prop where
  accounted : Accounted config build s.log s.flight
  alone : ∀ loop, s.loops loop ≠ .ended → s.flushLoopPromise = some loop
  inserting : ∀ loop rows batch, s.loops loop = .inserting rows batch →
    rows = batchRows build batch ∧ rows ∈ s.log.inserts

theorem loops_setLoop (s : DbEvents Event Row) (loop : ℕ) (state : FlushLoop Event Row) (j : ℕ) :
    (s.setLoop loop state).loops j = if j = loop then state else s.loops j :=
  Function.update_apply _ _ _ _

theorem loops_setLoop_self (s : DbEvents Event Row) (loop : ℕ) (state : FlushLoop Event Row) :
    (s.setLoop loop state).loops loop = state :=
  Function.update_self _ _ _

/-- What taking a batch changes, and leaves. -/
structure TakesBatch (s s' : DbEvents Event Row) (loop : ℕ) : Prop where
  promise : s'.flushLoopPromise = s.flushLoopPromise
  running : s'.loops loop ≠ .ended
  others : ∀ j ≠ loop, s'.loops j = s.loops j
  timer : s'.flushTimer = false
  force : s'.forceFlush = s.forceFlush
  waiting : s'.waiting = s.waiting
  returned : s'.returned = s.returned
  submitted : s'.log.submitted = s.log.submitted
  settled : s.log.settled ⊆ s'.log.settled
  listener : s'.abortListenerAttached = s.abortListenerAttached ∧ s'.aborted = s.aborted

theorem takesBatch : TakesBatch s (takeBatch config build s loop) loop := by
  unfold takeBatch flushBatch
  dsimp only
  split
  · exact ⟨rfl, by simp [setLoop], fun j hj ↦ Function.update_of_ne hj _ _, rfl, rfl, rfl, rfl, rfl,
      List.subset_append_left _ _, rfl, rfl⟩
  · exact ⟨rfl, by simp [setLoop], fun j hj ↦ Function.update_of_ne hj _ _, rfl, rfl, rfl, rfl, rfl,
      List.Subset.refl _, rfl, rfl⟩

/-- **A batch is taken** while no other one is. -/
theorem sound_takeBatch (h : Accounted config build s.log [])
    (hpromise : s.flushLoopPromise = some loop) (hothers : ∀ j ≠ loop, s.loops j = .ended) :
    Sound config build (takeBatch config build s loop) := by
  have htakes : TakesBatch s (takeBatch config build s loop) loop := takesBatch
  have halone : ∀ j, (takeBatch config build s loop).loops j ≠ .ended → j = loop := by
    intro j hj
    by_contra hne
    exact hj ((htakes.others j hne).trans (hothers j hne))
  refine ⟨?_, fun j hj ↦ halone j hj ▸ htakes.promise.trans hpromise, fun j rows batch hj ↦ ?_⟩
  · rw [flight, htakes.promise, hpromise, Option.map_some, Option.getD_some]
    unfold takeBatch flushBatch
    dsimp only
    split_ifs with hrows
    · dsimp only
      rw [loops_setLoop_self]
      exact h.take.settle (List.Subset.refl _) h.inserted fun _ ↦ .inl (List.isEmpty_iff.mp hrows)
    · dsimp only
      rw [loops_setLoop_self]
      have hold := h.insertsInOrder
      rw [List.map_nil, List.append_nil] at hold
      exact h.take.insert hold (List.length_take_le _ _)
  · obtain rfl := halone j (by rw [hj]; exact nofun)
    revert hj
    unfold takeBatch flushBatch
    dsimp only
    split_ifs with hrows
    · dsimp only
      rw [loops_setLoop_self]
      exact nofun
    · dsimp only
      rw [loops_setLoop_self]
      intro hj
      cases hj
      exact ⟨rfl, List.mem_append_right _ (List.mem_singleton_self _)⟩

end DbEvents

end

section

variable {Event Row : Type*} {config : DbEventsConfig} {build : Event → Except String Row}
  {s s' : DbEvents Event Row} {loop : ℕ}

namespace DbEvents

theorem isFull_of_mayWait (h : s.mayWait config = true) : s.isFull config = false := by
  simp only [mayWait, isFull, Bool.and_eq_true, decide_eq_true_eq, Bool.or_eq_false_iff,
    decide_eq_false_iff_not] at h ⊢
  omega

/-- A loop that is over where it need not start another one. -/
theorem endLoop_eq (h : s.pendingLength = 0 ∨ s.isFull config = false) :
    endLoop config build s loop
      = { s.setLoop loop .ended with flushLoopPromise := none, forceFlush := false } := by
  refine if_neg ?_
  rintro ⟨hpending, hfull⟩
  rcases h with hnone | hnotfull
  · exact absurd hnone hpending.ne'
  · exact absurd (hfull.symm.trans hnotfull) nofun

theorem runLoop_of_stops
    (h : s.pendingLength = 0 ∨ s.mayWait config = true ∧ s.flushTimer = true) :
    runLoop config build s loop
      = { s.setLoop loop .ended with flushLoopPromise := none, forceFlush := false } :=
  (if_pos h).trans (endLoop_eq (h.imp_right fun h ↦ isFull_of_mayWait h.1))

theorem runLoop_of_goes
    (h : ¬(s.pendingLength = 0 ∨ s.mayWait config = true ∧ s.flushTimer = true)) :
    runLoop config build s loop = takeBatch config build s loop :=
  if_neg h

theorem startFlushLoop_of_none (h : s.flushLoopPromise = none) :
    startFlushLoop config build s =
      { runLoop config build { s with nextLoop := s.nextLoop + 1 } s.nextLoop with
        flushLoopPromise := some s.nextLoop } := by
  unfold startFlushLoop
  split
  · rename_i hsome
    exact absurd (hsome.symm.trans h) nofun
  · rfl

/-- The loop that the end of another one starts is `startFlushLoop`. -/
theorem startFlushLoop_eq_openLoop (hpromise : s.flushLoopPromise = none)
    (hpending : 0 < s.pendingLength) (hfull : s.isFull config = true) :
    startFlushLoop config build s = openLoop config build s := by
  have hgoes : ¬(s.pendingLength = 0 ∨ s.mayWait config = true ∧ s.flushTimer = true) := by
    rintro (hnone | ⟨hwait, -⟩)
    · exact absurd hnone hpending.ne'
    · exact absurd (hfull.symm.trans (isFull_of_mayWait hwait)) nofun
  rw [startFlushLoop_of_none hpromise,
    runLoop_of_goes (s := { s with nextLoop := s.nextLoop + 1 }) hgoes, openLoop]

theorem startFlushLoop_of_some (h : s.flushLoopPromise = some loop) :
    startFlushLoop config build s = s := by
  unfold startFlushLoop
  rw [h]

theorem takeBatch_promise {p : Option ℕ} :
    { takeBatch config build s loop with flushLoopPromise := p }
      = takeBatch config build { s with flushLoopPromise := p } loop := by
  unfold takeBatch flushBatch
  dsimp only
  split <;> rfl

/-- A loop with something to do takes a batch. -/
theorem startFlushLoop_of_pending (hpromise : s.flushLoopPromise = none)
    (hgoes : ¬(s.pendingLength = 0 ∨ s.mayWait config = true ∧ s.flushTimer = true)) :
    startFlushLoop config build s = takeBatch config build
      { s with nextLoop := s.nextLoop + 1, flushLoopPromise := some s.nextLoop } s.nextLoop := by
  rw [startFlushLoop_of_none hpromise,
    runLoop_of_goes (s := { s with nextLoop := s.nextLoop + 1 }) hgoes]
  exact takeBatch_promise

/-- **A loop with nothing to do** is over before its promise is stored. -/
theorem startFlushLoop_of_stops (hpromise : s.flushLoopPromise = none)
    (hstops : s.pendingLength = 0 ∨ s.mayWait config = true ∧ s.flushTimer = true) :
    startFlushLoop config build s
      = { s.setLoop s.nextLoop .ended with
          nextLoop := s.nextLoop + 1
          flushLoopPromise := some s.nextLoop
          forceFlush := false } := by
  rw [startFlushLoop_of_none hpromise,
    runLoop_of_stops (s := { s with nextLoop := s.nextLoop + 1 }) hstops]
  rfl

theorem Sound.congr (h : Sound config build s) (hlog : s'.log = s.log)
    (hpromise : s'.flushLoopPromise = s.flushLoopPromise) (hloops : s'.loops = s.loops) :
    Sound config build s' := by
  have hflight : s'.flight = s.flight := by rw [flight, flight, hpromise, hloops]
  refine ⟨by rw [hlog, hflight]; exact h.accounted, fun j hj ↦ ?_, fun j rows batch hj ↦ ?_⟩
  · rw [hpromise]
    exact h.alone j (hloops ▸ hj)
  · rw [hlog]
    exact h.inserting j rows batch (hloops ▸ hj)

theorem Sound.ended_of_none (h : Sound config build s) (hpromise : s.flushLoopPromise = none)
    (j : ℕ) :
    s.loops j = .ended := by
  by_contra hj
  exact absurd (hpromise.symm.trans (h.alone j hj)) nofun

/-- A state in which no loop runs. -/
theorem sound_of_ended (haccounted : Accounted config build s.log [])
    (hended : ∀ j, s.loops j = .ended) : Sound config build s := by
  have hflight : s.flight = [] := by
    rw [flight]
    cases s.flushLoopPromise with
    | none => rfl
    | some j => rw [Option.map_some, Option.getD_some, hended j]; rfl
  exact ⟨hflight ▸ haccounted, fun j hj ↦ absurd (hended j) hj,
    fun j _ _ hj ↦ absurd (hj.symm.trans (hended j)) nofun⟩

theorem Sound.accounted_of_none (h : Sound config build s) (hpromise : s.flushLoopPromise = none) :
    Accounted config build s.log [] := by
  have haccounted := h.accounted
  rwa [flight, hpromise] at haccounted

theorem Sound.startFlushLoop (h : Sound config build s) :
    Sound config build (startFlushLoop config build s) := by
  cases hpromise : s.flushLoopPromise with
  | some loop => rwa [startFlushLoop_of_some hpromise]
  | none =>
    have hended := h.ended_of_none hpromise
    have haccounted := h.accounted_of_none hpromise
    by_cases hstops : s.pendingLength = 0 ∨ s.mayWait config = true ∧ s.flushTimer = true
    · rw [startFlushLoop_of_stops hpromise hstops]
      refine sound_of_ended haccounted fun j ↦ ?_
      dsimp only
      rw [loops_setLoop]
      split_ifs
      · rfl
      · exact hended j
    · rw [startFlushLoop_of_pending hpromise hstops]
      exact sound_takeBatch haccounted rfl fun j _ ↦ hended j

/-- A loop that has settled its batch, and is over. -/
theorem Sound.endLoop (h : Sound config build s) (hflushed : s.loops loop = .flushed)
    (hnot : s.pendingLength = 0 ∨ s.isFull config = false) :
    Sound config build (endLoop config build s loop) := by
  have hpromise := h.alone loop (by rw [hflushed]; exact nofun)
  rw [endLoop_eq hnot]
  refine sound_of_ended ?_ fun j ↦ ?_
  · have haccounted := h.accounted
    rwa [flight, hpromise, Option.map_some, hflushed] at haccounted
  · dsimp only
    rw [loops_setLoop]
    split_ifs with hj
    · rfl
    · by_contra hrunning
      exact hj (Option.some_inj.mp ((h.alone j hrunning).symm.trans hpromise))

theorem Sound.scheduleFlushTimer (h : Sound config build s) :
    Sound config build (s.scheduleFlushTimer config) := by
  rw [DbEvents.scheduleFlushTimer]
  split_ifs
  · exact h
  · exact h.congr rfl rfl rfl

theorem Sound.afterFlush (h : Sound config build s) (hflushed : s.loops loop = .flushed) :
    Sound config build (afterFlush config build s loop) := by
  have hpromise := h.alone loop (by rw [hflushed]; exact nofun)
  rw [DbEvents.afterFlush]
  split_ifs with hwait
  · refine h.scheduleFlushTimer.endLoop ?_ (.inr ?_)
    · rw [DbEvents.scheduleFlushTimer]
      split_ifs <;> exact hflushed
    · have hnot := isFull_of_mayWait hwait.1
      rw [DbEvents.scheduleFlushTimer]
      split_ifs <;> exact hnot
  · rw [runLoop]
    split_ifs with hstops
    · exact h.endLoop hflushed (hstops.imp_right fun h ↦ isFull_of_mayWait h.1)
    · refine sound_takeBatch ?_ hpromise fun j hj ↦ ?_
      · have haccounted := h.accounted
        rwa [flight, hpromise, Option.map_some, hflushed] at haccounted
      · by_contra hrunning
        exact hj (Option.some_inj.mp ((h.alone j hrunning).symm.trans hpromise))

theorem Sound.flushNow (h : Sound config build s) :
    Sound config build (flushNow config build s) := by
  have hforced : Sound config build s.forced := h.congr rfl rfl rfl
  exact hforced.startFlushLoop

theorem Sound.ensureAbortListener (h : Sound config build s) :
    Sound config build (ensureAbortListener config build s) := by
  rw [DbEvents.ensureAbortListener]
  split_ifs
  · exact h
  · have hattached : Sound config build { s with abortListenerAttached := true } :=
      h.congr rfl rfl rfl
    exact hattached.flushNow
  · exact h.congr rfl rfl rfl

theorem Sound.push (h : Sound config build s) (event : Event) :
    Sound config build (s.push event) :=
  ⟨h.accounted.push event, h.alone, h.inserting⟩

theorem Sound.settleBatch (h : Sound config build s) {ok : Bool}
    (hstep : s.settleBatch loop ok = some s') : Sound config build s' := by
  unfold DbEvents.settleBatch at hstep
  split at hstep
  · rename_i rows batch hinserting
    cases hstep
    have hpromise := h.alone loop (by rw [hinserting]; exact nofun)
    obtain ⟨rfl, hrows⟩ := h.inserting loop rows batch hinserting
    have haccounted := h.accounted
    rw [flight, hpromise, Option.map_some, hinserting] at haccounted
    have hother : ∀ j, (s.setLoop loop .flushed).loops j ≠ .ended →
        s.flushLoopPromise = some j := by
      intro j hj
      rw [loops_setLoop] at hj
      split_ifs at hj with hjl
      · rw [hjl, hpromise]
      · exact h.alone j hj
    refine ⟨?_, hother, fun j rows' batch' hj ↦ ?_⟩
    · have hflight : (s.setLoop loop .flushed).flight = [] := by
        rw [flight, setLoop]
        dsimp only
        rw [hpromise, Option.map_some, Function.update_self]
        rfl
      refine hflight ▸ ?_
      dsimp only
      split_ifs
      · refine haccounted.settle (List.subset_append_left _ _) (fun rows hmem ↦ ?_)
          fun _ ↦ .inr (List.mem_append_right _ (List.mem_singleton_self _))
        rcases List.mem_append.mp hmem with hold | hnew
        · exact haccounted.inserted rows hold
        · exact List.mem_singleton.mp hnew ▸ hrows
      · exact haccounted.settle (List.Subset.refl _) haccounted.inserted nofun
    · dsimp only at hj
      rw [loops_setLoop] at hj
      split_ifs at hj with hjl
      have hold := h.inserting j rows' batch' hj
      split_ifs <;> exact hold
  · cases hstep

end DbEvents

open DbEvents in
/-- **One step** loses no event, and settles none twice. -/
theorem dbEvents_sound_step {step : DbEventsStep Event} (h : Sound config build s)
    (hstep : dbEventsStep config build step s = some s') : Sound config build s' := by
  cases step with
  | process event =>
    cases hstep
    rw [process]
    have hpush := h.ensureAbortListener.push event
    split_ifs
    · exact hpush.startFlushLoop
    · exact hpush.scheduleFlushTimer
  | timer =>
    rw [dbEventsStep] at hstep
    split_ifs at hstep
    cases hstep
    have hcleared : Sound config build s.clearFlushTimer := h.congr rfl rfl rfl
    exact hcleared.startFlushLoop
  | abort =>
    rw [dbEventsStep] at hstep
    split_ifs at hstep
    · cases hstep
      have haborted : Sound config build { s with aborted := true } := h.congr rfl rfl rfl
      exact haborted.flushNow
    · cases hstep
      exact h.congr rfl rfl rfl
  | flushPending =>
    cases hstep
    exact h.flushNow.congr rfl rfl rfl
  | settle loop ok => exact h.settleBatch hstep
  | resume loop =>
    rw [dbEventsStep] at hstep
    split at hstep
    · rename_i hflushed
      cases hstep
      exact h.afterFlush hflushed
    · cases hstep
  | flushReturns call =>
    rw [dbEventsStep] at hstep
    split_ifs at hstep
    cases hstep
    exact h.congr rfl rfl rfl

end

/-! ## No event is stranded -/

section

variable {Event Row : Type*} {config : DbEventsConfig} {build : Event → Except String Row}
  {s s' : DbEvents Event Row} {loop : ℕ} {call : FlushCall}

namespace DbEvents

/-- The events that had been submitted before a call have been settled. -/
def SettledBefore (s : DbEvents Event Row) (call : FlushCall) : Prop :=
  ∀ n < call.submitted, n ∈ s.log.settled.map Prod.fst

/-- The call awaits a loop that will settle the events, or they have been settled. -/
def Awaits (s : DbEvents Event Row) (call : FlushCall) : Prop :=
  call.submitted ≤ s.log.submitted.length ∧
    ((∃ loop, call.loop = some loop ∧ s.flushLoopPromise = some loop ∧ s.forceFlush = true) ∨
      s.SettledBefore call)

/-- What holds where every flush that is asked for finds an event, or a loop that runs. -/
structure Live (s : DbEvents Event Row) : Prop where
  running : ∀ loop, s.flushLoopPromise = some loop → s.loops loop ≠ .ended
  armed : 0 < s.pendingLength → s.flushLoopPromise ≠ none ∨ s.flushTimer = true
  timer : s.flushTimer = true → 0 < s.pendingLength
  force : s.forceFlush = true → s.flushLoopPromise ≠ none
  waiting : ∀ call ∈ s.waiting, s.Awaits call
  returned : ∀ call ∈ s.returned, s.SettledBefore call

/-- A state in which a loop is started that has something to do. -/
structure Ready (config : DbEventsConfig) (s : DbEvents Event Row) : Prop where
  running : ∀ loop, s.flushLoopPromise = some loop → s.loops loop ≠ .ended
  timer : s.flushTimer = true → 0 < s.pendingLength
  goes : s.flushLoopPromise = none →
    ¬(s.pendingLength = 0 ∨ s.mayWait config = true ∧ s.flushTimer = true)
  waiting : ∀ call ∈ s.waiting, s.Awaits call
  returned : ∀ call ∈ s.returned, s.SettledBefore call

theorem SettledBefore.mono (h : s.SettledBefore call) (hsettled : s.log.settled ⊆ s'.log.settled) :
    s'.SettledBefore call := fun n hn ↦ List.map_subset Prod.fst hsettled (h n hn)

/-- **A loop that is started** runs. -/
theorem Ready.startFlushLoop (h : Ready config s) :
    Live (startFlushLoop config build s) ∧
      (startFlushLoop config build s).flushLoopPromise ≠ none ∧
      (startFlushLoop config build s).forceFlush = s.forceFlush ∧
      (startFlushLoop config build s).log.submitted = s.log.submitted := by
  cases hpromise : s.flushLoopPromise with
  | some loop =>
    have hsome : s.flushLoopPromise ≠ none := by rw [hpromise]; exact nofun
    rw [startFlushLoop_of_some hpromise]
    exact ⟨⟨h.running, fun _ ↦ .inl hsome, h.timer, fun _ ↦ hsome, h.waiting, h.returned⟩, hsome,
      rfl, rfl⟩
  | none =>
    rw [startFlushLoop_of_pending hpromise (h.goes hpromise)]
    generalize hnext : { s with
      nextLoop := s.nextLoop + 1, flushLoopPromise := some s.nextLoop } = next
    have htakes : TakesBatch next (takeBatch config build next s.nextLoop) s.nextLoop := takesBatch
    have hsome : (takeBatch config build next s.nextLoop).flushLoopPromise = some s.nextLoop :=
      htakes.promise.trans (by rw [← hnext])
    have hstarted : (takeBatch config build next s.nextLoop).flushLoopPromise ≠ none := by
      rw [hsome]
      exact nofun
    subst hnext
    refine ⟨⟨fun loop hloop ↦ ?_, fun _ ↦ .inl hstarted, fun htimer ↦ ?_, fun _ ↦ hstarted,
      fun call hcall ↦ ?_, fun call hcall ↦ ?_⟩, hstarted, htakes.force, htakes.submitted⟩
    · obtain rfl := Option.some_inj.mp (hsome.symm.trans hloop)
      exact htakes.running
    · exact absurd (htimer.symm.trans htakes.timer) nofun
    · obtain ⟨hsubmitted, hsettles⟩ := h.waiting call (htakes.waiting ▸ hcall)
      refine ⟨htakes.submitted ▸ hsubmitted, .inr ?_⟩
      rcases hsettles with ⟨loop, -, hloop, -⟩ | hsettled
      · exact absurd (hpromise.symm.trans hloop) nofun
      · exact hsettled.mono htakes.settled
    · exact (h.returned call (htakes.returned ▸ hcall)).mono htakes.settled

theorem Live.flushNow (h : Live s) (hfinds : 0 < s.pendingLength ∨ s.flushLoopPromise ≠ none) :
    Live (flushNow config build s) ∧ (flushNow config build s).flushLoopPromise ≠ none ∧
      (flushNow config build s).forceFlush = true ∧
      (flushNow config build s).log.submitted = s.log.submitted := by
  refine Ready.startFlushLoop ⟨h.running, nofun, fun hnone ↦ ?_, fun call hcall ↦ ?_, h.returned⟩
  · rintro (hempty | ⟨-, htimer⟩)
    · rcases hfinds with hpending | hsome
      · exact absurd hempty hpending.ne'
      · exact hsome hnone
    · cases htimer
  · obtain ⟨hsubmitted, hsettles⟩ := h.waiting call hcall
    refine ⟨hsubmitted, hsettles.imp_left ?_⟩
    rintro ⟨loop, hcall, hloop, -⟩
    exact ⟨loop, hcall, hloop, rfl⟩

theorem Awaits.push {event : Event} (h : s.Awaits call) : (s.push event).Awaits call := by
  refine ⟨h.1.trans ?_, h.2⟩
  exact (List.length_append ▸ Nat.le_add_right _ _ :
    s.log.submitted.length ≤ (s.log.submitted ++ [event]).length)

theorem pendingLength_push {event : Event} : (s.push event).pendingLength = s.pendingLength + 1 :=
  List.length_append

theorem Live.ensureAbortListener (h : Live s)
    (hfinds : s.abortListenerAttached = false → s.aborted = true →
      0 < s.pendingLength ∨ s.flushLoopPromise ≠ none) :
    Live (ensureAbortListener config build s) := by
  rw [DbEvents.ensureAbortListener]
  split_ifs with hattached haborted
  · exact h
  · have hlive : Live { s with abortListenerAttached := true } :=
      ⟨h.running, h.armed, h.timer, h.force, h.waiting, h.returned⟩
    exact (hlive.flushNow (hfinds (Bool.eq_false_iff.mpr hattached) haborted)).1
  · exact ⟨h.running, h.armed, h.timer, h.force, h.waiting, h.returned⟩

/-- The events wait for the timer. -/
theorem Live.scheduleFlushTimer (h : Live s) (hwindow : config.batchWindowMs ≠ 0) {event : Event} :
    Live ((s.push event).scheduleFlushTimer config) := by
  have hpending : 0 < (s.push event).pendingLength := pendingLength_push ▸ Nat.succ_pos _
  have hwaiting : ∀ call ∈ s.waiting, (s.push event).Awaits call := fun call hcall ↦
    (h.waiting call hcall).push
  rw [DbEvents.scheduleFlushTimer]
  split_ifs with htimer
  · exact ⟨h.running, fun _ ↦ .inr (htimer.resolve_left hwindow), fun _ ↦ hpending, h.force,
      hwaiting, h.returned⟩
  · exact ⟨h.running, fun _ ↦ .inr rfl, fun _ ↦ hpending, h.force,
      hwaiting, h.returned⟩

theorem Live.process (h : Live s) {event : Event}
    (hfinds : s.abortListenerAttached = false → s.aborted = true →
      0 < s.pendingLength ∨ s.flushLoopPromise ≠ none) :
    Live (process config build s event) := by
  have hlive : Live (DbEvents.ensureAbortListener config build s) := h.ensureAbortListener hfinds
  rw [DbEvents.process]
  generalize DbEvents.ensureAbortListener config build s = s₁ at hlive ⊢
  split_ifs with hfull
  · refine (Ready.startFlushLoop (s := s₁.push event) ⟨hlive.running, fun _ ↦ ?_, fun _ ↦ ?_,
      fun call hcall ↦ ?_, hlive.returned⟩).1
    · exact pendingLength_push ▸ Nat.succ_pos _
    · rintro (hempty | ⟨hwait, -⟩)
      · exact absurd hempty (pendingLength_push ▸ Nat.succ_ne_zero _)
      · exact absurd (hfull.symm.trans (isFull_of_mayWait hwait)) nofun
    · exact (hlive.waiting call hcall).push
  · refine hlive.scheduleFlushTimer fun hwindow ↦ hfull ?_
    rw [isFull, decide_eq_true hwindow, Bool.true_or]

/-- A loop that is over has left events to the timer, or has settled all. -/
theorem Live.of_ended (h : Live s) (hsound : Sound config build s)
    (hflushed : s.loops loop = .flushed)
    (hends : s.pendingLength = 0 ∨ s.forceFlush = false ∧ s.flushTimer = true) :
    Live { s.setLoop loop .ended with flushLoopPromise := none, forceFlush := false } := by
  have hpromise := hsound.alone loop (by rw [hflushed]; exact nofun)
  refine ⟨nofun, fun hpending ↦ .inr ?_, h.timer, nofun, fun call hcall ↦ ?_, h.returned⟩
  · rcases hends with hempty | ⟨-, htimer⟩
    · exact absurd hempty hpending.ne'
    · exact htimer
  · obtain ⟨hsubmitted, hsettles⟩ := h.waiting call hcall
    refine ⟨hsubmitted, .inr ?_⟩
    rcases hsettles with ⟨_, -, -, hforce⟩ | hsettled
    · rcases hends with hempty | ⟨hnot, -⟩
      · -- all events have been settled
        have hnone : s.flight = [] := by
          rw [flight, hpromise, Option.map_some, hflushed]
          rfl
        have haccounted := hsound.accounted.inOrder
        rw [hnone, List.map_nil, List.append_nil, List.eq_nil_of_length_eq_zero hempty,
          List.map_nil, List.append_nil] at haccounted
        intro n hn
        exact haccounted ▸ List.mem_range.mpr (hn.trans_le hsubmitted)
      · exact absurd (hforce.symm.trans hnot) nofun
    · exact hsettled

theorem Live.afterFlush (h : Live s) (hsound : Sound config build s)
    (hflushed : s.loops loop = .flushed) : Live (afterFlush config build s loop) := by
  have hpromise := hsound.alone loop (by rw [hflushed]; exact nofun)
  have hnotforced : s.mayWait config = true → s.forceFlush = false := by
    intro hwait
    simp only [mayWait, Bool.and_eq_true, Bool.not_eq_true'] at hwait
    exact hwait.1.1
  rw [DbEvents.afterFlush]
  split_ifs with hwait
  · have hwindow : config.batchWindowMs ≠ 0 := by
      have hmay := hwait.1
      simp only [mayWait, Bool.and_eq_true, decide_eq_true_eq] at hmay
      exact hmay.1.2.ne'
    have hscheduled : Live (s.scheduleFlushTimer config) ∧
        (s.scheduleFlushTimer config).flushTimer = true := by
      rw [DbEvents.scheduleFlushTimer]
      split_ifs with htimer
      · exact ⟨h, htimer.resolve_left hwindow⟩
      · exact ⟨⟨h.running, fun _ ↦ .inr rfl, fun _ ↦ hwait.2, h.force,
          h.waiting, h.returned⟩, rfl⟩
    have hsame : (s.scheduleFlushTimer config).loops loop = .flushed ∧
        (s.scheduleFlushTimer config).forceFlush = false ∧
        (s.scheduleFlushTimer config).isFull config = false := by
      rw [DbEvents.scheduleFlushTimer]
      split_ifs <;> exact ⟨hflushed, hnotforced hwait.1, isFull_of_mayWait hwait.1⟩
    rw [endLoop_eq (.inr hsame.2.2)]
    exact hscheduled.1.of_ended hsound.scheduleFlushTimer hsame.1 (.inr ⟨hsame.2.1, hscheduled.2⟩)
  · by_cases hstops : s.pendingLength = 0 ∨ s.mayWait config = true ∧ s.flushTimer = true
    · rw [runLoop_of_stops hstops]
      exact h.of_ended hsound hflushed (hstops.imp_right fun hstops ↦
        ⟨hnotforced hstops.1, hstops.2⟩)
    · rw [runLoop_of_goes hstops]
      have htakes : TakesBatch s (takeBatch config build s loop) loop := takesBatch
      have hsome := htakes.promise.trans hpromise
      refine ⟨fun j hj ↦ ?_, fun _ ↦ .inl (by rw [hsome]; exact nofun), fun htimer ↦ ?_,
        fun _ ↦ by rw [hsome]; exact nofun, fun call hcall ↦ ?_, fun call hcall ↦ ?_⟩
      · obtain rfl := Option.some_inj.mp (hsome.symm.trans hj)
        exact htakes.running
      · exact absurd (htimer.symm.trans htakes.timer) nofun
      · obtain ⟨hsubmitted, hsettles⟩ := h.waiting call (htakes.waiting ▸ hcall)
        refine ⟨htakes.submitted ▸ hsubmitted, ?_⟩
        rcases hsettles with ⟨j, hjcall, hj, hforce⟩ | hsettled
        · exact .inl ⟨j, hjcall, htakes.promise.trans hj, htakes.force.trans hforce⟩
        · exact .inr (hsettled.mono htakes.settled)
      · exact (h.returned call (htakes.returned ▸ hcall)).mono htakes.settled

theorem Live.settleBatch (h : Live s) {ok : Bool} (hstep : s.settleBatch loop ok = some s') :
    Live s' := by
  unfold DbEvents.settleBatch at hstep
  split at hstep
  · rename_i rows batch hinserting
    cases hstep
    have hlog : ∀ log : EventLog Event Row, log.pending = s.log.pending →
        log.submitted = s.log.submitted → s.log.settled ⊆ log.settled →
        Live { s.setLoop loop .flushed with log := log } := by
      intro log hpending hsubmitted hsettled
      have hlength : log.pending.length = s.pendingLength := congrArg List.length hpending
      refine ⟨fun j hj ↦ ?_, fun hp ↦ h.armed (hp.trans_eq hlength),
        fun ht ↦ (h.timer ht).trans_eq hlength.symm, h.force, fun call hcall ↦ ?_,
        fun call hcall ↦ (h.returned call hcall).mono hsettled⟩
      · dsimp only
        rw [loops_setLoop]
        split_ifs
        · exact nofun
        · exact h.running j hj
      · obtain ⟨hle, hsettles⟩ := h.waiting call hcall
        exact ⟨hsubmitted ▸ hle, hsettles.imp_right fun hold ↦ hold.mono hsettled⟩
    refine hlog _ ?_ ?_ ?_
    · split_ifs <;> rfl
    · split_ifs <;> rfl
    · split_ifs <;> exact List.subset_append_left _ _
  · cases hstep

end DbEvents

open DbEvents in
/-- **One step** that finds events, where it asks for a flush, strands none. -/
theorem dbEvents_live_step {step : DbEventsStep Event} (h : Live s) (hsound : Sound config build s)
    (hok : FindsEvents s step) (hstep : dbEventsStep config build step s = some s') : Live s' := by
  cases step with
  | process event =>
    cases hstep
    refine h.process fun hattached haborted ↦ hok ?_
    rw [DbEventsStep.asksForFlush, hattached, haborted]
    rfl
  | timer =>
    rw [dbEventsStep] at hstep
    split_ifs at hstep with htimer
    cases hstep
    refine (Ready.startFlushLoop (s := s.clearFlushTimer) ⟨h.running, nofun, fun _ ↦ ?_, h.waiting,
      h.returned⟩).1
    rintro (hempty | ⟨-, hfalse⟩)
    · exact absurd hempty (h.timer htimer).ne'
    · cases hfalse
  | abort =>
    rw [dbEventsStep] at hstep
    have hlive : Live { s with aborted := true } :=
      ⟨h.running, h.armed, h.timer, h.force, h.waiting, h.returned⟩
    split_ifs at hstep with _ hattached
    · cases hstep
      exact (hlive.flushNow (hok hattached)).1
    · cases hstep
      exact hlive
  | flushPending =>
    cases hstep
    have hflush : Live (flushNow config build s) ∧ _ := h.flushNow (hok rfl)
    obtain ⟨hlive, hsome, hforce, hsubmitted⟩ := hflush
    refine ⟨hlive.running, hlive.armed, hlive.timer, hlive.force, fun call hcall ↦ ?_,
      hlive.returned⟩
    rcases List.mem_cons.mp hcall with rfl | hold
    · obtain ⟨loop, hloop⟩ := Option.ne_none_iff_exists'.mp hsome
      exact ⟨hsubmitted ▸ le_rfl, .inl ⟨loop, hloop, hloop, hforce⟩⟩
    · exact hlive.waiting call hold
  | settle loop ok => exact h.settleBatch hstep
  | resume loop =>
    rw [dbEventsStep] at hstep
    split at hstep
    · rename_i hflushed
      cases hstep
      exact h.afterFlush hsound hflushed
    · cases hstep
  | flushReturns call =>
    rw [dbEventsStep] at hstep
    split_ifs at hstep with hreturns
    cases hstep
    refine ⟨h.running, h.armed, h.timer, h.force, fun other hother ↦ ?_, fun other hother ↦ ?_⟩
    · exact h.waiting other (List.mem_of_mem_erase hother)
    · rcases List.mem_cons.mp hother with rfl | hold
      · rcases (h.waiting other hreturns.1).2 with ⟨loop, hcall, hloop, -⟩ | hsettled
        · -- the loop that is awaited has not ended
          have hended := hreturns.2
          rw [hcall, Option.all_some] at hended
          refine absurd ?_ (h.running loop hloop)
          cases hstate : s.loops loop with
          | ended => rfl
          | _ =>
            rw [hstate] at hended
            cases hended
        · exact hsettled
      · exact h.returned other hold

end

/-! ## A flush of nothing -/

section

variable {Event Row : Type*} {config : DbEventsConfig} {build : Event → Except String Row}
  {s s' : DbEvents Event Row} {loop : ℕ}

namespace DbEvents

/-- The promise is that of a loop that has ended. -/
structure Stuck (s : DbEvents Event Row) : Prop where
  promise : s.flushLoopPromise ≠ none
  ended : ∀ loop, s.loops loop = .ended

/-- Events wait, with no loop and no timer. -/
structure Stranded (s : DbEvents Event Row) : Prop where
  pending : 0 < s.pendingLength
  ended : ∀ loop, s.loops loop = .ended
  timer : s.flushTimer = false

theorem Stuck.startFlushLoop (h : Stuck s) : startFlushLoop config build s = s := by
  obtain ⟨loop, hloop⟩ := Option.ne_none_iff_exists'.mp h.promise
  exact startFlushLoop_of_some hloop

theorem Stuck.scheduleFlushTimer (h : Stuck s) : Stuck (s.scheduleFlushTimer config) ∧
    (s.scheduleFlushTimer config).log = s.log := by
  rw [DbEvents.scheduleFlushTimer]
  split_ifs
  · exact ⟨h, rfl⟩
  · exact ⟨⟨h.promise, h.ended⟩, rfl⟩

theorem Stuck.push (h : Stuck s) (event : Event) : Stuck (s.push event) := ⟨h.promise, h.ended⟩

/-- A flush of nothing leaves the promise of a loop that has ended. -/
theorem stuck_flushNow (hsound : Sound config build s) (hpromise : s.flushLoopPromise = none)
    (hempty : s.pendingLength = 0) : Stuck (flushNow config build s) := by
  rw [flushNow, startFlushLoop_of_stops (s := s.forced) hpromise (.inl hempty)]
  refine ⟨nofun, fun j ↦ ?_⟩
  dsimp only
  rw [loops_setLoop]
  split_ifs
  · rfl
  · exact hsound.ended_of_none hpromise j

theorem Stuck.ensureAbortListener (h : Stuck s) : Stuck (ensureAbortListener config build s) := by
  rw [DbEvents.ensureAbortListener]
  split_ifs
  · exact h
  · have hstuck : Stuck (forced { s with abortListenerAttached := true }) := ⟨h.promise, h.ended⟩
    rw [flushNow, hstuck.startFlushLoop]
    exact hstuck
  · exact ⟨h.promise, h.ended⟩

/-- An event is put into the queue, and stays there. -/
theorem Stuck.of_ensured {event : Event} (h : Stuck (DbEvents.ensureAbortListener config build s)) :
    Stuck (process config build s event) ∧ 0 < (process config build s event).pendingLength := by
  rw [process]
  generalize DbEvents.ensureAbortListener config build s = s₁ at h ⊢
  have hpending : 0 < (s₁.push event).pendingLength := pendingLength_push ▸ Nat.succ_pos _
  split_ifs
  · rw [(h.push event).startFlushLoop]
    exact ⟨h.push event, hpending⟩
  · have hscheduled : Stuck ((s₁.push event).scheduleFlushTimer config) ∧
        ((s₁.push event).scheduleFlushTimer config).log = (s₁.push event).log :=
      (h.push event).scheduleFlushTimer
    exact ⟨hscheduled.1, by rw [pendingLength, hscheduled.2]; exact hpending⟩

/-- **Every event is stranded**, at the latest when the timer has fired. -/
theorem Stuck.exists_stranded (h : Stuck s) (event : Event) : ∃ bs s',
    Run (dbEventsStep config build) (fun _ _ ↦ True) s (.process event :: bs) s' ∧
      Stranded s' := by
  have hensured : Stuck (DbEvents.ensureAbortListener config build s) := h.ensureAbortListener
  obtain ⟨hstuck, hpending⟩ : Stuck (process config build s event) ∧
      0 < (process config build s event).pendingLength := hensured.of_ensured
  have hprocess : Run (dbEventsStep config build) (fun _ _ ↦ True) s [.process event]
      (process config build s event) := .snoc .nil trivial rfl
  cases htimer : (process config build s event).flushTimer with
  | false => exact ⟨[], _, hprocess, hpending, hstuck.ended, htimer⟩
  | true =>
    have hcleared : Stuck (process config build s event).clearFlushTimer :=
      ⟨hstuck.promise, hstuck.ended⟩
    have hfires : dbEventsStep config build .timer (process config build s event)
        = some (process config build s event).clearFlushTimer := by
      rw [dbEventsStep, if_pos htimer, hcleared.startFlushLoop]
    exact ⟨[.timer], _, hprocess.snoc trivial hfires, hpending, hcleared.ended, rfl⟩

/-- A step that asks for a flush of nothing. -/
theorem stuck_of_not_findsEvents {step : DbEventsStep Event} (hsound : Sound config build s)
    (hbad : ¬FindsEvents s step) (hstep : dbEventsStep config build step s = some s') :
    Stuck s' := by
  rw [FindsEvents, Classical.not_imp, not_or, Nat.pos_iff_ne_zero, not_not, not_not] at hbad
  obtain ⟨hasks, hempty, hpromise⟩ := hbad
  cases step with
  | process event =>
    rw [DbEventsStep.asksForFlush, Bool.and_eq_true, Bool.not_eq_true'] at hasks
    cases hstep
    refine (Stuck.of_ensured ?_).1
    rw [ensureAbortListener, if_neg (by rw [hasks.1]; exact nofun), if_pos hasks.2]
    have hattached : Sound config build { s with abortListenerAttached := true } :=
      hsound.congr rfl rfl rfl
    exact stuck_flushNow hattached hpromise hempty
  | abort =>
    rw [dbEventsStep] at hstep
    split_ifs at hstep with _ hattached
    · cases hstep
      have haborted : Sound config build { s with aborted := true } := hsound.congr rfl rfl rfl
      exact stuck_flushNow haborted hpromise hempty
    · exact absurd hasks hattached
  | flushPending =>
    cases hstep
    have hstuck := stuck_flushNow hsound hpromise hempty
    exact ⟨hstuck.promise, hstuck.ended⟩
  | _ => cases hasks

end DbEvents

/-! ## Every run -/

open DbEvents

theorem dbEvents_sound_run {aborted : Bool} {ok : DbEvents Event Row → DbEventsStep Event → Prop}
    {as : List (DbEventsStep Event)}
    (hrun : Run (dbEventsStep config build) ok (dbEventsStart Event Row aborted) as s) :
    Sound config build s := by
  refine hrun.invariant ?_ fun _ _ _ h _ hstep ↦ dbEvents_sound_step h hstep
  refine sound_of_ended ⟨rfl, ?_, .slnil, ?_, ?_, ?_⟩ fun _ ↦ rfl
  · exact fun _ hentry ↦ absurd hentry List.not_mem_nil
  · exact fun _ hrows ↦ absurd hrows List.not_mem_nil
  · exact fun _ hrows ↦ absurd hrows List.not_mem_nil
  · exact fun _ _ _ hn ↦ absurd hn List.not_mem_nil

theorem dbEvents_live_run {aborted : Bool} {as : List (DbEventsStep Event)}
    (hrun : Run (dbEventsStep config build) FindsEvents (dbEventsStart Event Row aborted) as s) :
    Live s := by
  induction hrun with
  | nil =>
    exact ⟨nofun, fun h ↦ absurd h (lt_irrefl 0), nofun, nofun,
      fun _ hcall ↦ absurd hcall List.not_mem_nil, fun _ hcall ↦ absurd hcall List.not_mem_nil⟩
  | snoc hrun hok hstep ih => exact dbEvents_live_step ih (dbEvents_sound_run hrun) hok hstep

/-- Each event is settled once at most, and is in one `INSERT` at most, which has succeeded when its
promise is resolved; events are taken in the order of their submission, and not too many at a
time. -/
structure DbEvents.Batched (config : DbEventsConfig) (build : Event → Except String Row)
    (s : DbEvents Event Row) : Prop where
  settledOnce : (s.log.settled.map Prod.fst).Nodup
  insertsInOrder : (s.log.inserts.flatten.map Prod.fst).Pairwise (· < ·)
  takenInOrder : s.log.settled.map Prod.fst ++ s.flight.map PendingEvent.number ++
    s.log.pending.map PendingEvent.number = List.range s.log.submitted.length
  atMost : ∀ rows ∈ s.log.inserts, rows.length ≤ config.batchMaxRows
  inserted : ∀ rows ∈ s.log.inserted, rows ∈ s.log.inserts
  resolved : ∀ n event row, (n, .resolved) ∈ s.log.settled → s.log.submitted[n]? = some event →
    build event = .ok row → ∃ rows ∈ s.log.inserted, (n, row) ∈ rows

theorem DbEvents.Sound.batched (h : Sound config build s) : Batched config build s := by
  obtain ⟨hinOrder, -, hinserts, hatMost, hinserted, hresolved⟩ := h.accounted
  have hsorted :
      (s.log.settled.map Prod.fst ++ s.flight.map PendingEvent.number).Pairwise (· < ·) := by
    have hrange := List.pairwise_lt_range (n := s.log.submitted.length)
    rw [← hinOrder] at hrange
    exact (List.pairwise_append.mp hrange).1
  refine ⟨?_, hsorted.sublist hinserts, hinOrder, hatMost, hinserted, hresolved⟩
  exact (List.pairwise_append.mp hsorted).1.imp fun hlt ↦ hlt.ne

/-- An event that is settled does not wait. -/
theorem DbEvents.Sound.not_pending (h : Sound config build s) {n : ℕ}
    (hn : n ∈ s.log.settled.map Prod.fst) : n ∉ s.log.pending.map PendingEvent.number := by
  have hnodup := List.nodup_range (n := s.log.submitted.length)
  rw [← h.accounted.inOrder] at hnodup
  intro hpending
  exact (List.nodup_append.mp hnodup).2.2 n (List.mem_append_left _ hn) n hpending rfl

/-- **Events are neither stranded nor repeated.** In every run each is settled once at most. Where
every flush that is asked for finds an event in the queue or a loop that runs, events that wait are
with a loop or a timer, and the events before a call of `flushPending` have been settled when it
returns. After any other request for a flush the next event is stranded. -/
theorem events_batched (config : DbEventsConfig) (build : Event → Except String Row)
    (aborted : Bool) (as : List (DbEventsStep Event)) (s : DbEvents Event Row) :
    (Run (dbEventsStep config build) (fun _ _ ↦ True) (dbEventsStart Event Row aborted) as s →
      Batched config build s) ∧
    (Run (dbEventsStep config build) FindsEvents (dbEventsStart Event Row aborted) as s →
      (s.log.pending ≠ [] → (∃ loop, s.loops loop ≠ .ended) ∨ s.flushTimer = true) ∧
      (∀ call ∈ s.returned, ∀ n < call.submitted, n ∈ s.log.settled.map Prod.fst ∧
        n ∉ s.log.pending.map PendingEvent.number) ∧
      ∀ step s' event, ¬FindsEvents s step → dbEventsStep config build step s = some s' →
        ∃ bs s'', Run (dbEventsStep config build) (fun _ _ ↦ True) s' (.process event :: bs) s'' ∧
          Stranded s'') := by
  refine ⟨fun hrun ↦ (dbEvents_sound_run hrun).batched, fun hrun ↦ ?_⟩
  have hsound := dbEvents_sound_run hrun
  have hlive := dbEvents_live_run hrun
  refine ⟨fun hpending ↦ ?_, fun call hcall n hn ↦ ?_, fun step s' event hbad hstep ↦ ?_⟩
  · rcases hlive.armed (List.length_pos_iff.mpr hpending) with hsome | htimer
    · obtain ⟨loop, hloop⟩ := Option.ne_none_iff_exists'.mp hsome
      exact .inl ⟨loop, hlive.running loop hloop⟩
    · exact .inr htimer
  · have hsettled := hlive.returned call hcall n hn
    exact ⟨hsettled, hsound.not_pending hsettled⟩
  · exact (stuck_of_not_findsEvents hsound hbad hstep).exists_stranded event

end

/-- Two rows at most, or every half second. -/
def twoRowsConfig : DbEventsConfig := ⟨500, 2, Nat.two_pos⟩

/-- An event is its row, where it has one. -/
def pointRow : Option ℕ → Except String ℕ
  | none => .error "payload_not_object"
  | some row => .ok row

/-- Two events fill a batch. -/
theorem events_batched_twoEvents : ∃ s : DbEvents (Option ℕ) ℕ,
    s.log.inserts = [[(0, 5)]] ∧ s.log.settled = [(0, .resolved), (1, .resolved)] ∧
      DbEvents.Batched twoRowsConfig pointRow s := by
  have hexecute : (execute (dbEventsStep twoRowsConfig pointRow) FindsEvents
      [.process (some 5), .process none, .settle 0 true, .resume 0]
      (dbEventsStart (Option ℕ) ℕ false)).any (fun s ↦ decide (s.log.inserts = [[(0, 5)]] ∧
        s.log.settled = [(0, .resolved), (1, .resolved)])) = true := by
    decide +kernel
  obtain ⟨s, hs, hfacts⟩ := (Option.any_eq_true _ _).mp hexecute
  obtain ⟨hinserts, hsettled⟩ := of_decide_eq_true hfacts
  exact ⟨s, hinserts, hsettled, (events_batched _ _ _ _ _).1 <|
    (run_of_execute hs).mono fun _ _ _ ↦ trivial⟩

/-- **An event is stranded** after a call of `flushPending` on an empty queue: the timer fires, and
nothing happens; the next call returns at once. -/
theorem not_events_batched : ∃ s : DbEvents (Option ℕ) ℕ,
    Run (dbEventsStep twoRowsConfig pointRow) (fun _ _ ↦ True) (dbEventsStart (Option ℕ) ℕ false)
      [.flushPending, .process (some 5), .timer, .flushPending, .flushReturns ⟨some 0, 1⟩] s ∧
    DbEvents.Stranded s ∧ ⟨some 0, 1⟩ ∈ s.returned ∧
      s.log.pending.map PendingEvent.number = [0] := by
  have hexecute : (execute (dbEventsStep twoRowsConfig pointRow) (fun _ _ ↦ True)
      [.flushPending, .process (some 5), .timer, .flushPending, .flushReturns ⟨some 0, 1⟩]
      (dbEventsStart (Option ℕ) ℕ false)).any (fun s ↦ decide (0 < s.pendingLength ∧
        s.flushTimer = false ∧ (s.flushLoopPromise = some 0 ∧ (s.loops 0).hasEnded = true) ∧
        ⟨some 0, 1⟩ ∈ s.returned ∧ s.log.pending.map PendingEvent.number = [0])) = true := by
    decide +kernel
  obtain ⟨s, hs, hfacts⟩ := (Option.any_eq_true _ _).mp hexecute
  obtain ⟨hpending, htimer, ⟨hpromise, hended⟩, hreturned, hnumbers⟩ := of_decide_eq_true hfacts
  have hrun := run_of_execute hs
  refine ⟨s, hrun, ⟨hpending, fun loop ↦ ?_, htimer⟩, hreturned, hnumbers⟩
  by_contra hrunning
  have halone := (dbEvents_sound_run hrun).alone loop hrunning
  obtain rfl := Option.some_inj.mp (halone.symm.trans hpromise)
  cases hloop : s.loops 0 with
  | ended => exact hrunning hloop
  | _ =>
    rw [hloop] at hended
    cases hended

end RwServer
