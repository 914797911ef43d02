import Mathlib
import RwServer.Foundation.RingBuffer
import RwServer.Foundation.Run

/-!
# The bounded runtime of a processor

A runtime gives the events that are submitted to it to its processor, not more than `concurrency` of
them at a time, and lets the others wait in a deque. When the deque is full a new event drops the
oldest one that waits. A call of `submit` and the completion of a process call are each one step:
nothing in them waits, and both end with `schedule`, which starts events while there are slots and
events that wait.

`events_conserved` says what then holds at every moment of every run: no event is lost or doubled,
the bounds are kept, and events start in the order of their submission.
-/

namespace RwServer

open Transition

/-- The queue of a runtime: a ring buffer. -/
abbrev BoundedDeque (α : Type*) (capacity : ℕ) := RingBuffer α capacity

structure ProcessorRuntimeConfig where
  concurrency : ℕ
  queueCapacity : ℕ
  concurrency_pos : 0 < concurrency
  queueCapacity_pos : 0 < queueCapacity

/-- An accepted event, numbered by its submission. -/
structure Submission (α : Type*) where
  number : ℕ
  event : α

/-- How a process call ends. -/
inductive ProcessOutcome
  | ok
  | failed
  | timedOut
deriving DecidableEq, Repr

inductive RuntimeSubmitResult
  | accepted (droppedOldest : Bool)
  | shuttingDown
deriving DecidableEq, Repr

/-- A runtime, and what has become of the events. -/
structure BoundedRuntime (config : ProcessorRuntimeConfig) (α : Type*) where
  queue : BoundedDeque (Submission α) config.queueCapacity
  inFlight : ℕ
  isShuttingDown : Bool
  /-- The process calls that have not ended. -/
  running : List (Submission α)
  accepted : List (Submission α)
  /-- The process calls that have been made, in order. -/
  started : List (Submission α)
  finished : List (Submission α × ProcessOutcome)
  dropped : List (Submission α)

namespace BoundedRuntime

variable {config : ProcessorRuntimeConfig} {α : Type*}

/-- `createBoundedRuntime`. -/
def create (config : ProcessorRuntimeConfig) (α : Type*) : BoundedRuntime config α where
  queue := .new config.queueCapacity config.queueCapacity_pos
  inFlight := 0
  isShuttingDown := false
  running := []
  accepted := []
  started := []
  finished := []
  dropped := []

/-- Give an event to the processor. -/
def start (s : BoundedRuntime config α) (event : Submission α) : BoundedRuntime config α :=
  { s with
    inFlight := s.inFlight + 1
    running := s.running ++ [event]
    started := s.started ++ [event] }

/-- The rounds of the loop of `schedule`. -/
def scheduleRounds : ℕ → BoundedRuntime config α → BoundedRuntime config α
  | 0, s => s
  | n + 1, s =>
    if s.inFlight < config.concurrency ∧ 0 < s.queue.size then
      match s.queue.shift with
      | (none, queue) => scheduleRounds n { s with queue := queue }
      | (some event, queue) => scheduleRounds n (start { s with queue := queue } event)
    else s

/-- `schedule`. Each round takes one event out of the queue. -/
def schedule (s : BoundedRuntime config α) : BoundedRuntime config α :=
  scheduleRounds s.queue.size s

/-- `submit`. -/
def submit (event : α) (s : BoundedRuntime config α) :
    RuntimeSubmitResult × BoundedRuntime config α :=
  if s.isShuttingDown then (.shuttingDown, s)
  else
    let submission : Submission α := ⟨s.accepted.length, event⟩
    let droppedOldest := s.queue.isFull
    let s := if droppedOldest then
        { s with queue := s.queue.shift.2, dropped := s.dropped ++ s.queue.shift.1.toList }
      else s
    let s := { s with
      queue := (s.queue.push submission).2
      accepted := s.accepted ++ [submission] }
    (.accepted droppedOldest, schedule s)

/-- The promise of a process call settles: the slot is free again. -/
def settle (index : ℕ) (outcome : ProcessOutcome) (s : BoundedRuntime config α) :
    Option (BoundedRuntime config α) :=
  s.running[index]?.map fun event ↦ schedule { s with
    inFlight := s.inFlight - 1
    running := s.running.eraseIdx index
    finished := s.finished ++ [(event, outcome)] }

/-- What happens to a runtime before it shuts down. -/
inductive Step (α : Type*)
  | submit (event : α)
  | settle (index : ℕ) (outcome : ProcessOutcome)

def Step.submitted? : Step α → Option α
  | .submit event => some event
  | .settle _ _ => none

def step : Step α → BoundedRuntime config α → Option (BoundedRuntime config α)
  | .submit event, s => some (s.submit event).2
  | .settle index outcome, s => s.settle index outcome

/-! ## The invariant -/

/-- What holds of a runtime, also while it schedules. -/
structure Accounts (s : BoundedRuntime config α) : Prop where
  open_ : s.isShuttingDown = false
  inFlight_eq : s.inFlight = s.running.length
  inFlight_le : s.inFlight ≤ config.concurrency
  numbered : s.accepted.map Submission.number = List.range s.accepted.length
  started_perm : s.started.Perm (s.running ++ s.finished.map Prod.fst)
  accepted_perm : s.accepted.Perm (s.queue.toList ++ s.started ++ s.dropped)
  /-- What has started, and then what waits, is in the order of submission. -/
  ordered : (s.started ++ s.queue.toList).Pairwise fun a b ↦ a.number < b.number

/-- No event waits while there is a slot. -/
def Busy (s : BoundedRuntime config α) : Prop :=
  s.queue.toList ≠ [] → s.inFlight = config.concurrency

variable {s s' : BoundedRuntime config α}

theorem accounts_create : Accounts (create config α) where
  open_ := rfl
  inFlight_eq := rfl
  inFlight_le := Nat.zero_le _
  numbered := rfl
  started_perm := .refl _
  accepted_perm := .refl _
  ordered := .nil

/-- The first event that waits can be started. -/
theorem Accounts.start (h : Accounts s) (hslot : s.inFlight < config.concurrency)
    {event : Submission α} {queue : BoundedDeque (Submission α) config.queueCapacity}
    (hqueue : s.queue.toList = event :: queue.toList) :
    Accounts (BoundedRuntime.start { s with queue := queue } event) where
  open_ := h.open_
  inFlight_eq := by
    change s.inFlight + 1 = (s.running ++ [event]).length
    rw [List.length_append, h.inFlight_eq]
    rfl
  inFlight_le := hslot
  numbered := h.numbered
  started_perm := by
    change (s.started ++ [event]).Perm (s.running ++ [event] ++ s.finished.map Prod.fst)
    refine (h.started_perm.append_right [event]).trans ?_
    rw [List.append_assoc, List.append_assoc]
    exact List.perm_append_comm.append_left _
  accepted_perm := by
    change s.accepted.Perm (queue.toList ++ (s.started ++ [event]) ++ s.dropped)
    refine h.accepted_perm.trans (List.Perm.append_right _ ?_)
    rw [hqueue, ← List.append_assoc]
    exact (List.perm_append_singleton event _).symm
  ordered := by
    change (s.started ++ [event] ++ queue.toList).Pairwise _
    rw [List.append_assoc, List.singleton_append, ← hqueue]
    exact h.ordered

/-- A round starts the first event that waits, if there is a slot for it. -/
theorem scheduleRounds_succ (n : ℕ) (s : BoundedRuntime config α) :
    (∃ event queue, s.inFlight < config.concurrency ∧ s.queue.toList = event :: queue.toList ∧
      scheduleRounds (n + 1) s
        = scheduleRounds n (BoundedRuntime.start { s with queue := queue } event)) ∨
      (s.queue.toList ≠ [] → config.concurrency ≤ s.inFlight) ∧ scheduleRounds (n + 1) s = s := by
  by_cases hloop : s.inFlight < config.concurrency ∧ 0 < s.queue.size
  · obtain ⟨hfirst, hrest⟩ := RingBuffer.toList_shift s.queue
    obtain ⟨event, rest, hqueue⟩ : ∃ event rest, s.queue.toList = event :: rest := by
      refine List.exists_cons_of_length_pos ?_
      rw [RingBuffer.length_toList]
      exact hloop.2
    rw [scheduleRounds, if_pos hloop]
    rw [hqueue] at hfirst hrest
    generalize s.queue.shift = shifted at hfirst hrest ⊢
    obtain ⟨first, queue⟩ := shifted
    obtain rfl : first = some event := hfirst
    have hrest : queue.toList = rest := hrest
    exact .inl ⟨event, queue, hloop.1, hqueue.trans (hrest ▸ rfl), rfl⟩
  · refine .inr ⟨fun hne ↦ not_lt.mp fun hslot ↦ hloop ⟨hslot, ?_⟩, by
      rw [scheduleRounds, if_neg hloop]⟩
    rw [RingBuffer.size, ← RingBuffer.length_toList]
    exact List.length_pos_of_ne_nil hne

/-- **What scheduling leaves.** The accounts are kept, and where the rounds suffice no event waits
while there is a slot. -/
theorem Accounts.scheduleRounds {n : ℕ} (h : Accounts s) (hn : s.queue.toList.length ≤ n) :
    Accounts (BoundedRuntime.scheduleRounds n s) ∧ Busy (BoundedRuntime.scheduleRounds n s) ∧
      (BoundedRuntime.scheduleRounds n s).accepted = s.accepted ∧
      (BoundedRuntime.scheduleRounds n s).dropped = s.dropped := by
  induction n generalizing s with
  | zero =>
    exact ⟨h, fun hne ↦ absurd (List.length_eq_zero_iff.mp (Nat.le_zero.mp hn)) hne, rfl, rfl⟩
  | succ n ih =>
    rcases scheduleRounds_succ n s with ⟨event, queue, hslot, hqueue, heq⟩ | ⟨hfull, heq⟩
    · rw [heq]
      rw [hqueue] at hn
      exact ih (h.start hslot hqueue) (Nat.le_of_succ_le_succ hn)
    · rw [heq]
      exact ⟨h, fun hne ↦ h.inFlight_le.antisymm (hfull hne), rfl, rfl⟩

theorem Accounts.schedule (h : Accounts s) :
    Accounts s.schedule ∧ Busy s.schedule ∧ s.schedule.accepted = s.accepted ∧
      s.schedule.dropped = s.dropped :=
  h.scheduleRounds (RingBuffer.length_toList _).le

/-- The number of an accepted event is below the number of those accepted. -/
theorem Accounts.number_lt (h : Accounts s) {event : Submission α} (hmem : event ∈ s.accepted) :
    event.number < s.accepted.length := by
  rw [← List.mem_range, ← h.numbered]
  exact List.mem_map_of_mem hmem

/-- The oldest event makes room. -/
theorem Accounts.drop (h : Accounts s) {oldest : Submission α}
    {queue : BoundedDeque (Submission α) config.queueCapacity}
    (hqueue : s.queue.toList = oldest :: queue.toList) :
    Accounts { s with queue := queue, dropped := s.dropped ++ [oldest] } where
  open_ := h.open_
  inFlight_eq := h.inFlight_eq
  inFlight_le := h.inFlight_le
  numbered := h.numbered
  started_perm := h.started_perm
  accepted_perm := by
    change s.accepted.Perm (queue.toList ++ s.started ++ (s.dropped ++ [oldest]))
    refine h.accepted_perm.trans ?_
    rw [hqueue, List.cons_append, List.cons_append, ← List.append_assoc]
    exact (List.perm_append_singleton oldest _).symm
  ordered := by
    refine h.ordered.sublist (List.Sublist.append_left ?_ _)
    rw [hqueue]
    exact List.sublist_cons_self _ _

/-- A new event goes to the end of the queue. -/
theorem Accounts.enqueue (h : Accounts s) (event : α)
    {queue : BoundedDeque (Submission α) config.queueCapacity}
    (hqueue : queue.toList = s.queue.toList ++ [⟨s.accepted.length, event⟩]) :
    Accounts { s with queue := queue, accepted := s.accepted ++ [⟨s.accepted.length, event⟩] } where
  open_ := h.open_
  inFlight_eq := h.inFlight_eq
  inFlight_le := h.inFlight_le
  numbered := by
    change (s.accepted ++ [_]).map Submission.number = List.range (s.accepted ++ [_]).length
    rw [List.map_append, h.numbered, List.length_append, List.length_singleton, List.range_succ]
    rfl
  started_perm := h.started_perm
  accepted_perm := by
    change (s.accepted ++ [_]).Perm (queue.toList ++ s.started ++ s.dropped)
    rw [hqueue, List.append_assoc, List.append_assoc]
    refine (h.accepted_perm.append_right _).trans ?_
    rw [List.append_assoc, List.append_assoc]
    refine List.Perm.append_left _ ?_
    rw [← List.append_assoc]
    exact List.perm_append_comm
  ordered := by
    change (s.started ++ queue.toList).Pairwise _
    rw [hqueue, ← List.append_assoc, List.pairwise_append]
    refine ⟨h.ordered, List.pairwise_singleton _ _, fun a ha b hb ↦ ?_⟩
    rw [List.mem_singleton.mp hb]
    refine h.number_lt (h.accepted_perm.mem_iff.mpr (List.mem_append_left _ ?_))
    exact List.mem_append.mpr (List.mem_append.mp ha).symm

/-- What is dropped when an event is submitted: nothing, or the oldest of a full queue. -/
structure Drops (s s' : BoundedRuntime config α) (oldest : Submission α) : Prop where
  oldest_eq : s.queue.toList.head? = some oldest
  full : s.queue.toList.length = config.queueCapacity
  busy : s.inFlight = config.concurrency
  dropped_eq : s'.dropped = s.dropped ++ [oldest]

theorem Accounts.submit (h : Accounts s) (hbusy : Busy s) (event : α) :
    Accounts (s.submit event).2 ∧ Busy (s.submit event).2 ∧
      (s.submit event).2.accepted = s.accepted ++ [⟨s.accepted.length, event⟩] ∧
      ((s.submit event).2.dropped = s.dropped ∨ ∃ oldest, Drops s (s.submit event).2 oldest) := by
  rw [BoundedRuntime.submit, if_neg (by simp [h.open_])]
  dsimp only
  cases hfull : s.queue.isFull with
  | false =>
    rw [if_neg (by simp)]
    obtain ⟨haccounts, hbusy', haccepted, hdropped⟩ :=
      (h.enqueue event (RingBuffer.toList_push hfull _).2).schedule
    exact ⟨haccounts, hbusy', haccepted, .inl hdropped⟩
  | true =>
    rw [if_pos rfl]
    have hlength := (RingBuffer.isFull_iff _).mp hfull
    obtain ⟨oldest, rest, hqueue⟩ := List.exists_cons_of_length_pos
      (hlength.symm ▸ config.queueCapacity_pos)
    obtain ⟨hfirst, hrest⟩ := RingBuffer.toList_shift s.queue
    rw [hqueue] at hfirst hrest
    have hroom : s.queue.shift.2.isFull = false := by
      rw [Bool.eq_false_iff, Ne, RingBuffer.isFull_iff, hrest]
      rw [hqueue] at hlength
      exact fun heq ↦ Nat.succ_ne_self _ (hlength.trans heq.symm)
    have hdrop : Accounts { s with
        queue := s.queue.shift.2
        dropped := s.dropped ++ [oldest] } := h.drop (by rw [hqueue, hrest]; rfl)
    obtain ⟨haccounts, hbusy', haccepted, hdropped⟩ :=
      (hdrop.enqueue event (RingBuffer.toList_push hroom _).2).schedule
    rw [hfirst]
    exact ⟨haccounts, hbusy', haccepted, .inr ⟨oldest, by rw [hqueue]; rfl, hlength,
      hbusy (by simp [hqueue]), hdropped⟩⟩

theorem Accounts.settle (h : Accounts s) {index : ℕ} {outcome : ProcessOutcome}
    (hstep : s.settle index outcome = some s') :
    Accounts s' ∧ Busy s' ∧ s'.accepted = s.accepted ∧ s'.dropped = s.dropped := by
  obtain ⟨event, hevent, rfl⟩ := Option.map_eq_some_iff.mp hstep
  obtain ⟨hlt, hget⟩ := List.getElem?_eq_some_iff.mp hevent
  refine Accounts.schedule ⟨h.open_, ?_, (Nat.sub_le _ _).trans h.inFlight_le, h.numbered, ?_,
    h.accepted_perm, h.ordered⟩
  · change s.inFlight - 1 = (s.running.eraseIdx index).length
    rw [h.inFlight_eq, List.length_eraseIdx_of_lt hlt]
  · change s.started.Perm
      (s.running.eraseIdx index ++ (s.finished ++ [(event, outcome)]).map Prod.fst)
    rw [List.map_append, ← List.append_assoc]
    refine h.started_perm.trans (List.Perm.trans ?_ (List.perm_append_singleton event _).symm)
    rw [← List.cons_append, ← hget]
    exact (List.getElem_cons_eraseIdx_perm hlt).symm.append_right _

/-- What one step keeps and does. -/
theorem Accounts.step (h : Accounts s) (hbusy : Busy s) {a : Step α}
    (hstep : BoundedRuntime.step a s = some s') :
    Accounts s' ∧ Busy s' ∧
      s'.accepted.map Submission.event =
        s.accepted.map Submission.event ++ a.submitted?.toList ∧
      (s'.dropped = s.dropped ∨ ∃ oldest, Drops s s' oldest) := by
  cases a with
  | submit event =>
    obtain rfl := Option.some.inj hstep
    obtain ⟨haccounts, hbusy', haccepted, hdrops⟩ := h.submit hbusy event
    refine ⟨haccounts, hbusy', ?_, hdrops⟩
    rw [haccepted, List.map_append]
    rfl
  | settle index outcome =>
    obtain ⟨haccounts, hbusy', haccepted, hdropped⟩ := h.settle hstep
    refine ⟨haccounts, hbusy', ?_, .inl hdropped⟩
    rw [haccepted]
    exact (List.append_nil _).symm

theorem accounts_of_run {steps : List (Step α)}
    (hrun : Run BoundedRuntime.step (fun _ _ ↦ True) (create config α) steps s) :
    Accounts s ∧ Busy s ∧ s.accepted.map Submission.event = steps.filterMap Step.submitted? := by
  induction hrun with
  | nil => exact ⟨accounts_create, fun hne ↦ absurd rfl hne, rfl⟩
  | @snoc _ s a s' _ _ hstep ih =>
    obtain ⟨haccounts, hbusy, haccepted⟩ := ih
    obtain ⟨haccounts', hbusy', haccepted', -⟩ := haccounts.step hbusy hstep
    refine ⟨haccounts', hbusy', ?_⟩
    rw [haccepted', haccepted, List.filterMap_append]
    cases a <;> rfl

/-- No event is lost or doubled, the bounds are kept, and the order is that of submission. -/
structure Conserves (steps : List (Step α)) (s : BoundedRuntime config α) : Prop where
  /-- A deque answers whatever is asked of it as a list does. -/
  fifo : ∀ ops : List (RingBuffer.Op α),
    (RingBuffer.new config.queueCapacity config.queueCapacity_pos).answers ops =
      RingBuffer.answersList config.queueCapacity [] ops
  accepted_eq : s.accepted.map Submission.event = steps.filterMap Step.submitted?
  /-- An accepted event is waiting, in flight, finished or dropped, … -/
  mem_iff : ∀ x, x ∈ s.accepted ↔
    x ∈ s.queue.toList ++ s.running ++ s.finished.map Prod.fst ++ s.dropped
  /-- … and in one way only. -/
  nodup : (s.queue.toList ++ s.running ++ s.finished.map Prod.fst ++ s.dropped).Nodup
  waiting_le : s.queue.toList.length ≤ config.queueCapacity
  inFlight_eq : s.inFlight = s.running.length
  inFlight_le : s.inFlight ≤ config.concurrency
  started_perm : s.started.Perm (s.running ++ s.finished.map Prod.fst)
  started_ordered : s.started.Pairwise fun a b ↦ a.number < b.number
  /-- Only the oldest event of a full queue is dropped, when every slot is in use. -/
  drops : ∀ (a : Step α) (s' : BoundedRuntime config α), BoundedRuntime.step a s = some s' →
    s'.dropped = s.dropped ∨ ∃ oldest, Drops s s' oldest

/-- **Every run conserves the events**, whatever is submitted and whichever way process calls end.
-/
theorem events_conserved {steps : List (Step α)}
    (hrun : Run BoundedRuntime.step (fun _ _ ↦ True) (create config α) steps s) :
    Conserves steps s := by
  obtain ⟨h, hbusy, haccepted⟩ := accounts_of_run hrun
  have hperm : s.accepted.Perm
      (s.queue.toList ++ s.running ++ s.finished.map Prod.fst ++ s.dropped) := by
    rw [List.append_assoc s.queue.toList]
    exact h.accepted_perm.trans ((h.started_perm.append_left _).append_right _)
  have hnodup : s.accepted.Nodup :=
    List.Nodup.of_map Submission.number (h.numbered ▸ List.nodup_range)
  exact {
    fifo := fun ops ↦ RingBuffer.answers_eq _ ops
    accepted_eq := haccepted
    mem_iff := fun _ ↦ hperm.mem_iff
    nodup := hperm.nodup_iff.mp hnodup
    waiting_le := (RingBuffer.length_toList _).trans_le s.queue.length_le
    inFlight_eq := h.inFlight_eq
    inFlight_le := h.inFlight_le
    started_perm := h.started_perm
    started_ordered := (List.pairwise_append.mp h.ordered).1
    drops := fun _ _ hstep ↦ (h.step hbusy hstep).2.2.2 }

/-- One slot, and a queue of two. -/
def oneSlot : ProcessorRuntimeConfig := ⟨1, 2, Nat.one_pos, Nat.two_pos⟩

/-- One slot and a queue of two: of five events the second and the third are dropped, and the first
fails. -/
theorem events_conserved_five : ∃ s : BoundedRuntime oneSlot ℕ,
    (s.started.map Submission.event = [10, 13] ∧ s.dropped.map Submission.event = [11, 12]) ∧
      Conserves [.submit 10, .submit 11, .submit 12, .submit 13, .submit 14, .settle 0 .failed]
        s := by
  have hexecute : (execute BoundedRuntime.step (fun _ _ ↦ True)
      [.submit 10, .submit 11, .submit 12, .submit 13, .submit 14, .settle 0 .failed]
      (create oneSlot ℕ)).any (fun s ↦
        decide (s.started.map Submission.event = [10, 13] ∧
          s.dropped.map Submission.event = [11, 12])) = true := by decide +kernel
  obtain ⟨s, hs, hfacts⟩ := Option.any_eq_true _ _ |>.mp hexecute
  exact ⟨s, of_decide_eq_true hfacts, events_conserved (run_of_execute hs)⟩

end BoundedRuntime

end RwServer
