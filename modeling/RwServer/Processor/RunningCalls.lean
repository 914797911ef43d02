import Mathlib
import RwServer.Processor.BoundedRuntime

/-!
# The process calls that are really running

The runtime races each process call against a timer. When the race is over the slot of the call is
free again, and `schedule` may give it to the next event; but a timer that wins does not end the
call, which goes on until its promise settles.

`RunningCalls` keeps, beside the runtime, the calls that have been made and have not settled. The
slots in use never exceed `concurrency` (`BoundedRuntime.events_conserved`); the calls do, as soon
as a slot that a timer has freed is used again while its call goes on. `unsettled_card_le` is the
bound for the runs in which that does not happen.
-/

namespace RwServer

open Transition

namespace BoundedRuntime

variable {config : ProcessorRuntimeConfig} {α : Type*} {s s' : BoundedRuntime config α}

/-! ## What scheduling starts -/

/-- `schedule` has taken `new` from the front of the queue, up to the limit. -/
structure Starts (s s' : BoundedRuntime config α) (new : List (Submission α)) : Prop where
  queue_eq : s.queue.toList = new ++ s'.queue.toList
  running_eq : s'.running = s.running ++ new
  started_eq : s'.started = s.started ++ new
  inFlight_eq : s'.inFlight = s.inFlight + new.length
  isShuttingDown_eq : s'.isShuttingDown = s.isShuttingDown
  inFlight_le : new ≠ [] → s'.inFlight ≤ config.concurrency
  /-- An event is left waiting only when no slot is free. -/
  le_inFlight : s'.queue.toList ≠ [] → config.concurrency ≤ s'.inFlight

theorem exists_starts_scheduleRounds {n : ℕ} (hn : s.queue.toList.length ≤ n) :
    ∃ new, Starts s (scheduleRounds n s) new := by
  induction n generalizing s with
  | zero =>
    refine ⟨[], rfl, (List.append_nil _).symm, (List.append_nil _).symm, rfl, rfl, absurd rfl,
      fun hne ↦ absurd (List.length_eq_zero_iff.mp (Nat.le_zero.mp hn)) hne⟩
  | succ n ih =>
    rcases scheduleRounds_succ n s with ⟨event, queue, hslot, hqueue, heq⟩ | ⟨hfull, heq⟩
    · rw [hqueue] at hn
      rw [heq]
      obtain ⟨new, hnew⟩ := ih (s := BoundedRuntime.start { s with queue := queue } event)
        (Nat.le_of_succ_le_succ hn)
      refine ⟨event :: new, ?_, ?_, ?_, ?_, hnew.isShuttingDown_eq, fun _ ↦ ?_, hnew.le_inFlight⟩
      · rw [hqueue, List.cons_append]
        exact congrArg _ hnew.queue_eq
      · exact hnew.running_eq.trans (List.append_assoc _ _ _)
      · exact hnew.started_eq.trans (List.append_assoc _ _ _)
      · exact hnew.inFlight_eq.trans (Nat.add_right_comm _ _ _)
      · rcases eq_or_ne new [] with rfl | hne
        · exact hnew.inFlight_eq.trans_le hslot
        · exact hnew.inFlight_le hne
    · rw [heq]
      exact ⟨[], rfl, (List.append_nil _).symm, (List.append_nil _).symm, rfl, rfl, absurd rfl,
        hfull⟩

theorem exists_starts_schedule (s : BoundedRuntime config α) : ∃ new, Starts s s.schedule new :=
  exists_starts_scheduleRounds (RingBuffer.length_toList _).le

/-- A submitted event goes to the end of the queue, and `schedule` starts what it can. -/
theorem exists_starts_submit (hopen : s.isShuttingDown = false) (event : α) :
    ∃ queued new, Starts queued (s.submit event).2 new ∧ queued.running = s.running ∧
      queued.started = s.started ∧ queued.inFlight = s.inFlight ∧
      (s.queue.toList = [] → queued.queue.toList.length = 1) := by
  rw [BoundedRuntime.submit, if_neg (by simp [hopen])]
  dsimp only
  cases hfull : s.queue.isFull with
  | false =>
    rw [if_neg (by simp)]
    obtain ⟨new, hnew⟩ := exists_starts_schedule { s with
      queue := (s.queue.push ⟨s.accepted.length, event⟩).2
      accepted := s.accepted ++ [⟨s.accepted.length, event⟩] }
    refine ⟨_, new, hnew, rfl, rfl, rfl, fun hempty ↦ ?_⟩
    change (s.queue.push _).2.toList.length = 1
    rw [(RingBuffer.toList_push hfull _).2, hempty]
    rfl
  | true =>
    rw [if_pos rfl]
    obtain ⟨new, hnew⟩ := exists_starts_schedule { s with
      queue := (s.queue.shift.2.push ⟨s.accepted.length, event⟩).2
      accepted := s.accepted ++ [⟨s.accepted.length, event⟩]
      dropped := s.dropped ++ s.queue.shift.1.toList }
    refine ⟨_, new, hnew, rfl, rfl, rfl, fun hempty ↦ ?_⟩
    -- a full queue is not empty
    have hlength := (RingBuffer.isFull_iff _).mp hfull
    rw [hempty] at hlength
    exact absurd hlength config.queueCapacity_pos.ne

/-- The numbers of the calls that hold a slot. -/
def holders (s : BoundedRuntime config α) : Finset ℕ :=
  (s.running.map Submission.number).toFinset

end BoundedRuntime

/-- A runtime, and the process calls that have been made and have not settled, by the numbers of
their events. -/
structure RunningCalls (config : ProcessorRuntimeConfig) (α : Type*) where
  runtime : BoundedRuntime config α
  unsettled : Finset ℕ

namespace RunningCalls

variable {config : ProcessorRuntimeConfig} {α : Type*}

def create (config : ProcessorRuntimeConfig) (α : Type*) : RunningCalls config α :=
  ⟨.create config α, ∅⟩

/-- The runtime moves on: the calls that it makes have not settled. -/
def advance (s : RunningCalls config α) (runtime : BoundedRuntime config α) :
    RunningCalls config α where
  runtime := runtime
  unsettled := s.unsettled ∪
    ((runtime.started.drop s.runtime.started.length).map Submission.number).toFinset

/-- What happens to a runtime and to its process calls. -/
inductive Step (α : Type*)
  | submit (event : α)
  /-- The promise of a process call settles. -/
  | callSettles (number : ℕ)
  /-- The race of `withTimeout` is over, and its slot is freed. -/
  | release (index : ℕ) (outcome : ProcessOutcome)
  | shutdown

/-- A slot is freed by its call, which has then settled, or by the timer. -/
def step : Step α → RunningCalls config α → Option (RunningCalls config α)
  | .submit event, s => some (s.advance (s.runtime.submit event).2)
  | .callSettles number, s =>
    if number ∈ s.unsettled then some { s with unsettled := s.unsettled.erase number } else none
  | .release index outcome, s =>
    s.runtime.running[index]?.bind fun call ↦
      if outcome = .timedOut ∨ call.number ∉ s.unsettled then
        (s.runtime.settle index outcome).map s.advance
      else none
  | .shutdown, s => some { s with runtime := { s.runtime with isShuttingDown := true } }

/-- The calls that have lost their slot to the timer and go on. -/
def late (s : RunningCalls config α) : Finset ℕ := s.unsettled \ s.runtime.holders

/-- No slot that a timer has freed is used again while its call goes on: a call that has not settled
loses its slot only when no event waits, and an event that finds a free slot finds one beside those
in use and those of the calls that go on. -/
def Fits (s : RunningCalls config α) : Step α → Prop
  | .submit _ => s.runtime.isShuttingDown = false → s.runtime.inFlight < config.concurrency →
      s.runtime.inFlight + s.late.card < config.concurrency
  | .release index _ => ∀ call ∈ s.runtime.running[index]?, call.number ∈ s.unsettled →
      s.runtime.queue.toList = []
  | .callSettles _ => True
  | .shutdown => True

instance (s : RunningCalls config α) : (a : Step α) → Decidable (Fits s a)
  | .submit _ => inferInstanceAs (Decidable (_ → _ → _))
  | .release index _ => inferInstanceAs (Decidable (∀ call ∈ s.runtime.running[index]?, _ → _))
  | .callSettles _ => inferInstanceAs (Decidable True)
  | .shutdown => inferInstanceAs (Decidable True)

/-! ## The invariant -/

/-- The slots in use and the calls that go on without one fit the limit. -/
structure Room (s : RunningCalls config α) : Prop where
  inFlight_eq : s.runtime.inFlight = s.runtime.running.length
  busy : s.runtime.Busy
  room : s.runtime.inFlight + s.late.card ≤ config.concurrency

variable {s s' : RunningCalls config α}

theorem room_create : Room (create config α) where
  inFlight_eq := rfl
  busy := fun hne ↦ absurd rfl hne
  room := Nat.zero_le _

/-- A call that has not settled holds a slot or goes on without one. -/
theorem Room.card_unsettled (h : Room s) : s.unsettled.card ≤ config.concurrency := by
  have hholders : s.runtime.holders.card ≤ s.runtime.inFlight := by
    rw [h.inFlight_eq, ← List.length_map Submission.number]
    exact List.toFinset_card_le _
  calc s.unsettled.card
      ≤ s.late.card + s.runtime.holders.card := Finset.card_le_card_sdiff_add_card
    _ ≤ s.runtime.inFlight + s.late.card := by
      rw [Nat.add_comm]
      exact Nat.add_le_add_right hholders _
    _ ≤ config.concurrency := h.room

/-- The calls that scheduling starts hold slots. -/
theorem late_advance_subset {queued runtime : BoundedRuntime config α} {new : List (Submission α)}
    (hnew : BoundedRuntime.Starts queued runtime new)
    (hstarted : queued.started = s.runtime.started) :
    (s.advance runtime).late ⊆ s.unsettled \ queued.holders := by
  intro number hnumber
  have hdrop : runtime.started.drop s.runtime.started.length = new := by
    rw [hnew.started_eq, hstarted, List.drop_left]
  have hholders : runtime.holders = queued.holders ∪ (new.map Submission.number).toFinset := by
    rw [BoundedRuntime.holders, hnew.running_eq, List.map_append, List.toFinset_append]
    rfl
  rw [late, advance, hdrop, hholders] at hnumber
  simp only [Finset.mem_sdiff, Finset.mem_union, not_or] at hnumber ⊢
  exact ⟨hnumber.1.resolve_right hnumber.2.2, hnumber.2.1⟩

/-- Scheduling keeps the room where the calls that go on leave it for what starts. -/
theorem Room.advance {queued runtime : BoundedRuntime config α} {new : List (Submission α)}
    (hnew : BoundedRuntime.Starts queued runtime new)
    (hstarted : queued.started = s.runtime.started)
    (hinFlight : queued.inFlight = queued.running.length)
    (hroom : runtime.inFlight + (s.unsettled \ queued.holders).card ≤ config.concurrency) :
    Room (s.advance runtime) where
  inFlight_eq := by
    change runtime.inFlight = runtime.running.length
    rw [hnew.inFlight_eq, hnew.running_eq, List.length_append, hinFlight]
  busy := fun hne ↦ ((Nat.le_add_right _ _).trans hroom).antisymm (hnew.le_inFlight hne)
  room := (Nat.add_le_add_left (Finset.card_le_card (late_advance_subset hnew hstarted)) _).trans
    hroom

theorem Room.submit (h : Room s) {event : α} (hfits : Fits s (.submit event)) :
    Room (s.advance (s.runtime.submit event).2) := by
  cases hopen : s.runtime.isShuttingDown with
  | true =>
    -- the event is rejected
    have hsame : s.advance (s.runtime.submit event).2 = s := by
      rw [BoundedRuntime.submit, if_pos hopen, RunningCalls.advance, List.drop_length]
      exact congrArg (RunningCalls.mk s.runtime) (Finset.union_empty _)
    rwa [hsame]
  | false =>
    obtain ⟨queued, new, hnew, hrunning, hstarted, hinFlight, hwaiting⟩ :=
      BoundedRuntime.exists_starts_submit hopen event
    refine Room.advance hnew hstarted (by rw [hinFlight, hrunning, h.inFlight_eq]) ?_
    rw [BoundedRuntime.holders, hrunning, hnew.inFlight_eq, hinFlight]
    change s.runtime.inFlight + new.length + s.late.card ≤ config.concurrency
    rcases lt_or_ge s.runtime.inFlight config.concurrency with hslot | hslot
    · -- a slot is free, so that no event waits before the new one
      have hempty : s.runtime.queue.toList = [] :=
        not_not.mp fun hne ↦ hslot.ne (h.busy hne)
      have hone : new.length ≤ 1 := by
        rw [← hwaiting hempty, hnew.queue_eq, List.length_append]
        exact Nat.le_add_right _ _
      have hfree := hfits hopen hslot
      omega
    · have hnone : new = [] := by
        refine not_not.mp fun hne ↦ ?_
        have hle := hnew.inFlight_le hne
        have hpos := List.length_pos_of_ne_nil hne
        rw [hnew.inFlight_eq, hinFlight] at hle
        omega
      rw [hnone]
      exact h.room

/-- Freeing a slot: unless its call has settled, that call goes on without one. -/
theorem card_unsettled_sdiff_eraseIdx {index : ℕ} {call : Submission α}
    (hcall : s.runtime.running[index]? = some call) :
    (s.unsettled \ ((s.runtime.running.eraseIdx index).map Submission.number).toFinset).card ≤
      s.late.card + if call.number ∈ s.unsettled then 1 else 0 := by
  obtain ⟨hlt, hget⟩ := List.getElem?_eq_some_iff.mp hcall
  have hholder : ∀ number ∈ s.runtime.holders, number = call.number ∨
      number ∈ ((s.runtime.running.eraseIdx index).map Submission.number).toFinset := by
    intro number hnumber
    rw [BoundedRuntime.holders, List.mem_toFinset,
      ← ((List.getElem_cons_eraseIdx_perm hlt).map Submission.number).mem_iff, hget] at hnumber
    rw [List.mem_toFinset]
    exact List.mem_cons.mp hnumber
  split
  · refine (Finset.card_le_card fun number hnumber ↦ ?_).trans (Finset.card_insert_le call.number _)
    rw [Finset.mem_sdiff] at hnumber
    refine Finset.mem_insert.mpr (or_iff_not_imp_left.mpr fun hne ↦ ?_)
    exact Finset.mem_sdiff.mpr ⟨hnumber.1, fun hmem ↦
      hnumber.2 ((hholder number hmem).resolve_left hne)⟩
  · rename_i hsettled
    refine Finset.card_le_card fun number hnumber ↦ ?_
    rw [Finset.mem_sdiff] at hnumber
    refine Finset.mem_sdiff.mpr ⟨hnumber.1, fun hmem ↦ ?_⟩
    rcases hholder number hmem with rfl | hother
    · exact hsettled hnumber.1
    · exact hnumber.2 hother

theorem Room.release (h : Room s) {index : ℕ} {outcome : ProcessOutcome}
    (hfits : Fits s (.release index outcome)) {runtime : BoundedRuntime config α}
    (hsettle : s.runtime.settle index outcome = some runtime) : Room (s.advance runtime) := by
  obtain ⟨call, hcall, rfl⟩ := Option.map_eq_some_iff.mp hsettle
  obtain ⟨hlt, -⟩ := List.getElem?_eq_some_iff.mp hcall
  have hlate := card_unsettled_sdiff_eraseIdx hcall
  obtain ⟨new, hnew⟩ := BoundedRuntime.exists_starts_schedule { s.runtime with
    inFlight := s.runtime.inFlight - 1
    running := s.runtime.running.eraseIdx index
    finished := s.runtime.finished ++ [(call, outcome)] }
  have hinFlight := h.inFlight_eq
  have hroom := h.room
  refine Room.advance hnew rfl ?_ ?_
  · change s.runtime.inFlight - 1 = (s.runtime.running.eraseIdx index).length
    rw [h.inFlight_eq, List.length_eraseIdx_of_lt hlt]
  change _ + (s.unsettled \
    ((s.runtime.running.eraseIdx index).map Submission.number).toFinset).card ≤ _
  have hcount : _ = s.runtime.inFlight - 1 + new.length := hnew.inFlight_eq
  rcases eq_or_ne new [] with rfl | hne
  · rw [hcount]
    split at hlate <;> rw [List.length_nil] <;> omega
  · -- an event was waiting: every slot was in use, and the call has settled
    have hwaiting : s.runtime.queue.toList ≠ [] := by
      rw [show s.runtime.queue.toList = new ++ _ from hnew.queue_eq]
      exact List.append_ne_nil_of_left_ne_nil hne _
    have hbusy := h.busy hwaiting
    rw [if_neg fun hunsettled ↦ hwaiting (hfits call hcall hunsettled)] at hlate
    have hnone : s.late.card = 0 := by omega
    rw [hnone] at hlate
    exact (Nat.add_le_add_left hlate _).trans (hnew.inFlight_le hne)

/-- A call that settles leaves the others. -/
theorem Room.callSettles (h : Room s) (number : ℕ) :
    Room { s with unsettled := s.unsettled.erase number } where
  inFlight_eq := h.inFlight_eq
  busy := h.busy
  room := (Nat.add_le_add_left (Finset.card_le_card
    (Finset.sdiff_subset_sdiff (Finset.erase_subset _ _) subset_rfl)) _).trans h.room

theorem Room.step (h : Room s) {a : Step α} (hfits : Fits s a)
    (hstep : RunningCalls.step a s = some s') : Room s' := by
  cases a with
  | submit event =>
    obtain rfl := Option.some.inj hstep
    exact h.submit hfits
  | callSettles number =>
    rw [RunningCalls.step] at hstep
    split at hstep
    · obtain rfl := Option.some.inj hstep
      exact h.callSettles number
    · exact absurd hstep (by simp)
  | release index outcome =>
    obtain ⟨call, -, hstep⟩ := Option.bind_eq_some_iff.mp hstep
    split at hstep
    · obtain ⟨runtime, hruntime, rfl⟩ := Option.map_eq_some_iff.mp hstep
      exact h.release hfits hruntime
    · exact absurd hstep (by simp)
  | shutdown =>
    obtain rfl := Option.some.inj hstep
    exact ⟨h.inFlight_eq, h.busy, h.room⟩

/-- **The limit bounds the work** in every run in which no slot that a timer has freed is used again
while its call goes on. -/
theorem unsettled_card_le {steps : List (Step α)}
    (hrun : Run RunningCalls.step Fits (create config α) steps s) :
    s.unsettled.card ≤ config.concurrency :=
  (hrun.invariant room_create fun _ _ _ h hfits hstep ↦ h.step hfits hstep).card_unsettled

/-- One slot: the first call outlives its timer, and the second event comes when it has settled. -/
theorem unsettled_card_le_oneSlot : ∃ s : RunningCalls BoundedRuntime.oneSlot ℕ,
    s.runtime.started.map Submission.number = [0, 1] ∧
      s.unsettled.card ≤ BoundedRuntime.oneSlot.concurrency := by
  let steps : List (Step ℕ) :=
    [.submit 10, .release 0 .timedOut, .callSettles 0, .submit 11, .shutdown]
  have hexecute : (execute RunningCalls.step Fits steps (create BoundedRuntime.oneSlot ℕ)).any
      (fun s ↦ decide (s.runtime.started.map Submission.number = [0, 1])) = true := by
    decide +kernel
  obtain ⟨s, hs, hfacts⟩ := (Option.any_eq_true _ _).mp hexecute
  exact ⟨s, of_decide_eq_true hfacts, unsettled_card_le (run_of_execute hs)⟩

/-- One slot: when the timer of the first call is over, the second event is given to the processor
while the first call goes on. -/
theorem not_unsettled_card_le : ¬ ∀ (steps : List (Step ℕ))
    (s : RunningCalls BoundedRuntime.oneSlot ℕ),
    Run RunningCalls.step (fun _ _ ↦ True) (create BoundedRuntime.oneSlot ℕ) steps s →
      s.unsettled.card ≤ BoundedRuntime.oneSlot.concurrency := by
  intro hall
  have hexecute : (execute RunningCalls.step (fun _ _ ↦ True)
      [.submit 10, .submit 11, .release 0 .timedOut] (create BoundedRuntime.oneSlot ℕ)).any
      (fun s ↦ decide (s.unsettled.card = 2)) = true := by decide +kernel
  obtain ⟨s, hs, hfacts⟩ := (Option.any_eq_true _ _).mp hexecute
  have htwo : s.unsettled.card = 2 := of_decide_eq_true hfacts
  have hle := hall _ s (run_of_execute hs)
  rw [htwo] at hle
  exact absurd hle (by decide)

end RunningCalls

end RwServer
