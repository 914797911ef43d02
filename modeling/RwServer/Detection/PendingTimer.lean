import Mathlib
import RwServer.Detection.Schedule
import RwServer.Foundation.Run

/-!
# The pending down timer

Any number of `scheduleDetection` calls of one station, one for each cycle, take their steps in any
order, while workers take the timers whose time has come. Two orders lose the timer of the latest
cycle: an earlier call that removes it, and an add that is ignored because another timer, or one
that is just being processed, still holds the id. In every run without these, the pending timer
belongs to the latest cycle (`pendingTimer_of_inOrder`).
-/

namespace RwServer

open Transition

/-- The queues, the calls and the clock. -/
structure ScheduleSystem (ι : Type) where
  now : Time
  queues : DetectionQueues ι
  calls : ι → CallState

inductive ScheduleMove (ι : Type)
  | call (i : ι) (m : CallMove)
  | fireSlow
  | fireDown
  | finishSlow
  | finishDown
  | tick (now : Time)
deriving DecidableEq, Repr

variable {ι : Type} [DecidableEq ι]

/-- The state after a request of a call. -/
def ScheduleSystem.request (y : ScheduleSystem ι) (i : ι) (s : CallState)
    (queues : DetectionQueues ι) : ScheduleSystem ι :=
  { y with queues, calls := Function.update y.calls i s }

@[simp] theorem ScheduleSystem.request_queues (y : ScheduleSystem ι) (i : ι) (s : CallState)
    (queues : DetectionQueues ι) : (y.request i s queues).queues = queues := rfl

@[simp] theorem ScheduleSystem.request_calls_self (y : ScheduleSystem ι) (i : ι) (s : CallState)
    (queues : DetectionQueues ι) : (y.request i s queues).calls i = s :=
  Function.update_self _ _ _

theorem ScheduleSystem.request_calls_of_ne {y : ScheduleSystem ι} {i j : ι} (h : j ≠ i)
    (s : CallState) (queues : DetectionQueues ι) :
    (y.request i s queues).calls j = y.calls j :=
  Function.update_of_ne h _ _

/-- One move. A worker takes a timer that is due, and is through with it later; the clock does not
go back. -/
def ScheduleSystem.step (stationId : Uuid) (prepared : ι → PreparedDetection) :
    ScheduleMove ι → ScheduleSystem ι → Option (ScheduleSystem ι)
  | .call i m, y => (m.apply (prepared i) i y.now y.queues (y.calls i)).map fun r ↦
    y.request i r.1 r.2
  | .fireSlow, y => (y.queues.slow.fire stationId y.now).map fun q ↦
    { y with queues := { y.queues with slow := q } }
  | .fireDown, y => (y.queues.down.fire stationId y.now).map fun q ↦
    { y with queues := { y.queues with down := q } }
  | .finishSlow, y => (y.queues.slow.finish stationId).map fun q ↦
    { y with queues := { y.queues with slow := q } }
  | .finishDown, y => (y.queues.down.finish stationId).map fun q ↦
    { y with queues := { y.queues with down := q } }
  | .tick now, y => if y.now ≤ now then some { y with now } else none

/-- No call has made its first request. -/
def ScheduleSystem.start (now : Time) (queues : DetectionQueues ι) : ScheduleSystem ι :=
  ⟨now, queues, fun _ ↦ .idle⟩

/-- No call later than `i` has added its down timer. -/
def NoLaterAdded [LinearOrder ι] (y : ScheduleSystem ι) (i : ι) : Prop :=
  ∀ j, i < j → y.calls j ≠ .finished

/-- A call removes the down timer only before a later call has added its own, and the first of them
to add its down timer, no later call having added one, finds the id free. -/
def InOrder [LinearOrder ι] (stationId : Uuid) (y : ScheduleSystem ι) : ScheduleMove ι → Prop
  | .call i .removeDown => NoLaterAdded y i
  | .call i .addDown => NoLaterAdded y i → y.queues.down.find stationId = none
  | _ => True

instance [Fintype ι] [LinearOrder ι] (y : ScheduleSystem ι) (i : ι) :
    Decidable (NoLaterAdded y i) :=
  inferInstanceAs (Decidable (∀ j, i < j → y.calls j ≠ .finished))

instance [Fintype ι] [LinearOrder ι] (stationId : Uuid) (y : ScheduleSystem ι)
    (m : ScheduleMove ι) : Decidable (InOrder stationId y m) := by
  rw [InOrder.eq_def]
  split <;> infer_instance

/-! ## The invariant -/

/-- A down timer of the station waits, and until `t` at least. -/
def PendingUntil (stationId : Uuid) (queues : DetectionQueues ι) (t : Time) : Prop :=
  ∃ job, queues.down.find stationId = some job ∧ job.active = false ∧ t ≤ job.due

/-- The call has made a request, and is not done yet. -/
def CallState.UnderWay (s : CallState) : Prop := s ≠ .idle ∧ s ≠ .finished

/-- The latest call that has added its down timer has it in the queue until its time comes, unless
a later call is under way, which may have removed it. -/
structure LatestPending [LinearOrder ι] (stationId : Uuid) (downStartAfter : ι → Time)
    (y : ScheduleSystem ι) : Prop where
  readBy : ∀ i, (y.calls i).ReadBy y.now
  latest : ∀ i, y.calls i = .finished → NoLaterAdded y i → y.now < downStartAfter i →
    PendingUntil stationId y.queues (downStartAfter i) ∨ ∃ k, i < k ∧ (y.calls k).UnderWay

section

variable {ι : Type} [LinearOrder ι] {stationId : Uuid} {downStartAfter : ι → Time}
  {y : ScheduleSystem ι} {i : ι}

/-- A request that adds no down timer. It removes the down timer at most, and then the latest call
that has added one is earlier. -/
private theorem LatestPending.request (h : LatestPending stationId downStartAfter y)
    {s : CallState} {queues : DetectionQueues ι} (hi : y.calls i ≠ .finished) (hs : s.UnderWay)
    (hread : s.ReadBy y.now) (hdown : queues.down = y.queues.down ∨ NoLaterAdded y i) :
    LatestPending stationId downStartAfter (y.request i s queues) where
  readBy j := by
    by_cases hji : j = i
    · rwa [hji, ScheduleSystem.request_calls_self]
    · rw [ScheduleSystem.request_calls_of_ne hji]
      exact h.readBy j
  latest j hj hlater hnow := by
    have hold : ∀ k, (y.request i s queues).calls k = .finished ↔ y.calls k = .finished := by
      intro k
      by_cases hki : k = i
      · rw [hki, ScheduleSystem.request_calls_self]
        exact iff_of_false hs.2 hi
      · rw [ScheduleSystem.request_calls_of_ne hki]
    have hj₀ := (hold j).mp hj
    have hlater₀ : NoLaterAdded y j := fun k hk hfin ↦ hlater k hk ((hold k).mpr hfin)
    rcases h.latest j hj₀ hlater₀ hnow with hpending | ⟨k, hk, hway⟩
    · rcases hdown with hsame | hfirst
      · left
        rwa [ScheduleSystem.request_queues, PendingUntil, hsame]
      · -- the timer may be gone, but this call is going to add its own
        refine Or.inr ⟨i, lt_of_not_ge fun hij ↦ ?_, ?_⟩
        · rcases hij.lt_or_eq with hlt | heq
          · exact hfirst j hlt hj₀
          · exact hi (heq ▸ hj₀)
        · rwa [ScheduleSystem.request_calls_self]
    · refine Or.inr ⟨k, hk, ?_⟩
      by_cases hki : k = i
      · rwa [hki, ScheduleSystem.request_calls_self]
      · rwa [ScheduleSystem.request_calls_of_ne hki]

/-- A request that adds the down timer. -/
private theorem LatestPending.addDown (h : LatestPending stationId downStartAfter y)
    {now : Time} (hi : y.calls i = .addingDown now)
    (hfree : NoLaterAdded y i → y.queues.down.find stationId = none) :
    LatestPending stationId downStartAfter (y.request i .finished { y.queues with
      down := addTimer y.queues.down stationId i y.now now (some (downStartAfter i)) }) where
  readBy j := by
    by_cases hji : j = i
    · rw [hji, ScheduleSystem.request_calls_self]
      trivial
    · rw [ScheduleSystem.request_calls_of_ne hji]
      exact h.readBy j
  latest j hj hlater hnow := by
    have hkeep : ∀ {queues} k, y.calls k = .finished →
        (y.request i .finished queues).calls k = .finished := by
      intro queues k hk
      by_cases hki : k = i
      · rw [hki, ScheduleSystem.request_calls_self]
      · rwa [ScheduleSystem.request_calls_of_ne hki]
    have hlater₀ : NoLaterAdded y j := fun k hk hfin ↦ hlater k hk (hkeep k hfin)
    by_cases hji : j = i
    · -- it is the latest one, and finds the id free
      subst hji
      left
      exact ⟨_, DelayQueue.find_add_of_none (hfree hlater₀) _ _, rfl,
        le_delayed (hi ▸ h.readBy j : CallState.ReadBy y.now (.addingDown now))⟩
    · rw [ScheduleSystem.request_calls_of_ne hji] at hj
      have hij : i < j := by
        refine lt_of_le_of_ne (le_of_not_gt fun hlt ↦ hlater i hlt ?_) (Ne.symm hji)
        exact ScheduleSystem.request_calls_self _ _ _ _
      rcases h.latest j hj hlater₀ hnow with ⟨job, hfind, hdelayed, hdue⟩ | ⟨k, hk, hway⟩
      · -- the later timer is in the queue, and the add is ignored
        left
        refine ⟨job, ?_, hdelayed, hdue⟩
        exact (congrArg (·.find stationId) (DelayQueue.add_of_some hfind _ _)).trans hfind
      · refine Or.inr ⟨k, hk, ?_⟩
        rwa [ScheduleSystem.request_calls_of_ne (hij.trans hk).ne']

/-- What workers and the clock do leaves the calls alone, and takes no timer before its time. -/
private theorem LatestPending.frame (h : LatestPending stationId downStartAfter y)
    {now : Time} {queues : DetectionQueues ι} (hnow : y.now ≤ now)
    (hdown : ∀ t, now < t → PendingUntil stationId y.queues t → PendingUntil stationId queues t) :
    LatestPending stationId downStartAfter { y with now, queues } where
  readBy j := (h.readBy j).mono hnow
  latest j hj hlater hlt :=
    (h.latest j hj hlater (hnow.trans_lt hlt)).imp_left (hdown _ hlt)

private theorem LatestPending.step (h : LatestPending stationId downStartAfter y)
    {slowStartAfter : ι → Option Time} {m : ScheduleMove ι} {y' : ScheduleSystem ι}
    (hok : InOrder stationId y m)
    (hstep : ScheduleSystem.step stationId
      (fun i ↦ .schedule stationId (slowStartAfter i) (some (downStartAfter i))) m y = some y') :
    LatestPending stationId downStartAfter y' := by
  cases m with
  | call i m =>
    obtain ⟨⟨s', queues⟩, hcall, rfl⟩ := Option.map_eq_some_iff.mp hstep
    dsimp only
    generalize hs : y.calls i = s at hcall
    have hcalled := call_cases hcall
    have hread := hcalled.readBy (hs ▸ h.readBy i)
    cases hcalled with
    | start => exact h.request (by simp [hs]) (by simp [CallState.UnderWay]) hread (.inl rfl)
    | removeSlow => exact h.request (by simp [hs]) (by simp [CallState.UnderWay]) hread (.inl rfl)
    | removeDown => exact h.request (by simp [hs]) (by simp [CallState.UnderWay]) hread (.inr hok)
    | canceled hnone => cases hnone
    | proceed => exact h.request (by simp [hs]) (by simp [CallState.UnderWay]) hread (.inl rfl)
    | addSlow => exact h.request (by simp [hs]) (by simp [CallState.UnderWay]) hread (.inl rfl)
    | addDown => exact h.addDown hs hok
  | fireSlow =>
    obtain ⟨q, -, rfl⟩ := Option.map_eq_some_iff.mp hstep
    exact h.frame le_rfl fun _ _ hp ↦ hp
  | fireDown =>
    obtain ⟨q, hfire, rfl⟩ := Option.map_eq_some_iff.mp hstep
    refine h.frame le_rfl fun t ht hpending ↦ ?_
    -- a timer that fires was due
    obtain ⟨job, hfind, -, hdue, -⟩ := DelayQueue.fire_cases hfire
    obtain ⟨job', hfind', -, hle⟩ := hpending
    cases hfind.symm.trans hfind'
    exact absurd (hle.trans hdue) (not_le.mpr ht)
  | finishSlow =>
    obtain ⟨q, -, rfl⟩ := Option.map_eq_some_iff.mp hstep
    exact h.frame le_rfl fun _ _ hp ↦ hp
  | finishDown =>
    obtain ⟨q, hfinish, rfl⟩ := Option.map_eq_some_iff.mp hstep
    refine h.frame le_rfl fun t _ hpending ↦ ?_
    obtain ⟨job, hfind, hactive, -⟩ := DelayQueue.finish_cases hfinish
    obtain ⟨job', hfind', hdelayed, -⟩ := hpending
    cases hfind.symm.trans hfind'
    exact absurd (hactive.symm.trans hdelayed) (by simp)
  | tick now =>
    rw [ScheduleSystem.step] at hstep
    split at hstep
    · rename_i hnow
      cases hstep
      exact h.frame hnow fun _ _ hp ↦ hp
    · cases hstep

end

/-- **The pending down timer belongs to the latest cycle where the requests come in order**: once
no call is under way, and until the greatest `downStartAfter` of the calls that have been made,
there is a down timer of the station that waits, and it comes no earlier than that. The queue holds
no other one, since it holds at most one job under an id. -/
theorem pendingTimer_of_inOrder {ι : Type} [Fintype ι] [LinearOrder ι] {stationId : Uuid}
    {slowStartAfter : ι → Option Time} {downStartAfter : ι → Time}
    (hmono : StrictMono downStartAfter) {now : Time} {queues : DetectionQueues ι}
    {ms : List (ScheduleMove ι)} {y : ScheduleSystem ι}
    (hrun : Run
      (ScheduleSystem.step stationId
        fun i ↦ .schedule stationId (slowStartAfter i) (some (downStartAfter i)))
      (InOrder stationId) (.start now queues) ms y)
    (hquiet : ∀ i, y.calls i = .idle ∨ y.calls i = .finished)
    {i : ι} (hi : y.calls i = .finished) (hnow : y.now < downStartAfter i) :
    ∃ job, y.queues.down.find stationId = some job ∧ job.active = false ∧
      ∀ j, y.calls j = .finished → downStartAfter j ≤ job.due := by
  have h₀ : LatestPending stationId downStartAfter (.start now queues) :=
    ⟨fun _ ↦ trivial, fun j hj ↦ absurd hj (by simp [ScheduleSystem.start])⟩
  have h := hrun.invariant h₀ fun y m y' h hok hstep ↦ h.step hok hstep
  obtain ⟨last, hlast, hmax⟩ := (Finset.univ.filter fun j ↦ y.calls j = .finished).exists_max_image
    id ⟨i, Finset.mem_filter.mpr ⟨Finset.mem_univ i, hi⟩⟩
  have hle : ∀ j, y.calls j = .finished → downStartAfter j ≤ downStartAfter last := fun j hj ↦
    hmono.monotone (hmax j (Finset.mem_filter.mpr ⟨Finset.mem_univ j, hj⟩))
  have hlater : NoLaterAdded y last := fun j hlt hj ↦
    absurd (hmax j (Finset.mem_filter.mpr ⟨Finset.mem_univ j, hj⟩)) (not_le.mpr hlt)
  rcases h.latest last (Finset.mem_filter.mp hlast).2 hlater (hnow.trans_le (hle i hi)) with
    ⟨job, hfind, hdelayed, hdue⟩ | ⟨k, -, hidle, hfinished⟩
  · exact ⟨job, hfind, hdelayed, fun j hj ↦ (hle j hj).trans hdue⟩
  · exact absurd (hquiet k) (by simp [hidle, hfinished])

/-- The timers of two cycles, at `100` and at `200`. -/
def twoTimers (i : Fin 2) : PreparedDetection :=
  .schedule 1 none (some (if i = 0 then 100 else 200))

/-- The requests of one call. -/
def wholeCall (i : Fin 2) : List (ScheduleMove (Fin 2)) :=
  [.call i .start, .call i .removeSlow, .call i .removeDown, .call i .proceed, .call i .addSlow,
    .call i .addDown]

/-- Both calls remove, and then both add. -/
def bothRemoveFirst : List (ScheduleMove (Fin 2)) :=
  (wholeCall 0).take 4 ++ (wholeCall 1).take 4 ++ (wholeCall 0).drop 4 ++ (wholeCall 1).drop 4

def noTimers : DetectionQueues (Fin 2) := ⟨.empty, .empty⟩

/-- The second add is ignored, and the timer that is left comes at `100`, before the time of the
later cycle. -/
theorem pendingTimer_ignored : ∃ y job,
    Run (ScheduleSystem.step 1 twoTimers) (fun _ _ ↦ True) (.start 0 noTimers) bothRemoveFirst y ∧
      (∀ i, y.calls i = .finished) ∧ y.now < 200 ∧
      y.queues.down.find 1 = some job ∧ job.active = false ∧ ¬200 ≤ job.due := by
  have hexec : ((execute (ScheduleSystem.step 1 twoTimers) (fun _ _ ↦ True) bothRemoveFirst
      (.start 0 noTimers)).any fun y ↦ (∀ i, y.calls i = .finished) ∧ y.now < 200 ∧
        y.queues.down.find 1 = some ⟨⟨1, 0⟩, 100, false⟩) = true := by decide
  obtain ⟨y, hy, hres⟩ := (Option.any_eq_true _ _).mp hexec
  obtain ⟨hquiet, hnow, hfind⟩ := of_decide_eq_true hres
  exact ⟨y, _, run_of_execute hy, hquiet, hnow, hfind, rfl, by decide⟩

/-- The second cycle is enqueued after the first one. -/
theorem pendingTimer_of_inOrder_twoTimers : ∃ y job,
    Run (ScheduleSystem.step 1 twoTimers) (InOrder 1) (.start 0 noTimers)
      (wholeCall 0 ++ .tick 50 :: wholeCall 1) y ∧
      y.queues.down.find 1 = some job ∧ job.active = false ∧
      ∀ j, y.calls j = .finished → (if j = 0 then 100 else 200) ≤ job.due := by
  have hexec : ((execute (ScheduleSystem.step 1 twoTimers) (InOrder 1)
      (wholeCall 0 ++ .tick 50 :: wholeCall 1) (.start 0 noTimers)).any
        fun y ↦ (∀ i, y.calls i = .finished) ∧ y.now < 200) = true := by decide
  obtain ⟨y, hy, hres⟩ := (Option.any_eq_true _ _).mp hexec
  obtain ⟨hquiet, hnow⟩ := of_decide_eq_true hres
  have hrun := run_of_execute hy
  have hmono : StrictMono fun i : Fin 2 ↦ (if i = 0 then 100 else 200 : Time) := by decide
  obtain ⟨job, hjob⟩ := pendingTimer_of_inOrder hmono hrun (fun i ↦ .inr (hquiet i)) (hquiet 1) hnow
  exact ⟨y, job, hrun, hjob⟩

end RwServer
