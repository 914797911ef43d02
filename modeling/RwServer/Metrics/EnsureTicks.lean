import Mathlib
import RwServer.Foundation.DelayQueue
import RwServer.Foundation.Run
import RwServer.Station.StateLog

/-!
# The chain of ensure ticks

A tick ensures the metric buckets, and schedules the next one before it ends, by removing the job
and adding it again. The jobs of all ticks have one id, which the tick that is being processed
holds: its own job cannot be removed, the new one is ignored, and when the tick is through the job
is gone, or stays as a failed one. A shift change schedules a tick in the same way, and a start of
the process adds one.

`ensureTick_chain_alive` says which steps keep a tick waiting.
-/

namespace RwServer

open Transition

/-- `ENSURE_TICK_JOB_ID`. -/
def ensureTickJobId : String := "ensure-metric-buckets-next"

/-- `ENSURE_TICK_INTERVAL_MS`. -/
def ensureTickIntervalMs : Time := 60000

/-- A job that is to be processed, or has been processed and failed. -/
inductive EnsureJob
  | pending
  | failed
deriving DecidableEq, Repr

/-- A process with a worker for the ticks. -/
inductive EnsureProcess
  | stopped
  /-- The worker and the queue are there, the first tick has not been added. -/
  | seeding
  | started
deriving DecidableEq, Repr

/-- Which statement of the tick that is being processed comes next. -/
inductive EnsureTick
  | idle
  | body
  | removing (failed : Bool)
  | adding (failed : Bool)
  | ending (failed : Bool)
deriving DecidableEq, Repr

/-- Which statement of a call of `scheduleNextEnsureTick(0)` comes next. -/
inductive EnsureTrigger
  | removing
  | adding
  | done
deriving DecidableEq, Repr

/-- The queue, the processes, the tick that is being processed, and the calls of the shift
changes. -/
structure EnsureSystem (ι κ : Type*) where
  now : Time
  queue : DelayQueue String Time EnsureJob
  processes : ι → EnsureProcess
  tick : EnsureTick
  triggers : κ → EnsureTrigger

inductive EnsureMove (ι κ : Type*)
  | start (p : ι)
  | seed (p : ι)
  | take (p : ι)
  | endBody (failed : Bool)
  | removeNext
  | addNext
  | settle
  | triggerRemove (k : κ)
  | triggerAdd (k : κ)
  | clock (now : Time)
deriving DecidableEq, Repr

namespace EnsureSystem

variable {ι κ : Type*} [DecidableEq ι] [DecidableEq κ]

/-- The `add` of a tick. -/
def addTick (queue : DelayQueue String Time EnsureJob) (now delayMs : Time) :
    DelayQueue String Time EnsureJob :=
  queue.add ensureTickJobId .pending (now + delayMs)

/-- A worker takes the job, if it has not failed. -/
def takeTick (queue : DelayQueue String Time EnsureJob) (now : Time) :
    Option (DelayQueue String Time EnsureJob) :=
  if (queue.find ensureTickJobId).any fun job ↦ decide (job.data = .pending) then
    queue.fire ensureTickJobId now
  else none

/-- The processor of the job has returned, and the job is removed, or has thrown, and it stays. -/
def settleTick (queue : DelayQueue String Time EnsureJob) (failed : Bool) :
    Option (DelayQueue String Time EnsureJob) :=
  if failed then queue.keep ensureTickJobId .failed else queue.finish ensureTickJobId

/-- One move, where the call `k` is made in the process `process k`. -/
def step (process : κ → ι) (move : EnsureMove ι κ) (y : EnsureSystem ι κ) :
    Option (EnsureSystem ι κ) :=
  match move with
  | .start p =>
    if y.processes p = .stopped then
      some { y with processes := Function.update y.processes p .seeding }
    else none
  | .seed p =>
    if y.processes p = .seeding then
      some { y with
        queue := addTick y.queue y.now 0
        processes := Function.update y.processes p .started }
    else none
  | .take p =>
    if y.processes p ≠ .stopped ∧ y.tick = .idle then
      (takeTick y.queue y.now).map fun queue ↦ { y with queue, tick := .body }
    else none
  | .endBody failed => if y.tick = .body then some { y with tick := .removing failed } else none
  | .removeNext =>
    match y.tick with
    | .removing failed =>
      some { y with queue := y.queue.remove ensureTickJobId, tick := .adding failed }
    | _ => none
  | .addNext =>
    match y.tick with
    | .adding failed =>
      some { y with queue := addTick y.queue y.now ensureTickIntervalMs, tick := .ending failed }
    | _ => none
  | .settle =>
    match y.tick with
    | .ending failed =>
      (settleTick y.queue failed).map fun queue ↦ { y with queue, tick := .idle }
    | _ => none
  | .triggerRemove k =>
    if y.triggers k = .removing then
      -- a process that has not started its queue schedules nothing
      if y.processes (process k) = .stopped then
        some { y with triggers := Function.update y.triggers k .done }
      else some { y with
        queue := y.queue.remove ensureTickJobId
        triggers := Function.update y.triggers k .adding }
    else none
  | .triggerAdd k =>
    if y.triggers k = .adding then
      some { y with
        queue := addTick y.queue y.now 0
        triggers := Function.update y.triggers k .done }
    else none
  | .clock now => if y.now ≤ now then some { y with now } else none

/-- No process has been started, and the queue is empty. -/
def initial (now : Time) : EnsureSystem ι κ where
  now := now
  queue := .empty
  processes _ := .stopped
  tick := .idle
  triggers _ := .removing

end EnsureSystem

/-! ## What keeps a tick waiting -/

section

variable {ι κ : Type*} {y y' : EnsureSystem ι κ}

namespace EnsureSystem

/-- A process has added its first tick. -/
def Started (y : EnsureSystem ι κ) : Prop := ∃ p, y.processes p = .started

/-- A tick is being processed. -/
def Processing (y : EnsureSystem ι κ) : Prop :=
  ∃ job ∈ y.queue.find ensureTickJobId, job.active = true

/-- A tick is waiting or delayed. -/
def Waiting (y : EnsureSystem ι κ) : Prop :=
  ∃ job ∈ y.queue.find ensureTickJobId, job.active = false ∧ job.data = .pending

/-- Once the queue has been started, a tick waits when none is being processed. -/
def ChainAlive (y : EnsureSystem ι κ) : Prop := y.Started → ¬y.Processing → y.Waiting

/-- The condition on a move: once the queue has been started, no tick ends, and a call for a shift
change removes the job only while a tick is being processed; and a process starts where no failed
job is kept. -/
def KeepsChain (process : κ → ι) (y : EnsureSystem ι κ) : EnsureMove ι κ → Prop
  | .settle => ¬y.Started
  | .triggerRemove k => y.Started → y.processes (process k) ≠ .stopped → y.Processing
  | .seed _ => ∀ job ∈ y.queue.find ensureTickJobId, job.active = true ∨ job.data = .pending
  | _ => True

instance decidableStarted [Fintype ι] (y : EnsureSystem ι κ) : Decidable y.Started :=
  inferInstanceAs (Decidable (∃ p, y.processes p = .started))

instance decidableProcessing (y : EnsureSystem ι κ) : Decidable y.Processing :=
  inferInstanceAs (Decidable (∃ job ∈ y.queue.find ensureTickJobId, job.active = true))

instance decidableKeepsChain [Fintype ι] (process : κ → ι) (y : EnsureSystem ι κ) :
    ∀ move, Decidable (KeepsChain process y move)
  | .settle => inferInstanceAs (Decidable ¬_)
  | .triggerRemove k =>
    inferInstanceAs (Decidable (y.Started → y.processes (process k) ≠ .stopped → y.Processing))
  | .seed _ =>
    inferInstanceAs (Decidable (∀ job ∈ y.queue.find ensureTickJobId,
      job.active = true ∨ job.data = .pending))
  | .start _ | .take _ | .endBody _ | .removeNext | .addNext | .triggerAdd _ | .clock _ =>
    isTrue trivial

/-- A job that is being processed or waits. -/
theorem chainAlive_iff : y.ChainAlive ↔ (y.Started →
    ∃ job, y.queue.find ensureTickJobId = some job ∧
      (job.active = true ∨ job.data = .pending)) := by
  refine forall_congr' fun _ ↦ ⟨fun halive ↦ ?_, ?_⟩
  · by_cases hprocessing : y.Processing
    · obtain ⟨job, hjob, hactive⟩ := hprocessing
      exact ⟨job, hjob, .inl hactive⟩
    · obtain ⟨job, hjob, -, hpending⟩ := halive hprocessing
      exact ⟨job, hjob, .inr hpending⟩
  · rintro ⟨job, hjob, hlive⟩ hnot
    have hinactive : job.active = false := by
      by_contra hactive
      exact hnot ⟨job, hjob, Bool.eq_true_of_not_eq_false hactive⟩
    exact ⟨job, hjob, hinactive, hlive.resolve_left (by simp [hinactive])⟩

/-- The job of a tick that has been taken is being processed. -/
def TickActive (y : EnsureSystem ι κ) : Prop := y.tick ≠ .idle → y.Processing

/-- A step that leaves the job as it is keeps the chain. -/
theorem ChainAlive.of_find (h : y.ChainAlive)
    (hfind : y'.queue.find ensureTickJobId = y.queue.find ensureTickJobId)
    (hstarted : y'.Started → y.Started) : y'.ChainAlive := by
  rw [chainAlive_iff] at h ⊢
  rw [hfind]
  exact fun hstart ↦ h (hstarted hstart)

/-- A tick that is being processed cannot be removed. -/
theorem Processing.remove_eq (h : y.Processing) : y.queue.remove ensureTickJobId = y.queue := by
  obtain ⟨job, hjob, hactive⟩ := h
  exact DelayQueue.remove_of_active hjob hactive

/-- While a tick is being processed, none can be added. -/
theorem Processing.addTick_eq (h : y.Processing) (delayMs : Time) :
    addTick y.queue y.now delayMs = y.queue := by
  obtain ⟨job, hjob, -⟩ := h
  exact DelayQueue.add_of_some hjob _ _

theorem find_addTick (delayMs : Time) : (addTick y.queue y.now delayMs).find ensureTickJobId =
    some ((y.queue.find ensureTickJobId).getD ⟨.pending, y.now + delayMs, false⟩) :=
  DelayQueue.find_add _ _

/-- An add of a tick keeps the chain, once the queue has been started. -/
theorem ChainAlive.addTick (h : y.ChainAlive) {delayMs : Time}
    (hqueue : y'.queue = addTick y.queue y.now delayMs) (hstarted : y'.Started → y.Started) :
    y'.ChainAlive := by
  rw [chainAlive_iff] at h ⊢
  intro hstart
  obtain ⟨job, hjob, hlive⟩ := h (hstarted hstart)
  refine ⟨job, ?_, hlive⟩
  rw [hqueue, find_addTick, hjob, Option.getD_some]

theorem processing_of_takeTick {queue : DelayQueue String Time EnsureJob}
    (h : takeTick y.queue y.now = some queue) :
    ∃ job ∈ queue.find ensureTickJobId, job.active = true := by
  rw [takeTick] at h
  split_ifs at h
  obtain ⟨job, -, -, -, rfl⟩ := DelayQueue.fire_cases h
  exact ⟨_, DelayQueue.find_set_self _, rfl⟩

/-- **The end of a tick leaves none**, whatever it has scheduled. -/
theorem find_settleTick {queue : DelayQueue String Time EnsureJob} {failed : Bool}
    (h : settleTick y.queue failed = some queue) : ∀ job ∈ queue.find ensureTickJobId,
      job.active = false ∧ job.data = .failed := by
  rw [settleTick] at h
  split_ifs at h
  · obtain ⟨job, -, -, rfl⟩ := DelayQueue.keep_cases h
    rw [DelayQueue.find_set_self]
    intro job' hjob'
    cases hjob'
    exact ⟨rfl, rfl⟩
  · obtain ⟨job, -, -, rfl⟩ := DelayQueue.finish_cases h
    rw [DelayQueue.find_set_self]
    exact nofun

/-- A step that cannot change the queue while a tick is being processed leaves a taken job
active. -/
theorem TickActive.of_queue (h : y.TickActive) (htick : y'.tick ≠ .idle → y.tick ≠ .idle)
    (hqueue : y.Processing → y'.queue = y.queue) : y'.TickActive := by
  intro hbusy
  have hprocessing := h (htick hbusy)
  rw [Processing, hqueue hprocessing]
  exact hprocessing

theorem tickActive_initial (now : Time) : (initial now : EnsureSystem ι κ).TickActive :=
  fun htick ↦ absurd rfl htick

theorem chainAlive_initial (now : Time) : (initial now : EnsureSystem ι κ).ChainAlive := by
  rintro ⟨p, hp⟩
  cases hp

variable [DecidableEq ι] [DecidableEq κ] {process : κ → ι} {move : EnsureMove ι κ}

theorem TickActive.step (h : y.TickActive) (hstep : EnsureSystem.step process move y = some y') :
    y'.TickActive := by
  cases move with
  | start p =>
    rw [EnsureSystem.step] at hstep
    split_ifs at hstep
    cases hstep
    exact h
  | seed p =>
    rw [EnsureSystem.step] at hstep
    split_ifs at hstep
    cases hstep
    exact h.of_queue id fun hprocessing ↦ hprocessing.addTick_eq _
  | take p =>
    rw [EnsureSystem.step] at hstep
    split_ifs at hstep
    obtain ⟨queue, hqueue, rfl⟩ := Option.map_eq_some_iff.mp hstep
    exact fun _ ↦ processing_of_takeTick hqueue
  | endBody failed =>
    rw [EnsureSystem.step] at hstep
    split_ifs at hstep with htick
    cases hstep
    exact fun _ ↦ h (by simp [htick])
  | removeNext =>
    rw [EnsureSystem.step] at hstep
    split at hstep
    · rename_i failed htick
      cases hstep
      exact h.of_queue (fun _ ↦ by simp [htick]) Processing.remove_eq
    · cases hstep
  | addNext =>
    rw [EnsureSystem.step] at hstep
    split at hstep
    · rename_i failed htick
      cases hstep
      exact h.of_queue (fun _ ↦ by simp [htick]) fun hprocessing ↦ hprocessing.addTick_eq _
    · cases hstep
  | settle =>
    rw [EnsureSystem.step] at hstep
    split at hstep
    · obtain ⟨queue, -, rfl⟩ := Option.map_eq_some_iff.mp hstep
      exact fun htick ↦ absurd rfl htick
    · cases hstep
  | triggerRemove k =>
    rw [EnsureSystem.step] at hstep
    split_ifs at hstep
    · cases hstep
      exact h
    · cases hstep
      exact h.of_queue id Processing.remove_eq
  | triggerAdd k =>
    rw [EnsureSystem.step] at hstep
    split_ifs at hstep
    cases hstep
    exact h.of_queue id fun hprocessing ↦ hprocessing.addTick_eq _
  | clock now =>
    rw [EnsureSystem.step] at hstep
    split_ifs at hstep
    cases hstep
    exact h

/-- **One move keeps the chain** exactly when it meets the condition. -/
theorem chainAlive_step_iff (htick : y.TickActive) (h : y.ChainAlive)
    (hstep : EnsureSystem.step process move y = some y') :
    y'.ChainAlive ↔ KeepsChain process y move := by
  cases move with
  | start p =>
    rw [EnsureSystem.step] at hstep
    split_ifs at hstep
    cases hstep
    refine iff_of_true (h.of_find rfl ?_) trivial
    rintro ⟨q, hq⟩
    dsimp only at hq
    by_cases hqp : q = p
    · subst hqp
      rw [Function.update_self] at hq
      cases hq
    · exact ⟨q, (Function.update_of_ne hqp _ _).symm.trans hq⟩
  | seed p =>
    rw [EnsureSystem.step] at hstep
    split_ifs at hstep
    cases hstep
    have hstarted : ∃ q, Function.update y.processes p .started q = .started :=
      ⟨p, Function.update_self _ _ _⟩
    rw [chainAlive_iff, KeepsChain]
    dsimp only
    rw [find_addTick]
    cases hfind : y.queue.find ensureTickJobId with
    | none => exact iff_of_true (fun _ ↦ ⟨_, rfl, .inr rfl⟩) nofun
    | some job =>
      rw [Option.getD_some]
      constructor
      · intro halive job' hjob'
        obtain ⟨job'', hjob'', hlive⟩ := halive hstarted
        cases hjob'.symm.trans hjob''
        exact hlive
      · exact fun hlive _ ↦ ⟨job, rfl, hlive job rfl⟩
  | take p =>
    rw [EnsureSystem.step] at hstep
    split_ifs at hstep
    obtain ⟨queue, hqueue, rfl⟩ := Option.map_eq_some_iff.mp hstep
    exact iff_of_true (fun _ hnot ↦ absurd (processing_of_takeTick hqueue) hnot) trivial
  | endBody failed =>
    rw [EnsureSystem.step] at hstep
    split_ifs at hstep
    cases hstep
    exact iff_of_true h trivial
  | removeNext =>
    rw [EnsureSystem.step] at hstep
    split at hstep
    · rename_i failed hphase
      cases hstep
      have hprocessing := htick (by simp [hphase])
      refine iff_of_true (h.of_find ?_ id) trivial
      exact congrArg (·.find ensureTickJobId) hprocessing.remove_eq
    · cases hstep
  | addNext =>
    rw [EnsureSystem.step] at hstep
    split at hstep
    · cases hstep
      exact iff_of_true (h.addTick rfl id) trivial
    · cases hstep
  | settle =>
    rw [EnsureSystem.step] at hstep
    split at hstep
    · obtain ⟨queue, hqueue, rfl⟩ := Option.map_eq_some_iff.mp hstep
      rw [chainAlive_iff, KeepsChain]
      constructor
      · intro halive hstart
        obtain ⟨job, hjob, hlive⟩ := halive hstart
        obtain ⟨hinactive, hfailed⟩ := find_settleTick hqueue job hjob
        rcases hlive with hactive | hpending
        · cases hinactive.symm.trans hactive
        · cases hfailed.symm.trans hpending
      · exact fun hnot hstart ↦ absurd hstart hnot
    · cases hstep
  | triggerRemove k =>
    rw [EnsureSystem.step] at hstep
    split_ifs at hstep with hphase hstopped
    · cases hstep
      exact iff_of_true h fun _ hnot ↦ absurd hstopped hnot
    · cases hstep
      rw [KeepsChain]
      constructor
      · intro halive hstart _
        by_contra hnot
        obtain ⟨job, hjob, hinactive, -⟩ := h hstart hnot
        obtain ⟨job', hjob', -⟩ := chainAlive_iff.mp halive hstart
        dsimp only at hjob'
        rw [DelayQueue.remove, Option.mem_def.mp hjob] at hjob'
        dsimp only at hjob'
        rw [hinactive, if_neg Bool.false_ne_true, DelayQueue.find_set_self] at hjob'
        cases hjob'
      · intro hkeeps hstart
        have hprocessing := hkeeps hstart hstopped
        refine h.of_find ?_ id hstart
        exact congrArg (·.find ensureTickJobId) hprocessing.remove_eq
  | triggerAdd k =>
    rw [EnsureSystem.step] at hstep
    split_ifs at hstep
    cases hstep
    exact iff_of_true (h.addTick rfl id) trivial
  | clock now =>
    rw [EnsureSystem.step] at hstep
    split_ifs at hstep
    cases hstep
    exact iff_of_true h trivial

end EnsureSystem

/-- **The chain of ticks does not die** in a run whose moves all meet the condition; and a run in
which it is alive after every move is one of these. -/
theorem ensureTick_chain_alive [DecidableEq ι] [DecidableEq κ] {process : κ → ι} {now : Time}
    {moves : List (EnsureMove ι κ)} :
    (Run (EnsureSystem.step process) (EnsureSystem.KeepsChain process) (.initial now) moves y →
      y.ChainAlive) ∧
    (Run (EnsureSystem.step process) (EnsureSystem.KeepsChain process) (.initial now) moves y ↔
      Run (EnsureSystem.step process)
        (fun z move ↦ ∀ z', EnsureSystem.step process move z = some z' → z'.ChainAlive)
        (.initial now) moves y) := by
  constructor
  · intro hrun
    suffices hkept : y.TickActive ∧ y.ChainAlive from hkept.2
    induction hrun with
    | nil => exact ⟨EnsureSystem.tickActive_initial now, EnsureSystem.chainAlive_initial now⟩
    | snoc _ hok hstep ih =>
      exact ⟨ih.1.step hstep, (EnsureSystem.chainAlive_step_iff ih.1 ih.2 hstep).mpr hok⟩
  · exact run_iff_run_keeping
      ⟨EnsureSystem.tickActive_initial now, EnsureSystem.chainAlive_initial now⟩
      (fun _ _ _ htick hstep ↦ htick.step hstep)
      fun _ _ _ htick halive hstep ↦ EnsureSystem.chainAlive_step_iff htick halive hstep

end

/-! ## One process -/

/-- A process starts and takes its first tick. A shift change finds it being processed, and the tick
adds the next one, but does not end. -/
theorem ensureTick_chain_alive_started : ∃ y : EnsureSystem Unit Unit,
    y.Started ∧ y.tick = .ending false ∧ y.ChainAlive := by
  have hexecute : (execute (EnsureSystem.step fun _ ↦ ()) (EnsureSystem.KeepsChain fun _ ↦ ())
      [.start (), .seed (), .take (), .triggerRemove (), .endBody false, .triggerAdd (),
        .removeNext, .addNext] (.initial 0)).any (fun y ↦
        decide (y.Started ∧ y.tick = .ending false)) = true := by
    decide +kernel
  obtain ⟨y, hy, hfacts⟩ := (Option.any_eq_true _ _).mp hexecute
  obtain ⟨hstarted, htick⟩ := of_decide_eq_true hfacts
  exact ⟨y, hstarted, htick, ensureTick_chain_alive.1 (run_of_execute hy)⟩

/-- **The first tick is the last one.** It schedules the next one while it has the id, and ends. -/
theorem not_ensureTick_chain_alive : ∃ y : EnsureSystem Unit Unit,
    Run (EnsureSystem.step fun _ ↦ ()) (fun _ _ ↦ True) (.initial 0)
      [.start (), .seed (), .take (), .endBody false, .removeNext, .addNext, .settle] y ∧
      ¬y.ChainAlive := by
  have hexecute : (execute (EnsureSystem.step fun _ ↦ ()) (fun _ _ ↦ True)
      [.start (), .seed (), .take (), .endBody false, .removeNext, .addNext, .settle]
      (.initial 0 : EnsureSystem Unit Unit)).any (fun y ↦
        decide (y.Started ∧ y.queue.find ensureTickJobId = none)) = true := by
    decide +kernel
  obtain ⟨y, hy, hfacts⟩ := (Option.any_eq_true _ _).mp hexecute
  obtain ⟨hstarted, hnone⟩ := of_decide_eq_true hfacts
  refine ⟨y, run_of_execute hy, fun halive ↦ ?_⟩
  obtain ⟨job, hjob, -⟩ := EnsureSystem.chainAlive_iff.mp halive hstarted
  cases hnone.symm.trans hjob

end RwServer
