import Mathlib
import RwServer.Processor.BoundedRuntime

/-!
# The dispatcher and its counters

A dispatch call runs the preprocessors, which turn the event into a list of events, and starts one
task for each of these and each processor. A task waits for the matcher of the processor and, where
it says yes, submits the event to the runtime; when `submit` has answered, the task counts the
answer.

The runtime counts too: `submit` of a runtime that is shutting down adds one to `rejected`, and the
task that gets this answer adds another. So the counters balance with the pairs that matched exactly
as long as no pair reaches a runtime that is shutting down (`counters_balance`).
-/

namespace RwServer

open Transition

/-! ## Preprocessing -/

inductive FailureMode
  | strict
  | bestEffort
deriving DecidableEq, Repr

/-- A preprocessor. It may use and change the world outside, whether it fails or not. -/
structure EventPreprocessor (ω α : Type*) where
  name : String
  failureMode : Option FailureMode
  process : α → ω → Except String (List α) × ω

namespace EventPreprocessor

variable {ω α : Type*}

/-- One event: a failure is passed on, or the event is kept as it is. -/
def processEvent (preprocessor : EventPreprocessor ω α) (event : α) (world : ω) :
    Except String (List α) × ω :=
  match preprocessor.process event world with
  | (.ok processedEvents, world) => (.ok processedEvents, world)
  | (.error error, world) =>
    if preprocessor.failureMode.getD .strict = .strict then (.error error, world)
    else (.ok [event], world)

/-- The loop over the events. -/
def processEvents (preprocessor : EventPreprocessor ω α) :
    List α → ω → Except String (List α) × ω
  | [], world => (.ok [], world)
  | event :: events, world =>
    match preprocessor.processEvent event world with
    | (.error error, world) => (.error error, world)
    | (.ok processedEvents, world) =>
      match preprocessor.processEvents events world with
      | (.error error, world) => (.error error, world)
      | (.ok nextEvents, world) => (.ok (processedEvents ++ nextEvents), world)

end EventPreprocessor

/-- `runPreprocessors`, from the events of the preprocessors before. -/
def runPreprocessors {ω α : Type*} :
    List (EventPreprocessor ω α) → List α → ω → Except String (List α) × ω
  | [], events, world => (.ok events, world)
  | preprocessor :: preprocessors, events, world =>
    match preprocessor.processEvents events world with
    | (.error error, world) => (.error error, world)
    | (.ok events, world) => runPreprocessors preprocessors events world

/-! ## The counters -/

/-- The counters of a processor that dispatching changes. -/
structure DispatchMetrics where
  submitted : ℕ
  rejected : ℕ
  droppedOldest : ℕ
deriving DecidableEq, Repr

/-- The counters by the names of the processors. -/
abbrev Metrics := String → DispatchMetrics

namespace Metrics

def zero : Metrics := fun _ ↦ ⟨0, 0, 0⟩

def incSubmitted (m : Metrics) (processorName : String) : Metrics :=
  Function.update m processorName
    { m processorName with submitted := (m processorName).submitted + 1 }

def incRejected (m : Metrics) (processorName : String) : Metrics :=
  Function.update m processorName
    { m processorName with rejected := (m processorName).rejected + 1 }

def incDroppedOldest (m : Metrics) (processorName : String) : Metrics :=
  Function.update m processorName
    { m processorName with droppedOldest := (m processorName).droppedOldest + 1 }

/-- What the counters say about submissions. -/
def answers (m : Metrics) (name : String) : ℕ := (m name).submitted + (m name).rejected

@[simp] theorem answers_incSubmitted (m : Metrics) (processorName name : String) :
    (m.incSubmitted processorName).answers name =
      m.answers name + if processorName = name then 1 else 0 := by
  rw [answers, incSubmitted, answers]
  split
  · rename_i heq
    subst heq
    rw [Function.update_self]
    exact Nat.add_right_comm _ _ _
  · rename_i hne
    rw [Function.update_of_ne (Ne.symm hne)]
    rfl

@[simp] theorem answers_incRejected (m : Metrics) (processorName name : String) :
    (m.incRejected processorName).answers name =
      m.answers name + if processorName = name then 1 else 0 := by
  rw [answers, incRejected, answers]
  split
  · rename_i heq
    subst heq
    rw [Function.update_self]
    rfl
  · rename_i hne
    rw [Function.update_of_ne (Ne.symm hne)]
    rfl

@[simp] theorem answers_incDroppedOldest (m : Metrics) (processorName name : String) :
    (m.incDroppedOldest processorName).answers name = m.answers name := by
  rw [answers, incDroppedOldest, answers]
  by_cases heq : name = processorName
  · subst heq
    rw [Function.update_self]
  · rw [Function.update_of_ne heq]

end Metrics

/-! ## The dispatcher -/

/-- A processor with the configuration of its runtime. -/
structure ProcessorRuntimeEntry where
  name : String
  config : ProcessorRuntimeConfig

/-- What a dispatcher is created with. -/
structure DispatcherArgs (ω α ι : Type*) where
  entry : ι → ProcessorRuntimeEntry
  entries : List ι
  preprocessors : List (EventPreprocessor ω α)

/-- The runtimes, the counters and the tasks that dispatch calls have started. -/
structure Dispatcher {ω α ι : Type*} (args : DispatcherArgs ω α ι) where
  runtimes : (i : ι) → BoundedRuntime (args.entry i).config α
  metrics : Metrics
  /-- The tasks whose matcher has not answered. -/
  matching : List (α × ι)
  /-- The pairs whose matcher has returned true. -/
  matched : List (α × ι)
  /-- The tasks whose `submit` has answered and that have not counted the answer. -/
  answered : List (ι × RuntimeSubmitResult)

namespace Dispatcher

variable {ω α ι : Type*} [DecidableEq ι] {args : DispatcherArgs ω α ι}

/-- `createDispatcher`, with its runtimes. -/
def create (args : DispatcherArgs ω α ι) : Dispatcher args where
  runtimes := fun i ↦ .create (args.entry i).config α
  metrics := .zero
  matching := []
  matched := []
  answered := []

/-- `dispatch`: when a strict preprocessor fails, the call does. -/
def dispatch (event : α) (world : ω) (s : Dispatcher args) : Dispatcher args :=
  match (runPreprocessors args.preprocessors [event] world).1 with
  | .error _ => s
  | .ok events =>
    { s with matching := s.matching ++ events.flatMap fun preprocessedEvent ↦
        args.entries.map fun i ↦ (preprocessedEvent, i) }

/-- What `submit` of a runtime counts. -/
def countSubmit (processorName : String) (m : Metrics) : RuntimeSubmitResult → Metrics
  | .shuttingDown => m.incRejected processorName
  | .accepted true => m.incDroppedOldest processorName
  | .accepted false => m

/-- The matcher has returned true: the task submits the event. -/
def submit (task : α × ι) (s : Dispatcher args) : Dispatcher args :=
  { s with
    runtimes := Function.update s.runtimes task.2 ((s.runtimes task.2).submit task.1).2
    metrics := countSubmit (args.entry task.2).name s.metrics
      ((s.runtimes task.2).submit task.1).1
    matched := s.matched ++ [task]
    answered := s.answered ++ [(task.2, ((s.runtimes task.2).submit task.1).1)] }

/-- What a task counts when `submit` has answered. -/
def countAnswer (processorName : String) (m : Metrics) : RuntimeSubmitResult → Metrics
  | .accepted _ => m.incSubmitted processorName
  | .shuttingDown => m.incRejected processorName

/-- `shutdown` of the dispatcher shuts every runtime down. -/
def shutdown (s : Dispatcher args) : Dispatcher args :=
  { s with runtimes := fun i ↦
      if i ∈ args.entries then { s.runtimes i with isShuttingDown := true } else s.runtimes i }

/-- What happens to a dispatcher. -/
inductive Step (ω α ι : Type*)
  | dispatch (event : α) (world : ω)
  /-- The matcher of a task answers or fails. -/
  | matcher (index : ℕ) (answer : Except String Bool)
  | count (index : ℕ)
  /-- A process call of a runtime is over. -/
  | settle (entry : ι) (index : ℕ) (outcome : ProcessOutcome)
  | shutdown

def step : Step ω α ι → Dispatcher args → Option (Dispatcher args)
  | .dispatch event world, s => some (s.dispatch event world)
  | .matcher index answer, s => s.matching[index]?.map fun task ↦
      if answer.toOption = some true then
        submit task { s with matching := s.matching.eraseIdx index }
      else { s with matching := s.matching.eraseIdx index }
  | .count index, s => s.answered[index]?.map fun task ↦ { s with
      metrics := countAnswer (args.entry task.1).name s.metrics task.2
      answered := s.answered.eraseIdx index }
  | .settle entry index outcome, s => ((s.runtimes entry).settle index outcome).map fun runtime ↦
      { s with runtimes := Function.update s.runtimes entry runtime }
  | .shutdown, s => some s.shutdown

/-- Every pair that matched is counted once, or its task has still to count. -/
def Balanced (s : Dispatcher args) : Prop :=
  ∀ name, s.metrics.answers name + s.answered.countP (fun task ↦ (args.entry task.1).name = name) =
    s.matched.countP fun pair ↦ (args.entry pair.2).name = name

/-- A pair that matches finds its runtime open. -/
def FindsOpen (s : Dispatcher args) : Step ω α ι → Prop
  | .matcher index answer => answer.toOption = some true → ∀ task ∈ s.matching[index]?,
      (s.runtimes task.2).isShuttingDown = false
  | _ => True

instance (s : Dispatcher args) : (a : Step ω α ι) → Decidable (FindsOpen s a)
  | .matcher index _ => inferInstanceAs (Decidable (_ → ∀ task ∈ s.matching[index]?, _))
  | .dispatch _ _ => inferInstanceAs (Decidable True)
  | .count _ => inferInstanceAs (Decidable True)
  | .settle _ _ _ => inferInstanceAs (Decidable True)
  | .shutdown => inferInstanceAs (Decidable True)

/-! ## The balance -/

variable {s s' : Dispatcher args}

omit [DecidableEq ι] in
theorem balanced_create : Balanced (create args) := fun _ ↦ rfl

/-- What `submit` of a runtime adds to its answers: one, if it rejects. -/
theorem answers_countSubmit (processorName name : String) (m : Metrics)
    (result : RuntimeSubmitResult) :
    (countSubmit processorName m result).answers name =
      m.answers name + if result = .shuttingDown ∧ processorName = name then 1 else 0 := by
  cases result with
  | accepted droppedOldest => cases droppedOldest <;> simp [countSubmit]
  | shuttingDown => simp [countSubmit]

theorem answers_countAnswer (processorName name : String) (m : Metrics)
    (result : RuntimeSubmitResult) :
    (countAnswer processorName m result).answers name =
      m.answers name + if processorName = name then 1 else 0 := by
  cases result with
  | accepted droppedOldest => exact Metrics.answers_incSubmitted m processorName name
  | shuttingDown => exact Metrics.answers_incRejected m processorName name

/-- A runtime rejects exactly when it is shutting down. -/
theorem submit_fst_eq_shuttingDown_iff {config : ProcessorRuntimeConfig}
    (runtime : BoundedRuntime config α) (event : α) :
    (runtime.submit event).1 = .shuttingDown ↔ runtime.isShuttingDown = true := by
  rw [BoundedRuntime.submit]
  split
  · rename_i h
    exact iff_of_true rfl h
  · rename_i h
    exact iff_of_false (by simp) h

/-- A submission keeps the balance exactly when the runtime accepts it. -/
theorem balanced_submit_iff (h : s.Balanced) (task : α × ι) :
    (s.submit task).Balanced ↔ (s.runtimes task.2).isShuttingDown = false := by
  have hname : ∀ name, (s.submit task).metrics.answers name +
      (s.submit task).answered.countP (fun task ↦ (args.entry task.1).name = name) =
      (s.submit task).matched.countP (fun pair ↦ (args.entry pair.2).name = name) +
        if (s.runtimes task.2).isShuttingDown = true ∧ (args.entry task.2).name = name
          then 1 else 0 := by
    intro name
    have hsame := h name
    change (countSubmit _ _ _).answers name + (s.answered ++ [_]).countP _ =
      (s.matched ++ [task]).countP _ + _
    rw [answers_countSubmit, List.countP_append, List.countP_append, List.countP_singleton,
      List.countP_singleton, ← hsame]
    simp only [submit_fst_eq_shuttingDown_iff, decide_eq_true_eq]
    omega
  constructor
  · intro hbalanced
    have hcount := hname (args.entry task.2).name
    rw [hbalanced] at hcount
    refine Bool.eq_false_iff.mpr fun hshut ↦ ?_
    rw [if_pos ⟨hshut, rfl⟩] at hcount
    exact (Nat.lt_succ_self _).ne hcount
  · intro hopen name
    rw [hname, if_neg fun hshut ↦ Bool.false_ne_true (hopen.symm.trans hshut.1), Nat.add_zero]

omit [DecidableEq ι] in
/-- Counting an answer moves it from the tasks to the counters. -/
theorem balanced_count {index : ℕ} {task : ι × RuntimeSubmitResult}
    (htask : s.answered[index]? = some task) (h : s.Balanced) : Balanced { s with
      metrics := countAnswer (args.entry task.1).name s.metrics task.2
      answered := s.answered.eraseIdx index } := by
  intro name
  obtain ⟨hlt, hget⟩ := List.getElem?_eq_some_iff.mp htask
  have hsplit := (List.getElem_cons_eraseIdx_perm hlt).countP_eq
    fun task : ι × RuntimeSubmitResult ↦ decide ((args.entry task.1).name = name)
  rw [hget, List.countP_cons] at hsplit
  have hsame := h name
  change (countAnswer _ _ _).answers name + (s.answered.eraseIdx index).countP _ =
    s.matched.countP _
  rw [answers_countAnswer, ← hsame, ← hsplit]
  simp only [decide_eq_true_eq]
  omega

/-- A step keeps the balance exactly when no pair reaches a runtime that is shutting down. -/
theorem balanced_step_iff (h : s.Balanced) {a : Step ω α ι}
    (hstep : step a s = some s') : s'.Balanced ↔ FindsOpen s a := by
  cases a with
  | dispatch event world =>
    obtain rfl := Option.some.inj hstep
    refine iff_of_true ?_ trivial
    rw [dispatch]
    split
    · exact h
    · exact h
  | matcher index answer =>
    obtain ⟨task, htask, rfl⟩ := Option.map_eq_some_iff.mp hstep
    split
    · rename_i htrue
      exact (balanced_submit_iff (s := { s with matching := s.matching.eraseIdx index }) h
        task).trans ⟨fun hopen _ t ht ↦ Option.some.inj (htask.symm.trans ht) ▸ hopen,
          fun hfinds ↦ hfinds htrue task htask⟩
    · rename_i hfalse
      exact iff_of_true h fun htrue ↦ absurd htrue hfalse
  | count index =>
    obtain ⟨task, htask, rfl⟩ := Option.map_eq_some_iff.mp hstep
    exact iff_of_true (balanced_count htask h) trivial
  | settle entry index outcome =>
    obtain ⟨runtime, -, rfl⟩ := Option.map_eq_some_iff.mp hstep
    exact iff_of_true h trivial
  | shutdown =>
    obtain rfl := Option.some.inj hstep
    exact iff_of_true h trivial

/-- **The counters balance** in a run in which every pair that matches finds its runtime open; and
a run that is balanced after every step is one of these. -/
theorem counters_balance {steps : List (Step ω α ι)} :
    (Run Dispatcher.step FindsOpen (create args) steps s → s.Balanced) ∧
    (Run Dispatcher.step FindsOpen (create args) steps s ↔
      Run Dispatcher.step (fun s a ↦ ∀ s', Dispatcher.step a s = some s' → s'.Balanced)
        (create args) steps s) := by
  constructor
  · exact fun hrun ↦ hrun.invariant balanced_create fun _ _ _ h hopen hstep ↦
      (balanced_step_iff h hstep).mpr hopen
  · exact run_iff_run_keeping ⟨trivial, balanced_create⟩
      (fun _ _ _ _ _ ↦ trivial) fun _ _ _ _ h hstep ↦ balanced_step_iff h hstep

/-! ## One processor -/

/-- One processor, behind a preprocessor that splits an event in two. -/
def splitting : DispatcherArgs Unit ℕ Unit where
  entry := fun _ ↦ ⟨"http-events", BoundedRuntime.oneSlot⟩
  entries := [()]
  preprocessors := [⟨"split", none, fun event world ↦ (.ok [2 * event, 2 * event + 1], world)⟩]

/-- The two parts of an event match, are submitted and counted; then the dispatcher shuts down. -/
theorem counters_balance_split : ∃ s : Dispatcher splitting,
    (s.metrics "http-events").submitted = 2 ∧ s.Balanced := by
  let steps : List (Step Unit ℕ Unit) :=
    [.dispatch 5 (), .matcher 0 (.ok true), .matcher 0 (.ok true), .count 1, .count 0, .shutdown]
  have hexecute : (execute Dispatcher.step FindsOpen steps (create splitting)).any
      (fun s ↦ decide ((s.metrics "http-events").submitted = 2)) = true := by decide +kernel
  obtain ⟨s, hs, hfacts⟩ := (Option.any_eq_true _ _).mp hexecute
  exact ⟨s, of_decide_eq_true hfacts, counters_balance.1 (run_of_execute hs)⟩

/-- The matcher answers after the dispatcher began to shut down: the pair is counted twice. -/
theorem not_counters_balance : ¬ ∀ (steps : List (Step Unit ℕ Unit)) (s : Dispatcher splitting),
    Run Dispatcher.step (fun _ _ ↦ True) (create splitting) steps s → s.Balanced := by
  intro hall
  let steps : List (Step Unit ℕ Unit) :=
    [.dispatch 5 (), .shutdown, .matcher 0 (.ok true), .matcher 0 (.ok false), .count 0]
  have hexecute : (execute Dispatcher.step (fun _ _ ↦ True) steps (create splitting)).any
      (fun s ↦ decide ((s.metrics "http-events").rejected = 2 ∧ s.matched.length = 1)) = true := by
    decide +kernel
  obtain ⟨s, hs, hfacts⟩ := (Option.any_eq_true _ _).mp hexecute
  obtain ⟨hrejected, hmatched⟩ : (s.metrics "http-events").rejected = 2 ∧ s.matched.length = 1 :=
    of_decide_eq_true hfacts
  have hcount := hall _ s (run_of_execute hs) "http-events"
  have hle := List.countP_le_length (l := s.matched)
    (p := fun pair ↦ (splitting.entry pair.2).name = "http-events")
  rw [Metrics.answers, hrejected] at hcount
  omega

end Dispatcher

end RwServer
