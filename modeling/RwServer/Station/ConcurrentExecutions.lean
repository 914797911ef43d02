import Mathlib
import RwServer.Foundation.Calls
import RwServer.Orders.Operations

/-!
# Executions of a station event

A job of the queue runs one execution: it reads the execution, and where that is `RUNNING` goes
through the actions of the event, one after the other, and last writes how it went. The queue may
deliver a job again, when its worker has crashed or has only been slow; and the call that has put
the job on the queue marks the execution as failed when the queue has not answered. Nothing claims
the execution between the read and the last write, and the last write does not look at the status.

`actions_execute_once` is what holds while no second delivery comes upon an execution whose actions
have begun.
-/

namespace RwServer

open Transition

inductive StationEventExecutionStatus
  | RUNNING
  | FAILED
  | SUCCEEDED
deriving DecidableEq, Repr

/-- An action of an event, with inputs of the type `Input`. -/
structure EventAction (Input : Type*) where
  id : String
  event : String
  inputs : Input
  continueOnError : Bool
deriving DecidableEq

/-- An entry of the catalog: `inputSchema` says which inputs parse. -/
structure StationActionDefinition (Input : Type*) where
  key : String
  inputSchema : Input → Bool

/-- What is read of an execution: its status and the actions of its event. -/
structure StationEventExecution (Input : Type*) where
  status : StationEventExecutionStatus
  actions : List (EventAction Input)
deriving DecidableEq

/-- The execution, where there is one, and the actions that the calls `ι` have executed, by their
index. -/
structure ExecutionStore (ι Input : Type*) where
  execution : Option (StationEventExecution Input)
  executed : List (ι × ℕ)
deriving DecidableEq

namespace ExecutionStore

variable {ι Input : Type*}

def status (store : ExecutionStore ι Input) : Option StationEventExecutionStatus :=
  store.execution.map StationEventExecution.status

/-- `UPDATE "StationEventExecution" SET status = …`. -/
def setStatus (store : ExecutionStore ι Input) (status : StationEventExecutionStatus) :
    ExecutionStore ι Input :=
  { store with execution := store.execution.map fun e ↦ { e with status := status } }

/-- `markExecutionFailed`: only an execution that is running is marked. -/
def markExecutionFailed (store : ExecutionStore ι Input) : ExecutionStore ι Input :=
  if store.status = some .RUNNING then store.setStatus .FAILED else store

@[simp] theorem status_setStatus (store : ExecutionStore ι Input)
    (status : StationEventExecutionStatus) :
    (store.setStatus status).status = store.status.map fun _ ↦ status := by
  rw [ExecutionStore.status, ExecutionStore.status, setStatus, Option.map_map, Option.map_map]
  rfl

@[simp] theorem executed_setStatus (store : ExecutionStore ι Input)
    (status : StationEventExecutionStatus) :
    (store.setStatus status).executed = store.executed := rfl

@[simp] theorem executed_markExecutionFailed (store : ExecutionStore ι Input) :
    store.markExecutionFailed.executed = store.executed := by
  rw [markExecutionFailed]
  split <;> rfl

end ExecutionStore

/-! ## The calls, statement by statement -/

variable {Input : Type*}

/-- `getAction`. -/
def getAction (registry : List (StationActionDefinition Input)) (actionKey : String) :
    Option (StationActionDefinition Input) :=
  registry.find? fun definition ↦ decide (definition.key = actionKey)

/-- `validateActionInput`: why an input is not valid. -/
def validateActionInput (registry : List (StationActionDefinition Input)) (actionKey : String)
    (input : Input) : Option ServiceError :=
  match getAction registry actionKey with
  | none => some ⟨"Unknown station action: " ++ actionKey, "ACTION_NOT_FOUND"⟩
  | some definition =>
    if definition.inputSchema input then none
    else some ⟨"Invalid input for station action: " ++ actionKey, "ACTION_INPUT_INVALID"⟩

/-- What a round of the loop over the actions comes to before anything is executed. -/
inductive ActionRound (Input : Type*)
  | over
  | refused (e : ServiceError)
  | execute (action : EventAction Input)

def actionRound (registry : List (StationActionDefinition Input))
    (actions : List (EventAction Input)) (index : ℕ) : ActionRound Input :=
  match actions[index]? with
  | none => .over
  | some action =>
    match getAction registry action.event with
    | none => .refused ⟨"Unknown station action: " ++ action.event ++ " (index: " ++
        toString index ++ ")", "ACTION_NOT_FOUND"⟩
    | some _ =>
      match validateActionInput registry action.event action.inputs with
      | some e => .refused ⟨e.error ++ " (index: " ++ toString index ++ ")", e.code⟩
      | none => .execute action

inductive ExecutionResult
  | enqueued
  | data (status : StationEventExecutionStatus) (skipped : Bool)
  | refused (e : ServiceError)
deriving DecidableEq, Repr

/-- Which statement of a call comes next. -/
inductive ExecutionPhase (Input : Type*)
  /-- `enqueueStationEventExecution` puts the job on the queue. -/
  | adding
  /-- `runStationEventExecution` reads the execution. -/
  | reading
  | acting (actions : List (EventAction Input)) (index : ℕ) (hasRuntimeFailure : Bool)
  | executing (actions : List (EventAction Input)) (index : ℕ) (hasRuntimeFailure : Bool)
      (action : EventAction Input)
  | failing (e : ServiceError)
  | completing (status : StationEventExecutionStatus)
  | finished (result : ExecutionResult)
deriving DecidableEq

/-- The phase after the query that reads the execution. -/
def afterReadExecution (execution : Option (StationEventExecution Input)) : ExecutionPhase Input :=
  match execution with
  | none => .finished (.refused ⟨"Station event execution not found", "EXECUTION_NOT_FOUND"⟩)
  | some execution =>
    if execution.status ≠ .RUNNING then .finished (.data execution.status true)
    else .acting execution.actions 0 false

/-- The phase after an action, which may have thrown an error. -/
def afterAction (actions : List (EventAction Input)) (index : ℕ) (hasRuntimeFailure : Bool)
    (action : EventAction Input) (thrown : Option String) : ExecutionPhase Input :=
  match thrown with
  | none => .acting actions (index + 1) hasRuntimeFailure
  | some message =>
    if action.continueOnError then .acting actions (index + 1) true
    else .failing ⟨"Action execution failed for " ++ action.event ++ ": " ++ message,
      "ACTION_EXECUTION_FAILED"⟩

section

variable {ι : Type*}

/-- The next statement of the call `i`. Where it waits for the queue or for an action, `thrown` is
the message of the error that comes back. -/
def executionStatement (registry : List (StationActionDefinition Input)) (i : ι)
    (thrown : Option String) (store : ExecutionStore ι Input) :
    ExecutionPhase Input → Option (ExecutionStore ι Input × ExecutionPhase Input)
  | .adding =>
    match thrown with
    | none => some (store, .finished .enqueued)
    | some message => some (store, .failing
        ⟨"Failed to enqueue station event execution: " ++ message, "EXECUTION_ENQUEUE_FAILED"⟩)
  | .reading => some (store, afterReadExecution store.execution)
  | .acting actions index hasRuntimeFailure =>
    match actionRound registry actions index with
    | .over => some (store, .completing (if hasRuntimeFailure then .FAILED else .SUCCEEDED))
    | .refused e => some (store, .failing e)
    | .execute action => some ({ store with executed := store.executed ++ [(i, index)] },
        .executing actions index hasRuntimeFailure action)
  | .executing actions index hasRuntimeFailure action =>
    some (store, afterAction actions index hasRuntimeFailure action thrown)
  | .failing e => some (store.markExecutionFailed, .finished (.refused e))
  | .completing status => some (store.setStatus status, .finished (.data status false))
  | .finished _ => none

/-- How far a call has come: the actions it has executed are before this index. After the loop
nothing is said. -/
def ExecutionPhase.bound : ExecutionPhase Input → Option ℕ
  | .adding | .reading => some 0
  | .acting _ index _ => some index
  | .executing _ index _ _ => some (index + 1)
  | _ => none

theorem bound_afterReadExecution (execution : Option (StationEventExecution Input)) :
    (afterReadExecution execution).bound = some 0 ∨
      (afterReadExecution execution).bound = none := by
  unfold afterReadExecution
  split
  · exact .inr rfl
  · split
    · exact .inr rfl
    · exact .inl rfl

theorem bound_afterAction (actions : List (EventAction Input)) (index : ℕ) (failure : Bool)
    (action : EventAction Input) (thrown : Option String) :
    (afterAction actions index failure action thrown).bound = some (index + 1) ∨
      (afterAction actions index failure action thrown).bound = none := by
  unfold afterAction
  split
  · exact .inl rfl
  · split
    · exact .inl rfl
    · exact .inr rfl

/-- **What a statement can do.** It leaves the store as it is, executes the next action, marks a
running execution as failed, or writes the last status. -/
theorem executionStatement_cases {registry : List (StationActionDefinition Input)} {i : ι}
    {thrown : Option String} {store store' : ExecutionStore ι Input}
    {phase phase' : ExecutionPhase Input}
    (h : executionStatement registry i thrown store phase = some (store', phase')) :
    (store' = store ∧ (phase'.bound = phase.bound ∨ phase'.bound = none)) ∨
      (∃ actions index failure action, phase = .acting actions index failure ∧
        actionRound registry actions index = .execute action ∧
        store' = { store with executed := store.executed ++ [(i, index)] } ∧
        phase'.bound = some (index + 1)) ∨
      (store' = store.markExecutionFailed ∧ phase'.bound = none) ∨
      ∃ status, phase = .completing status ∧ store' = store.setStatus status ∧
        phase'.bound = none := by
  cases phase with
  | adding =>
    rcases thrown with - | message
    · cases h
      exact .inl ⟨rfl, .inr rfl⟩
    · cases h
      exact .inl ⟨rfl, .inr rfl⟩
  | reading =>
    cases h
    exact .inl ⟨rfl, bound_afterReadExecution _⟩
  | acting actions index failure =>
    rw [executionStatement] at h
    split at h
    · cases h
      exact .inl ⟨rfl, .inr rfl⟩
    · cases h
      exact .inl ⟨rfl, .inr rfl⟩
    · rename_i action hround
      cases h
      exact .inr (.inl ⟨_, _, _, _, rfl, hround, rfl, rfl⟩)
  | executing actions index failure action =>
    cases h
    exact .inl ⟨rfl, bound_afterAction ..⟩
  | failing e =>
    cases h
    exact .inr (.inr (.inl ⟨rfl, rfl⟩))
  | completing status =>
    cases h
    exact .inr (.inr (.inr ⟨_, rfl, rfl, rfl⟩))
  | finished result => cases h

/-- No action has been executed twice. -/
def ExecutedOnce (store : ExecutionStore ι Input) : Prop := (store.executed.map Prod.snd).Nodup

/-- What a call has executed is what it has gone through. -/
def WithinBound (i : ι) (store : ExecutionStore ι Input) (phase : ExecutionPhase Input) : Prop :=
  ∀ bound ∈ phase.bound, ∀ k, (i, k) ∈ store.executed → k < bound

theorem withinBound_of_none {i : ι} {store : ExecutionStore ι Input}
    {phase : ExecutionPhase Input} (h : phase.bound = none) : WithinBound i store phase :=
  fun bound hbound ↦ by rw [h] at hbound; cases hbound

/-- What a statement that executes nothing keeps. -/
theorem WithinBound.keep {i : ι} {store store' : ExecutionStore ι Input}
    {phase phase' : ExecutionPhase Input} (h : WithinBound i store phase)
    (hexecuted : store'.executed = store.executed)
    (hbound : phase'.bound = phase.bound ∨ phase'.bound = none) : WithinBound i store' phase' := by
  rcases hbound with hbound | hbound
  · rwa [WithinBound, hbound, hexecuted]
  · exact withinBound_of_none hbound

/-- A status other than `RUNNING` stays. -/
def TerminalStays (store store' : ExecutionStore ι Input) : Prop :=
  ∀ status, store.status = some status → status ≠ .RUNNING → store'.status = some status

theorem terminalStays_markExecutionFailed (store : ExecutionStore ι Input) :
    TerminalStays store store.markExecutionFailed := by
  intro status hstatus hne
  rw [ExecutionStore.markExecutionFailed, if_neg]
  · exact hstatus
  · rw [hstatus]
    exact fun h ↦ hne (Option.some.inj h)

/-! ## Runs in which the actions are executed once -/

abbrev ExecutionCalls (ι Input : Type*) := Calls ι (ExecutionStore ι Input) (ExecutionPhase Input)

variable [DecidableEq ι]

def executionStep (registry : List (StationActionDefinition Input)) :
    ι × Option String → ExecutionCalls ι Input → Option (ExecutionCalls ι Input) :=
  Calls.step (executionStatement registry)

/-- Whether a call puts the job on the queue or is a delivery of it. -/
inductive ExecutionCall
  | enqueue
  | run
deriving DecidableEq, Repr

/-- Before any of the calls. -/
def executionsStart (calls : ι → ExecutionCall)
    (execution : Option (StationEventExecution Input)) : ExecutionCalls ι Input where
  store := ⟨execution, []⟩
  phase i := match calls i with
    | .enqueue => .adding
    | .run => .reading

/-- The condition on a step: a call that executes an action finds that no other call has executed
one, and the last write finds the execution running, or as it is about to leave it. -/
def NotRedelivered (registry : List (StationActionDefinition Input)) (s : ExecutionCalls ι Input)
    (a : ι × Option String) : Prop :=
  (∀ actions index failure action, s.phase a.1 = .acting actions index failure →
    actionRound registry actions index = .execute action → ∀ e ∈ s.store.executed, e.1 = a.1) ∧
  ∀ status, s.phase a.1 = .completing status →
    ∀ found ∈ s.store.status, found = .RUNNING ∨ found = status

theorem executedOnce_of_run {registry : List (StationActionDefinition Input)}
    {calls : ι → ExecutionCall} {execution : Option (StationEventExecution Input)}
    {steps : List (ι × Option String)} {s : ExecutionCalls ι Input}
    (hrun : Run (executionStep registry) (NotRedelivered registry)
      (executionsStart calls execution) steps s) : ExecutedOnce s.store := by
  have hstart : ExecutedOnce (executionsStart calls execution).store := List.nodup_nil
  refine (Calls.invariant (I := ExecutedOnce) (A := WithinBound) hstart
    (fun i bound _ k hk ↦ absurd hk List.not_mem_nil) ?_ hrun).1
  intro s i thrown store phase hok honce hbound hstatement
  have hsame : store.executed = s.store.executed → (phase.bound = (s.phase i).bound ∨
      phase.bound = none) → ExecutedOnce store ∧ WithinBound i store phase ∧
        ∀ j ≠ i, WithinBound j s.store (s.phase j) → WithinBound j store (s.phase j) := by
    intro hexecuted hphase
    refine ⟨?_, hbound.keep hexecuted hphase, fun j _ hj ↦ hj.keep hexecuted (.inl rfl)⟩
    rwa [ExecutedOnce, hexecuted]
  rcases executionStatement_cases hstatement with ⟨rfl, hphase⟩ |
    ⟨actions, index, failure, action, hacting, hround, rfl, hphase⟩ | ⟨rfl, hphase⟩ |
    ⟨status, -, rfl, hphase⟩
  · exact hsame rfl hphase
  · have hown := hok.1 _ _ _ _ hacting hround
    rw [hacting] at hbound
    -- all that has been executed is of this call, and before the index
    have hfresh : index ∉ s.store.executed.map Prod.snd := by
      intro hmem
      obtain ⟨⟨j, k⟩, hjk, rfl⟩ := List.mem_map.mp hmem
      obtain rfl : j = i := hown _ hjk
      exact lt_irrefl k (hbound _ rfl k hjk)
    refine ⟨?_, ?_, fun j hj hbound' bound hmem k hk ↦ ?_⟩
    · rw [ExecutedOnce, List.map_append, List.map_singleton, List.nodup_append_comm]
      exact List.nodup_cons.mpr ⟨hfresh, honce⟩
    · intro bound hmem k hk
      rw [hphase, Option.mem_some_iff] at hmem
      rcases List.mem_append.mp hk with hold | hnew
      · exact hmem ▸ (hbound _ rfl k hold).trans (Nat.lt_succ_self index)
      · rw [List.mem_singleton, Prod.mk.injEq] at hnew
        omega
    · rcases List.mem_append.mp hk with hold | hnew
      · exact hbound' _ hmem k hold
      · rw [List.mem_singleton, Prod.mk.injEq] at hnew
        exact absurd hnew.1 hj
  · exact hsame (ExecutionStore.executed_markExecutionFailed _) (.inr hphase)
  · exact hsame rfl (.inr hphase)

theorem terminalStays_of_run {registry : List (StationActionDefinition Input)}
    {steps : List (ι × Option String)} {s s' : ExecutionCalls ι Input}
    (hrun : Run (executionStep registry) (NotRedelivered registry) s steps s') :
    TerminalStays s.store s'.store := by
  refine Calls.store_relation (fun _ _ hstatus _ ↦ hstatus)
    (fun h₁ h₂ status hstatus hne ↦ h₂ status (h₁ status hstatus hne) hne) ?_ hrun
  intro s i thrown store phase hok hstatement
  rcases executionStatement_cases hstatement with ⟨rfl, -⟩ | ⟨_, _, _, _, -, -, rfl, -⟩ | ⟨rfl, -⟩ |
    ⟨written, hphase, rfl, -⟩
  · exact fun status hstatus _ ↦ hstatus
  · exact fun status hstatus _ ↦ hstatus
  · exact terminalStays_markExecutionFailed _
  · intro status hstatus hne
    rw [ExecutionStore.status_setStatus, hstatus, Option.map_some]
    rcases hok.2 written hphase status hstatus with hrunning | rfl
    · exact absurd hrunning hne
    · rfl

/-- **The actions are executed once**, and a status that is not `RUNNING` stays, in every
interleaving, with any number of deliveries and crashes, in which no delivery executes an action
when another one has, and the last write finds the execution running or as it leaves it. -/
theorem actions_execute_once {registry : List (StationActionDefinition Input)}
    {calls : ι → ExecutionCall} {execution : Option (StationEventExecution Input)}
    {steps later : List (ι × Option String)} {s s' : ExecutionCalls ι Input}
    (hrun : Run (executionStep registry) (NotRedelivered registry)
      (executionsStart calls execution) steps s)
    (hlater : Run (executionStep registry) (NotRedelivered registry) s later s') :
    ExecutedOnce s'.store ∧ TerminalStays s.store s'.store :=
  ⟨executedOnce_of_run (hrun.trans hlater), terminalStays_of_run hlater⟩

end

/-! ## Two deliveries -/

/-- An event that records a cycle and then calls a webhook. -/
def recordAndSend : StationEventExecution Unit where
  status := .RUNNING
  actions := [⟨"a", "cycle.record", (), false⟩, ⟨"b", "webhook.send", (), true⟩]

def recordAndSendRegistry : List (StationActionDefinition Unit) :=
  [⟨"cycle.record", fun _ ↦ true⟩, ⟨"webhook.send", fun _ ↦ true⟩]

/-- The second delivery comes when the first has failed with its webhook, and is skipped. -/
theorem actions_execute_once_redelivered : ∃ s : ExecutionCalls Bool Unit,
    (s.store.executed = [(false, 0), (false, 1)] ∧ s.store.status = some .FAILED ∧
      s.phase true = .finished (.data .FAILED true)) ∧
      ExecutedOnce s.store ∧ TerminalStays s.store s.store := by
  have hcond : ∀ (s : ExecutionCalls Bool Unit) (a : Bool × Option String),
      ((∀ e ∈ s.store.executed, e.1 = a.1) ∧ s.store.status = some .RUNNING ∨
        s.phase a.1 = .reading) → NotRedelivered recordAndSendRegistry s a := by
    rintro s a (⟨hown, hrunning⟩ | hreading)
    · exact ⟨fun _ _ _ _ _ _ ↦ hown, fun _ _ found hfound ↦
        .inl (Option.some.inj (hfound.symm.trans hrunning))⟩
    · exact ⟨fun _ _ _ _ hacting ↦ (by rw [hreading] at hacting; cases hacting),
        fun _ hcompleting ↦ (by rw [hreading] at hcompleting; cases hcompleting)⟩
  have hexecute : (execute (executionStep recordAndSendRegistry)
      (fun s a ↦ (∀ e ∈ s.store.executed, e.1 = a.1) ∧ s.store.status = some .RUNNING ∨
        s.phase a.1 = .reading)
      [(false, none), (false, none), (false, none), (false, none), (false, some "timeout"),
        (false, none), (false, none), (true, none)]
      (executionsStart (fun _ ↦ .run) (some recordAndSend))).any (fun s ↦
        decide (s.store.executed = [(false, 0), (false, 1)] ∧ s.store.status = some .FAILED ∧
          s.phase true = .finished (.data .FAILED true))) = true := by decide +kernel
  obtain ⟨s, hs, hfacts⟩ := (Option.any_eq_true _ _).mp hexecute
  exact ⟨s, of_decide_eq_true hfacts,
    actions_execute_once ((run_of_execute hs).mono hcond) .nil⟩

/-- **Two deliveries record two cycles.** Both read the execution while it is running. The first one
records its cycle, but the answer is lost, and it marks the execution as failed; the second one
records another cycle and marks the same execution as succeeded. -/
theorem not_actions_execute_once : ∃ s s' : ExecutionCalls Bool Unit,
    Run (executionStep recordAndSendRegistry) (fun _ _ ↦ True)
        (executionsStart (fun _ ↦ .run) (some recordAndSend))
        [(false, none), (true, none), (false, none), (false, some "connection lost"),
          (false, none)] s ∧
      Run (executionStep recordAndSendRegistry) (fun _ _ ↦ True) s
        [(true, none), (true, none), (true, none), (true, none), (true, none), (true, none)] s' ∧
      ¬ ExecutedOnce s'.store ∧ ¬ TerminalStays s.store s'.store := by
  have hexecute : (execute (executionStep recordAndSendRegistry) (fun _ _ ↦ True)
      [(false, none), (true, none), (false, none), (false, some "connection lost"), (false, none)]
      (executionsStart (fun _ ↦ .run) (some recordAndSend))).any (fun s ↦
        decide (s.store.status = some .FAILED ∧
          (execute (executionStep recordAndSendRegistry) (fun _ _ ↦ True)
            [(true, none), (true, none), (true, none), (true, none), (true, none), (true, none)]
            s).any (fun s' ↦ decide (s'.store.status = some .SUCCEEDED ∧
              s'.store.executed.map Prod.snd = [0, 0, 1])) = true)) = true := by decide +kernel
  obtain ⟨s, hs, hfacts⟩ := (Option.any_eq_true _ _).mp hexecute
  obtain ⟨hfailed, hlater⟩ := of_decide_eq_true hfacts
  obtain ⟨s', hs', hfacts'⟩ := (Option.any_eq_true _ _).mp hlater
  obtain ⟨hsucceeded, htwice⟩ := of_decide_eq_true hfacts'
  refine ⟨s, s', run_of_execute hs, run_of_execute hs', ?_, fun hstays ↦ ?_⟩
  · rw [ExecutedOnce, htwice]
    decide
  · have hstatus := hstays .FAILED hfailed (by decide)
    rw [hsucceeded] at hstatus
    cases hstatus

end RwServer
