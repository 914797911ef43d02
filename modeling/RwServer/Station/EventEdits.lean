import Mathlib
import RwServer.Foundation.EditedRows
import RwServer.Foundation.Table
import RwServer.Station.ConcurrentExecutions

/-!
# Edits of a station event

A user edits a station event in a form that was filled from some version of it, and the update names
that version. It is one statement that looks for the version and puts it one higher, so that it
finds no row where somebody has edited the event in between; a toggle asks for no version, but
counts as an edit. A trigger changes the statistics of the event and leaves its version alone, and a
new execution comes with each run that is counted.

`event_edits_recorded` is what holds of the events in every interleaving of requests.
-/

namespace RwServer

open Relational Transition

/-! ## The tables -/

/-- What the version of a `StationEvent` is about. -/
structure StationEventContent (Trigger Input : Type*) where
  name : String
  enabled : Bool
  trigger : Trigger
  actions : List (EventAction Input)
deriving DecidableEq

/-- A row of `StationEvent`. -/
structure StationEvent (Trigger Input : Type*) extends StationEventContent Trigger Input where
  id : Uuid
  lastRunAt : Option Time
  runCount : ℕ
  version : ℕ
  stationId : Uuid
deriving DecidableEq

/-- A row of `StationEventExecution`; the payload `none` is `{}`. -/
structure EventExecutionRow (Payload : Type*) where
  id : Uuid
  status : StationEventExecutionStatus
  payload : Option Payload
  completedAt : Option Time
  createdAt : Time
  stationEventId : Uuid
deriving DecidableEq

inductive StationEventMutationOperation
  | create | update | toggle | delete
deriving DecidableEq, Repr

/-- What `notifyStationEventCacheRefresh` tells the processor. -/
structure StationEventCacheRefresh where
  workspaceId : Uuid
  stationId : Uuid
  eventId : Uuid
  operation : StationEventMutationOperation
deriving DecidableEq, Repr

variable {Trigger Input Payload : Type*}

def stationEventSchema (Trigger Input : Type*) : Schema (StationEvent Trigger Input) Uuid :=
  ⟨StationEvent.id, fun _ _ ↦ false, fun _ _ ↦ rfl⟩

def eventExecutionSchema (Payload : Type*) : Schema (EventExecutionRow Payload) Uuid :=
  ⟨EventExecutionRow.id, fun _ _ ↦ false, fun _ _ ↦ rfl⟩

/-- The events and their executions, the ids that events have had, and what the processor has been
told. -/
structure EventStore (Trigger Input Payload : Type*) where
  events : Table (stationEventSchema Trigger Input)
  executions : Table (eventExecutionSchema Payload)
  issued : List Uuid
  refreshes : List StationEventCacheRefresh

/-! ## The requests -/

/-- `updates`: `none` where there is no such key, `some none` where its value is `undefined`. -/
structure StationEventUpdates (Trigger Input : Type*) where
  name : Option (Option String) := none
  enabled : Option (Option Bool) := none
  trigger : Option (Option Trigger) := none
  actions : Option (Option (List (EventAction Input))) := none

/-- `Object.keys(updates).length === 0`. -/
def StationEventUpdates.isEmpty (updates : StationEventUpdates Trigger Input) : Bool :=
  updates.name.isNone && updates.enabled.isNone && updates.trigger.isNone && updates.actions.isNone

/-- The columns of `updateData`. -/
def StationEventUpdates.apply (updates : StationEventUpdates Trigger Input)
    (content : StationEventContent Trigger Input) : StationEventContent Trigger Input where
  name := updates.name.join.getD content.name
  enabled := updates.enabled.join.getD content.enabled
  trigger := updates.trigger.join.getD content.trigger
  actions := updates.actions.join.getD content.actions

inductive StationEventRequest (Trigger Input Payload : Type*)
  | create (name : String) (trigger : Trigger) (actions : List (EventAction Input))
  | update (eventId : Uuid) (expectedVersion : ℕ) (updates : StationEventUpdates Trigger Input)
  | remove (eventId : Uuid)
  | toggle (eventId : Uuid) (enabled : Bool)
  | trigger (eventId : Uuid) (payload : Option Payload)

structure StationEventCall (Trigger Input Payload : Type*) where
  stationId : Uuid
  workspaceId : Option Uuid
  request : StationEventRequest Trigger Input Payload

/-- `validateEventActions`: the first action whose input is not valid. -/
def validateEventActions (registry : List (StationActionDefinition Input))
    (actions : List (EventAction Input)) : Option ServiceError :=
  actions.zipIdx.findSome? fun entry ↦
    (validateActionInput registry entry.1.event entry.1.inputs).map fun e ↦
      ⟨e.error ++ " (action index: " ++ toString entry.2 ++ ")", e.code⟩

/-- The actions that a request is refused for. -/
def StationEventRequest.validate (registry : List (StationActionDefinition Input)) :
    StationEventRequest Trigger Input Payload → Option ServiceError
  | .create _ _ actions => validateEventActions registry actions
  | .update _ _ updates => updates.actions.join.bind (validateEventActions registry)
  | _ => none

/-- `validateStationWorkspace`, for a station that the query finds in a workspace. -/
def validateStationWorkspace (station workspaceId : Option Uuid) : Except ServiceError Uuid :=
  match station with
  | none => .error ⟨"Station not found", "STATION_NOT_FOUND"⟩
  | some found =>
    if workspaceId.any fun asked ↦ decide (found ≠ asked) then
      .error ⟨"Unauthorized", "WORKSPACE_MISMATCH"⟩
    else .ok found

def stationEventNotFound : ServiceError := ⟨"Station event not found", "STATION_EVENT_NOT_FOUND"⟩

inductive StationEventReply (Trigger Input Payload : Type*)
  | data (event : StationEvent Trigger Input)
  | triggered (event : StationEvent Trigger Input) (execution : EventExecutionRow Payload)
  | success
  | refused (e : ServiceError)
  /-- A write by id has found no row, or the transaction has failed. -/
  | thrown

/-- Which statement of a call comes next; the station has been found in `workspaceId`. -/
inductive EventPhase (Trigger Input Payload : Type*)
  | start
  | inserting (workspaceId : Uuid)
  | finding (workspaceId : Uuid)
  | writing (workspaceId : Uuid)
  /-- An update that has written reads the event again. -/
  | rereading (workspaceId : Uuid)
  | enqueueing (event : StationEvent Trigger Input) (execution : EventExecutionRow Payload)
  | failing (executionId : Uuid) (message : String)
  /-- The call is over, and has given the event this version. -/
  | edited (eventId : Uuid) (version : ℕ) (reply : StationEventReply Trigger Input Payload)
  | finished (reply : StationEventReply Trigger Input Payload)

/-- What comes from outside at a statement. -/
structure EventInput where
  now : Time
  /-- The workspace of the station's site, where the query finds the station. -/
  station : Option Uuid := none
  /-- The id that a new row draws. -/
  id : Uuid := 0
  /-- The message of the error that the queue throws. -/
  thrown : Option String := none

/-! ## The requests, statement by statement -/

namespace EventStore

variable (store : EventStore Trigger Input Payload)

/-- `findFirst({ where: { id: eventId, stationId } })`. -/
def findEvent (eventId stationId : Uuid) : Option (StationEvent Trigger Input) :=
  (store.events.find eventId).filter fun event ↦ decide (event.stationId = stationId)

/-- `void notifyStationEventCacheRefresh(…)`. -/
def notify (refresh : StationEventCacheRefresh) : EventStore Trigger Input Payload :=
  { store with refreshes := store.refreshes ++ [refresh] }

/-- An update of the rows of `StationEvent` that meet `p`. -/
def updateEvents (p : StationEvent Trigger Input → Bool)
    (f : StationEvent Trigger Input → StationEvent Trigger Input)
    (hf : ∀ event, (f event).id = event.id) : EventStore Trigger Input Payload :=
  { store with events := store.events.modify p f ⟨hf, fun _ _ h ↦ h⟩ }

/-- `stationEvent.create`. -/
def createEvent (event : StationEvent Trigger Input) : EventStore Trigger Input Payload :=
  { store with
    events := store.events.insertMissing event
    issued := event.id :: store.issued }

/-- `stationEvent.delete`; the executions go with the event. -/
def deleteEvent (eventId : Uuid) : EventStore Trigger Input Payload :=
  { store with
    events := store.events.delete fun event ↦ decide (event.id = eventId)
    executions := store.executions.delete fun execution ↦
      decide (execution.stationEventId = eventId) }

/-- `markExecutionFailed`. -/
def failExecution (executionId : Uuid) (now : Time) : EventStore Trigger Input Payload :=
  { store with
    executions := store.executions.modify
      (fun execution ↦ decide (execution.id = executionId ∧ execution.status = .RUNNING))
      (fun execution ↦ { execution with status := .FAILED, completedAt := some now })
      ⟨fun _ ↦ rfl, fun _ _ h ↦ h⟩ }

end EventStore

/-- The row that `create` writes. -/
def createdEvent (id stationId : Uuid) (name : String) (trigger : Trigger)
    (actions : List (EventAction Input)) : StationEvent Trigger Input where
  id := id
  name := name
  enabled := true
  trigger := trigger
  actions := actions
  lastRunAt := none
  runCount := 0
  version := 1
  stationId := stationId

/-- An edit of the content, with `version: { increment: 1 }`. -/
def StationEvent.edited
    (change : StationEventContent Trigger Input → StationEventContent Trigger Input)
    (event : StationEvent Trigger Input) : StationEvent Trigger Input :=
  { event with
    toStationEventContent := change event.toStationEventContent
    version := event.version + 1 }

/-- `data: { lastRunAt: now, runCount: { increment: 1 } }`. -/
def StationEvent.ran (now : Time) (event : StationEvent Trigger Input) :
    StationEvent Trigger Input :=
  { event with lastRunAt := some now, runCount := event.runCount + 1 }

/-- `data: { enabled, version: { increment: 1 } }`. -/
def setEnabled (enabled : Bool) (content : StationEventContent Trigger Input) :
    StationEventContent Trigger Input :=
  { content with enabled := enabled }

/-- The first statement of a call: its input is checked, and the station is read. -/
def eventStart (registry : List (StationActionDefinition Input))
    (call : StationEventCall Trigger Input Payload) (station : Option Uuid) :
    EventPhase Trigger Input Payload :=
  match call.request.validate registry with
  | some e => .finished (.refused e)
  | none =>
    match validateStationWorkspace station call.workspaceId with
    | .error e => .finished (.refused e)
    | .ok workspaceId =>
      match call.request with
      | .create .. => .inserting workspaceId
      | _ => .finding workspaceId

/-- The phase of a call that has looked for its event. -/
def afterFindEvent (call : StationEventCall Trigger Input Payload) (workspaceId : Uuid)
    (found : Option (StationEvent Trigger Input)) : EventPhase Trigger Input Payload :=
  match found with
  | none => .finished (.refused stationEventNotFound)
  | some event =>
    match call.request with
    | .update _ _ updates =>
      if updates.isEmpty then
        .finished (.refused ⟨"At least one update field is required", "INVALID_INPUT"⟩)
      else .writing workspaceId
    | .trigger .. =>
      if event.enabled then .writing workspaceId
      else .finished (.refused ⟨"Station event is disabled", "STATION_EVENT_DISABLED"⟩)
    | _ => .writing workspaceId

/-- The write of a call, and what follows it without another statement. -/
def eventWrite (call : StationEventCall Trigger Input Payload) (workspaceId : Uuid) (x : EventInput)
    (store : EventStore Trigger Input Payload) :
    Option (EventStore Trigger Input Payload × EventPhase Trigger Input Payload) :=
  match call.request with
  | .create .. => none
  | .update eventId expectedVersion updates =>
    -- one statement: it writes only where the event still has the version the form was filled from
    match (store.findEvent eventId call.stationId).filter
        fun event ↦ decide (event.version = expectedVersion) with
    | none =>
      some (store, .finished (.refused ⟨"Station event version conflict", "VERSION_CONFLICT"⟩))
    | some _ =>
      some (store.updateEvents (fun event ↦ decide (event.id = eventId))
        (StationEvent.edited updates.apply) fun _ ↦ rfl, .rereading workspaceId)
  | .remove eventId =>
    match store.events.find eventId with
    | none => some (store, .finished .thrown)
    | some _ =>
      some ((store.deleteEvent eventId).notify ⟨workspaceId, call.stationId, eventId, .delete⟩,
        .finished .success)
  | .toggle eventId enabled =>
    match store.events.find eventId with
    | none => some (store, .finished .thrown)
    | some event =>
      some ((store.updateEvents (fun event ↦ decide (event.id = eventId))
          (StationEvent.edited (setEnabled enabled)) fun _ ↦ rfl).notify
            ⟨workspaceId, call.stationId, eventId, .toggle⟩,
        .edited eventId (event.version + 1) (.data (event.edited (setEnabled enabled))))
  | .trigger eventId payload =>
    match store.events.find eventId with
    | none => some (store, .finished .thrown)
    | some event =>
      let execution : EventExecutionRow Payload :=
        ⟨x.id, .RUNNING, payload, none, x.now, eventId⟩
      match store.executions.insert execution with
      | none => some (store, .finished .thrown)
      | some executions =>
        some ({ store.updateEvents (fun event ↦ decide (event.id = eventId))
            (StationEvent.ran x.now) fun _ ↦ rfl with executions },
          .enqueueing (event.ran x.now) execution)

/-- The last read of an update. -/
def eventReread (call : StationEventCall Trigger Input Payload) (workspaceId : Uuid)
    (store : EventStore Trigger Input Payload) :
    Option (EventStore Trigger Input Payload × EventPhase Trigger Input Payload) :=
  match call.request with
  | .update eventId expectedVersion _ =>
    match store.events.find eventId with
    | none =>
      some (store, .edited eventId (expectedVersion + 1) (.refused stationEventNotFound))
    | some event =>
      some (store.notify ⟨workspaceId, call.stationId, eventId, .update⟩,
        .edited eventId (expectedVersion + 1) (.data event))
  | _ => none

section

variable {ι : Type*}

/-- The next statement of the call `i`. An id that a new event draws is one that no event has
had. -/
def eventStatement (registry : List (StationActionDefinition Input))
    (calls : ι → StationEventCall Trigger Input Payload) (i : ι) (x : EventInput)
    (store : EventStore Trigger Input Payload) : EventPhase Trigger Input Payload →
      Option (EventStore Trigger Input Payload × EventPhase Trigger Input Payload)
  | .start => some (store, eventStart registry (calls i) x.station)
  | .inserting workspaceId =>
    match (calls i).request with
    | .create name trigger actions =>
      if x.id ∈ store.issued then none
      else
        let event := createdEvent x.id (calls i).stationId name trigger actions
        some ((store.createEvent event).notify ⟨workspaceId, (calls i).stationId, x.id, .create⟩,
          .edited x.id 1 (.data event))
    | _ => none
  | .finding workspaceId =>
    match (calls i).request with
    | .create .. => none
    | .update eventId _ _ | .remove eventId | .toggle eventId _ | .trigger eventId _ =>
      some (store, afterFindEvent (calls i) workspaceId
        (store.findEvent eventId (calls i).stationId))
  | .writing workspaceId => eventWrite (calls i) workspaceId x store
  | .rereading workspaceId => eventReread (calls i) workspaceId store
  | .enqueueing event execution =>
    match x.thrown with
    | none => some (store, .finished (.triggered event execution))
    | some message => some (store, .failing execution.id message)
  | .failing executionId message =>
    some (store.failExecution executionId x.now, .finished (.refused
      ⟨"Failed to enqueue station event execution: " ++ message, "EXECUTION_ENQUEUE_FAILED"⟩))
  | .edited .. => none
  | .finished _ => none

/-! ## The versions are a record of the edits -/

/-- What a request makes of the content of its event. -/
def StationEventRequest.edit (request : StationEventRequest Trigger Input Payload)
    (content : Option (StationEventContent Trigger Input)) :
    Option (StationEventContent Trigger Input) :=
  match request with
  | .create name condition actions => some ⟨name, true, condition, actions⟩
  | .update _ _ updates => content.map updates.apply
  | .toggle _ enabled => content.map (setEnabled enabled)
  | _ => content

/-- The version that a call has given to its event. -/
def EventPhase.wrote (request : StationEventRequest Trigger Input Payload) :
    EventPhase Trigger Input Payload → Option (Uuid × ℕ)
  | .rereading _ =>
    match request with
    | .update eventId expectedVersion _ => some (eventId, expectedVersion + 1)
    | _ => none
  | .edited eventId version _ => some (eventId, version)
  | _ => none

/-- Events as rows that count their edits. -/
def eventEdits (calls : ι → StationEventCall Trigger Input Payload) :
    EditedRows ι (EventStore Trigger Input Payload) (EventPhase Trigger Input Payload) Uuid
      (StationEventContent Trigger Input) where
  row store k := (store.events.find k).map fun event ↦ (event.version, event.toStationEventContent)
  issued store k := k ∈ store.issued
  wrote i := EventPhase.wrote (calls i).request
  edit i := (calls i).request.edit

variable {calls : ι → StationEventCall Trigger Input Payload} {i : ι}
  {store store' : EventStore Trigger Input Payload}
  {phase phase' : EventPhase Trigger Input Payload}

/-- A selection by id is one by the primary key. -/
theorem byId (eventId : Uuid) :
    (fun event : StationEvent Trigger Input ↦ decide (event.id = eventId))
      = fun event ↦ decide ((stationEventSchema Trigger Input).key event = eventId) := rfl

/-- An update of the event `k` that keeps version and content. -/
theorem row_updateEvents_of_same (store : EventStore Trigger Input Payload)
    {p : StationEvent Trigger Input → Bool}
    {f : StationEvent Trigger Input → StationEvent Trigger Input}
    (hf : ∀ event, (f event).id = event.id)
    (hsame : ∀ event, (f event).version = event.version ∧
      (f event).toStationEventContent = event.toStationEventContent) (k : Uuid) :
    (eventEdits calls).row (store.updateEvents p f hf) k = (eventEdits calls).row store k := by
  rw [eventEdits]
  dsimp only [EventStore.updateEvents]
  rw [Table.find_modify, Option.map_map]
  refine Option.map_congr fun event _ ↦ ?_
  rw [Function.comp_apply]
  split
  · rw [(hsame event).1, (hsame event).2]
  · rfl

/-- An edit of the event `k` gives it the next version. -/
theorem row_updateEvents_edited
    {change : StationEventContent Trigger Input → StationEventContent Trigger Input}
    {eventId : Uuid} (k : Uuid) : (eventEdits calls).row (store.updateEvents
      (fun event ↦ decide (event.id = eventId)) (StationEvent.edited change) fun _ ↦ rfl) k
    = if k = eventId then ((eventEdits calls).row store k).map fun r ↦ (r.1 + 1, change r.2)
      else (eventEdits calls).row store k := by
  rw [eventEdits]
  dsimp only [EventStore.updateEvents]
  rw [byId, Table.find_modify_key]
  split
  · rw [Option.map_map, Option.map_map]
    rfl
  · rw [Option.map_id']

/-- What a phase that has written nothing says. -/
theorem wrote_eventStart {registry : List (StationActionDefinition Input)}
    (call : StationEventCall Trigger Input Payload) (station : Option Uuid) :
    (eventStart registry call station).wrote call.request = none := by
  unfold eventStart
  split
  · rfl
  · split
    · rfl
    · split <;> rfl

theorem wrote_afterFindEvent (call : StationEventCall Trigger Input Payload) (workspaceId : Uuid)
    (found : Option (StationEvent Trigger Input)) :
    (afterFindEvent call workspaceId found).wrote call.request = none := by
  unfold afterFindEvent
  split
  · rfl
  · split
    · split <;> rfl
    · split <;> rfl
    · rfl

theorem issued_of_eq (h : store'.issued = store.issued) (k : Uuid)
    (hk : (eventEdits calls).issued store k) : (eventEdits calls).issued store' k := by
  change k ∈ store'.issued
  rw [h]
  exact hk

/-- A statement that leaves the rows and what the call has written as they are. -/
theorem edits_of_same (hrow : ∀ k, (eventEdits calls).row store' k = (eventEdits calls).row store k)
    (hissued : store'.issued = store.issued)
    (hwrote : phase'.wrote (calls i).request = phase.wrote (calls i).request) :
    (eventEdits calls).Edits i store phase store' phase' :=
  .stays (fun k ↦ .inl (hrow k)) (issued_of_eq hissued) hwrote

/-- The write of a call that edits its event. -/
theorem edits_of_edited
    {change : StationEventContent Trigger Input → StationEventContent Trigger Input}
    {event : StationEvent Trigger Input} {eventId : Uuid}
    (hfound : store.events.find eventId = some event)
    (hfresh : phase.wrote (calls i).request = none)
    (hedit : ∀ content, (calls i).request.edit (some content) = some (change content))
    (hevents : store'.events = (store.updateEvents (fun event ↦ decide (event.id = eventId))
      (StationEvent.edited change) fun _ ↦ rfl).events)
    (hissued : store'.issued = store.issued)
    (hwrote : phase'.wrote (calls i).request = some (eventId, event.version + 1)) :
    (eventEdits calls).Edits i store phase store' phase' := by
  have hrow : ∀ k, (eventEdits calls).row store' k
      = if k = eventId then ((eventEdits calls).row store k).map fun r ↦ (r.1 + 1, change r.2)
        else (eventEdits calls).row store k := fun k ↦ by
    rw [← row_updateEvents_edited, eventEdits]
    dsimp only
    rw [hevents]
  have hbefore : (eventEdits calls).row store eventId
      = some (event.version, event.toStationEventContent) := by
    rw [eventEdits]
    dsimp only
    rw [hfound, Option.map_some]
  refine .edits hfresh hbefore (hedit _) ?_ (fun k hk ↦ ?_) (issued_of_eq hissued) hwrote
  · rw [hrow, if_pos rfl, hbefore, Option.map_some]
  · rw [hrow, if_neg hk]

/-- The write of a call is an edit of the event that it names, or none. -/
theorem edits_of_eventWrite {workspaceId : Uuid} {x : EventInput}
    (h : eventWrite (calls i) workspaceId x store = some (store', phase')) :
    (eventEdits calls).Edits i store (.writing workspaceId) store' phase' := by
  unfold eventWrite at h
  cases hrequest : (calls i).request with
  | create name trigger actions =>
    rw [hrequest] at h
    cases h
  | update eventId expectedVersion updates =>
    rw [hrequest] at h
    dsimp only at h
    split at h
    · cases h
      exact edits_of_same (fun _ ↦ rfl) rfl rfl
    · rename_i event hfound
      cases h
      obtain ⟨hevent, hversion⟩ := Option.filter_eq_some_iff.mp hfound
      obtain ⟨hevent, -⟩ := Option.filter_eq_some_iff.mp hevent
      refine edits_of_edited hevent rfl (fun content ↦ ?_) rfl rfl ?_
      · rw [hrequest]
        rfl
      · rw [of_decide_eq_true hversion, hrequest]
        rfl
  | remove eventId =>
    rw [hrequest] at h
    dsimp only at h
    split at h
    · cases h
      exact edits_of_same (fun _ ↦ rfl) rfl rfl
    · cases h
      refine .stays (fun k ↦ ?_) (fun _ hk ↦ hk) rfl
      by_cases hk : k = eventId
      · refine .inr ?_
        change ((store.events.delete fun event ↦ decide (event.id = eventId)).find k).map _ = none
        rw [byId, Table.find_delete_key, if_pos hk]
        rfl
      · refine .inl ?_
        change ((store.events.delete fun event ↦ decide (event.id = eventId)).find k).map _ =
          (store.events.find k).map _
        rw [byId, Table.find_delete_key, if_neg hk]
  | toggle eventId enabled =>
    rw [hrequest] at h
    dsimp only at h
    split at h
    · cases h
      exact edits_of_same (fun _ ↦ rfl) rfl rfl
    · rename_i event hfound
      cases h
      refine edits_of_edited hfound rfl (fun content ↦ ?_) rfl rfl rfl
      rw [hrequest]
      rfl
  | trigger eventId payload =>
    rw [hrequest] at h
    dsimp only at h
    split at h
    · cases h
      exact edits_of_same (fun _ ↦ rfl) rfl rfl
    · split at h
      · cases h
        exact edits_of_same (fun _ ↦ rfl) rfl rfl
      · cases h
        refine edits_of_same (fun k ↦ ?_) rfl rfl
        exact row_updateEvents_of_same store (f := StationEvent.ran x.now)
          (fun _ ↦ rfl) (fun _ ↦ ⟨rfl, rfl⟩) k

/-- The last read of an update writes nothing. -/
theorem edits_of_eventReread {workspaceId : Uuid}
    (h : eventReread (calls i) workspaceId store = some (store', phase')) :
    (eventEdits calls).Edits i store (.rereading workspaceId) store' phase' := by
  unfold eventReread at h
  cases hrequest : (calls i).request with
  | update eventId expectedVersion updates =>
    have hwrote : (EventPhase.rereading workspaceId : EventPhase Trigger Input Payload).wrote
        (calls i).request = some (eventId, expectedVersion + 1) := by
      rw [hrequest]
      rfl
    rw [hrequest] at h
    dsimp only at h
    split at h
    · cases h
      exact edits_of_same (fun _ ↦ rfl) rfl hwrote.symm
    · cases h
      exact edits_of_same (fun _ ↦ rfl) rfl hwrote.symm
  | create name trigger actions => rw [hrequest] at h; cases h
  | remove eventId => rw [hrequest] at h; cases h
  | toggle eventId enabled => rw [hrequest] at h; cases h
  | trigger eventId payload => rw [hrequest] at h; cases h

/-- **What a statement does with the events.** -/
theorem edits_of_eventStatement {registry : List (StationActionDefinition Input)} {x : EventInput}
    (hissued : ∀ event ∈ store.events.rows, event.id ∈ store.issued)
    (h : eventStatement registry calls i x store phase = some (store', phase')) :
    (eventEdits calls).Edits i store phase store' phase' := by
  cases phase with
  | start =>
    cases h
    exact edits_of_same (fun _ ↦ rfl) rfl (wrote_eventStart _ _)
  | inserting workspaceId =>
    rw [eventStatement] at h
    split at h
    · rename_i name trigger actions hrequest
      split at h
      · cases h
      · rename_i hnew
        cases h
        set event := createdEvent x.id (calls i).stationId name trigger actions with hevent
        have habsent : store.events.find x.id = none := Table.find_eq_none_iff.mpr
          fun r hr heq ↦ hnew (heq ▸ hissued r hr)
        have hself : (store.events.insertMissing event).find x.id = some event := by
          have hins := store.events.find_insertMissing_self (r := event) fun _ _ ↦ rfl
          change (store.events.insertMissing event).find x.id
            = some ((store.events.find x.id).getD event) at hins
          rw [hins, habsent]
          rfl
        refine .creates (k := x.id) rfl hnew (?_ : _ = some ⟨name, true, trigger, actions⟩) ?_
          (fun k hk ↦ ?_) List.mem_cons_self (fun _ hk ↦ List.mem_cons_of_mem _ hk) rfl
        · change (calls i).request.edit none = _
          rw [hrequest]
          rfl
        · change ((store.events.insertMissing event).find x.id).map _ = _
          rw [hself]
          rfl
        · change ((store.events.insertMissing event).find k).map _ = (store.events.find k).map _
          rw [Table.find_insertMissing_of_ne]
          exact hk.symm
    · cases h
  | finding workspaceId =>
    rw [eventStatement] at h
    split at h
    · cases h
    all_goals
      cases h
      exact edits_of_same (fun _ ↦ rfl) rfl (wrote_afterFindEvent _ _ _)
  | writing workspaceId => exact edits_of_eventWrite h
  | rereading workspaceId => exact edits_of_eventReread h
  | enqueueing event execution =>
    rw [eventStatement] at h
    split at h
    · cases h
      exact edits_of_same (fun _ ↦ rfl) rfl rfl
    · cases h
      exact edits_of_same (fun _ ↦ rfl) rfl rfl
  | failing executionId message =>
    cases h
    exact edits_of_same (fun _ ↦ rfl) rfl rfl
  | edited eventId version reply => cases h
  | finished reply => cases h

/-! ## The statistics and what the processor is told -/

namespace EventStore

/-- How often an event has run, by its executions. -/
def runs (store : EventStore Trigger Input Payload) (eventId : Uuid) : ℕ :=
  (store.executions.rows.filter fun execution ↦
    decide (execution.stationEventId = eventId)).length

/-- What holds of the tables at any moment. -/
structure Sound (store : EventStore Trigger Input Payload) : Prop where
  issued : ∀ event ∈ store.events.rows, event.id ∈ store.issued
  /-- The foreign key of the executions. -/
  referred : ∀ execution ∈ store.executions.rows,
    ∃ event ∈ store.events.rows, event.id = execution.stationEventId
  /-- A run that is counted has its execution. -/
  counted : ∀ event ∈ store.events.rows, event.runCount = store.runs event.id
  /-- The processor has been told of each event that is gone. -/
  told : ∀ k ∈ store.issued, (∀ event ∈ store.events.rows, event.id ≠ k) →
    ∃ refresh ∈ store.refreshes, refresh.eventId = k

variable {store : EventStore Trigger Input Payload}

theorem Sound.notify (h : store.Sound) (refresh : StationEventCacheRefresh) :
    (store.notify refresh).Sound :=
  ⟨h.issued, h.referred, h.counted, fun k hk hgone ↦
    (h.told k hk hgone).imp fun _ hr ↦ ⟨List.mem_append_left _ hr.1, hr.2⟩⟩

theorem mem_updateEvents {p : StationEvent Trigger Input → Bool}
    {f : StationEvent Trigger Input → StationEvent Trigger Input}
    {hf : ∀ event, (f event).id = event.id} {event : StationEvent Trigger Input} :
    event ∈ (store.updateEvents p f hf).events.rows ↔
      ∃ a ∈ store.events.rows, (if p a then f a else a) = event :=
  List.mem_map

/-- An update keeps the ids. -/
theorem id_updated {p : StationEvent Trigger Input → Bool}
    {f : StationEvent Trigger Input → StationEvent Trigger Input}
    (hf : ∀ event, (f event).id = event.id) (a : StationEvent Trigger Input) :
    (if p a then f a else a).id = a.id := by
  split
  · exact hf a
  · rfl

/-- An update of the events, which keeps the ids, beside executions that fit the new counts. -/
theorem Sound.updateEvents {store' : EventStore Trigger Input Payload} (h : store.Sound)
    {p : StationEvent Trigger Input → Bool}
    {f : StationEvent Trigger Input → StationEvent Trigger Input}
    (hf : ∀ event, (f event).id = event.id)
    (hevents : store'.events = (store.updateEvents p f hf).events)
    (hissued : store'.issued = store.issued) (hrefreshes : store'.refreshes = store.refreshes)
    (hreferred : ∀ execution ∈ store'.executions.rows,
      ∃ event ∈ store.events.rows, event.id = execution.stationEventId)
    (hcounted : ∀ a ∈ store.events.rows,
      (if p a then f a else a).runCount = store'.runs a.id) : store'.Sound where
  issued event hmem := by
    rw [hevents, mem_updateEvents] at hmem
    obtain ⟨a, ha, rfl⟩ := hmem
    rw [id_updated hf, hissued]
    exact h.issued a ha
  referred execution hmem := by
    obtain ⟨a, ha, hid⟩ := hreferred execution hmem
    refine ⟨if p a then f a else a, ?_, (id_updated hf a).trans hid⟩
    rw [hevents, mem_updateEvents]
    exact ⟨a, ha, rfl⟩
  counted event hmem := by
    rw [hevents, mem_updateEvents] at hmem
    obtain ⟨a, ha, rfl⟩ := hmem
    rw [id_updated hf]
    exact hcounted a ha
  told k hk hgone := by
    rw [hrefreshes]
    refine h.told k (hissued ▸ hk) fun a ha hid ↦ hgone (if p a then f a else a) ?_ ?_
    · rw [hevents, mem_updateEvents]
      exact ⟨a, ha, rfl⟩
    · rw [id_updated hf, hid]

/-- An edit of the content leaves the runs alone. -/
theorem Sound.edited (h : store.Sound) {p : StationEvent Trigger Input → Bool}
    (change : StationEventContent Trigger Input → StationEventContent Trigger Input) :
    (store.updateEvents p (StationEvent.edited change) fun _ ↦ rfl).Sound :=
  h.updateEvents (f := StationEvent.edited change) (fun _ ↦ rfl) rfl rfl rfl h.referred
      fun a ha ↦ by
    refine Eq.trans ?_ (h.counted a ha)
    split <;> rfl

/-- A run is counted, and its execution is there. -/
theorem Sound.ran (h : store.Sound) {now : Time} {eventId : Uuid}
    (hevent : ∃ event ∈ store.events.rows, event.id = eventId)
    {execution : EventExecutionRow Payload} (hexecution : execution.stationEventId = eventId)
    {executions : Table (eventExecutionSchema Payload)}
    (hinsert : store.executions.insert execution = some executions) :
    { store.updateEvents (fun event ↦ decide (event.id = eventId)) (StationEvent.ran now)
        fun _ ↦ rfl with executions }.Sound := by
  have hrows := Table.rows_of_insert hinsert
  refine h.updateEvents (f := StationEvent.ran now) (fun _ ↦ rfl) rfl rfl rfl (fun x hx ↦ ?_)
    fun a ha ↦ ?_
  · dsimp only at hx
    rw [hrows, List.mem_append, List.mem_singleton] at hx
    rcases hx with hx | rfl
    · exact h.referred x hx
    · rw [hexecution]
      exact hevent
  · rw [runs]
    dsimp only
    rw [hrows, List.filter_append, List.length_append]
    have hcount := h.counted a ha
    rw [runs] at hcount
    by_cases hid : a.id = eventId
    · simp [hid, hexecution, StationEvent.ran, hcount]
    · simp [hid, hexecution, Ne.symm hid, hcount]

theorem Sound.createEvent (h : store.Sound) {event : StationEvent Trigger Input}
    (hnew : event.id ∉ store.issued) (hruns : event.runCount = 0) :
    (store.createEvent event).Sound := by
  have habsent : ∀ a ∈ store.events.rows, a.id ≠ event.id := fun a ha heq ↦
    hnew (heq ▸ h.issued a ha)
  have hrows : (store.createEvent event).events.rows = store.events.rows ++ [event] := by
    rw [EventStore.createEvent]
    dsimp only
    rw [Table.insertMissing, dif_pos fun a ha ↦ ⟨habsent a ha, rfl⟩]
  refine ⟨fun a ha ↦ ?_, fun x hx ↦ ?_, fun a ha ↦ ?_, fun k hk hgone ↦ ?_⟩
  · rw [hrows, List.mem_append, List.mem_singleton] at ha
    rcases ha with ha | rfl
    · exact List.mem_cons_of_mem _ (h.issued a ha)
    · exact List.mem_cons_self
  · rw [hrows]
    exact (h.referred x hx).imp fun a ha ↦ ⟨List.mem_append_left _ ha.1, ha.2⟩
  · rw [hrows, List.mem_append, List.mem_singleton] at ha
    rcases ha with ha | rfl
    · exact h.counted a ha
    · rw [hruns, runs, eq_comm, List.length_eq_zero_iff, List.filter_eq_nil_iff]
      intro x hx hid
      obtain ⟨b, hb, hbid⟩ := h.referred x hx
      exact habsent b hb (hbid.trans (of_decide_eq_true hid))
  · rw [hrows] at hgone
    rcases List.mem_cons.mp hk with rfl | hk
    · exact absurd rfl (hgone event (List.mem_append_right _ (List.mem_singleton_self _)))
    · exact h.told k hk fun a ha ↦ hgone a (List.mem_append_left _ ha)

theorem Sound.deleteEvent (h : store.Sound) {eventId : Uuid}
    {refresh : StationEventCacheRefresh} (hrefresh : refresh.eventId = eventId) :
    ((store.deleteEvent eventId).notify refresh).Sound := by
  have hmem : ∀ a, a ∈ ((store.deleteEvent eventId).notify refresh).events.rows ↔
      a ∈ store.events.rows ∧ a.id ≠ eventId := fun a ↦ by
    change a ∈ store.events.rows.filter _ ↔ _
    rw [List.mem_filter, Bool.not_eq_true', decide_eq_false_iff_not]
  refine ⟨fun a ha ↦ h.issued a ((hmem a).mp ha).1, fun x hx ↦ ?_, fun a ha ↦ ?_,
    fun k hk hgone ↦ ?_⟩
  · change x ∈ store.executions.rows.filter _ at hx
    rw [List.mem_filter, Bool.not_eq_true', decide_eq_false_iff_not] at hx
    obtain ⟨a, ha, hid⟩ := h.referred x hx.1
    exact ⟨a, (hmem a).mpr ⟨ha, hid ▸ hx.2⟩, hid⟩
  · obtain ⟨ha, hne⟩ := (hmem a).mp ha
    rw [h.counted a ha, runs, runs]
    change _ = ((store.executions.rows.filter _).filter _).length
    rw [List.filter_filter]
    refine congrArg List.length (List.filter_congr fun x _ ↦ ?_)
    by_cases hx : x.stationEventId = a.id
    · simp [hx, hne]
    · simp [hx]
  · by_cases hk' : k = eventId
    · exact ⟨refresh, List.mem_append_right _ (List.mem_singleton_self _), hrefresh.trans hk'.symm⟩
    · refine (h.told k hk fun a ha hid ↦
        hgone a ((hmem a).mpr ⟨ha, hid ▸ hk'⟩) hid).imp fun r hr ↦ ?_
      exact ⟨List.mem_append_left _ hr.1, hr.2⟩

theorem Sound.failExecution (h : store.Sound) (executionId : Uuid) (now : Time) :
    (store.failExecution executionId now).Sound := by
  refine ⟨h.issued, fun x hx ↦ ?_, fun a ha ↦ ?_, h.told⟩
  · obtain ⟨y, hy, rfl⟩ := List.mem_map.mp hx
    obtain ⟨a, ha, hid⟩ := h.referred y hy
    refine ⟨a, ha, hid.trans ?_⟩
    split <;> rfl
  · rw [h.counted a ha, runs, runs]
    change _ = ((store.executions.rows.map _).filter _).length
    rw [List.filter_map, List.length_map]
    refine congrArg List.length (List.filter_congr fun x _ ↦ ?_)
    rw [Function.comp_apply]
    split <;> rfl

end EventStore

/-- What a call knows of the processor: it has been told of the event that the call has edited. -/
def Told (calls : ι → StationEventCall Trigger Input Payload) (i : ι)
    (store : EventStore Trigger Input Payload) (phase : EventPhase Trigger Input Payload) : Prop :=
  (∀ workspaceId, phase = .rereading workspaceId → ∀ eventId expectedVersion updates,
    (calls i).request = .update eventId expectedVersion updates → eventId ∈ store.issued) ∧
  ∀ eventId version reply, phase = .edited eventId version reply →
    ∃ refresh ∈ store.refreshes, refresh.eventId = eventId

/-- A phase that says nothing. -/
theorem told_of_unedited (hrereading : ∀ workspaceId, phase ≠ .rereading workspaceId)
    (hedited : ∀ eventId version reply, phase ≠ .edited eventId version reply) :
    Told calls i store phase :=
  ⟨fun _ h ↦ absurd h (hrereading _), fun _ _ _ h ↦ absurd h (hedited _ _ _)⟩

/-- What a call knows stays true. -/
theorem Told.mono (h : Told calls i store phase) (hissued : store.issued ⊆ store'.issued)
    (hrefreshes : store.refreshes ⊆ store'.refreshes) : Told calls i store' phase :=
  ⟨fun workspaceId hphase eventId expectedVersion updates hrequest ↦
    hissued (h.1 workspaceId hphase eventId expectedVersion updates hrequest),
    fun eventId version reply hphase ↦
      (h.2 eventId version reply hphase).imp fun _ hr ↦ ⟨hrefreshes hr.1, hr.2⟩⟩

/-- What a statement keeps of the store, and what its call then knows. -/
structure KeepsSound (calls : ι → StationEventCall Trigger Input Payload) (i : ι)
    (store store' : EventStore Trigger Input Payload) (phase' : EventPhase Trigger Input Payload) :
    Prop where
  sound : store'.Sound
  told : Told calls i store' phase'
  issued : store.issued ⊆ store'.issued
  refreshes : store.refreshes ⊆ store'.refreshes

/-- A statement that only reads. -/
theorem keepsSound_of_read (h : store.Sound)
    (hrereading : ∀ workspaceId, phase' ≠ .rereading workspaceId)
    (hedited : ∀ eventId version reply, phase' ≠ .edited eventId version reply) :
    KeepsSound calls i store store phase' :=
  ⟨h, told_of_unedited hrereading hedited, fun _ h ↦ h, fun _ h ↦ h⟩

theorem told_of_wrote_none {request : StationEventRequest Trigger Input Payload}
    (h : phase.wrote request = none) (hrequest : (calls i).request = request) :
    Told calls i store phase := by
  refine ⟨?_, ?_⟩
  · rintro workspaceId rfl eventId expectedVersion updates hupdate
    rw [← hrequest, hupdate] at h
    cases h
  · rintro eventId version reply rfl
    cases h

theorem keepsSound_of_eventWrite {workspaceId : Uuid} {x : EventInput} (hs : store.Sound)
    (h : eventWrite (calls i) workspaceId x store = some (store', phase')) :
    KeepsSound calls i store store' phase' := by
  unfold eventWrite at h
  cases hrequest : (calls i).request with
  | create name trigger actions =>
    rw [hrequest] at h
    cases h
  | update eventId expectedVersion updates =>
    rw [hrequest] at h
    dsimp only at h
    split at h
    · cases h
      exact keepsSound_of_read hs nofun nofun
    · rename_i event hfound
      cases h
      obtain ⟨hevent, -⟩ := Option.filter_eq_some_iff.mp hfound
      obtain ⟨hevent, -⟩ := Option.filter_eq_some_iff.mp hevent
      obtain ⟨hmem, hid⟩ := Table.find_eq_some_iff.mp hevent
      refine ⟨hs.edited _, ⟨fun _ _ _ _ _ hupdate ↦ ?_, nofun⟩, fun _ h ↦ h, fun _ h ↦ h⟩
      rw [hrequest] at hupdate
      cases hupdate
      exact hid ▸ hs.issued event hmem
  | remove eventId =>
    rw [hrequest] at h
    dsimp only at h
    split at h
    · cases h
      exact keepsSound_of_read hs nofun nofun
    · cases h
      exact ⟨hs.deleteEvent rfl, told_of_unedited nofun nofun, fun _ h ↦ h,
        List.subset_append_left _ _⟩
  | toggle eventId enabled =>
    rw [hrequest] at h
    dsimp only at h
    split at h
    · cases h
      exact keepsSound_of_read hs nofun nofun
    · cases h
      refine ⟨(hs.edited _).notify _, ⟨nofun, ?_⟩, fun _ h ↦ h, List.subset_append_left _ _⟩
      rintro _ _ _ ⟨⟩
      exact ⟨_, List.mem_append_right _ (List.mem_singleton_self _), rfl⟩
  | trigger eventId payload =>
    rw [hrequest] at h
    dsimp only at h
    split at h
    · cases h
      exact keepsSound_of_read hs nofun nofun
    · rename_i event hfound
      obtain ⟨hmem, hid⟩ := Table.find_eq_some_iff.mp hfound
      split at h
      · cases h
        exact keepsSound_of_read hs nofun nofun
      · rename_i executions hinsert
        cases h
        exact ⟨hs.ran ⟨event, hmem, hid⟩ rfl hinsert, told_of_unedited nofun nofun, fun _ h ↦ h,
          fun _ h ↦ h⟩

theorem keepsSound_of_eventReread {workspaceId : Uuid} (hs : store.Sound)
    (ht : Told calls i store (.rereading workspaceId))
    (h : eventReread (calls i) workspaceId store = some (store', phase')) :
    KeepsSound calls i store store' phase' := by
  unfold eventReread at h
  split at h
  · rename_i eventId expectedVersion updates hrequest
    split at h
    · rename_i hgone
      cases h
      refine ⟨hs, ⟨nofun, ?_⟩, fun _ h ↦ h, fun _ h ↦ h⟩
      -- the event is gone: the removal has told the processor
      rintro _ _ _ ⟨⟩
      exact hs.told eventId (ht.1 workspaceId rfl _ _ _ hrequest)
        (Table.find_eq_none_iff.mp hgone)
    · cases h
      refine ⟨hs.notify _, ⟨nofun, ?_⟩, fun _ h ↦ h, List.subset_append_left _ _⟩
      rintro _ _ _ ⟨⟩
      exact ⟨_, List.mem_append_right _ (List.mem_singleton_self _), rfl⟩
  · cases h

theorem keepsSound_of_eventStatement {registry : List (StationActionDefinition Input)}
    {x : EventInput} (hs : store.Sound) (ht : Told calls i store phase)
    (h : eventStatement registry calls i x store phase = some (store', phase')) :
    KeepsSound calls i store store' phase' := by
  cases phase with
  | start =>
    cases h
    exact ⟨hs, told_of_wrote_none (wrote_eventStart _ _) rfl, fun _ h ↦ h, fun _ h ↦ h⟩
  | inserting workspaceId =>
    rw [eventStatement] at h
    split at h
    · split at h
      · cases h
      · rename_i hnew
        cases h
        refine ⟨(hs.createEvent hnew rfl).notify _, ⟨nofun, ?_⟩, List.subset_cons_self _ _,
          List.subset_append_left _ _⟩
        rintro _ _ _ ⟨⟩
        exact ⟨_, List.mem_append_right _ (List.mem_singleton_self _), rfl⟩
    · cases h
  | finding workspaceId =>
    rw [eventStatement] at h
    split at h
    · cases h
    all_goals
      cases h
      exact ⟨hs, told_of_wrote_none (wrote_afterFindEvent _ _ _) rfl, fun _ h ↦ h, fun _ h ↦ h⟩
  | writing workspaceId => exact keepsSound_of_eventWrite hs h
  | rereading workspaceId => exact keepsSound_of_eventReread hs ht h
  | enqueueing event execution =>
    rw [eventStatement] at h
    split at h
    · cases h
      exact keepsSound_of_read hs nofun nofun
    · cases h
      exact keepsSound_of_read hs nofun nofun
  | failing executionId message =>
    cases h
    exact ⟨hs.failExecution executionId x.now, told_of_unedited nofun nofun, fun _ h ↦ h,
      fun _ h ↦ h⟩
  | edited eventId version reply => cases h
  | finished reply => cases h

/-! ## Runs -/

variable [DecidableEq ι]

/-- Before any of the requests. -/
def eventsStart (store : EventStore Trigger Input Payload) :
    Calls ι (EventStore Trigger Input Payload) (EventPhase Trigger Input Payload) :=
  ⟨store, fun _ ↦ .start⟩

/-- What the requests leave: each version of an event since the start is the edit of one call, made
upon the content of the version before it. -/
structure EditsRecorded (calls : ι → StationEventCall Trigger Input Payload)
    (store : EventStore Trigger Input Payload)
    (s : Calls ι (EventStore Trigger Input Payload) (EventPhase Trigger Input Payload)) : Prop where
  recorded : ∀ k, ∃ writers, (eventEdits calls).Recorded store s k writers
  /-- Of the updates that expect the same version, one goes through. -/
  once : ∀ i j k version, (s.phase i).wrote (calls i).request = some (k, version) →
    (s.phase j).wrote (calls j).request = some (k, version) → i = j
  counted : ∀ event ∈ s.store.events.rows, event.runCount = s.store.runs event.id
  told : ∀ i eventId version reply, s.phase i = .edited eventId version reply →
    ∃ refresh ∈ s.store.refreshes, refresh.eventId = eventId

/-- **No edit of an event is lost, and none is made upon content that its caller has not named**, in
every interleaving of the requests: for each version of an event there is one call, an update has
given the version after the one it expects, and the event is what the edits make of it in the order
of the versions. The run count is the number of the executions, and the processor is told of each
event that is edited. -/
theorem event_edits_recorded {registry : List (StationActionDefinition Input)}
    {store : EventStore Trigger Input Payload} {steps : List (ι × EventInput)}
    {s : Calls ι (EventStore Trigger Input Payload) (EventPhase Trigger Input Payload)}
    (hs : store.Sound)
    (hrun : Run (Calls.step (eventStatement registry calls)) (fun _ _ ↦ True) (eventsStart store)
      steps s) : EditsRecorded calls store s := by
  have hsound : ∀ steps s, Run (Calls.step (eventStatement registry calls)) (fun _ _ ↦ True)
      (eventsStart store) steps s → s.store.Sound ∧ ∀ i, Told calls i s.store (s.phase i) :=
    fun steps s ↦ Calls.invariant (hs : (eventsStart store).store.Sound)
      (fun i ↦ told_of_unedited nofun nofun) fun s i x store' phase' _ hI hA h ↦ by
        have hkeeps := keepsSound_of_eventStatement hI hA h
        exact ⟨hkeeps.sound, hkeeps.told, fun j _ hj ↦ hj.mono hkeeps.issued hkeeps.refreshes⟩
  have hissued : ∀ k, ¬(eventEdits calls).issued store k →
      (eventEdits calls).row store k = none := fun k hk ↦ by
    change (store.events.find k).map _ = none
    rw [Table.find_eq_none_iff.mpr fun event hevent hid ↦ hk ?_]
    · rfl
    · change k ∈ store.issued
      exact hid ▸ hs.issued event hevent
  have hrecorded : ∀ k, ∃ writers, (eventEdits calls).Recorded store s k writers :=
    EditedRows.recorded_of_run (I := EventStore.Sound) (fun steps s h ↦ (hsound steps s h).1)
      hissued (fun _ ↦ rfl)
      (fun i x store phase store' phase' hstore h ↦ edits_of_eventStatement hstore.issued h) hrun
  refine ⟨hrecorded, fun i j k version hi hj ↦ ?_, (hsound steps s hrun).1.counted,
    fun i ↦ ((hsound steps s hrun).2 i).2⟩
  obtain ⟨writers, hw⟩ := hrecorded k
  exact hw.writer_unique hi hj

/-! ## Two forms -/

def noEvents : EventStore Trigger Input Payload := ⟨Table.empty _, Table.empty _, [], []⟩

omit [DecidableEq ι] in
theorem sound_noEvents : (noEvents : EventStore Trigger Input Payload).Sound :=
  ⟨nofun, nofun, nofun, nofun⟩

/-- An event is created, two users rename it in forms with its first version, and it is switched
off. -/
def formCalls : Fin 4 → StationEventCall Unit Unit Unit
  | 0 => ⟨5, none, .create "Jam" () [⟨"a", "logEvent", (), false⟩]⟩
  | 1 => ⟨5, some 2, .update 9 1 { name := some (some "Paper jam") }⟩
  | 2 => ⟨5, some 2, .update 9 1 { name := some (some "Jam at feeder") }⟩
  | 3 => ⟨5, some 2, .toggle 9 false⟩

def formSteps : List (Fin 4 × EventInput) :=
  [(0, { now := 0, station := some 2 }), (0, { now := 1, id := 9 }),
    (1, { now := 2, station := some 2 }), (2, { now := 3, station := some 2 }),
    (1, { now := 4 }), (2, { now := 5 }), (1, { now := 6 }), (2, { now := 7 }),
    (3, { now := 8, station := some 2 }), (3, { now := 9 }), (3, { now := 10 }), (1, { now := 11 })]

/-- The second of the two renamings is refused, and the event has the first one. -/
theorem event_edits_recorded_forms : ∃ s : Calls (Fin 4) (EventStore Unit Unit Unit)
      (EventPhase Unit Unit Unit),
    (s.store.events.find 9).map (fun event ↦ (event.name, event.enabled, event.version))
        = some ("Paper jam", false, 3) ∧ EditsRecorded formCalls noEvents s := by
  have hexecute : (execute (Calls.step (eventStatement [⟨"logEvent", fun _ ↦ true⟩] formCalls))
      (fun _ _ ↦ True) formSteps (eventsStart noEvents)).any (fun s ↦
        decide ((s.store.events.find 9).map (fun event ↦ (event.name, event.enabled, event.version))
          = some ("Paper jam", false, 3))) = true := by
    decide +kernel
  obtain ⟨s, hs, hfacts⟩ := (Option.any_eq_true _ _).mp hexecute
  exact ⟨s, of_decide_eq_true hfacts, event_edits_recorded sound_noEvents (run_of_execute hs)⟩

end

end RwServer
