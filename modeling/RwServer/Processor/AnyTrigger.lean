import Mathlib
import RwServer.Foundation.Run
import RwServer.Processor.StationEvents

/-!
# What fires an event

A point event goes through the snapshot preprocessor, which writes its readings to the cache and
attaches the snapshots that come of it, and then through the station-events processor, which
evaluates the triggers of the candidates. A snapshot keeps its edge until the next reading of its
tag, and a candidate is evaluated on all its tags; so a condition on a tag that the event does not
carry matches on an edge seen earlier. `OwnEdgesFirst` says when this does not matter, and
`fired_by_own_readings` that an `any` trigger then fires on a reading of the event itself.
-/

namespace RwServer

open Transition

/-- A point event, with the readings that `extractPointReadings` finds in it. -/
structure PointEvent where
  id : String
  readings : List PointReading
  replayed : Bool := false
deriving DecidableEq

/-- The tags that an event carries. -/
def PointEvent.lookupKeys (event : PointEvent) : List String :=
  addKeys [] (event.readings.flatMap PointReading.readingKeys)

/-! ## The snapshot preprocessor -/

/-- Write one reading to the cache and attach the snapshot that comes of it. -/
def attachReading (nowIso : String)
    (state : TagSnapshotCache × OrderedMap String TagValueSnapshot) (reading : PointReading) :
    TagSnapshotCache × OrderedMap String TagValueSnapshot :=
  let cache := state.1.upsertPointReading nowIso reading
  match cache.getSnapshot reading.pointId with
  | some snapshot => (cache, state.2.set reading.pointId snapshot)
  | none => (cache, state.2)

/-- The preprocessor: the cache after the readings, and the snapshots attached to the event. -/
def pointSnapshotPreprocessor (nowIso : String) (event : PointEvent) (cache : TagSnapshotCache) :
    TagSnapshotCache × OrderedMap String TagValueSnapshot :=
  event.readings.foldl (attachReading nowIso) (cache, .empty)

/-! ## The station-events processor -/

structure StationEventsProcessorConfig where
  tagFetchBatchSize : ℕ
  batchSize_pos : 0 < tagFetchBatchSize

/-- What the world answers while one event is processed: the clock, the snapshots for a batch of
tags (`none` where the request fails or times out), and whether an event could be triggered. -/
structure ServiceAnswers where
  nowIso : String
  getTagSnapshotsForProcessor : List String → Option (List (String × ProcessorTagSnapshot))
  triggerEvent : String → Bool

/-- The loop of `hydrateMissingTagSnapshots` over the batches: the cache it leaves and whether all
went well. -/
def hydrateBatches (answers : ServiceAnswers) :
    List (List String) → TagSnapshotCache → TagSnapshotCache × Bool
  | [], cache => (cache, true)
  | batch :: batches, cache =>
    match answers.getTagSnapshotsForProcessor batch with
    | none => (cache, false)
    | some snapshots =>
      hydrateBatches answers batches (cache.setResponse answers.nowIso snapshots)

def hydrateMissingTagSnapshots (config : StationEventsProcessorConfig) (answers : ServiceAnswers)
    (missingTagKeys : List String) (cache : TagSnapshotCache) : TagSnapshotCache × Bool :=
  hydrateBatches answers (missingTagKeys.toChunks config.tagFetchBatchSize) cache

/-- What is sent to the station service when an event is triggered. -/
structure TriggerPayload where
  sourceEventId : String
  stationId : String
  eventId : String
  matchedConditionIds : List String
  matchedAt : String
  points : List PointReading
  tagValues : List (String × TagValueSnapshot)
  replayed : Bool
deriving DecidableEq

def buildTriggerPayload (nowIso : String) (sourceEvent : PointEvent)
    (compiledEvent : CompiledStationEvent) (matchedConditionIds : List String)
    (getSnapshot : SnapshotLookup) (tagKeys : List String) : TriggerPayload where
  sourceEventId := sourceEvent.id
  stationId := compiledEvent.stationId
  eventId := compiledEvent.id
  matchedConditionIds := matchedConditionIds
  matchedAt := nowIso
  points := sourceEvent.readings.map fun reading ↦
    { reading with previousValue := reading.previousValue.orElse .null }
  tagValues := tagKeys.filterMap fun key ↦ (getSnapshot key).map fun snapshot ↦ (key, snapshot)
  replayed := sourceEvent.replayed

/-- A trigger that has been sent: the event that was processed, the candidate it fired, the
snapshots the candidate was evaluated on, and the payload. -/
structure FiredTrigger where
  sourceEvent : PointEvent
  compiledEvent : CompiledStationEvent
  getSnapshot : SnapshotLookup
  payload : TriggerPayload

/-- Evaluate the candidates in order and send the triggers of those that match, up to the first
one that cannot be sent. -/
def fireCandidates (conv : Conversions) (answers : ServiceAnswers) (event : PointEvent)
    (getSnapshot : SnapshotLookup) : List CompiledStationEvent → List FiredTrigger
  | [] => []
  | compiledEvent :: rest =>
    let evaluation := evaluateTrigger conv compiledEvent.trigger getSnapshot
    if evaluation.matched then
      let payload := buildTriggerPayload answers.nowIso event compiledEvent
        evaluation.matchedConditionIds getSnapshot
        (addKeys [] (compiledEvent.conditionKeys ++ compiledEvent.actionTagKeys))
      let fired : FiredTrigger := ⟨event, compiledEvent, getSnapshot, payload⟩
      if answers.triggerEvent compiledEvent.id then
        fired :: fireCandidates conv answers event getSnapshot rest
      else [fired]
    else fireCandidates conv answers event getSnapshot rest

/-- The processor's caches, and the triggers sent so far. -/
structure ProcessorState where
  cache : TagSnapshotCache
  events : CompiledStationEventSnapshot
  fired : List FiredTrigger

namespace ProcessorState

/-- The compiled events with a condition on a tag that the event carries. -/
def candidateEvents (s : ProcessorState) (event : PointEvent) : List CompiledStationEvent :=
  (s.events.getCandidateEventIds event.lookupKeys).filterMap s.events.getCompiledEvent

/-- The snapshot attached to the event, else the one in the cache. -/
def snapshotLookup (attached : OrderedMap String TagValueSnapshot) (cache : TagSnapshotCache) :
    SnapshotLookup :=
  fun key ↦ (attached.get? key).orElse fun _ ↦ cache.getSnapshot key

/-- The cache and the lookup that the candidates of an event are evaluated on: after the
preprocessor, and after the tags without a snapshot have been asked for. `false` where that
failed. -/
def prepare (config : StationEventsProcessorConfig) (answers : ServiceAnswers)
    (s : ProcessorState) (event : PointEvent) : TagSnapshotCache × SnapshotLookup × Bool :=
  let preprocessed := pointSnapshotPreprocessor answers.nowIso event s.cache
  let cache := preprocessed.1
  let attached := preprocessed.2
  let requiredTagKeys := addKeys [] ((s.candidateEvents event).flatMap fun compiledEvent ↦
    compiledEvent.conditionKeys ++ compiledEvent.actionTagKeys)
  let missingKeys := requiredTagKeys.filter fun key ↦
    (attached.get? key).isNone && (cache.getSnapshot key).isNone
  let hydrated := hydrateMissingTagSnapshots config answers missingKeys cache
  (hydrated.1, snapshotLookup attached hydrated.1, hydrated.2)

/-- Process one point event through the preprocessor and the processor. -/
def process (conv : Conversions) (config : StationEventsProcessorConfig) (answers : ServiceAnswers)
    (event : PointEvent) (s : ProcessorState) : ProcessorState :=
  if event.readings.isEmpty then s
  else if (s.events.getCandidateEventIds event.lookupKeys).isEmpty then
    { s with cache := (pointSnapshotPreprocessor answers.nowIso event s.cache).1 }
  else
    let prepared := s.prepare config answers event
    let fired := if prepared.2.2 then
      fireCandidates conv answers event prepared.2.1 (s.candidateEvents event) else []
    { s with cache := prepared.1, fired := s.fired ++ fired }

end ProcessorState

/-- One thing after the other: a point event, or a refresh of the station events. -/
inductive ProcessorStep
  | point (event : PointEvent) (answers : ServiceAnswers)
  | refreshed (events : List StationEventDefinition)

def processorStep (conv : Conversions) (config : StationEventsProcessorConfig) :
    ProcessorStep → ProcessorState → Option ProcessorState
  | .point event answers, s => some (s.process conv config answers event)
  | .refreshed events, s => some { s with events := compileStationEvents events }

/-- The processor at start: no tag has a snapshot. -/
def processorStart (maxEntries : ℕ) (events : List StationEventDefinition) : ProcessorState where
  cache := .new maxEntries
  events := compileStationEvents events
  fired := []

/-! ## `any` over conditions -/

/-- The condition that a clause is. -/
def StationEventTriggerClause.condition? :
    StationEventTriggerClause → Option StationEventTriggerCondition
  | .condition c => some c
  | .group .. => none

/-- The conditions of a trigger that is an `any` over conditions. -/
def StationEventTrigger.anyConditions? (trigger : StationEventTrigger) :
    Option (List StationEventTriggerCondition) :=
  match trigger.operator with
  | .any => trigger.clauses.mapM StationEventTriggerClause.condition?
  | .all => none

theorem StationEventTrigger.anyConditions?_eq_some_iff {trigger : StationEventTrigger}
    {conditions : List StationEventTriggerCondition} :
    trigger.anyConditions? = some conditions ↔
      trigger.operator = .any ∧ trigger.clauses = conditions.map .condition := by
  obtain ⟨operator, clauses⟩ := trigger
  cases operator with
  | all => simp [anyConditions?]
  | any =>
    simp only [anyConditions?, true_and]
    induction clauses generalizing conditions with
    | nil => cases conditions <;> simp
    | cons clause rest ih =>
      cases clause with
      | group => cases conditions <;> simp [StationEventTriggerClause.condition?]
      | condition c =>
        rw [List.mapM_cons]
        cases conditions with
        | nil => simp [StationEventTriggerClause.condition?, Option.bind_eq_some_iff]
        | cons d conditions =>
          have hih := @ih conditions
          simp only [StationEventTriggerClause.condition?, Option.bind_eq_bind,
            Option.bind_some, Option.bind_eq_some_iff, Option.pure_def, Option.some.injEq,
            List.cons.injEq, List.map_cons, StationEventTriggerClause.condition.injEq]
          constructor
          · rintro ⟨cs, hcs, rfl, rfl⟩
            exact ⟨rfl, hih.mp hcs⟩
          · rintro ⟨rfl, hrest⟩
            exact ⟨_, hih.mpr hrest, rfl, rfl⟩

/-- **What an `any` over conditions names.** It matches iff one of them does, and then names the
first one that does. -/
theorem evaluateTrigger_any {conv : Conversions} {trigger : StationEventTrigger}
    {conditions : List StationEventTriggerCondition} (getSnapshot : SnapshotLookup)
    (h : trigger.anyConditions? = some conditions) :
    evaluateTrigger conv trigger getSnapshot
      = ⟨(conditions.find? (·.matches conv getSnapshot)).isSome,
          ((conditions.find? (·.matches conv getSnapshot)).map (·.id)).toList⟩ := by
  obtain ⟨hop, hclauses⟩ := StationEventTrigger.anyConditions?_eq_some_iff.mp h
  rw [evaluateTrigger, hop, hclauses]
  cases conditions with
  | nil => rfl
  | cons c rest =>
    rw [if_neg (by simp)]
    exact evaluateAny_conditions conv getSnapshot (c :: rest) []

/-- A condition on a tag that the event does not carry matches: on an edge seen earlier, or one the
service has answered. -/
def StaleEdge (conv : Conversions) (getSnapshot : SnapshotLookup) (carried : List String)
    (c : StationEventTriggerCondition) : Prop :=
  c.tagId ∉ carried ∧ c.matches conv getSnapshot = true

/-- A condition on a tag that the event carries matches. -/
def OwnEdge (conv : Conversions) (getSnapshot : SnapshotLookup) (carried : List String)
    (c : StationEventTriggerCondition) : Prop :=
  c.tagId ∈ carried ∧ c.matches conv getSnapshot = true

instance instDecidableStaleEdge (conv : Conversions) (getSnapshot : SnapshotLookup)
    (carried : List String) (c : StationEventTriggerCondition) :
    Decidable (StaleEdge conv getSnapshot carried c) := inferInstanceAs (Decidable (_ ∧ _))

instance instDecidableOwnEdge (conv : Conversions) (getSnapshot : SnapshotLookup)
    (carried : List String) (c : StationEventTriggerCondition) :
    Decidable (OwnEdge conv getSnapshot carried c) := inferInstanceAs (Decidable (_ ∧ _))

/-- Every condition with a stale edge comes after one with an edge of the event's own. -/
def OwnEdgesFirst (conv : Conversions) (getSnapshot : SnapshotLookup) (carried : List String)
    (conditions : List StationEventTriggerCondition) : Prop :=
  ∀ c ∈ conditions, StaleEdge conv getSnapshot carried c →
    ∃ d ∈ conditions.takeWhile (fun d ↦ decide (d ≠ c)), OwnEdge conv getSnapshot carried d

instance instDecidableOwnEdgesFirst (conv : Conversions) (getSnapshot : SnapshotLookup)
    (carried : List String) (conditions : List StationEventTriggerCondition) :
    Decidable (OwnEdgesFirst conv getSnapshot carried conditions) :=
  inferInstanceAs (Decidable (∀ c ∈ conditions, StaleEdge conv getSnapshot carried c →
    ∃ d ∈ conditions.takeWhile (fun d ↦ decide (d ≠ c)), OwnEdge conv getSnapshot carried d))

/-- **Where the first condition that matches comes from.** It is on a tag that the event carries iff
every stale edge comes after an edge of the event's own. -/
theorem ownEdgesFirst_iff {conv : Conversions} {getSnapshot : SnapshotLookup}
    {carried : List String} {conditions : List StationEventTriggerCondition} :
    OwnEdgesFirst conv getSnapshot carried conditions ↔
      ∀ c, conditions.find? (·.matches conv getSnapshot) = some c → c.tagId ∈ carried := by
  constructor
  · intro hfirst c hfind
    by_contra hc
    obtain ⟨hmatch, pre, post, rfl, hpre⟩ := List.find?_eq_some_iff_append.mp hfind
    obtain ⟨d, hd, -, hdmatch⟩ := hfirst c (by simp) ⟨hc, hmatch⟩
    -- nothing before the first occurrence of `c` matches
    have hdpre : d ∈ pre := by
      rw [List.takeWhile_append] at hd
      split at hd
      · simpa using hd
      · exact List.takeWhile_subset _ hd
    have := hpre d hdpre
    rw [hdmatch] at this
    exact absurd this (by decide)
  · rintro hfind c hc ⟨hcarried, hmatch⟩
    obtain ⟨d, hd⟩ := Option.isSome_iff_exists.mp
      (List.find?_isSome.mpr ⟨c, hc, hmatch⟩ :
        (conditions.find? (·.matches conv getSnapshot)).isSome)
    have hdcarried := hfind d hd
    obtain ⟨hdmatch, pre, post, rfl, hpre⟩ := List.find?_eq_some_iff_append.mp hd
    have hdc : d ≠ c := by
      rintro rfl
      exact hcarried hdcarried
    have hprec : ∀ e ∈ pre, decide (e ≠ c) = true := by
      intro e he
      have hnot := hpre e he
      rw [decide_eq_true_eq]
      rintro rfl
      rw [hmatch] at hnot
      exact absurd hnot (by decide)
    refine ⟨d, ?_, hdcarried, hdmatch⟩
    rw [List.takeWhile_append_of_pos hprec, List.takeWhile_cons_of_pos (by simpa using hdc)]
    simp

/-! ## The snapshots attached to an event -/

theorem mem_addKeys {keys new : List String} {key : String} :
    key ∈ addKeys keys new ↔ key ∈ keys ∨ key ∈ new := by
  rw [addKeys]
  induction new generalizing keys with
  | nil => simp
  | cons k rest ih =>
    rw [List.foldl_cons, ih, addKey]
    split
    · rename_i hk
      constructor
      · rintro (h | h)
        · exact Or.inl h
        · exact Or.inr (List.mem_cons_of_mem _ h)
      · rintro (h | h)
        · exact Or.inl h
        · rcases List.mem_cons.mp h with rfl | h
          · exact Or.inl hk
          · exact Or.inr h
    · simp only [List.mem_append, List.mem_cons]
      tauto

theorem PointEvent.mem_lookupKeys {event : PointEvent} {key : String} :
    key ∈ event.lookupKeys ↔ ∃ reading ∈ event.readings, reading.pointId = key := by
  rw [lookupKeys, mem_addKeys]
  simp only [List.not_mem_nil, false_or, List.mem_flatMap, PointReading.readingKeys,
    List.mem_singleton]
  constructor
  · rintro ⟨reading, hreading, rfl⟩
    exact ⟨reading, hreading, rfl⟩
  · rintro ⟨reading, hreading, rfl⟩
    exact ⟨reading, hreading, rfl⟩

/-- What is attached for a tag has the value of a reading of that tag. -/
def AttachedFrom (readings : List PointReading) (attached : OrderedMap String TagValueSnapshot) :
    Prop :=
  ∀ key, (∃ reading ∈ readings, reading.pointId = key) →
    ∃ reading ∈ readings, reading.pointId = key ∧
      (attached.get? key).map TagValueSnapshot.value = some reading.value

theorem attachReading_eq (nowIso : String)
    (state : TagSnapshotCache × OrderedMap String TagValueSnapshot) (reading : PointReading) :
    attachReading nowIso state reading
      = (state.1.upsertPointReading nowIso reading, state.2.set reading.pointId
          (snapshotWithFallback nowIso (TagSnapshotCache.inputOfReading reading)
            (state.1.getSnapshot reading.pointId))) := by
  have hget : (state.1.upsertPointReading nowIso reading).getSnapshot reading.pointId
      = some (snapshotWithFallback nowIso (TagSnapshotCache.inputOfReading reading)
          (state.1.getSnapshot reading.pointId)) :=
    TagSnapshotCache.getSnapshot_setSnapshot_self nowIso
      (TagSnapshotCache.inputOfReading reading) state.1
  simp only [attachReading, hget]

/-- **Every tag that the event carries gets a snapshot of its own reading.** -/
theorem attachedFrom_preprocessor (nowIso : String) (event : PointEvent)
    (cache : TagSnapshotCache) :
    AttachedFrom event.readings (pointSnapshotPreprocessor nowIso event cache).2 := by
  rw [pointSnapshotPreprocessor]
  induction event.readings using List.reverseRecOn with
  | nil =>
    rintro key ⟨reading, hreading, -⟩
    simp at hreading
  | append_singleton readings last ih =>
    rw [List.foldl_append, List.foldl_cons, List.foldl_nil, attachReading_eq]
    rintro key ⟨reading, hreading, rfl⟩
    by_cases hlast : reading.pointId = last.pointId
    · refine ⟨last, by simp, hlast.symm, ?_⟩
      rw [hlast, OrderedMap.get?_set_self]
      rfl
    · rcases List.mem_append.mp hreading with hin | hin
      · obtain ⟨r, hr, hkey, hvalue⟩ := ih _ ⟨reading, hin, rfl⟩
        exact ⟨r, List.mem_append_left _ hr, hkey, by
          rw [OrderedMap.get?_set_of_ne _ _ hlast]
          exact hvalue⟩
      · exact absurd (congrArg _ (List.mem_singleton.mp hin)) hlast

/-! ## The triggers that are sent -/

/-- A trigger that is sent comes from a candidate that has matched. -/
theorem of_mem_fireCandidates {conv : Conversions} {answers : ServiceAnswers} {event : PointEvent}
    {getSnapshot : SnapshotLookup} {candidates : List CompiledStationEvent} {fired : FiredTrigger}
    (h : fired ∈ fireCandidates conv answers event getSnapshot candidates) :
    fired.compiledEvent ∈ candidates ∧ fired.sourceEvent = event ∧
      fired.getSnapshot = getSnapshot ∧
      (evaluateTrigger conv fired.compiledEvent.trigger getSnapshot).matched = true ∧
      fired.payload.matchedConditionIds
        = (evaluateTrigger conv fired.compiledEvent.trigger getSnapshot).matchedConditionIds := by
  induction candidates with
  | nil => simp [fireCandidates] at h
  | cons compiledEvent rest ih =>
    rw [fireCandidates] at h
    simp only at h
    have hrest := fun hin ↦ (ih hin).imp_left (List.mem_cons_of_mem compiledEvent)
    split at h
    · rename_i hmatched
      split at h
      · rcases List.mem_cons.mp h with rfl | hin
        · exact ⟨List.mem_cons_self, rfl, rfl, hmatched, rfl⟩
        · exact hrest hin
      · obtain rfl := List.mem_singleton.mp h
        exact ⟨List.mem_cons_self, rfl, rfl, hmatched, rfl⟩
    · exact hrest h

/-- An `any` over conditions that has been triggered names one condition: that condition matches,
on the value of a reading that the event carries. -/
def FiredByOwnReading (conv : Conversions) (fired : FiredTrigger) : Prop :=
  ∀ conditions, fired.compiledEvent.trigger.anyConditions? = some conditions →
    ∃ c ∈ conditions, fired.payload.matchedConditionIds = [c.id] ∧
      c.matches conv fired.getSnapshot = true ∧
      ∃ reading ∈ fired.sourceEvent.readings, reading.pointId = c.tagId ∧
        (fired.getSnapshot c.tagId).map TagValueSnapshot.value = some reading.value

/-- The condition on a step: where a candidate is an `any` over conditions, every stale edge among
them comes after an edge of the event's own. -/
def ProcessorStep.OwnEdges (conv : Conversions) (config : StationEventsProcessorConfig)
    (s : ProcessorState) : ProcessorStep → Prop
  | .point event answers => ∀ compiledEvent ∈ s.candidateEvents event,
      ∀ conditions ∈ compiledEvent.trigger.anyConditions?,
        OwnEdgesFirst conv (s.prepare config answers event).2.1 event.lookupKeys conditions
  | .refreshed _ => True

/-- The triggers one event sends, under the condition. -/
theorem firedByOwnReading_of_mem {conv : Conversions} {config : StationEventsProcessorConfig}
    {s : ProcessorState} {event : PointEvent} {answers : ServiceAnswers}
    (hok : (ProcessorStep.point event answers).OwnEdges conv config s) {fired : FiredTrigger}
    (h : fired ∈ fireCandidates conv answers event (s.prepare config answers event).2.1
      (s.candidateEvents event)) : FiredByOwnReading conv fired := by
  obtain ⟨hcandidate, hevent, hlookup, hmatched, hids⟩ := of_mem_fireCandidates h
  intro conditions hconditions
  have heval : evaluateTrigger conv _ _ = _ :=
    evaluateTrigger_any (s.prepare config answers event).2.1 hconditions
  rw [heval] at hmatched hids
  obtain ⟨c, hc⟩ := Option.isSome_iff_exists.mp hmatched
  have hcarried := ownEdgesFirst_iff.mp (hok _ hcandidate _ hconditions) c hc
  -- what the event carries is looked up among the attached snapshots
  obtain ⟨reading, hreading, hkey, hvalue⟩ := attachedFrom_preprocessor answers.nowIso event s.cache
    c.tagId (PointEvent.mem_lookupKeys.mp hcarried)
  refine ⟨c, List.mem_of_find?_eq_some hc, ?_, ?_, reading, ?_, hkey, ?_⟩
  · rw [hids, hc]
    rfl
  · rw [hlookup]
    simpa using List.find?_some hc
  · rw [hevent]
    exact hreading
  · obtain ⟨snapshot, hsnapshot, hsnap⟩ := Option.map_eq_some_iff.mp hvalue
    rw [hlookup]
    change ((ProcessorState.snapshotLookup _ _ c.tagId).map _) = _
    rw [ProcessorState.snapshotLookup, hsnapshot]
    exact congrArg some hsnap

/-- **An `any` trigger fires on the event's own readings.** In every stream of point events, with
any refreshes between them, in which every stale edge comes after an edge of the event's own,
whatever has been triggered names a condition on a tag that the event carries, and that condition
has its edge at the value the event gives. -/
theorem fired_by_own_readings (conv : Conversions) (config : StationEventsProcessorConfig)
    (maxEntries : ℕ) (events : List StationEventDefinition) {steps : List ProcessorStep}
    {s : ProcessorState}
    (hrun : Run (processorStep conv config) (fun s step ↦ step.OwnEdges conv config s)
      (processorStart maxEntries events) steps s) :
    ∀ fired ∈ s.fired, FiredByOwnReading conv fired := by
  induction hrun with
  | nil => simp [processorStart]
  | snoc _ hok hstep ih =>
    rename_i s step s' _
    cases step with
    | refreshed events =>
      cases hstep
      exact ih
    | point event answers =>
      simp only [processorStep, ProcessorState.process, Option.some.injEq] at hstep
      subst hstep
      split
      · exact ih
      · split
        · exact ih
        · intro fired hfired
          rcases List.mem_append.mp hfired with hin | hin
          · exact ih fired hin
          · split at hin
            · exact firedByOwnReading_of_mem hok hin
            · simp at hin

/-! ## Two tags

An event that fires when the pressure or the temperature goes above its limit. -/

/-- Conversions of whole numbers. -/
def integerConversions : Conversions where
  numberOfString s := s.toInt?.map fun n ↦ (((n : ℚ) : WithTop ℚ) : WithBot (WithTop ℚ))
  stringOfNumber x := if x = ⊥ then "-Infinity" else if x = ⊤ then "Infinity" else
    toString (x.unbotD ⊤ |>.untopD 0).num
  stringOfObject _ := "[object Object]"

/-- A number, as a value of a tag. -/
def tagNumber (n : ℕ) : JsValue := .number (((n : ℚ) : WithTop ℚ) : WithBot (WithTop ℚ))

def pressureHigh : StationEventTriggerCondition where
  id := "pressure-high"
  tagId := "pressure"
  condition := .goesAbove
  value := tagNumber 10

def temperatureHigh : StationEventTriggerCondition where
  id := "temperature-high"
  tagId := "temperature"
  condition := .goesAbove
  value := tagNumber 50

def overLimit : StationEventDefinition where
  id := "over-limit"
  stationId := "station"
  enabled := true
  trigger := ⟨.any, [.condition pressureHigh, .condition temperatureHigh]⟩
  actions := []

def batchesOfTwo : StationEventsProcessorConfig := ⟨2, by decide⟩

/-- The service knows no further snapshots and takes every trigger. -/
def plainAnswers : ServiceAnswers := ⟨"now", fun _ ↦ some [], fun _ ↦ true⟩

/-- The pressure goes above its limit. -/
def pressureRises : ProcessorStep :=
  .point { id := "first", readings := [⟨"pressure", none, tagNumber 11, tagNumber 9, none, none,
    none⟩] } plainAnswers

/-- The temperature stays as it is. -/
def temperatureStays : ProcessorStep :=
  .point { id := "second", readings := [⟨"temperature", none, tagNumber 20, tagNumber 20, none,
    none, none⟩] } plainAnswers

instance instDecidableOwnEdges (conv : Conversions) (config : StationEventsProcessorConfig)
    (s : ProcessorState) (step : ProcessorStep) : Decidable (step.OwnEdges conv config s) :=
  match step with
  | .point event answers => inferInstanceAs (Decidable (∀ compiledEvent ∈ s.candidateEvents event,
      ∀ conditions ∈ compiledEvent.trigger.anyConditions?,
        OwnEdgesFirst conv (s.prepare config answers event).2.1 event.lookupKeys conditions))
  | .refreshed _ => isTrue trivial

/-- Two readings of the pressure, the second below the limit, and the temperature: what is sent
names the pressure once. -/
theorem fired_by_own_readings_pressure : ∃ s : ProcessorState,
    s.fired.map (·.payload.matchedConditionIds) = [["pressure-high"]] ∧
      ∀ fired ∈ s.fired, FiredByOwnReading integerConversions fired := by
  have hrun : (execute (processorStep integerConversions batchesOfTwo)
      (fun s step ↦ step.OwnEdges integerConversions batchesOfTwo s)
      [pressureRises, .point { id := "back", readings := [⟨"pressure", none, tagNumber 8,
        .undefined, none, none, none⟩] } plainAnswers, temperatureStays]
      (processorStart 50 [overLimit])).any (fun s ↦
        decide (s.fired.map (·.payload.matchedConditionIds) = [["pressure-high"]])) = true := by
    decide +kernel
  obtain ⟨s, hs, hfired⟩ := (Option.any_eq_true _ _).mp hrun
  exact ⟨s, of_decide_eq_true hfired, fired_by_own_readings integerConversions batchesOfTwo 50
    [overLimit] (run_of_execute hs)⟩

/-- **The edge of another tag fires the event a second time.** The pressure has gone above its limit
and has fired the event; then the temperature comes, unchanged, and the event fires again, on the
pressure. -/
theorem not_fired_by_own_readings : ¬ ∀ s : ProcessorState,
    Run (processorStep integerConversions batchesOfTwo) (fun _ _ ↦ True)
      (processorStart 50 [overLimit]) [pressureRises, temperatureStays] s →
    ∀ fired ∈ s.fired, FiredByOwnReading integerConversions fired := by
  intro hall
  have hrun : (execute (processorStep integerConversions batchesOfTwo) (fun _ _ ↦ True)
      [pressureRises, temperatureStays] (processorStart 50 [overLimit])).any (fun s ↦
        s.fired.any fun fired ↦
          decide (fired.compiledEvent.trigger.anyConditions?
            = some [pressureHigh, temperatureHigh]) &&
          decide (fired.payload.matchedConditionIds = ["pressure-high"]) &&
          decide (∀ reading ∈ fired.sourceEvent.readings, reading.pointId = "temperature"))
      = true := by
    decide +kernel
  obtain ⟨s, hs, hany⟩ := (Option.any_eq_true _ _).mp hrun
  obtain ⟨fired, hmem, hfired⟩ := List.any_eq_true.mp hany
  simp only [Bool.and_eq_true, decide_eq_true_eq] at hfired
  obtain ⟨⟨hconditions, hids⟩, hreadings⟩ := hfired
  obtain ⟨c, hc, hid, -, reading, hreading, hkey, -⟩ :=
    hall s (run_of_execute hs) fired hmem _ hconditions
  rw [hids, List.cons.injEq] at hid
  have hpressure : c.tagId = "pressure" := by
    rcases List.mem_cons.mp hc with rfl | hc
    · rfl
    · obtain rfl := List.mem_singleton.mp hc
      exact absurd hid.1 (by decide)
  rw [hpressure, hreadings reading hreading] at hkey
  exact absurd hkey (by decide)

end RwServer
