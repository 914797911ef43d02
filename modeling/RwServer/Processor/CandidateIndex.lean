import Mathlib
import RwServer.Processor.MatchedConditions

/-!
# The candidate index

The compiled snapshot maps a tag to the events that have a condition on it, and a reading only has
the triggers of the candidates evaluated. The index holds an event exactly at the tags of its
conditions (`mem_candidates_compileStationEvents`). A trigger that holds has come to a condition
that does, so that the tags of the conditions it has matched lead back to the event
(`getCandidateEventIds_exact`): an evaluation of all events would fire no other.
-/

namespace RwServer

/-! ## Sets of keys -/

theorem mem_addKey {keys : List String} {key k : String} :
    k ∈ addKey keys key ↔ k ∈ keys ∨ k = key := by
  rw [addKey]
  split
  · next hmem => exact ⟨.inl, fun h ↦ h.elim id (fun heq ↦ heq ▸ hmem)⟩
  · rw [List.mem_append, List.mem_singleton]

theorem nodup_addKey {keys : List String} (h : keys.Nodup) (key : String) :
    (addKey keys key).Nodup := by
  rw [addKey]
  split
  · exact h
  · next hnot =>
    refine List.nodup_append.mpr ⟨h, List.nodup_singleton key, fun k hk k' hk' heq ↦ ?_⟩
    rw [heq, List.mem_singleton.mp hk'] at hk
    exact hnot hk

theorem nodup_addKeys {keys : List String} (h : keys.Nodup) (new : List String) :
    (addKeys keys new).Nodup := by
  induction new generalizing keys with
  | nil => exact h
  | cons key rest ih => exact ih (nodup_addKey h key)

/-! ## The tags of the conditions -/

/-- The tags of a clause are those of its conditions, at any depth. -/
theorem StationEventTriggerClause.tagIds_eq (clause : StationEventTriggerClause) :
    clause.tagIds = clause.conditions.map StationEventTriggerCondition.tagId := by
  induction clause using induction with
  | condition c => rfl
  | group id operator clauses ih =>
    rw [tagIds, conditions]
    induction clauses with
    | nil => rfl
    | cons clause rest ihrest =>
      obtain ⟨hclause, hrest⟩ := List.forall_mem_cons.mp ih
      rw [tagIdsOfAll, flattenTriggerConditions, List.map_append, hclause, ihrest hrest]

/-! ## The index -/

/-- The events listed at a key. -/
def candidatesAt (index : OrderedMap String (List String)) (key : String) : List String :=
  (index.get? key).getD []

theorem candidatesAt_set (index : OrderedMap String (List String)) (key k : String)
    (ids : List String) :
    candidatesAt (index.set key ids) k = if k = key then ids else candidatesAt index k := by
  unfold candidatesAt
  split
  · next heq => rw [heq, OrderedMap.get?_set_self, Option.getD_some]
  · next hne => rw [OrderedMap.get?_set_of_ne _ _ hne]

/-- An event is added at its keys, and nothing else is. -/
theorem mem_candidatesAt_addCandidates {stationEventId id key : String} {keys : List String}
    {index : OrderedMap String (List String)} :
    id ∈ candidatesAt (addCandidates stationEventId keys index) key ↔
      id ∈ candidatesAt index key ∨ (id = stationEventId ∧ key ∈ keys) := by
  induction keys generalizing index with
  | nil => simp [addCandidates]
  | cons first rest ih =>
    rw [addCandidates, List.foldl_cons, ← addCandidates, ih, candidatesAt_set]
    split
    · next heq =>
      rw [← candidatesAt, mem_addKey, heq]
      simp only [List.mem_cons_self, and_true]
      exact ⟨fun h ↦ h.elim (fun h ↦ h) fun h ↦ .inr h.1, .inl⟩
    · next hne => rw [List.mem_cons, or_iff_right hne]

theorem compileStationEvents_append (events : List StationEventDefinition)
    (event : StationEventDefinition) :
    compileStationEvents (events ++ [event]) =
      { compiledById :=
          (compileStationEvents events).compiledById.set event.id (compileStationEvent event)
        candidateEventIdsByKey := addCandidates event.id (tagIdsOfAll event.trigger.clauses)
          (compileStationEvents events).candidateEventIdsByKey } := by
  rw [compileStationEvents, List.foldl_append]
  rfl

/-- **The index of all events**: an event is listed at the tags of its conditions. -/
theorem mem_candidates_compileStationEvents {events : List StationEventDefinition}
    {id key : String} :
    id ∈ candidatesAt (compileStationEvents events).candidateEventIdsByKey key ↔
      ∃ event ∈ events, event.id = id ∧
        ∃ c ∈ flattenTriggerConditions event.trigger.clauses, c.tagId = key := by
  have htags (event : StationEventDefinition) : key ∈ tagIdsOfAll event.trigger.clauses ↔
      ∃ c ∈ flattenTriggerConditions event.trigger.clauses, c.tagId = key := by
    have hroot := event.trigger.root.tagIds_eq
    rw [StationEventTrigger.root, StationEventTriggerClause.tagIds,
      StationEventTriggerClause.conditions] at hroot
    rw [hroot, List.mem_map]
  induction events using List.reverseRecOn with
  | nil => simp [compileStationEvents, candidatesAt]
  | append_singleton events event ih =>
    rw [compileStationEvents_append, mem_candidatesAt_addCandidates, or_congr_left ih, htags,
      @eq_comm _ id]
    simp only [List.mem_append, List.mem_singleton, or_and_right, exists_or, exists_eq_left]

/-- Among distinct ids an event is found under its own. -/
theorem getCompiledEvent_compileStationEvents {events : List StationEventDefinition}
    (hids : (events.map StationEventDefinition.id).Nodup) {event : StationEventDefinition}
    (hevent : event ∈ events) :
    (compileStationEvents events).getCompiledEvent event.id = some (compileStationEvent event) := by
  induction events using List.reverseRecOn with
  | nil => cases hevent
  | append_singleton events last ih =>
    rw [List.map_append, List.nodup_append] at hids
    rw [compileStationEvents_append, CompiledStationEventSnapshot.getCompiledEvent]
    rcases List.mem_append.mp hevent with hbefore | hlast
    · have hne : event.id ≠ last.id :=
        hids.2.2 _ (List.mem_map_of_mem hbefore) _ List.mem_cons_self
      rw [OrderedMap.get?_set_of_ne _ _ hne]
      exact ih hids.1 hbefore
    · rw [List.mem_singleton.mp hlast, OrderedMap.get?_set_self]

/-! ## Candidates -/

theorem mem_getCandidateEventIds {events : List StationEventDefinition} {keys : List String}
    {id : String} :
    id ∈ (compileStationEvents events).getCandidateEventIds keys ↔
      ∃ event ∈ events, event.id = id ∧
        ∃ c ∈ flattenTriggerConditions event.trigger.clauses, c.tagId ∈ keys := by
  rw [CompiledStationEventSnapshot.getCandidateEventIds, mem_addKeys, List.mem_flatMap,
    or_iff_right List.not_mem_nil]
  constructor
  · rintro ⟨key, hkey, hid⟩
    obtain ⟨event, hevent, rfl, c, hc, rfl⟩ := mem_candidates_compileStationEvents.mp hid
    exact ⟨event, hevent, rfl, c, hc, hkey⟩
  · rintro ⟨event, hevent, rfl, c, hc, hkey⟩
    exact ⟨c.tagId, hkey,
      mem_candidates_compileStationEvents.mpr ⟨event, hevent, rfl, c, hc, rfl⟩⟩

/-- The conditions of a trigger that an evaluation has matched: they hold, and their ids have been
collected. -/
def StationEventTrigger.matchedConditions (conv : Conversions) (getSnapshot : SnapshotLookup)
    (trigger : StationEventTrigger) : List StationEventTriggerCondition :=
  (flattenTriggerConditions trigger.clauses).filter fun c ↦
    c.matches conv getSnapshot &&
      decide (c.id ∈ (evaluateTrigger conv trigger getSnapshot).matchedConditionIds)

/-- **A trigger that matches has matched one of its conditions.** -/
theorem exists_mem_matchedConditions {conv : Conversions} {getSnapshot : SnapshotLookup}
    {trigger : StationEventTrigger}
    (h : (evaluateTrigger conv trigger getSnapshot).matched = true) :
    ∃ c, c ∈ trigger.matchedConditions conv getSnapshot := by
  obtain ⟨hmatched, hids⟩ := collects_trigger conv getSnapshot trigger
  rw [hmatched] at h
  obtain ⟨c, hreaches, hc⟩ := StationEventTriggerClause.exists_reaches_of_holds h
  refine ⟨c, List.mem_filter.mpr ⟨hreaches.mem_conditions, ?_⟩⟩
  rw [hc, Bool.true_and, decide_eq_true_iff, hids]
  exact .inr ⟨c, hreaches, hc, rfl⟩

/-- **The candidate index is exact.** It names each event with a condition on one of the keys, and
once; and an event whose trigger matches is found by the tags of the conditions it has matched. -/
theorem getCandidateEventIds_exact (conv : Conversions) {events : List StationEventDefinition}
    (hids : (events.map StationEventDefinition.id).Nodup) (keys : List String) :
    ((compileStationEvents events).getCandidateEventIds keys).Nodup ∧
    (∀ id, id ∈ (compileStationEvents events).getCandidateEventIds keys ↔
      ∃ event ∈ events, event.id = id ∧
        ∃ c ∈ flattenTriggerConditions event.trigger.clauses, c.tagId ∈ keys) ∧
    ∀ (getSnapshot : SnapshotLookup), ∀ event ∈ events,
      (evaluateTrigger conv event.trigger getSnapshot).matched = true →
      (compileStationEvents events).getCompiledEvent event.id = some (compileStationEvent event) ∧
        event.id ∈ (compileStationEvents events).getCandidateEventIds
          ((event.trigger.matchedConditions conv getSnapshot).map
            StationEventTriggerCondition.tagId) := by
  refine ⟨nodup_addKeys List.nodup_nil _, fun id ↦ mem_getCandidateEventIds, ?_⟩
  intro getSnapshot event hevent hmatched
  refine ⟨getCompiledEvent_compileStationEvents hids hevent, mem_getCandidateEventIds.mpr ?_⟩
  obtain ⟨c, hc⟩ := exists_mem_matchedConditions hmatched
  exact ⟨event, hevent, rfl, c, (List.mem_filter.mp hc).1, List.mem_map_of_mem hc⟩

def doorEvent : StationEventDefinition where
  id := "door-or-alarm"
  stationId := "station"
  enabled := true
  trigger := doorOrAlarm
  actions := []

/-- The event is found by the tags of what it has matched when the door and the alarm change. -/
theorem getCandidateEventIds_exact_doorEvent :
    doorEvent.id ∈ (compileStationEvents [overLimit, doorEvent]).getCandidateEventIds
      ((doorOrAlarm.matchedConditions integerConversions doorAndAlarmChanged).map
        StationEventTriggerCondition.tagId) :=
  ((getCandidateEventIds_exact integerConversions (by decide) []).2.2 doorAndAlarmChanged doorEvent
    (List.mem_cons_of_mem _ List.mem_cons_self) (by decide +kernel)).2

end RwServer
