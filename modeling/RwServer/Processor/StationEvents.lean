import Mathlib
import RwServer.Processor.TagSnapshots

/-!
# Station events

A station event has a trigger, a tree of conditions on tags. The processor compiles the definitions
that the station service lists into a snapshot with an index from tags to the events that have a
condition on them; a reading of a tag makes these events candidates, and a candidate's trigger is
evaluated against the snapshots of all its tags.

Every operator of a condition is about an edge: it compares the value of a tag with its previous
value, as the snapshot of the tag has them.
-/

namespace RwServer

/-! ## Triggers -/

inductive StationEventConditionOperator
  | goesAbove | goesBelow | incrementsUp | incrementsDown | changesTo | anyChange
deriving DecidableEq, Repr

/-- How the clauses of a trigger or a group are combined. -/
inductive ClauseOperator
  | all | any
deriving DecidableEq, Repr

structure StationEventTriggerCondition where
  id : String
  tagId : String
  deviceId : Option String := none
  condition : StationEventConditionOperator
  value : JsValue
deriving DecidableEq

/-- A condition, or a group of clauses. -/
inductive StationEventTriggerClause
  | condition (c : StationEventTriggerCondition)
  | group (id : String) (operator : ClauseOperator) (conditions : List StationEventTriggerClause)

structure StationEventTrigger where
  operator : ClauseOperator
  clauses : List StationEventTriggerClause

/-- The `toNumber` of the trigger evaluator: `none` also where there is no value. -/
def numberOf (conv : Conversions) : JsValue → Option JsNumber
  | .undefined => none
  | .null => none
  | value => value.toNumber? conv

/-- Whether the edge of an operator lies between the previous and the current value. -/
def evaluateConditionOp (conv : Conversions) (operator : StationEventConditionOperator)
    (currentValue previousValue threshold : JsValue) : Bool :=
  match operator with
  | .goesAbove =>
    match numberOf conv currentValue, numberOf conv threshold with
    | some current, some limit =>
      decide (limit < current) && (numberOf conv previousValue).all fun previous ↦
        decide (previous ≤ limit)
    | _, _ => false
  | .goesBelow =>
    match numberOf conv currentValue, numberOf conv threshold with
    | some current, some limit =>
      decide (current < limit) && (numberOf conv previousValue).all fun previous ↦
        decide (limit ≤ previous)
    | _, _ => false
  | .incrementsUp =>
    match numberOf conv currentValue, numberOf conv previousValue with
    | some current, some previous => decide (previous < current)
    | _, _ => false
  | .incrementsDown =>
    match numberOf conv currentValue, numberOf conv previousValue with
    | some current, some previous => decide (current < previous)
    | _, _ => false
  | .changesTo =>
    decide (currentValue.toText conv = threshold.toText conv) &&
      decide (currentValue ≠ previousValue)
  | .anyChange => decide (currentValue ≠ previousValue)

/-- **A value that has not changed has no edge**, whatever the operator and its threshold. -/
theorem evaluateConditionOp_self (conv : Conversions) (operator : StationEventConditionOperator)
    (value threshold : JsValue) :
    evaluateConditionOp conv operator value value threshold = false := by
  cases operator with
  | goesAbove =>
    unfold evaluateConditionOp
    cases hvalue : numberOf conv value with
    | none => rfl
    | some current =>
      cases numberOf conv threshold with
      | none => rfl
      | some limit =>
        by_cases hlt : limit < current
        · simp [not_le.mpr hlt]
        · simp [hlt]
  | goesBelow =>
    unfold evaluateConditionOp
    cases hvalue : numberOf conv value with
    | none => rfl
    | some current =>
      cases numberOf conv threshold with
      | none => rfl
      | some limit =>
        by_cases hlt : current < limit
        · simp [not_le.mpr hlt]
        · simp [hlt]
  | incrementsUp =>
    unfold evaluateConditionOp
    cases numberOf conv value with
    | none => rfl
    | some current => simp
  | incrementsDown =>
    unfold evaluateConditionOp
    cases numberOf conv value with
    | none => rfl
    | some current => simp
  | changesTo => simp [evaluateConditionOp]
  | anyChange => simp [evaluateConditionOp]

/-- The snapshot of a tag, as an evaluation looks it up. -/
abbrev SnapshotLookup := String → Option TagValueSnapshot

/-- Whether a condition matches: its tag has a snapshot, and that has the edge. -/
def StationEventTriggerCondition.matches (conv : Conversions) (getSnapshot : SnapshotLookup)
    (c : StationEventTriggerCondition) : Bool :=
  (getSnapshot c.tagId).any fun snapshot ↦
    evaluateConditionOp conv c.condition snapshot.value snapshot.previousValue c.value

/-- A result of an evaluation: whether it has matched, and the conditions found to match so far. -/
structure Evaluation where
  matched : Bool
  matchedConditionIds : List String
deriving DecidableEq, Repr

def evaluateCondition (conv : Conversions) (getSnapshot : SnapshotLookup)
    (c : StationEventTriggerCondition) (matchedConditionIds : List String) : Evaluation :=
  if c.matches conv getSnapshot then ⟨true, matchedConditionIds ++ [c.id]⟩
  else ⟨false, matchedConditionIds⟩

mutual

/-- Evaluate a clause, adding the conditions that match. -/
def evaluateClause (conv : Conversions) (getSnapshot : SnapshotLookup) :
    StationEventTriggerClause → List String → Evaluation
  | .condition c, ids => evaluateCondition conv getSnapshot c ids
  | .group _ operator conditions, ids =>
    if conditions.isEmpty then ⟨false, ids⟩
    else match operator with
      | .all => evaluateAll conv getSnapshot conditions ids
      | .any => evaluateAny conv getSnapshot conditions ids

/-- Evaluate clauses until one of them does not match. -/
def evaluateAll (conv : Conversions) (getSnapshot : SnapshotLookup) :
    List StationEventTriggerClause → List String → Evaluation
  | [], ids => ⟨true, ids⟩
  | clause :: rest, ids =>
    let evaluation := evaluateClause conv getSnapshot clause ids
    if evaluation.matched then evaluateAll conv getSnapshot rest evaluation.matchedConditionIds
    else evaluation

/-- Evaluate clauses until one of them matches. -/
def evaluateAny (conv : Conversions) (getSnapshot : SnapshotLookup) :
    List StationEventTriggerClause → List String → Evaluation
  | [], ids => ⟨false, ids⟩
  | clause :: rest, ids =>
    let evaluation := evaluateClause conv getSnapshot clause ids
    if evaluation.matched then evaluation
    else evaluateAny conv getSnapshot rest evaluation.matchedConditionIds

end

/-- `applyOperator` on the clauses of a trigger; no clauses never match. -/
def evaluateTrigger (conv : Conversions) (trigger : StationEventTrigger)
    (getSnapshot : SnapshotLookup) : Evaluation :=
  if trigger.clauses.isEmpty then ⟨false, []⟩
  else match trigger.operator with
    | .all => evaluateAll conv getSnapshot trigger.clauses []
    | .any => evaluateAny conv getSnapshot trigger.clauses []

/-- **An `any` over conditions matches with its first one that does**, and names that one only. -/
theorem evaluateAny_conditions (conv : Conversions) (getSnapshot : SnapshotLookup)
    (conditions : List StationEventTriggerCondition) (ids : List String) :
    evaluateAny conv getSnapshot (conditions.map .condition) ids
      = ⟨(conditions.find? (·.matches conv getSnapshot)).isSome,
          ids ++ ((conditions.find? (·.matches conv getSnapshot)).map (·.id)).toList⟩ := by
  induction conditions with
  | nil => simp [evaluateAny]
  | cons c rest ih =>
    rw [List.map_cons, evaluateAny, evaluateClause, evaluateCondition]
    by_cases hc : c.matches conv getSnapshot
    · simp [hc]
    · simp [hc, ih]

/-! ## Definitions of events -/

/-- The inputs of an action, as parsed JSON: only its texts are looked at. -/
inductive ActionInput
  | text (s : String)
  | array (items : List ActionInput)
  | record (values : List ActionInput)
  | other

structure StationEventAction where
  id : String
  event : String
  inputs : ActionInput
  continueOnError : Option Bool := none

structure StationEventDefinition where
  id : String
  stationId : String
  enabled : Bool
  trigger : StationEventTrigger
  actions : List StationEventAction

/-! ## References to tags in the inputs of actions -/

/-- A character of a tag key in a reference. -/
def isKeyChar (c : Char) : Bool :=
  c.isAlphanum || c == ':' || c == '_' || c == '-'

/-- `\s`. -/
def isSpaceChar (c : Char) : Bool :=
  (0x09 ≤ c.val ∧ c.val ≤ 0x0d) ∨ c.val = 0x20 ∨ c.val = 0xa0 ∨ c.val = 0x1680 ∨
    (0x2000 ≤ c.val ∧ c.val ≤ 0x200a) ∨ c.val = 0x2028 ∨ c.val = 0x2029 ∨ c.val = 0x202f ∨
    c.val = 0x205f ∨ c.val = 0x3000 ∨ c.val = 0xfeff

/-- `rest` after `pre`. -/
def afterPrefix (pre : List Char) (cs : List Char) : Option (List Char) :=
  if pre.isPrefixOf cs then some (cs.drop pre.length) else none

/-- `.value` or `.previousValue`, blanks and the closing braces. -/
def afterReference (cs : List Char) : Option (List Char) :=
  let tail (field : String) := (afterPrefix field.toList cs).bind fun rest ↦
    afterPrefix "\x7d\x7d".toList (rest.dropWhile isSpaceChar)
  (tail ".value").orElse fun _ ↦ tail ".previousValue"

/-- A reference `{{ <scope>.<key>.value }}` at the head of a text: its key and what follows it. -/
def referenceAt (scope : String) (cs : List Char) : Option (String × List Char) :=
  (afterPrefix "\x7b\x7b".toList cs).bind fun rest ↦
    (afterPrefix (scope ++ ".").toList (rest.dropWhile isSpaceChar)).bind fun body ↦
      let key := body.takeWhile isKeyChar
      if key.isEmpty then none
      else (afterReference (body.dropWhile isKeyChar)).map fun rest ↦ (String.ofList key, rest)

/-- The keys of the references of one pattern in a text, from the left; `skip` characters belong to
a reference that has been found. -/
def referencesIn (scope : String) : ℕ → List Char → List String
  | _, [] => []
  | skip + 1, _ :: cs => referencesIn scope skip cs
  | 0, c :: cs =>
    match referenceAt scope (c :: cs) with
    | some (key, rest) => key :: referencesIn scope (cs.length - rest.length) cs
    | none => referencesIn scope 0 cs

/-- Add a key to a set of keys, which remembers the order they came in. -/
def addKey (keys : List String) (key : String) : List String :=
  if key ∈ keys then keys else keys ++ [key]

def addKeys (keys new : List String) : List String := new.foldl addKey keys

mutual

/-- The texts of an input, in the order they are looked at. -/
def ActionInput.texts : ActionInput → List String
  | .text s => [s]
  | .array items => textsOfAll items
  | .record values => textsOfAll values
  | .other => []

def textsOfAll : List ActionInput → List String
  | [] => []
  | input :: rest => input.texts ++ textsOfAll rest

end

/-- The tags that the inputs of the actions refer to. -/
def collectActionTagKeys (actions : List StationEventAction) : List String :=
  addKeys [] <| actions.flatMap fun action ↦ action.inputs.texts.flatMap fun s ↦
    referencesIn "tagValues" 0 s.toList ++ referencesIn "tags" 0 s.toList

/-! ## Compilation -/

mutual

/-- The tags of the conditions of a clause. -/
def StationEventTriggerClause.tagIds : StationEventTriggerClause → List String
  | .condition c => [c.tagId]
  | .group _ _ conditions => tagIdsOfAll conditions

def tagIdsOfAll : List StationEventTriggerClause → List String
  | [] => []
  | clause :: rest => clause.tagIds ++ tagIdsOfAll rest

end

structure CompiledStationEvent where
  id : String
  stationId : String
  trigger : StationEventTrigger
  actions : List StationEventAction
  conditionKeys : List String
  actionTagKeys : List String

/-- The compiled events, and the events with a condition on a tag. -/
structure CompiledStationEventSnapshot where
  compiledById : OrderedMap String CompiledStationEvent
  candidateEventIdsByKey : OrderedMap String (List String)

/-- `collectConditionKeys`, for the index: the event is a candidate of each of the keys. -/
def addCandidates (stationEventId : String) (keys : List String)
    (candidates : OrderedMap String (List String)) : OrderedMap String (List String) :=
  keys.foldl (fun index key ↦
    index.set key (addKey ((index.get? key).getD []) stationEventId)) candidates

def compileStationEvent (event : StationEventDefinition) : CompiledStationEvent where
  id := event.id
  stationId := event.stationId
  trigger := event.trigger
  actions := event.actions
  conditionKeys := addKeys [] (tagIdsOfAll event.trigger.clauses)
  actionTagKeys := collectActionTagKeys event.actions

def compileStationEvents (events : List StationEventDefinition) : CompiledStationEventSnapshot :=
  events.foldl (fun snapshot event ↦
    { compiledById := snapshot.compiledById.set event.id (compileStationEvent event)
      candidateEventIdsByKey := addCandidates event.id (tagIdsOfAll event.trigger.clauses)
        snapshot.candidateEventIdsByKey }) ⟨.empty, .empty⟩

namespace CompiledStationEventSnapshot

variable (snapshot : CompiledStationEventSnapshot)

/-- The events with a condition on one of the keys. -/
def getCandidateEventIds (keys : List String) : List String :=
  addKeys [] (keys.flatMap fun key ↦ (snapshot.candidateEventIdsByKey.get? key).getD [])

def getCompiledEvent (eventId : String) : Option CompiledStationEvent :=
  snapshot.compiledById.get? eventId

/-- The tags of all events. -/
def getAllRequiredKeys : List String :=
  addKeys [] (snapshot.compiledById.entries.flatMap fun entry ↦
    entry.2.conditionKeys ++ entry.2.actionTagKeys)

end CompiledStationEventSnapshot

end RwServer
