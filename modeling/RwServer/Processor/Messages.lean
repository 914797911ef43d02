import Mathlib.Data.Stream.Init
import RwServer.Processor.AnyTrigger
import RwServer.Processor.Dispatcher
import RwServer.Processor.Topics

/-!
# Messages and what the preprocessors make of them

A message whose payload is a JSON object becomes an event with an id of its own. Two preprocessors
may follow. The first writes the readings of the event to the snapshots of the tags and attaches the
snapshots that this gives. The second takes the array of points of an event apart: every object of
it becomes an event, with an id for its value and with the value calibrated.

What the preprocessors get from outside (the cache of snapshots, the time, new ids, answers to
queries) is their `PipelineWorld`. `points_of_split` says what an array of points becomes.
-/

namespace RwServer

/-! ## Payloads -/

/-- An object by its fields. An object or array that a field holds is known by its reference. -/
abbrev PointObject := OrderedMap String JsValue

namespace PointObject

/-- The value of a field. -/
def field (point : PointObject) (key : String) : JsValue := (point.get? key).getD .undefined

theorem field_set (point : PointObject) (key key' : String) (value : JsValue) :
    field (point.set key value) key' = if key' = key then value else field point key' := by
  rw [field, OrderedMap.get?_set]
  split_ifs <;> rfl

/-- Set a field to a number, where there is one. -/
def setNumber (point : PointObject) (key : String) : Option JsNumber → PointObject
  | some x => point.set key (.number x)
  | none => point

theorem field_setNumber (point : PointObject) (key key' : String) (x : Option JsNumber) :
    (point.setNumber key x).field key' =
      if key' = key then (x.map .number).getD (point.field key) else point.field key' := by
  rcases x with _ | x
  · split_ifs with h
    · rw [h]
      rfl
    · rfl
  · exact field_set point key key' (.number x)

end PointObject

/-- An element of an array: an object, or another value. An array among the elements is a value. -/
inductive JsonItem
  | value (v : JsValue)
  | object (fields : PointObject)

/-- What a field of a payload holds. -/
inductive PayloadField
  | item (i : JsonItem)
  | array (items : List JsonItem)

/-- The payload of an event. -/
abbrev Payload := OrderedMap String PayloadField

/-- What `JSON.parse` returns. -/
inductive JsonDocument
  | object (payload : Payload)
  | other

/-- What the processor uses of its platform. An id of a value is the next of `uuidv7`, so it is not
drawn twice. -/
structure ProcessorPlatform (ρ : Type*) where
  /-- `JSON.parse` of the text of a message; `none` where it throws. -/
  jsonParse : ρ → Option JsonDocument
  /-- `new Date(value).toISOString()`; `none` where the date is invalid. -/
  timeText : JsNumber → Option String
  mul : JsNumber → JsNumber → JsNumber
  add : JsNumber → JsNumber → JsNumber
  uuidv7 : ℕ → String
  uuidv7_injective : Function.Injective uuidv7

/-! ## Messages -/

/-- `ParsedEvent`, with the snapshots that a preprocessor has attached. -/
structure ParsedEvent (ρ : Type*) where
  id : String
  topic : String
  metadata : Option TopicMetadata
  receivedAt : ℕ
  parsedAt : ℕ
  payload : Payload
  raw : ρ
  tagSnapshots : Option (OrderedMap String TagValueSnapshot) := none

inductive ParseErrorCode
  | invalidJson | invalidPayload
deriving DecidableEq, Repr

structure ParseError where
  code : ParseErrorCode
  message : String
  topic : String
deriving DecidableEq, Repr

/-- `Number.MAX_SAFE_INTEGER`. -/
def maxSafeInteger : ℕ := 2 ^ 53 - 1

/-- The id of an event. -/
def eventIdText (topic : String) (receivedAt eventCounter : ℕ) : String :=
  topic ++ ":" ++ receivedAt.repr ++ ":" ++ eventCounter.repr

/-- `nextEventId`, with the counter behind it. -/
def nextEventId (topic : String) (receivedAt eventCounter : ℕ) : String × ℕ :=
  let eventCounter := (eventCounter + 1) % maxSafeInteger
  (eventIdText topic receivedAt eventCounter, eventCounter)

section

variable {ρ : Type*} (platform : ProcessorPlatform ρ)

/-- `parseMessage`, at the time `parsedAt`, with the counter behind it. -/
def parseMessage (topic : String) (raw : ρ) (receivedAt parsedAt eventCounter : ℕ) :
    Except ParseError (ParsedEvent ρ) × ℕ :=
  match platform.jsonParse raw with
  | none => (.error ⟨.invalidJson, "Payload is not valid JSON", topic⟩, eventCounter)
  | some .other => (.error ⟨.invalidPayload, "Payload must be a JSON object", topic⟩, eventCounter)
  | some (.object payload) =>
    let next := nextEventId topic receivedAt eventCounter
    (.ok ⟨next.1, topic, parseTopicMetadata topic, receivedAt, parsedAt, payload, raw, none⟩,
      next.2)

/-! ## Readings -/

def isPoints (metadata : Option TopicMetadata) : Bool :=
  metadata.any fun m ↦ m.resource = .points

def normalizeQuality? : JsValue → Option Quality
  | .string "GOOD" => some .good
  | .string "BAD" => some .bad
  | .string "UNKNOWN" => some .unknown
  | _ => none

/-- A text that is not empty. -/
def nonEmptyText? : JsValue → Option String
  | .string s => if s = "" then none else some s
  | _ => none

/-- `toFiniteNumber`. -/
def toFiniteNumber : JsValue → Option JsNumber
  | .number x => if x.isFinite then some x else none
  | _ => none

def normalizeTimestamp (value : JsValue) : Option String :=
  (nonEmptyText? value).or ((toFiniteNumber value).bind platform.timeText)

def toPointReading (fallbackDeviceId : Option String) : JsonItem → Option PointReading
  | .value _ => none
  | .object point =>
    (nonEmptyText? (point.field "id")).bind fun pointId ↦
      let value := (point.field "value").orElse (point.field "valueRaw")
      if value = .undefined then none
      else some {
        pointId := pointId
        deviceId := (nonEmptyText? (point.field "deviceId")).or fallbackDeviceId
        value := value
        previousValue := (point.field "previousValue").orElse (point.field "previousValueRaw")
        quality := normalizeQuality? (point.field "quality")
        timestamp := normalizeTimestamp platform (point.field "timestamp")
        gatewayTimestamp := normalizeTimestamp platform (point.field "gatewayTimestamp") }

/-- The point of the event, or else its array of points. -/
def extractPointReadings (event : ParsedEvent ρ) : List PointReading :=
  if isPoints event.metadata then
    let fallbackDeviceId := event.metadata.bind TopicMetadata.deviceId
    match event.payload.get? "point" with
    | some (.item payloadPoint) => (toPointReading platform fallbackDeviceId payloadPoint).toList
    | some (.array _) => []
    | none =>
      match event.payload.get? "points" with
      | some (.array payloadPoints) =>
        payloadPoints.filterMap (toPointReading platform fallbackDeviceId)
      | _ => []
  else []

/-- Whether the payload says that its message comes again. -/
def isReplayed (payload : Payload) : Bool :=
  match payload.get? "replayed" with
  | some (.item (.value v)) => v = .boolean true
  | _ => false

/-- What the station events are told of an event. -/
def pointEvent (event : ParsedEvent ρ) : PointEvent where
  id := event.id
  readings := extractPointReadings platform event
  replayed := isReplayed event.payload

/-! ## The preprocessors -/

/-- A row of `Point`. -/
structure PointRow where
  scaleFactor : JsNumber
  offset : JsNumber
deriving DecidableEq

/-- The answer to the query for the calibration of a point: its rows, or an error. -/
abbrev CalibrationAnswer := Except String (List (JsValue × JsValue))

/-- What the preprocessors get from outside. -/
structure PipelineWorld where
  cache : TagSnapshotCache
  /-- What `nowIso()` returns. -/
  nowIso : String
  /-- What `uuidv7()` returns next. -/
  pointValueIds : Stream' String
  /-- What the queries for calibrations answer next. -/
  calibrations : Stream' CalibrationAnswer

/-- `createPointSnapshotPreprocessor`. -/
def createPointSnapshotPreprocessor : EventPreprocessor PipelineWorld (ParsedEvent ρ) where
  name := "point-snapshot-cache"
  failureMode := none
  process event world :=
    let attached := pointSnapshotPreprocessor world.nowIso (pointEvent platform event) world.cache
    (.ok [{ event with tagSnapshots := some attached.2 }], { world with cache := attached.1 })

/-- `getPointCalibration`, of the rows that the query returns. -/
def getPointCalibration (rows : List (JsValue × JsValue)) : Option PointRow :=
  rows.head?.bind fun row ↦
    (toFiniteNumber row.1).bind fun scaleFactor ↦
      (toFiniteNumber row.2).map fun offset ↦ ⟨scaleFactor, offset⟩

def scale (raw scaleFactor offset : JsNumber) : JsNumber :=
  platform.add (platform.mul raw scaleFactor) offset

/-- The copy of a point with the id of its value and its raw values. -/
def rawPoint (pointValueId : String) (candidatePoint : PointObject) : PointObject :=
  let point : PointObject := candidatePoint.set "pointValueId" (.string pointValueId)
  let rawValue := toFiniteNumber (point.field "value")
  let point := point.setNumber "valueRaw" rawValue
  let rawPreviousValue := toFiniteNumber (point.field "previousValue")
  point.setNumber "previousValueRaw" rawPreviousValue

/-- The point whose calibration is asked for, and the value that it is for. -/
def calibrationOf? (point : PointObject) : Option (String × JsNumber) :=
  (nonEmptyText? (point.field "id")).bind fun pointId ↦
    (toFiniteNumber (point.field "value")).map fun rawValue ↦ (pointId, rawValue)

/-- The values with a calibration. -/
def calibratedPoint (rawValue : JsNumber) (calibration : PointRow) (point : PointObject) :
    PointObject :=
  let scaled (raw : JsNumber) := scale platform raw calibration.scaleFactor calibration.offset
  let rawPreviousValue := toFiniteNumber (point.field "previousValue")
  let point : PointObject := point.set "value" (.number (scaled rawValue))
  point.setNumber "previousValue" (rawPreviousValue.map scaled)

/-- The point when the answer has come. Without a calibration a strict enricher throws, and another
one leaves the values as they are. -/
def calibrate (mode : FailureMode) (pointId : String) (rawValue : JsNumber) (point : PointObject) :
    CalibrationAnswer → Except String PointObject
  | .error error => if mode = .strict then .error error else .ok point
  | .ok rows =>
    match getPointCalibration rows with
    | some calibration => .ok (calibratedPoint platform rawValue calibration point)
    | none =>
      if mode = .strict then .error ("missing point calibration for " ++ pointId) else .ok point

/-- One element of the array that is an object. -/
def enrichPoint (mode : FailureMode) (candidatePoint : PointObject) (world : PipelineWorld) :
    Except String PointObject × PipelineWorld :=
  let point := rawPoint world.pointValueIds.head candidatePoint
  let world := { world with pointValueIds := world.pointValueIds.tail }
  match calibrationOf? point with
  | none => (.ok point, world)
  | some (pointId, rawValue) =>
    (calibrate platform mode pointId rawValue point world.calibrations.head,
      { world with calibrations := world.calibrations.tail })

/-- The event of a point. -/
def derivedEvent (event : ParsedEvent ρ) (index : ℕ) (point : PointObject) : ParsedEvent ρ :=
  { event with
    id := event.id ++ ":point:" ++ index.repr
    payload := (event.payload.delete "points").set "point" (.item (.object point)) }

/-- The loop over the array, from an index on. -/
def splitPoints (mode : FailureMode) (event : ParsedEvent ρ) :
    ℕ → List JsonItem → PipelineWorld → Except String (List (ParsedEvent ρ)) × PipelineWorld
  | _, [], world => (.ok [], world)
  | index, .value _ :: points, world => splitPoints mode event (index + 1) points world
  | index, .object candidatePoint :: points, world =>
    match enrichPoint platform mode candidatePoint world with
    | (.error error, world) => (.error error, world)
    | (.ok point, world) =>
      match splitPoints mode event (index + 1) points world with
      | (.error error, world) => (.error error, world)
      | (.ok derivedEvents, world) => (.ok (derivedEvent event index point :: derivedEvents), world)

/-- The array of points of an event that is taken apart. -/
def pointsToSplit (event : ParsedEvent ρ) : Option (List JsonItem) :=
  if isPoints event.metadata then
    match event.payload.get? "points" with
    | some (.array points) => some points
    | _ => none
  else none

/-- `process` of the enricher. -/
def splitEvent (mode : FailureMode) (event : ParsedEvent ρ) (world : PipelineWorld) :
    Except String (List (ParsedEvent ρ)) × PipelineWorld :=
  match pointsToSplit event with
  | none => (.ok [event], world)
  | some points => splitPoints platform mode event 0 points world

/-- `createPointsSplitEnricher`. -/
def createPointsSplitEnricher (mode : FailureMode) :
    EventPreprocessor PipelineWorld (ParsedEvent ρ) where
  name := "points-split-enricher"
  failureMode := some mode
  process := splitEvent platform mode

/-- Which preprocessors there are. -/
structure ListenerConfig where
  stationEventsEnabled : Bool
  /-- The mode of the enricher, where it is enabled. -/
  pointsSplitEnrich : Option FailureMode
deriving DecidableEq, Repr

namespace ListenerConfig

def preprocessors (config : ListenerConfig) :
    List (EventPreprocessor PipelineWorld (ParsedEvent ρ)) :=
  (if config.stationEventsEnabled then [createPointSnapshotPreprocessor platform] else []) ++
    (config.pointsSplitEnrich.map (createPointsSplitEnricher platform)).toList

/-- What the first preprocessor makes of an event, where it is there, and the cache behind it. -/
def attach (config : ListenerConfig) (event : ParsedEvent ρ) (cache : TagSnapshotCache)
    (nowIso : String) : ParsedEvent ρ × TagSnapshotCache :=
  if config.stationEventsEnabled then
    let attached := pointSnapshotPreprocessor nowIso (pointEvent platform event) cache
    ({ event with tagSnapshots := some attached.2 }, attached.1)
  else (event, cache)

end ListenerConfig

/-! ## What an array of points becomes -/

/-- The objects of an array with their indices, from an index on. -/
def objectsFrom : ℕ → List JsonItem → List (ℕ × PointObject)
  | _, [] => []
  | index, .value _ :: points => objectsFrom (index + 1) points
  | index, .object candidatePoint :: points =>
    (index, candidatePoint) :: objectsFrom (index + 1) points

/-- The raw value that is kept beside a value: the value, where it is a finite number. -/
def rawValueOf (key rawKey : String) (candidatePoint : PointObject) : JsValue :=
  ((toFiniteNumber (candidatePoint.field key)).map .number).getD (candidatePoint.field rawKey)

/-- A value with a calibration. Only a finite number is scaled. -/
def calibratedValue (calibration : PointRow) (value : JsValue) : JsValue :=
  ((toFiniteNumber value).map fun x ↦
    .number (scale platform x calibration.scaleFactor calibration.offset)).getD value

/-- **What a point becomes**: it has got an id for its value and raw values, and its values are
calibrated. They are left as they are where there is nothing to calibrate, and also without a
calibration if the enricher is not strict. -/
structure Enriched (mode : FailureMode) (candidatePoint point : PointObject) : Prop where
  field : ∀ key ∉ ["pointValueId", "value", "valueRaw", "previousValue", "previousValueRaw"],
    point.field key = candidatePoint.field key
  valueRaw : point.field "valueRaw" = rawValueOf "value" "valueRaw" candidatePoint
  previousValueRaw : point.field "previousValueRaw" =
    rawValueOf "previousValue" "previousValueRaw" candidatePoint
  values : (∃ calibration, (calibrationOf? candidatePoint).isSome ∧
      point.field "value" = calibratedValue platform calibration (candidatePoint.field "value") ∧
      point.field "previousValue" =
        calibratedValue platform calibration (candidatePoint.field "previousValue")) ∨
    (mode = .strict → calibrationOf? candidatePoint = none) ∧
      point.field "value" = candidatePoint.field "value" ∧
      point.field "previousValue" = candidatePoint.field "previousValue"

/-- What the point of an event is. -/
def pointOf? (event : ParsedEvent ρ) : Option PointObject :=
  match event.payload.get? "point" with
  | some (.item (.object point)) => some point
  | _ => none

/-- **The event of a point**: the message without its array, and with the point in its place. -/
structure EventOfPoint (mode : FailureMode) (event : ParsedEvent ρ) (object : ℕ × PointObject)
    (e : ParsedEvent ρ) : Prop where
  message : e = { event with id := e.id, payload := e.payload }
  id : e.id = event.id ++ ":point:" ++ object.1.repr
  payload : ∀ key, key ≠ "point" →
    e.payload.get? key = if key = "points" then none else event.payload.get? key
  point : ∃ point, pointOf? e = some point ∧ Enriched platform mode object.2 point

/-- The fields of the copy of a point. -/
theorem field_rawPoint (pointValueId : String) (candidatePoint : PointObject) (key : String) :
    (rawPoint pointValueId candidatePoint).field key =
      if key = "previousValueRaw" then
        rawValueOf "previousValue" "previousValueRaw" candidatePoint
      else if key = "valueRaw" then rawValueOf "value" "valueRaw" candidatePoint
      else if key = "pointValueId" then .string pointValueId
      else candidatePoint.field key := by
  have hvalue : "value" ≠ "pointValueId" := by decide
  have hraw : "valueRaw" ≠ "pointValueId" := by decide
  have hprevious : "previousValue" ≠ "pointValueId" := by decide
  have hprevious_raw : "previousValue" ≠ "valueRaw" := by decide
  have hraw' : "previousValueRaw" ≠ "valueRaw" := by decide
  have hraw_id : "previousValueRaw" ≠ "pointValueId" := by decide
  simp only [rawPoint, PointObject.field_setNumber, PointObject.field_set, if_neg hvalue,
    if_neg hraw, if_neg hprevious, if_neg hprevious_raw, if_neg hraw', if_neg hraw_id]
  rfl

/-- The fields of a point with a calibration. -/
theorem field_calibratedPoint (rawValue : JsNumber) (calibration : PointRow) (point : PointObject)
    (key : String) : (calibratedPoint platform rawValue calibration point).field key =
      if key = "previousValue" then
        calibratedValue platform calibration (point.field "previousValue")
      else if key = "value" then
        .number (scale platform rawValue calibration.scaleFactor calibration.offset)
      else point.field key := by
  have hprevious : "previousValue" ≠ "value" := by decide
  simp only [calibratedPoint, PointObject.field_setNumber, PointObject.field_set, if_neg hprevious,
    Option.map_map]
  rfl

/-- The copy asks for the calibration that the point does. -/
theorem calibrationOf?_rawPoint (pointValueId : String) (candidatePoint : PointObject) :
    calibrationOf? (rawPoint pointValueId candidatePoint) = calibrationOf? candidatePoint := by
  have hid : (rawPoint pointValueId candidatePoint).field "id" = candidatePoint.field "id" :=
    (field_rawPoint ..).trans rfl
  have hvalue : (rawPoint pointValueId candidatePoint).field "value" =
      candidatePoint.field "value" :=
    (field_rawPoint ..).trans rfl
  rw [calibrationOf?, calibrationOf?, hid, hvalue]

/-- What is calibrated is the value of the point. -/
theorem field_value_of_calibrationOf? {point : PointObject} {pointId : String} {rawValue : JsNumber}
    (h : calibrationOf? point = some (pointId, rawValue)) :
    toFiniteNumber (point.field "value") = some rawValue := by
  obtain ⟨_, -, h⟩ := Option.bind_eq_some_iff.mp h
  obtain ⟨_, hvalue, heq⟩ := Option.map_eq_some_iff.mp h
  rw [hvalue, (Prod.mk.inj heq).2]

/-- What comes of an answer. -/
theorem calibrate_eq_ok {mode : FailureMode} {pointId : String} {rawValue : JsNumber}
    {point point' : PointObject} {answer : CalibrationAnswer}
    (h : calibrate platform mode pointId rawValue point answer = .ok point') :
    (∃ calibration, point' = calibratedPoint platform rawValue calibration point) ∨
      mode ≠ .strict ∧ point' = point := by
  have hkeeps : ∀ {error : String}, (if mode = .strict then .error error else .ok point :
      Except String PointObject) = .ok point' → mode ≠ .strict ∧ point' = point := by
    intro error h
    split_ifs at h with hmode
    exact ⟨hmode, (Except.ok.inj h).symm⟩
  rcases answer with error | rows
  · exact .inr (hkeeps h)
  · rw [calibrate] at h
    generalize getPointCalibration rows = found at h
    rcases found with _ | calibration
    · exact .inr (hkeeps h)
    · exact .inl ⟨calibration, (Except.ok.inj h).symm⟩

/-- An enricher that is not strict never throws. -/
theorem exists_calibrate_eq_ok {mode : FailureMode} (hmode : mode ≠ .strict) (pointId : String)
    (rawValue : JsNumber) (point : PointObject) (answer : CalibrationAnswer) :
    ∃ point', calibrate platform mode pointId rawValue point answer = .ok point' := by
  rcases answer with error | rows
  · exact ⟨point, if_neg hmode⟩
  · rw [calibrate]
    rcases getPointCalibration rows with _ | calibration
    · exact ⟨point, if_neg hmode⟩
    · exact ⟨_, rfl⟩

theorem enriched_rawPoint {mode : FailureMode} {candidatePoint : PointObject}
    (pointValueId : String) (h : mode = .strict → calibrationOf? candidatePoint = none) :
    Enriched platform mode candidatePoint (rawPoint pointValueId candidatePoint) where
  field key hkey := by
    simp only [List.mem_cons, List.not_mem_nil, or_false, not_or] at hkey
    rw [field_rawPoint, if_neg hkey.2.2.2.2, if_neg hkey.2.2.1, if_neg hkey.1]
  valueRaw := (field_rawPoint ..).trans rfl
  previousValueRaw := (field_rawPoint ..).trans rfl
  values := .inr ⟨h, (field_rawPoint ..).trans rfl, (field_rawPoint ..).trans rfl⟩

theorem enriched_calibratedPoint {mode : FailureMode} {candidatePoint : PointObject}
    {pointId : String} {rawValue : JsNumber} (pointValueId : String) (calibration : PointRow)
    (h : calibrationOf? candidatePoint = some (pointId, rawValue)) :
    Enriched platform mode candidatePoint
      (calibratedPoint platform rawValue calibration (rawPoint pointValueId candidatePoint)) := by
  have hvalue := field_value_of_calibrationOf? h
  have hraw : ∀ key, key ≠ "previousValue" → key ≠ "value" →
      (calibratedPoint platform rawValue calibration
        (rawPoint pointValueId candidatePoint)).field key =
          (rawPoint pointValueId candidatePoint).field key := by
    intro key hprevious hvalue
    rw [field_calibratedPoint, if_neg hprevious, if_neg hvalue]
  have hprevious : (rawPoint pointValueId candidatePoint).field "previousValue" =
      candidatePoint.field "previousValue" :=
    (field_rawPoint ..).trans rfl
  constructor
  · intro key hkey
    simp only [List.mem_cons, List.not_mem_nil, or_false, not_or] at hkey
    rw [hraw key hkey.2.2.2.1 hkey.2.1, field_rawPoint, if_neg hkey.2.2.2.2, if_neg hkey.2.2.1,
      if_neg hkey.1]
  · exact (hraw _ (by decide) (by decide)).trans ((field_rawPoint ..).trans rfl)
  · exact (hraw _ (by decide) (by decide)).trans ((field_rawPoint ..).trans rfl)
  · refine .inl ⟨calibration, by rw [h]; rfl, ?_, ?_⟩
    · rw [calibratedValue, hvalue]
      exact (field_calibratedPoint ..).trans rfl
    · rw [field_calibratedPoint, if_pos rfl, hprevious]

/-- **One object of the array.** -/
theorem enriched_of_enrichPoint {mode : FailureMode} {candidatePoint point : PointObject}
    {world : PipelineWorld} (h : (enrichPoint platform mode candidatePoint world).1 = .ok point) :
    Enriched platform mode candidatePoint point := by
  rw [enrichPoint, calibrationOf?_rawPoint] at h
  rcases hasked : calibrationOf? candidatePoint with _ | ⟨pointId, rawValue⟩
  · rw [hasked] at h
    obtain rfl := Except.ok.inj h
    exact enriched_rawPoint platform _ fun _ ↦ hasked
  · rw [hasked] at h
    rcases calibrate_eq_ok platform h with ⟨calibration, rfl⟩ | ⟨hmode, rfl⟩
    · exact enriched_calibratedPoint platform _ calibration hasked
    · exact enriched_rawPoint platform _ fun heq ↦ absurd heq hmode

variable (event : ParsedEvent ρ)

theorem pointOf?_derivedEvent (index : ℕ) (point : PointObject) :
    pointOf? (derivedEvent event index point) = some point := by
  rw [pointOf?, derivedEvent, OrderedMap.get?_set_self]

theorem eventOfPoint_derivedEvent {mode : FailureMode} {index : ℕ}
    {candidatePoint point : PointObject} (h : Enriched platform mode candidatePoint point) :
    EventOfPoint platform mode event (index, candidatePoint) (derivedEvent event index point) where
  message := rfl
  id := rfl
  payload key hkey := by
    rw [derivedEvent, OrderedMap.get?_set_of_ne _ _ hkey, OrderedMap.get?_delete]
  point := ⟨point, pointOf?_derivedEvent event index point, h⟩

/-- One object, and then the rest of the array. -/
theorem splitPoints_object (mode : FailureMode) (index : ℕ) (candidatePoint : PointObject)
    (points : List JsonItem) (world : PipelineWorld) :
    (splitPoints platform mode event index (.object candidatePoint :: points) world).1 =
      (enrichPoint platform mode candidatePoint world).1.bind fun point ↦
        (splitPoints platform mode event (index + 1) points
          (enrichPoint platform mode candidatePoint world).2).1.map
            (derivedEvent event index point :: ·) := by
  rw [splitPoints]
  rcases enrichPoint platform mode candidatePoint world with ⟨error | point, world'⟩
  · rfl
  · dsimp only [Except.bind]
    rcases splitPoints platform mode event (index + 1) points world' with ⟨_ | _, _⟩ <;> rfl

/-- **What an array of points becomes**: an event for each of its objects, in their order. -/
theorem points_of_split {mode : FailureMode} {index : ℕ} {points : List JsonItem}
    {world : PipelineWorld} {events : List (ParsedEvent ρ)}
    (h : (splitPoints platform mode event index points world).1 = .ok events) :
    List.Forall₂ (EventOfPoint platform mode event) (objectsFrom index points) events := by
  induction points generalizing index world events with
  | nil =>
    obtain rfl := Except.ok.inj h
    exact .nil
  | cons candidate points ih =>
    rcases candidate with v | candidatePoint
    · exact ih h
    · rw [splitPoints_object] at h
      rcases hpoint : (enrichPoint platform mode candidatePoint world).1 with error | point
      · rw [hpoint] at h
        cases h
      · rw [hpoint, Except.bind] at h
        rcases hrest : (splitPoints platform mode event (index + 1) points
          (enrichPoint platform mode candidatePoint world).2).1 with error | derivedEvents
        · rw [hrest] at h
          cases h
        · rw [hrest] at h
          obtain rfl := Except.ok.inj h
          refine .cons ?_ (ih hrest)
          exact eventOfPoint_derivedEvent platform event (enriched_of_enrichPoint platform hpoint)

/-! ## What is attached -/

/-- The value of the last of the readings of a point. -/
def lastValue (readings : List PointReading) (pointId : String) : Option JsValue :=
  (readings.filter fun reading ↦ reading.pointId = pointId).getLast?.map PointReading.value

/-- **What is attached** for a point is the value of the last of its readings in the event, whatever
the cache has had before. -/
theorem value_attachReading (nowIso : String) (readings : List PointReading)
    (state : TagSnapshotCache × OrderedMap String TagValueSnapshot) (pointId : String) :
    ((readings.foldl (attachReading nowIso) state).2.get? pointId).map TagValueSnapshot.value =
      (lastValue readings pointId).or ((state.2.get? pointId).map TagValueSnapshot.value) := by
  induction readings generalizing state with
  | nil => rfl
  | cons reading readings ih =>
    have hget : (state.1.upsertPointReading nowIso reading).getSnapshot reading.pointId =
        some (snapshotWithFallback nowIso (TagSnapshotCache.inputOfReading reading)
          (state.1.getSnapshot reading.pointId)) :=
      TagSnapshotCache.getSnapshot_setSnapshot_self ..
    rw [List.foldl_cons, ih, attachReading, hget, OrderedMap.get?_set, lastValue, lastValue,
      List.filter_cons]
    by_cases hpoint : reading.pointId = pointId
    · rw [if_pos hpoint.symm, if_pos (decide_eq_true hpoint), List.getLast?_cons]
      generalize (readings.filter fun reading ↦ reading.pointId = pointId).getLast? = last
      rcases last with _ | last <;> rfl
    · rw [if_neg (Ne.symm hpoint), if_neg (by simpa using hpoint)]

/-! ## The preprocessors one after the other -/

theorem processEvents_singleton {ω α : Type*} (preprocessor : EventPreprocessor ω α) (a : α)
    (world : ω) : preprocessor.processEvents [a] world = preprocessor.processEvent a world := by
  simp only [EventPreprocessor.processEvents]
  rcases preprocessor.processEvent a world with ⟨_ | processedEvents, world'⟩
  · rfl
  · dsimp only
    rw [List.append_nil]

/-- An enricher that is not strict returns. -/
theorem exists_splitPoints_eq_ok {mode : FailureMode} (hmode : mode ≠ .strict) (index : ℕ)
    (points : List JsonItem) (world : PipelineWorld) :
    ∃ events, (splitPoints platform mode event index points world).1 = .ok events := by
  induction points generalizing index world with
  | nil => exact ⟨[], rfl⟩
  | cons candidate points ih =>
    rcases candidate with v | candidatePoint
    · exact ih (index + 1) world
    · obtain ⟨point, hpoint⟩ :
          ∃ point, (enrichPoint platform mode candidatePoint world).1 = .ok point := by
        rw [enrichPoint]
        rcases calibrationOf? (rawPoint world.pointValueIds.head candidatePoint) with _ | asked
        · exact ⟨_, rfl⟩
        · exact exists_calibrate_eq_ok platform hmode ..
      obtain ⟨events, hevents⟩ :=
        ih (index + 1) (enrichPoint platform mode candidatePoint world).2
      rw [splitPoints_object, hpoint, Except.bind, hevents]
      exact ⟨_, rfl⟩

/-- The failure mode of the enricher is that of the preprocessor, so what it throws is passed on. -/
theorem processEvent_createPointsSplitEnricher (mode : FailureMode) (world : PipelineWorld) :
    ((createPointsSplitEnricher platform mode).processEvent event world).1 =
      (splitEvent platform mode event world).1 := by
  have hprocess : (createPointsSplitEnricher platform mode).process event world =
      splitEvent platform mode event world := rfl
  rw [EventPreprocessor.processEvent, hprocess]
  rcases hsplit : splitEvent platform mode event world with ⟨error | events, world'⟩
  · by_cases hmode : mode = .strict
    · exact congrArg Prod.fst (if_pos hmode)
    · -- only a strict enricher throws
      rw [splitEvent] at hsplit
      rcases hpoints : pointsToSplit event with _ | points
      · rw [hpoints] at hsplit
        cases hsplit
      · obtain ⟨events, hevents⟩ := exists_splitPoints_eq_ok platform event hmode 0 points world
        rw [hpoints] at hsplit
        rw [show splitPoints platform mode event 0 points world = _ from hsplit] at hevents
        cases hevents
  · rfl

/-- **What the preprocessors return** for an event. -/
theorem runPreprocessors_preprocessors (config : ListenerConfig) (world : PipelineWorld) :
    ∃ cache, (runPreprocessors (config.preprocessors platform) [event] world).1 =
      match config.pointsSplitEnrich with
      | none => .ok [(config.attach platform event world.cache world.nowIso).1]
      | some mode => (splitEvent platform mode
          (config.attach platform event world.cache world.nowIso).1
          { world with cache }).1 := by
  have henricher : ∀ mode e w,
      (runPreprocessors [createPointsSplitEnricher platform mode] [e] w).1 =
        (splitEvent platform mode e w).1 := by
    intro mode e w
    rw [← processEvent_createPointsSplitEnricher, runPreprocessors, processEvents_singleton]
    rcases (createPointsSplitEnricher platform mode).processEvent e w with ⟨_ | _, _⟩ <;> rfl
  rcases config with ⟨_ | _, _ | mode⟩
  · exact ⟨world.cache, rfl⟩
  · exact ⟨world.cache, henricher mode event world⟩
  · exact ⟨world.cache, rfl⟩
  · exact ⟨_, henricher mode _ _⟩

end

end RwServer
