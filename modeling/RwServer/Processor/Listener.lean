import RwServer.Foundation.NumericSuffix
import RwServer.Foundation.Run
import RwServer.Foundation.Separated
import RwServer.Processor.Messages

/-!
# Messages that come while others are taken apart

The listener parses a message as soon as it comes, and its readings go to the snapshots at once. The
enricher then asks for the calibration of one point after the other, and while it waits for an
answer other messages may come and other enrichers may go on. When the last point is done, the
events of the message are handed on together.

`messages_handed_on` says what holds in any interleaving: every message that is accepted is being
taken apart, has been handed on once or has failed; what has been handed on is what the
preprocessors return for it alone, with the ids and the answers it has got; and no two events that
have been handed on have the same id.
-/

namespace RwServer

open Transition Separated

variable {ρ : Type*}

/-! ## The listener -/

/-- A call of the enricher that waits for the calibration of a point. -/
structure Split (ρ : Type*) where
  /-- The number of the message among those accepted. -/
  message : ℕ
  event : ParsedEvent ρ
  index : ℕ
  point : PointObject
  pointId : String
  rawValue : JsNumber
  /-- The elements behind the point. -/
  points : List JsonItem
  derivedEvents : List (ParsedEvent ρ)

/-- The events of a message that the preprocessors have returned. -/
structure Batch (ρ : Type*) where
  message : ℕ
  /-- Whether the enricher has taken the message apart. -/
  split : Bool
  events : List (ParsedEvent ρ)

structure Listener (ρ : Type*) where
  eventCounter : ℕ
  cache : TagSnapshotCache
  /-- How many ids of values have been drawn. -/
  drawn : ℕ
  /-- The events of the messages that have been accepted. -/
  accepted : List (ParsedEvent ρ)
  splits : List (Split ρ)
  handed : List (Batch ρ)
  /-- The messages for which a preprocessor has thrown, with the errors. -/
  failed : List (ℕ × String)

/-- How far a call of the enricher gets without an answer. -/
inductive SplitProgress (ρ : Type*)
  | waits (split : Split ρ)
  | done (events : List (ParsedEvent ρ))

inductive ListenerStep (ρ : Type*)
  | message (topic : String) (raw : ρ) (receivedAt parsedAt : ℕ) (nowIso : String)
  /-- The query of a call of the enricher is answered. -/
  | calibration (index : ℕ) (answer : CalibrationAnswer)
  /-- A hydration writes what the station service has answered. -/
  | hydrated (nowIso : String) (snapshots : List (String × ProcessorTagSnapshot))

section

variable (platform : ProcessorPlatform ρ) (config : ListenerConfig)

/-- The loop of the enricher until it waits. -/
def goOn (message : ℕ) (event : ParsedEvent ρ) :
    ℕ → List JsonItem → List (ParsedEvent ρ) → ℕ → SplitProgress ρ × ℕ
  | _, [], derivedEvents, drawn => (.done derivedEvents, drawn)
  | index, .value _ :: points, derivedEvents, drawn =>
    goOn message event (index + 1) points derivedEvents drawn
  | index, .object candidatePoint :: points, derivedEvents, drawn =>
    let point := rawPoint (platform.uuidv7 drawn) candidatePoint
    match calibrationOf? point with
    | none =>
      goOn message event (index + 1) points (derivedEvents ++ [derivedEvent event index point])
        (drawn + 1)
    | some (pointId, rawValue) =>
      (.waits ⟨message, event, index, point, pointId, rawValue, points, derivedEvents⟩, drawn + 1)

namespace Listener

/-- No message has come. -/
def start (maxEntries : ℕ) : Listener ρ where
  eventCounter := 0
  cache := .new maxEntries
  drawn := 0
  accepted := []
  splits := []
  handed := []
  failed := []

/-- The enricher waits, or the events of its message are handed on. -/
def proceed (s : Listener ρ) (message : ℕ) : SplitProgress ρ × ℕ → Listener ρ
  | (.waits split, drawn) => { s with drawn, splits := s.splits ++ [split] }
  | (.done events, drawn) => { s with drawn, handed := s.handed ++ [⟨message, true, events⟩] }

/-- The enricher gets the event of a message, or no enricher is there. -/
def enrich (s : Listener ρ) (message : ℕ) (event : ParsedEvent ρ) : Listener ρ :=
  match config.pointsSplitEnrich.bind fun _ ↦ pointsToSplit event with
  | none => { s with handed := s.handed ++ [⟨message, false, [event]⟩] }
  | some points => s.proceed message (goOn platform message event 0 points [] s.drawn)

/-- `dispatch` of an event, up to the first answer that it waits for. -/
def dispatch (s : Listener ρ) (event : ParsedEvent ρ) (nowIso : String) : Listener ρ :=
  let attached := config.attach platform event s.cache nowIso
  enrich platform config { s with accepted := s.accepted ++ [event], cache := attached.2 }
    s.accepted.length attached.1

/-- The answer comes: the point is done, or the call throws. -/
def answered (s : Listener ρ) (mode : FailureMode) (index : ℕ) (split : Split ρ)
    (answer : CalibrationAnswer) : Listener ρ :=
  let s := { s with splits := s.splits.eraseIdx index }
  match calibrate platform mode split.pointId split.rawValue split.point answer with
  | .error error => { s with failed := s.failed ++ [(split.message, error)] }
  | .ok point =>
    s.proceed split.message (goOn platform split.message split.event (split.index + 1) split.points
      (split.derivedEvents ++ [derivedEvent split.event split.index point]) s.drawn)

def step : ListenerStep ρ → Listener ρ → Option (Listener ρ)
  | .message topic raw receivedAt parsedAt nowIso, s =>
    match parseMessage platform topic raw receivedAt parsedAt s.eventCounter with
    | (.error _, eventCounter) => some { s with eventCounter }
    | (.ok event, eventCounter) =>
      some (dispatch platform config { s with eventCounter } event nowIso)
  | .calibration index answer, s =>
    config.pointsSplitEnrich.bind fun mode ↦
      s.splits[index]?.map fun split ↦ answered platform s mode index split answer
  | .hydrated nowIso snapshots, s =>
    some { s with cache := s.cache.setResponse nowIso snapshots }

end Listener

/-! ## One call of the enricher -/

/-- The id of the value of an event's point. -/
def valueId (event : ParsedEvent ρ) : Option JsValue :=
  (pointOf? event).map (·.field "pointValueId")

namespace SplitProgress

/-- What the call returns when it goes on. -/
def rest (mode : FailureMode) :
    SplitProgress ρ → PipelineWorld → Except String (List (ParsedEvent ρ))
  | .done events, _ => .ok events
  | .waits split, world =>
    (calibrate platform mode split.pointId split.rawValue split.point world.calibrations.head).bind
      fun point ↦ (splitPoints platform mode split.event (split.index + 1) split.points
        { world with calibrations := world.calibrations.tail }).1.map
          ((split.derivedEvents ++ [derivedEvent split.event split.index point]) ++ ·)

/-- The ids of values that the call has drawn. -/
def valueIds : SplitProgress ρ → List (Option JsValue)
  | .done events => events.map valueId
  | .waits split => split.derivedEvents.map valueId ++ [some (split.point.field "pointValueId")]

end SplitProgress

/-- The ids that are drawn next. -/
def drawnIds (drawn count : ℕ) : List String := (List.range' drawn count).map platform.uuidv7

variable {platform}

theorem valueId_derivedEvent (event : ParsedEvent ρ) (index : ℕ) (point : PointObject) :
    valueId (derivedEvent event index point) = some (point.field "pointValueId") := by
  rw [valueId, pointOf?_derivedEvent, Option.map_some]

theorem drawnIds_succ (drawn count : ℕ) : drawnIds platform drawn (count + 1) =
    platform.uuidv7 drawn :: drawnIds platform (drawn + 1) count := rfl

theorem enrichPoint_of_none {mode : FailureMode} {id : String} {candidatePoint : PointObject}
    (h : calibrationOf? (rawPoint id candidatePoint) = none) (cache : TagSnapshotCache)
    (nowIso : String) (ids : Stream' String) (answers : Stream' CalibrationAnswer) :
    enrichPoint platform mode candidatePoint ⟨cache, nowIso, Stream'.cons id ids, answers⟩ =
      (.ok (rawPoint id candidatePoint), ⟨cache, nowIso, ids, answers⟩) := by
  rw [enrichPoint, Stream'.head_cons, Stream'.tail_cons, h]

theorem enrichPoint_of_some {mode : FailureMode} {id pointId : String} {rawValue : JsNumber}
    {candidatePoint : PointObject}
    (h : calibrationOf? (rawPoint id candidatePoint) = some (pointId, rawValue))
    (cache : TagSnapshotCache) (nowIso : String) (ids : Stream' String)
    (answers : Stream' CalibrationAnswer) :
    enrichPoint platform mode candidatePoint ⟨cache, nowIso, Stream'.cons id ids, answers⟩ =
      (calibrate platform mode pointId rawValue (rawPoint id candidatePoint) answers.head,
        ⟨cache, nowIso, ids, answers.tail⟩) := by
  rw [enrichPoint, Stream'.head_cons, Stream'.tail_cons, h]

/-- **How far a call gets**: it draws the next ids, and what it returns in the end is what the loop
returns with these ids in front. -/
theorem goOn_spec (mode : FailureMode) (message : ℕ) (event : ParsedEvent ρ) {index : ℕ}
    {points : List JsonItem} {derivedEvents : List (ParsedEvent ρ)} {drawn : ℕ}
    {progress : SplitProgress ρ × ℕ}
    (h : goOn platform message event index points derivedEvents drawn = progress) :
    ∃ count, progress.2 = drawn + count ∧
      progress.1.valueIds = derivedEvents.map valueId ++
        (drawnIds platform drawn count).map (fun id ↦ some (.string id)) ∧
      ∀ cache nowIso ids answers, (splitPoints platform mode event index points
          ⟨cache, nowIso, drawnIds platform drawn count ++ₛ ids, answers⟩).1.map
            (derivedEvents ++ ·) =
        progress.1.rest platform mode ⟨cache, nowIso, ids, answers⟩ := by
  induction points generalizing index derivedEvents drawn with
  | nil =>
    obtain rfl := h
    refine ⟨0, rfl, (List.append_nil _).symm, fun cache nowIso ids answers ↦ ?_⟩
    exact congrArg Except.ok (List.append_nil _)
  | cons candidate points ih =>
    rcases candidate with v | candidatePoint
    · exact ih h
    · have hid : (rawPoint (platform.uuidv7 drawn) candidatePoint).field "pointValueId" =
          .string (platform.uuidv7 drawn) :=
        (field_rawPoint ..).trans rfl
      rw [goOn] at h
      rcases hasked : calibrationOf? (rawPoint (platform.uuidv7 drawn) candidatePoint) with
        _ | ⟨pointId, rawValue⟩
      · rw [hasked] at h
        obtain ⟨count, hdrawn, hids, hrest⟩ := ih h
        refine ⟨count + 1, by omega, ?_, fun cache nowIso ids answers ↦ ?_⟩
        · rw [hids, List.map_append, drawnIds_succ, List.append_assoc, List.map_cons, List.map_nil,
            valueId_derivedEvent, hid]
          rfl
        · rw [← hrest cache, splitPoints_object, drawnIds_succ, Stream'.cons_append_stream,
            enrichPoint_of_none hasked]
          dsimp only [Except.bind]
          generalize (splitPoints platform mode event (index + 1) points _).1 = returned
          rcases returned with error | events
          · rfl
          · exact congrArg Except.ok (List.append_cons ..)
      · rw [hasked] at h
        obtain rfl := h
        refine ⟨1, rfl, ?_, fun cache nowIso ids answers ↦ ?_⟩
        · exact congrArg (fun id ↦ derivedEvents.map valueId ++ [some id]) hid
        · rw [splitPoints_object, drawnIds_succ, Stream'.cons_append_stream,
            enrichPoint_of_some hasked, SplitProgress.rest]
          dsimp only
          generalize calibrate platform mode pointId rawValue _ answers.head = point
          rcases point with error | point
          · rfl
          · dsimp only [Except.bind, drawnIds]
            rw [List.range'_zero, List.map_nil, Stream'.nil_append_stream]
            generalize (splitPoints platform mode event (index + 1) points _).1 = returned
            rcases returned with error | events
            · rfl
            · exact congrArg Except.ok (List.append_cons ..)

/-- A call that waits is that of its message, and less of the array is left. -/
theorem goOn_waits {message : ℕ} {event : ParsedEvent ρ} {index : ℕ} {points : List JsonItem}
    {derivedEvents : List (ParsedEvent ρ)} {drawn drawn' : ℕ} {split : Split ρ}
    (h : goOn platform message event index points derivedEvents drawn = (.waits split, drawn')) :
    split.message = message ∧ split.points.length < points.length := by
  induction points generalizing index derivedEvents drawn with
  | nil => cases h
  | cons candidate points ih =>
    rcases candidate with v | candidatePoint
    · exact (ih h).imp_right Nat.lt_succ_of_lt
    · rw [goOn] at h
      rcases hasked : calibrationOf? (rawPoint (platform.uuidv7 drawn) candidatePoint) with
        _ | ⟨pointId, rawValue⟩
      · rw [hasked] at h
        exact (ih h).imp_right Nat.lt_succ_of_lt
      · rw [hasked] at h
        obtain rfl := SplitProgress.waits.inj (Prod.mk.inj h).1
        exact ⟨rfl, Nat.lt_succ_self _⟩

/-! ## What the preprocessors return -/

variable (platform)

/-- The preprocessors return this for the event, in some world. -/
def Returns (event : ParsedEvent ρ) (result : Except String (List (ParsedEvent ρ))) : Prop :=
  ∃ world, (runPreprocessors (config.preprocessors platform) [event] world).1 = result

/-- With the ids and the answers that a call has got, the preprocessors return for the event what
the call returns when it goes on. -/
def Reaches (event : ParsedEvent ρ) (progress : SplitProgress ρ) : Prop :=
  ∃ mode ∈ config.pointsSplitEnrich, ∃ cache nowIso used given, ∀ ids answers, ∃ cache',
    (runPreprocessors (config.preprocessors platform) [event]
      ⟨cache, nowIso, used ++ₛ ids, given ++ₛ answers⟩).1 =
        progress.rest platform mode ⟨cache', nowIso, ids, answers⟩

variable {platform config} {event : ParsedEvent ρ}

/-- A call that is done has returned. -/
theorem Reaches.returns {events : List (ParsedEvent ρ)}
    (h : Reaches platform config event (.done events)) :
    Returns platform config event (.ok events) := by
  obtain ⟨_, -, cache, nowIso, used, given, h⟩ := h
  obtain ⟨_, h⟩ := h (Stream'.const "") (Stream'.const (.ok []))
  exact ⟨_, h⟩

/-- A call that is begun. -/
theorem reaches_goOn {mode : FailureMode} {message : ℕ} {cache : TagSnapshotCache}
    {nowIso : String} {points : List JsonItem} {drawn : ℕ} {progress : SplitProgress ρ × ℕ}
    (hmode : mode ∈ config.pointsSplitEnrich)
    (hpoints : pointsToSplit (config.attach platform event cache nowIso).1 = some points)
    (h : goOn platform message (config.attach platform event cache nowIso).1 0 points [] drawn =
      progress) : Reaches platform config event progress.1 := by
  obtain ⟨count, -, -, hrest⟩ := goOn_spec mode message _ h
  refine ⟨mode, hmode, cache, nowIso, drawnIds platform drawn count, [], fun ids answers ↦ ?_⟩
  obtain ⟨cache', hreturn⟩ := runPreprocessors_preprocessors platform event config
    ⟨cache, nowIso, drawnIds platform drawn count ++ₛ ids, answers⟩
  refine ⟨cache', hreturn.trans ?_⟩
  rw [Option.mem_def.mp hmode, ← hrest]
  dsimp only [splitEvent]
  rw [hpoints]
  generalize (splitPoints platform mode _ 0 points _).1 = returned
  rcases returned with error | events <;> rfl

/-- Without anything to take apart the event is returned with its snapshots. -/
theorem returns_attach {cache : TagSnapshotCache} {nowIso : String}
    (h : (config.pointsSplitEnrich.bind fun _ ↦
      pointsToSplit (config.attach platform event cache nowIso).1) = none) :
    Returns platform config event (.ok [(config.attach platform event cache nowIso).1]) := by
  obtain ⟨cache', hreturn⟩ := runPreprocessors_preprocessors platform event config
    ⟨cache, nowIso, Stream'.const "", Stream'.const (.ok [])⟩
  refine ⟨_, hreturn.trans ?_⟩
  rcases hmode : config.pointsSplitEnrich with _ | mode
  · rfl
  · rw [hmode, Option.bind_some] at h
    dsimp only [splitEvent]
    rw [h]

/-- The answer to a call. -/
theorem Reaches.answered {mode : FailureMode} {split : Split ρ}
    (h : Reaches platform config event (.waits split)) (hmode : mode ∈ config.pointsSplitEnrich)
    (answer : CalibrationAnswer) :
    (∀ {error : String}, calibrate platform mode split.pointId split.rawValue split.point answer =
      .error error → Returns platform config event (.error error)) ∧
    ∀ {point : PointObject} {drawn : ℕ} {progress : SplitProgress ρ × ℕ},
      calibrate platform mode split.pointId split.rawValue split.point answer = .ok point →
      goOn platform split.message split.event (split.index + 1) split.points
        (split.derivedEvents ++ [derivedEvent split.event split.index point]) drawn = progress →
      Reaches platform config event progress.1 := by
  obtain ⟨mode', hmode', cache, nowIso, used, given, h⟩ := h
  obtain rfl : mode' = mode := Option.mem_unique hmode' hmode
  constructor
  · intro error herror
    obtain ⟨cache', h⟩ :=
      h (Stream'.const "") (Stream'.cons answer (Stream'.const (.ok [])))
    refine ⟨_, h.trans ?_⟩
    rw [SplitProgress.rest, Stream'.head_cons, herror]
    rfl
  · intro point drawn progress hpoint hgoes
    obtain ⟨count, -, -, hrest⟩ := goOn_spec mode' _ _ hgoes
    refine ⟨mode', hmode, cache, nowIso, used ++ drawnIds platform drawn count, given ++ [answer],
      fun ids answers ↦ ?_⟩
    obtain ⟨cache', h⟩ :=
      h (drawnIds platform drawn count ++ₛ ids) (Stream'.cons answer answers)
    refine ⟨cache', ?_⟩
    rw [Stream'.append_append_stream, Stream'.append_append_stream]
    refine h.trans ?_
    rw [SplitProgress.rest, Stream'.head_cons, hpoint, Stream'.tail_cons]
    exact hrest cache' nowIso ids answers

/-! ## What a message becomes -/

variable (platform config)

/-- The event with the snapshots of its readings, if the first preprocessor is there. -/
structure Attached (event e : ParsedEvent ρ) : Prop where
  message : e = { event with tagSnapshots := e.tagSnapshots }
  snapshots : if config.stationEventsEnabled then
      ∃ tagSnapshots, e.tagSnapshots = some tagSnapshots ∧ ∀ pointId,
        (tagSnapshots.get? pointId).map TagValueSnapshot.value =
          lastValue (extractPointReadings platform event) pointId
    else e.tagSnapshots = event.tagSnapshots

/-- **What a message becomes**: one event, or one event for each object of its array of points. -/
inductive Becomes (event : ParsedEvent ρ) : Bool → List (ParsedEvent ρ) → Prop
  | whole {e : ParsedEvent ρ} (attached : Attached platform config event e)
      (points : (config.pointsSplitEnrich.bind fun _ ↦ pointsToSplit event) = none) :
      Becomes event false [e]
  | split {e : ParsedEvent ρ} {mode : FailureMode} {points : List JsonItem}
      {events : List (ParsedEvent ρ)} (attached : Attached platform config event e)
      (mode_mem : mode ∈ config.pointsSplitEnrich) (points_mem : points ∈ pointsToSplit event)
      (events_of_points :
        List.Forall₂ (EventOfPoint platform mode e) (objectsFrom 0 points) events) :
      Becomes event true events

variable {platform config}

theorem attached_attach (event : ParsedEvent ρ) (cache : TagSnapshotCache)
    (nowIso : String) :
    Attached platform config event (config.attach platform event cache nowIso).1 := by
  rw [ListenerConfig.attach]
  constructor
  · split_ifs <;> rfl
  · split_ifs
    · refine ⟨_, rfl, fun pointId ↦ (value_attachReading nowIso _ _ pointId).trans ?_⟩
      exact Option.or_none
    · rfl

/-- The snapshots do not matter for what is taken apart. -/
theorem pointsToSplit_attach (event : ParsedEvent ρ) (cache : TagSnapshotCache)
    (nowIso : String) :
    pointsToSplit (config.attach platform event cache nowIso).1 = pointsToSplit event := by
  rw [ListenerConfig.attach]
  split_ifs <;> rfl

theorem Returns.becomes {events : List (ParsedEvent ρ)}
    (h : Returns platform config event (.ok events)) : Becomes platform config event
      (config.pointsSplitEnrich.bind fun _ ↦ pointsToSplit event).isSome events := by
  obtain ⟨world, h⟩ := h
  obtain ⟨cache, hreturn⟩ := runPreprocessors_preprocessors platform event config world
  have hattached : Attached platform config event
      (config.attach platform event world.cache world.nowIso).1 := attached_attach ..
  rw [hreturn] at h
  rcases hmode : config.pointsSplitEnrich with _ | mode
  · rw [hmode] at h
    obtain rfl := Except.ok.inj h
    exact .whole hattached (by rw [hmode]; rfl)
  · rw [hmode] at h
    dsimp only [splitEvent] at h
    rw [pointsToSplit_attach] at h
    rcases hpoints : pointsToSplit event with _ | points
    · rw [hpoints] at h
      obtain rfl := Except.ok.inj h
      refine .whole hattached ?_
      rw [hmode]
      exact hpoints
    · rw [hpoints] at h
      exact .split hattached hmode hpoints (points_of_split platform _ h)

/-! ## The ids of values -/

variable (platform) in
/-- These ids have been drawn, each of them once. -/
structure Drawn (drawn : ℕ) (ids : List (Option JsValue)) : Prop where
  nodup : ids.Nodup
  lt : ∀ id ∈ ids, ∃ n < drawn, id = some (.string (platform.uuidv7 n))

namespace Drawn

variable {drawn : ℕ} {ids ids' : List (Option JsValue)}

theorem perm (h : Drawn platform drawn ids) (hperm : ids.Perm ids') : Drawn platform drawn ids' :=
  ⟨hperm.nodup_iff.mp h.nodup, fun id hid ↦ h.lt id (hperm.mem_iff.mpr hid)⟩

theorem sublist (h : Drawn platform drawn ids) (hsub : ids'.Sublist ids) :
    Drawn platform drawn ids' :=
  ⟨h.nodup.sublist hsub, fun id hid ↦ h.lt id (hsub.subset hid)⟩

/-- Those that are drawn next are new. -/
theorem append_drawnIds (h : Drawn platform drawn ids) (count : ℕ) :
    Drawn platform (drawn + count)
      (ids ++ (drawnIds platform drawn count).map (fun id ↦ some (.string id))) := by
  have hnew : ∀ {id}, id ∈ (drawnIds platform drawn count).map (some <| JsValue.string ·) →
      ∃ n, drawn ≤ n ∧ n < drawn + count ∧ id = some (.string (platform.uuidv7 n)) := by
    intro id hid
    obtain ⟨text, htext, rfl⟩ := List.mem_map.mp hid
    obtain ⟨n, hn, rfl⟩ := List.mem_map.mp htext
    obtain ⟨hle, hlt⟩ := List.mem_range'_1.mp hn
    exact ⟨n, hle, hlt, rfl⟩
  have hinj : ∀ {m n}, some (JsValue.string (platform.uuidv7 m)) =
      some (JsValue.string (platform.uuidv7 n)) → m = n := fun heq ↦
    platform.uuidv7_injective (JsValue.string.inj (Option.some.inj heq))
  constructor
  · refine List.nodup_append.mpr ⟨h.nodup, ?_, ?_⟩
    · rw [drawnIds, List.map_map]
      exact List.Nodup.map (fun _ _ heq ↦ hinj heq) List.nodup_range'
    · rintro id hid id' hid' rfl
      obtain ⟨m, hm, hid⟩ := h.lt id hid
      obtain ⟨n, hn, -, hid'⟩ := hnew hid'
      obtain rfl := hinj (hid.symm.trans hid')
      omega
  · intro id hid
    rcases List.mem_append.mp hid with hid | hid
    · obtain ⟨n, hn, hid⟩ := h.lt id hid
      exact ⟨n, by omega, hid⟩
    · obtain ⟨n, -, hn, hid⟩ := hnew hid
      exact ⟨n, hn, hid⟩

end Drawn

/-! ## Every message is somewhere -/

namespace Listener

/-- The ids of the values of points that have been taken apart. -/
def valueIds (s : Listener ρ) : List (Option JsValue) :=
  (s.handed.filter Batch.split).flatMap (fun batch ↦ batch.events.map valueId) ++
    s.splits.flatMap fun split ↦ (SplitProgress.waits split).valueIds

/-- The messages that have got somewhere, by their numbers. -/
def messages (s : Listener ρ) : Multiset ℕ :=
  s.splits.map Split.message + s.handed.map Batch.message + s.failed.map Prod.fst

variable (platform config) in
/-- What holds while a call of the enricher that has drawn the ids `held` is going on for the
messages `missing`. -/
structure SoundBut (missing : Multiset ℕ) (held : List (Option JsValue)) (s : Listener ρ) :
    Prop where
  counter : s.eventCounter = s.accepted.length % maxSafeInteger
  ids : ∀ k event, s.accepted[k]? = some event → event.id =
    eventIdText event.topic event.receivedAt ((k + 1) % maxSafeInteger)
  metadata : ∀ event ∈ s.accepted, event.metadata = parseTopicMetadata event.topic
  messages : missing + s.messages = Multiset.range s.accepted.length
  waits : ∀ split ∈ s.splits, ∃ event, s.accepted[split.message]? = some event ∧
    Reaches platform config event (.waits split) ∧ (pointsToSplit event).isSome
  handed : ∀ batch ∈ s.handed, ∃ event, s.accepted[batch.message]? = some event ∧
    Returns platform config event (.ok batch.events) ∧
    batch.split = (config.pointsSplitEnrich.bind fun _ ↦ pointsToSplit event).isSome
  failed : ∀ failure ∈ s.failed, ∃ event, s.accepted[failure.1]? = some event ∧
    Returns platform config event (.error failure.2)
  strict : s.failed ≠ [] → config.pointsSplitEnrich = some .strict
  drawn : Drawn platform s.drawn (held ++ s.valueIds)

variable {s : Listener ρ} {held : List (Option JsValue)} {message : ℕ}

/-- A call goes on until it waits or is done. -/
theorem SoundBut.proceed {e : ParsedEvent ρ} {mode : FailureMode} {index : ℕ}
    {points : List JsonItem} {derivedEvents : List (ParsedEvent ρ)}
    {progress : SplitProgress ρ × ℕ} (h : SoundBut platform config {message} held s)
    (hevent : s.accepted[message]? = some event) (hmode : config.pointsSplitEnrich = some mode)
    (hsplit : (pointsToSplit event).isSome)
    (hgoes : goOn platform message e index points derivedEvents s.drawn = progress)
    (hheld : derivedEvents.map valueId = held)
    (hreaches : Reaches platform config event progress.1) :
    SoundBut platform config 0 [] (s.proceed message progress) := by
  obtain ⟨count, hdrawn, hids, -⟩ := goOn_spec mode message e hgoes
  have hnew : Drawn platform progress.2 (s.valueIds ++ progress.1.valueIds) := by
    rw [hdrawn, hids, hheld, ← List.append_assoc]
    exact (h.drawn.perm List.perm_append_comm).append_drawnIds count
  rcases progress with ⟨split | events, drawn⟩
  · obtain ⟨rfl, -⟩ := goOn_waits hgoes
    refine ⟨h.counter, h.ids, h.metadata, ?_, ?_, h.handed, h.failed, h.strict, ?_⟩
    · refine Eq.trans ?_ h.messages
      simp only [Listener.proceed, Listener.messages, List.map_append, List.map_cons, List.map_nil,
        ← Multiset.coe_add, Multiset.coe_singleton]
      abel
    · intro split' hmem
      rcases List.mem_append.mp hmem with hmem | hmem
      · exact h.waits split' hmem
      · obtain rfl := List.mem_singleton.mp hmem
        exact ⟨event, hevent, hreaches, hsplit⟩
    · refine hnew.perm (List.Perm.of_eq ?_)
      simp only [valueIds, Listener.proceed, List.flatMap_append, List.flatMap_singleton,
        List.append_assoc, List.nil_append]
  · refine ⟨h.counter, h.ids, h.metadata, ?_, h.waits, ?_, h.failed, h.strict, ?_⟩
    · refine Eq.trans ?_ h.messages
      simp only [Listener.proceed, Listener.messages, List.map_append, List.map_cons, List.map_nil,
        ← Multiset.coe_add, Multiset.coe_singleton]
      abel
    · intro batch hmem
      rcases List.mem_append.mp hmem with hmem | hmem
      · exact h.handed batch hmem
      · obtain rfl := List.mem_singleton.mp hmem
        refine ⟨event, hevent, hreaches.returns, ?_⟩
        rw [hmode]
        exact hsplit.symm
    · have hbatch : ([⟨message, true, events⟩].filter Batch.split).flatMap
          (fun batch : Batch ρ ↦ batch.events.map valueId) = events.map valueId :=
        List.flatMap_singleton ..
      refine hnew.perm ?_
      simp only [valueIds, Listener.proceed, List.filter_append, List.flatMap_append,
        List.append_assoc, List.nil_append, hbatch]
      exact List.Perm.append_left _ List.perm_append_comm

/-- An event comes. -/
theorem SoundBut.enrich {cache : TagSnapshotCache} {nowIso : String}
    (h : SoundBut platform config {message} [] s) (hevent : s.accepted[message]? = some event) :
    SoundBut platform config 0 []
      (s.enrich platform config message (config.attach platform event cache nowIso).1) := by
  rw [Listener.enrich, pointsToSplit_attach]
  rcases hsplit : config.pointsSplitEnrich.bind fun _ ↦ pointsToSplit event with _ | points
  · refine ⟨h.counter, h.ids, h.metadata, ?_, h.waits, ?_, h.failed, h.strict, ?_⟩
    · refine Eq.trans ?_ h.messages
      simp only [Listener.messages, List.map_append, List.map_cons, List.map_nil,
        ← Multiset.coe_add, Multiset.coe_singleton]
      abel
    · intro batch hmem
      rcases List.mem_append.mp hmem with hmem | hmem
      · exact h.handed batch hmem
      · obtain rfl := List.mem_singleton.mp hmem
        refine ⟨event, hevent, returns_attach ?_, ?_⟩
        · rw [pointsToSplit_attach]
          exact hsplit
        · rw [hsplit]
          rfl
    · have hids : ∀ b : Batch ρ, b.split = false → ({ s with handed := s.handed ++ [b] } :
          Listener ρ).valueIds = s.valueIds := by
        intro b hb
        simp only [valueIds, List.filter_append]
        rw [List.filter_singleton, hb]
        simp
      rw [hids _ rfl]
      exact h.drawn
  · obtain ⟨mode, hmode, hpoints⟩ := Option.bind_eq_some_iff.mp hsplit
    refine h.proceed hevent hmode (Option.isSome_iff_exists.mpr ⟨points, hpoints⟩) rfl rfl ?_
    exact reaches_goOn hmode ((pointsToSplit_attach event cache nowIso).trans hpoints) rfl

/-- A message is accepted. -/
theorem SoundBut.accept (h : SoundBut platform config 0 [] s) {topic : String} {raw : ρ}
    {receivedAt parsedAt eventCounter : ℕ} (cache : TagSnapshotCache)
    (hparse : parseMessage platform topic raw receivedAt parsedAt s.eventCounter =
      (.ok event, eventCounter)) :
    SoundBut platform config {s.accepted.length} []
      { s with eventCounter, accepted := s.accepted ++ [event], cache } := by
  obtain ⟨hcounter, hmetadata⟩ : (eventCounter = (s.accepted.length + 1) % maxSafeInteger ∧
      event.id = eventIdText event.topic event.receivedAt eventCounter) ∧
      event.metadata = parseTopicMetadata event.topic := by
    rw [parseMessage] at hparse
    generalize platform.jsonParse raw = document at hparse
    rcases document with _ | payload | _
    · cases hparse
    · obtain ⟨hevent, rfl⟩ := Prod.mk.inj hparse
      obtain rfl := Except.ok.inj hevent
      refine ⟨⟨?_, rfl⟩, rfl⟩
      rw [nextEventId, h.counter, Nat.mod_add_mod]
    · cases hparse
  have hold : ∀ {k : ℕ} {e : ParsedEvent ρ}, s.accepted[k]? = some e →
      (s.accepted ++ [event])[k]? = some e := fun hk ↦
    (List.getElem?_append_left (List.getElem?_eq_some_iff.mp hk).1).trans hk
  have hlength : (s.accepted ++ [event]).length = s.accepted.length + 1 := List.length_append
  constructor
  · exact hcounter.1.trans (congrArg (· % maxSafeInteger) hlength.symm)
  · intro k e hk
    rcases Nat.lt_or_ge k s.accepted.length with hlt | hge
    · exact h.ids k e ((List.getElem?_append_left hlt).symm.trans hk)
    · rw [List.getElem?_append_right hge, List.getElem?_singleton] at hk
      split_ifs at hk with hzero
      obtain rfl := Option.some.inj hk
      obtain rfl : k = s.accepted.length := by omega
      rw [← hcounter.1]
      exact hcounter.2
  · intro e hmem
    rcases List.mem_append.mp hmem with hmem | hmem
    · exact h.metadata e hmem
    · exact List.mem_singleton.mp hmem ▸ hmetadata
  · refine Eq.trans ?_ (congrArg Multiset.range hlength).symm
    rw [Multiset.range_succ, ← h.messages, zero_add]
    exact Multiset.singleton_add _ _
  · intro split hmem
    obtain ⟨e, he, hrest⟩ := h.waits split hmem
    exact ⟨e, hold he, hrest⟩
  · intro batch hmem
    obtain ⟨e, he, hrest⟩ := h.handed batch hmem
    exact ⟨e, hold he, hrest⟩
  · intro failure hmem
    obtain ⟨e, he, hrest⟩ := h.failed failure hmem
    exact ⟨e, hold he, hrest⟩
  · exact h.strict
  · exact h.drawn

/-- **A message comes.** -/
theorem SoundBut.dispatch (h : SoundBut platform config 0 [] s) {topic : String} {raw : ρ}
    {receivedAt parsedAt eventCounter : ℕ} (nowIso : String)
    (hparse : parseMessage platform topic raw receivedAt parsedAt s.eventCounter =
      (.ok event, eventCounter)) :
    SoundBut platform config 0 []
      (Listener.dispatch platform config { s with eventCounter } event nowIso) :=
  (h.accept _ hparse).enrich List.getElem?_concat_length

/-- **An answer comes.** -/
theorem SoundBut.answered (h : SoundBut platform config 0 [] s) {mode : FailureMode} {index : ℕ}
    {split : Split ρ} (hmode : config.pointsSplitEnrich = some mode)
    (hsplit : s.splits[index]? = some split) (answer : CalibrationAnswer) :
    SoundBut platform config 0 [] (s.answered platform mode index split answer) := by
  obtain ⟨hlt, hget⟩ := List.getElem?_eq_some_iff.mp hsplit
  have hperm : (split :: s.splits.eraseIdx index).Perm s.splits :=
    hget ▸ List.getElem_cons_eraseIdx_perm hlt
  have hmem : split ∈ s.splits := hget ▸ List.getElem_mem hlt
  obtain ⟨event, hevent, hreaches, hpoints⟩ := h.waits split hmem
  have hless : SoundBut platform config {split.message} (SplitProgress.waits split).valueIds
      { s with splits := s.splits.eraseIdx index } := by
    refine ⟨h.counter, h.ids, h.metadata, ?_, fun split' hmem' ↦ ?_, h.handed, h.failed, h.strict,
      ?_⟩
    · have hcoe : ({split.message} : Multiset ℕ) + (s.splits.eraseIdx index).map Split.message =
          s.splits.map Split.message := by
        rw [Multiset.singleton_add, Multiset.cons_coe]
        exact Multiset.coe_eq_coe.mpr (hperm.map Split.message)
      refine Eq.trans ?_ h.messages
      simp only [Listener.messages]
      rw [← hcoe]
      abel
    · exact h.waits split' (hperm.subset (List.mem_cons_of_mem _ hmem'))
    · refine h.drawn.perm ?_
      refine (((hperm.flatMap_right _).symm.append_left _).trans ?_ : List.Perm s.valueIds _)
      rw [List.flatMap_cons]
      exact List.perm_append_comm_assoc ..
  rw [Listener.answered]
  rcases hpoint : calibrate platform mode split.pointId split.rawValue split.point answer with
    error | point
  · refine ⟨h.counter, h.ids, h.metadata, ?_, hless.waits, h.handed, ?_, fun _ ↦ ?_, ?_⟩
    · refine Eq.trans ?_ hless.messages
      simp only [Listener.messages, List.map_append, List.map_cons, List.map_nil,
        ← Multiset.coe_add, Multiset.coe_singleton]
      abel
    · intro failure hfailure
      rcases List.mem_append.mp hfailure with hfailure | hfailure
      · exact h.failed failure hfailure
      · obtain rfl := List.mem_singleton.mp hfailure
        exact ⟨event, hevent, (hreaches.answered hmode answer).1 hpoint⟩
    · by_contra hstrict
      have hne : mode ≠ .strict := fun heq ↦ hstrict (heq ▸ hmode)
      obtain ⟨point, hok⟩ :=
        exists_calibrate_eq_ok platform hne split.pointId split.rawValue split.point answer
      cases hok.symm.trans hpoint
    · exact hless.drawn.sublist (List.sublist_append_right ..)
  · have hid : point.field "pointValueId" = split.point.field "pointValueId" := by
      rcases calibrate_eq_ok platform hpoint with ⟨calibration, rfl⟩ | ⟨-, rfl⟩
      · exact (field_calibratedPoint ..).trans rfl
      · rfl
    refine hless.proceed hevent hmode hpoints rfl ?_ ((hreaches.answered hmode answer).2 hpoint rfl)
    rw [List.map_append, List.map_singleton, valueId_derivedEvent, hid]
    rfl

theorem soundBut_start (maxEntries : ℕ) :
    SoundBut platform config 0 [] (start maxEntries : Listener ρ) where
  counter := rfl
  ids _ _ h := by cases h
  metadata _ h := by cases h
  messages := rfl
  waits _ h := by cases h
  handed _ h := by cases h
  failed _ h := by cases h
  strict h := absurd rfl h
  drawn := ⟨List.nodup_nil, fun _ h ↦ by cases h⟩

/-- **One step.** -/
theorem SoundBut.step {s' : Listener ρ} {a : ListenerStep ρ} (h : SoundBut platform config 0 [] s)
    (hstep : Listener.step platform config a s = some s') : SoundBut platform config 0 [] s' := by
  rcases a with ⟨topic, raw, receivedAt, parsedAt, nowIso⟩ | ⟨index, answer⟩ | ⟨nowIso, snapshots⟩
  · rw [Listener.step] at hstep
    rcases hparse : parseMessage platform topic raw receivedAt parsedAt s.eventCounter with
      ⟨error | event, eventCounter⟩
    · rw [hparse] at hstep
      obtain rfl := Option.some.inj hstep
      have hcounter : eventCounter = s.eventCounter := by
        rw [parseMessage] at hparse
        generalize platform.jsonParse raw = document at hparse
        rcases document with _ | payload | _
        · exact (Prod.mk.inj hparse).2.symm
        · cases (Prod.mk.inj hparse).1
        · exact (Prod.mk.inj hparse).2.symm
      subst hcounter
      exact h
    · rw [hparse] at hstep
      obtain rfl := Option.some.inj hstep
      exact h.dispatch nowIso hparse
  · obtain ⟨mode, hmode, hstep⟩ := Option.bind_eq_some_iff.mp hstep
    obtain ⟨split, hsplit, rfl⟩ := Option.map_eq_some_iff.mp hstep
    exact h.answered hmode hsplit answer
  · obtain rfl := Option.some.inj hstep
    exact ⟨h.counter, h.ids, h.metadata, h.messages, h.waits, h.handed, h.failed, h.strict, h.drawn⟩

end Listener

/-! ## No two events have the same id -/

/-- What stands behind the id of a message in the id of an event. -/
def pointSuffix : Option ℕ → String
  | none => ""
  | some index => ":point:" ++ index.repr

theorem toList_eventIdText (topic : String) (receivedAt counter : ℕ) :
    (eventIdText topic receivedAt counter).toList =
      (topic.toList ++ ':' :: receivedAt.repr.toList) ++ ':' :: counter.repr.toList := by
  simp [eventIdText]

theorem toList_pointSuffix_some (index : ℕ) :
    (pointSuffix (some index)).toList = ':' :: "point".toList ++ ':' :: index.repr.toList := by
  simp [pointSuffix]

theorem eventIdText_inj {topic topic' : String} {receivedAt receivedAt' counter counter' : ℕ}
    (h : eventIdText topic receivedAt counter = eventIdText topic' receivedAt' counter') :
    counter = counter' := by
  have hcolon : ∀ n : ℕ, ':' ∉ n.repr.toList := not_mem_repr_of_not_isDigit (by decide)
  have hchars := congrArg String.toList h
  rw [toList_eventIdText, toList_eventIdText] at hchars
  have hcounter := (append_cons_inj (hcolon counter) (hcolon counter') hchars).2
  exact Nat.repr_injective (String.toList_inj.mp hcounter)

/-- The id of a point is none of a message. -/
theorem eventIdText_ne {topic id : String} {receivedAt counter index : ℕ} :
    eventIdText topic receivedAt counter ≠ id ++ pointSuffix (some index) := by
  have hcolon : ∀ n : ℕ, ':' ∉ n.repr.toList := not_mem_repr_of_not_isDigit (by decide)
  intro h
  have hchars := congrArg String.toList h
  rw [toList_eventIdText, String.toList_append, toList_pointSuffix_some, ← List.append_assoc]
    at hchars
  obtain ⟨hfront, -⟩ := append_cons_inj (hcolon counter) (hcolon index) hchars
  obtain ⟨-, htime⟩ := append_cons_inj (hcolon receivedAt) (by decide) hfront
  -- a time has only digits
  have hletter : 'p' ∉ receivedAt.repr.toList := not_mem_repr_of_not_isDigit (by decide) receivedAt
  exact hletter (htime ▸ by decide)

theorem append_pointSuffix_inj {id id' : String} {index index' : ℕ}
    (h : id ++ pointSuffix (some index) = id' ++ pointSuffix (some index')) :
    id = id' ∧ index = index' := by
  have hcolon : ∀ n : ℕ, ':' ∉ n.repr.toList := not_mem_repr_of_not_isDigit (by decide)
  have hchars := congrArg String.toList h
  rw [String.toList_append, String.toList_append, toList_pointSuffix_some, toList_pointSuffix_some,
    ← List.append_assoc, ← List.append_assoc] at hchars
  obtain ⟨hfront, hindex⟩ := append_cons_inj (hcolon index) (hcolon index') hchars
  obtain ⟨hid, -⟩ := append_cons_inj (by decide) (by decide) hfront
  exact ⟨String.toList_inj.mp hid, Nat.repr_injective (String.toList_inj.mp hindex)⟩

/-- **The ids of messages and of their points can be told apart.** -/
theorem eventId_inj {topic topic' : String} {receivedAt receivedAt' counter counter' : ℕ}
    {point point' : Option ℕ}
    (h : eventIdText topic receivedAt counter ++ pointSuffix point =
      eventIdText topic' receivedAt' counter' ++ pointSuffix point') :
    counter = counter' ∧ point = point' := by
  rcases point with _ | index
  · rw [show eventIdText topic receivedAt counter ++ pointSuffix none = _ from
      String.append_empty] at h
    rcases point' with _ | index'
    · rw [show eventIdText topic' receivedAt' counter' ++ pointSuffix none = _ from
        String.append_empty] at h
      exact ⟨eventIdText_inj h, rfl⟩
    · exact absurd h eventIdText_ne
  · rcases point' with _ | index'
    · rw [show eventIdText topic' receivedAt' counter' ++ pointSuffix none = _ from
        String.append_empty] at h
      exact absurd h.symm eventIdText_ne
    · obtain ⟨hid, rfl⟩ := append_pointSuffix_inj h
      exact ⟨eventIdText_inj hid, rfl⟩

theorem le_of_mem_objectsFrom {index : ℕ} {points : List JsonItem} {object : ℕ × PointObject}
    (h : object ∈ objectsFrom index points) : index ≤ object.1 := by
  induction points generalizing index with
  | nil => cases h
  | cons candidate points ih =>
    rcases candidate with v | candidatePoint
    · exact Nat.le_of_succ_le (ih h)
    · rcases List.mem_cons.mp h with rfl | h
      · exact le_refl _
      · exact Nat.le_of_succ_le (ih h)

/-- No two objects have the same index. -/
theorem nodup_objectsFrom (index : ℕ) (points : List JsonItem) :
    ((objectsFrom index points).map Prod.fst).Nodup := by
  induction points generalizing index with
  | nil => exact List.nodup_nil
  | cons candidate points ih =>
    rcases candidate with v | candidatePoint
    · exact ih (index + 1)
    · refine List.nodup_cons.mpr ⟨fun h ↦ ?_, ih (index + 1)⟩
      obtain ⟨object, hobject, heq⟩ := List.mem_map.mp h
      exact absurd (le_of_mem_objectsFrom hobject) (by omega)

/-- The ids of what a message becomes. -/
theorem Becomes.ids {split : Bool} {events : List (ParsedEvent ρ)}
    (h : Becomes platform config event split events) : ∃ points : List (Option ℕ), points.Nodup ∧
      events.map ParsedEvent.id = points.map (event.id ++ pointSuffix ·) := by
  rcases h with ⟨hattached, -⟩ | ⟨hattached, -, -, hevents⟩
  · refine ⟨[none], List.nodup_singleton _, ?_⟩
    rw [List.map_singleton, List.map_singleton, hattached.message]
    exact congrArg (fun id ↦ [id]) String.append_empty.symm
  · rename_i e mode points
    have hid : List.Forall₂ (fun e' object ↦ e'.id = event.id ++ pointSuffix (some object.1)) events
        (objectsFrom 0 points) := by
      refine (hevents.imp fun object e' he' ↦ ?_).flip
      change e'.id = event.id ++ pointSuffix (some object.1)
      rw [he'.id, hattached.message, pointSuffix, String.append_assoc]
    refine ⟨(objectsFrom 0 points).map (some ·.1), ?_, ?_⟩
    · exact List.map_map ▸ (nodup_objectsFrom 0 points).map (Option.some_injective ℕ)
    · rw [List.map_map, ← List.forall₂_eq_eq_eq, List.forall₂_map_left_iff,
        List.forall₂_map_right_iff]
      exact hid

namespace Listener

variable {s : Listener ρ}

/-- **A run.** -/
theorem soundBut_of_run {maxEntries : ℕ} {steps : List (ListenerStep ρ)}
    (h : Run (Listener.step platform config) (fun _ _ ↦ True) (start maxEntries) steps s) :
    SoundBut platform config 0 [] s :=
  h.invariant (soundBut_start maxEntries) fun _ _ _ hs _ hstep ↦ hs.step hstep

/-- The ids of the events that have been handed on. -/
def eventIds (s : Listener ρ) : List String :=
  s.handed.flatMap fun batch ↦ batch.events.map ParsedEvent.id

/-- **No two events have the same id**, as long as the counter has not come round. -/
theorem SoundBut.nodup_eventIds (h : SoundBut platform config 0 [] s)
    (hlength : s.accepted.length ≤ maxSafeInteger) : s.eventIds.Nodup := by
  have hbatch : ∀ batch ∈ s.handed, ∃ (event : ParsedEvent ρ) (points : List (Option ℕ)),
      batch.message < s.accepted.length ∧ points.Nodup ∧ event.id =
        eventIdText event.topic event.receivedAt ((batch.message + 1) % maxSafeInteger) ∧
      batch.events.map ParsedEvent.id = points.map (event.id ++ pointSuffix ·) := by
    intro batch hmem
    obtain ⟨event, hevent, hreturns, -⟩ := h.handed batch hmem
    obtain ⟨points, hpoints, hids⟩ := hreturns.becomes.ids
    exact ⟨event, points, (List.getElem?_eq_some_iff.mp hevent).1, hpoints, h.ids _ _ hevent, hids⟩
  have hmessages : (s.handed.map Batch.message).Nodup := by
    have hall : s.messages.Nodup := by
      rw [← zero_add s.messages, h.messages]
      exact Multiset.nodup_range _
    refine Multiset.coe_nodup.mp (Multiset.nodup_of_le ?_ hall)
    exact (Multiset.le_add_left _ _).trans (Multiset.le_add_right _ _)
  refine List.nodup_flatMap.mpr ⟨fun batch hmem ↦ ?_, ?_⟩
  · obtain ⟨event, points, -, hpoints, hid, hids⟩ := hbatch batch hmem
    rw [hids]
    refine List.Nodup.map_on (fun point _ point' _ heq ↦ ?_) hpoints
    rw [hid] at heq
    exact (eventId_inj heq).2
  · refine (List.pairwise_map.mp hmessages).imp_of_mem ?_
    intro batch batch' hmem hmem' hne id hid hid'
    obtain ⟨event, points, hlt, -, htext, hids⟩ := hbatch batch hmem
    obtain ⟨event', points', hlt', -, htext', hids'⟩ := hbatch batch' hmem'
    dsimp only at hid hid'
    rw [hids, htext] at hid
    rw [hids', htext'] at hid'
    obtain ⟨point, -, rfl⟩ := List.mem_map.mp hid
    obtain ⟨point', -, heq⟩ := List.mem_map.mp hid'
    have hcounter := Nat.ModEq.add_right_cancel' 1 (eventId_inj heq).1
    rw [Nat.ModEq, Nat.mod_eq_of_lt (hlt'.trans_le hlength),
      Nat.mod_eq_of_lt (hlt.trans_le hlength)] at hcounter
    exact hne hcounter.symm

/-! ## Every call can end -/

/-- How many elements the calls have still to look at. -/
def remaining (s : Listener ρ) : ℕ := (s.splits.map fun split ↦ split.points.length + 1).sum

/-- An answer to the first call leaves less to look at. -/
theorem remaining_answered {split : Split ρ} {splits : List (Split ρ)}
    (hsplits : s.splits = split :: splits) (mode : FailureMode) (answer : CalibrationAnswer) :
    (s.answered platform mode 0 split answer).remaining < s.remaining ∧
      (s.answered platform mode 0 split answer).accepted = s.accepted := by
  have hremaining : s.remaining =
      split.points.length + 1 + (splits.map fun split ↦ split.points.length + 1).sum := by
    rw [remaining, hsplits, List.map_cons, List.sum_cons]
  rw [Listener.answered, hsplits, List.eraseIdx_cons_zero, hremaining]
  rcases calibrate platform mode split.pointId split.rawValue split.point answer with error | point
  · refine ⟨?_, rfl⟩
    dsimp only [remaining]
    omega
  · dsimp only
    generalize hgoes : goOn platform split.message split.event (split.index + 1) split.points
      (split.derivedEvents ++ [derivedEvent split.event split.index point]) s.drawn = progress
    rcases progress with ⟨split' | events, drawn⟩
    · obtain ⟨-, hpoints⟩ := goOn_waits hgoes
      refine ⟨?_, rfl⟩
      dsimp only [Listener.proceed, remaining]
      rw [List.map_append, List.sum_append, List.map_singleton, List.sum_singleton]
      omega
    · refine ⟨?_, rfl⟩
      dsimp only [Listener.proceed, remaining]
      omega

/-- **Every call can end.** -/
theorem SoundBut.exists_ended (h : SoundBut platform config 0 [] s) : ∃ as s',
    Run (Listener.step platform config) (fun _ _ ↦ True) s as s' ∧ s'.splits = [] ∧
      s'.accepted = s.accepted := by
  induction hremaining : s.remaining using Nat.strong_induction_on generalizing s with
  | _ n ih =>
    rcases hsplits : s.splits with _ | ⟨split, splits⟩
    · exact ⟨[], s, .nil, hsplits, rfl⟩
    · obtain ⟨_, -, ⟨mode, hmode, -⟩, -⟩ := h.waits split (hsplits ▸ List.mem_cons_self)
      obtain ⟨hless, haccepted⟩ : (s.answered platform mode 0 split (.error "")).remaining <
          s.remaining ∧ (s.answered platform mode 0 split (.error "")).accepted = s.accepted :=
        remaining_answered hsplits mode (.error "")
      have hget : s.splits[0]? = some split := by rw [hsplits]; rfl
      have hstep : Listener.step platform config (.calibration 0 (.error "")) s =
          some (s.answered platform mode 0 split (.error "")) := by
        rw [Listener.step, Option.mem_def.mp hmode, Option.bind_some, hget]
        rfl
      obtain ⟨as, s', hrun, hended, haccepted'⟩ :=
        ih _ (hremaining ▸ hless) (h.answered hmode hget (.error "")) rfl
      exact ⟨_, s', (Run.snoc .nil trivial hstep).trans hrun, hended, haccepted'.trans haccepted⟩

variable (platform config) in
/-- **What has become of the messages** that have been accepted. -/
structure Delivered (s : Listener ρ) : Prop where
  /-- Each of them waits, has been handed on or has failed, and no two of these. -/
  once : s.messages = Multiset.range s.accepted.length
  /-- What has been handed on is what the preprocessors return for the message alone: one event, or
  one event for each point. -/
  handed : ∀ batch ∈ s.handed, ∃ event, s.accepted[batch.message]? = some event ∧
    Returns platform config event (.ok batch.events) ∧
    Becomes platform config event batch.split batch.events
  /-- Only a strict enricher fails, and only where it throws for the message alone. -/
  failed : ∀ failure ∈ s.failed, config.pointsSplitEnrich = some .strict ∧
    ∃ event, s.accepted[failure.1]? = some event ∧
      Returns platform config event (.error failure.2)
  eventIds : s.accepted.length ≤ maxSafeInteger → s.eventIds.Nodup
  valueIds : s.valueIds.Nodup

theorem SoundBut.delivered (h : SoundBut platform config 0 [] s) : Delivered platform config s where
  once := (zero_add _).symm.trans h.messages
  handed batch hmem := by
    obtain ⟨event, hevent, hreturns, hsplit⟩ := h.handed batch hmem
    exact ⟨event, hevent, hreturns, hsplit ▸ hreturns.becomes⟩
  failed failure hmem := ⟨h.strict (List.ne_nil_of_mem hmem), h.failed failure hmem⟩
  eventIds := h.nodup_eventIds
  valueIds := h.drawn.nodup

end Listener

end

/-- A text with a number of twelve digits behind it. -/
def numberedText (text : String) (n : ℕ) : String :=
  text ++ String.ofList (NumericSuffix.padded 12 n)

theorem numberedText_injective (text : String) : Function.Injective (numberedText text) := by
  intro m n h
  have hchars := congrArg String.toList h
  simp only [numberedText, String.toList_append, String.toList_ofList] at hchars
  have hnumber := congrArg (Nat.ofDigitChars 10 · 0) (List.append_cancel_left hchars)
  rwa [NumericSuffix.ofDigitChars_padded, NumericSuffix.ofDigitChars_padded] at hnumber

/-- An operation of the rationals on the finite numbers. -/
def onFinite (f : ℚ → ℚ → ℚ) : JsNumber → JsNumber → JsNumber
  | some (some x), some (some y) => some (some (f x y))
  | x, _ => x

/-- Messages come parsed, and numbers are not rounded. -/
def parsedPlatform : ProcessorPlatform (Option JsonDocument) where
  jsonParse := id
  timeText _ := none
  mul := onFinite (· * ·)
  add := onFinite (· + ·)
  uuidv7 := numberedText "00000000-0000-7000-8000-"
  uuidv7_injective := numberedText_injective _

def strictListener : ListenerConfig := ⟨true, some .strict⟩

/-- An object with these fields. -/
def objectOf {β : Type*} (fields : List (String × β)) : OrderedMap String β :=
  fields.foldl (fun object field ↦ object.set field.1 field.2) .empty

/-- The number in JavaScript. -/
def jsNumber (q : ℚ) : JsValue := .number (some (some q))

/-- Two points, and something that is none between them. -/
def twoPoints : JsonDocument := .object <| objectOf [("points", .array
  [.object (objectOf [("id", .string "a"), ("value", jsNumber 3)]), .value (jsNumber 7),
    .object (objectOf
      [("id", .string "b"), ("value", jsNumber 5), ("previousValue", jsNumber 4)])])]

/-- While the first message waits for a calibration, another one comes and is handed on. -/
def twoMessages : List (ListenerStep (Option JsonDocument)) :=
  let nowIso := "2026-01-01T00:00:00.000Z"
  [.message "/Rockware/v1/Gateway/gw/Device/d/Points" (some twoPoints) 1000 1001 nowIso,
    .message "/Rockware/v1/Gateway/gw/Health/" (some (.object .empty)) 1000 1001 nowIso,
    .calibration 0 (.ok [(jsNumber 2, jsNumber 1)]),
    .calibration 0 (.ok [(jsNumber 10, jsNumber 0)])]

end RwServer
