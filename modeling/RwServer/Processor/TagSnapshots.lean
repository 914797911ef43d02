import Mathlib
import RwServer.Foundation.JsValue
import RwServer.Foundation.OrderedMap

/-!
# Tag snapshots

The processor keeps, for every tag, the snapshot of its latest reading in a cache of bounded size.
Two things write it: the preprocessor, with every reading of the stream, and a hydration, with the
snapshots the station service answers for tags that were missing. Both go through `setSnapshot`,
which takes the oldest entries out when a new key finds the cache full, and fills in the previous
value from the snapshot that was there.
-/

namespace RwServer

/-- Quality of a reading. -/
inductive Quality
  | good | bad | unknown
deriving DecidableEq, Repr

/-- Where a snapshot comes from. -/
inductive SnapshotSource
  | stream | rpc
deriving DecidableEq, Repr

/-- A reading of a point, as `extractPointReadings` takes it from an event. A `previousValue` that
the event does not give is `undefined`. -/
structure PointReading where
  pointId : String
  deviceId : Option String := none
  value : JsValue
  previousValue : JsValue := .undefined
  quality : Option Quality := none
  timestamp : Option String := none
  gatewayTimestamp : Option String := none
deriving DecidableEq

/-- `readingKeys`. -/
def PointReading.readingKeys (reading : PointReading) : List String := [reading.pointId]

/-- What the station service answers for a tag. -/
structure ProcessorTagSnapshot where
  pointId : String
  value : JsValue
  previousValue : JsValue
  quality : Option Quality := none
  timestamp : Option String := none
  gatewayTimestamp : Option String := none
  processorTimestamp : Option String := none
deriving DecidableEq

/-- The argument of `setSnapshot`. -/
structure SnapshotInput where
  key : String
  pointId : String
  value : JsValue
  previousValue : JsValue := .undefined
  quality : Option Quality := none
  timestamp : Option String := none
  gatewayTimestamp : Option String := none
  processorTimestamp : Option String := none
  source : SnapshotSource
deriving DecidableEq

/-- The snapshot of a tag. -/
structure TagValueSnapshot where
  key : String
  pointId : String
  value : JsValue
  previousValue : JsValue
  quality : Option Quality
  timestamp : Option String
  gatewayTimestamp : Option String
  processorTimestamp : Option String
  observedAt : String
  source : SnapshotSource
deriving DecidableEq

/-! ## The next snapshot of a tag -/

/-- The previous value of the next snapshot: the value itself where it has not changed, else what
the input gives, else the value that was there. -/
def SnapshotInput.nextPreviousValue (input : SnapshotInput) (existing : Option TagValueSnapshot) :
    JsValue :=
  if (existing.map TagValueSnapshot.value) = some input.value then input.value
  else if input.previousValue ≠ .undefined then input.previousValue
  else ((existing.map TagValueSnapshot.value).getD .undefined).orElse .null

/-- The next snapshot of a tag, observed at `nowIso`. -/
def snapshotWithFallback (nowIso : String) (input : SnapshotInput)
    (existing : Option TagValueSnapshot) : TagValueSnapshot where
  key := input.key
  pointId := input.pointId
  value := input.value
  previousValue := input.nextPreviousValue existing
  quality := input.quality
  timestamp := input.timestamp
  gatewayTimestamp := input.gatewayTimestamp
  processorTimestamp := input.processorTimestamp
  observedAt := nowIso
  source := input.source

@[simp] theorem value_snapshotWithFallback (nowIso : String) (input : SnapshotInput)
    (existing : Option TagValueSnapshot) :
    (snapshotWithFallback nowIso input existing).value = input.value := rfl

@[simp] theorem previousValue_snapshotWithFallback (nowIso : String) (input : SnapshotInput)
    (existing : Option TagValueSnapshot) :
    (snapshotWithFallback nowIso input existing).previousValue
      = input.nextPreviousValue existing := rfl

/-- A value that comes a second time is its own previous value, whatever the input says. -/
theorem nextPreviousValue_of_duplicate {input : SnapshotInput} {snapshot : TagValueSnapshot}
    (h : snapshot.value = input.value) : input.nextPreviousValue (some snapshot) = input.value := by
  rw [SnapshotInput.nextPreviousValue, Option.map_some, h, if_pos rfl]

/-! ## The cache -/

/-- The snapshots by key, in the order the keys came in, and how many there may be. -/
structure TagSnapshotCache where
  snapshots : OrderedMap String TagValueSnapshot
  maxEntries : ℕ

namespace TagSnapshotCache

/-- A new cache. -/
def new (maxEntries : ℕ) : TagSnapshotCache := ⟨.empty, maxEntries⟩

def getSnapshot (cache : TagSnapshotCache) (key : String) : Option TagValueSnapshot :=
  cache.snapshots.get? key

def size (cache : TagSnapshotCache) : ℕ := cache.snapshots.size

def getMissingKeys (cache : TagSnapshotCache) (keys : List String) : List String :=
  keys.filter fun key ↦ !cache.snapshots.has key

/-- Take the oldest entries out while there is no room for a new key. -/
def trimIfNeeded (cache : TagSnapshotCache) (nextKey : String) : TagSnapshotCache :=
  if cache.snapshots.has nextKey then cache
  else { cache with snapshots := cache.snapshots.evict cache.maxEntries }

def setSnapshot (nowIso : String) (input : SnapshotInput) (cache : TagSnapshotCache) :
    TagSnapshotCache :=
  let trimmed := cache.trimIfNeeded input.key
  let existing := trimmed.snapshots.get? input.key
  { trimmed with
    snapshots := trimmed.snapshots.set input.key (snapshotWithFallback nowIso input existing) }

/-- The input of `setSnapshot` for a reading of the stream. -/
def inputOfReading (reading : PointReading) : SnapshotInput where
  key := reading.pointId
  pointId := reading.pointId
  value := reading.value
  previousValue := reading.previousValue
  quality := reading.quality
  timestamp := reading.timestamp
  gatewayTimestamp := reading.gatewayTimestamp
  source := .stream

def upsertPointReading (nowIso : String) (reading : PointReading) (cache : TagSnapshotCache) :
    TagSnapshotCache :=
  cache.setSnapshot nowIso (inputOfReading reading)

/-- The input of `setSnapshot` for a snapshot of a response. -/
def inputOfResponse (key : String) (snapshot : ProcessorTagSnapshot) : SnapshotInput where
  key := key
  pointId := snapshot.pointId
  value := snapshot.value
  previousValue := snapshot.previousValue
  quality := snapshot.quality
  timestamp := snapshot.timestamp
  gatewayTimestamp := snapshot.gatewayTimestamp
  processorTimestamp := snapshot.processorTimestamp
  source := .rpc

/-- Set every snapshot of a response, in its order. -/
def setResponse (nowIso : String) (response : List (String × ProcessorTagSnapshot))
    (cache : TagSnapshotCache) : TagSnapshotCache :=
  response.foldl (fun c entry ↦ c.setSnapshot nowIso (inputOfResponse entry.1 entry.2)) cache

/-! ## What a write does to the lookups -/

@[simp] theorem getSnapshot_new (maxEntries : ℕ) (key : String) :
    (new maxEntries).getSnapshot key = none := rfl

/-- Making room for a key leaves the snapshot of that key as it is. -/
theorem getSnapshot_trimIfNeeded_self (cache : TagSnapshotCache) (key : String) :
    (cache.trimIfNeeded key).getSnapshot key = cache.getSnapshot key := by
  rw [trimIfNeeded]
  split
  · rfl
  · rename_i hhas
    have hnone : cache.snapshots.get? key = none := by
      simpa [OrderedMap.has] using hhas
    have hevict := cache.snapshots.get?_evict cache.maxEntries key
    rw [hnone, or_self] at hevict
    exact hevict.trans hnone.symm

theorem getSnapshot_trimIfNeeded (cache : TagSnapshotCache) (key key' : String) :
    (cache.trimIfNeeded key).getSnapshot key' = cache.getSnapshot key' ∨
      (cache.trimIfNeeded key).getSnapshot key' = none := by
  rw [trimIfNeeded]
  split
  · exact Or.inl rfl
  · exact cache.snapshots.get?_evict cache.maxEntries key'

/-- A write gives its key the next snapshot. -/
theorem getSnapshot_setSnapshot_self (nowIso : String) (input : SnapshotInput)
    (cache : TagSnapshotCache) : (cache.setSnapshot nowIso input).getSnapshot input.key
      = some (snapshotWithFallback nowIso input (cache.getSnapshot input.key)) := by
  have htrim := cache.getSnapshot_trimIfNeeded_self input.key
  rw [← htrim]
  exact OrderedMap.get?_set_self ..

/-- A write leaves the other keys as they are, or takes them out. -/
theorem getSnapshot_setSnapshot_of_ne (nowIso : String) (input : SnapshotInput)
    (cache : TagSnapshotCache) {key : String} (hne : key ≠ input.key) :
    (cache.setSnapshot nowIso input).getSnapshot key = cache.getSnapshot key ∨
      (cache.setSnapshot nowIso input).getSnapshot key = none := by
  have hset : (cache.setSnapshot nowIso input).getSnapshot key
      = (cache.trimIfNeeded input.key).getSnapshot key := OrderedMap.get?_set_of_ne _ _ hne
  rw [hset]
  exact cache.getSnapshot_trimIfNeeded input.key key

/-- The value a key has after a write is the one written, or the one it had before. -/
theorem value_of_setSnapshot {nowIso : String} {input : SnapshotInput} {cache : TagSnapshotCache}
    {key : String} {snapshot : TagValueSnapshot}
    (h : (cache.setSnapshot nowIso input).getSnapshot key = some snapshot) :
    (key = input.key ∧ snapshot.value = input.value) ∨
      (key ≠ input.key ∧ cache.getSnapshot key = some snapshot) := by
  by_cases hkey : key = input.key
  · subst hkey
    rw [getSnapshot_setSnapshot_self, Option.some.injEq] at h
    exact Or.inl ⟨rfl, by rw [← h, value_snapshotWithFallback]⟩
  · rcases cache.getSnapshot_setSnapshot_of_ne nowIso input hkey with heq | hnone
    · exact Or.inr ⟨hkey, heq ▸ h⟩
    · rw [hnone] at h
      cases h

/-! ## The bound on the size -/

/-- The cache holds at most `maxEntries` snapshots, and one at least if there is room for none. -/
def Bounded (cache : TagSnapshotCache) : Prop := cache.size ≤ max cache.maxEntries 1

theorem bounded_new (maxEntries : ℕ) : (new maxEntries).Bounded := Nat.zero_le _

/-- **No write lets the cache outgrow its bound.** -/
theorem bounded_setSnapshot (nowIso : String) (input : SnapshotInput) {cache : TagSnapshotCache}
    (h : cache.Bounded) : (cache.setSnapshot nowIso input).Bounded := by
  have hmax : (cache.setSnapshot nowIso input).maxEntries = cache.maxEntries := by
    unfold setSnapshot trimIfNeeded
    split <;> rfl
  have hsize : (cache.setSnapshot nowIso input).size
      = if (cache.trimIfNeeded input.key).snapshots.has input.key = true
        then (cache.trimIfNeeded input.key).size else (cache.trimIfNeeded input.key).size + 1 :=
    OrderedMap.size_set ..
  rw [Bounded] at h
  rw [Bounded, hmax, hsize]
  by_cases hhas : cache.snapshots.has input.key
  · -- the key is there: nothing is trimmed and nothing is added
    have htrim : cache.trimIfNeeded input.key = cache := if_pos hhas
    rw [htrim, if_pos hhas]
    exact h
  · -- the key is new: there is room for it, or the cache is empty
    have htrim : (cache.trimIfNeeded input.key).size
        = (cache.snapshots.evict cache.maxEntries).size := by
      rw [trimIfNeeded, if_neg hhas]
      rfl
    have hevict := cache.snapshots.size_evict cache.maxEntries
    rw [htrim]
    split <;> omega

end TagSnapshotCache

end RwServer
