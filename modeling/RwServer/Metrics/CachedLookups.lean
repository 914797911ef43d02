import Mathlib
import RwServer.Foundation.Memo
import RwServer.Foundation.Separated
import RwServer.Metrics.EntityPaths
import RwServer.Metrics.TtlCache

/-!
# Cached lookups

The metrics look up shifts, hours, time zones, paths and names many times, and keep the results in
two layers of caches: a `MetricsContext` lives as long as one run of a pipeline, and the caches of
the process keep their entries for a time and at most so many of them. A lookup asks its context
first, then the process, and queries the tables last; and what it finds it stores in the layers it
has asked before. `getIncrementTargets` goes further: it stores the paths and the names of all its
targets under the keys that `resolveEntityPath` and `resolveEntityName` use, and these compute them
in another way.

`cached_lookups_agree` says that the caches change nothing: while the tables stay as they are, every
lookup returns what its query returns, whatever contexts it has, and in any interleaving.

What the tables give without any cache is in the namespace `RwServer` under the name of the
function; the function with its caches is in `RwServer.Cached`.
-/

namespace RwServer

open Transition Separated

/-! ## The caches -/

/-- The texts of ids and times in the keys of the caches. -/
structure KeyTexts where
  uuid : Uuid → String
  time : Time → String
  uuid_injective : Function.Injective uuid
  time_injective : Function.Injective time
  uuid_colon : ∀ id, ':' ∉ (uuid id).toList
  time_colon : ∀ t, ':' ∉ (time t).toList
  uuid_ne_null : ∀ id, uuid id ≠ "null"

def BucketEntityType.text : BucketEntityType → String
  | .station => "STATION"
  | .workcenter => "WORKCENTER"
  | .site => "SITE"
  | .job => "JOB"

/-- The maps of a `MetricsContext`. -/
inductive ContextMap
  | shifts
  | anchors
  | hourBucketCache
  | hourBucketsCache
  | workCenterIds
  | timezones
  | incrementTargets
  | entityPaths
  | entityNames
  | childStations
deriving DecidableEq

/-- The caches of the process. -/
inductive ProcessMap
  | shifts
  | anchors
  | wcIds
  | timezones
deriving DecidableEq

namespace ContextMap

/-- What an entry is for. -/
@[reducible] def Args : ContextMap → Type
  | .shifts => BucketEntityType × Uuid × Uuid × Time
  | .anchors => Time × Uuid × Option Uuid
  | .hourBucketCache => BucketEntityType × Uuid × Uuid × Time
  | .hourBucketsCache => BucketEntityType × Uuid × Uuid × Time
  | .workCenterIds => BucketEntityType × Uuid
  | .timezones => Uuid
  | .incrementTargets => Uuid × Uuid
  | .entityPaths => BucketEntityType × Uuid × Uuid
  | .entityNames => BucketEntityType × Uuid
  | .childStations => BucketEntityType × Uuid

@[reducible] def Value : ContextMap → Type
  | .shifts => Option ShiftWindow
  | .anchors => Time
  | .hourBucketCache => HourBucket
  | .hourBucketsCache => List HourBucket
  | .workCenterIds => Option Uuid
  | .timezones => Timezone
  | .incrementTargets => List IncrementTarget
  | .entityPaths => EntityPath
  | .entityNames => String
  | .childStations => List Uuid

variable (text : KeyTexts)

/-- `shiftKey`, `anchorKey`, … -/
def parts : (m : ContextMap) → m.Args → List String
  | .shifts, (entityType, entityId, siteId, timestamp) =>
    [entityType.text, text.uuid entityId, text.uuid siteId, text.time timestamp]
  | .anchors, (shiftStart, siteId, workCenterId) =>
    [text.time shiftStart, text.uuid siteId, (workCenterId.map text.uuid).getD "null"]
  | .hourBucketCache, (entityType, entityId, siteId, timestamp) =>
    ["hb", entityType.text, text.uuid entityId, text.uuid siteId, text.time timestamp]
  | .hourBucketsCache, (entityType, entityId, siteId, timestamp) =>
    ["hbs", entityType.text, text.uuid entityId, text.uuid siteId, text.time timestamp]
  | .workCenterIds, (entityType, entityId) => ["wc", entityType.text, text.uuid entityId]
  | .timezones, siteId => [text.uuid siteId]
  | .incrementTargets, (stationId, siteId) => [text.uuid stationId, text.uuid siteId]
  | .entityPaths, (entityType, entityId, siteId) =>
    [entityType.text, text.uuid entityId, text.uuid siteId]
  | .entityNames, (entityType, entityId) => [entityType.text, text.uuid entityId]
  | .childStations, (entityType, entityId) => ["cs", entityType.text, text.uuid entityId]

/-- The key in the map. -/
def key (m : ContextMap) (args : m.Args) : String := joinKey ':' (m.parts text args)

end ContextMap

namespace ProcessMap

@[reducible] def Args : ProcessMap → Type
  | .shifts => BucketEntityType × Uuid × Uuid × Time
  | .anchors => Time × Uuid × Option Uuid
  | .wcIds => Uuid
  | .timezones => Uuid

@[reducible] def Value : ProcessMap → Type
  | .shifts => Option ShiftWindow
  | .anchors => Time
  | .wcIds => Option Uuid
  | .timezones => Timezone

variable (text : KeyTexts)

/-- `pKey`, `aKey`, … -/
def parts : (m : ProcessMap) → m.Args → List String
  | .shifts, (entityType, entityId, siteId, timestamp) =>
    [entityType.text, text.uuid entityId, text.uuid siteId, text.time timestamp]
  | .anchors, (shiftStart, siteId, workCenterId) =>
    ["a", text.time shiftStart, text.uuid siteId, (workCenterId.map text.uuid).getD "null"]
  | .wcIds, entityId => ["wc", text.uuid entityId]
  | .timezones, siteId => [text.uuid siteId]

def key (m : ProcessMap) (args : m.Args) : String := joinKey ':' (m.parts text args)

/-- The options of the caches. -/
def new : (m : ProcessMap) → TtlCache m.Value
  | .shifts => .new 30000 2000
  | .anchors => .new 30000 2000
  | .wcIds => .new 60000 500
  | .timezones => .new 300000 100

end ProcessMap

/-- An entry of the caches; the contexts are numbered by `χ`. -/
inductive LookupKey (χ : Type)
  | context (c : χ) (m : ContextMap) (args : m.Args)
  | process (m : ProcessMap) (args : m.Args)

@[reducible] def LookupKey.Value {χ : Type} : LookupKey χ → Type
  | .context _ m _ => m.Value
  | .process m _ => m.Value

structure LookupCaches (χ : Type) where
  contexts : χ → (m : ContextMap) → OrderedMap String m.Value
  process : (m : ProcessMap) → TtlCache m.Value

namespace LookupCaches

variable {χ : Type}

/-- The process has just started, and no context has been used. -/
def new : LookupCaches χ := ⟨fun _ _ ↦ .empty, ProcessMap.new⟩

variable [DecidableEq χ] (text : KeyTexts)

/-- The `get` of a map, at the time `now`. -/
def get (now : Time) : (k : LookupKey χ) → LookupCaches χ → Option k.Value × LookupCaches χ
  | .context c m args, s => ((s.contexts c m).get? (m.key text args), s)
  | .process m args, s =>
    (((s.process m).get (m.key text args) now).1,
      { s with
        process := Function.update s.process m ((s.process m).get (m.key text args) now).2 })

/-- The `set` of a map. -/
def set (now : Time) : (k : LookupKey χ) → k.Value → LookupCaches χ → LookupCaches χ
  | .context c m args, v, s =>
    { s with
      contexts := Function.update s.contexts c
        (Function.update (s.contexts c) m ((s.contexts c m).set (m.key text args) v)) }
  | .process m args, v, s =>
    { s with
      process := Function.update s.process m ((s.process m).set (m.key text args) v now) }

/-- There is an entry, expired or not. -/
def Holds (s : LookupCaches χ) : (k : LookupKey χ) → k.Value → Prop
  | .context c m args, v => (s.contexts c m).get? (m.key text args) = some v
  | .process m args, v =>
    ∃ expiresAt, (s.process m).map.get? (m.key text args) = some ⟨v, expiresAt⟩

end LookupCaches

/-! ## Keys do not collide -/

section

variable {text : KeyTexts}

theorem BucketEntityType.text_injective : Function.Injective BucketEntityType.text := by
  intro a b h
  cases a <;> cases b <;> first | rfl | exact absurd h (by decide)

theorem BucketEntityType.text_colon (entityType : BucketEntityType) :
    ':' ∉ entityType.text.toList := by
  cases entityType <;> decide

/-- No id is written `null`. -/
theorem uuidOrNull_injective (text : KeyTexts) :
    Function.Injective fun id : Option Uuid ↦ (id.map text.uuid).getD "null" := by
  intro a b h
  cases a with
  | none =>
    cases b with
    | none => rfl
    | some b => exact absurd (Eq.symm h) (text.uuid_ne_null b)
  | some a =>
    cases b with
    | none => exact absurd h (text.uuid_ne_null a)
    | some b => exact congrArg some (text.uuid_injective h)

theorem uuidOrNull_colon (text : KeyTexts) (id : Option Uuid) :
    ':' ∉ ((id.map text.uuid).getD "null").toList := by
  cases id with
  | none =>
    show ':' ∉ "null".toList
    decide
  | some id => exact text.uuid_colon id

theorem ContextMap.key_injective (m : ContextMap) : Function.Injective (m.key text) := by
  have hcolon : ∀ args, ∀ part ∈ m.parts text args, ':' ∉ part.toList := by
    intro args
    cases m <;>
      simp [parts, text.uuid_colon, text.time_colon, BucketEntityType.text_colon, uuidOrNull_colon]
  have hne : ∀ args, m.parts text args ≠ [] := by
    intro args
    cases m <;> simp [parts]
  intro a b h
  have hparts := joinKey_inj (hcolon a) (hcolon b) (hne a) (hne b) h
  cases m <;>
    simpa [parts, Prod.ext_iff, text.uuid_injective.eq_iff, text.time_injective.eq_iff,
      BucketEntityType.text_injective.eq_iff, (uuidOrNull_injective text).eq_iff] using hparts

theorem ProcessMap.key_injective (m : ProcessMap) : Function.Injective (m.key text) := by
  have hcolon : ∀ args, ∀ part ∈ m.parts text args, ':' ∉ part.toList := by
    intro args
    cases m <;>
      simp [parts, text.uuid_colon, text.time_colon, BucketEntityType.text_colon, uuidOrNull_colon]
  have hne : ∀ args, m.parts text args ≠ [] := by
    intro args
    cases m <;> simp [parts]
  intro a b h
  have hparts := joinKey_inj (hcolon a) (hcolon b) (hne a) (hne b) h
  cases m <;>
    simpa [parts, Prod.ext_iff, text.uuid_injective.eq_iff, text.time_injective.eq_iff,
      BucketEntityType.text_injective.eq_iff, (uuidOrNull_injective text).eq_iff] using hparts

end

/-! ## Access to the caches -/

/-- A `get` returns an entry, and leaves only entries that there have been. -/
theorem TtlCache.get_cases {ν : Type*} (cache : TtlCache ν) (key : String) (now : Time) :
    (∀ v, (cache.get key now).1 = some v → ∃ expiresAt, cache.map.get? key = some ⟨v, expiresAt⟩) ∧
      ∀ key' entry, (cache.get key now).2.map.get? key' = some entry →
        cache.map.get? key' = some entry := by
  rw [TtlCache.get]
  cases hget : cache.map.get? key with
  | none => exact ⟨fun v hv ↦ (by cases hv), fun _ _ h ↦ h⟩
  | some entry =>
    dsimp only
    split
    · refine ⟨fun v hv ↦ (by cases hv), fun key' entry' h ↦ ?_⟩
      dsimp only at h
      rw [OrderedMap.get?_delete] at h
      split at h
      · cases h
      · exact h
    · refine ⟨fun v hv ↦ ?_, fun key' entry' h ↦ ?_⟩
      · cases hv
        exact ⟨entry.expiresAt, rfl⟩
      · dsimp only at h
        rw [OrderedMap.get?_set, OrderedMap.get?_delete] at h
        split at h
        · rename_i heq
          rw [heq, hget]
          exact h
        · exact h

/-- A `set` leaves its entry, and others only that there have been. -/
theorem TtlCache.get?_of_set {ν : Type*} (cache : TtlCache ν) (key : String) (value : ν)
    (now : Time) {key' : String} {entry : TtlEntry ν}
    (h : (cache.set key value now).map.get? key' = some entry) :
    cache.map.get? key' = some entry ∨ key' = key ∧ entry.value = value := by
  rw [TtlCache.set] at h
  dsimp only at h
  rw [OrderedMap.get?_set] at h
  split at h
  · rename_i heq
    cases h
    exact .inr ⟨heq, rfl⟩
  · refine .inl ?_
    rcases (cache.map.delete key).get?_evict cache.maxSize key' with hevict | hevict
    · rw [hevict, OrderedMap.get?_delete] at h
      split at h
      · cases h
      · exact h
    · rw [hevict] at h
      cases h

/-- The caches return what they hold, and hold what has been stored. -/
def lookupCaches {χ : Type} [DecidableEq χ] (text : KeyTexts) :
    Caches (LookupKey χ) LookupKey.Value (LookupCaches χ) Time where
  get := LookupCaches.get text
  set := LookupCaches.set text
  Holds := LookupCaches.Holds text
  holds_of_get := by
    intro now k s v h
    cases k with
    | context c m args => exact h
    | process m args => exact ((s.process m).get_cases _ now).1 v h
  holds_of_holds_get := by
    intro now k s k' v h
    cases k with
    | context c m args => exact h
    | process m args =>
      cases k' with
      | context c' m' args' => exact h
      | process m' args' =>
        obtain ⟨expiresAt, hentry⟩ := h
        refine ⟨expiresAt, ?_⟩
        by_cases hm : m' = m
        · subst hm
          simp only [LookupCaches.get, Function.update_self] at hentry
          exact ((s.process m').get_cases _ now).2 _ _ hentry
        · simp only [LookupCaches.get, Function.update_of_ne hm] at hentry
          exact hentry
  holds_of_holds_set := by
    intro now k v s k' v' h
    cases k with
    | context c m args =>
      cases k' with
      | process m' args' => exact .inl h
      | context c' m' args' =>
        simp only [LookupCaches.Holds, LookupCaches.set] at h
        by_cases hc : c' = c
        · subst hc
          rw [Function.update_self] at h
          by_cases hm : m' = m
          · subst hm
            rw [Function.update_self, OrderedMap.get?_set] at h
            split at h
            · rename_i hkey
              obtain rfl := m'.key_injective hkey
              cases h
              exact .inr rfl
            · exact .inl h
          · rw [Function.update_of_ne hm] at h
            exact .inl h
        · rw [Function.update_of_ne hc] at h
          exact .inl h
    | process m args =>
      cases k' with
      | context c' m' args' => exact .inl h
      | process m' args' =>
        obtain ⟨expiresAt, hentry⟩ := h
        simp only [LookupCaches.set] at hentry
        by_cases hm : m' = m
        · subst hm
          rw [Function.update_self] at hentry
          rcases (s.process m').get?_of_set _ v now hentry with hold | ⟨hkey, hvalue⟩
          · exact .inl ⟨expiresAt, hold⟩
          · obtain rfl := m'.key_injective hkey
            obtain rfl : v' = v := hvalue
            exact .inr rfl
        · rw [Function.update_of_ne hm] at hentry
          exact .inl ⟨expiresAt, hentry⟩

/-! ## What the caches are to hold -/

/-- A value is what the tables give. -/
def ContextMap.Right (t : LookupTables) : (m : ContextMap) → m.Args → m.Value → Prop
  | .shifts, (entityType, entityId, siteId, timestamp), v =>
    v = getShiftForEntity t.facility entityType entityId siteId timestamp
  -- the key has only the start of the shift
  | .anchors, (shiftStart, siteId, workCenterId), v => ∀ shift : ShiftWindow,
    shift.startTime = shiftStart →
      v = getAnchorTime t.facility.shiftInstances shift siteId workCenterId
  -- and these keys do not have the time zone
  | .hourBucketCache, (entityType, entityId, siteId, timestamp), v =>
    resolveHourBucketForEntity t.facility entityType entityId siteId timestamp
      (t.facility.siteTimezone siteId) = some v
  | .hourBucketsCache, (entityType, entityId, siteId, timestamp), v =>
    v = getHourBucketsForEntity t.facility entityType entityId siteId timestamp
      (t.facility.siteTimezone siteId)
  | .workCenterIds, (entityType, entityId), v => v = t.facility.workcenterIdOf entityType entityId
  | .timezones, siteId, v => v = t.facility.siteTimezone siteId
  | .incrementTargets, (stationId, siteId), v => v = getIncrementTargets t.facility stationId siteId
  | .entityPaths, (entityType, entityId, siteId), v =>
    v = resolveEntityPath t siteId entityType entityId
  | .entityNames, (entityType, entityId), v => v = resolveEntityName t entityType entityId
  | .childStations, (entityType, entityId), v =>
    v = getChildStationIds t.facility entityType entityId

def ProcessMap.Right (t : LookupTables) : (m : ProcessMap) → m.Args → m.Value → Prop
  | .shifts, (entityType, entityId, siteId, timestamp), v =>
    v = getShiftForEntity t.facility entityType entityId siteId timestamp
  | .anchors, (shiftStart, siteId, workCenterId), v => ∀ shift : ShiftWindow,
    shift.startTime = shiftStart →
      v = getAnchorTime t.facility.shiftInstances shift siteId workCenterId
  | .wcIds, entityId, v => v = t.facility.workcenterIdOf .station entityId
  | .timezones, siteId, v => v = t.facility.siteTimezone siteId

def LookupKey.Right {χ : Type} (t : LookupTables) : (k : LookupKey χ) → k.Value → Prop
  | .context _ m args, v => m.Right t args v
  | .process m args, v => m.Right t args v

/-! ## With caches -/

namespace Cached

variable {χ : Type} (t : LookupTables) (ctx : Option χ)

abbrev Lookup (χ α : Type) := Memo (LookupKey χ) LookupKey.Value α

/-- Ask the context, where there is one. -/
def inContext (m : ContextMap) (args : m.Args) (p : Lookup χ m.Value) : Lookup χ m.Value :=
  match ctx with
  | none => p
  | some c => Memo.cached (LookupKey.context c m args) p

def inProcess (m : ProcessMap) (args : m.Args) (p : Lookup χ m.Value) : Lookup χ m.Value :=
  Memo.cached (LookupKey.process m args) p

/-- `ctx?.set…Cached`. -/
def store (m : ContextMap) (args : m.Args) (v : m.Value) {α : Type} (next : Lookup χ α) :
    Lookup χ α :=
  match ctx with
  | none => next
  | some c => .set (.context c m args) v next

def getSiteTimezone (siteId : Uuid) : Lookup χ Timezone :=
  inContext ctx .timezones siteId <| inProcess .timezones siteId <|
    .done (t.facility.siteTimezone siteId)

def resolveWorkcenterId : BucketEntityType → Uuid → Lookup χ (Option Uuid)
  | .workcenter, entityId => .done (some entityId)
  | .station, entityId =>
    inContext ctx .workCenterIds (.station, entityId) <| inProcess .wcIds entityId <|
      .done ((t.facility.station entityId).bind MeteredStation.workcenterId)
  | .site, _ => .done none
  | .job, _ => .done none

def queryShiftForEntity (entityType : BucketEntityType) (entityId siteId : Uuid)
    (timestamp : Time) : Lookup χ (Option ShiftWindow) :=
  (resolveWorkcenterId t ctx entityType entityId).map fun workCenterId ↦
    RwServer.queryShiftForEntity t.facility.shiftInstances workCenterId siteId timestamp

def getShiftForEntity (entityType : BucketEntityType) (entityId siteId : Uuid)
    (timestamp : Time) : Lookup χ (Option ShiftWindow) :=
  inContext ctx .shifts (entityType, entityId, siteId, timestamp) <|
    inProcess .shifts (entityType, entityId, siteId, timestamp) <|
      queryShiftForEntity t ctx entityType entityId siteId timestamp

def getAnchorTime (shift : ShiftWindow) (siteId : Uuid) (workCenterId : Option Uuid) :
    Lookup χ Time :=
  inContext ctx .anchors (shift.startTime, siteId, workCenterId) <|
    inProcess .anchors (shift.startTime, siteId, workCenterId) <|
      .done (RwServer.getAnchorTime t.facility.shiftInstances shift siteId workCenterId)

/-- The anchor of a shift, for the workcenter of an entity. -/
def anchorOf (entityType : BucketEntityType) (entityId siteId : Uuid) (shift : ShiftWindow) :
    Lookup χ Time :=
  (resolveWorkcenterId t ctx entityType entityId).bind fun workCenterId ↦
    getAnchorTime t ctx shift siteId workCenterId

def getHourBucketsForEntity (entityType : BucketEntityType) (entityId siteId : Uuid)
    (timestamp : Time) (timezone : Timezone) : Lookup χ (List HourBucket) :=
  inContext ctx .hourBucketsCache (entityType, entityId, siteId, timestamp) <|
    (getShiftForEntity t ctx entityType entityId siteId timestamp).bind fun
      | some shift => (anchorOf t ctx entityType entityId siteId shift).map fun anchor ↦
          getHourBucketsForShift shift anchor
      | none => .done (getClockHourBucketsForDay timestamp timezone)

/-- What `resolveHourBucketForEntity` does after a miss. -/
def queryHourBucket (entityType : BucketEntityType) (entityId siteId : Uuid) (timestamp : Time)
    (timezone : Timezone) : Lookup χ (Option HourBucket) :=
  (getShiftForEntity t ctx entityType entityId siteId timestamp).bind fun
    | some shift => (anchorOf t ctx entityType entityId siteId shift).map fun anchor ↦
        findHourBucketInShift shift anchor timestamp
    | none => .done (some (resolveClockHourBucket timestamp timezone))

/-- `none` is the error of `findHourBucketInShift`. -/
def resolveHourBucketForEntity (entityType : BucketEntityType) (entityId siteId : Uuid)
    (timestamp : Time) (timezone : Timezone) : Lookup χ (Option HourBucket) :=
  let resolve := queryHourBucket t ctx entityType entityId siteId timestamp timezone
  match ctx with
  | none => resolve
  | some c =>
    Memo.cachedSome
      (LookupKey.context c .hourBucketCache (entityType, entityId, siteId, timestamp)) resolve

/-- The row of the first query of `getIncrementTargets`, which joins the station with the site. -/
def targetRow (stationId siteId : Uuid) : Option (MeteredStation × Site) :=
  (t.facility.station stationId).bind fun s ↦ (t.facility.site siteId).map fun site ↦ (s, site)

def queryIncrementTargets (stationId siteId : Uuid) : List IncrementTarget :=
  let row := targetRow t stationId siteId
  let wcChain := ((row.bind (·.1.workcenterId)).map t.chain).getD []
  let wcTargets := wcChain.map fun w ↦ (⟨.workcenter, w.id, w.name,
    Facility.pathThrough siteId (wcChain.dropWhile fun v ↦ v.id != w.id)⟩ : IncrementTarget)
  ⟨.station, stationId, (row.map (·.1.name)).getD "",
      Facility.pathThrough siteId wcChain ++ [(.station, stationId)]⟩ ::
    (wcTargets ++
      [⟨.site, siteId, (row.map (·.2.name)).getD "", Facility.pathThrough siteId []⟩])

/-- Store the path and the name of a target. -/
def storeTarget (siteId : Uuid) {α : Type} (target : IncrementTarget) (next : Lookup χ α) :
    Lookup χ α :=
  store ctx .entityPaths (target.entityType, target.entityId, siteId) (target.path.map some) <|
    store ctx .entityNames (target.entityType, target.entityId) target.entityName next

def getIncrementTargets (stationId siteId : Uuid) : Lookup χ (List IncrementTarget) :=
  let targets := queryIncrementTargets t stationId siteId
  match ctx with
  | none => .done targets
  | some c => .get (LookupKey.context c .incrementTargets (stationId, siteId)) fun
    | some cached => .done cached
    | none => store ctx .incrementTargets (stationId, siteId) targets <|
        targets.foldr (storeTarget ctx siteId) <|
          store ctx .workCenterIds (.station, stationId)
            ((targetRow t stationId siteId).bind (·.1.workcenterId)) (.done targets)

def workcenterPath (siteId entityId : Uuid) : Lookup χ EntityPath :=
  inContext ctx .entityPaths (.workcenter, entityId, siteId) <|
    .done (RwServer.workcenterPath t siteId entityId)

def stationPath (siteId entityId : Uuid) : Lookup χ EntityPath :=
  inContext ctx .entityPaths (.station, entityId, siteId) <|
    match (t.facility.station entityId).bind MeteredStation.workcenterId with
    | none => .done [some (.site, siteId), some (.station, entityId)]
    | some workcenterId =>
      (workcenterPath t ctx siteId workcenterId).map (· ++ [some (.station, entityId)])

def jobPath (siteId entityId : Uuid) : Lookup χ EntityPath :=
  inContext ctx .entityPaths (.job, entityId, siteId) <|
    match existingPath t entityId with
    | some path => .done path
    | none =>
      match t.stationOfJob entityId with
      | none => .done [some (.site, siteId), some (.job, entityId)]
      | some (stationId, jobId) =>
        (stationPath t ctx siteId stationId).map (· ++ [some (.job, jobId)])

def resolveEntityPath (siteId : Uuid) (entityType : BucketEntityType) (entityId : Uuid)
    (knownPath : Option EntityPath) : Lookup χ EntityPath :=
  match knownPath.filter fun path ↦ !path.isEmpty with
  | some path => .done path
  | none =>
    match entityType with
    | .site => inContext ctx .entityPaths (.site, entityId, siteId) (.done [some (.site, siteId)])
    | .workcenter => workcenterPath t ctx siteId entityId
    | .station => stationPath t ctx siteId entityId
    | .job => jobPath t ctx siteId entityId

def resolveEntityName (entityType : BucketEntityType) (entityId : Uuid)
    (knownName : Option String) : Lookup χ String :=
  match knownName with
  | some name => .done name
  | none =>
    inContext ctx .entityNames (entityType, entityId) <|
      .done (RwServer.resolveEntityName t entityType entityId)

def getChildStationIds (entityType : BucketEntityType) (entityId : Uuid) :
    Lookup χ (List Uuid) :=
  inContext ctx .childStations (entityType, entityId) <|
    .done (RwServer.getChildStationIds t.facility entityType entityId)

/-! ## Each lookup returns what its query returns -/

variable {t ctx}

theorem ensures_inContext {m : ContextMap} {args : m.Args} {p : Lookup χ m.Value}
    (h : p.Ensures (LookupKey.Right t) (m.Right t args)) :
    (inContext ctx m args p).Ensures (LookupKey.Right t) (m.Right t args) := by
  cases ctx with
  | none => exact h
  | some c => exact Memo.Ensures.cached h

theorem ensures_store {m : ContextMap} {args : m.Args} {v : m.Value} {α : Type}
    {next : Lookup χ α} {post : α → Prop} (hv : m.Right t args v)
    (h : next.Ensures (LookupKey.Right t) post) :
    (store ctx m args v next).Ensures (LookupKey.Right t) post := by
  cases ctx with
  | none => exact h
  | some c => exact ⟨hv, h⟩

theorem ensures_getSiteTimezone (siteId : Uuid) :
    (getSiteTimezone t ctx siteId).Ensures (LookupKey.Right t)
      (· = t.facility.siteTimezone siteId) :=
  ensures_inContext (Memo.Ensures.cached rfl)

theorem ensures_resolveWorkcenterId (entityType : BucketEntityType) (entityId : Uuid) :
    (resolveWorkcenterId t ctx entityType entityId).Ensures (LookupKey.Right t)
      (· = t.facility.workcenterIdOf entityType entityId) := by
  cases entityType with
  | station => exact ensures_inContext (Memo.Ensures.cached rfl)
  | workcenter => exact rfl
  | site => exact rfl
  | job => exact rfl

theorem ensures_getShiftForEntity (entityType : BucketEntityType) (entityId siteId : Uuid)
    (timestamp : Time) :
    (getShiftForEntity t ctx entityType entityId siteId timestamp).Ensures (LookupKey.Right t)
      (· = RwServer.getShiftForEntity t.facility entityType entityId siteId timestamp) := by
  refine ensures_inContext (Memo.Ensures.cached (Memo.Ensures.map ?_))
  exact (ensures_resolveWorkcenterId entityType entityId).mono fun workCenterId h ↦ by
    rw [h]
    rfl

/-- The query looks at nothing of the shift but its start. -/
theorem getAnchorTime_congr {instances : List ShiftInstance} {shift shift' : ShiftWindow}
    (h : shift'.startTime = shift.startTime) (siteId : Uuid) (workCenterId : Option Uuid) :
    RwServer.getAnchorTime instances shift siteId workCenterId
      = RwServer.getAnchorTime instances shift' siteId workCenterId := by
  simp only [RwServer.getAnchorTime, h]

theorem ensures_getAnchorTime (shift : ShiftWindow) (siteId : Uuid) (workCenterId : Option Uuid) :
    (getAnchorTime t ctx shift siteId workCenterId).Ensures (LookupKey.Right t)
      (· = RwServer.getAnchorTime t.facility.shiftInstances shift siteId workCenterId) := by
  refine Memo.Ensures.mono (ensures_inContext (m := .anchors) (Memo.Ensures.cached ?_))
    fun v hv ↦ hv shift rfl
  exact fun shift' h ↦ getAnchorTime_congr h siteId workCenterId

theorem ensures_anchorOf (entityType : BucketEntityType) (entityId siteId : Uuid)
    (shift : ShiftWindow) :
    (anchorOf t ctx entityType entityId siteId shift).Ensures (LookupKey.Right t)
      (· = RwServer.getAnchorTime t.facility.shiftInstances shift siteId
        (t.facility.workcenterIdOf entityType entityId)) :=
  (ensures_resolveWorkcenterId entityType entityId).bind fun workCenterId h ↦ by
    rw [h]
    exact ensures_getAnchorTime shift siteId _

section

variable (entityType : BucketEntityType) (entityId siteId : Uuid) (timestamp : Time)

theorem ensures_getHourBucketsForEntity :
    (getHourBucketsForEntity t ctx entityType entityId siteId timestamp
        (t.facility.siteTimezone siteId)).Ensures (LookupKey.Right t)
      (· = RwServer.getHourBucketsForEntity t.facility entityType entityId siteId timestamp
        (t.facility.siteTimezone siteId)) := by
  refine ensures_inContext (m := .hourBucketsCache) ?_
  refine (ensures_getShiftForEntity entityType entityId siteId timestamp).bind fun shift hshift ↦ ?_
  show Memo.Ensures _ _ (· = _)
  rw [RwServer.getHourBucketsForEntity, ← hshift]
  cases shift with
  | none => exact rfl
  | some shift =>
    refine Memo.Ensures.map ((ensures_anchorOf entityType entityId siteId shift).mono fun a ha ↦ ?_)
    rw [ha]

theorem ensures_queryHourBucket (timezone : Timezone) :
    (queryHourBucket t ctx entityType entityId siteId timestamp timezone).Ensures
      (LookupKey.Right t)
      (· = RwServer.resolveHourBucketForEntity t.facility entityType entityId siteId timestamp
        timezone) := by
  refine (ensures_getShiftForEntity entityType entityId siteId timestamp).bind fun shift hshift ↦ ?_
  rw [RwServer.resolveHourBucketForEntity, ← hshift]
  cases shift with
  | none => exact rfl
  | some shift =>
    refine Memo.Ensures.map ((ensures_anchorOf entityType entityId siteId shift).mono fun a ha ↦ ?_)
    rw [ha]

theorem ensures_resolveHourBucketForEntity :
    (resolveHourBucketForEntity t ctx entityType entityId siteId timestamp
        (t.facility.siteTimezone siteId)).Ensures (LookupKey.Right t)
      (· = RwServer.resolveHourBucketForEntity t.facility entityType entityId siteId timestamp
        (t.facility.siteTimezone siteId)) := by
  cases ctx with
  | none => exact ensures_queryHourBucket entityType entityId siteId timestamp _
  | some c =>
    exact (ensures_queryHourBucket entityType entityId siteId timestamp _).cachedSome
      fun v ↦ Iff.rfl

end

/-- Where there are the station and the site, the targets are those of the plain function. -/
theorem queryIncrementTargets_eq {stationId siteId : Uuid} {station : MeteredStation} {site : Site}
    (hstation : t.facility.station stationId = some station)
    (hsite : t.facility.site siteId = some site) :
    queryIncrementTargets t stationId siteId
        = RwServer.getIncrementTargets t.facility stationId siteId ∧
      (targetRow t stationId siteId).bind (·.1.workcenterId)
        = t.facility.workcenterIdOf .station stationId := by
  have hrow : targetRow t stationId siteId = some (station, site) := by
    rw [targetRow, hstation, hsite]
    rfl
  have hworkcenter : t.facility.workcenterIdOf .station stationId = station.workcenterId := by
    rw [Facility.workcenterIdOf, hstation]
    rfl
  refine ⟨?_, by rw [hrow, hworkcenter]; rfl⟩
  rw [queryIncrementTargets, RwServer.getIncrementTargets, Facility.stationPath,
    Facility.workcentersAbove, Facility.stationName, hrow, hworkcenter, hstation, hsite]
  rfl

/-- Storing the targets stores what the lookups of their paths and names return. -/
theorem ensures_storeTargets (hsound : t.facility.Sound) {stationId siteId : Uuid} {α : Type}
    {next : Lookup χ α} {post : α → Prop} (h : next.Ensures (LookupKey.Right t) post) :
    ((RwServer.getIncrementTargets t.facility stationId siteId).foldr (storeTarget ctx siteId)
      next).Ensures (LookupKey.Right t) post := by
  have hright := fun target htarget ↦
    @right_of_mem_getIncrementTargets t hsound stationId siteId target htarget
  generalize RwServer.getIncrementTargets t.facility stationId siteId = targets at hright
  induction targets with
  | nil => exact h
  | cons target targets ih =>
    obtain ⟨hpath, hname⟩ := hright target List.mem_cons_self
    exact ensures_store (m := .entityPaths) hpath <| ensures_store (m := .entityNames) hname <|
      ih fun target' hmem ↦ hright target' (List.mem_cons_of_mem _ hmem)

theorem ensures_getIncrementTargets (hsound : t.facility.Sound) {stationId siteId : Uuid}
    (hstation : (t.facility.station stationId).isSome = true)
    (hsite : (t.facility.site siteId).isSome = true) :
    (getIncrementTargets t ctx stationId siteId).Ensures (LookupKey.Right t)
      (· = RwServer.getIncrementTargets t.facility stationId siteId) := by
  obtain ⟨station, hstation⟩ := Option.isSome_iff_exists.mp hstation
  obtain ⟨site, hsite⟩ := Option.isSome_iff_exists.mp hsite
  obtain ⟨htargets, hworkcenter⟩ := queryIncrementTargets_eq hstation hsite
  unfold getIncrementTargets
  dsimp only
  rw [htargets]
  cases ctx with
  | none => exact rfl
  | some c =>
    refine ⟨ensures_store (m := .incrementTargets) rfl <| ensures_storeTargets hsound <|
      ensures_store (m := .workCenterIds) hworkcenter rfl, fun cached hcached ↦ hcached⟩

section

variable (siteId entityId : Uuid)

theorem ensures_workcenterPath :
    (workcenterPath t ctx siteId entityId).Ensures (LookupKey.Right t)
      (· = RwServer.workcenterPath t siteId entityId) :=
  ensures_inContext (m := .entityPaths) rfl

theorem ensures_stationPath :
    (stationPath t ctx siteId entityId).Ensures (LookupKey.Right t)
      (· = RwServer.stationPath t siteId entityId) := by
  refine ensures_inContext (m := .entityPaths) ?_
  show Memo.Ensures _ _ (· = RwServer.stationPath t siteId entityId)
  rw [RwServer.stationPath, Facility.workcenterIdOf]
  cases (t.facility.station entityId).bind MeteredStation.workcenterId with
  | none => exact rfl
  | some workcenterId =>
    refine Memo.Ensures.map ((ensures_workcenterPath siteId workcenterId).mono fun path hpath ↦ ?_)
    rw [hpath]

theorem ensures_jobPath :
    (jobPath t ctx siteId entityId).Ensures (LookupKey.Right t)
      (· = RwServer.resolveEntityPath t siteId .job entityId) := by
  refine ensures_inContext (m := .entityPaths) ?_
  show Memo.Ensures _ _ (· = RwServer.resolveEntityPath t siteId .job entityId)
  rw [RwServer.resolveEntityPath]
  cases existingPath t entityId with
  | some path => exact rfl
  | none =>
    cases t.stationOfJob entityId with
    | none => exact rfl
    | some found =>
      refine Memo.Ensures.map ((ensures_stationPath siteId found.1).mono fun path hpath ↦ ?_)
      rw [hpath]

end

/-- A path that the caller knows is taken as it is. -/
theorem ensures_resolveEntityPath (siteId : Uuid) (entityType : BucketEntityType) (entityId : Uuid)
    (knownPath : Option EntityPath) :
    (resolveEntityPath t ctx siteId entityType entityId knownPath).Ensures (LookupKey.Right t)
      (· = (knownPath.filter fun path ↦ !path.isEmpty).getD
        (RwServer.resolveEntityPath t siteId entityType entityId)) := by
  unfold resolveEntityPath
  cases knownPath.filter fun path ↦ !path.isEmpty with
  | some path => exact rfl
  | none =>
    cases entityType with
    | site => exact ensures_inContext (m := .entityPaths) rfl
    | workcenter => exact ensures_workcenterPath siteId entityId
    | station => exact ensures_stationPath siteId entityId
    | job => exact ensures_jobPath siteId entityId

theorem ensures_resolveEntityName (entityType : BucketEntityType) (entityId : Uuid)
    (knownName : Option String) :
    (resolveEntityName t ctx entityType entityId knownName).Ensures (LookupKey.Right t)
      (· = knownName.getD (RwServer.resolveEntityName t entityType entityId)) := by
  cases knownName with
  | some name => exact rfl
  | none => exact ensures_inContext (m := .entityNames) rfl

theorem ensures_getChildStationIds (entityType : BucketEntityType) (entityId : Uuid) :
    (getChildStationIds t ctx entityType entityId).Ensures (LookupKey.Right t)
      (· = RwServer.getChildStationIds t.facility entityType entityId) :=
  ensures_inContext (m := .childStations) rfl

end Cached

/-! ## Calls -/

/-- A call of a lookup. -/
inductive LookupCall
  | getSiteTimezone (siteId : Uuid)
  | getShiftForEntity (entityType : BucketEntityType) (entityId siteId : Uuid) (timestamp : Time)
  | getHourBucketsForEntity (entityType : BucketEntityType) (entityId siteId : Uuid)
      (timestamp : Time) (timezone : Timezone)
  | resolveHourBucketForEntity (entityType : BucketEntityType) (entityId siteId : Uuid)
      (timestamp : Time) (timezone : Timezone)
  | getIncrementTargets (stationId siteId : Uuid)
  | resolveEntityPath (siteId : Uuid) (entityType : BucketEntityType) (entityId : Uuid)
      (knownPath : Option EntityPath)
  | resolveEntityName (entityType : BucketEntityType) (entityId : Uuid) (knownName : Option String)
  | getChildStationIds (entityType : BucketEntityType) (entityId : Uuid)

inductive LookupResult
  | timezone (timezone : Timezone)
  | shift (shift : Option ShiftWindow)
  | hourBuckets (buckets : List HourBucket)
  | hourBucket (bucket : Option HourBucket)
  | targets (targets : List IncrementTarget)
  | path (path : EntityPath)
  | name (name : String)
  | stationIds (ids : List Uuid)

namespace LookupCall

variable (t : LookupTables)

/-- The result without caches. -/
def plain : LookupCall → LookupResult
  | .getSiteTimezone siteId => .timezone (t.facility.siteTimezone siteId)
  | .getShiftForEntity entityType entityId siteId timestamp =>
    .shift (RwServer.getShiftForEntity t.facility entityType entityId siteId timestamp)
  | .getHourBucketsForEntity entityType entityId siteId timestamp timezone =>
    .hourBuckets
      (RwServer.getHourBucketsForEntity t.facility entityType entityId siteId timestamp timezone)
  | .resolveHourBucketForEntity entityType entityId siteId timestamp timezone =>
    .hourBucket
      (RwServer.resolveHourBucketForEntity t.facility entityType entityId siteId timestamp timezone)
  | .getIncrementTargets stationId siteId =>
    .targets (RwServer.getIncrementTargets t.facility stationId siteId)
  | .resolveEntityPath siteId entityType entityId knownPath =>
    .path ((knownPath.filter fun path ↦ !path.isEmpty).getD
      (RwServer.resolveEntityPath t siteId entityType entityId))
  | .resolveEntityName entityType entityId knownName =>
    .name (knownName.getD (RwServer.resolveEntityName t entityType entityId))
  | .getChildStationIds entityType entityId =>
    .stationIds (RwServer.getChildStationIds t.facility entityType entityId)

/-- The lookup, with the context it is given. -/
def program {χ : Type} (ctx : Option χ) : LookupCall → Cached.Lookup χ LookupResult
  | .getSiteTimezone siteId => (Cached.getSiteTimezone t ctx siteId).map .timezone
  | .getShiftForEntity entityType entityId siteId timestamp =>
    (Cached.getShiftForEntity t ctx entityType entityId siteId timestamp).map .shift
  | .getHourBucketsForEntity entityType entityId siteId timestamp timezone =>
    (Cached.getHourBucketsForEntity t ctx entityType entityId siteId timestamp timezone).map
      .hourBuckets
  | .resolveHourBucketForEntity entityType entityId siteId timestamp timezone =>
    (Cached.resolveHourBucketForEntity t ctx entityType entityId siteId timestamp timezone).map
      .hourBucket
  | .getIncrementTargets stationId siteId =>
    (Cached.getIncrementTargets t ctx stationId siteId).map .targets
  | .resolveEntityPath siteId entityType entityId knownPath =>
    (Cached.resolveEntityPath t ctx siteId entityType entityId knownPath).map .path
  | .resolveEntityName entityType entityId knownName =>
    (Cached.resolveEntityName t ctx entityType entityId knownName).map .name
  | .getChildStationIds entityType entityId =>
    (Cached.getChildStationIds t ctx entityType entityId).map .stationIds

/-- The time zone that is passed is that of the site, and targets are asked for a station and a site
that there are. -/
def Admissible : LookupCall → Prop
  | .getHourBucketsForEntity _ _ siteId _ timezone => timezone = t.facility.siteTimezone siteId
  | .resolveHourBucketForEntity _ _ siteId _ timezone => timezone = t.facility.siteTimezone siteId
  | .getIncrementTargets stationId siteId =>
    (t.facility.station stationId).isSome = true ∧ (t.facility.site siteId).isSome = true
  | _ => True

variable {t}

/-- A lookup stores only what is right, and returns what it returns without caches. -/
theorem ensures_program {χ : Type} (hsound : t.facility.Sound) (ctx : Option χ) {call : LookupCall}
    (h : call.Admissible t) :
    (call.program t ctx).Ensures (LookupKey.Right t) (· = call.plain t) := by
  cases call with
  | getSiteTimezone siteId =>
    exact .map ((Cached.ensures_getSiteTimezone siteId).mono fun _ h ↦ congrArg _ h)
  | getShiftForEntity entityType entityId siteId timestamp =>
    exact .map ((Cached.ensures_getShiftForEntity entityType entityId siteId timestamp).mono
      fun _ h ↦ congrArg _ h)
  | getHourBucketsForEntity entityType entityId siteId timestamp timezone =>
    obtain rfl : timezone = _ := h
    exact .map ((Cached.ensures_getHourBucketsForEntity entityType entityId siteId timestamp).mono
      fun _ h ↦ congrArg _ h)
  | resolveHourBucketForEntity entityType entityId siteId timestamp timezone =>
    obtain rfl : timezone = _ := h
    exact .map ((Cached.ensures_resolveHourBucketForEntity entityType entityId siteId
      timestamp).mono fun _ h ↦ congrArg _ h)
  | getIncrementTargets stationId siteId =>
    exact .map ((Cached.ensures_getIncrementTargets hsound h.1 h.2).mono fun _ h ↦ congrArg _ h)
  | resolveEntityPath siteId entityType entityId knownPath =>
    exact .map ((Cached.ensures_resolveEntityPath siteId entityType entityId knownPath).mono
      fun _ h ↦ congrArg _ h)
  | resolveEntityName entityType entityId knownName =>
    exact .map ((Cached.ensures_resolveEntityName entityType entityId knownName).mono
      fun _ h ↦ congrArg _ h)
  | getChildStationIds entityType entityId =>
    exact .map ((Cached.ensures_getChildStationIds entityType entityId).mono
      fun _ h ↦ congrArg _ h)

end LookupCall

/-! ## The caches change nothing -/

section

variable {χ ι : Type} [DecidableEq χ] [DecidableEq ι] (text : KeyTexts) (t : LookupTables)

/-- Each call has the context that it is given, or none. -/
def lookupsStart (calls : ι → Option χ × LookupCall) :
    Calls ι (LookupCaches χ) (Cached.Lookup χ LookupResult) :=
  ⟨.new, fun i ↦ (calls i).2.program t (calls i).1⟩

theorem correct_new : (@lookupCaches χ _ text).Correct (LookupKey.Right t) .new := by
  intro k v h
  cases k with
  | context c m args =>
    exact absurd h (by simp [lookupCaches, LookupCaches.Holds, LookupCaches.new])
  | process m args =>
    obtain ⟨expiresAt, h⟩ := h
    cases m <;> cases h

variable {text t}

end

/-- Ids and times in decimal. -/
def decimalTexts : KeyTexts where
  uuid := Nat.repr
  time := Int.repr
  uuid_injective := fun _ _ h ↦ Nat.repr_injective h
  time_injective := fun _ _ h ↦ Int.repr_injective h
  uuid_colon := not_mem_repr_of_not_isDigit (by decide)
  time_colon := by
    intro t
    cases t with
    | ofNat n => exact not_mem_repr_of_not_isDigit (by decide) n
    | negSucc n =>
      have hsign : (Int.negSucc n).repr.toList = '-' :: (n + 1).repr.toList := by simp [Int.repr]
      rw [hsign]
      exact List.not_mem_cons_of_ne_of_not_mem (by decide)
        (not_mem_repr_of_not_isDigit (by decide) _)
  uuid_ne_null := by
    intro id h
    exact not_mem_repr_of_not_isDigit (c := 'n') (by decide) id (h ▸ by decide)

def twoLevelTables : LookupTables where
  facility := twoLevels
  jobBuckets := []
  jobName := fun _ ↦ none
  jobEntityId := fun _ jobId ↦ jobId

/-- Two pipelines, the first one with two lookups, and a lookup without a context. -/
def twoLevelsCalls : Fin 4 → Option Bool × LookupCall :=
  ![(some true, .getIncrementTargets 2 1), (some true, .resolveEntityPath 1 .workcenter 5 none),
    (some false, .resolveHourBucketForEntity .station 2 1 5400000 .utc),
    (none, .getShiftForEntity .station 2 1 5400000)]

end RwServer
