import Mathlib
import RwServer.Foundation.History
import RwServer.Foundation.LruMap
import RwServer.Station.StateLog

/-!
# The lookup caches

`TtlCache` keeps the results of lookups for a time, and at most so many of them. Its entries are in
a `Map`, which iterates over its keys in the order in which they came in, and both a `get` that hits
and a `set` delete the key before they set it. So the first key of the `Map` is the one to evict.

`ttlCache_refines_lru` says what the callers of a cache see of it.
-/

namespace RwServer

/-- `Entry<T>`. -/
structure TtlEntry (ν : Type*) where
  value : ν
  expiresAt : Time
deriving DecidableEq

structure TtlCache (ν : Type*) where
  map : OrderedMap String (TtlEntry ν)
  ttlMs : Time
  maxSize : ℕ

namespace TtlCache

variable {ν : Type*}

/-- `new TtlCache({ ttlMs, maxSize })`. -/
def new (ttlMs : Time) (maxSize : ℕ) : TtlCache ν := ⟨.empty, ttlMs, maxSize⟩

/-- `get`, where `now` is what `Date.now()` returns. -/
def get (cache : TtlCache ν) (key : String) (now : Time) : Option ν × TtlCache ν :=
  match cache.map.get? key with
  | none => (none, cache)
  | some entry =>
    if entry.expiresAt < now then (none, { cache with map := cache.map.delete key })
    -- the entry stays as it is, and its key becomes the last one
    else (some entry.value, { cache with map := (cache.map.delete key).set key entry })

/-- `set`, where `now` is what `Date.now()` returns. -/
def set (cache : TtlCache ν) (key : String) (value : ν) (now : Time) : TtlCache ν :=
  { cache with
    map := ((cache.map.delete key).evict cache.maxSize).set key ⟨value, now + cache.ttlMs⟩ }

/-- `clear`. -/
def clear (cache : TtlCache ν) : TtlCache ν := { cache with map := .empty }

def size (cache : TtlCache ν) : ℕ := cache.map.size

/-- The keys that a `set` takes out of the cache. -/
def evicted (cache : TtlCache ν) (key : String) (value : ν) (now : Time) : List String :=
  cache.map.keys.filter fun old ↦ !(cache.set key value now).map.has old

end TtlCache

/-! ## Calls -/

inductive TtlOp (ν : Type*)
  | get (key : String)
  | set (key : String) (value : ν)
  | clear
deriving DecidableEq

/-- A call of a method, and what `Date.now()` returns during it. -/
structure TtlCall (ν : Type*) where
  op : TtlOp ν
  now : Time
deriving DecidableEq

namespace TtlCache

variable {ν : Type*}

/-- The cache after a call. -/
def call (cache : TtlCache ν) (c : TtlCall ν) : TtlCache ν :=
  match c.op with
  | .get key => (cache.get key c.now).2
  | .set key value => cache.set key value c.now
  | .clear => cache.clear

/-- A new cache after some calls. -/
def after (ttlMs : Time) (maxSize : ℕ) (calls : List (TtlCall ν)) : TtlCache ν :=
  calls.foldl call (.new ttlMs maxSize)

/-- The call sets the key, or gets its value. -/
def Uses (cache : TtlCache ν) (c : TtlCall ν) (key : String) : Prop :=
  match c.op with
  | .get key' => key' = key ∧ (cache.get key' c.now).1.isSome = true
  | .set key' _ => key' = key
  | .clear => False

/-- The call sets the key, evicts it, or clears the cache. -/
def Overrides (cache : TtlCache ν) (c : TtlCall ν) (key : String) : Prop :=
  match c.op with
  | .get _ => False
  | .set key' value => key' = key ∨ key ∈ cache.evicted key' value c.now
  | .clear => True

/-- The call at `i` uses the key. -/
def UsedAt (ttlMs : Time) (maxSize : ℕ) (calls : List (TtlCall ν)) (key : String) (i : ℕ) : Prop :=
  History.HoldsAt (fun earlier c ↦ (after ttlMs maxSize earlier).Uses c key) calls i

/-- The last `set` of the key was one of this value at this time, and the key has been neither
cleared nor evicted since. -/
def LastSet (ttlMs : Time) (maxSize : ℕ) (calls : List (TtlCall ν)) (key : String) (value : ν)
    (setAt : Time) : Prop :=
  History.Since (fun _ c ↦ c = ⟨.set key value, setAt⟩)
    (fun earlier c ↦ (after ttlMs maxSize earlier).Overrides c key) calls

/-- The key is stored, and every other key that is has been used after its last use. -/
def LeastRecentlyUsed (ttlMs : Time) (maxSize : ℕ) (calls : List (TtlCall ν)) (key : String) :
    Prop :=
  key ∈ (after ttlMs maxSize calls).map.keys ∧
    ∀ other ∈ (after ttlMs maxSize calls).map.keys, other ≠ key →
      ∃ i, UsedAt ttlMs maxSize calls other i ∧ ∀ j, UsedAt ttlMs maxSize calls key j → j < i

end TtlCache

/-- The calls of a least recently used map. -/
noncomputable def lruCall (ttlMs : Time) (maxSize : ℕ) {ν : Type*} (r : LruMap String ν Time)
    (c : TtlCall ν) : LruMap String ν Time :=
  match c.op with
  | .get key => (r.get ttlMs key c.now).2
  | .set key value => r.set maxSize key value c.now
  | .clear => r.clear

/-- A least recently used map after the calls. -/
noncomputable def lruAfter (ttlMs : Time) (maxSize : ℕ) {ν : Type*} (calls : List (TtlCall ν)) :
    LruMap String ν Time := calls.foldl (lruCall ttlMs maxSize) .empty

/-! ## The refinement -/

namespace TtlCache

variable {ν : Type*} {ttlMs : Time} {maxSize : ℕ} {cache : TtlCache ν} {r : LruMap String ν Time}

/-- The cache stores the map, in the order of the last uses, and has room for its keys. -/
structure Implements (ttlMs : Time) (maxSize : ℕ) (cache : TtlCache ν)
    (r : LruMap String ν Time) : Prop where
  ttlMs_eq : cache.ttlMs = ttlMs
  maxSize_eq : cache.maxSize = maxSize
  refines : cache.map.Refines (fun value setAt ↦ ⟨value, setAt + ttlMs⟩) r
  size_le : cache.map.size ≤ maxSize

theorem Implements.new : Implements ttlMs maxSize (.new ttlMs maxSize : TtlCache ν) .empty :=
  ⟨rfl, rfl, .empty, Nat.zero_le _⟩

/-- A `get` returns the same, and keeps the refinement. -/
theorem Implements.get (h : Implements ttlMs maxSize cache r) (key : String) (now : Time) :
    (cache.get key now).1 = (r.get ttlMs key now).1 ∧
      Implements ttlMs maxSize (cache.get key now).2 (r.get ttlMs key now).2 := by
  have hget := h.refines.get?_eq key
  have hdelete := h.refines.delete key
  rw [TtlCache.get]
  cases hslot : r.slot key with
  | none =>
    rw [hslot, Option.map_none] at hget
    rw [hget, LruMap.get_of_none hslot]
    exact ⟨rfl, h.ttlMs_eq, h.maxSize_eq, h.refines.tick, h.size_le⟩
  | some s =>
    rw [hslot, Option.map_some] at hget
    rw [hget]
    dsimp only
    by_cases hexpired : s.setAt + ttlMs < now
    · rw [if_pos hexpired, LruMap.get_of_not_le hslot (not_le.mpr hexpired)]
      exact ⟨rfl, h.ttlMs_eq, h.maxSize_eq, hdelete.tick,
        (cache.map.size_delete_le key).trans h.size_le⟩
    · have hnone : (cache.map.delete key).get? key = none := by
        rw [OrderedMap.get?_delete, if_pos rfl]
      have hput := hdelete.put hnone s.value s.setAt
      rw [LruMap.restrict_put] at hput
      rw [if_neg hexpired, LruMap.get_of_le hslot (not_lt.mp hexpired)]
      refine ⟨rfl, h.ttlMs_eq, h.maxSize_eq, hput, ?_⟩
      have hset : ((cache.map.delete key).set key ⟨s.value, s.setAt + ttlMs⟩).size
          = (cache.map.delete key).size + 1 := OrderedMap.size_set_of_get?_eq_none hnone _
      have hlt := OrderedMap.size_delete_lt hget
      have hle := h.size_le
      dsimp only
      omega

/-- The key that is set has been deleted before, and is not there when it is set. -/
theorem get?_evict_delete (m : OrderedMap String (TtlEntry ν)) (limit : ℕ) (key : String) :
    ((m.delete key).evict limit).get? key = none := by
  have hnone : (m.delete key).get? key = none := by
    rw [OrderedMap.get?_delete, if_pos rfl]
  rcases (m.delete key).get?_evict limit key with h | h
  · exact h.trans hnone
  · exact h

/-- A `set` keeps the refinement. -/
theorem Implements.set (h : Implements ttlMs maxSize cache r) (hmax : 1 ≤ maxSize) (key : String)
    (value : ν) (now : Time) :
    Implements ttlMs maxSize (cache.set key value now) (r.set maxSize key value now) := by
  obtain ⟨rfl, rfl, hrefines, hsize⟩ := h
  have hnone := get?_evict_delete cache.map cache.maxSize key
  have hdeleted : (cache.map.delete key).size ≤ cache.maxSize :=
    (cache.map.size_delete_le key).trans hsize
  refine ⟨rfl, rfl, ((hrefines.delete key).makeRoom hmax hdeleted).put hnone value now, ?_⟩
  have hset := OrderedMap.size_set_of_get?_eq_none hnone ⟨value, now + cache.ttlMs⟩
  have hroom := OrderedMap.size_evict cache.maxSize (cache.map.delete key)
  rw [TtlCache.set]
  dsimp only
  omega

theorem Implements.clear (h : Implements ttlMs maxSize cache r) :
    Implements ttlMs maxSize cache.clear r.clear := by
  refine ⟨h.ttlMs_eq, h.maxSize_eq, ⟨fun key ↦ ?_, List.Pairwise.nil⟩, Nat.zero_le _⟩
  rw [LruMap.clear, LruMap.slot_tick, LruMap.slot_restrict, if_neg id]
  rfl

theorem Implements.call (h : Implements ttlMs maxSize cache r) (hmax : 1 ≤ maxSize)
    (c : TtlCall ν) : Implements ttlMs maxSize (cache.call c) (lruCall ttlMs maxSize r c) := by
  obtain ⟨op, now⟩ := c
  cases op with
  | get key => exact (h.get key now).2
  | set key value => exact h.set hmax key value now
  | clear => exact h.clear

theorem after_snoc (calls : List (TtlCall ν)) (c : TtlCall ν) :
    after ttlMs maxSize (calls ++ [c]) = (after ttlMs maxSize calls).call c := by
  rw [after, after, List.foldl_append, List.foldl_cons, List.foldl_nil]

theorem lruAfter_snoc (calls : List (TtlCall ν)) (c : TtlCall ν) :
    lruAfter ttlMs maxSize (calls ++ [c])
      = lruCall ttlMs maxSize (lruAfter ttlMs maxSize calls) c := by
  rw [lruAfter, lruAfter, List.foldl_append, List.foldl_cons, List.foldl_nil]

/-- **The simulation**, call by call. -/
theorem implements_after (hmax : 1 ≤ maxSize) (calls : List (TtlCall ν)) :
    Implements ttlMs maxSize (after ttlMs maxSize calls) (lruAfter ttlMs maxSize calls) := by
  induction calls using List.reverseRecOn with
  | nil => exact .new
  | append_singleton calls c ih =>
    rw [after_snoc, lruAfter_snoc]
    exact ih.call hmax c

/-! ## What a call does to a key -/

theorem Implements.mem_keys_iff (h : Implements ttlMs maxSize cache r) (key : String) :
    key ∈ cache.map.keys ↔ ∃ s, r.slot key = some s :=
  h.refines.mem_keys_iff.trans Option.isSome_iff_exists

theorem mem_evicted_iff {key old : String} {value : ν} {now : Time} :
    old ∈ cache.evicted key value now ↔
      old ∈ cache.map.keys ∧ old ∉ (cache.set key value now).map.keys := by
  rw [evicted, List.mem_filter, Bool.not_eq_true', ← Bool.not_eq_true, OrderedMap.mem_keys_iff,
    OrderedMap.mem_keys_iff]

/-- What a call does to the slot of a key: a use renews it, and another call keeps it, or empties it
because the key is overridden or its value has expired. -/
inductive SlotChange (ttlMs : Time) (cache : TtlCache ν) (r r' : LruMap String ν Time)
    (c : TtlCall ν) (key : String) : Prop
  | set (value : ν) : c.op = .set key value → r'.slot key = some ⟨value, c.now, r.calls⟩ →
      SlotChange ttlMs cache r r' c key
  | hit (s : LruSlot ν Time) : c.op = .get key → cache.Uses c key → r.slot key = some s →
      r'.slot key = some ⟨s.value, s.setAt, r.calls⟩ → SlotChange ttlMs cache r r' c key
  | kept : ¬cache.Uses c key → ¬cache.Overrides c key → r'.slot key = r.slot key →
      SlotChange ttlMs cache r r' c key
  | emptied : ¬cache.Uses c key → r'.slot key = none →
      (cache.Overrides c key ∨ ∀ s, r.slot key = some s → s.setAt + ttlMs < c.now) →
      SlotChange ttlMs cache r r' c key

theorem Implements.slotChange_get (h : Implements ttlMs maxSize cache r) (key' key : String)
    (now : Time) :
    SlotChange ttlMs cache r (r.get ttlMs key' now).2 ⟨.get key', now⟩ key := by
  by_cases hkey : key' = key
  · subst hkey
    have hsame := (h.get key' now).1
    cases hslot : r.slot key' with
    | none =>
      rw [LruMap.get_of_none hslot] at hsame
      have hmiss : ¬cache.Uses ⟨.get key', now⟩ key' := by simp [Uses, hsame]
      refine .kept hmiss id ?_
      rw [LruMap.get_of_none hslot, LruMap.slot_tick]
    | some s =>
      by_cases hle : now ≤ s.setAt + ttlMs
      · rw [LruMap.get_of_le hslot hle] at hsame
        have hhit : cache.Uses ⟨.get key', now⟩ key' := by simp [Uses, hsame]
        refine .hit s rfl hhit hslot ?_
        rw [LruMap.get_of_le hslot hle, LruMap.slot_put_self]
      · rw [LruMap.get_of_not_le hslot hle] at hsame
        have hmiss : ¬cache.Uses ⟨.get key', now⟩ key' := by simp [Uses, hsame]
        refine .emptied hmiss ?_ (.inr fun s' hs' ↦ ?_)
        · rw [LruMap.get_of_not_le hslot hle, LruMap.slot_tick, LruMap.slot_restrict,
            if_neg (not_not_intro rfl)]
        · cases hslot.symm.trans hs'
          exact not_le.mp hle
  · exact .kept (fun huses ↦ hkey huses.1) id (LruMap.slot_get_of_ne (Ne.symm hkey))

theorem Implements.slotChange_set (h : Implements ttlMs maxSize cache r) (hmax : 1 ≤ maxSize)
    (key' key : String) (value : ν) (now : Time) :
    SlotChange ttlMs cache r (r.set maxSize key' value now) ⟨.set key' value, now⟩ key := by
  by_cases hkey : key' = key
  · subst hkey
    refine .set value rfl ?_
    rw [LruMap.slot_set_self]
  · have hstored := h.mem_keys_iff key
    have hstored' := (h.set hmax key' value now).mem_keys_iff key
    rcases LruMap.slot_set_of_ne (Ne.symm hkey) with hslot | hslot
    · refine .kept hkey ?_ hslot
      rintro (heq | hevicted)
      · exact hkey heq
      · obtain ⟨hmem, hnot⟩ := mem_evicted_iff.mp hevicted
        rw [hstored', hslot, ← hstored] at hnot
        exact hnot hmem
    · refine .emptied hkey hslot ?_
      cases hold : r.slot key with
      | none => exact .inr nofun
      | some s =>
        refine .inl (.inr (mem_evicted_iff.mpr ⟨hstored.mpr ⟨s, hold⟩, ?_⟩))
        rw [hstored', hslot]
        exact nofun

theorem Implements.slotChange (h : Implements ttlMs maxSize cache r) (hmax : 1 ≤ maxSize)
    (c : TtlCall ν) (key : String) :
    SlotChange ttlMs cache r (lruCall ttlMs maxSize r c) c key := by
  obtain ⟨op, now⟩ := c
  cases op with
  | get key' => exact h.slotChange_get key' key now
  | set key' value => exact h.slotChange_set hmax key' key value now
  | clear => exact .emptied id rfl (.inl trivial)

/-! ## The history of a key -/

section

variable {calls : List (TtlCall ν)} {c : TtlCall ν} {key : String} {value : ν} {setAt : Time}

theorem usedAt_snoc {i : ℕ} : UsedAt ttlMs maxSize (calls ++ [c]) key i ↔
    UsedAt ttlMs maxSize calls key i ∨
      i = calls.length ∧ (after ttlMs maxSize calls).Uses c key :=
  History.holdsAt_snoc

theorem lastSet_snoc : LastSet ttlMs maxSize (calls ++ [c]) key value setAt ↔
    c = ⟨.set key value, setAt⟩ ∨
      LastSet ttlMs maxSize calls key value setAt ∧
        ¬(after ttlMs maxSize calls).Overrides c key :=
  History.since_snoc

/-- The slot of a key is what the history says: the last use of the key, and its last `set`. A last
`set` without a slot is of a value that has expired. -/
structure Recorded (ttlMs : Time) (maxSize : ℕ) (calls : List (TtlCall ν)) (key : String)
    (slot : Option (LruSlot ν Time)) : Prop where
  usedAt : ∀ s, slot = some s → UsedAt ttlMs maxSize calls key s.usedAt
  le_usedAt : ∀ s i, slot = some s → UsedAt ttlMs maxSize calls key i → i ≤ s.usedAt
  lastSet : ∀ s, slot = some s → LastSet ttlMs maxSize calls key s.value s.setAt
  slot_or_expired : ∀ value setAt, LastSet ttlMs maxSize calls key value setAt →
    (∃ s, slot = some s ∧ s.value = value ∧ s.setAt = setAt) ∨
      ∃ c ∈ calls, setAt + ttlMs < c.now

/-- A key that is used with the value of its last `set`. -/
theorem recorded_of_uses (huses : (after ttlMs maxSize calls).Uses c key)
    (hset : LastSet ttlMs maxSize (calls ++ [c]) key value setAt)
    (hunique : ∀ value' setAt', LastSet ttlMs maxSize (calls ++ [c]) key value' setAt' →
      (value = value' ∧ setAt = setAt') ∨ ∃ c' ∈ calls ++ [c], setAt' + ttlMs < c'.now) :
    Recorded ttlMs maxSize (calls ++ [c]) key (some ⟨value, setAt, calls.length⟩) where
  usedAt s hs := by
    cases hs
    exact usedAt_snoc.mpr (.inr ⟨rfl, huses⟩)
  le_usedAt s i hs hi := by
    cases hs
    have hlength := History.HoldsAt.lt_length hi
    rw [List.length_append, List.length_singleton] at hlength
    exact Nat.le_of_lt_succ hlength
  lastSet s hs := by
    cases hs
    exact hset
  slot_or_expired value' setAt' h := (hunique value' setAt' h).imp_left fun heq ↦ ⟨_, rfl, heq⟩

/-- **One more call** keeps the record of a key. -/
theorem Recorded.call {r' : LruMap String ν Time}
    (h : Recorded ttlMs maxSize calls key (r.slot key)) (hcalls : r.calls = calls.length)
    (hchange : SlotChange ttlMs (after ttlMs maxSize calls) r r' c key) :
    Recorded ttlMs maxSize (calls ++ [c]) key (r'.slot key) := by
  -- an expiry that an earlier call has seen stays one
  have hearlier : ∀ {setAt' : Time}, (∃ c' ∈ calls, setAt' + ttlMs < c'.now) →
      ∃ c' ∈ calls ++ [c], setAt' + ttlMs < c'.now := by
    rintro setAt' ⟨c', hc', hexpired⟩
    exact ⟨c', List.mem_append_left _ hc', hexpired⟩
  cases hchange with
  | set value hop hslot =>
    obtain ⟨op, now⟩ := c
    cases hop
    rw [hslot, hcalls]
    refine recorded_of_uses rfl (lastSet_snoc.mpr (.inl rfl)) fun value' setAt' h' ↦ ?_
    rcases lastSet_snoc.mp h' with heq | ⟨-, hkept⟩
    · cases heq
      exact .inl ⟨rfl, rfl⟩
    · exact absurd (.inl rfl) hkept
  | hit s hop huses hold hslot =>
    obtain ⟨op, now⟩ := c
    cases hop
    rw [hslot, hcalls]
    refine recorded_of_uses huses (lastSet_snoc.mpr (.inr ⟨h.lastSet s hold, id⟩))
      fun value' setAt' h' ↦ ?_
    rcases lastSet_snoc.mp h' with heq | ⟨hset, -⟩
    · cases heq
    · rcases h.slot_or_expired _ _ hset with ⟨s', hs', rfl, rfl⟩ | hexpired
      · cases hold.symm.trans hs'
        exact .inl ⟨rfl, rfl⟩
      · exact .inr (hearlier hexpired)
  | kept hnot hkept hslot =>
    rw [hslot]
    refine ⟨fun s hs ↦ usedAt_snoc.mpr (.inl (h.usedAt s hs)), fun s i hs hi ↦ ?_,
      fun s hs ↦ lastSet_snoc.mpr (.inr ⟨h.lastSet s hs, hkept⟩), fun value' setAt' h' ↦ ?_⟩
    · rcases usedAt_snoc.mp hi with hi | ⟨-, huses⟩
      · exact h.le_usedAt s i hs hi
      · exact absurd huses hnot
    · rcases lastSet_snoc.mp h' with rfl | ⟨hset, -⟩
      · exact absurd (.inl rfl) hkept
      · exact (h.slot_or_expired _ _ hset).imp_right hearlier
  | emptied hnot hslot hwhy =>
    rw [hslot]
    refine ⟨nofun, nofun, nofun, fun value' setAt' h' ↦ ?_⟩
    rcases lastSet_snoc.mp h' with rfl | ⟨hset, hkept⟩
    · exact absurd rfl hnot
    · refine .inr ?_
      rcases h.slot_or_expired _ _ hset with ⟨s, hs, rfl, rfl⟩ | hexpired
      · have hexpired := hwhy.resolve_left hkept s hs
        exact ⟨c, List.mem_append_right _ List.mem_cons_self, hexpired⟩
      · exact hearlier hexpired

theorem calls_lruCall (r : LruMap String ν Time) (c : TtlCall ν) :
    (lruCall ttlMs maxSize r c).calls = r.calls + 1 := by
  obtain ⟨op, now⟩ := c
  cases op with
  | get key => exact LruMap.calls_get
  | set key value => exact LruMap.calls_set
  | clear => rfl

theorem calls_lruAfter (calls : List (TtlCall ν)) :
    (lruAfter ttlMs maxSize calls).calls = calls.length := by
  induction calls using List.reverseRecOn with
  | nil => rfl
  | append_singleton calls c ih =>
    rw [lruAfter_snoc, calls_lruCall, ih, List.length_append, List.length_singleton]

theorem recorded_lruAfter (hmax : 1 ≤ maxSize) (calls : List (TtlCall ν)) (key : String) :
    Recorded ttlMs maxSize calls key ((lruAfter ttlMs maxSize calls).slot key) := by
  induction calls using List.reverseRecOn with
  | nil => exact ⟨nofun, nofun, nofun, fun _ _ h ↦ absurd h History.not_since_nil⟩
  | append_singleton calls c ih =>
    rw [lruAfter_snoc]
    exact ih.call (calls_lruAfter calls) ((implements_after hmax calls).slotChange hmax c key)

/-! ## What the callers see -/

/-- A `get` sees the last `set`, unless its value has expired. -/
theorem get_eq_some_iff (hmax : 1 ≤ maxSize) {now : Time} (hnow : ∀ c ∈ calls, c.now ≤ now) :
    ((after ttlMs maxSize calls).get key now).1 = some value ↔
      ∃ setAt, LastSet ttlMs maxSize calls key value setAt ∧ now ≤ setAt + ttlMs := by
  have hrecorded : Recorded ttlMs maxSize calls key ((lruAfter ttlMs maxSize calls).slot key) :=
    recorded_lruAfter hmax calls key
  rw [((implements_after hmax calls).get key now).1]
  constructor
  · intro hget
    cases hslot : (lruAfter ttlMs maxSize calls).slot key with
    | none =>
      rw [LruMap.get_of_none hslot] at hget
      cases hget
    | some s =>
      by_cases hle : now ≤ s.setAt + ttlMs
      · rw [LruMap.get_of_le hslot hle] at hget
        cases hget
        exact ⟨s.setAt, hrecorded.lastSet s hslot, hle⟩
      · rw [LruMap.get_of_not_le hslot hle] at hget
        cases hget
  · rintro ⟨setAt, hset, hle⟩
    rcases hrecorded.slot_or_expired value setAt hset with ⟨s, hslot, rfl, rfl⟩ | ⟨c, hc, hexpired⟩
    · rw [LruMap.get_of_le hslot hle]
    · exact absurd ((hexpired.trans_le (hnow c hc)).trans_le hle) (lt_irrefl _)

/-- A `set` evicts nothing, or the first key. -/
theorem Implements.evicted_cases (h : Implements ttlMs maxSize cache r) (hmax : 1 ≤ maxSize)
    (key : String) (value : ν) (now : Time) : cache.evicted key value now = [] ∨
      ∃ old later, cache.map.keys = old :: later ∧ cache.evicted key value now = [old] := by
  obtain ⟨-, rfl, -, hsize⟩ := h
  by_cases hroom : (cache.map.delete key).size < cache.maxSize
  · refine .inl (List.eq_nil_iff_forall_not_mem.mpr fun old hold ↦ ?_)
    obtain ⟨hmem, hnot⟩ := mem_evicted_iff.mp hold
    rw [OrderedMap.mem_keys_iff] at hmem hnot
    rw [TtlCache.set, OrderedMap.evict_of_lt hroom, OrderedMap.has_set,
      OrderedMap.has_delete] at hnot
    by_cases hkey : old = key
    · exact hnot (.inr hkey)
    · exact hnot (.inl ⟨hkey, hmem⟩)
  · -- the key has not made room by its own entry, so it had none
    have hnone : cache.map.get? key = none := by
      cases hget : cache.map.get? key with
      | none => rfl
      | some entry => exact absurd ((OrderedMap.size_delete_lt hget).trans_le hsize) hroom
    have hdelete := OrderedMap.delete_of_get?_eq_none hnone
    rw [hdelete] at hroom
    have hfull : cache.map.size = cache.maxSize := hsize.antisymm (not_lt.mp hroom)
    obtain ⟨old, later, hkeys⟩ := OrderedMap.exists_keys_eq_cons (hfull.symm ▸ hmax)
    have hset : ∀ k, (cache.set key value now).map.has k = true ↔
        (k ≠ old ∧ cache.map.has k = true) ∨ k = key := by
      intro k
      rw [TtlCache.set, hdelete, OrderedMap.evict_eq_delete hkeys hfull, OrderedMap.has_set,
        OrderedMap.has_delete]
    have hnodup := cache.map.nodup
    rw [← OrderedMap.keys, hkeys, List.nodup_cons] at hnodup
    have hstored : ∀ k ∈ old :: later, cache.map.has k = true := fun k hk ↦
      (cache.map.mem_keys_iff).mp (hkeys ▸ hk)
    have hold : ¬(cache.set key value now).map.has old = true := by
      rw [hset]
      rintro (⟨hne, -⟩ | rfl)
      · exact hne rfl
      · have hhas := hstored old List.mem_cons_self
        rw [OrderedMap.has, hnone] at hhas
        cases hhas
    have hlater : ∀ k ∈ later, (cache.set key value now).map.has k = true := by
      intro k hk
      refine (hset k).mpr (.inl ⟨?_, hstored k (List.mem_cons_of_mem _ hk)⟩)
      rintro rfl
      exact hnodup.1 hk
    refine .inr ⟨old, later, hkeys, ?_⟩
    rw [evicted, hkeys, List.filter_cons_of_pos (by simpa using hold), List.cons.injEq,
      List.filter_eq_nil_iff]
    exact ⟨rfl, fun k hk ↦ by simpa using hlater k hk⟩

/-- The first key is the least recently used one. -/
theorem leastRecentlyUsed_of_keys (hmax : 1 ≤ maxSize) {old : String} {later : List String}
    (hkeys : (after ttlMs maxSize calls).map.keys = old :: later) :
    LeastRecentlyUsed ttlMs maxSize calls old := by
  have himplements : Implements ttlMs maxSize (after ttlMs maxSize calls)
      (lruAfter ttlMs maxSize calls) := implements_after hmax calls
  have hpairwise := himplements.refines.pairwise
  rw [hkeys, List.pairwise_cons] at hpairwise
  have hmem : old ∈ (after ttlMs maxSize calls).map.keys := hkeys ▸ List.mem_cons_self
  refine ⟨hmem, fun other hother hne ↦ ?_⟩
  obtain ⟨s, hs⟩ := (himplements.mem_keys_iff old).mp hmem
  obtain ⟨s', hs'⟩ := (himplements.mem_keys_iff other).mp hother
  rw [hkeys, List.mem_cons] at hother
  have hbefore := hpairwise.1 other (hother.resolve_left hne) s s' hs hs'
  refine ⟨s'.usedAt, (recorded_lruAfter hmax calls other).usedAt s' hs', fun j hj ↦ ?_⟩
  exact ((recorded_lruAfter hmax calls old).le_usedAt s j hs hj).trans_lt hbefore

end

end TtlCache

/-- **A cache is a least recently used map.** After any calls, the same keys are stored, and a `get`
returns the same. That is the value of the last `set`, where the key has been neither cleared nor
evicted since and the value has not expired. A `set` evicts nothing, or the one key that was used
least recently; and there are at most `maxSize` entries. -/
theorem ttlCache_refines_lru {ν : Type*} {ttlMs : Time} {maxSize : ℕ} (hmax : 1 ≤ maxSize)
    (calls : List (TtlCall ν)) :
    (∀ key, key ∈ (TtlCache.after ttlMs maxSize calls).map.keys ↔
      key ∈ (lruAfter ttlMs maxSize calls).stored) ∧
    (∀ key now, ((TtlCache.after ttlMs maxSize calls).get key now).1
      = ((lruAfter ttlMs maxSize calls).get ttlMs key now).1) ∧
    (∀ key now value, (∀ c ∈ calls, c.now ≤ now) →
      (((TtlCache.after ttlMs maxSize calls).get key now).1 = some value ↔
        ∃ setAt, TtlCache.LastSet ttlMs maxSize calls key value setAt ∧ now ≤ setAt + ttlMs)) ∧
    (∀ key value now, (TtlCache.after ttlMs maxSize calls).evicted key value now = [] ∨
      ∃ old, (TtlCache.after ttlMs maxSize calls).evicted key value now = [old] ∧
        TtlCache.LeastRecentlyUsed ttlMs maxSize calls old) ∧
    (TtlCache.after ttlMs maxSize calls).size ≤ maxSize := by
  have himplements : TtlCache.Implements ttlMs maxSize (TtlCache.after ttlMs maxSize calls)
      (lruAfter ttlMs maxSize calls) := TtlCache.implements_after hmax calls
  refine ⟨fun key ↦ himplements.refines.mem_keys_iff, fun key now ↦ (himplements.get key now).1,
    fun key now value hnow ↦ TtlCache.get_eq_some_iff hmax hnow, fun key value now ↦ ?_,
    himplements.size_le⟩
  rcases himplements.evicted_cases hmax key value now with hnone | ⟨old, later, hkeys, hevicted⟩
  · exact .inl hnone
  · exact .inr ⟨old, hevicted, TtlCache.leastRecentlyUsed_of_keys hmax hkeys⟩

/-- Two keys, of which the first is read again: a third one evicts the second. -/
theorem ttlCache_refines_lru_twoKeys :
    TtlCache.LeastRecentlyUsed 60000 2
      [⟨.set "east" 1, 0⟩, ⟨.set "west" 2, 1⟩, ⟨.get "east", 2⟩] "west" := by
  have hevicted : (TtlCache.after 60000 2
      [⟨.set "east" 1, 0⟩, ⟨.set "west" 2, 1⟩, ⟨.get "east", 2⟩]).evicted "north" 3 3
        = ["west"] := by
    decide +kernel
  obtain ⟨-, -, -, hset, -⟩ := ttlCache_refines_lru one_le_two
    [⟨.set "east" 1, 0⟩, ⟨.set "west" 2, 1⟩, ⟨.get "east", 2⟩]
  rcases hset "north" 3 3 with hnone | ⟨old, hold, hleast⟩
  · cases hevicted.symm.trans hnone
  · cases hevicted.symm.trans hold
    exact hleast

end RwServer
