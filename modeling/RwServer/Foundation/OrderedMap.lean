import Mathlib

/-!
# Insertion-ordered maps

A finite map that remembers the order in which its keys came in, as the `Map` of ECMAScript does:
setting a key that is there keeps its place, setting a new one puts it last, and the first entry is
the oldest. That no key occurs twice is a field of the map, so every map that can be built is one.

Eviction takes the oldest entries away until fewer than a given number are left. What it can do to a
lookup is said once, in `get?_evict`: the value stays or the key is gone.
-/

/-- A finite map with its entries in the order their keys came in. -/
structure OrderedMap (κ ν : Type*) where
  entries : List (κ × ν)
  nodup : (entries.map Prod.fst).Nodup

namespace OrderedMap

variable {κ ν : Type*}

/-- The map without entries. -/
def empty : OrderedMap κ ν := ⟨[], by simp⟩

/-- How many entries there are. -/
def size (m : OrderedMap κ ν) : ℕ := m.entries.length

/-- The keys, oldest first. -/
def keys (m : OrderedMap κ ν) : List κ := m.entries.map Prod.fst

theorem length_keys (m : OrderedMap κ ν) : m.keys.length = m.size := List.length_map _

theorem exists_keys_eq_cons {m : OrderedMap κ ν} (h : 0 < m.size) : ∃ k ks, m.keys = k :: ks :=
  List.exists_cons_of_length_pos (m.length_keys.symm ▸ h)

/-! ## Dropping the oldest entries -/

/-- Drop entries from the front while there are at least `limit` of them. -/
def evictEntries (limit : ℕ) : List (κ × ν) → List (κ × ν)
  | [] => []
  | e :: rest => if limit ≤ rest.length + 1 then evictEntries limit rest else e :: rest

theorem evictEntries_suffix (limit : ℕ) (entries : List (κ × ν)) :
    evictEntries limit entries <:+ entries := by
  induction entries with
  | nil => exact List.suffix_refl _
  | cons e rest ih =>
    rw [evictEntries]
    split
    · exact ih.trans (List.suffix_cons e rest)
    · exact List.suffix_refl _

/-- Drop the oldest entries while there are at least `limit` of them. -/
def evict (limit : ℕ) (m : OrderedMap κ ν) : OrderedMap κ ν where
  entries := evictEntries limit m.entries
  nodup := m.nodup.sublist ((evictEntries_suffix limit m.entries).sublist.map _)

/-- Fewer than `limit` entries are left, or none. -/
theorem size_evict (limit : ℕ) (m : OrderedMap κ ν) :
    (m.evict limit).size < limit ∨ (m.evict limit).size = 0 := by
  have hlist : ∀ entries : List (κ × ν), (evictEntries limit entries).length < limit ∨
      (evictEntries limit entries).length = 0 := by
    intro entries
    induction entries with
    | nil => exact Or.inr rfl
    | cons e rest ih =>
      rw [evictEntries]
      split
      · exact ih
      · rename_i hlt
        exact Or.inl (by simpa using hlt)
  exact hlist m.entries

/-- Where there is room, nothing is evicted. -/
theorem evict_of_lt {limit : ℕ} {m : OrderedMap κ ν} (h : m.size < limit) : m.evict limit = m := by
  obtain ⟨entries, hnodup⟩ := m
  rw [evict, mk.injEq]
  cases entries with
  | nil => rfl
  | cons e rest =>
    have hlt : rest.length + 1 < limit := h
    rw [evictEntries, if_neg (Nat.not_le.mpr hlt)]

variable [DecidableEq κ]

/-! ## Lookups -/

/-- The value at a key. -/
def get? (m : OrderedMap κ ν) (k : κ) : Option ν := m.entries.lookup k

/-- Whether a key has a value. -/
def has (m : OrderedMap κ ν) (k : κ) : Bool := (m.get? k).isSome

@[simp] theorem get?_empty (k : κ) : (empty : OrderedMap κ ν).get? k = none := rfl

@[simp] theorem has_empty (k : κ) : (empty : OrderedMap κ ν).has k = false := rfl

/-- Among distinct keys the entry of a key is its value. -/
theorem get?_eq_some_iff (m : OrderedMap κ ν) {k : κ} {v : ν} :
    m.get? k = some v ↔ (k, v) ∈ m.entries := by
  obtain ⟨entries, hnodup⟩ := m
  rw [get?]
  induction entries with
  | nil => simp
  | cons e rest ih =>
    rw [List.map_cons, List.nodup_cons] at hnodup
    have hih := ih hnodup.2
    rw [List.lookup_cons, List.mem_cons]
    by_cases hk : k = e.1
    · subst hk
      have hnot : (e.1, v) ∉ rest := fun h ↦ hnodup.1 (List.mem_map.mpr ⟨_, h, rfl⟩)
      simp only [beq_self_eq_true, Option.some.injEq]
      constructor
      · rintro rfl
        exact Or.inl rfl
      · rintro (h | h)
        · exact (congrArg Prod.snd h).symm
        · exact absurd h hnot
    · have hne : (k == e.1) = false := by simpa using hk
      rw [hne]
      have hfst : (k, v) ≠ e := fun h ↦ hk (congrArg Prod.fst h)
      simpa [hfst] using hih

theorem mem_keys_iff (m : OrderedMap κ ν) {k : κ} : k ∈ m.keys ↔ m.has k = true := by
  rw [keys, List.mem_map, has, Option.isSome_iff_exists]
  constructor
  · rintro ⟨⟨k, v⟩, hentry, rfl⟩
    exact ⟨v, (get?_eq_some_iff m).mpr hentry⟩
  · rintro ⟨v, hv⟩
    exact ⟨(k, v), (get?_eq_some_iff m).mp hv, rfl⟩

/-- **What eviction does to a lookup.** The value stays or the key is gone. -/
theorem get?_evict (limit : ℕ) (m : OrderedMap κ ν) (k : κ) :
    (m.evict limit).get? k = m.get? k ∨ (m.evict limit).get? k = none := by
  cases hget : (m.evict limit).get? k with
  | none => exact Or.inr rfl
  | some v =>
    have hmem := (get?_eq_some_iff _).mp hget
    have hmem' := (evictEntries_suffix limit m.entries).subset hmem
    exact Or.inl ((get?_eq_some_iff m).mpr hmem').symm

/-! ## Setting a key -/

/-- Replace the value at a key in place, or put a new entry last. -/
def setEntries (k : κ) (v : ν) : List (κ × ν) → List (κ × ν)
  | [] => [(k, v)]
  | e :: rest => if e.1 = k then (k, v) :: rest else e :: setEntries k v rest

theorem setEntries_keys (k : κ) (v : ν) (entries : List (κ × ν)) :
    (setEntries k v entries).map Prod.fst
      = if k ∈ entries.map Prod.fst then entries.map Prod.fst
        else entries.map Prod.fst ++ [k] := by
  induction entries with
  | nil => simp [setEntries]
  | cons e rest ih =>
    rw [setEntries]
    split
    · rename_i hk
      simp [hk]
    · rename_i hk
      have hk' : ¬ k = e.1 := fun h ↦ hk h.symm
      rw [List.map_cons, ih]
      simp only [List.map_cons, List.mem_cons, hk', false_or]
      split <;> simp

/-- Set the value at a key. -/
def set (m : OrderedMap κ ν) (k : κ) (v : ν) : OrderedMap κ ν where
  entries := setEntries k v m.entries
  nodup := by
    rw [setEntries_keys]
    split
    · exact m.nodup
    · rename_i hk
      exact List.nodup_append.mpr ⟨m.nodup, by simp, by
        intro a ha b hb
        rw [List.mem_singleton] at hb
        rintro rfl
        exact hk (hb ▸ ha)⟩

@[simp] theorem get?_set_self (m : OrderedMap κ ν) (k : κ) (v : ν) :
    (m.set k v).get? k = some v := by
  have hlist : ∀ entries : List (κ × ν), (setEntries k v entries).lookup k = some v := by
    intro entries
    induction entries with
    | nil => simp [setEntries]
    | cons e rest ih =>
      rw [setEntries]
      split
      · simp
      · rename_i hk
        have hne : (k == e.1) = false := by simpa using fun h ↦ hk h.symm
        rw [List.lookup_cons, hne]
        exact ih
  exact hlist m.entries

@[simp] theorem get?_set_of_ne (m : OrderedMap κ ν) {k k' : κ} (v : ν) (hne : k' ≠ k) :
    (m.set k v).get? k' = m.get? k' := by
  have hlist : ∀ entries : List (κ × ν),
      (setEntries k v entries).lookup k' = entries.lookup k' := by
    intro entries
    induction entries with
    | nil => simp [setEntries, hne]
    | cons e rest ih =>
      rw [setEntries]
      split
      · rename_i hk
        have hne' : (k' == e.1) = false := by simpa [hk] using hne
        rw [List.lookup_cons, List.lookup_cons, hne', beq_eq_false_iff_ne.mpr hne]
      · rw [List.lookup_cons, List.lookup_cons, ih]
  exact hlist m.entries

/-- Setting one key, read at any. -/
theorem get?_set (m : OrderedMap κ ν) (k k' : κ) (v : ν) :
    (m.set k v).get? k' = if k' = k then some v else m.get? k' := by
  split
  · rename_i h
    rw [h, get?_set_self]
  · rename_i h
    exact get?_set_of_ne m v h

/-- A new key comes last. -/
theorem keys_set_of_get?_eq_none {m : OrderedMap κ ν} {k : κ} (h : m.get? k = none) (v : ν) :
    (m.set k v).keys = m.keys ++ [k] := by
  have hnot : k ∉ m.keys := by
    rw [mem_keys_iff, has, h]
    exact Bool.false_ne_true
  exact (setEntries_keys k v m.entries).trans (if_neg hnot)

/-- A key that is there is not counted again. -/
theorem size_set (m : OrderedMap κ ν) (k : κ) (v : ν) :
    (m.set k v).size = if m.has k = true then m.size else m.size + 1 := by
  have hkeys := congrArg List.length (setEntries_keys k v m.entries)
  rw [List.length_map] at hkeys
  refine hkeys.trans ?_
  by_cases hk : k ∈ m.keys
  · rw [if_pos ((mem_keys_iff m).mp hk)]
    exact (congrArg List.length (if_pos hk)).trans (List.length_map _)
  · rw [if_neg (mt (mem_keys_iff m).mpr hk)]
    refine (congrArg List.length (if_neg hk)).trans ?_
    rw [List.length_append, List.length_map, List.length_singleton, size]

theorem size_set_of_get?_eq_none {m : OrderedMap κ ν} {k : κ} (h : m.get? k = none) (v : ν) :
    (m.set k v).size = m.size + 1 := by
  rw [size_set, has, h]
  exact if_neg Bool.false_ne_true

/-! ## Deleting a key -/

/-- Take the entry of a key away. -/
def delete (m : OrderedMap κ ν) (k : κ) : OrderedMap κ ν where
  entries := m.entries.filter fun e ↦ decide (e.1 ≠ k)
  nodup := m.nodup.sublist (List.filter_sublist.map _)

theorem keys_delete (m : OrderedMap κ ν) (k : κ) :
    (m.delete k).keys = m.keys.filter fun k' ↦ decide (k' ≠ k) := by
  rw [keys, keys, delete, List.filter_map]
  rfl

/-- Deleting one key, read at any. -/
theorem get?_delete (m : OrderedMap κ ν) (k k' : κ) :
    (m.delete k).get? k' = if k' = k then none else m.get? k' := by
  refine Option.ext fun v ↦ ?_
  rw [get?_eq_some_iff, delete, List.mem_filter, decide_eq_true_iff]
  split_ifs with hk
  · simp [hk]
  · rw [get?_eq_some_iff]
    exact and_iff_left hk

/-- Deleting a key that is not there changes nothing. -/
theorem delete_of_get?_eq_none {m : OrderedMap κ ν} {k : κ} (h : m.get? k = none) :
    m.delete k = m := by
  obtain ⟨entries, hnodup⟩ := m
  rw [delete, mk.injEq, List.filter_eq_self]
  rintro ⟨k', v⟩ hentry
  refine decide_eq_true fun hk ↦ ?_
  subst hk
  cases h.symm.trans ((get?_eq_some_iff _).mpr hentry)

theorem size_delete_le (m : OrderedMap κ ν) (k : κ) : (m.delete k).size ≤ m.size :=
  List.length_filter_le _ _

/-- Deleting a key that is there makes room. -/
theorem size_delete_lt {m : OrderedMap κ ν} {k : κ} {v : ν} (h : m.get? k = some v) :
    (m.delete k).size < m.size := by
  refine List.length_filter_lt_length_iff_exists.mpr ⟨(k, v), (get?_eq_some_iff m).mp h, ?_⟩
  simp

/-- **A map that is just full loses its oldest key.** -/
theorem evict_eq_delete {limit : ℕ} {m : OrderedMap κ ν} {k : κ} {ks : List κ}
    (hkeys : m.keys = k :: ks) (hsize : m.size = limit) : m.evict limit = m.delete k := by
  obtain ⟨entries, hnodup⟩ := m
  rw [evict, delete, mk.injEq]
  cases entries with
  | nil => cases hkeys
  | cons e rest =>
    obtain ⟨rfl, -⟩ := List.cons.inj hkeys
    have hlength : rest.length + 1 = limit := hsize
    rw [List.map_cons, List.nodup_cons] at hnodup
    have hrest : rest.filter (fun e' ↦ decide (e'.1 ≠ e.1)) = rest := by
      refine List.filter_eq_self.mpr fun e' he' ↦ decide_eq_true fun heq ↦ hnodup.1 ?_
      exact heq ▸ List.mem_map_of_mem he'
    rw [evictEntries, if_pos hlength.ge, List.filter_cons_of_neg (by simp), hrest]
    cases rest with
    | nil => rfl
    | cons e' rest' =>
      have hlt : rest'.length + 1 < limit := by
        rw [← hlength]
        exact Nat.lt_succ_self _
      rw [evictEntries, if_neg (Nat.not_le.mpr hlt)]

/-! ## Sets -/

theorem has_set (m : OrderedMap κ ν) (k k' : κ) (v : ν) :
    (m.set k v).has k' = true ↔ m.has k' = true ∨ k' = k := by
  rw [has, has, get?_set]
  split_ifs with hk <;> simp [hk]

theorem has_delete (m : OrderedMap κ ν) (k k' : κ) :
    (m.delete k).has k' = true ↔ k' ≠ k ∧ m.has k' = true := by
  rw [has, has, get?_delete]
  split_ifs with hk <;> simp [hk]

/-- Put keys into a set, which is a map without values. -/
def insertAll (s : OrderedMap κ Unit) (ks : List κ) : OrderedMap κ Unit :=
  ks.foldl (fun s k ↦ s.set k ()) s

theorem has_insertAll (s : OrderedMap κ Unit) (ks : List κ) (k : κ) :
    (s.insertAll ks).has k = true ↔ s.has k = true ∨ k ∈ ks := by
  induction ks generalizing s with
  | nil => simp [insertAll]
  | cons x ks ih =>
    have hcons : s.insertAll (x :: ks) = (s.set x ()).insertAll ks := rfl
    rw [hcons, ih, has_set, List.mem_cons, or_assoc]

end OrderedMap
